import PinkGlasses.Store.Asset
import PinkGlasses.Store.Run

/-!
# PinkGlasses.Store.Target

The statements a company's targets are edited with: `internal/store/targetgroup.go`, and
`AddTarget`, `GetTarget` and `UpdateTarget` of `scope.go`.

* A target belongs to a group, and `scope_target` is unique on (group, kind, value): `AddTarget`
  inserts a row or **overwrites the mode, tags and authorization** of the one that is there.
* `SetGroupTargets` writes one mode, one list of tags and one authorization over every entry of a
  group.
* `target_group` is unique on (scope, name).
* `UpdateTarget` writes all editable columns of one row.

A statement fails on a text with a NUL character, and `AddTarget` without the group it names. Who
authorizes is the name of an account, read from the database, so it can be stored.
-/

namespace PinkGlasses

/-- What `RenameTargetGroup` answers: whether there was a row to rename, or `ErrGroupExists`. -/
inductive Renamed
  | rows (any : Bool)
  | groupExists
deriving Repr, DecidableEq

/-- What `UpdateTarget` answers: the row, none, or `ErrTargetExists`. -/
inductive TargetUpdated
  | target (t : ScopeTarget)
  | noRows
  | targetExists
deriving Repr, DecidableEq

/-- The columns `UpdateTarget` sets. -/
structure TargetColumns where
  kind : TargetKind
  value : String
  mode : TargetMode
  tags : List String
  authorizedBy : Option String
  authorizedAt : Option Time
deriving Repr, DecidableEq

/-- They are set. -/
def TargetColumns.apply (cols : TargetColumns) (t : ScopeTarget) : ScopeTarget :=
  { t with
    kind := cols.kind, value := cols.value, mode := cols.mode, tags := cols.tags
    authorizedBy := cols.authorizedBy, authorizedAt := cols.authorizedAt }

namespace Store

/-- The target, if the company has it. -/
def findTarget (scopeID id : UUID) (db : DB) : Option ScopeTarget :=
  db.scopeTargets.rows.find? fun t => t.id == id && t.scopeID == scopeID

/-- The group, if the company has it. -/
def findGroup (scopeID id : UUID) (db : DB) : Option TargetGroup :=
  db.targetGroups.rows.find? fun g => g.id == id && g.scopeID == scopeID

theorem findTarget_some {scopeID id : UUID} {db : DB} {t : ScopeTarget}
    (h : findTarget scopeID id db = some t) :
    t ∈ db.scopeTargets.rows ∧ t.id = id ∧ t.scopeID = scopeID :=
  ⟨List.mem_of_find?_eq_some h, by simpa using List.find?_some h⟩

theorem findGroup_some {scopeID id : UUID} {db : DB} {g : TargetGroup}
    (h : findGroup scopeID id db = some g) :
    g ∈ db.targetGroups.rows ∧ g.id = id ∧ g.scopeID = scopeID :=
  ⟨List.mem_of_find?_eq_some h, by simpa using List.find?_some h⟩

/-- Another group of the company has the name. -/
def nameTaken (scopeID id : UUID) (name : String) (db : DB) : Bool :=
  db.targetGroups.rows.any fun g => g.id != id && g.scopeID == scopeID && g.name == name

/-- The row is of the same group, kind and value: `ON CONFLICT (group_id, kind, value)`. -/
def sameEntry (t r : ScopeTarget) : Bool :=
  r.groupID == t.groupID && r.kind == t.kind && r.value == t.value

/-- The columns `AddTarget` sets of a row that is there. -/
def overwriteTarget (t r : ScopeTarget) : ScopeTarget :=
  { r with
    tags := t.tags, mode := t.mode, authorizedBy := t.authorizedBy, authorizedAt := t.authorizedAt }

/-- `AddTarget`: the identifier of the row, and what becomes of the table. -/
def upsertTarget (t : ScopeTarget) (ts : Lib.Table ScopeTarget ScopeTarget.id) :
    UUID × Lib.Table ScopeTarget ScopeTarget.id :=
  match ts.keyOf (sameEntry t) with
  | some id => (id, ts.update (sameEntry t) (overwriteTarget t))
  | none => (ts.next, ts.insert fun id => { t with id })

end Store

open Store

/-- The statements on targets and their groups. -/
inductive TargetStmt : Type → Type
  /-- The first query of `GetTargetGroup`. -/
  | targetGroup (scopeID id : UUID) : TargetStmt (Option TargetGroup)
  | listTargets (scopeID : UUID) (tag : String) : TargetStmt (List ScopeTarget)
  | ensureTargetGroup (scopeID : UUID) (name : String) : TargetStmt UUID
  | renameTargetGroup (scopeID id : UUID) (name : String) : TargetStmt Renamed
  | deleteGroupTargetsNotIn (groupID : UUID) (keep : List String) : TargetStmt Nat
  | addTarget (t : ScopeTarget) : TargetStmt UUID
  | setGroupTargets (groupID : UUID) (mode : TargetMode) (tags : List String)
      (authBy : Option String) (authAt : Option Time) : TargetStmt Unit
  | getTarget (scopeID id : UUID) : TargetStmt (Option ScopeTarget)
  | updateTarget (scopeID id : UUID) (cols : TargetColumns) : TargetStmt TargetUpdated

namespace TargetStmt

variable {β : Type}

/-- What a statement answers and does. -/
def exec (db : DB) : TargetStmt β → Option (β × DB)
  | targetGroup scopeID id => some (findGroup scopeID id db, db)
  | listTargets scopeID tag => some (Store.listTargets scopeID tag db, db)
  | ensureTargetGroup scopeID name =>
    if storable name then
      match db.targetGroups.keyOf fun g => g.scopeID == scopeID && g.name == name with
      | some id => some (id, db)
      | none => some (db.targetGroups.next, { db with
          targetGroups := db.targetGroups.insert fun id => { id, scopeID, name } })
    else none
  | renameTargetGroup scopeID id name =>
    if storable name then
      let found := (findGroup scopeID id db).isSome
      -- the unique violation of an `UPDATE` that has a row to write
      if found && nameTaken scopeID id name db then some (.groupExists, db)
      else some (.rows found, { db with
        targetGroups := db.targetGroups.update (fun g => g.id == id && g.scopeID == scopeID)
          fun g => { g with name } })
    else none
  | deleteGroupTargetsNotIn groupID keep =>
    if keep.all storable then
      some (db.scopeTargets.rows.countP fun t =>
        t.groupID == some groupID && !keep.contains t.value,
        { db with
          scopeTargets := db.scopeTargets.delete fun t =>
            t.groupID == some groupID && !keep.contains t.value })
    else none
  | addTarget t =>
    if storable t.value && t.tags.all storable &&
        t.groupID.any fun g => (db.targetGroups.find? g).isSome then
      some ((upsertTarget t db.scopeTargets).1,
        { db with scopeTargets := (upsertTarget t db.scopeTargets).2 })
    else none
  | setGroupTargets groupID mode tags authBy authAt =>
    if tags.all storable then
      some ((), { db with
        scopeTargets := db.scopeTargets.update (·.groupID == some groupID)
          fun t => { t with mode, tags, authorizedBy := authBy, authorizedAt := authAt } })
    else none
  | getTarget scopeID id => some (findTarget scopeID id db, db)
  | updateTarget scopeID id cols =>
    if storable cols.value && cols.tags.all storable then
      match findTarget scopeID id db with
      | none => some (.noRows, db)
      | some t =>
        -- another entry of the group has the kind and the value
        if db.scopeTargets.rows.any fun r => r.id != id && sameEntry (cols.apply t) r then
          some (.targetExists, db)
        else some (.target (cols.apply t), { db with
          scopeTargets := db.scopeTargets.update (fun t => t.id == id && t.scopeID == scopeID)
            cols.apply })
    else none

end TargetStmt

/-! ### What becomes of the rows -/

namespace Store

variable {ts : Lib.Table ScopeTarget ScopeTarget.id} {t r : ScopeTarget}

theorem sameEntry_iff : sameEntry t r = true ↔ r.groupID = t.groupID ∧ r.entry = t.entry := by
  simp [sameEntry, ScopeTarget.entry, and_assoc]

theorem upsertTarget_found (h : ∃ r ∈ ts.rows, sameEntry t r = true) :
    (upsertTarget t ts).2 = ts.update (sameEntry t) (overwriteTarget t)
    (by exact fun _ => rfl) := by
  obtain ⟨r, hr⟩ := Option.isSome_iff_exists.mp (List.find?_isSome.mpr h)
  simp only [upsertTarget, Lib.Table.keyOf, hr, Option.map_some]

theorem upsertTarget_new (h : ¬∃ r ∈ ts.rows, sameEntry t r = true) :
    (upsertTarget t ts).2 = ts.insert (fun id => { t with id }) (by exact fun _ => rfl) := by
  have hnone : ts.rows.find? (sameEntry t) = none :=
    List.find?_eq_none.mpr fun r hr hsame => h ⟨r, hr, hsame⟩
  simp only [upsertTarget, Lib.Table.keyOf, hnone, Option.map_none]

/-- A row after `AddTarget` is one of the entry, overwritten, or another's, or the new one. -/
theorem mem_upsertTarget : r ∈ (upsertTarget t ts).2.rows ↔
    (∃ r₀ ∈ ts.rows, sameEntry t r₀ = true ∧ r = overwriteTarget t r₀) ∨
      (r ∈ ts.rows ∧ sameEntry t r = false) ∨
      ((∀ r₀ ∈ ts.rows, sameEntry t r₀ = false) ∧ r = { t with id := ts.next }) := by
  by_cases hfound : ∃ r ∈ ts.rows, sameEntry t r = true
  · rw [upsertTarget_found hfound]
    refine Lib.Table.mem_update.trans ?_
    grind
  · rw [upsertTarget_new hfound]
    refine Lib.Table.mem_insert.trans ?_
    grind

theorem exists_mem_upsertTarget (t : ScopeTarget) (hr : r ∈ ts.rows) :
    ∃ r' ∈ (upsertTarget t ts).2.rows, r'.groupID = r.groupID ∧ r'.entry = r.entry := by
  cases hsame : sameEntry t r with
  | true => exact ⟨_, mem_upsertTarget.mpr (.inl ⟨r, hr, hsame, rfl⟩), rfl, rfl⟩
  | false => exact ⟨r, mem_upsertTarget.mpr (.inr (.inl ⟨hr, hsame⟩)), rfl, rfl⟩

end Store

end PinkGlasses
