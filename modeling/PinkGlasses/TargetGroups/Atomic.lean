import PinkGlasses.Atomic
import PinkGlasses.TargetGroups.Exclude
import PinkGlasses.Targets

/-!
# PinkGlasses.TargetGroups.Atomic

**When `patchTargetGroup` is all or nothing**, whatever fails.

The handler writes one statement after the other, outside a transaction, and reads the group back at
the end. Each of these statements can fail, the last reading included, and then the reply is an
error: so the promise is kept exactly if every write that is carried out finds its effect in place
(`patchTargetGroup_allOrNothing_iff`).

`addTargetValues` is shared with `addTarget`. Its rule, `allEnds_addTargetValues`, asks that of
every value **but the last**, after which the loop itself cannot fail.
-/

namespace PinkGlasses

open Lib Lib.System Store Handler Table

/-- The groups and the targets are the same. -/
structure SameTargets (db db' : DB) : Prop where
  groups : db'.targetGroups.rows = db.targetGroups.rows
  targets : db'.scopeTargets.rows = db.scopeTargets.rows

theorem SameTargets.refl (db : DB) : SameTargets db db := ⟨rfl, rfl⟩

/-- An entry is there that has the columns the target would be stored with. -/
structure InPlace (db : DB) (t : ScopeTarget) : Prop where
  found : ∃ r ∈ db.scopeTargets.rows, sameEntry t r = true
  same : ∀ r ∈ db.scopeTargets.rows, sameEntry t r = true → overwriteTarget t r = r

/-- The database with the target stored. -/
def stored (db : DB) (t : ScopeTarget) : DB :=
  { db with scopeTargets := (upsertTarget t db.scopeTargets).2 }

/-- The target can be stored: its texts can, and its group is there. -/
def storableTarget (db : DB) (t : ScopeTarget) : Bool :=
  storable t.value && t.tags.all storable && t.groupID.any fun g => (db.targetGroups.find? g).isSome

/-- The group of that name. -/
def groupNamed (scopeID : UUID) (name : String) (db : DB) : Option UUID :=
  db.targetGroups.keyOf fun g => g.scopeID == scopeID && g.name == name

/-! ### Statements that find their effect in place -/

section Statements

variable {db db' : DB} {t : ScopeTarget}

theorem exec_addTarget : (TargetStmt.addTarget t).exec db =
    if storableTarget db t then some ((upsertTarget t db.scopeTargets).1, stored db t) else none :=
      rfl

theorem stored_eq_self (h : InPlace db t) : stored db t = db := by
  have hsame : (upsertTarget t db.scopeTargets).2 = db.scopeTargets := by
    rw [upsertTarget_found h.found]
    exact update_eq_self h.same
  rw [stored, hsame]

theorem inPlace_of_stored (h : SameTargets db (stored db t)) : InPlace db t := by
  have hrows : (upsertTarget t db.scopeTargets).2.rows = db.scopeTargets.rows := h.targets
  by_cases hfound : ∃ r ∈ db.scopeTargets.rows, sameEntry t r = true
  · rw [upsertTarget_found hfound] at hrows
    exact ⟨hfound, rows_update_eq_iff.mp hrows⟩
  · rw [upsertTarget_new hfound] at hrows
    exact absurd hrows (rows_insert_ne _ _ _)

/-- What asks for the targets as they were holds after storing one exactly if that is in place. -/
theorem stored_iff {K : DB → Prop} (hK : ∀ st, K st → SameTargets db st) :
    K (stored db t) ↔ InPlace db t ∧ K db := by
  constructor
  · intro h
    have hplace := inPlace_of_stored (hK _ h)
    rw [stored_eq_self hplace] at h
    exact ⟨hplace, h⟩
  · rintro ⟨hplace, h⟩
    rw [stored_eq_self hplace]
    exact h

/-- The database with the columns of every entry of a group set. -/
def groupSet (db : DB) (id : UUID) (mode : TargetMode) (tags : List String) (authBy : Option String)
    (authAt : Option Time) : DB :=
  { db with
    scopeTargets := db.scopeTargets.update (·.groupID == some id)
      (fun t => { t with mode, tags, authorizedBy := authBy, authorizedAt := authAt })
      fun t => (rfl : t.id = t.id) }

/-- Every entry of the group has these columns. -/
def HaveColumns (db : DB) (id : UUID) (mode : TargetMode) (tags : List String)
    (authBy : Option String)
    (authAt : Option Time) : Prop :=
  ∀ t ∈ db.scopeTargets.rows, t.groupID = some id →
    t.mode = mode ∧ t.tags = tags ∧ t.authorizedBy = authBy ∧ t.authorizedAt = authAt

variable {mode : TargetMode} {tags values : List String} {authBy : Option String}
  {authAt : Option Time} {id : UUID}

theorem setColumns_eq_self_iff :
    { t with mode, tags, authorizedBy := authBy, authorizedAt := authAt } = t ↔
      t.mode = mode ∧ t.tags = tags ∧ t.authorizedBy = authBy ∧ t.authorizedAt = authAt := by
  cases t
  simp [eq_comm]

theorem haveColumns_iff :
    HaveColumns db id mode tags authBy authAt ↔
      ∀ t ∈ db.scopeTargets.rows, (t.groupID == some id) = true →
        { t with mode, tags, authorizedBy := authBy, authorizedAt := authAt } = t := by
  simp only [HaveColumns, beq_iff_eq, setColumns_eq_self_iff]

theorem groupSet_eq_self (h : HaveColumns db id mode tags authBy authAt) :
    groupSet db id mode tags authBy authAt = db := by
  rw [groupSet, update_eq_self (haveColumns_iff.mp h)]

theorem haveColumns_of_same (h : SameTargets db (groupSet db id mode tags authBy authAt)) :
    HaveColumns db id mode tags authBy authAt := by
  have hrows := h.targets
  rw [groupSet, rows_update_eq_iff] at hrows
  exact haveColumns_iff.mpr hrows

/-- Every entry of the group has one of the values. -/
def EntriesIn (db : DB) (id : UUID) (values : List String) : Prop :=
  ∀ t ∈ db.scopeTargets.rows, t.groupID = some id → t.value ∈ values

theorem entriesIn_iff :
    EntriesIn db id values ↔
      ∀ t ∈ db.scopeTargets.rows, (t.groupID == some id && !values.contains t.value) = false := by
  refine forall_congr' fun t => imp_congr_right fun _ => ?_
  by_cases hid : t.groupID = some id <;> simp [hid]

theorem keepOnly_eq_self (h : EntriesIn db id values) : keepOnly id values db = db := by
  rw [keepOnly, delete_eq_self (entriesIn_iff.mp h)]

theorem entriesIn_of_same (h : SameTargets db (keepOnly id values db)) :
    EntriesIn db id values := by
  have hrows := h.targets
  rw [keepOnly, rows_delete_eq_iff] at hrows
  exact entriesIn_iff.mpr hrows

theorem exec_ensureTargetGroup {scopeID : UUID} {name : String} {gid : UUID}
    (hexec : (TargetStmt.ensureTargetGroup scopeID name).exec db = some (gid, db')) :
    storable name = true ∧
      ((groupNamed scopeID name db = some gid ∧ db' = db) ∨
        (groupNamed scopeID name db = none ∧ ¬SameTargets db db')) := by
  simp only [TargetStmt.exec] at hexec
  split at hexec
  · rename_i hstorable
    refine ⟨hstorable, ?_⟩
    split at hexec
    · rename_i hfound
      cases hexec
      exact .inl ⟨hfound, rfl⟩
    · rename_i hnone
      cases hexec
      exact .inr ⟨hnone, fun h => rows_insert_ne _ _ _ h.groups⟩
  · cases hexec

end Statements

/-- From `st` every end of a part of a handler keeps the promise, where the targets are those of
`db` if nothing has changed. -/
abbrev Assured {α : Type} (db : DB) (inForce next : DB → Prop) (st : DB) (x : Handler α) : Prop :=
  editSystem.AllEnds st x.run (Promise (SameTargets db) inForce next)

section Ask

variable {α β : Type} {inForce next : DB → Prop} {db st : DB}

theorem assured_throw {e : ErrorReply} (h : 400 ≤ e.status) :
    Assured db inForce next db (throw e : Handler α) :=
  allEnds_refuse h (.refl db)

theorem assured_throw_bind {e : ErrorReply} {f : α → Handler β} (h : 400 ≤ e.status) :
    Assured db inForce next db (throw e >>= f) :=
  allEnds_bind.mpr (allEnds_throw.mpr ((promise_error h).mpr (.refl db)))

/-- A statement of a handler: it can fail, and then nothing must have changed. -/
theorem allEnds_ask {s : TargetStmt β} {f : β → Handler α} :
    Assured db inForce next st (ask s >>= f) ↔
      SameTargets db st ∧ ∀ b st₁, s.exec st = some (b, st₁) →
        Assured db inForce next st₁ (f b) := by
  unfold ask Assured
  rw [allEnds_bind, allEnds_query]
  refine and_congr (promise_error (by decide)) ?_
  exact ⟨fun h b st₁ => h () b st₁, fun h _ b st₁ => h b st₁⟩

theorem allEnds_last {x : Handler α} {f : α → β} :
    Assured db inForce next st (do let a ← x; pure (f a) : Handler β) ↔
      Assured db inForce next st x :=
  allEnds_then fun _ _ => allEnds_pure

/-- A write that what follows can fail right after: it is refused, or it changes nothing. -/
theorem allEnds_write {db₁ : DB} {s : TargetStmt β} {b : β} {accepted : Bool} {f : β → Handler α}
    {P : Prop} (hexec : s.exec db = if accepted then some (b, db₁) else none)
    (hsame : SameTargets db db₁ → P) (hself : P → db₁ = db)
    (hf : ∀ st, Assured db inForce next st (f b) → SameTargets db st) :
    Assured db inForce next db (ask s >>= f) ↔
      (accepted = true → P ∧ Assured db inForce next db (f b)) := by
  rw [allEnds_ask]
  refine ⟨fun h hacc => ?_, fun h => ⟨.refl db, fun b' st₁ hs => ?_⟩⟩
  · have hrest := h.2 b db₁ (hexec.trans (if_pos hacc))
    have hP := hsame (hf db₁ hrest)
    rw [hself hP] at hrest
    exact ⟨hP, hrest⟩
  · rw [hexec] at hs
    split at hs
    · rename_i hacc
      cases hs
      obtain ⟨hP, hrest⟩ := h hacc
      rw [hself hP]
      exact hrest
    · cases hs

/-- The group must be there, unless its name is refused: making it is a change, and what follows can
fail at once. -/
theorem allEnds_ensure {scopeID : UUID} {name : String} {f : UUID → Handler α}
    (hf : ∀ st gid, Assured db inForce next st (f gid) → SameTargets db st) :
    Assured db inForce next db (ask (.ensureTargetGroup scopeID name) >>= f) ↔
      (storable name = true → ∃ gid, groupNamed scopeID name db = some gid ∧
        Assured db inForce next db (f gid)) := by
  rw [allEnds_ask]
  constructor
  · intro h hstorable
    obtain ⟨⟨gid, db'⟩, hexec⟩ : ∃ r,
      (TargetStmt.ensureTargetGroup scopeID name).exec db = some r := by
      simp only [TargetStmt.exec, hstorable, if_true]
      split <;> exact ⟨_, rfl⟩
    have hrest := h.2 gid db' hexec
    rcases (exec_ensureTargetGroup hexec).2 with ⟨hgid, rfl⟩ | ⟨-, hchanged⟩
    · exact ⟨gid, hgid, hrest⟩
    · exact absurd (hf db' gid hrest) hchanged
  · intro h
    refine ⟨.refl db, fun gid db' hexec => ?_⟩
    obtain ⟨hstorable, hcases⟩ := exec_ensureTargetGroup hexec
    obtain ⟨gid', hgid', hrest⟩ := h hstorable
    rcases hcases with ⟨hgid, rfl⟩ | ⟨hnone, -⟩
    · cases hgid.symm.trans hgid'
      exact hrest
    · cases hnone.symm.trans hgid'

end Ask

/-! ### The loop -/

/-- What `addTargetValues` is called with, besides the values. -/
structure ImportCall where
  scopeID : UUID
  groupID : Option UUID
  tags : List String
  authorize : Bool
  actor : String
  now : Time

namespace ImportCall

variable (a : ImportCall) (db : DB)

/-- The call. -/
def run (values : List String) : Handler (List ScopeTarget) :=
  addTargetValues a.scopeID a.groupID a.tags a.authorize a.actor a.now values

/-- The group a value goes to. -/
def group (v : String) : UUID := a.groupID.getD ((groupNamed a.scopeID v db).getD uuidNil)

/-- What it is stored as. -/
def entry (v : String) : ScopeTarget :=
  newTarget a.scopeID (a.group db v) a.tags a.authorize a.actor a.now v

/-- **The condition on the values**, one after the other until one is refused: the group of each is
there, and each but the last is stored already. -/
def Steady : List String → Prop
  | [] => True
  | v :: vs =>
    (a.groupID = none → storable v = true → (groupNamed a.scopeID v db).isSome = true) ∧
    (storableTarget db (a.entry db v) = true →
      (vs ≠ [] → InPlace db (a.entry db v)) ∧ Steady vs)

/-- The database with the last value stored. -/
def lastStored (values : List String) : DB :=
  match values.getLast? with
  | none => db
  | some v => stored db (a.entry db v)

variable {a db} {inForce J : DB → Prop} {st : DB} {v : String} {vs : List String}

/-- One round of the loop, once the group is known. -/
def round (a : ImportCall) (v : String) (vs : List String) (gid : UUID) :
    Handler (List ScopeTarget) := do
  let t := newTarget a.scopeID gid a.tags a.authorize a.actor a.now v
  let id ← ask (.addTarget t)
  let saved ← a.run vs
  pure ({ t with id } :: saved)

variable {gid : UUID}

theorem run_cons_some (h : a.groupID = some gid) : a.run (v :: vs) = a.round v vs gid := by
  cases a
  cases h
  rfl

theorem run_cons_none (h : a.groupID = none) :
    a.run (v :: vs) = ask (.ensureTargetGroup a.scopeID v) >>= a.round v vs := by
  cases a
  cases h
  rfl

theorem same_of_round (h : Assured db inForce J st (a.round v vs gid)) : SameTargets db st :=
  (allEnds_ask.mp h).1

theorem same_of_run (h : Assured db inForce J st (a.run (v :: vs))) : SameTargets db st := by
  cases hgroup : a.groupID with
  | some gid =>
    rw [run_cons_some hgroup] at h
    exact same_of_round h
  | none =>
    rw [run_cons_none hgroup] at h
    exact (allEnds_ask.mp h).1

theorem allEnds_round (hgid : a.group db v = gid) :
    Assured db inForce J db (a.round v vs gid) ↔
      (storableTarget db (a.entry db v) = true →
        Assured db inForce J (stored db (a.entry db v)) (a.run vs)) := by
  subst hgid
  refine allEnds_ask.trans ⟨fun h haccepted => ?_, fun h => ⟨.refl db, fun id st₁ hexec => ?_⟩⟩
  · exact allEnds_last.mp (h.2 (upsertTarget (a.entry db v) db.scopeTargets).1 _
      (exec_addTarget.trans (if_pos haccepted)))
  · refine allEnds_last.mpr ?_
    rw [exec_addTarget] at hexec
    split at hexec
    · rename_i haccepted
      cases hexec
      exact h haccepted
    · cases hexec

theorem storable_of_storableTarget (h : storableTarget db (a.entry db v) = true) :
    storable v = true := by
  rw [storableTarget, Bool.and_eq_true, Bool.and_eq_true] at h
  exact h.1.1

theorem group_of_named (hgroup : a.groupID = none) (hgid : groupNamed a.scopeID v db = some gid) :
    a.group db v = gid := by
  rw [group, hgroup, Option.getD_none, hgid, Option.getD_some]

/-- The first round of a loop that starts where nothing has changed. -/
theorem allEnds_run_cons :
    Assured db inForce J db (a.run (v :: vs)) ↔
      (a.groupID = none → storable v = true → (groupNamed a.scopeID v db).isSome = true) ∧
      (storableTarget db (a.entry db v) = true →
        Assured db inForce J (stored db (a.entry db v)) (a.run vs)) := by
  cases hgroup : a.groupID with
  | some gid =>
    have hgid : a.group db v = gid := by rw [group, hgroup, Option.getD_some]
    rw [run_cons_some hgroup, allEnds_round hgid]
    exact ⟨fun h => ⟨nofun, h⟩, fun h => h.2⟩
  | none =>
    rw [run_cons_none hgroup, allEnds_ensure fun _ _ => same_of_round]
    -- the group is there under this name, so the round is that of a known group
    have hround : ∀ gid, groupNamed a.scopeID v db = some gid →
        (Assured db inForce J db (a.round v vs gid) ↔
          (storableTarget db (a.entry db v) = true →
            Assured db inForce J (stored db (a.entry db v)) (a.run vs))) := by
      intro gid hgid
      exact allEnds_round (group_of_named hgroup hgid)
    constructor
    · intro h
      constructor
      · intro _ hstorable
        obtain ⟨gid, hgid, -⟩ := h hstorable
        rw [hgid, Option.isSome_some]
      · intro haccepted
        obtain ⟨gid, hgid, hrest⟩ := h (storable_of_storableTarget haccepted)
        exact (hround gid hgid).mp hrest haccepted
    · intro h hstorable
      obtain ⟨gid, hgid⟩ := Option.isSome_iff_exists.mp (h.1 rfl hstorable)
      exact ⟨gid, hgid, (hround gid hgid).mpr h.2⟩

theorem lastStored_cons {w : String} {ws : List String} :
    a.lastStored db (v :: w :: ws) = a.lastStored db (w :: ws) := by
  simp [lastStored, List.getLast?_cons_cons]

/-- **The loop.** It keeps the promise if it is steady, and what follows it holds where it ends. -/
theorem allEnds_run (values : List String) :
    Assured db inForce J db (a.run values) ↔
      a.Steady db values ∧
        ((∀ v ∈ values, storableTarget db (a.entry db v) = true) → J (a.lastStored db values)) := by
  induction values with
  | nil =>
    refine allEnds_pure.trans ⟨fun h => ⟨trivial, fun _ => h⟩, fun h => h.2 (List.forall_mem_nil _)⟩
  | cons v vs ih =>
    rw [allEnds_run_cons]
    cases vs with
    | nil =>
      have hlast : a.lastStored db [v] = stored db (a.entry db v) := rfl
      have hend : Assured db inForce J (stored db (a.entry db v)) (a.run []) ↔
          J (stored db (a.entry db v)) := allEnds_pure
      rw [hlast, hend]
      simp [Steady]
    | cons w ws =>
      rw [lastStored_cons, stored_iff (K := fun st => Assured _ _ _ st (a.run (w :: ws)))
        fun _ => same_of_run, ih]
      constructor
      · rintro ⟨hgroup, h⟩
        refine ⟨⟨hgroup, fun ha => ⟨fun _ => (h ha).1, (h ha).2.1⟩⟩, fun hall => ?_⟩
        exact (h (hall v List.mem_cons_self)).2.2 fun x hx => hall x (List.mem_cons_of_mem _ hx)
      · rintro ⟨⟨hgroup, h⟩, hJ⟩
        refine ⟨hgroup, fun ha => ⟨(h ha).1 (List.cons_ne_nil _ _), (h ha).2, fun hall => hJ ?_⟩⟩
        exact List.forall_mem_cons.mpr ⟨ha, hall⟩

/-- If what follows can fail at once, the last value is to be in place as well. -/
theorem steady_and_next_iff {next : DB → Prop} (hnext : ∀ st, next st → SameTargets db st)
    {id : UUID} (hid : a.groupID = some id) {values : List String} (hvalues : values ≠ [])
    (haccepted : ∀ v ∈ values, storableTarget db (a.entry db v) = true) :
    a.Steady db values ∧ next (a.lastStored db values) ↔
      (∀ v ∈ values, InPlace db (a.entry db v)) ∧ next db := by
  have hsteady : ∀ v vs, storableTarget db (a.entry db v) = true →
      (a.Steady db (v :: vs) ↔ (vs ≠ [] → InPlace db (a.entry db v)) ∧ a.Steady db vs) := by
    intro v vs hv
    simp [Steady, hid, hv]
  induction values with
  | nil => exact absurd rfl hvalues
  | cons v vs ih =>
    obtain ⟨hv, hvs⟩ := List.forall_mem_cons.mp haccepted
    rw [hsteady v vs hv, List.forall_mem_cons]
    cases vs with
    | nil =>
      have hlast : a.lastStored db [v] = stored db (a.entry db v) := rfl
      rw [hlast, stored_iff hnext]
      simp [Steady]
    | cons w ws =>
      have hne : w :: ws ≠ [] := List.cons_ne_nil w ws
      have hrest : a.Steady db (w :: ws) ∧ next (a.lastStored db (w :: ws)) ↔
          (∀ v ∈ w :: ws, InPlace db (a.entry db v)) ∧ next db := ih hne hvs
      rw [lastStored_cons, and_assoc, hrest, and_assoc]
      simp [hne]

/-- In a group that is there, a value that can be stored is, if the tags can. -/
theorem storableTarget_entry {id : UUID} (hid : a.groupID = some id) (hgroup : HasGroup db id)
    (hv : storable v = true) : storableTarget db (a.entry db v) = a.tags.all storable := by
  have hfound : (db.targetGroups.find? id).isSome = true := hgroup
  simp [storableTarget, entry, newTarget, group, hid, hv, hfound]

end ImportCall

/-! ### The parts of an edit -/

section Parts

variable {db : DB} {scopeID id : UUID} {α : Type} {inForce : DB → Prop}

/-- What follows a part of a handler can fail at once. -/
def MayFail (db : DB) (inForce : DB → Prop) (x : Handler α) : Prop :=
  ∀ st, Assured db inForce inForce st x → SameTargets db st

theorem mayFail_ask {β : Type} {s : TargetStmt β} {f : β → Handler α} :
    MayFail db inForce (ask s >>= f) :=
  fun _ h => (allEnds_ask.mp h).1

theorem allEnds_getTargetGroup {st : DB} {P : DB → Except ErrorReply (Option GroupView) → Prop} :
    editSystem.AllEnds st (getTargetGroup scopeID id).run P ↔
      P st (.error ⟨500, dbError⟩) ∧ P st (.ok (viewOf scopeID id st)) := by
  unfold getTargetGroup viewOf ask
  rw [allEnds_bind, allEnds_query]
  refine and_congr_right fun herr => ⟨fun h => ?_, fun h _ found st₁ hexec => ?_⟩
  · have hrest := h () _ _ rfl
    cases hfind : findGroup scopeID id st with
    | none =>
      rw [hfind] at hrest
      exact allEnds_pure.mp hrest
    | some g =>
      rw [hfind] at hrest
      exact allEnds_pure.mp ((allEnds_query.mp (allEnds_bind.mp hrest)).2 () _ _ rfl)
  · cases hexec
    cases hfind : findGroup scopeID id st with
    | none =>
      rw [hfind] at h
      exact allEnds_pure.mpr h
    | some g =>
      rw [hfind] at h
      refine allEnds_bind.mpr (allEnds_query.mpr ⟨herr, fun _ all st₂ hexec => ?_⟩)
      cases hexec
      exact allEnds_pure.mpr h

theorem allEnds_rename {f : Unit → Handler α} (hf : MayFail db inForce (f ())) {g : TargetGroup}
    (hfound : findGroup scopeID id db = some g) {name : Option String}
    (hname : ∀ n, name = some n → n ≠ g.name) :
    Assured db inForce inForce db (rename scopeID id name >>= f) ↔
      (name ≠ none → nameAccepted scopeID id name db = false) ∧
      (name = none → Assured db inForce inForce db (f ())) := by
  cases name with
  | none => exact ⟨fun h => ⟨fun hne => absurd rfl hne, fun _ => h⟩, fun h => h.2 rfl⟩
  | some n =>
    refine (allEnds_assoc.trans allEnds_ask).trans ?_
    simp only [TargetStmt.exec, hfound, Option.isSome_some, Bool.true_and, nameAccepted,
      Option.all_some]
    cases storable n with
    | false => simp [SameTargets.refl]
    | true =>
      cases nameTaken scopeID id n db with
      | true => simpa [SameTargets.refl] using assured_throw_bind (by decide)
      | false =>
        refine iff_of_false (fun h => ?_) (by simp)
        have hsame := (hf _ (h.2 _ _ rfl)).groups
        rw [rows_update_eq_iff] at hsame
        have hrow := hsame g (findGroup_some hfound).1 (by simp [findGroup_some hfound])
        exact hname n rfl (congrArg TargetGroup.name hrow)

theorem allEnds_values (a : ImportCall) (hid : a.groupID = some id) (hgroup : HasGroup db id)
    {values : List String} (hvalues : values ≠ []) (hstorable : values.all storable = true)
    {next : DB → Prop} (hnext : ∀ st, next st → SameTargets db st) :
    Assured db inForce next db (a.run values) ↔
      (a.tags.all storable = true → (∀ v ∈ values, InPlace db (a.entry db v)) ∧ next db) := by
  have haccepted : ∀ v ∈ values, storableTarget db (a.entry db v) = a.tags.all storable := by
    intro v hv
    exact ImportCall.storableTarget_entry hid hgroup (List.all_eq_true.mp hstorable v hv)
  rw [ImportCall.allEnds_run]
  cases htags : a.tags.all storable with
  | true =>
    have hall : ∀ v ∈ values, storableTarget db (a.entry db v) = true := by
      intro v hv
      rw [haccepted v hv, htags]
    rw [forall_prop_of_true hall, forall_prop_of_true rfl]
    exact ImportCall.steady_and_next_iff hnext hid hvalues hall
  | false =>
    obtain ⟨v, vs, rfl⟩ := List.exists_cons_of_ne_nil hvalues
    have hv := haccepted v List.mem_cons_self
    rw [htags] at hv
    simp [ImportCall.Steady, hid, hv]

/-- A list that is given: it is refused, or everything in it is in place. -/
theorem allEnds_replace (a : ImportCall) (hid : a.groupID = some id) (hgroup : HasGroup db id)
    (raw : List String) {next : DB → Prop} (hnext : ∀ st, next st → SameTargets db st) :
    Assured db inForce next db
        (replaceValues a.scopeID id a.tags a.authorize a.actor a.now (some raw)) ↔
      (valuesAccepted (some raw) = true →
        (EntriesIn db id (cleanValues raw) ∧
          (a.tags.all storable = true → ∀ v ∈ cleanValues raw, InPlace db (a.entry db v))) ∧
        (a.tags.all storable = true → next db)) := by
  have hrun : ∀ values, addTargetValues a.scopeID
      (some id) a.tags a.authorize a.actor a.now values =
      a.run values := by
    intro values
    rw [ImportCall.run, hid]
  simp only [replaceValues, hrun]
  cases hempty : (cleanValues raw).isEmpty with
  | true =>
    refine iff_of_true (assured_throw_bind (by decide)) fun h => ?_
    simp [valuesAccepted, hempty] at h
  | false =>
    have hne : cleanValues raw ≠ [] := by simpa using hempty
    have haccepted : valuesAccepted (some raw) = (cleanValues raw).all storable := by
      simp [valuesAccepted, hempty]
    obtain ⟨v, vs, hcons⟩ := List.exists_cons_of_ne_nil hne
    refine (allEnds_write rfl entriesIn_of_same keepOnly_eq_self fun st h => ?_).trans ?_
    · rw [hcons] at h
      exact ImportCall.same_of_run (allEnds_last.mp h)
    · rw [haccepted]
      refine imp_congr_right fun hstorable => ?_
      rw [allEnds_last, allEnds_values a hid hgroup hne hstorable hnext, and_assoc, forall_and]

theorem allEnds_replaceValues {x : Handler α} (hx : MayFail db inForce x) (a : ImportCall)
    (hid : a.groupID = some id) (hgroup : HasGroup db id) (values : Option (List String)) :
    Assured db inForce inForce db (do
        replaceValues a.scopeID id a.tags a.authorize a.actor a.now values
        x) ↔
      (∀ raw, values = some raw → valuesAccepted values = true →
        EntriesIn db id (cleanValues raw) ∧
        (a.tags.all storable = true → ∀ v ∈ cleanValues raw, InPlace db (a.entry db v))) ∧
      (valuesAccepted values = true → (values ≠ none → a.tags.all storable = true) →
        Assured db inForce inForce db x) := by
  cases values with
  | none => exact ⟨fun h => ⟨nofun, fun _ _ => h⟩, fun h => h.2 rfl nofun⟩
  | some raw =>
    refine (allEnds_then fun _ _ => Iff.rfl).trans ((allEnds_replace a hid hgroup raw hx).trans ?_)
    simp only [Option.some.injEq, forall_eq', ne_eq, reduceCtorEq, not_false_eq_true, forall_const]
    exact forall_and

theorem mayFail_replaceValues {tags : List String} {authorize : Bool} {actor : String} {now : Time}
    {values : Option (List String)} {x : Handler α} (hx : MayFail db inForce x) :
    MayFail db inForce (do
      replaceValues scopeID id tags authorize actor now values
      x) := by
  intro st h
  cases values with
  | none => exact hx st h
  | some raw =>
    simp only [replaceValues] at h
    split at h
    · have hthrow := allEnds_throw.mp (allEnds_bind.mp ((allEnds_then fun _ _ => Iff.rfl).mp h))
      exact (promise_error (by decide)).mp hthrow
    · exact (allEnds_ask.mp ((allEnds_then fun _ _ => Iff.rfl).mp h)).1

theorem allEnds_setGroup {mode : TargetMode} {tags : List String} {authBy : Option String}
    {authAt : Option Time} :
    Assured db inForce inForce db (do
        ask (.setGroupTargets id mode tags authBy authAt)
        getTargetGroup scopeID id) ↔
      (tags.all storable = true → HaveColumns db id mode tags authBy authAt ∧ inForce db) := by
  have hread : ∀ st, Assured db inForce inForce st (getTargetGroup scopeID id) ↔
      SameTargets db st ∧ inForce st := fun st =>
    allEnds_getTargetGroup.trans (and_congr_left' (promise_error (by decide)))
  refine (allEnds_write rfl haveColumns_of_same groupSet_eq_self fun st h => ?_).trans ?_
  · exact ((hread st).mp h).1
  · rw [hread, and_iff_right (SameTargets.refl db)]

end Parts

/-! ### The whole handler -/

/-- The group is as the body asks for. -/
structure GroupInput.Holds (inp : GroupInput) (id : UUID) (db : DB) : Prop where
  name : ∀ name, inp.name = some name → ∃ g ∈ db.targetGroups.rows, g.id = id ∧
    g.name = trimSpace name
  values : ∀ raw, inp.values = some raw → ∀ v, InGroup db id v ↔ v ∈ cleanValues raw
  tags : ∀ tags, inp.tags = some tags →
    ∀ t ∈ db.scopeTargets.rows, t.groupID = some id → t.tags = tags
  authorize : ∀ yes, inp.authorize = some yes →
    ∀ t ∈ db.scopeTargets.rows, t.groupID = some id → t.authorized = yes

/-- What the request asks for is in force. -/
def PatchRequest.InForce (req : PatchRequest) (db : DB) : Prop :=
  ∃ id inp, req.groupID = some id ∧ req.body = some inp ∧ inp.Holds id db

/-- The call of `addTargetValues` in an edit. -/
def PatchRequest.importCall (req : PatchRequest) (scopeID id : UUID) (cur : GroupView)
    (inp : GroupInput) :
    ImportCall :=
  ⟨scopeID, some id, newTags cur inp, authorizes cur inp, req.actor, req.addedAt⟩

/-- **The condition**, on a group that was found and a body that was read: another name is refused;
the list is refused or everything in it is in place; and so are the columns of every entry, and the
name, if the edit comes that far. -/
structure PatchRequest.EditInPlace (req : PatchRequest) (scopeID id : UUID) (cur : GroupView)
    (inp : GroupInput) (db : DB) : Prop where
  rename : newName cur inp ≠ none → nameAccepted scopeID id (newName cur inp) db = false
  list : newName cur inp = none → ∀ raw, inp.values = some raw → valuesAccepted inp.values = true →
    EntriesIn db id (cleanValues raw) ∧ ((newTags cur inp).all storable = true →
      ∀ v ∈ cleanValues raw, InPlace db ((req.importCall scopeID id cur inp).entry db v))
  columns : newName cur inp = none → valuesAccepted inp.values = true →
    (newTags cur inp).all storable = true →
      HaveColumns db id (if authorizes cur inp then .active else .passiveOnly) (newTags cur inp)
        (authRecord cur inp req).1 (authRecord cur inp req).2 ∧
      ∀ name, inp.name = some name → trimSpace name = cur.group.name

/-- Every write of the request that is carried out finds its effect in place. -/
def PatchRequest.WritesInPlace (req : PatchRequest) (db : DB) : Prop :=
  ∀ scopeID id cur inp, req.scopeID = some scopeID → req.groupID = some id →
    viewOf scopeID id db = some cur → req.body = some inp → req.EditInPlace scopeID id cur inp db

section Edit

variable {db : DB} {req : PatchRequest} {scopeID id : UUID} {cur : GroupView} {inp : GroupInput}

theorem findGroup_of_viewOf (h : viewOf scopeID id db = some cur) :
    findGroup scopeID id db = some cur.group := by
  obtain ⟨g, hg, rfl⟩ := Option.map_eq_some_iff.mp h
  exact hg

/-- With the columns and the list in place, what the body asks for is, up to the name. -/
theorem holds_iff (hview : viewOf scopeID id db = some cur)
    (hvalues : valuesAccepted inp.values = true)
    (htags : (newTags cur inp).all storable = true)
    (hlist : ∀ raw, inp.values = some raw → valuesAccepted inp.values = true →
      EntriesIn db id (cleanValues raw) ∧ ((newTags cur inp).all storable = true →
        ∀ v ∈ cleanValues raw, InPlace db ((req.importCall scopeID id cur inp).entry db v)))
    (hcolumns : HaveColumns db id (if authorizes cur inp then .active else .passiveOnly)
      (newTags cur inp) (authRecord cur inp req).1 (authRecord cur inp req).2) :
    inp.Holds id db ↔ ∀ name, inp.name = some name → trimSpace name = cur.group.name := by
  obtain ⟨hmem, hid, -⟩ := findGroup_some (findGroup_of_viewOf hview)
  constructor
  -- a rename that changes nothing is the only one that is in force before
  · intro h name hname
    obtain ⟨g, hg, hgid, hgname⟩ := h.name name hname
    rw [← hgname, eq_of_key hg hmem (hgid.trans hid.symm)]
  · intro h
    constructor
    · intro name hname
      exact ⟨cur.group, hmem, hid, (h name hname).symm⟩
    · intro raw hraw v
      obtain ⟨hentries, hplace⟩ := hlist raw hraw hvalues
      constructor
      -- deleting keeps what is listed, importing finds every value of the list
      · rintro ⟨t, ht, htid, rfl⟩
        exact hentries t ht htid
      · intro hv
        obtain ⟨r, hr, hsame⟩ := (hplace htags v hv).found
        simp only [sameEntry, Bool.and_eq_true, beq_iff_eq] at hsame
        exact ⟨r, hr, hsame.1.1, hsame.2⟩
    · intro tags htags t ht htid
      rw [(hcolumns t ht htid).2.1, newTags, htags, Option.getD_some]
    · intro yes hyes t ht htid
      obtain ⟨hmode, -, hby, hat⟩ := hcolumns t ht htid
      have hauthorizes : authorizes cur inp = yes := by rw [authorizes, hyes, Option.getD_some]
      simp only [authRecord, hauthorizes, hyes, Option.isNone_some, Bool.and_false] at hmode hby hat
      cases yes <;> simp_all [ScopeTarget.authorized]

theorem newName_ne : ∀ n, newName cur inp = some n → n ≠ cur.group.name := by
  intro n hn
  have hsel := (Option.filter_eq_some_iff.mp hn).2
  simp only [decide_eq_true_eq] at hsel
  exact hsel.2

theorem allEnds_editGroup (hview : viewOf scopeID id db = some cur) (hid : req.groupID = some id)
    (hbody : req.body = some inp) :
    Assured db req.InForce req.InForce db (editGroup req scopeID id cur inp) ↔
      req.EditInPlace scopeID id cur inp db := by
  have hfound := findGroup_of_viewOf hview
  have hlist : Assured db req.InForce req.InForce db (do
      replaceValues scopeID id (newTags cur inp)
        (authorizes cur inp) req.actor req.addedAt inp.values
      ask (.setGroupTargets id (if authorizes cur inp then .active else .passiveOnly)
        (newTags cur inp) (authRecord cur inp req).1 (authRecord cur inp req).2)
      getTargetGroup scopeID id) ↔ _ :=
    (allEnds_replaceValues mayFail_ask (req.importCall scopeID id cur inp) rfl
      (hasGroup_of_findGroup hfound) inp.values).trans
    (and_congr_right fun _ => imp_congr_right fun _ => imp_congr_right fun _ => allEnds_setGroup)
  have hforce : req.InForce db ↔ inp.Holds id db := by simp [PatchRequest.InForce, hid, hbody]
  unfold editGroup
  refine (allEnds_rename (mayFail_replaceValues mayFail_ask) hfound newName_ne).trans ?_
  rw [hlist, hforce]
  constructor
  · rintro ⟨hrename, h⟩
    refine ⟨hrename, fun hname => (h hname).1, fun hname hvalues htags => ?_⟩
    obtain ⟨hcolumns, hholds⟩ := (h hname).2 hvalues (fun _ => htags) htags
    exact ⟨hcolumns, (holds_iff hview hvalues htags (h hname).1 hcolumns).mp hholds⟩
  · intro h
    refine ⟨h.rename, fun hname => ⟨h.list hname, fun hvalues _ htags => ?_⟩⟩
    obtain ⟨hcolumns, hnamed⟩ := h.columns hname hvalues htags
    exact ⟨hcolumns, (holds_iff hview hvalues htags (h.list hname) hcolumns).mpr hnamed⟩

end Edit

/-- **`patchTargetGroup` is all or nothing, whatever fails, exactly if all its writes find their
effect in place.** -/
theorem patchTargetGroup_allOrNothing_iff (req : PatchRequest) (db : DB) :
    editSystem.AllEnds db (TargetRequest.patchTargetGroup req).handler.run
      (AllOrNothing (SameTargets db) req.InForce) ↔ req.WritesInPlace db := by
  refine (allEnds_reply (by decide)).trans ?_
  unfold patchTargetGroup PatchRequest.WritesInPlace
  cases hscope : req.scopeID with
  | none => exact iff_of_true (assured_throw (by decide)) nofun
  | some scopeID =>
    cases hid : req.groupID with
    | none => exact iff_of_true (assured_throw (by decide)) nofun
    | some id =>
      -- the reading of the group is the first statement
      refine allEnds_bind.trans (allEnds_getTargetGroup.trans ?_)
      rw [and_iff_right ((promise_error (by decide)).mpr (.refl db))]
      cases hview : viewOf scopeID id db with
      | none =>
        refine iff_of_true (assured_throw (by decide)) ?_
        rintro _ _ cur inp ⟨⟩ ⟨⟩ hview'
        cases hview.symm.trans hview'
      | some cur =>
        cases hbody : req.body with
        | none => exact iff_of_true (assured_throw (by decide)) nofun
        | some inp =>
          refine (allEnds_editGroup hview hid hbody).trans
            ⟨?_, fun h => h _ _ _ _ rfl rfl hview rfl⟩
          rintro h _ _ _ _ ⟨⟩ ⟨⟩ hview' ⟨⟩
          cases hview.symm.trans hview'
          exact h

end PinkGlasses
