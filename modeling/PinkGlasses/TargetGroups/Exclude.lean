import PinkGlasses.TargetGroups

/-!
# PinkGlasses.TargetGroups.Exclude

The excluded entries of a group, across an edit of it.

`patchTargetGroup` ends by writing one mode over every entry of the group, active or passive only,
so **an edit of any kind takes the entries that stay out of exclude mode**: a rename does, a change
of tags does, and a list of values does for every entry it names. Only an edit that is refused, or
that drops every excluded entry, leaves none behind (`exclusions_kept_iff`).
-/

namespace PinkGlasses

open Lib Store Handler System Table

/-- The group has an entry with the value. -/
def InGroup (db : DB) (id : UUID) (value : String) : Prop :=
  ∃ t ∈ db.scopeTargets.rows, t.groupID = some id ∧ t.value = value
deriving Decidable

/-- What the request leaves of the database. -/
def patched (db : DB) (req : PatchRequest) : DB :=
  (targetSystem.outcome () db (patchTargetGroup req).run).1

/-- An entry of the group that was excluded and whose value is still in the group is excluded. -/
def ExclusionsKept (db : DB) (id : UUID) (db' : DB) : Prop :=
  ∀ t ∈ db.scopeTargets.rows, t.groupID = some id → t.mode = .exclude → InGroup db' id t.value →
    ∃ t' ∈ db'.scopeTargets.rows, t'.groupID = some id ∧ t'.entry = t.entry ∧ t'.mode = .exclude
deriving Decidable

/-- The rename, if any, is possible. -/
def nameAccepted (scopeID id : UUID) (name : Option String) (db : DB) : Bool :=
  name.all fun name => storable name && !nameTaken scopeID id name db

/-- The list of values, if any, is one. -/
def valuesAccepted (values : Option (List String)) : Bool :=
  values.all fun raw => !(cleanValues raw).isEmpty && (cleanValues raw).all storable

/-- The edit is carried out: the group is there, the name is free, the list is not empty, and the
texts can be stored. -/
def GroupInput.accepted (inp : GroupInput) (scopeID id : UUID) (db : DB) : Bool :=
  (viewOf scopeID id db).any fun cur => nameAccepted scopeID id (newName cur inp) db &&
    valuesAccepted inp.values && (newTags cur inp).all storable

/-- The value is to stay in the group. -/
def GroupInput.keeps (inp : GroupInput) (value : String) : Bool :=
  inp.values.all fun raw => (cleanValues raw).contains value

/-- **The condition**: the request is refused, or drops every entry that is excluded. -/
def SparesExclusions (db : DB) (req : PatchRequest) (id : UUID) : Prop :=
  ∀ scopeID ∈ req.scopeID, ∀ inp ∈ req.body, inp.accepted scopeID id db = true →
    ∀ t ∈ db.scopeTargets.rows, t.groupID = some id → t.mode = .exclude → inp.keeps t.value = false
deriving Decidable

/-! ### The steps of the handler -/

section Steps

variable {db : DB} {scopeID id : UUID}

theorem outcome_ask {α : Type} (s : TargetStmt α) :
    targetSystem.outcome () db (ask s).run = match s.exec db with
      | some (b, db') => (db', .ok b)
      | none => (db, .error ⟨500, dbError⟩) := by
  have hexec : targetSystem.exec s () db = s.exec db := rfl
  unfold ask
  rw [outcome_query, hexec]
  cases s.exec db <;> rfl

theorem outcome_getTargetGroup :
    targetSystem.outcome () db (getTargetGroup scopeID id).run =
      (db, .ok (viewOf scopeID id db)) := by
  unfold getTargetGroup viewOf
  rw [outcome_bind, outcome_ask]
  simp only [TargetStmt.exec]
  cases findGroup scopeID id db with
  | none | some => rfl

/-- The group is there. -/
def HasGroup (db : DB) (id : UUID) : Prop := (db.targetGroups.find? id).isSome = true

theorem hasGroup_of_findGroup {g : TargetGroup} (h : findGroup scopeID id db = some g) :
    HasGroup db id :=
  isSome_find?.mpr ⟨g, (findGroup_some h).1, (findGroup_some h).2.1⟩

theorem outcome_rename {g : TargetGroup} (hfound : findGroup scopeID id db = some g)
    (name : Option String) :
    ∃ db₁ r, targetSystem.outcome () db (rename scopeID id name).run = (db₁, r) ∧
      db₁.scopeTargets = db.scopeTargets ∧ HasGroup db₁ id ∧
      (r = .ok () ↔ nameAccepted scopeID id name db = true) := by
  have hgroup := hasGroup_of_findGroup hfound
  cases name with
  | none => exact ⟨db, .ok (), rfl, rfl, hgroup, fun _ => rfl, fun _ => rfl⟩
  | some name =>
    unfold rename nameAccepted
    rw [outcome_bind, outcome_ask]
    simp only [TargetStmt.exec, hfound, Option.isSome_some, Bool.true_and, Option.all_some]
    cases storable name with
    | false => exact ⟨_, _, rfl, rfl, hgroup, by simp⟩
    | true =>
      cases nameTaken scopeID id name db with
      | true => exact ⟨_, _, rfl, rfl, hgroup, by simp⟩
      | false => exact ⟨_, _, rfl, rfl, isSome_find?_update (by exact fun _ => rfl) hgroup, by simp⟩

/-- The group's entries are the same ones, apart from the given values. -/
structure Augments (ts ts' : List ScopeTarget) (values : List String) : Prop where
  kept : ∀ t ∈ ts, ∃ t' ∈ ts', t'.groupID = t.groupID ∧ t'.entry = t.entry
  added : ∀ t' ∈ ts', (∃ t ∈ ts, t'.groupID = t.groupID ∧ t'.entry = t.entry) ∨ t'.value ∈ values

theorem augments_upsertTarget (t : ScopeTarget) (ts : Table ScopeTarget ScopeTarget.id)
    (values : List String) : Augments ts.rows (upsertTarget t ts).2.rows (t.value :: values) where
  kept _ hr := exists_mem_upsertTarget t hr
  added r hr := by
    rcases mem_upsertTarget.mp hr with ⟨r₀, hr₀, -, rfl⟩ | ⟨hr, -⟩ | ⟨-, rfl⟩
    · exact .inl ⟨r₀, hr₀, rfl, rfl⟩
    · exact .inl ⟨r, hr, rfl, rfl⟩
    · exact .inr List.mem_cons_self

theorem Augments.trans {ts ts' ts'' : List ScopeTarget} {v : String} {values : List String}
    (h : Augments ts ts' (v :: values)) (h' : Augments ts' ts'' values) :
    Augments ts ts'' (v :: values) where
  kept t ht := by
    obtain ⟨t', ht', hgroup, hentry⟩ := h.kept t ht
    obtain ⟨t'', ht'', hgroup', hentry'⟩ := h'.kept t' ht'
    exact ⟨t'', ht'', hgroup'.trans hgroup, hentry'.trans hentry⟩
  added t'' ht'' := by
    rcases h'.added t'' ht'' with ⟨t', ht', hgroup', hentry'⟩ | hmem
    · rcases h.added t' ht' with ⟨t, ht, hgroup, hentry⟩ | hmem
      · exact .inl ⟨t, ht, hgroup'.trans hgroup, hentry'.trans hentry⟩
      · have hvalue : t''.value = t'.value := congrArg Prod.snd hentry'
        exact .inr (hvalue ▸ hmem)
    · exact .inr (List.mem_cons_of_mem _ hmem)

section Add

variable (scopeID) (authorize : Bool) (actor : String) (now : Time) {tags : List String}

/-- **Adding values keeps every entry of the group and adds only those values.** -/
theorem outcome_addTargetValues {values : List String} (hgroup : HasGroup db id)
    (hvalues : values.all storable = true) (htags : tags.all storable = true) :
    ∃ db₁ saved, targetSystem.outcome () db
        (addTargetValues scopeID (some id) tags authorize actor now values).run = (db₁, .ok saved) ∧
      Augments db.scopeTargets.rows db₁.scopeTargets.rows values := by
  induction values generalizing db with
  | nil => exact ⟨db, [], rfl, fun t ht => ⟨t, ht, rfl, rfl⟩, fun t ht => .inl ⟨t, ht, rfl, rfl⟩⟩
  | cons v values ih =>
    rw [List.all_cons, Bool.and_eq_true] at hvalues
    let t := newTarget scopeID id tags authorize actor now v
    have hgroup₀ : HasGroup { db with scopeTargets := (upsertTarget t db.scopeTargets).2 } id :=
        hgroup
    obtain ⟨db₁, saved, hout, hext⟩ := ih hgroup₀ hvalues.2
    refine ⟨db₁, { t with id := (upsertTarget t db.scopeTargets).1 } :: saved, ?_,
      (augments_upsertTarget t db.scopeTargets values).trans hext⟩
    have hexec : (TargetStmt.addTarget t).exec db = some ((upsertTarget t db.scopeTargets).1,
        { db with scopeTargets := (upsertTarget t db.scopeTargets).2 }) := by
      refine if_pos ?_
      simp only [Bool.and_eq_true]
      exact ⟨⟨hvalues.1, htags⟩, hgroup⟩
    unfold addTargetValues
    rw [outcome_bind, outcome_pure]
    dsimp only
    rw [outcome_bind, outcome_ask, hexec]
    dsimp only
    rw [outcome_bind, hout]
    rfl

theorem outcome_addTargetValues_error {values : List String} (hne : values ≠ [])
    (htags : tags.all storable = false) :
    targetSystem.outcome () db
        (addTargetValues scopeID (some id) tags authorize actor now values).run =
      (db, .error ⟨500, dbError⟩) := by
  obtain ⟨v, values, rfl⟩ := List.exists_cons_of_ne_nil hne
  have hexec : (TargetStmt.addTarget (newTarget scopeID id tags authorize actor now v)).exec db =
      none := by
    refine if_neg ?_
    simp only [Bool.and_eq_true]
    exact fun h => absurd (h.1.2.symm.trans htags) (by decide)
  unfold addTargetValues
  rw [outcome_bind, outcome_pure]
  dsimp only
  rw [outcome_bind, outcome_ask, hexec]

/-- The entries `DeleteGroupTargetsNotIn` leaves. -/
def keepOnly (id : UUID) (keep : List String) (db : DB) : DB :=
  { db with
    scopeTargets := db.scopeTargets.delete fun t => t.groupID == some id && !keep.contains t.value }

theorem mem_keepOnly {keep : List String} {t : ScopeTarget} (hid : t.groupID = some id) :
    t ∈ (keepOnly id keep db).scopeTargets.rows ↔ t ∈ db.scopeTargets.rows ∧ t.value ∈ keep := by
  have hrows : t ∈ (keepOnly id keep db).scopeTargets.rows ↔ t ∈ db.scopeTargets.rows ∧
      (t.groupID == some id && !keep.contains t.value) = false := mem_delete
  simp [hrows, hid]

theorem outcome_replaceValues_some (raw : List String) :
    targetSystem.outcome () db
        (replaceValues scopeID id tags authorize actor now (some raw)).run =
      if (cleanValues raw).isEmpty then
        (db, .error ⟨400, "a group needs at least one entry; remove the group instead"⟩)
      else if (cleanValues raw).all storable then
        match targetSystem.outcome () (keepOnly id (cleanValues raw) db)
          (addTargetValues scopeID (some id) tags authorize actor now (cleanValues raw)).run with
        | (db₁, .ok _) => (db₁, .ok ())
        | (db₁, .error e) => (db₁, .error e)
      else (db, .error ⟨500, dbError⟩) := by
  unfold replaceValues
  dsimp only
  split
  · rfl
  · rw [outcome_bind, outcome_ask]
    simp only [TargetStmt.exec]
    cases (cleanValues raw).all storable with
    | false => rfl
    | true =>
      simp only [if_true, outcome_bind, keepOnly]
      rcases targetSystem.outcome () _
        (addTargetValues scopeID (some id) tags authorize actor now
          (cleanValues raw)).run with ⟨db₁, r⟩
      cases r <;> rfl

/-- **The list that is given becomes the list of the group**; without one it stays. -/
theorem outcome_replaceValues {inp : GroupInput} (hgroup : HasGroup db id)
    (hvalues : valuesAccepted inp.values = true) (htags : tags.all storable = true) :
    ∃ db₁, targetSystem.outcome () db
        (replaceValues scopeID id tags authorize actor now inp.values).run = (db₁, .ok ()) ∧
      (∀ t ∈ db.scopeTargets.rows, t.groupID = some id → inp.keeps t.value = true →
        InGroup db₁ id t.value) ∧
      ∀ t ∈ db₁.scopeTargets.rows, t.groupID = some id → inp.keeps t.value = true := by
  unfold GroupInput.keeps
  cases hraw : inp.values with
  | none => exact ⟨db, rfl, fun t ht hid _ => ⟨t, ht, hid, rfl⟩, fun _ _ _ => rfl⟩
  | some raw =>
    rw [hraw] at hvalues
    simp only [valuesAccepted, Option.all_some, Bool.and_eq_true, Bool.not_eq_true'] at hvalues
    obtain ⟨hne, hall⟩ := hvalues
    have hgroup₀ : HasGroup (keepOnly id (cleanValues raw) db) id := hgroup
    obtain ⟨db₁, saved, hout, hext⟩ :=
      outcome_addTargetValues scopeID authorize actor now hgroup₀ hall htags
    rw [outcome_replaceValues_some, hne, hall, hout]
    simp only [Option.all_some, List.contains_iff_mem]
    refine ⟨db₁, rfl, fun t ht hid hkeep => ?_, fun t ht hid => ?_⟩
    · obtain ⟨t', ht', hgroup', hentry⟩ := hext.kept t ((mem_keepOnly hid).mpr ⟨ht, hkeep⟩)
      exact ⟨t', ht', hgroup'.trans hid, congrArg Prod.snd hentry⟩
    · rcases hext.added t ht with ⟨t₀, ht₀, hgroup', hentry⟩ | hmem
      · have hvalue : t.value = t₀.value := congrArg Prod.snd hentry
        exact hvalue ▸ ((mem_keepOnly (hgroup'.symm.trans hid)).mp ht₀).2
      · exact hmem

/-- Every entry of the group whose value stays is as it was. -/
def Spared (db : DB) (id : UUID) (db' : DB) : Prop :=
  ∀ t ∈ db.scopeTargets.rows, t.groupID = some id → InGroup db' id t.value →
    t ∈ db'.scopeTargets.rows

theorem Spared.of_eq {db' : DB} (h : db'.scopeTargets = db.scopeTargets) : Spared db id db' :=
  fun _ ht _ _ => h ▸ ht

theorem outcome_replaceValues_error (db : DB) (id : UUID) {values : Option (List String)}
    (hrefused : valuesAccepted values = false ∨
      (values.isSome = true ∧ tags.all storable = false)) :
    ∃ db₁ e, targetSystem.outcome () db
        (replaceValues scopeID id tags authorize actor now values).run = (db₁, .error e) ∧
      Spared db id db₁ := by
  cases values with
  | none => simp [valuesAccepted] at hrefused
  | some raw =>
    rw [outcome_replaceValues_some]
    cases hempty : (cleanValues raw).isEmpty with
    | true => exact ⟨db, _, rfl, .of_eq rfl⟩
    | false =>
      cases hall : (cleanValues raw).all storable with
      | false => exact ⟨db, _, rfl, .of_eq rfl⟩
      | true =>
        have htags : tags.all storable = false := by
          simpa [valuesAccepted, hempty, hall] using hrefused
        rw [outcome_addTargetValues_error _ _ _ _ (by simpa using hempty) htags]
        refine ⟨_, _, rfl, ?_⟩
        intro t ht hid ⟨t', ht', hid', hvalue⟩
        -- an entry with the value is left, so the value is in the list
        exact (mem_keepOnly hid).mpr ⟨ht, hvalue ▸ ((mem_keepOnly hid').mp ht').2⟩

end Add

end Steps

/-! ### The whole request -/

section Request

variable {db : DB} {req : PatchRequest} {scopeID id : UUID} {inp : GroupInput}

/-- The entries of a group after `SetGroupTargets`. -/
theorem exec_setGroupTargets (db : DB) (id : UUID) (mode : TargetMode) {tags : List String}
    (authBy : Option String) (authAt : Option Time) (htags : tags.all storable = true) :
    ∃ db', (TargetStmt.setGroupTargets id mode tags authBy authAt).exec db = some ((), db') ∧
      (∀ value, InGroup db id value → InGroup db' id value) ∧
      ∀ t ∈ db'.scopeTargets.rows, t.groupID = some id → t.mode = mode ∧ InGroup db id t.value := by
  refine ⟨_, if_pos htags, fun value ⟨t, ht, hid, hvalue⟩ => ?_, fun t ht hid => ?_⟩
  · refine ⟨_, List.mem_map.mpr ⟨t, ht, rfl⟩, ?_⟩
    split <;> exact ⟨hid, hvalue⟩
  · obtain ⟨t₀, ht₀, heq⟩ := List.mem_map.mp ht
    split at heq
    · rename_i hsel
      cases heq
      exact ⟨rfl, t₀, ht₀, beq_iff_eq.mp hsel, rfl⟩
    · rename_i hsel
      cases heq
      exact absurd (beq_iff_eq.mpr hid) hsel

theorem patched_eq_edit {cur : GroupView} (hscope : req.scopeID = some scopeID)
    (hgroup : req.groupID = some id) (hbody : req.body = some inp)
    (hcur : viewOf scopeID id db = some cur) :
    patched db req = (targetSystem.outcome () db (editGroup req scopeID id cur inp).run).1 := by
  unfold patched patchTargetGroup
  simp only [hscope, hgroup]
  rw [outcome_bind, outcome_getTargetGroup, hcur]
  simp only [hbody]

theorem patched_unread (hgroup : req.groupID = some id)
    (hunread : ∀ scopeID, req.scopeID = some scopeID → viewOf scopeID id db = none ∨
      req.body = none) :
    patched db req = db := by
  unfold patched patchTargetGroup
  rw [hgroup]
  cases hscope : req.scopeID with
  | none => rfl
  | some scopeID =>
    dsimp only
    rw [outcome_bind, outcome_getTargetGroup]
    cases hcur : viewOf scopeID id db with
    | none => rfl
    | some cur =>
      have hbody : req.body = none := (hunread scopeID hscope).resolve_left (by simp [hcur])
      simp only [hbody]
      rfl

/-- **A request that is carried out leaves the list it asks for, and no entry of it excluded.** -/
theorem patched_accepted (hscope : req.scopeID = some scopeID) (hgroup : req.groupID = some id)
    (hbody : req.body = some inp) (hacc : inp.accepted scopeID id db = true) :
    (∀ t ∈ db.scopeTargets.rows, t.groupID = some id → inp.keeps t.value = true →
      InGroup (patched db req) id t.value) ∧
    ∀ t ∈ (patched db req).scopeTargets.rows, t.groupID = some id →
      t.mode ≠ .exclude ∧ inp.keeps t.value = true := by
  simp only [GroupInput.accepted, Bool.and_eq_true, Option.any_eq_true] at hacc
  obtain ⟨cur, hcur, ⟨hname, hvalues⟩, htags⟩ := hacc
  obtain ⟨g, hfound, -⟩ := Option.map_eq_some_iff.mp hcur
  obtain ⟨db₁, r, hrename, hsame, hgroup₁, hok⟩ := outcome_rename hfound (newName cur inp)
  obtain ⟨db₂, hreplace, hstays, honly⟩ := outcome_replaceValues scopeID (authorizes cur inp)
    req.actor req.addedAt hgroup₁ hvalues htags
  obtain ⟨db₃, hset, hlist, hmode⟩ := exec_setGroupTargets db₂ id
    (if authorizes cur inp then .active else .passiveOnly) (authRecord cur inp req).1
    (authRecord cur inp req).2 htags
  -- rename, list, columns: each statement succeeds, and the answer reads the result
  have hpatched : patched db req = db₃ := by
    rw [patched_eq_edit hscope hgroup hbody hcur, editGroup, outcome_bind, hrename,
      hok.mpr hname]
    dsimp only
    rw [outcome_bind, hreplace]
    dsimp only
    rw [outcome_bind, outcome_ask, hset]
    dsimp only
    rw [outcome_getTargetGroup]
  rw [hpatched]
  refine ⟨fun t ht hid hkeep => hlist _ (hstays t (hsame ▸ ht) hid hkeep), fun t ht hid => ?_⟩
  -- the last statement gives every entry of the group a mode that is not `exclude`
  obtain ⟨hmodeq, t₂, ht₂, hid₂, hvalue⟩ := hmode t ht hid
  refine ⟨?_, hvalue ▸ honly t₂ ht₂ hid₂⟩
  rw [hmodeq]
  split <;> decide

theorem edit_refused (req : PatchRequest) {g : TargetGroup} {cur : GroupView}
    (hfound : findGroup scopeID id db = some g)
    (hno : (nameAccepted scopeID id (newName cur inp) db && valuesAccepted inp.values &&
      (newTags cur inp).all storable) = false) :
    Spared db id (targetSystem.outcome () db (editGroup req scopeID id cur inp).run).1 := by
  obtain ⟨db₁, r, hrename, htargets, -, hok⟩ := outcome_rename hfound (newName cur inp)
  rw [editGroup, outcome_bind, hrename]
  cases hname : nameAccepted scopeID id (newName cur inp) db with
  | false =>
    cases r with
    | ok u => exact absurd (hok.mp rfl) (by simp [hname])
    | error e => exact .of_eq htargets
  | true =>
    rw [hname, Bool.true_and, Bool.and_eq_false_iff] at hno
    rw [hok.mpr hname]
    dsimp only
    rw [outcome_bind]
    by_cases hset : inp.values = none ∧ (newTags cur inp).all storable = false
    · obtain ⟨hvalues, htags⟩ := hset
      -- without a list it is `SetGroupTargets` that fails
      have hexec : (TargetStmt.setGroupTargets id
          (if authorizes cur inp then .active else .passiveOnly) (newTags cur inp)
          (authRecord cur inp req).1 (authRecord cur inp req).2).exec db₁ = none :=
        if_neg (by simp [htags])
      have hnone : targetSystem.outcome () db₁ (replaceValues scopeID id (newTags cur inp)
          (authorizes cur inp) req.actor req.addedAt none).run = (db₁, .ok ()) := rfl
      rw [hvalues, hnone]
      dsimp only
      rw [outcome_bind, outcome_ask, hexec]
      exact .of_eq htargets
    · have hreplace : valuesAccepted inp.values = false ∨
          (inp.values.isSome = true ∧ (newTags cur inp).all storable = false) := by
        refine hno.imp_right fun htags => ⟨?_, htags⟩
        exact Option.isSome_iff_ne_none.mpr fun hvalues => hset ⟨hvalues, htags⟩
      obtain ⟨db₂, e, hout, hkept⟩ := outcome_replaceValues_error scopeID (authorizes cur inp)
        req.actor req.addedAt db₁ id hreplace
      rw [hout]
      exact fun t ht hid hin => hkept t (htargets ▸ ht) hid hin

/-- **A request that is refused leaves every entry whose value stays as it was.** -/
theorem patched_refused (hgroup : req.groupID = some id)
    (hrefused : ∀ scopeID ∈ req.scopeID, ∀ inp ∈ req.body, inp.accepted scopeID id db = false) :
    Spared db id (patched db req) := by
  by_cases hread : ∃ scopeID cur inp, req.scopeID = some scopeID ∧ viewOf scopeID id db = some cur ∧
      req.body = some inp
  · obtain ⟨scopeID, cur, inp, hscope, hcur, hbody⟩ := hread
    have hno := hrefused scopeID hscope inp hbody
    rw [GroupInput.accepted, hcur, Option.any_some] at hno
    obtain ⟨g, hfound, -⟩ := Option.map_eq_some_iff.mp hcur
    rw [patched_eq_edit hscope hgroup hbody hcur]
    exact edit_refused req hfound hno
  · refine .of_eq (congrArg DB.scopeTargets (patched_unread hgroup fun scopeID hscope => ?_))
    by_contra hsome
    rw [not_or, ← ne_eq, ← ne_eq, Option.ne_none_iff_exists', Option.ne_none_iff_exists'] at hsome
    obtain ⟨⟨cur, hcur⟩, inp, hbody⟩ := hsome
    exact hread ⟨scopeID, cur, inp, hscope, hcur, hbody⟩

end Request

/-! ### A group with an excluded entry -/

/-- A company with one group, which holds two names and excludes one of them. -/
def groupDB : DB where
  targetGroups := .ofRows [{ id := 1, scopeID := 1, name := "example" }] (by decide)
  scopeTargets := .ofRows
    [{ id := 1, scopeID := 1, kind := .domain, value := "www.example.org", mode := .passiveOnly
       groupID := some 1 },
     { id := 2, scopeID := 1, kind := .domain, value := "mail.example.org", mode := .exclude
       groupID := some 1 }] (by decide)

end PinkGlasses
