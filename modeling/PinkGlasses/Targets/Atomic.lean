import PinkGlasses.Accounts.Atomic
import PinkGlasses.TargetGroups.Atomic

/-!
# PinkGlasses.Targets.Atomic

**When `addTarget` is all or nothing**, whatever fails, and the result for the three handlers that
write more than once.

`addTarget` stores its values one by one, so an error at a later one leaves the earlier ones behind.
Its success is not what was asked for either: the kind is not looked at, a mode takes effect only
together with `authorize`, and the update to the excluded mode is not checked.

* `AddTargetInput.Consistent` says when a body asks for what the handler writes.
* `handlers_allOrNothing_iff` puts the conditions of the three handlers together.
-/

namespace PinkGlasses

open Lib Lib.System Store Handler Table

/-- The row is as the body asks for. -/
structure AddTargetInput.Holds (inp : AddTargetInput) (t : ScopeTarget) : Prop where
  kind : inp.kind ≠ "" → inp.kind = t.kind.text
  tags : t.tags = inp.tags
  mode : inp.mode ≠ "" → TargetMode.ofText? inp.mode = some t.mode
  authorize : inp.authorize = true → t.authorized = true

/-- The name of the group a value is to be in: the given one, or its own. -/
def AddTargetInput.groupName (inp : AddTargetInput) (v : String) : String :=
  if trimSpace inp.group = "" then v else trimSpace inp.group

/-- What the request asks for is in force: every value has its entry in its group. -/
def AddTargetRequest.InForce (req : AddTargetRequest) (db : DB) : Prop :=
  ∃ scopeID inp, req.scopeID = some scopeID ∧ req.body = some inp ∧
    ∀ v ∈ addedValues inp, ∃ gid, groupNamed scopeID (inp.groupName v) db = some gid ∧
      ∃ t ∈ db.scopeTargets.rows, t.groupID = some gid ∧ t.kind = guessKind v ∧ t.value = v ∧
        inp.Holds t

/-- The body asks for what the handler writes of a value: for no kind but the one the value looks
like, and for no mode, the active one with an authorization or the passive one without. -/
structure AddTargetInput.Consistent (inp : AddTargetInput) (v : String) : Prop where
  kind : inp.kind = "" ∨ inp.kind = (guessKind v).text
  mode : inp.mode = "" ∨ (inp.mode = "active" ∧ inp.authorize = true) ∨
    (inp.mode = "passive_only" ∧ inp.authorize = false)

/-- The call of `addTargetValues`, if the group is there. -/
def AddTargetRequest.importCall (req : AddTargetRequest) (scopeID : UUID) (inp : AddTargetInput)
    (db : DB) : ImportCall where
  scopeID := scopeID
  groupID := if trimSpace inp.group = "" then none else groupNamed scopeID (trimSpace inp.group) db
  tags := inp.tags
  authorize := authorizesNew inp
  actor := req.actor
  now := req.now

/-- **The condition**: the named group is there or its name is refused; the values are steady; and
if none is refused, the body is consistent. -/
def AddTargetRequest.WritesInPlace (req : AddTargetRequest) (db : DB) : Prop :=
  ∀ scopeID inp, req.scopeID = some scopeID → req.body = some inp → addedValues inp ≠ [] →
    (trimSpace inp.group ≠ "" → storable (trimSpace inp.group) = true →
      (groupNamed scopeID (trimSpace inp.group) db).isSome = true) ∧
    ((trimSpace inp.group = "" ∨ storable (trimSpace inp.group) = true) →
      (req.importCall scopeID inp db).Steady db (addedValues inp) ∧
      ((∀ v ∈ addedValues inp, storableTarget db
        ((req.importCall scopeID inp db).entry db v) = true) →
        ∀ v ∈ addedValues inp, inp.Consistent v))

/-! ### What is in place after the loop -/

section Stored

variable {db : DB} {t t' : ScopeTarget}

theorem exists_stored : ∃ r ∈ (stored db t).scopeTargets.rows, sameEntry t r = true := by
  by_cases hfound : ∃ r ∈ db.scopeTargets.rows, sameEntry t r = true
  · obtain ⟨r, hr, hsame⟩ := hfound
    exact ⟨overwriteTarget t r, mem_upsertTarget.mpr (.inl ⟨r, hr, hsame, rfl⟩), hsame⟩
  · refine ⟨_, mem_upsertTarget.mpr (.inr (.inr ⟨fun r hr => ?_, rfl⟩)), by simp [sameEntry]⟩
    exact Bool.eq_false_iff.mpr fun hsame => hfound ⟨r, hr, hsame⟩

theorem inPlace_stored : InPlace (stored db t) t := by
  refine ⟨exists_stored, fun r hr hsame => ?_⟩
  rcases mem_upsertTarget.mp hr with ⟨r₀, -, -, rfl⟩ | ⟨-, hother⟩ | ⟨-, rfl⟩
  · rfl
  · rw [hother] at hsame
    cases hsame
  · rfl

theorem InPlace.stored_other (h : InPlace db t') (hne : t'.value ≠ t.value) :
    InPlace (stored db t) t' := by
  have hother : ∀ r, sameEntry t' r = true → sameEntry t r = false := by
    intro r hr
    simp only [sameEntry, Bool.and_eq_true, beq_iff_eq] at hr
    simp [sameEntry, hr.2, hne]
  obtain ⟨r, hr, hsame⟩ := h.found
  refine ⟨⟨r, mem_upsertTarget.mpr (.inr (.inl ⟨hr, hother r hsame⟩)), hsame⟩, fun r hr hsame => ?_⟩
  rcases mem_upsertTarget.mp hr with ⟨r₀, -, hr₀, rfl⟩ | ⟨hr, -⟩ | ⟨-, rfl⟩
  · have hold := hother r₀ hsame
    rw [hr₀] at hold
    cases hold
  · exact h.same r hr hsame
  · have hnew := hother _ hsame
    simp [sameEntry] at hnew

end Stored

namespace ImportCall

variable {a : ImportCall} {db : DB} {values : List String}

theorem Steady.inPlace (h : a.Steady db values)
    (hall : ∀ v ∈ values, storableTarget db (a.entry db v) = true) :
    ∀ v ∈ values, InPlace (a.lastStored db values) (a.entry db v) := by
  -- a value is the last one, or was in place before it was stored
  have hbefore : ∀ v ∈ values, values.getLast? = some v ∨ InPlace db (a.entry db v) := by
    induction values with
    | nil => exact List.forall_mem_nil _
    | cons v vs ih =>
      obtain ⟨hv, hvs⟩ := List.forall_mem_cons.mp hall
      obtain ⟨hplace, hrest⟩ := h.2 hv
      cases vs with
      | nil => simp
      | cons w ws =>
        rw [List.getLast?_cons_cons]
        refine List.forall_mem_cons.mpr ⟨.inr (hplace (List.cons_ne_nil w ws)), ih hrest hvs⟩
  intro v hv
  cases hlast : values.getLast? with
  | none => simp [List.getLast?_eq_none_iff.mp hlast] at hv
  | some last =>
    have hdb : a.lastStored db values = stored db (a.entry db last) := by simp [lastStored, hlast]
    rw [hdb]
    by_cases hvalue : v = last
    · subst hvalue
      exact inPlace_stored
    · rcases hbefore v hv with hv' | hplace
      · rw [hlast] at hv'
        exact absurd (Option.some.inj hv').symm hvalue
      · exact hplace.stored_other hvalue

theorem Steady.groupNamed (h : a.Steady db values) (hgroup : a.groupID = none)
    (hall : ∀ v ∈ values, storableTarget db (a.entry db v) = true) :
    ∀ v ∈ values, PinkGlasses.groupNamed a.scopeID v db = some (a.group db v) := by
  induction values with
  | nil => exact List.forall_mem_nil _
  | cons v vs ih =>
    obtain ⟨hv, hvs⟩ := List.forall_mem_cons.mp hall
    refine List.forall_mem_cons.mpr ⟨?_, ih (h.2 hv).2 hvs⟩
    have hsome := h.1 hgroup (storable_of_storableTarget hv)
    obtain ⟨gid, hgid⟩ := Option.isSome_iff_exists.mp hsome
    rw [hgid, group_of_named hgroup hgid]

theorem groupNamed_lastStored (scopeID : UUID) (name : String) :
    PinkGlasses.groupNamed scopeID name (a.lastStored db values) =
      PinkGlasses.groupNamed scopeID name db := by
  unfold lastStored
  split <;> rfl

end ImportCall

/-! ### A body and what is written for it -/

section Body

variable {req : AddTargetRequest} {scopeID : UUID} {inp : AddTargetInput} {db : DB} {v : String}

theorem InPlace.holds_iff {t r : ScopeTarget} (h : InPlace db t) (hr : r ∈ db.scopeTargets.rows)
    (hsame : sameEntry t r = true) : inp.Holds r ↔ inp.Holds t := by
  have hkind : r.kind = t.kind := by
    simp only [sameEntry, Bool.and_eq_true, beq_iff_eq] at hsame
    exact hsame.1.2
  rw [← h.same r hr hsame]
  constructor
  · intro h
    exact ⟨hkind ▸ h.kind, h.tags, h.mode, h.authorize⟩
  · intro h
    exact ⟨hkind ▸ h.kind, h.tags, h.mode, h.authorize⟩

theorem ofText?_eq_active {text : String} :
    TargetMode.ofText? text = some .active ↔ text = "active" := by
  unfold TargetMode.ofText?
  split <;> simp_all

theorem ofText?_eq_passiveOnly {text : String} :
    TargetMode.ofText? text = some .passiveOnly ↔ text = "passive_only" := by
  unfold TargetMode.ofText?
  split <;> simp_all

/-- **What is written is what the body asks for exactly if the body is consistent.** -/
theorem holds_entry_iff :
    inp.Holds ((req.importCall scopeID inp db).entry db v) ↔ inp.Consistent v := by
  have hkind : (inp.kind ≠ "" → inp.kind = (guessKind v).text) ↔
      inp.kind = "" ∨ inp.kind = (guessKind v).text := by
    by_cases h : inp.kind = "" <;> simp [h]
  have hmode : (inp.mode ≠ "" → TargetMode.ofText? inp.mode =
        some (if authorizesNew inp then .active else .passiveOnly)) ∧
      (inp.authorize = true → authorizesNew inp = true) ↔
      inp.mode = "" ∨ (inp.mode = "active" ∧ inp.authorize = true) ∨
        (inp.mode = "passive_only" ∧ inp.authorize = false) := by
    -- the input may name no mode, the one it asks for, or another
    by_cases hnone : inp.mode = ""
    · simp [authorizesNew, hnone]
    · by_cases hactive : inp.mode = "active"
      · cases hauth : inp.authorize <;> simp [authorizesNew, hactive, hauth, ofText?_eq_passiveOnly,
          ofText?_eq_active]
      · cases hauth : inp.authorize <;> simp [authorizesNew, hnone, hactive, hauth,
          ofText?_eq_passiveOnly]
  have hauthorized : ((req.importCall scopeID inp db).entry db v).authorized =
      authorizesNew inp := by
    have hentry : ((req.importCall scopeID inp db).entry db v).authorized =
        (newTarget scopeID ((req.importCall scopeID inp db).group db v) inp.tags (authorizesNew inp)
          req.actor req.now v).authorized := rfl
    rw [hentry]
    cases authorizesNew inp <;> rfl
  constructor
  · intro h
    exact ⟨hkind.mp h.kind, hmode.mp ⟨h.mode, hauthorized ▸ h.authorize⟩⟩
  · intro h
    obtain ⟨hm, ha⟩ := hmode.mpr h.mode
    exact ⟨hkind.mpr h.kind, rfl, hm, hauthorized ▸ ha⟩

/-- Where the loop ends, what was asked for is in force exactly if the body is consistent for every
value. -/
theorem inForce_lastStored_iff (hscope : req.scopeID = some scopeID) (hbody : req.body = some inp)
    (hnamed : trimSpace inp.group ≠ "" →
      (groupNamed scopeID (trimSpace inp.group) db).isSome = true)
    (hsteady : (req.importCall scopeID inp db).Steady db (addedValues inp))
    (hall : ∀ v ∈ addedValues inp,
      storableTarget db ((req.importCall scopeID inp db).entry db v) = true) :
    req.InForce ((req.importCall scopeID inp db).lastStored db (addedValues inp)) ↔
      ∀ v ∈ addedValues inp, inp.Consistent v := by
  have hplace := hsteady.inPlace hall
  have hgroup : ∀ v ∈ addedValues inp, groupNamed scopeID (inp.groupName v) db =
      some ((req.importCall scopeID inp db).group db v) := by
    intro v hv
    -- without a group name every value has a group of its own
    by_cases hg : trimSpace inp.group = ""
    · have hnone : (req.importCall scopeID inp db).groupID = none := if_pos hg
      rw [AddTargetInput.groupName, if_pos hg]
      exact hsteady.groupNamed hnone hall v hv
    · obtain ⟨gid, hgid⟩ := Option.isSome_iff_exists.mp (hnamed hg)
      have hsome : (req.importCall scopeID inp db).groupID = some gid := (if_neg hg).trans hgid
      rw [AddTargetInput.groupName, if_neg hg, hgid, ImportCall.group, hsome, Option.getD_some]
  constructor
  · rintro ⟨scopeID', inp', hs, hb, h⟩ v hv
    cases hscope.symm.trans hs
    cases hbody.symm.trans hb
    obtain ⟨gid, hgid, t, ht, htid, htkind, htvalue, hholds⟩ := h v hv
    rw [ImportCall.groupNamed_lastStored, hgroup v hv] at hgid
    cases hgid
    have hsame : sameEntry ((req.importCall scopeID inp db).entry db v) t = true := by
      simp [sameEntry, ImportCall.entry, newTarget, htid, htkind, htvalue]
    exact holds_entry_iff.mp (((hplace v hv).holds_iff ht hsame).mp hholds)
  · intro h
    refine ⟨scopeID, inp, hscope, hbody, fun v hv => ?_⟩
    obtain ⟨t, ht, hsame⟩ := (hplace v hv).found
    have hholds := ((hplace v hv).holds_iff ht hsame).mpr (holds_entry_iff.mpr (h v hv))
    simp only [sameEntry, Bool.and_eq_true, beq_iff_eq] at hsame
    refine ⟨_, (ImportCall.groupNamed_lastStored ..).trans (hgroup v hv), t, ht, ?_⟩
    exact ⟨hsame.1.1, hsame.1.2, hsame.2, hholds⟩

end Body

/-! ### The parts of the handler -/

section Parts

variable {req : AddTargetRequest} {scopeID : UUID} {inp : AddTargetInput} {db st : DB}
  {inForce : DB → Prop} {α : Type}

theorem allEnds_namedGroup {group : String} {f : Option UUID → Handler α}
    (hf : ∀ gid, MayFail db inForce (f gid)) :
    Assured db inForce inForce db (namedGroup scopeID group >>= f) ↔
      (trimSpace group ≠ "" → storable (trimSpace group) = true →
        (groupNamed scopeID (trimSpace group) db).isSome = true) ∧
      ((trimSpace group = "" ∨ storable (trimSpace group) = true) →
        Assured db inForce inForce db
          (f (if trimSpace group = "" then
            none else groupNamed scopeID (trimSpace group) db))) := by
  by_cases hg : trimSpace group = ""
  · have hpure : namedGroup scopeID group = pure none := if_pos hg
    unfold Assured
    rw [hpure, allEnds_bind, allEnds_pure]
    simp [hg]
  · have hask : namedGroup scopeID group = (do
        let id ← ask (.ensureTargetGroup scopeID (trimSpace group))
        pure (some id)) := if_neg hg
    rw [hask, Assured, allEnds_assoc]
    refine (allEnds_ensure (f := fun gid => f (some gid)) fun st gid => hf (some gid) st).trans ?_
    simp only [hg, if_false, ne_eq, not_false_eq_true, forall_const, false_or]
    constructor
    · intro h
      constructor
      · intro hstorable
        obtain ⟨gid, hgid, -⟩ := h hstorable
        rw [hgid, Option.isSome_some]
      · intro hstorable
        obtain ⟨gid, hgid, hrest⟩ := h hstorable
        rw [hgid]
        exact hrest
    · intro h hstorable
      obtain ⟨gid, hgid⟩ := Option.isSome_iff_exists.mp (h.1 hstorable)
      have hrest := h.2 hstorable
      rw [hgid] at hrest
      exact ⟨gid, hgid, hrest⟩

/-- The updates to the excluded mode can all fail. -/
theorem inForce_of_excludeSaved {saved : List ScopeTarget}
    (h : Assured db inForce inForce st (excludeSaved scopeID saved)) : inForce st := by
  induction saved with
  | nil => exact allEnds_pure.mp h
  | cons t ts ih =>
    have hfailed := (allEnds_attempt.mp (allEnds_bind.mp h)).1
    exact ih (allEnds_last.mp hfailed)

theorem allEnds_importValues (hscope : req.scopeID = some scopeID) (hbody : req.body = some inp)
    (hvalues : addedValues inp ≠ [])
    (hnamed : trimSpace inp.group ≠ "" →
      (groupNamed scopeID (trimSpace inp.group) db).isSome = true) :
    Assured db req.InForce req.InForce db
        (importValues scopeID (req.importCall scopeID inp db).groupID inp req.actor req.now) ↔
      (req.importCall scopeID inp db).Steady db (addedValues inp) ∧
      ((∀ v ∈ addedValues inp, storableTarget db
        ((req.importCall scopeID inp db).entry db v) = true) →
        ∀ v ∈ addedValues inp, inp.Consistent v) := by
  have hloop : addTargetValues scopeID (req.importCall scopeID inp db).groupID inp.tags
      (authorizesNew inp) req.actor req.now (addedValues inp) =
      (req.importCall scopeID inp db).run (addedValues inp) := rfl
  have hend := fun hsteady => imp_congr_right fun hall =>
    inForce_lastStored_iff hscope hbody hnamed hsteady hall
  unfold importValues Assured
  rw [hloop]
  by_cases hmode : inp.mode = "exclude"
  · simp only [hmode, if_true]
    rw [allEnds_bind]
    constructor
    · intro h
      have hforce : Assured db req.InForce req.InForce db
          ((req.importCall scopeID inp db).run (addedValues inp)) := by
        refine h.mono fun st' r hr => ?_
        cases r with
        | ok saved => exact inForce_of_excludeSaved hr
        | error e => exact hr
      obtain ⟨hsteady, hlast⟩ := (ImportCall.allEnds_run _).mp hforce
      exact ⟨hsteady, (hend hsteady).mp hlast⟩
    · rintro ⟨hsteady, hconsistent⟩
      -- a body in this mode is never consistent, so the loop does not come to its end
      have hrefused : Assured db req.InForce (fun _ => False) db
          ((req.importCall scopeID inp db).run (addedValues inp)) := by
        refine (ImportCall.allEnds_run _).mpr ⟨hsteady, fun hall => ?_⟩
        obtain ⟨v, hv⟩ := List.exists_mem_of_ne_nil _ hvalues
        have hmodes := (hconsistent hall v hv).mode
        simp [hmode] at hmodes
      refine hrefused.mono fun st' r hr => ?_
      cases r with
      | ok saved => exact hr.elim
      | error e => exact hr
  · simp only [hmode, if_false]
    refine allEnds_last.trans ((ImportCall.allEnds_run _).trans ?_)
    exact and_congr_right hend

theorem mayFail_importValues (hvalues : addedValues inp ≠ []) (gid : Option UUID) (actor : String)
    (now : Time) : MayFail db inForce (importValues scopeID gid inp actor now) := by
  intro st h
  obtain ⟨v, vs, hcons⟩ := List.exists_cons_of_ne_nil hvalues
  unfold importValues Assured at h
  rw [hcons, allEnds_bind] at h
  have hloop : Assured db inForce (fun _ => True) st
      ((⟨scopeID, gid, inp.tags, authorizesNew inp, actor, now⟩ : ImportCall).run (v :: vs)) := by
    refine h.mono fun st' r hr => ?_
    cases r with
    | ok saved => trivial
    | error e => exact hr
  exact ImportCall.same_of_run hloop

end Parts

/-- **`addTarget` is all or nothing, whatever fails, exactly under its condition.** -/
theorem addTarget_allOrNothing_iff (req : AddTargetRequest) (db : DB) :
    editSystem.AllEnds db (TargetRequest.addTarget req).handler.run
      (AllOrNothing (SameTargets db) req.InForce) ↔ req.WritesInPlace db := by
  refine (allEnds_reply (by decide)).trans ?_
  unfold addTarget AddTargetRequest.WritesInPlace
  cases hscope : req.scopeID with
  | none => exact iff_of_true (assured_throw (by decide)) nofun
  | some scopeID =>
    cases hbody : req.body with
    | none => exact iff_of_true (assured_throw (by decide)) nofun
    | some inp =>
      refine Iff.trans ?_ ⟨?_, fun h => h scopeID inp rfl rfl⟩
      swap
      · rintro h _ _ ⟨⟩ ⟨⟩
        exact h
      by_cases hvalues : addedValues inp = []
      · simp only [hvalues, List.isEmpty_nil, if_true]
        exact iff_of_true (assured_throw (by decide)) fun h => absurd rfl h
      · simp only [List.isEmpty_eq_false_iff.mpr hvalues, forall_prop_of_true hvalues]
        refine (allEnds_namedGroup fun gid => mayFail_importValues hvalues gid _ _).trans ?_
        refine and_congr_right fun hgroup => imp_congr_right fun hreached => ?_
        exact allEnds_importValues hscope hbody hvalues fun hg =>
          hgroup hg (hreached.resolve_left hg)

/-- A new password for alice, and bob's name. -/
def takenName : PatchUserRequest where
  userID := some 1
  body := some { username := some "bob", password := some "correct horse battery" }
  newHash := some "new-hash"

/-- Another name for the group, and an empty list. -/
def renameAndEmpty : PatchRequest where
  scopeID := some 1
  groupID := some 1
  body := some { name := some "hosts", values := some [] }

/-- A target in the active mode, not authorized. -/
def activeOnly : AddTargetRequest where
  scopeID := some 1
  body := some { value := "a.example", mode := "active" }

/-- Who makes the requests. -/
def anAdmin : Identity := { userID := 2, username := "bob", role := .admin, via := .session }

end PinkGlasses
