import PinkGlasses.Lib.Arrivals
import PinkGlasses.Targets

/-!
# PinkGlasses.Targets.Lost

**Concurrent edits of one target.** `patchTarget` reads the row, and later writes all of its
columns, so what a body does not name is written back as it was read: an edit that falls in between
is lost.

* `TargetField` are the fields a body can name, `TargetInput.Gives` what naming one means.
* `Undisputed` is the condition on a write: nothing that its body leaves out has changed since its
  request read the row, and it takes no authorization away without a word.
* `fields_kept`: in every run whose writes are undisputed, a field is changed only by a request that
  names it, and to what that request gives it.
-/

namespace PinkGlasses

open Lib Lib.Prog Store Handler System

/-- Edits of targets, one statement at a time. -/
def patchSystem : System TargetStmt DB Unit PatchTargetRequest (Except ErrorReply ScopeTarget) where
  exec := fun s _ db => s.exec db
  accepts := fun _ _ => true
  prog := fun req => (patchTarget req).run

/-- A field of the body of `patchTarget`. -/
inductive TargetField
  | value
  | mode
  | tags
  | authorize
deriving Repr, DecidableEq

/-- Two rows agree on the field. The kind goes with the value. -/
def TargetField.Same (t t' : ScopeTarget) : TargetField → Prop
  | value => t'.kind = t.kind ∧ t'.value = t.value
  | mode => t'.mode = t.mode
  | tags => t'.tags = t.tags
  | authorize => t'.authorizedBy = t.authorizedBy ∧ t'.authorizedAt = t.authorizedAt

instance (t t' : ScopeTarget) (f : TargetField) : Decidable (f.Same t t') := by
  induction f using TargetField.casesOn <;> unfold TargetField.Same <;> infer_instance

/-- The body names the field and the row has it as the body says. -/
def TargetInput.Gives (inp : TargetInput) (actor : String) (now : Time) (t : ScopeTarget) :
    TargetField → Prop
  | .value => ∃ raw, inp.value = some raw ∧ t.value = trimSpace (toLower raw)
  | .mode => ∃ text, inp.mode = some text ∧ TargetMode.ofText? text = some t.mode
  | .tags => inp.tags = some t.tags
  | .authorize => ∃ yes, inp.authorize = some yes ∧
    (t.authorizedBy, t.authorizedAt) =
      if yes = true ∧ t.mode = .active then (some actor, some now) else (none, none)

/-- The request is for the target, and its body gives the field as the row has it. -/
def PatchTargetRequest.Sets (r : PatchTargetRequest) (scopeID id : UUID) (t : ScopeTarget)
    (f : TargetField) : Prop :=
  r.scopeID = some scopeID ∧ r.targetID = some id ∧
    ∃ inp, r.body = some inp ∧ inp.Gives r.actor r.now t f

/-- What a request read of the target. -/
def readOf (scopeID id : UUID) (h : Hist TargetStmt) : List ScopeTarget :=
  h.filterMap fun
    | ⟨.getTarget s i, some (some cur)⟩ => if s = scopeID ∧ i = id then some cur else none
    | _ => none

/-- The row is still as it was read, on **every field that the body leaves out**; and if the body
says nothing about the authorization and the target will not be in the active mode, there is no
record of one. -/
structure StillAs (inp : TargetInput) (cur t : ScopeTarget) : Prop where
  value : inp.value = none → TargetField.Same cur t .value
  mode : inp.mode = none → TargetField.Same cur t .mode
  tags : inp.tags = none → TargetField.Same cur t .tags
  authorize : inp.authorize = none → TargetField.Same cur t .authorize
  record : inp.authorize = none → (newMode t inp).toOption ≠ some .active →
    t.authorizedBy = none ∧ t.authorizedAt = none

instance (inp : TargetInput) (cur t : ScopeTarget) : Decidable (StillAs inp cur t) :=
  decidable_of_iff (_ ∧ _ ∧ _ ∧ _ ∧ _)
    ⟨fun h => ⟨h.1, h.2.1, h.2.2.1, h.2.2.2.1, h.2.2.2.2⟩, fun h => ⟨h.1, h.2, h.3, h.4, h.5⟩⟩

/-- **The condition on a write**: the row it goes to is still as the request read it. -/
def Undisputed {ρ : Type} (r : PatchTargetRequest) (c : Conf TargetStmt DB ρ) (i : Nat) (β : Type) :
    TargetStmt β → Prop
  | .updateTarget scopeID id _ => match r.body, findTarget scopeID id c.state, c.threads[i]? with
    | some inp, some t, some thread => ∀ cur ∈ readOf scopeID id thread.hist, StillAs inp cur t
    | _, _, _ => True
  | _ => True

instance {ρ : Type} (r : PatchTargetRequest) (c : Conf TargetStmt DB ρ) (i : Nat) (β : Type)
    (s : TargetStmt β) : Decidable (Undisputed r c i β s) := by
  unfold Undisputed
  split
  · split <;> infer_instance
  · infer_instance

/-! ### One write -/

section Write

variable {cur t : ScopeTarget} {inp : TargetInput} {actor : String} {now : Time}
  {cols : TargetColumns}
  {db db' : DB} {scopeID id : UUID}

theorem TargetField.same_refl (t : ScopeTarget) (f : TargetField) : f.Same t t := by
  cases f <;> simp [Same]

theorem TargetField.Same.trans {t₁ t₂ t₃ : ScopeTarget} {f : TargetField} (h : f.Same t₁ t₂)
    (h' : f.Same t₂ t₃) : f.Same t₁ t₃ := by
  cases f
  · exact ⟨h'.1.trans h.1, h'.2.trans h.2⟩
  · exact Eq.trans h' h
  · exact Eq.trans h' h
  · exact ⟨h'.1.trans h.1, h'.2.trans h.2⟩

/-- What `patchTarget` computes for the columns, column by column. -/
theorem newColumns_eq_ok (h : newColumns cur inp actor now = .ok cols) :
    newValue cur inp = .ok (cols.kind, cols.value) ∧ newMode cur inp = .ok cols.mode ∧
    cols.tags = inp.tags.getD cur.tags ∧
    (cols.authorizedBy, cols.authorizedAt) = newAuth cur inp cols.mode actor now := by
  simp only [newColumns] at h
  cases hvalue : newValue cur inp with
  | error e => rw [hvalue] at h; cases h
  | ok kv =>
    cases hmode : newMode cur inp with
    | error e => rw [hvalue, hmode] at h; cases h
    | ok mode =>
      rw [hvalue, hmode] at h
      obtain rfl := Except.ok.inj h
      exact ⟨rfl, rfl, rfl, rfl⟩

theorem newValue_field (h : newValue cur inp = .ok (cols.kind, cols.value))
    (hsame : inp.value = none → TargetField.Same cur t .value) :
    TargetField.value.Same t (cols.apply t) ∨ inp.Gives actor now (cols.apply t) .value := by
  unfold newValue at h
  split at h
  · rename_i hinp
    obtain ⟨hkind', hvalue'⟩ := Prod.mk.inj (Except.ok.inj h)
    obtain ⟨hkind, hvalue⟩ := hsame hinp
    exact .inl ⟨hkind'.symm.trans hkind.symm, hvalue'.symm.trans hvalue.symm⟩
  · rename_i raw hinp
    refine .inr ⟨raw, hinp, ?_⟩
    simp only at h
    split at h
    · cases h
    split at h
    · rename_i hv
      exact (Prod.mk.inj (Except.ok.inj h)).2.symm.trans hv.symm
    · exact (Prod.mk.inj (Except.ok.inj h)).2.symm

theorem newMode_field (h : newMode cur inp = .ok cols.mode)
    (hsame : inp.mode = none → TargetField.Same cur t .mode) :
    TargetField.mode.Same t (cols.apply t) ∨ inp.Gives actor now (cols.apply t) .mode := by
  unfold newMode at h
  split at h
  · rename_i hinp
    have hmode : cur.mode = cols.mode := Except.ok.inj h
    exact .inl (hmode.symm.trans (Eq.symm (hsame hinp)))
  · rename_i text hinp
    split at h
    · rename_i mode hmode
      exact .inr ⟨text, hinp, hmode.trans (congrArg some (Except.ok.inj h))⟩
    · cases h

theorem newTags_field (h : cols.tags = inp.tags.getD cur.tags)
    (hsame : inp.tags = none → TargetField.Same cur t .tags) :
    TargetField.tags.Same t (cols.apply t) ∨ inp.Gives actor now (cols.apply t) .tags := by
  cases hinp : inp.tags with
  | none =>
    rw [hinp] at h
    exact .inl (Eq.trans h (Eq.symm (hsame hinp)))
  | some tags =>
    rw [hinp] at h
    refine .inr (Eq.trans hinp ?_)
    rw [TargetColumns.apply, h]
    rfl

theorem newMode_congr (hsame : inp.mode = none → TargetField.Same cur t .mode) :
    newMode t inp = newMode cur inp := by
  unfold newMode
  cases hinp : inp.mode with
  | none => rw [hsame hinp]
  | some text => rfl

theorem newAuth_field
    (h : (cols.authorizedBy, cols.authorizedAt) = newAuth cur inp cols.mode actor now)
    (hsame : inp.authorize = none → TargetField.Same cur t .authorize)
    (hclear : inp.authorize = none → cols.mode ≠ .active →
      t.authorizedBy = none ∧ t.authorizedAt = none) :
    TargetField.authorize.Same t (cols.apply t) ∨
      inp.Gives actor now (cols.apply t) .authorize := by
  cases hinp : inp.authorize with
  | none =>
    left
    unfold newAuth at h
    split at h
    · rename_i hmode
      obtain ⟨hby, hat⟩ := hclear hinp hmode
      obtain ⟨hby', hat'⟩ := Prod.mk.inj h
      exact ⟨hby'.trans hby.symm, hat'.trans hat.symm⟩
    · rw [hinp] at h
      obtain ⟨hby, hat⟩ := hsame hinp
      obtain ⟨hby', hat'⟩ := Prod.mk.inj h
      exact ⟨hby'.trans hby.symm, hat'.trans hat.symm⟩
  | some yes =>
    refine .inr ⟨yes, hinp, h.trans ?_⟩
    unfold newAuth
    rw [hinp]
    cases yes <;> by_cases hmode : cols.mode = .active <;> simp [TargetColumns.apply, hmode]

theorem mem_readOf {h : Hist TargetStmt}
    (hread : h.Asked (.getTarget scopeID id) (some (some cur))) :
    cur ∈ readOf scopeID id h :=
  List.mem_filterMap.mpr ⟨_, hread, by simp⟩

/-- **One undisputed write**: each field stays, or is what the body gives. -/
theorem newColumns_field (h : newColumns cur inp actor now = .ok cols)
    (hstill : StillAs inp cur t) (f : TargetField) :
    f.Same t (cols.apply t) ∨ inp.Gives actor now (cols.apply t) f := by
  obtain ⟨hvalue, hmode, htags, hauth⟩ := newColumns_eq_ok h
  cases f with
  | value => exact newValue_field hvalue hstill.value
  | mode => exact newMode_field hmode hstill.mode
  | tags => exact newTags_field htags hstill.tags
  | authorize =>
    refine newAuth_field hauth hstill.authorize fun hinp hne => hstill.record hinp ?_
    rw [newMode_congr hstill.mode, hmode]
    simpa [Except.toOption] using hne

theorem findTarget_updated (db : DB) (s' id' : UUID) :
    findTarget s' id' { db with
      scopeTargets := db.scopeTargets.update (fun t => t.id == id && t.scopeID == scopeID)
        cols.apply } =
    (findTarget s' id' db).map fun t =>
      if t.id == id && t.scopeID == scopeID then cols.apply t else t := by
  have hkeep : (fun t : ScopeTarget => t.id == id' && t.scopeID == s') ∘
      (fun t => if t.id == id && t.scopeID == scopeID then cols.apply t else t) =
      fun t => t.id == id' && t.scopeID == s' := by
    funext t
    simp only [Function.comp_apply]
    split <;> rfl
  show List.find? _ (List.map _ _) = _
  rw [List.find?_map, hkeep]
  rfl

theorem exec_updateTarget {b : TargetUpdated}
    (h : (TargetStmt.updateTarget scopeID id cols).exec db = some (b, db')) {s' id' : UUID}
    (ht : findTarget s' id' db = some t) :
    findTarget s' id' db' = some t ∨
      s' = scopeID ∧ id' = id ∧ findTarget s' id' db' = some (cols.apply t) := by
  simp only [TargetStmt.exec] at h
  split at h
  · split at h
    · cases h
      exact .inl ht
    · split at h
      · cases h
        exact .inl ht
      · cases h
        rw [findTarget_updated, ht, Option.map_some]
        obtain ⟨-, rfl, rfl⟩ := findTarget_some ht
        split
        · rename_i hrow
          simp only [Bool.and_eq_true, beq_iff_eq] at hrow
          exact .inr ⟨hrow.2, hrow.1, rfl⟩
        · exact .inl rfl
  · cases h

end Write

/-! ### The contract of a request -/

/-- What a request issues: a read, and a write of the columns it computes from what it read. -/
def patchPre (r : PatchTargetRequest) (h : Hist TargetStmt) (β : Type) : TargetStmt β → Prop
  | .getTarget _ _ => True
  | .updateTarget scopeID id cols => r.scopeID = some scopeID ∧ r.targetID = some id ∧
    ∃ inp cur, r.body = some inp ∧ h.Asked (.getTarget scopeID id) (some (some cur)) ∧
      newColumns cur inp r.actor r.now = .ok cols
  | _ => False

theorem patchTarget_meets (r : PatchTargetRequest) :
    (patchTarget r).run.Meets (patchPre r) [] fun _ _ => True := by
  unfold patchTarget
  split
  · trivial
  · trivial
  · trivial
  · rename_i scopeID id inp hs hid hinp
    refine meets_bind_except.mpr (meets_query.mpr ⟨trivial, fun found => ?_, trivial⟩)
    cases found with
    | none => trivial
    | some cur =>
      simp only [writeTarget]
      split
      · trivial
      · rename_i cols hcols
        refine meets_bind_except.mpr (meets_query.mpr ⟨?_, fun b => ?_, trivial⟩)
        · exact ⟨hs, hid, inp, cur, hinp, Hist.asked_head .., hcols⟩
        · cases b <;> trivial

/-! ### Any interleaving -/

/-- An event changes of a row only what the request behind it sets. -/
def StepSets (rs : List PatchTargetRequest) (e : Event PatchTargetRequest Unit) (db db' : DB) :
    Prop :=
  ∀ scopeID id t, findTarget scopeID id db = some t →
    ∃ t', findTarget scopeID id db' = some t' ∧ ∀ f, TargetField.Same t t' f ∨
      ∃ i o r, e = .step i o ∧ rs[i]? = some r ∧ r.Sets scopeID id t' f

/-- Some events leave a field of a row as it was, or **as a write of a request that sets it left
it**. -/
def RunSets (rs : List PatchTargetRequest) (es : List (Event PatchTargetRequest Unit))
    (db db' : DB) :
    Prop :=
  ∀ scopeID id t, findTarget scopeID id db = some t →
    ∃ t', findTarget scopeID id db' = some t' ∧ ∀ f, TargetField.Same t t' f ∨
      ∃ i o r written, .step i o ∈ es ∧ rs[i]? = some r ∧ r.Sets scopeID id written f ∧
        TargetField.Same written t' f

section Run

variable {rs : List PatchTargetRequest} {e : Event PatchTargetRequest Unit}
  {es : List (Event PatchTargetRequest Unit)} {db db₁ db' : DB}
  {c : Conf TargetStmt DB (Except ErrorReply ScopeTarget)}

theorem stepSets_of_eq (h : db' = db) : StepSets rs e db db' := by
  subst h
  exact fun _ _ t ht => ⟨t, ht, fun f => .inl (f.same_refl t)⟩

theorem StepSets.more (h : StepSets rs e db db') (rs' : List PatchTargetRequest) :
    StepSets (rs ++ rs') e db db' := by
  intro scopeID id t ht
  obtain ⟨t', ht', hf⟩ := h scopeID id t ht
  refine ⟨t', ht', fun f => (hf f).imp_right ?_⟩
  rintro ⟨i, o, r, he, hr, hset⟩
  exact ⟨i, o, r, he, (List.getElem?_append_left (List.getElem?_eq_some_iff.mp hr).1).trans hr,
    hset⟩

theorem runSets_nil : RunSets rs [] db db :=
  fun _ _ t ht => ⟨t, ht, fun f => .inl (f.same_refl t)⟩

theorem StepSets.cons (h : StepSets rs e db db₁) (hrun : RunSets rs es db₁ db') :
    RunSets rs (e :: es) db db' := by
  intro scopeID id t ht
  obtain ⟨t₁, ht₁, hstep⟩ := h scopeID id t ht
  obtain ⟨t', ht', hf⟩ := hrun scopeID id t₁ ht₁
  refine ⟨t', ht', fun f => ?_⟩
  rcases hf f with hsame | ⟨i, o, r, w, hmem, hr, hset, hsame⟩
  · rcases hstep f with hsame₁ | ⟨i, o, r, rfl, hr, hset⟩
    · exact .inl (hsame₁.trans hsame)
    · exact .inr ⟨i, o, r, t₁, List.mem_cons_self, hr, hset, hsame⟩
  · exact .inr ⟨i, o, r, w, List.mem_cons_of_mem _ hmem, hr, hset, hsame⟩

theorem stmt_sets {i : Nat} {r : PatchTargetRequest} {h : Hist TargetStmt} {β : Type}
    {s : TargetStmt β} {k : Option β → Prog TargetStmt (Except ErrorReply ScopeTarget)} {b : β}
    (o : Unit) (hr : rs[i]? = some r) (ht : c.threads[i]? = some ⟨h, .call s k⟩)
    (hpre : patchPre r h β s) (hok : Undisputed r c i β s)
    (hexec : s.exec c.state = some (b, db')) :
    StepSets rs (.step i o) c.state db' := by
  cases s with
  | getTarget _ _ =>
    cases hexec
    exact stepSets_of_eq rfl
  | updateTarget scopeID id cols =>
    obtain ⟨hs, hid, inp, cur, hinp, hread, hcols⟩ := hpre
    intro scopeID' id' t hrow
    rcases exec_updateTarget hexec hrow with hkept | ⟨rfl, rfl, hnew⟩
    · exact ⟨t, hkept, fun f => .inl (f.same_refl t)⟩
    · simp only [Undisputed, hinp, hrow, ht] at hok
      have hstill := hok cur (mem_readOf hread)
      refine ⟨_, hnew, fun f => (newColumns_field hcols hstill f).imp_right fun hgives => ?_⟩
      exact ⟨i, o, r, rfl, hr, hs, hid, inp, hinp, hgives⟩
  | _ => exact hpre.elim

theorem fields_next (hc : System.Serves patchPre (fun _ _ _ => True) rs c)
    (hok : System.Allowed (okFor Undisputed rs) c e) :
    StepSets rs e c.state (patchSystem.next c e).state := by
  cases e with
  | spawn r => exact stepSets_of_eq rfl
  | fail i =>
    refine stepSets_of_eq ?_
    simp only [next]
    split <;> rfl
  | step i o =>
    simp only [next]
    split
    · rename_i h β s k ht
      have hlt : i < rs.length := hc.length ▸ (List.getElem?_eq_some_iff.mp ht).1
      have hr : rs[i]? = some rs[i] := List.getElem?_eq_getElem hlt
      simp only [System.Allowed, okFor, hr, ht] at hok
      cases hexec : patchSystem.exec s o c.state with
      | none => exact stepSets_of_eq rfl
      | some a => exact stmt_sets o hr ht (hc.contract hr ht).1 hok hexec
    · exact stepSets_of_eq rfl

theorem fields_run (hc : System.Serves patchPre (fun _ _ _ => True) rs c)
    (hok : patchSystem.AlongFor Undisputed rs c es) :
    RunSets (rs ++ patchSystem.arrivals c es) es c.state (patchSystem.run c es).state := by
  induction es generalizing rs c with
  | nil => exact runSets_nil
  | cons e es ih =>
    rw [arrivals, ← List.append_assoc]
    refine StepSets.cons ?_ (ih (hc.next patchTarget_meets e) hok.2)
    rw [List.append_assoc]
    exact (fields_next hc hok.1).more _

end Run

/-- What holds along a run of edits. -/
structure FieldsKept (db : DB) (es : List (Event PatchTargetRequest Unit)) : Prop where
  /-- Each event changes a field only if it is a step of a request that names it, to what that
  request says. -/
  each : ∀ es₁ e es₂, es = es₁ ++ e :: es₂ →
    StepSets (patchSystem.arrivals ⟨db, []⟩ es) e (patchSystem.run ⟨db, []⟩ es₁).state
      (patchSystem.run ⟨db, []⟩ (es₁ ++ [e])).state
  /-- From any point on, a field stays as it is until a request that names it writes, and at the end
  it is as such a write left it, or as it was. -/
  rest : ∀ es₁ es₂, es = es₁ ++ es₂ →
    RunSets (patchSystem.arrivals ⟨db, []⟩ es) es₂ (patchSystem.run ⟨db, []⟩ es₁).state
      (patchSystem.run ⟨db, []⟩ es).state

/-- **An edit changes only what its body names**, in every run of edits that interleave and fail in
any way, if every write is undisputed. -/
theorem fields_kept (db : DB) (es : List (Event PatchTargetRequest Unit))
    (hok : patchSystem.AlongFor Undisputed [] ⟨db, []⟩ es) : FieldsKept db es := by
  have hserves : ∀ es₁, System.Serves patchPre (fun _ _ _ => True)
      ([] ++ patchSystem.arrivals ⟨db, []⟩ es₁) (patchSystem.run ⟨db, []⟩ es₁) :=
    (System.Serves.start db).run patchTarget_meets
  constructor
  · rintro es₁ e es₂ rfl
    have hstep := fields_next (hserves es₁) hok.after.1
    rw [run_append, arrivals_append]
    exact hstep.more _
  · rintro es₁ es₂ rfl
    rw [run_append, arrivals_append]
    exact fields_run (hserves es₁) hok.after

/-! ### Two edits of one target -/

/-- A company with one target. -/
def oneTarget : DB where
  targetGroups := .ofRows [{ id := 1, scopeID := 1, name := "a.example" }] (by decide)
  scopeTargets := .ofRows [{
    id := 1, scopeID := 1, kind := .domain, value := "a.example", mode := .passiveOnly
    groupID := some 1 }] (by decide)

/-- It is excluded. -/
def excludeIt : PatchTargetRequest :=
  { scopeID := some 1, targetID := some 1, body := some { mode := some "exclude" } }

/-- It is given a tag. -/
def tagIt : PatchTargetRequest :=
  { scopeID := some 1, targetID := some 1, body := some { tags := some ["web"] } }

/-- One after the other. -/
def editsInTurn : List (Event PatchTargetRequest Unit) :=
  [.spawn excludeIt, .spawn tagIt, .step 0 (), .step 0 (), .step 1 (), .step 1 ()]

/-- The tag's request reads the row before it is excluded, and writes afterwards. -/
def editsCrossing : List (Event PatchTargetRequest Unit) :=
  [.spawn excludeIt, .spawn tagIt, .step 1 (), .step 0 (), .step 0 (), .step 1 ()]

/-- The mode and the tags of the target after a run. -/
def modeAndTags (es : List (Event PatchTargetRequest Unit)) : Option (TargetMode × List String) :=
  (findTarget 1 1 (patchSystem.run ⟨oneTarget, []⟩ es).state).map fun t => (t.mode, t.tags)

theorem fields_kept_in_turn :
    modeAndTags editsInTurn = some (.exclude, ["web"]) ∧ FieldsKept oneTarget editsInTurn :=
  ⟨by decide +kernel, fields_kept oneTarget editsInTurn (by decide +kernel)⟩

theorem mode_of_modeAndTags {es : List (Event PatchTargetRequest Unit)} {mode : TargetMode}
    {tags : List String} (h : modeAndTags es = some (mode, tags)) {t : ScopeTarget}
    (ht : findTarget 1 1 (patchSystem.run ⟨oneTarget, []⟩ es).state = some t) : t.mode = mode := by
  rw [modeAndTags, ht] at h
  exact congrArg Prod.fst (Option.some.inj h)

/-- The defect: **an exclusion is undone by a request that says nothing about the mode**. -/
theorem exclusion_lost :
    modeAndTags (editsCrossing.take 5) = some (.exclude, []) ∧
      modeAndTags editsCrossing = some (.passiveOnly, ["web"]) ∧
        ¬FieldsKept oneTarget editsCrossing := by
  have hbefore : modeAndTags (editsCrossing.take 5) = some (.exclude, []) := by decide +kernel
  have hafter : modeAndTags editsCrossing = some (.passiveOnly, ["web"]) := by decide +kernel
  refine ⟨hbefore, hafter, fun h => ?_⟩
  obtain ⟨t, ht, -⟩ := Option.map_eq_some_iff.mp hbefore
  obtain ⟨t', ht', hf⟩ := h.each (editsCrossing.take 5) (.step 1 ()) [] rfl 1 1 t ht
  rcases hf .mode with hsame | ⟨i, o, r, he, hr, -, -, inp, hinp, text, hmode, -⟩
  · have hmode : t'.mode = t.mode := hsame
    rw [mode_of_modeAndTags hbefore ht, mode_of_modeAndTags hafter ht'] at hmode
    cases hmode
  · -- the request behind the last step is the one that gives a tag
    cases he
    obtain rfl : tagIt = r := Option.some.inj (Eq.trans (by decide +kernel) hr)
    cases hinp
    cases hmode

end PinkGlasses
