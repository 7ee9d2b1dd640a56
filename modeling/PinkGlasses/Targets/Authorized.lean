import PinkGlasses.Lib.Faults
import PinkGlasses.Targets

/-!
# PinkGlasses.Targets.Authorized

**Where the authorization of a target comes from**, in any sequence of edits.

A target is authorized by a record in its row, which stays while the row's value is edited and which
an edit of the whole group hands on to new entries. So a request that does not say `authorize` can
leave an authorized value that nobody authorized.

* `Evolves P` says what an edit does to the records: a row that has one had it before, under the
  same value, or is one that `P` allows. Each statement's case is proved once, and a request
  composes them.
* `authorized_was_vouched`: in a sequence of requests that all meet `Vouches`, every authorized
  value was covered by a request that said so.
-/

namespace PinkGlasses

open Lib Store Handler System Prog Table

/-- The row has an authorization record. -/
def ScopeTarget.recorded (t : ScopeTarget) : Bool := t.authorizedBy.isSome && t.authorizedAt.isSome

theorem ScopeTarget.recorded_of_authorized {t : ScopeTarget} (h : t.authorized = true) :
    t.recorded = true := by
  simp only [authorized, recorded, Bool.and_eq_true] at h ⊢
  exact ⟨h.1.2, h.2⟩

/-- The same row, with the same value in the same group. -/
structure SameRow (t t' : ScopeTarget) : Prop where
  id : t'.id = t.id
  value : t'.value = t.value
  groupID : t'.groupID = t.groupID

theorem SameRow.refl (t : ScopeTarget) : SameRow t t := ⟨rfl, rfl, rfl⟩

theorem SameRow.trans {t₁ t₂ t₃ : ScopeTarget} (h : SameRow t₁ t₂) (h' : SameRow t₂ t₃) :
    SameRow t₁ t₃ := ⟨h'.id.trans h.id, h'.value.trans h.value, h'.groupID.trans h.groupID⟩

/-- The company has the group. -/
def InScope (db : DB) (gid scopeID : UUID) : Prop :=
  ∃ g ∈ db.targetGroups.rows, g.id = gid ∧ g.scopeID = scopeID

/-- Every target is in a group of its company. -/
def Placed (db : DB) : Prop :=
  ∀ t ∈ db.scopeTargets.rows, ∀ gid, t.groupID = some gid → InScope db gid t.scopeID

/-- Targets that may be given a record: row, value and group decide. -/
structure Grant where
  holds : ScopeTarget → Prop
  same : ∀ {t t'}, SameRow t t' → holds t → holds t'

/-- **What an edit does**: groups stay, targets stay in place, and a record was there before under
the same value or is in a row that `P` allows. -/
structure Evolves (P : Grant) (db db' : DB) : Prop where
  groups : ∀ gid scopeID, InScope db gid scopeID → InScope db' gid scopeID
  placed : Placed db → Placed db'
  records : ∀ t' ∈ db'.scopeTargets.rows, t'.recorded = true →
    (∃ t ∈ db.scopeTargets.rows, SameRow t t' ∧ t.recorded = true) ∨ P.holds t'

section Evolves

variable {P : Grant} {db db' db'' : DB}

theorem Evolves.refl (P : Grant) (db : DB) : Evolves P db db :=
  ⟨fun _ _ h => h, id, fun t ht hrec => .inl ⟨t, ht, .refl t, hrec⟩⟩

theorem Evolves.trans (h : Evolves P db db') (h' : Evolves P db' db'') : Evolves P db db'' where
  groups gid scopeID hin := h'.groups gid scopeID (h.groups gid scopeID hin)
  placed hp := h'.placed (h.placed hp)
  records t'' ht'' hrec := by
    rcases h'.records t'' ht'' hrec with ⟨t', ht', hsame', hrec'⟩ | hnew
    · rcases h.records t' ht' hrec' with ⟨t, ht, hsame, hrec₀⟩ | hnew
      · exact .inl ⟨t, ht, hsame.trans hsame', hrec₀⟩
      · exact .inr (P.same hsame' hnew)
    · exact .inr hnew

instance : IsPreorder DB (Evolves P) where
  refl := .refl P
  trans _ _ _ := .trans

theorem Evolves.of_groups (htargets : db'.scopeTargets = db.scopeTargets)
    (hgroups : ∀ gid scopeID, InScope db gid scopeID → InScope db' gid scopeID) :
    Evolves P db db' where
  groups := hgroups
  placed hp t ht gid hgid := hgroups gid t.scopeID (hp t (htargets ▸ ht) gid hgid)
  records t ht hrec := .inl ⟨t, htargets ▸ ht, .refl t, hrec⟩

/-- An `UPDATE` of targets that leaves them in their groups. -/
theorem Evolves.of_update {p : ScopeTarget → Bool} {f : ScopeTarget → ScopeTarget}
    (hf : ∀ t, (f t).id = t.id) (hgroups : db'.targetGroups = db.targetGroups)
    (htargets : db'.scopeTargets = db.scopeTargets.update p f hf)
    (hplace : ∀ t, (f t).groupID = t.groupID ∧ (f t).scopeID = t.scopeID)
    (hrec : ∀ t ∈ db.scopeTargets.rows, p t = true → (f t).recorded = true →
      ((f t).value = t.value ∧ t.recorded = true) ∨ P.holds (f t)) : Evolves P db db' := by
  have hin : ∀ gid scopeID, InScope db gid scopeID → InScope db' gid scopeID := by
    intro gid scopeID h
    rw [InScope, hgroups]
    exact h
  refine ⟨hin, fun hp t' ht' gid hgid => ?_, fun t' ht' hrec' => ?_⟩
  · rw [htargets] at ht'
    obtain ⟨t, ht, rfl⟩ := mem_update.mp ht'
    have hgroup : (if p t = true then f t else t).groupID = t.groupID ∧
        (if p t = true then f t else t).scopeID = t.scopeID := by
      split
      · exact hplace t
      · exact ⟨rfl, rfl⟩
    rw [hgroup.2]
    exact hin gid t.scopeID (hp t ht gid (hgroup.1 ▸ hgid))
  · rw [htargets] at ht'
    obtain ⟨t, ht, rfl⟩ := mem_update.mp ht'
    by_cases hsel : p t = true
    · rw [if_pos hsel] at hrec' ⊢
      rcases hrec t ht hsel hrec' with ⟨hvalue, hold⟩ | hnew
      · exact .inl ⟨t, ht, ⟨hf t, hvalue, (hplace t).1⟩, hold⟩
      · exact .inr hnew
    · rw [if_neg hsel] at hrec' ⊢
      exact .inl ⟨t, ht, .refl t, hrec'⟩

end Evolves

/-! ### One statement -/

section Stmt

variable {P : Grant} {db db' : DB} {scopeID id gid : UUID}

theorem evolves_ensureTargetGroup {name : String}
    (h : (TargetStmt.ensureTargetGroup scopeID name).exec db = some (gid, db')) :
    Evolves P db db' ∧ InScope db' gid scopeID := by
  simp only [TargetStmt.exec] at h
  split at h
  · split at h
    · rename_i id hkey
      cases h
      obtain ⟨g, hfind, rfl⟩ := Option.map_eq_some_iff.mp hkey
      have hsel := List.find?_some hfind
      simp only [Bool.and_eq_true, beq_iff_eq] at hsel
      exact ⟨.refl P db, g, List.mem_of_find?_eq_some hfind, rfl, hsel.1⟩
    · cases h
      refine ⟨.of_groups rfl fun gid scopeID hscope => ?_, ?_⟩
      · obtain ⟨g, hg, hin⟩ := hscope
        exact ⟨g, mem_insert.mpr (.inl hg), hin⟩
      · exact ⟨_, mem_insert.mpr (.inr rfl), rfl, rfl⟩
  · cases h

theorem evolves_renameTargetGroup {name : String} {b : Renamed}
    (h : (TargetStmt.renameTargetGroup scopeID id name).exec db = some (b, db')) :
    Evolves P db db' := by
  simp only [TargetStmt.exec] at h
  split at h
  · split at h
    · cases h
      exact .refl P db
    · cases h
      refine .of_groups rfl fun gid scopeID' hscope => ?_
      obtain ⟨g, hg, hin⟩ := hscope
      refine ⟨_, List.mem_map.mpr ⟨g, hg, rfl⟩, ?_⟩
      split <;> exact hin
  · cases h

theorem evolves_deleteGroupTargetsNotIn {keep : List String} {b : Nat}
    (h : (TargetStmt.deleteGroupTargetsNotIn id keep).exec db = some (b, db')) :
    Evolves P db db' := by
  simp only [TargetStmt.exec] at h
  split at h <;> cases h
  refine ⟨fun _ _ hin => hin, fun hp t ht => hp t (mem_delete.mp ht).1, fun t ht hrec => ?_⟩
  exact .inl ⟨t, (mem_delete.mp ht).1, .refl t, hrec⟩

theorem evolves_setGroupTargets {mode : TargetMode} {tags : List String} {authBy : Option String}
    {authAt : Option Time} {b : Unit}
    (hrec : (authBy.isSome && authAt.isSome) = true → ∀ t ∈ db.scopeTargets.rows,
      t.groupID = some id → P.holds t)
    (h : (TargetStmt.setGroupTargets id mode tags authBy authAt).exec db = some (b, db')) :
    Evolves P db db' := by
  simp only [TargetStmt.exec] at h
  split at h <;> cases h
  refine .of_update (by exact fun _ => rfl) rfl rfl (fun _ => ⟨rfl, rfl⟩)
    fun t ht hsel hrec' => .inr ?_
  exact P.same (t := t) ⟨rfl, rfl, rfl⟩ (hrec hrec' t ht (beq_iff_eq.mp hsel))

/-- `AddTarget`: the rows of the entry, if it is authorized, are allowed ones. -/
theorem evolves_addTarget {t : ScopeTarget} {b : UUID}
    (hscope : ∀ gid, t.groupID = some gid → InScope db gid t.scopeID)
    (hrec : t.recorded = true → ∀ r ∈ (upsertTarget t db.scopeTargets).2.rows,
      r.groupID = t.groupID → r.value = t.value → P.holds r)
    (h : (TargetStmt.addTarget t).exec db = some (b, db')) : Evolves P db db' := by
  simp only [TargetStmt.exec] at h
  split at h <;> cases h
  refine ⟨fun _ _ hin => hin, fun hp r hr gid hgid => ?_, fun r hr hrec' => ?_⟩
  · rcases mem_upsertTarget.mp hr with ⟨r₀, hr₀, -, rfl⟩ | ⟨hr, -⟩ | ⟨-, rfl⟩
    · exact hp r₀ hr₀ gid hgid
    · exact hp r hr gid hgid
    · exact hscope gid hgid
  · rcases mem_upsertTarget.mp hr with ⟨r₀, hr₀, hsame, rfl⟩ | ⟨hold, -⟩ | ⟨-, rfl⟩
    · obtain ⟨hgroup, hentry⟩ := sameEntry_iff.mp hsame
      exact .inr (hrec hrec' _ hr hgroup (congrArg Prod.snd hentry))
    · exact .inl ⟨r, hold, .refl r, hrec'⟩
    · exact .inr (hrec hrec' _ hr rfl rfl)

/-- `UpdateTarget`: the row had a record under the value, or it is an allowed one. -/
theorem evolves_updateTarget {cols : TargetColumns} {b : TargetUpdated}
    (hrec : ∀ cur, findTarget scopeID id db = some cur → (cols.apply cur).recorded = true →
      (cols.value = cur.value ∧ cur.recorded = true) ∨ P.holds (cols.apply cur))
    (h : (TargetStmt.updateTarget scopeID id cols).exec db = some (b, db')) : Evolves P db db' := by
  simp only [TargetStmt.exec] at h
  split at h
  · split at h
    · cases h
      exact .refl P db
    · rename_i cur hfind
      split at h
      · cases h
        exact .refl P db
      · cases h
        refine .of_update (by exact fun _ => rfl) rfl rfl
          (fun _ => ⟨rfl, rfl⟩) fun t ht hsel hrec' => ?_
        obtain ⟨hmem, hid, -⟩ := findTarget_some hfind
        simp only [Bool.and_eq_true, beq_iff_eq] at hsel
        rw [eq_of_key ht hmem (hsel.1.trans hid.symm)] at hrec' ⊢
        exact hrec cur hfind hrec'
  · cases h

end Stmt

/-! ### One request -/

section Request

variable {P : Grant} {db : DB} {scopeID id : UUID} {α : Type} {tags : List String}
  {authorize : Bool}
  {actor : String} {now : Time} {cur : ScopeTarget} {inp : TargetInput}

/-- However far the program gets, the edit evolves the database as `P` allows. -/
abbrev Edits (P : Grant) (db : DB) (x : Handler α) : Prop :=
  editSystem.Leads (Evolves P) db x fun _ _ => True

theorem leads_ask {s : TargetStmt α} {Q : DB → α → Prop}
    (hs : ∀ {b db'}, s.exec db = some (b, db') → Evolves P db db' ∧ Q db' b) :
    editSystem.Leads (Evolves P) db (ask s) Q := .query hs

theorem authorize_of_recorded {gid : UUID} {v : String}
    (h : (newTarget scopeID gid tags authorize actor now v).recorded = true) :
    authorize = true := by
  cases authorize with
  | true => rfl
  | false => cases h

theorem leads_addTarget {gid : UUID} {v : String} (hin : InScope db gid scopeID)
    (hrec : authorize = true → ∀ t, t.value = v → t.groupID = some gid → P.holds t) :
    Edits P db (ask (.addTarget (newTarget scopeID gid tags authorize actor now v))) := by
  refine leads_ask fun hexec => ⟨evolves_addTarget ?_ ?_ hexec, trivial⟩
  · intro gid' hgid
    cases hgid
    exact hin
  · intro hrecorded t _ hgroup hvalue
    exact hrec (authorize_of_recorded hrecorded) t hvalue hgroup

/-- The values are written into a group of the company, or into groups of their own. -/
theorem leads_addTargetValues {groupID : Option UUID} {values : List String}
    (hscope : ∀ gid, groupID = some gid → InScope db gid scopeID)
    (hrec : authorize = true → ∀ v ∈ values, ∀ t, t.value = v →
      (∀ gid, groupID = some gid → t.groupID = some gid) → P.holds t) :
    Edits P db (addTargetValues scopeID groupID tags authorize actor now values) := by
  induction values generalizing db with
  | nil => exact .pure trivial
  | cons v values ih =>
    -- from the group on, with one or without, the value goes the same way
    have hrest : ∀ {db₀ gid}, InScope db₀ gid scopeID → (∀ gid', groupID = some gid' → gid' = gid) →
        Edits P db₀ (do
          let id ← ask (.addTarget (newTarget scopeID gid tags authorize actor now v))
          let saved ← addTargetValues scopeID groupID tags authorize actor now values
          pure ({ newTarget scopeID gid tags authorize actor now v with id } :: saved)) := by
      intro db₀ gid hin hgid
      refine .bind (leads_addTarget hin fun ha t hvalue hgroup => ?_) fun hadd _ =>
        .bind (ih (fun gid' hgid' => ?_) ?_) fun _ _ => .pure trivial
      · refine hrec ha v List.mem_cons_self t hvalue fun gid' hgid' => ?_
        rw [hgroup, hgid gid' hgid']
      · rw [hgid gid' hgid']
        exact hadd.groups gid scopeID hin
      · exact fun ha w hw => hrec ha w (List.mem_cons_of_mem v hw)
    unfold addTargetValues
    cases groupID with
    | some gid => exact hrest (hscope gid rfl) fun _ h => (Option.some.inj h).symm
    | none => exact .bind (leads_ask evolves_ensureTargetGroup) fun _ hin => hrest hin nofun

theorem leads_excludeSaved {saved : List ScopeTarget} :
    Edits P db (excludeSaved scopeID saved) := by
  intro db' r hend
  refine ⟨hend.uses (P := fun _ s => ∀ {db b db'}, s.exec db = some (b, db') → Evolves P db db') ?_
    (Evolves P) (.refl P) .trans fun hs hexec => hs hexec, fun _ _ => trivial⟩
  clear hend
  induction saved with
  | nil => trivial
  | cons t ts ih =>
    refine Prog.Uses.bind_except (uses_attempt fun {db b db'} hexec => ?_) fun _ =>
      ih.bind_except fun _ => trivial
    exact evolves_updateTarget (fun cur _ hrec => by cases hrec) hexec

theorem leads_namedGroup {group : String} :
    editSystem.Leads (Evolves P) db (namedGroup scopeID group)
      fun db' groupID => ∀ gid, groupID = some gid → InScope db' gid scopeID := by
  unfold namedGroup
  split
  · exact .pure nofun
  · refine .bind (leads_ask evolves_ensureTargetGroup) fun _ hin => .pure ?_
    exact fun gid hgid => Option.some.inj hgid ▸ hin

theorem leads_importValues {inp : AddTargetInput} {groupID : Option UUID}
    (hrec : inp.authorize = true → ∀ t, t.value ∈ addedValues inp → P.holds t)
    (hscope : ∀ gid, groupID = some gid → InScope db gid scopeID) :
    Edits P db (importValues scopeID groupID inp actor now) := by
  refine .bind (leads_addTargetValues hscope fun hauth v hv t hvalue _ => ?_) fun _ _ => ?_
  · rw [authorizesNew, Bool.and_eq_true] at hauth
    exact hrec hauth.1 t (hvalue ▸ hv)
  · split
    · exact leads_excludeSaved
    · exact .pure trivial

/-- `addTarget`: what it authorizes are the values it names. -/
theorem leads_addTargetRequest {req : AddTargetRequest}
    (hrec : ∀ inp ∈ req.body, inp.authorize = true → ∀ t, t.value ∈ addedValues inp → P.holds t) :
    Edits P db (addTarget req) := by
  unfold addTarget
  split
  · exact .throw
  · exact .throw
  · rename_i scopeID inp _ hbody
    split
    · exact .throw
    · exact .bind leads_namedGroup fun _ hin => leads_importValues (hrec inp hbody) hin

/-! #### Editing a target -/

/-- The target stays in active mode, or is put into it. -/
def staysActive (cur : ScopeTarget) (inp : TargetInput) : Bool :=
  inp.mode.elim (cur.mode == .active) (· == "active")

/-- The body gives no other value. -/
def keepsValue (cur : ScopeTarget) (inp : TargetInput) : Bool :=
  inp.value.all fun raw => trimSpace (toLower raw) == cur.value

theorem eq_of_ofText?_active {text : String} (h : TargetMode.ofText? text = some .active) :
    text = "active" := by
  unfold TargetMode.ofText? at h
  split at h <;> first | rfl | cases h

theorem staysActive_of_newMode (h : newMode cur inp = .ok .active) :
    staysActive cur inp = true := by
  unfold newMode at h
  unfold staysActive
  cases hmode : inp.mode with
  | none =>
    rw [hmode] at h
    simpa using h
  | some text =>
    rw [hmode] at h
    dsimp only at h
    split at h <;> cases h
    rename_i htext
    exact beq_iff_eq.mpr (eq_of_ofText?_active htext)

theorem value_of_keepsValue {kv : TargetKind × String} (h : newValue cur inp = .ok kv)
    (hkeep : keepsValue cur inp = true) : kv.2 = cur.value := by
  unfold newValue at h
  unfold keepsValue at hkeep
  cases hvalue : inp.value with
  | none =>
    rw [hvalue] at h
    cases h
    rfl
  | some raw =>
    rw [hvalue] at h hkeep
    rw [Option.all_some, beq_iff_eq] at hkeep
    simp only [hkeep] at h
    split at h
    · cases h
    · cases h
      rfl

/-- What `patchTarget` writes: a record is new if the body says so, and else the one that was there,
in a target that is active. -/
theorem recorded_newColumns {cols : TargetColumns} (h : newColumns cur inp actor now = .ok cols)
    (hrec : (cols.apply cur).recorded = true) :
    inp.authorize = some true ∨ (inp.authorize = none ∧ cur.recorded = true ∧
      staysActive cur inp = true ∧ (keepsValue cur inp = true → cols.value = cur.value)) := by
  simp only [newColumns] at h
  cases hvalue : newValue cur inp with
  | error e =>
    rw [hvalue] at h
    cases h
  | ok kv =>
    cases hmode : newMode cur inp with
    | error e =>
      rw [hvalue, hmode] at h
      cases h
    | ok mode =>
      rw [hvalue, hmode] at h
      cases h
      -- a mode other than active clears the record
      by_cases hactive : mode = .active
      · subst hactive
        simp only [TargetColumns.apply, ScopeTarget.recorded, newAuth] at hrec
        cases hauth : inp.authorize with
        | none =>
          rw [hauth] at hrec
          exact .inr ⟨rfl, hrec, staysActive_of_newMode hmode, value_of_keepsValue hvalue⟩
        | some authorize =>
          cases authorize with
          | true => exact .inl rfl
          | false =>
            rw [hauth] at hrec
            cases hrec
      · simp [TargetColumns.apply, ScopeTarget.recorded, newAuth, hactive] at hrec

theorem leads_writeTarget (hcur : findTarget scopeID id db = some cur)
    (hkeep : inp.authorize = none → cur.recorded = true → staysActive cur inp = true →
      keepsValue cur inp = true) (hrec : inp.authorize = some true → ∀ t, t.id = id → P.holds t) :
    Edits P db (writeTarget scopeID id cur inp actor now) := by
  unfold writeTarget
  split
  · exact .throw
  · rename_i cols hcols
    refine .bind (leads_ask fun hexec =>
      ⟨evolves_updateTarget (fun cur' hcur' hrecorded => ?_) hexec,
      trivial⟩) fun {_ b} _ _ => ?_
    · rw [hcur] at hcur'
      obtain rfl := Option.some.inj hcur'
      rcases recorded_newColumns hcols hrecorded with hauth | ⟨hnone, hold, hactive, hvalue⟩
      · exact .inr (hrec hauth _ (findTarget_some hcur).2.1)
      · exact .inl ⟨hvalue (hkeep hnone hold hactive), hold⟩
    · cases b with
      | target t => exact .pure trivial
      | _ => exact .throw

theorem leads_read {s : TargetStmt α} {a : α} (hs : s.exec db = some (a, db)) :
    editSystem.Leads (Evolves P) db (ask s) fun db' b => db' = db ∧ b = a := by
  refine leads_ask fun hexec => ?_
  rw [hs] at hexec
  cases hexec
  exact ⟨.refl P db, rfl, rfl⟩

/-- `patchTarget`: it authorizes the target it names, or keeps the record of the value. -/
theorem leads_patchTarget {req : PatchTargetRequest}
    (hkeep : ∀ scopeID ∈ req.scopeID, ∀ id ∈ req.targetID, ∀ inp ∈ req.body,
      ∀ cur ∈ findTarget scopeID id db, inp.authorize = none → cur.recorded = true →
        staysActive cur inp = true → keepsValue cur inp = true)
    (hrec : ∀ id ∈ req.targetID, ∀ inp ∈ req.body, inp.authorize = some true →
      ∀ t, t.id = id → P.holds t) :
    Edits P db (patchTarget req) := by
  unfold patchTarget
  split
  · exact .throw
  · exact .throw
  · exact .throw
  · rename_i scopeID id inp hscope hid hbody
    refine .bind (leads_read rfl) fun {_ cur} _ ⟨hdb, hcur⟩ => ?_
    rw [hdb]
    cases cur with
    | none => exact .throw
    | some cur =>
      exact leads_writeTarget hcur.symm (hkeep scopeID hscope id hid inp hbody cur hcur.symm)
        (hrec id hid inp hbody)

theorem leads_getTargetGroup : editSystem.Leads (Evolves P) db (getTargetGroup scopeID id)
    fun db' cur => db' = db ∧ cur = viewOf scopeID id db := by
  refine .bind (leads_read rfl) fun {_ g} _ ⟨hdb, hg⟩ => ?_
  rw [hdb]
  cases g with
  | none => exact .pure ⟨rfl, by rw [viewOf, ← hg]; rfl⟩
  | some g =>
    refine .bind (leads_read rfl) fun _ ⟨hdb, hall⟩ => .pure ⟨hdb, ?_⟩
    rw [viewOf, ← hg, hall]
    rfl

end Request

/-! #### Editing a group -/

/-- What an edit of a group that authorizes its entries finds all along: the entries that are there
are allowed to have a record, and so are those it will add, if it will. -/
structure Ready (P : Grant) (scopeID id : UUID) (values : List String) (authorize : Bool)
    (db : DB) : Prop where
  inScope : InScope db id scopeID
  rows : authorize = true → ∀ t ∈ db.scopeTargets.rows, t.groupID = some id → P.holds t
  entries : authorize = true → ∀ v ∈ values,
    (∃ t ∈ db.scopeTargets.rows, t.groupID = some id ∧ t.entry = (guessKind v, v)) ∨
      ∀ t, t.groupID = some id → P.holds t

section Group

variable {P : Grant} {db db' : DB} {scopeID id : UUID} {values : List String} {authorize : Bool}
  (hready : Ready P scopeID id values authorize db)

include hready

theorem Ready.rename {name : String} {b : Renamed}
    (hexec : (TargetStmt.renameTargetGroup scopeID id name).exec db = some (b, db')) :
    Evolves P db db' ∧ Ready P scopeID id values authorize db' := by
  have hevolve := evolves_renameTargetGroup (P := P) hexec
  have htargets : db'.scopeTargets = db.scopeTargets := by
    simp only [TargetStmt.exec] at hexec
    split at hexec
    · split at hexec <;> cases hexec <;> rfl
    · cases hexec
  refine ⟨hevolve, hevolve.groups _ _ hready.inScope, ?_, ?_⟩
  · rw [htargets]
    exact hready.rows
  · rw [htargets]
    exact hready.entries

theorem Ready.delete {b : Nat}
    (hexec : (TargetStmt.deleteGroupTargetsNotIn id values).exec db = some (b, db')) :
    Evolves P db db' ∧ Ready P scopeID id values authorize db' := by
  have hevolve := evolves_deleteGroupTargetsNotIn (P := P) hexec
  simp only [TargetStmt.exec] at hexec
  split at hexec <;> cases hexec
  refine ⟨hevolve, hready.inScope, fun ha t ht => hready.rows ha t (mem_delete.mp ht).1, ?_⟩
  intro ha v hv
  rcases hready.entries ha v hv with ⟨t, ht, hgroup, hentry⟩ | hall
  · refine .inl ⟨t, mem_delete.mpr ⟨ht, ?_⟩, hgroup, hentry⟩
    have hvalue : t.value = v := congrArg Prod.snd hentry
    simp [hvalue, hv]
  · exact .inr hall

/-- The rows of the group after `AddTarget` of one of the values. -/
theorem Ready.upsert {tags : List String} {actor : String} {now : Time} {v : String}
    (hv : v ∈ values)
    (ha : authorize = true) {t : ScopeTarget}
    (ht : t ∈ (upsertTarget (newTarget scopeID id tags authorize actor now v)
      db.scopeTargets).2.rows)
    (hgroup : t.groupID = some id) : P.holds t := by
  rcases mem_upsertTarget.mp ht with ⟨t₀, ht₀, -, rfl⟩ | ⟨hold, -⟩ | ⟨hnone, rfl⟩
  · exact P.same (t := t₀) ⟨rfl, rfl, rfl⟩ (hready.rows ha t₀ ht₀ hgroup)
  · exact hready.rows ha t hold hgroup
  · -- the entry was not there, so new ones are allowed
    rcases hready.entries ha v hv with ⟨t₀, ht₀, hgroup₀, hentry₀⟩ | hall
    · cases (hnone t₀ ht₀).symm.trans (sameEntry_iff.mpr ⟨hgroup₀, hentry₀⟩)
    · exact hall _ hgroup

theorem Ready.addTarget {tags : List String} {actor : String} {now : Time} {v : String}
    (hv : v ∈ values) {b : UUID}
    (hexec : (TargetStmt.addTarget (newTarget scopeID id tags authorize actor now v)).exec db =
      some (b, db')) : Evolves P db db' ∧ Ready P scopeID id values authorize db' := by
  have hevolve : Evolves P db db' := by
    refine evolves_addTarget ?_ ?_ hexec
    · intro gid hgid
      cases hgid
      exact hready.inScope
    · intro hrec t ht hgroup _
      exact hready.upsert hv (authorize_of_recorded hrec) ht hgroup
  simp only [TargetStmt.exec] at hexec
  split at hexec <;> cases hexec
  refine ⟨hevolve, hready.inScope, fun ha t ht hgroup => hready.upsert hv ha ht hgroup, ?_⟩
  intro ha w hw
  rcases hready.entries ha w hw with ⟨t, ht, hgroup, hentry⟩ | hall
  · obtain ⟨t', ht', hgroup', hentry'⟩ := exists_mem_upsertTarget _ ht
    exact .inl ⟨t', ht', hgroup'.trans hgroup, hentry'.trans hentry⟩
  · exact .inr hall

theorem leads_addGroupValues {tags : List String} {actor : String} {now : Time} {vs : List String}
    (hvs : ∀ v ∈ vs, v ∈ values) :
    editSystem.Leads (Evolves P) db (addTargetValues scopeID (some id) tags authorize actor now vs)
      fun db' _ => Ready P scopeID id values authorize db' := by
  induction vs generalizing db with
  | nil => exact .pure hready
  | cons v vs ih =>
    obtain ⟨hv, hvs⟩ := List.forall_mem_cons.mp hvs
    show editSystem.Leads _ db
        (ask (.addTarget (newTarget scopeID id tags authorize actor now v)) >>=
      fun _ => _) _
    exact .bind (leads_ask (hready.addTarget hv)) fun _ hready =>
      .bind (ih hready hvs) fun _ hready => .pure hready

/-- The values a body lists, as they are stored. -/
def GroupInput.listed (inp : GroupInput) : List String := (inp.values.map cleanValues).getD []

omit hready in
theorem leads_editGroup {req : PatchRequest} {cur : GroupView} {inp : GroupInput}
    (hready : Ready P scopeID id inp.listed (authorizes cur inp) db) :
    Edits P db (editGroup req scopeID id cur inp) := by
  refine .bind (Q := fun db' _ => Ready P scopeID id inp.listed (authorizes cur inp) db') ?_
    fun _ hready => .bind (Q := fun db' _ =>
      Ready P scopeID id inp.listed (authorizes cur inp) db') ?_
    fun _ hready => .bind (leads_ask fun hexec =>
      ⟨evolves_setGroupTargets (fun hrec => ?_) hexec, trivial⟩)
    fun _ _ => ?_
  -- the rename, the list of values, the columns, and the answer
  · cases newName cur inp with
    | none => exact .pure hready
    | some name =>
      refine .bind (leads_ask hready.rename) fun {_ b} _ hready => ?_
      cases b with
      | groupExists => exact .throw
      | rows _ => exact .pure hready
  · unfold GroupInput.listed at hready ⊢
    cases hvalues : inp.values with
    | none =>
      rw [hvalues] at hready
      exact .pure hready
    | some raw =>
      rw [hvalues] at hready
      unfold replaceValues
      dsimp only
      split
      · exact .throw
      · refine .bind (leads_ask hready.delete) fun _ hready => ?_
        exact .bind (leads_addGroupValues hready fun v hv => hv) fun _ hready => .pure hready
  · unfold authRecord at hrec
    split at hrec
    · rename_i hauth
      exact hready.rows hauth
    · cases hrec
  · exact fun db' r hend => ⟨(leads_getTargetGroup db' r hend).1, fun _ _ => trivial⟩

end Group

/-! ### Sequences of requests -/

/-- **The request says `authorize`** and the target is one that it names, or one of the group that
it is about. -/
def TargetRequest.authorizes (r : TargetRequest) (t : ScopeTarget) : Prop :=
  match r with
  | .addTarget req => ∃ inp ∈ req.body, inp.authorize = true ∧ t.value ∈ addedValues inp
  | .patchTarget req => req.targetID = some t.id ∧ ∃ inp ∈ req.body, inp.authorize = some true
  | .patchTargetGroup req =>
    (∃ gid ∈ req.groupID, t.groupID = some gid) ∧ ∃ inp ∈ req.body, inp.authorize = some true

instance (r : TargetRequest) (t : ScopeTarget) : Decidable (r.authorizes t) := by
  induction r using TargetRequest.casesOn <;> unfold TargetRequest.authorizes <;> infer_instance

/-- **The condition**: a request that says nothing about `authorize` gives a target that has a
record and stays active no other value, and an authorized group no entry it does not have. -/
def Vouches (db : DB) (r : TargetRequest) : Prop :=
  match r with
  | .addTarget _ => True
  | .patchTarget req => ∀ scopeID ∈ req.scopeID, ∀ id ∈ req.targetID, ∀ inp ∈ req.body,
      ∀ cur ∈ findTarget scopeID id db, inp.authorize = none → cur.recorded = true →
        staysActive cur inp = true → keepsValue cur inp = true
  | .patchTargetGroup req => ∀ scopeID ∈ req.scopeID, ∀ id ∈ req.groupID, ∀ inp ∈ req.body,
      ∀ cur ∈ viewOf scopeID id db, inp.authorize = none → cur.authorized = true →
        ∀ v ∈ inp.listed, ∃ t ∈ db.scopeTargets.rows, t.groupID = some id ∧
          t.entry = (guessKind v, v)

/-- Some request before authorized the target, which had its value then. -/
def WasVouched (past : List (TargetRequest × DB)) (t : ScopeTarget) : Prop :=
  ∃ e ∈ past, ∃ t₀ ∈ e.2.scopeTargets.rows, t₀.id = t.id ∧ t₀.value = t.value ∧ e.1.authorizes t₀
deriving Decidable

section Sequence

variable {db db' : DB} {scopeID id : UUID} {t : ScopeTarget} {cur : GroupView} {req : PatchRequest}

theorem TargetRequest.authorizes_same {r : TargetRequest} {t' : ScopeTarget} (h : SameRow t t')
    (ha : r.authorizes t) : r.authorizes t' := by
  cases r with
  | addTarget req =>
    obtain ⟨inp, hinp, hauth, hvalue⟩ := ha
    exact ⟨inp, hinp, hauth, h.value ▸ hvalue⟩
  | patchTarget req => exact ⟨ha.1.trans (congrArg some h.id.symm), ha.2⟩
  | patchTargetGroup req =>
    obtain ⟨⟨gid, hgid, hgroup⟩, hauth⟩ := ha
    exact ⟨⟨gid, hgid, h.groupID.trans hgroup⟩, hauth⟩

/-- What a request authorizes. -/
def TargetRequest.grant (r : TargetRequest) : Grant := ⟨r.authorizes, authorizes_same⟩

/-- The rows that come from one with a record under the same value. -/
def hadRecord (db : DB) : Grant where
  holds t := ∃ t₀ ∈ db.scopeTargets.rows, SameRow t₀ t ∧ t₀.recorded = true
  same := fun h ⟨t₀, ht₀, hsame, hrec⟩ => ⟨t₀, ht₀, hsame.trans h, hrec⟩

theorem recorded_of_authorized_group (hplaced : Placed db) (hview : viewOf scopeID id db = some cur)
    (hauth : cur.authorized = true) (ht : t ∈ db.scopeTargets.rows) (hgroup : t.groupID = some id) :
    t.recorded = true := by
  obtain ⟨g, hfind, rfl⟩ := Option.map_eq_some_iff.mp hview
  obtain ⟨hmem, hg⟩ := findGroup_some hfind
  obtain ⟨g', hg', hid', hscope'⟩ := hplaced t ht id hgroup
  have hsame : g' = g := eq_of_key hg' hmem (hid'.trans hg.1.symm)
  have hlisted : t ∈ listTargets scopeID "" db := by
    rw [listTargets, List.mem_insertionSort, List.mem_filter]
    simp [ht, ← hscope', hsame, hg.2]
  simp only [groupView, groupAuthorized, Bool.and_eq_true, List.all_eq_true] at hauth
  refine ScopeTarget.recorded_of_authorized (hauth.2 t (List.mem_filter.mpr ⟨hlisted, ?_⟩))
  rw [hgroup, hg.1, beq_self_eq_true]

theorem Evolves.of_hadRecord {P : Grant} (h : Evolves (hadRecord db) db db') :
    Evolves P db db' where
  groups := h.groups
  placed := h.placed
  records t ht hrec := by
    rcases h.records t ht hrec with hold | hold
    · exact .inl hold
    · exact .inl hold

/-- An edit that hands an authorization on: every record was there before. -/
theorem leads_editGroup_kept {P : Grant} {inp : GroupInput} (hplaced : Placed db)
    (hin : InScope db id scopeID) (hview : viewOf scopeID id db = some cur)
    (hauth : cur.authorized = true)
    (hlisted : ∀ v ∈ inp.listed, ∃ t ∈ db.scopeTargets.rows, t.groupID = some id ∧
      t.entry = (guessKind v, v)) :
    Edits P db (editGroup req scopeID id cur inp) := by
  have hleads : Edits (hadRecord db) db (editGroup req scopeID id cur inp) := by
    refine leads_editGroup ⟨hin, fun _ t ht hgroup => ?_, fun _ v hv => .inl (hlisted v hv)⟩
    exact ⟨t, ht, .refl t, recorded_of_authorized_group hplaced hview hauth ht hgroup⟩
  exact hleads.mono fun _ _ h => ⟨h.1.of_hadRecord, h.2⟩

theorem leads_editGroup_said {inp : GroupInput} (hid : id ∈ req.groupID) (hbody : inp ∈ req.body)
    (hin : InScope db id scopeID) (hsaid : authorizes cur inp = true → inp.authorize = some true) :
    Edits (TargetRequest.patchTargetGroup req).grant db (editGroup req scopeID id cur inp) := by
  have hall : authorizes cur inp = true → ∀ t, t.groupID = some id →
      (TargetRequest.patchTargetGroup req).authorizes t :=
    fun ha t hgroup => ⟨⟨id, hid, hgroup⟩, inp, hbody, hsaid ha⟩
  exact leads_editGroup ⟨hin, fun ha t _ => hall ha t, fun ha v _ => .inr (hall ha)⟩

theorem leads_patchTargetGroup (hplaced : Placed db) (hok : Vouches db (.patchTargetGroup req)) :
    Edits (TargetRequest.patchTargetGroup req).grant db (patchTargetGroup req) := by
  unfold patchTargetGroup
  split
  · exact .throw
  · exact .throw
  · rename_i scopeID id hscope hid
    refine .bind leads_getTargetGroup fun {_ cur} _ ⟨hdb, hview⟩ => ?_
    rw [hdb]
    cases cur with
    | none => exact .throw
    | some cur =>
      cases hbody : req.body with
      | none => exact .throw
      | some inp =>
        have hin : InScope db id scopeID := by
          obtain ⟨g, hfind, -⟩ := Option.map_eq_some_iff.mp hview.symm
          exact ⟨g, findGroup_some hfind⟩
        -- without a word about it, an authorized group hands its authorization on
        by_cases hsaid : authorizes cur inp = true → inp.authorize = some true
        · exact leads_editGroup_said hid hbody hin hsaid
        · obtain ⟨ha, hnot⟩ := Classical.not_imp.mp hsaid
          have hnone : inp.authorize = none ∧ cur.authorized = true := by
            unfold authorizes at ha
            cases hauth : inp.authorize with
            | none =>
              rw [hauth] at ha
              exact ⟨rfl, ha⟩
            | some b =>
              rw [hauth] at ha hnot
              exact absurd (congrArg some ha) hnot
          exact leads_editGroup_kept hplaced hin hview.symm hnone.2
            (hok scopeID hscope id hid inp hbody cur hview.symm hnone.1 hnone.2)

/-- **One request**: a record was there before under the same value, or the request says so. -/
theorem leads_request {r : TargetRequest} (hplaced : Placed db) (hok : Vouches db r) :
    Edits r.grant db r.handler := by
  cases r with
  | addTarget req =>
    refine .bind (leads_addTargetRequest ?_) fun _ _ => .pure trivial
    exact fun inp hbody hauth t hvalue => ⟨inp, hbody, hauth, hvalue⟩
  | patchTarget req =>
    refine .bind (leads_patchTarget hok ?_) fun _ _ => .pure trivial
    exact fun id hid inp hbody hauth t ht => ⟨ht ▸ hid, inp, hbody, hauth⟩
  | patchTargetGroup req =>
    exact .bind (leads_patchTargetGroup hplaced hok) fun _ _ => .pure trivial

end Sequence

/-- **Every authorized target has a value that was authorized**: whatever sequence of requests, with
statements failing anywhere, led from targets without a record to these, if all of them vouch for
what they authorize. -/
theorem authorized_was_vouched (db₀ : DB) (hplaced : Placed db₀)
    (hstart : ∀ t ∈ db₀.scopeTargets.rows, t.recorded = false)
    (past : List (TargetRequest × DB)) (db : DB) (hist : editSystem.History Vouches db₀ past db) :
    ∀ t ∈ db.scopeTargets.rows, t.authorized = true → WasVouched past t := by
  suffices h : Placed db ∧ ∀ t ∈ db.scopeTargets.rows, t.recorded = true → WasVouched past t from
    fun t ht hauth => h.2 t ht (ScopeTarget.recorded_of_authorized hauth)
  induction hist with
  | start =>
    refine ⟨hplaced, fun t ht hrec => ?_⟩
    rw [hstart t ht] at hrec
    cases hrec
  | serve hist hok hend ih =>
    rename_i past db db' r a
    have hevolve := (leads_request ih.1 hok db' a hend).1
    refine ⟨hevolve.placed ih.1, fun t' ht' hrec' => ?_⟩
    rcases hevolve.records t' ht' hrec' with ⟨t, ht, hsame, hrec⟩ | hnew
    · obtain ⟨e, he, t₀, ht₀, hid, hvalue, hauth⟩ := ih.2 t ht hrec
      exact ⟨e, List.mem_cons_of_mem _ he, t₀, ht₀, hid.trans hsame.id.symm,
        hvalue.trans hsame.value.symm, hauth⟩
    · exact ⟨(r, db'), List.mem_cons_self, t', ht', rfl, rfl, hnew⟩

/-! ### An authorization handed on -/

section Runs

/-- A new target, authorized. -/
def authorizeNew : TargetRequest :=
  .addTarget { scopeID := some 1, actor := "alice"
               body := some { value := "a.example", authorize := true } }

/-- The target is edited. -/
def editTarget (inp : TargetInput) : TargetRequest :=
  .patchTarget { scopeID := some 1, targetID := some 1, body := some inp }

/-- The list of its group is edited. -/
def editList (values : List String) : TargetRequest :=
  .patchTargetGroup { scopeID := some 1, groupID := some 1, body := some { values := some values } }

/-- The database after requests of which nothing fails, newest first. -/
def afterEdits : List TargetRequest → DB
  | [] => {}
  | r :: rs => (editSystem.serve () [] (afterEdits rs) r.handler.run).2.1

/-- The requests with what each left. -/
def editTrace : List TargetRequest → List (TargetRequest × DB)
  | [] => []
  | r :: rs => (r, afterEdits (r :: rs)) :: editTrace rs

theorem history_cons {ok : DB → TargetRequest → Prop} {r : TargetRequest} {rs : List TargetRequest}
    (hist : editSystem.History ok {} (editTrace rs) (afterEdits rs)) (hok : ok (afterEdits rs) r) :
    editSystem.History ok {} (editTrace (r :: rs)) (afterEdits (r :: rs)) :=
  hist.serve hok (mayEnd_serve editSystem () [] _ r.handler.run)

/-- The values of the targets, and whether they are authorized. -/
def authorizedValues (db : DB) : List (String × Bool) :=
  db.scopeTargets.rows.map fun t => (t.value, t.authorized)

/-- An authorized target is given a tag. -/
def retagged : List TargetRequest := [editTarget { tags := some ["web"] }, authorizeNew]

theorem authorized_was_vouched_retagged :
    authorizedValues (afterEdits retagged) = [("a.example", true)] ∧
      ∀ t ∈ (afterEdits retagged).scopeTargets.rows, t.authorized = true →
        WasVouched (editTrace retagged) t := by
  have hretag : Vouches (afterEdits [authorizeNew]) (editTarget { tags := some ["web"] }) := by
    intro scopeID _ id _ inp hinp cur _ _ _ _
    cases hinp
    rfl
  have hist : editSystem.History Vouches {} (editTrace retagged) (afterEdits retagged) :=
    history_cons (history_cons .start trivial) hretag
  exact ⟨by decide +kernel,
    authorized_was_vouched {} (List.forall_mem_nil _) (List.forall_mem_nil _) _ _ hist⟩

/-- An authorized target is given another value. -/
def renamed : List TargetRequest := [editTarget { value := some "b.example" }, authorizeNew]

/-- Another value is added to the list of its group. -/
def relisted : List TargetRequest := [editList ["a.example", "b.example"], authorizeNew]

/-- The defect: **a value that no request authorized is authorized**, because the row it was put in
was, or the group it was added to. -/
theorem authorized_unvouched :
    editSystem.History (fun _ _ => True) {} (editTrace renamed) (afterEdits renamed) ∧
    editSystem.History (fun _ _ => True) {} (editTrace relisted) (afterEdits relisted) ∧
    (∃ t ∈ (afterEdits renamed).scopeTargets.rows, t.value = "b.example" ∧ t.authorized = true ∧
      ¬WasVouched (editTrace renamed) t) ∧
    ∃ t ∈ (afterEdits relisted).scopeTargets.rows, t.value = "b.example" ∧ t.authorized = true ∧
      ¬WasVouched (editTrace relisted) t :=
  ⟨history_cons (history_cons .start trivial) trivial,
    history_cons (history_cons .start trivial) trivial, by decide +kernel, by decide +kernel⟩

end Runs

end PinkGlasses
