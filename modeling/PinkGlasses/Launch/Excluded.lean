import PinkGlasses.Control.Past
import PinkGlasses.Lib.Seq

/-!
# PinkGlasses.Launch.Excluded

What a launch does with the exclusions of its scope.

`start` reads the rows of the scope, merges the rows of one (kind, value) into one, where exclude
wins, and takes no excluded entry. But the rows are read **with the tag of the launch**:
`ListTargets` filters before `MergeTargets` merges, so a row that excludes the entry in another
group, without the tag, is not seen. `TagSeesExclusions` says when that makes no difference, and
`launch_clear_iff_tag_sees` that it makes one in every other case.
-/

namespace PinkGlasses

open Lib Prog Planner Store System Launch

variable {β : Type}

/-- Some row of the scope has the entry in exclude mode. -/
def ExcludedIn (db : DB) (scopeID : UUID) (e : TargetKind × String) : Prop :=
  ∃ t ∈ db.scopeTargets.rows, t.scopeID = scopeID ∧ t.entry = e ∧ t.mode = .exclude
deriving Decidable

/-- **The condition**: there is no tag, or what a row with the tag lists and some row of the scope
excludes, a row with the tag excludes as well. -/
def TagSeesExclusions (db : DB) (scopeID : UUID) (tag : String) : Prop :=
  tag = "" ∨ ∀ t ∈ db.scopeTargets.rows, t.scopeID = scopeID → tag ∈ t.tags →
    ExcludedIn db scopeID t.entry → ∃ t' ∈ db.scopeTargets.rows, t'.scopeID = scopeID ∧
      tag ∈ t'.tags ∧ t'.entry = t.entry ∧ t'.mode = .exclude
deriving Decidable

/-- The run targets that were added hold no excluded entry of the scope. -/
def ClearTargets (db : DB) (scopeID : UUID) (db' : DB) : Prop :=
  ∀ t ∈ db'.runTargets.rows, db.runTargets.next ≤ t.id → ¬ ExcludedIn db scopeID (t.kind, t.value)
deriving Decidable

/-! ### The rows a launch reads -/

theorem Store.mem_listTargets {scopeID : UUID} {tag : String} {db : DB} {t : ScopeTarget} :
    t ∈ listTargets scopeID tag db ↔
      t ∈ db.scopeTargets.rows ∧ t.scopeID = scopeID ∧ (tag = "" ∨ tag ∈ t.tags) := by
  simp [listTargets, List.mem_insertionSort]

theorem tagSeesExclusions_iff {db : DB} {scopeID : UUID} {tag : String} :
    TagSeesExclusions db scopeID tag ↔ ∀ t ∈ listTargets scopeID tag db,
      ExcludedIn db scopeID t.entry → ExcludesEntry (listTargets scopeID tag db) t.entry := by
  constructor
  · intro hsees t ht hex
    obtain ⟨hrow, hscope, htag⟩ := mem_listTargets.mp ht
    -- without a tag every row is listed
    by_cases hempty : tag = ""
    · obtain ⟨t', ht', hscope', hentry, hmode⟩ := hex
      exact ⟨t', mem_listTargets.mpr ⟨ht', hscope', .inl hempty⟩, hentry, hmode⟩
    · obtain ⟨t', ht', hscope', htag', hentry, hmode⟩ := hsees.resolve_left hempty t hrow hscope
        (htag.resolve_left hempty) hex
      exact ⟨t', mem_listTargets.mpr ⟨ht', hscope', .inr htag'⟩, hentry, hmode⟩
  · intro hall
    by_cases hempty : tag = ""
    · exact .inl hempty
    · refine .inr fun t ht hscope htag hex => ?_
      obtain ⟨t', ht', hentry, hmode⟩ :=
        hall t (mem_listTargets.mpr ⟨ht, hscope, .inr htag⟩) hex
      obtain ⟨hrow', hscope', htag'⟩ := mem_listTargets.mp ht'
      exact ⟨t', hrow', hscope', htag'.resolve_left hempty, hentry, hmode⟩

theorem mem_runTargetsFor {o : LaunchOptions} {want : List String} {targets : List ScopeTarget}
    {e : TargetKind × String} (h : e ∈ runTargetsFor o want targets) :
    ∃ m ∈ targets, m.entry = e ∧ m.mode ≠ .exclude := by
  obtain ⟨m, hm, hentry⟩ := List.mem_map.mp h
  obtain ⟨hmem, hsel⟩ := List.mem_filter.mp hm
  simp only [Bool.and_eq_true, bne_iff_ne] at hsel
  exact ⟨m, hmem, hentry, hsel.1⟩

theorem runTargetsFor_tag {o : LaunchOptions} (htag : o.tag ≠ "") (want : List String)
    (targets : List ScopeTarget) : runTargetsFor o want targets =
      (targets.filter (·.mode != .exclude)).map (·.entry) := by
  have hbool : (o.tag != "") = true := bne_iff_ne.mpr htag
  simp only [runTargetsFor, hbool, Bool.or_true, Bool.true_or, Bool.and_true]
  rfl

/-! ### What a launch creates -/

theorem Stmt.makes_of_creates {s : Stmt β} (hs : s.creates = false) : s.makes = [] := by
  cases s with
  | run s => cases s <;> first | rfl | cases hs
  | _ => rfl

theorem Stmt.exec_makes {out : Outside} {env : Env} {db db' : DB} {s : Stmt β} {b : β}
    (h : s.exec out env db = some (b, db')) {t : RunTarget} (ht : t ∈ db'.runTargets.rows) :
    (∃ t₀ ∈ db.runTargets.rows, SameTarget t₀ t) ∨ (t.kind, t.value) ∈ s.makes := by
  obtain ⟨new, hsame, hnew⟩ := Stmt.exec_targets h
  obtain ⟨t₀, ht₀, hst⟩ := hsame.before t ht
  rcases List.mem_append.mp ht₀ with hold | hmem
  · exact .inl ⟨t₀, hold, hst⟩
  · have hcreated := (hnew t₀ hmem).2
    -- only `CreateRun` inserts run targets
    cases s with
    | run s =>
      cases s with
      | createRun scopeID profile targets =>
        simp only [exec, RunStmt.exec] at h
        split at h
        · cases h
          obtain ⟨new, hrows, hmap, -⟩ :=
            rows_insertRunTargets db.runs.next targets db.runTargets
          rcases List.mem_append.mp (hrows ▸ ht) with hold | hmem
          · exact .inl ⟨t, hold, .refl t⟩
          · exact .inr (hmap ▸ List.mem_map_of_mem hmem)
        · cases h
      | _ => exact absurd rfl hcreated
    | _ => exact absurd rfl hcreated

/-- The contract of a launch: the run targets it adds are merged rows of what it was told, none of
them excluded. -/
def selectPre (scopeID : UUID) (tag : String) (h : Hist Stmt) (β : Type) (s : Stmt β) : Prop :=
  ∀ e ∈ s.makes, ∃ rows, h.Asked (.run (.listTargets scopeID tag)) (some rows) ∧
    ∃ m ∈ mergeTargets rows, m.entry = e ∧ m.mode ≠ .exclude

section Contract

variable {h : Hist Stmt} {scopeID : UUID} {tag : String}

theorem start_selects (cfg : LaunchConfig) (scopeID : UUID) (o : LaunchOptions) :
    Meets (selectPre scopeID o.tag) [] (start cfg scopeID o) fun _ _ => True := by
  refine (start_meets cfg scopeID o).weaken fun h β s hpre e he => ?_
  cases hc : s.creates with
  | false => exact absurd he (Stmt.makes_of_creates hc ▸ List.not_mem_nil)
  | true =>
    obtain ⟨-, rows, want, hrows, htargets⟩ := hpre.2 hc
    exact ⟨rows, hrows, mem_runTargetsFor (htargets ▸ he)⟩

end Contract

section Launch

variable {cfg : ControlConfig} {out : Outside} {db db' : DB} {scopeID : UUID}

/-- **A launch whose tag sees the exclusions takes no excluded entry.** -/
theorem clearTargets_of_runs {o : LaunchOptions} {h' : Hist Stmt} {r : Except Refusal ScanRun}
    (hsees : TagSeesExclusions db scopeID o.tag)
    (hr : (controlSystem cfg out).Runs [] db (start cfg.launch scopeID o) h' db' r) :
    ClearTargets db scopeID db' := by
  -- what it was told is what is there, and what it has added since is clear
  have hinv := runs_inv (start_selects cfg.launch scopeID o) hr
    (fun h db₁ => Grounded out db db₁ h ∧ Grows db db₁ ∧ ClearTargets db scopeID db₁)
    ⟨grounded_nil, .refl db, fun t ht hnew =>
      absurd (db.runTargets.bound t ht) (Nat.not_lt.mpr hnew)⟩ ?_ ?_
  · exact hinv.2.2
  · intro h db₁ β s env b db₂ ⟨hg, hgrow, hclear⟩ hpre hexec
    refine ⟨hg.cons hgrow hexec, hgrow.trans (Stmt.exec_grows hexec), fun t ht hnew => ?_⟩
    rcases Stmt.exec_makes hexec ht with ⟨t₀, ht₀, hsame⟩ | hmade
    · rw [hsame.kind, hsame.value]
      exact hclear t₀ ht₀ (hsame.id ▸ hnew)
    · obtain ⟨rows, hrows, m, hm, hentry, hmode⟩ := hpre _ hmade
      rw [← hentry]
      intro hex
      have hall := tagSeesExclusions_iff.mp hsees m
      rw [hg.listTargets hrows, listTargets, hgrow.scopeTargets] at hm
      exact hmode ((mode_of_mem_mergeTargets hm).mpr (hall (mem_of_mem_mergeTargets hm) hex))
  · intro h db₁ β s _ ⟨hg, hgrow, hclear⟩ _ _
    exact ⟨hg.failed, hgrow, hclear⟩

theorem grows_of_runs {α : Type} {p : Prog Stmt α} {h h' : Hist Stmt} {a : α}
    (hr : (controlSystem cfg out).Runs h db p h' db' a) : Grows db db' :=
  runs_inv (meets_true p h) hr (fun _ db₁ => Grows db db₁) (.refl db)
    (fun hgrow _ hexec => hgrow.trans (Stmt.exec_grows hexec)) fun hgrow _ _ => hgrow

/-- A passive launch by a tag. -/
def byTag (tag : String) : LaunchOptions := { profile := .passive, tag }

theorem prepare_byTag_run (lcfg : LaunchConfig) (tag : String) :
    (prepare lcfg scopeID (byTag tag)).run =
      Prog.call (Stmt.run (.listTargets scopeID tag)) (fun r => ((match r with
        | none => throw ⟨500, dbError⟩
        | some rows => do
          if (runTargetsFor (byTag tag) [] (mergeTargets rows)).isEmpty then
            refuseEmpty scopeID (byTag tag)
          match lcfg.validate (override [] (byTag tag).params) with
          | .error e => refuse 400 ("invalid scan parameter: " ++ e)
          | .ok clean =>
            pure { targets := runTargetsFor (byTag tag) [] (mergeTargets rows)
                   scopeTargets := mergeTargets rows, profileID := none
                   params := lcfg.withDefaults clean, exit := none } :
            Launch Launch.Prepared)).run) := by
  unfold prepare
  show Prog.call _ _ = _
  congr 1
  funext r
  cases r with
  | none | some => rfl

variable (out) in
theorem prepare_byTag {tag : String} {clean : List (String × String)} (env : Env)
    (hvalid : cfg.launch.validate [] = .ok clean)
    (hsome : runTargetsFor (byTag tag) [] (mergeTargets (listTargets scopeID tag db)) ≠ []) :
    (controlSystem cfg out).serve env [] db (prepare cfg.launch scopeID (byTag tag)).run =
      ([⟨.run (.listTargets scopeID tag), some (listTargets scopeID tag db)⟩], db,
        .ok { targets := runTargetsFor (byTag tag) []
                (mergeTargets (listTargets scopeID tag db))
              scopeTargets := mergeTargets (listTargets scopeID tag db), profileID := none
              params := cfg.launch.withDefaults clean, exit := none }) := by
  have hempty := List.isEmpty_eq_false_iff.mpr hsome
  have hover : cfg.launch.validate (override [] (byTag tag).params) = .ok clean := hvalid
  rw [prepare_byTag_run, serve_call_some rfl]
  dsimp only
  rw [hempty, hover]
  rfl

/-- The entries of the merged rows are there once, so the run can be created with them. -/
theorem nodup_runTargetsFor (o : LaunchOptions) (want : List String) (rows : List ScopeTarget) :
    (runTargetsFor o want (mergeTargets rows)).Nodup :=
  (nodup_entry_mergeTargets rows).sublist (List.filter_sublist.map _)

/-- **A launch by a tag takes everything the tag lists that no row with the tag excludes.** -/
theorem target_of_byTag (out : Outside) {tag : String} {clean : List (String × String)}
    {e : TargetKind × String}
    (hvalid : cfg.launch.validate [] = .ok clean)
    (he : e ∈ runTargetsFor (byTag tag) [] (mergeTargets (listTargets scopeID tag db))) :
    ∃ h' db' r,
      (controlSystem cfg out).Runs [] db (start cfg.launch scopeID (byTag tag)) h' db' r ∧
        ∃ t ∈ db'.runTargets.rows, db.runTargets.next ≤ t.id ∧ (t.kind, t.value) = e := by
  have hprep := prepare_byTag out {} hvalid (List.ne_nil_of_mem he)
  have hcreate : ∃ b db₁, (controlSystem cfg out).exec (Stmt.run (.createRun scopeID .passive
      (runTargetsFor (byTag tag) [] (mergeTargets (listTargets scopeID tag db))))) {} db =
        some (b, db₁) ∧ ∃ t ∈ db₁.runTargets.rows, db.runTargets.next ≤ t.id ∧
          (t.kind, t.value) = e := by
    refine ⟨_, _, if_pos (nodup_runTargetsFor (byTag tag) [] _), ?_⟩
    obtain ⟨new, hrows, hmap, hnew, -⟩ := rows_insertRunTargets db.runs.next
      (runTargetsFor (byTag tag) [] (mergeTargets (listTargets scopeID tag db)))
      db.runTargets
    obtain ⟨t, ht, hentry⟩ := List.mem_map.mp (hmap ▸ he)
    exact ⟨t, hrows ▸ List.mem_append_right _ ht, (hnew t ht).2.1, hentry⟩
  obtain ⟨b, db₁, hexec, t, ht, hid, hentry⟩ := hcreate
  have hrest : ∃ h p, (controlSystem cfg out).serve {} [] db
      (start cfg.launch scopeID (byTag tag)) = (controlSystem cfg out).serve {} h db₁ p := by
    unfold start
    rw [serve_bind, hprep]
    exact ⟨_, _, serve_call_some hexec⟩
  obtain ⟨h, p, hserve⟩ := hrest
  refine ⟨_, _, _, runs_serve _ {} [] db _, ?_⟩
  rw [hserve]
  -- whatever the rest of the launch does, the target stays
  obtain ⟨t', ht', hsame⟩ := (grows_of_runs (runs_serve _ {} h db₁ p)).runTarget t ht
  refine ⟨t', ht', hsame.id ▸ hid, ?_⟩
  rw [hsame.kind, hsame.value, hentry]

/-- **No launch by the tag takes an excluded entry exactly if the tag sees the exclusions**,
whatever else the launch is asked for. -/
theorem launch_clear_iff_tag_sees (cfg : ControlConfig) (out : Outside) (db : DB) (scopeID : UUID)
    (tag : String) (hvalid : ∃ clean, cfg.launch.validate [] = .ok clean) :
    (∀ o : LaunchOptions, o.tag = tag → ∀ h' db' r,
      (controlSystem cfg out).Runs [] db (start cfg.launch scopeID o) h' db' r →
        ClearTargets db scopeID db') ↔ TagSeesExclusions db scopeID tag := by
  constructor
  · intro hclear
    refine tagSeesExclusions_iff.mpr fun t ht hex => ?_
    by_contra hunseen
    obtain ⟨clean, hclean⟩ := hvalid
    -- the merged row of the entry is not excluded, so a launch by the tag takes it
    obtain ⟨m, hm, hentry⟩ := entry_mem_mergeTargets ht
    have hmode : m.mode ≠ .exclude := by
      rw [ne_eq, mode_of_mem_mergeTargets hm, hentry]
      exact hunseen
    have hne : tag ≠ "" := by
      intro hempty
      obtain ⟨t', ht', hscope, hentry', hmode'⟩ := hex
      exact hunseen ⟨t', mem_listTargets.mpr ⟨ht', hscope, .inl hempty⟩, hentry', hmode'⟩
    have he : t.entry ∈ runTargetsFor (byTag tag) []
        (mergeTargets (listTargets scopeID tag db)) := by
      rw [runTargetsFor_tag hne, ← hentry]
      exact List.mem_map_of_mem (List.mem_filter.mpr ⟨hm, bne_iff_ne.mpr hmode⟩)
    obtain ⟨h', db', r, hr, rt, hrt, hid, heq⟩ := target_of_byTag out hclean he
    exact hclear (byTag tag) rfl h' db' r hr rt hrt hid (heq ▸ hex)
  · intro hsees o ho h' db' r hr
    exact clearTargets_of_runs (ho ▸ hsees) hr

end Launch

/-! ### An exclusion in another group -/

/-- A company that lists a name in one group, with a tag, and excludes it in another. -/
def twoGroupDB (tags : List String) : DB where
  pools := oneTaskDB.pools
  scopeTargets := .ofRows
    [{ id := 1, scopeID := 1, kind := .domain, value := "example.org", mode := .passiveOnly
       tags := ["web"], groupID := some 1 },
     { id := 2, scopeID := 1, kind := .domain, value := "example.org", mode := .exclude
       tags := tags, groupID := some 2 }] (by simp)

/-- **The excluded name becomes a run target** of a launch by the tag, which the excluding row
lacks. -/
theorem excluded_name_launched :
    ∃ h' db' run, (controlSystem {} {}).Runs [] (twoGroupDB []) (start {} 1 (byTag "web")) h' db'
      (.ok run) ∧ ¬ ClearTargets (twoGroupDB []) 1 db' :=
  ⟨_, _, _, runs_of_serve _ (o := {}) rfl, by decide +kernel⟩

/-- Where the excluding row carries the tag too, no launch by it takes the name. -/
theorem launch_clear_iff_tag_sees_both :
    TagSeesExclusions (twoGroupDB ["web"]) 1 "web" ∧ ∀ o : LaunchOptions, o.tag = "web" →
      ∀ h' db' r,
      (controlSystem {} {}).Runs [] (twoGroupDB ["web"]) (start {} 1 o) h' db' r →
        ClearTargets (twoGroupDB ["web"]) 1 db' :=
  ⟨by decide, (launch_clear_iff_tag_sees {} {}
    (twoGroupDB ["web"]) 1 "web" ⟨[], rfl⟩).mpr (by decide)⟩

end PinkGlasses
