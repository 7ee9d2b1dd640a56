import PinkGlasses.Diff
import PinkGlasses.Lib.Faults

/-!
# PinkGlasses.Diff.Returned

When the differ says that a finding is back. It compares what the run saw with what the last run
before it saw that looked in the same place, and that run **may have looked before the finding was
ever seen**: a finding that is first observed then counts as returned, beside being new.

`returned_justified_iff`: the differ says so only of findings that were seen before and then missed,
whichever of its statements fail, exactly if every finding the run saw, and an earlier run looked
for, was seen by an earlier run that looked for it.
-/

namespace PinkGlasses

open Lib Lib.System Prog

namespace Diff

variable {β : Type} {st : DiffDB} {run : ScanRun}

/-! ### The last run before -/

/-- The run is on record, looked for the finding, and started before the run `runID`. -/
def lookedBefore (st : DiffDB) (runID : UUID) (f : Finding) (r : ScanRun) : Prop :=
  r ∈ st.db.runs.rows ∧ looked st f r = true ∧ startedBefore st.db runID r = true

/-- The latest run that looked for the finding before the run `runID` did not see it. -/
def LatestMissed (st : DiffDB) (runID : UUID) (f : Finding) : Prop :=
  ∃ r, lookedBefore st runID f r ∧ observed st f r.id = false ∧
    ∀ r', lookedBefore st runID f r' → startsBefore r' r

/-- A run that looked for the finding before the run `runID` saw it. -/
def SeenEarlier (st : DiffDB) (runID : UUID) (f : Finding) : Prop :=
  ∃ r, lookedBefore st runID f r ∧ observed st f r.id = true

instance startsBefore_total : Std.Total fun r r' : ScanRun => startsBefore r' r :=
  ⟨fun r r' => le_total (r'.startedAt.getD 0) (r.startedAt.getD 0)⟩

instance startsBefore_trans : IsTrans ScanRun fun r r' => startsBefore r' r :=
  ⟨fun _ _ _ h h' => le_trans h' h⟩

variable {runID : UUID} {f : Finding} {r : ScanRun} {c : FindingPresenceChange}

theorem mem_previousRuns :
    r ∈ (st.db.runs.rows.filter fun r => looked st f r && startedBefore st.db runID r).insertionSort
      (fun r r' => startsBefore r' r) ↔ lookedBefore st runID f r := by
  rw [List.mem_insertionSort, List.mem_filter, Bool.and_eq_true, lookedBefore]

theorem previousRun_eq_some (h : previousRun st runID f = some r) :
    lookedBefore st runID f r ∧ ∀ r', lookedBefore st runID f r' → startsBefore r' r := by
  refine ⟨mem_previousRuns.mp (List.mem_of_head? h), fun r' hr' => ?_⟩
  have hsorted := List.pairwise_insertionSort (fun r r' => startsBefore r' r)
    (st.db.runs.rows.filter fun r => looked st f r && startedBefore st.db runID r)
  obtain ⟨rest, hrest⟩ := List.head?_eq_some_iff.mp h
  rw [hrest] at hsorted
  rcases List.mem_cons.mp (hrest ▸ mem_previousRuns.mpr hr') with rfl | hmem
  · exact le_refl _
  · exact (List.pairwise_cons.mp hsorted).1 r' hmem

theorem previousRun_eq_none : previousRun st runID f = none ↔ ∀ r, ¬ lookedBefore st runID f r := by
  rw [previousRun, List.head?_eq_none_iff, List.eq_nil_iff_forall_not_mem]
  exact forall_congr' fun r => not_congr mem_previousRuns

/-- What the query says of a finding that is back: the run saw it, and the latest run before, which
looked for it, did not. -/
theorem returned_of_covered {scopeID : UUID} (hc : c ∈ findingsCoveredByRun st runID scopeID)
    (hprev : c.hasPrevious = true) (hbefore : c.observedBefore = false) :
    ∃ f ∈ st.db.findings.rows, f.id = c.id ∧ f.scopeID = scopeID ∧ covers st.db f runID = true ∧
      observed st f runID = c.observedNow ∧ LatestMissed st runID f := by
  obtain ⟨f, hf, rfl⟩ := List.mem_map.mp hc
  obtain ⟨hmem, hsel⟩ := List.mem_filter.mp hf
  obtain ⟨hscope, hcovers⟩ := Bool.and_eq_true_iff.mp hsel
  refine ⟨f, hmem, rfl, eq_of_beq hscope, hcovers, rfl, ?_⟩
  obtain ⟨r, hr⟩ := Option.isSome_iff_exists.mp hprev
  obtain ⟨hbef, hlast⟩ := previousRun_eq_some hr
  have hmiss : observed st f r.id = false := by simpa [hr] using hbefore
  exact ⟨r, hbef, hmiss, hlast⟩

/-! ### What the differ records -/

/-- The events recorded since a state. -/
def recordedSince (st st' : DiffDB) : List ChangeEvent :=
  st'.changeEvents.drop st.changeEvents.length

/-- The event says that a finding is back only if an earlier run saw it and the latest one before
the run did not. -/
def ReturnedJustified (st : DiffDB) (runID : UUID) (e : ChangeEvent) : Prop :=
  e.kind = .findingReturned → ∀ f ∈ st.db.findings.rows, f.id = e.assetID →
    SeenEarlier st runID f ∧ LatestMissed st runID f

/-- **Every finding of the company that the run saw, and an earlier run looked for, was seen by an
earlier run that looked for it.** -/
def NoneFirstSeenLate (st : DiffDB) (run : ScanRun) : Prop :=
  ∀ f ∈ st.db.findings.rows, f.scopeID = run.scopeID → covers st.db f run.id = true →
    observed st f run.id = true → (∃ r, lookedBefore st run.id f r) → SeenEarlier st run.id f

/-- The contract of the differ: it says of a finding that it is back if the query says so. -/
def returnedPre (run : ScanRun) (h : Hist DiffStmt) (β : Type) (s : DiffStmt β) : Prop :=
  ∀ e, s.recorded? = some e → e.kind = .findingReturned → ∃ changes c,
    h.Asked (.findingsCoveredByRun run.id run.scopeID) (some changes) ∧ c ∈ changes ∧
    c.hasPrevious = true ∧ c.observedBefore = false ∧ c.observedNow = true ∧ e.assetID = c.id

theorem returnedPre_of_kind {h : Hist DiffStmt} {s : DiffStmt β}
    (hs : ∀ e, s.recorded? = some e → e.kind ≠ .findingReturned) : returnedPre run h β s :=
  fun e he hk => absurd hk (hs e he)

theorem recordRows_returned {α : Type} {q : DiffStmt (List α)} {event : α → Option ChangeEvent}
    {h : Hist DiffStmt} (hq : q.recorded? = none)
    (hevent : ∀ x e, event x = some e → e.kind ≠ .findingReturned) :
    MeetsOk (returnedPre run) h (recordRows q event) fun _ _ => True := by
  refine (recordRows_meets (returnedPre_of_kind fun e he => ?_) fun _ rows _ e he => ?_).imp
    fun _ _ _ _ => trivial
  · exact absurd (hq.symm.trans he) nofun
  · obtain ⟨x, -, hx⟩ := List.mem_filterMap.mp he
    exact returnedPre_of_kind fun e' he' => Option.some.inj he' ▸ hevent x e hx

theorem presenceEvent_returned {e : ChangeEvent} (h : presenceEvent run c = some e)
    (hk : e.kind = .findingReturned) :
    c.hasPrevious = true ∧ c.observedBefore = false ∧ c.observedNow = true ∧ e.assetID = c.id := by
  unfold presenceEvent at h
  cases hp : c.hasPrevious <;> cases hb : c.observedBefore <;> cases hn : c.observedNow <;>
    simp [hp, hb, hn] at h <;> subst h <;> first | exact ⟨rfl, rfl, rfl, rfl⟩ | cases hk

theorem presenceEvent_runID {e : ChangeEvent} (h : presenceEvent run c = some e) :
    e.runID = run.id := by
  unfold presenceEvent at h
  dsimp only at h
  split_ifs at h <;> cases h <;> rfl

theorem diff_returned (run : ScanRun) :
    MeetsOk (returnedPre run) [] (diff run) fun _ _ => True := by
  unfold diff
  split
  · exact meetsOk_pure trivial
  · refine (recordRows_returned rfl fun x e he => ?_).bind fun _ _ _ _ => ?_
    · cases he
      show ChangeKind.newSubdomain ≠ _
      decide
    refine (recordRows_returned rfl fun x e he => ?_).bind fun _ _ _ _ => ?_
    · cases he
      show ChangeKind.newPort ≠ _
      decide
    refine (recordRows_returned rfl fun x e he => ?_).bind fun _ _ _ _ => ?_
    · cases he
      show ChangeKind.newFinding ≠ _
      decide
    -- only the comparison of coverage can say that a finding is back
    have hquery : ∀ h, returnedPre run h _ (.findingsCoveredByRun run.id run.scopeID) :=
      fun _ e he => by cases he
    refine (recordRows_meets (hquery _) fun _ changes hask e he => ?_).bind
      fun _ _ _ _ => meetsOk_pure trivial
    obtain ⟨c, hc, hevent⟩ := List.mem_filterMap.mp he
    intro e' he' hk
    cases he'
    obtain ⟨hprev, hbefore, hnow, hid⟩ := presenceEvent_returned hevent hk
    exact ⟨changes, c, hask, hc, hprev, hbefore, hnow, hid⟩

/-! ### Where the differ can end -/

/-- The query says that the finding is back. -/
def SaidBack (st : DiffDB) (run : ScanRun) (id : UUID) : Prop :=
  ∃ c ∈ findingsCoveredByRun st run.id run.scopeID,
    c.hasPrevious = true ∧ c.observedBefore = false ∧ c.observedNow = true ∧ id = c.id

/-- **At every end** only events were added, and where one says that a finding is back, the query
said so. -/
theorem diff_ends {st' : DiffDB} {r : Except String Nat}
    (hend : diffSystem.MayEnd st (diff run).run st' r) : ∃ new, st' = st.withEvents new ∧
      ∀ e ∈ new, e.kind = .findingReturned → SaidBack st run e.assetID := by
  -- the query reads nothing that the differ writes
  have hinv := MayEnd.inv (diff_returned run) hend
    (fun h st₁ => (∃ new, st₁ = st.withEvents new ∧
      ∀ e ∈ new, e.kind = .findingReturned → SaidBack st run e.assetID) ∧
      ∀ changes, h.Asked (.findingsCoveredByRun run.id run.scopeID) (some changes) →
        changes = findingsCoveredByRun st run.id run.scopeID)
    ⟨⟨[], st.withEvents_nil.symm, List.forall_mem_nil _⟩, fun _ hask => hask.of_nil⟩
    ?_ ?_
  · obtain ⟨h, ⟨hnew, -⟩, -⟩ := hinv
    exact hnew
  · rintro h _ β s env b st₂ ⟨⟨new, rfl, hnew⟩, hasked⟩ hpre hexec
    constructor
    · refine ⟨new ++ (s.recorded?.map (·.stamped env.now)).toList, ?_, ?_⟩
      · rw [DiffStmt.exec_eq hexec, DiffDB.withEvents_withEvents]
      · intro e he hk
        rcases List.mem_append.mp he with hold | hlast
        · exact hnew e hold hk
        · obtain ⟨e₀, he₀, rfl⟩ := Option.map_eq_some_iff.mp (Option.mem_toList.mp hlast)
          obtain ⟨changes, c, hask, hc, hrest⟩ := hpre e₀ he₀ hk
          exact ⟨c, hasked changes hask ▸ hc, hrest⟩
    · intro changes hask
      rcases hask with _ | ⟨_, hmem⟩
      · cases hexec
        rfl
      · exact hasked changes hmem
  · rintro h st₁ β s ⟨hst, hasked⟩ -
    refine ⟨hst, fun changes hask => ?_⟩
    rcases hask with _ | ⟨_, hmem⟩
    exact hasked changes hmem

theorem recordEach_mayEnd {es : List ChangeEvent}
    (hes : ∀ e ∈ es, (st.db.runs.find? e.runID).isSome = true) :
    diffSystem.MayEnd st (recordEach es).run (st.withEvents (es.map (·.stamped 0)))
      (.ok es.length) := by
  induction es generalizing st with
  | nil => exact ⟨st.withEvents_nil, rfl⟩
  | cons e rest ih =>
    obtain ⟨he, hrest⟩ := List.forall_mem_cons.mp hes
    have hexec : (DiffStmt.recordChangeEvent e).exec {} st =
        some ((), st.withEvents [e.stamped 0]) := by
      rw [DiffStmt.exec, if_neg]
      simpa [Option.isSome_iff_ne_none] using he
    have hask : diffSystem.MayEnd st (ask (.recordChangeEvent e)).run (st.withEvents [e.stamped 0])
        (.ok ()) := mayEnd_query.mpr (.inl ⟨{}, (), hexec, rfl⟩)
    refine mayEnd_bind_except.mpr
      (.inl ⟨_, (), hask, mayEnd_bind_except.mpr (.inl ⟨_, _, ih hrest, ?_⟩)⟩)
    simp

theorem recordRows_mayEnd {α : Type} {q : DiffStmt (List α)} {event : α → Option ChangeEvent}
    {rows : List α} (hq : q.exec {} st = some (rows, st))
    (hrun : ∀ x e, event x = some e → (st.db.runs.find? e.runID).isSome = true) :
    diffSystem.MayEnd st (recordRows q event).run
      (st.withEvents ((rows.filterMap event).map (·.stamped 0)))
      (.ok (rows.filterMap event).length) := by
  refine mayEnd_bind_except.mpr (.inl ⟨st, rows, mayEnd_query.mpr (.inl ⟨{}, rows, hq, rfl⟩), ?_⟩)
  refine recordEach_mayEnd fun e he => ?_
  obtain ⟨x, -, hx⟩ := List.mem_filterMap.mp he
  exact hrun x e hx

/-- **With nothing failing**, what the query says is back is recorded. -/
theorem diff_mayEnd (hrun : st.db.runs.find? run.id = some run) {startedAt : Time}
    (hstart : run.startedAt = some startedAt) : ∃ new n,
      diffSystem.MayEnd st (diff run).run (st.withEvents new) (.ok n) ∧
      ∀ c ∈ findingsCoveredByRun st run.id run.scopeID, ∀ e ∈ presenceEvent run c,
        e.stamped 0 ∈ new := by
  -- every event is of the run, which is on record throughout
  have hexists : ∀ es, ((st.withEvents es).db.runs.find? run.id).isSome = true := fun _ =>
    Option.isSome_iff_exists.mpr ⟨run, hrun⟩
  obtain ⟨es₁, n₁, h₁⟩ : ∃ es n, diffSystem.MayEnd st (newDomains run (startedAt - 2)).run
      (st.withEvents es) (.ok n) :=
    ⟨_, _, recordRows_mayEnd rfl fun _ _ he => Option.some.inj he ▸ hexists []⟩
  obtain ⟨es₂, n₂, h₂⟩ : ∃ es n, diffSystem.MayEnd (st.withEvents es₁)
      (newServices run (startedAt - 2)).run ((st.withEvents es₁).withEvents es) (.ok n) :=
    ⟨_, _, recordRows_mayEnd rfl fun _ _ he => Option.some.inj he ▸ hexists []⟩
  rw [DiffDB.withEvents_withEvents] at h₂
  obtain ⟨es₃, n₃, h₃⟩ : ∃ es n, diffSystem.MayEnd (st.withEvents (es₁ ++ es₂))
      (newFindings run (startedAt - 2)).run ((st.withEvents (es₁ ++ es₂)).withEvents es) (.ok n) :=
    ⟨_, _, recordRows_mayEnd rfl fun _ _ he => Option.some.inj he ▸ hexists []⟩
  rw [DiffDB.withEvents_withEvents] at h₃
  obtain ⟨es₄, n₄, h₄, hall⟩ : ∃ es n, diffSystem.MayEnd (st.withEvents (es₁ ++ es₂ ++ es₃))
      (findingPresence run).run ((st.withEvents (es₁ ++ es₂ ++ es₃)).withEvents es) (.ok n) ∧
      ∀ c ∈ findingsCoveredByRun st run.id run.scopeID, ∀ e ∈ presenceEvent run c,
        e.stamped 0 ∈ es :=
    ⟨_, _, recordRows_mayEnd rfl fun _ _ he => presenceEvent_runID he ▸ hexists [],
      fun c hc e he => List.mem_map_of_mem (List.mem_filterMap.mpr ⟨c, hc, he⟩)⟩
  rw [DiffDB.withEvents_withEvents] at h₄
  refine ⟨es₁ ++ es₂ ++ es₃ ++ es₄, n₁ + n₂ + n₃ + n₄, ?_,
    fun c hc e he => List.mem_append_right _ (hall c hc e he)⟩
  unfold diff
  rw [hstart]
  exact mayEnd_bind_except.mpr (.inl ⟨_, _, h₁, mayEnd_bind_except.mpr (.inl ⟨_, _, h₂,
    mayEnd_bind_except.mpr (.inl ⟨_, _, h₃, mayEnd_bind_except.mpr (.inl ⟨_, _, h₄, rfl, rfl⟩)⟩)⟩)⟩)

/-! ### Findings that are back -/

@[simp] theorem recordedSince_withEvents (es : List ChangeEvent) :
    recordedSince st (st.withEvents es) = es := by
  simp [recordedSince, DiffDB.withEvents]

theorem startedAt_of_lookedBefore (hrun : st.db.runs.find? run.id = some run)
    (h : lookedBefore st run.id f r) : ∃ startedAt, run.startedAt = some startedAt := by
  obtain ⟨-, -, hstart⟩ := h
  rw [startedBefore, hrun] at hstart
  cases hs : run.startedAt with
  | none => simp [hs] at hstart
  | some t => exact ⟨t, rfl⟩

/-- A finding the run saw, which earlier runs looked for and none of them saw, is said to be
back. -/
theorem saidBack_of_firstSeen (hf : f ∈ st.db.findings.rows) (hscope : f.scopeID = run.scopeID)
    (hcovers : covers st.db f run.id = true) (hnow : observed st f run.id = true)
    (hlooked : ∃ r, lookedBefore st run.id f r) (hnever : ¬ SeenEarlier st run.id f) :
    ∃ c ∈ findingsCoveredByRun st run.id run.scopeID,
      c.id = f.id ∧ c.hasPrevious = true ∧ c.observedBefore = false ∧ c.observedNow = true := by
  refine ⟨_, List.mem_map_of_mem (List.mem_filter.mpr ⟨hf, by simp [hscope, hcovers]⟩),
    rfl, ?_, ?_, hnow⟩
  · rw [Option.isSome_iff_ne_none]
    intro hnone
    obtain ⟨r, hr⟩ := hlooked
    exact previousRun_eq_none.mp hnone r hr
  · refine Bool.eq_false_iff.mpr fun hsome => hnever ?_
    obtain ⟨r, hr, hobs⟩ := (Option.any_eq_true _ _).mp hsome
    exact ⟨r, (previousRun_eq_some hr).1, hobs⟩

/-- **Findings that are back.** Whatever fails, the differ says of a finding that it is back only if
an earlier run that looked for it saw it and the latest one before did not, exactly if
`NoneFirstSeenLate`. -/
theorem returned_justified_iff (st : DiffDB) (run : ScanRun)
    (hrun : st.db.runs.find? run.id = some run) :
    diffSystem.AllEnds st (diff run).run
        (fun st' _ => ∀ e ∈ recordedSince st st', ReturnedJustified st run.id e) ↔
      NoneFirstSeenLate st run := by
  constructor
  -- a finding first seen late is said to be back in the run where nothing fails
  · intro hall f hf hscope hcovers hnow hlooked
    by_contra hnever
    obtain ⟨c, hc, hid, hprev, hbefore, hobs⟩ :=
      saidBack_of_firstSeen hf hscope hcovers hnow hlooked hnever
    obtain ⟨startedAt, hstart⟩ := startedAt_of_lookedBefore hrun hlooked.choose_spec
    obtain ⟨new, n, hend, hnew⟩ := diff_mayEnd hrun hstart
    obtain ⟨e, he, hk, hasset⟩ : ∃ e ∈ presenceEvent run c, e.kind = .findingReturned ∧
        e.assetID = c.id := by
      simp [presenceEvent, hprev, hbefore, hobs]
    have hrec : e.stamped 0 ∈ recordedSince st (st.withEvents new) := by
      rw [recordedSince_withEvents]
      exact hnew c hc e he
    exact hnever (hall _ _ hend _ hrec hk f hf (hid.symm.trans hasset.symm)).1
  -- whatever fails, an event that was recorded comes from a covered finding
  · intro hcond st' r hend e he hk f hf hid
    obtain ⟨new, rfl, hback⟩ := diff_ends hend
    rw [recordedSince_withEvents] at he
    obtain ⟨c, hc, hprev, hbefore, hobs, hasset⟩ := hback e he hk
    obtain ⟨g, hg, hgid, hscope, hcovers, hnow, hmissed⟩ := returned_of_covered hc hprev hbefore
    obtain rfl := Table.eq_of_key hf hg (hid.trans (hasset.trans hgid.symm))
    refine ⟨hcond f hf hscope hcovers (hnow.trans hobs) ?_, hmissed⟩
    obtain ⟨r, hr, -⟩ := hmissed
    exact ⟨r, hr⟩

/-- A finding that the first run saw, the second did not, and the third did. -/
theorem returned_justified_seen_missed_seen :
    (threeRuns .completed [1, 3]).db.runs.find? 3 = some (runAt 3 .completed) ∧
    diffSystem.AllEnds (threeRuns .completed [1, 3]) (diff (runAt 3 .completed)).run
      (fun st' _ => ∀ e ∈ recordedSince (threeRuns .completed [1, 3]) st',
        ReturnedJustified (threeRuns .completed [1, 3]) 3 e) := by
  refine ⟨rfl, (returned_justified_iff _ (runAt 3 .completed) rfl).mpr ?_⟩
  intro f hf _ _ _ _
  obtain rfl := List.mem_singleton.mp hf
  exact ⟨runAt 1 .completed, ⟨List.mem_cons_self, by decide +kernel, by decide +kernel⟩,
    by decide +kernel⟩

/-- **A finding first seen is said to be back**: two runs looked for it before, and neither saw it.
Nothing fails, and the differ says of it that it is new and that it is back. -/
theorem first_seen_said_back : ∃ st',
    diffSystem.MayEnd (threeRuns .completed [3]) (diff (runAt 3 .completed)).run st' (.ok 2) ∧
    (recordedSince (threeRuns .completed [3]) st').map (fun e => (e.kind, e.assetID)) =
      [(.newFinding, 1), (.findingReturned, 1)] ∧
    ∀ r ∈ [1, 2], observed (threeRuns .completed [3]) weakCipher r = false := by
  have hend := mayEnd_serve diffSystem {} [] (threeRuns .completed [3])
      (diff (runAt 3 .completed)).run
  have hval : (diffSystem.serve {} [] (threeRuns .completed [3])
      (diff (runAt 3 .completed)).run).2.2 = .ok 2 := by decide +kernel
  rw [hval] at hend
  exact ⟨_, hend, by decide +kernel, by decide +kernel⟩

end Diff

end PinkGlasses
