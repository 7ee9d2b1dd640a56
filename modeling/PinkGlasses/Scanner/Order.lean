import PinkGlasses.Scanner.Contract

/-!
# PinkGlasses.Scanner.Order

The last batch of an attempt closes the task, so the gateway should get it **after every earlier
batch of the attempt**. Three things keep that order: a batch whose task has spooled batches is
spooled too (`hasPending`), a replay sends what is spooled by name, and ends at the first batch it
cannot deliver.

It is not kept when an earlier batch is refused (a 4xx) or trimmed from the spool, when the clock
has gone back between two batches, or when a call to the spool fails. In every run in which none of
this happens (`Steady`) final batches are accepted in order (`final_accepted_last`): the spool is a
queue in which every batch has its predecessors before it or already answered.
-/

namespace PinkGlasses

open Lib Prog

namespace Scanner

variable {β : Type}

/-- **A final batch was accepted only after every earlier batch of its attempt.** -/
def InOrder (accepted : List Result) : Prop :=
  ∀ newer r older, accepted = newer ++ r :: older → r.final = true → r.status = "ok" →
    ∀ k < r.seq, ∃ r' ∈ older, SameAttempt r' r ∧ r'.seq = k

/-! ### The condition -/

/-- The batch has been answered: taken, or refused. -/
def Answered (st : SpoolState) (r : Result) : Prop := r ∈ st.accepted ∨ r ∈ st.refused
deriving Decidable

/-- What a call must find for the order to be kept. -/
def SpoolStmt.steady (st : SpoolState) (h : Hist SpoolStmt) : SpoolStmt β → Prop
  -- a goroutine waits for the mutex
  | lock => st.locked = false
  -- a new file sorts after those of its task
  | rename old new => new ∉ st.nodes ∧ ∀ e, st.nodes.lookup old = some (.file (some e)) →
      ∀ name e', Spooled st.nodes name e' → e'.result.taskID = e.result.taskID → name < new
  -- a file that is trimmed holds no batch that is still needed
  | remove name => name ∉ filesRead h → ∀ e, Spooled st.nodes name e → Answered st e.result
  | _ => True

/-- **A run is steady** as long as no call to the spool has failed, trimming drops only what was
answered, and new files sort after those of their task. -/
def Steady (c : Conf SpoolStmt SpoolState Unit) (i : Nat) (β : Type) (s : SpoolStmt β) : Prop :=
  (∀ th ∈ c.threads, Sound th.hist) ∧ ∀ th ∈ c.threads[i]?, s.steady c.state th.hist

/-- The batch spooled under a name. -/
def batchUnder (nodes : AList fun _ : String => Node) (name : String) : Option SpoolEntry :=
  match nodes.lookup name with
  | some (.file e) => if isBatch name then e else none
  | _ => none

theorem batchUnder_eq_some {nodes : AList fun _ : String => Node} {name : String} {e : SpoolEntry} :
    batchUnder nodes name = some e ↔ Spooled nodes name e := by
  unfold batchUnder Spooled
  split
  · rename_i heq
    simp [heq, and_comm]
  · rename_i hne
    exact ⟨fun h => (by cases h), fun h => absurd h.1 (hne _)⟩

section Decide

variable {nodes : AList fun _ : String => Node}

instance {name : String} {P : SpoolEntry → Prop} [∀ e, Decidable (P e)] :
    Decidable (∀ e, Spooled nodes name e → P e) :=
  decidable_of_iff (∀ e ∈ batchUnder nodes name, P e) <| by
    simp only [Option.mem_def, batchUnder_eq_some]

instance {P : String → SpoolEntry → Prop} [∀ name e, Decidable (P name e)] :
    Decidable (∀ name e, Spooled nodes name e → P name e) :=
  decidable_of_iff (∀ name ∈ nodes.keys, ∀ e, Spooled nodes name e → P name e) <| by
    refine ⟨fun h name e he => h name ?_ e he, fun h name _ => h name⟩
    exact AList.lookup_isSome.mp (by rw [he.1]; rfl)

instance {old : String} {P : SpoolEntry → Prop} [∀ e, Decidable (P e)] :
    Decidable (∀ e, nodes.lookup old = some (.file (some e)) → P e) :=
  match h : nodes.lookup old with
  | some (.file (some e)) => decidable_of_iff (P e) (by simp)
  | some (.file none) | some .dir | none => isTrue (by simp)

instance SpoolStmt.decidable_steady (st : SpoolState) (h : Hist SpoolStmt) (s : SpoolStmt β) :
    Decidable (s.steady st h) := by
  induction s using SpoolStmt.casesOn <;> unfold SpoolStmt.steady <;> infer_instance

deriving instance Decidable for Steady

end Decide

/-! ### The invariant -/

/-- **The spool is a queue**: a batch's predecessors have been answered or wait before it, and the
gateway has accepted batches after their predecessors. -/
structure Orderly (st : SpoolState) : Prop where
  queued : ∀ name e, Spooled st.nodes name e → ∀ k < e.result.seq, ∃ r, Earlier e.result k r ∧
    (Answered st r ∨ ∃ name' e', Spooled st.nodes name' e' ∧ e'.result = r ∧ name' < name)
  ordered : ∀ newer r older, st.accepted = newer ++ r :: older → ∀ k < r.seq, ∃ r',
    Earlier r k r' ∧ (r' ∈ older ∨ r' ∈ st.refused)

/-- The batch is in the spool, under a name that shows its task. -/
def Waiting (st : SpoolState) (r : Result) : Prop :=
  ∃ name e, Spooled st.nodes name e ∧ e.result = r ∧ isOfTask r.taskID name = true

/-- What a goroutine may rely on. -/
structure Aware (cfg : AgentConfig) (st : SpoolState) (th : Thread SpoolStmt Unit) : Prop where
  told : ∀ r, Told th.hist r → Answered st r
  filed : ∀ r, Filed th.hist r → Answered st r ∨ Waiting st r
  /-- If it has just seen nothing of a task in the spool, what it handled of it is answered. -/
  listed : ∀ entries h, th.hist = ⟨.readDir, some entries⟩ :: h → ∀ r, Handled h r →
    (∀ name ∈ batchNames entries, isOfTask r.taskID name = false) → Answered st r
  written : (spoolMutex cfg).inside th.hist = true → ∀ tmp e h,
    th.hist = ⟨.writeFile tmp e, some ()⟩ :: h → st.nodes.lookup tmp = some (.file (some e))
  /-- Inside, the directory has only lost files since it was listed, -/
  covers : (spoolMutex cfg).inside th.hist = true → ∀ entries, snapshot th.hist = some entries →
    ∀ name entry, st.nodes.lookup name = some (.file entry) → isBatch name = true →
      name ∈ batchNames entries
  /-- and a file it has read is as it was, or gone. -/
  read : (spoolMutex cfg).inside th.hist = true → ∀ name x,
    th.hist.Asked (.readFile name) (some x) →
      st.nodes.lookup name = none ∨ st.nodes.lookup name = some (.file x)
  reading : (spoolMutex cfg).inside th.hist = true → ∀ name x h,
    th.hist = ⟨.readFile name, some x⟩ :: h → st.nodes.lookup name = some (.file x)

/-- The names in the directory that a call changes. -/
def SpoolStmt.touches : SpoolStmt β → List String
  | writeFile name _ | remove name => [name]
  | rename old new => [old, new]
  | _ => []

/-- The batch a call sends. -/
def SpoolStmt.sends : SpoolStmt β → Option Result
  | clientDo _ r => some r
  | _ => none

section Step

variable {cfg : AgentConfig} {env : SpoolEnv} {st st' : SpoolState} {h : Hist SpoolStmt}
  {s : SpoolStmt β} {k : Option β → Prog SpoolStmt Unit} {b : β} {r : Result}

/-- Whoever changes the directory is inside. -/
theorem SpoolStmt.inside_of_touches (hneeds : s.needs cfg h) (hs : s.touches ≠ []) :
    (spoolMutex cfg).inside h = true := by
  cases s with
  | writeFile | rename | remove => exact hneeds.1
  | _ => cases hs rfl

section Exec

variable (hexec : s.exec env st = some (b, st'))

include hexec

theorem SpoolStmt.lookup_exec {name : String} (hname : name ∉ s.touches) :
    st'.nodes.lookup name = st.nodes.lookup name := by
  cases s with
  | lock | readFile =>
    simp only [exec] at hexec
    split at hexec <;> cases hexec
    rfl
  | writeFile | rename | remove =>
    simp only [exec] at hexec
    simp only [touches, List.mem_cons, List.not_mem_nil, or_false, not_or] at hname
    split at hexec <;> cases hexec
    simp [AList.lookup_insert_ne, AList.lookup_erase_ne, hname]
  | _ => cases hexec; rfl

/-- Answers are never forgotten, and only a call to the gateway adds to them. -/
theorem SpoolStmt.exec_logs : (st.accepted ⊆ st'.accepted ∧ st.refused ⊆ st'.refused) ∧
    (s.sends = none → st'.accepted = st.accepted) := by
  cases s with
  | clientDo =>
    cases hexec
    refine ⟨⟨?_, ?_⟩, nofun⟩
    all_goals
      dsimp only
      split
      · exact List.subset_cons_self _ _
      · exact List.Subset.refl _
  | lock | readFile | writeFile | rename | remove =>
    simp only [exec] at hexec
    split at hexec <;> cases hexec
    all_goals exact ⟨⟨List.Subset.refl _, List.Subset.refl _⟩, fun _ => rfl⟩
  | _ => cases hexec; exact ⟨⟨List.Subset.refl _, List.Subset.refl _⟩, fun _ => rfl⟩

theorem SpoolStmt.answered_after (hr : Answered st r) : Answered st' r :=
  hr.imp ((exec_logs hexec).1.1 ·) ((exec_logs hexec).1.2 ·)

end Exec

theorem SpoolStmt.lookup_remove {name : String} {u : Unit}
    (hexec : (remove name).exec env st = some (u, st')) : st'.nodes.lookup name = none := by
  simp only [exec] at hexec
  split at hexec <;> cases hexec
  exact AList.lookup_erase _ _

variable {name : String} {e : SpoolEntry} {entries : List (String × Bool)}

theorem Aware.removed {k : Option Unit → Prog SpoolStmt Unit}
    (haware : Aware cfg st ⟨h, .call (.remove name) k⟩)
    (hneeds : (SpoolStmt.remove name).needs cfg h) (hsteady : (SpoolStmt.remove name).steady st h)
    (hspooled : Spooled st.nodes name e) : Answered st e.result := by
  by_cases hread : name ∈ filesRead h
  · obtain ⟨x, hasked, htold⟩ := hneeds.2 hread
    rcases haware.read hneeds.1 name x hasked with hnone | hfile
    · rw [hspooled.1] at hnone
      cases hnone
    · rw [hspooled.1] at hfile
      cases hfile
      exact haware.told _ (htold e rfl)
  · exact hsteady hread e hspooled

/-- A batch that is no temporary file is another one than the temporary file. -/
theorem ne_of_isBatch {tmp : String} (hname : isBatch name = true) (htmp : isBatch tmp = false) :
    name ≠ tmp := by
  rintro rfl
  rw [hname] at htmp
  cases htmp

/-- A call that the goroutine makes in a steady run, and what it does. -/
structure Made (cfg : AgentConfig) (env : SpoolEnv) (st : SpoolState) (h : Hist SpoolStmt)
    (s : SpoolStmt β) (k : Option β → Prog SpoolStmt Unit) (b : β) (st' : SpoolState) : Prop where
  aware : Aware cfg st ⟨h, .call s k⟩
  needs : s.needs cfg h
  steady : s.steady st h
  exec : s.exec env st = some (b, st')

variable (hm : Made cfg env st h s k b st')

include hm

/-- **A batch leaves the spool only once it has been answered.** -/
theorem Made.kept (hspooled : Spooled st.nodes name e) :
    Answered st' e.result ∨ Spooled st'.nodes name e := by
  by_cases hname : name ∈ s.touches
  · refine .inl (SpoolStmt.answered_after hm.exec ?_)
    cases s with
    | writeFile =>
      exact absurd (List.mem_singleton.mp hname) (ne_of_isBatch hspooled.2 hm.needs.2.2)
    | rename old new =>
      rcases List.mem_pair.mp hname with rfl | rfl
      · exact absurd rfl (ne_of_isBatch hspooled.2 hm.needs.2.2.1)
      · have hnone := AList.lookup_eq_none.mpr hm.steady.1
        rw [hspooled.1] at hnone
        cases hnone
    | remove =>
      cases List.mem_singleton.mp hname
      exact hm.aware.removed hm.needs hm.steady hspooled
    | _ => cases hname
  · exact .inr ⟨(SpoolStmt.lookup_exec hm.exec hname).trans hspooled.1, hspooled.2⟩

theorem Made.waiting (hw : Waiting st r) : Answered st' r ∨ Waiting st' r := by
  obtain ⟨name, e, hspooled, rfl, hof⟩ := hw
  exact (hm.kept hspooled).imp_right fun h => ⟨name, e, h, rfl, hof⟩

/-- Another goroutine is none the wiser: if it is inside, the directory does not change. -/
theorem Made.other {th : Thread SpoolStmt Unit} (hth : Aware cfg st th)
    (halone : (spoolMutex cfg).inside th.hist = true → (spoolMutex cfg).inside h = false) :
    Aware cfg st' th := by
  -- while another thread is inside, this one changes no file
  have hnodes : (spoolMutex cfg).inside th.hist = true →
      ∀ name, st'.nodes.lookup name = st.nodes.lookup name := by
    intro hin name
    refine SpoolStmt.lookup_exec hm.exec fun hname => ?_
    rw [SpoolStmt.inside_of_touches hm.needs (List.ne_nil_of_mem hname)] at halone
    cases halone hin
  refine ⟨fun r hr => SpoolStmt.answered_after hm.exec (hth.told r hr), fun r hr => ?_,
    fun entries h' heq r hr hof =>
      SpoolStmt.answered_after hm.exec (hth.listed entries h' heq r hr hof),
    fun hin => ?_, fun hin => ?_, fun hin => ?_, fun hin => ?_⟩
  · rcases hth.filed r hr with hans | hw
    · exact .inl (SpoolStmt.answered_after hm.exec hans)
    · exact hm.waiting hw
  all_goals simp only [hnodes hin]
  · exact hth.written hin
  · exact hth.covers hin
  · exact hth.read hin
  · exact hth.reading hin

omit hm in
theorem SpoolStmt.exec_rename {old new : String} {u : Unit} {node : Node}
    (hexec : (rename old new).exec env st = some (u, st'))
    (hold : st.nodes.lookup old = some node) :
    st' = { st with nodes := (st.nodes.erase old).insert new node } := by
  simp only [exec, hold] at hexec
  split at hexec
  · cases hexec
  · rename_i heq _
    cases heq
    cases hexec
    rfl
  · cases hexec

theorem Made.told (ht : Told (⟨s, some b⟩ :: h) r) : Answered st' r := by
  obtain ⟨haware, -, -, hexec⟩ := hm
  obtain ⟨url, response, hasked, hout⟩ := ht
  rcases hasked with _ | ⟨_, hasked⟩
  · cases hexec
    cases hresponse : env.response with
    | noRequest => exact .inr (by simp [Response.outcome])
    | noResponse => rw [hresponse] at hout; exact absurd rfl hout
    | status code =>
      rw [hresponse] at hout
      by_cases h2 : code / 100 = 2
      · exact .inl (by simp [SpoolEnv.accepts, hresponse, h2])
      · refine .inr ?_
        have h5 : ¬ code / 100 = 5 := by
          intro h5
          simp [Response.outcome, h5] at hout
        simp [Response.outcome, h2, h5]
  · exact SpoolStmt.answered_after hexec (haware.told r ⟨url, response, hasked, hout⟩)

theorem Made.filed (hf : Filed (⟨s, some b⟩ :: h) r) : Answered st' r ∨ Waiting st' r := by
  obtain ⟨tmp, name, e, hin, rfl⟩ := hf
  rcases List.infix_cons_iff.mp hin with hfirst | hin
  · obtain ⟨hhead, hrest⟩ := List.cons_prefix_cons.mp hfirst
    cases hhead
    obtain ⟨-, -, -, hbatch, e', h', rfl, hof, -⟩ := id hm.needs
    obtain ⟨hwrite, -⟩ := List.cons_prefix_cons.mp hrest
    cases hwrite
    -- the temporary file is renamed
    rw [SpoolStmt.exec_rename hm.exec (hm.aware.written hm.needs.1 tmp e h' rfl)]
    exact .inr ⟨name, e, ⟨AList.lookup_insert _, hbatch⟩, rfl, hof⟩
  · rcases hm.aware.filed e.result ⟨tmp, name, e, hin, rfl⟩ with hans | hw
    · exact .inl (SpoolStmt.answered_after hm.exec hans)
    · exact hm.waiting hw

theorem Made.listed {h' : Hist SpoolStmt}
    (heq : (⟨s, some b⟩ :: h : Hist SpoolStmt) = ⟨.readDir, some entries⟩ :: h') (hr : Handled h' r)
    (hof : ∀ name ∈ batchNames entries, isOfTask r.taskID name = false) : Answered st' r := by
  obtain ⟨haware, -, -, hexec⟩ := hm
  obtain ⟨hcall, rfl⟩ := List.cons.inj heq
  cases hcall
  cases hexec
  have hwait : Answered st r ∨ Waiting st r := by
    rcases hr with ht | hf
    · exact .inl (haware.told r ht)
    · exact haware.filed r hf
  refine hwait.resolve_right ?_
  rintro ⟨name, e, hspooled, rfl, hname⟩
  have hmem : name ∈ batchNames (listing st) := mem_batchNames.mpr ⟨hspooled.2, _, hspooled.1⟩
  rw [hof name hmem] at hname
  cases hname

/-- Inside, no call of the goroutine itself adds a batch after it has listed the directory. -/
theorem Made.covers (hin : (spoolMutex cfg).inside (⟨s, some b⟩ :: h) = true)
    (hsnap : snapshot (⟨s, some b⟩ :: h) = some entries) {entry : Option SpoolEntry}
    (hlookup : st'.nodes.lookup name = some (.file entry)) (hbatch : isBatch name = true) :
    name ∈ batchNames entries := by
  obtain ⟨haware, -, -, hexec⟩ := hm
  cases s with
  | readDir =>
    cases hexec
    cases hsnap
    exact mem_batchNames.mpr ⟨hbatch, entry, hlookup⟩
  | lock | unlock | writeFile | rename => cases hsnap
  | remove name' =>
    have hname : name ∉ (SpoolStmt.remove name').touches := by
      intro hname
      cases List.mem_singleton.mp hname
      rw [SpoolStmt.lookup_remove hexec] at hlookup
      cases hlookup
    rw [SpoolStmt.lookup_exec hexec hname] at hlookup
    exact haware.covers hin entries hsnap name entry hlookup hbatch
  | readFile | now | ctxErr | clientDo =>
    rw [SpoolStmt.lookup_exec hexec List.not_mem_nil] at hlookup
    exact haware.covers hin entries hsnap name entry hlookup hbatch

omit hm in
theorem asked_of_reads {s : SpoolStmt β} (hs : s.reads = none) {y : Option β}
    {x : Option (Option SpoolEntry)} (hasked : Hist.Asked (⟨s, y⟩ :: h) (.readFile name) x) :
    h.Asked (.readFile name) x := by
  rcases List.mem_cons.mp hasked with heq | hasked
  · have hreads : some name = s.reads := congrArg (fun c : Call SpoolStmt => c.stmt.reads) heq
    rw [hs] at hreads
    cases hreads
  · exact hasked

theorem Made.read (hin : (spoolMutex cfg).inside (⟨s, some b⟩ :: h) = true) {x : Option SpoolEntry}
    (hasked : Hist.Asked (⟨s, some b⟩ :: h) (.readFile name) (some x)) :
    st'.nodes.lookup name = none ∨ st'.nodes.lookup name = some (.file x) := by
  obtain ⟨haware, hneeds, -, hexec⟩ := hm
  -- the two writers of files have read none
  have hunread : filesRead h = [] → ¬ h.Asked (.readFile name) (some x) := by
    intro hnone hasked
    have hmem : name ∈ filesRead h := List.mem_filterMap.mpr ⟨_, hasked, rfl⟩
    rw [hnone] at hmem
    cases hmem
  cases s with
  | unlock => cases hin
  | lock => exact absurd (asked_of_reads rfl hasked) (hunread hneeds)
  | writeFile | rename => exact absurd (asked_of_reads rfl hasked) (hunread hneeds.2.1)
  | readFile name' =>
    rw [SpoolStmt.lookup_exec hexec List.not_mem_nil]
    rcases hasked with _ | ⟨_, hasked⟩
    · simp only [SpoolStmt.exec] at hexec
      split at hexec <;> cases hexec
      exact .inr (by assumption)
    · exact haware.read hin name x hasked
  | remove name' =>
    by_cases hname : name ∈ (SpoolStmt.remove name').touches
    · cases List.mem_singleton.mp hname
      exact .inl (SpoolStmt.lookup_remove hexec)
    · rw [SpoolStmt.lookup_exec hexec hname]
      exact haware.read hin name x (asked_of_reads rfl hasked)
  | readDir | now | ctxErr | clientDo =>
    rw [SpoolStmt.lookup_exec hexec List.not_mem_nil]
    exact haware.read hin name x (asked_of_reads rfl hasked)

theorem Made.self : Aware cfg st' ⟨⟨s, some b⟩ :: h, k (some b)⟩ where
  told _ := hm.told
  filed _ := hm.filed
  listed _ _ heq _ := hm.listed heq
  covers hin _ hsnap _ _ := hm.covers hin hsnap
  read hin _ _ := hm.read hin
  written := by
    intro hin tmp e h' heq
    have hexec := hm.exec
    obtain ⟨hcall, -⟩ := List.cons.inj heq
    cases hcall
    simp only [SpoolStmt.exec] at hexec
    split at hexec <;> cases hexec
    exact AList.lookup_insert _
  reading := by
    intro hin name x h' heq
    have hexec := hm.exec
    obtain ⟨hcall, -⟩ := List.cons.inj heq
    cases hcall
    simp only [SpoolStmt.exec] at hexec
    split at hexec <;> cases hexec
    assumption

omit hm

theorem isBatch_of_mem (hmem : name ∈ batchNames entries) : isBatch name = true := by
  simp only [batchNames, List.mem_insertionSort, List.mem_map, List.mem_filter] at hmem
  obtain ⟨x, ⟨-, hx⟩, rfl⟩ := hmem
  simp only [Bool.and_eq_true] at hx
  exact hx.2

theorem mem_before {before after : List String} {name' : String}
    (hnames : batchNames entries = before ++ name :: after) (hmem : name' ∈ batchNames entries)
    (hlt : name' < name) : name' ∈ before := by
  have hsorted : (before ++ name :: after).Pairwise (· ≤ ·) :=
    hnames ▸ List.pairwise_insertionSort _ _
  rw [hnames, List.mem_append] at hmem
  refine hmem.resolve_right fun hmem => ?_
  rcases List.mem_cons.mp hmem with rfl | hmem
  · exact lt_irrefl _ hlt
  · have hle := (List.pairwise_cons.mp (List.pairwise_append.mp hsorted).2.1).1 name' hmem
    exact absurd hlt (not_lt.mpr hle)

/-- **When a batch is sent, every earlier batch of its attempt has been answered.** -/
theorem Aware.sends {url : String} {k : Option Response → Prog SpoolStmt Unit}
    (hst : Orderly st) (haware : Aware cfg st ⟨h, .call (.clientDo url r) k⟩)
    (hneeds : (SpoolStmt.clientDo url r).needs cfg h) :
    ∀ n < r.seq, ∃ r', Earlier r n r' ∧ Answered st r' := by
  intro n hn
  rcases hneeds with ⟨entries, h', rfl, hprep, hof⟩ |
    ⟨hin, entries, before, name, after, e, h', hsnap, hnames, rfl, rfl, hdealt⟩
  · -- by the goroutine of the attempt, which has seen nothing of the task in the spool
    obtain ⟨r', hearlier, hhandled⟩ := hprep n hn
    refine ⟨r', hearlier, haware.listed entries h' rfl r' hhandled ?_⟩
    rw [hearlier.1.1]
    exact hof
  · -- by a replay: what is before it in the spool is before it in the list
    have hlookup := haware.reading hin name (some e) h' rfl
    have hmem : name ∈ batchNames entries := hnames ▸ List.mem_append_right _ List.mem_cons_self
    obtain ⟨r', hearlier, hans | ⟨name', e', hspooled, rfl, hlt⟩⟩ :=
      hst.queued name e ⟨hlookup, isBatch_of_mem hmem⟩ n hn
    · exact ⟨r', hearlier, hans⟩
    · refine ⟨e'.result, hearlier, ?_⟩
      have hmem' := haware.covers hin entries hsnap name' (some e') hspooled.1 hspooled.2
      obtain ⟨x, hasked, htold⟩ := hdealt name' (mem_before hnames hmem' hlt)
      rcases haware.read hin name' x hasked with hnone | hfile
      · rw [hspooled.1] at hnone
        cases hnone
      · rw [hspooled.1] at hfile
        cases hfile
        exact haware.told _ (htold e' rfl)

include hm

/-- What is in the spool was there before, or has just been put after the rest of its task. -/
theorem Made.spooled_before (hspooled : Spooled st'.nodes name e) :
    Spooled st.nodes name e ∨ (Prepared h e.result ∧ ∀ name' e', Spooled st.nodes name' e' →
      e'.result.taskID = e.result.taskID → name' < name) := by
  by_cases hname : name ∈ s.touches
  · have hlookup := hspooled.1
    cases s with
    | writeFile =>
      exact absurd (List.mem_singleton.mp hname) (ne_of_isBatch hspooled.2 hm.needs.2.2)
    | rename old new =>
      obtain ⟨hin, -, hold, -, e', h', rfl, -, hprep⟩ := id hm.needs
      have hwritten := hm.aware.written hin old e' h' rfl
      -- the temporary name is no batch's; under the new one stands what was written
      rcases List.mem_pair.mp hname with rfl | rfl
      · exact absurd rfl (ne_of_isBatch hspooled.2 hold)
      · rw [SpoolStmt.exec_rename hm.exec hwritten, AList.lookup_insert] at hlookup
        cases hlookup
        exact .inr ⟨hprep, hm.steady.2 e hwritten⟩
    | remove =>
      cases List.mem_singleton.mp hname
      rw [SpoolStmt.lookup_remove hm.exec] at hlookup
      cases hlookup
    | _ => cases hname
  · exact .inl ⟨(SpoolStmt.lookup_exec hm.exec hname).symm.trans hspooled.1, hspooled.2⟩

theorem Made.queued (hst : Orderly st) (hspooled : Spooled st'.nodes name e) {n : Nat}
    (hn : n < e.result.seq) :
    ∃ r, Earlier e.result n r ∧ (Answered st' r ∨
      ∃ name' e', Spooled st'.nodes name' e' ∧ e'.result = r ∧ name' < name) := by
  -- a predecessor that was answered or waited before still does
  have hafter : ∀ r, (Answered st r ∨ ∃ name' e', Spooled st.nodes name' e' ∧ e'.result = r ∧
      name' < name) → Answered st' r ∨
        ∃ name' e', Spooled st'.nodes name' e' ∧ e'.result = r ∧ name' < name := by
    rintro r (hans | ⟨name', e', hspooled', rfl, hlt⟩)
    · exact .inl (SpoolStmt.answered_after hm.exec hans)
    · exact (hm.kept hspooled').imp_right fun h => ⟨name', e', h, rfl, hlt⟩
  rcases hm.spooled_before hspooled with hold | ⟨hprep, hlast⟩
  · obtain ⟨r, hearlier, hr⟩ := hst.queued name e hold n hn
    exact ⟨r, hearlier, hafter r hr⟩
  · obtain ⟨r, hearlier, hhandled⟩ := hprep n hn
    refine ⟨r, hearlier, hafter r ?_⟩
    have hwait : Answered st r ∨ Waiting st r :=
      hhandled.elim (fun ht => .inl (hm.aware.told r ht)) (hm.aware.filed r)
    refine hwait.imp_right ?_
    rintro ⟨name', e', hspooled', rfl, -⟩
    exact ⟨name', e', hspooled', rfl, hlast name' e' hspooled' hearlier.1.1⟩

theorem Made.ordered (hst : Orderly st) {newer older : List Result}
    (hacc : st'.accepted = newer ++ r :: older) {n : Nat} (hn : n < r.seq) :
    ∃ r', Earlier r n r' ∧ (r' ∈ older ∨ r' ∈ st'.refused) := by
  obtain ⟨haware, hneeds, -, hexec⟩ := hm
  have hrefused : ∀ r', r' ∈ st.refused → r' ∈ st'.refused :=
    fun _ hr => (SpoolStmt.exec_logs hexec).1.2 hr
  have hbefore : ∀ newer, st.accepted = newer ++ r :: older →
      ∃ r', Earlier r n r' ∧ (r' ∈ older ∨ r' ∈ st'.refused) := by
    intro newer hacc
    obtain ⟨r', hearlier, hr'⟩ := hst.ordered newer r older hacc n hn
    exact ⟨r', hearlier, hr'.imp_right (hrefused r')⟩
  cases s with
  | clientDo url r₀ =>
    cases hexec
    simp only at hacc
    split at hacc
    -- the result that was accepted last, or an earlier one
    · cases newer with
      | nil =>
        cases hacc
        obtain ⟨r', hearlier, hans⟩ := haware.sends hst hneeds n hn
        exact ⟨r', hearlier, hans.imp_right (hrefused r')⟩
      | cons r₁ newer =>
        rw [List.cons_append, List.cons.injEq] at hacc
        exact hbefore newer hacc.2
    · exact hbefore newer hacc
  | _ =>
    rw [(SpoolStmt.exec_logs hexec).2 rfl] at hacc
    exact hbefore newer hacc

/-- **A call keeps the spool a queue.** -/
theorem Made.orderly (hst : Orderly st) : Orderly st' :=
  ⟨fun _ _ hspooled _ => hm.queued hst hspooled, fun _ _ _ hacc _ => hm.ordered hst hacc⟩

end Step

/-! ### Runs -/

section Runs

variable {cfg : AgentConfig}

theorem contract_inductive (henabled : cfg.enabled = true) :
    System.Inductive (agentSystem cfg) Steady (spoolPre cfg) (fun _ _ => True) (fun _ => True)
      fun _ _ => True where
  spawn st req _ hacc := ⟨trivial, agentRequest_meets henabled st req hacc⟩
  step _ _ _ _ _ := ⟨trivial, trivial, fun _ _ _ _ _ => trivial⟩
  fail _ _ _ := trivial

theorem along_alone (henabled : cfg.enabled = true) {st₀ : SpoolState}
    {es : List (Event AgentRequest SpoolEnv)} (hok : (agentSystem cfg).Along Steady ⟨st₀, []⟩ es) :
    (agentSystem cfg).Along (fun c i β s => Steady c i β s ∧ (spoolMutex cfg).Alone c)
      ⟨st₀, []⟩ es := by
  have hinv := System.Along.and_inv (J := fun c => System.Holds (spoolPre cfg) (fun _ _ => True)
    (fun _ => True) (fun _ _ => True) c ∧ (spoolMutex cfg).Alone c)
    ⟨System.Holds.start trivial, Mutex.alone_start st₀⟩ ?_ hok
  · exact hinv.imp fun _ h => ⟨h.1, h.2.2⟩
  · rintro c e ⟨hholds, halone⟩ hallowed
    refine ⟨(contract_inductive henabled).next hholds hallowed, halone.next ?_⟩
    rintro i o h β s k rfl ht hop
    -- only `unlock` gives the mutex back
    have hsteady : Steady c i β s := by simpa only [System.Allowed, ht] using hallowed
    have hmem := List.mem_of_getElem? ht
    have hneeds : s.needs cfg h := (hholds.contract _ hmem).1 (hsteady.1 _ hmem)
    cases s with
    | unlock => exact hneeds
    | _ => cases hop

/-- **The queue is kept by every steady step.** -/
theorem order_inductive (henabled : cfg.enabled = true) :
    System.Inductive (agentSystem cfg)
      (fun c i β s => Steady c i β s ∧ (spoolMutex cfg).Alone c) (spoolPre cfg) (fun _ _ => True)
      Orderly (fun st th => Sound th.hist → Aware cfg st th) where
  spawn st req _ hacc := by
    refine ⟨fun _ => ⟨?_, ?_, nofun, nofun, nofun, nofun, nofun⟩,
      agentRequest_meets henabled st req hacc⟩
    · rintro r ⟨url, response, hasked, -⟩
      cases hasked
    · rintro r ⟨tmp, name, e, hinfix, -⟩
      cases List.infix_nil.mp hinfix
  step {c i h β s k o b st} hholds ht hpre hok hexec := by
    obtain ⟨⟨hsound, hsteady⟩, halone⟩ := hok
    have hmem := List.mem_of_getElem? ht
    have hm : Made cfg o c.state h s k b st :=
      ⟨hholds.threads _ hmem (hsound _ hmem), hpre (hsound _ hmem), hsteady _ ht, hexec⟩
    refine ⟨hm.orderly hholds.state, fun _ => hm.self, ?_⟩
    intro j th hj hth hb hs
    -- two threads inside would be one
    refine hm.other (hb hs) fun hin => ?_
    by_contra hin'
    exact hj (halone.one j i th _ hth ht hin (Bool.not_eq_false _ ▸ hin'))
  fail _ _ _ := fun hs => by cases hs _ List.mem_cons_self

/-- **A final batch is accepted after every earlier batch of its attempt**, along every steady run
in which the gateway refuses no batch but a final one. -/
theorem final_accepted_last (cfg : AgentConfig) (henabled : cfg.enabled = true) (st₀ : SpoolState)
    (hstart : Orderly st₀) (es : List (Event AgentRequest SpoolEnv))
    (hok : (agentSystem cfg).Along Steady ⟨st₀, []⟩ es)
    (hrefused : ∀ r ∈ ((agentSystem cfg).run ⟨st₀, []⟩ es).state.refused, r.final = true) :
    InOrder ((agentSystem cfg).run ⟨st₀, []⟩ es).state.accepted := by
  have hholds := (order_inductive henabled).run (System.Holds.start hstart)
    (along_alone henabled hok)
  intro newer r older hacc _ _ k hk
  obtain ⟨r', ⟨hsame, hseq, hfinal⟩, hr'⟩ := hholds.state.ordered newer r older hacc k hk
  rcases hr' with hr' | hr'
  · exact ⟨r', hr', hsame, hseq⟩
  · rw [hrefused r' hr'] at hfinal
    cases hfinal

theorem orderly_empty : Orderly {} where
  queued name e hspooled := by
    rw [Spooled, AList.lookup_empty] at hspooled
    cases hspooled.1
  ordered newer r older hacc := by
    cases newer <;> cases hacc

end Runs

/-- A job that found one open port: batch 0 tells it, batch 1 ends the attempt. -/
def onePort : AgentRequest :=
  .execJob { jobID := "j", taskID := "t", leaseToken := "l" }
    [{ type := .service, ip := "192.0.2.1", port := 443 }] none

/-- The gateway refuses batch 0, and takes batch 1. -/
def refusedFirst : List (Event AgentRequest SpoolEnv) :=
  [.spawn onePort, .step 0 {}, .step 0 { response := .status 413 }, .step 0 {}, .step 0 {}]

/-- The last batch of the attempt. -/
def onePortFinal : Result :=
  { jobID := "j", taskID := "t", leaseToken := "l", seq := 1, final := true }

/-- **The attempt ends with a batch missing.** -/
theorem final_accepted_alone :
    ((agentSystem {}).run ⟨{}, []⟩ refusedFirst).state.accepted = [onePortFinal] ∧
      ¬ InOrder ((agentSystem {}).run ⟨{}, []⟩ refusedFirst).state.accepted := by
  have hacc : ((agentSystem {}).run ⟨{}, []⟩ refusedFirst).state.accepted = [onePortFinal] := by
    decide +kernel
  refine ⟨hacc, fun horder => ?_⟩
  obtain ⟨r', hr', -⟩ := horder [] onePortFinal [] hacc rfl rfl 0 Nat.zero_lt_one
  cases hr'

/-- The gateway cannot be reached: both batches are spooled, and a replay delivers them. -/
def outage : List (Event AgentRequest SpoolEnv) :=
  [.spawn onePort, .step 0 {}, .step 0 { response := .status 503 }] ++
  List.replicate 7 (.step 0 { now := 1000000000 }) ++
  List.replicate 8 (.step 0 { now := 2000000000 }) ++
  .spawn .replay :: List.replicate 11 (.step 1 {})

theorem final_accepted_last_outage :
    ((agentSystem {}).run ⟨{}, []⟩ outage).state.accepted.map (·.seq) = [1, 0] ∧
      InOrder ((agentSystem {}).run ⟨{}, []⟩ outage).state.accepted :=
  ⟨by decide +kernel,
    final_accepted_last {} rfl {} orderly_empty outage (by decide +kernel) (by decide +kernel)⟩

end Scanner

end PinkGlasses
