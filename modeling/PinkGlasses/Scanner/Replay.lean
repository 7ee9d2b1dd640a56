import PinkGlasses.Lib.Seq
import PinkGlasses.Scanner.Spool

/-!
# PinkGlasses.Scanner.Replay

What repeated replay passes get to the gateway when it **fails for the batches of one task** (5xx)
and answers those of every other task.

A pass sends the spooled batches by name and ends at the first one the gateway cannot take, which
stays where it is. So a batch of another task is sent in the first pass or never, and all of them
are sent eventually exactly if no batch of the failing task sorts before one of them
(`others_posted_iff`).
-/

namespace PinkGlasses

open Lib Prog System

namespace Scanner

/-! ### The gateway -/

/-- A gateway by the status codes it answers with: 5xx to the batches of one task, 2xx or 4xx to all
others. -/
structure FailsFor (code : SpoolEnv → Result → Nat) (task : String) : Prop where
  failing : ∀ env r, r.taskID = task → code env r / 100 = 5
  others : ∀ env r, r.taskID ≠ task → code env r / 100 = 2 ∨ code env r / 100 = 4

/-- Every request gets the gateway's answer, and no pass is cut short. -/
def answering (code : SpoolEnv → Result → Nat) (env : SpoolEnv) {β : Type} :
    SpoolStmt β → SpoolEnv
  | .clientDo _ res => { env with response := .status (code env res), cancelled := false }
  | _ => { env with cancelled := false }

/-- The worker against that gateway. -/
def replaySystem (cfg : AgentConfig) (code : SpoolEnv → Result → Nat) :
    System SpoolStmt SpoolState SpoolEnv AgentRequest Unit :=
  { agentSystem cfg with exec := fun s env st => s.exec (answering code env s) st }

@[simp] theorem replaySystem_exec {cfg : AgentConfig} {code : SpoolEnv → Result → Nat} {β : Type}
    (s : SpoolStmt β) (env : SpoolEnv) (st : SpoolState) :
    (replaySystem cfg code).exec s env st = s.exec (answering code env s) st := rfl

/-- Pass after pass, with the states between them and the calls of each. -/
def Passes (cfg : AgentConfig) (code : SpoolEnv → Result → Nat) (st : Nat → SpoolState)
    (hist : Nat → Hist SpoolStmt) : Prop :=
  ∀ k, (replaySystem cfg code).Runs [] (st k) (replay cfg) (hist k) (st (k + 1)) ()

/-- The batch in a file was read and sent. -/
def Posted (h : Hist SpoolStmt) (name : String) (e : SpoolEntry) : Prop :=
  ∃ response, [⟨.clientDo e.url e.result, some response⟩, ⟨.readFile name, some (some e)⟩] <:+: h

/-- **Every spooled batch of another task is eventually sent**, however the passes go. -/
def PostsOthers (cfg : AgentConfig) (code : SpoolEnv → Result → Nat) (task : String)
    (nodes : AList fun _ : String => Node) : Prop :=
  ∀ st hist, st 0 = { nodes } → Passes cfg code st hist → ∀ name e, Spooled nodes name e →
    e.result.taskID ≠ task → ∃ k, Posted (hist k) name e

/-! ### One batch of a pass -/

theorem Posted.read {h : Hist SpoolStmt} {name : String} {e : SpoolEntry} (hp : Posted h name e) :
    name ∈ filesRead h := by
  obtain ⟨response, hin⟩ := hp
  refine List.mem_filterMap.mpr ⟨⟨.readFile name, some (some e)⟩, hin.subset ?_, rfl⟩
  exact List.mem_cons_of_mem _ List.mem_cons_self

section Pass

variable {cfg : AgentConfig} {code : SpoolEnv → Result → Nat} {task : String}
  {h h' : Hist SpoolStmt} {st st' : SpoolState} {name : String} {names : List String}

theorem ctxErr_runs {r : Option Bool}
    (hr : (replaySystem cfg code).Runs h st (issue .ctxErr) h' st' r) :
    h' = ⟨.ctxErr, some false⟩ :: h ∧ st = st' ∧ r = some false := by
  obtain ⟨rfl, env, ⟨b, rfl, hexec⟩ | ⟨-, hexec, -⟩⟩ := hr.of_issue
  · cases hexec
    exact ⟨rfl, rfl, rfl⟩
  · cases hexec

theorem readFile_runs {r : Option (Option SpoolEntry)}
    (hr : (replaySystem cfg code).Runs h st (issue (.readFile name)) h' st' r) :
    h' = ⟨.readFile name, r⟩ :: h ∧ st = st' ∧
      r = match st.nodes.lookup name with | some (.file e) => some e | _ => none := by
  obtain ⟨rfl, env, ⟨b, rfl, hexec⟩ | ⟨rfl, hexec, rfl⟩⟩ := hr.of_issue
  all_goals
    simp only [replaySystem_exec, SpoolStmt.exec] at hexec
    split at hexec <;> cases hexec
    simp_all

/-- Whether or not there was something to remove, it is gone afterwards, and nothing else is. -/
theorem remove_runs {r : Option Unit}
    (hr : (replaySystem cfg code).Runs h st (issue (.remove name)) h' st' r) :
    h' = ⟨.remove name, r⟩ :: h ∧ ∀ x ≠ name, st'.nodes.lookup x = st.nodes.lookup x := by
  obtain ⟨rfl, env, ⟨b, rfl, hexec⟩ | ⟨-, -, rfl⟩⟩ := hr.of_issue
  · simp only [replaySystem_exec, SpoolStmt.exec] at hexec
    split at hexec <;> cases hexec
    exact ⟨rfl, fun x hx => AList.lookup_erase_ne hx⟩
  · exact ⟨rfl, fun x _ => rfl⟩

theorem post_runs {url : String} {res : Result} {outcome : Outcome}
    (hr : (replaySystem cfg code).Runs h st (post url res) h' st' outcome) :
    ∃ env, h' = ⟨.clientDo url res, some (.status (code env res))⟩ :: h ∧
      st'.nodes = st.nodes ∧ outcome = (Response.status (code env res)).outcome := by
  obtain ⟨h₁, st₁, r, hdo, rfl, rfl, rfl⟩ := hr.of_bind
  obtain ⟨rfl, env, ⟨b, rfl, hexec⟩ | ⟨-, hexec, -⟩⟩ := hdo.of_issue
  · cases hexec
    exact ⟨env, rfl, rfl, rfl⟩
  · cases hexec

/-- A name that ends a pass: a batch of the failing task. -/
def Blocks (task : String) (st : SpoolState) (name : String) : Prop :=
  ∃ e, st.nodes.lookup name = some (.file (some e)) ∧ e.result.taskID = task

/-- One batch: that of the failing task stays and ends the pass, anything else is dealt with. -/
theorem replayOne_runs (hgw : FailsFor code task) {on : Bool}
    (hr : (replaySystem cfg code).Runs h st (replayOne name) h' st' on) :
    (Blocks task st name ∧ on = false ∧ st'.nodes = st.nodes ∨ ¬ Blocks task st name ∧ on = true ∧
      ∀ e, st.nodes.lookup name = some (.file (some e)) → Posted h' name e) ∧
    ∀ x ≠ name, (x ∈ filesRead h' → x ∈ filesRead h) ∧
      st'.nodes.lookup x = st.nodes.lookup x := by
  obtain ⟨h₁, st₁, r, hread, hr⟩ := hr.of_bind
  obtain ⟨rfl, rfl, hanswer⟩ := readFile_runs hread
  by_cases hfile : ∃ e, st.nodes.lookup name = some (.file (some e))
  · obtain ⟨e, he⟩ := hfile
    rw [he] at hanswer
    cases hanswer
    obtain ⟨h₂, st₂, outcome, hpost, hr⟩ := hr.of_bind
    obtain ⟨env, rfl, hnodes, rfl⟩ := post_runs hpost
    by_cases htask : e.result.taskID = task
    -- the gateway fails for this task: the file stays, and the pass stops here
    · have hfail : (Response.status (code env e.result)).outcome = .unreachable := by
        simp [Response.outcome, hgw.failing env e.result htask]
      rw [hfail] at hr
      obtain ⟨rfl, rfl, rfl⟩ := hr
      refine ⟨.inl ⟨⟨e, he, htask⟩, rfl, hnodes⟩, fun x hx => ⟨fun hread => ?_, by rw [hnodes]⟩⟩
      simpa [filesRead, SpoolStmt.reads, hx] using hread
    · have hgone : (Response.status (code env e.result)).outcome ≠ .unreachable := by
        rcases hgw.others env e.result htask with h2 | h4
        · simp [Response.outcome, h2]
        · simp [Response.outcome, h4]
      have hfree : ¬ Blocks task st name := by
        rintro ⟨e', he', htask'⟩
        cases he.symm.trans he'
        exact htask htask'
      cases hout : (Response.status (code env e.result)).outcome with
      | unreachable => exact absurd hout hgone
      -- sent or refused for good: the file goes, and the pass goes on
      | delivered | refused =>
        rw [hout] at hr
        obtain ⟨h₃, st₃, u, hremove, rfl, rfl, rfl⟩ := hr.of_bind
        obtain ⟨rfl, hother⟩ := remove_runs hremove
        refine ⟨.inr ⟨hfree, rfl, fun e' he' => ?_⟩, fun x hx => ⟨fun hread => ?_, ?_⟩⟩
        · cases he.symm.trans he'
          exact ⟨_, List.infix_append' [_] _ _⟩
        · simpa [filesRead, SpoolStmt.reads, hx] using hread
        · rw [hother x hx, hnodes]
  · -- nothing there that could be sent
    have hnot : ∀ e, r ≠ some (some e) := by
      rintro e rfl
      refine hfile ⟨e, ?_⟩
      split at hanswer
      · cases hanswer
        assumption
      · cases hanswer
    split at hr
    · exact absurd rfl (hnot _)
    · obtain ⟨h₂, st₂, u, hremove, rfl, rfl, rfl⟩ := hr.of_bind
      obtain ⟨rfl, hother⟩ := remove_runs hremove
      refine ⟨.inr ⟨fun hblocks => hfile (hblocks.imp fun _ he => he.1), rfl,
        fun e he => absurd ⟨e, he⟩ hfile⟩,
        fun x hx => ⟨fun hread => ?_, hother x hx⟩⟩
      simpa [filesRead, SpoolStmt.reads, hx] using hread

theorem replayAll_runs (hgw : FailsFor code task)
    (hr : (replaySystem cfg code).Runs h st (replayAll (name :: names)) h' st' ()) :
    ∃ h₁ st₁, (Blocks task st name ∧ h' = h₁ ∧ st' = st₁ ∧ st₁.nodes = st.nodes ∨
        ¬ Blocks task st name ∧ (replaySystem cfg code).Runs h₁ st₁ (replayAll names) h' st' () ∧
        ∀ e, st.nodes.lookup name = some (.file (some e)) → Posted h₁ name e) ∧
      ∀ x ≠ name, (x ∈ filesRead h₁ → x ∈ filesRead h) ∧
        st₁.nodes.lookup x = st.nodes.lookup x := by
  obtain ⟨h₁, st₁, r, hctx, hr⟩ := hr.of_bind
  obtain ⟨rfl, rfl, rfl⟩ := ctxErr_runs hctx
  obtain ⟨h₂, st₂, on, hone, hr⟩ := hr.of_bind
  obtain ⟨⟨hblocks, rfl, hnodes⟩ | ⟨hfree, rfl, hposted⟩, hothers⟩ := replayOne_runs hgw hone
  · obtain ⟨rfl, rfl, -⟩ := hr
    exact ⟨_, _, .inl ⟨hblocks, rfl, rfl, hnodes⟩, hothers⟩
  · exact ⟨_, _, .inr ⟨hfree, hr, hposted⟩, hothers⟩

/-- A batch of another task is sent if no batch of the failing task comes before it. -/
theorem replayAll_posts (hgw : FailsFor code task) {before after : List String} {e : SpoolEntry}
    (hr : (replaySystem cfg code).Runs h st (replayAll (before ++ name :: after)) h' st' ())
    (hnodup : (before ++ name :: after).Nodup) (hfree : ∀ m ∈ before, ¬ Blocks task st m)
    (he : st.nodes.lookup name = some (.file (some e))) (hother : e.result.taskID ≠ task) :
    Posted h' name e := by
  induction before generalizing h st with
  | nil =>
    obtain ⟨h₁, st₁, ⟨⟨e', he', htask⟩, -⟩ | ⟨-, hr, hposted⟩, -⟩ := replayAll_runs hgw hr
    · cases he.symm.trans he'
      exact absurd htask hother
    · obtain ⟨response, hin⟩ := hposted e he
      exact ⟨response, hin.trans hr.suffix.isInfix⟩
  | cons m before ih =>
    obtain ⟨hm, hnodup⟩ := List.nodup_cons.mp hnodup
    obtain ⟨h₁, st₁, ⟨hblocks, -⟩ | ⟨-, hr, -⟩, hothers⟩ := replayAll_runs hgw hr
    · exact absurd hblocks (hfree m List.mem_cons_self)
    · refine ih hr hnodup (fun m' hm' => ?_) ?_
      · -- the batches still to come are as they were
        have hne : m' ≠ m := fun heq => hm (heq ▸ List.mem_append_left _ hm')
        rw [Blocks, (hothers m' hne).2]
        exact hfree m' (List.mem_cons_of_mem m hm')
      · have hne : name ≠ m := fun heq => hm (heq ▸ List.mem_append_right _ List.mem_cons_self)
        rw [(hothers name hne).2]
        exact he

/-- What comes after a batch of the failing task is not read, and both stay. -/
theorem replayAll_holds (hgw : FailsFor code task) {before after : List String} {other : String}
    (hr : (replaySystem cfg code).Runs h st (replayAll (before ++ name :: after)) h' st' ())
    (hnodup : (before ++ name :: after).Nodup) (hblocks : Blocks task st name)
    (hne : other ≠ name) (hafter : other ∉ before) :
    (other ∈ filesRead h' → other ∈ filesRead h) ∧
      st'.nodes.lookup name = st.nodes.lookup name ∧
      st'.nodes.lookup other = st.nodes.lookup other := by
  induction before generalizing h st with
  | nil =>
    obtain ⟨h₁, st₁, ⟨-, rfl, rfl, hnodes⟩ | ⟨hfree, -⟩, hothers⟩ := replayAll_runs hgw hr
    · exact ⟨(hothers other hne).1, by rw [hnodes], by rw [hnodes]⟩
    · exact absurd hblocks hfree
  | cons m before ih =>
    obtain ⟨hm, hnodup⟩ := List.nodup_cons.mp hnodup
    have hother : other ≠ m := fun heq => hafter (heq ▸ List.mem_cons_self)
    have hname : name ≠ m := fun heq => hm (heq ▸ List.mem_append_right _ List.mem_cons_self)
    obtain ⟨h₁, st₁, ⟨-, rfl, rfl, hnodes⟩ | ⟨-, hr, -⟩, hothers⟩ := replayAll_runs hgw hr
    · exact ⟨(hothers other hother).1, by rw [hnodes], by rw [hnodes]⟩
    · have hblocks₁ : Blocks task st₁ name := by
        rw [Blocks, (hothers name hname).2]
        exact hblocks
      obtain ⟨hread, hkept, hkept'⟩ := ih hr hnodup hblocks₁
        (fun h => hafter (List.mem_cons_of_mem m h))
      exact ⟨fun h => (hothers other hother).1 (hread h), hkept.trans (hothers name hname).2,
        hkept'.trans (hothers other hother).2⟩

end Pass

/-! ### A whole pass -/

section Passes

variable {cfg : AgentConfig} {code : SpoolEnv → Result → Nat} {task : String}
  {h' : Hist SpoolStmt} {st st' : SpoolState} {name other : String} {e : SpoolEntry}

/-- A pass lists the directory, goes through the batches and lets go of the mutex. -/
theorem replay_runs (henabled : cfg.enabled = true)
    (hr : (replaySystem cfg code).Runs [] st (replay cfg) h' st' ()) :
    ∃ h₀ st₀ h₁ st₁, filesRead h₀ = [] ∧ st₀.nodes = st.nodes ∧
      (replaySystem cfg code).Runs h₀ st₀ (replayAll (batchNames (listing st))) h₁ st₁ () ∧
      h' = ⟨.unlock, some ()⟩ :: h₁ ∧ st'.nodes = st₁.nodes := by
  rw [replay, if_pos henabled] at hr
  obtain ⟨h₁, st₁, r, hlock, hr⟩ := hr.of_bind
  -- the lock touches no file, whether or not it is taken
  have hlocked : ∃ r, h₁ = [⟨.lock, r⟩] ∧ st₁.nodes = st.nodes := by
    obtain ⟨rfl, env, ⟨b, rfl, hexec⟩ | ⟨-, -, rfl⟩⟩ := hlock.of_issue
    · simp only [replaySystem_exec, SpoolStmt.exec] at hexec
      split at hexec <;> cases hexec
      exact ⟨_, rfl, rfl⟩
    · exact ⟨_, rfl, rfl⟩
  obtain ⟨lockAnswer, rfl, hnodes⟩ := hlocked
  obtain ⟨h₂, st₂, names, hpending, hr⟩ := hr.of_bind
  rw [pending, if_pos henabled] at hpending
  obtain ⟨h₃, st₃, entries, hread, rfl, rfl, rfl⟩ := hpending.of_bind
  obtain ⟨rfl, env, ⟨b, rfl, hexec⟩ | ⟨-, hexec, -⟩⟩ := hread.of_issue
  · cases hexec
    obtain ⟨h₄, st₄, u, hall, hr⟩ := hr.of_bind
    obtain ⟨h₅, st₅, u', hunlock, rfl, rfl, -⟩ := hr.of_bind
    obtain ⟨rfl, env', ⟨b, rfl, hexec⟩ | ⟨-, hexec, -⟩⟩ := hunlock.of_issue
    · cases hexec
      have hlisting : listing st = listing st₁ := by rw [listing, listing, hnodes]
      rw [hlisting]
      refine ⟨_, _, h₄, st₄, ?_, hnodes, hall, rfl, rfl⟩
      rfl
    · cases hexec
  · cases hexec

/-- With nothing of the failing task before it, a batch of another task is sent in one pass. -/
theorem replay_posts (hgw : FailsFor code task) (henabled : cfg.enabled = true)
    (hr : (replaySystem cfg code).Runs [] st (replay cfg) h' st' ())
    (hspooled : Spooled st.nodes name e) (hother : e.result.taskID ≠ task)
    (hfirst : ∀ m e', Spooled st.nodes m e' → e'.result.taskID = task → name < m) :
    Posted h' name e := by
  obtain ⟨h₀, st₀, h₁, st₁, -, hnodes, hall, rfl, -⟩ := replay_runs henabled hr
  have hmem : name ∈ batchNames (listing st) := mem_batchNames.mpr ⟨hspooled.2, _, hspooled.1⟩
  have hsorted := batchNames_sorted st
  have hnodup := batchNames_nodup st
  have hbatch : ∀ m ∈ batchNames (listing st), isBatch m = true :=
    fun m hm => (mem_batchNames.mp hm).1
  obtain ⟨before, after, hsplit⟩ := List.append_of_mem hmem
  rw [hsplit] at hall hsorted hnodup hbatch
  have hposted : Posted h₁ name e := by
    refine replayAll_posts hgw hall hnodup (fun m hm => ?_) (hnodes ▸ hspooled.1) hother
    rintro ⟨e', he', htask⟩
    rw [hnodes] at he'
    have hlt := hfirst m e' ⟨he', hbatch m (List.mem_append_left _ hm)⟩ htask
    have hle := (List.pairwise_append.mp hsorted).2.2 m hm name List.mem_cons_self
    exact absurd hlt (not_lt.mpr hle)
  obtain ⟨response, hin⟩ := hposted
  exact ⟨response, hin.trans (List.suffix_cons _ _).isInfix⟩

/-- With a batch of the failing task before it, it is not, and nothing has changed for the two. -/
theorem replay_holds (hgw : FailsFor code task) (henabled : cfg.enabled = true)
    (hr : (replaySystem cfg code).Runs [] st (replay cfg) h' st' ())
    {bad : SpoolEntry} (hbad : Spooled st.nodes name bad) (htask : bad.result.taskID = task)
    (hafter : name < other) :
    other ∉ filesRead h' ∧ st'.nodes.lookup name = st.nodes.lookup name ∧
      st'.nodes.lookup other = st.nodes.lookup other := by
  obtain ⟨h₀, st₀, h₁, st₁, hnone, hnodes, hall, rfl, hnodes'⟩ := replay_runs henabled hr
  have hmem : name ∈ batchNames (listing st) := mem_batchNames.mpr ⟨hbad.2, _, hbad.1⟩
  have hsorted := batchNames_sorted st
  have hnodup := batchNames_nodup st
  obtain ⟨before, after, hsplit⟩ := List.append_of_mem hmem
  rw [hsplit] at hall hsorted hnodup
  have hnot : other ∉ before := by
    intro hin
    have hle := (List.pairwise_append.mp hsorted).2.2 other hin name List.mem_cons_self
    exact absurd hafter (not_lt.mpr hle)
  obtain ⟨hread, hkept, hkept'⟩ := replayAll_holds hgw hall hnodup
    ⟨bad, hnodes ▸ hbad.1, htask⟩ hafter.ne' hnot
  rw [hnodes', ← hnodes]
  refine ⟨fun hin => ?_, hkept, hkept'⟩
  have := hread hin
  rw [hnone] at this
  cases this

end Passes

theorem never_posted {cfg : AgentConfig} {code : SpoolEnv → Result → Nat} {task : String}
    {nodes : AList fun _ : String => Node} (henabled : cfg.enabled = true)
    (hgw : FailsFor code task) {bad name : String} {e e' : SpoolEntry}
    (hbad : Spooled nodes bad e) (htask : e.result.taskID = task) (hname : Spooled nodes name e')
    (hother : e'.result.taskID ≠ task) (hlt : bad < name) : ¬ PostsOthers cfg code task nodes := by
  intro hposts
  -- one way the passes can go
  let st : Nat → SpoolState := fun k => k.rec { nodes } fun _ st =>
    ((replaySystem cfg code).serve {} [] st (replay cfg)).2.1
  let hist : Nat → Hist SpoolStmt := fun k =>
    ((replaySystem cfg code).serve {} [] (st k) (replay cfg)).1
  have hpasses : Passes cfg code st hist := fun k =>
    runs_serve (replaySystem cfg code) {} [] (st k) (replay cfg)
  have hkept : ∀ k, (st k).nodes.lookup bad = nodes.lookup bad := by
    intro k
    induction k with
    | zero => rfl
    | succ k ih =>
      have hstep := replay_holds hgw henabled (hpasses k) ⟨ih.trans hbad.1, hbad.2⟩ htask hlt
      exact hstep.2.1.trans ih
  obtain ⟨k, hposted⟩ := hposts st hist rfl hpasses name e' hname hother
  exact (replay_holds hgw henabled (hpasses k) ⟨(hkept k).trans hbad.1, hbad.2⟩ htask hlt).1
    hposted.read

/-- **Every batch of the other tasks is eventually sent exactly if no batch of the failing task
sorts before one of them.** -/
theorem others_posted_iff (cfg : AgentConfig) (code : SpoolEnv → Result → Nat) (task : String)
    (nodes : AList fun _ : String => Node) (henabled : cfg.enabled = true)
    (hgw : FailsFor code task) :
    PostsOthers cfg code task nodes ↔
      ∀ bad name e e', Spooled nodes bad e → e.result.taskID = task →
        Spooled nodes name e' → e'.result.taskID ≠ task → name < bad := by
  constructor
  · intro hposts bad name e e' hbad htask hname hother
    by_contra hnot
    have hne : bad ≠ name := by
      rintro rfl
      have heq := hbad.1.symm.trans hname.1
      cases heq
      exact hother htask
    exact never_posted henabled hgw hbad htask hname hother
      (lt_of_le_of_ne (not_lt.mp hnot) hne) hposts
  · intro hfirst st hist hstart hpasses name e hname hother
    have hrun := hpasses 0
    rw [hstart] at hrun
    exact ⟨0, replay_posts hgw henabled hrun hname hother fun bad e' hbad htask =>
      hfirst bad name e' e hbad htask hname hother⟩

/-- A gateway that fails for the task `a` and takes everything else. -/
def failsForA (_ : SpoolEnv) (r : Result) : Nat := if r.taskID = "a" then 503 else 200

theorem failsForA_spec : FailsFor failsForA "a" where
  failing _ r hr := by simp [failsForA, hr]
  others _ r hr := by simp [failsForA, hr]

/-- A batch of a task. -/
def entryOf (taskID : String) : SpoolEntry where
  url := "https://gateway/agent/v1/results"
  result := { taskID, leaseToken := "1", seq := 0 }
  spooledAt := 0

/-- A batch of the task `a`, and a second later one of the task `b`. -/
def spoolAB : AList fun _ : String => Node :=
  (AList.singleton (fileName 1000000000 "a" 0) (.file (some (entryOf "a")))).insert
    (fileName 2000000000 "b" 0) (.file (some (entryOf "b")))

/-- The batch of the task `b` waits for that of the task `a` for good. -/
theorem others_held_up : FailsFor failsForA "a" ∧ ¬ PostsOthers {} failsForA "a" spoolAB := by
  have ha : Spooled spoolAB (fileName 1000000000 "a" 0) (entryOf "a") := by
    constructor <;> decide +kernel
  have hb : Spooled spoolAB (fileName 2000000000 "b" 0) (entryOf "b") := by
    constructor <;> decide +kernel
  have hlt : fileName 1000000000 "a" 0 < fileName 2000000000 "b" 0 := by decide +kernel
  exact ⟨failsForA_spec, never_posted rfl failsForA_spec ha rfl hb (by decide) hlt⟩

theorem others_posted_iff_AB :
    (({} : AgentConfig).enabled = true ∧ FailsFor failsForA "a") ∧
    (PostsOthers {} failsForA "a" spoolAB ↔
      ∀ bad name e e', Spooled spoolAB bad e → e.result.taskID = "a" →
        Spooled spoolAB name e' → e'.result.taskID ≠ "a" → name < bad) :=
  ⟨⟨rfl, failsForA_spec⟩, others_posted_iff {} failsForA "a" spoolAB rfl failsForA_spec⟩

end Scanner

end PinkGlasses
