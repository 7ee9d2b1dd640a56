import PinkGlasses.Lib.Mutex
import PinkGlasses.Scanner.Spool

/-!
# PinkGlasses.Scanner.Contract

What a goroutine of the worker **has made sure of before each of its calls**, as long as none of
them has failed (`spoolPre`): the spool is changed only with its mutex held, a batch goes to the
gateway when nothing of its task is spooled or when everything spooled before it has been dealt
with, and by then the goroutine of the attempt has handled every earlier batch.
-/

namespace PinkGlasses

open Lib Prog

namespace Scanner

variable {β : Type}

/-- Two batches of one attempt at a task. -/
def SameAttempt (r r' : Result) : Prop := r.taskID = r'.taskID ∧ r.leaseToken = r'.leaseToken

/-- Batch `k` of the attempt that `r` is a batch of, and not its last. -/
def Earlier (r : Result) (k : Nat) (r' : Result) : Prop :=
  SameAttempt r' r ∧ r'.seq = k ∧ r'.final = false

/-! ### The mutex -/

def SpoolStmt.lockOp : SpoolStmt β → LockOp
  | lock => .acquire
  | unlock => .release
  | _ => .other

/-- The spool's mutex. -/
def spoolMutex (cfg : AgentConfig) : Mutex (agentSystem cfg) where
  op := SpoolStmt.lockOp
  held := SpoolState.locked
  acquire := by
    intro β s o st b st' hop hexec
    cases s with
    | lock =>
      replace hexec : (if st.locked then none else some ((), { st with locked := true })) =
        some (b, st') := hexec
      split at hexec <;> cases hexec
      simp_all
    | _ => cases hop
  release := by
    intro β s o st b st' hop hexec
    cases s with
    | unlock => cases hexec; rfl
    | _ => cases hop
  other := by
    intro β s o st b st' hop hexec
    replace hexec : s.exec o st = some (b, st') := hexec
    cases s with
    | lock | unlock => cases hop
    | readDir | now | ctxErr | clientDo => cases hexec; rfl
    | readFile | writeFile | rename | remove =>
      simp only [SpoolStmt.exec] at hexec
      split at hexec <;> cases hexec
      all_goals rfl

/-! ### What a goroutine has done -/

/-- None of its calls has failed. -/
def Sound (h : Hist SpoolStmt) : Prop := ∀ c ∈ h, c.answer.isSome = true
deriving Decidable

/-- It was told what the gateway thinks of the batch. -/
def Told (h : Hist SpoolStmt) (r : Result) : Prop :=
  ∃ url response, h.Asked (.clientDo url r) (some response) ∧ response.outcome ≠ .unreachable

/-- It has put the batch into the spool. -/
def Filed (h : Hist SpoolStmt) (r : Result) : Prop :=
  ∃ tmp name e, [⟨.rename tmp name, some ()⟩, ⟨.writeFile tmp e, some ()⟩] <:+: h ∧ e.result = r

def Handled (h : Hist SpoolStmt) (r : Result) : Prop := Told h r ∨ Filed h r

/-- It has handled every earlier batch of the attempt. -/
def Prepared (h : Hist SpoolStmt) (r : Result) : Prop :=
  ∀ k < r.seq, ∃ r', Earlier r k r' ∧ Handled h r'

/-- It has read a file, and was told about the batch in it. -/
def Dealt (h : Hist SpoolStmt) (name : String) : Prop :=
  ∃ x, h.Asked (.readFile name) (some x) ∧ ∀ e, x = some e → Told h e.result

/-- What a call tells about the directory. -/
def SpoolStmt.listed : SpoolStmt β → Option β → Option (List (String × Bool))
  | readDir, r => r
  | _, _ => none

/-- The calls after which what was listed need not be all. -/
def SpoolStmt.outdates : SpoolStmt β → Bool
  | lock | unlock | writeFile _ _ | rename _ _ => true
  | _ => false

/-- What the directory held when it was last listed, if that is known to be all. -/
def snapshot : Hist SpoolStmt → Option (List (String × Bool))
  | [] => none
  | c :: h => match c.stmt.listed c.answer with
    | some entries => some entries
    | none => if c.stmt.outdates then none else snapshot h

section Contract

variable (cfg : AgentConfig)

/-- A batch that is sent by the goroutine of its attempt: nothing of the task was spooled. -/
def Direct (h : Hist SpoolStmt) (r : Result) : Prop :=
  ∃ entries h', h = ⟨.readDir, some entries⟩ :: h' ∧ Prepared h' r ∧
    ∀ name ∈ batchNames entries, isOfTask r.taskID name = false

/-- A batch that is sent by a replay: everything before it has been dealt with. -/
def Replayed (h : Hist SpoolStmt) (r : Result) : Prop :=
  (spoolMutex cfg).inside h = true ∧ ∃ entries before name after e h',
    snapshot h = some entries ∧ batchNames entries = before ++ name :: after ∧
    h = ⟨.readFile name, some (some e)⟩ :: h' ∧ e.result = r ∧ ∀ m ∈ before, Dealt h m

/-- What a goroutine has made sure of before a call. -/
def SpoolStmt.needs (h : Hist SpoolStmt) : SpoolStmt β → Prop
  | lock => filesRead h = []
  | unlock => (spoolMutex cfg).inside h = true
  | writeFile name _ => (spoolMutex cfg).inside h = true ∧ filesRead h = [] ∧ isBatch name = false
  | rename old new => (spoolMutex cfg).inside h = true ∧ filesRead h = [] ∧
      isBatch old = false ∧ isBatch new = true ∧ ∃ e h', h = ⟨.writeFile old e, some ()⟩ :: h' ∧
        isOfTask e.result.taskID new = true ∧ Prepared h e.result
  | remove name => (spoolMutex cfg).inside h = true ∧ (name ∈ filesRead h → Dealt h name)
  | clientDo _ r => Direct h r ∨ Replayed cfg h r
  | _ => True

/-- The contract of the worker's goroutines, as long as no call fails. -/
def spoolPre (h : Hist SpoolStmt) (β : Type) (s : SpoolStmt β) : Prop := Sound h → s.needs cfg h

variable {cfg} {h h' : Hist SpoolStmt} {r : Result}

theorem Told.mono (ht : Told h r) (hsuffix : h <:+ h') : Told h' r := by
  obtain ⟨url, response, hasked, hout⟩ := ht
  exact ⟨url, response, hsuffix.subset hasked, hout⟩

theorem Handled.mono (hh : Handled h r) (hsuffix : h <:+ h') : Handled h' r := by
  rcases hh with ht | ⟨tmp, name, e, hin, he⟩
  · exact .inl (ht.mono hsuffix)
  · exact .inr ⟨tmp, name, e, hin.trans hsuffix.isInfix, he⟩

theorem Prepared.mono (hp : Prepared h r) (hsuffix : h <:+ h') : Prepared h' r := by
  intro k hk
  obtain ⟨r', hearlier, hh⟩ := hp k hk
  exact ⟨r', hearlier, hh.mono hsuffix⟩

theorem Direct.prepared (hd : Direct h r) : Prepared h r := by
  obtain ⟨entries, h', rfl, hprep, -⟩ := hd
  exact hprep.mono (List.suffix_cons _ h')

theorem Dealt.mono {name : String} (hd : Dealt h name) (hsuffix : h <:+ h') : Dealt h' name := by
  obtain ⟨x, hasked, htold⟩ := hd
  exact ⟨x, hsuffix.subset hasked, fun e he => (htold e he).mono hsuffix⟩

theorem filesRead_cons {s : SpoolStmt β} (hs : s.reads = none) (x : Option β) :
    filesRead (⟨s, x⟩ :: h) = filesRead h :=
  List.filterMap_cons_none hs

/-- A part of a goroutine none of whose calls fails makes sure of what each of them needs. -/
abbrev Ensures {α : Type} (cfg : AgentConfig) (h : Hist SpoolStmt) (p : Prog SpoolStmt α)
    (post : Hist SpoolStmt → α → Prop) : Prop :=
  MeetsSound (fun h _ s => s.needs cfg h) h p post

/-- In the middle of `put`: the mutex is held, and no file has been read. -/
structure Putting (cfg : AgentConfig) (h₀ h : Hist SpoolStmt) : Prop where
  suffix : h₀ <:+ h
  inside : (spoolMutex cfg).inside h = true
  read : filesRead h = []

variable {h₀ : Hist SpoolStmt}

theorem Putting.other (hp : Putting cfg h₀ h) {s : SpoolStmt β} (hop : s.lockOp = .other)
    (hs : s.reads = none) (x : Option β) : Putting cfg h₀ (⟨s, x⟩ :: h) where
  suffix := hp.suffix.trans (List.suffix_cons _ h)
  inside := ((spoolMutex cfg).inside_other hop x h).trans hp.inside
  read := (filesRead_cons hs x).trans hp.read

theorem removeAll_meets (hp : Putting cfg h₀ h) (names : List String) :
    Ensures cfg h (removeAll names) fun h' _ => Putting cfg h₀ h' := by
  induction names generalizing h with
  | nil => exact hp
  | cons name names ih =>
    refine ⟨⟨hp.inside, fun hmem => ?_⟩, fun b => ih (hp.other rfl rfl (some b))⟩
    rw [hp.read] at hmem
    cases hmem

theorem trimLocked_meets (henabled : cfg.enabled = true) (hp : Putting cfg h₀ h) :
    Ensures cfg h (trimLocked cfg) fun h' _ => Putting cfg h₀ h' := by
  unfold trimLocked pending
  rw [if_pos henabled]
  refine ⟨trivial, fun entries => ?_⟩
  have hp₁ := hp.other (s := SpoolStmt.readDir) rfl rfl (some entries)
  show Ensures cfg _ (if _ then _ else _) _
  split
  · exact hp₁
  · exact removeAll_meets hp₁ _

/-- `put` with the mutex: the batch is in the spool. -/
theorem putLocked_meets (henabled : cfg.enabled = true) (hp : Putting cfg h₀ h) (url : String)
    (res : Result) (hprep : Prepared h₀ res) :
    Ensures cfg h (putLocked cfg url res) fun h' ok =>
      Putting cfg h₀ h' ∧ ok = true ∧ Filed h' res := by
  refine meetsSound_bind.mpr ((trimLocked_meets henabled hp).mono fun h₁ _ hp₁ => ?_)
  refine ⟨trivial, fun spooledAt => ⟨trivial, fun nanos => ?_⟩⟩
  have hp₂ := (hp₁.other (s := SpoolStmt.now) rfl rfl (some spooledAt)).other (s := SpoolStmt.now)
    rfl rfl (some nanos)
  refine ⟨⟨hp₂.inside, hp₂.read, isBatch_tmpName _⟩, fun written => ?_⟩
  have hp₃ := hp₂.other (s := SpoolStmt.writeFile (tmpName (fileName nanos res.taskID res.seq))
    ⟨url, res, spooledAt⟩) rfl rfl (some written)
  refine ⟨⟨hp₃.inside, hp₃.read, isBatch_tmpName _, isBatch_fileName _ _ _, _, _, rfl,
    isOfTask_fileName _ _ _, hprep.mono hp₃.suffix⟩, fun renamed => ?_⟩
  exact ⟨hp₃.other rfl rfl _, rfl, _, _, _, List.infix_append' [] _ _, rfl⟩

theorem put_meets (henabled : cfg.enabled = true) (hread : filesRead h = []) (url : String)
    (res : Result) (hprep : Prepared h res) :
    Ensures cfg h (put cfg url res) fun h' ok =>
      ok = true ∧ h <:+ h' ∧ filesRead h' = [] ∧ Filed h' res := by
  rw [put, if_pos henabled]
  refine ⟨hread, fun u => ?_⟩
  have hp : Putting cfg h (⟨.lock, some u⟩ :: h) := ⟨List.suffix_cons _ h, rfl, hread⟩
  show Ensures cfg _ (putLocked cfg url res >>= _) _
  refine meetsSound_bind.mpr ((putLocked_meets henabled hp url res hprep).mono ?_)
  rintro h₁ ok ⟨hp₁, hok, tmp, name, e, hin, he⟩
  have hsuffix := List.suffix_cons (⟨.unlock, some ()⟩ : Call SpoolStmt) h₁
  exact ⟨hp₁.inside, fun _ => ⟨hok, hp₁.suffix.trans hsuffix, hp₁.read, tmp, name, e,
    hin.trans hsuffix.isInfix, he⟩⟩

theorem hasPending_meets (henabled : cfg.enabled = true) {taskID : String} (htask : taskID ≠ "") :
    Ensures cfg h (hasPending cfg taskID) fun h' behind => ∃ entries,
      h' = ⟨.readDir, some entries⟩ :: h ∧ behind = (batchNames entries).any (isOfTask taskID) := by
  have hcond : (!cfg.enabled || taskID == "") = false := by simp [henabled, htask]
  rw [hasPending, hcond, pending, if_pos henabled]
  exact ⟨trivial, fun entries => ⟨entries, rfl, rfl⟩⟩

theorem post_meets (url : String) (hsend : Direct h r ∨ Replayed cfg h r) :
    Ensures cfg h (post url r) fun h' outcome => ∃ response,
      h' = ⟨.clientDo url r, some response⟩ :: h ∧ (outcome ≠ .unreachable → Told h' r) :=
  ⟨hsend, fun response => ⟨response, rfl, fun hout => ⟨url, response, Hist.asked_head .., hout⟩⟩⟩

theorem postOrPut_meets (henabled : cfg.enabled = true) (hread : filesRead h = []) (url : String)
    (hsend : Direct h r) :
    Ensures cfg h (postOrPut cfg url r) fun h' _ => h <:+ h' ∧ filesRead h' = [] ∧
      Handled h' r := by
  refine meetsSound_bind.mpr ((post_meets url (.inl hsend)).mono ?_)
  rintro h₁ outcome ⟨response, rfl, htold⟩
  have hsuffix := List.suffix_cons (⟨.clientDo url r, some response⟩ : Call SpoolStmt) h
  cases outcome with
  | delivered | refused => exact ⟨hsuffix, hread, .inl (htold nofun)⟩
  | unreachable =>
    have hput := put_meets (h := ⟨.clientDo url r, some response⟩ :: h) henabled hread url r
      (hsend.prepared.mono hsuffix)
    refine meetsSound_bind.mpr (hput.mono ?_)
    rintro h₂ ok ⟨-, hsuffix₂, hread₂, hfiled⟩
    exact ⟨hsuffix.trans hsuffix₂, hread₂, .inr hfiled⟩

/-- **A batch is handled.** -/
theorem postResult_meets (henabled : cfg.enabled = true) (hread : filesRead h = [])
    (htask : r.taskID ≠ "") (url : String) (hprep : Prepared h r) :
    Ensures cfg h (postResult cfg url r) fun h' _ => h <:+ h' ∧ filesRead h' = [] ∧
      Handled h' r := by
  refine meetsSound_bind.mpr ((hasPending_meets henabled htask).mono ?_)
  rintro h₁ behind ⟨entries, rfl, hbehind⟩
  have hsuffix := List.suffix_cons (⟨.readDir, some entries⟩ : Call SpoolStmt) h
  -- with something of the task in the spool, the result goes behind it
  cases behind with
  | true =>
    have hput := put_meets (h := ⟨.readDir, some entries⟩ :: h) henabled hread url r
      (hprep.mono hsuffix)
    refine meetsSound_bind.mpr (hput.mono ?_)
    rintro h₂ _ ⟨rfl, hsuffix₂, hread₂, hfiled⟩
    exact ⟨hsuffix.trans hsuffix₂, hread₂, .inr hfiled⟩
  | false =>
    have hsend : Direct (⟨.readDir, some entries⟩ :: h) r := by
      refine ⟨entries, h, rfl, hprep, fun name hname => ?_⟩
      by_contra hof
      exact absurd (List.any_eq_true.mpr ⟨name, hname, Bool.not_eq_false _ ▸ hof⟩)
        (Bool.eq_false_iff.mp hbehind.symm)
    refine (postOrPut_meets henabled (h := ⟨.readDir, some entries⟩ :: h) hread url hsend).mono ?_
    rintro h₂ - ⟨hsuffix₂, hread₂, hhandled⟩
    exact ⟨hsuffix.trans hsuffix₂, hread₂, hhandled⟩

/-- The batches of an attempt: one after the other, each with those before it handled. -/
theorem postAll_meets (henabled : cfg.enabled = true) (url : String) {all : List Result}
    (hseq : ∀ (i : Nat) (r : Result), all[i]? = some r → r.seq = i)
    (hfinal : ∀ (i : Nat) (r : Result), all[i]? = some r → i + 1 < all.length → r.final = false)
    (hsame : ∀ r ∈ all, ∀ r' ∈ all, SameAttempt r r') (htask : ∀ r ∈ all, r.taskID ≠ "")
    {done rest : List Result} (hall : all = done ++ rest)
    (hread : filesRead h = []) (hdone : ∀ r ∈ done, Handled h r) :
    Ensures cfg h (postAll cfg url rest) fun _ _ => True := by
  induction rest generalizing done h with
  | nil => trivial
  | cons r rest ih =>
    have hmem : r ∈ all := hall ▸ List.mem_append_right done List.mem_cons_self
    have hprep : Prepared h r := by
      -- the results before this one are those already handled, in order
      intro k hk
      have hr : r.seq = done.length := hseq done.length r (by rw [hall]; simp)
      have hk' : k < done.length := hr ▸ hk
      have hget : all[k]? = some done[k] := by
        rw [hall, List.getElem?_append_left hk', List.getElem?_eq_getElem hk']
      have hlast : k + 1 < all.length := by
        rw [hall, List.length_append, List.length_cons]
        omega
      exact ⟨done[k], ⟨hsame _ (List.mem_of_getElem? hget) r hmem, hseq k _ hget,
        hfinal k _ hget hlast⟩, hdone _ (List.getElem_mem hk')⟩
    refine meetsSound_bind.mpr ((postResult_meets henabled hread (htask r hmem) url hprep).mono ?_)
    rintro h₁ - ⟨hsuffix, hread₁, hhandled⟩
    have hall₁ : all = (done ++ [r]) ++ rest := by rw [hall]; simp
    refine ih hall₁ hread₁ fun r' hr' => ?_
    rcases List.mem_append.mp hr' with hr' | hr'
    · exact (hdone r' hr').mono hsuffix
    · rw [List.mem_singleton.mp hr']
      exact hhandled

/-- In the middle of a replay: the mutex is held, the batches are those that were listed, and the
first of them have been dealt with. -/
structure Replaying (cfg : AgentConfig) (entries : List (String × Bool)) (before : List String)
    (h : Hist SpoolStmt) : Prop where
  inside : (spoolMutex cfg).inside h = true
  listed : snapshot h = some entries
  dealt : ∀ m ∈ before, Dealt h m

variable {entries : List (String × Bool)} {before : List String}

theorem Replaying.other (hr : Replaying cfg entries before h) {s : SpoolStmt β}
    (hop : s.lockOp = .other) {x : Option β} (hlisted : s.listed x = none)
    (hs : s.outdates = false) : Replaying cfg entries before (⟨s, x⟩ :: h) where
  inside := ((spoolMutex cfg).inside_other hop x h).trans hr.inside
  listed := by
    rw [snapshot, hlisted, hs]
    exact hr.listed
  dealt m hm := (hr.dealt m hm).mono (List.suffix_cons _ h)

/-- A batch is sent when those before it have been dealt with, and then dealt with itself. -/
theorem replayOne_meets {name : String} {names : List String}
    (hnames : batchNames entries = before ++ name :: names)
    (hr : Replaying cfg entries before h) :
    Ensures cfg h (replayOne name) fun h' on =>
      Replaying cfg entries before h' ∧ (on = true → Dealt h' name) := by
  refine ⟨trivial, fun x => ?_⟩
  have hx : Replaying cfg entries before (⟨.readFile name, some x⟩ :: h) := hr.other rfl rfl rfl
  -- a file whose batch has been dealt with is removed
  have hremove : ∀ {h₁ : Hist SpoolStmt}, Replaying cfg entries before h₁ → Dealt h₁ name →
      Ensures cfg h₁ (do
        let _ ← issue (SpoolStmt.remove name)
        pure true) fun h' on => Replaying cfg entries before h' ∧ (on = true → Dealt h' name) :=
    fun hr₁ hdealt => ⟨⟨hr₁.inside, fun _ => hdealt⟩, fun _ =>
      ⟨hr₁.other rfl rfl rfl, fun _ => hdealt.mono (List.suffix_cons _ _)⟩⟩
  cases x with
  | none => exact hremove hx ⟨none, Hist.asked_head .., nofun⟩
  | some e =>
    show Ensures cfg _ (post e.url e.result >>= _) _
    refine meetsSound_bind.mpr ((post_meets e.url (.inr ⟨hx.inside, entries, before, name, names, e,
      _, hx.listed, hnames, rfl, rfl, hx.dealt⟩)).mono ?_)
    rintro h₁ outcome ⟨response, rfl, htold⟩
    cases outcome with
    | unreachable => exact ⟨hx.other rfl rfl rfl, nofun⟩
    | delivered | refused =>
      refine hremove (hx.other rfl rfl rfl) ⟨some e, List.mem_cons_of_mem _ List.mem_cons_self, ?_⟩
      rintro e' heq
      cases heq
      exact htold nofun

theorem replayAll_meets {names : List String} (hnames : batchNames entries = before ++ names)
    (hr : Replaying cfg entries before h) :
    Ensures cfg h (replayAll names) fun h' _ => (spoolMutex cfg).inside h' = true := by
  induction names generalizing before h with
  | nil => exact hr.inside
  | cons name names ih =>
    refine ⟨trivial, fun cancelled => ?_⟩
    have hctx : Replaying cfg entries before (⟨.ctxErr, some cancelled⟩ :: h) :=
      hr.other rfl rfl rfl
    cases cancelled with
    | true => exact hctx.inside
    | false =>
      show Ensures cfg _ (replayOne name >>= _) _
      refine meetsSound_bind.mpr ((replayOne_meets hnames hctx).mono ?_)
      rintro h₁ on ⟨hrep, hdealt⟩
      cases on with
      | false => exact hrep.inside
      | true =>
        have hnames₁ : batchNames entries = (before ++ [name]) ++ names := by rw [hnames]; simp
        refine ih hnames₁ ⟨hrep.inside, hrep.listed, fun m hm => ?_⟩
        rcases List.mem_append.mp hm with hm | hm
        · exact hrep.dealt m hm
        · rw [List.mem_singleton.mp hm]
          exact hdealt rfl

theorem replay_meets (henabled : cfg.enabled = true) :
    Ensures cfg [] (replay cfg) fun _ _ => True := by
  rw [replay, if_pos henabled]
  refine ⟨rfl, fun u => ?_⟩
  rw [pending, if_pos henabled]
  refine ⟨trivial, fun entries => ?_⟩
  show Ensures cfg _ (replayAll _ >>= _) _
  have hr : Replaying cfg entries [] [⟨.readDir, some entries⟩, ⟨.lock, some u⟩] :=
      ⟨rfl, rfl, nofun⟩
  exact meetsSound_bind.mpr ((replayAll_meets rfl hr).mono fun _ _ hin => ⟨hin, fun _ => trivial⟩)

variable {job : Job} {obs : List Observation} {err : Option ScanError} {r : Result}

theorem batches_seq {i : Nat} (hget : (batches cfg job obs err)[i]? = some r) : r.seq = i := by
  simp only [batches] at hget
  rcases Nat.lt_or_ge i ((obs.length + 499) / 500) with hlt | hge
  · rw [List.getElem?_append_left (by simpa using hlt), List.getElem?_map,
      List.getElem?_range hlt] at hget
    cases hget
    rfl
  · rw [List.getElem?_append_right (by simpa using hge), List.length_map, List.length_range] at hget
    have hone := (List.getElem?_eq_some_iff.mp hget).1
    rw [List.mem_singleton.mp (List.mem_of_getElem? hget)]
    simp only [List.length_singleton] at hone ⊢
    omega

theorem batches_final {i : Nat} (hget : (batches cfg job obs err)[i]? = some r)
    (hlast : i + 1 < (batches cfg job obs err).length) : r.final = false := by
  simp only [batches, List.length_append, List.length_map, List.length_range,
    List.length_singleton] at hget hlast
  rw [List.getElem?_append_left (by simpa using hlast), List.getElem?_map,
    List.getElem?_range (by omega)] at hget
  cases hget
  rfl

theorem batches_attempt (hr : r ∈ batches cfg job obs err) :
    r.taskID = job.taskID ∧ r.leaseToken = job.leaseToken := by
  simp only [batches, List.mem_append, List.mem_map, List.mem_singleton] at hr
  rcases hr with ⟨k, -, rfl⟩ | rfl
  · exact ⟨rfl, rfl⟩
  · exact ⟨rfl, rfl⟩

/-- **The worker's goroutines keep the contract.** -/
theorem agentRequest_meets (henabled : cfg.enabled = true) (st : SpoolState) (req : AgentRequest)
    (hacc : (agentSystem cfg).accepts st req = true) :
    Meets (spoolPre cfg) [] ((agentSystem cfg).prog req) fun _ _ => True := by
  suffices hsound : Ensures cfg [] ((agentSystem cfg).prog req) fun _ _ => True from
    MeetsSound.meets fun _ => hsound
  cases req with
  | replay => exact replay_meets henabled
  | execJob job obs err =>
    have htask : job.taskID ≠ "" := by simpa [agentSystem] using hacc
    refine postAll_meets henabled _ (fun i r => batches_seq) (fun i r => batches_final)
      (fun r hr r' hr' => ?_) (fun r hr => ?_) (List.nil_append _).symm rfl nofun
    · exact ⟨(batches_attempt hr).1.trans (batches_attempt hr').1.symm,
        (batches_attempt hr).2.trans (batches_attempt hr').2.symm⟩
    · rw [(batches_attempt hr).1]
      exact htask

end Contract

end Scanner

end PinkGlasses
