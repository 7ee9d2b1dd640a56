import Mathlib.Data.List.Basic
import PinkGlasses.Lib.Prog

/-!
# PinkGlasses.Lib.Conc

Programs that **interleave statement by statement on a shared state**.

A `System` says what each atomic statement does to the state and which program serves which
request. A configuration is the state together with the threads started so far, each with the
calls it has made and the program it has left; an event starts a thread, lets one thread issue
its next statement, or makes that statement fail. A run is a list of events, so every schedule
is some run, and a schedule can be evaluated.

`Along ok` says that every statement of a run is issued in a configuration that `ok` allows. The
rule for invariants is `System.Inductive.run`: an assertion about the state and one about
each thread (its history and its program), kept by every statement that the thread's contract and
`ok` allow, hold along every run.
-/

namespace Lib

/-- A request being served: the calls made so far and the program that is left. -/
structure Thread (S : Type → Type) (ρ : Type) where
  hist : Hist S
  prog : Prog S ρ

/-- A shared state and the threads on it, in the order they were started. -/
structure Conf (S : Type → Type) (σ ρ : Type) where
  state : σ
  threads : List (Thread S ρ)

/-- What a scheduler can do. -/
inductive Event (R O : Type)
  /-- A request arrives. -/
  | spawn (r : R)
  /-- Thread `i` issues its next statement; `o` is what the outside world answers there. -/
  | step (i : Nat) (o : O)
  /-- The next statement of thread `i` fails without an effect. -/
  | fail (i : Nat)
deriving Repr, DecidableEq

/-- The statements' effect on the state and the programs that serve requests. -/
structure System (S : Type → Type) (σ O R ρ : Type) where
  /-- What a statement does; `none` when it is refused (a violated constraint, say). -/
  exec : {β : Type} → S β → O → σ → Option (β × σ)
  /-- Whether a request can arrive in a state. -/
  accepts : σ → R → Bool
  /-- The program that serves a request. -/
  prog : R → Prog S ρ

namespace System

variable {S : Type → Type} {σ O R ρ : Type} (sys : System S σ O R ρ)

/-- The configuration after the statement `s` of thread `i` got its answer. -/
def answer (c : Conf S σ ρ) (i : Nat) (h : Hist S) {β : Type} (s : S β)
    (k : Option β → Prog S ρ) : Option (β × σ) → Conf S σ ρ
  | some (b, st) => ⟨st, c.threads.set i ⟨⟨s, some b⟩ :: h, k (some b)⟩⟩
  | none => ⟨c.state, c.threads.set i ⟨⟨s, none⟩ :: h, k none⟩⟩

/-- One event. An event that cannot happen changes nothing. -/
def next (c : Conf S σ ρ) : Event R O → Conf S σ ρ
  | .spawn r => if sys.accepts c.state r then ⟨c.state, c.threads ++ [⟨[], sys.prog r⟩]⟩ else c
  | .step i o => match c.threads[i]? with
    | some ⟨h, .call s k⟩ => answer c i h s k (sys.exec s o c.state)
    | _ => c
  | .fail i => match c.threads[i]? with
    | some ⟨h, .call s k⟩ => answer c i h s k none
    | _ => c

/-- A run. -/
def run : Conf S σ ρ → List (Event R O) → Conf S σ ρ
  | c, [] => c
  | c, e :: es => run (sys.next c e) es

@[simp] theorem run_nil (c : Conf S σ ρ) : sys.run c [] = c := rfl

@[simp] theorem run_cons (c : Conf S σ ρ) (e : Event R O) (es : List (Event R O)) :
    sys.run c (e :: es) = sys.run (sys.next c e) es := rfl

theorem run_append (c : Conf S σ ρ) (es es' : List (Event R O)) :
    sys.run c (es ++ es') = sys.run (sys.run c es) es' := by
  induction es generalizing c with
  | nil => rfl
  | cons e es ih => exact ih _

variable {o : O} {β : Type} {es : List (Event R O)}

/-- The configuration after a statement that takes effect. -/
theorem next_step {c : Conf S σ ρ} {i : Nat} {h : Hist S} {s : S β} {k : Option β → Prog S ρ}
    {b : β} {st : σ} (hth : c.threads[i]? = some ⟨h, .call s k⟩)
    (hexec : sys.exec s o c.state = some (b, st)) :
    sys.next c (.step i o) = ⟨st, c.threads.set i ⟨⟨s, some b⟩ :: h, k (some b)⟩⟩ := by
  simp only [next, hth, hexec, answer]

/-- The condition `ok` on the statement an event issues. -/
def Allowed (ok : Conf S σ ρ → Nat → ∀ β : Type, S β → Prop) (c : Conf S σ ρ) :
    Event R O → Prop
  | .step i _ => match c.threads[i]? with
    | some ⟨_, .call s _⟩ => ok c i _ s
    | _ => True
  | _ => True

/-- Every statement of the run is issued where `ok` allows it. -/
def Along (ok : Conf S σ ρ → Nat → ∀ β : Type, S β → Prop) :
    Conf S σ ρ → List (Event R O) → Prop
  | _, [] => True
  | c, e :: es => Allowed ok c e ∧ Along ok (sys.next c e) es

instance (ok : Conf S σ ρ → Nat → ∀ β : Type, S β → Prop) [∀ c i β s, Decidable (ok c i β s)]
    (c : Conf S σ ρ) (e : Event R O) : Decidable (Allowed ok c e) := by
  unfold Allowed
  split
  · split <;> infer_instance
  · infer_instance

instance decidableAlong (ok : Conf S σ ρ → Nat → ∀ β : Type, S β → Prop)
    [∀ c i β s, Decidable (ok c i β s)] :
    (c : Conf S σ ρ) → (es : List (Event R O)) → Decidable (sys.Along ok c es)
  | _, [] => isTrue trivial
  | c, e :: es =>
    have := decidableAlong ok (sys.next c e) es
    inferInstanceAs (Decidable (Allowed ok c e ∧ sys.Along ok (sys.next c e) es))

/-- The system that also keeps **a log of what its statements answered**: `entry` says what a
statement with its answer adds to it. No statement reads the log. -/
def logged {L : Type} (entry : {β : Type} → S β → β → List L) : System S (σ × List L) O R ρ where
  exec := fun s o st => (sys.exec s o st.1).map fun r => (r.1, r.2, entry s r.1 ++ st.2)
  accepts := fun st r => sys.accepts st.1 r
  prog := sys.prog

/-- A statement of the logged system is one of the system, with its entry in the log. -/
theorem logged_exec {L : Type} {entry : {β : Type} → S β → β → List L} {st st' : σ × List L}
    {s : S β} {b : β} (h : (sys.logged entry).exec s o st = some (b, st')) :
    sys.exec s o st.1 = some (b, st'.1) ∧ st'.2 = entry s b ++ st.2 := by
  obtain ⟨r, hr, heq⟩ := Option.map_eq_some_iff.mp h
  cases heq
  exact ⟨hr, rfl⟩

/-- The system whose programs also return the request they served. -/
def answered : System S σ O R (R × ρ) where
  exec := sys.exec
  accepts := sys.accepts
  prog := fun r => do
    let a ← sys.prog r
    pure (r, a)

/-- The system with a log that also tells what a statement found: `entry` is shown the state the
statement was executed in. -/
def recorded {L : Type} (entry : {β : Type} → S β → σ → β → List L) :
    System S (σ × List L) O R ρ where
  exec := fun s o st => (sys.exec s o st.1).map fun r => (r.1, r.2, entry s st.1 r.1 ++ st.2)
  accepts := fun st r => sys.accepts st.1 r
  prog := sys.prog

theorem recorded_exec {L : Type} {entry : {β : Type} → S β → σ → β → List L} {st st' : σ × List L}
    {s : S β} {b : β} (h : (sys.recorded entry).exec s o st = some (b, st')) :
    sys.exec s o st.1 = some (b, st'.1) ∧ st'.2 = entry s st.1 b ++ st.2 := by
  obtain ⟨r, hr, heq⟩ := Option.map_eq_some_iff.mp h
  cases heq
  exact ⟨hr, rfl⟩

variable {sys} {ok : Conf S σ ρ → Nat → ∀ β : Type, S β → Prop}

theorem Along.append {c : Conf S σ ρ} {es' : List (Event R O)} :
    sys.Along ok c (es ++ es') ↔ sys.Along ok c es ∧ sys.Along ok (sys.run c es) es' := by
  induction es generalizing c with
  | nil => simp [Along]
  | cons e es ih => simp [Along, ih, and_assoc]

/-- What every allowed event keeps can be added to the condition of a run. -/
theorem Along.and_inv {J : Conf S σ ρ → Prop} {c : Conf S σ ρ} (hJ : J c)
    (hnext : ∀ c e, J c → Allowed ok c e → J (sys.next c e)) (hok : sys.Along ok c es) :
    sys.Along (fun c i β s => ok c i β s ∧ J c) c es := by
  induction es generalizing c with
  | nil => trivial
  | cons e es ih =>
    refine ⟨?_, ih (hnext c e hJ hok.1) hok.2⟩
    cases e with
    | spawn | fail => trivial
    | step =>
      have hstep := hok.1
      simp only [Allowed] at hstep ⊢
      split
      · rename_i ht
        simp only [ht] at hstep
        exact ⟨hstep, hJ⟩
      · trivial

/-- A condition that every statement meeting the first one meets. -/
theorem Along.imp {ok' : Conf S σ ρ → Nat → ∀ β : Type, S β → Prop} {c : Conf S σ ρ}
    (hok : sys.Along ok c es)
    (himp : ∀ {c : Conf S σ ρ} {i h β} {s : S β} {k}, c.threads[i]? = some ⟨h, .call s k⟩ →
      ok c i β s → ok' c i β s) : sys.Along ok' c es := by
  induction es generalizing c with
  | nil => trivial
  | cons e es ih =>
    refine ⟨?_, ih hok.2⟩
    have hstep := hok.1
    cases e with
    | spawn | fail => trivial
    | step =>
      simp only [Allowed] at hstep ⊢
      split
      · rename_i ht
        simp only [ht] at hstep
        exact himp ht hstep
      · trivial

/-! ### The invariant rule -/

section Inv

variable {pre : Hist S → ∀ β : Type, S β → Prop} {post : Hist S → ρ → Prop}
  (A : σ → Prop) (B : σ → Thread S ρ → Prop)

/-- What holds of a configuration: `A` of the state, and of each thread `B` and its contract. -/
structure Holds (pre : Hist S → ∀ β : Type, S β → Prop) (post : Hist S → ρ → Prop)
    (A : σ → Prop) (B : σ → Thread S ρ → Prop) (c : Conf S σ ρ) : Prop where
  state : A c.state
  threads : ∀ t ∈ c.threads, B c.state t
  contract : ∀ t ∈ c.threads, t.prog.Meets pre t.hist post

variable {A B}

/-- Before any request arrives only the state's assertion is asked for. -/
theorem Holds.start {st : σ} (hA : A st) : Holds pre post A B ⟨st, []⟩ :=
  ⟨hA, nofun, nofun⟩

variable {i : Nat}

/-- A thread after one was replaced: the new one, or one at another place. -/
theorem mem_set_cases {α : Type*} {l : List α} {a x : α} (h : x ∈ l.set i a) :
    x = a ∨ ∃ j, j ≠ i ∧ l[j]? = some x := by
  obtain ⟨j, hj⟩ := List.mem_iff_getElem?.mp h
  by_cases hij : j = i
  · rw [hij, List.getElem?_set_self'] at hj
    cases hold : l[i]? with
    | none =>
      rw [hold] at hj
      cases hj
    | some y =>
      rw [hold] at hj
      exact .inl (Option.some.inj hj).symm
  · rw [List.getElem?_set_ne (Ne.symm hij)] at hj
    exact .inr ⟨j, hij, hj⟩

/-- Replacing one thread, with the state, keeps what holds if the new state keeps the assertion of
every other thread and the new thread has its own. -/
theorem Holds.set {c : Conf S σ ρ} {st : σ} {t : Thread S ρ} (hc : Holds pre post A B c) (hA : A st)
    (hB : ∀ j t, j ≠ i → c.threads[j]? = some t → B c.state t → B st t) (ht : B st t)
    (hm : t.prog.Meets pre t.hist post) : Holds pre post A B ⟨st, c.threads.set i t⟩ where
  state := hA
  threads := by
    intro t' ht'
    rcases mem_set_cases ht' with rfl | ⟨j, hij, hj⟩
    · exact ht
    · exact hB j t' hij hj (hc.threads t' (List.mem_of_getElem? hj))
  contract := by
    intro t' ht'
    rcases List.mem_or_eq_of_mem_set ht' with h | rfl
    · exact hc.contract t' h
    · exact hm

/-- **The obligations of an invariant.** -/
structure Inductive (sys : System S σ O R ρ) (ok : Conf S σ ρ → Nat → ∀ β : Type, S β → Prop)
    (pre : Hist S → ∀ β : Type, S β → Prop) (post : Hist S → ρ → Prop)
    (A : σ → Prop) (B : σ → Thread S ρ → Prop) : Prop where
  /-- A program that has not started keeps its contract and has the thread assertion. -/
  spawn : ∀ st r, A st → sys.accepts st r = true →
    B st ⟨[], sys.prog r⟩ ∧ (sys.prog r).Meets pre [] post
  /-- A statement that takes effect. -/
  step : ∀ {c : Conf S σ ρ} {i h β} {s : S β} {k o b st}, Holds pre post A B c →
    c.threads[i]? = some ⟨h, .call s k⟩ → pre h β s → ok c i β s →
    sys.exec s o c.state = some (b, st) →
    A st ∧ B st ⟨⟨s, some b⟩ :: h, k (some b)⟩ ∧
      ∀ j t, j ≠ i → c.threads[j]? = some t → B c.state t → B st t
  /-- A statement that fails. -/
  fail : ∀ {st h β} {s : S β} {k}, A st → B st ⟨h, .call s k⟩ → pre h β s →
    B st ⟨⟨s, none⟩ :: h, k none⟩

variable (hI : Inductive sys ok pre post A B)

include hI in
/-- A failed statement keeps what holds. -/
theorem Inductive.answer_none {c : Conf S σ ρ} {h : Hist S} {β : Type} {s : S β}
    {k : Option β → Prog S ρ} (hc : Holds pre post A B c)
    (ht : c.threads[i]? = some ⟨h, .call s k⟩) :
    Holds pre post A B (answer c i h s k none) := by
  have hmem : (⟨h, .call s k⟩ : Thread S ρ) ∈ c.threads := List.mem_of_getElem? ht
  have hcon := hc.contract _ hmem
  exact hc.set hc.state (fun _ _ _ _ h => h) (hI.fail hc.state (hc.threads _ hmem) hcon.1)
    (hcon.2 none)

include hI in
/-- One allowed event keeps what holds. -/
theorem Inductive.next {c : Conf S σ ρ} {e : Event R O} (hc : Holds pre post A B c)
    (hok : Allowed ok c e) : Holds pre post A B (sys.next c e) := by
  cases e with
  | spawn r =>
    simp only [System.next]
    split
    · rename_i hacc
      have hnew := hI.spawn c.state r hc.state hacc
      -- a thread is one of those there were, or the new one
      refine ⟨hc.state, ?_, ?_⟩
      · intro t ht
        rcases List.mem_append.mp ht with h | h
        · exact hc.threads t h
        · exact List.mem_singleton.mp h ▸ hnew.1
      · intro t ht
        rcases List.mem_append.mp ht with h | h
        · exact hc.contract t h
        · exact List.mem_singleton.mp h ▸ hnew.2
    · exact hc
  | step i o =>
    simp only [System.next]
    split
    · rename_i h β s k ht
      have hmem : (⟨h, .call s k⟩ : Thread S ρ) ∈ c.threads := List.mem_of_getElem? ht
      have hcon := hc.contract _ hmem
      cases hex : sys.exec s o c.state with
      | none => exact hI.answer_none hc ht
      | some r =>
        obtain ⟨b, st⟩ := r
        -- what the step gives the acting thread, and what it leaves the others
        have hok' : ok c i β s := by simpa only [Allowed, ht] using hok
        obtain ⟨hA, hB, hothers⟩ := hI.step hc ht hcon.1 hok' hex
        exact hc.set hA hothers hB (hcon.2 (some b))
    · exact hc
  | fail i =>
    simp only [System.next]
    split
    · rename_i h β s k ht
      exact hI.answer_none hc ht
    · exact hc

include hI in
/-- **The invariant rule**: what holds at the start holds along every run that `ok` allows. -/
theorem Inductive.run {c : Conf S σ ρ} {es : List (Event R O)} (hc : Holds pre post A B c)
    (hok : sys.Along ok c es) : Holds pre post A B (sys.run c es) := by
  induction es generalizing c with
  | nil => exact hc
  | cons e es ih => exact ih (hI.next hc hok.1) hok.2

end Inv

/-! ### What is said of the state or the programs alone -/

/-- A condition that asks for nothing holds along every run. -/
theorem along_true (sys : System S σ O R ρ) (c : Conf S σ ρ) (es : List (Event R O)) :
    sys.Along (fun _ _ _ _ => True) c es := by
  induction es generalizing c with
  | nil => trivial
  | cons e es ih =>
    refine ⟨?_, ih _⟩
    cases e with
    | step i o =>
      simp only [Allowed]
      split <;> trivial
    | _ => trivial

/-- What every statement allowed by `ok` keeps of the state, whichever program issues it, holds
along every run that `ok` allows. -/
theorem run_keeps {A : σ → Prop} {c : Conf S σ ρ}
    (hstep : ∀ {c : Conf S σ ρ} {i β} {s : S β} {o b st}, A c.state → ok c i β s →
      sys.exec s o c.state = some (b, st) → A st) (hA : A c.state) (hok : sys.Along ok c es) :
    A (sys.run c es).state := by
  have hI : Inductive sys ok (fun _ _ _ => True) (fun _ _ => True) A fun _ _ => True :=
    { spawn := fun _ r _ _ => ⟨trivial, (sys.prog r).meets_true _⟩
      step := fun hc _ _ hs hexec =>
        ⟨hstep hc.state hs hexec, trivial, fun _ _ _ _ _ => trivial⟩
      fail := fun _ _ _ => trivial }
  exact (hI.run ⟨hA, fun _ _ => trivial, fun t _ => t.prog.meets_true _⟩ hok).state

/-- Where every program keeps a contract, **every statement of every run is issued within it**. -/
theorem along_contract {pre : Hist S → ∀ β : Type, S β → Prop} {post : Hist S → ρ → Prop}
    (hprog : ∀ r, (sys.prog r).Meets pre [] post) (st : σ) (es : List (Event R O)) :
    sys.Along (fun c i β s => ∃ h k, c.threads[i]? = some ⟨h, .call s k⟩ ∧ pre h β s)
      ⟨st, []⟩ es := by
  have hI : Inductive sys (fun _ _ _ _ => True) pre post (fun _ => True) fun _ _ => True :=
    { spawn := fun _ r _ _ => ⟨trivial, hprog r⟩
      step := fun _ _ _ _ _ => ⟨trivial, trivial, fun _ _ _ _ _ => trivial⟩
      fail := fun _ _ _ => trivial }
  have hall := (sys.along_true ⟨st, []⟩ es).and_inv
      (J := Holds pre post (fun _ => True) fun _ _ => True)
    (.start trivial) fun c e hc hok => hI.next hc hok
  exact hall.imp fun hth hok => ⟨_, _, hth, (hok.2.contract _ (List.mem_of_getElem? hth)).1⟩

end System

end Lib
