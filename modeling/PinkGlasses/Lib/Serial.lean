import PinkGlasses.Lib.Conc

/-!
# PinkGlasses.Lib.Serial

**One process that makes pass after pass** over a state that others also act on.

A pass is a program; its statements are executed one at a time, each of them can fail, and between
any two of them somebody else can act on the state. A pass that starts while another is under way
is the process after a crash: what was left of the old pass is never resumed, and what it had
written stays.

Only the pass under way has an assertion, so the rule for invariants (`Process.Inductive.run`) asks
less than the one for threads that interleave: nothing has to survive in a pass that is over. What a
run has to keep to is a value, `Process.Rules`: where statements may take effect or fail, where a
pass may be cut short, and what others may do.
-/

namespace Lib

/-- A system whose passes are made one after another, with the actions of everybody else. -/
structure Process (S : Type → Type) (σ O R ρ X : Type) extends System S σ O R ρ where
  /-- What somebody else does to the state. -/
  act : X → σ → σ

namespace Process

/-- What can happen. -/
inductive Event (R O X : Type)
  /-- A pass starts, and with it whatever was under way is over. -/
  | start (r : R)
  /-- The pass issues its next statement; `o` is what the outside world answers there. -/
  | step (o : O)
  /-- The next statement of the pass fails without an effect. -/
  | fail
  /-- Somebody else acts. -/
  | act (x : X)

/-- The state and the pass under way. -/
structure Conf (S : Type → Type) (σ ρ : Type) where
  state : σ
  pass : Option (Thread S ρ)

variable {S : Type → Type} {σ O R ρ X : Type} (p : Process S σ O R ρ X)

/-- The configuration after the statement of the pass got its answer. -/
def answer (st : σ) (h : Hist S) {β : Type} (s : S β) (k : Option β → Prog S ρ) :
    Option (β × σ) → Conf S σ ρ
  | some (b, st') => ⟨st', some ⟨⟨s, some b⟩ :: h, k (some b)⟩⟩
  | none => ⟨st, some ⟨⟨s, none⟩ :: h, k none⟩⟩

/-- One event. An event that cannot happen changes nothing. -/
def next (c : Conf S σ ρ) : Event R O X → Conf S σ ρ
  | .start r => if p.accepts c.state r then ⟨c.state, some ⟨[], p.prog r⟩⟩ else c
  | .step o => match c.pass with
    | some ⟨h, .call s k⟩ => answer c.state h s k (p.exec s o c.state)
    | _ => c
  | .fail => match c.pass with
    | some ⟨h, .call s k⟩ => answer c.state h s k none
    | _ => c
  | .act x => ⟨p.act x c.state, c.pass⟩

/-- A run. -/
def run : Conf S σ ρ → List (Event R O X) → Conf S σ ρ
  | c, [] => c
  | c, e :: es => run (p.next c e) es

/-- A process that has not made a pass yet. -/
def idle (st : σ) : Conf S σ ρ := ⟨st, none⟩

section Conditions

/-- **The conditions on what happens**, told the state and what the pass has done. -/
structure Rules (S : Type → Type) (σ O X : Type) where
  /-- Where a statement may take effect, with what is answered from outside. -/
  stmt : σ → Hist S → O → ∀ β : Type, S β → Prop := fun _ _ _ _ _ => True
  /-- Where a statement may fail. -/
  fail : σ → Hist S → ∀ β : Type, S β → Prop := fun _ _ _ _ => True
  /-- Where a pass may be cut short, before the statement. -/
  cut : σ → Hist S → ∀ β : Type, S β → Prop := fun _ _ _ _ => True
  /-- What others may do. -/
  act : σ → X → Prop := fun _ _ => True

variable (ok : Rules S σ O X)

/-- One event within the conditions. -/
def Allowed (c : Conf S σ ρ) : Event R O X → Prop
  | .start _ => match c.pass with
    | some ⟨h, .call s _⟩ => ok.cut c.state h _ s
    | _ => True
  | .step o => match c.pass with
    | some ⟨h, .call s _⟩ =>
      if (p.exec s o c.state).isSome then ok.stmt c.state h o _ s else ok.fail c.state h _ s
    | _ => True
  | .fail => match c.pass with
    | some ⟨h, .call s _⟩ => ok.fail c.state h _ s
    | _ => True
  | .act x => ok.act c.state x

/-- Every event of the run is where the conditions allow it. -/
def Along : Conf S σ ρ → List (Event R O X) → Prop
  | _, [] => True
  | c, e :: es => p.Allowed ok c e ∧ Along (p.next c e) es

/-- Without conditions, every run is allowed. -/
theorem along_default (c : Conf S σ ρ) (es : List (Event R O X)) : p.Along {} c es := by
  induction es generalizing c with
  | nil => trivial
  | cons e es ih =>
    refine ⟨?_, ih _⟩
    unfold Allowed
    split
    any_goals split
    any_goals split
    all_goals trivial

section Decidable

variable [∀ st h o β s, Decidable (ok.stmt st h o β s)] [∀ st h β s, Decidable (ok.fail st h β s)]
  [∀ st h β s, Decidable (ok.cut st h β s)] [∀ st x, Decidable (ok.act st x)]

instance decidableAllowed (c : Conf S σ ρ) (e : Event R O X) : Decidable (p.Allowed ok c e) := by
  unfold Allowed
  split
  any_goals split
  all_goals infer_instance

instance decidableAlong :
    (c : Conf S σ ρ) → (es : List (Event R O X)) → Decidable (p.Along ok c es)
  | _, [] => isTrue trivial
  | c, e :: es =>
    have := decidableAlong (p.next c e) es
    inferInstanceAs (Decidable (p.Allowed ok c e ∧ p.Along ok (p.next c e) es))

end Decidable

end Conditions

/-! ### The invariant rule -/

section Inv

variable {pre : Hist S → ∀ β : Type, S β → Prop} {post : Hist S → ρ → Prop}
  {A : σ → Prop} {B : σ → Thread S ρ → Prop} {ok : Rules S σ O X}

/-- What holds of a configuration: `A` between passes, and of a pass under way `B` and its
contract. -/
structure Holds (pre : Hist S → ∀ β : Type, S β → Prop) (post : Hist S → ρ → Prop)
    (A : σ → Prop) (B : σ → Thread S ρ → Prop) (c : Conf S σ ρ) : Prop where
  between : c.pass = none → A c.state
  pass : ∀ t, c.pass = some t → B c.state t
  contract : ∀ t, c.pass = some t → t.prog.Meets pre t.hist post

theorem Holds.idle {st : σ} (hA : A st) : Holds pre post A B (Process.idle st) :=
  ⟨fun _ => hA, nofun, nofun⟩

theorem Holds.of_pass {st : σ} {t : Thread S ρ} (hB : B st t) (hm : t.prog.Meets pre t.hist post) :
    Holds pre post A B ⟨st, some t⟩ :=
  ⟨nofun, fun _ heq => Option.some.inj heq ▸ hB, fun _ heq => Option.some.inj heq ▸ hm⟩

/-- **The obligations of an invariant.** -/
structure Inductive (p : Process S σ O R ρ X) (ok : Rules S σ O X)
    (pre : Hist S → ∀ β : Type, S β → Prop) (post : Hist S → ρ → Prop)
    (A : σ → Prop) (B : σ → Thread S ρ → Prop) : Prop where
  /-- A pass that starts has its assertion and keeps its contract. -/
  start : ∀ {st r}, A st → p.accepts st r = true →
    B st ⟨[], p.prog r⟩ ∧ (p.prog r).Meets pre [] post
  /-- A statement that takes effect. -/
  step : ∀ {st h o β} {s : S β} {k b st'}, B st ⟨h, .call s k⟩ → pre h β s →
    ok.stmt st h o β s → p.exec s o st = some (b, st') → B st' ⟨⟨s, some b⟩ :: h, k (some b)⟩
  /-- A statement that fails. -/
  fail : ∀ {st h β} {s : S β} {k}, B st ⟨h, .call s k⟩ → pre h β s → ok.fail st h β s →
    B st ⟨⟨s, none⟩ :: h, k none⟩
  /-- A pass that is cut short. -/
  cut : ∀ {st h β} {s : S β} {k}, B st ⟨h, .call s k⟩ → pre h β s → ok.cut st h β s → A st
  /-- A pass that is over. -/
  done : ∀ {st h a}, B st ⟨h, .ret a⟩ → post h a → A st
  /-- What others do between passes. -/
  idle : ∀ {st x}, A st → ok.act st x → A (p.act x st)
  /-- What others do during a pass. -/
  act : ∀ {st x t}, B st t → ok.act st x → B (p.act x st) t

variable {p} (hI : Inductive p ok pre post A B)

include hI in
/-- Where a pass may start, the assertion between passes holds. -/
theorem Inductive.quiet {c : Conf S σ ρ} {r : R} (hc : Holds pre post A B c)
    (hok : p.Allowed ok c (.start r)) : A c.state := by
  obtain ⟨st, _ | ⟨h, prog⟩⟩ := c
  · exact hc.between rfl
  · cases prog with
    | ret a => exact hI.done (hc.pass _ rfl) (hc.contract _ rfl)
    | call s k => exact hI.cut (hc.pass _ rfl) (hc.contract _ rfl).1 hok

include hI in
/-- A failed statement keeps what holds. -/
theorem Inductive.answer_none {st : σ} {h : Hist S} {β : Type} {s : S β}
    {k : Option β → Prog S ρ} (hc : Holds pre post A B ⟨st, some ⟨h, .call s k⟩⟩)
    (hok : ok.fail st h β s) : Holds pre post A B (answer st h s k none) := by
  have hcon := hc.contract _ rfl
  exact .of_pass (hI.fail (hc.pass _ rfl) hcon.1 hok) (hcon.2 none)

include hI in
/-- One allowed event keeps what holds. -/
theorem Inductive.next {c : Conf S σ ρ} {e : Event R O X} (hc : Holds pre post A B c)
    (hok : p.Allowed ok c e) : Holds pre post A B (p.next c e) := by
  cases e with
  | start r =>
    simp only [Process.next]
    split
    · rename_i hacc
      obtain ⟨hB, hm⟩ := hI.start (hI.quiet hc hok) hacc
      exact .of_pass hB hm
    · exact hc
  | step o =>
    obtain ⟨st, _ | ⟨h, _ | ⟨s, k⟩⟩⟩ := c
    · exact hc
    · exact hc
    · have hcon := hc.contract _ rfl
      simp only [Allowed] at hok
      simp only [Process.next]
      cases hex : p.exec s o st with
      | none =>
        rw [hex] at hok
        exact hI.answer_none hc hok
      | some r =>
        obtain ⟨b, st'⟩ := r
        rw [hex] at hok
        exact .of_pass (hI.step (hc.pass _ rfl) hcon.1 hok hex) (hcon.2 (some b))
  | fail =>
    obtain ⟨st, _ | ⟨h, _ | ⟨s, k⟩⟩⟩ := c
    · exact hc
    · exact hc
    · exact hI.answer_none hc hok
  | act x =>
    exact ⟨fun hnone => hI.idle (hc.between hnone) hok, fun t ht => hI.act (hc.pass t ht) hok,
      hc.contract⟩

include hI in
/-- **The invariant rule**: what holds at the start holds along every run within the conditions. -/
theorem Inductive.run {c : Conf S σ ρ} {es : List (Event R O X)} (hc : Holds pre post A B c)
    (hok : p.Along ok c es) : Holds pre post A B (p.run c es) := by
  induction es generalizing c with
  | nil => exact hc
  | cons e es ih => exact ih (hI.next hc hok.1) hok.2

/-! ### What holds throughout -/

/-- The obligations of an assertion about the state that passes keep as well, with an assertion of
their own beside it. -/
structure Throughout (p : Process S σ O R ρ X) (ok : Rules S σ O X)
    (pre : Hist S → ∀ β : Type, S β → Prop) (post : Hist S → ρ → Prop)
    (A : σ → Prop) (B : σ → Thread S ρ → Prop) : Prop where
  start : ∀ {st r}, A st → p.accepts st r = true →
    B st ⟨[], p.prog r⟩ ∧ (p.prog r).Meets pre [] post
  step : ∀ {st h o β} {s : S β} {k b st'}, A st → B st ⟨h, .call s k⟩ → pre h β s →
    ok.stmt st h o β s → p.exec s o st = some (b, st') →
    A st' ∧ B st' ⟨⟨s, some b⟩ :: h, k (some b)⟩
  fail : ∀ {st h β} {s : S β} {k}, A st → B st ⟨h, .call s k⟩ → pre h β s →
    B st ⟨⟨s, none⟩ :: h, k none⟩
  act : ∀ {st x}, A st → ok.act st x → A (p.act x st) ∧ ∀ t, B st t → B (p.act x st) t

theorem Throughout.inductive (hT : Throughout p ok pre post A B) :
    Inductive p ok pre post A fun st t => A st ∧ B st t where
  start hA hacc := ⟨⟨hA, (hT.start hA hacc).1⟩, (hT.start hA hacc).2⟩
  step hAB hpre hok hexec := hT.step hAB.1 hAB.2 hpre hok hexec
  fail hAB hpre _ := ⟨hAB.1, hT.fail hAB.1 hAB.2 hpre⟩
  cut hAB _ _ := hAB.1
  done hAB _ := hAB.1
  idle hA hok := (hT.act hA hok).1
  act hAB hok := ⟨(hT.act hAB.1 hok).1, (hT.act hAB.1 hok).2 _ hAB.2⟩

/-- The state has the assertion wherever the run stops. -/
theorem Throughout.run (hT : Throughout p ok pre post A B) {st : σ} {es : List (Event R O X)}
    (hA : A st) (hok : p.Along ok (Process.idle st) es) : A (p.run (Process.idle st) es).state := by
  have hend := hT.inductive.run (.idle hA) hok
  cases hpass : (p.run (Process.idle st) es).pass with
  | none => exact hend.between hpass
  | some t => exact (hend.pass t hpass).1

end Inv

end Process

end Lib
