import PinkGlasses.Lib.Conc

/-!
# PinkGlasses.Lib.Interference

Runs of a system in which the state is also changed **from outside**: between two events someone can
act on it, and no thread is told. An invariant of the system is an invariant of such runs if the
actions keep it, the threads' assertions included.
-/

namespace Lib

namespace System

variable {S : Type → Type} {σ O R ρ X : Type} (sys : System S σ O R ρ) (act : X → σ → σ)

/-- One event, or one action from outside. -/
def nextAmid (c : Conf S σ ρ) : Event R O ⊕ X → Conf S σ ρ
  | .inl e => sys.next c e
  | .inr x => ⟨act x c.state, c.threads⟩

/-- A run amid actions from outside. -/
def runAmid : Conf S σ ρ → List (Event R O ⊕ X) → Conf S σ ρ
  | c, [] => c
  | c, e :: es => runAmid (sys.nextAmid act c e) es

/-- The condition `ok` on the statement an event issues, and `okAct` on an action. -/
def AllowedAmid (ok : Conf S σ ρ → Nat → ∀ β : Type, S β → Prop) (okAct : σ → X → Prop)
    (c : Conf S σ ρ) : Event R O ⊕ X → Prop
  | .inl e => Allowed ok c e
  | .inr x => okAct c.state x

/-- Every statement and every action of the run is where the conditions allow it. -/
def AlongAmid (ok : Conf S σ ρ → Nat → ∀ β : Type, S β → Prop) (okAct : σ → X → Prop) :
    Conf S σ ρ → List (Event R O ⊕ X) → Prop
  | _, [] => True
  | c, e :: es => AllowedAmid ok okAct c e ∧ AlongAmid ok okAct (sys.nextAmid act c e) es

instance (ok : Conf S σ ρ → Nat → ∀ β : Type, S β → Prop) (okAct : σ → X → Prop)
    [∀ c i β s, Decidable (ok c i β s)] [∀ st x, Decidable (okAct st x)] (c : Conf S σ ρ)
    (e : Event R O ⊕ X) : Decidable (AllowedAmid ok okAct c e) := by
  cases e <;> unfold AllowedAmid <;> infer_instance

instance decidableAlongAmid (ok : Conf S σ ρ → Nat → ∀ β : Type, S β → Prop) (okAct : σ → X → Prop)
    [∀ c i β s, Decidable (ok c i β s)] [∀ st x, Decidable (okAct st x)] :
    (c : Conf S σ ρ) → (es : List (Event R O ⊕ X)) → Decidable (sys.AlongAmid act ok okAct c es)
  | _, [] => isTrue trivial
  | c, e :: es =>
    have := decidableAlongAmid ok okAct (sys.nextAmid act c e) es
    inferInstanceAs (Decidable (AllowedAmid ok okAct c e ∧
      sys.AlongAmid act ok okAct (sys.nextAmid act c e) es))

variable {sys act} {ok : Conf S σ ρ → Nat → ∀ β : Type, S β → Prop} {okAct : σ → X → Prop}
  {pre : Hist S → ∀ β : Type, S β → Prop} {post : Hist S → ρ → Prop}
  {A : σ → Prop} {B : σ → Thread S ρ → Prop}

/-- **The invariant rule amid actions**: besides the obligations of the system, an action has to
keep the assertion of the state and that of every thread. -/
theorem Inductive.runAmid (hI : Inductive sys ok pre post A B)
    (hact : ∀ {st x}, A st → okAct st x → A (act x st) ∧ ∀ t, B st t → B (act x st) t)
    {c : Conf S σ ρ} {es : List (Event R O ⊕ X)} (hc : Holds pre post A B c)
    (hok : sys.AlongAmid act ok okAct c es) : Holds pre post A B (sys.runAmid act c es) := by
  induction es generalizing c with
  | nil => exact hc
  | cons e es ih =>
    refine ih ?_ hok.2
    cases e with
    | inl e => exact hI.next hc hok.1
    | inr x =>
      obtain ⟨hA, hB⟩ := hact hc.state hok.1
      exact ⟨hA, fun t ht => hB t (hc.threads t ht), hc.contract⟩

end System

end Lib
