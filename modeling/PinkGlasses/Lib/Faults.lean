import Mathlib.Order.Defs.Unbundled
import PinkGlasses.Lib.Seq

/-!
# PinkGlasses.Lib.Faults

A program served alone on a state whose statements **can fail at any point**: besides being refused
by the state, a statement can fail for a reason of its own (a connection that is lost) and then has
no effect.

`MayEnd` says where a program can end under all such outcomes, and `History` where a list of
requests served one after the other can. Both come with the rules that take a program apart.

`AllEnds` is what then holds at every end, a weakest precondition: its rules are equivalences, so
that **the exact condition under which a program keeps a promise whatever fails** can be computed
from its text.
-/

namespace Lib

namespace System

open Prog

variable {S : Type → Type} {σ O R ρ α β γ ε : Type} (sys : System S σ O R ρ)

/-- Served alone from `st` the program can end in `st'` with the result `a`, each of its statements
being executed or failing. -/
def MayEnd : σ → Prog S α → σ → α → Prop
  | st, ret a, st', a' => st' = st ∧ a' = a
  | st, call s k, st', a' =>
    (∃ o b st₁, sys.exec s o st = some (b, st₁) ∧ MayEnd st₁ (k (some b)) st' a') ∨
      MayEnd st (k none) st' a'

variable {sys} {st st' : σ}

@[simp] theorem mayEnd_ret {a a' : α} :
    sys.MayEnd st (ret a) st' a' ↔ st' = st ∧ a' = a := Iff.rfl

theorem mayEnd_bind {p : Prog S α} {f : α → Prog S β} {b : β} :
    sys.MayEnd st (p >>= f) st' b ↔
      ∃ st₁ a, sys.MayEnd st p st₁ a ∧ sys.MayEnd st₁ (f a) st' b := by
  induction p generalizing st with
  | ret a =>
    constructor
    · exact fun hf => ⟨st, a, ⟨rfl, rfl⟩, hf⟩
    · rintro ⟨_, _, ⟨rfl, rfl⟩, hf⟩
      exact hf
  | call s k ih =>
    rw [call_bind]
    constructor
    · rintro (⟨o, c, st₁, hexec, hr⟩ | hr)
      · obtain ⟨st₂, a, hp, hf⟩ := (ih _).mp hr
        exact ⟨st₂, a, .inl ⟨o, c, st₁, hexec, hp⟩, hf⟩
      · obtain ⟨st₂, a, hp, hf⟩ := (ih _).mp hr
        exact ⟨st₂, a, .inr hp, hf⟩
    · rintro ⟨st₂, a, ⟨o, c, st₁, hexec, hp⟩ | hp, hf⟩
      · exact .inl ⟨o, c, st₁, hexec, (ih _).mpr ⟨st₂, a, hp, hf⟩⟩
      · exact .inr ((ih _).mpr ⟨st₂, a, hp, hf⟩)

/-- One statement, and a result that depends on how it went. -/
theorem mayEnd_one {s : S β} {g : Option β → α} {a : α} :
    sys.MayEnd st (call s fun r => ret (g r)) st' a ↔
      (∃ o b, sys.exec s o st = some (b, st') ∧ a = g (some b)) ∨ (st' = st ∧ a = g none) := by
  constructor
  · rintro (⟨o, b, st₁, hexec, rfl, rfl⟩ | ⟨rfl, rfl⟩)
    · exact .inl ⟨o, b, hexec, rfl⟩
    · exact .inr ⟨rfl, rfl⟩
  · rintro (⟨o, b, hexec, rfl⟩ | ⟨rfl, rfl⟩)
    · exact .inl ⟨o, b, st', hexec, rfl, rfl⟩
    · exact .inr ⟨rfl, rfl⟩

/-! ### Functions that can fail -/

section Except

variable {x : ExceptT ε (Prog S) α} {f : α → ExceptT ε (Prog S) γ} {r : Except ε α}

theorem mayEnd_query {e : ε} {s : S α} :
    sys.MayEnd st (query e s).run st' r ↔
      (∃ o b, sys.exec s o st = some (b, st') ∧ r = .ok b) ∨ (st' = st ∧ r = .error e) :=
  mayEnd_one

/-- Sequencing: the first part returns and the second follows, or its error is that of the whole. -/
theorem mayEnd_bind_except {r : Except ε γ} :
    sys.MayEnd st (x >>= f).run st' r ↔
      (∃ st₁ a, sys.MayEnd st x.run st₁ (.ok a) ∧ sys.MayEnd st₁ (f a).run st' r) ∨
      ∃ e, sys.MayEnd st x.run st' (.error e) ∧ r = .error e := by
  have hrun : (x >>= f).run = (x.run >>= ExceptT.bindCont f) := rfl
  rw [hrun, mayEnd_bind]
  constructor
  · rintro ⟨st₁, a | a, hx, hf⟩
    · obtain ⟨rfl, rfl⟩ := hf
      exact .inr ⟨a, hx, rfl⟩
    · exact .inl ⟨st₁, a, hx, hf⟩
  · rintro (⟨st₁, a, hx, hf⟩ | ⟨e, hx, rfl⟩)
    · exact ⟨st₁, .ok a, hx, hf⟩
    · exact ⟨st', .error e, hx, rfl, rfl⟩

end Except

/-! ### At every end -/

section AllEnds

variable (sys)

/-- Wherever the program can end, `Q` holds of the state and the result. -/
def AllEnds (st : σ) (p : Prog S α) (Q : σ → α → Prop) : Prop :=
  ∀ st' a, sys.MayEnd st p st' a → Q st' a

variable {sys} {x : ExceptT ε (Prog S) α} {f : α → ExceptT ε (Prog S) γ}

theorem allEnds_congr {p : Prog S α} {Q Q' : σ → α → Prop} (h : ∀ st' a, Q st' a ↔ Q' st' a) :
    sys.AllEnds st p Q ↔ sys.AllEnds st p Q' :=
  forall_congr' fun st' => forall_congr' fun a => imp_congr_right fun _ => h st' a

theorem AllEnds.mono {p : Prog S α} {Q Q' : σ → α → Prop} (h : sys.AllEnds st p Q)
    (himp : ∀ st' a, Q st' a → Q' st' a) : sys.AllEnds st p Q' :=
  fun st' a hend => himp st' a (h st' a hend)

variable {Q : σ → Except ε α → Prop}

@[simp] theorem allEnds_pure {a : α} :
    sys.AllEnds st (pure a : ExceptT ε (Prog S) α).run Q ↔ Q st (.ok a) := by
  constructor
  · exact fun h => h st (.ok a) ⟨rfl, rfl⟩
  · rintro h st' r ⟨rfl, rfl⟩
    exact h

@[simp] theorem allEnds_throw {e : ε} :
    sys.AllEnds st (throw e : ExceptT ε (Prog S) α).run Q ↔ Q st (.error e) := by
  constructor
  · exact fun h => h st (.error e) ⟨rfl, rfl⟩
  · rintro h st' r ⟨rfl, rfl⟩
    exact h

/-- The statement fails, or is executed. -/
theorem allEnds_one {s : S β} {g : Option β → α} {Q : σ → α → Prop} :
    sys.AllEnds st (call s fun r => ret (g r)) Q ↔
      Q st (g none) ∧ ∀ o b st₁, sys.exec s o st = some (b, st₁) → Q st₁ (g (some b)) := by
  constructor
  · intro h
    exact ⟨h _ _ (mayEnd_one.mpr (.inr ⟨rfl, rfl⟩)),
      fun o b st₁ hexec => h _ _ (mayEnd_one.mpr (.inl ⟨o, b, hexec, rfl⟩))⟩
  · rintro ⟨herr, hok⟩ st' a hend
    rcases mayEnd_one.mp hend with ⟨o, b, hexec, rfl⟩ | ⟨rfl, rfl⟩
    · exact hok o b st' hexec
    · exact herr

theorem allEnds_query {e : ε} {s : S α} :
    sys.AllEnds st (query e s).run Q ↔
      Q st (.error e) ∧ ∀ o b st₁, sys.exec s o st = some (b, st₁) → Q st₁ (.ok b) :=
  allEnds_one

theorem allEnds_attempt {s : S α} {Q : σ → Except ε (Option α) → Prop} :
    sys.AllEnds st (attempt s : ExceptT ε (Prog S) _).run Q ↔
      Q st (.ok none) ∧ ∀ o b st₁, sys.exec s o st = some (b, st₁) → Q st₁ (.ok (some b)) :=
  allEnds_one

theorem allEnds_bind {Q : σ → Except ε γ → Prop} :
    sys.AllEnds st (x >>= f).run Q ↔ sys.AllEnds st x.run fun st₁ r => match r with
      | .ok a => sys.AllEnds st₁ (f a).run Q
      | .error e => Q st₁ (.error e) := by
  constructor
  · intro h st₁ r hx
    cases r with
    | ok a => exact fun st' r hf => h st' r (mayEnd_bind_except.mpr (.inl ⟨st₁, a, hx, hf⟩))
    | error e => exact h st₁ _ (mayEnd_bind_except.mpr (.inr ⟨e, hx, rfl⟩))
  · intro h st' r hend
    rcases mayEnd_bind_except.mp hend with ⟨st₁, a, hx, hf⟩ | ⟨e, hx, rfl⟩
    · exact h st₁ _ hx st' r hf
    · exact h st' _ hx

theorem allEnds_assoc {g : γ → ExceptT ε (Prog S) β} {Q : σ → Except ε β → Prop} :
    sys.AllEnds st ((x >>= f) >>= g).run Q ↔ sys.AllEnds st (x >>= fun a => f a >>= g).run Q := by
  rw [allEnds_bind, allEnds_bind, allEnds_bind]
  refine allEnds_congr fun st' r => ?_
  cases r with
  | ok a => exact allEnds_bind.symm
  | error e => exact Iff.rfl

end AllEnds

/-! ### What a handler leads to -/

section Leads

variable (sys) in
/-- However the handler ends, `K` leads to the state, and `Q` holds of what it answers there. -/
def Leads (K : σ → σ → Prop) (st : σ) (x : ExceptT ε (Prog S) α) (Q : σ → α → Prop) : Prop :=
  sys.AllEnds st x.run fun st' r => K st st' ∧ ∀ a, r = .ok a → Q st' a

variable {K : σ → σ → Prop} [IsPreorder σ K] {x : ExceptT ε (Prog S) α}
  {f : α → ExceptT ε (Prog S) γ} {Q : σ → α → Prop} {e : ε} {s : S α} {a : α}

theorem Leads.pure (h : Q st a) : sys.Leads K st (Pure.pure a : ExceptT ε (Prog S) α) Q :=
  allEnds_pure.mpr ⟨refl_of K st, fun _ ha => Except.ok.inj ha ▸ h⟩

theorem Leads.throw : sys.Leads K st (MonadExcept.throw e : ExceptT ε (Prog S) α) Q :=
  allEnds_throw.mpr ⟨refl_of K st, nofun⟩

theorem Leads.query (hs : ∀ {o b st'}, sys.exec s o st = some (b, st') → K st st' ∧ Q st' b) :
    sys.Leads K st (Prog.query e s) Q := by
  refine allEnds_query.mpr ⟨⟨refl_of K st, nofun⟩,
    fun o b st' hexec => ⟨(hs hexec).1, fun a ha => ?_⟩⟩
  cases ha
  exact (hs hexec).2

theorem Leads.bind {R : σ → γ → Prop} (hx : sys.Leads K st x Q)
    (hf : ∀ {st₁ a}, K st st₁ → Q st₁ a → sys.Leads K st₁ (f a) R) :
    sys.Leads K st (x >>= f) R := by
  refine allEnds_bind.mpr fun st₁ r hend => ?_
  obtain ⟨hK, hQ⟩ := hx st₁ r hend
  cases r with
  | ok a => exact (hf hK (hQ a rfl)).mono fun st' r h => ⟨trans_of K hK h.1, h.2⟩
  | error e => exact ⟨hK, nofun⟩

end Leads

/-! ### Contracts and frames -/

/-- **The invariant rule**: what its calls and the state have at the start, and every statement that
its contract allows keeps, executed or failed, they have at the end. -/
theorem MayEnd.inv {pre : Hist S → ∀ β : Type, S β → Prop} {post : Hist S → α → Prop} {p : Prog S α}
    {a : α} {h : Hist S} (hp : Meets pre h p post) (hr : sys.MayEnd st p st' a)
    (A : Hist S → σ → Prop) (hA : A h st)
    (hstep : ∀ {h st β} {s : S β} {o b st'}, A h st → pre h β s →
      sys.exec s o st = some (b, st') → A (⟨s, some b⟩ :: h) st')
    (hfail : ∀ {h st β} {s : S β}, A h st → pre h β s → A (⟨s, none⟩ :: h) st) :
    ∃ h', A h' st' ∧ post h' a := by
  induction p generalizing h st with
  | ret a₀ =>
    obtain ⟨rfl, rfl⟩ := hr
    exact ⟨h, hA, hp⟩
  | call s k ih =>
    rcases hr with ⟨o, b, st₁, hexec, hr⟩ | hr
    · exact ih _ (hp.2 _) hr (hstep hA hp.1 hexec)
    · exact ih _ (hp.2 _) hr (hfail hA hp.1)

/-- **The frame rule**: a reflexive and transitive relation that holds across each statement the
program uses holds across the program. -/
theorem MayEnd.uses {P : ∀ β : Type, S β → Prop} {p : Prog S α} {a : α} (hp : Uses P p)
    (hr : sys.MayEnd st p st' a) (K : σ → σ → Prop) (hrefl : ∀ st, K st st)
    (htrans : ∀ {a b c}, K a b → K b c → K a c)
    (hstep : ∀ {β} {s : S β} {o st b st'}, P β s → sys.exec s o st = some (b, st') → K st st') :
    K st st' := by
  have hmeets : Meets (fun _ => P) [] p fun _ _ => True :=
    hp.meets trivial (fun _ _ _ => trivial) fun _ _ _ _ hs => hs
  obtain ⟨-, hK, -⟩ := hr.inv hmeets (fun _ st' => K st st') (hrefl st)
    (fun hA hs hexec => htrans hA (hstep hs hexec)) fun hA _ => hA
  exact hK

/-- Nothing need fail. -/
theorem mayEnd_serve (sys : System S σ O R ρ) (o : O) (h : Hist S) (st : σ) (p : Prog S α) :
    sys.MayEnd st p (sys.serve o h st p).2.1 (sys.serve o h st p).2.2 := by
  induction p generalizing h st with
  | ret a => exact ⟨rfl, rfl⟩
  | call s k ih =>
    cases hexec : sys.exec s o st with
    | none =>
      rw [serve_call_none hexec]
      exact .inr (ih _ _ _)
    | some r =>
      rw [serve_call_some hexec]
      exact .inl ⟨o, r.1, r.2, hexec, ih _ _ _⟩

/-! ### One request after the other -/

variable (sys)

/-- **The requests served so far**, newest first, each with the state it left, and the state now.
Every request was served where `ok` allowed it. -/
inductive History (ok : σ → R → Prop) (st₀ : σ) : List (R × σ) → σ → Prop
  | start : History ok st₀ [] st₀
  | serve {past : List (R × σ)} {st st' : σ} {r : R} {a : ρ} (hist : History ok st₀ past st)
      (hok : ok st r) (hend : sys.MayEnd st (sys.prog r) st' a) :
      History ok st₀ ((r, st') :: past) st'

variable {sys}

/-- What holds at the start, and every request that `ok` allows keeps, holds after each. -/
theorem History.keeps {ok : σ → R → Prop} {st₀ : σ} {past : List (R × σ)} (J : σ → Prop)
    (hist : sys.History ok st₀ past st) (hJ : J st₀)
    (hstep : ∀ {st r st' a}, J st → ok st r → sys.MayEnd st (sys.prog r) st' a → J st') : J st := by
  induction hist with
  | start => exact hJ
  | serve _ hok hend ih => exact hstep ih hok hend

end System

end Lib
