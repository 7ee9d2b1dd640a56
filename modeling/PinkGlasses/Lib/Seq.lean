import PinkGlasses.Lib.Conc

/-!
# PinkGlasses.Lib.Seq

A program **served alone**: its statements act on the state one after the other and nothing
happens in between. A statement fails only where the state refuses it.

`Runs` is the relation, with the calls the program made; `serve` evaluates it where the outside
world always answers the same. Whatever a contract (`Meets`) says about a program holds of it when
it is served alone.
-/

namespace Lib

namespace System

open Prog

variable {S : Type → Type} {σ O R ρ α β : Type} (sys : System S σ O R ρ)

/-- With the calls `h` behind it the program, served alone from `st`, can end in `st'` with the
calls `h'` and the result `a`. -/
def Runs : Hist S → σ → Prog S α → Hist S → σ → α → Prop
  | h, st, ret a, h', st', a' => h' = h ∧ st' = st ∧ a' = a
  | h, st, call s k, h', st', a' => ∃ o, match sys.exec s o st with
    | some (b, st₁) => Runs (⟨s, some b⟩ :: h) st₁ (k (some b)) h' st' a'
    | none => Runs (⟨s, none⟩ :: h) st (k none) h' st' a'

variable {sys} {h h' : Hist S} {st st' : σ}

theorem runs_call {s : S β} {k : Option β → Prog S α} {a : α} :
    sys.Runs h st (call s k) h' st' a ↔
      (∃ o b st₁, sys.exec s o st = some (b, st₁) ∧
        sys.Runs (⟨s, some b⟩ :: h) st₁ (k (some b)) h' st' a) ∨
      ∃ o, sys.exec s o st = none ∧ sys.Runs (⟨s, none⟩ :: h) st (k none) h' st' a := by
  rw [Runs]
  constructor
  · rintro ⟨o, hr⟩
    cases hexec : sys.exec s o st with
    | none => exact .inr ⟨o, hexec, by simpa only [hexec] using hr⟩
    | some r => exact .inl ⟨o, r.1, r.2, hexec, by simpa only [hexec] using hr⟩
  · rintro (⟨o, b, st₁, hexec, hr⟩ | ⟨o, hexec, hr⟩)
    · exact ⟨o, by simpa only [hexec] using hr⟩
    · exact ⟨o, by simpa only [hexec] using hr⟩

theorem Runs.of_bind {p : Prog S α} {f : α → Prog S β} {b : β}
    (hr : sys.Runs h st (p >>= f) h' st' b) :
    ∃ h₁ st₁ a, sys.Runs h st p h₁ st₁ a ∧ sys.Runs h₁ st₁ (f a) h' st' b := by
  induction p generalizing h st with
  | ret a => exact ⟨h, st, a, ⟨rfl, rfl, rfl⟩, hr⟩
  | call s k ih =>
    rcases runs_call.mp hr with ⟨o, c, st₁, hexec, hr⟩ | ⟨o, hexec, hr⟩
    · obtain ⟨h₁, st₂, a, hp, hf⟩ := ih _ hr
      exact ⟨h₁, st₂, a, runs_call.mpr (.inl ⟨o, c, st₁, hexec, hp⟩), hf⟩
    · obtain ⟨h₁, st₂, a, hp, hf⟩ := ih _ hr
      exact ⟨h₁, st₂, a, runs_call.mpr (.inr ⟨o, hexec, hp⟩), hf⟩

theorem Runs.of_issue {s : S α} {r : Option α} (hr : sys.Runs h st (issue s) h' st' r) :
    h' = ⟨s, r⟩ :: h ∧ ∃ o, (∃ b, r = some b ∧ sys.exec s o st = some (b, st')) ∨
      (r = none ∧ sys.exec s o st = none ∧ st' = st) := by
  rcases runs_call.mp hr with ⟨o, b, st₁, hexec, rfl, rfl, rfl⟩ | ⟨o, hexec, rfl, rfl, rfl⟩
  · exact ⟨rfl, o, .inl ⟨b, rfl, hexec⟩⟩
  · exact ⟨rfl, o, .inr ⟨rfl, hexec, rfl⟩⟩

/-- A program served alone only adds to its calls. -/
theorem Runs.suffix {p : Prog S α} {a : α} (hr : sys.Runs h st p h' st' a) : h <:+ h' := by
  induction p generalizing h st with
  | ret a₀ => exact hr.1 ▸ List.suffix_refl h
  | call s k ih =>
    rcases runs_call.mp hr with ⟨o, b, st₁, -, hr⟩ | ⟨o, -, hr⟩
    · exact (List.suffix_cons _ h).trans (ih _ hr)
    · exact (List.suffix_cons _ h).trans (ih _ hr)

/-! ### Contracts and frames -/

/-- What a contract promises holds of a program served alone. -/
theorem runs_meets {pre : Hist S → ∀ β : Type, S β → Prop} {post : Hist S → α → Prop}
    {p : Prog S α} {a : α} (hp : Meets pre h p post) (hr : sys.Runs h st p h' st' a) :
    post h' a := by
  induction p generalizing h st with
  | ret a₀ =>
    obtain ⟨rfl, -, rfl⟩ := hr
    exact hp
  | call s k ih =>
    rcases runs_call.mp hr with ⟨o, b, st₁, -, hr⟩ | ⟨o, -, hr⟩
    · exact ih _ (hp.2 _) hr
    · exact ih _ (hp.2 _) hr

/-- **The invariant rule** of a program served alone: what its calls and the state have at the
start, and every statement that its contract allows keeps, executed or refused, they have at the
end. -/
theorem runs_inv {pre : Hist S → ∀ β : Type, S β → Prop} {post : Hist S → α → Prop} {p : Prog S α}
    {a : α} (hp : Meets pre h p post) (hr : sys.Runs h st p h' st' a) (A : Hist S → σ → Prop)
    (hA : A h st)
    (hstep : ∀ {h st β} {s : S β} {o b st'}, A h st → pre h β s →
      sys.exec s o st = some (b, st') → A (⟨s, some b⟩ :: h) st')
    (hfail : ∀ {h st β} {s : S β} {o}, A h st → pre h β s → sys.exec s o st = none →
      A (⟨s, none⟩ :: h) st) : A h' st' := by
  induction p generalizing h st with
  | ret a₀ =>
    obtain ⟨rfl, rfl, -⟩ := hr
    exact hA
  | call s k ih =>
    rcases runs_call.mp hr with ⟨o, b, st₁, hexec, hr⟩ | ⟨o, hexec, hr⟩
    · exact ih _ (hp.2 _) hr (hstep hA hp.1 hexec)
    · exact ih _ (hp.2 _) hr (hfail hA hp.1 hexec)

/-- **The frame rule**: a relation between states that is reflexive and transitive, and holds across
each statement the program uses, holds across the program. -/
theorem runs_uses {P : ∀ β : Type, S β → Prop} {p : Prog S α} {a : α} (hp : Uses P p)
    (hr : sys.Runs h st p h' st' a) (K : σ → σ → Prop) (hrefl : ∀ st, K st st)
    (htrans : ∀ {a b c}, K a b → K b c → K a c)
    (hstep : ∀ {β} {s : S β} {o st b st'}, P β s → sys.exec s o st = some (b, st') → K st st') :
    K st st' := by
  exact runs_inv (hp.keeps fun _ _ _ hs => hs) hr (fun _ st' => K st st') (hrefl st)
    (fun hA hs hexec => htrans hA (hstep hs hexec)) fun hA _ _ => hA

/-! ### Evaluation -/

variable (sys)

/-- The program served alone, with the same answer of the outside world to every statement. -/
def serve (o : O) : Hist S → σ → Prog S α → Hist S × σ × α
  | h, st, ret a => (h, st, a)
  | h, st, call s k => match sys.exec s o st with
    | some (b, st₁) => serve o (⟨s, some b⟩ :: h) st₁ (k (some b))
    | none => serve o (⟨s, none⟩ :: h) st (k none)

theorem runs_serve (o : O) (h : Hist S) (st : σ) (p : Prog S α) :
    sys.Runs h st p (sys.serve o h st p).1 (sys.serve o h st p).2.1 (sys.serve o h st p).2.2 := by
  induction p generalizing h st with
  | ret a => exact ⟨rfl, rfl, rfl⟩
  | call s k ih =>
    unfold serve
    cases hexec : sys.exec s o st with
    | none => exact runs_call.mpr (.inr ⟨o, hexec, ih _ _ _⟩)
    | some r => exact runs_call.mpr (.inl ⟨o, r.1, r.2, hexec, ih _ _ _⟩)

theorem runs_of_serve {o : O} {h : Hist S} {st : σ} {p : Prog S α} {a : α}
    (ha : (sys.serve o h st p).2.2 = a) :
    sys.Runs h st p (sys.serve o h st p).1 (sys.serve o h st p).2.1 a :=
  ha ▸ runs_serve sys o h st p

section Serve

variable {sys} {o : O}

theorem serve_call_some {s : S β} {k : Option β → Prog S α} {b : β} {st₁ : σ}
    (hexec : sys.exec s o st = some (b, st₁)) :
    sys.serve o h st (call s k) = sys.serve o (⟨s, some b⟩ :: h) st₁ (k (some b)) := by
  rw [serve, hexec]

theorem serve_call_none {s : S β} {k : Option β → Prog S α} (hexec : sys.exec s o st = none) :
    sys.serve o h st (call s k) = sys.serve o (⟨s, none⟩ :: h) st (k none) := by
  rw [serve, hexec]

theorem serve_bind {p : Prog S α} {f : α → Prog S β} :
    sys.serve o h st (p >>= f) =
      sys.serve o (sys.serve o h st p).1 (sys.serve o h st p).2.1 (f (sys.serve o h st p).2.2) := by
  induction p generalizing h st with
  | ret a => rfl
  | call s k ih =>
    rw [call_bind]
    cases hexec : sys.exec s o st with
    | none => rw [serve_call_none hexec, serve_call_none hexec, ih]
    | some r => rw [serve_call_some hexec, serve_call_some hexec, ih]

/-- What was called before does not matter. -/
theorem serve_hist (p : Prog S α) :
    sys.serve o h st p = ((sys.serve o [] st p).1 ++ h, (sys.serve o [] st p).2) := by
  induction p generalizing h st with
  | ret a => rfl
  | call s k ih =>
    cases hexec : sys.exec s o st with
    | none =>
      rw [serve_call_none hexec, serve_call_none hexec, ih, ih _ (h := [_])]
      simp
    | some r =>
      rw [serve_call_some hexec, serve_call_some hexec, ih, ih _ (h := [_])]
      simp

/-- A program without calls has returned. -/
theorem serve_calls_eq_nil {p : Prog S α} : (sys.serve o [] st p).1 = [] ↔ p.finished = true := by
  cases p with
  | ret a => exact ⟨fun _ => rfl, fun _ => rfl⟩
  | call s k =>
    refine ⟨fun hnil => ?_, nofun⟩
    cases hexec : sys.exec s o st with
    | none => rw [serve_call_none hexec, serve_hist] at hnil; simp at hnil
    | some r => rw [serve_call_some hexec, serve_hist] at hnil; simp at hnil

end Serve

/-! ### Functions that can fail -/

section Judged

variable {ε γ : Type} {sys} {o : O} {x : ExceptT ε (Prog S) α} {f : α → ExceptT ε (Prog S) γ}

/-- The first part returns: the second follows. -/
theorem serve_bind_ok {a : α} (hr : (sys.serve o [] st x.run).2.2 = .ok a) :
    sys.serve o [] st (x >>= f).run =
      ((sys.serve o [] (sys.serve o [] st x.run).2.1 (f a).run).1 ++ (sys.serve o [] st x.run).1,
        (sys.serve o [] (sys.serve o [] st x.run).2.1 (f a).run).2) := by
  have hrun : (x >>= f).run = (x.run >>= ExceptT.bindCont f) := rfl
  rw [hrun, serve_bind, hr, serve_hist]
  rfl

/-- The error of the first part is that of the whole. -/
theorem serve_bind_error {e : ε} (hr : (sys.serve o [] st x.run).2.2 = .error e) :
    sys.serve o [] st (x >>= f).run =
      ((sys.serve o [] st x.run).1, (sys.serve o [] st x.run).2.1, .error e) := by
  have hrun : (x >>= f).run = (x.run >>= ExceptT.bindCont f) := rfl
  rw [hrun, serve_bind, hr]
  rfl

/-- The state a program served alone leaves, and what it returns. -/
def outcome (sys : System S σ O R ρ) (o : O) (st : σ) (p : Prog S α) : σ × α :=
  (sys.serve o [] st p).2

@[simp] theorem outcome_pure {a : α} :
    sys.outcome o st (pure a : ExceptT ε (Prog S) α).run = (st, .ok a) := rfl

theorem outcome_one {s : S β} {g : Option β → α} :
    sys.outcome o st (call s fun r => ret (g r)) = match sys.exec s o st with
      | some (b, st₁) => (st₁, g (some b))
      | none => (st, g none) := by
  unfold outcome
  cases hexec : sys.exec s o st with
  | none => exact congrArg Prod.snd (serve_call_none hexec)
  | some r => exact congrArg Prod.snd (serve_call_some hexec)

theorem outcome_query {e : ε} {s : S α} :
    sys.outcome o st (query e s).run = match sys.exec s o st with
      | some (b, st₁) => (st₁, .ok b)
      | none => (st, .error e) := outcome_one

theorem outcome_attempt {s : S α} :
    sys.outcome o st (attempt s : ExceptT ε (Prog S) _).run = match sys.exec s o st with
      | some (b, st₁) => (st₁, .ok (some b))
      | none => (st, .ok none) := outcome_one

theorem outcome_bind :
    sys.outcome o st (x >>= f).run = match sys.outcome o st x.run with
      | (st₁, .ok a) => sys.outcome o st₁ (f a).run
      | (st₁, .error e) => (st₁, .error e) := by
  unfold outcome
  rcases hx : sys.serve o [] st x.run with ⟨h₁, st₁, r⟩
  cases r with
  | ok a => rw [serve_bind_ok (a := a) (by rw [hx]), hx]
  | error e => rw [serve_bind_error (e := e) (by rw [hx]), hx]

/-- **The states that statements meeting `P` lead to**, each executed where the one before left. -/
inductive Steps (sys : System S σ O R ρ) (o : O) (P : ∀ β : Type, S β → Prop) (st : σ) : σ → Prop
  | refl : Steps sys o P st st
  | tail {st₁ st₂ : σ} {β : Type} {s : S β} {b : β} (h : Steps sys o P st st₁) (hs : P β s)
      (hexec : sys.exec s o st₁ = some (b, st₂)) : Steps sys o P st st₂

theorem Steps.trans {P : ∀ β : Type, S β → Prop} {st st₁ st₂ : σ} (h : sys.Steps o P st st₁)
    (h' : sys.Steps o P st₁ st₂) : sys.Steps o P st st₂ := by
  induction h' with
  | refl => exact h
  | tail _ hs hexec ih => exact ih.tail hs hexec

/-- What every such statement keeps, all of them together keep. -/
theorem Steps.keeps {P : ∀ β : Type, S β → Prop} {J : σ → Prop} {st st' : σ}
    (h : sys.Steps o P st st') (hJ : J st)
    (hstep : ∀ {β : Type} {s : S β} {b st₁ st₂}, J st₁ → P β s → sys.exec s o st₁ = some (b, st₂) →
      J st₂) : J st' := by
  induction h with
  | refl => exact hJ
  | tail _ hs hexec ih => exact hstep ih hs hexec

/-- **What becomes of a function served alone**: it `goes` on (returns no error) or not, its calls
are all executed (`clean`) or not; `K` holds across it, and `Q` of what it returns. -/
structure Judged (K : σ → σ → Prop) (o : O) (sys : System S σ O R ρ) (st : σ)
    (x : ExceptT ε (Prog S) α) (goes clean : Bool) (Q : α → σ → Prop) : Prop where
  /-- Errors come from calls. -/
  sound : clean = true → goes = true
  frame : K st (sys.serve o [] st x.run).2.1
  ok : ∀ a, (sys.serve o [] st x.run).2.2 = .ok a → goes = true ∧ Q a (sys.serve o [] st x.run).2.1
  error : ∀ e, (sys.serve o [] st x.run).2.2 = .error e → goes = false
  calls : (∀ c ∈ (sys.serve o [] st x.run).1, c.answer.isSome = true) ↔ clean = true

variable {K : σ → σ → Prop} {Q : α → σ → Prop}
  {goes goes' clean clean' : Bool}

theorem Judged.imp {Q' : α → σ → Prop} (hx : Judged K o sys st x goes clean Q)
    (himp : ∀ a st', K st st' → Q a st' → Q' a st') : Judged K o sys st x goes clean Q' :=
  ⟨hx.sound, hx.frame, fun a ha => (hx.ok a ha).imp_right (himp a _ hx.frame), hx.error, hx.calls⟩

/-- What becomes of a function whose error is turned into a value. -/
theorem Judged.handled {y : ExceptT ε (Prog S) γ} (f : Except ε α → γ)
    (hx : Judged K o sys st x goes clean Q)
    (hy : y.run = (x.run >>= fun r => ret (.ok (f r)))) :
    Judged K o sys st y true clean fun _ _ => True := by
  have hserve : sys.serve o [] st y.run = ((sys.serve o [] st x.run).1,
      (sys.serve o [] st x.run).2.1, .ok (f (sys.serve o [] st x.run).2.2)) := hy ▸ serve_bind
  refine ⟨fun _ => rfl, ?_, fun _ _ => ⟨rfl, trivial⟩, ?_, ?_⟩ <;> rw [hserve]
  · exact hx.frame
  · exact nofun
  · exact hx.calls

section Rules

variable (hrefl : ∀ st, K st st) (htrans : ∀ {a b c}, K a b → K b c → K a c)

include hrefl in
theorem judged_pure {a : α} (hQ : Q a st) :
    Judged K o sys st (pure a : ExceptT ε (Prog S) α) true true Q where
  sound _ := rfl
  frame := hrefl st
  ok a' ha' := by
    cases ha'
    exact ⟨rfl, hQ⟩
  error e he := by cases he
  calls := ⟨fun _ => rfl, nofun⟩

include hrefl in
/-- One statement that is executed or not, as `accepted` says. -/
theorem judged_query {e : ε} {s : S α} {accepted : Bool}
    (hsome : accepted = true → ∃ b st', sys.exec s o st = some (b, st') ∧ K st st' ∧ Q b st')
    (hnone : accepted = false → sys.exec s o st = none) :
    Judged K o sys st (query e s) accepted accepted Q := by
  cases accepted with
  | true =>
    obtain ⟨b, st', hexec, hK, hQ⟩ := hsome rfl
    have hserve : sys.serve o [] st (query e s).run = ([⟨s, some b⟩], st', .ok b) :=
      serve_call_some hexec
    refine ⟨fun _ => rfl, ?_, ?_, ?_, ?_⟩ <;> rw [hserve]
    · exact hK
    · rintro a ha
      cases ha
      exact ⟨rfl, hQ⟩
    · exact nofun
    · simp
  | false =>
    have hserve : sys.serve o [] st (query e s).run = ([⟨s, none⟩], st, .error e) :=
      serve_call_none (hnone rfl)
    refine ⟨nofun, ?_, ?_, ?_, ?_⟩ <;> rw [hserve]
    · exact hrefl st
    · exact nofun
    · exact fun _ _ => rfl
    · simp

include htrans in
theorem Judged.bind {Q' : γ → σ → Prop} (hx : Judged K o sys st x goes clean Q)
    (hf : ∀ a st', K st st' → Q a st' → Judged K o sys st' (f a) goes' clean' Q') :
    Judged K o sys st (x >>= f) (goes && goes') (clean && clean') Q' := by
  cases hr : (sys.serve o [] st x.run).2.2 with
  | ok a =>
    obtain ⟨rfl, hQ⟩ := hx.ok a hr
    -- `f` goes on from where `x` left the store
    have hnext := hf a _ hx.frame hQ
    have hserve := serve_bind_ok (f := f) hr
    refine ⟨fun hc => ?_, ?_, ?_, ?_, ?_⟩
    · rw [Bool.and_eq_true] at hc
      exact hnext.sound hc.2
    · rw [hserve]
      exact htrans hx.frame hnext.frame
    · rw [hserve]
      exact hnext.ok
    · rw [hserve]
      exact hnext.error
    · rw [hserve, Bool.and_eq_true, ← hx.calls, ← hnext.calls]
      simp only [List.mem_append, or_imp, forall_and]
      exact and_comm
  | error e =>
    have hgoes := hx.error e hr
    -- a program that fails was not clean
    have hclean : clean = false := by
      by_contra hc
      rw [hx.sound (Bool.not_eq_false _ ▸ hc)] at hgoes
      cases hgoes
    subst hgoes hclean
    have hserve := serve_bind_error (f := f) hr
    refine ⟨nofun, ?_, ?_, fun _ _ => rfl, ?_⟩
    · rw [hserve]
      exact hx.frame
    · rw [hserve]
      exact nofun
    · rw [hserve]
      exact hx.calls

end Rules

end Judged

/-! ### Functions that return -/

section Ensures

variable {ε : Type}

/-- **Total correctness** of a function served alone: it returns, and `Q` holds of what it returns
and of the state it leaves. -/
def Ensures (st : σ) (o : O) (x : ExceptT ε (Prog S) α) (Q : α → σ → Prop) : Prop :=
  ∃ a, (sys.serve o [] st x.run).2.2 = .ok a ∧ Q a (sys.serve o [] st x.run).2.1

variable {sys} {o : O} {x : ExceptT ε (Prog S) α} {Q : α → σ → Prop}

theorem ensures_of_outcome {a : α} (hx : sys.outcome o st x.run = (st', .ok a)) (hQ : Q a st') :
    sys.Ensures st o x Q := by
  have hstate : (sys.serve o [] st x.run).2.1 = st' := congrArg Prod.fst hx
  exact ⟨a, congrArg Prod.snd hx, hstate ▸ hQ⟩

theorem Ensures.imp {Q' : α → σ → Prop} (hx : sys.Ensures st o x Q)
    (himp : ∀ a st', Q a st' → Q' a st') : sys.Ensures st o x Q' := by
  obtain ⟨a, hr, hQ⟩ := hx
  exact ⟨a, hr, himp a _ hQ⟩

end Ensures

end System

end Lib
