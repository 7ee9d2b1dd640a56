import Mathlib.Logic.Basic
import Mathlib.Tactic.GCongr.CoreAttrs

/-!
# PinkGlasses.Lib.Prog

Sequential programs whose only effects are **atomic statements** of some signature, and
contracts for them.

A program is a tree: it returns, or it issues one statement and goes on with the answer.
`none` as an answer is a statement that failed and had no effect, so every error path of
the program is in the tree. How statements act on a state, and how several programs
interleave on it, is `PinkGlasses.Lib.Conc`; here a program is judged **by itself**, against
every sequence of answers it could get. `Meets pre h p post` says that a program `p` with the
history `h` behind it keeps its contract: each statement it issues satisfies `pre` of the
history so far, and whatever it returns satisfies `post`.
-/

namespace Lib

/-- A program over the statements `S`; a statement in `S β` answers with a `β`. -/
inductive Prog (S : Type → Type) (α : Type) : Type 1
  /-- The program is over and returns `a`. -/
  | ret (a : α)
  /-- Issue `s`, go on with its answer; `none` is a failed statement. -/
  | call {β : Type} (s : S β) (k : Option β → Prog S α)

/-- One statement a program issued, with the answer it got. -/
structure Call (S : Type → Type) where
  /-- The type of the answer. -/
  {β : Type}
  stmt : S β
  answer : Option β

/-- What a program has done so far, **newest call first**. -/
abbrev Hist (S : Type → Type) := List (Call S)

/-- The history shows that the statement was issued and answered so. -/
def Hist.Asked {S : Type → Type} {β : Type} (h : Hist S) (s : S β) (r : Option β) : Prop :=
  (⟨s, r⟩ : Call S) ∈ h

@[gcongr]
theorem Hist.Asked.imp {S : Type → Type} {β : Type} {h h' : Hist S} {s : S β} {r : Option β}
    (hsub : h ⊆ h') : h.Asked s r → h'.Asked s r := fun ha => hsub ha

theorem Hist.Asked.mono {S : Type → Type} {β : Type} {h h' : Hist S} {s : S β} {r : Option β}
    (ha : h.Asked s r) (hsub : h ⊆ h') : h'.Asked s r := hsub ha

theorem Hist.asked_head {S : Type → Type} {β : Type} (h : Hist S) (s : S β) (r : Option β) :
    Hist.Asked (⟨s, r⟩ :: h) s r := List.mem_cons_self

theorem Hist.Asked.of_nil {S : Type → Type} {β : Type} {s : S β} {r : Option β} {p : Prop}
    (ha : Hist.Asked [] s r) : p := absurd ha List.not_mem_nil

/-- A statement that failed has told nothing. -/
theorem Hist.Asked.of_failed {S : Type → Type} {β γ : Type} {h : Hist S} {s : S β}
    {s' : S γ} {a : γ}
    (ha : Hist.Asked (⟨s, none⟩ :: h) s' (some a)) : h.Asked s' (some a) := by
  rcases ha with _ | ⟨_, hold⟩
  exact hold

namespace Prog

variable {S : Type → Type} {α β γ ε : Type}

/-- Sequencing. -/
def bind : Prog S α → (α → Prog S β) → Prog S β
  | ret a, f => f a
  | call s k, f => call s fun r => (k r).bind f

instance : Monad (Prog S) where
  pure := ret
  bind := bind

@[simp] theorem pure_eq (a : α) : (pure a : Prog S α) = ret a := rfl

@[simp] theorem ret_bind (a : α) (f : α → Prog S β) : (ret a >>= f) = f a := rfl

@[simp] theorem call_bind {δ : Type} (s : S δ) (k : Option δ → Prog S α) (f : α → Prog S β) :
    (call s k >>= f) = call s fun r => k r >>= f := rfl

/-- Issue one statement and return its answer, failed or not. -/
def issue (s : S α) : Prog S (Option α) := call s ret

/-- Issue one statement; its failure is an error of the program. -/
def query (e : ε) (s : S α) : ExceptT ε (Prog S) α :=
  ExceptT.mk (call s fun r => ret (match r with | some a => .ok a | none => .error e))

/-- Issue one statement whose failure the program ignores. -/
def attempt (s : S α) : ExceptT ε (Prog S) (Option α) :=
  ExceptT.mk (call s fun r => ret (.ok r))

/-- Whether the program has returned. -/
def finished : Prog S α → Bool
  | ret _ => true
  | call _ _ => false

/-- What the program has returned, if it has. -/
def result : Prog S α → Option α
  | ret a => some a
  | call _ _ => none

/-- The next statement of the program satisfies `P`. -/
def Issues (P : ∀ β : Type, S β → Prop) : Prog S α → Prop
  | ret _ => False
  | call s _ => P _ s

instance (P : ∀ β : Type, S β → Prop) [∀ β s, Decidable (P β s)] :
    (p : Prog S α) → Decidable (p.Issues P)
  | ret _ => isFalse id
  | call s _ => inferInstanceAs (Decidable (P _ s))

/-! ### Contracts -/

/-- **The contract of a program.** -/
def Meets (pre : Hist S → ∀ β : Type, S β → Prop) :
    Hist S → Prog S α → (Hist S → α → Prop) → Prop
  | h, ret a, post => post h a
  | h, call s k, post => pre h _ s ∧ ∀ r, Meets pre (⟨s, r⟩ :: h) (k r) post

variable {pre Q : Hist S → ∀ β : Type, S β → Prop} {h : Hist S} {p : Prog S α}
  {post post' : Hist S → α → Prop}

@[simp] theorem meets_call {δ : Type} {s : S δ} {k : Option δ → Prog S α} :
    Meets pre h (call s k) post ↔ pre h _ s ∧ ∀ r, Meets pre (⟨s, r⟩ :: h) (k r) post := Iff.rfl

theorem meets_bind {f : α → Prog S β} {post : Hist S → β → Prop} :
    Meets pre h (p >>= f) post ↔ Meets pre h p fun h' a => Meets pre h' (f a) post := by
  induction p generalizing h with
  | ret a => exact Iff.rfl
  | call s k ih =>
    simp only [call_bind, meets_call]
    exact and_congr_right fun _ => forall_congr' fun r => ih r

theorem Meets.mono (hp : Meets pre h p post) (himp : ∀ h' a, post h' a → post' h' a) :
    Meets pre h p post' := by
  induction p generalizing h with
  | ret a => exact himp _ _ hp
  | call s k ih => exact ⟨hp.1, fun r => ih r (hp.2 r)⟩

/-- Every program keeps the contract that asks for nothing. -/
theorem meets_true (p : Prog S α) (h : Hist S) :
    Meets (fun _ _ _ => True) h p fun _ _ => True := by
  induction p generalizing h with
  | ret a => trivial
  | call s k ih => exact ⟨trivial, fun r => ih r _⟩

variable {K : Hist S → Prop}

/-- A program's history only grows: what holds of the history before it, and is kept by every
further call, holds when it returns. -/
theorem Meets.hist (hp : Meets pre h p post) (hK : K h) (hgrow : ∀ h' c, K h' → K (c :: h')) :
    Meets pre h p fun h' a => K h' ∧ post h' a := by
  induction p generalizing h with
  | ret a => exact ⟨hK, hp⟩
  | call s k ih => exact ⟨hp.1, fun r => ih r (hp.2 r) (hgrow _ _ hK)⟩

/-- The contract can be traded for another along an invariant of the history: whatever the first
allows, in a history with `K`, the second allows and `K` survives. -/
theorem Meets.trade (hp : Meets pre h p post) (hK : K h)
    (hstep : ∀ h β (s : S β), K h → pre h β s → Q h β s ∧ ∀ r, K (⟨s, r⟩ :: h)) :
    Meets Q h p fun h' a => K h' ∧ post h' a := by
  induction p generalizing h with
  | ret a => exact ⟨hK, hp⟩
  | call s k ih =>
    obtain ⟨hpre, hgrow⟩ := hstep h _ s hK hp.1
    exact ⟨hpre, fun r => ih r (hp.2 r) (hgrow r)⟩

/-- What keeps a contract keeps a weaker one. -/
theorem Meets.weaken (hp : Meets pre h p post) (hQ : ∀ h β (s : S β), pre h β s → Q h β s) :
    Meets Q h p post := by
  induction p generalizing h with
  | ret a => exact hp
  | call s k ih => exact ⟨hQ h _ s hp.1, fun r => ih r (hp.2 r)⟩

/-- A program that keeps two contracts keeps both. -/
theorem Meets.and (hp : Meets pre h p post) (hq : Meets Q h p post') :
    Meets (fun h β s => pre h β s ∧ Q h β s) h p fun h' a => post h' a ∧ post' h' a := by
  induction p generalizing h with
  | ret a => exact ⟨hp, hq⟩
  | call s k ih => exact ⟨⟨hp.1, hq.1⟩, fun r => ih r (hp.2 r) (hq.2 r)⟩

/-! ### Programs none of whose statements fail -/

/-- The contract of a program as long as its statements are answered. -/
def MeetsSound (pre : Hist S → ∀ β : Type, S β → Prop) :
    Hist S → Prog S α → (Hist S → α → Prop) → Prop
  | h, ret a, post => post h a
  | h, call s k, post => pre h _ s ∧ ∀ b, MeetsSound pre (⟨s, some b⟩ :: h) (k (some b)) post

theorem meetsSound_bind {f : α → Prog S β} {post : Hist S → β → Prop} :
    MeetsSound pre h (p >>= f) post ↔
      MeetsSound pre h p fun h' a => MeetsSound pre h' (f a) post := by
  induction p generalizing h with
  | ret a => exact Iff.rfl
  | call s k ih => exact and_congr_right fun _ => forall_congr' fun b => ih (some b)

theorem MeetsSound.mono (hp : MeetsSound pre h p post) (himp : ∀ h' a, post h' a → post' h' a) :
    MeetsSound pre h p post' := by
  induction p generalizing h with
  | ret a => exact himp _ _ hp
  | call s k ih => exact ⟨hp.1, fun b => ih (some b) (hp.2 b)⟩

/-- A contract that lapses with the first failure. -/
theorem MeetsSound.meets (hp : (∀ c ∈ h, c.answer.isSome = true) → MeetsSound pre h p post) :
    Meets (fun h β s => (∀ c ∈ h, c.answer.isSome = true) → pre h β s) h p fun _ _ => True := by
  induction p generalizing h with
  | ret a => trivial
  | call s k ih =>
    refine ⟨fun hs => (hp hs).1, fun r => ih r fun hs => ?_⟩
    cases r with
    | none => cases hs _ List.mem_cons_self
    | some b => exact (hp fun c hc => hs c (List.mem_cons_of_mem _ hc)).2 b

/-! ### Which statements a program issues -/

/-- The program issues only statements in `P`, whatever the answers. -/
def Uses (P : ∀ β : Type, S β → Prop) : Prog S α → Prop
  | ret _ => True
  | call s k => P _ s ∧ ∀ r, Uses P (k r)

variable {P : ∀ β : Type, S β → Prop}

theorem uses_issue {s : S α} (hs : P _ s) : Uses P (issue s) := ⟨hs, fun _ => trivial⟩

theorem Uses.bind {f : α → Prog S β} (hp : Uses P p) (hf : ∀ a, Uses P (f a)) :
    Uses P (p >>= f) := by
  induction p with
  | ret a => exact hf a
  | call s k ih => exact ⟨hp.1, fun r => ih r (hp.2 r)⟩

theorem Uses.mono {Q : ∀ β : Type, S β → Prop} (hp : Uses P p) (himp : ∀ β s, P β s → Q β s) :
    Uses Q p := by
  induction p with
  | ret a => trivial
  | call s k ih => exact ⟨himp _ s hp.1, fun r => ih r (hp.2 r)⟩

/-- A program keeps the contract if `K` holds of its history, survives the statements it issues,
and every history with `K` allows them. -/
theorem Uses.meets_of_step (hp : Uses P p) (hK : K h)
    (hgrow : ∀ h β (s : S β) r, K h → P β s → K (⟨s, r⟩ :: h))
    (hpre : ∀ h β s, K h → P β s → pre h β s) : Meets pre h p fun h' _ => K h' := by
  induction p generalizing h with
  | ret a => exact hK
  | call s k ih =>
    exact ⟨hpre h _ s hK hp.1, fun r => ih r (hp.2 r) (hgrow h _ s r hK hp.1)⟩

theorem Meets.uses (hp : Meets pre h p post) (hP : ∀ h β (s : S β), pre h β s → P β s) :
    Uses P p := by
  induction p generalizing h with
  | ret a => trivial
  | call s k ih => exact ⟨hP h _ s hp.1, fun r => ih r (hp.2 r)⟩

/-- A program that only uses what the contract always allows keeps it. -/
theorem Uses.keeps (hp : Uses P p) (hpre : ∀ h β (s : S β), P β s → pre h β s) :
    Meets pre h p fun _ _ => True := by
  induction p generalizing h with
  | ret a => trivial
  | call s k ih => exact ⟨hpre h _ s hp.1, fun r => ih r (hp.2 r)⟩

/-- The same for a `K` that no further call undoes. -/
theorem Uses.meets (hp : Uses P p) (hK : K h) (hgrow : ∀ h c, K h → K (c :: h))
    (hpre : ∀ h β s, K h → P β s → pre h β s) : Meets pre h p fun h' _ => K h' :=
  hp.meets_of_step hK (fun h _ _ _ hK _ => hgrow h _ hK) hpre

/-! ### Programs over another signature -/

section Embed

variable {S' : Type → Type} (f : ∀ β : Type, S β → S' β)

/-- The program with each statement replaced by one of another signature. -/
def embed : Prog S α → Prog S' α
  | ret a => ret a
  | call s k => call (f _ s) fun r => (k r).embed

variable {f}

theorem Uses.embed {Q : ∀ β : Type, S' β → Prop} (hp : Uses P p) (hf : ∀ β s, P β s → Q β (f β s)) :
    Uses Q (p.embed f) := by
  induction p with
  | ret a => trivial
  | call s k ih => exact ⟨hf _ s hp.1, fun r => ih r (hp.2 r)⟩

end Embed

/-- The program with each statement replaced by a program over another signature. -/
def expand {S' : Type → Type} (f : ∀ β : Type, S β → Prog S' (Option β)) : Prog S α → Prog S' α
  | ret a => ret a
  | call s k => (f _ s).bind fun r => (k r).expand f

section Except

theorem uses_query {e : ε} {s : S α} (hs : P _ s) : Uses P (query e s).run := ⟨hs, fun _ => trivial⟩

theorem uses_attempt {s : S α} (hs : P _ s) : Uses P (attempt s : ExceptT ε (Prog S) _).run :=
  ⟨hs, fun _ => trivial⟩

theorem Uses.bind_except {x : ExceptT ε (Prog S) α} {f : α → ExceptT ε (Prog S) β}
    (hx : Uses P x.run) (hf : ∀ a, Uses P (f a).run) :
    Uses P (x >>= f : ExceptT ε (Prog S) β).run := by
  refine Uses.bind hx fun r => ?_
  cases r with
  | ok a => exact hf a
  | error e => trivial

variable {x : ExceptT ε (Prog S) α} {f : α → ExceptT ε (Prog S) β}
  {post : Hist S → Except ε β → Prop}

/-- Sequencing of programs that can fail: an error of the first part is the error of the whole. -/
theorem meets_bind_except : Meets pre h (x >>= f : ExceptT ε (Prog S) β).run post ↔
    Meets pre h x.run fun h' r => match r with
      | .ok a => Meets pre h' (f a).run post
      | .error e => post h' (.error e) := by
  have hrun : (x >>= f : ExceptT ε (Prog S) β).run = (x.run >>= ExceptT.bindCont f) := rfl
  rw [hrun, meets_bind]
  constructor <;> intro hm <;> refine hm.mono fun h' r hr => ?_ <;> cases r <;> exact hr

@[simp] theorem meets_query {e : ε} {s : S α} {post : Hist S → Except ε α → Prop} :
    Meets pre h (query e s).run post ↔ pre h _ s ∧
      (∀ a, post (⟨s, some a⟩ :: h) (.ok a)) ∧ post (⟨s, none⟩ :: h) (.error e) := by
  constructor
  · rintro ⟨hpre, hk⟩
    exact ⟨hpre, fun a => hk (some a), hk none⟩
  · rintro ⟨hpre, hok, herr⟩
    refine ⟨hpre, fun r => ?_⟩
    cases r with
    | none => exact herr
    | some a => exact hok a

@[simp] theorem meets_attempt {s : S α} {post : Hist S → Except ε (Option α) → Prop} :
    Meets pre h (attempt s).run post ↔ pre h _ s ∧ ∀ r, post (⟨s, r⟩ :: h) (.ok r) := Iff.rfl

/-! #### What holds when a program succeeds

Most contracts say nothing about a program that ends in an error. -/

/-- The contract of a program that can fail, with a condition on its result only. -/
def MeetsOk (pre : Hist S → ∀ β : Type, S β → Prop) (h : Hist S) (x : ExceptT ε (Prog S) α)
    (P : Hist S → α → Prop) : Prop :=
  Meets pre h x.run fun h' r => match r with
    | .ok a => h ⊆ h' ∧ P h' a
    | .error _ => True

variable {P : Hist S → α → Prop} {Q : Hist S → β → Prop}

/-- What succeeds has only added to the history. -/
theorem meetsOk_of_meets
    (hx : Meets pre h x.run fun h' r => match r with | .ok a => P h' a | .error _ => True) :
    MeetsOk pre h x P := by
  refine (hx.hist (K := fun h' => h ⊆ h') (List.Subset.refl h)
    fun h' c hsub => List.Subset.trans hsub (List.subset_cons_self c h')).mono fun h' r hr => ?_
  cases r with
  | ok a => exact hr
  | error e => trivial

theorem meetsOk_of_uses {R : ∀ β : Type, S β → Prop} (hx : Uses R x.run)
    (hpre : ∀ h β s, R β s → pre h β s) : MeetsOk pre h x fun _ _ => True := by
  refine meetsOk_of_meets ((hx.keeps hpre).mono fun _ r _ => ?_)
  cases r <;> trivial

theorem MeetsOk.bind (hx : MeetsOk pre h x P)
    (hf : ∀ h' a, h ⊆ h' → P h' a → MeetsOk pre h' (f a) Q) :
    MeetsOk pre h (x >>= f : ExceptT ε (Prog S) β) Q := by
  refine meetsOk_of_meets (meets_bind_except.mpr (Meets.mono hx fun h' r hr => ?_))
  cases r with
  | ok a =>
    refine (hf h' a hr.1 hr.2).mono fun h'' r' hr' => ?_
    cases r' with
    | ok b => exact hr'.2
    | error e => trivial
  | error e => trivial

theorem meetsOk_pure {a : α} (ha : P h a) : MeetsOk pre h (pure a : ExceptT ε (Prog S) α) P :=
  ⟨List.Subset.refl h, ha⟩

theorem meetsOk_throw {e : ε} : MeetsOk pre h (throw e : ExceptT ε (Prog S) α) P := trivial

theorem meetsOk_query {e : ε} {s : S α} (hs : pre h _ s) (hok : ∀ a, P (⟨s, some a⟩ :: h) a) :
    MeetsOk pre h (query e s) P :=
  meetsOk_of_meets (meets_query.mpr ⟨hs, hok, trivial⟩)

theorem meetsOk_attempt {s : S γ} {P : Hist S → Option γ → Prop} (hs : pre h _ s)
    (hok : ∀ r, P (⟨s, r⟩ :: h) r) : MeetsOk pre h (attempt s : ExceptT ε (Prog S) _) P :=
  meetsOk_of_meets (meets_attempt.mpr ⟨hs, hok⟩)

/-- The answer a program goes on with is in its history. -/
theorem meetsOk_query_asked {e : ε} {s : S α} (hs : pre h _ s) :
    MeetsOk pre h (query e s) fun h' a => h'.Asked s (some a) :=
  meetsOk_query hs fun _ => Hist.asked_head ..

theorem meetsOk_attempt_asked {s : S γ} (hs : pre h _ s) :
    MeetsOk pre h (attempt s : ExceptT ε (Prog S) _) fun h' r => h'.Asked s r :=
  meetsOk_attempt hs fun _ => Hist.asked_head ..

theorem MeetsOk.trade {K : Hist S → Prop} {Q : Hist S → ∀ β : Type, S β → Prop}
    (hx : MeetsOk pre h x P) (hK : K h)
    (hstep : ∀ h β (s : S β), K h → pre h β s → Q h β s ∧ ∀ r, K (⟨s, r⟩ :: h)) :
    MeetsOk Q h x fun h' a => K h' ∧ P h' a :=
  (Meets.trade hx hK hstep).mono fun h' r hr => by
    cases r with
    | ok a => exact ⟨hr.2.1, hr.1, hr.2.2⟩
    | error e => trivial

theorem MeetsOk.imp {P' : Hist S → α → Prop} (hx : MeetsOk pre h x P)
    (himp : ∀ h' a, h ⊆ h' → P h' a → P' h' a) : MeetsOk pre h x P' :=
  Meets.mono hx fun h' r hr => by
    cases r with
    | ok a => exact ⟨hr.1, himp h' a hr.1 hr.2⟩
    | error e => trivial

end Except

/-! ### How a program can end -/

/-- With `h` behind it the program can end with the history `h'` and the result `a`: there are
answers that lead it there. -/
def Ends : Hist S → Prog S α → Hist S → α → Prop
  | h, ret a, h', a' => h' = h ∧ a' = a
  | h, call s k, h', a' => ∃ r, Ends (⟨s, r⟩ :: h) (k r) h' a'

variable {h' : Hist S}

theorem ends_bind {f : α → Prog S β} {b : β} :
    Ends h (p >>= f) h' b ↔ ∃ h₁ a, Ends h p h₁ a ∧ Ends h₁ (f a) h' b := by
  induction p generalizing h with
  | ret a =>
    constructor
    · exact fun hf => ⟨h, a, ⟨rfl, rfl⟩, hf⟩
    · rintro ⟨_, _, ⟨rfl, rfl⟩, hf⟩
      exact hf
  | call s k ih =>
    constructor
    · rintro ⟨r, hr⟩
      obtain ⟨h₁, a, hp, hf⟩ := (ih r).mp hr
      exact ⟨h₁, a, ⟨r, hp⟩, hf⟩
    · rintro ⟨h₁, a, ⟨r, hp⟩, hf⟩
      exact ⟨r, (ih r).mpr ⟨h₁, a, hp, hf⟩⟩

/-- A program that has ended has only added to its history. -/
theorem Ends.subset {a : α} (he : Ends h p h' a) : h ⊆ h' := by
  induction p generalizing h with
  | ret a => rw [he.1]; exact List.Subset.refl h
  | call s k ih =>
    obtain ⟨r, hr⟩ := he
    exact List.Subset.trans (List.subset_cons_self _ _) (ih r hr)

/-- What a contract promises of every end. -/
theorem Meets.ends {a : α} (hp : Meets pre h p post) (he : Ends h p h' a) : post h' a := by
  induction p generalizing h with
  | ret a =>
    obtain ⟨rfl, rfl⟩ := he
    exact hp
  | call s k ih =>
    obtain ⟨r, hr⟩ := he
    exact ih r (hp.2 r) hr

/-- The program succeeds if its statements are answered. -/
def Succeeds (x : ExceptT ε (Prog S) α) : Prop := ∀ h, ∃ h' a, Ends h x.run h' (.ok a)

theorem succeeds_pure (a : α) : Succeeds (pure a : ExceptT ε (Prog S) α) :=
  fun h => ⟨h, a, rfl, rfl⟩

theorem succeeds_query (e : ε) (s : S α) (a : α) : Succeeds (query e s) :=
  fun h => ⟨⟨s, some a⟩ :: h, a, some a, rfl, rfl⟩

theorem succeeds_attempt (s : S α) : Succeeds (attempt s : ExceptT ε (Prog S) _) :=
  fun h => ⟨⟨s, none⟩ :: h, none, none, rfl, rfl⟩

theorem Succeeds.bind {x : ExceptT ε (Prog S) α} {f : α → ExceptT ε (Prog S) β} (hx : Succeeds x)
    (hf : ∀ a, Succeeds (f a)) : Succeeds (x >>= f) := by
  intro h
  obtain ⟨h₁, a, hx⟩ := hx h
  obtain ⟨h₂, b, hf⟩ := hf a h₁
  exact ⟨h₂, b, ends_bind.mpr ⟨h₁, .ok a, hx, hf⟩⟩

end Prog

end Lib
