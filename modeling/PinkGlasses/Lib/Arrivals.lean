import PinkGlasses.Lib.Conc

/-!
# PinkGlasses.Lib.Arrivals

Which request each thread of a run serves: **the `i`-th thread serves the `i`-th request that was
let in**. So a run can be judged by what its requests ask for.

* `arrivals` are the requests of a run, in the order of their threads.
* `AlongFor` is `Along` with the request a statement is issued for.
* `Serves` says that each thread keeps the contract of its request, and holds along every run.
-/

namespace Lib

namespace System

variable {S : Type → Type} {σ O R ρ : Type} (sys : System S σ O R ρ)

/-- The request an event lets in. -/
def arrived (c : Conf S σ ρ) : Event R O → List R
  | .spawn r => if sys.accepts c.state r then [r] else []
  | _ => []

/-- The requests a run lets in. -/
def arrivals (c : Conf S σ ρ) : List (Event R O) → List R
  | [] => []
  | e :: es => sys.arrived c e ++ arrivals (sys.next c e) es

theorem arrivals_append (c : Conf S σ ρ) (es es' : List (Event R O)) :
    sys.arrivals c (es ++ es') = sys.arrivals c es ++ sys.arrivals (sys.run c es) es' := by
  induction es generalizing c with
  | nil => rfl
  | cons e es ih => simp only [List.cons_append, arrivals, ih, run_cons, List.append_assoc]

/-- The condition `ok` on a statement, for the request of its thread; `rs` are the requests. -/
def okFor (ok : R → Conf S σ ρ → Nat → ∀ β : Type, S β → Prop) (rs : List R)
    (c : Conf S σ ρ) (i : Nat)
    (β : Type) (s : S β) : Prop :=
  match rs[i]? with
  | some r => ok r c i β s
  | none => True

instance (ok : R → Conf S σ ρ → Nat → ∀ β : Type, S β → Prop)
    [∀ r c i β s, Decidable (ok r c i β s)]
    (rs : List R) (c : Conf S σ ρ) (i : Nat) (β : Type) (s : S β) :
    Decidable (okFor ok rs c i β s) := by
  unfold okFor
  split <;> infer_instance

/-- Every statement of the run is issued where `ok` allows it; `rs` are the requests so far. -/
def AlongFor (ok : R → Conf S σ ρ → Nat → ∀ β : Type, S β → Prop) :
    List R → Conf S σ ρ → List (Event R O) → Prop
  | _, _, [] => True
  | rs, c, e :: es =>
    Allowed (okFor ok rs) c e ∧ AlongFor ok (rs ++ sys.arrived c e) (sys.next c e) es

instance decidableAlongFor (ok : R → Conf S σ ρ → Nat → ∀ β : Type, S β → Prop)
    [∀ r c i β s, Decidable (ok r c i β s)] :
    (rs : List R) → (c : Conf S σ ρ) → (es : List (Event R O)) → Decidable (sys.AlongFor ok rs c es)
  | _, _, [] => isTrue trivial
  | rs, c, e :: es =>
    have := decidableAlongFor ok (rs ++ sys.arrived c e) (sys.next c e) es
    inferInstanceAs (Decidable (Allowed (okFor ok rs) c e ∧
      sys.AlongFor ok (rs ++ sys.arrived c e) (sys.next c e) es))

variable {sys} {ok : R → Conf S σ ρ → Nat → ∀ β : Type, S β → Prop} {rs : List R} {c : Conf S σ ρ}

/-- The condition from some point of the run on. -/
theorem AlongFor.after {es₁ es₂ : List (Event R O)} (hok : sys.AlongFor ok rs c (es₁ ++ es₂)) :
    sys.AlongFor ok (rs ++ sys.arrivals c es₁) (sys.run c es₁) es₂ := by
  induction es₁ generalizing rs c with
  | nil =>
    rw [arrivals, List.append_nil]
    exact hok
  | cons e es₁ ih =>
    rw [arrivals, ← List.append_assoc]
    exact ih hok.2

/-- Each thread keeps the contract of its request. -/
structure Serves (pre : R → Hist S → ∀ β : Type, S β → Prop) (post : R → Hist S → ρ → Prop)
    (rs : List R) (c : Conf S σ ρ) : Prop where
  length : rs.length = c.threads.length
  contract : ∀ {i : Nat} {r : R} {t : Thread S ρ}, rs[i]? = some r → c.threads[i]? = some t →
    t.prog.Meets (pre r) t.hist (post r)

section Serves

variable {pre : R → Hist S → ∀ β : Type, S β → Prop} {post : R → Hist S → ρ → Prop}

/-- A thread gets its answer, whatever it is. -/
theorem Serves.answer (hc : Serves pre post rs c) {i : Nat} {h : Hist S} {β : Type} {s : S β}
    {k : Option β → Prog S ρ} (ht : c.threads[i]? = some ⟨h, .call s k⟩) (a : Option (β × σ)) :
    Serves pre post rs (answer c i h s k a) := by
  have hset : ∀ (st : σ) (b : Option β),
      Serves pre post rs ⟨st, c.threads.set i ⟨⟨s, b⟩ :: h, k b⟩⟩ := by
    intro st b
    refine ⟨by rw [List.length_set]; exact hc.length, fun {j r t} hr htj => ?_⟩
    by_cases hij : j = i
    · subst hij
      rw [List.getElem?_set_self', ht] at htj
      obtain rfl := Option.some.inj htj
      exact (hc.contract hr ht).2 b
    · rw [List.getElem?_set_ne (Ne.symm hij)] at htj
      exact hc.contract hr htj
  cases a with
  | none => exact hset _ none
  | some a => exact hset _ (some a.1)

theorem Serves.next (hprog : ∀ r, (sys.prog r).Meets (pre r) [] (post r))
    (hc : Serves pre post rs c)
    (e : Event R O) : Serves pre post (rs ++ sys.arrived c e) (sys.next c e) := by
  cases e with
  | spawn r =>
    simp only [System.next, arrived]
    split
    · refine ⟨by simp [hc.length], fun {j r' t} hr ht => ?_⟩
      -- the request that arrives is the last of the list, and its thread the last one
      by_cases hj : j < rs.length
      · rw [List.getElem?_append_left hj] at hr
        rw [List.getElem?_append_left (hc.length ▸ hj)] at ht
        exact hc.contract hr ht
      · rw [List.getElem?_append_right (Nat.le_of_not_lt hj)] at hr
        rw [List.getElem?_append_right (hc.length ▸ Nat.le_of_not_lt hj), ← hc.length] at ht
        cases hn : j - rs.length with
        | zero =>
          rw [hn] at hr ht
          cases hr
          cases ht
          exact hprog r
        | succ n =>
          rw [hn] at hr
          cases hr
    · rw [List.append_nil]
      exact hc
  | step i o =>
    simp only [arrived, List.append_nil, System.next]
    split
    · rename_i ht
      exact hc.answer ht _
    · exact hc
  | fail i =>
    simp only [arrived, List.append_nil, System.next]
    split
    · rename_i ht
      exact hc.answer ht none
    · exact hc

/-- **Every thread of a run keeps the contract of its request.** -/
theorem Serves.run (hprog : ∀ r, (sys.prog r).Meets (pre r) [] (post r)) (hc : Serves pre post rs c)
    (es : List (Event R O)) : Serves pre post (rs ++ sys.arrivals c es) (sys.run c es) := by
  induction es generalizing rs c with
  | nil =>
    rw [arrivals, List.append_nil]
    exact hc
  | cons e es ih =>
    rw [arrivals, ← List.append_assoc]
    exact ih (hc.next hprog e)

theorem Serves.start (st : σ) : Serves pre post [] (⟨st, []⟩ : Conf S σ ρ) := ⟨rfl, nofun⟩

end Serves

end System

end Lib
