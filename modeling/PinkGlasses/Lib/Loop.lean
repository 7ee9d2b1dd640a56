import Mathlib.Data.List.Nodup
import PinkGlasses.Lib.Prog

/-!
# PinkGlasses.Lib.Loop

Programs that do the same **for each of some items**.

The rule that matters is about statements of which one item may issue at most one:
`Prog.meets_forEach_once` says that a loop over items with distinct keys issues at most one of them
for a key, if the body of an item issues at most one for its own key and none for another.
-/

namespace Lib

namespace Prog

variable {S : Type → Type} {ι κ : Type}

/-- The body for one item after the other. -/
def forEach (body : ι → Prog S Unit) : List ι → Prog S Unit
  | [] => pure ()
  | x :: xs => do
    body x
    forEach body xs

variable {pre : Hist S → ∀ β : Type, S β → Prop} {body : ι → Prog S Unit}

/-- The rule for loops: `I` is what holds with the items still to come. -/
theorem meets_forEach {I : List ι → Hist S → Prop}
    (hbody : ∀ x xs h, I (x :: xs) h → Meets pre h (body x) fun h' _ => I xs h') {xs : List ι}
    {h : Hist S} (hI : I xs h) : Meets pre h (forEach body xs) fun h' _ => I [] h' := by
  induction xs generalizing h with
  | nil => exact hI
  | cons x xs ih => exact meets_bind.mpr ((hbody x xs h hI).mono fun h' _ hI' => ih hI')

section Once

variable (counts : ∀ β : Type, S β → Bool)

/-- None of the statements that count was issued. -/
def Unissued (h : Hist S) : Prop := ∀ c ∈ h, counts c.β c.stmt = false

variable {counts}

theorem unissued_nil : Unissued (S := S) counts [] := List.forall_mem_nil _

theorem Unissued.cons {h : Hist S} {β : Type} {s : S β} (hu : Unissued counts h)
    (hs : counts _ s = false) (r : Option β) : Unissued counts (⟨s, r⟩ :: h) :=
  List.forall_mem_cons.mpr ⟨hs, hu⟩

variable (counts) in
/-- **A loop over the items a statement was answered with issues at most one of the statements for
the key `k`**, and only if `k` is the key of an item: where the keys are distinct, or the contract
asks for nothing when they are not. -/
theorem meets_forEach_once [DecidableEq κ] {key : ι → κ} {k : κ} {read : S (List ι)} {xs : List ι}
    {h : Hist S} (hquiet : ∀ {h β} {s : S β}, counts _ s = false → pre h β s)
    (hrepeated : ∀ h β (s : S β), h.Asked read (some xs) → ¬ (xs.map key).Nodup → pre h β s)
    (hother : ∀ x, key x ≠ k → Uses (fun _ s => counts _ s = false) (body x))
    (hself : ∀ x ∈ xs, key x = k → ∀ h : Hist S, h.Asked read (some xs) → Unissued counts h →
      Meets pre h (body x) fun _ _ => True)
    (hread : h.Asked read (some xs)) (hu : Unissued counts h) :
    Meets pre h (forEach body xs) fun _ _ => True := by
  have hgrow : ∀ (h : Hist S) c, h.Asked read (some xs) → Hist.Asked (c :: h) read (some xs) :=
    fun _ _ hask => hask.mono (List.subset_cons_self _ _)
  by_cases hnodup : ¬ (xs.map key).Nodup
  · exact ((meets_true _ _).trade hread fun h β s hask _ =>
      ⟨hrepeated h β s hask hnodup, fun _ => hgrow h _ hask⟩).mono fun _ _ _ => trivial
  rw [not_not] at hnodup
  -- the items to come have distinct keys, and `k` is not among them once it was its turn
  refine (meets_forEach (I := fun ys h => ys ⊆ xs ∧ (ys.map key).Nodup ∧
    h.Asked read (some xs) ∧ (k ∈ ys.map key → Unissued counts h)) ?_
    ⟨List.Subset.refl xs, hnodup, hread, fun _ => hu⟩).mono fun _ _ _ => trivial
  intro x ys h ⟨hsub, hnodup, hK, hu⟩
  obtain ⟨hx, hys⟩ := List.cons_subset.mp hsub
  obtain ⟨hnew, hnodup⟩ := List.nodup_cons.mp hnodup
  by_cases hk : key x = k
  · refine ((hself x hx hk h hK (hu (List.mem_cons.mpr (.inl hk.symm)))).hist hK hgrow).mono
      fun h' _ hK' => ?_
    exact ⟨hys, hnodup, hK'.1, fun hmem => absurd (hk ▸ hmem) hnew⟩
  · -- another item's body adds no such statement
    refine ((hother x hk).meets_of_step
      (K := fun h => h.Asked read (some xs) ∧ (k ∈ ys.map key → Unissued counts h))
      ⟨hK, fun hmem => hu (List.mem_cons_of_mem _ hmem)⟩ ?_ fun _ _ _ _ hs => hquiet hs).mono
      fun h' _ hK' => ⟨hys, hnodup, hK'⟩
    intro h β s r hK' hs
    exact ⟨hgrow h _ hK'.1, fun hmem => (hK'.2 hmem).cons hs r⟩

end Once

end Prog

end Lib
