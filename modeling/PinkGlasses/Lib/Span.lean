import Mathlib.Data.List.Basic
import Mathlib.Order.CompletePartialOrder
import Mathlib.Order.Interval.Set.Disjoint

/-!
# PinkGlasses.Lib.Span

Half-open spans `(lo, hi]` of a linear order, and lists of them in which each begins where the one
before it ended. Such a list **partitions** what lies between its two ends: its spans are disjoint
and every point in between is in exactly one of them.
-/

namespace Lib

/-- The span `(lo, hi]`. -/
structure Span (α : Type) where
  lo : α
  hi : α
deriving Repr, DecidableEq

namespace Span

variable {α : Type} [LinearOrder α] {i : Span α} {is : List (Span α)} {x : α}

/-- The points of a span. -/
def points (i : Span α) : Set α := Set.Ioc i.lo i.hi

instance (i : Span α) (x : α) : Decidable (x ∈ i.points) :=
  inferInstanceAs (Decidable (i.lo < x ∧ x ≤ i.hi))

/-- Newest first: no span is empty, and each begins where the one before it ended. -/
def Contiguous : List (Span α) → Prop
  | [] => True
  | i :: is => i.lo < i.hi ∧ (∀ j ∈ is.head?, i.lo = j.hi) ∧ Contiguous is

/-- What came before is over where a span begins. -/
theorem Contiguous.hi_le (h : Contiguous (i :: is)) : ∀ j ∈ is, j.hi ≤ i.lo := by
  induction is generalizing i with
  | nil => exact List.forall_mem_nil _
  | cons j is ih =>
    obtain ⟨-, hnext, hrest⟩ := h
    have hij : i.lo = j.hi := hnext j rfl
    refine List.forall_mem_cons.mpr ⟨hij.ge, fun l hl => ?_⟩
    calc l.hi ≤ j.lo := ih hrest l hl
      _ ≤ j.hi := hrest.1.le
      _ = i.lo := hij.symm

theorem Contiguous.pairwise_disjoint (h : Contiguous is) :
    is.Pairwise fun i j => Disjoint i.points j.points := by
  induction is with
  | nil => exact .nil
  | cons i is ih =>
    refine List.pairwise_cons.mpr ⟨fun j hj => ?_, ih h.2.2⟩
    exact (Set.Ioc_disjoint_Ioc_of_le (h.hi_le j hj)).symm

/-- A point after a span is in none of those before. -/
theorem countP_eq_zero_of_lt (hbefore : ∀ j ∈ is, j.hi < x) :
    is.countP (fun j => decide (x ∈ j.points)) = 0 := by
  refine List.countP_eq_zero.mpr fun j hj => ?_
  simp only [decide_eq_true_eq]
  exact fun hx => absurd hx.2 (not_le.mpr (hbefore j hj))

/-- **Every point between the two ends is in exactly one span.** -/
theorem Contiguous.countP_eq_one (h : Contiguous is) {first last : Span α}
    (hfirst : is.getLast? = some first) (hlast : is.head? = some last) (hlo : first.lo < x)
    (hhi : x ≤ last.hi) : is.countP (fun j => decide (x ∈ j.points)) = 1 := by
  induction is generalizing last with
  | nil => cases hlast
  | cons i is ih =>
    cases hlast
    by_cases hx : i.lo < x
    · have hbefore : ∀ j ∈ is, j.hi < x := fun j hj => (h.hi_le j hj).trans_lt hx
      rw [List.countP_cons_of_pos (by simpa using ⟨hx, hhi⟩), countP_eq_zero_of_lt hbefore]
    · rw [List.countP_cons_of_neg (by simpa using fun hmem => hx hmem.1)]
      cases is with
      | nil =>
        cases hfirst
        exact absurd hlo hx
      | cons j is =>
        have hij : i.lo = j.hi := h.2.1 j rfl
        exact ih h.2.2 (by rwa [List.getLast?_cons_cons] at hfirst) rfl (hij ▸ not_lt.mp hx)

end Span

end Lib
