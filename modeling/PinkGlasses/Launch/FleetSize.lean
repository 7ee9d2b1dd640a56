import Mathlib.Algebra.Order.BigOperators.Group.List
import PinkGlasses.Launch

/-!
# PinkGlasses.Launch.FleetSize

How many workers an automatic fleet gets. `autoFleetSize` adds in Go's `int`, and a shift past the
sixty-third bit leaves nothing of the one it shifts: **what it returns is the exact number modulo
2^64, read with a sign, and then capped**. A single IPv6 /57 makes it negative, and a /56 counts as
nothing at all. `exact_grows_iff`: a list and all its parts are sized right exactly if it needs
fewer than 2^63 workers.
-/

namespace PinkGlasses

open Lib.Netip

namespace Launch.FleetSize

/-- The workers a target asks for, without a bound on the numbers: a network one a /24 and at least
one; none for what is not a network. -/
def wanted (t : TargetKind × String) : Option Nat :=
  if t.1 = .cidr then (parseCIDR t.2).map fun net => max 1 (2 ^ (net.ip.bitLen - net.bits - 8))
  else none

/-- One worker, those of the networks, and one for five of the other targets. -/
def need (targets : List (TargetKind × String)) : Nat :=
  1 + (targets.filterMap wanted).sum + (targets.filter fun t => (wanted t).isNone).length / 5

/-- The size is between one and the cap, and it is what the targets need, capped. -/
def Exact (targets : List (TargetKind × String)) : Prop :=
  1 ≤ autoFleetSize targets ∧ autoFleetSize targets ≤ 4 ∧
    autoFleetSize targets = min 4 (need targets : Int)

theorem cidrWorkers_eq (t : TargetKind × String) :
    cidrWorkers t = (wanted t).map fun n => int64 n := by
  unfold cidrWorkers wanted
  by_cases hkind : t.1 = .cidr
  · cases hnet : parseCIDR t.2 with
    | none => simp [hkind]
    | some net =>
      by_cases h : 8 < net.ip.bitLen - net.bits
      · have hone : 1 ≤ 2 ^ (net.ip.bitLen - net.bits - 8) := Nat.one_le_two_pow
        simp only [hkind, h, if_true, Option.map_some, Nat.max_eq_right hone]
        rfl
      · have hzero : net.ip.bitLen - net.bits - 8 = 0 := by omega
        have hone : int64 1 = 1 := by decide
        simp [hkind, h, hzero, hone]
  · simp [hkind]

theorem int64_add (m n : Int) : int64 (int64 m + n) = int64 (m + n) := Int.bmod_add_bmod

theorem foldl_int64 (ts : List (TargetKind × String)) (n : Int) :
    int64 (ts.foldl (fun n t => match cidrWorkers t with
      | some w => int64 (n + w)
      | none => n) n) = int64 (n + (ts.filterMap wanted).sum) := by
  induction ts generalizing n with
  | nil => simp
  | cons t ts ih =>
    rw [List.foldl_cons, ih, cidrWorkers_eq]
    cases ht : wanted t with
    | none => simp [ht]
    | some w => simp [ht, int64, add_assoc]

/-- **The size is the need modulo 2^64, capped.** -/
theorem autoFleetSize_eq (ts : List (TargetKind × String)) :
    autoFleetSize ts = min 4 (int64 (need ts)) := by
  have hnone : ∀ t, (cidrWorkers t).isNone = (wanted t).isNone := by
    intro t
    cases ht : wanted t <;> simp [cidrWorkers_eq, ht]
  have hsum := foldl_int64 ts 1
  unfold autoFleetSize need
  simp only [hnone, autoFleetCap]
  generalize ts.foldl _ (1 : Int) = n at hsum ⊢
  have hwrap : int64 (n + ((ts.filter fun t => (wanted t).isNone).length / 5 : Nat)) =
      int64 ((1 + (ts.filterMap wanted).sum +
        (ts.filter fun t => (wanted t).isNone).length / 5 : Nat) : Int) := by
    rw [← int64_add, hsum, int64_add]
    push_cast
    rfl
  rw [hwrap]
  omega

theorem one_le_need (ts : List (TargetKind × String)) : 1 ≤ need ts := by
  unfold need
  omega

theorem exact_iff (ts : List (TargetKind × String)) :
    Exact ts ↔ 1 ≤ int64 (need ts) ∧ min 4 (int64 (need ts)) = min 4 (need ts : Int) := by
  unfold Exact
  rw [autoFleetSize_eq]
  omega

theorem exact_of_lt {ts : List (TargetKind × String)} (h : need ts < 2 ^ 63) : Exact ts := by
  have hone := one_le_need ts
  rw [exact_iff]
  generalize need ts = n at hone h ⊢
  simp only [int64, Int.bmod_def]
  omega

theorem not_exact_of_le {ts : List (TargetKind × String)} (h : 2 ^ 63 ≤ need ts)
    (hlt : need ts < 2 ^ 64) : ¬ Exact ts := by
  rw [exact_iff]
  generalize need ts = n at h hlt ⊢
  simp only [int64, Int.bmod_def]
  omega

theorem need_mono {us ts : List (TargetKind × String)} (hsub : us.Sublist ts) :
    need us ≤ need ts := by
  have hsum := (hsub.filterMap wanted).sum_le_sum fun _ _ => Nat.zero_le _
  have hsingles := (hsub.filter fun t => (wanted t).isNone).length_le
  unfold need
  omega

/-- The need of a target more: none or one for a single, and for a network a power of two. -/
theorem need_cons (t : TargetKind × String) (ts : List (TargetKind × String)) :
    need (t :: ts) ≤ need ts + 1 ∨
      ∃ k, wanted t = some (2 ^ k) ∧ need (t :: ts) = need ts + 2 ^ k := by
  cases ht : wanted t with
  | none =>
    left
    simp only [need, List.filterMap_cons, List.filter_cons, ht, Option.isNone_none, if_true,
      List.length_cons]
    omega
  | some w =>
    right
    -- a network wants a power of two
    obtain ⟨k, rfl⟩ : ∃ k, w = 2 ^ k := by
      unfold wanted at ht
      split at ht
      · obtain ⟨net, -, rfl⟩ := Option.map_eq_some_iff.mp ht
        exact ⟨_, max_eq_right Nat.one_le_two_pow⟩
      · cases ht
    refine ⟨k, rfl, ?_⟩
    simp only [need, List.filterMap_cons, List.filter_cons, ht, List.sum_cons, Option.isNone_some,
      Bool.false_eq_true, if_false]
    omega

/-- **A network of 71 host bits or more is sized wrong by itself**: its workers are taken for a
negative number, or shifted out of the word. -/
theorem not_exact_singleton {t : TargetKind × String} {k : Nat} (ht : wanted t = some (2 ^ k))
    (hk : 63 ≤ k) : ¬ Exact [t] := by
  have hneed : need [t] = 1 + 2 ^ k := by simp [need, ht]
  rcases Nat.eq_or_lt_of_le hk with rfl | hlt
  · exact not_exact_of_le (by omega) (by omega)
  · obtain ⟨d, rfl⟩ := Nat.exists_eq_add_of_le hlt
    have hpow : 2 ^ (64 + d) = 2 ^ 64 * 2 ^ d := pow_add 2 64 d
    have hone : 1 ≤ 2 ^ d := Nat.one_le_two_pow
    rw [exact_iff, hneed, hpow]
    generalize 2 ^ d = m at hone
    simp only [int64, Int.bmod_def]
    omega

/-- A list that needs 2^63 workers or more has a part that is sized wrong. -/
theorem exists_not_exact {ts : List (TargetKind × String)} (h : 2 ^ 63 ≤ need ts) :
    ∃ us, us.Sublist ts ∧ ¬ Exact us := by
  induction ts with
  | nil => exact absurd h (by decide)
  | cons t ts ih =>
    by_cases hrest : 2 ^ 63 ≤ need ts
    · obtain ⟨us, hsub, hus⟩ := ih hrest
      exact ⟨us, hsub.cons t, hus⟩
    -- the target that takes the need over the bound: a small step ends just beyond it
    have hstep : need (t :: ts) ≤ need ts + 2 ^ 62 → ¬ Exact (t :: ts) := fun hle =>
      not_exact_of_le h (by omega)
    rcases need_cons t ts with hle | ⟨k, ht, heq⟩
    · exact ⟨t :: ts, .refl _, hstep (by omega)⟩
    · by_cases hk : 63 ≤ k
      · exact ⟨[t], List.singleton_sublist.mpr List.mem_cons_self, not_exact_singleton ht hk⟩
      · have hpow : 2 ^ k ≤ 2 ^ 62 := Nat.pow_le_pow_right (by decide) (by omega)
        exact ⟨t :: ts, .refl _, hstep (by omega)⟩

/-- **Every part of a list is sized exactly, and a target more never lowers the size, exactly if the
list needs fewer than 2^63 workers.** -/
theorem exact_grows_iff (ts : List (TargetKind × String)) :
    (∀ us us', us.Sublist us' → us'.Sublist ts →
      Exact us' ∧ autoFleetSize us ≤ autoFleetSize us') ↔ need ts < 2 ^ 63 := by
  constructor
  · intro h
    by_contra hge
    obtain ⟨us, hsub, hus⟩ := exists_not_exact (not_lt.mp hge)
    exact hus (h us us (.refl us) hsub).1
  · intro h us us' hsub hsub'
    have hle := need_mono hsub
    have hexact' := exact_of_lt ((need_mono hsub').trans_lt h)
    have hexact := exact_of_lt ((need_mono (hsub.trans hsub')).trans_lt h)
    refine ⟨hexact', ?_⟩
    rw [hexact.2.2, hexact'.2.2]
    omega

/-- A /57 of IPv6 makes the size negative, and beside it a /56 counts for nothing. -/
theorem negative_fleet :
    autoFleetSize [(.cidr, "2001:db8::/57")] = 1 - 2 ^ 63 ∧
      ¬Exact [(.cidr, "2001:db8::/57")] ∧
      autoFleetSize [(.cidr, "2001:db8::/56")] = 1 := by
  simp only [Exact]
  decide +kernel

end Launch.FleetSize

end PinkGlasses
