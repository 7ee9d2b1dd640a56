import Mathlib.Data.List.Basic

/-!
# PinkGlasses.Lib.Rows

Rows with a unique key: what `INSERT … ON CONFLICT (key) DO UPDATE` does to them.
-/

namespace Lib

namespace Rows

variable {ρ κ : Type} [DecidableEq κ] (key : ρ → κ)

/-- The row with the key. -/
def at? (rows : List ρ) (k : κ) : Option ρ := rows.find? fun r => key r == k

/-- Insert the row `new` with the key `k`, or change by `f` the row that has it. -/
def upsert (k : κ) (new : ρ) (f : ρ → ρ) (rows : List ρ) : List ρ :=
  if rows.any fun r => key r == k then rows.map fun r => if key r = k then f r else r
  else rows ++ [new]

variable {key} {k : κ} {new : ρ} {f : ρ → ρ} {rows : List ρ}

theorem at?_map (hf : ∀ r, key (f r) = key r) (k' : κ) :
    at? key (rows.map fun r => if key r = k then f r else r) k' =
      (at? key rows k').map fun r => if key r = k then f r else r := by
  have hkey : ((fun r => key r == k') ∘ fun r => if key r = k then f r else r) =
      fun r => key r == k' := by
    funext r
    by_cases hr : key r = k
    · simp [hr, hf]
    · simp [hr]
  rw [at?, List.find?_map, hkey]
  rfl

theorem key_of_at? {r : ρ} (h : at? key rows k = some r) : key r = k := by
  simpa using List.find?_some h

/-- **An upsert changes the row of its key and no other.** -/
theorem at?_upsert (key : ρ → κ) (hf : ∀ r, key (f r) = key r) (hnew : key new = k) (k' : κ) :
    at? key (upsert key k new f rows) k' =
      if k' = k then some (((at? key rows k).map f).getD new) else at? key rows k' := by
  unfold upsert
  by_cases hany : rows.any (fun r => key r == k) = true
  · rw [if_pos hany, at?_map hf]
    -- the row is there: it is rewritten where it stands
    obtain ⟨r, hr⟩ : ∃ r, at? key rows k = some r := by
      rw [← Option.isSome_iff_exists, at?, List.find?_isSome]
      simpa using hany
    by_cases hk : k' = k
    · rw [if_pos hk, hk, hr]
      simp [key_of_at? hr]
    · rw [if_neg hk]
      cases hr' : at? key rows k' with
      | none => rfl
      | some r' =>
        have hne : key r' ≠ k := fun h => hk ((key_of_at? hr').symm.trans h)
        simp [hne]
  · rw [if_neg hany]
    -- there is none: the new row is appended, behind every other
    have hnone : at? key rows k = none := by
      rw [at?, List.find?_eq_none]
      simpa using hany
    by_cases hk : k' = k
    · rw [if_pos hk, hk, hnone]
      rw [at?] at hnone ⊢
      simp [List.find?_append, hnone, hnew]
    · rw [if_neg hk]
      have hne : (key new == k') = false := by
        rw [hnew]
        simpa using Ne.symm hk
      simp [at?, List.find?_append, hne]

end Rows

end Lib
