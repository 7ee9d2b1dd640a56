import Mathlib.Data.List.DropRight
import PinkGlasses.Diff

/-!
# PinkGlasses.Diff.History

When a finding's page says that it is gone. The page folds the **completed runs that looked**, in
the order they started; a finding is seen by runs of any status, at any time while they go on.

* `derivePresence_gone`, `derivePresence_goneSince`: the fold says that the finding is gone if the
  last of those runs missed it, since the first of those that missed it in a row.
* `presenceRight_iff`: that is right exactly if nothing has seen the finding since that run started,
  and every earlier run that looked and missed it was followed by one that saw it.
-/

namespace PinkGlasses

open Lib

namespace Diff

variable {st : DiffDB} {f : Finding}

/-! ### The fold -/

/-- The runs that looked since the finding was last seen by one of them. -/
def unseenSince (history : List FindingRun) : List FindingRun :=
  history.rtakeWhile (! ·.observed)

theorem lastSeen_append (xs ys : List FindingRun) (i seenIn : Nat) (last : Int) :
    lastSeen (xs ++ ys) i seenIn last =
      lastSeen ys (i + xs.length) (lastSeen xs i seenIn last).1 (lastSeen xs i seenIn last).2 := by
  induction xs generalizing i seenIn last with
  | nil => rfl
  | cons x xs ih =>
    cases hx : x.observed <;>
      simp [lastSeen, hx, ih, Nat.add_assoc, Nat.add_comm 1]

theorem lastSeen_idx (history : List FindingRun) :
    (lastSeen history 0 0 (-1)).2 + 1 = ((history.rdropWhile (! ·.observed)).length : Int) := by
  induction history using List.reverseRecOn with
  | nil => rfl
  | append_singleton xs x ih =>
    rw [lastSeen_append]
    cases hx : x.observed
    · simpa [lastSeen, hx, List.rdropWhile_concat] using ih
    · simp [lastSeen, hx]

theorem length_rdropWhile_add (history : List FindingRun) :
    (history.rdropWhile (! ·.observed)).length + (unseenSince history).length = history.length := by
  rw [← List.length_append, unseenSince, List.rdropWhile_append_rtakeWhile]

/-- **Gone**: the last run that looked missed it. -/
theorem derivePresence_gone (history : List FindingRun) :
    (derivePresence history).gone = true ↔ unseenSince history ≠ [] := by
  have hidx := lastSeen_idx history
  have hlen := length_rdropWhile_add history
  rw [← List.length_pos_iff, derivePresence]
  dsimp only
  split_ifs with hactive
  · refine iff_of_false nofun ?_
    omega
  · refine iff_of_true rfl ?_
    omega

/-- **Gone since** the first of those that missed it in a row. -/
theorem derivePresence_goneSince {history : List FindingRun} {first : FindingRun}
    {rest : List FindingRun} (h : unseenSince history = first :: rest) :
    (derivePresence history).goneSince = some first.startedAt := by
  have hidx := lastSeen_idx history
  have hlen := length_rdropWhile_add history
  rw [h, List.length_cons] at hlen
  have hfirst : history[(history.rdropWhile (! ·.observed)).length]? = some first := by
    have hsplit : history.rdropWhile (! ·.observed) ++ first :: rest = history := by
      rw [← h, unseenSince, List.rdropWhile_append_rtakeWhile]
    calc history[(history.rdropWhile (! ·.observed)).length]?
        = (history.rdropWhile (! ·.observed) ++ first :: rest)[
            (history.rdropWhile (! ·.observed)).length]? := by rw [hsplit]
      _ = some first := by simp
  rw [derivePresence]
  dsimp only
  rw [if_neg (by omega), hidx, Int.toNat_natCast, hfirst, Option.map_some]

/-! ### What a presence says -/

/-- The run completed, looked for the finding and missed it, and started after it was last seen, by
any run. -/
def Missed (st : DiffDB) (f : Finding) (r : ScanRun) : Prop :=
  r ∈ st.db.runs.rows ∧ r.status = .completed ∧ covers st.db f r.id = true ∧
    observed st f r.id = false ∧
    ∃ t, r.startedAt = some t ∧ ∀ o ∈ st.observations, o.findingID = f.id → o.observedAt < t

/-- A finding that is said to be gone was missed, and is said to be gone since the start of the
earliest run that missed it. -/
def PresenceRight (st : DiffDB) (f : Finding) : Prop :=
  let p := derivePresence (findingHistory st f)
  p.gone = true → ∃ r, Missed st f r ∧ p.goneSince = r.startedAt ∧
    ∀ r', Missed st f r' → startsBefore r r'

/-- **Nothing has seen the finding since the first of the runs that missed it in a row started, and
every run that looked and missed it before that one was followed by one that saw it.** -/
def SeenOnlyBefore (st : DiffDB) (f : Finding) : Prop :=
  ∀ first ∈ (unseenSince (findingHistory st f)).head?,
    (∀ o ∈ st.observations, o.findingID = f.id → o.observedAt < first.startedAt) ∧
    ∀ r ∈ st.db.runs.rows, r.status = .completed → covers st.db f r.id = true →
      observed st f r.id = false → ∀ t, r.startedAt = some t → t < first.startedAt →
        ∃ o ∈ st.observations, o.findingID = f.id ∧ t ≤ o.observedAt

theorem exists_of_mem_findingHistory {h : FindingRun} (hh : h ∈ findingHistory st f) :
    ∃ r ∈ st.db.runs.rows, r.status = .completed ∧ covers st.db f r.id = true ∧
      r.startedAt = some h.startedAt ∧ observed st f r.id = h.observed := by
  obtain ⟨r, hr, rfl⟩ := List.mem_map.mp hh
  obtain ⟨hmem, hlooked⟩ := List.mem_filter.mp ((List.mem_insertionSort _).mp hr)
  obtain ⟨hrec, hcovers⟩ := Bool.and_eq_true_iff.mp hlooked
  obtain ⟨hdone, hstart⟩ := Bool.and_eq_true_iff.mp hrec
  obtain ⟨t, ht, -⟩ := (Option.any_eq_true _ _).mp hstart
  exact ⟨r, hmem, eq_of_beq hdone, hcovers, by simp [ht], rfl⟩

/-- **A presence is right** exactly if `SeenOnlyBefore`. -/
theorem presenceRight_iff (st : DiffDB) (f : Finding) :
    PresenceRight st f ↔ SeenOnlyBefore st f := by
  unfold PresenceRight SeenOnlyBefore
  simp only [derivePresence_gone]
  cases hunseen : unseenSince (findingHistory st f) with
  | nil => simp
  | cons first rest =>
    rw [derivePresence_goneSince hunseen]
    simp only [ne_eq, reduceCtorEq, not_false_eq_true, forall_const, List.head?_cons,
      Option.mem_def, Option.some.injEq, forall_eq']
    constructor
    -- if the presence is right, the run it names is the first of the misses in a row
    · rintro ⟨r, ⟨-, -, -, -, t, ht, hafter⟩, hsince, hleast⟩
      obtain rfl : first.startedAt = t := Option.some.inj (hsince.trans ht)
      refine ⟨hafter, fun r' hr' hdone hcovers hmiss t' ht' hlt => ?_⟩
      by_contra hnone
      push Not at hnone
      have hle := hleast r' ⟨hr', hdone, hcovers, hmiss, t', ht', fun o ho hid => hnone o ho hid⟩
      simp only [startsBefore, ht, ht', Option.getD_some] at hle
      exact absurd hle (not_le.mpr hlt)
    -- and that run is the earliest: an earlier miss was followed by an observation
    · rintro ⟨hafter, hfollowed⟩
      have hmem : first ∈ unseenSince (findingHistory st f) := hunseen ▸ List.mem_cons_self
      have hmiss : first.observed = false := by simpa using List.mem_rtakeWhile_imp hmem
      obtain ⟨r, hr, hdone, hcovers, ht, hobs⟩ :=
        exists_of_mem_findingHistory ((List.rtakeWhile_suffix _ _).subset hmem)
      refine ⟨r, ⟨hr, hdone, hcovers, hobs.trans hmiss, _, ht, hafter⟩, ht.symm, ?_⟩
      rintro r' ⟨hr', hdone', hcovers', hmiss', t', ht', hafter'⟩
      simp only [startsBefore, ht, ht', Option.getD_some]
      by_contra hlt
      obtain ⟨o, ho, hid, hle⟩ := hfollowed r' hr' hdone' hcovers' hmiss' t' ht' (not_le.mp hlt)
      exact absurd hle (not_le.mpr (hafter' o ho hid))

/-- **A finding that was just seen is said to be gone**: the run that saw it is not over, and the
last run that is over missed it. No run that started after it was seen has looked. -/
theorem just_seen_said_gone :
    (derivePresence (findingHistory (threeRuns .running [1, 3]) weakCipher)).gone = true ∧
    (derivePresence (findingHistory (threeRuns .running [1, 3]) weakCipher)).goneSince = some 20 ∧
    ∀ r, ¬ Missed (threeRuns .running [1, 3]) weakCipher r := by
  refine ⟨by decide +kernel, by decide +kernel, ?_⟩
  rintro r ⟨hr, -, -, -, t, ht, hafter⟩
  have hlast : (35 : Time) < t := hafter _ (List.mem_cons_of_mem _ List.mem_cons_self) rfl
  have hall : ∀ r ∈ (threeRuns .running [1, 3]).db.runs.rows,
      r.startedAt.getD 0 ≤ 30 := by decide +kernel
  have hle := hall r hr
  rw [ht, Option.getD_some] at hle
  exact absurd (lt_of_lt_of_le hlast hle) (by decide)

end Diff

end PinkGlasses
