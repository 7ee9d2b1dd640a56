import PinkGlasses.ScanParams
import PinkGlasses.Scanner.Stages

/-!
# PinkGlasses.Scanner.Ports

The port selection of a scan, from the text a user sets to what the tools are asked for
(`stage_ports.go`).

* `portSelection_sound_iff`: **`validateOne` looks at the number of digits only**. Port 0, a port
  above 65535 and a range that runs backwards are all accepted; the last is then counted as all
  ports.
-/

namespace PinkGlasses.Scanner

open Lib.Netip Planner ScanParams

/-! ### Counting ports -/

/-- The loop of `portCount`, with `n` ports counted. Ranges can take the count past 64 bits; a text
is too short for its entries to. -/
def countPorts (n : Int) : List String → Int
  | [] => if n = 0 then 65535 else n
  | part :: rest =>
    let part := trimSpace part
    if part = "" then countPorts n rest
    else match cut '-' part with
      | none => if (atoi part).isNone then 65535 else countPorts (n + 1) rest
      | some (lo, hi) => match atoi (trimSpace lo), atoi (trimSpace hi) with
        | some a, some b => if b < a then 65535 else countPorts (int64 (n + (b - a + 1))) rest
        | _, _ => 65535

def portCount (ports : String) (deep : Bool) : Int :=
  if deep ∨ ports = "full" then 65535
  else if ports = "" ∨ ports = "top-100" then 100
  else if ports = "top-1000" then 1000
  else countPorts 0 (splitComma ports)

/-! ### What a selection names -/

/-- The port a number names. -/
def portOf (s : String) : Nat := (number 10 s.toList).getD 0

/-- The ports a list or a range names, in order. -/
def listed (v : String) : List Nat :=
  match portRangeRe v with
  | some (lo, hi) => List.range' (portOf lo) (portOf hi + 1 - portOf lo)
  | none => (splitComma v).map portOf

/-- **What a selection is to be**: ports, all of them ports, and as many as are counted. -/
def Denotes (v : String) : Prop :=
  listed v ≠ [] ∧ (∀ p ∈ listed v, 1 ≤ p ∧ p ≤ 65535) ∧ portCount v false = (listed v).length

/-- Every number is a port, and a range runs forwards. -/
def InRange (v : String) : Prop :=
  (∀ r ∈ portRangeRe v, 1 ≤ portOf r.1 ∧ portOf r.1 ≤ portOf r.2 ∧ portOf r.2 ≤ 65535) ∧
    (portRangeRe v = none → ∀ s ∈ splitComma v, 1 ≤ portOf s ∧ portOf s ≤ 65535)
deriving Decidable

section Numbers

variable {cs : List Char} {s : String} {n : Nat}

/-- What stands around numbers and is no digit. -/
def seps : List Char := " \t\r\n-,+".toList

theorem digit_some {c : Char} {d : Nat} (h : digit 10 c = some d) : d < 10 ∧ c ∉ seps := by
  have hnone : ∀ c ∈ seps, digit 10 c = none :=
    fun c hc => by simpa using List.all_eq_true.mp (by decide : seps.all (digit 10 · == none)) c hc
  refine ⟨of_decide_eq_true (Option.filter_eq_some_iff.mp h).2, fun hc => ?_⟩
  rw [hnone c hc] at h
  cases h

/-- A number of `k` digits is below `10 ^ k`. -/
theorem mem_of_number (h : number 10 cs = some n) : n < 10 ^ cs.length ∧ ∀ c ∈ cs, c ∉ seps := by
  have hall : ∀ {cs : List Char} {ds : List Nat} (acc : Nat), cs.mapM (digit 10) = some ds →
      ds.foldl (fun acc d => acc * 10 + d) acc < (acc + 1) * 10 ^ cs.length ∧ ∀ c ∈ cs,
        c ∉ seps := by
    intro cs
    induction cs with
    | nil =>
      intro ds acc hds
      cases hds
      simp
    | cons c cs ih =>
      intro ds acc hds
      rw [List.mapM_cons] at hds
      obtain ⟨d, hd, hds⟩ := Option.bind_eq_some_iff.mp hds
      obtain ⟨ds', hrest, hds⟩ := Option.bind_eq_some_iff.mp hds
      cases hds
      obtain ⟨hlt, hc⟩ := digit_some hd
      obtain ⟨hbound, hcs⟩ := ih (acc * 10 + d) hrest
      refine ⟨lt_of_lt_of_le hbound ?_, List.forall_mem_cons.mpr ⟨hc, hcs⟩⟩
      rw [List.length_cons, pow_succ', ← mul_assoc]
      exact Nat.mul_le_mul_right _ (by omega)
  unfold number at h
  split at h
  · cases h
  · obtain ⟨ds, hds, rfl⟩ := Option.map_eq_some_iff.mp h
    simpa using hall 0 hds

theorem portOf_lt (h : shortNumber s = true) : portOf s < 10 ^ 5 := by
  simp only [shortNumber, Bool.and_eq_true, decide_eq_true_eq] at h
  obtain ⟨n, hn⟩ := Option.isSome_iff_exists.mp h.2
  rw [portOf, hn]
  exact lt_of_lt_of_le (mem_of_number hn).1 (Nat.pow_le_pow_right (by decide) h.1)

theorem shortNumber_spec (h : shortNumber s = true) :
    s ≠ "" ∧ (∀ c ∈ s.toList, c ∉ seps) ∧ atoi s = some (portOf s : Int) := by
  have hlt := portOf_lt h
  simp only [shortNumber, Bool.and_eq_true, decide_eq_true_eq] at h
  obtain ⟨n, hn⟩ := Option.isSome_iff_exists.mp h.2
  have hplain := (mem_of_number hn).2
  have hne : s ≠ "" := by
    rintro rfl
    cases hn
  have hsigned : signed s = some (portOf s : Int) := by
    unfold signed
    split
    · rename_i hs
      exact absurd (by decide) (hplain '-' (hs ▸ List.mem_cons_self))
    · rename_i hs
      exact absurd (by decide) (hplain '+' (hs ▸ List.mem_cons_self))
    · rw [portOf, hn]
      rfl
  exact ⟨hne, hplain, (atoi_of_signed hsigned (by omega) (by omega)).1⟩

end Numbers

theorem isWhitespace_of_not_mem {c : Char} (h : c ∉ seps) : c.isWhitespace = false := by
  simp only [seps, String.reduceToList, List.mem_cons, not_or] at h
  simp [Char.isWhitespace, h]

theorem trimSpace_plain {s : String} (h : ∀ c ∈ s.toList, c ∉ seps) : trimSpace s = s :=
  trimSpace_eq_self fun c hc => isWhitespace_of_not_mem (h c hc)

theorem countPorts_list {parts : List String} (h : ∀ s ∈ parts, shortNumber s = true) (n : Nat) :
    countPorts n parts = if n + parts.length = 0 then 65535 else (n + parts.length : Nat) := by
  induction parts generalizing n with
  | nil => simp [countPorts]
  | cons s parts ih =>
    obtain ⟨hne, hplain, hint⟩ := shortNumber_spec (h s List.mem_cons_self)
    have hcut : cut '-' s = none := cut_eq_none fun hc => hplain _ hc (by decide)
    have hrest := ih (fun s hs => h s (List.mem_cons_of_mem _ hs)) (n + 1)
    simp only [countPorts, trimSpace_plain hplain, hne, hcut, hint, Option.isNone_some,
      Bool.false_eq_true, if_false]
    rw [← Nat.cast_succ, hrest, List.length_cons, Nat.add_right_comm, Nat.add_assoc]

theorem portCount_range {v lo hi : String} (h : portRangeRe v = some (lo, hi)) :
    portCount v false = if portOf hi < portOf lo then
      65535 else (portOf hi : Int) - portOf lo + 1 := by
  obtain ⟨hcut, hboth⟩ := Option.filter_eq_some_iff.mp h
  obtain ⟨hlo, hhi⟩ := Bool.and_eq_true_iff.mp hboth
  have hlt : portOf hi < 10 ^ 5 := portOf_lt hhi
  obtain ⟨-, hlo, hintLo⟩ := shortNumber_spec hlo
  obtain ⟨-, hhi, hintHi⟩ := shortNumber_spec hhi
  have hv := toList_of_cut hcut
  -- digits and the hyphen only: nothing to trim, no comma to split at
  have htrimV : trimSpace v = v := by
    refine trimSpace_eq_self fun c hc => ?_
    rw [hv, List.mem_append, List.mem_cons] at hc
    rcases hc with hc | rfl | hc
    · exact isWhitespace_of_not_mem (hlo c hc)
    · rfl
    · exact isWhitespace_of_not_mem (hhi c hc)
  have hsplit : splitComma v = [v] := by
    rw [splitComma, List.splitOn_eq_singleton, List.map_singleton, String.ofList_toList]
    rw [hv, List.mem_append, List.mem_cons, not_or, not_or]
    exact ⟨fun hc => hlo _ hc (by decide), by decide, fun hc => hhi _ hc (by decide)⟩
  -- nor is a range one of the named lists
  have hother : ∀ w, portRangeRe w = none → v ≠ w := by
    rintro w hw rfl
    rw [hw] at h
    cases h
  simp only [portCount, hother "full" (by decide), hother "" (by decide),
    hother "top-100" (by decide), hother "top-1000" (by decide), hsplit, countPorts, htrimV, hcut,
    trimSpace_plain hlo, trimSpace_plain hhi, hintLo, hintHi, Bool.false_eq_true, or_self,
    if_false, Int.ofNat_lt, int64, Int.bmod_def]
  split_ifs <;> omega

theorem portCount_list {v : String} (h : portListRe v = true) (hpreset : v ∉ portPresets) :
    portCount v false = (splitComma v).length := by
  have hne : v ≠ "" := by
    rintro rfl
    revert h
    decide
  have hlen : (splitComma v).length ≠ 0 := by simp [splitComma]
  simp only [portPresets, List.mem_cons, not_or] at hpreset
  have hcount := countPorts_list (List.all_eq_true.mp h) 0
  rw [Nat.zero_add, if_neg hlen] at hcount
  simpa [portCount, hpreset, hne] using hcount

theorem shape_of_validateOne {spec : Spec} {v : String}
    (hkind : spec.kind = .ports ∨ spec.kind = .cdnPorts) (hv : validateOne spec v = .ok ()) :
    v ∈ "all" :: "none" :: portPresets ∨ (portRangeRe v).isSome = true ∨ portListRe v = true := by
  rcases hkind with hkind | hkind <;> simp only [validateOne, hkind] at hv <;> split at hv
  · rename_i hshape
    exact hshape.imp_left fun h => List.mem_cons_of_mem _ (List.mem_cons_of_mem _ h)
  · cases hv
  · rename_i hshape
    exact hshape
  · cases hv

theorem length_intercalate_le {parts : List (List Char)} (hne : ∀ p ∈ parts, p ≠ []) :
    2 * parts.length ≤ ([','].intercalate parts).length + 1 := by
  induction parts with
  | nil => simp
  | cons p parts ih =>
    have hp := List.length_pos_iff.mpr (hne p List.mem_cons_self)
    have ih := ih fun q hq => hne q (List.mem_cons_of_mem _ hq)
    cases parts with
    | nil =>
      simp only [List.intercalate, List.intersperse_singleton, List.flatten_singleton,
        List.length_singleton]
      omega
    | cons q parts =>
      simp only [List.intercalate, List.intersperse_cons_cons, List.flatten_cons,
        List.length_append, List.length_cons, List.length_nil] at ih ⊢
      omega

/-- A list has at most one entry for every two characters. -/
theorem length_splitComma_le {v : String} (h : portListRe v = true) :
    2 * (splitComma v).length ≤ v.length + 1 := by
  have hparts : ∀ p ∈ v.toList.splitOn ',', p ≠ [] := by
    rintro p hp rfl
    have hshort := List.all_eq_true.mp h "" (List.mem_map.mpr ⟨[], hp, rfl⟩)
    exact absurd hshort (by decide)
  have hlength := length_intercalate_le hparts
  rw [List.intercalate_splitOn, String.length_toList] at hlength
  simpa [splitComma] using hlength

/-- **What is counted of a selection that was checked**: at least one port, and no more than half
its text is long, or all ports. -/
theorem portCount_bounds {spec : Spec} {v : String}
    (hkind : spec.kind = .ports ∨ spec.kind = .cdnPorts) (hv : validateOne spec v = .ok ())
    (hlen : v.length ≤ 2 ^ 20) (deep : Bool) :
    1 ≤ portCount v deep ∧ portCount v deep ≤ 2 ^ 19 := by
  cases deep with
  | true => simp [portCount]
  | false =>
    have hpresets : ∀ v ∈ "all" :: "none" :: portPresets,
        1 ≤ portCount v false ∧ portCount v false ≤ 2 ^ 19 := by decide +kernel
    by_cases hpreset : v ∈ "all" :: "none" :: portPresets
    · exact hpresets v hpreset
    rcases (shape_of_validateOne hkind hv).resolve_left hpreset with hrange | hlist
    · obtain ⟨⟨lo, hi⟩, hrange⟩ := Option.isSome_iff_exists.mp hrange
      obtain ⟨-, hboth⟩ := Option.filter_eq_some_iff.mp hrange
      have hlt : portOf hi < 10 ^ 5 := portOf_lt (Bool.and_eq_true_iff.mp hboth).2
      rw [portCount_range hrange]
      split_ifs <;> omega
    · have hentries := length_splitComma_le hlist
      have hne : (splitComma v).length ≠ 0 := by simp [splitComma]
      rw [portCount_list hlist fun h => hpreset (by simp [h])]
      omega

theorem portSelection_sound_iff {spec : Spec} {v : String}
    (hkind : spec.kind = .ports ∨ spec.kind = .cdnPorts) (hv : validateOne spec v = .ok ())
    (hpreset : v ∉ "all" :: "none" :: portPresets) : Denotes v ↔ InRange v := by
  have hshape := (shape_of_validateOne hkind hv).resolve_left hpreset
  unfold Denotes InRange listed
  cases hrange : portRangeRe v with
  | some r =>
    simp only [portCount_range hrange, List.length_range', List.mem_range'_1, ne_eq,
      List.range'_eq_nil_iff, Option.mem_some_iff, forall_eq', reduceCtorEq,
      false_imp_iff, and_true]
    constructor
    · rintro ⟨hne, hall, -⟩
      have hfirst := hall (portOf r.1) (by omega)
      have hlast := hall (portOf r.2) (by omega)
      omega
    · rintro ⟨hlo, hle, hhi⟩
      refine ⟨by omega, fun p hp => by omega, ?_⟩
      rw [if_neg (by omega)]
      omega
  | none =>
    have hlist : portListRe v = true := by simpa [hrange] using hshape
    have hne : (splitComma v).map portOf ≠ [] := by simp [splitComma]
    simpa [portCount_list hlist fun h => hpreset (by simp [h])] using fun _ => hne

/-- The specification of the parameter `ports`. -/
def portsSpec : Spec := { key := "ports", kind := .ports, default := "top-100" }

theorem portSelection_sound_web :
    (validateOne portsSpec "80,443" = .ok () ∧ validateOne portsSpec "1-1024" = .ok ()) ∧
      Denotes "80,443" ∧ Denotes "1-1024" := by
  suffices h : _ ∧ _ from ⟨h, (portSelection_sound_iff (.inl rfl) h.1 (by decide)).mpr (by decide),
    (portSelection_sound_iff (.inl rfl) h.2 (by decide)).mpr (by decide)⟩
  exact ⟨by decide, by decide⟩

/-- The defect: what is accepted names port 0, a port above 65535, or none at all. -/
theorem accepts_no_port :
    (validateOne portsSpec "0" = .ok () ∧ listed "0" = [0]) ∧
    (validateOne portsSpec "99999" = .ok () ∧ listed "99999" = [99999]) ∧
    (validateOne portsSpec "100-50" = .ok () ∧ listed "100-50" = [] ∧
      portCount "100-50" false = 65535) := by
  decide +kernel

end PinkGlasses.Scanner
