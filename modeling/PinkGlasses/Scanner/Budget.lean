import PinkGlasses.Scanner.Ports

/-!
# PinkGlasses.Scanner.Budget

How long a port sweep may take. `portScanBudget` computes in nanoseconds and in 64 bits, and
**`Validate` does not bound the length of a port list**: the budget is exact as long as the exact
one fits (`budget_exact_iff`), and a list of 80 million ports gets fifteen minutes instead of three
centuries. A request's body has a mebibyte at most, which holds half a million ports, and for those
everything fits (`sweepBudget_exact`).
-/

namespace PinkGlasses.Scanner

open Planner ScanParams

/-- `params.intVal`. -/
def intVal (job : SentJob) (key : String) (default : Int) : Int :=
  match atoi (str job key "") with
  | some n => if n ≤ 0 then default else n
  | none => default

/-- `time.Millisecond`. -/
def millisecond : Int := 10 ^ 6

/-- `time.Second`. -/
def second : Int := 10 ^ 9

/-- `15*time.Minute`. -/
def budgetFloor : Int := 15 * 60 * second

/-- The end of `portScanBudget`: slack, floor and ceiling. -/
def slackBudget (budget max : Int) : Int :=
  let budget := int64 (budget * 4)
  let budget := if budget < budgetFloor then budgetFloor else budget
  if 0 < max ∧ max < budget then max else budget

def portScanBudget (ports hosts rate timeoutMS retries concurrency max : Int) : Int :=
  let hosts := if hosts < 1 then 1 else hosts
  let rate := if rate < 1 then 1 else rate
  let concurrency := if concurrency < 1 then 1 else concurrency
  let retries := if retries < 0 then 0 else retries
  let probes := int64 (ports * hosts)
  let bySend := int64 (int64 (probes.tdiv rate + 1) * second)
  let byWait := int64 ((int64 (int64 (probes * timeoutMS) * int64 (retries + 1))).tdiv concurrency *
    millisecond)
  slackBudget (if bySend < byWait then byWait else bySend) max

/-- The settings of a sweep. -/
structure Settings where
  rate : Int
  timeoutMS : Int
  retries : Int
  concurrency : Int

/-- The settings `naabuSweep` reads. -/
def settings (job : SentJob) : Settings :=
  ⟨intVal job "naabu_rate" 20, intVal job "naabu_timeout_ms" 1000, intVal job "naabu_retries" 1,
    intVal job "naabu_concurrency" 4⟩

namespace Settings

variable (s : Settings)

/-- The budget of a sweep. -/
def budget (ports hosts max : Int) : Int :=
  portScanBudget ports hosts s.rate s.timeoutMS s.retries s.concurrency max

/-! ### The exact budget -/

/-- Four times the longer of sending and waiting. -/
def need (ports hosts : Int) : Int :=
  4 * max ((ports * hosts / s.rate + 1) * second)
    (ports * hosts * s.timeoutMS * (s.retries + 1) / s.concurrency * millisecond)

/-- That, with the floor and the ceiling. -/
def exactBudget (ports hosts ceiling : Int) : Int :=
  min ceiling (max budgetFloor (s.need ports hosts))

/-- What validation leaves. -/
structure InBounds : Prop where
  rate : 1 ≤ s.rate
  timeout : 1 ≤ s.timeoutMS ∧ s.timeoutMS ≤ 10000
  retries : 0 ≤ s.retries ∧ s.retries ≤ 5
  concurrency : 1 ≤ s.concurrency ∧ s.concurrency ≤ 1000

end Settings

theorem int64_of_lt {n : Int} (h0 : 0 ≤ n) (h : n < 2 ^ 63) : int64 n = n :=
  Int.bmod_eq_of_le (by omega) (by omega)

/-- With the highest ceiling, what comes out is a multiple of four. -/
theorem slackBudget_ne (budget : Int) : slackBudget budget (2 ^ 63 - 1) ≠ 2 ^ 63 - 1 := by
  have hfour : int64 (budget * 4) % 4 = 0 ∧ int64 (budget * 4) ≤ 2 ^ 63 - 1 := by
    simp only [int64, Int.bmod_def]
    split_ifs <;> omega
  unfold slackBudget budgetFloor second
  generalize int64 (budget * 4) = n at *
  dsimp only
  split_ifs <;> omega

section Exact

variable {s : Settings} (hset : s.InBounds) {ports hosts ports' hosts' ceiling : Int}

include hset

theorem need_mono (hp : 0 ≤ ports') (hh : 0 ≤ hosts') (hports : ports' ≤ ports)
    (hhosts : hosts' ≤ hosts) : s.need ports' hosts' ≤ s.need ports hosts := by
  obtain ⟨hrate, ⟨htimeout, -⟩, ⟨hretries, -⟩, hconc, -⟩ := hset
  have hprobes : ports' * hosts' ≤ ports * hosts := by
    gcongr
    omega
  have hsend : ports' * hosts' / s.rate ≤ ports * hosts / s.rate :=
    Int.ediv_le_ediv (by omega) hprobes
  have hwait : ports' * hosts' * s.timeoutMS * (s.retries + 1) / s.concurrency ≤
      ports * hosts * s.timeoutMS * (s.retries + 1) / s.concurrency := by
    refine Int.ediv_le_ediv (by omega) ?_
    gcongr
  unfold Settings.need second millisecond
  omega

/-- **Below the limit nothing wraps.** -/
theorem budget_eq (hports : 1 ≤ ports) (hhosts : 1 ≤ hosts) (hceiling : 0 < ceiling)
    (hfits : s.need ports hosts < 2 ^ 63) :
    s.budget ports hosts ceiling = s.exactBudget ports hosts ceiling := by
  obtain ⟨rate, timeoutMS, retries, concurrency⟩ := s
  obtain ⟨hrate, ⟨htimeout, -⟩, ⟨hretries, -⟩, hconc, hconc'⟩ := hset
  have hprobes : 1 ≤ ports * hosts := one_le_mul_of_one_le_of_one_le hports hhosts
  simp only [Settings.need] at *
  simp only [Settings.budget, Settings.exactBudget, Settings.need, portScanBudget, slackBudget,
    if_neg (not_lt.mpr hhosts), if_neg (not_lt.mpr hrate), if_neg (not_lt.mpr hconc),
    if_neg (not_lt.mpr hretries)]
  generalize ports * hosts = probes at *
  -- every product on the way is at most the work of all waits, before it is shared out
  have htimes : probes ≤ probes * timeoutMS := le_mul_of_one_le_right (by omega) htimeout
  have htries : probes * timeoutMS ≤ probes * timeoutMS * (retries + 1) :=
    le_mul_of_one_le_right (by omega) (by omega)
  have hretry : retries + 1 ≤ probes * timeoutMS * (retries + 1) :=
    le_mul_of_one_le_left (by omega) (by omega)
  have hwork := Int.lt_ediv_add_one_mul_self (probes * timeoutMS * (retries + 1))
    (show 0 < concurrency by omega)
  have hshare : 0 ≤ probes * timeoutMS * (retries + 1) / concurrency :=
    Int.ediv_nonneg (by omega) (by omega)
  have hsend : 0 ≤ probes / rate := Int.ediv_nonneg (by omega) (by omega)
  have hbound : probes * timeoutMS * (retries + 1) < 2 ^ 63 := by
    have := mul_le_mul_of_nonneg_left hconc' (Int.le_add_one hshare)
    unfold millisecond at hfits
    omega
  unfold budgetFloor second millisecond at *
  rw [int64_of_lt (n := probes), int64_of_lt (n := probes * timeoutMS),
    int64_of_lt (n := retries + 1),
    int64_of_lt (n := probes * timeoutMS * (retries + 1)), Int.tdiv_eq_ediv_of_nonneg,
    Int.tdiv_eq_ediv_of_nonneg, int64_of_lt (n := probes / rate + 1),
    int64_of_lt (n := (probes / rate + 1) * _), int64_of_lt (n := _ / concurrency * _)]
  · generalize probes * timeoutMS * (retries + 1) / concurrency = share at *
    generalize probes / rate = sent at *
    rw [int64_of_lt]
    all_goals split_ifs <;> omega
  all_goals omega

end Exact

/-! ### Settings that were validated -/

theorem bounds_of_validateOne {key default v : String} {lo hi : Int}
    (h : validateOne (.int key lo hi default) v = .ok ()) : ∃ n, atoi v = some n ∧ lo ≤ n ∧
    n ≤ hi := by
  unfold validateOne Spec.int at h
  dsimp only at h
  split at h
  · cases h
  · rename_i n hn
    split at h
    · cases h
    · exact ⟨n, hn, by omega⟩

theorem intVal_bounds {inp : List (String × String)} {job : SentJob}
    (hvalid : validate inp = .ok job.tool) (key : String) (d : Int) {default : String} {lo hi : Int}
    (hspec : specByKey key = some (.int key lo hi default)) (hd : 0 < lo ∧ lo ≤ d ∧ d ≤ hi) :
    lo ≤ intVal job key d ∧ intVal job key d ≤ hi := by
  unfold intVal
  split
  · rename_i n hn
    split
    · exact hd.2
    · have hempty : atoi "" = none := by decide
      obtain ⟨v, hlookup, hv⟩ : ∃ v, job.tool.lookup key = some v ∧ str job key "" = v := by
        unfold str Planner.param at *
        split at hn <;> simp_all
      obtain ⟨pre, post, hsplit, -⟩ := List.lookup_eq_some_iff.mp hlookup
      obtain ⟨spec, hspec', hone⟩ := checked_of_validate hvalid (key, v) (by simp [hsplit])
      cases hspec.symm.trans hspec'
      obtain ⟨n', hn', hbounds⟩ := bounds_of_validateOne hone
      cases hn.symm.trans (hv ▸ hn')
      exact hbounds
  · exact hd.2

theorem inBounds_of_validate {inp : List (String × String)} {job : SentJob}
    (hvalid : validate inp = .ok job.tool) : (settings job).InBounds where
  rate := (intVal_bounds hvalid "naabu_rate" 20 (by rfl) (by decide)).1
  timeout := (intVal_bounds hvalid "naabu_timeout_ms" 1000 (by rfl) (by decide)).imp_left
    (le_trans (by decide))
  retries := (intVal_bounds hvalid "naabu_retries" 1 (by rfl) (by decide)).imp_left
    (le_trans (by decide))
  concurrency := intVal_bounds hvalid "naabu_concurrency" _ (by rfl) (by decide)

/-- **The budget is exact, and grows with the ports and the hosts, exactly if what the sweep needs
fits into 64 bits.** -/
theorem budget_exact_iff {s : Settings} (hset : s.InBounds) {ports hosts : Int} (hports : 1 ≤ ports)
    (hhosts : 1 ≤ hosts) :
    (∀ ceiling, 0 < ceiling → ceiling < 2 ^ 63 → ∀ ports' hosts', 1 ≤ ports' → ports' ≤ ports →
        1 ≤ hosts' → hosts' ≤ hosts →
      s.budget ports' hosts' ceiling = s.exactBudget ports' hosts' ceiling ∧
      s.budget ports' hosts' ceiling ≤ s.budget ports hosts ceiling) ↔
    s.need ports hosts < 2 ^ 63 := by
  constructor
  · intro h
    by_contra hnot
    have hexact := (h (2 ^ 63 - 1) (by decide) (by decide) _ _ hports le_rfl hhosts le_rfl).1
    refine slackBudget_ne _ (hexact.trans ?_)
    unfold Settings.exactBudget budgetFloor second
    omega
  · intro hfits ceiling hceiling _ ports' hosts' hp hp' hh hh'
    have hmono := need_mono hset (by omega) (by omega) hp' hh'
    have hsmall := budget_eq hset hp hh hceiling (lt_of_le_of_lt hmono hfits)
    refine ⟨hsmall, ?_⟩
    rw [hsmall, budget_eq hset hports hhosts hceiling hfits]
    unfold Settings.exactBudget
    omega

/-- The need of the longest list that a request can hold, on the largest batch. -/
theorem need_lt {s : Settings} (hset : s.InBounds) {ports hosts : Int} (hports : 1 ≤ ports)
    (hports' : ports ≤ 2 ^ 19) (hhosts : 1 ≤ hosts) (hhosts' : hosts ≤ 64) :
    s.need ports hosts < 2 ^ 63 := by
  refine (need_mono hset (by omega) (by omega) hports' hhosts').trans_lt ?_
  obtain ⟨hrate, ⟨htimeout, htimeout'⟩, ⟨hretries, hretries'⟩, hconc, -⟩ := hset
  have hsend : (2 ^ 19 * 64 : Int) / s.rate ≤ 2 ^ 19 * 64 := Int.ediv_le_self _ (by decide)
  have hwork : 2 ^ 19 * 64 * s.timeoutMS * (s.retries + 1) ≤ 2 ^ 19 * 64 * 10000 * 6 := by
    have htries : s.retries + 1 ≤ 6 := by omega
    gcongr
  have hwait : 2 ^ 19 * 64 * s.timeoutMS * (s.retries + 1) / s.concurrency ≤
      2 ^ 19 * 64 * s.timeoutMS * (s.retries + 1) :=
    Int.ediv_le_self _ (mul_nonneg (mul_nonneg (by decide) (by omega)) (by omega))
  unfold Settings.need second millisecond
  generalize 2 ^ 19 * 64 * s.timeoutMS * (s.retries + 1) / s.concurrency = wait at *
  generalize (2 ^ 19 * 64 : Int) / s.rate = sent at *
  omega

/-- A port selection a sweep is sent with: one of the map, or a default. -/
def Selected (job : SentJob) (v : String) : Prop :=
  v ∈ ["top-100", "80,443"] ∨ ("ports", v) ∈ job.tool ∨ ("cdn_ports", v) ∈ job.tool
deriving Decidable

theorem portCount_selected {inp : List (String × String)} {job : SentJob}
    (hvalid : validate inp = .ok job.tool) (hbody : ∀ p ∈ inp, p.2.length ≤ 2 ^ 20) {v : String}
    (hv : Selected job v) (deep : Bool) :
    1 ≤ portCount v deep ∧ portCount v deep ≤ 2 ^ 19 := by
  -- every selection in the map was checked, under one key or the other
  have hchecked : ∀ k kind default, specByKey k = some { key := k, kind, default } →
      kind = .ports ∨ kind = .cdnPorts → (k, v) ∈ job.tool →
      1 ≤ portCount v deep ∧ portCount v deep ≤ 2 ^ 19 := by
    intro k kind default hspec hkind hmem
    obtain ⟨spec, hspec', hone⟩ := checked_of_validate hvalid _ hmem
    cases hspec.symm.trans hspec'
    exact portCount_bounds hkind hone (length_le_of_validate hvalid (by decide) hbody _ hmem) deep
  rcases hv with hdefault | hports | hcdn
  · have hdefaults : ∀ v ∈ ["top-100", "80,443"],
        1 ≤ portCount v false ∧ portCount v false ≤ 2 ^ 19 := by decide +kernel
    cases deep with
    | true => simp [portCount]
    | false => exact hdefaults v hdefault
  · exact hchecked "ports" .ports "top-100" (by rfl) (.inl rfl) hports
  · exact hchecked "cdn_ports" .cdnPorts "80,443" (by rfl) (.inr rfl) hcdn

/-- **The budget of a sweep is exact, and grows with the ports and the hosts**, for every map that
was accepted and whose values are no longer than the body of a request, on 1 to 64 hosts. -/
theorem sweepBudget_exact {inp : List (String × String)} {job : SentJob}
    (hvalid : validate inp = .ok job.tool) (hbody : ∀ p ∈ inp, p.2.length ≤ 2 ^ 20) {v : String}
    (hv : Selected job v) (deep : Bool) {hosts : Int} (hhosts : 1 ≤ hosts) (hhosts' : hosts ≤ 64) :
    ∀ ceiling, 0 < ceiling → ceiling < 2 ^ 63 → ∀ ports' hosts', 1 ≤ ports' →
        ports' ≤ portCount v deep → 1 ≤ hosts' → hosts' ≤ hosts →
      (settings job).budget ports' hosts' ceiling =
      (settings job).exactBudget ports' hosts' ceiling ∧
      (settings job).budget ports' hosts' ceiling ≤
        (settings job).budget (portCount v deep) hosts ceiling := by
  have hset := inBounds_of_validate hvalid
  obtain ⟨hcount, hcount'⟩ := portCount_selected hvalid hbody hv deep
  exact (budget_exact_iff hset hcount hhosts).mpr (need_lt hset hcount hcount' hhosts hhosts')

/-- A job with a port selection and no other settings. -/
def portsJob (ports : String) : SentJob :=
  { taskID := 1, runID := 1, leaseToken := 1, stage := .portScan, targets := [], ingestURL := ""
    tool := [("ports", ports)] }

theorem sweepBudget_exact_full :
    ((validate [("ports", "full")] = .ok (portsJob "full").tool ∧
      ∀ p ∈ [("ports", "full")], p.2.length ≤ 2 ^ 20) ∧ Selected (portsJob "full") "full") ∧
    (settings (portsJob "full")).budget (portCount "full" false) 64 (2 ^ 63 - 1) =
      (settings (portsJob "full")).exactBudget (portCount "full" false) 64 (2 ^ 63 - 1) := by
  suffices h : (_ ∧ _) ∧ _ from ⟨h, (sweepBudget_exact h.1.1 h.1.2 h.2 false (by decide) le_rfl
    _ (by decide) (by decide) _ _ (by decide) le_rfl (by decide) le_rfl).1⟩
  decide +kernel

/-- The same port, over and over. -/
def ones : Nat → String
  | 0 => "1"
  | n + 1 => "1," ++ ones n

theorem toList_ones (n : Nat) : (ones (n + 1)).toList = '1' :: ',' :: (ones n).toList :=
  String.toList_append

theorem splitComma_ones (n : Nat) : splitComma (ones n) = List.replicate (n + 1) "1" := by
  unfold splitComma
  induction n with
  | zero => decide
  | succ n ih =>
    rw [toList_ones, ← List.singleton_append, List.splitOn_append_cons_self_of_not_mem (by decide),
      List.map_cons, ih]
    rfl

theorem portListRe_ones (n : Nat) : portListRe (ones n) = true := by
  rw [portListRe, splitComma_ones, List.all_replicate, if_neg (Nat.succ_ne_zero n)]
  decide

theorem validate_ones (n : Nat) : validate [("ports", ones n)] = .ok [("ports", ones n)] := by
  have hplain : ∀ c ∈ (ones n).toList, c.isWhitespace = false := by
    induction n with
    | zero => simp [ones]
    | succ n ih => simpa [toList_ones, Char.isWhitespace] using ih
  have hspec : specByKey "ports" = some portsSpec := by rfl
  simp only [validate, validateAll, validateEntry, check, hspec, Option.isSome_some, if_true,
    trimSpace_eq_self hplain, validateOne, portsSpec, portListRe_ones, or_true]
  rfl

theorem portCount_ones (n : Nat) : portCount (ones n) false = n + 1 := by
  have hpresets : ∀ v ∈ portPresets, portListRe v = false := by decide
  rw [portCount_list (portListRe_ones n), splitComma_ones, List.length_replicate]
  · rfl
  · intro h
    cases (portListRe_ones n).symm.trans (hpresets _ h)

/-- Beyond that bound the arithmetic wraps: the longest sweep gets the shortest budget. -/
theorem long_list_wraps :
    validate [("ports", ones 79999999)] = .ok (portsJob (ones 79999999)).tool ∧
    portCount (ones 79999999) false = 80000000 ∧
    (settings (portsJob (ones 79999999))).budget 80000000 64 (2 ^ 63 - 1) = budgetFloor ∧
    (settings (portsJob (ones 79999999))).exactBudget 80000000 64 (2 ^ 63 - 1) = 2 ^ 63 - 1 := by
  have hsettings : ∀ v, settings (portsJob v) = ⟨20, 1000, 1, 4⟩ := by
    intro v
    have hempty : atoi "" = none := by decide
    simp [settings, intVal, str, Planner.param, portsJob, hempty]
  refine ⟨validate_ones 79999999, portCount_ones 79999999, ?_, ?_⟩
  · rw [hsettings]
    decide
  · rw [hsettings]
    decide

end PinkGlasses.Scanner
