import PinkGlasses.Lib.NetipHosts
import PinkGlasses.ScopeGuard

/-!
# PinkGlasses.ScopeGuard.Hosts

The hosts of a network. `ExpandCIDRHosts` adds one to an address until the network does not hold it
any more, so **it has to meet an address outside after the last one**: behind the all-ones address
comes the all-zeros one, which `0.0.0.0/0` holds as well, and inside an IPv6 network the loop ends
early at the first IPv4-mapped address, which `IPNet.Contains` takes for an IPv4 one. Neither can
happen before 2^32 addresses are listed (`expandCIDRHosts_lists`), and the planner asks for 4096.
-/

namespace PinkGlasses

open Lib.Netip

namespace ScopeGuard

/-- The first of the IPv4-mapped addresses, `::ffff:0:0`. -/
def firstMapped : Nat := 0xffff * 2 ^ 32

/-- `out` is the texts of the first addresses of the network of `a`, in order: as many as there are,
but no more than `cap`. -/
def Lists (a : Addr) (bits cap : Nat) (out : List String) : Prop :=
  ∃ l : List Addr, out = l.map Addr.text ∧
    (∀ x ∈ l, x.bitLen = a.bitLen ∧ x.zone = "") ∧
    l.map Addr.value = (List.range (min cap (2 ^ (a.bitLen - bits)))).map
      fun i => a.value / 2 ^ (a.bitLen - bits) * 2 ^ (a.bitLen - bits) + i

/-- No more of `0.0.0.0/0` is asked for than there is, and the addresses asked for of an IPv6
network do not run into the IPv4-mapped ones from below. -/
def StaysInside (a : Addr) (bits cap : Nat) : Prop :=
  (a.bitLen = 32 → bits = 0 → cap ≤ 2 ^ 32) ∧
    (a.bitLen = 128 →
      firstMapped ≤ a.value ∨ a.value + min cap (2 ^ (128 - bits)) ≤ firstMapped)
deriving Decidable

/-- What `readCIDR` reads is the first address of a network. -/
theorem readCIDR_spec {cidr : String} {a : Addr} {bits : Nat} (h : readCIDR cidr = some (a, bits)) :
    bits ≤ a.bitLen ∧ a.zone = "" ∧ 2 ^ (a.bitLen - bits) ∣ a.value := by
  simp only [readCIDR, Option.bind_eq_bind] at h
  split at h
  · cases h
  simp only [Option.bind_some, Option.bind_eq_some_iff] at h
  obtain ⟨b, -, n, -, h⟩ := h
  split at h
  · cases h
  · rename_i hok
    obtain ⟨rfl, rfl⟩ : b.mask n = a ∧ n = bits := by simpa using h
    rw [not_or, not_not, not_lt] at hok
    obtain ⟨hlen, hzone⟩ := Addr.mask_family b n
    rw [hlen, hzone, Addr.value_mask]
    exact ⟨hok.2, hok.1, Nat.dvd_mul_left _ _⟩

section Network

variable {a : Addr} {bits : Nat} (hbits : bits ≤ a.bitLen) (hzone : a.zone = "")
  (hdvd : 2 ^ (a.bitLen - bits) ∣ a.value)

include hbits hdvd in
theorem value_add_size_le : a.value + 2 ^ (a.bitLen - bits) ≤ 2 ^ a.bitLen := by
  obtain ⟨m, hm⟩ := hdvd
  have hlt := a.value_lt
  have hpow : 2 ^ a.bitLen = 2 ^ (a.bitLen - bits) * 2 ^ bits := by
    rw [← pow_add, Nat.sub_add_cancel hbits]
  rw [hm, hpow] at hlt ⊢
  have hm' : m < 2 ^ bits := Nat.lt_of_mul_lt_mul_left hlt
  calc 2 ^ (a.bitLen - bits) * m + 2 ^ (a.bitLen - bits) =
      2 ^ (a.bitLen - bits) * (m + 1) := by ring
    _ ≤ 2 ^ (a.bitLen - bits) * 2 ^ bits := Nat.mul_le_mul_left _ hm'

include hbits hdvd in
theorem value_iterate {i : Nat} (hi : i < 2 ^ (a.bitLen - bits)) :
    (Addr.inc^[i] a).value = a.value + i := by
  have hle := value_add_size_le hbits hdvd
  rw [(a.iterate_inc i).2.2, Nat.mod_eq_of_lt (by omega)]

include hbits hzone hdvd in
/-- The network holds an address of its range unless only one of it and the first is IPv4-mapped. -/
theorem contains_iterate {i : Nat} (hi : i < 2 ^ (a.bitLen - bits)) :
    (network a bits).contains (Addr.inc^[i] a).unmap = true ↔
      (a.bitLen = 128 → (a.value / 2 ^ 32 = 0xffff ↔ (a.value + i) / 2 ^ 32 = 0xffff)) := by
  obtain ⟨hlen, hz, -⟩ := a.iterate_inc i
  rw [contains_network hbits hdvd (hz.trans hzone) hlen, Addr.mapped_eq, Addr.mapped_eq, hlen,
    value_iterate hbits hdvd hi]
  obtain ⟨m, hm⟩ := hdvd
  have hsame : (a.value + i) / 2 ^ (a.bitLen - bits) = a.value / 2 ^ (a.bitLen - bits) := by
    rw [hm, Nat.mul_add_div (Nat.two_pow_pos _), Nat.div_eq_of_lt hi, Nat.add_zero,
      Nat.mul_div_cancel_left _ (Nat.two_pow_pos _)]
  simp only [sameBits, hsame, beq_self_eq_true, Bool.and_true, beq_iff_eq, decide_eq_decide]
  tauto

include hbits hzone hdvd in
/-- The address behind the last one is outside, except that everything is inside a network of length
zero. -/
theorem contains_behind (hpos : bits ≠ 0) :
    (network a bits).contains (Addr.inc^[2 ^ (a.bitLen - bits)] a).unmap = false := by
  obtain ⟨hlen, hz, hval⟩ := a.iterate_inc (2 ^ (a.bitLen - bits))
  rw [contains_network hbits hdvd (hz.trans hzone) hlen, hval]
  have hle := value_add_size_le hbits hdvd
  obtain ⟨m, hm⟩ := hdvd
  have hpow : 2 ^ (a.bitLen - bits) < 2 ^ a.bitLen := Nat.pow_lt_pow_right (by omega) (by omega)
  have hne : (a.value + 2 ^ (a.bitLen - bits)) % 2 ^ a.bitLen / 2 ^ (a.bitLen - bits) ≠
      a.value / 2 ^ (a.bitLen - bits) := by
    rcases Nat.lt_or_ge (a.value + 2 ^ (a.bitLen - bits)) (2 ^ a.bitLen) with hlt | hge
    · rw [Nat.mod_eq_of_lt hlt, Nat.add_div_right _ (Nat.two_pow_pos _)]
      omega
    · rw [Nat.le_antisymm hle hge, Nat.mod_self, Nat.zero_div]
      have hfirst : 1 ≤ a.value / 2 ^ (a.bitLen - bits) := by
        rw [Nat.le_div_iff_mul_le (Nat.two_pow_pos _), Nat.one_mul]
        have : 2 * 2 ^ (a.bitLen - bits) ≤ 2 ^ a.bitLen := by
          rw [← pow_succ']
          exact Nat.pow_le_pow_right (by omega) (by omega)
        omega
      omega
  simp [sameBits, hne.symm]

include hbits hzone hdvd in
/-- A list of the first `k` addresses is the right one if it is long enough. -/
theorem lists_iff_length {cap k : Nat} {hosts : List Addr}
    (hhosts : hosts = (List.range k).map (Addr.inc^[·] a)) :
    Lists a bits cap (hosts.map Addr.text) ↔ k = min cap (2 ^ (a.bitLen - bits)) := by
  constructor
  · intro ⟨l, htext, hfam, hval⟩
    have hlen := congrArg List.length htext
    have hlen' := congrArg List.length hval
    simp only [hhosts, List.length_map, List.length_range] at hlen hlen'
    omega
  · intro hk
    refine ⟨hosts, rfl, ?_, ?_⟩
    · intro x hx
      rw [hhosts] at hx
      obtain ⟨i, -, rfl⟩ := List.mem_map.mp hx
      obtain ⟨hlen, hz, -⟩ := a.iterate_inc i
      exact ⟨hlen, hz.trans hzone⟩
    · rw [hhosts, List.map_map, ← hk, Nat.div_mul_cancel hdvd]
      apply List.map_congr_left
      intro i hi
      rw [List.mem_range] at hi
      exact value_iterate hbits hdvd (by omega)

include hbits hdvd in
/-- In a range that stays inside, every address is IPv4-mapped or none is. -/
theorem mapped_iff_of_stays {cap i : Nat} (hin : StaysInside a bits cap)
    (hi : i < min cap (2 ^ (a.bitLen - bits))) (h128 : a.bitLen = 128) :
    a.value / 2 ^ 32 = 0xffff ↔ (a.value + i) / 2 ^ 32 = 0xffff := by
  have hin := hin.2 h128
  simp only [h128, firstMapped] at hbits hdvd hin hi
  rcases hin with hhigh | hlow
  · rcases Nat.lt_or_ge a.value (2 ^ 48) with hlt | hge
    · -- The network is in `::ffff:0:0/96`, so its size divides 2^32.
      have hshort : 128 - bits ≤ 32 := by
        by_contra hlong
        have h33 : 2 ^ 33 ∣ a.value := (Nat.pow_dvd_pow 2 (by omega)).trans hdvd
        omega
      have hrest : 2 ^ (128 - bits) ∣ 2 ^ 48 - a.value :=
        Nat.dvd_sub (Nat.pow_dvd_pow 2 (by omega)) hdvd
      have hroom := Nat.le_of_dvd (by omega) hrest
      omega
    · omega
  · omega

include hbits hzone hdvd in
theorem hostsFrom_of_stays {cap : Nat} (hin : StaysInside a bits cap) :
    hostsFrom (network a bits) cap a =
      (List.range (min cap (2 ^ (a.bitLen - bits)))).map (Addr.inc^[·] a) := by
  apply hostsFrom_eq (Nat.min_le_left _ _)
  · intro i hi
    rw [contains_iterate hbits hzone hdvd (by omega)]
    exact mapped_iff_of_stays hbits hdvd hin hi
  · rcases Nat.lt_or_ge (2 ^ (a.bitLen - bits)) cap with hlt | hge
    · right
      rw [Nat.min_eq_right hlt.le]
      apply contains_behind hbits hzone hdvd
      -- Neither all of IPv4 nor all of IPv6 leaves room for more addresses than there are.
      rintro rfl
      have hzero := Nat.eq_zero_of_dvd_of_lt hdvd a.value_lt
      have hfamily : a.bitLen = 32 ∨ a.bitLen = 128 := by cases a <;> simp [Addr.bitLen]
      rcases hfamily with h32 | h128
      · have hcap := hin.1 h32 rfl
        rw [h32] at hlt
        omega
      · have hin := hin.2 h128
        simp only [h128, hzero, firstMapped] at hlt hin
        omega
    · exact .inl (Nat.min_eq_left hge)

include hzone in
/-- Behind the last address of IPv4 everything starts again. -/
theorem hostsFrom_all (h32 : a.bitLen = 32) (hdvd : 2 ^ a.bitLen ∣ a.value) (cap : Nat) :
    hostsFrom (network a 0) cap a = (List.range cap).map (Addr.inc^[·] a) := by
  apply hostsFrom_eq le_rfl _ (.inl rfl)
  intro i hi
  obtain ⟨hlen, hz, -⟩ := a.iterate_inc i
  have hfirst := a.value_lt
  have hnext := (Addr.inc^[i] a).value_lt
  rw [hlen, h32] at hnext
  rw [h32] at hfirst
  rw [contains_network (Nat.zero_le _) hdvd (hz.trans hzone) hlen, Addr.mapped_eq, Addr.mapped_eq,
    hlen]
  simp [h32, sameBits]
  omega

include hbits hzone hdvd in
/-- The loop ends at `::ffff:0:0`. -/
theorem hostsFrom_mapped {cap : Nat} (h128 : a.bitLen = 128) (hlow : a.value < firstMapped)
    (hlong : firstMapped < a.value + min cap (2 ^ (128 - bits))) :
    hostsFrom (network a bits) cap a =
      (List.range (firstMapped - a.value)).map (Addr.inc^[·] a) := by
  simp only [firstMapped] at hlow hlong ⊢
  apply hostsFrom_eq (by omega)
  · intro i hi
    rw [contains_iterate hbits hzone hdvd (by rw [h128]; omega)]
    omega
  · right
    have hend : a.value + (0xffff * 2 ^ 32 - a.value) = 0xffff * 2 ^ 32 := by omega
    rw [← Bool.not_eq_true, contains_iterate hbits hzone hdvd (by rw [h128]; omega), hend]
    intro hiff
    have hfirst := hiff h128
    omega

end Network

/-- **The hosts listed are the first addresses of the network exactly when the range asked for stays
inside.** -/
theorem expandCIDRHosts_lists_iff {cidr : String} {a : Addr} {bits cap : Nat}
    (h : readCIDR cidr = some (a, bits)) (hcap : 1 ≤ cap) :
    Lists a bits cap (expandCIDRHosts cidr cap) ↔ StaysInside a bits cap := by
  obtain ⟨hbits, hzone, hdvd⟩ := readCIDR_spec h
  simp only [expandCIDRHosts, h, Nat.max_eq_left hcap]
  constructor
  · intro hlists
    by_contra hout
    rw [StaysInside, not_and_or] at hout
    rcases hout with hout | hout <;> push Not at hout
    · obtain ⟨h32, rfl, hmany⟩ := hout
      have hlen := (lists_iff_length hbits hzone hdvd (hostsFrom_all hzone h32 hdvd cap)).mp hlists
      rw [h32] at hlen
      omega
    · obtain ⟨h128, hlow, hlong⟩ := hout
      have hlen := (lists_iff_length hbits hzone hdvd
        (hostsFrom_mapped hbits hzone hdvd h128 hlow hlong)).mp hlists
      rw [h128] at hlen
      omega
  · intro hin
    exact (lists_iff_length hbits hzone hdvd (hostsFrom_of_stays hbits hzone hdvd hin)).mpr rfl

/-- **No network lets the range run out if at most 2^32 addresses are asked for.** Below the
IPv4-mapped addresses a network of more than 2^32 addresses begins at a multiple of 2^33, which
leaves room for as many. -/
theorem staysInside_of_le {a : Addr} {bits cap : Nat} (hdvd : 2 ^ (a.bitLen - bits) ∣ a.value)
    (hcap : cap ≤ 2 ^ 32) : StaysInside a bits cap := by
  refine ⟨fun _ _ => hcap, fun h128 => ?_⟩
  rw [h128] at hdvd
  rw [or_iff_not_imp_left, not_le]
  intro hlow
  simp only [firstMapped] at hlow ⊢
  rcases Nat.lt_or_ge 32 (128 - bits) with hlong | hshort
  · have h33 : 2 ^ 33 ∣ a.value := (Nat.pow_dvd_pow 2 hlong).trans hdvd
    omega
  · -- a small network does not straddle a multiple of 2^32
    have hrest : 2 ^ (128 - bits) ∣ 0xffff * 2 ^ 32 - a.value :=
      Nat.dvd_sub ((Nat.pow_dvd_pow 2 hshort).mul_left _) hdvd
    have hroom := Nat.le_of_dvd (by omega) hrest
    omega

/-- **The hosts listed are the first addresses of the network**, for every network and every cap up
to 2^32. -/
theorem expandCIDRHosts_lists {cidr : String} {a : Addr} {bits cap : Nat}
    (h : readCIDR cidr = some (a, bits)) (hcap : 1 ≤ cap) (hle : cap ≤ 2 ^ 32) :
    Lists a bits cap (expandCIDRHosts cidr cap) := by
  obtain ⟨-, -, hdvd⟩ := readCIDR_spec h
  exact (expandCIDRHosts_lists_iff h hcap).mpr (staysInside_of_le hdvd hle)

/-- The planner's cap, at the end of IPv4. -/
theorem expandCIDRHosts_lists_allOnes :
    Lists (.v4 ⟨[255, 255, 255, 252], rfl⟩) 30 4096 (expandCIDRHosts "255.255.255.254/30" 4096) :=
  expandCIDRHosts_lists (by decide +kernel) (by decide) (by decide)

/-- Every address of `0.0.0.0/0` and one more: the first is listed again. -/
theorem expandCIDRHosts_repeats :
    readCIDR "0.0.0.0/0" = some (.v4 ⟨[0, 0, 0, 0], rfl⟩, 0) ∧
      ¬Lists (.v4 ⟨[0, 0, 0, 0], rfl⟩) 0 (2 ^ 32 + 1)
        (expandCIDRHosts "0.0.0.0/0" (2 ^ 32 + 1)) := by
  have hread : readCIDR "0.0.0.0/0" = some (.v4 ⟨[0, 0, 0, 0], rfl⟩, 0) := by decide +kernel
  refine ⟨hread, ?_⟩
  simp only [expandCIDRHosts, hread]
  rw [lists_iff_length (Nat.zero_le _) rfl ⟨0, rfl⟩ (hostsFrom_all rfl rfl ⟨0, rfl⟩ _)]
  simp [Addr.bitLen]

end ScopeGuard

end PinkGlasses
