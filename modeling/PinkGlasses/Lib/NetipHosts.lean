import PinkGlasses.Lib.Netip
import Mathlib.Data.List.Basic
import Mathlib.Logic.Function.Iterate
import Mathlib.Tactic.Ring

/-!
# PinkGlasses.Lib.NetipHosts

The numbers behind the addresses of `PinkGlasses.Lib.Netip`: what one more is, what a mask leaves,
when an IPv6 address has an IPv4 one inside, and which addresses `hostsFrom` runs through. A network
that `netip` reads, `net` reads too (`readCIDR_of_parsePrefix`).
-/

namespace Lib.Netip

section Limbs

variable {b : Nat}

/-- The number a list of limbs spells. -/
def num (l : List (Fin b)) : Nat := l.foldl (fun acc x => acc * b + x.val) 0

theorem foldl_limbs (l : List (Fin b)) (n : Nat) :
    l.foldl (fun acc x => acc * b + x.val) n = n * b ^ l.length + num l := by
  induction l generalizing n with
  | nil => simp [num]
  | cons x xs ih =>
    have hx := ih x.val
    simp only [num, List.foldl_cons, Nat.zero_mul, Nat.zero_add, List.length_cons] at hx ⊢
    rw [ih, hx, num]
    ring

theorem num_cons (x : Fin b) (xs : List (Fin b)) :
    num (x :: xs) = x * b ^ xs.length + num xs := by
  rw [← foldl_limbs]
  simp [num]

theorem num_lt (l : List (Fin b)) : num l < b ^ l.length := by
  induction l with
  | nil => simp [num]
  | cons x xs ih =>
    calc num (x :: xs) = x * b ^ xs.length + num xs := num_cons x xs
      _ < x * b ^ xs.length + b ^ xs.length := Nat.add_lt_add_left ih _
      _ = (x + 1) * b ^ xs.length := by ring
      _ ≤ b * b ^ xs.length := Nat.mul_le_mul_right _ x.isLt
      _ = b ^ (x :: xs).length := by rw [List.length_cons]; ring

/-- One more is one more, or all zeros after the last one. -/
theorem num_incLimbs [NeZero b] (l : List (Fin b)) :
    num (incLimbs l).1 + (if (incLimbs l).2 then b ^ l.length else 0) = num l + 1 := by
  induction l with
  | nil => simp [incLimbs, num]
  | cons x xs ih =>
    simp only [incLimbs]
    by_cases hc : (incLimbs xs).2 = true
    -- the limbs behind overflow: this one counts up, and overflows if it was the last
    · simp only [hc, if_true] at ih ⊢
      rw [num_cons, num_cons, length_incLimbs, List.length_cons, pow_succ']
      have hval : (x + 1).val = (x.val + 1) % b := by
        change (x.val + 1 % b) % b = _
        rw [Nat.add_mod_mod]
      by_cases hlast : x.val + 1 = b
      · have hx : x + 1 = 0 := by
          apply Fin.ext
          rw [hval, hlast, Nat.mod_self, Fin.val_zero]
        have hbig : (x.val + 1) * b ^ xs.length = b * b ^ xs.length := congrArg (· * _) hlast
        rw [Nat.add_mul, Nat.one_mul] at hbig
        simp only [hx, decide_true, if_true, Fin.val_zero, Nat.zero_mul]
        omega
      · rw [Nat.mod_eq_of_lt (by have := x.isLt; omega)] at hval
        have hx : x + 1 ≠ 0 := by
          intro h
          rw [h, Fin.val_zero] at hval
          omega
        simp only [hx, decide_false, Bool.false_eq_true, if_false, hval, Nat.add_mul, Nat.one_mul]
        omega
    · simp only [hc, Bool.false_eq_true, if_false, Nat.add_zero] at ih ⊢
      rw [num_cons, num_cons, length_incLimbs, ih, Nat.add_assoc]

/-- A mask clears what is behind the first bits. -/
theorem num_maskLimbs {w : Nat} (hb : b = 2 ^ w) (bits : Nat) (l : List (Fin b)) :
    num (maskLimbs w bits l) =
      num l / 2 ^ (w * l.length - bits) * 2 ^ (w * l.length - bits) := by
  induction l generalizing bits with
  | nil => simp [maskLimbs, num]
  | cons x xs ih =>
    have hpow : ∀ n, b ^ n = 2 ^ (w * n) := fun n => by rw [hb, pow_mul]
    have hlt := num_lt xs
    rw [hpow] at hlt
    rw [maskLimbs, num_cons, num_cons, length_maskLimbs, List.length_cons, hpow, Nat.mul_add,
      Nat.mul_one, ih]
    dsimp only
    rcases Nat.lt_or_ge bits w with hshort | hlong
    · -- The length ends in this limb: the limbs behind it are cleared.
      rw [Nat.sub_eq_zero_of_le hshort.le, Nat.sub_zero, Nat.div_eq_of_lt hlt, Nat.zero_mul,
        Nat.add_zero, show w * xs.length + w - bits = w * xs.length + (w - bits) by omega, pow_add,
        ← Nat.div_div_eq_div_mul, Nat.mul_comm x.val, Nat.mul_add_div (Nat.two_pow_pos _),
        Nat.div_eq_of_lt hlt, Nat.add_zero]
      ring
    -- the length ends further on: this limb is kept whole
    · have hrest : w * xs.length + w - bits = w * xs.length - (bits - w) := by omega
      obtain ⟨k, hk⟩ : 2 ^ (w * xs.length - (bits - w)) ∣ x.val * 2 ^ (w * xs.length) :=
        (Nat.pow_dvd_pow 2 (Nat.sub_le _ _)).mul_left _
      rw [hrest, Nat.sub_eq_zero_of_le hlong, pow_zero, Nat.div_one, Nat.mul_one, hk,
        Nat.mul_add_div (Nat.two_pow_pos _), Nat.add_mul, Nat.mul_comm k]

end Limbs

namespace Addr

theorem value_lt (a : Addr) : a.value < 2 ^ a.bitLen := by
  cases a with
  | v4 o => exact (num_lt o.val).trans_eq (by rw [o.property]; rfl)
  | v6 g z => exact (num_lt g.val).trans_eq (by rw [g.property]; rfl)

theorem mask_family (a : Addr) (bits : Nat) :
    (a.mask bits).bitLen = a.bitLen ∧ (a.mask bits).zone = a.zone := by
  cases a <;> exact ⟨rfl, rfl⟩

theorem value_mask (a : Addr) (bits : Nat) :
    (a.mask bits).value = a.value / 2 ^ (a.bitLen - bits) * 2 ^ (a.bitLen - bits) := by
  cases a with
  | v4 o =>
    have h := num_maskLimbs (w := 8) rfl bits o.val
    rwa [o.property] at h
  | v6 g z =>
    have h := num_maskLimbs (w := 16) rfl bits g.val
    rwa [g.property] at h

theorem inc_family (a : Addr) : a.inc.bitLen = a.bitLen ∧ a.inc.zone = a.zone := by
  cases a <;> exact ⟨rfl, rfl⟩

theorem value_inc (a : Addr) : a.inc.value = (a.value + 1) % 2 ^ a.bitLen := by
  have hlt := a.value_lt
  have hlt' := a.inc.value_lt
  rw [a.inc_family.1] at hlt'
  -- the carry out of the first limb is what the remainder drops
  have hsum : a.inc.value = a.value + 1 ∨ a.inc.value + 2 ^ a.bitLen = a.value + 1 := by
    cases a with
    | v4 o =>
      have h := num_incLimbs o.val
      rw [o.property] at h
      split at h
      · exact .inr h
      · exact .inl h
    | v6 g z =>
      have h := num_incLimbs g.val
      rw [g.property] at h
      split at h
      · exact .inr h
      · exact .inl h
  rcases hsum with h | h
  · rw [h, Nat.mod_eq_of_lt (h ▸ hlt')]
  · have hall : a.value + 1 = 2 ^ a.bitLen := by omega
    rw [hall, Nat.mod_self]
    omega

theorem iterate_inc (a : Addr) (i : Nat) :
    (inc^[i] a).bitLen = a.bitLen ∧ (inc^[i] a).zone = a.zone ∧
      (inc^[i] a).value = (a.value + i) % 2 ^ a.bitLen := by
  induction i with
  | zero => exact ⟨rfl, rfl, (Nat.mod_eq_of_lt a.value_lt).symm⟩
  | succ i ih =>
    obtain ⟨hlen, hzone, hval⟩ := ih
    rw [Function.iterate_succ_apply']
    refine ⟨(inc_family _).1.trans hlen, (inc_family _).2.trans hzone, ?_⟩
    rw [value_inc, hlen, hval, Nat.mod_add_mod, Nat.add_assoc]

/-- The address is IPv6 and in `::ffff:0:0/96`. -/
def mapped : Addr → Bool
  | v4 _ => false
  | v6 g _ => g.value / 2 ^ 32 == 0xffff

theorem mapped_eq (a : Addr) :
    a.mapped = decide (a.bitLen = 128 ∧ a.value / 2 ^ 32 = 0xffff) := by
  cases a with
  | v4 o => rfl
  | v6 g z => simp only [mapped, bitLen, value, true_and]; rfl

theorem unmap_v6 (g : Limbs 65536 8) (z : String) :
    (mapped (v6 g z) = true ∧ ∃ o : Limbs 256 4, (v6 g z).unmap = v4 o ∧
      o.value = g.value % 2 ^ 32) ∨
      (mapped (v6 g z) = false ∧ (v6 g z).unmap = v6 g z) := by
  obtain ⟨l, hl⟩ := g
  match l, hl with
  | [a, b, c, d, e, f, x, y], hl =>
    have hval : Limbs.value (⟨[a, b, c, d, e, f, x, y], hl⟩ : Limbs 65536 8) =
        ((((((a * 65536 + b) * 65536 + c) * 65536 + d) * 65536 + e) * 65536 + f) * 65536 + x) *
          65536 + y := by
      simp [Limbs.value]
    by_cases hm : a = 0 ∧ b = 0 ∧ c = 0 ∧ d = 0 ∧ e = 0 ∧ f = 65535
    · obtain ⟨rfl, rfl, rfl, rfl, rfl, rfl⟩ := hm
      refine .inl ⟨?_, _, rfl, ?_⟩
      · simp only [mapped, hval]
        simp
        omega
      · rw [hval]
        simp [Limbs.value, octetsOf]
        omega
    · refine .inr ⟨?_, ?_⟩
      -- a value with the mapped prefix has these six groups: digits are unique
      · simp only [mapped, hval, beq_eq_false_iff_ne]
        intro h
        apply hm
        simp only [Fin.ext_iff]
        have ha := a.isLt
        have hb := b.isLt
        have hc := c.isLt
        have hd := d.isLt
        have he := e.isLt
        have hf := f.isLt
        have hx := x.isLt
        have hy := y.isLt
        have h5 : (65535 : Fin 65536).val = 65535 := rfl
        have h0 : (0 : Fin 65536).val = 0 := rfl
        omega
      · unfold unmap
        split
        · simp_all
        · rfl

theorem unmap_eq {x : Addr} (hmapped : x.mapped = false) : x.unmap = x := by
  cases x with
  | v4 o => rfl
  | v6 g z =>
    rcases unmap_v6 g z with ⟨htrue, -⟩ | ⟨-, hself⟩
    · rw [hmapped] at htrue
      cases htrue
    · exact hself

end Addr

theorem network_eq {x : Addr} (hmapped : x.mapped = false) (bits : Nat) :
    network x bits = ⟨x, bits⟩ := by
  unfold network
  rw [Addr.unmap_eq hmapped]
  cases x <;> rfl

theorem div_eq_div_of_low {m n k w : Nat} (hk : k ≤ w) (h : m / 2 ^ w = n / 2 ^ w) :
    m / 2 ^ k = n / 2 ^ k ↔ m % 2 ^ w / 2 ^ k = n % 2 ^ w / 2 ^ k := by
  have hsplit : ∀ v, v / 2 ^ k = v / 2 ^ w * 2 ^ (w - k) + v % 2 ^ w / 2 ^ k := by
    intro v
    have hpow : 2 ^ w = 2 ^ (w - k) * 2 ^ k := by rw [← pow_add, Nat.sub_add_cancel hk]
    conv_lhs => rw [← Nat.div_add_mod v (2 ^ w), hpow]
    rw [Nat.mul_comm (2 ^ (w - k) * 2 ^ k), ← Nat.mul_assoc, Nat.mul_comm _ (2 ^ k), hpow,
      Nat.mul_add_div (Nat.two_pow_pos k)]
  rw [hsplit m, hsplit n, h]
  omega

/-- What a network holds of the addresses written as its own is: those with the same first bits,
except that a network in which not all addresses are IPv4-mapped holds none that is. -/
theorem contains_network {a x : Addr} {bits : Nat} (hbits : bits ≤ a.bitLen)
    (hdvd : 2 ^ (a.bitLen - bits) ∣ a.value) (hzone : x.zone = "") (hlen : x.bitLen = a.bitLen) :
    (network a bits).contains x.unmap =
      ((a.mapped == x.mapped) && sameBits a.bitLen bits a.value x.value) := by
  cases a with
  | v4 o =>
    cases x with
    | v4 o' => rfl
    | v6 g' z' => cases hlen
  | v6 g z =>
    cases x with
    | v4 o' => cases hlen
    | v6 g' z' =>
      obtain rfl : z' = "" := hzone
      rcases Addr.unmap_v6 g z with ⟨hm, o, ho, hval⟩ | ⟨hm, ho⟩
      · -- An odd number of 2^32 is not a multiple of more than that.
        have hlong : 96 ≤ bits := by
          by_contra hshort
          have h33 : 2 ^ 33 ∣ g.value :=
            (Nat.pow_dvd_pow 2 (by simp only [Addr.bitLen]; omega)).trans hdvd
          have hodd : g.value / 2 ^ 32 = 0xffff := by simpa [Addr.mapped] using hm
          omega
        have hbits' : bits ≤ 128 := hbits
        rcases Addr.unmap_v6 g' "" with ⟨hm', o', ho', hval'⟩ | ⟨hm', ho'⟩
        -- both unmapped: the 96 bits above are the same, so the comparison is of the low ones
        · have hsame : g.value / 2 ^ 32 = g'.value / 2 ^ 32 := by
            simp only [Addr.mapped, beq_iff_eq] at hm hm'
            rw [hm, hm']
          have hlow := div_eq_div_of_low (k := 128 - bits) (by omega) hsame
          simp only [network, ho, ho', Prefix.contains, hm, hm', sameBits, hval, hval', Addr.bitLen,
            Addr.value, show 32 - (bits - 96) = 128 - bits by omega, beq_self_eq_true,
            Bool.true_and]
          rw [Bool.eq_iff_iff, beq_iff_eq, beq_iff_eq, hlow]
        · simp [network, ho, ho', Prefix.contains, hm, hm']
      · rcases Addr.unmap_v6 g' "" with ⟨hm', o', ho', hval'⟩ | ⟨hm', ho'⟩
        · simp [network, ho, ho', Prefix.contains, hm, hm']
        · simp [network, ho, ho', Prefix.contains, hm, hm', Addr.bitLen, Addr.value]

/-- The hosts listed are the addresses up to the first the network does not hold. -/
theorem hostsFrom_eq {net : Prefix} {n k : Nat} {a : Addr} (hk : k ≤ n)
    (hin : ∀ i < k, net.contains (Addr.inc^[i] a).unmap = true)
    (hstop : k = n ∨ net.contains (Addr.inc^[k] a).unmap = false) :
    hostsFrom net n a = (List.range k).map fun i => Addr.inc^[i] a := by
  induction n generalizing a k with
  | zero =>
    obtain rfl : k = 0 := by omega
    rfl
  | succ n ih =>
    cases k with
    | zero =>
      have hout : net.contains a.unmap = false := by simpa using hstop
      simp [hostsFrom, hout]
    | succ k =>
      have hfirst : net.contains a.unmap = true := hin 0 (by omega)
      have hrest := ih (a := a.inc) (Nat.le_of_succ_le_succ hk) (fun i hi => hin (i + 1) (by omega))
        (by simpa using hstop)
      rw [hostsFrom, if_pos hfirst, hrest, List.range_succ_eq_map, List.map_cons, List.map_map]
      rfl

/-- **What `netip.ParsePrefix` reads, `net.ParseCIDR` reads as the same network**, if there is but
one slash: they look for it from different ends. -/
theorem readCIDR_of_parsePrefix {s : String} {p : Prefix} (h : parsePrefix s = some p)
    (hslash : s.toList.count '/' ≤ 1) :
    readCIDR s = some (p.ip.mask p.bits, p.bits) := by
  simp only [parsePrefix, Option.bind_eq_bind] at h
  split at h
  · cases h
  rename_i c rest hdrop
  simp only [Option.bind_some, Option.bind_eq_some_iff] at h
  obtain ⟨a, ha, bits, hbits, h⟩ := h
  split at h
  · cases h
  rename_i hok
  cases h
  simp only [not_or, not_not, not_lt] at hok
  -- the text is the address, the last slash, and the length
  have hlast := List.takeWhile_append_dropWhile (p := (· ≠ '/')) (l := s.toList.reverse)
  have hrest : s.toList.reverse.dropWhile (· ≠ '/') = c :: rest := by
    have hleft : (s.toList.reverse.takeWhile (· ≠ '/') ++ s.toList.reverse.dropWhile (· ≠ '/')).drop
        (s.toList.reverse.takeWhile (· ≠ '/')).length = s.toList.reverse.dropWhile (· ≠ '/') :=
      List.drop_left
    rw [hlast] at hleft
    rw [← hleft, ← hdrop, List.length_reverse]
  obtain rfl : c = '/' := by
    have hhead := List.head_dropWhile_not (fun c => decide (c ≠ '/')) (l := s.toList.reverse)
      (by rw [hrest]; exact List.cons_ne_nil _ _)
    simp only [hrest, List.head_cons] at hhead
    simpa using hhead
  have htext : s.toList = rest.reverse ++ '/' ::
      (s.toList.reverse.takeWhile (· ≠ '/')).reverse := by
    rw [hrest] at hlast
    simpa using (congrArg List.reverse hlast).symm
  generalize (s.toList.reverse.takeWhile (· ≠ '/')).reverse = bitsText at *
  have hfirst : ∀ c ∈ rest.reverse, decide (c ≠ '/') = true := by
    intro c hc
    rw [htext, List.count_append, List.count_cons_self] at hslash
    have hnone := List.count_eq_zero.mp (show rest.reverse.count '/' = 0 by omega)
    exact decide_eq_true fun h => hnone (h ▸ hc)
  have htake : s.toList.takeWhile (· ≠ '/') = rest.reverse := by
    rw [htext, List.takeWhile_append_of_pos hfirst, List.takeWhile_cons_of_neg (by decide),
      List.append_nil]
  have hbehind : s.toList.drop rest.reverse.length = '/' :: bitsText := by
    rw [htext, List.drop_left]
  simp only [readCIDR, htake, hbehind, ha, hbits, Option.bind_eq_bind, Option.bind_some]
  rw [if_neg (by simp [hok])]

end Lib.Netip
