import PinkGlasses.Lib.NetipHosts
import PinkGlasses.ScopeGuard
import PinkGlasses.TargetGroups

/-!
# PinkGlasses.ScopeGuard.Refused

Which forbidden addresses the guard refuses. An address can be spelled in several ways: with a zone,
or an IPv4 address inside IPv6. `net`, by which a target was taken for an address or a network,
looks through the second; `netip`, by which the guard reads both the address and the exclusions,
compares **what is written**: `Prefix.Contains` never holds an address with a zone, and never one of
the other family.

So a forbidden address is refused exactly where its spelling is one the guard recognises
(`checkIP_refuses_iff`). Where it is plainly written, and the exclusions are, `netip` and `net`
agree (`spelled_of_holds`) and it is (`recognised_of_plain`).
-/

namespace PinkGlasses.ScopeGuard

open Lib.Netip

/-- The address behind a spelling: without a zone, and IPv4 as IPv4. -/
def plain (a : Addr) : Addr := a.withoutZone.unmap

/-- The network or address a value names, as `net` reads it, holds the address. -/
def holds (value : String) (a : Addr) : Bool :=
  match parseCIDR value with
  | some net => net.contains a
  | none => (parseIP value).any (·.unmap == a)

/-- **The address must not be scanned**: it is private, or a target excludes it. Values are trimmed
where their kind is found. -/
def Forbidden (allowPrivate : Bool) (targets : List ScopeTarget) (a : Addr) : Prop :=
  (allowPrivate = false ∧ ∃ p ∈ privateBlocks, p.contains (plain a) = true) ∨
    ∃ t ∈ targets, holds (trimSpace t.value) (plain a) = true
deriving Decidable

/-- The exclusion, in a form `netip` reads, is written in the family of the address, and the address
as written has its first bits. -/
def Spelled (value : String) (a : Addr) : Prop :=
  ∃ p ∈ exclusionOf value, p.ip.bitLen = a.bitLen ∧
    sameBits a.bitLen p.bits p.ip.value a.value = true
deriving Decidable

/-- **The guard recognises the address**: it has no zone, and it is private and not spelled inside
IPv6, or an exclusion is spelled like it. -/
def Recognised (allowPrivate : Bool) (targets : List ScopeTarget) (a : Addr) : Prop :=
  a.zone = "" ∧
    ((allowPrivate = false ∧ a.mapped = false ∧ ∃ p ∈ privateBlocks, p.contains (plain a) = true) ∨
      ∃ t ∈ targets, Spelled t.value a)
deriving Decidable

section Spelling

variable {a : Addr}

theorem contains_iff {p : Prefix} : p.contains a = true ↔ a.zone = "" ∧ p.ip.bitLen = a.bitLen ∧
    sameBits a.bitLen p.bits p.ip.value a.value = true := by
  obtain ⟨ip, bits⟩ := p
  cases ip <;> cases a <;> simp [Prefix.contains, Addr.zone, Addr.bitLen, Addr.value]

theorem plain_eq_self (hzone : a.zone = "") (hmapped : a.mapped = false) : plain a = a := by
  have hself : a.withoutZone = a := by
    cases a with
    | v4 o => rfl
    | v6 g z => cases hzone; rfl
  rw [plain, hself, Addr.unmap_eq hmapped]

/-- No IPv6 block of `privateBlocks` reaches into `::ffff:0:0/96`. -/
theorem mapped_of_private {p : Prefix} (hp : p ∈ privateBlocks) (h : p.contains a = true) :
    a.mapped = false := by
  have hblocks : ∀ p ∈ privateBlocks, p.ip.bitLen = 128 → p.ip.value / 2 ^ max (128 - p.bits) 32 ≠
      0xffff / 2 ^ (max (128 - p.bits) 32 - 32) := by decide +kernel
  obtain ⟨-, hlen, hbits⟩ := contains_iff.mp h
  rw [Addr.mapped_eq, decide_eq_false_iff_not]
  rintro ⟨h128, hmapped⟩
  rw [h128] at hlen hbits
  have hsame : p.ip.value / 2 ^ (128 - p.bits) = a.value / 2 ^ (128 - p.bits) := beq_iff_eq.mp hbits
  -- Both have the same bits above the longer of the block's hosts and the 32 bits of IPv4.
  have hcoarse : ∀ k v, k ≤ max (128 - p.bits) 32 → v / 2 ^ max (128 - p.bits) 32 =
      v / 2 ^ k / 2 ^ (max (128 - p.bits) 32 - k) := by
    intro k v hk
    rw [Nat.div_div_eq_div_mul, ← pow_add, Nat.add_sub_cancel' hk]
  apply hblocks p hp hlen
  rw [hcoarse _ p.ip.value (le_max_left _ _), hsame, ← hcoarse _ _ (le_max_left _ _),
    hcoarse 32 _ (le_max_right _ _), hmapped]

theorem private_iff : (∃ p ∈ privateBlocks, p.contains a = true) ↔
    a.zone = "" ∧ a.mapped = false ∧ ∃ p ∈ privateBlocks, p.contains (plain a) = true := by
  constructor
  · rintro ⟨p, hp, h⟩
    have hzone := (contains_iff.mp h).1
    have hmapped := mapped_of_private hp h
    refine ⟨hzone, hmapped, p, hp, ?_⟩
    rw [plain_eq_self hzone hmapped]
    exact h
  · rintro ⟨hzone, hmapped, p, hp, h⟩
    rw [plain_eq_self hzone hmapped] at h
    exact ⟨p, hp, h⟩

end Spelling

variable {allowPrivate : Bool} {targets : List ScopeTarget} {s : String} {a : Addr}

theorem excluded_iff (hmode : ∀ t ∈ targets, t.mode = .exclude) :
    (∃ p ∈ (new targets).exclusions, p.contains a = true) ↔
      a.zone = "" ∧ ∃ t ∈ targets, Spelled t.value a := by
  have hall : targets.filter (·.mode == .exclude) = targets :=
    List.filter_eq_self.mpr fun t ht => beq_iff_eq.mpr (hmode t ht)
  simp only [new, hall, List.mem_filterMap, contains_iff, Spelled, Option.mem_def]
  constructor
  · rintro ⟨p, ⟨t, ht, hp⟩, hzone, hspelled⟩
    exact ⟨hzone, t, ht, p, hp, hspelled⟩
  · rintro ⟨hzone, t, ht, p, hp, hspelled⟩
    exact ⟨p, ⟨t, ht, hp⟩, hzone, hspelled⟩

theorem checkIP_allowed (hs : parseAddr s = some a) (hmode : ∀ t ∈ targets, t.mode = .exclude) :
    ((new targets).checkIP allowPrivate s false).allowed = false ↔
      Recognised allowPrivate targets a := by
  have hcode : ((new targets).checkIP allowPrivate s false).allowed = false ↔
      (allowPrivate = false ∧ ∃ p ∈ privateBlocks, p.contains a = true) ∨
        ∃ p ∈ (new targets).exclusions, p.contains a = true := by
    simp only [Guard.checkIP, hs, ← List.any_eq_true]
    cases allowPrivate <;> cases privateBlocks.any (·.contains a) <;>
      cases (new targets).exclusions.any (·.contains a) <;> simp
  rw [hcode, private_iff, excluded_iff hmode, and_left_comm, ← and_or_left, Recognised]

/-- **A forbidden address is refused exactly if the guard recognises its spelling.** -/
theorem checkIP_refuses_iff (hs : parseAddr s = some a) (htargets : ∀ t ∈ targets,
      t.mode = .exclude ∧ (Handler.guessKind t.value = .ip ∨ Handler.guessKind t.value = .cidr)) :
    (Forbidden allowPrivate targets a →
      ((new targets).checkIP allowPrivate s false).allowed = false) ↔
    (Forbidden allowPrivate targets a → Recognised allowPrivate targets a) := by
  rw [checkIP_allowed hs fun t ht => (htargets t ht).1]

/-! ### Plain spellings -/

/-- The value is written without blanks around it and not inside IPv6, `netip` reads it, and both
take it for a network or neither does. -/
def PlainlyWritten (value : String) : Prop :=
  trimSpace value = value ∧ value.toList.count '/' ≤ 1 ∧
    (parsePrefix value).isSome = (parseCIDR value).isSome ∧
    ∃ p ∈ exclusionOf value, (p.ip.mask p.bits).mapped = false
deriving Decidable

/-- **An exclusion that is plainly written is spelled like all it holds**: `netip` and `net` read it
as the same network. -/
theorem spelled_of_holds {value : String} (hvalue : PlainlyWritten value)
    (h : holds value a = true) : Spelled value a := by
  obtain ⟨-, hslash, hboth, p, hp, hplain⟩ := hvalue
  refine ⟨p, hp, ?_⟩
  unfold exclusionOf at hp
  split at hp
  · rename_i hprefix
    cases hp
    obtain ⟨hlen, -⟩ := Addr.mask_family p.ip p.bits
    rw [holds, parseCIDR, readCIDR_of_parsePrefix hprefix hslash, Option.map_some] at h
    dsimp only at h
    rw [network_eq hplain] at h
    obtain ⟨-, hfamily, hsame⟩ := contains_iff.mp h
    rw [hlen] at hfamily
    rw [Addr.value_mask, hfamily, sameBits, Nat.mul_div_cancel _ (Nat.two_pow_pos _)] at hsame
    exact ⟨hfamily, hsame⟩
  · rename_i hnone
    obtain ⟨b, hb, rfl⟩ := Option.map_eq_some_iff.mp hp
    rw [hnone, Option.isSome_none, eq_comm, Option.isSome_eq_false_iff, Option.isNone_iff_eq_none]
      at hboth
    rw [holds, hboth] at h
    obtain ⟨b', hb', heq⟩ := (Option.any_eq_true _ _).mp h
    cases hb.symm.trans (Option.filter_eq_some_iff.mp hb').1
    -- a mask of full length clears nothing, so the address is not inside IPv6 either
    have hself : b.mapped = false := by
      have hlen : b.withoutZone.bitLen = b.bitLen := by cases b <;> rfl
      rw [prefixFrom, Addr.mapped_eq, (Addr.mask_family _ _).1, Addr.value_mask, hlen, Nat.sub_self,
        pow_zero, Nat.div_one, Nat.mul_one] at hplain
      rw [Addr.mapped_eq]
      cases b <;> exact hplain
    obtain rfl : b = a := (Addr.unmap_eq hself).symm.trans (beq_iff_eq.mp heq)
    cases b <;> exact ⟨rfl, beq_self_eq_true _⟩

/-- A forbidden address that is plainly written, as the exclusions are, is recognised. -/
theorem recognised_of_plain (hzone : a.zone = "") (hmapped : a.mapped = false)
    (htargets : ∀ t ∈ targets, PlainlyWritten t.value) (h : Forbidden allowPrivate targets a) :
    Recognised allowPrivate targets a := by
  rcases h with ⟨hallow, hprivate⟩ | ⟨t, ht, hholds⟩
  · exact ⟨hzone, .inl ⟨hallow, hmapped, hprivate⟩⟩
  · rw [(htargets t ht).1, plain_eq_self hzone hmapped] at hholds
    exact ⟨hzone, .inr ⟨t, ht, spelled_of_holds (htargets t ht) hholds⟩⟩

/-- An exclusion of documentation addresses. -/
def excludedDocs : ScopeTarget :=
  { id := 1, scopeID := 1, kind := .cidr, value := "192.0.2.0/24", mode := .exclude }

theorem checkIP_refuses_docs :
    Forbidden false [excludedDocs] (.v4 ⟨[192, 0, 2, 7], rfl⟩) ∧
      ((new [excludedDocs]).checkIP false "192.0.2.7" false).allowed = false := by
  have hforbidden : Forbidden false [excludedDocs] (.v4 ⟨[192, 0, 2, 7], rfl⟩) := by decide +kernel
  exact ⟨hforbidden, (checkIP_refuses_iff (by decide +kernel) (by decide +kernel)).mpr
    (recognised_of_plain rfl rfl (by decide +kernel)) hforbidden⟩

/-- A private address inside IPv6, one with a zone, and one whose exclusion has a length with a
leading zero are let through. -/
theorem checkIP_allows_spellings :
    [("::ffff:10.0.0.1", []), ("fe80::1%eth0", []),
      ("192.0.2.7", [{ excludedDocs with value := "192.0.2.0/024" }])].all (fun x =>
        (parseAddr x.1).any (fun a => decide (Forbidden false x.2 a)) &&
          ((new x.2).checkIP false x.1 false).allowed) = true := by
  decide +kernel

end PinkGlasses.ScopeGuard
