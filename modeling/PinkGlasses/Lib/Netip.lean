import Mathlib.Data.Nat.Digits.Defs
import Mathlib.Logic.Basic

/-!
# PinkGlasses.Lib.Netip

Internet addresses as texts: the part of Go's `net/netip` and `net` that reads addresses and
prefixes, asks which addresses a prefix holds, lists the hosts of a network and prints them.

An address is a list of **limbs**, the four octets of an IPv4 address or the eight 16-bit groups of
an IPv6 one, most significant first. Their numbers are in `PinkGlasses.Lib.NetipHosts`.
-/

namespace Lib.Netip

/-- `n` limbs in base `b`, most significant first. -/
abbrev Limbs (b n : Nat) := { l : List (Fin b) // l.length = n }

/-- The number the limbs spell. -/
def Limbs.value {b n : Nat} (l : Limbs b n) : Nat := l.val.foldl (fun acc x => acc * b + x.val) 0

/-- `netip.Addr`. -/
inductive Addr
  | v4 (octets : Limbs 256 4)
  | v6 (groups : Limbs 65536 8) (zone : String)
deriving DecidableEq

namespace Addr

/-- `Addr.BitLen`. -/
def bitLen : Addr → Nat
  | v4 _ => 32
  | v6 _ _ => 128

def zone : Addr → String
  | v4 _ => ""
  | v6 _ z => z

def withoutZone : Addr → Addr
  | v4 o => v4 o
  | v6 g _ => v6 g ""

def value : Addr → Nat
  | v4 o => o.value
  | v6 g _ => g.value

/-- The two octets of a 16-bit group. -/
def octetsOf (g : Fin 65536) : List (Fin 256) := [⟨g / 256, by omega⟩, ⟨g % 256, by omega⟩]

/-- `Addr.Unmap`: an IPv4 address written inside IPv6 is that address. -/
def unmap : Addr → Addr
  | v6 ⟨[0, 0, 0, 0, 0, 65535, x, y], _⟩ _ => v4 ⟨octetsOf x ++ octetsOf y, rfl⟩
  | a => a

/-- `Addr.IsPrivate`. -/
def isPrivate (a : Addr) : Bool :=
  match a.unmap with
  | v4 ⟨[a, b, _, _], _⟩ => a == 10 || (a == 172 && b.val / 16 == 1) || (a == 192 && b == 168)
  | v6 ⟨g :: _, _⟩ _ => g.val / 512 == 0xfc00 / 512
  | _ => false

/-- `Addr.IsLoopback`. -/
def isLoopback (a : Addr) : Bool :=
  match a.unmap with
  | v4 ⟨a :: _, _⟩ => a == 127
  | v6 g _ => g.val == [0, 0, 0, 0, 0, 0, 0, 1]
  | _ => false

/-- `Addr.IsLinkLocalUnicast`. -/
def isLinkLocalUnicast (a : Addr) : Bool :=
  match a.unmap with
  | v4 ⟨[a, b, _, _], _⟩ => a == 169 && b == 254
  | v6 ⟨g :: _, _⟩ _ => g.val / 64 == 0xfe80 / 64
  | _ => false

end Addr

/-! ### Numbers -/

/-- The value of a digit in base `b`, at most sixteen. -/
def digit (b : Nat) (c : Char) : Option Nat :=
  let v :=
    if '0' ≤ c ∧ c ≤ '9' then some (c.toNat - '0'.toNat)
    else if 'a' ≤ c ∧ c ≤ 'f' then some (c.toNat - 'a'.toNat + 10)
    else if 'A' ≤ c ∧ c ≤ 'F' then some (c.toNat - 'A'.toNat + 10)
    else none
  v.filter (· < b)

/-- A number in base `b`: at least one digit and nothing else. -/
def number (b : Nat) (cs : List Char) : Option Nat :=
  if cs = [] then none else (cs.mapM (digit b)).map (·.foldl (fun acc d => acc * b + d) 0)

/-- The digits of a number, as `strconv` prints it. -/
def digits (b n : Nat) : List Char :=
  if n = 0 then ['0'] else (Nat.digits b n).reverse.map Nat.digitChar

/-! ### Reading addresses -/

/-- One field of a dotted quad: no leading zero, at most 255. -/
def octet (cs : List Char) : Option (Fin 256) :=
  if 1 < cs.length ∧ cs.head? = some '0' then none
  else (number 10 cs).bind fun n => if h : n < 256 then some ⟨n, h⟩ else none

/-- One field of an IPv6 address: one to four hexadecimal digits. -/
def group (cs : List Char) : Option (Fin 65536) :=
  if 4 < cs.length then none
  else (number 16 cs).bind fun n => if h : n < 65536 then some ⟨n, h⟩ else none

/-- The limbs, if there are `n` of them. -/
def limbs {b : Nat} (n : Nat) (l : List (Fin b)) : Option (Limbs b n) :=
  if h : l.length = n then some ⟨l, h⟩ else none

/-- A dotted quad. -/
def parseIPv4 (cs : List Char) : Option (Limbs 256 4) :=
  ((cs.splitOn '.').mapM octet).bind (limbs 4)

/-- Two octets as one group. -/
def groupOf (x y : Fin 256) : Fin 65536 := ⟨x * 256 + y, by omega⟩

/-- The groups of a dotted quad at the end of an IPv6 address. -/
def embedded (cs : List Char) : Option (List (Fin 65536)) :=
  match parseIPv4 cs with
  | some ⟨[a, b, c, d], _⟩ => some [groupOf a b, groupOf c d]
  | _ => none

/-- The fields between colons; the last may be a dotted quad. -/
def fields : List (List Char) → Option (List (Fin 65536))
  | [] => some []
  | [f] => if f.contains '.' then embedded f else (group f).map ([·])
  | f :: fs => (group f).bind fun g => (fields fs).map (g :: ·)

/-- The fields of a text, none for the empty text. -/
def fieldsOf (cs : List Char) : Option (List (Fin 65536)) :=
  if cs = [] then some [] else fields (cs.splitOn ':')

/-- The parts before and after the first `::`. -/
def splitDouble : List Char → Option (List Char × List Char)
  | ':' :: ':' :: rest => some ([], rest)
  | c :: cs => (splitDouble cs).map fun (l, r) => (c :: l, r)
  | [] => none

/-- An IPv6 address without its zone. `::` stands for at least one group of zeros. -/
def parseGroups (cs : List Char) : Option (Limbs 65536 8) :=
  match splitDouble cs with
  | none => (fields (cs.splitOn ':')).bind (limbs 8)
  | some (l, r) => do
    let left ← if l.contains '.' then none else fieldsOf l
    let right ← fieldsOf r
    if left.length + right.length < 8 then
      limbs 8 (left ++ List.replicate (8 - (left.length + right.length)) 0 ++ right)
    else none

/-- An IPv6 address, with a zone after `%` if there is one. -/
def parseIPv6 (cs : List Char) : Option Addr :=
  let body := cs.takeWhile (· ≠ '%')
  match cs.drop body.length with
  | [] => (parseGroups body).map (.v6 · "")
  | [_] => none
  | _ :: zone => (parseGroups body).map (.v6 · (String.ofList zone))

/-- `netip.ParseAddr`: the first of `.`, `:` and `%` in the text decides how it is read. -/
def parseAddr (s : String) : Option Addr :=
  match s.toList.find? fun c => c = '.' ∨ c = ':' ∨ c = '%' with
  | some '.' => (parseIPv4 s.toList).map .v4
  | some ':' => parseIPv6 s.toList
  | _ => none

/-- `net.ParseIP`: an address without a zone. -/
def parseIP (s : String) : Option Addr := (parseAddr s).filter (·.zone == "")

/-! ### Prefixes -/

/-- `netip.Prefix`: the addresses that share the first `bits` bits of `ip`. -/
structure Prefix where
  ip : Addr
  bits : Nat
deriving DecidableEq

/-- Whether two numbers of `w` bits share their first `bits` bits. -/
def sameBits (w bits m n : Nat) : Bool := m / 2 ^ (w - bits) == n / 2 ^ (w - bits)

/-- `Prefix.Contains`: never an address of the other family, never one with a zone. -/
def Prefix.contains (p : Prefix) (a : Addr) : Bool :=
  match p.ip, a with
  | .v4 o, .v4 o' => sameBits 32 p.bits o.value o'.value
  | .v6 g _, .v6 g' zone => zone == "" && sameBits 128 p.bits g.value g'.value
  | _, _ => false

/-- `netip.PrefixFrom`. -/
def prefixFrom (a : Addr) (bits : Nat) : Prefix := ⟨a.withoutZone, bits⟩

/-- `netip.ParsePrefix`: an address without a zone, `/`, and a length without leading zeros. -/
def parsePrefix (s : String) : Option Prefix := do
  let rev := s.toList.reverse
  let bitsText := (rev.takeWhile (· ≠ '/')).reverse
  let addrText ← match rev.drop bitsText.length with
    | [] => none
    | _ :: rest => some rest.reverse
  let a ← parseAddr (String.ofList addrText)
  let bits ← number 10 bitsText
  if a.zone ≠ "" ∨ (1 < bitsText.length ∧ bitsText.head? = some '0') ∨ a.bitLen < bits then none
  else some ⟨a, bits⟩

/-! ### Networks and their hosts -/

/-- The limbs with only the first `bits` bits kept; a limb has `w` bits. -/
def maskLimbs {b : Nat} (w : Nat) : Nat → List (Fin b) → List (Fin b)
  | _, [] => []
  | bits, x :: xs =>
    ⟨x / 2 ^ (w - bits) * 2 ^ (w - bits), (Nat.div_mul_le_self _ _).trans_lt x.isLt⟩ ::
      maskLimbs w (bits - w) xs

theorem length_maskLimbs {b w : Nat} (bits : Nat) (l : List (Fin b)) :
    (maskLimbs w bits l).length = l.length := by
  induction l generalizing bits with
  | nil => rfl
  | cons x xs ih => simp [maskLimbs, ih]

/-- `IP.Mask`. -/
def Addr.mask (bits : Nat) : Addr → Addr
  | .v4 o => .v4 ⟨maskLimbs 8 bits o.val, (length_maskLimbs _ _).trans o.property⟩
  | .v6 g z => .v6 ⟨maskLimbs 16 bits g.val, (length_maskLimbs _ _).trans g.property⟩ z

/-- One more, and whether it carried out of the first limb. -/
def incLimbs {b : Nat} [NeZero b] : List (Fin b) → List (Fin b) × Bool
  | [] => ([], true)
  | x :: xs =>
    let (ys, carry) := incLimbs xs
    if carry then ((x + 1) :: ys, x + 1 = 0) else (x :: ys, false)

theorem length_incLimbs {b : Nat} [NeZero b] (l : List (Fin b)) :
    (incLimbs l).1.length = l.length := by
  induction l with
  | nil => rfl
  | cons x xs ih =>
    simp only [incLimbs]
    split <;> simp [ih]

/-- The next address, from the last one back to the first. -/
def Addr.inc : Addr → Addr
  | .v4 o => .v4 ⟨(incLimbs o.val).1, (length_incLimbs _).trans o.property⟩
  | .v6 g z => .v6 ⟨(incLimbs g.val).1, (length_incLimbs _).trans g.property⟩ z

/-- What `net.ParseCIDR` reads: the first address of the network as it is written, and the
length. -/
def readCIDR (s : String) : Option (Addr × Nat) := do
  let addrText := s.toList.takeWhile (· ≠ '/')
  let bitsText ← match s.toList.drop addrText.length with
    | [] => none
    | _ :: rest => some rest
  let a ← parseAddr (String.ofList addrText)
  let bits ← number 10 bitsText
  if a.zone ≠ "" ∨ a.bitLen < bits then none else some (a.mask bits, bits)

/-- The network of an address and a length. As everywhere in `net`, an IPv4 network written inside
IPv6 is that IPv4 network. -/
def network (a : Addr) (bits : Nat) : Prefix :=
  match a, a.unmap with
  | .v6 _ _, .v4 o => ⟨.v4 o, bits - 96⟩
  | _, base => ⟨base, bits⟩

/-- `net.ParseCIDR`'s network. -/
def parseCIDR (s : String) : Option Prefix := (readCIDR s).map fun (a, bits) => network a bits

/-- The addresses from `a` on while the network holds them, at most `n`. `IPNet.Contains` takes an
IPv4 address written inside IPv6 for that IPv4 address. -/
def hostsFrom (net : Prefix) : Nat → Addr → List Addr
  | 0, _ => []
  | n + 1, a => if net.contains a.unmap then a :: hostsFrom net n a.inc else []

/-! ### Printing addresses -/

/-- The length of the run of zero groups at the front. -/
def zeros (gs : List (Fin 65536)) : Nat := (gs.takeWhile (· = 0)).length

/-- The run at `i`, if it has at least two zero groups and more than the best so far. -/
def betterRun (gs : List (Fin 65536)) (best : Option (Nat × Nat)) (i : Nat) : Option (Nat × Nat) :=
  if 2 ≤ zeros (gs.drop i) ∧ ((best.map (·.2)).getD 0) < zeros (gs.drop i) then
    some (i, zeros (gs.drop i))
  else best

/-- The first longest run of at least two zero groups: where it starts and how long it is. -/
def zeroRun (gs : List (Fin 65536)) : Option (Nat × Nat) :=
  (List.range 8).foldl (betterRun gs) none

/-- Groups between colons. -/
def colons (gs : List (Fin 65536)) : List Char :=
  [':'].intercalate (gs.map fun g => digits 16 g.val)

/-- The text of an IPv6 address without a zone. -/
def text6 (gs : List (Fin 65536)) : List Char :=
  match zeroRun gs with
  | some (i, n) => colons (gs.take i) ++ ':' :: ':' :: colons (gs.drop (i + n))
  | none => colons gs

/-- The text of an IPv4 address. -/
def text4 (os : List (Fin 256)) : List Char := ['.'].intercalate (os.map fun o => digits 10 o.val)

/-- `IP.String`; of an address with a zone, `Addr.Unmap().String()`. -/
def Addr.text (a : Addr) : String :=
  match a.unmap with
  | .v4 o => String.ofList (text4 o.val)
  | .v6 g zone => String.ofList (text6 g.val) ++ if zone = "" then "" else "%" ++ zone

example : (parseAddr "2001:db8::ff00:42:8329").map Addr.text = some "2001:db8::ff00:42:8329" := by
  decide +kernel

example : (parseAddr "fe80::1%eth0").map Addr.text = some "fe80::1%eth0" := by decide +kernel

example : (parseCIDR "198.51.100.252/30").map (fun p => (hostsFrom p 4096 p.ip).map Addr.text) =
    some ["198.51.100.252", "198.51.100.253", "198.51.100.254", "198.51.100.255"] := by
  decide +kernel

end Lib.Netip
