import PinkGlasses.Lib.Netip
import PinkGlasses.Store.Run

/-!
# PinkGlasses.ScopeGuard

`internal/scopeguard`: which addresses may be scanned at all. A guard is compiled from the targets
a company excludes; **it knows them as address prefixes only**, so a name that is excluded is not in
it.
-/

namespace PinkGlasses

open Lib.Netip

namespace ScopeGuard

/-- `Decision`. -/
structure Decision where
  allowed : Bool
  reason : String
deriving Repr, DecidableEq

/-- `privateBlocks`: never scanned. -/
def privateBlocks : List Prefix :=
  ["10.0.0.0/8", "172.16.0.0/12", "192.168.0.0/16", "127.0.0.0/8",
    "169.254.0.0/16", "::1/128", "fc00::/7", "fe80::/10", "0.0.0.0/8"].filterMap parsePrefix

/-- `Guard`. -/
structure Guard where
  exclusions : List Prefix
deriving DecidableEq

/-- The addresses a target's value names, as `New` reads it: a prefix, or a single address. -/
def exclusionOf (value : String) : Option Prefix :=
  match parsePrefix value with
  | some p => some p
  | none => (parseAddr value).map fun a => prefixFrom a a.bitLen

def new (targets : List ScopeTarget) : Guard where
  exclusions := (targets.filter (·.mode == .exclude)).filterMap fun t => exclusionOf t.value

/-- `CheckIP`; `allowPrivate` is `ASM_ALLOW_PRIVATE_TARGETS`. -/
def Guard.checkIP (allowPrivate : Bool) (g : Guard) (ip : String) (shared : Bool) : Decision :=
  match parseAddr ip with
  | none => ⟨false, "invalid"⟩
  | some addr =>
    if !allowPrivate && privateBlocks.any (·.contains addr) then ⟨false, "private"⟩
    else if g.exclusions.any (·.contains addr) then ⟨false, "excluded"⟩
    else if shared then ⟨false, "shared"⟩
    else ⟨true, ""⟩

/-- `ExpandCIDRHosts`. The addresses are counted as they are written, and the first is listed before
`cap` is looked at. -/
def expandCIDRHosts (cidr : String) (cap : Nat) : List String :=
  match readCIDR cidr with
  | none => []
  | some (a, bits) => (hostsFrom (network a bits) (max cap 1) a).map Addr.text

end ScopeGuard

end PinkGlasses
