import PinkGlasses.Ingest
import PinkGlasses.ScopeGuard

/-!
# PinkGlasses.Planner.Decide

The planner's decisions as functions of what it has read: which tasks a target gets, which
discovered addresses are scanned and in which batches, which endpoints are probed, which targets
the web stages run against, and the pool each task is sent to. The statements around them are
`PinkGlasses.Planner.Program`.

The code collects addresses in a map and sorts them before it batches, so the map is an association
list here, in the order addresses were first reported.
-/

namespace PinkGlasses

open Lib.Netip

namespace Planner

/-! ### Helpers -/

def cidrHostCap : Nat := 4096

def scanBatchSize : Nat := 64

def defaultVhostsPerAddress : Nat := 20

def spec (stage : Stage) (tgt : Target) (prio : Int) (origin : UUID) (caps : List String := []) :
    TaskSpec where
  stage := stage
  target := tgt
  requires := caps
  priority := prio
  origins := [origin]

def origin0 : List UUID → UUID
  | [] => uuidNil
  | o :: _ => o

def mergeOrigins (a b : List UUID) : List UUID := b.foldl Ingest.addOnce a

/-- `authorized(authIndex(ts), value)`: the last target with the value decides. -/
def authorized (ts : List ScopeTarget) (value : String) : Bool :=
  (ts.reverse.find? (·.value == value)).any (·.authorized)

/-- An address of the ranges `isPrivateTarget` names. -/
def internalAddr (a : Addr) : Bool := a.isPrivate || a.isLoopback || a.isLinkLocalUnicast

def isPrivateTarget (v : String) : Bool :=
  match parsePrefix v with
  | some p => internalAddr p.ip
  | none => (parseAddr v).any internalAddr

/-- A decimal number with or without a sign, of any size. -/
def signed (s : String) : Option Int :=
  match s.toList with
  | '-' :: cs => (number 10 cs).map fun n => -(n : Int)
  | '+' :: cs => (number 10 cs).map fun n => (n : Int)
  | cs => (number 10 cs).map fun n => (n : Int)

/-- `strconv.Atoi`, without an error only for a number that an `int` holds. -/
def atoi (s : String) : Option Int := (signed s).filter fun n => int64 n == n

/-- The number that `strconv.Atoi` answers, beside an error too: the nearest `int`. -/
def atoiValue (s : String) : Int := max (-2 ^ 63) (min ((signed s).getD 0) (2 ^ 63 - 1))

theorem atoi_of_signed {s : String} {n : Int} (h : signed s = some n) (hmin : -2 ^ 63 ≤ n)
    (hmax : n < 2 ^ 63) : atoi s = some n ∧ atoiValue s = n := by
  have hfits : int64 n = n := Int.bmod_eq_of_le (by omega) (by omega)
  refine ⟨?_, ?_⟩
  · rw [atoi, h, Option.filter_some, hfits, beq_self_eq_true, if_pos rfl]
  · rw [atoiValue, h, Option.getD_some]
    omega

/-- A parameter of the run. -/
def param (params : List (String × String)) (key : String) : Option String := params.lookup key

/-! ### Routing -/

/-- `routing`: where a run's two classes of task go. -/
structure Routing where
  passive : UUID
  active : Option UUID
deriving Repr, DecidableEq

/-- One task of `routeTasks`. -/
def routeTask (rt : Routing) (sp : TaskSpec) : Except String TaskSpec :=
  if sp.stage.sendsTrafficToTarget then
    match rt.active with
    | none => .error (sp.stage.text ++
        " task has no exit pool to run from: the run was planned before its exit was bound")
    | some pool => .ok { sp with poolID := some pool }
  else .ok { sp with poolID := some rt.passive }

/-- `routeTasks`: every task its pool, or none of them. -/
def routeTasks (specs : List TaskSpec) (rt : Routing) : Except String (List TaskSpec) :=
  specs.mapM (routeTask rt)

/-! ### The first tasks -/

/-- What `PlanInitial` does about one target: the tasks, and the status with its reason. -/
def planTarget (allowPrivate passive : Bool) (scopeTargets : List ScopeTarget) (t : RunTarget) :
    List TaskSpec × Option (TargetStatus × Option String) :=
  let active (specs : List TaskSpec) : List TaskSpec × Option (TargetStatus × Option String) :=
    if passive then ([], some (.skipped, some "passive_profile"))
    else if !authorized scopeTargets t.value then ([], some (.skipped, some "not_authorized"))
    else if isPrivateTarget t.value && !allowPrivate then
      ([], some (.skipped, some "internal_range_out_of_scope"))
    else (specs, some (.running, none))
  match t.kind with
  | .domain =>
    ([spec .passiveEnum { domain := t.value } 10 t.id,
      spec .dnsResolve { domain := t.value } 30 t.id],
      some (.running, none))
  | .ip => active [spec .portScan { ip := t.value } 100 t.id [capRawSocket]]
  | .cidr => active ((ScopeGuard.expandCIDRHosts t.value cidrHostCap).map fun ip =>
      spec .portScan { ip := ip } 100 t.id [capRawSocket])
  | .asn => ([], none)

/-- The brute-force tasks, one a domain target and wordlist. -/
def bruteSpecs (targets : List RunTarget) (lists : List Wordlist) : List TaskSpec :=
  (targets.filter fun t => t.kind == .domain && t.status != .skipped).flatMap fun t =>
    lists.map fun wl =>
      { spec .dnsBrute { domain := t.value } 20 t.id with wordlist := toString wl.id }

/-! ### Discovered addresses -/

/-- Addresses with the run targets that led to them. -/
abbrev AddressMap := List (String × List UUID)

/-- `ipSet[ip] = mergeOrigins(ipSet[ip], origins)`. -/
def addAddress (origins : List UUID) (m : AddressMap) (ip : String) : AddressMap :=
  if m.any (·.1 == ip) then m.map fun e => if e.1 == ip then (ip, mergeOrigins e.2 origins) else e
  else m ++ [(ip, mergeOrigins [] origins)]

/-- What `scanNewAddresses` holds an address against. -/
structure AddressChecks where
  allowPrivate : Bool
  /-- `already`: scanned in this run. -/
  already : List String
  /-- The run targets that permit active scanning. -/
  authorized : List UUID
  guard : ScopeGuard.Guard
  shared : List String
  cdnPorts : String

/-- What becomes of a discovered address. -/
inductive Verdict
  /-- Left out. -/
  | skip
  /-- Scanned on the run's own ports. -/
  | fresh
  /-- A CDN address, scanned on `cdnPorts`. -/
  | edge
deriving Repr, DecidableEq

/-- Authorization, CDN and guard, in the order of `scanNewAddresses`. -/
def AddressChecks.permits (c : AddressChecks) (ip : String) (origins : List UUID) : Bool :=
  origins.any (c.authorized.contains ·) &&
    !(c.shared.contains ip && c.cdnPorts == "none") &&
    (c.guard.checkIP c.allowPrivate ip false).allowed

/-- The verdict on one discovered address. -/
def AddressChecks.verdict (c : AddressChecks) (ip : String) (origins : List UUID) : Verdict :=
  if c.already.contains ip || !c.permits ip origins then .skip
  else if c.shared.contains ip && c.cdnPorts != "all" then .edge
  else .fresh

/-- The addresses with a verdict, sorted. -/
def AddressChecks.select (c : AddressChecks) (m : AddressMap) (v : Verdict) : List String :=
  ((m.filter fun e => c.verdict e.1 e.2 == v).map (·.1)).insertionSort (· ≤ ·)

/-- `ips[i:i+scanBatchSize]` for each `i` of the loop. -/
def batches (ips : List String) : List (List String) :=
  (List.range ((ips.length + scanBatchSize - 1) / scanBatchSize)).map fun i =>
    (ips.drop (i * scanBatchSize)).take scanBatchSize

/-- The run targets that contributed an address to a batch. -/
def batchOrigins (m : AddressMap) (batch : List String) : List UUID :=
  batch.foldl (fun os ip => mergeOrigins os ((m.lookup ip).getD [])) []

/-- The port scans of the addresses, one a batch; a batch that serves nobody is left out. -/
def batchSpecs (m : AddressMap) (ips : List String) (ports : String) : List TaskSpec :=
  (batches ips).filterMap fun batch =>
    let origins := batchOrigins m batch
    if origins.isEmpty then none
    else some { spec .portScan { ips := batch, ports := ports } 100 (origin0 origins) [capRawSocket]
      with origins := origins }

/-- The port scans `scanNewAddresses` plans. -/
def addressSpecs (c : AddressChecks) (m : AddressMap) : List TaskSpec :=
  batchSpecs m (c.select m .fresh) "" ++ batchSpecs m (c.select m .edge) c.cdnPorts

/-! ### Open ports -/

/-- `already` with one more endpoint, and the probes so far. -/
def addProbe (origin : UUID) (acc : List String × List TaskSpec) (sv : IPPort) :
    List String × List TaskSpec :=
  if acc.1.contains (endpointKey sv.ip sv.port) then acc
  else (endpointKey sv.ip sv.port :: acc.1,
    acc.2 ++ [spec .serviceProbe { ip := sv.ip, port := sv.port } 200 origin])

/-! ### Web targets -/

/-- The parts of a URL the planner uses. -/
structure URL where
  scheme : String
  hostname : String
  port : String
deriving Repr, DecidableEq

/-- `getScheme`: the text before the first colon, if it is a scheme, and the rest. -/
def splitScheme (cs : List Char) : List Char × List Char :=
  let scheme := cs.takeWhile fun c => c.isAlphanum || c == '+' || c == '-' || c == '.'
  match scheme, cs.drop scheme.length with
  | c :: _, ':' :: rest => if c.isAlpha then (scheme.map Char.toLower, rest) else ([], cs)
  | _, _ => ([], cs)

/-- The host and the port of an authority: the port is the digits after the last colon. -/
def splitHostPort (cs : List Char) : Option (List Char × List Char) :=
  let tail := (cs.reverse.takeWhile (· ≠ ':')).reverse
  let (host, port) :=
    if cs.contains ':' && !tail.contains ']' then (cs.take (cs.length - tail.length - 1), tail)
    else (cs, [])
  let bare := if host.head? = some '[' ∧ host.getLast? = some ']' then host.tail.dropLast else host
  if port.all Char.isDigit then some (bare, port) else none

/-- `url.Parse`, for a URL with an authority. Escapes are left as they are. -/
def parseURL (raw : String) : Option URL :=
  let (scheme, rest) := splitScheme (raw.toList.takeWhile (· ≠ '#'))
  match rest.takeWhile (· ≠ '?') with
  | '/' :: '/' :: rest =>
    let authority := rest.takeWhile (· ≠ '/')
    let host := (authority.reverse.takeWhile (· ≠ '@')).reverse
    if raw.toList.any fun c => c ≤ ' ' || c == '\x7f' then none
    else (splitHostPort host).map fun (h, p) =>
      ⟨String.ofList scheme, String.ofList h, String.ofList p⟩
  | _ => some ⟨String.ofList scheme, "", ""⟩

def ipPortFromURL (raw : String) : String × Int :=
  match parseURL raw with
  | none => ("", 0)
  | some u =>
    (u.hostname,
      if u.port ≠ "" then atoiValue u.port
      else if u.scheme = "https" then 443
      else if u.scheme = "http" then 80
      else 0)

/-- The target of one name on a live endpoint. -/
def nameTarget (scheme ip : String) (port : Int) (n : String) : Target where
  url := scheme ++ "://" ++
    if (scheme = "https" ∧ port = 443) ∨ (scheme = "http" ∧ port = 80) then n
    else n ++ ":" ++ toString port
  host := n
  ip := ip
  port := port

/-- `webTargets`, without the count of dropped names. -/
def webTargets (liveURL ip : String) (port : Int) (names : List String) (maxNames : Nat) :
    List Target :=
  if names.isEmpty then [{ url := liveURL, ip := ip, port := port }]
  else
    let scheme := match parseURL liveURL with
      | some u => if u.scheme ≠ "" then u.scheme else "http"
      | none => "http"
    (if 0 < maxNames then names.take maxNames else names).map (nameTarget scheme ip port)

/-- `postProbeStages`: whether `dir_brute` and `vuln_check` are planned. -/
def postProbeStages (params : List (String × String)) : Bool × Bool :=
  let off (key : String) : Bool := param params key == some "false"
  (!(off "gobuster_enabled" && off "katana_enabled"), !off "nuclei_enabled")

/-- The cap on names per address. -/
def maxVhosts (params : List (String × String)) : Nat :=
  match (param params "web_vhosts_per_address").bind atoi with
  | some n => if 0 < n then n.toNat else defaultVhostsPerAddress
  | none => defaultVhostsPerAddress

/-- The web stages of one target. -/
def webSpecs (stages : Bool × Bool) (origin : UUID) (tgt : Target) : List TaskSpec :=
  [spec .techDetect tgt 300 origin, spec .screenshot tgt 310 origin [capBrowser]] ++
    (if stages.1 then [spec .dirBrute tgt 320 origin] else []) ++
    (if stages.2 then [spec .vulnCheck tgt 330 origin] else [])

/-- `cdnPortsFor`, from the run's parameters or their absence. -/
def cdnPortsFor (params : Option (List (String × String))) : String :=
  match params.bind (param · "cdn_ports") with
  | some v => if v ≠ "" then v else "80,443"
  | none => "80,443"

/-- The status `finish` gives a target. -/
def finishedStatus (t : RunTarget) : TargetStatus :=
  if 0 < t.tasksTotal ∧ t.tasksDone < t.tasksTotal then .incomplete else .completed

end Planner

end PinkGlasses
