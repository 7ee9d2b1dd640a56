import PinkGlasses.Control
import PinkGlasses.Http

/-!
# PinkGlasses.Enroll

How a worker gets in: `internal/agentapi/proxies.go`, which says where a request came from, and
`enroll` of `gateway.go` on top of it. The database side of `enroll` is `Control.enroll`; here its
request is built from the body and from the address.

* `X-Forwarded-For` counts only on a connection from a trusted proxy, and of it **only the last
  element**, the one that proxy appended.
* A trusted proxy is an address, a prefix or a name; names are looked up again every 30 seconds, so
  who is trusted depends on the cache, the clock and the resolver. All three are parameters.
-/

namespace PinkGlasses

open Lib Lib.Netip

/-- What is outside of the gateway: the clock, and the resolver's answer for a name. -/
structure Resolver where
  now : Time
  lookup : String → Option (List Addr)

/-- `trustedProxies`. -/
structure TrustedProxies where
  prefixes : List Netip.Prefix := []
  names : List String := []
  /-- The addresses of the names, and when they were looked up. -/
  resolved : List Addr := []
  resolvedAt : Option Time := none

namespace TrustedProxies

/-- One element of the list. -/
def add (t : TrustedProxies) (f : String) : TrustedProxies :=
  if f = "" then t
  else if '/' ∈ f.toList then
    match parsePrefix f with
    | some p => { t with prefixes := t.prefixes ++ [⟨p.ip.mask p.bits, p.bits⟩] }
    | none => t
  else
    match parseAddr f with
    | some a => { t with prefixes := t.prefixes ++ [prefixFrom a a.bitLen] }
    | none => { t with names := t.names ++ [f] }

/-- `parseTrustedProxies`. -/
def parse (spec : String) : TrustedProxies :=
  ((splitComma spec).map trimSpace).foldl add {}

def empty (t : TrustedProxies) : Bool := t.prefixes.isEmpty && t.names.isEmpty

variable (net : Resolver)

/-- The addresses of the names, looked up again if that was more than 30 seconds ago. A name that
does not resolve trusts nobody. -/
def refresh (t : TrustedProxies) : TrustedProxies :=
  if t.resolvedAt.any fun at' => net.now - at' ≤ 30 then t
  else { t with
    resolved := t.names.flatMap fun n => ((net.lookup n).getD []).map Addr.unmap
    resolvedAt := some net.now }

/-- `trusts`, with what becomes of the cache. -/
def trusts (t : TrustedProxies) (peer : Addr) : Bool × TrustedProxies :=
  if t.empty then (false, t)
  else if t.prefixes.any (·.contains peer.unmap) then (true, t)
  else if t.names.isEmpty then (false, t)
  else ((t.refresh net).resolved.contains peer.unmap, t.refresh net)

/-- The address of the TCP peer, without the port. -/
def peerHost (remoteAddr : String) : String :=
  match splitHostPort remoteAddr with
  | some (host, _) => host
  | none => remoteAddr

/-- The TCP peer is a trusted proxy. -/
def trustsPeer (t : TrustedProxies) (remoteAddr : String) : Bool :=
  match parseAddr (peerHost remoteAddr) with
  | some peer => (t.trusts net peer).1
  | none => false

/-- The last element of the last `X-Forwarded-For`. -/
def lastForwarded (h : Header) : Option String :=
  (h.values "X-Forwarded-For").getLast?.map fun v => (splitComma v).getLastD ""

def clientIP (t : TrustedProxies) (r : HTTPRequest) : String :=
  if t.trustsPeer net r.remoteAddr then
    match lastForwarded r.header with
    | none => peerHost r.remoteAddr
    | some last => match parseAddr (trimSpace last) with
      | some a => a.unmap.text
      | none => peerHost r.remoteAddr
  else peerHost r.remoteAddr

end TrustedProxies

def isPrivateAddr (s : String) : Bool :=
  match parseAddr s with
  | some a => a.isPrivate || a.isLoopback || a.isLinkLocalUnicast
  | none => false

/-- The body of `scanproto.EnrollRequest`. -/
structure EnrollBody where
  token : String
  hostname : String := ""
  name : String := ""
  capabilities : List String := []
  maxConcurrency : Int := 0
deriving Repr, DecidableEq

def firstNonEmpty (vals : List String) : String := (vals.find? (· ≠ "")).getD ""

namespace Gateway

variable (net : Resolver) (t : TrustedProxies) (hash : String → String)

/-- What the handler knows of a request besides its token: who it is from, and whether that is a
private address. -/
def enrollRequest (credHash : String) (r : HTTPRequest) (b : EnrollBody) : EnrollRequest where
  tokenHash := hash b.token
  name := firstNonEmpty [b.name, b.hostname, "worker"]
  capabilities := b.capabilities
  maxConcurrency := b.maxConcurrency
  credHash := credHash
  fromPrivate := isPrivateAddr (t.clientIP net r)

/-- `enroll`; `hash` is that of a token, `credHash` that of the credential the worker is given. -/
def enroll (credHash : String) (r : HTTPRequest) (body : Option EnrollBody) : Prog Stmt Nat :=
  match body with
  | none => pure 400
  | some b => Control.enroll (enrollRequest net t hash credHash r b)

/-- A worker is created active only under a preapproved token, or under a local one by a request
from a private address. -/
def Approves (fromPrivate : Bool) (h : Hist Stmt) : (β : Type) → Stmt β → Prop
  | _, .worker (.createWorker _ _ _ _ _ _ status) => status = .active →
    ∃ tokenHash tok, h.Asked (.worker (.redeemEnrollment tokenHash)) (some (some tok)) ∧
      (tok.preapproved = true ∨ tok.kind = .local ∧ fromPrivate = true)
  | _, _ => True

variable {net t} {r₁ r₂ : HTTPRequest}

theorem clientIP_of_untrusted (hpeer : r₁.remoteAddr = r₂.remoteAddr)
    (htrust : t.trustsPeer net r₁.remoteAddr = false) : t.clientIP net r₁ = t.clientIP net r₂ := by
  unfold TrustedProxies.clientIP
  rw [← hpeer, htrust]
  rfl

/-- From one peer, the last element of the last `X-Forwarded-For` is all that is read. -/
theorem clientIP_of_last (hpeer : r₁.remoteAddr = r₂.remoteAddr)
    (hlast : TrustedProxies.lastForwarded r₁.header = TrustedProxies.lastForwarded r₂.header) :
    t.clientIP net r₁ = t.clientIP net r₂ := by
  unfold TrustedProxies.clientIP
  rw [← hpeer, ← hlast]

/-- The address is all that `enroll` takes from a request besides its body. -/
theorem enroll_of_clientIP (credHash : String) (body : Option EnrollBody)
    (hip : t.clientIP net r₁ = t.clientIP net r₂) :
    enroll net t hash credHash r₁ body = enroll net t hash credHash r₂ body := by
  cases body with
  | none => rfl
  | some b => simp only [enroll, enrollRequest, hip]

/-- What the token and the address decide, whatever the database answers. -/
theorem enroll_approves (req : EnrollRequest) :
    (Control.enroll req).Meets (Approves req.fromPrivate) [] fun _ _ => True := by
  refine ⟨trivial, fun r => ?_⟩
  match r with
  | none | some none => trivial
  | some (some tok) =>
    refine ⟨trivial, fun _ => ⟨fun hactive => ?_, fun r => ?_⟩⟩
    · refine ⟨req.tokenHash, tok, List.mem_cons_of_mem _ (Hist.asked_head ..), ?_⟩
      have hwhy : (tok.kind == .local && req.fromPrivate) = true ∨ tok.preapproved = true := by
        by_contra hnot
        exact absurd hactive (by simpa using hnot)
      simpa [or_comm] using hwhy
    · cases r <;> trivial

variable (net t)

/-- **What the headers of an enrolment can do.** For every list of trusted proxies, in every state
of its cache, and two requests of one TCP peer with one body: if the peer is not a trusted proxy
they run the same program, so that they make the same worker of the same kind and status whatever
the database does; if it is, they do so as soon as the last elements of their last `X-Forwarded-For`
agree. And a worker is created active only under a preapproved token, or under a token for local
workers from an address, so determined, that is private. -/
theorem enroll_depends_on_last (credHash : String) (body : Option EnrollBody) (r₁ r₂ : HTTPRequest)
    (hpeer : r₁.remoteAddr = r₂.remoteAddr) :
    (t.trustsPeer net r₁.remoteAddr = false →
      enroll net t hash credHash r₁ body = enroll net t hash credHash r₂ body) ∧
    (t.trustsPeer net r₁.remoteAddr = true →
      TrustedProxies.lastForwarded r₁.header = TrustedProxies.lastForwarded r₂.header →
      enroll net t hash credHash r₁ body = enroll net t hash credHash r₂ body) ∧
    (enroll net t hash credHash r₁ body).Meets (Approves (isPrivateAddr (t.clientIP net r₁))) []
      fun _ _ => True := by
  refine ⟨fun htrust => ?_, fun _ hlast => ?_, ?_⟩
  · exact enroll_of_clientIP hash credHash body (clientIP_of_untrusted hpeer htrust)
  · exact enroll_of_clientIP hash credHash body (clientIP_of_last hpeer hlast)
  · cases body with
    | none => trivial
    | some b => exact enroll_approves (enrollRequest net t hash credHash r₁ b)

/-- The compose stack: its own proxy, by name and by network. -/
def composeProxies : TrustedProxies := .parse "caddy, 172.18.0.0/16"

/-- A resolver that knows the proxy. -/
def composeResolver : Resolver where
  now := 100
  lookup := fun n => if n = "caddy" then (parseAddr "10.89.0.2").map ([·]) else none

/-- A request from outside and one with a forged header, both straight from the internet. -/
theorem enroll_depends_on_last_forged :
    composeProxies.trustsPeer composeResolver "203.0.113.9:4711" = false ∧
    composeProxies.trustsPeer composeResolver "10.89.0.2:4711" = true ∧
    enroll composeResolver composeProxies id "" { remoteAddr := "203.0.113.9:4711" }
        (some { token := "tok" }) =
      enroll composeResolver composeProxies id ""
        { remoteAddr := "203.0.113.9:4711", header := [("X-Forwarded-For", "10.0.0.1")] }
        (some { token := "tok" }) ∧
    composeProxies.clientIP composeResolver
      { remoteAddr := "10.89.0.2:4711", header := [("X-Forwarded-For", "10.0.0.1, 203.0.113.9")] } =
        "203.0.113.9" := by
  suffices huntrusted : _ from ⟨huntrusted, by decide +kernel,
    (enroll_depends_on_last composeResolver composeProxies id "" (some { token := "tok" }) _ _
      (by rfl)).1 huntrusted, by decide +kernel⟩
  decide +kernel

end Gateway

end PinkGlasses
