import PinkGlasses.Accounts
import PinkGlasses.Lib.Netip

/-!
# PinkGlasses.Login

`login` of `internal/httpapi/authroutes.go`, and the limit on sign-in attempts. An attempt is
counted against two keys, the address it came from and the name it is for, in the database or, if
that does not answer, in the server's own `loginLimiter`.

* `RealIP`: before a request reaches `login` the router has put what three fields of its headers say
  **in the place of the TCP peer's address**.
* `clientIP` is where the address comes from: the first element of `X-Forwarded-For` **whenever a
  proxy secret is configured**, whether or not the request carries it, else `RemoteAddr`.
* `login_gated`: an attempt is counted against `loginKeys`, and only an admitted one gets further.
* `keys_fixed_iff_not_sent`: the headers leave the keys alone exactly where no client can send any
  of the three fields, whatever is configured.
-/

namespace PinkGlasses

open Lib Prog

/-- A sign-in: the body, which may not decode. `sessionHash` is the hash of the session secret that
is drawn, nothing if that fails. -/
structure LoginRequest where
  http : HTTPRequest
  /-- The user name and the password. -/
  body : Option (String × String)
  sessionHash : Option String := none
deriving Repr, DecidableEq

/-- The counters of the process. -/
inductive LimiterStmt : Type → Type
  | allow (keys : List String) : LimiterStmt Bool
  | succeeded (keys : List String) : LimiterStmt Unit

/-- What a sign-in reads and writes. -/
inductive LoginStmt (β : Type) : Type
  | store (s : AccountStmt β)
  | limiter (s : LimiterStmt β)

namespace Login

def loginMaxTries : Nat := 10

variable (cfg : ServerConfig)

def clientIP (r : HTTPRequest) : String :=
  let forwarded := r.header.get "X-Forwarded-For"
  if Accounts.proxySecret cfg ≠ "" ∧ forwarded ≠ "" then
    trimSpace ((splitComma forwarded).headD "")
  else
    let host := match splitLast ':' r.remoteAddr.toList with
      | some (host, _) => if host.isEmpty then r.remoteAddr else String.ofList host
      | none => r.remoteAddr
    trimChars ['[', ']'] host

/-- The key of the source address. -/
def ipKey (r : HTTPRequest) : String := "ip:" ++ clientIP cfg r

/-- The key of the account. -/
def userKey (username : String) : String := "user:" ++ toLower (trimSpace username)

/-- The keys an attempt is counted against. -/
def loginKeys (r : HTTPRequest) (username : String) : List String :=
  [ipKey cfg r, userKey username]

/-- Issue a statement on the tables. -/
def ask {α : Type} (s : AccountStmt α) : ExceptT ErrorReply (Prog LoginStmt) (Option α) :=
  attempt (.store s)

def allowLogin (keys : List String) : ExceptT ErrorReply (Prog LoginStmt) Bool := do
  match ← ask (.countLoginAttempt keys) with
  | some n => pure (decide (n ≤ loginMaxTries))
  | none =>
    let ok ← attempt (.limiter (.allow keys))
    pure (ok.getD false)

def loginSucceeded (keys : List String) : ExceptT ErrorReply (Prog LoginStmt) Unit := do
  let _ ← ask (.clearLoginAttempts keys)
  let _ ← attempt (.limiter (.succeeded keys))

def signIn (sessionHash : Option String) (u : User) : ExceptT ErrorReply (Prog LoginStmt) User :=
  match sessionHash with
  | none => throw ⟨500, Accounts.randError⟩
  | some hash => do
    match ← ask (.createSession hash u.id) with
    | none => throw ⟨500, dbError⟩
    | some () => pure u

/-- `login`; `verify` is `auth.VerifyPassword`. -/
def login (verify : String → String → Bool) (req : LoginRequest) :
    ExceptT ErrorReply (Prog LoginStmt) User :=
  match req.body with
  | none => throw ⟨400, "bad body"⟩
  | some (username, password) => do
    let keys := loginKeys cfg req.http username
    if !(← allowLogin keys) then
      throw ⟨429, "too many sign-in attempts; wait a few minutes and try again"⟩
    match ← ask (.userByUsername (trimSpace username)) with
    | some (some u) =>
      if !(u.passwordHash.any fun hash => hash != "" && verify hash password) then
        throw ⟨401, "wrong username or password"⟩
      if u.disabled then throw ⟨403, "this account is disabled"⟩
      loginSucceeded keys
      let _ ← ask (.touchLogin u.id)
      signIn req.sessionHash u
    | _ => throw ⟨401, "wrong username or password"⟩

/-! ### The gate -/

section Gate

variable {β : Type} (keys : List String) (h : Hist LoginStmt)

/-- An attempt was counted against the keys and admitted: by the database, or by the process where
that does not answer. -/
def Admitted : Prop :=
  (∃ n, h.Asked (.store (.countLoginAttempt keys)) (some n) ∧ n ≤ loginMaxTries) ∨
  h.Asked (.store (.countLoginAttempt keys)) none ∧ h.Asked (.limiter (.allow keys)) (some true)

/-- The account found under the name is enabled, and its stored hash matches the password. -/
def Proved (verify : String → String → Bool) (username password : String) (id : UUID) : Prop :=
  ∃ u, h.Asked (.store (.userByUsername (trimSpace username))) (some (some u)) ∧ u.id = id ∧
    u.disabled = false ∧ u.passwordHash.any (fun hash => hash != "" && verify hash password) = true

def storePre (proved : UUID → Prop) : AccountStmt β → Prop
  | .countLoginAttempt ks => ks = keys
  | .createSession _ id => Admitted keys h ∧ proved id
  | _ => Admitted keys h

def limiterPre : LimiterStmt β → Prop
  | .allow ks => ks = keys
  | .succeeded _ => Admitted keys h

/-- Why a sign-in issues a statement. -/
def loginPre (proved : Hist LoginStmt → UUID → Prop) (β : Type) : LoginStmt β → Prop
  | .store s => storePre keys h (proved h) s
  | .limiter s => limiterPre keys h s

variable {keys h} {proved : Hist LoginStmt → UUID → Prop} {h' : Hist LoginStmt}

theorem Admitted.mono (hadm : Admitted keys h) (hsub : h ⊆ h') : Admitted keys h' := by
  rcases hadm with ⟨n, hask, hn⟩ | ⟨hask, hallow⟩
  · exact .inl ⟨n, hask.mono hsub, hn⟩
  · exact .inr ⟨hask.mono hsub, hallow.mono hsub⟩

theorem allowLogin_meets :
    MeetsOk (loginPre keys · proved) h (allowLogin keys) fun h' ok => ok = true →
      Admitted keys h' := by
  refine (meetsOk_attempt_asked (by rfl)).bind fun h₁ r _ hask => ?_
  cases r with
  | some n => exact meetsOk_pure fun hok => .inl ⟨n, hask, of_decide_eq_true hok⟩
  | none =>
    refine (meetsOk_attempt_asked (by rfl)).bind fun h₂ ok hsub hallow => meetsOk_pure fun hok => ?_
    cases ok with
    | none => cases hok
    | some b =>
      obtain rfl : b = true := hok
      exact .inr ⟨hask.mono hsub, hallow⟩

theorem loginSucceeded_meets (hadm : Admitted keys h) :
    MeetsOk (loginPre keys · proved) h (loginSucceeded keys) fun _ _ => True :=
  (meetsOk_attempt_asked hadm).bind fun _ _ hsub _ =>
    (meetsOk_attempt_asked (hadm.mono hsub)).bind fun _ _ _ _ => meetsOk_pure trivial

end Gate

/-- **A sign-in goes through the gate.** Whatever the statements answer, the attempt is counted
against the two keys first, nothing else is read or written unless it is admitted, and a session is
created only for an enabled account whose password was given; a sign-in that succeeds has created
one. -/
theorem login_gated (verify : String → String → Bool) (http : HTTPRequest)
    (username password : String) (sessionHash : Option String) :
    MeetsOk (loginPre (loginKeys cfg http username) · (Proved · verify username password)) []
      (login cfg verify ⟨http, some (username, password), sessionHash⟩) fun h u =>
        ∃ hash, h.Asked (.store (.createSession hash u.id)) (some ()) := by
  refine allowLogin_meets.bind fun h allowed _ hadm => ?_
  cases allowed with
  | false => exact meetsOk_throw
  | true =>
    replace hadm := hadm rfl
    refine (meetsOk_attempt_asked hadm).bind fun h₁ found hsub₁ hfound => ?_
    match found with
    | none | some none => exact meetsOk_throw
    | some (some u) =>
      dsimp only
      split
      · exact meetsOk_throw
      split
      · exact meetsOk_throw
      rename_i hverified henabled
      replace hadm := hadm.mono hsub₁
      refine (loginSucceeded_meets hadm).bind fun h₂ _ hsub₂ _ => ?_
      refine (meetsOk_attempt_asked (hadm.mono hsub₂)).bind fun h₃ _ hsub₃ _ => ?_
      replace hadm := hadm.mono (List.Subset.trans hsub₂ hsub₃)
      cases sessionHash with
      | none => exact meetsOk_throw
      | some hash =>
        have hproved : Proved h₃ verify username password u.id :=
          ⟨u, hfound.mono (List.Subset.trans hsub₂ hsub₃),
            rfl, by simpa using henabled, by simpa using hverified⟩
        refine (meetsOk_attempt_asked ⟨hadm, hproved⟩).bind fun h₄ made _ hmade => ?_
        cases made with
        | none => exact meetsOk_throw
        | some _ => exact meetsOk_pure ⟨hash, hmade⟩

/-! ### What the headers can do -/

/-- The fields that the router's `middleware.RealIP` reads, the one that counts first. -/
def realIPFields : List String := ["True-Client-Ip", "X-Real-Ip", "X-Forwarded-For"]

/-- What a request says its address is: the first of the fields that is there, and of the last one
what stands before the first comma. -/
def claimed (h : Header) : String :=
  if h.get "True-Client-Ip" ≠ "" then h.get "True-Client-Ip"
  else if h.get "X-Real-Ip" ≠ "" then h.get "X-Real-Ip"
  else (splitComma (h.get "X-Forwarded-For")).headD ""

/-- **`middleware.RealIP`** of the router, a library: the address it puts in the place of the TCP
peer's, and what its documentation says of it. -/
structure RealIP where
  addr : Header → Option String
  /-- The address that the fields claim is taken. -/
  address : ∀ h, (Netip.parseIP (claimed h)).isSome = true → addr h = some (claimed h)
  /-- What is no address is ignored. -/
  ignored : ∀ h, Netip.parseIP (claimed h) = none → addr h = none

namespace RealIP

variable (m : RealIP)

/-- The request that reaches the handler. -/
def rewrite (r : HTTPRequest) : HTTPRequest :=
  { r with remoteAddr := (m.addr r.header).getD r.remoteAddr }

/-- The keys of an attempt, as the client sent it. -/
def loginKeys (r : HTTPRequest) (username : String) : List String :=
  Login.loginKeys cfg (m.rewrite r) username

theorem addr_congr {h h' : Header} (hsame : claimed h = claimed h') : m.addr h = m.addr h' := by
  cases hparse : Netip.parseIP (claimed h) with
  | none => rw [m.ignored h hparse, m.ignored h' (hsame ▸ hparse)]
  | some a =>
    have hsome : (Netip.parseIP (claimed h)).isSome = true := by rw [hparse]; rfl
    rw [m.address h hsome, m.address h' (hsame ▸ hsome), hsame]

end RealIP

/-- The request carries the secret of the trusted proxy. -/
def carriesSecret (r : HTTPRequest) : Bool :=
  Accounts.proxySecret cfg ≠ "" && r.header.get "X-Proxy-Secret" = Accounts.proxySecret cfg

/-- What the trusted proxy makes of a request: it presents the secret, and appends the address of
its own peer to `X-Forwarded-For`. -/
def sentOn (peer : String) (r : HTTPRequest) : HTTPRequest :=
  { r with header := ("X-Proxy-Secret", Accounts.proxySecret cfg) ::
      ("X-Forwarded-For", ", ".intercalate (r.header.values "X-Forwarded-For" ++ [peer])) ::
      r.header.filter fun f => f.1 ≠ "X-Proxy-Secret" ∧ f.1 ≠ "X-Forwarded-For" }

/-- The request has no other fields than these. -/
def Sends (names : List String) (r : HTTPRequest) : Prop := ∀ f ∈ r.header, f.1 ∈ names

variable {cfg} {m : RealIP} {names : List String} {r r₁ r₂ : HTTPRequest}

theorem get_singleton (name v x : String) :
    Header.get [(name, v)] x = if name = x then v else "" := by
  by_cases h : name = x <;> simp [Header.get, Header.values, h]

theorem values_of_not_sent {name : String} (hsends : Sends names r) (hname : name ∉ names) :
    r.header.values name = [] := by
  have hnone : r.header.filter (·.1 == name) = [] := by
    refine List.filter_eq_nil_iff.mpr fun f hf hself => hname ?_
    exact beq_iff_eq.mp hself ▸ hsends f hf
  rw [Header.values, hnone, List.map_nil]

/-- The source key depends on the peer, on the claimed address and on `X-Forwarded-For`. -/
theorem ipKey_rewrite_congr (hpeer : r₁.remoteAddr = r₂.remoteAddr)
    (hclaimed : claimed r₁.header = claimed r₂.header)
    (hforwarded : r₁.header.get "X-Forwarded-For" = r₂.header.get "X-Forwarded-For") :
    ipKey cfg (m.rewrite r₁) = ipKey cfg (m.rewrite r₂) := by
  simp only [ipKey, clientIP, RealIP.rewrite, hpeer, hforwarded, m.addr_congr hclaimed]
  rfl

section Kept

variable (hnone : ∀ name ∈ realIPFields, name ∉ names)

include hnone

theorem header_of_not_sent (hsends : Sends names r) :
    claimed r.header = "" ∧ r.header.get "X-Forwarded-For" = "" := by
  have hget : ∀ name ∈ realIPFields, r.header.get name = "" := by
    intro name hname
    rw [Header.get, values_of_not_sent hsends (hnone name hname)]
    rfl
  refine ⟨?_, hget _ (by decide)⟩
  rw [claimed, hget "True-Client-Ip" (by decide), hget "X-Real-Ip" (by decide),
    hget "X-Forwarded-For" (by decide)]
  decide +kernel

theorem header_sentOn (cfg : ServerConfig) (peer : String) (hsends : Sends names r) :
    claimed (sentOn cfg peer r).header = (splitComma peer).headD "" ∧
      (sentOn cfg peer r).header.get "X-Forwarded-For" = peer := by
  have hforwarded : (sentOn cfg peer r).header.get "X-Forwarded-For" = peer := by
    show ", ".intercalate (r.header.values "X-Forwarded-For" ++ [peer]) = peer
    rw [values_of_not_sent hsends (hnone _ (by decide))]
    rfl
  have hget : ∀ name ∈ realIPFields, name ≠ "X-Forwarded-For" →
      (sentOn cfg peer r).header.get name = "" := by
    intro name hname hne
    have hrest : Sends names { r with header := r.header.filter fun f =>
        f.1 ≠ "X-Proxy-Secret" ∧ f.1 ≠ "X-Forwarded-For" } :=
      fun f hf => hsends f (List.mem_filter.mp hf).1
    have hproxy : ∀ name ∈ realIPFields, ("X-Proxy-Secret" == name) = false := by decide
    rw [Header.get, sentOn, Header.values, List.filter_cons_of_neg (by simp [hproxy name hname]),
      List.filter_cons_of_neg (by simpa using Ne.symm hne)]
    exact congrArg (·.headD "") (values_of_not_sent hrest (hnone name hname))
  refine ⟨?_, hforwarded⟩
  rw [claimed, hget "True-Client-Ip" (by decide) (by decide),
    hget "X-Real-Ip" (by decide) (by decide), hforwarded]
  rfl

end Kept

/-- **A field that is sent decides the source key.** -/
theorem clientIP_of_sent {name : String} (hname : name ∈ realIPFields) {v : String}
    (hv : v ∈ ["198.51.100.1", "198.51.100.2"]) :
    clientIP cfg (m.rewrite { header := [(name, v)] }) = v := by
  have hclaimed : ∀ name ∈ realIPFields, ∀ v ∈ ["198.51.100.1", "198.51.100.2"],
      claimed [(name, v)] = v ∧ (Netip.parseIP v).isSome = true ∧
        trimSpace ((splitComma v).headD "") = v ∧ splitLast ':' v.toList = none ∧
        trimChars ['[', ']'] v = v := by decide +kernel
  obtain ⟨heq, hparse, htrim, hport, hbrackets⟩ := hclaimed name hname v hv
  have haddr := m.address [(name, v)] (heq.symm ▸ hparse)
  rw [heq] at haddr
  simp only [clientIP, RealIP.rewrite, haddr, Option.getD_some]
  split
  · rename_i hforwarded
    -- the field is `X-Forwarded-For`, the only one that is read twice
    have hself : name = "X-Forwarded-For" := by
      by_contra hne
      exact hforwarded.2 (by rw [get_singleton, if_neg hne])
    rw [get_singleton, if_pos hself, htrim]
  · rw [hport]
    exact hbrackets

variable (cfg m)

/-- **The headers of a sign-in leave its keys alone exactly if the clients cannot send the fields
that the router reads**, whatever is configured: requests of one peer for one name, none of which
carries the secret, have the same keys; and behind the proxy the source key depends on nothing that
the client has sent. -/
theorem keys_fixed_iff_not_sent (names : List String) :
    ((∀ r₁ r₂ username, Sends names r₁ → Sends names r₂ → r₁.remoteAddr = r₂.remoteAddr →
        carriesSecret cfg r₁ = false → carriesSecret cfg r₂ = false →
        m.loginKeys cfg r₁ username = m.loginKeys cfg r₂ username) ∧
      (∀ r₁ r₂ peer, Sends names r₁ → Sends names r₂ → r₁.remoteAddr = r₂.remoteAddr →
        Accounts.proxySecret cfg ≠ "" →
        ipKey cfg (m.rewrite (sentOn cfg peer r₁)) = ipKey cfg (m.rewrite (sentOn cfg peer r₂)))) ↔
      ∀ name ∈ realIPFields, name ∉ names := by
  constructor
  · rintro ⟨hkeys, -⟩ name hname hsent
    -- neither request carries the secret, and each names its own address
    have hother : ∀ name ∈ realIPFields, name ≠ "X-Proxy-Secret" := by decide
    have hplain : ∀ v, carriesSecret cfg { header := [(name, v)] } = false := by
      intro v
      rw [carriesSecret, get_singleton, if_neg (hother name hname)]
      by_cases hsecret : Accounts.proxySecret cfg = ""
      · simp [hsecret]
      · simp [Ne.symm hsecret]
    have hsends : ∀ v, Sends names { header := [(name, v)] } := by
      intro v f hf
      cases List.mem_singleton.mp hf
      exact hsent
    have hsame := hkeys _ _ "" (hsends "198.51.100.1") (hsends "198.51.100.2") rfl (hplain _)
      (hplain _)
    simp only [RealIP.loginKeys, loginKeys, List.cons.injEq, and_true, ipKey,
      clientIP_of_sent hname (List.mem_cons_self),
      clientIP_of_sent hname (List.mem_cons_of_mem _ List.mem_cons_self)] at hsame
    exact absurd hsame (by decide +kernel)
  · intro hnone
    constructor
    · intro r₁ r₂ username hs₁ hs₂ hpeer _ _
      obtain ⟨hclaimed₁, hforwarded₁⟩ := header_of_not_sent hnone hs₁
      obtain ⟨hclaimed₂, hforwarded₂⟩ := header_of_not_sent hnone hs₂
      rw [RealIP.loginKeys, RealIP.loginKeys, loginKeys, loginKeys, ipKey_rewrite_congr hpeer
        (hclaimed₁.trans hclaimed₂.symm) (hforwarded₁.trans hforwarded₂.symm)]
    · intro r₁ r₂ peer hs₁ hs₂ hpeer _
      obtain ⟨hclaimed₁, hforwarded₁⟩ := header_sentOn hnone cfg peer hs₁
      obtain ⟨hclaimed₂, hforwarded₂⟩ := header_sentOn hnone cfg peer hs₂
      exact ipKey_rewrite_congr hpeer (hclaimed₁.trans hclaimed₂.symm)
        (hforwarded₁.trans hforwarded₂.symm)

/-- The router's middleware as it is documented. -/
def chi : RealIP where
  addr h := (Netip.parseIP (claimed h)).map fun _ => claimed h
  address h hsome := by
    obtain ⟨a, ha⟩ := Option.isSome_iff_exists.mp hsome
    rw [ha]
    rfl
  ignored h hnone := by rw [hnone]; rfl

/-- A sign-in straight from one client, with a field of its choice. -/
def naming (name v : String) : HTTPRequest :=
  { remoteAddr := "203.0.113.7:4711", header := [(name, v)] }

/-- A server behind a trusted proxy. -/
def proxied : ServerConfig := { trustedProxySecret := "s3cret" }

/-- The defect: without a secret a client changes the key its attempts are counted against by
sending another `X-Real-Ip`, with one by sending another `X-Forwarded-For`, and behind the proxy
too. -/
theorem header_changes_key :
    (carriesSecret {} (naming "X-Real-Ip" "198.51.100.1") = false ∧
      carriesSecret {} (naming "X-Real-Ip" "198.51.100.2") = false ∧
      chi.loginKeys {} (naming "X-Real-Ip" "198.51.100.1") "root" ≠
        chi.loginKeys {} (naming "X-Real-Ip" "198.51.100.2") "root") ∧
    (carriesSecret proxied (naming "X-Forwarded-For" "198.51.100.1") = false ∧
      carriesSecret proxied (naming "X-Forwarded-For" "198.51.100.2") = false ∧
      chi.loginKeys proxied (naming "X-Forwarded-For" "198.51.100.1") "root" ≠
        chi.loginKeys proxied (naming "X-Forwarded-For" "198.51.100.2") "root") ∧
    ipKey proxied (chi.rewrite (sentOn proxied "192.0.2.7"
        (naming "X-Forwarded-For" "198.51.100.1"))) ≠
      ipKey proxied (chi.rewrite (sentOn proxied "192.0.2.7"
        (naming "X-Forwarded-For" "198.51.100.2"))) := by
  decide +kernel

end Login

end PinkGlasses
