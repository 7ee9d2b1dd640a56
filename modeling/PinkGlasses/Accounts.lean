import PinkGlasses.Http
import PinkGlasses.Lib.Conc
import PinkGlasses.Store.Stmt
import PinkGlasses.Store.User

/-!
# PinkGlasses.Accounts

`internal/httpapi/auth.go` and the user and token handlers of `authroutes.go`. Every request first
finds out who makes it (`authenticate`), is refused below the role its route asks for (`require`),
and is then served under that identity: **the role is the one that was read at authentication**.

What a handler takes from its surroundings comes with the request: the hash `HashPassword` makes of
a password (salted, so a new one each time), the secret `NewSecret` draws, the clock.
-/

namespace PinkGlasses

open Lib Prog

/-- The settings of the API server. -/
structure ServerConfig where
  /-- `ASM_TRUSTED_PROXY_SECRET`. -/
  trustedProxySecret : String := ""
  /-- `auth.HashSecret`. -/
  hashSecret : String → String := id

/-- The body of `patchUser`. -/
structure UserInput where
  username : Option String := none
  displayName : Option String := none
  role : Option String := none
  disabled : Option Bool := none
  password : Option String := none
deriving Repr, DecidableEq

/-- A `PATCH` of an account: its identifier, which may not parse, and the body, which may not
decode. `newHash` is what `HashPassword` makes of the password, nothing if it fails. -/
structure PatchUserRequest where
  userID : Option UUID
  body : Option UserInput
  newHash : Option String := none
deriving Repr, DecidableEq

/-- The body of `createToken`. -/
structure TokenInput where
  name : String
  role : String := ""
  ttlDays : Int := 0
deriving Repr, DecidableEq

/-- A new token: `secretHash` is the hash of the secret that is drawn, nothing if that fails. -/
structure TokenRequest where
  body : Option TokenInput
  secretHash : Option String := none
  now : Time := 0
deriving Repr, DecidableEq

/-- A handler of the accounts. -/
abbrev AccountHandler (α : Type) := ExceptT ErrorReply (Prog AccountStmt) α

namespace Accounts

variable (cfg : ServerConfig)

/-! ### Who makes a request -/

def proxySecret : String := trimSpace cfg.trustedProxySecret

/-- `auth.TokenPrefix`. -/
def tokenMark : List Char := "pgt_".toList

/-- `auth.BearerToken`. -/
def bearerToken (r : HTTPRequest) : String :=
  let h := (r.header.get "Authorization").toList
  if "Bearer ".toList.isPrefixOf h then trimSpace (String.ofList (h.drop 7))
  else trimSpace (r.header.get "X-API-Token")

def lookupSession (hash : String) : Prog AccountStmt (Option Identity) := do
  match ← issue (.lookupSession hash) with
  | some (some id) =>
    let _ ← issue (.extendSession hash)
    pure (some id)
  | _ => pure none

def lookupAPIToken (presented : String) : Prog AccountStmt (Option Identity) := do
  if !tokenMark.isPrefixOf presented.toList then pure none
  else
    match ← issue (.lookupAPIToken (cfg.hashSecret presented)) with
    | some (some id) =>
      let _ ← issue (.touchAPIToken (id.tokenID.getD uuidNil))
      pure (some id)
    | _ => pure none

/-- The account a trusted proxy vouches for. -/
def lookupVouched (r : HTTPRequest) : Prog AccountStmt (Option Identity) := do
  let user := trimSpace (r.header.get "X-Forwarded-User")
  if proxySecret cfg = "" ∨ user = "" ∨ r.header.get "X-Proxy-Secret" ≠ proxySecret cfg then
    pure none
  else
    match ← issue (.userByUsername user) with
    | some (some u) =>
      if u.disabled then pure none
      else pure (some { userID := u.id, username := u.username, role := u.role, via := .proxy })
    | _ => pure none

/-- Whom the session cookie signs in, if the request has one. -/
def bySession (r : HTTPRequest) : Prog AccountStmt (Option Identity) :=
  if r.cookie = "" then pure none else lookupSession (cfg.hashSecret r.cookie)

/-- Whom the presented token signs in, if the request has one. -/
def byToken (r : HTTPRequest) : Prog AccountStmt (Option Identity) :=
  if bearerToken r = "" then pure none else lookupAPIToken cfg (bearerToken r)

/-- `authenticate`: a session, a token, a trusted proxy, in this order. -/
def authenticate (r : HTTPRequest) : Prog AccountStmt (Option Identity) := do
  match ← bySession cfg r with
  | some id => pure (some id)
  | none =>
    match ← byToken cfg r with
    | some id => pure (some id)
    | none => lookupVouched cfg r

/-! ### Checks on the body -/

def checkUsername (u : String) : Except ErrorReply Unit :=
  if u.utf8ByteSize < 2 ∨ 64 < u.utf8ByteSize then
    .error ⟨400, "username must be between 2 and 64 characters"⟩
  else if u.toList.all fun c =>
      ('a' ≤ c && c ≤ 'z') || ('A' ≤ c && c ≤ 'Z') || ('0' ≤ c && c ≤ '9') ||
      c == '.' || c == '-' || c == '_' || c == '@' then .ok ()
  else .error ⟨400, "username may contain only letters, digits and . - _ @"⟩

/-- `auth.CheckPasswordPolicy`. -/
def checkPasswordPolicy (pw : String) : Except ErrorReply Unit :=
  if pw.toList.length < 12 then .error ⟨400, "password must be at least 12 characters"⟩
  else if 1024 < pw.utf8ByteSize then .error ⟨400, "password must be at most 1024 bytes"⟩
  else .ok ()

/-- The check of a name the body gives. -/
def checkName : Option String → Except ErrorReply Unit
  | none => .ok ()
  | some v => checkUsername v

/-- The check of a role the body gives. -/
def checkRole : Option String → Except ErrorReply (Option Role)
  | none => .ok none
  | some text => match Role.ofText? text with
    | none => .error ⟨400, "role must be admin, operator or viewer"⟩
    | some role => .ok (some role)

/-- The columns a body asks to change. -/
def change (inp : UserInput) : Except ErrorReply UserChange := do
  let username := inp.username.map trimSpace
  checkName username
  let role ← checkRole inp.role
  pure { username, displayName := inp.displayName, role, disabled := inp.disabled }

theorem checkRole_eq_ok {text : Option String} {role : Option Role}
    (h : checkRole text = .ok role) :
    role = text.bind Role.ofText? := by
  cases text with
  | none =>
    cases h
    rfl
  | some text =>
    simp only [checkRole] at h
    split at h <;> cases h
    rename_i hrole
    exact hrole.symm

theorem change_eq_ok {inp : UserInput} {ch : UserChange} (h : change inp = .ok ch) :
    ch = { username := inp.username.map trimSpace, displayName := inp.displayName,
           role := inp.role.bind Role.ofText?, disabled := inp.disabled } := by
  simp only [change] at h
  cases hname : checkName (inp.username.map trimSpace) with
  | error e =>
    rw [hname] at h
    cases h
  | ok _ =>
    cases hrole : checkRole inp.role with
    | error e =>
      rw [hname, hrole] at h
      cases h
    | ok role =>
      rw [hname, hrole] at h
      cases h
      rw [checkRole_eq_ok hrole]

/-- `losingAdmin`: the change can take an administrator away. -/
def losingAdmin (ch : UserChange) : Bool := ch.role.any (· != .admin) || ch.disabled == some true

/-! ### Handlers -/

/-- The message of an error of the system's source of randomness. Its text is the system's. -/
def randError : String := "randomness error"

/-- An error that needed no statement. -/
def check {α : Type} (r : Except ErrorReply α) : AccountHandler α := ExceptT.mk (pure r)

/-- `SetPassword` after the policy, and the sessions go. -/
def resetPassword (id : UUID) (password newHash : Option String) : AccountHandler Unit := do
  match password with
  | none => pure ()
  | some pw =>
    check (checkPasswordPolicy pw)
    match newHash with
    | none => throw ⟨500, randError⟩
    | some hash =>
      query ⟨500, dbError⟩ (.setPassword id hash)
      let _ ← attempt (.deleteUserSessions id)

/-- What `patchUser` refuses before it writes: the last administrator stays. An account that cannot
be read is not checked. -/
def guardPatch (id : UUID) (ch : UserChange) : AccountHandler Unit := do
  if losingAdmin ch then
    match ← attempt (.getUser id) with
    | some (some cur) =>
      if cur.enabledAdmin then
        let others ← query ⟨500, dbError⟩ (.countAdmins id)
        if others = 0 then
          throw ⟨409, "this is the only administrator; promote someone else first"⟩
    | _ => pure ()

/-- `UpdateUser`, with the replies `patchUser` gives its errors. -/
def updateUser (id : UUID) (ch : UserChange) : AccountHandler User := do
  match ← query ⟨404, "user not found"⟩ (.updateUser id ch) with
  | .usernameTaken => throw ⟨409, "that username is already taken"⟩
  | .noRows => throw ⟨404, "user not found"⟩
  | .user u =>
    if ch.disabled == some true || ch.role.isSome then
      let _ ← attempt (.deleteUserSessions id)
    pure u

def patchUser (req : PatchUserRequest) : AccountHandler User :=
  match req.userID, req.body with
  | none, _ => throw ⟨400, "bad user id"⟩
  | some _, none => throw ⟨400, "bad body"⟩
  | some id, some inp => do
    let ch ← check (change inp)
    guardPatch id ch
    resetPassword id inp.password req.newHash
    updateUser id ch

/-- What `deleteUser` refuses: **unlike `patchUser`, it goes on when the administrators cannot be
counted.** -/
def guardDelete (id : UUID) : AccountHandler Unit := do
  match ← attempt (.getUser id) with
  | some (some cur) =>
    if cur.enabledAdmin then
      let others ← attempt (.countAdmins id)
      if others = some 0 then
        throw ⟨409, "this is the only administrator; promote someone else first"⟩
  | _ => pure ()

/-- `deleteUser`. -/
def deleteUserHandler (me : Identity) (userID : Option UUID) : AccountHandler Unit :=
  match userID with
  | none => throw ⟨400, "bad user id"⟩
  | some id => do
    if id = me.userID then throw ⟨409, "you cannot delete your own account"⟩
    guardDelete id
    let ok ← query ⟨500, dbError⟩ (.deleteUser id)
    if !ok then throw ⟨404, "user not found"⟩

/-- When a token of that many days expires; the duration is a 64-bit number of nanoseconds. -/
def tokenExpiry (now : Time) (ttlDays : Int) : Option Time :=
  let ttl := Int.bmod (ttlDays * 86400 * 1000000000) (2 ^ 64)
  if 0 < ttlDays ∧ 0 < ttl then some (now + ttl / 1000000000) else none

/-- `createToken` with `CreateAPIToken`: **the role is bounded by the identity's, once.** -/
def createToken (me : Identity) (req : TokenRequest) : AccountHandler APIToken :=
  match req.body with
  | none => throw ⟨400, "bad body"⟩
  | some inp => do
    if trimSpace inp.name = "" then
      throw ⟨400, "give the token a name, so it can be recognised later"⟩
    match if inp.role = "" then some me.role else Role.ofText? inp.role with
    | none => throw ⟨400, "unknown role"⟩
    | some role =>
      if !me.role.atLeast role then
        throw ⟨400, "a token cannot be given more access than the person creating it has"⟩
      match req.secretHash with
      | none => throw ⟨400, randError⟩
      | some hash =>
        query ⟨400, dbError⟩
          (.createAPIToken hash inp.name me.userID role (tokenExpiry req.now inp.ttlDays))

/-- `revokeToken`: an administrator revokes any token, others their own. -/
def revokeToken (me : Identity) (tokenID : Option UUID) : AccountHandler Unit :=
  match tokenID with
  | none => throw ⟨400, "bad token id"⟩
  | some id => do
    let onlyUser := if me.role.atLeast .admin then none else some me.userID
    let ok ← query ⟨500, dbError⟩ (.revokeAPIToken id onlyUser)
    if !ok then throw ⟨404, "token not found, or already revoked"⟩

end Accounts

/-- The requests on accounts and tokens. -/
inductive AccountAction
  | patchUser (req : PatchUserRequest)
  | deleteUser (userID : Option UUID)
  | createToken (req : TokenRequest)
  | revokeToken (tokenID : Option UUID)
deriving Repr, DecidableEq

namespace AccountAction

/-- The role its route requires. -/
def minRole : AccountAction → Role
  | patchUser _ | deleteUser _ => .admin
  | createToken _ | revokeToken _ => .viewer

/-- The handler, under the identity that makes the request; it answers with its status. -/
def handler (me : Identity) : AccountAction → AccountHandler Nat
  | patchUser req => do
    let _ ← Accounts.patchUser req
    pure 200
  | deleteUser userID => do
    Accounts.deleteUserHandler me userID
    pure 200
  | createToken req => do
    let _ ← Accounts.createToken me req
    pure 201
  | revokeToken tokenID => do
    Accounts.revokeToken me tokenID
    pure 200

end AccountAction

/-- A request with what authenticates it. -/
structure AccountRequest where
  http : HTTPRequest := {}
  action : AccountAction
deriving Repr, DecidableEq

/-- `requireAuth`, `require` and the handler. -/
def AccountRequest.prog (cfg : ServerConfig) (r : AccountRequest) :
    Prog AccountStmt (Except ErrorReply Nat) := do
  match ← Accounts.authenticate cfg r.http with
  | none => pure (.error ⟨401, "sign in to continue"⟩)
  | some me =>
    if me.role.atLeast r.action.minRole then (r.action.handler me).run
    else
      pure (.error ⟨403, "this needs the " ++ r.action.minRole.text ++ " role; you have " ++
        me.role.text⟩)

/-- The requests on accounts as a system on their tables. -/
def accountSystem (cfg : ServerConfig) :
    System AccountStmt Accounts Time AccountRequest (Except ErrorReply Nat) where
  exec s now db := s.exec now db
  accepts _ _ := true
  prog r := r.prog cfg

/-! ### Two administrators

The accounts the witnesses and counterexamples about them start from. -/

namespace Accounts

/-- Two administrators, both signed in. -/
def twoAdmins : Accounts where
  users := .ofRows [{ id := 1, username := "alice", role := .admin },
    { id := 2, username := "bob", role := .admin }] (by decide)
  sessions := [⟨"alice-cookie", 1, 1000⟩, ⟨"bob-cookie", 2, 1000⟩]
  names := by decide +kernel
  sessionUser := by decide +kernel
  tokenUser := by decide +kernel

/-- A request of whoever has the cookie. -/
def signedIn (cookie : String) (action : AccountAction) : AccountRequest := ⟨{ cookie }, action⟩

end Accounts

end PinkGlasses
