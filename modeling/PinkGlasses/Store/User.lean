import PinkGlasses.Store.Asset
import PinkGlasses.Text

/-!
# PinkGlasses.Store.User

Accounts: the statements of `internal/store/user.go`, `session.go`, `apitoken.go` and
`loginattempt.go` on `app_user`, `user_session`, `api_token` and `login_attempt`.

* A user name is unique up to case, and a session or a token belongs to an account: both are part of
  the type `Accounts`. Deleting an account deletes what belongs to it.
* A session acts with the role its account has when it is looked up. **A token acts with the role in
  its own row**; of the account behind it only the disabled flag is read.
* A secret is stored as its hash, which stands for it here.
-/

namespace PinkGlasses

/-- `auth.Role`. A text that is none of these is not `Valid`, and no table holds it. -/
inductive Role
  | viewer | operator | admin
deriving Repr, DecidableEq

namespace Role

/-- The role as a text. -/
def text : Role → String
  | viewer => "viewer"
  | operator => "operator"
  | admin => "admin"

/-- `auth.Role(text)`, if that is `Valid`. -/
def ofText? : String → Option Role
  | "viewer" => some viewer
  | "operator" => some operator
  | "admin" => some admin
  | _ => none

def rank : Role → Nat
  | admin => 3
  | operator => 2
  | viewer => 1

/-- `AtLeast`: this role includes another's powers. -/
def atLeast (r min : Role) : Bool := min.rank ≤ r.rank

end Role

/-- How a request was authenticated. -/
inductive Via
  | session | token | proxy
deriving Repr, DecidableEq

/-- `auth.Identity`. -/
structure Identity where
  userID : UUID
  username : String
  role : Role
  via : Via
  tokenID : Option UUID := none
deriving Repr, DecidableEq

/-- `app_user`. -/
structure User where
  id : UUID
  username : String
  displayName : String := ""
  /-- None for an account that only a proxy signs in. -/
  passwordHash : Option String := none
  role : Role := .viewer
  disabled : Bool := false
  mustChangePassword : Bool := false
  lastLoginAt : Option Time := none
deriving Repr, DecidableEq

/-- `lower(username)`. -/
def User.lowerName (u : User) : String := toLower u.username

/-- The account counts for `CountAdmins`. -/
def User.enabledAdmin (u : User) : Bool := u.role == .admin && !u.disabled

/-- `user_session`. -/
structure Session where
  tokenHash : String
  userID : UUID
  expiresAt : Time
deriving Repr, DecidableEq

/-- `api_token`. -/
structure APIToken where
  id : UUID
  tokenHash : String
  name : String
  userID : UUID
  role : Role
  expiresAt : Option Time := none
  revokedAt : Option Time := none
  lastUsedAt : Option Time := none
deriving Repr, DecidableEq

/-- **The tables of accounts.** -/
structure Accounts where
  users : Lib.Table User User.id
  sessions : List Session := []
  tokens : Lib.Table APIToken APIToken.id := .empty
  /-- `login_attempt`: a key and when it was tried. -/
  attempts : List (String × Time) := []
  /-- `idx_app_user_username`. -/
  names : (users.rows.map User.lowerName).Nodup
  /-- `user_session.user_id REFERENCES app_user`. -/
  sessionUser : ∀ s ∈ sessions, (users.find? s.userID).isSome = true
  /-- `api_token.user_id REFERENCES app_user`. -/
  tokenUser : ∀ t ∈ tokens.rows, (users.find? t.userID).isSome = true

/-- The columns `UpdateUser` sets; what is absent stays. -/
structure UserChange where
  username : Option String := none
  displayName : Option String := none
  role : Option Role := none
  disabled : Option Bool := none
deriving Repr, DecidableEq

/-- `COALESCE($n, column)` for each of them. -/
def UserChange.apply (ch : UserChange) (u : User) : User :=
  { u with
    username := ch.username.getD u.username, displayName := ch.displayName.getD u.displayName
    role := ch.role.getD u.role, disabled := ch.disabled.getD u.disabled }

/-- What the `UPDATE` of `UpdateUser` answers: the row, none, or `ErrUsernameTaken`. -/
inductive Updated
  | user (u : User)
  | noRows
  | usernameTaken
deriving Repr, DecidableEq

namespace Accounts

variable (db : Accounts)

/-- Other rows in `app_user`, if the index on the names admits them. -/
def reindex (users : Lib.Table User User.id)
    (hids : ∀ k, (db.users.find? k).isSome = true → (users.find? k).isSome = true) :
    Option Accounts :=
  if hnames : (users.rows.map User.lowerName).Nodup then
    some { db with
      users := users
      names := hnames
      sessionUser := fun s hs => hids s.userID (db.sessionUser s hs)
      tokenUser := fun t ht => hids t.userID (db.tokenUser t ht) }
  else none

theorem reindex_eq_some {db db' : Accounts} {users : Lib.Table User User.id} {hids}
    (h : db.reindex users hids = some db') :
    db'.users = users ∧ db'.sessions = db.sessions ∧ db'.tokens = db.tokens ∧
      db'.attempts = db.attempts := by
  unfold reindex at h
  split at h <;> cases h
  exact ⟨rfl, rfl, rfl, rfl⟩

/-- `INSERT INTO app_user`, if the name is free. -/
def insertUser (mk : Nat → User) (hid : ∀ k, (mk k).id = k) : Option Accounts :=
  db.reindex (db.users.insert mk hid) fun _ h => Lib.Table.isSome_find?_insert.mpr (.inl h)

/-- `UPDATE app_user SET …` of columns that are not indexed. -/
def setColumns (p : User → Bool) (f : User → User) (hid : ∀ u, (f u).id = u.id := by intro _; rfl)
    (hname : ∀ u, (f u).username = u.username := by intro _; rfl) : Accounts :=
  { db with
    users := db.users.update p f hid
    names := by
      have hsame : (db.users.update p f hid).rows.map User.lowerName =
          db.users.rows.map User.lowerName :=
        Lib.Table.map_update fun u => congrArg toLower (hname u)
      rw [hsame]
      exact db.names
    sessionUser := fun s hs => Lib.Table.isSome_find?_update hid (db.sessionUser s hs)
    tokenUser := fun t ht => Lib.Table.isSome_find?_update hid (db.tokenUser t ht) }

/-- `DELETE FROM app_user WHERE id=$1`, with the account's sessions and tokens. -/
def deleteUser (id : UUID) : Accounts :=
  { db with
    users := db.users.delete (·.id == id)
    sessions := db.sessions.filter (·.userID != id)
    tokens := db.tokens.delete (·.userID == id)
    names := (List.filter_sublist.map _).nodup db.names
    sessionUser := fun s hs => by
      obtain ⟨hs, hne⟩ := List.mem_filter.mp hs
      refine Lib.Table.isSome_find?_delete (fun u hu => ?_) (db.sessionUser s hs)
      rw [beq_iff_eq.mp hu]
      exact (bne_iff_ne.mp hne).symm
    tokenUser := fun t ht => by
      obtain ⟨ht, hne⟩ := Lib.Table.mem_delete.mp ht
      refine Lib.Table.isSome_find?_delete (fun u hu => ?_) (db.tokenUser t ht)
      rw [beq_iff_eq.mp hu]
      exact (beq_eq_false_iff_ne.mp hne).symm }

/-- `DELETE FROM user_session WHERE user_id=$1`. -/
def deleteUserSessions (id : UUID) : Accounts :=
  { db with
    sessions := db.sessions.filter (·.userID != id)
    sessionUser := fun s hs => db.sessionUser s (List.mem_of_mem_filter hs) }

/-- `UPDATE api_token SET …`. -/
def setTokens (p : APIToken → Bool) (f : APIToken → APIToken)
    (hid : ∀ t, (f t).id = t.id := by intro _; rfl)
    (huser : ∀ t, (f t).userID = t.userID := by intro _; rfl) : Accounts :=
  { db with
    tokens := db.tokens.update p f hid
    tokenUser := fun t ht => by
      obtain ⟨t₀, ht₀, rfl⟩ := Lib.Table.mem_update.mp ht
      have howner := db.tokenUser t₀ ht₀
      split
      · rw [huser]
        exact howner
      · exact howner }

/-- `INSERT INTO api_token`. -/
def insertToken (mk : Nat → APIToken) (hid : ∀ k, (mk k).id = k)
    (howner : (db.users.find? (mk db.tokens.next).userID).isSome = true) : Accounts :=
  { db with
    tokens := db.tokens.insert mk hid
    tokenUser := fun t ht => by
      rcases Lib.Table.mem_insert.mp ht with hold | rfl
      · exact db.tokenUser t hold
      · exact howner }

/-- `UPDATE user_session SET …` of the expiry. -/
def setExpiry (hash : String) (expiresAt : Time) : Accounts :=
  { db with
    sessions := db.sessions.map fun s => if s.tokenHash == hash then { s with expiresAt } else s
    sessionUser := fun s hs => by
      obtain ⟨s₀, hs₀, rfl⟩ := List.mem_map.mp hs
      have howner := db.sessionUser s₀ hs₀
      split
      · exact howner
      · exact howner }

/-- `INSERT INTO user_session`. -/
def insertSession (s : Session) (howner : (db.users.find? s.userID).isSome = true) : Accounts :=
  { db with
    sessions := db.sessions ++ [s]
    sessionUser := fun x hx => by
      rcases List.mem_append.mp hx with hold | hnew
      · exact db.sessionUser x hold
      · rw [List.mem_singleton.mp hnew]
        exact howner }

/-- The account is there and enabled. -/
def enabled (userID : UUID) : Bool := (db.users.find? userID).any fun u => !u.disabled

/-- The session a cookie of this hash stands for. -/
def liveSession (now : Time) (hash : String) : Option Session :=
  db.sessions.find? fun s =>
    s.tokenHash == hash && decide (now < s.expiresAt) && db.enabled s.userID

/-- The token a presented secret of this hash stands for. -/
def liveToken (now : Time) (hash : String) : Option APIToken :=
  db.tokens.rows.find? fun t => t.tokenHash == hash && t.revokedAt.isNone &&
    t.expiresAt.all (fun e => decide (now < e)) && db.enabled t.userID

/-- Who a session signs in: the account, with **its role**. -/
def sessionIdentity (now : Time) (hash : String) : Option Identity := do
  let s ← db.liveSession now hash
  let u ← db.users.find? s.userID
  pure { userID := u.id, username := u.username, role := u.role, via := .session }

/-- Who a token signs in: its owner, with **the token's role**. -/
def tokenIdentity (now : Time) (hash : String) : Option Identity := do
  let t ← db.liveToken now hash
  let u ← db.users.find? t.userID
  pure
    { userID := u.id, username := u.username, role := t.role, via := .token, tokenID := some t.id }

end Accounts

/-- `store.SessionTTL`, in seconds. -/
def sessionTTL : Int := 12 * 60 * 60

/-- `loginWindow`, in seconds. -/
def loginWindow : Int := 15 * 60

/-- The statements on accounts. -/
inductive AccountStmt : Type → Type
  | getUser (id : UUID) : AccountStmt (Option User)
  | userByUsername (username : String) : AccountStmt (Option User)
  | countAdmins (excluding : UUID) : AccountStmt Nat
  /-- The `UPDATE` of `UpdateUser`. -/
  | updateUser (id : UUID) (ch : UserChange) : AccountStmt Updated
  | setPassword (id : UUID) (hash : String) : AccountStmt Unit
  | deleteUser (id : UUID) : AccountStmt Bool
  | touchLogin (id : UUID) : AccountStmt Unit
  | createSession (hash : String) (userID : UUID) : AccountStmt Unit
  /-- The query of `LookupSession`. -/
  | lookupSession (hash : String) : AccountStmt (Option Identity)
  /-- Its sliding expiry. -/
  | extendSession (hash : String) : AccountStmt Unit
  | deleteUserSessions (userID : UUID) : AccountStmt Unit
  | createAPIToken (hash name : String) (userID : UUID) (role : Role) (expires : Option Time) :
      AccountStmt APIToken
  /-- The query of `LookupAPIToken`. -/
  | lookupAPIToken (hash : String) : AccountStmt (Option Identity)
  /-- Its note of when the token was last used. -/
  | touchAPIToken (id : UUID) : AccountStmt Unit
  | revokeAPIToken (id : UUID) (onlyUser : Option UUID) : AccountStmt Bool
  | countLoginAttempt (keys : List String) : AccountStmt Nat
  | clearLoginAttempts (keys : List String) : AccountStmt Unit

namespace AccountStmt

open Store

variable {β : Type}

/-- What a statement answers and does. -/
def exec (now : Time) (db : Accounts) : AccountStmt β → Option (β × Accounts)
  | getUser id => some (db.users.find? id, db)
  | userByUsername username =>
    if storable username then
      some (db.users.rows.find? (·.lowerName == toLower username), db)
    else none
  | countAdmins excluding =>
    some (db.users.rows.countP fun u => u.enabledAdmin && u.id != excluding, db)
  | updateUser id ch =>
    if ch.username.all storable && ch.displayName.all storable then
      match db.users.find? id with
      | none => some (.noRows, db)
      | some u =>
        match db.reindex (db.users.update (·.id == id) ch.apply) fun _ h =>
            Lib.Table.isSome_find?_update _ h with
        | none => some (.usernameTaken, db)
        | some db' => some (.user (ch.apply u), db')
    else none
  | setPassword id hash =>
    some ((), db.setColumns (·.id == id) fun u =>
      { u with passwordHash := some hash, mustChangePassword := false })
  | deleteUser id => some ((db.users.find? id).isSome, db.deleteUser id)
  | touchLogin id =>
    some ((), db.setColumns (·.id == id) fun u => { u with lastLoginAt := some now })
  | createSession hash userID =>
    if howner : (db.users.find? userID).isSome = true then
      if db.sessions.any (·.tokenHash == hash) then none
      else some ((), db.insertSession ⟨hash, userID, now + sessionTTL⟩ howner)
    else none
  | lookupSession hash => some (db.sessionIdentity now hash, db)
  | extendSession hash => some ((), db.setExpiry hash (now + sessionTTL))
  | deleteUserSessions userID => some ((), db.deleteUserSessions userID)
  | createAPIToken hash name userID role expiresAt =>
    if howner : (db.users.find? userID).isSome = true then
      if storable name && !db.tokens.rows.any (·.tokenHash == hash) then
        some ({ id := db.tokens.next, tokenHash := hash, name, userID, role, expiresAt },
          db.insertToken (fun id => { id, tokenHash := hash, name, userID, role, expiresAt })
            (fun _ => rfl) howner)
      else none
    else none
  | lookupAPIToken hash => some (db.tokenIdentity now hash, db)
  | touchAPIToken id =>
    some ((), db.setTokens (·.id == id) fun t => { t with lastUsedAt := some now })
  | revokeAPIToken id onlyUser =>
    let p := fun t : APIToken => t.id == id && t.revokedAt.isNone && onlyUser.all (· == t.userID)
    some (db.tokens.rows.any p, db.setTokens p fun t => { t with revokedAt := some now })
  | countLoginAttempt keys =>
    -- the attempts the statement itself adds are not among those it counts
    if keys.all storable then
      some ((keys.map fun k => db.attempts.countP
          (fun a => a.1 == k && decide (now - loginWindow < a.2)) + 1).foldl max 1,
        { db with attempts := db.attempts ++ keys.map fun k => (k, now) })
    else none
  | clearLoginAttempts keys =>
    if keys.all storable then
      some ((), { db with attempts := db.attempts.filter fun a => !keys.contains a.1 })
    else none

/-! ### What a statement does to accounts and tokens -/

/-- The account a statement changes, and how. -/
def changes : AccountStmt β → Option (UUID × UserChange)
  | updateUser id ch => some (id, ch)
  | _ => none

/-- The account a statement deletes. -/
def removes : AccountStmt β → Option UUID
  | deleteUser id => some id
  | _ => none

/-- The owner and the role of the token a statement creates. -/
def mints : AccountStmt β → Option (UUID × Role)
  | createAPIToken _ _ userID role _ => some (userID, role)
  | _ => none

/-- What becomes of one account: its role and its disabled flag stay, unless the statement changes
them. -/
def UserStep (s : AccountStmt β) (u u' : User) : Prop :=
  u'.id = u.id ∧ ((u'.role = u.role ∧ u'.disabled = u.disabled) ∨
    ∃ ch, s.changes = some (u.id, ch) ∧ u' = ch.apply u)

theorem UserStep.refl (s : AccountStmt β) (u : User) : UserStep s u u := ⟨rfl, .inl ⟨rfl, rfl⟩⟩

/-- The accounts after a statement: the old ones, each by its `UserStep`, without a deleted one. -/
structure UsersStep (s : AccountStmt β) (db db' : Accounts) : Prop where
  before : ∀ u' ∈ db'.users.rows, ∃ u ∈ db.users.rows, UserStep s u u'
  after : ∀ u ∈ db.users.rows, s.removes ≠ some u.id → ∃ u' ∈ db'.users.rows, UserStep s u u'

variable {s : AccountStmt β} {db db' : Accounts} {now : Time}

theorem UsersStep.of_eq (h : db'.users = db.users) : UsersStep s db db' :=
  ⟨fun u hu => ⟨u, h ▸ hu, .refl s u⟩, fun u hu _ => ⟨u, h ▸ hu, .refl s u⟩⟩

/-- An `UPDATE` of the accounts, row by row. -/
theorem UsersStep.of_update {p : User → Bool} {f : User → User} (hid : ∀ u, (f u).id = u.id)
    (h : db'.users = db.users.update p f hid) (hstep : ∀ u, p u = true → UserStep s u (f u)) :
    UsersStep s db db' := by
  have hrow : ∀ u, UserStep s u (if p u then f u else u) := by
    intro u
    split
    · rename_i hsel
      exact hstep u hsel
    · exact .refl s u
  constructor
  · intro u' hu'
    rw [h] at hu'
    obtain ⟨u, hu, rfl⟩ := Lib.Table.mem_update.mp hu'
    exact ⟨u, hu, hrow u⟩
  · intro u hu _
    exact ⟨_, h ▸ Lib.Table.mem_update.mpr ⟨u, hu, rfl⟩, hrow u⟩

theorem UsersStep.of_setColumns {p : User → Bool} {f : User → User} {hid hname}
    (hsame : ∀ u, (f u).role = u.role ∧ (f u).disabled = u.disabled) :
    UsersStep s db (db.setColumns p f hid hname) :=
  .of_update hid rfl fun u _ => ⟨hid u, .inl (hsame u)⟩

/-- `UpdateUser` writes one row or nothing. -/
theorem exec_updateUser {id : UUID} {ch : UserChange} {b : Updated}
    (h : (updateUser id ch).exec now db = some (b, db')) :
    (db' = db ∧ ∀ u, b ≠ .user u) ∨
    ∃ u hids, db.users.find? id = some u ∧ b = .user (ch.apply u) ∧
      db.reindex (db.users.update (·.id == id) ch.apply) hids = some db' := by
  simp only [exec] at h
  split at h
  · split at h
    · cases h
      exact .inl ⟨rfl, fun _ hb => by cases hb⟩
    · rename_i u hfind
      split at h
      · cases h
        exact .inl ⟨rfl, fun _ hb => by cases hb⟩
      · rename_i hreindex
        cases h
        exact .inr ⟨u, _, hfind, rfl, hreindex⟩
  · cases h

theorem exec_users {b : β} (h : s.exec now db = some (b, db')) : UsersStep s db db' := by
  cases s with
  | updateUser id ch =>
    rcases exec_updateUser h with ⟨rfl, -⟩ | ⟨u, hids, -, -, hreindex⟩
    · exact .of_eq rfl
    · refine .of_update _ (Accounts.reindex_eq_some hreindex).1 fun u hsel => ?_
      refine ⟨rfl, .inr ⟨ch, ?_, rfl⟩⟩
      rw [beq_iff_eq.mp hsel]
      rfl
  | setPassword | touchLogin =>
    cases h
    exact .of_setColumns fun _ => ⟨rfl, rfl⟩
  | deleteUser id =>
    cases h
    constructor
    · intro u hu
      exact ⟨u, (Lib.Table.mem_delete.mp hu).1, .refl _ u⟩
    · intro u hu hne
      refine ⟨u, Lib.Table.mem_delete.mpr ⟨hu, ?_⟩, .refl _ u⟩
      exact beq_eq_false_iff_ne.mpr fun heq => hne (congrArg some heq.symm)
  | userByUsername | countLoginAttempt | clearLoginAttempts =>
    simp only [exec] at h
    split at h
    · cases h
      exact .of_eq rfl
    · cases h
  | createSession | createAPIToken =>
    simp only [exec] at h
    split at h
    · split at h <;> cases h
      exact .of_eq rfl
    · cases h
  | _ =>
    cases h
    exact .of_eq rfl

/-- The tokens after a statement: **none gains a role or comes back to life**, and only
`createAPIToken` makes one. -/
theorem exec_tokens {b : β} (h : s.exec now db = some (b, db')) {t' : APIToken}
    (ht' : t' ∈ db'.tokens.rows) :
    (∃ t ∈ db.tokens.rows, t'.userID = t.userID ∧ t'.role = t.role ∧
      (t'.revokedAt = none → t.revokedAt = none)) ∨ s.mints = some (t'.userID, t'.role) := by
  have hold : t' ∈ db.tokens.rows → ∃ t ∈ db.tokens.rows, t'.userID = t.userID ∧ t'.role = t.role ∧
      (t'.revokedAt = none → t.revokedAt = none) := fun ht => ⟨t', ht, rfl, rfl, id⟩
  cases s with
  | updateUser id ch =>
    rcases exec_updateUser h with ⟨rfl, -⟩ | ⟨u, hids, -, -, hreindex⟩
    · exact .inl (hold ht')
    · rw [(Accounts.reindex_eq_some hreindex).2.2.1] at ht'
      exact .inl (hold ht')
  | deleteUser id =>
    cases h
    exact .inl (hold (Lib.Table.mem_delete.mp ht').1)
  | touchAPIToken =>
    cases h
    obtain ⟨t, ht, rfl⟩ := List.mem_map.mp ht'
    refine .inl ⟨t, ht, ?_⟩
    split <;> exact ⟨rfl, rfl, id⟩
  | revokeAPIToken =>
    cases h
    obtain ⟨t, ht, rfl⟩ := List.mem_map.mp ht'
    refine .inl ⟨t, ht, ?_⟩
    split
    · exact ⟨rfl, rfl, nofun⟩
    · exact ⟨rfl, rfl, id⟩
  | createAPIToken hash name userID role expires =>
    simp only [exec] at h
    split at h
    · split at h <;> cases h
      rcases Lib.Table.mem_insert.mp ht' with ht | rfl
      · exact .inl (hold ht)
      · exact .inr rfl
    · cases h
  | userByUsername | countLoginAttempt | clearLoginAttempts =>
    simp only [exec] at h
    split at h <;> cases h
    exact .inl (hold ht')
  | createSession =>
    simp only [exec] at h
    split at h
    · split at h <;> cases h
      exact .inl (hold ht')
    · cases h
  | _ =>
    cases h
    exact .inl (hold ht')

end AccountStmt

end PinkGlasses
