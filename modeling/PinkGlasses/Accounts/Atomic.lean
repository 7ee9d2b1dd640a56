import PinkGlasses.Accounts
import PinkGlasses.Atomic

/-!
# PinkGlasses.Accounts.Atomic

**When `patchUser` is all or nothing**, whatever fails.

A new password is written before the other columns are, and the sessions go with it; then the name
can turn out to be taken, the account to be gone, or the database to be away, and the reply is an
error. So the handler keeps the promise exactly if it writes no password, or finds it in place
already: `patchUser_allOrNothing_iff`.
-/

namespace PinkGlasses

open Lib Lib.System Lib.Prog Accounts Table

/-- The accounts and sessions are the same. -/
structure SameAccounts (db db' : Accounts) : Prop where
  users : db'.users.rows = db.users.rows
  sessions : db'.sessions = db.sessions

/-- The account is as the body asks for. `newHash` is the hash of the password it gives. -/
structure UserInput.Holds (inp : UserInput) (newHash : Option String) (u : User) : Prop where
  username : ∀ name, inp.username = some name → u.username = trimSpace name
  displayName : ∀ name, inp.displayName = some name → u.displayName = name
  role : ∀ text, inp.role = some text → Role.ofText? text = some u.role
  disabled : ∀ disabled, inp.disabled = some disabled → u.disabled = disabled
  password : inp.password.isSome = true → newHash.isSome = true ∧ u.passwordHash = newHash

/-- What the request asks for is in force. -/
def PatchUserRequest.InForce (req : PatchUserRequest) (db : Accounts) : Prop :=
  ∃ id inp u, req.userID = some id ∧ req.body = some inp ∧ u ∈ db.users.rows ∧ u.id = id ∧
    inp.Holds req.newHash u

/-- **The condition**: if the request passes its checks and gives a password, the account has the
hash already, of a password it need not change, and is signed in nowhere. -/
def PatchUserRequest.PasswordInPlace (req : PatchUserRequest) (db : Accounts) : Prop :=
  ∀ id inp ch pw hash, req.userID = some id → req.body = some inp → change inp = .ok ch →
    inp.password = some pw → checkPasswordPolicy pw = .ok () → req.newHash = some hash →
    (∀ u ∈ db.users.rows, u.id = id → u.passwordHash = some hash ∧ u.mustChangePassword = false) ∧
      ∀ s ∈ db.sessions, s.userID ≠ id

/-! ### The errors of the checks -/

section Errors

variable {inp : UserInput} {e : ErrorReply} {ch : UserChange} {text : String}

theorem checkName_error {name : Option String} (h : checkName name = .error e) :
    400 ≤ e.status := by
  cases name with
  | none => cases h
  | some name => grind [checkName, checkUsername]

theorem checkRole_error {text : Option String} (h : checkRole text = .error e) :
    400 ≤ e.status := by
  cases text with
  | none => cases h
  | some text => grind [checkRole]

theorem change_error (h : change inp = .error e) : 400 ≤ e.status := by
  simp only [change, Bind.bind, Except.bind, Pure.pure, Except.pure] at h
  grind [checkName_error, checkRole_error]

theorem checkPasswordPolicy_error {pw : String} (h : checkPasswordPolicy pw = .error e) :
    400 ≤ e.status := by
  grind [checkPasswordPolicy]

theorem change_role (h : change inp = .ok ch) (htext : inp.role = some text) :
    ∃ role, Role.ofText? text = some role := by
  simp only [change, Bind.bind, Except.bind] at h
  grind [checkRole]

end Errors

/-! ### Part by part -/

/-- From `st` every end of a part of a handler keeps the promise. -/
abbrev Insured {α : Type} (cfg : ServerConfig) (same inForce : Accounts → Prop) (st : Accounts)
    (x : AccountHandler α) : Prop :=
  (accountSystem cfg).AllEnds st x.run (Ending same inForce)

section Parts

variable {cfg : ServerConfig} {st : Accounts} {id : UUID} {ch : UserChange} {α : Type}
  {same inForce : Accounts → Prop}

theorem allEnds_check {r : Except ErrorReply α} {P : Accounts → Except ErrorReply α → Prop} :
    (accountSystem cfg).AllEnds st (check r).run P ↔ P st r := by
  constructor
  · exact fun h => h st r ⟨rfl, rfl⟩
  · rintro h st' r' ⟨rfl, rfl⟩
    exact h

/-- The check of the last administrator writes nothing, and **can always be passed**: it is skipped
if the account cannot be read. -/
theorem allEnds_guardPatch {f : Unit → AccountHandler α} (hsame : same st) :
    Insured cfg same inForce st (guardPatch id ch >>= f) ↔ Insured cfg same inForce st (f ()) := by
  unfold Insured guardPatch
  rw [allEnds_bind]
  split
  -- an attempt may fail or succeed: both ends lead on to the check of the row
  · rw [allEnds_bind, allEnds_attempt]
    refine ⟨fun h => allEnds_pure.mp h.1,
      fun h => ⟨allEnds_pure.mpr h, fun now cur st₁ hexec => ?_⟩⟩
    cases hexec
    show (accountSystem cfg).AllEnds _ _ _
    cases hfind : st.users.find? id with
    | none => exact allEnds_pure.mpr h
    | some cur =>
      show (accountSystem cfg).AllEnds _
        (if cur.enabledAdmin then _ else pure PUnit.unit : AccountHandler Unit).run _
      split
      · rw [allEnds_bind, allEnds_query]
        refine ⟨(promise_error (by decide)).mpr hsame, fun now n st₁ hexec => ?_⟩
        cases hexec
        show (accountSystem cfg).AllEnds _
          (if _ = 0 then _ else pure PUnit.unit : AccountHandler Unit).run _
        split
        · exact allEnds_throw.mpr ((promise_error (by decide)).mpr hsame)
        · exact allEnds_pure.mpr h
      · exact allEnds_pure.mpr h
  · exact allEnds_pure

theorem allEnds_updateUser
    (hok : ∀ now u st', (AccountStmt.updateUser id ch).exec now st = some (.user u, st') →
      inForce st' ∧ inForce (st'.deleteUserSessions id)) :
    Insured cfg same inForce st (updateUser id ch) ↔ same st := by
  unfold Insured updateUser
  rw [allEnds_bind, allEnds_query]
  refine ⟨fun h => (promise_error (by decide)).mp h.1,
    fun h => ⟨(promise_error (by decide)).mpr h, ?_⟩⟩
  intro now b st₁ hexec
  replace hexec : (AccountStmt.updateUser id ch).exec now st = some (b, st₁) := hexec
  -- the statement writes only where it answers a row
  have hsame : (∀ u, b ≠ .user u) → same st₁ := by
    intro hb
    rcases AccountStmt.exec_updateUser hexec with ⟨rfl, -⟩ | ⟨u, -, -, rfl, -⟩
    · exact h
    · exact absurd rfl (hb _)
  cases b with
  | usernameTaken | noRows => exact allEnds_refuse (by decide) (hsame nofun)
  | user u =>
    obtain ⟨hplain, hsessions⟩ := hok now u st₁ hexec
    show (accountSystem cfg).AllEnds _
      (if ch.disabled == some true || ch.role.isSome then _ else _ : AccountHandler User).run _
    split
    -- ending the sessions is at best effort, so both ends must be in force
    · rw [allEnds_bind, allEnds_attempt]
      refine ⟨allEnds_pure.mpr hplain, fun now b st₂ hexec => ?_⟩
      cases hexec
      exact allEnds_pure.mpr hsessions
    · exact allEnds_pure.mpr hplain

/-- The accounts with the password set. -/
def withPassword (db : Accounts) (id : UUID) (hash : String) : Accounts :=
  db.setColumns (·.id == id)
    (fun u => { u with passwordHash := some hash, mustChangePassword := false })
    (fun u => (rfl : u.id = u.id)) fun u => (rfl : u.username = u.username)

/-- A password that passes its checks is written, and the sessions go or stay. -/
theorem allEnds_resetPassword {f : Unit → AccountHandler α} {pw hash : String} (hsame : same st)
    (hpolicy : checkPasswordPolicy pw = .ok ()) :
    Insured cfg same inForce st (resetPassword id (some pw) (some hash) >>= f) ↔
      Insured cfg same inForce (withPassword st id hash) (f ()) ∧
      Insured cfg same inForce ((withPassword st id hash).deleteUserSessions id) (f ()) := by
  unfold Insured
  rw [allEnds_bind]
  simp only [resetPassword, hpolicy]
  rw [allEnds_bind, allEnds_check]
  simp only
  rw [allEnds_bind, allEnds_query]
  constructor
  -- both ends of the attempt to delete the sessions are possible
  · intro h
    obtain ⟨hkept, hgone⟩ := allEnds_attempt.mp (allEnds_bind.mp (h.2 0 () _ rfl))
    exact ⟨allEnds_pure.mp hkept, allEnds_pure.mp (hgone 0 () _ rfl)⟩
  · rintro ⟨hkept, hgone⟩
    refine ⟨(promise_error (by decide)).mpr hsame, fun now b st₁ hexec => ?_⟩
    cases hexec
    refine allEnds_bind.mpr (allEnds_attempt.mpr
      ⟨allEnds_pure.mpr hkept, fun now b st₂ hexec => ?_⟩)
    cases hexec
    exact allEnds_pure.mpr hgone

end Parts

/-! ### What the writes leave -/

section Writes

variable {db : Accounts} {id : UUID}

theorem SameAccounts.refl (db : Accounts) : SameAccounts db db := ⟨rfl, rfl⟩

theorem passwordHash_withPassword {hash : String} :
    ∀ u ∈ (withPassword db id hash).users.rows, u.id = id → u.passwordHash = some hash := by
  intro u hu hid
  rw [withPassword, Accounts.setColumns, mem_update] at hu
  obtain ⟨u₀, -, rfl⟩ := hu
  split at hid
  · rename_i hsel
    rw [if_pos hsel]
  · rename_i hsel
    exact absurd (beq_iff_eq.mpr hid) hsel

theorem sameAccounts_withPassword {hash : String} :
    SameAccounts db (withPassword db id hash) ↔
      ∀ u ∈ db.users.rows, u.id = id → u.passwordHash = some hash ∧
        u.mustChangePassword = false := by
  have husers : (withPassword db id hash).users.rows = db.users.rows ↔
      ∀ u ∈ db.users.rows, u.id = id → u.passwordHash = some hash ∧
        u.mustChangePassword = false := by
    have hrow : ∀ u : User, { u with passwordHash := some hash, mustChangePassword := false } = u ↔
        u.passwordHash = some hash ∧ u.mustChangePassword = false := by
      intro u
      cases u
      simp [eq_comm]
    rw [withPassword, Accounts.setColumns, rows_update_eq_iff]
    simp only [beq_iff_eq, hrow]
  exact ⟨fun h => husers.mp h.users, fun h => ⟨husers.mpr h, rfl⟩⟩

theorem sameAccounts_deleteUserSessions {db' : Accounts} (h : SameAccounts db db') :
    SameAccounts db (db'.deleteUserSessions id) ↔ ∀ s ∈ db.sessions, s.userID ≠ id := by
  have hsessions : (db'.deleteUserSessions id).sessions = db.sessions ↔
      ∀ s ∈ db.sessions, s.userID ≠ id := by
    show db'.sessions.filter _ = _ ↔ _
    rw [h.sessions, List.filter_eq_self]
    simp
  exact ⟨fun h' => hsessions.mp h'.sessions, fun h' => ⟨h.users, hsessions.mpr h'⟩⟩

theorem holds_of_updateUser {st st' : Accounts} {now : Time} {inp : UserInput} {ch : UserChange}
    {u : User} {newHash : Option String}
    (hexec : (AccountStmt.updateUser id ch).exec now st = some (.user u, st'))
    (hch : change inp = .ok ch)
    (hpassword : inp.password.isSome = true →
      newHash.isSome = true ∧ ∀ u ∈ st.users.rows, u.id = id → u.passwordHash = newHash) :
    u ∈ st'.users.rows ∧ u.id = id ∧ inp.Holds newHash u := by
  rcases AccountStmt.exec_updateUser hexec with ⟨-, hne⟩ | ⟨u₀, hids, hfind, hu, hreindex⟩
  · exact absurd rfl (hne u)
  obtain ⟨hmem, hid⟩ := find?_eq_some.mp hfind
  cases hu
  have hmem' : ch.apply u₀ ∈ st'.users.rows := by
    rw [(Accounts.reindex_eq_some hreindex).1]
    exact mem_update.mpr ⟨u₀, hmem, if_pos (beq_iff_eq.mpr hid)⟩
  refine ⟨hmem', hid, ?_⟩
  rw [change_eq_ok hch]
  -- one goal for each column that the body may name
  constructor
  · intro name h
    simp [UserChange.apply, h]
  · intro name h
    simp [UserChange.apply, h]
  · intro text h
    obtain ⟨role, hrole⟩ := change_role hch h
    simp [UserChange.apply, h, hrole]
  · intro disabled h
    simp [UserChange.apply, h]
  · exact fun h => ⟨(hpassword h).1, (hpassword h).2 u₀ hmem hid⟩

end Writes

/-! ### The whole handler -/

section Patch

variable {cfg : ServerConfig} {db : Accounts} {id : UUID} {inp : UserInput}
  {newHash : Option String}

/-- A request for an account with a body. -/
abbrev patchOf (id : UUID) (inp : UserInput) (newHash : Option String) : PatchUserRequest :=
  ⟨some id, some inp, newHash⟩

theorem allEnds_update {ch : UserChange} {st : Accounts} (hch : change inp = .ok ch)
    (hpassword : inp.password.isSome = true →
      newHash.isSome = true ∧ ∀ u ∈ st.users.rows, u.id = id → u.passwordHash = newHash) :
    Insured cfg (SameAccounts db) (patchOf id inp newHash).InForce st (updateUser id ch) ↔
      SameAccounts db st := by
  refine allEnds_updateUser fun now u st' hexec => ?_
  obtain ⟨hmem, hid, hholds⟩ := holds_of_updateUser hexec hch hpassword
  exact ⟨⟨id, inp, u, rfl, rfl, hmem, hid, hholds⟩, ⟨id, inp, u, rfl, rfl, hmem, hid, hholds⟩⟩

theorem allEnds_writes {ch : UserChange} (hch : change inp = .ok ch) :
    Insured cfg (SameAccounts db) (patchOf id inp newHash).InForce db (do
        resetPassword id inp.password newHash
        updateUser id ch) ↔
    ∀ pw hash, inp.password = some pw → checkPasswordPolicy pw = .ok () → newHash = some hash →
      (∀ u ∈ db.users.rows, u.id = id → u.passwordHash = some hash ∧ u.mustChangePassword = false) ∧
        ∀ s ∈ db.sessions, s.userID ≠ id := by
  cases hpw : inp.password with
  | none =>
    -- without a password the update is the first write
    refine iff_of_true ?_ nofun
    exact (allEnds_update hch (by rw [hpw]; nofun)).mpr (.refl db)
  | some pw =>
    cases hpolicy : checkPasswordPolicy pw with
    | error e =>
      -- a refused password is refused before anything is written
      refine iff_of_true ?_ fun pw' _ h h' => ?_
      · simp only [resetPassword, hpolicy]
        refine allEnds_bind.mpr (allEnds_bind.mpr (allEnds_check.mpr ?_))
        exact (promise_error (checkPasswordPolicy_error hpolicy)).mpr (.refl db)
      · cases h
        cases hpolicy.symm.trans h'
    | ok _ =>
      cases newHash with
      | none =>
        refine iff_of_true ?_ nofun
        simp only [resetPassword, hpolicy]
        refine allEnds_bind.mpr (allEnds_bind.mpr (allEnds_check.mpr (allEnds_throw.mpr ?_)))
        exact (promise_error (by decide)).mpr (.refl db)
      | some hash =>
        have hset : ∀ u ∈ (withPassword db id hash).users.rows, u.id = id →
            u.passwordHash = some hash :=
          passwordHash_withPassword
        have hset' : ∀ u ∈ ((withPassword db id hash).deleteUserSessions id).users.rows, u.id = id →
            u.passwordHash = some hash := hset
        -- once it is written, the update that follows may still fail: all must be as it was
        refine (allEnds_resetPassword (.refl db) hpolicy).trans ((and_congr
          (allEnds_update hch fun _ => ⟨rfl, hset⟩)
          (allEnds_update hch fun _ => ⟨rfl, hset'⟩)).trans ?_)
        constructor
        · rintro ⟨hkept, hgone⟩ pw' hash' hpw' - hhash'
          cases hhash'
          exact ⟨sameAccounts_withPassword.mp hkept,
            (sameAccounts_deleteUserSessions hkept).mp hgone⟩
        · intro h
          obtain ⟨hpassword, hsessions⟩ := h pw hash rfl hpolicy rfl
          have hkept := sameAccounts_withPassword.mpr hpassword
          exact ⟨hkept, (sameAccounts_deleteUserSessions hkept).mpr hsessions⟩

end Patch

/-- **`patchUser` is all or nothing, whatever fails, exactly if the password it writes is in
place.** -/
theorem patchUser_allOrNothing_iff (cfg : ServerConfig) (me : Identity) (req : PatchUserRequest)
    (db : Accounts) :
    (accountSystem cfg).AllEnds db ((AccountAction.patchUser req).handler me).run
      (AllOrNothing (SameAccounts db) req.InForce) ↔ req.PasswordInPlace db := by
  refine (allEnds_reply (by decide)).trans ?_
  -- a body or an identifier that cannot be read is refused at once
  obtain ⟨_ | id, _ | inp, newHash⟩ := req
  · exact iff_of_true (allEnds_refuse (by decide) (.refl db)) fun _ _ _ _ _ => nofun
  · exact iff_of_true (allEnds_refuse (by decide) (.refl db)) fun _ _ _ _ _ => nofun
  · exact iff_of_true (allEnds_refuse (by decide) (.refl db)) fun _ _ _ _ _ _ => nofun
  · refine allEnds_bind.trans (allEnds_check.trans ?_)
    cases hch : change inp with
    | error e =>
      refine iff_of_true ((promise_error (change_error hch)).mpr (.refl db)) ?_
      rintro _ _ _ _ _ - ⟨⟩ hch'
      cases hch.symm.trans hch'
    | ok ch =>
      refine (allEnds_guardPatch (.refl db)).trans ((allEnds_writes hch).trans ⟨?_, fun h => ?_⟩)
      · rintro h _ _ _ pw hash ⟨⟩ ⟨⟩ -
        exact h pw hash
      · exact fun pw hash => h id inp ch pw hash rfl rfl hch

end PinkGlasses
