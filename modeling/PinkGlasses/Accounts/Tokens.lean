import PinkGlasses.Accounts
import PinkGlasses.Lib.Faults

/-!
# PinkGlasses.Accounts.Tokens

**What a token may do against what its owner may do.** `CreateAPIToken` bounds the token's role by
the role its creator acts with; after that the token's row keeps its role while the owner's changes.

* `requestPre` says why a request issues a statement: a token is created under an identity the same
  request was authenticated with and has not written since, an account is changed as the body says.
* `TokensWithin` is the bound as an invariant. Every request keeps it but one that gives an account
  a role below that of a token it still has (`RoleCovers`).
-/

namespace PinkGlasses

open Lib Prog Table

variable {β : Type}

open Accounts

/-- No token that is not revoked has a higher role than its owner. -/
def TokensWithin (db : Accounts) : Prop :=
  ∀ t ∈ db.tokens.rows, t.revokedAt = none → ∀ u ∈ db.users.rows, u.id = t.userID →
    u.role.atLeast t.role = true

/-- Every token comes from one with the same owner and role that was not revoked if it is not. -/
def TokensFrom (db db' : Accounts) : Prop :=
  ∀ t' ∈ db'.tokens.rows, ∃ t ∈ db.tokens.rows, t'.userID = t.userID ∧ t'.role = t.role ∧
    (t'.revokedAt = none → t.revokedAt = none)

theorem TokensFrom.refl (db : Accounts) : TokensFrom db db := fun t ht => ⟨t, ht, rfl, rfl, id⟩

theorem TokensFrom.trans {db₁ db₂ db₃ : Accounts} (h : TokensFrom db₁ db₂)
    (h' : TokensFrom db₂ db₃) :
    TokensFrom db₁ db₃ := by
  intro t₃ ht₃
  obtain ⟨t₂, ht₂, hu₂, hr₂, hl₂⟩ := h' t₃ ht₃
  obtain ⟨t₁, ht₁, hu₁, hr₁, hl₁⟩ := h t₂ ht₂
  exact ⟨t₁, ht₁, hu₂.trans hu₁, hr₂.trans hr₁, hl₁ ∘ hl₂⟩

/-- The account behind an identity has at least its role. -/
def Backed (db : Accounts) (id : Identity) : Prop :=
  ∃ u ∈ db.users.rows, u.id = id.userID ∧ u.role.atLeast id.role = true

/-- The statement neither changes nor deletes an account and creates no token. -/
def AccountStmt.quiet (s : AccountStmt β) : Prop :=
  s.changes = none ∧ s.removes = none ∧ s.mints = none

theorem AccountStmt.changes_of_mints {s : AccountStmt β} {m : UUID × Role} (h : s.mints = some m) :
    s.changes = none := by
  cases s <;> first | rfl | cases h

/-! ### One statement -/

section Stmt

variable {now : Time} {db db' : Accounts} {s : AccountStmt β} {b : β}

theorem tokensFrom_exec (h : s.exec now db = some (b, db')) (hs : s.mints = none) :
    TokensFrom db db' := by
  intro t' ht'
  rcases s.exec_tokens h ht' with hold | hnew
  · exact hold
  · rw [hs] at hnew
    cases hnew

/-- A statement that creates no token keeps the bound if each account it changes still covers its
tokens. -/
theorem TokensWithin.exec (hJ : TokensWithin db) (h : s.exec now db = some (b, db'))
    (hmint : s.mints = none)
    (hchange : ∀ uid ch, s.changes = some (uid, ch) → ∀ t ∈ db.tokens.rows, t.userID = uid →
      t.revokedAt = none → ∀ role, ch.role = some role → role.atLeast t.role = true) :
    TokensWithin db' := by
  intro t' ht' hlive u' hu' howner
  obtain ⟨t, ht, huid, hrole, hrev⟩ := tokensFrom_exec h hmint t' ht'
  obtain ⟨u, hu, hid, hstep⟩ := (s.exec_users h).before u' hu'
  have hbound := hJ t ht (hrev hlive) u hu (by rw [← hid, howner, huid])
  rw [hrole]
  rcases hstep with ⟨hsame, -⟩ | ⟨ch, hch, rfl⟩
  · rw [hsame]
    exact hbound
  · have hgiven := hchange u.id ch hch t ht (by rw [← huid, ← howner, hid]) (hrev hlive)
    cases hr : ch.role with
    | none => simpa [UserChange.apply, hr] using hbound
    | some role => simpa [UserChange.apply, hr] using hgiven role hr

theorem TokensWithin.exec_mint (hJ : TokensWithin db) (h : s.exec now db = some (b, db'))
    {uid : UUID} {role : Role} (hmint : s.mints = some (uid, role)) (hchange : s.changes = none)
    (hcover : ∃ u ∈ db.users.rows, u.id = uid ∧ u.role.atLeast role = true) : TokensWithin db' := by
  intro t' ht' hlive u' hu' howner
  obtain ⟨u, hu, hid, hstep⟩ := (s.exec_users h).before u' hu'
  -- a statement that mints a token changes no role
  have hrole : u'.role = u.role := by
    rcases hstep with ⟨hsame, -⟩ | ⟨ch, hch, -⟩
    · exact hsame
    · rw [hchange] at hch
      cases hch
  rw [hrole]
  rcases s.exec_tokens h ht' with ⟨t, ht, huid, hrole', hrev⟩ | hnew
  · rw [hrole']
    exact hJ t ht (hrev hlive) u hu (by rw [← hid, howner, huid])
  -- the new token is its owner's, whose role covers it
  · rw [hmint, Option.some.injEq, Prod.mk.injEq] at hnew
    obtain ⟨u₀, hu₀, hid₀, hcover⟩ := hcover
    have heq : u = u₀ := eq_of_key hu hu₀ (by rw [← hid, howner, ← hnew.1, hid₀])
    rw [heq, ← hnew.2]
    exact hcover

theorem Backed.exec {id : Identity} (hb : Backed db id) (h : s.exec now db = some (b, db'))
    (hs : s.quiet) : Backed db' id := by
  obtain ⟨u, hu, hid, hrole⟩ := hb
  obtain ⟨hchange, hremove, -⟩ := hs
  obtain ⟨u', hu', hid', hstep⟩ := (s.exec_users h).after u hu (by rw [hremove]; nofun)
  refine ⟨u', hu', hid'.trans hid, ?_⟩
  rcases hstep with ⟨hsame, -⟩ | ⟨ch, hch, -⟩
  · rw [hsame]
    exact hrole
  · rw [hchange] at hch
    cases hch

end Stmt

/-! ### Who makes a request -/

/-- The identity of an account that a trusted proxy vouches for. -/
def User.vouched (u : User) : Identity :=
  { userID := u.id, username := u.username, role := u.role, via := .proxy }

/-- The calls show that the request is made under the identity. -/
def Grants (h : Hist AccountStmt) (id : Identity) : Prop :=
  (∃ hash, h.Asked (.lookupSession hash) (some (some id))) ∨
  (∃ hash, h.Asked (.lookupAPIToken hash) (some (some id))) ∨
  ∃ name u, h.Asked (.userByUsername name) (some (some u)) ∧ id = u.vouched

/-- The request has only looked around so far. -/
def AllQuiet (h : Hist AccountStmt) : Prop := ∀ c ∈ h, c.stmt.quiet

theorem AllQuiet.cons {h : Hist AccountStmt} (hq : AllQuiet h) {s : AccountStmt β} (hs : s.quiet)
    (r : Option β) : AllQuiet (⟨s, r⟩ :: h) := by
  intro c hc
  rcases List.mem_cons.mp hc with rfl | hc
  · exact hs
  · exact hq c hc

/-- The statement is one of the two readings before such a write. -/
def AccountStmt.guards : AccountStmt β → Bool
  | getUser _ | countAdmins _ => true
  | _ => false

/-- A reading failed. -/
def readsFailed (h : Hist AccountStmt) : Bool := h.any fun c => c.stmt.guards && c.answer.isNone

/-- The readings show an administrator besides this account: it is none itself, or others were
counted. -/
def Sure (h : Hist AccountStmt) (id : UUID) : Prop :=
  (∃ cur, h.Asked (.getUser id) (some cur) ∧ cur.all (fun u => !u.enabledAdmin) = true) ∨
  ∃ n, 0 < n ∧ h.Asked (.countAdmins id) (some n)

/-- Whoever is found to make the request is shown by the calls. -/
def Granted (h : Hist AccountStmt) (id? : Option Identity) : Prop :=
  ∀ id, id? = some id → Grants h id

/-- The contract of a program that only looks around. -/
abbrev Looks (_ : Hist AccountStmt) (β : Type) (s : AccountStmt β) : Prop := s.quiet

section Authenticate

variable {cfg : ServerConfig} {h : Hist AccountStmt}

theorem granted_none : Granted h none := nofun

theorem granted_some {id : Identity} (hg : Grants h id) : Granted h (some id) := by
  intro id' heq
  cases heq
  exact hg

theorem lookupSession_granted (hash : String) :
    (lookupSession hash).Meets Looks h Granted := by
  refine meets_bind.mpr ⟨⟨rfl, rfl, rfl⟩, fun r => ?_⟩
  rcases r with _ | _ | id
  · exact granted_none
  · exact granted_none
  · exact ⟨⟨rfl, rfl, rfl⟩,
      fun _ => granted_some (.inl ⟨hash, List.mem_cons_of_mem _ List.mem_cons_self⟩)⟩

theorem lookupAPIToken_granted (presented : String) :
    (lookupAPIToken cfg presented).Meets Looks h Granted := by
  unfold lookupAPIToken
  split
  · exact granted_none
  · refine meets_bind.mpr ⟨⟨rfl, rfl, rfl⟩, fun r => ?_⟩
    rcases r with _ | _ | id
    · exact granted_none
    · exact granted_none
    · exact ⟨⟨rfl, rfl, rfl⟩, fun _ =>
        granted_some (.inr (.inl ⟨_, List.mem_cons_of_mem _ List.mem_cons_self⟩))⟩

theorem lookupVouched_granted (r : HTTPRequest) :
    (lookupVouched cfg r).Meets Looks h Granted := by
  simp only [lookupVouched]
  split
  · exact granted_none
  · refine meets_bind.mpr ⟨⟨rfl, rfl, rfl⟩, fun a => ?_⟩
    rcases a with _ | _ | u
    · exact granted_none
    · exact granted_none
    · show (if u.disabled then pure none else pure (some u.vouched) :
        Prog AccountStmt (Option Identity)).Meets _ _ Granted
      split
      · exact granted_none
      · exact granted_some (.inr (.inr ⟨_, u, Hist.asked_head .., rfl⟩))

theorem bySession_granted (r : HTTPRequest) :
    (bySession cfg r).Meets Looks h Granted := by
  unfold bySession
  split
  · exact granted_none
  · exact lookupSession_granted _

theorem byToken_granted (r : HTTPRequest) :
    (byToken cfg r).Meets Looks h Granted := by
  unfold byToken
  split
  · exact granted_none
  · exact lookupAPIToken_granted _

theorem authenticate_granted (r : HTTPRequest) :
    (authenticate cfg r).Meets Looks h Granted := by
  refine meets_bind.mpr ((bySession_granted r).mono fun h' id? hid => ?_)
  cases id? with
  | some id => exact hid
  | none =>
    refine meets_bind.mpr ((byToken_granted r).mono fun h'' id? hid => ?_)
    cases id? with
    | some id => exact hid
    | none => exact lookupVouched_granted r

end Authenticate

/-! ### Why a request issues a statement -/

/-- The request changes the account, as its body says. -/
def Changing (r : AccountRequest) (uid : UUID) (ch : UserChange) : Prop :=
  ∃ req inp, r.action = .patchUser req ∧ req.userID = some uid ∧ req.body = some inp ∧
    change inp = .ok ch

/-- The guard was passed. -/
def Passed (h : Hist AccountStmt) (id : UUID) : Prop := readsFailed h = true ∨ Sure h id

/-- An account is changed as the body says and deleted if that was asked for, past the guard of the
last administrator; a token is created for whoever makes the request and covers its role, before
anything is written. -/
structure requestPre (r : AccountRequest) (h : Hist AccountStmt) (β : Type) (s : AccountStmt β) :
    Prop where
  changing : ∀ uid ch, s.changes = some (uid, ch) →
    Changing r uid ch ∧ (losingAdmin ch = true → AllQuiet h ∧ Passed h uid)
  removing : ∀ uid, s.removes = some uid →
    r.action = .deleteUser (some uid) ∧ AllQuiet h ∧ Passed h uid
  minting : ∀ uid role, s.mints = some (uid, role) →
    (∃ req, r.action = .createToken req) ∧ AllQuiet h ∧
      ∃ id, Grants h id ∧ id.userID = uid ∧ id.role.atLeast role = true

section Request

variable {r : AccountRequest} {h h' : Hist AccountStmt} {me : Identity} {α γ : Type}

theorem requestPre_of_quiet {s : AccountStmt β} (hs : s.quiet) : requestPre r h β s := by
  obtain ⟨hchange, hremove, hmint⟩ := hs
  constructor
  · rw [hchange]
    nofun
  · rw [hremove]
    nofun
  · rw [hmint]
    nofun

theorem uses_check {P : ∀ β : Type, AccountStmt β → Prop} {x : Except ErrorReply α}
    {f : α → AccountHandler γ} (hf : ∀ a, x = .ok a → Uses P (f a).run) :
    Uses P (check x >>= f).run := by
  cases x with
  | ok a => exact hf a rfl
  | error e => trivial

theorem meetsOk_check {x : Except ErrorReply α} :
    MeetsOk (requestPre r) h (check x) fun h' a => h' = h ∧ x = .ok a := by
  cases x with
  | ok a => exact ⟨List.Subset.refl h, rfl, rfl⟩
  | error e => trivial

variable {id : UUID} {ch : UserChange}

theorem Passed.mono (hp : Passed h id) (hsub : h ⊆ h') : Passed h' id := by
  rcases hp with hfail | ⟨cur, hasked, hcur⟩ | ⟨n, hn, hasked⟩
  · obtain ⟨c, hc, hfail⟩ := List.any_eq_true.mp hfail
    exact .inl (List.any_eq_true.mpr ⟨c, hsub hc, hfail⟩)
  · exact .inr (.inl ⟨cur, hasked.mono hsub, hcur⟩)
  · exact .inr (.inr ⟨n, hn, hasked.mono hsub⟩)

theorem passed_of_getUser {cur : Option (Option User)}
    (hcur : cur.all (fun u? => u?.all fun u => !u.enabledAdmin) = true) :
    Passed (⟨.getUser id, cur⟩ :: h) id := by
  cases cur with
  | none => exact .inl rfl
  | some cur => exact .inr (.inl ⟨cur, Hist.asked_head .., hcur⟩)

theorem passed_of_countAdmins {others : Option Nat} (hothers : others ≠ some 0) :
    Passed (⟨.countAdmins id, others⟩ :: h) id := by
  cases others with
  | none => exact .inl rfl
  | some n =>
    refine .inr (.inr ⟨n, Nat.pos_of_ne_zero ?_, Hist.asked_head ..⟩)
    exact fun hn => hothers (congrArg some hn)

theorem getUser_meets (hq : AllQuiet h) :
    MeetsOk (requestPre r) h (attempt (.getUser id) : AccountHandler _) fun h' cur => AllQuiet h' ∧
      (cur.all (fun u? => u?.all fun u => !u.enabledAdmin) = true → Passed h' id) :=
  meetsOk_attempt (requestPre_of_quiet ⟨rfl, rfl, rfl⟩) fun cur =>
    ⟨hq.cons ⟨rfl, rfl, rfl⟩ cur, passed_of_getUser⟩

theorem guardPatch_meets (hq : AllQuiet h) :
    MeetsOk (requestPre r) h (guardPatch id ch) fun h' _ =>
      AllQuiet h' ∧ (losingAdmin ch = true → Passed h' id) := by
  unfold guardPatch
  split
  · refine (getUser_meets hq).bind fun h' cur _ ⟨hq', hpass⟩ => ?_
    -- a guard that cannot read the account, or finds none, lets the request go on
    rcases cur with _ | _ | cur
    · exact meetsOk_pure ⟨hq', fun _ => hpass rfl⟩
    · exact meetsOk_pure ⟨hq', fun _ => hpass rfl⟩
    · dsimp only
      split
      · refine MeetsOk.bind (P := fun h n => AllQuiet h ∧
          (n ≠ 0 → Passed h id)) ?_ fun h'' n _ hn => ?_
        · exact meetsOk_query (requestPre_of_quiet ⟨rfl, rfl, rfl⟩) fun n =>
            ⟨hq'.cons ⟨rfl, rfl, rfl⟩ (some n), fun hn => passed_of_countAdmins (by simpa using hn)⟩
        · split
          · exact meetsOk_throw
          · exact meetsOk_pure ⟨hn.1, fun _ => hn.2 ‹_›⟩
      · rename_i hadmin
        exact meetsOk_pure ⟨hq', fun _ => hpass (by simpa using hadmin)⟩
  · rename_i hlose
    exact meetsOk_pure ⟨hq, fun hl => absurd hl hlose⟩

theorem guardDelete_meets (hq : AllQuiet h) :
    MeetsOk (requestPre r) h (guardDelete id) fun h' _ => AllQuiet h' ∧ Passed h' id := by
  refine (getUser_meets hq).bind fun h' cur _ ⟨hq', hpass⟩ => ?_
  rcases cur with _ | _ | cur
  · exact meetsOk_pure ⟨hq', hpass rfl⟩
  · exact meetsOk_pure ⟨hq', hpass rfl⟩
  · dsimp only
    split
    · refine MeetsOk.bind (P := fun h n => AllQuiet h ∧
        (n ≠ some 0 → Passed h id)) ?_ fun h'' n _ hn => ?_
      · exact meetsOk_attempt (requestPre_of_quiet ⟨rfl, rfl, rfl⟩) fun n =>
          ⟨hq'.cons ⟨rfl, rfl, rfl⟩ n, passed_of_countAdmins⟩
      · split
        · exact meetsOk_throw
        · exact meetsOk_pure ⟨hn.1, hn.2 ‹_›⟩
    · rename_i hadmin
      exact meetsOk_pure ⟨hq', hpass (by simpa using hadmin)⟩

theorem resetPassword_quiet (password newHash : Option String) :
    (resetPassword id password newHash).run.Uses fun _ s => s.quiet := by
  cases password with
  | none => trivial
  | some pw =>
    refine uses_check fun _ _ => ?_
    cases newHash with
    | none => trivial
    | some hash =>
      refine (uses_query ⟨rfl, rfl, rfl⟩).bind_except fun _ => ?_
      exact (uses_attempt ⟨rfl, rfl, rfl⟩).bind_except fun _ => trivial

theorem updateUser_meets (hchanging : Changing r id ch) (hq : AllQuiet h)
    (hpass : losingAdmin ch = true → Passed h id) :
    MeetsOk (requestPre r) h (updateUser id ch) fun _ _ => True := by
  have hpre : requestPre r h _ (.updateUser id ch) := by
    refine ⟨fun uid ch' hch => ?_, nofun, nofun⟩
    cases hch
    exact ⟨hchanging, fun hl => ⟨hq, hpass hl⟩⟩
  refine (meetsOk_query_asked hpre).bind fun h' b _ _ => ?_
  cases b with
  | usernameTaken | noRows => exact meetsOk_throw
  | user u =>
    dsimp only
    split
    · exact (meetsOk_attempt_asked (requestPre_of_quiet ⟨rfl, rfl, rfl⟩)).bind fun _ _ _ _ =>
        meetsOk_pure trivial
    · exact meetsOk_pure trivial

/-- `patchUser` only changes the account it names, as its body says. -/
theorem patchUser_meets {req : PatchUserRequest} (hreq : r.action = .patchUser req)
    (hq : AllQuiet h) : MeetsOk (requestPre r) h (patchUser req) fun _ _ => True := by
  unfold patchUser
  split
  · exact meetsOk_throw
  · exact meetsOk_throw
  · rename_i id inp hid hbody
    refine meetsOk_check.bind fun _ ch _ ⟨heq, hch⟩ => ?_
    refine (guardPatch_meets (heq ▸ hq)).bind fun h' _ _ ha => ?_
    have hreset : MeetsOk (requestPre r) h' (resetPassword id inp.password req.newHash) fun h'' _ =>
        AllQuiet h'' ∧ (losingAdmin ch = true → Passed h'' id) := by
      have huses := meetsOk_of_uses (h := h') (@resetPassword_quiet id inp.password req.newHash)
        (fun _ _ _ hs => hs : ∀ h β (s : AccountStmt β), s.quiet → Looks h β s)
      refine (huses.trade ha fun h β s hK hs => ⟨requestPre_of_quiet hs, fun a => ?_⟩).imp
        fun _ _ _ hK => hK.1
      exact ⟨hK.1.cons hs a, fun hl => (hK.2 hl).mono (List.subset_cons_self _ _)⟩
    exact hreset.bind fun h'' _ _ hK => updateUser_meets ⟨req, inp, hreq, hid, hbody, hch⟩ hK.1 hK.2

/-- `deleteUser` only deletes the account it names. -/
theorem deleteUser_meets {userID : Option UUID} (hreq : r.action = .deleteUser userID)
    (hq : AllQuiet h) : MeetsOk (requestPre r) h (deleteUserHandler me userID) fun _ _ => True := by
  cases userID with
  | none => exact meetsOk_throw
  | some id =>
    simp only [deleteUserHandler]
    split
    · trivial
    · refine (guardDelete_meets hq).bind fun h' _ _ ha => ?_
      have hpre : requestPre r h' _ (.deleteUser id) := by
        refine ⟨nofun, fun uid huid => ?_, nofun⟩
        cases huid
        exact ⟨hreq, ha⟩
      refine (meetsOk_query_asked hpre).bind fun _ ok _ _ => ?_
      cases ok
      · exact meetsOk_throw
      · exact meetsOk_pure trivial

theorem revokeToken_quiet (tokenID : Option UUID) :
    (revokeToken me tokenID).run.Uses fun _ s => s.quiet := by
  cases tokenID with
  | none => trivial
  | some id =>
    refine (uses_query ⟨rfl, rfl, rfl⟩).bind_except fun ok => ?_
    split <;> trivial

theorem createToken_meets {req : TokenRequest} (hr : r.action = .createToken req) (hq : AllQuiet h)
    (hg : Grants h me) : MeetsOk (requestPre r) h (createToken me req) fun _ _ => True := by
  simp only [createToken]
  split
  · exact meetsOk_throw
  · split
    · trivial
    · split
      · exact meetsOk_throw
      · split
        · trivial
        · rename_i role _ hcover
          split
          · exact meetsOk_throw
          · refine meetsOk_query ⟨nofun, nofun, fun uid role' hmint => ?_⟩ fun _ => trivial
            cases hmint
            exact ⟨⟨req, hr⟩, hq, me, hg, rfl, by simpa using hcover⟩

/-- What an authenticated request has done: nothing but find out who makes it. -/
theorem authenticate_meets (cfg : ServerConfig) (http : HTTPRequest) :
    (authenticate cfg http).Meets (requestPre r) [] fun h id? => AllQuiet h ∧ Granted h id? :=
  (authenticate_granted http).trade (List.forall_mem_nil _) fun _ _ _ hq hs =>
    ⟨requestPre_of_quiet hs, fun a => hq.cons hs a⟩

theorem handler_meets (hq : AllQuiet h) (hg : Grants h me) :
    MeetsOk (requestPre r) h (r.action.handler me) fun _ _ => True := by
  cases hr : r.action with
  | patchUser req => exact (patchUser_meets hr hq).bind fun _ _ _ _ => meetsOk_pure trivial
  | deleteUser userID => exact (deleteUser_meets hr hq).bind fun _ _ _ _ => meetsOk_pure trivial
  | createToken req => exact (createToken_meets hr hq hg).bind fun _ _ _ _ => meetsOk_pure trivial
  | revokeToken tokenID =>
    exact (meetsOk_of_uses (revokeToken_quiet tokenID) fun _ _ _ => requestPre_of_quiet).bind
      fun _ _ _ _ => meetsOk_pure trivial

/-- **The contract of a request.** -/
theorem request_meets (cfg : ServerConfig) (r : AccountRequest) :
    (r.prog cfg).Meets (requestPre r) [] fun _ _ => True := by
  refine meets_bind.mpr ((authenticate_meets cfg r.http).mono fun h me? hme => ?_)
  cases me? with
  | none => trivial
  | some me =>
    obtain ⟨hq, hg⟩ := hme
    dsimp only
    split
    · exact (handler_meets hq (hg me rfl)).mono fun _ _ _ => trivial
    · trivial

end Request

/-! ### The bound along a sequence of requests -/

/-- If the request gives an account a role, the tokens the account still has are within it. -/
def RoleCovers (db : Accounts) (r : AccountRequest) : Prop :=
  ∀ req uid inp role, r.action = .patchUser req → req.userID = some uid → req.body = some inp →
    inp.role.bind Role.ofText? = some role →
    ∀ t ∈ db.tokens.rows, t.userID = uid → t.revokedAt = none → role.atLeast t.role = true

theorem Role.atLeast_refl (role : Role) : role.atLeast role = true := by simp [Role.atLeast]

theorem Role.atLeast_trans {r₁ r₂ r₃ : Role} (h : r₁.atLeast r₂ = true)
    (h' : r₂.atLeast r₃ = true) :
    r₁.atLeast r₃ = true := by
  simp only [Role.atLeast, decide_eq_true_eq] at h h' ⊢
  omega

section Sequence

variable {cfg : ServerConfig} {db db' : Accounts} {now : Time} {id : Identity}

theorem backed_of_session {hash : String} (h : db.sessionIdentity now hash = some id) :
    Backed db id := by
  simp only [sessionIdentity, Option.bind_eq_bind, Option.bind_eq_some_iff] at h
  obtain ⟨s, -, u, hu, hid⟩ := h
  cases hid
  exact ⟨u, (find?_eq_some.mp hu).1, rfl, u.role.atLeast_refl⟩

theorem TokensWithin.backed_of_token {hash : String} (hJ : TokensWithin db)
    (h : db.tokenIdentity now hash = some id) : Backed db id := by
  simp only [tokenIdentity, Option.bind_eq_bind, Option.bind_eq_some_iff] at h
  obtain ⟨t, ht, u, hu, hid⟩ := h
  obtain ⟨hmem, howner⟩ := find?_eq_some.mp hu
  have hlive := List.find?_some ht
  simp only [Bool.and_eq_true, Option.isNone_iff_eq_none] at hlive
  cases hid
  exact ⟨u, hmem, rfl, hJ t (List.mem_of_find?_eq_some ht) hlive.1.1.2 u hmem howner⟩

theorem TokensWithin.backed {s : AccountStmt β} {b : β} (hJ : TokensWithin db)
    (h : s.exec now db = some (b, db')) {past : Hist AccountStmt}
    (hg : Grants (⟨s, some b⟩ :: past) id) : Grants past id ∨ Backed db id := by
  -- the last statement shows the identity, or an earlier one did
  rcases hg with ⟨hash, hasked⟩ | ⟨hash, hasked⟩ | ⟨name, u, hasked, rfl⟩ <;>
    rcases List.mem_cons.mp hasked with hnew | hold
  · cases hnew
    have hid : db.sessionIdentity now hash = some id := congrArg Prod.fst (Option.some.inj h)
    exact .inr (backed_of_session hid)
  · exact .inl (.inl ⟨hash, hold⟩)
  · cases hnew
    have hid : db.tokenIdentity now hash = some id := congrArg Prod.fst (Option.some.inj h)
    exact .inr (hJ.backed_of_token hid)
  · exact .inl (.inr (.inl ⟨hash, hold⟩))
  · cases hnew
    simp only [AccountStmt.exec] at h
    split at h
    · have hfind := congrArg Prod.fst (Option.some.inj h)
      exact .inr ⟨u, List.mem_of_find?_eq_some hfind, rfl, u.role.atLeast_refl⟩
    · cases h
  · exact .inl (.inr (.inr ⟨name, u, hold, rfl⟩))

/-- What a request has at each of its statements: the bound, in an account it changes the tokens it
began with, and behind the identity it was authenticated with an account that covers it. -/
structure Bounded (r : AccountRequest) (db₀ : Accounts) (h : Hist AccountStmt) (db : Accounts) :
    Prop where
  within : TokensWithin db
  from_start : (∃ req, r.action = .patchUser req) → TokensFrom db₀ db
  backed : AllQuiet h → ∀ id, Grants h id → Backed db id

theorem Bounded.step {r : AccountRequest} {db₀ : Accounts} {h : Hist AccountStmt}
    {s : AccountStmt β} {b : β} (hA : Bounded r db₀ h db) (hok : RoleCovers db₀ r)
    (hpre : requestPre r h β s) (hexec : s.exec now db = some (b, db')) :
    Bounded r db₀ (⟨s, some b⟩ :: h) db' := by
  refine ⟨?_, ?_, ?_⟩
  · cases hmint : s.mints with
    | none =>
      -- a role given is one that the tokens of the start are covered by
      refine hA.within.exec hexec hmint fun uid ch hch t ht howner hlive role hrole => ?_
      obtain ⟨⟨req, inp, hr, hid, hbody, hchange⟩, -⟩ := hpre.changing uid ch hch
      obtain ⟨t₀, ht₀, huid, hrole₀, hrev⟩ := hA.from_start ⟨req, hr⟩ t ht
      rw [change_eq_ok hchange] at hrole
      rw [hrole₀]
      exact hok req uid inp role hr hid hbody hrole t₀ ht₀ (huid ▸ howner) (hrev hlive)
    | some m =>
      obtain ⟨uid, role⟩ := m
      obtain ⟨-, hq, id, hg, rfl, hcover⟩ := hpre.minting uid role hmint
      obtain ⟨u, hu, hid, hrole⟩ := hA.backed hq id hg
      exact hA.within.exec_mint hexec hmint (AccountStmt.changes_of_mints hmint)
        ⟨u, hu, hid, Role.atLeast_trans hrole hcover⟩
  · rintro ⟨req, hr⟩
    -- a request that changes an account mints no token
    refine (hA.from_start ⟨req, hr⟩).trans (tokensFrom_exec hexec ?_)
    cases hmint : s.mints with
    | none => rfl
    | some m =>
      obtain ⟨⟨req', hr'⟩, -⟩ := hpre.minting m.1 m.2 hmint
      rw [hr] at hr'
      cases hr'
  · intro hq id hg
    have hs := hq _ List.mem_cons_self
    rcases hA.within.backed hexec hg with hold | hnew
    · exact (hA.backed (fun c hc => hq c (List.mem_cons_of_mem _ hc)) id hold).exec hexec hs
    · exact hnew.exec hexec hs

theorem Bounded.fail {r : AccountRequest} {db₀ : Accounts} {h : Hist AccountStmt}
    {s : AccountStmt β} (hA : Bounded r db₀ h db) : Bounded r db₀ (⟨s, none⟩ :: h) db := by
  refine ⟨hA.within, hA.from_start, fun hq id hg => ?_⟩
  refine hA.backed (fun c hc => hq c (List.mem_cons_of_mem _ hc)) id ?_
  rcases hg with ⟨hash, hasked⟩ | ⟨hash, hasked⟩ | ⟨name, u, hasked, hid⟩
  · exact .inl ⟨hash, hasked.of_failed⟩
  · exact .inr (.inl ⟨hash, hasked.of_failed⟩)
  · exact .inr (.inr ⟨name, u, hasked.of_failed, hid⟩)

theorem Bounded.start {r : AccountRequest} (hJ : TokensWithin db) : Bounded r db [] db :=
  ⟨hJ, fun _ => .refl db, fun _ id hg => by simp [Grants, Hist.Asked] at hg⟩

/-- A request keeps the bound where the role it gives covers the tokens. -/
theorem TokensWithin.request {r : AccountRequest} {a : Except ErrorReply Nat} (hJ : TokensWithin db)
    (hok : RoleCovers db r) (hend : (accountSystem cfg).MayEnd db (r.prog cfg) db' a) :
    TokensWithin db' := by
  obtain ⟨h, hA, -⟩ := hend.inv (request_meets cfg r) (Bounded r db) (.start hJ)
    (fun hA hpre hexec => hA.step hok hpre hexec) fun hA _ => hA.fail
  exact hA.within

theorem TokensWithin.authenticate {http : HTTPRequest} {me : Identity} (hJ : TokensWithin db)
    (hend : (accountSystem cfg).MayEnd db (authenticate cfg http) db' (some me)) :
    Backed db' me := by
  -- as part of a request that changes no account
  let r : AccountRequest := ⟨http, .revokeToken none⟩
  have hok : RoleCovers db r := fun req _ _ _ hr => nomatch hr
  obtain ⟨h, hA, hq, hg⟩ := hend.inv (authenticate_meets cfg http) (Bounded r db) (.start hJ)
    (fun hA hpre hexec => hA.step hok hpre hexec) fun hA _ => hA.fail
  exact hA.backed hq me (hg me rfl)

end Sequence

/-- **A token never acts with more than its owner's role**, in every sequence of requests,
statements failing anywhere, of which none gives an account a role below that of a token it still
has. -/
theorem token_within_owner (cfg : ServerConfig) (db₀ : Accounts) (hstart : TokensWithin db₀)
    (past : List (AccountRequest × Accounts)) (db : Accounts)
    (hist : (accountSystem cfg).History RoleCovers db₀ past db) :
    ∀ http db' me, (accountSystem cfg).MayEnd db (authenticate cfg http) db' (some me) →
      me.via = .token → ∃ u ∈ db'.users.rows, u.id = me.userID ∧ u.role.atLeast me.role = true := by
  intro http db' me hend _
  have hJ : TokensWithin db := hist.keeps TokensWithin hstart fun hJ hok hend => hJ.request hok hend
  exact hJ.authenticate hend

/-! ### A token and its owner's role -/

section Runs

/-- Alice makes a token with the role they have. -/
def mintToken : AccountRequest :=
  signedIn "alice-cookie" (.createToken
    { body := some { name := "ci" }, secretHash := some "pgt_ci" })

/-- Bob gives Alice this role. -/
def giveRole (role : String) : AccountRequest :=
  signedIn "bob-cookie" (.patchUser { userID := some 1, body := some { role := some role } })

/-- A request that presents the token. -/
def withToken : HTTPRequest := { header := [("Authorization", "Bearer pgt_ci")] }

/-- The tables after a request of which nothing fails. -/
def afterRequest (db : Accounts) (r : AccountRequest) : Accounts :=
  ((accountSystem {}).serve 0 [] db (r.prog {})).2.1

theorem history_afterRequest {ok : Accounts → AccountRequest → Prop} {db₀ db : Accounts}
    {past : List (AccountRequest × Accounts)} {r : AccountRequest}
    (hist : (accountSystem {}).History ok db₀ past db) (hok : ok db r) :
    (accountSystem {}).History ok db₀ ((r, afterRequest db r) :: past) (afterRequest db r) :=
  hist.serve hok (System.mayEnd_serve ..)

/-- The tables after Alice has made a token and was given a role. -/
def afterRole (role : String) : Accounts :=
  afterRequest (afterRequest twoAdmins mintToken) (giveRole role)

/-- The tables once the token was then presented. -/
def afterToken (role : String) : Accounts :=
  ((accountSystem {}).serve 0 [] (afterRole role) (authenticate {} withToken)).2.1

/-- Whom the token signs in: Alice, with the role Alice had. -/
def aliceByToken : Identity :=
  { userID := 1, username := "alice", role := .admin, via := .token, tokenID := some 1 }

theorem tokensWithin_twoAdmins : TokensWithin twoAdmins := List.forall_mem_nil _

theorem presented {role : String}
    (hid : ((accountSystem {}).serve 0 [] (afterRole role) (authenticate {} withToken)).2.2 =
      some aliceByToken) :
    (accountSystem {}).MayEnd (afterRole role) (authenticate {} withToken) (afterToken role)
      (some aliceByToken) := by
  rw [← hid]
  exact System.mayEnd_serve ..

/-- Alice makes a token and stays an administrator. -/
theorem token_within_owner_kept :
    (∃ past, (accountSystem {}).History RoleCovers twoAdmins past (afterRole "admin")) ∧
      ∃ u ∈ (afterToken "admin").users.rows, u.id = 1 ∧ u.role.atLeast .admin = true := by
  have hmint : RoleCovers twoAdmins mintToken := fun _ _ _ _ hr => nomatch hr
  have hkeep : RoleCovers (afterRequest twoAdmins mintToken) (giveRole "admin") := by
    intro req uid inp role hr hid hbody hrole t _ _ _
    cases hr
    cases hbody
    cases hrole
    cases t.role <;> rfl
  have hist : (accountSystem {}).History RoleCovers twoAdmins _ (afterRole "admin") :=
    history_afterRequest (history_afterRequest .start hmint) hkeep
  exact ⟨⟨_, hist⟩, token_within_owner {} twoAdmins tokensWithin_twoAdmins _ _ hist withToken _
    aliceByToken (presented (by decide +kernel)) rfl⟩

/-- The defect: an administrator makes a token, is made a viewer, and **the token still acts as an
administrator**. -/
theorem token_outlives_role :
    TokensWithin twoAdmins ∧ ∃ past db db' me,
      (accountSystem {}).History (fun _ _ => True) twoAdmins past db ∧
      (accountSystem {}).MayEnd db (authenticate {} withToken) db' (some me) ∧
      me.via = .token ∧ me.role = .admin ∧
      ∀ u ∈ db'.users.rows, u.id = me.userID → u.role = .viewer := by
  have hist : (accountSystem {}).History (fun _ _ => True) twoAdmins _ (afterRole "viewer") :=
    history_afterRequest (history_afterRequest .start trivial) trivial
  exact ⟨tokensWithin_twoAdmins, _, _, _, aliceByToken, hist,
    presented (by decide +kernel), rfl, rfl,
    by decide +kernel⟩

end Runs

end PinkGlasses
