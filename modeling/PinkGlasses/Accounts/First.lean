import Mathlib.Data.List.Infix
import PinkGlasses.Accounts

/-!
# PinkGlasses.Accounts.First

**The first account**: `setup` and `EnsureDefaultAdmin` create one with `CreateUser`'s `firstOnly`,
an `INSERT … SELECT … WHERE NOT EXISTS (SELECT 1 FROM app_user)`.

Under READ COMMITTED that statement is not one moment. It sees the rows that were committed before
it started, and its own row is there for others once it is committed; only the index on the names
holds at that time. So it is two steps here, `start` and `finish`, and other statements can come
between.

* `firstPre`: a row is inserted right after a start that found no account.
* `Lone`: no more than one account, and what every insert under way has found. It is kept as long as
  no insert starts amid one for another name (`OneName`).

Assigning the scopes that have no owner, which follows the creation, is not on these tables.
-/

namespace PinkGlasses

open Lib Prog

variable {β : Type}

/-- The columns of a new account. -/
structure NewUser where
  username : String
  displayName : String
  passwordHash : Option String
  role : Role
deriving Repr, DecidableEq

/-- `lower(username)`. -/
def NewUser.lowerName (u : NewUser) : String := toLower u.username

/-- The account. -/
def NewUser.row (u : NewUser) (id : UUID) : User :=
  { id, username := u.username, displayName := u.displayName, passwordHash := u.passwordHash
    role := u.role }

/-- What an `INSERT` that has a row to insert answers: the account or `ErrUsernameTaken`. -/
inductive Inserted
  | user (u : User)
  | usernameTaken
deriving Repr, DecidableEq

/-- The statements of the two requests. -/
inductive FirstStmt : Type → Type
  /-- The conditional `INSERT` starts: is there no account among the rows it sees? -/
  | start (u : NewUser) : FirstStmt Bool
  /-- Its row goes into the table and is committed. -/
  | finish (u : NewUser) : FirstStmt Inserted
  | createSession (hash : String) (userID : UUID) : FirstStmt Unit

namespace FirstStmt

open Store

/-- What a statement answers and does. -/
def exec (now : Time) (db : Accounts) : FirstStmt β → Option (β × Accounts)
  | start u =>
    if storable u.username && storable u.displayName then some (db.users.rows.isEmpty, db) else none
  | finish u =>
    match db.insertUser u.row fun _ => rfl with
    | none => some (.usernameTaken, db)
    | some db' => some (.user (u.row db.users.next), db')
  | createSession hash userID => (AccountStmt.createSession hash userID).exec now db

/-- The name a conditional `INSERT` starts for. -/
def starts : FirstStmt β → Option String
  | start u => some u.lowerName
  | _ => none

/-- The name a conditional `INSERT` inserts. -/
def finishes : FirstStmt β → Option String
  | finish u => some u.lowerName
  | _ => none

end FirstStmt

namespace Accounts

/-- The error of a `firstOnly` insert that inserted nothing. -/
def accountExists : String := "an account already exists; ask an administrator to add you"

/-- `CreateUser` of an administrator with `firstOnly`, its error wrapped by `err`; `newHash` is what
`HashPassword` makes of the password, nothing if it fails. -/
def createFirst {ε : Type} (err : String → ε) (username displayName password : String)
    (newHash : Option String) : ExceptT ε (Prog FirstStmt) User :=
  match if password = "" then some none else newHash.map some with
  | none => throw (err randError)
  | some passwordHash => do
    let u : NewUser := { username, displayName, passwordHash, role := .admin }
    if !(← query (err dbError) (.start u)) then throw (err accountExists)
    match ← query (err dbError) (.finish u) with
    | .usernameTaken => throw (err "that username is already taken")
    | .user row => pure row

/-- The body of `setup`. -/
structure SetupInput where
  username : String
  displayName : String := ""
  password : String
deriving Repr, DecidableEq

/-- A `setup`: the body, which may not decode, the hash of the password and that of the session
secret that is drawn, nothing if that fails. -/
structure SetupRequest where
  body : Option SetupInput
  newHash : Option String := none
  sessionHash : Option String := none
deriving Repr, DecidableEq

/-- `setup`, with `signIn` at its end. -/
def setup (req : SetupRequest) : ExceptT ErrorReply (Prog FirstStmt) User :=
  match req.body with
  | none => throw ⟨400, "bad body"⟩
  | some inp =>
    match do checkUsername (trimSpace inp.username); checkPasswordPolicy inp.password with
    | .error e => throw e
    | .ok _ => do
      let u ← createFirst (⟨409, ·⟩)
          (trimSpace inp.username) inp.displayName inp.password req.newHash
      match req.sessionHash with
      | none => throw ⟨500, randError⟩
      | some hash =>
        query ⟨500, dbError⟩ (.createSession hash u.id)
        pure u

/-- `EnsureDefaultAdmin`: whether it created the account. -/
def ensureDefaultAdmin (username password : String) (newHash : Option String) :
    Prog FirstStmt (Except String Bool) := do
  match ← (createFirst id username "Administrator" password newHash).run with
  | .ok _ => pure (.ok true)
  | .error msg =>
    if "an account already exists".toList <:+: msg.toList then pure (.ok false)
    else pure (.error msg)

end Accounts

/-- The requests that create the first account. -/
inductive FirstRequest
  | setup (req : Accounts.SetupRequest)
  | ensureDefaultAdmin (username password : String) (newHash : Option String)
deriving Repr, DecidableEq

/-- What the request answers. -/
def FirstRequest.prog : FirstRequest → Prog FirstStmt (Except ErrorReply User ⊕ Except String Bool)
  | setup req => do
    let r ← (Accounts.setup req).run
    pure (.inl r)
  | ensureDefaultAdmin username password newHash => do
    let r ← Accounts.ensureDefaultAdmin username password newHash
    pure (.inr r)

/-- The two requests as a system: it interleaves them between the start and the end of an insert. -/
def firstSystem : System FirstStmt Accounts Time FirstRequest
    (Except ErrorReply User ⊕ Except String Bool) where
  exec s now db := s.exec now db
  accepts _ _ := true
  prog := FirstRequest.prog

/-! ### The contract of the requests -/

/-- A row is inserted right after the start of its statement, which saw no account. -/
def firstPre (h : Hist FirstStmt) (β : Type) (s : FirstStmt β) : Prop :=
  ∀ n, s.finishes = some n → ∃ u rest, h = ⟨.start u, some true⟩ :: rest ∧ u.lowerName = n

section Contract

open Accounts

variable {h : Hist FirstStmt}

theorem createFirst_meets {ε : Type} (err : String → ε) (username displayName password : String)
    (newHash : Option String) :
    (createFirst err username displayName password newHash).run.Meets firstPre h
      fun _ _ => True := by
  unfold createFirst
  split
  · trivial
  · rename_i passwordHash _
    rw [meets_bind_except, meets_query]
    refine ⟨nofun, fun empty => ?_, trivial⟩
    cases empty with
    | false => trivial
    | true =>
      -- the insert follows its own look at the table
      have hpre : firstPre
          (⟨.start ⟨username, displayName, passwordHash, .admin⟩, some true⟩ :: h) _
          (.finish ⟨username, displayName, passwordHash, .admin⟩) := by
        intro n hn
        exact ⟨_, _, rfl, Option.some.inj hn⟩
      refine meets_bind_except.mpr (meets_query.mpr ⟨hpre, fun b => ?_, trivial⟩)
      cases b <;> trivial

theorem setup_meets (req : SetupRequest) : (setup req).run.Meets firstPre h fun _ _ => True := by
  unfold setup
  split
  · trivial
  · split
    · trivial
    · refine meets_bind_except.mpr ((createFirst_meets _ _ _ _ _).mono fun h' r _ => ?_)
      cases r with
      | error e => trivial
      | ok u =>
        cases req.sessionHash with
        | none => trivial
        | some hash =>
          exact meets_bind_except.mpr (meets_query.mpr ⟨nofun, fun _ => trivial, trivial⟩)

theorem ensureDefaultAdmin_meets (username password : String) (newHash : Option String) :
    (ensureDefaultAdmin username password newHash).Meets firstPre h fun _ _ => True := by
  refine meets_bind.mpr ((createFirst_meets _ _ _ _ _).mono fun h' r _ => ?_)
  cases r with
  | ok u => trivial
  | error msg =>
    dsimp only
    split <;> trivial

theorem firstRequest_meets (r : FirstRequest) : r.prog.Meets firstPre h fun _ _ => True := by
  cases r with
  | setup req => exact meets_bind.mpr ((setup_meets req).mono fun _ _ _ => trivial)
  | ensureDefaultAdmin username password newHash =>
    exact meets_bind.mpr ((ensureDefaultAdmin_meets ..).mono fun _ _ _ => trivial)

end Contract

/-! ### Any interleaving -/

/-- The name an insert is under way for: it has found no account and not finished. -/
def underWay {ρ : Type} (t : Thread FirstStmt ρ) : Option String :=
  match t.prog with
  | .ret _ => none
  | .call s _ => s.finishes

/-- **No insert starts amid one for another name.** -/
def OneName {ρ : Type} (c : Conf FirstStmt Accounts ρ) (i : Nat) (β : Type) (s : FirstStmt β) :
    Prop :=
  ∀ n, s.starts = some n → ∀ j < c.threads.length, j ≠ i →
    c.threads[j]?.all (fun t => (underWay t).all (· == n)) = true

instance {ρ : Type} (c : Conf FirstStmt Accounts ρ) (i : Nat) (β : Type) (s : FirstStmt β) :
    Decidable (OneName c i β s) :=
  inferInstanceAs (Decidable (∀ n ∈ s.starts, ∀ j < c.threads.length, j ≠ i → _))

/-- There is no account, or an insert for this name is refused. -/
def NoRoom (db : Accounts) (n : String) : Prop :=
  db.users.rows = [] ∨ ∃ u ∈ db.users.rows, u.lowerName = n

/-- **At most one account, and no insert under way makes it two.** -/
structure Lone {ρ : Type} (c : Conf FirstStmt Accounts ρ) : Prop where
  contract : ∀ t ∈ c.threads, t.prog.Meets firstPre t.hist fun _ _ => True
  few : c.state.users.rows.length ≤ 1
  same : ∀ t ∈ c.threads, ∀ t' ∈ c.threads, ∀ n n', underWay t = some n → underWay t' = some n' →
    n' = n
  noRoom : ∀ t ∈ c.threads, ∀ n, underWay t = some n → NoRoom c.state n

section Run

variable {ρ : Type} {c : Conf FirstStmt Accounts ρ} {i : Nat} {t₀ t : Thread FirstStmt ρ}
  {db : Accounts}

theorem Lone.set (hc : Lone c) (hfew : db.users.rows.length ≤ 1)
    (hm : t.prog.Meets firstPre t.hist fun _ _ => True)
    (hothers : ∀ j t', j ≠ i → c.threads[j]? = some t' → ∀ n', underWay t' = some n' →
      NoRoom db n' ∧ ∀ n, underWay t = some n → n' = n)
    (hnew : ∀ n, underWay t = some n → NoRoom db n) : Lone ⟨db, c.threads.set i t⟩ := by
  constructor
  · intro t' ht'
    rcases System.mem_set_cases ht' with rfl | ⟨j, -, hj⟩
    · exact hm
    · exact hc.contract t' (List.mem_of_getElem? hj)
  · exact hfew
  · intro t₁ ht₁ t₂ ht₂ n₁ n₂ h₁ h₂
    -- two inserts under way: the replaced thread is one of them, both, or neither
    rcases System.mem_set_cases ht₁ with rfl | ⟨j₁, hne₁, hj₁⟩ <;>
      rcases System.mem_set_cases ht₂ with rfl | ⟨j₂, hne₂, hj₂⟩
    · rw [h₁] at h₂
      exact (Option.some.inj h₂).symm
    · exact (hothers j₂ t₂ hne₂ hj₂ n₂ h₂).2 n₁ h₁
    · exact ((hothers j₁ t₁ hne₁ hj₁ n₁ h₁).2 n₂ h₂).symm
    · exact hc.same t₁ (List.mem_of_getElem? hj₁) t₂ (List.mem_of_getElem? hj₂) n₁ n₂ h₁ h₂
  · intro t' ht' n hn
    rcases System.mem_set_cases ht' with rfl | ⟨j, hne, hj⟩
    · exact hnew n hn
    · exact (hothers j t' hne hj n hn).1

variable {h : Hist FirstStmt} {p : Prog FirstStmt ρ} {now : Time}

theorem started_of_underWay {call : Call FirstStmt}
    (hm : p.Meets firstPre (call :: h) fun _ _ => True) {n : String}
    (hn : underWay ⟨call :: h, p⟩ = some n) :
    ∃ u, call = ⟨.start u, some true⟩ ∧ u.lowerName = n := by
  cases p with
  | ret a => cases hn
  | call s k =>
    obtain ⟨u, rest, heq, hname⟩ := hm.1 n hn
    exact ⟨u, (List.cons.inj heq).1, hname⟩

theorem underWay_none {call : Call FirstStmt} (hm : p.Meets firstPre (call :: h) fun _ _ => True)
    (hs : call.stmt.starts = none ∨ call.answer = none) : underWay ⟨call :: h, p⟩ = none := by
  cases hn : underWay ⟨call :: h, p⟩ with
  | none => rfl
  | some n =>
    obtain ⟨u, rfl, -⟩ := started_of_underWay hm hn
    rcases hs with hs | hs <;> cases hs

/-- A thread goes on, without an insert under way, in tables with the same accounts. -/
theorem Lone.set_idle (hc : Lone c) (husers : db.users = c.state.users)
    (hm : t.prog.Meets firstPre t.hist fun _ _ => True) (hidle : underWay t = none) :
    Lone ⟨db, c.threads.set i t⟩ := by
  refine hc.set (husers ▸ hc.few) hm (fun j t' _ hj n' hn' => ⟨?_, ?_⟩) ?_
  · rw [NoRoom, husers]
    exact hc.noRoom t' (List.mem_of_getElem? hj) n' hn'
  · rw [hidle]
    nofun
  · rw [hidle]
    nofun

theorem Lone.answer_none (hc : Lone c) {s : FirstStmt β} {k : Option β → Prog FirstStmt ρ}
    (ht : c.threads[i]? = some ⟨h, .call s k⟩) : Lone (System.answer c i h s k none) := by
  have hm := (hc.contract _ (List.mem_of_getElem? ht)).2 none
  exact hc.set_idle rfl hm (underWay_none hm (.inr rfl))

theorem Lone.start (hc : Lone c) {u : NewUser} {b : Bool} {k : Option Bool → Prog FirstStmt ρ}
    (ht : c.threads[i]? = some ⟨h, .call (.start u) k⟩) (hok : OneName c i Bool (.start u))
    (hexec : (FirstStmt.start u).exec now c.state = some (b, db)) :
    Lone ⟨db, c.threads.set i ⟨⟨.start u, some b⟩ :: h, k (some b)⟩⟩ := by
  have hm := (hc.contract _ (List.mem_of_getElem? ht)).2 (some b)
  have hseen : b = c.state.users.rows.isEmpty ∧ db = c.state := by
    simp only [FirstStmt.exec] at hexec
    split at hexec <;> cases hexec
    exact ⟨rfl, rfl⟩
  obtain ⟨hseen, rfl⟩ := hseen
  refine hc.set hc.few hm (fun j t' hne hj n' hn' => ⟨?_, fun n hn => ?_⟩) fun n hn => ?_
  · exact hc.noRoom t' (List.mem_of_getElem? hj) n' hn'
  -- the others under way are for this very name
  · obtain ⟨u', hcall, rfl⟩ := started_of_underWay hm hn
    have hsame := hok u.lowerName rfl j (List.getElem?_eq_some_iff.mp hj).1 hne
    rw [hj, Option.all_some, hn', Option.all_some, beq_iff_eq] at hsame
    cases hcall
    exact hsame
  -- it saw an empty table
  · obtain ⟨u', hcall, -⟩ := started_of_underWay hm hn
    cases hcall
    exact .inl (List.isEmpty_iff.mp hseen.symm)

theorem Lone.finish (hc : Lone c) {u : NewUser} {b : Inserted}
    {k : Option Inserted → Prog FirstStmt ρ} (ht : c.threads[i]? = some ⟨h, .call (.finish u) k⟩)
    (hexec : (FirstStmt.finish u).exec now c.state = some (b, db)) :
    Lone ⟨db, c.threads.set i ⟨⟨.finish u, some b⟩ :: h, k (some b)⟩⟩ := by
  have hmem := List.mem_of_getElem? ht
  have hm := (hc.contract _ hmem).2 (some b)
  have hidle := underWay_none hm (.inl rfl)
  simp only [FirstStmt.exec] at hexec
  split at hexec
  · cases hexec
    exact hc.set_idle rfl hm hidle
  · rename_i db' hinsert
    cases hexec
    have hrows : db.users.rows = c.state.users.rows ++ [u.row c.state.users.next] := by
      rw [(Accounts.reindex_eq_some hinsert).1]
      rfl
    -- the index refuses the name of a row that is there, so there was none
    have hempty : c.state.users.rows = [] := by
      rcases hc.noRoom _ hmem u.lowerName rfl with hempty | ⟨u', hu', hname⟩
      · exact hempty
      · have hnames := db.names
        rw [hrows, List.map_append, List.nodup_append] at hnames
        have hne := hnames.2.2 _ (List.mem_map_of_mem hu') _ (List.mem_singleton.mpr rfl)
        exact absurd hname hne
    rw [hempty, List.nil_append] at hrows
    refine hc.set (by rw [hrows]; rfl) hm (fun j t' _ hj n' hn' => ⟨?_, ?_⟩) ?_
    · have hsame := hc.same _ hmem t' (List.mem_of_getElem? hj) u.lowerName n' rfl hn'
      refine .inr ⟨u.row c.state.users.next, ?_, hsame.symm⟩
      rw [hrows]
      exact List.mem_singleton.mpr rfl
    · rw [hidle]
      nofun
    · rw [hidle]
      nofun

theorem Lone.createSession (hc : Lone c) {hash : String} {userID : UUID} {b : Unit}
    {k : Option Unit → Prog FirstStmt ρ}
    (ht : c.threads[i]? = some ⟨h, .call (.createSession hash userID) k⟩)
    (hexec : (FirstStmt.createSession hash userID).exec now c.state = some (b, db)) :
    Lone ⟨db, c.threads.set i ⟨⟨.createSession hash userID, some b⟩ :: h, k (some b)⟩⟩ := by
  have hm := (hc.contract _ (List.mem_of_getElem? ht)).2 (some b)
  have husers : db.users = c.state.users := by
    simp only [FirstStmt.exec, AccountStmt.exec] at hexec
    split at hexec
    · split at hexec <;> cases hexec
      rfl
    · cases hexec
  exact hc.set_idle husers hm (underWay_none hm (.inl rfl))

theorem Lone.spawn (hc : Lone c) (hm : p.Meets firstPre [] fun _ _ => True) :
    Lone ⟨c.state, c.threads ++ [⟨[], p⟩]⟩ := by
  -- a request that has issued nothing has no insert under way
  have hidle : ∀ n, underWay ⟨[], p⟩ ≠ some n := by
    intro n hn
    cases p with
    | ret a => cases hn
    | call s k =>
      obtain ⟨u, rest, heq, -⟩ := hm.1 n hn
      cases heq
  have hmem : ∀ t ∈ c.threads ++ [⟨[], p⟩], ∀ n, underWay t = some n → t ∈ c.threads := by
    intro t ht n hn
    rcases List.mem_append.mp ht with hold | hnew
    · exact hold
    · rw [List.mem_singleton.mp hnew] at hn
      exact absurd hn (hidle n)
  constructor
  · intro t ht
    rcases List.mem_append.mp ht with hold | hnew
    · exact hc.contract t hold
    · rw [List.mem_singleton.mp hnew]
      exact hm
  · exact hc.few
  · intro t ht t' ht' n n' hn hn'
    exact hc.same t (hmem t ht n hn) t' (hmem t' ht' n' hn') n n' hn hn'
  · intro t ht n hn
    exact hc.noRoom t (hmem t ht n hn) n hn

end Run

theorem Lone.next {c : Conf FirstStmt Accounts (Except ErrorReply User ⊕ Except String Bool)}
    {e : Event FirstRequest Time} (hc : Lone c) (hok : System.Allowed OneName c e) :
    Lone (firstSystem.next c e) := by
  cases e with
  | spawn r => exact hc.spawn (firstRequest_meets r)
  | fail i =>
    simp only [System.next]
    split
    · rename_i ht
      exact hc.answer_none ht
    · exact hc
  | step i now =>
    simp only [System.next]
    split
    · rename_i h β s k ht
      simp only [System.Allowed, ht] at hok
      cases hexec : firstSystem.exec s now c.state with
      | none => exact hc.answer_none ht
      | some r =>
        replace hexec : s.exec now c.state = some r := hexec
        cases s with
        | start u => exact hc.start ht hok hexec
        | finish u => exact hc.finish ht hexec
        | createSession hash userID => exact hc.createSession ht hexec
    · exact hc

/-- **At most one account is created** on a table without accounts, in every run of the two requests
in which no insert starts amid one for another name. -/
theorem first_account_once (db : Accounts) (hempty : db.users.rows = [])
    (es : List (Event FirstRequest Time)) (hrun : firstSystem.Along OneName ⟨db, []⟩ es) :
    (firstSystem.run ⟨db, []⟩ es).state.users.rows.length ≤ 1 := by
  have hstart : Lone (⟨db, []⟩ :
      Conf FirstStmt Accounts (Except ErrorReply User ⊕ Except String Bool)) :=
    ⟨nofun, by rw [hempty]; exact Nat.zero_le 1, nofun, nofun⟩
  suffices h : ∀ c, Lone c → firstSystem.Along OneName c es → Lone (firstSystem.run c es) from
    (h _ hstart hrun).few
  clear hrun
  induction es with
  | nil => exact fun c hc _ => hc
  | cons e es ih => exact fun c hc hok => ih _ (hc.next hok.1) hok.2

/-- No accounts. -/
def noAccounts : Accounts where
  users := .empty
  names := List.nodup_nil
  sessionUser := List.forall_mem_nil _
  tokenUser := List.forall_mem_nil _

/-- Somebody sets the installation up. -/
def setupAs (username : String) : FirstRequest :=
  .setup { body := some { username, password := "correct horse battery" }, newHash := some "hash"
           sessionHash := some "session" }

/-- The server starts. -/
def seed : FirstRequest := .ensureDefaultAdmin "admin" "generated" (some "hash")

/-- The two overlap, for one name. -/
def sameName : List (Event FirstRequest Time) :=
  [.spawn (setupAs "Admin"), .spawn seed, .step 0 0, .step 1 0, .step 0 0, .step 1 0]

theorem first_account_once_same_name :
    firstSystem.Along OneName ⟨noAccounts, []⟩ sameName ∧
      (firstSystem.run ⟨noAccounts, []⟩ sameName).state.users.rows.length ≤ 1 :=
  have hrun : firstSystem.Along OneName ⟨noAccounts, []⟩ sameName := by decide +kernel
  ⟨hrun, first_account_once noAccounts rfl sameName hrun⟩

/-- The two overlap, for two names. -/
def twoNames : List (Event FirstRequest Time) :=
  [.spawn (setupAs "alice"), .spawn seed, .step 0 0, .step 1 0, .step 0 0, .step 1 0]

/-- The defect: both statements start on a table without accounts, and **there are two
administrators**. -/
theorem first_account_twice :
    noAccounts.users.rows = [] ∧ (firstSystem.run ⟨noAccounts, []⟩ twoNames).state.users.rows.map
      (fun u => (u.username, u.role)) =
      [("alice", .admin), ("admin", .admin)] := by
  decide +kernel

end PinkGlasses
