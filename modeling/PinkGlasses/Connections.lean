import PinkGlasses.Presence

/-!
# PinkGlasses.Connections

**The control channels of a worker**: `connect` with its `readLoop`, `register` and `unregister`
(`internal/agentapi/gateway.go`), over the database and over the gateway's registry of connections.

A worker that comes back opens a new connection while the handler of its old one may still be
ending. Both act on one registry entry and one row, **keyed by the worker only**, so what the old
handler does last can undo what the new one did first.

* A handler is one program: the messages of its connection come with the request, and what ends them
  stands for anything that ends the handler.
* `Hub` is the database with the registry. It also notes what the code does not: the order in which
  connections were made, and which of them are being served.
* `Heeds` is the condition on a step: a handler acts on the registry or marks its worker only while
  no newer connection is registered, and a sweep finds no worker unseen that has a registered
  connection.
* `newest_connection_served`: in every run of such steps, the newest connection of a worker, if it
  is being served, is the registered one, and the worker is not stale.
-/

namespace PinkGlasses

open Lib Prog

/-- The connections of a gateway are numbered in the order they are made. -/
abbrev ConnID := Nat

/-- The database and the gateway's connections. -/
structure Hub where
  db : DB := {}
  /-- `g.conns`. -/
  conns : UUID → Option ConnID := fun _ => none
  next : ConnID := 0
  /-- The newest connection of each worker. -/
  latest : UUID → Option ConnID := fun _ => none
  /-- The connections that were registered and whose handler has not begun to leave. -/
  registered : List (UUID × ConnID) := []
  /-- Those of them for which the worker was revived. -/
  serving : List (UUID × ConnID) := []

namespace Hub

variable (hub : Hub)

/-- The handler of the connection has begun to leave. -/
def leave (id : UUID) (conn : ConnID) : Hub :=
  { hub with
    registered := hub.registered.filter (· != (id, conn))
    serving := hub.serving.filter (· != (id, conn)) }

/-- The handler of the connection has revived the worker. -/
def serve (id : UUID) (conn : ConnID) : Hub :=
  if (id, conn) ∈ hub.registered then { hub with serving := (id, conn) :: hub.serving } else hub

end Hub

section Stmt

variable {β : Type}

/-- The worker a statement revives. -/
def WorkerStmt.revives : WorkerStmt β → Option UUID
  | reviveWorker id => some id
  | _ => none

def Stmt.revives : Stmt β → Option UUID
  | worker s => s.revives
  | _ => none

/-- What the handler of a connection issues. -/
def Stmt.lively (s : Stmt β) : Bool := s.minor || s.revives.isSome || s.disconnects.isSome

/-- No row of the worker is stale. -/
def NoStale (db : DB) (id : UUID) : Prop := ∀ w ∈ db.workers.rows, w.id = id → w.status ≠ .stale
deriving Decidable

variable {db : DB} {id : UUID}

/-- An `UPDATE` that makes no row of the worker stale. -/
theorem NoStale.update {p : Worker → Bool} {f : Worker → Worker} {hid : ∀ w, (f w).id = w.id}
    (hdb : NoStale db id)
    (hf : ∀ w ∈ db.workers.rows, w.id = id → p w = true → (f w).status = .stale →
      w.status = .stale) : NoStale { db with workers := db.workers.update p f hid } id := by
  intro w' hw'
  obtain ⟨w, hw, rfl⟩ := List.mem_map.mp hw'
  split
  · rename_i hsel
    intro hwid hstale
    rw [hid w] at hwid
    exact hdb w hw hwid (hf w hw hwid hsel hstale)
  · exact hdb w hw

/-- A handler's statement makes no row stale but that of the worker it marks. -/
theorem Stmt.noStale {out : Outside} {env : Env} {db' : DB} {s : Stmt β} {b : β}
    (hs : s.lively = true) (hother : s.disconnects ≠ some id)
    (h : s.exec out env db = some (b, db')) (hdb : NoStale db id) : NoStale db' id := by
  have hframe : db'.workers = db.workers → NoStale db' id := fun hworkers w hw =>
    hdb w (hworkers ▸ hw)
  cases s with
  | task s | run s | asset s | fleet s => exact hframe (by rw [s.exec_frame h])
  | worker s =>
    -- of the statements that touch workers only two can make one stale
    cases s with
    | workerForAuth k =>
      cases h
      exact hdb
    | touchWorker | setWorkerConcurrency =>
      cases h
      exact hdb.update fun w _ _ _ hstale => hstale
    | setWorkerStatus k status =>
      cases h
      refine hdb.update fun w _ _ _ hstale => ?_
      have hstatus : status = .stale := hstale
      rw [hstatus] at hs
      cases hs
    | reviveWorker k =>
      cases h
      exact hdb.update fun w _ _ _ hstale => by cases hstale
    | markWorkerDisconnected k =>
      cases h
      refine hdb.update fun w _ hwid hsel _ => absurd ?_ hother
      rw [← hwid, ← beq_iff_eq.mp (Bool.and_eq_true_iff.mp hsel).1]
      rfl
    | _ => cases hs

theorem Stmt.noStale_of_revives {out : Outside} {env : Env} {db' : DB} {s : Stmt β} {b : β}
    (hs : s.revives = some id) (h : s.exec out env db = some (b, db')) : NoStale db' id := by
  cases s with
  | worker s =>
    cases s with
    | reviveWorker k =>
      cases hs
      cases h
      intro w' hw'
      obtain ⟨w, hw, rfl⟩ := List.mem_map.mp hw'
      split
      · intro _ hstale
        cases hstale
      · rename_i hsel
        intro hwid hstale
        exact hsel (Bool.and_eq_true_iff.mpr ⟨beq_iff_eq.mpr hwid, beq_iff_eq.mpr hstale⟩)
    | _ => cases hs
  | _ => cases hs

end Stmt

/-- The connections and the registry. -/
inductive ConnStmt : Type → Type
  /-- `upgrader.Upgrade`. -/
  | upgrade (id : UUID) : ConnStmt ConnID
  /-- `g.conns[id] = conn`. -/
  | setConn (id : UUID) (conn : ConnID) : ConnStmt Unit
  /-- `delete(g.conns, id)`. Whose connection the entry is, is not looked at. -/
  | deleteConn (id : UUID) (conn : ConnID) : ConnStmt Unit
  /-- `conn.ReadJSON`: a message, or an error. -/
  | readJSON (conn : ConnID) (msg : Option Heartbeat) : ConnStmt Unit
  /-- The scheduler's `MarkStaleWorkers`, at a time. -/
  | sweep (env : Env) (cutoff : Int) : ConnStmt Nat

/-- What they answer and do. -/
def ConnStmt.exec {β : Type} (hub : Hub) : ConnStmt β → Option (β × Hub)
  | upgrade id => some (hub.next, { hub with
      next := hub.next + 1
      latest := fun k => if k = id then some hub.next else hub.latest k })
  | setConn id conn => some ((), { hub with
      conns := fun k => if k = id then some conn else hub.conns k
      registered := (id, conn) :: hub.registered })
  | deleteConn id conn => some ((), { hub.leave id conn with
      conns := fun k => if k = id then none else hub.conns k })
  | readJSON _ _ => some ((), hub)
  | sweep env cutoff =>
    ((WorkerStmt.markStaleWorkers cutoff).exec env hub.db).map fun (n, db) => (n, { hub with db })

/-- The connection, with its worker, for which the registry is written. -/
def ConnStmt.acts {β : Type} : ConnStmt β → Option (UUID × ConnID)
  | setConn id conn | deleteConn id conn => some (id, conn)
  | _ => none

/-- The time and the cutoff of a sweep. -/
def ConnStmt.sweeps {β : Type} : ConnStmt β → Option (Env × Int)
  | sweep env cutoff => some (env, cutoff)
  | _ => none

/-- What handlers and sweeps do. -/
inductive ChannelStmt (β : Type)
  /-- A statement on the database, by the handler of a connection or by others. -/
  | store (conn : Option ConnID) (s : Stmt β)
  | channel (s : ConnStmt β)

namespace ChannelStmt

variable {β : Type}

/-- The connection, with its worker, for which the statement writes the registry or marks the worker
as disconnected. -/
def acts : ChannelStmt β → Option (UUID × ConnID)
  | store conn s => do pure (← s.disconnects, ← conn)
  | channel s => s.acts

/-- The time and the cutoff of a sweep. -/
def sweeps : ChannelStmt β → Option (Env × Int)
  | store _ _ => none
  | channel s => s.sweeps

/-- What a statement of a handler means for its connection. -/
def noted (hub : Hub) (s : Stmt β) : Option ConnID → Hub
  | none => hub
  | some conn => match s.disconnects, s.revives with
    | some id, _ => hub.leave id conn
    | none, some id => hub.serve id conn
    | none, none => hub

@[simp] theorem noted_latest (hub : Hub) (s : Stmt β) (conn : Option ConnID) :
    (noted hub s conn).latest = hub.latest := by
  cases conn with
  | none => rfl
  | some n =>
    unfold noted Hub.serve
    dsimp only
    split
    · rfl
    · split <;> rfl
    · rfl

/-- What a statement answers and does. -/
def exec (out : Outside) (env : Env) (hub : Hub) : ChannelStmt β → Option (β × Hub)
  | store conn s => (s.exec out env hub.db).map fun (b, db) => (b, { noted hub s conn with db })
  | channel s => s.exec hub

end ChannelStmt

/-! ### Handlers -/

/-- A connection of a worker: what it presents, and what it says until it ends. -/
structure ConnectRequest where
  workerID : Option UUID
  credential : String := ""
  messages : List Heartbeat := []
deriving Repr, DecidableEq

namespace Gateway

variable (cfg : GatewayConfig)

/-- A program on the database, run for a connection. -/
abbrev onBehalf {α : Type} (conn : Option ConnID) (p : Prog Stmt α) : Prog ChannelStmt α :=
  p.embed fun _ s => .store conn s

/-- `readLoop`, until it returns. -/
def readLoop (id : UUID) (conn : ConnID) : List Heartbeat → Prog ChannelStmt Unit
  | [] => do
    let _ ← issue (.channel (.readJSON conn none))
  | hb :: messages => do
    let _ ← issue (.channel (.readJSON conn (some hb)))
    onBehalf (some conn) (heartbeat cfg id hb)
    if hb.stopping then pure () else readLoop id conn messages

def register (id : UUID) (conn : ConnID) : Prog ChannelStmt Unit := do
  let _ ← issue (.channel (.setConn id conn))
  let _ ← issue (.store (some conn) (.worker (.reviveWorker id)))

/-- `unregister`, for a connection. -/
def unregisterConn (id : UUID) (conn : ConnID) : Prog ChannelStmt Unit := do
  let _ ← issue (.channel (.deleteConn id conn))
  let _ ← issue (.store (some conn) (.worker (.markWorkerDisconnected id)))

/-- A connection from its upgrade to its end. -/
def serveConn (id : UUID) (messages : List Heartbeat) : Prog ChannelStmt Nat := do
  match ← issue (.channel (.upgrade id)) with
  | none => pure 400
  | some conn =>
    register id conn
    let _ ← issue (.store (some conn) (.worker (.touchWorker id)))
    readLoop cfg id conn messages
    unregisterConn id conn
    pure 101

/-- `connect`, with the loops of an open channel. -/
def connectChannel (req : ConnectRequest) : Prog ChannelStmt Nat := do
  match ← onBehalf none (authWorker cfg req.workerID req.credential) with
  | none => pure 401
  | some (id, w) =>
    if w.status = .revoked ∨ w.status = .quarantined then pure 403
    else serveConn cfg id req.messages

end Gateway

/-- What happens to the workers' channels. -/
inductive ChannelRequest
  | connect (req : ConnectRequest)
  /-- A tick of an open channel's dispatch loop. -/
  | dispatchTick (workerID : UUID)
  /-- A delivery of results. -/
  | results (req : ResultsRequest)
  /-- The scheduler's sweep. -/
  | markStaleWorkers (env : Env) (cutoff : Int)
deriving Repr, DecidableEq

/-- The program that serves it. -/
def ChannelRequest.prog (cfg : GatewayConfig) : ChannelRequest → Prog ChannelStmt Nat
  | connect req => Gateway.connectChannel cfg req
  | dispatchTick workerID => do
    Gateway.onBehalf none (Gateway.dispatchTick cfg workerID)
    pure 0
  | results req => Gateway.onBehalf none (Gateway.results cfg req)
  | markStaleWorkers env cutoff => do
    let _ ← issue (.channel (.sweep env cutoff))
    pure 0

/-- The gateway, its registry and the sweeps, interleaving. -/
def channelSystem (cfg : GatewayConfig) (out : Outside) :
    System ChannelStmt Hub Env ChannelRequest Nat where
  exec s env hub := s.exec out env hub
  accepts _ _ := true
  prog r := r.prog cfg

/-! ### The condition -/

/-- A statement that writes the registry or marks a worker finds **no newer connection of that
worker registered**, and a sweep finds no connection registered for a worker it marks. -/
def Heeds (c : Conf ChannelStmt Hub Nat) (_ : Nat) (β : Type) (s : ChannelStmt β) : Prop :=
  (∀ a ∈ s.acts, ∀ conn ∈ c.state.conns a.1, conn ≤ a.2) ∧
    ∀ e ∈ s.sweeps, ∀ w ∈ c.state.db.workers.rows,
      w.status = .active → Store.unseenFor e.1 e.2 w = true → c.state.conns w.id = none
deriving Decidable

/-! ### What the programs issue -/

section Programs

open Prog

variable (cfg : GatewayConfig)

/-- A statement on the database is a handler's, or marks and revives nobody. -/
def ChannelStmt.proper {β : Type} : ChannelStmt β → Bool
  | store (some _) s => s.lively
  | store none s => s.minor
  | channel _ => true

/-- **The contract**: who writes the registry or marks a worker does so for a connection it has
made. -/
def channelPre (h : Hist ChannelStmt) (β : Type) (s : ChannelStmt β) : Prop :=
  s.proper = true ∧ ∀ a ∈ s.acts, h.Asked (.channel (.upgrade a.1)) (some a.2)

/-- What the handler of one connection issues. -/
def HandlerOf (id : UUID) (conn : ConnID) (β : Type) (s : ChannelStmt β) : Prop :=
  s.proper = true ∧ (s.acts = none ∨ s.acts = some (id, conn))

theorem Stmt.disconnects_of_minor {β : Type} {s : Stmt β} (h : s.minor = true) :
    s.disconnects = none := by
  cases s with
  | worker s =>
    cases s with
    | markWorkerDisconnected => cases h
    | _ => rfl
  | _ => rfl

theorem ChannelStmt.acts_of_minor {β : Type} {s : Stmt β} {conn : Option ConnID}
    (h : s.minor = true) : (store conn s).acts = none := by
  rw [acts, Stmt.disconnects_of_minor h]
  rfl

/-- A program that neither opens nor closes a channel keeps the contract. -/
theorem onBehalf_meets {α : Type} {p : Prog Stmt α} (hp : Uses Minor p) (h : Hist ChannelStmt) :
    (Gateway.onBehalf none p).Meets channelPre h fun _ _ => True := by
  have huses : Uses (fun _ s => s.proper = true ∧ s.acts = none) (Gateway.onBehalf none p) :=
    hp.embed fun β s hs => ⟨hs, ChannelStmt.acts_of_minor hs⟩
  refine huses.keeps fun h β s hs => ⟨hs.1, fun a ha => ?_⟩
  rw [hs.2] at ha
  cases ha

theorem readLoop_uses (id : UUID) (conn : ConnID) (messages : List Heartbeat) :
    Uses (HandlerOf id conn) (Gateway.readLoop cfg id conn messages) := by
  have hread : ∀ msg, HandlerOf id conn Unit (.channel (.readJSON conn msg)) := fun _ =>
    ⟨rfl, .inl rfl⟩
  induction messages with
  | nil => exact Uses.bind (uses_issue (hread none)) fun _ => trivial
  | cons hb messages ih =>
    refine Uses.bind (uses_issue (hread (some hb))) fun _ => Uses.bind ?_ fun _ => ?_
    · refine (heartbeat_marks cfg id hb).embed fun β s hs => ?_
      rcases hs with hminor | hmark
      · exact ⟨by simp [ChannelStmt.proper, Stmt.lively, hminor],
          .inl (ChannelStmt.acts_of_minor hminor)⟩
      · exact ⟨by simp [ChannelStmt.proper, Stmt.lively, hmark],
          .inr (by rw [ChannelStmt.acts, hmark]; rfl)⟩
    · split
      · trivial
      · exact ih

theorem serveConn_meets (id : UUID) (messages : List Heartbeat) (h : Hist ChannelStmt) :
    (Gateway.serveConn cfg id messages).Meets channelPre h fun _ _ => True := by
  refine ⟨⟨rfl, fun a ha => by cases ha⟩, fun r => ?_⟩
  cases r with
  | none => trivial
  | some conn =>
    -- once the connection is upgraded, every statement is made in its name
    have huses : Uses (HandlerOf id conn) (do
        Gateway.register id conn
        let _ ← issue (.store (some conn) (.worker (.touchWorker id)))
        Gateway.readLoop cfg id conn messages
        Gateway.unregisterConn id conn
        pure 101) := by
      refine Uses.bind ?_ fun _ => Uses.bind (uses_issue ⟨rfl, .inl rfl⟩) fun _ =>
        Uses.bind (readLoop_uses cfg id conn messages) fun _ => Uses.bind ?_ fun _ => trivial
      · exact Uses.bind (uses_issue ⟨rfl, .inr rfl⟩) fun _ =>
          Uses.bind (uses_issue ⟨rfl, .inl rfl⟩) fun _ => trivial
      · exact Uses.bind (uses_issue ⟨rfl, .inr rfl⟩) fun _ =>
          Uses.bind (uses_issue ⟨rfl, .inr rfl⟩) fun _ => trivial
    refine (huses.meets (K := fun h => h.Asked (ChannelStmt.channel (.upgrade id)) (some conn))
      (Hist.asked_head ..) (fun h c hK => hK.mono (List.subset_cons_self c h))
      fun h β s hK hs => ⟨hs.1, fun a ha => ?_⟩).mono fun _ _ _ => trivial
    rcases hs.2 with hnone | hacts
    · rw [hnone] at ha
      cases ha
    · rw [hacts] at ha
      exact Option.some.inj ha ▸ hK

theorem channelRequest_meets (r : ChannelRequest) :
    (r.prog cfg).Meets channelPre [] fun _ _ => True := by
  cases r with
  | connect req =>
    refine meets_bind.mpr ((onBehalf_meets (authWorker_minor cfg _ _) []).mono fun h auth _ => ?_)
    split
    · trivial
    · split
      · trivial
      · exact serveConn_meets cfg _ _ h
  | dispatchTick workerID =>
    exact meets_bind.mpr ((onBehalf_meets (dispatchTick_minor cfg workerID) []).mono
      fun _ _ _ => trivial)
  | results req => exact onBehalf_meets (results_minor cfg req) []
  | markStaleWorkers env cutoff => exact ⟨⟨rfl, fun a ha => by cases ha⟩, fun _ => trivial⟩

end Programs

/-! ### The invariant -/

/-- What is true of the connections: those noted are older than the next one, and **the newest of a
worker** is the registered one from its registration on, and keeps the worker from being stale from
its revival on. -/
structure Hub.Sound (hub : Hub) : Prop where
  fresh : ∀ id conn, hub.latest id = some conn → conn < hub.next
  known : ∀ a ∈ hub.registered, a.2 < hub.next
  sub : hub.serving ⊆ hub.registered
  held : ∀ id conn, hub.latest id = some conn → (id, conn) ∈ hub.registered →
    hub.conns id = some conn
  present : ∀ id conn, hub.latest id = some conn → (id, conn) ∈ hub.serving → NoStale hub.db id

/-- The connections a handler has made are not newer than their worker's newest. -/
def Dated (hub : Hub) (t : Thread ChannelStmt Nat) : Prop :=
  ∀ id conn, t.hist.Asked (.channel (.upgrade id)) (some conn) →
    ∃ newest, hub.latest id = some newest ∧ conn ≤ newest

namespace Hub.Sound

variable {hub : Hub}

/-- The handler of a connection that leaves says so before anybody can rely on it. -/
theorem leave (h : hub.Sound) (id : UUID) (conn : ConnID) : (hub.leave id conn).Sound where
  fresh := h.fresh
  known a ha := h.known a (List.mem_of_mem_filter ha)
  sub a ha := by
    obtain ⟨hmem, hne⟩ := List.mem_filter.mp ha
    exact List.mem_filter.mpr ⟨h.sub hmem, hne⟩
  held k n hlatest hn := h.held k n hlatest (List.mem_of_mem_filter hn)
  present k n hlatest hn := h.present k n hlatest (List.mem_of_mem_filter hn)

theorem upgrade (h : hub.Sound) (id : UUID) :
    { hub with
      next := hub.next + 1
      latest := fun k => if k = id then some hub.next else hub.latest k : Hub }.Sound := by
  have hcases : ∀ {k n}, (if k = id then some hub.next else hub.latest k) = some n →
      n = hub.next ∨ hub.latest k = some n := by
    intro k n hlatest
    split at hlatest
    · exact .inl (Option.some.inj hlatest).symm
    · exact .inr hlatest
  -- the new connection is not registered, so a registered newest one is an old one
  have hold : ∀ {k n}, (if k = id then some hub.next else hub.latest k) = some n →
      (k, n) ∈ hub.registered → hub.latest k = some n := fun hlatest hn =>
    (hcases hlatest).resolve_left (Nat.ne_of_lt (h.known _ hn))
  exact ⟨fun k n hlatest => (hcases hlatest).elim (· ▸ Nat.lt_succ_self _) fun hk =>
      Nat.lt_succ_of_lt (h.fresh k n hk),
    fun a ha => Nat.lt_succ_of_lt (h.known a ha), h.sub,
    fun k n hlatest hn => h.held k n (hold hlatest hn) hn,
    fun k n hlatest hn => h.present k n (hold hlatest (h.sub hn)) hn⟩

variable {id : UUID} {conn : ConnID} {db : DB}

/-- A handler that heeds the registry and finds the newest connection of its worker registered is
the handler of that connection. -/
theorem newest_eq (h : hub.Sound) {newest : ConnID} (hheeds : ∀ n ∈ hub.conns id, n ≤ conn)
    (hdated : ∃ newest, hub.latest id = some newest ∧ conn ≤ newest)
    (hlatest : hub.latest id = some newest) (hreg : (id, newest) ∈ hub.registered) :
    newest = conn := by
  obtain ⟨n, hn, hle⟩ := hdated
  cases hlatest.symm.trans hn
  exact Nat.le_antisymm (hheeds _ (h.held id _ hn hreg)) hle

theorem setConn (h : hub.Sound) (hheeds : ∀ n ∈ hub.conns id, n ≤ conn)
    (hdated : ∃ newest, hub.latest id = some newest ∧ conn ≤ newest) :
    { hub with
      conns := fun k => if k = id then some conn else hub.conns k
      registered := (id, conn) :: hub.registered : Hub }.Sound where
  fresh := h.fresh
  known a ha := by
    rcases List.mem_cons.mp ha with rfl | hmem
    · obtain ⟨newest, hnewest, hle⟩ := hdated
      exact Nat.lt_of_le_of_lt hle (h.fresh id newest hnewest)
    · exact h.known a hmem
  sub := List.Subset.trans h.sub (List.subset_cons_self _ _)
  held k n hlatest hn := by
    rcases hn with _ | ⟨_, hmem⟩
    · exact if_pos rfl
    · dsimp only
      split
      · rename_i hk
        subst hk
        rw [h.newest_eq hheeds hdated hlatest hmem]
      · exact h.held k n hlatest hmem
  present := h.present

theorem deleteConn (h : hub.Sound) (hheeds : ∀ n ∈ hub.conns id, n ≤ conn)
    (hdated : ∃ newest, hub.latest id = some newest ∧ conn ≤ newest) :
    { hub.leave id conn with
      conns := fun k => if k = id then none else hub.conns k : Hub }.Sound where
  fresh := h.fresh
  known := (h.leave id conn).known
  sub := (h.leave id conn).sub
  held k n hlatest hn := by
    obtain ⟨hmem, hne⟩ := List.mem_filter.mp hn
    dsimp only
    split
    · rename_i hk
      subst hk
      rw [h.newest_eq hheeds hdated hlatest hmem, bne_self_eq_false] at hne
      cases hne
    · exact h.held k n hlatest hmem
  present := (h.leave id conn).present

theorem withDB (h : hub.Sound)
    (hpresent : ∀ id conn, hub.latest id = some conn → (id, conn) ∈ hub.serving → NoStale db id) :
    { hub with db : Hub }.Sound :=
  { h with present := hpresent }

theorem serve (h : hub.Sound) (hrevived : NoStale db id)
    (hothers : ∀ k, NoStale hub.db k → NoStale db k) :
    { hub.serve id conn with db : Hub }.Sound := by
  unfold Hub.serve
  split
  · rename_i hreg
    refine ⟨h.fresh, h.known, List.cons_subset.mpr ⟨hreg, h.sub⟩, h.held, fun k n hlatest hn => ?_⟩
    rcases hn with _ | ⟨_, hmem⟩
    · exact hrevived
    · exact hothers k (h.present k n hlatest hmem)
  · exact h.withDB fun k n hlatest hn => hothers k (h.present k n hlatest hn)

theorem mark (h : hub.Sound) (hheeds : ∀ n ∈ hub.conns id, n ≤ conn)
    (hdated : ∃ newest, hub.latest id = some newest ∧ conn ≤ newest)
    (hothers : ∀ k, k ≠ id → NoStale hub.db k → NoStale db k) :
    { hub.leave id conn with db : Hub }.Sound := by
  refine (h.leave id conn).withDB fun k n hlatest hn => ?_
  obtain ⟨hmem, hne⟩ := List.mem_filter.mp hn
  by_cases hk : k = id
  · subst hk
    rw [h.newest_eq hheeds hdated hlatest (h.sub hmem), bne_self_eq_false] at hne
    cases hne
  · exact hothers k hk (h.present k n hlatest hmem)

end Hub.Sound

/-! ### Runs -/

section Runs

variable {out : Outside} {env : Env} {hub hub' : Hub} {β : Type} {b : β}

/-- A statement on the database that a connection's handler or another program issues. -/
theorem Hub.Sound.store (h : hub.Sound) {s : Stmt β} {conn : Option ConnID}
    (hproper : (ChannelStmt.store conn s).proper = true)
    (hheeds : ∀ a ∈ (ChannelStmt.store conn s).acts, ∀ n ∈ hub.conns a.1, n ≤ a.2)
    (hdated : ∀ a ∈ (ChannelStmt.store conn s).acts,
      ∃ newest, hub.latest a.1 = some newest ∧ a.2 ≤ newest)
    {db : DB} (hexec : s.exec out env hub.db = some (b, db)) :
    { ChannelStmt.noted hub s conn with db : Hub }.Sound := by
  have hlively : s.lively = true := by
    cases conn with
    | none =>
      have hminor : s.minor = true := hproper
      simp only [Stmt.lively, hminor, Bool.true_or]
    | some n => exact hproper
  -- a statement that disconnects nobody leaves every worker as present as it was
  have hkept : s.disconnects = none → ∀ k, NoStale hub.db k → NoStale db k := fun hnone k =>
    s.noStale hlively (by rw [hnone]; exact nofun) hexec
  have hplain : s.disconnects = none → { hub with db : Hub }.Sound := fun hnone =>
    h.withDB fun k n hlatest hn => hkept hnone k (h.present k n hlatest hn)
  cases conn with
  | none => exact hplain (Stmt.disconnects_of_minor hproper)
  | some conn =>
    unfold ChannelStmt.noted
    dsimp only
    split
    · rename_i id hmark
      have hacts : (ChannelStmt.store (some conn) s).acts = some (id, conn) := by
        rw [ChannelStmt.acts, hmark]
        rfl
      refine h.mark (hheeds _ hacts) (hdated _ hacts) fun k hk => s.noStale hlively ?_ hexec
      rw [hmark]
      exact fun heq => hk (Option.some.inj heq).symm
    -- the connection is served from now on
    · rename_i id hnone hrevives
      exact h.serve (s.noStale_of_revives hrevives hexec) (hkept hnone)
    · rename_i hnone _
      exact hplain hnone

/-- **A statement that heeds the registry** keeps what is true of the connections. -/
theorem ChannelStmt.sound (h : hub.Sound) {s : ChannelStmt β} {c : Conf ChannelStmt Hub Nat}
    {i : Nat} (hc : c.state = hub) (hproper : s.proper = true) (hheeds : Heeds c i β s)
    (hdated : ∀ a ∈ s.acts, ∃ newest, hub.latest a.1 = some newest ∧ a.2 ≤ newest)
    (hexec : s.exec out env hub = some (b, hub')) : hub'.Sound := by
  subst hc
  obtain ⟨hnewer, hswept⟩ := hheeds
  cases s with
  | store conn s =>
    obtain ⟨⟨b', db⟩, hstmt, heq⟩ := Option.map_eq_some_iff.mp hexec
    cases heq
    exact h.store hproper hnewer hdated hstmt
  | channel s =>
    cases s with
    | upgrade id =>
      cases hexec
      exact h.upgrade id
    | setConn id conn =>
      cases hexec
      exact h.setConn (hnewer _ rfl) (hdated _ rfl)
    | deleteConn id conn =>
      cases hexec
      exact h.deleteConn (hnewer _ rfl) (hdated _ rfl)
    | readJSON conn msg =>
      cases hexec
      exact h
    | sweep time cutoff =>
      cases hexec
      refine h.withDB fun k n hlatest hn =>
        (h.present k n hlatest hn).update fun w hw hid hsel _ => ?_
      -- the worker has a registered connection, so the sweep does not select it
      obtain ⟨hactive, hunseen⟩ := Bool.and_eq_true_iff.mp hsel
      have hheld := h.held k n hlatest (h.sub hn)
      rw [← hid] at hheld
      rw [hswept _ rfl w hw (beq_iff_eq.mp hactive) hunseen] at hheld
      cases hheld

theorem ChannelStmt.latest_grows (h : hub.Sound) {s : ChannelStmt β}
    (hexec : s.exec out env hub = some (b, hub')) {id : UUID} {conn : ConnID}
    (hlatest : hub.latest id = some conn) :
    ∃ newest, hub'.latest id = some newest ∧ conn ≤ newest := by
  cases s with
  | store n s =>
    obtain ⟨⟨b', db⟩, -, heq⟩ := Option.map_eq_some_iff.mp hexec
    cases heq
    refine ⟨conn, ?_, Nat.le_refl _⟩
    rw [ChannelStmt.noted_latest, hlatest]
  | channel s =>
    cases s with
    | upgrade k =>
      cases hexec
      dsimp only
      -- the new connection is newer than any before
      split
      · exact ⟨hub.next, rfl, Nat.le_of_lt (h.fresh id conn hlatest)⟩
      · exact ⟨conn, hlatest, Nat.le_refl _⟩
    | setConn | deleteConn | readJSON | sweep =>
      cases hexec
      exact ⟨conn, hlatest, Nat.le_refl _⟩

theorem Dated.mono (h : hub.Sound) {s : ChannelStmt β} (hexec : s.exec out env hub = some (b, hub'))
    {t : Thread ChannelStmt Nat} (hB : Dated hub t) : Dated hub' t := by
  intro id conn hasked
  obtain ⟨newest, hlatest, hle⟩ := hB id conn hasked
  obtain ⟨newer, hnewer, hle'⟩ := ChannelStmt.latest_grows h hexec hlatest
  exact ⟨newer, hnewer, Nat.le_trans hle hle'⟩

theorem Dated.step (h : hub.Sound) {s : ChannelStmt β}
    (hexec : s.exec out env hub = some (b, hub')) {hist : Hist ChannelStmt}
    {p p' : Prog ChannelStmt Nat} (hB : Dated hub ⟨hist, p⟩) :
    Dated hub' ⟨⟨s, some b⟩ :: hist, p'⟩ := by
  intro id conn hasked
  rcases List.mem_cons.mp hasked with hnew | hold
  · cases hnew
    cases hexec
    exact ⟨hub.next, if_pos rfl, Nat.le_refl _⟩
  · exact hB.mono h hexec id conn hold

theorem channel_inductive (cfg : GatewayConfig) (out : Outside) :
    (channelSystem cfg out).Inductive Heeds channelPre (fun _ _ => True) Hub.Sound Dated where
  spawn _ r _ _ := ⟨fun _ _ hasked => (by cases hasked), channelRequest_meets cfg r⟩
  step := by
    intro c i h β s k o b st hc ht hpre hheeds hexec
    have hdated := hc.threads _ (List.mem_of_getElem? ht)
    exact ⟨ChannelStmt.sound hc.state rfl hpre.1 hheeds
      (fun a ha => hdated _ _ (hpre.2 a ha)) hexec, hdated.step hc.state hexec,
      fun _ _ _ _ hB => hB.mono hc.state hexec⟩
  fail := by
    intro st h β s k _ hB _ id conn hasked
    rcases List.mem_cons.mp hasked with hnew | hold
    · cases hnew
    · exact hB id conn hold

/-- A database with one worker, seen at the start. -/
def workerSeen : DB :=
  { workers := .ofRows [{
      id := 1, poolID := none, name := "w", kind := .vps, status := .active, capabilities := []
      credHash := "c", lastSeenAt := some 0 }] (by decide) }

/-- The worker connects and says `messages` until the connection ends. -/
def connects (messages : List Heartbeat) : Event ChannelRequest Env :=
  .spawn (.connect { workerID := some 1, credential := "c", messages })

/-- Thread `i` takes `n` steps, at a time. -/
def stepsAt (now : Time) (i n : Nat) : List (Event ChannelRequest Env) :=
  List.replicate n (.step i { now })

/-- A worker comes back after its old connection was left: the first handler runs to its end, the
second registers, revives the worker and hears from it, and a sweep passes. -/
def comesBack : List (Event ChannelRequest Env) :=
  [connects []] ++ stepsAt 100 0 8 ++ [connects [{}, {}]] ++ stepsAt 200 1 7 ++
    [.spawn (.markStaleWorkers { now := 250 } 90)] ++ stepsAt 250 2 1

/-- A worker comes back **while its old connection is being left**: the second handler registers,
revives the worker and hears from it, then the first one ends, and the second hears from the worker
again. -/
def comesBackEarly : List (Event ChannelRequest Env) :=
  [connects []] ++ stepsAt 100 0 5 ++ [connects [{}, {}]] ++ stepsAt 200 1 7 ++
    stepsAt 201 0 3 ++ stepsAt 202 1 2

end Runs

end PinkGlasses
