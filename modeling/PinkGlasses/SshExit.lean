import PinkGlasses.Domain
import PinkGlasses.Lib.Conc
import PinkGlasses.Lib.Table

/-!
# PinkGlasses.SshExit

**The connector**: it holds an SSH session to every exit, pins the host key it meets on first
contact, carries connections back through the session and installs the worker over it.

A pass of `reconcile` reads the table and then deals with each exit under its lock. What it does for
one exit, with the goroutine it starts there (a session that is held, an install or a removal), is
the program `pass`; passes of several processes, and goroutines of passes long over, interleave.
What the goroutines of an exit share in memory is a `Held`, and a process that stops takes its own
with it: no statement of its goroutines is executed any more.
-/

namespace PinkGlasses

open Lib Lib.Prog

namespace SshExit

inductive InstallStatus
  | none | pending | running | done | failed
deriving Repr, DecidableEq

/-- `ssh_exit`, with the private key opened (`SSHExitSession`). -/
structure SSHExit where
  id : UUID
  host : String
  port : Int := 22
  username : String := "root"
  privateKey : String := ""
  hostKey : Option String := none
  remotePort : Int := 47090
  status : String := "connecting"
  lastError : Option String := none
  installStatus : InstallStatus := .none
  deleting : Bool := false
deriving Repr, DecidableEq

structure Endpoint where
  host : String
  port : Int
  user : String
  privateKey : String
  /-- The pinned fingerprint, `""` before first contact. -/
  hostKey : String
deriving Repr, DecidableEq

/-- A session that is open, with the fingerprint of the key its server presented. -/
structure Client where
  exitID : UUID
  presented : String
deriving Repr, DecidableEq

/-- `held`: what the goroutines of an exit share. -/
structure Held where
  id : UUID
  process : Nat
  exitID : UUID
  conf : String
  /-- It is the one in the manager's map. -/
  live : Bool := true
  client : Option Client := none
  busy : Bool := false
deriving Repr, DecidableEq

/-- The table, and the memory of the processes that run. -/
structure World where
  exits : Table SSHExit SSHExit.id := .empty
  helds : Table Held Held.id := .empty
  /-- The installs under way, each with the `Held` of its goroutine: claimed in the table, neither
  finished nor given up. -/
  installing : List (Option UUID × UUID) := []

/-- `confKey`; `sha256` prints a digest in hexadecimal. -/
def confKey (sha256 : String → String) (e : SSHExit) : String :=
  e.host ++ "|" ++ toString e.port ++ "|" ++ e.username ++ "|" ++ toString e.remotePort ++ "|" ++
    sha256 e.privateKey ++ "|" ++ e.hostKey.getD ""

def onlyPinned (a b : String) : Bool :=
  a.toList.getLast? == some '|' && a.toList.isPrefixOf b.toList

/-- What the connector and the API do to the table, to the network and to the connector's memory. -/
inductive ConnStmt : Type → Type
  | sshExitSessions : ConnStmt (List SSHExit)
  | setSSHExitState (id : UUID) (status : String) (lastErr : Option String) : ConnStmt Unit
  | pinSSHExitHostKey (id : UUID) (fingerprint : String) : ConnStmt Unit
  | startSSHExitInstall (id : UUID) : ConnStmt Bool
  | finishSSHExitInstall (id : UUID) (ok : Bool) : ConnStmt Unit
  | deleteSSHExit (id : UUID) : ConnStmt Unit
  | createPreapprovedEnrollmentToken : ConnStmt Unit
  | requestSSHExitInstall (id : UUID) : ConnStmt Bool
  | markSSHExitDeleting (id : UUID) : ConnStmt Bool
  /-- Connect and exchange keys: the fingerprint of the key that is presented. -/
  | handshake (ep : Endpoint) : ConnStmt String
  | authenticate (ep : Endpoint) : ConnStmt Unit
  | forward (client : Client) (port : Int) : ConnStmt Unit
  | run (client : Client) : ConnStmt Unit
  /-- Wait until a session ends. -/
  | wait (client : Client) : ConnStmt String
  /-- What `reconcile` does about the session of an exit, under its lock: the `Held` that is there
  or is put there, and whether a session is to be started. -/
  | enter (process : Nat) (e : SSHExit) : ConnStmt (Option UUID × Bool)
  /-- The session is dropped from the map. -/
  | forget (process : Nat) (exitID : UUID) : ConnStmt Unit
  | connected : ConnStmt (Option Client)
  | setClient (client : Option Client) : ConnStmt Unit
  | claim : ConnStmt Bool
  | release : ConnStmt Unit
  /-- A process crashes or is shut down. -/
  | stop (process : Nat) : ConnStmt Unit

namespace ConnStmt

variable {β : Type}

/-- What a statement does, issued by a goroutine with the `Held` `h`; `presented` is what the
network answers. -/
def apply (sha256 : String → String) (presented : String) (h : Option UUID) (w : World) :
    ConnStmt β → β × World
  | sshExitSessions => (w.exits.rows, w)
  | setSSHExitState id status lastErr =>
    ((), { w with
      exits := w.exits.update (·.id == id) fun e => { e with status, lastError := lastErr } })
  | pinSSHExitHostKey id fingerprint =>
    ((), { w with
      exits := w.exits.update (fun e => e.id == id && e.hostKey.isNone) fun e =>
        { e with hostKey := some fingerprint } })
  | startSSHExitInstall id =>
    let claimed := w.exits.rows.any fun e => e.id == id && e.installStatus == .pending
    (claimed, { w with
      exits := w.exits.update (fun e => e.id == id && e.installStatus == .pending) fun e =>
        { e with installStatus := .running }
      installing := if claimed then (h, id) :: w.installing else w.installing })
  | finishSSHExitInstall id ok =>
    ((), { w with
      exits := w.exits.update (·.id == id) fun e =>
        { e with installStatus := if ok then .done else .failed }
      installing := w.installing.filter (· != (h, id)) })
  | deleteSSHExit id => ((), { w with exits := w.exits.delete (·.id == id) })
  | createPreapprovedEnrollmentToken => ((), w)
  | requestSSHExitInstall id =>
    let free := fun e : SSHExit => e.id == id && !e.deleting && e.installStatus != .pending &&
      e.installStatus != .running
    (w.exits.rows.any free, { w with
      exits := w.exits.update free fun e => { e with installStatus := .pending } })
  | markSSHExitDeleting id =>
    (w.exits.rows.any (·.id == id), { w with
      exits := w.exits.update (·.id == id) fun e => { e with deleting := true } })
  | handshake _ => (presented, w)
  | authenticate _ => ((), w)
  | forward _ _ => ((), w)
  | run _ => ((), w)
  | wait _ => ("the VPS closed the session", w)
  | enter process e =>
    let key := confKey sha256 e
    let there := w.helds.rows.find? fun x => x.process == process && x.exitID == e.id && x.live
    match there.filter fun x => x.conf == key || onlyPinned x.conf key with
    | some x => ((some x.id, false), { w with
        helds := w.helds.update (·.id == x.id) fun x => { x with conf := key } })
    | none =>
      -- A changed configuration cancels the session; its goroutines keep their `Held`.
      let helds := w.helds.update (fun x => some x.id == there.map (·.id)) fun x =>
        { x with live := false }
      if e.deleting then ((none, false), { w with helds })
      else ((some helds.next, true), { w with
        helds := helds.insert fun id => { id, process, exitID := e.id, conf := key } })
  | forget process exitID =>
    ((), { w with
      helds := w.helds.update (fun x => x.process == process && x.exitID == exitID) fun x =>
        { x with live := false } })
  | connected => ((h.bind w.helds.find?).bind (·.client), w)
  | setClient client =>
    ((), { w with helds := w.helds.update (some ·.id == h) fun x => { x with client } })
  | claim =>
    (w.helds.rows.any fun x => some x.id == h && !x.busy, { w with
      helds := w.helds.update (some ·.id == h) fun x => { x with busy := true } })
  | release =>
    ((), { w with
      helds := w.helds.update (some ·.id == h) fun x => { x with busy := false }
      installing := w.installing.filter (·.1 != h) })
  | stop process =>
    ((), { w with
      helds := w.helds.delete (·.process == process)
      installing := w.installing.filter fun i =>
        !w.helds.rows.any fun x => x.process == process && some x.id == i.1 })

end ConnStmt

/-- A statement, with the `Held` of the goroutine that issues it. -/
structure Op (β : Type) where
  held : Option UUID := none
  stmt : ConnStmt β

/-- A goroutine of a process that has stopped does nothing. -/
def Op.exec {β : Type} (sha256 : String → String) (presented : String) (w : World) (s : Op β) :
    Option (β × World) :=
  if s.held.all fun h => (w.helds.find? h).isSome then some (s.stmt.apply sha256 presented s.held w)
  else none

/-! ### The programs -/

/-- Where the connector carries connections to: the port of the object store, if there is one. -/
structure Config where
  storePort : Option Int := none
deriving Repr, DecidableEq

/-- A statement of a goroutine with that `Held`. -/
def issueBy {β : Type} (held : Option UUID) (stmt : ConnStmt β) : Prog Op (Option β) :=
  issue { held, stmt }

/-- The rest of `Dial`, once the presented key is accepted. -/
def authenticated (e : SSHExit) (h : UUID) (ep : Endpoint) (fp : String) :
    Prog Op (Endpoint × Except String Client) := do
  match ← issueBy h (.authenticate ep) with
  | none => return (ep, .error "ssh: unable to authenticate")
  | some () => return (ep, .ok ⟨e.id, fp⟩)

/-- `Dial`, with the endpoint as the callback leaves it. -/
def dial (e : SSHExit) (h : UUID) (ep : Endpoint) : Prog Op (Endpoint × Except String Client) := do
  match ← issueBy h (.handshake ep) with
  | none => return (ep, .error "ssh: handshake failed")
  | some fp =>
    if ep.hostKey = "" then
      match ← issueBy h (.pinSSHExitHostKey e.id fp) with
      | none => return (ep, .error "database error")
      | some () => authenticated e h { ep with hostKey := fp } fp
    else if fp ≠ ep.hostKey then
      return (ep, .error ("host key changed: pinned " ++ ep.hostKey ++
          ", the server presented " ++ fp ++
        " — if the VPS was rebuilt, delete this exit and add it again"))
    else authenticated e h ep fp

/-- The rest of `session`, once the session is open: why it ended. -/
def carry (cfg : Config) (e : SSHExit) (h : UUID) (client : Client) : Prog Op String := do
  match ← issueBy h (.forward client e.remotePort) with
  | none => return "the VPS refused to listen on 127.0.0.1:" ++ toString e.remotePort
  | some () =>
    let refused ← match cfg.storePort with
      | none => pure false
      | some port => Option.isNone <$> issueBy h (.forward client port)
    let _ ← issueBy h (.setClient (some client))
    let _ ← issueBy h (.setSSHExitState e.id "connected"
      (if refused then some "connected, but screenshots will not upload" else none))
    let reason ← issueBy h (.wait client)
    let _ ← issueBy h (.setClient none)
    return reason.getD "the session dropped"

/-- `session`: one connection, and why it ended. -/
def session (cfg : Config) (e : SSHExit) (h : UUID) (ep : Endpoint) :
    Prog Op (Endpoint × String) := do
  match ← dial e h ep with
  | (ep, .error err) =>
    return (ep, "could not connect to " ++ e.username ++ "@" ++ e.host ++ ":" ++
        toString e.port ++ ": " ++
      err)
  | (ep, .ok client) => return (ep, ← carry cfg e h client)

/-- The loop of `hold`, for a number of sessions. -/
def retrying (cfg : Config) (e : SSHExit) (h : UUID) : Nat → Endpoint → Prog Op Unit
  | 0, _ => return ()
  | n + 1, ep => do
    let (ep, msg) ← session cfg e h ep
    let _ ← issueBy h (.setSSHExitState e.id "error" (some msg))
    retrying cfg e h n ep

def hold (cfg : Config) (e : SSHExit) (h : UUID) (sessions : Nat) : Prog Op Unit := do
  let _ ← issueBy h (.setSSHExitState e.id "connecting" none)
  retrying cfg e h sessions ⟨e.host, e.port, e.username, e.privateKey, e.hostKey.getD ""⟩

/-- `runInstall`: whether the worker was installed. -/
def runInstall (h : UUID) (client : Client) : Prog Op Bool := do
  match ← issueBy h .createPreapprovedEnrollmentToken with
  | none => return false
  | some () => return (← issueBy h (.run client)).isSome

def install (e : SSHExit) (h : UUID) : Prog Op Unit := do
  match ← issueBy h .connected with
  | some (some client) =>
    if (← issueBy h .claim) = some true then
      if (← issueBy h (.startSSHExitInstall e.id)) = some true then
        let ok ← runInstall h client
        let _ ← issueBy h (.finishSSHExitInstall e.id ok)
      let _ ← issueBy h .release
  | _ => return ()

/-- The goroutine of `teardown`. -/
def removal (process : Nat) (e : SSHExit) (h : Option UUID) (client : Option Client) :
    Prog Op Unit := do
  if let some client := client then
    let _ ← issueBy h (.run client)
  let _ ← issueBy h (.forget process e.id)
  let _ ← issueBy h (.deleteSSHExit e.id)
  let _ ← issueBy h .release

/-- `teardown`; there is no `Held` for an exit that no session was started for. -/
def teardown (process : Nat) (e : SSHExit) : Option UUID → Prog Op Unit
  | none => removal process e none none
  | some h => do
    let client ← issueBy h .connected
    if (← issueBy h .claim) = some true then removal process e h client.join

/-- A pass of `reconcile`, for one exit. -/
def pass (cfg : Config) (process : Nat) (id : UUID) (sessions : Nat) : Prog Op Unit := do
  let some exits ← issueBy none .sshExitSessions | return ()
  match exits.find? (·.id == id) with
  | none => let _ ← issueBy none (.forget process id)
  | some e =>
    match ← issueBy none (.enter process e) with
    | some (some h, true) => hold cfg e h sessions
    | some (h, false) =>
      if e.deleting then teardown process e h
      else if e.installStatus = .pending then
        if let some h := h then install e h
    | _ => return ()

/-- What can happen to the exits. -/
inductive Request
  | pass (process : Nat) (id : UUID) (sessions : Nat)
  | installSSHExit (id : UUID)
  | deleteSSHExit (id : UUID)
  | stop (process : Nat)
deriving Repr, DecidableEq

def Request.prog (cfg : Config) : Request → Prog Op Unit
  | .pass process id sessions => SshExit.pass cfg process id sessions
  | .installSSHExit id => do let _ ← issueBy none (.requestSSHExitInstall id)
  | .deleteSSHExit id => do let _ ← issueBy none (.markSSHExitDeleting id)
  | .stop process => do let _ ← issueBy none (.stop process)

/-- Connectors and the API on one table; what the servers present is the world's choice. -/
def connectors (sha256 : String → String) (cfg : Config) :
    System Op World String Request Unit where
  exec := fun s presented w => s.exec sha256 presented w
  accepts := fun _ _ => true
  prog := Request.prog cfg

end SshExit

end PinkGlasses
