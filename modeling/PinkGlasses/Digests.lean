import Mathlib.Data.List.Sort
import PinkGlasses.Lib.Loop
import PinkGlasses.Lib.Serial
import PinkGlasses.Lib.Span
import PinkGlasses.Lib.Table
import PinkGlasses.Store.Change

/-!
# PinkGlasses.Digests

`internal/notify`: the daily digest. `sendDueDigests` goes through the channels whose send time has
passed, and for each of them sends what changed in a period, or records that nothing did; then it
moves the channel's covered period forward (`digest_through`).

* The period ends at today's send time and begins where the last one ended, but **never more than a
  day before its end**.
* The record of a delivery and the move of `digest_through` are statements of their own, and the
  errors of both are ignored.

The scheduler calls it again and again (`digests`). The state has a journal of the periods that were
sent or recorded as skipped, and of the moves; no statement reads it.
-/

namespace PinkGlasses

open Lib Prog

/-- A period `(from, through]`. -/
abbrev Period := Span Time

/-- `notification_channel.cadence`. -/
inductive AlertCadence
  | perRun | daily
deriving Repr, DecidableEq

/-- `notification_channel.kind`. -/
inductive ChannelKind
  | webhook | slack
deriving Repr, DecidableEq

/-- A row of `notification_channel`. -/
structure NotificationChannel where
  id : UUID
  scopeID : UUID
  name : String := ""
  kind : ChannelKind := .webhook
  url : String := ""
  events : List String := ["new_finding", "finding_returned", "new_port"]
  minSeverity : String := "low"
  enabled : Bool := true
  cadence : AlertCadence := .perRun
  /-- Checked to be between 0 and 23. -/
  digestHour : Fin 24 := 7
  digestThrough : Option Time := none
  createdAt : Time := 0
deriving Repr, DecidableEq

/-- `notification_delivery.status`. -/
inductive DeliveryStatus
  | sent | failed | skipped
deriving Repr, DecidableEq

/-- A row of `notification_delivery`, for a digest that is not about one run. -/
structure NotificationDelivery where
  channelID : UUID
  events : Nat
  status : DeliveryStatus
  error : Option String
deriving Repr, DecidableEq

/-! ### What a digest says -/

/-- `notify.Event`. -/
structure DigestEvent where
  kind : ChangeKind
  severity : String
  title : String
deriving Repr, DecidableEq

/-- `notify.Digest`. -/
structure Digest where
  scope : String
  scopeID : String
  runID : String
  profile : String
  finished : Time
  summary : List (ChangeKind × Nat)
  events : List DigestEvent
  truncated : Nat
  link : String
deriving Repr, DecidableEq

namespace Digests

/-- One line of `toEvents`. -/
def toEvent (ce : ChangeEvent) : DigestEvent :=
  let src := (if ce.kind = .findingGone then ce.before else ce.after).getD {}
  let title := match ce.kind with
    | .newSubdomain => src.name.getD ""
    | .newPort => src.ip.getD "" ++ ":" ++ toString (src.port.getD 0) ++ " open"
    | _ => src.title.getD ""
  { kind := ce.kind
    severity := src.severity.getD ""
    title := if title = "" then toString ce.assetID else title }

/-- `sevRank`; a text that is not in the table ranks lowest. -/
def sevRank : String → Nat
  | "low" => 1
  | "medium" => 2
  | "high" => 3
  | "critical" => 4
  | _ => 0

def wanted (events : List String) (minSeverity : String) (e : DigestEvent) : Bool :=
  events.contains e.kind.text &&
    (e.severity == "" || decide (sevRank minSeverity.toLower ≤ sevRank e.severity.toLower))

/-- Regressions first, then new findings, then gone ones. -/
def order : ChangeKind → Nat
  | .findingReturned => 0
  | .newFinding => 1
  | .findingGone => 2
  | _ => 3

def maxEvents : Nat := 25

def build (scope scopeID runID profile : String) (finished : Time) (link : String)
    (wanted : List DigestEvent) : Digest :=
  let sorted := wanted.insertionSort fun a b => order a.kind < order b.kind ∨
    (order a.kind = order b.kind ∧ sevRank b.severity ≤ sevRank a.severity)
  { scope, scopeID, runID, profile, finished, link
    summary := (wanted.map (·.kind)).dedup.map fun k => (k, wanted.countP (·.kind = k))
    events := sorted.take maxEvents
    truncated := sorted.length - maxEvents }

/-! ### When it is due -/

/-- The start of the day in UTC. -/
def utcDay (now : Time) : Time := now / 86400 * 86400

/-- What the notifier takes from its surroundings. -/
structure Config where
  /-- Where the UI is. -/
  baseURL : String := ""
  /-- `date_trunc('day', ·)`, in the time zone of the database session. -/
  sessionDay : Time → Time := utcDay

/-- The period a digest covers at a time: up to today's send time in UTC, from where the last one
ended or from a day before, whichever is later. -/
def periodAt (now : Time) (c : NotificationChannel) : Period :=
  let through := utcDay now + 3600 * (c.digestHour : Int)
  { lo := match c.digestThrough with
      | some t => if through - 86400 < t then t else through - 86400
      | none => through - 86400
    hi := through }

/-- The condition of `DueDigests`. -/
def dueAt (cfg : Config) (now : Time) (c : NotificationChannel) : Bool :=
  let sendTime := cfg.sessionDay now + 3600 * (c.digestHour : Int)
  c.enabled && c.cadence == .daily && decide (sendTime ≤ now) &&
    c.digestThrough.all fun t => decide (t < sendTime)

/-! ### Statements -/

/-- What the notifier does. What it says about a period names the period, for the journal. -/
inductive DigestStmt : Type → Type
  | dueDigests (now : Time) : DigestStmt (List NotificationChannel)
  | scopeChangeEvents (scopeID : UUID) (period : Period) : DigestStmt (List ChangeEvent)
  | recordDelivery (channelID : UUID) (period : Period) (events : Nat) (status : DeliveryStatus)
      (error : Option String) : DigestStmt Unit
  | markDigestSent (channelID : UUID) (through : Time) : DigestStmt Unit
  | getScope (scopeID : UUID) : DigestStmt String
  /-- `Sink.Send`; whether it arrives is decided outside. -/
  | send (c : NotificationChannel) (period : Period) (d : Digest) : DigestStmt Unit

/-- The tables the notifier works on. -/
structure NotifyDB where
  channels : Table NotificationChannel NotificationChannel.id := .empty
  deliveries : List NotificationDelivery := []
  changeEvents : List ChangeEvent := []
  /-- The companies, with their names. -/
  scopes : List (UUID × String) := []

/-- What a statement answers and does; `none` when it is refused. -/
def DigestStmt.exec (cfg : Config) (db : NotifyDB) : {β : Type} → DigestStmt β →
    Option (β × NotifyDB)
  | _, dueDigests now => some ((db.channels.rows.filter (dueAt cfg now)).insertionSort
      fun c c' => c.createdAt ≤ c'.createdAt, db)
  | _, scopeChangeEvents scopeID period => some ((db.changeEvents.filter fun e =>
      e.scopeID == scopeID && decide (e.createdAt ∈ period.points)).insertionSort
      fun e e' => e.createdAt ≤ e'.createdAt, db)
  | _, recordDelivery channelID _ events status error =>
    -- `channel_id` references `notification_channel`
    if (db.channels.find? channelID).isNone then none
    else some ((), { db with deliveries := db.deliveries ++
        [{ channelID, events, status, error }] })
  | _, markDigestSent channelID through => some ((), { db with
      channels := db.channels.update (·.id == channelID)
        fun c => { c with digestThrough := some through } })
  | _, getScope scopeID => ((db.scopes.find? (·.1 == scopeID)).map (·.2)).map (·, db)
  | _, send _ _ _ => some ((), db)

/-! ### The notifier -/

/-- The message of an error that came from a sink. Its text is the sink's. -/
def sendError : String := "send failed"

/-- What `SendDueDigests` does for one channel. -/
def sendOne (cfg : Config) (now : Time) (c : NotificationChannel) : Prog DigestStmt Unit := do
  let period := periodAt now c
  match ← issue (.scopeChangeEvents c.scopeID period) with
  | none => pure ()
  | some events =>
    let wanted := (events.map toEvent).filter (wanted c.events c.minSeverity)
    if wanted.isEmpty then
      let _ ← issue (.recordDelivery c.id period 0 .skipped none)
      let _ ← issue (.markDigestSent c.id period.hi)
    else
      let scope ← issue (.getScope c.scopeID)
      let link := if cfg.baseURL = "" then "" else cfg.baseURL ++ "/runs"
      let d := build (scope.getD "")
          (toString c.scopeID) "daily" "daily digest" period.hi link wanted
      match ← issue (.send c period d) with
      | none =>
        -- left undelivered: the next sweep tries again
        let _ ← issue (.recordDelivery c.id period wanted.length .failed (some sendError))
      | some _ =>
        let _ ← issue (.recordDelivery c.id period wanted.length .sent none)
        let _ ← issue (.markDigestSent c.id period.hi)

def sendDueDigests (cfg : Config) (now : Time) : Prog DigestStmt Unit := do
  match ← issue (.dueDigests now) with
  | none => pure ()
  | some due => forEach (sendOne cfg now) due

/-! ### The journal -/

/-- What became of a channel's digests. -/
inductive DigestNote
  /-- A digest of the period was sent, or the period was recorded as skipped. -/
  | covered (channelID : UUID) (period : Period)
  /-- The covered period was moved forward. -/
  | marked (channelID : UUID) (through : Time)
deriving Repr, DecidableEq

/-- The channel and the period a statement sends or records as skipped. -/
def covers : {β : Type} → DigestStmt β → Option (UUID × Period)
  | _, .send c period _ => some (c.id, period)
  | _, .recordDelivery channelID period _ .skipped _ => some (channelID, period)
  | _, _ => none

/-- The channel and the time a statement moves the covered period to. -/
def marks : {β : Type} → DigestStmt β → Option (UUID × Time)
  | _, .markDigestSent channelID through => some (channelID, through)
  | _, _ => none

/-- What a statement adds to the journal. -/
def digestNotes {β : Type} (s : DigestStmt β) (_ : β) : List DigestNote :=
  ((covers s).map fun x => .covered x.1 x.2).toList ++
    ((marks s).map fun x => .marked x.1 x.2).toList

/-- The channel a note is about. -/
def DigestNote.channelID : DigestNote → UUID
  | covered i _ => i
  | marked i _ => i

/-- The notes on one channel. -/
def notesOf (channelID : UUID) (js : List DigestNote) : List DigestNote :=
  js.filter (·.channelID == channelID)

/-- The period of a note, if it is about one. -/
def DigestNote.period? : DigestNote → Option Period
  | covered _ p => some p
  | marked _ _ => none

/-- The periods of a channel's digests, sent or skipped, newest first. -/
def periodsOf (channelID : UUID) (js : List DigestNote) : List Period :=
  (notesOf channelID js).filterMap (·.period?)

/-- **The notifier**, called again and again, while everybody else does what they like to the
tables. -/
def digests (cfg : Config) :
    Process DigestStmt (NotifyDB × List DigestNote) Unit Time Unit (NotifyDB → NotifyDB) where
  toSystem := System.logged
    { exec := fun s _ db => s.exec cfg db
      accepts := fun _ _ => true
      prog := sendDueDigests cfg } digestNotes
  act := fun f st => (f st.1, st.2)

end Digests

end PinkGlasses
