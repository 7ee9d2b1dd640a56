import PinkGlasses.Ingest
import PinkGlasses.Lib.Conc
import PinkGlasses.Lib.Jsonb
import PinkGlasses.Lib.Rows

/-!
# PinkGlasses.Sightings

What ingest records **about** the asset graph: the rows of `service_observation`, which several
stages fill in together, and when each asset was first and last seen.

* `mergeHTTP` is the `CASE` of `UpsertServiceObservation`, over `jsonb` values.
* `Seen.again` is what every other upsert does to `first_seen` and `last_seen`.
* `SightDB` is the database with these columns, and `Sighted.exec` a statement with the time its
  caller observed at.

The worker of an observation and the columns nothing here reads (`ttl`, `cpe`, `confidence`, the
severity and the evidence of a finding) are left out.
-/

namespace PinkGlasses

open Lib Jsonb

/-! ### Documents -/

/-- How values become texts outside the program. -/
structure Printing where
  /-- `time.Time` in JSON. -/
  time : Time → String := toString
  /-- The text of a `jsonb` value. -/
  jsonb : Jsonb → String := fun _ => ""

/-- `json.Marshal` of a value. -/
def Json.marshal (pr : Printing) : Json → Jsonb
  | .null => .null
  | .text s => .string s
  | .number n => .number n
  | .time t => .string (pr.time t)
  | .texts ss => .array (ss.map .string)
  | .object kvs => .object (kvs.map fun kv => (kv.1, .string kv.2))

def jsonOrNil (pr : Printing) (d : Doc) : Option Jsonb :=
  if d.isEmpty then none else some (.object (d.map fun e => (e.1, e.2.marshal pr)))

/-! ### `service_observation` -/

/-- What identifies a row of `service_observation`. -/
structure ObservationKey where
  serviceID : UUID
  runID : UUID
  host : String
deriving Repr, DecidableEq

/-- A row of `service_observation`. -/
structure ServiceObservation where
  key : ObservationKey
  observedAt : Time
  banner : String
  product : String
  version : String
  http : Option Jsonb
  tls : Option Jsonb
  screenshotKey : String
  rawKey : String

namespace ServiceObservation

/-- `COALESCE(NULLIF(EXCLUDED.x,''), service_observation.x)`. -/
def orStored (new stored : String) : String := if new = "" then stored else new

/-- The headers of the merged document: those of both, the newer ones first. -/
def mergeHeaders (stored excluded : Jsonb) : Jsonb :=
  .object [("headers", (orObject (stored.get "headers")).concat
    (orObject (excluded.get "headers")))]

/-- The cookies of the merged document: those of both, or no entry when neither has one. -/
def mergeCookies (pr : Printing) (stored excluded : Jsonb) : Jsonb :=
  match (stored.get "cookies").or (excluded.get "cookies") with
  | none => .object []
  | some _ => .object [("cookies", aggDistinct (((orArray (stored.get "cookies")).concat
      (orArray (excluded.get "cookies"))).elementsText pr.jsonb))]

/-- What becomes of `http`. -/
def mergeHTTP (pr : Printing) (stored excluded : Option Jsonb) : Option Jsonb :=
  match excluded, stored with
  | some (.object new), some (.object old) => some ((((object old).concat (.object new)).concat
      (mergeHeaders (.object old) (.object new))).concat
        (mergeCookies pr (.object old) (.object new)))
  | some (.object new), _ => some (.object new)
  | _, _ => stored

/-- What becomes of `tls`: `COALESCE(NULLIF(EXCLUDED.tls,'null'), service_observation.tls)`. -/
def mergeTLS (stored excluded : Option Jsonb) : Option Jsonb :=
  match excluded with
  | none | some .null => stored
  | some v => some v

/-- The row `UpsertServiceObservation` inserts. -/
def inserted (pr : Printing) (key : ObservationKey) (seenAt : Time) (o : ServiceObs) :
    ServiceObservation where
  key := key
  observedAt := seenAt
  banner := o.banner
  product := o.product
  version := o.version
  http := jsonOrNil pr o.http
  tls := jsonOrNil pr o.tls
  screenshotKey := o.screenshotKey
  rawKey := o.rawKey

/-- What it does to the row that is there. -/
def refreshed (pr : Printing) (o : ServiceObs) (r : ServiceObservation) : ServiceObservation :=
  { r with
    banner := orStored o.banner r.banner
    product := orStored o.product r.product
    version := orStored o.version r.version
    http := mergeHTTP pr r.http (jsonOrNil pr o.http)
    tls := mergeTLS r.tls (jsonOrNil pr o.tls)
    screenshotKey := orStored o.screenshotKey r.screenshotKey
    rawKey := orStored o.rawKey r.rawKey }

end ServiceObservation

/-! ### When an asset was seen -/

/-- `first_seen` and `last_seen`. -/
structure Seen where
  first : Time
  last : Time
deriving Repr, DecidableEq

/-- Seen again, at a time: `last_seen = GREATEST(last_seen, at)`. -/
def Seen.again (seenAt : Time) (s : Seen) : Seen := { s with last := max s.last seenAt }

/-- What an upsert makes of the times of a row that it inserts, or that was there. -/
def Seen.upsert (seenAt : Time) (known : Bool) (s : Seen) : Seen :=
  if known then s.again seenAt else ⟨seenAt, seenAt⟩

/-- A row of `dns_record`. -/
structure DNSRecord where
  domainID : UUID
  rtype : String
  value : String
deriving Repr, DecidableEq

/-- The database with what is recorded about its assets. -/
structure SightDB where
  db : DB := {}
  serviceObservations : List ServiceObservation := []
  dnsRecords : List DNSRecord := []
  domainSeen : UUID → Seen := fun _ => ⟨0, 0⟩
  dnsRecordSeen : DNSRecord → Seen := fun _ => ⟨0, 0⟩
  ipSeen : UUID → Seen := fun _ => ⟨0, 0⟩
  serviceSeen : UUID → Seen := fun _ => ⟨0, 0⟩
  technologySeen : Technology → Seen := fun _ => ⟨0, 0⟩
  findingSeen : UUID → Seen := fun _ => ⟨0, 0⟩
  /-- The findings a person has closed. -/
  resolved : List UUID := []

/-- A statement, with the time its caller observed at. -/
structure Sighted (β : Type) where
  seenAt : Time
  stmt : Stmt β

/-- What a statement on the asset graph records beside it, in the state before it. -/
def AssetStmt.record (pr : Printing) (seenAt : Time) (st : SightDB) {β : Type} :
    AssetStmt β → β → SightDB
  | upsertDomain _ _ _, id => { st with
      domainSeen := Function.update st.domainSeen id
        ((st.domainSeen id).upsert seenAt (st.db.domains.find? id).isSome) }
  | upsertDNSRecord domainID rtype value _, _ =>
    let r : DNSRecord := ⟨domainID, rtype, value⟩
    { st with
      dnsRecords := if st.dnsRecords.contains r then st.dnsRecords else st.dnsRecords ++ [r]
      dnsRecordSeen := Function.update st.dnsRecordSeen r
        ((st.dnsRecordSeen r).upsert seenAt (st.dnsRecords.contains r)) }
  | upsertIP _ _, id => { st with
      ipSeen := Function.update st.ipSeen id
        ((st.ipSeen id).upsert seenAt (st.db.ipAddresses.find? id).isSome) }
  | upsertService _ _ _ _, id => { st with
      serviceSeen := Function.update st.serviceSeen id
        ((st.serviceSeen id).upsert seenAt (st.db.services.find? id).isSome) }
  | upsertServiceObservation serviceID runID o, _ =>
    let key : ObservationKey := ⟨serviceID, runID, o.host⟩
    { st with
      serviceObservations := Rows.upsert ServiceObservation.key key
        (ServiceObservation.inserted pr key seenAt o) (ServiceObservation.refreshed pr o)
        st.serviceObservations }
  | touchTechnology serviceID name, _ => { st with
      technologySeen := fun t =>
        if t.serviceID = serviceID ∧ t.name = name ∧ t.version ≠ "" then
          (st.technologySeen t).again seenAt
        else st.technologySeen t }
  | insertTechnology serviceID name version _ _, _ =>
    let t : Technology := ⟨serviceID, name, version⟩
    { st with
      technologySeen := Function.update st.technologySeen t
        ((st.technologySeen t).upsert seenAt (st.db.technologies.contains t)) }
  | upsertFinding _ _ _ _ _ _ _, id => { st with
      -- a finding that was closed keeps its times
      findingSeen := if st.resolved.contains id && (st.db.findings.find? id).isSome then
        st.findingSeen
        else Function.update st.findingSeen id
          ((st.findingSeen id).upsert seenAt (st.db.findings.find? id).isSome) }
  | _, _ => st

/-- The row of `service_observation` a statement writes to, and what it writes. -/
def AssetStmt.write? {β : Type} : AssetStmt β → Option (ObservationKey × ServiceObs)
  | upsertServiceObservation serviceID runID o => some (⟨serviceID, runID, o.host⟩, o)
  | _ => none

namespace Sighted

variable {β : Type}

/-- What a statement records. -/
def record (pr : Printing) (st : SightDB) (s : Sighted β) (b : β) : SightDB :=
  match s.stmt, b with
  | .asset a, b => a.record pr s.seenAt st b
  | _, _ => st

/-- What a statement answers and does. -/
def exec (out : Outside) (pr : Printing) (env : Env) (st : SightDB) (s : Sighted β) :
    Option (β × SightDB) :=
  (s.stmt.exec out env st.db).map fun (b, db) => (b, { s.record pr st b with db })

theorem exec_eq_some {out : Outside} {pr : Printing} {env : Env} {st st' : SightDB} {s : Sighted β}
    {b : β} : s.exec out pr env st = some (b, st') ↔
      ∃ db, s.stmt.exec out env st.db = some (b, db) ∧ st' = { s.record pr st b with db } := by
  simp only [exec, Option.map_eq_some_iff, Prod.exists, Prod.mk.injEq]
  constructor
  · rintro ⟨b', db, hexec, rfl, rfl⟩
    exact ⟨db, hexec, rfl⟩
  · rintro ⟨db, hexec, rfl⟩
    exact ⟨b, db, hexec, rfl, rfl⟩

/-- The same, with the time. -/
def write? (s : Sighted β) : Option (ObservationKey × ServiceObs) :=
  match s.stmt with
  | .asset a => a.write?
  | _ => none

end Sighted

/-- The row of `service_observation` with a key. -/
def SightDB.rowOf (st : SightDB) (k : ObservationKey) : Option ServiceObservation :=
  Rows.at? ServiceObservation.key st.serviceObservations k

/-- **A statement changes the row it writes to and no other.** -/
theorem Sighted.rowOf_exec {β : Type} {out : Outside} {pr : Printing} {env : Env} {st st' : SightDB}
    {s : Sighted β} {b : β} (hexec : s.exec out pr env st = some (b, st')) (k : ObservationKey) :
    st'.rowOf k = match s.write? with
      | some (key, o) => if k = key then some (((st.rowOf key).map (.refreshed pr o)).getD
          (.inserted pr key s.seenAt o)) else st.rowOf k
      | none => st.rowOf k := by
  obtain ⟨db, -, rfl⟩ := exec_eq_some.mp hexec
  obtain ⟨seenAt, stmt⟩ := s
  cases stmt with
  | asset a =>
    cases a with
    | upsertServiceObservation serviceID runID o =>
      refine Rows.at?_upsert ServiceObservation.key ?_ ?_ k
      · exact fun _ => rfl
      · rfl
    | _ => rfl
  | _ => rfl

/-! ### Ingest at work -/

/-- A batch of observations of a run, and the time it is taken in. -/
structure Batch where
  now : Time
  runID : UUID
  obs : List Observation

namespace Sightings

/-- A statement of `Process`, which passes the time it started at to each of them. -/
def sighted (now : Time) (β : Type) (s : Stmt β) : Sighted β := ⟨now, s⟩

/-- **Batches taken in at the same time.** -/
def ingest (out : Outside) (pr : Printing) :
    System Sighted SightDB Env Batch (Except String StageSummary) where
  exec := fun s env st => s.exec out pr env st
  accepts := fun _ _ => true
  prog := fun b => (Ingest.process b.now b.runID b.obs).run.embed (sighted b.now)

end Sightings

end PinkGlasses
