import Mathlib.Data.List.Sort
import PinkGlasses.Store.Schema

/-!
# PinkGlasses.Store.Asset

The statements of `internal/store/asset.go` and `finding.go` that ingest and the planner use:
names, addresses, the edges between them, the open ports and what a run records *about* a
service. Of the latter (observations, findings) only what identifies a row is kept.

A statement fails if PostgreSQL cannot store what it is given: a text with a NUL character, as a
column or inside a `jsonb` document, a number beyond four bytes, or an address that is none. An
`inet` value is the text `host` prints for it; `Outside.inet` reads a text as one.
-/

namespace PinkGlasses

/-- The values a `map[string]any` of the program holds. -/
inductive Json
  | null
  | text (s : String)
  | number (n : Int)
  | time (t : Time)
  | texts (ss : List String)
  | object (kvs : List (String × String))
deriving Repr, DecidableEq

/-- A `map[string]any`; an empty one is stored as `NULL`. -/
abbrev Doc := List (String × Json)

/-- `domain.ServiceObs`. -/
structure ServiceObs where
  host : String := ""
  banner : String := ""
  product : String := ""
  version : String := ""
  http : Doc := []
  tls : Doc := []
  screenshotKey : String := ""
  rawKey : String := ""
deriving Repr, DecidableEq

/-- What `EnrichIP` adds to an address. -/
structure Enrichment where
  ptr : String := ""
  asOrg : String := ""
  country : String := ""
  cloud : String := ""
  asRange : String := ""
  asn : Int := 0
  shared : Bool := false
deriving Repr, DecidableEq

/-- The statements on the asset graph. `touchTechnology`, `dropUnversioned` and
`insertTechnology` are the three of `UpsertTechnology`. -/
inductive AssetStmt : Type → Type
  | upsertDomain (scopeID : UUID) (name source : String) : AssetStmt UUID
  | setWildcard (domainID : UUID) : AssetStmt Unit
  | upsertDNSRecord (domainID : UUID) (rtype value : String) (ttl : Int) : AssetStmt Unit
  | upsertIP (scopeID : UUID) (addr : String) : AssetStmt UUID
  | enrichIP (id : UUID) (e : Enrichment) : AssetStmt Unit
  | linkDomainIP (domainID ipID : UUID) (via : String) : AssetStmt Unit
  | recordDomainIPObservation (domainID ipID runID : UUID) : AssetStmt Unit
  | upsertService (ipID : UUID) (port : Int) (proto state : String) : AssetStmt UUID
  | upsertServiceObservation (serviceID runID : UUID) (o : ServiceObs) : AssetStmt Unit
  | touchTechnology (serviceID : UUID) (name : String) : AssetStmt Nat
  | dropUnversioned (serviceID : UUID) (name : String) : AssetStmt Unit
  | insertTechnology (serviceID : UUID) (name version cpe : String) (confidence : Int) :
      AssetStmt Unit
  | upsertFinding (scopeID assetID : UUID) (assetKind kind severity title : String)
      (evidence : Doc) : AssetStmt UUID
  | recordFindingObservation (findingID runID : UUID) (severity : String) (evidence : Doc) :
      AssetStmt Unit
  | namesResolvingTo (scopeID : UUID) (ip : String) (limit : Int) : AssetStmt (List String)
  | sharedAddresses (scopeID : UUID) : AssetStmt (List String)

namespace Store

/-! ### What PostgreSQL can store -/

/-- Whether a text can be stored: neither `text` nor `jsonb` takes a NUL character. -/
def storable (s : String) : Bool := !s.toList.contains '\x00'

/-- Whether a number fits an `int` column. -/
def int4 (n : Int) : Bool := -2147483648 ≤ n && n ≤ 2147483647

/-- Whether a document can be stored as `jsonb`. -/
def storableDoc (d : Doc) : Bool := d.all fun e => storable e.1 && match e.2 with
  | .null | .number _ | .time _ => true
  | .text s => storable s
  | .texts ss => ss.all storable
  | .object kvs => kvs.all fun kv => storable kv.1 && storable kv.2

def storableObs (o : ServiceObs) : Bool :=
  storable o.host && storable o.banner && storable o.product && storable o.version &&
    storableDoc o.http && storableDoc o.tls && storable o.screenshotKey && storable o.rawKey

def storableEnrichment (e : Enrichment) : Bool :=
  storable e.ptr && storable e.asOrg && storable e.country && storable e.cloud &&
    storable e.asRange && int4 e.asn

/-! ### Reads -/

/-- The names of a company that resolve to an address, other than through a wildcard. -/
def namesOn (scopeID : UUID) (addr : String) (db : DB) : List String :=
  (db.domains.rows.filter fun d => d.scopeID == scopeID &&
    db.domainIPs.any fun e => e.domainID == d.id && e.via != "wildcard" &&
      (db.ipAddresses.find? e.ipID).any (·.addr == addr)).map (·.name)

/-- `NamesResolvingTo`: the shortest names first, then by name, at most `limit` of them. -/
def namesResolvingTo (scopeID : UUID) (addr : String) (limit : Int) (db : DB) : List String :=
  ((namesOn scopeID addr db).dedup.insertionSort fun n n' =>
    n.length < n'.length ∨ (n.length = n'.length ∧ n ≤ n')).take limit.toNat

def sharedAddresses (scopeID : UUID) (db : DB) : List String :=
  (db.ipAddresses.rows.filter fun a => a.scopeID == scopeID && a.isShared).map (·.addr)

end Store

namespace AssetStmt

open Store

variable {β : Type}

/-- Whether the values a statement is given can be stored. Addresses are read by `apply`. -/
def storable : AssetStmt β → Bool
  | upsertDomain _ name source => Store.storable name && Store.storable source
  | upsertDNSRecord _ rtype value ttl => Store.storable rtype && Store.storable value && int4 ttl
  | enrichIP _ e => storableEnrichment e
  | linkDomainIP _ _ via => Store.storable via
  | upsertService _ port proto state =>
    int4 port && Store.storable proto && Store.storable state
  | upsertServiceObservation _ _ o => storableObs o
  | touchTechnology _ name | dropUnversioned _ name => Store.storable name
  | insertTechnology _ name version cpe confidence =>
    Store.storable name && Store.storable version && Store.storable cpe && int4 confidence
  | upsertFinding _ _ assetKind kind severity title evidence =>
    Store.storable assetKind && Store.storable kind && Store.storable severity &&
      Store.storable title && storableDoc evidence
  | recordFindingObservation _ _ severity evidence =>
    Store.storable severity && storableDoc evidence
  | _ => true

/-- What a statement with storable values answers and does. -/
def apply (out : Outside) (db : DB) : AssetStmt β → Option (β × DB)
  | upsertDomain scopeID name _ =>
    match db.domains.rows.find? fun d => d.scopeID == scopeID && d.name == name with
    | some d => some (d.id, db)
    | none => some (db.domains.next, { db with
        domains := db.domains.insert fun id => { id, scopeID, name } })
  | setWildcard domainID => some ((), { db with
      domains := db.domains.update (·.id == domainID) fun d => { d with isWildcard := true } })
  | upsertDNSRecord domainID _ _ _ =>
    if (db.domains.find? domainID).isNone then none else some ((), db)
  | upsertIP scopeID addr => (out.inet addr).map fun a =>
    match db.ipAddresses.rows.find? fun r => r.scopeID == scopeID && r.addr == a with
    | some r => (r.id, db)
    | none => (db.ipAddresses.next, { db with
        ipAddresses := db.ipAddresses.insert fun id => { id, scopeID, addr := a } })
  | enrichIP id e => some ((), { db with
      ipAddresses := db.ipAddresses.update (·.id == id)
        fun r => { r with isShared := r.isShared || e.shared } })
  | linkDomainIP domainID ipID via =>
    if (db.domains.find? domainID).isNone || (db.ipAddresses.find? ipID).isNone then none
    else some ((), { db with
      domainIPs := if db.domainIPs.contains ⟨domainID, ipID, via⟩ then db.domainIPs
        else db.domainIPs ++ [⟨domainID, ipID, via⟩] })
  | recordDomainIPObservation domainID ipID runID =>
    if (db.domains.find? domainID).isNone || (db.ipAddresses.find? ipID).isNone ||
        (db.runs.find? runID).isNone then none
    else some ((), { db with
      domainIPObservations :=
        if db.domainIPObservations.contains ⟨domainID, ipID, runID⟩ then db.domainIPObservations
        else db.domainIPObservations ++ [⟨domainID, ipID, runID⟩] })
  | upsertService ipID port proto state =>
    if (db.ipAddresses.find? ipID).isNone then none
    else match db.services.rows.find? fun s =>
        s.ipID == ipID && s.port == port && s.proto == proto with
    | some s => some (s.id, { db with
        services := db.services.update (·.id == s.id) fun s => { s with lastState := state } })
    | none => some (db.services.next, { db with
        services := db.services.insert fun id => { id, ipID, port, proto, lastState := state } })
  | upsertServiceObservation serviceID runID _ =>
    if (db.services.find? serviceID).isNone || (db.runs.find? runID).isNone then none
    else some ((), db)
  | touchTechnology serviceID name => some ((db.technologies.filter fun t =>
      t.serviceID == serviceID && t.name == name && t.version != "").length, db)
  | dropUnversioned serviceID name => some ((), { db with
      technologies := db.technologies.filter fun t =>
        !(t.serviceID == serviceID && t.name == name && t.version == "") })
  | insertTechnology serviceID name version _ _ =>
    if (db.services.find? serviceID).isNone then none
    else some ((), { db with
      technologies := if db.technologies.contains ⟨serviceID, name, version⟩ then db.technologies
        else db.technologies ++ [⟨serviceID, name, version⟩] })
  | upsertFinding scopeID assetID assetKind kind _ title _ =>
    match db.findings.rows.find? fun f => f.scopeID == scopeID && f.assetKind == assetKind &&
        f.assetID == assetID && f.kind == kind && f.title == title with
    | some f => some (f.id, db)
    | none => some (db.findings.next, { db with
        findings := db.findings.insert fun id => { id, scopeID, assetKind, assetID, kind, title } })
  | recordFindingObservation findingID runID _ _ =>
    if (db.findings.find? findingID).isNone || (db.runs.find? runID).isNone then none
    else some ((), db)
  | namesResolvingTo scopeID ip limit =>
    (out.inet ip).map fun a => (Store.namesResolvingTo scopeID a limit db, db)
  | sharedAddresses scopeID => some (Store.sharedAddresses scopeID db, db)

/-- What a statement answers and does; one with a value that cannot be stored fails. -/
def exec (out : Outside) (db : DB) (s : AssetStmt β) : Option (β × DB) :=
  if s.storable then s.apply out db else none

theorem exec_eq_some {out : Outside} {db : DB} {s : AssetStmt β} {r : β × DB} :
    s.exec out db = some r ↔ s.storable = true ∧ s.apply out db = some r := by
  unfold exec
  split <;> simp_all

/-- The technologies after a statement. -/
def technologiesAfter (db : DB) : AssetStmt β → List Technology
  | dropUnversioned serviceID name => db.technologies.filter fun t =>
      !(t.serviceID == serviceID && t.name == name && t.version == "")
  | insertTechnology serviceID name version _ _ =>
    if db.technologies.contains ⟨serviceID, name, version⟩ then db.technologies
    else db.technologies ++ [⟨serviceID, name, version⟩]
  | _ => db.technologies

/-- **The asset graph is apart**: its statements leave every other table alone. -/
theorem exec_frame {out : Outside} {db db' : DB} {s : AssetStmt β} {b : β}
    (h : s.exec out db = some (b, db')) :
    db' = { db with
      domains := db'.domains, ipAddresses := db'.ipAddresses, domainIPs := db'.domainIPs
      domainIPObservations := db'.domainIPObservations, services := db'.services
      technologies := s.technologiesAfter db, findings := db'.findings } := by
  replace h := (exec_eq_some.mp h).2
  cases s with
  | upsertDomain | upsertFinding =>
    simp only [apply] at h
    split at h <;> cases h <;> rfl
  | upsertIP =>
    obtain ⟨a, _, ha⟩ := Option.map_eq_some_iff.mp h
    split at ha <;> cases ha <;> rfl
  | upsertDNSRecord | linkDomainIP | recordDomainIPObservation | upsertServiceObservation
  | insertTechnology | recordFindingObservation =>
    simp only [apply] at h
    split at h
    · cases h
    · cases h; rfl
  | upsertService =>
    simp only [apply] at h
    split at h
    · cases h
    · split at h <;> cases h <;> rfl
  | namesResolvingTo =>
    obtain ⟨_, _, hdb⟩ := Option.map_eq_some_iff.mp h
    cases hdb
    rfl
  | _ => cases h; rfl

end AssetStmt

/-- **What becomes of the asset graph**: no row is lost or taken for another, and a version that is
known stays. -/
structure DB.AssetsGrew (db db' : DB) : Prop where
  domains : db.domains.Grew (fun d => (d.scopeID, d.name)) db'.domains
  ipAddresses : db.ipAddresses.Grew (fun a => (a.scopeID, a.addr)) db'.ipAddresses
  shared : ∀ a ∈ db.ipAddresses.rows, ∃ a' ∈ db'.ipAddresses.rows, a'.id = a.id ∧
    a'.scopeID = a.scopeID ∧ a'.addr = a.addr ∧ (a.isShared = true → a'.isShared = true)
  services : db.services.Grew (fun s => (s.ipID, s.port, s.proto)) db'.services
  /-- A service is on an address that is there. -/
  placed : ∀ s ∈ db'.services.rows, (∃ s₀ ∈ db.services.rows, s₀.ipID = s.ipID) ∨
    (db.ipAddresses.find? s.ipID).isSome = true
  technologies : ∀ t ∈ db.technologies, t.version ≠ "" → t ∈ db'.technologies
  /-- A technology is old, or its service was there. -/
  behind : ∀ t ∈ db'.technologies, t ∈ db.technologies ∨
    (db.services.find? t.serviceID).isSome = true
  findings : db.findings.Grew (fun f => (f.scopeID, f.assetKind, f.assetID, f.kind, f.title))
    db'.findings

theorem DB.AssetsGrew.refl (db : DB) : db.AssetsGrew db where
  domains := .refl
  ipAddresses := .refl
  shared a ha := ⟨a, ha, rfl, rfl, rfl, id⟩
  services := .refl
  placed s hs := .inl ⟨s, hs, rfl⟩
  technologies _ ht _ := ht
  behind _ ht := .inl ht
  findings := .refl

/-- **Every statement is a step of this growth.** -/
theorem AssetStmt.exec_assets {β : Type} {out : Outside} {db db' : DB} {s : AssetStmt β} {b : β}
    (h : s.exec out db = some (b, db')) : db.AssetsGrew db' := by
  have hrefl := DB.AssetsGrew.refl db
  replace h := (exec_eq_some.mp h).2
  cases s with
  | upsertDomain =>
    simp only [apply] at h
    split at h <;> cases h
    · exact hrefl
    · rename_i hnone
      exact { hrefl with domains := Lib.Table.grew_insert rfl hnone fun r hr => by simpa using hr }
  | setWildcard =>
    cases h
    exact { hrefl with domains := Lib.Table.grew_update rfl fun _ => ⟨rfl, rfl⟩ }
  | upsertIP =>
    obtain ⟨a, -, ha⟩ := Option.map_eq_some_iff.mp h
    split at ha <;> cases ha
    · exact hrefl
    · rename_i hnone
      exact { hrefl with
        ipAddresses := Lib.Table.grew_insert rfl hnone fun r hr => by simpa using hr
        shared := fun a ha => ⟨a, List.mem_append_left _ ha, rfl, rfl, rfl, id⟩ }
  | enrichIP =>
    cases h
    refine { hrefl with
      ipAddresses := Lib.Table.grew_update rfl fun _ => ⟨rfl, rfl⟩
      shared := fun a ha => ?_ }
    refine ⟨_, List.mem_map_of_mem ha, ?_⟩
    dsimp only
    split
    · exact ⟨rfl, rfl, rfl, fun hs => by rw [hs]; rfl⟩
    · exact ⟨rfl, rfl, rfl, id⟩
  | upsertService =>
    simp only [apply] at h
    split at h
    · cases h
    · rename_i hip
      split at h <;> cases h
      -- a service seen before is touched; a new one needs its address
      · refine { hrefl with
          services := Lib.Table.grew_update rfl fun _ => ⟨rfl, rfl⟩
          placed := fun s hs => ?_ }
        obtain ⟨s₀, hs₀, rfl⟩ := List.mem_map.mp hs
        refine .inl ⟨s₀, hs₀, ?_⟩
        split <;> rfl
      · rename_i hnone
        refine { hrefl with
          services := Lib.Table.grew_insert rfl hnone fun r hr => by simpa [and_assoc] using hr
          placed := fun s hs => ?_ }
        rcases Lib.Table.mem_insert.mp hs with hs | rfl
        · exact .inl ⟨s, hs, rfl⟩
        · exact .inr (Option.isNone_eq_false_iff.mp (Bool.not_eq_true _ ▸ hip))
  | dropUnversioned =>
    cases h
    refine { hrefl with
      technologies := fun t ht hv => List.mem_filter.mpr ⟨ht, ?_⟩
      behind := fun t ht => .inl (List.mem_of_mem_filter ht) }
    simp [hv]
  | insertTechnology =>
    simp only [apply] at h
    split at h <;> cases h
    rename_i hservice
    refine { hrefl with technologies := fun t ht _ => ?_, behind := fun t ht => ?_ }
    · dsimp only
      split
      · exact ht
      · exact List.mem_append_left _ ht
    · dsimp only at ht
      split at ht
      · exact .inl ht
      · rcases List.mem_append.mp ht with ht | ht
        · exact .inl ht
        · rw [List.mem_singleton.mp ht]
          exact .inr (Option.isNone_eq_false_iff.mp (Bool.not_eq_true _ ▸ hservice))
  | upsertFinding =>
    simp only [apply] at h
    split at h <;> cases h
    · exact hrefl
    · rename_i hnone
      exact { hrefl with
        findings := Lib.Table.grew_insert rfl hnone fun r hr => by simpa [and_assoc] using hr }
  | recordDomainIPObservation | linkDomainIP | upsertDNSRecord | upsertServiceObservation
  | recordFindingObservation =>
    simp only [apply] at h
    split at h <;> cases h
    exact { hrefl with }
  | namesResolvingTo =>
    obtain ⟨_, -, hdb⟩ := Option.map_eq_some_iff.mp h
    cases hdb
    exact hrefl
  | touchTechnology | sharedAddresses =>
    cases h
    exact hrefl

end PinkGlasses
