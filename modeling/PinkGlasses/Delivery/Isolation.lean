import PinkGlasses.GatewaySystem
import PinkGlasses.Lib.Seq
import PinkGlasses.Store.Refs

/-!
# PinkGlasses.Delivery.Isolation

One observation that PostgreSQL cannot store should not cost **the others of its batch**. `Process`
skips an observation without an address for that reason, but it returns at the first statement that
is refused for any other, and then everything behind it is lost.

What is stored by itself is stored in a batch exactly if every observation before it is accepted
(`stored_iff_accepted`). Which those are is spelled out in `accepts`: the texts and numbers fit
their columns and the addresses are addresses. Only a technology without a version depends on more,
on whether the database knows a version of it.
-/

namespace PinkGlasses

open Lib Prog System Table

namespace Ingest

open Store

/-! ### Which observations are accepted -/

section Accepts

variable (out : Outside)

/-- Whether a service can be recorded. -/
def acceptsService (ip : String) (port : Int) (proto state : String) : Bool :=
  (out.inet ip).isSome && (int4 port && storable proto && storable state)

/-- The service an observation is about, or the number it will get. -/
def serviceAt (db : DB) (scopeID : UUID) (addr : String) (port : Int) : UUID :=
  (db.serviceOf ((db.ipOf scopeID addr).getD db.ipAddresses.next) port "tcp").getD db.services.next

/-- The database knows a version of the technology on the service. -/
def versioned (scopeID : UUID) (db : DB) (o : Observation) : Bool :=
  (out.inet o.ip).any fun a => db.technologies.any fun t =>
    t.serviceID == serviceAt db scopeID a o.port && t.name == o.techName && t.version != ""

/-- Whether `UpsertTechnology` succeeds. -/
def acceptsTechnology (known : Bool) (o : Observation) : Bool :=
  if o.techVersion = "" then
    storable o.techName && (known || (storable o.techCPE && int4 o.techConfidence))
  else storable o.techName &&
      (storable o.techVersion && storable o.techCPE && int4 o.techConfidence)

/-- **Whether `Process` goes on after an observation**, with this database. -/
def accepts (scopeID : UUID) (db : DB) (o : Observation) : Bool :=
  if needsAddress o.type && o.ip == "" then true
  else match o.type with
  -- what is recorded at best effort
  | .wildcard | .path | .finding => true
  | .subdomain => o.domain == "" || (storable (norm o.domain) && storable o.source)
  | .dnsRecord => storable (norm o.domain) && (storable o.rtype && storable o.value && int4 o.ttl &&
      (!decide (o.rtype = "A" ∨ o.rtype = "AAAA") || (out.inet o.value).isSome))
  | .ip => (out.inet o.ip).isSome
  | .service => acceptsService out o.ip o.port (if o.proto = "" then "tcp" else o.proto)
      (if o.state = "" then "open" else o.state)
  | .http => acceptsService out o.ip o.port "tcp" "open" && storableObs
      { host := norm o.host, product := o.product, version := o.version, http := httpDoc o }
  | .tls => acceptsService out o.ip o.port "tcp" "open" && storableObs { tls := tlsDoc o }
  | .tech => acceptsService out o.ip o.port "tcp" "open" &&
      acceptsTechnology (versioned out scopeID db o) o
  | .screenshot => acceptsService out o.ip o.port "tcp" "open" && storableObs
      { host := norm o.host, screenshotKey := o.screenshotKey }

/-- Whether a finding can be recorded. -/
def fitsFinding (kind severity title : String) (evidence : Doc) : Bool :=
  storable kind && storable severity && storable title && storableDoc evidence

/-- Whether every statement about an observation is executed, also those at best effort. -/
def fits (now : Time) (scopeID : UUID) (db : DB) (o : Observation) : Bool :=
  accepts out scopeID db o && (needsAddress o.type && o.ip == "" || match o.type with
  | .wildcard => o.domain == "" ||
      (storable (norm o.domain) && ((splitComma o.value).filter (· ≠ "")).all storable)
  | .ip => !decide (enrichment o ≠ {}) || storableEnrichment (enrichment o)
  | .service => !decide (o.state = "" ∨ o.state = "open") || storableObs
      { product := o.product, version := o.version, banner := o.banner }
  | .tls => (certFindings o.notAfter o.subjectCN o.issuer (norm o.host) now).all fun cf =>
      fitsFinding cf.kind cf.severity cf.title cf.evidence
  | .path => acceptsService out o.ip o.port "tcp" "open" && fitsFinding "content_discovery" "info"
      (titleOn ("Discovered path: " ++ o.path) o.host)
      [("path", .text o.path), ("status", .number o.status), ("host", .text (norm o.host))]
  | .finding => (!decide (o.ip ≠ "" ∧ o.port ≠ 0) || acceptsService out o.ip o.port "tcp" "open") &&
      fitsFinding o.findingKind (sev o.findingSeverity) (titleOn o.findingTitle o.host)
        [("banner", .text o.banner), ("host", .text (norm o.host))]
  | _ => true)

/-- Nothing is recorded for it. -/
def silent (o : Observation) : Bool :=
  (needsAddress o.type && o.ip == "") ||
    ((o.type == .wildcard || o.type == .subdomain) && o.domain == "")

end Accepts

/-! ### One observation -/

section One

variable {α : Type} {cfg : GatewayConfig} {out : Outside} {env : Env} {db : DB}

/-- A function of `Process`, judged by what it does to the asset graph. -/
abbrev Verdict (cfg : GatewayConfig) (out : Outside) (env : Env) (db : DB) (x : Go α)
    (goes clean : Bool) (Q : α → DB → Prop) : Prop :=
  System.Judged Kept env (gatewaySystem cfg out) db x goes clean Q

/-- A function that goes on exactly if all its statements are executed. -/
abbrev Whole (cfg : GatewayConfig) (out : Outside) (env : Env) (db : DB) (x : Go α) (acc : Bool)
    (Q : α → DB → Prop) : Prop := Verdict cfg out env db x acc acc Q

theorem verdict_pure (a : α) :
    Verdict cfg out env db (pure a) true true fun a' db' => a' = a ∧ db' = db :=
  judged_pure Kept.refl ⟨rfl, rfl⟩

theorem verdict_return (a : α) : Verdict cfg out env db (pure a) true true fun _ _ => True :=
  (verdict_pure a).imp fun _ _ _ _ => trivial

variable {acc g c : Bool} {γ : Type} {runID scopeID : UUID} {db' : DB} {o : Observation}

theorem verdict_exec {s : AssetStmt α} {Q : α → DB → Prop}
    (hrefs : ∀ r ∈ s.refs, db.has r.1 r.2 = true) (hs : s.accepted out = acc)
    (hQ : ∀ b db', s.exec out db = some (b, db') → Q b db') :
    Whole cfg out env db (Go.exec (.asset s)) acc Q := by
  subst hs
  have hsome : (s.exec out db).isSome = s.accepted out := AssetStmt.exec_isSome hrefs
  refine judged_query Kept.refl (fun hacc => ?_) fun hacc => ?_
  · rw [hacc, Option.isSome_iff_exists] at hsome
    obtain ⟨⟨b, db'⟩, hexec⟩ := hsome
    exact ⟨b, db', hexec, AssetStmt.exec_kept hexec, hQ b db' hexec⟩
  · rw [hacc] at hsome
    exact Option.isSome_eq_false_iff.mp hsome |> Option.isNone_iff_eq_none.mp

theorem verdict_try {s : AssetStmt α} (hrefs : ∀ r ∈ s.refs, db.has r.1 r.2 = true)
    (hs : s.accepted out = acc) :
    Verdict cfg out env db (Go.try (.asset s)) true acc fun _ _ => True := by
  refine (verdict_exec hrefs hs fun _ _ _ => trivial).handled Except.toOption ?_
  exact congrArg (Prog.call _) (funext fun r => by cases r <;> rfl)

theorem Verdict.congr {x : Go α} {g' c' : Bool} {Q : α → DB → Prop}
    (hx : Verdict cfg out env db x g c Q) (hg : g = g') (hc : c = c') :
    Verdict cfg out env db x g' c' Q := hg ▸ hc ▸ hx

theorem Verdict.then {x : Go α} {f : α → Go γ} {g' c' : Bool} {Q : α → DB → Prop}
    {Q' : γ → DB → Prop} (hx : Verdict cfg out env db x g c Q)
    (hf : ∀ a db', Kept db db' → Q a db' → Verdict cfg out env db' (f a) g' c' Q') :
    Verdict cfg out env db (x >>= f) (g && g') (c && c') Q' :=
  System.Judged.bind (K := Kept) Kept.trans hx hf

theorem Verdict.ignored {x : Go α} {Q : α → DB → Prop} (hx : Verdict cfg out env db x g c Q) :
    Verdict cfg out env db (ignore x) true c fun _ _ => True :=
  hx.handled (fun _ => ()) rfl

theorem Verdict.orNil {x : Go UUID} {Q : UUID → DB → Prop} (hx : Verdict cfg out env db x g c Q) :
    Verdict cfg out env db (orNil x) true c fun _ _ => True :=
  hx.handled _ rfl

theorem upsertDomain_verdict (scopeID : UUID) {name source : String} (h : storable source = true) :
    Whole cfg out env db (Go.exec (.asset (.upsertDomain scopeID name source))) (storable name)
      fun id db' => db'.has .domain id = true :=
  verdict_exec nofun (by simp [AssetStmt.accepted, AssetStmt.storable, h]) fun _ _ =>
    AssetStmt.upsertDomain_has

theorem upsertIP_verdict (scopeID : UUID) (ip : String) :
    Whole cfg out env db (Go.exec (.asset (.upsertIP scopeID ip))) (out.inet ip).isSome
      fun id db' => db'.has .ip id = true ∧
        db'.services = db.services ∧ db'.technologies = db.technologies ∧
        ∃ a, out.inet ip = some a ∧ id = (db.ipOf scopeID a).getD db.ipAddresses.next := by
  refine verdict_exec nofun rfl fun id db' hexec => ?_
  obtain ⟨a, ha, -⟩ := Option.map_eq_some_iff.mp (AssetStmt.exec_eq_some.mp hexec).2
  obtain ⟨hid, hhas, hservices, htech⟩ := AssetStmt.upsertIP_answer ha hexec
  exact ⟨hhas, hservices, htech, a, ha, hid⟩

/-- The service is recorded if it can be, under the number it has or gets. -/
theorem serviceID_verdict (scopeID : UUID) (ip : String) (port : Int) (proto state : String) :
    Whole cfg out env db (serviceID scopeID ip port proto state)
      (acceptsService out ip port (if proto = "" then "tcp" else proto)
        (if state = "" then "open" else state))
      fun id db' => db'.has .service id = true ∧ db'.technologies = db.technologies ∧
        ∃ a, out.inet ip = some a ∧ ((if proto = "" then "tcp" else proto) = "tcp" →
          id = serviceAt db scopeID a port) := by
  refine (upsertIP_verdict scopeID ip).then
    fun ipID db₁ _ ⟨hhas, hservices, htech, a, ha, hid⟩ => ?_
  refine (verdict_exec (s := .upsertService ipID port _ _) ?_ rfl fun svcID db₂ hexec => ?_)
  · simpa [AssetStmt.refs] using hhas
  · obtain ⟨hsvc, hhas₂, htech₂⟩ := AssetStmt.upsertService_answer hexec
    refine ⟨hhas₂, htech₂.trans htech, a, ha, fun htcp => ?_⟩
    rw [hsvc, htcp, hid, serviceAt]
    unfold DB.serviceOf
    rw [hservices]

theorem webServiceID_verdict (scopeID : UUID) (ip : String) (port : Int) :
    Whole cfg out env db (serviceID scopeID ip port "tcp" "open")
      (acceptsService out ip port "tcp" "open")
      fun id db' => db'.has .service id = true ∧ db'.technologies = db.technologies ∧
        ∃ a, out.inet ip = some a ∧ id = serviceAt db scopeID a port :=
  (serviceID_verdict scopeID ip port "tcp" "open").imp fun _ _ _ ⟨hhas, htech, a, ha, hid⟩ =>
    ⟨hhas, htech, a, ha, hid rfl⟩

/-- Whether the service has a version of the technology. -/
def knows (db : DB) (svcID : UUID) (name : String) : Bool :=
  db.technologies.any fun t => t.serviceID == svcID && t.name == name && t.version != ""

theorem upsertTechnology_verdict {svcID : UUID} (hsvc : db.has .service svcID = true)
    (o : Observation) : Whole cfg out env db
      (upsertTechnology svcID o.techName o.techVersion o.techCPE o.techConfidence)
      (acceptsTechnology (knows db svcID o.techName) o) fun _ _ => True := by
  have hinsert : ∀ db', Kept db db' →
      Whole cfg out env db' (Go.exec (.asset (.insertTechnology svcID o.techName o.techVersion
        o.techCPE o.techConfidence)))
        (storable o.techName && storable o.techVersion && storable o.techCPE &&
          int4 o.techConfidence)
        fun _ _ => True := by
    intro db' hkept
    refine verdict_exec ?_ rfl fun _ _ _ => trivial
    simpa [AssetStmt.refs] using hkept.has _ _ hsvc
  unfold upsertTechnology acceptsTechnology
  -- without a version a known technology is only touched
  by_cases hversion : o.techVersion = ""
  · rw [if_pos hversion, if_pos hversion]
    have htouch : Whole cfg out env db (Go.exec (.asset (.touchTechnology svcID o.techName)))
        (storable o.techName) fun n db' => (0 < n ↔ knows db svcID o.techName = true) := by
      refine verdict_exec (List.forall_mem_nil _) rfl fun n db' hexec => ?_
      cases (AssetStmt.exec_eq_some.mp hexec).2
      simp [knows, List.length_pos_iff_exists_mem]
    have hrest : ∀ n db', Kept db db' → (0 < n ↔ knows db svcID o.techName = true) →
        Whole cfg out env db' (if 0 < n then pure () else Go.exec (.asset (.insertTechnology svcID
          o.techName o.techVersion o.techCPE o.techConfidence)))
          (knows db svcID o.techName || (storable o.techName && storable o.techVersion &&
            storable o.techCPE && int4 o.techConfidence)) fun _ _ => True := by
      intro n db' hkept hn
      by_cases hpos : 0 < n
      · rw [if_pos hpos, hn.mp hpos]
        exact verdict_return ()
      · rw [if_neg hpos, Bool.eq_false_iff.mpr fun hknown => hpos (hn.mpr hknown)]
        exact hinsert db' hkept
    have hempty : storable o.techVersion = true := by rw [hversion]; decide
    refine (htouch.then hrest).congr ?_ ?_
    all_goals
      rw [hempty]
      cases storable o.techName <;> simp
  · rw [if_neg hversion, if_neg hversion]
    -- with one, the row that has none goes first
    have hdrop : Whole cfg out env db (Go.exec (.asset (.dropUnversioned svcID o.techName)))
        (storable o.techName) fun _ _ => True :=
      verdict_exec (List.forall_mem_nil _) rfl fun _ _ _ => trivial
    refine (hdrop.then fun _ db' hkept _ => hinsert db' hkept).congr ?_ ?_
    all_goals cases storable o.techName <;> simp

theorem finding_verdict (hrun : db.has .run runID = true) (scopeID assetID : UUID)
    (kind severity title : String) (evidence : Doc) :
    Verdict cfg out env db (finding runID scopeID assetID "service" kind severity title evidence)
      true (fitsFinding kind severity title evidence) fun _ _ => True := by
  have hupsert : Whole cfg out env db (Go.exec (.asset (.upsertFinding scopeID assetID "service"
      kind severity title evidence))) (fitsFinding kind severity title evidence) fun id db' =>
        db'.has .finding id = true :=
    verdict_exec nofun rfl fun _ _ => AssetStmt.upsertFinding_has
  have hrecord : ∀ id db', Kept db db' → db'.has .finding id = true → Whole cfg out env db'
      (Go.exec (.asset (.recordFindingObservation id runID severity evidence)))
      (storable severity && storableDoc evidence) fun _ _ => True := by
    intro id db' hkept hid
    refine verdict_exec ?_ rfl fun _ _ _ => trivial
    simpa [AssetStmt.refs] using ⟨hid, hkept.has _ _ hrun⟩
  refine (hupsert.then hrecord).ignored.congr rfl ?_
  unfold fitsFinding
  cases storable severity <;> cases storableDoc evidence <;> simp

theorem markWildcard_verdict (scopeID : UUID) (name : String) (ips : List String) :
    Verdict cfg out env db (ignore (markWildcard scopeID name ips)) true
      (storable name && (ips.filter (· ≠ "")).all storable) fun _ _ => True := by
  have hmark : ∀ id db', Kept db db' → db'.has .domain id = true → Verdict cfg out env db'
      (Go.exec (.asset (.setWildcard id))) true true fun _ db₂ => db₂.has .domain id = true :=
    fun id db' _ hid => verdict_exec nofun rfl fun _ _ hexec =>
      (AssetStmt.exec_kept hexec).has _ _ hid
  have hrecords : ∀ id db' (ips : List String), db'.has .domain id = true →
      Whole cfg out env db'
        (ips.forM fun ip => Go.exec (.asset (.upsertDNSRecord id "WILDCARD" ip 0)))
        (ips.all storable) fun _ _ => True := by
    intro id db' ips hid
    -- each record is a statement of its own, on a name that stays
    induction ips generalizing db' with
    | nil => exact verdict_return ()
    | cons ip ips ih =>
      have hone : Whole cfg out env db' (Go.exec (.asset (.upsertDNSRecord id "WILDCARD" ip 0)))
          (storable ip) fun _ _ => True :=
        verdict_exec (by simpa [AssetStmt.refs] using hid) (Bool.and_true _) fun _ _ _ => trivial
      exact hone.then fun _ db₂ hkept _ => ih db₂ (hkept.has _ _ hid)
  refine Verdict.ignored (Verdict.congr
    ((upsertDomain_verdict scopeID (by decide)).then fun id db' hkept hid =>
    (hmark id db' hkept hid).then fun _ db₂ _ hid₂ => hrecords id db₂ _ hid₂) rfl ?_)
  rw [Bool.true_and]

theorem Verdict.done {x : Go α} {Q : α → DB → Prop} (hx : Verdict cfg out env db x g c Q)
    (y : α → γ) : Verdict cfg out env db (x >>= fun a => pure (y a)) g c fun _ _ => True :=
  (hx.then fun a _ _ _ => verdict_return (y a)).congr (Bool.and_true g) (Bool.and_true c)

theorem verdict_ite {P : Prop} [Decidable P] {x y : Go α} {Q : α → DB → Prop}
    (hx : P → Verdict cfg out env db x g c Q) (hy : Verdict cfg out env db y true true Q) :
    Verdict cfg out env db (if P then x else y) (!decide P || g) (!decide P || c) Q := by
  by_cases hP : P
  · rw [if_pos hP, decide_eq_true hP]
    exact hx hP
  · rw [if_neg hP, decide_eq_false hP]
    exact hy

theorem verdict_optional {δ : Type} {P : Prop} [Decidable P] {s : AssetStmt δ} (y : γ)
    (hrefs : ∀ r ∈ s.refs, db.has r.1 r.2 = true) (hs : s.accepted out = acc) :
    Verdict cfg out env db (if P then (do let _ ← Go.try (.asset s); pure y) else pure y) true
      (!decide P || acc) fun _ _ => True :=
  (verdict_ite (fun _ => (verdict_try hrefs hs).done fun _ => y) (verdict_return y)).congr
    (Bool.or_true _) rfl

theorem dnsRecord_verdict (hrun : db.has .run runID = true) (scopeID : UUID) (sum : StageSummary)
    (o : Observation) : Whole cfg out env db (do
        let domID ← Go.exec (.asset (.upsertDomain scopeID (norm o.domain) "dns"))
        Go.exec (.asset (.upsertDNSRecord domID o.rtype o.value o.ttl))
        if o.rtype = "A" ∨ o.rtype = "AAAA" then
          let ipID ← Go.exec (.asset (.upsertIP scopeID o.value))
          Go.exec (.asset (.linkDomainIP domID ipID o.rtype))
          let _ ← Go.try (.asset (.recordDomainIPObservation domID ipID runID))
          return { sum with ips := addOnce sum.ips o.value }
        pure sum)
      (storable (norm o.domain) && (storable o.rtype && storable o.value && int4 o.ttl &&
        (!decide (o.rtype = "A" ∨ o.rtype = "AAAA") || (out.inet o.value).isSome)))
      fun _ _ => True := by
  refine (upsertDomain_verdict scopeID (by decide)).then fun domID db₁ hkept₁ hdom =>
    (verdict_exec (Q := fun _ _ => True) (by simpa [AssetStmt.refs] using hdom) rfl fun _ _ _ =>
      trivial).then fun _ db₂ hkept₂ _ => verdict_ite (fun hA => ?_) (verdict_return sum)
  -- an address record has a type that can be stored
  have hrtype : storable o.rtype = true := by
    rcases hA with hA | hA
    · rw [hA]; decide
    · rw [hA]; decide
  have hdom₂ := hkept₂.has _ _ hdom
  refine ((upsertIP_verdict scopeID o.value).then fun ipID db₃ hkept₃ hip =>
    (verdict_exec (s := .linkDomainIP domID ipID o.rtype) (Q := fun _ _ => True) ?_ hrtype
      fun _ _ _ => trivial).then fun _ db₄ hkept₄ _ => (verdict_try
        (s := .recordDomainIPObservation domID ipID runID) ?_ rfl).done _).congr
    (Bool.and_true _) (Bool.and_true _)
  · simpa [AssetStmt.refs] using ⟨hkept₃.has _ _ hdom₂, hip.1⟩
  · have hkept := hkept₃.trans hkept₄
    simpa [AssetStmt.refs] using ⟨hkept.has _ _ hdom₂, hkept₄.has _ _ hip.1,
      ((hkept₁.trans hkept₂).trans hkept).has _ _ hrun⟩

/-- **`Process` goes on after an observation exactly if it is accepted.** -/
theorem processOne_verdict (hrun : db.has .run runID = true) (now : Time) (scopeID : UUID)
    (sum : StageSummary) (o : Observation) :
    Verdict cfg out env db (processOne now scopeID runID sum o) (accepts out scopeID db o)
      (fits out now scopeID db o) fun _ _ => True := by
  have hservice : Verdict cfg out env db (serviceID scopeID o.ip o.port "tcp" "open") _ _ _ :=
    webServiceID_verdict scopeID o.ip o.port
  -- a service observation that must be stored
  have hrecord : ∀ svcID db' (so : ServiceObs), Kept db db' → db'.has .service svcID = true →
      Whole cfg out env db' (Go.exec (.asset (.upsertServiceObservation svcID runID so)))
        (storableObs so) fun _ _ => True := by
    intro svcID db' so hkept hsvc
    refine verdict_exec ?_ rfl fun _ _ _ => trivial
    simpa [AssetStmt.refs] using ⟨hsvc, hkept.has _ _ hrun⟩
  unfold processOne accepts fits accepts
  by_cases hskip : (needsAddress o.type && o.ip == "") = true
  · rw [if_pos hskip, if_pos hskip, hskip]
    exact verdict_return sum
  · rw [if_neg hskip, if_neg hskip, Bool.eq_false_iff.mpr hskip]
    cases o.type with
    | wildcard =>
      by_cases hdomain : o.domain = ""
      · simpa [hdomain] using verdict_return sum
      · rw [if_pos hdomain]
        refine ((markWildcard_verdict scopeID (norm o.domain) (splitComma o.value)).done
          fun _ => sum).congr rfl ?_
        simp [hdomain]
    | subdomain =>
      by_cases hdomain : o.domain = ""
      · simpa [hdomain] using verdict_return sum
      · have hupsert : Whole cfg out env db
            (Go.exec (.asset (.upsertDomain scopeID (norm o.domain) o.source)))
            (storable (norm o.domain) && storable o.source) fun _ _ => True :=
          verdict_exec (List.forall_mem_nil _) rfl fun _ _ _ => trivial
        rw [if_neg hdomain]
        refine (hupsert.done fun _ => addDomain sum o).congr ?_ ?_ <;> simp [hdomain]
    | dnsRecord => exact (dnsRecord_verdict hrun scopeID sum o).congr rfl (Bool.and_true _).symm
    | ip =>
      refine ((upsertIP_verdict scopeID o.ip).then fun _ _ _ _ =>
        verdict_optional _ ?_ ?_).congr (Bool.and_true _) rfl
      · exact List.forall_mem_nil _
      · rfl
    | service =>
      refine ((serviceID_verdict scopeID o.ip o.port o.proto o.state).then
        fun svcID db' hkept hsvc => verdict_optional _ ?_ ?_).congr (Bool.and_true _) rfl
      · simpa [AssetStmt.refs] using ⟨hsvc.1, hkept.has _ _ hrun⟩
      · rfl
    | tls =>
      have hfindings : ∀ svcID db' (cfs : List CertFinding), db'.has .run runID = true →
          Verdict cfg out env db' (cfs.forM fun cf => finding runID scopeID svcID "service" cf.kind
            cf.severity cf.title cf.evidence) true
            (cfs.all fun cf => fitsFinding cf.kind cf.severity cf.title cf.evidence)
            fun _ _ => True := by
        intro svcID db' cfs hrun'
        induction cfs generalizing db' with
        | nil => exact verdict_return ()
        | cons cf cfs ih =>
          exact (finding_verdict hrun' scopeID svcID cf.kind cf.severity cf.title cf.evidence).then
            fun _ db₂ hkept _ => ih db₂ (hkept.has _ _ hrun')
      refine (hservice.then fun svcID db' hkept hsvc => (hrecord svcID db' _ hkept hsvc.1).then
        fun _ db₂ hkept₂ _ => (hfindings svcID db₂ _
          ((hkept.trans hkept₂).has _ _ hrun)).done fun _ => sum).congr ?_ ?_
      · rw [Bool.and_true]
      · rw [Bool.false_or, Bool.and_assoc]
    | tech =>
      have htech : ∀ svcID db', db'.has .service svcID = true ∧ db'.technologies = db.technologies ∧
          (∃ a, out.inet o.ip = some a ∧ svcID = serviceAt db scopeID a o.port) →
          Whole cfg out env db' (upsertTechnology svcID o.techName o.techVersion o.techCPE
            o.techConfidence) (acceptsTechnology (versioned out scopeID db o) o)
            fun _ _ => True := by
        rintro svcID db' ⟨hsvc, htech, a, ha, hid⟩
        have hknown : versioned out scopeID db o = knows db' svcID o.techName := by
          rw [versioned, ha, knows, htech, hid]
          rfl
        rw [hknown]
        exact upsertTechnology_verdict hsvc o
      exact (hservice.then fun svcID db' _ hsvc => (htech svcID db' hsvc).done
        fun _ => sum).congr rfl (Bool.and_true _).symm
    | path =>
      have hpath := (hservice.then fun svcID db' hkept _ => finding_verdict (hkept.has _ _ hrun)
        scopeID svcID "content_discovery" "info" (titleOn ("Discovered path: " ++ o.path) o.host)
        [("path", .text o.path), ("status", .number o.status), ("host", .text (norm o.host))])
      exact (hpath.ignored.done fun _ => sum).congr rfl rfl
    | finding =>
      have hasset := verdict_ite (P := o.ip ≠ "" ∧ o.port ≠ 0) (fun _ => hservice.imp
        fun _ _ _ _ => trivial) (verdict_return uuidNil)
      exact (hasset.orNil.then fun assetID db' hkept _ => (finding_verdict (hkept.has _ _ hrun)
        scopeID assetID o.findingKind (sev o.findingSeverity) (titleOn o.findingTitle o.host)
        [("banner", .text o.banner), ("host", .text (norm o.host))]).done fun _ => sum).congr
          rfl rfl
    | http | screenshot =>
      exact (hservice.then fun svcID db' hkept hsvc =>
        (hrecord svcID db' _ hkept hsvc.1).done _).congr rfl (Bool.and_true _).symm

theorem processOne_finished (now : Time) (scopeID runID : UUID) (sum : StageSummary)
    (o : Observation) : (processOne now scopeID runID sum o).run.finished = silent o := by
  unfold processOne silent
  -- without its address an observation is skipped before its type is looked at
  by_cases hskip : (needsAddress o.type && o.ip == "") = true
  · rw [if_pos hskip, hskip]
    rfl
  · rw [if_neg hskip, Bool.eq_false_iff.mpr hskip]
    cases o.type with
    | wildcard | subdomain =>
      by_cases hdomain : o.domain = ""
      · simp only [hdomain]
        rfl
      · simp only [hdomain, ne_eq, not_false_eq_true, if_true, beq_eq_false_iff_ne.mpr hdomain]
        rfl
    | finding =>
      dsimp only
      split <;> rfl
    | _ => rfl

/-! ### What an observation needs stays -/

theorem versioned_mono (hdb : db.Referential) (hkept : Kept db db')
    (hknown : versioned out scopeID db o = true) : versioned out scopeID db' o = true := by
  obtain ⟨a, ha, hany⟩ := (Option.any_eq_true _ _).mp hknown
  obtain ⟨t, ht, hmatch⟩ := List.any_eq_true.mp hany
  simp only [Bool.and_eq_true, beq_iff_eq, bne_iff_ne] at hmatch
  obtain ⟨⟨hservice, hname⟩, hversion⟩ := hmatch
  -- the technology's service is there, so it is no number still to be given, nor is its address
  have hhas := hdb.technology t ht
  rw [hservice] at hhas
  have hsame : serviceAt db' scopeID a o.port = serviceAt db scopeID a o.port := by
    unfold serviceAt at hhas ⊢
    cases hsvc : db.serviceOf ((db.ipOf scopeID a).getD db.ipAddresses.next) o.port "tcp" with
    | none =>
      rw [hsvc] at hhas
      exact absurd (lt_next_of_isSome hhas) (lt_irrefl _)
    | some svcID =>
      obtain ⟨row, hrow, hplace, -⟩ := exists_of_keyOf hsvc
      simp only [Bool.and_eq_true, beq_iff_eq] at hplace
      have hip := hdb.service row hrow
      rw [hplace.1.1] at hip
      cases hipOf : db.ipOf scopeID a with
      | none =>
        rw [hipOf] at hip
        exact absurd (lt_next_of_isSome hip) (lt_irrefl _)
      | some ipID =>
        rw [hipOf, Option.getD_some] at hsvc
        rw [hkept.ip _ _ _ hipOf, Option.getD_some, hkept.service _ _ _ _ hsvc]
        rfl
  refine (Option.any_eq_true _ _).mpr ⟨a, ha, List.any_eq_true.mpr ⟨t, ?_, ?_⟩⟩
  · exact hkept.technology t ht hversion
  · simp only [Bool.and_eq_true, beq_iff_eq, bne_iff_ne]
    exact ⟨⟨hservice.trans hsame.symm, hname⟩, hversion⟩

theorem acceptsTechnology_mono {known known' : Bool} (hknown : known = true → known' = true)
    (hacc : acceptsTechnology known o = true) : acceptsTechnology known' o = true := by
  unfold acceptsTechnology at hacc ⊢
  split
  · rename_i hversion
    rw [if_pos hversion] at hacc
    simp only [Bool.and_eq_true, Bool.or_eq_true] at hacc ⊢
    exact ⟨hacc.1, hacc.2.imp_left hknown⟩
  · rename_i hversion
    rwa [if_neg hversion] at hacc

theorem accepts_mono (hdb : db.Referential) (hkept : Kept db db')
    (hacc : accepts out scopeID db o = true) : accepts out scopeID db' o = true := by
  unfold accepts at hacc ⊢
  split
  · rfl
  · rename_i hskip
    rw [if_neg hskip] at hacc
    cases htype : o.type with
    | tech =>
      rw [htype] at hacc
      simp only [Bool.and_eq_true] at hacc ⊢
      exact ⟨hacc.1, acceptsTechnology_mono (versioned_mono hdb hkept) hacc.2⟩
    | wildcard | path | finding => rfl
    | _ =>
      rw [htype] at hacc
      exact hacc

theorem fits_mono {now : Time} (hdb : db.Referential) (hkept : Kept db db')
    (hfits : fits out now scopeID db o = true) : fits out now scopeID db' o = true := by
  unfold fits at hfits ⊢
  rw [Bool.and_eq_true] at hfits ⊢
  exact ⟨accepts_mono hdb hkept hfits.1, hfits.2⟩

end One

/-! ### A batch -/

section Batch

variable (cfg : GatewayConfig) (out : Outside) (env : Env) (now : Time) (runID : UUID)

/-- `Process`, served alone: what it called, the database it leaves and what it returns. -/
def served (db : DB) (obs : List Observation) : Hist Stmt × DB × Except String StageSummary :=
  (gatewaySystem cfg out).serve env [] db (process now runID obs).run

/-- The database as `Process` comes to an observation. -/
def dbBefore (db : DB) (obs : List Observation) (k : Nat) : DB :=
  (served cfg out env now runID db (obs.take k)).2.1

/-- The company of the run. -/
def scopeOf (db : DB) : UUID := (db.runs.find? runID).elim uuidNil (·.scopeID)

/-- Everything that was called was executed, and something was. -/
def Recorded (calls : Hist Stmt) : Prop := calls ≠ [] ∧ ∀ c ∈ calls, c.answer.isSome = true

/-- **`Process` stores observation `i`**: it comes to it, and every statement it issues for it is
executed. -/
def Stores (db : DB) (obs : List Observation) (i : Nat) : Prop :=
  ∃ o sum, obs[i]? = some o ∧ (served cfg out env now runID db (obs.take i)).2.2 = .ok sum ∧
    Recorded ((gatewaySystem cfg out).serve env [] (dbBefore cfg out env now runID db obs i)
      (processOne now (scopeOf runID db) runID sum o).run).1

instance (calls : Hist Stmt) : Decidable (Recorded calls) :=
  decidable_of_iff (calls.isEmpty = false ∧ ∀ c ∈ calls, c.answer.isSome = true) <| by
    rw [Recorded, List.isEmpty_eq_false_iff]

instance (db : DB) (obs : List Observation) (i : Nat) :
    Decidable (Stores cfg out env now runID db obs i) :=
  match ho : obs[i]?, hr : (served cfg out env now runID db (obs.take i)).2.2 with
  | some o, .ok sum => decidable_of_iff (Recorded ((gatewaySystem cfg out).serve env []
      (dbBefore cfg out env now runID db obs i)
      (processOne now (scopeOf runID db) runID sum o).run).1) <| by
    simp [Stores, ho, hr]
  | none, _ => isFalse <| by simp [Stores, ho]
  | some _, .error _ => isFalse <| by simp [Stores, hr]

variable {cfg out env now runID} {db : DB}

/-- One observation, served alone. -/
abbrev servedOne (cfg : GatewayConfig) (out : Outside) (env : Env) (now : Time)
    (scopeID runID : UUID)
    (db : DB) (sum : StageSummary) (o : Observation) :
    Hist Stmt × DB × Except String StageSummary :=
  (gatewaySystem cfg out).serve env [] db (processOne now scopeID runID sum o).run

/-- The loop over the observations, served alone. -/
def servedAll (cfg : GatewayConfig) (out : Outside) (env : Env) (now : Time) (scopeID runID : UUID)
    (db : DB) (sum : StageSummary) (obs : List Observation) : DB × Except String StageSummary :=
  ((gatewaySystem cfg out).serve env [] db (processAll now scopeID runID sum obs).run).2

/-- `Process` looks the run up and loops. -/
theorem served_eq {run : ScanRun} (hrun : db.runs.find? runID = some run)
    (obs : List Observation) : served cfg out env now runID db obs =
      (((gatewaySystem cfg out).serve env [] db
          (processAll now (scopeOf runID db) runID {} obs).run).1 ++
            [⟨.run (.getRun runID), some run⟩],
        servedAll cfg out env now (scopeOf runID db) runID db {} obs) := by
  have hget : (gatewaySystem cfg out).exec (.run (.getRun runID)) env db = some (run, db) := by
    show (db.runs.find? runID).map (·, db) = some (run, db)
    rw [hrun]
    rfl
  have hscope : scopeOf runID db = run.scopeID := by
    rw [scopeOf, hrun]
    rfl
  have hserve : (gatewaySystem cfg out).serve env [] db (Go.exec (.run (.getRun runID))).run =
      ([⟨.run (.getRun runID), some run⟩], db, .ok run) := serve_call_some hget
  have hok : ((gatewaySystem cfg out).serve env [] db
      (Go.exec (.run (.getRun runID))).run).2.2 = .ok run := by rw [hserve]
  rw [served, process, serve_bind_ok hok, hserve, hscope]
  rfl

theorem served_error (hrun : db.runs.find? runID = none) (obs : List Observation) :
    (served cfg out env now runID db obs).2.2 = .error dbError := by
  have hget : (gatewaySystem cfg out).exec (.run (.getRun runID)) env db = none := by
    show (db.runs.find? runID).map (·, db) = none
    rw [hrun]
    rfl
  have hserve : (gatewaySystem cfg out).serve env [] db (Go.exec (.run (.getRun runID))).run =
      ([⟨.run (.getRun runID), none⟩], db, .error dbError) := serve_call_none hget
  have herror : ((gatewaySystem cfg out).serve env [] db
      (Go.exec (.run (.getRun runID))).run).2.2 = .error dbError := by rw [hserve]
  rw [served, process, serve_bind_error herror]

section Loop

variable {scopeID : UUID} {sum sum' : StageSummary} {o : Observation} {obs : List Observation}

theorem servedAll_cons_ok
    (hone : (servedOne cfg out env now scopeID runID db sum o).2.2 =
      .ok sum') : servedAll cfg out env now scopeID runID db sum (o :: obs) =
        servedAll cfg out env now scopeID runID
          (servedOne cfg out env now scopeID runID db sum o).2.1
          sum' obs := by
  rw [servedAll, processAll, serve_bind_ok hone]
  rfl

theorem servedAll_cons_error {e : String}
    (hone : (servedOne cfg out env now scopeID runID db sum o).2.2 =
      .error e) : servedAll cfg out env now scopeID runID db sum (o :: obs) =
        ((servedOne cfg out env now scopeID runID db sum o).2.1,
          .error e) := by
  rw [servedAll, processAll, serve_bind_error hone]

/-- **The loop ends without an error exactly if every observation is accepted** as it comes to
it. -/
theorem servedAll_ok_iff (hrun : db.has .run runID = true) :
    (∃ sum', (servedAll cfg out env now scopeID runID db sum obs).2 = .ok sum') ↔
      ∀ k o', obs[k]? = some o' →
        accepts out scopeID (servedAll cfg out env now scopeID runID db sum (obs.take k)).1 o' =
          true := by
  induction obs generalizing db sum with
  | nil => exact ⟨fun _ k o' h => by simp at h, fun _ => ⟨sum, rfl⟩⟩
  | cons o obs ih =>
    have hv : Verdict cfg out env db (processOne now scopeID runID sum o) _ _ _ :=
      processOne_verdict hrun now scopeID sum o
    cases hone : (servedOne cfg out env now scopeID runID db sum o).2.2 with
    | ok sum' =>
      rw [servedAll_cons_ok hone, ih (hv.frame.has _ _ hrun)]
      constructor
      -- the first is accepted where the loop starts, the others behind it
      · intro hrest k o' ho'
        cases k with
        | zero =>
          cases ho'
          exact (hv.ok sum' hone).1
        | succ k =>
          rw [List.take_succ_cons, servedAll_cons_ok hone]
          exact hrest k o' ho'
      · intro hall k o' ho'
        have hnext := hall (k + 1) o' ho'
        rwa [List.take_succ_cons, servedAll_cons_ok hone] at hnext
    | error e =>
      rw [servedAll_cons_error hone]
      refine ⟨fun hok => ?_, fun hall => ?_⟩
      · obtain ⟨_, hok⟩ := hok
        cases hok
      · have hfirst : accepts out scopeID db o = true := hall 0 o rfl
        rw [hv.error e hone] at hfirst
        cases hfirst

theorem servedAll_kept : Kept db (servedAll cfg out env now scopeID runID db sum obs).1 := by
  have huses : Prog.Uses (fun _ s => ∃ a, s = .asset a)
      (processAll now scopeID runID sum obs).run :=
    processAll_uses (fun _ a _ => ⟨a, rfl⟩) (fun _ _ _ => ⟨_, rfl⟩) now scopeID runID sum obs
  refine runs_uses huses (runs_serve _ env [] db _) Kept Kept.refl Kept.trans ?_
  rintro β s o db b db' ⟨a, rfl⟩ hexec
  exact AssetStmt.exec_kept hexec

theorem recorded_iff (hrun : db.has .run runID = true) :
    Recorded (servedOne cfg out env now scopeID runID db sum o).1 ↔
      silent o = false ∧ fits out now scopeID db o = true := by
  have hv : Verdict cfg out env db (processOne now scopeID runID sum o) _ _ _ :=
    processOne_verdict hrun now scopeID sum o
  unfold Recorded
  rw [hv.calls, Ne, serve_calls_eq_nil, processOne_finished, Bool.not_eq_true]

end Loop

/-- **An observation that is stored by itself is stored in a batch exactly if every observation
before it is accepted.** -/
theorem stored_iff_accepted (cfg : GatewayConfig) (out : Outside) (env : Env) (now : Time)
    (runID : UUID) (db : DB) (hdb : db.Referential) (obs : List Observation) (i : Nat)
    (o : Observation) (hi : obs[i]? = some o) (hone : Stores cfg out env now runID db [o] 0) :
    Stores cfg out env now runID db obs i ↔ ∀ k < i, ∀ o', obs[k]? = some o' →
      accepts out (scopeOf runID db) (dbBefore cfg out env now runID db obs k) o' = true := by
  obtain ⟨o₁, sum₁, ho₁, hok₁, hrecorded₁⟩ := hone
  cases ho₁
  cases hrun : db.runs.find? runID with
  | none =>
    rw [served_error hrun] at hok₁
    cases hok₁
  | some run =>
    have hhas : db.has .run runID = true := by rw [DB.has, hrun]; rfl
    have hbefore : ∀ k, dbBefore cfg out env now runID db obs k =
        (servedAll cfg out env now (scopeOf runID db) runID db {} (obs.take k)).1 := by
      intro k
      rw [dbBefore, served_eq hrun]
    have hkept : Kept db (dbBefore cfg out env now runID db obs i) := by
      rw [hbefore]
      exact servedAll_kept
    -- by itself it comes first, in the database as it is
    have hfirst : dbBefore cfg out env now runID db [o] 0 = db := by
      rw [dbBefore, served_eq hrun]
      rfl
    rw [hfirst, recorded_iff hhas] at hrecorded₁
    have hrecorded : ∀ sum, Recorded (servedOne cfg out env now (scopeOf runID db) runID
        (dbBefore cfg out env now runID db obs i) sum o).1 := fun sum =>
      (recorded_iff (hkept.has _ _ hhas)).mpr
        ⟨hrecorded₁.1, fits_mono hdb hkept hrecorded₁.2⟩
    have hreached : Stores cfg out env now runID db obs i ↔
        ∃ sum, (servedAll cfg out env now (scopeOf runID db) runID db {} (obs.take i)).2 =
          .ok sum := by
      constructor
      · rintro ⟨-, sum, -, hok, -⟩
        rw [served_eq hrun] at hok
        exact ⟨sum, hok⟩
      · rintro ⟨sum, hok⟩
        refine ⟨o, sum, hi, ?_, hrecorded sum⟩
        rw [served_eq hrun]
        exact hok
    rw [hreached, servedAll_ok_iff hhas]
    constructor
    · intro hall k hk o' ho'
      have hacc := hall k o' (by rwa [List.getElem?_take_of_lt hk])
      rwa [List.take_take, min_eq_left hk.le, ← hbefore] at hacc
    · intro hall k o' ho'
      have hk : k < i := by
        by_contra hle
        rw [List.getElem?_take_eq_none (not_lt.mp hle)] at ho'
        cases ho'
      rw [List.getElem?_take_of_lt hk] at ho'
      rw [List.take_take, min_eq_left hk.le, ← hbefore]
      exact hall k hk o' ho'

end Batch

/-- `192.0.2.1` is the only address. -/
def oneAddress : Outside := { inet := fun s => if s = "192.0.2.1" then some s else none }

def webPort : Observation := { type := .service, ip := "192.0.2.1", port := 443 }

/-- An open port that a tool reported under a name. -/
def namedPort : Observation := { type := .service, ip := "www.example.com", port := 443 }

/-- **One bad observation costs the next.** -/
theorem stored_alone_lost_behind :
    Stores {} oneAddress {} 0 1 oneTaskDB [webPort] 0 ∧
      ¬ Stores {} oneAddress {} 0 1 oneTaskDB [namedPort, webPort] 1 := by
  decide +kernel

theorem stored_iff_accepted_behind :
    (oneTaskDB.Referential ∧ Stores {} oneAddress {} 0 1 oneTaskDB [webPort] 0) ∧
      (Stores {} oneAddress {} 0 1 oneTaskDB [namedPort, webPort] 1 ↔
        ∀ k < 1, ∀ o', [namedPort, webPort][k]? = some o' → accepts oneAddress (scopeOf 1 oneTaskDB)
          (dbBefore {} oneAddress {} 0 1 oneTaskDB [namedPort, webPort] k) o' = true) :=
  have hdb : oneTaskDB.Referential := ⟨by decide, by decide⟩
  have hone : Stores {} oneAddress {} 0 1 oneTaskDB [webPort] 0 := by decide +kernel
  ⟨⟨hdb, hone⟩, stored_iff_accepted {} oneAddress {} 0 1 oneTaskDB hdb [namedPort, webPort] 1
    webPort rfl hone⟩

end Ingest

end PinkGlasses
