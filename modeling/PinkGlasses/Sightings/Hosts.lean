import PinkGlasses.Lib.Faults
import PinkGlasses.Sightings
import PinkGlasses.Store.Refs

/-!
# PinkGlasses.Sightings.Hosts

**Which row of `service_observation` an observation writes to.** Every stage that asks a web server
by name records what it saw in the row of that name. A certificate is seen for a name as well, but
`Process` records it without one: it ends in the row of the bare address.
-/

namespace PinkGlasses

open Lib Lib.System Ingest Store

namespace Sightings

/-- Observations of a run taken in one at a time, each of their statements being executed or
failing. -/
def observing (out : Outside) (pr : Printing) (now : Time) (scopeID runID : UUID)
    (sum : StageSummary) : System Stmt SightDB Env Observation (Except String StageSummary) where
  exec := fun s env st => (sighted now _ s).exec out pr env st
  accepts := fun _ _ => true
  prog := fun o => (processOne now scopeID runID sum o).run

/-- The service an observation is of. -/
def serviceFor (out : Outside) (db : DB) (scopeID : UUID) (o : Observation) : Option UUID :=
  (out.inet o.ip).bind fun addr => (db.ipOf scopeID addr).bind fun ip =>
  db.serviceOf ip o.port "tcp"

/-- Between the states no row was inserted or changed but the one of the observation's service, run
and host. -/
def OnlyOwnRow (out : Outside) (scopeID runID : UUID) (o : Observation) (st st' : SightDB) : Prop :=
  ∀ k, st'.rowOf k ≠ st.rowOf k →
    serviceFor out st'.db scopeID o = some k.serviceID ∧ k.runID = runID ∧ k.host = norm o.host

/-- PostgreSQL takes what is recorded of the observation. -/
def Recordable (out : Outside) (o : Observation) : Prop :=
  o.ip ≠ "" ∧ (out.inet o.ip).isSome = true ∧ int4 o.port = true ∧
    storableObs (told o) = true

/-- The kinds of observation that are recorded against a name. -/
def ofHost : ObsType → Bool
  | .http | .tls | .screenshot => true
  | _ => false

section Frame

variable {out : Outside} {pr : Printing} {now : Time} {scopeID runID : UUID} {sum : StageSummary}
  {o : Observation} {st st' : SightDB}

/-- No row is written, and the asset graph keeps what it has. -/
def GraphKept (st st' : SightDB) : Prop := (∀ k, st'.rowOf k = st.rowOf k) ∧ Kept st.db st'.db

theorem graphKept_exec {β : Type} {s : AssetStmt β} (hs : graphOnly s = true) {env : Env} {b : β}
    (hexec : (sighted now _ (.asset s)).exec out pr env st = some (b, st')) : GraphKept st st' := by
  refine ⟨fun k => ?_, ?_⟩
  · have hnone : (sighted now _ (.asset s)).write? = none := by cases s <;> first | rfl | cases hs
    rw [Sighted.rowOf_exec hexec k, hnone]
  · obtain ⟨db, hdb, rfl⟩ := Sighted.exec_eq_some.mp hexec
    exact AssetStmt.exec_kept hdb

/-- A statement on the asset graph alone. -/
def OnGraph (β : Type) (s : Stmt β) : Prop := ∃ a : AssetStmt β, s = .asset a ∧ graphOnly a = true

theorem graphKept_of_uses {α : Type} {p : Prog Stmt α} {a : α}
    (hp : p.Uses OnGraph)
    (hend : (observing out pr now scopeID runID sum).MayEnd st p st' a) : GraphKept st st' := by
  refine hend.uses hp GraphKept (fun _ => ⟨fun _ => rfl, .refl _⟩) ?_ ?_
  · exact fun h h' => ⟨fun k => (h'.1 k).trans (h.1 k), h.2.trans h'.2⟩
  · rintro β s env st b st' ⟨a, rfl, ha⟩ hexec
    exact graphKept_exec ha hexec

/-- **The three kinds go one way**: the service is looked up, what was told is recorded, and the
rest keeps to the asset graph. -/
theorem processOne_eq (now : Time) (scopeID runID : UUID) (sum : StageSummary)
    (hty : ofHost o.type = true) (hip : o.ip ≠ "") :
    ∃ rest : UUID → Go StageSummary, (∀ id, (rest id).run.Uses OnGraph) ∧
      processOne now scopeID runID sum o = (do
        let svcID ← serviceID scopeID o.ip o.port "tcp" "open"
        Go.exec (.asset (.upsertServiceObservation svcID runID (told o)))
        rest svcID) := by
  have hgraph : ∀ β (s : AssetStmt β), graphOnly s = true → OnGraph β (.asset s) :=
    fun _ s hs => ⟨s, rfl, hs⟩
  have hskip : (needsAddress o.type && o.ip == "") = false := by simp [hip]
  unfold processOne told
  rw [hskip]
  cases htype : o.type with
  | http | screenshot =>
    refine ⟨fun _ => _, fun _ => ?_, rfl⟩
    trivial
  | tls =>
    refine ⟨fun id => _, fun id => ?_, rfl⟩
    refine Prog.Uses.bind_except ?_ fun _ => trivial
    induction certFindings o.notAfter o.subjectCN o.issuer (norm o.host) now with
    | nil => trivial
    | cons cf cfs ih =>
      exact Prog.Uses.bind_except (finding_uses hgraph _ _ _ _ _ _ _ _) fun _ => ih
  | _ =>
    rw [htype] at hty
    cases hty

theorem serviceID_end {r : Except String UUID}
    (hend : (observing out pr now scopeID runID sum).MayEnd st
      (serviceID scopeID o.ip o.port "tcp" "open").run st' r) :
    GraphKept st st' ∧ ∀ id, r = .ok id →
      int4 o.port = true ∧ serviceFor out st'.db scopeID o = some id := by
  have hkept := graphKept_of_uses (serviceID_uses (fun _ s hs => ⟨s, rfl, hs⟩) _ _ _ _ _) hend
  refine ⟨hkept, fun id hid => ?_⟩
  subst hid
  rcases mayEnd_bind_except.mp hend with ⟨st₁, ipID, hip, hservice⟩ | ⟨e, -, he⟩
  · rcases mayEnd_query.mp hip with ⟨env, _, hexec, hok⟩ | ⟨-, herr⟩
    · cases hok
      obtain ⟨db₁, hdb₁, rfl⟩ := Sighted.exec_eq_some.mp hexec
      obtain ⟨addr, haddr, hfound⟩ := AssetStmt.upsertIP_found hdb₁
      rcases mayEnd_query.mp hservice with ⟨env', _, hexec', hok⟩ | ⟨-, herr⟩
      · cases hok
        obtain ⟨db₂, hdb₂, rfl⟩ := Sighted.exec_eq_some.mp hexec'
        have hfound₂ : db₂.ipOf scopeID addr = some ipID :=
          (AssetStmt.exec_kept hdb₂).ip _ _ _ hfound
        have hport := (AssetStmt.exec_eq_some.mp hdb₂).1
        simp only [AssetStmt.storable, Bool.and_eq_true] at hport
        refine ⟨hport.1.1, ?_⟩
        simp only [serviceFor, haddr, Option.bind_some, hfound₂]
        exact AssetStmt.upsertService_found hdb₂
      · cases herr
    · cases herr
  · cases he

theorem write_end {svcID : UUID} {w : ServiceObs} {r : Except String Unit}
    (hend : (observing out pr now scopeID runID sum).MayEnd st
      (Go.exec (.asset (.upsertServiceObservation svcID runID w))).run st' r) :
    Kept st.db st'.db ∧ ∀ k, st'.rowOf k ≠ st.rowOf k →
      storableObs w = true ∧ k = ⟨svcID, runID, w.host⟩ := by
  rcases mayEnd_query.mp hend with ⟨env, b, hexec, -⟩ | ⟨rfl, -⟩
  · obtain ⟨db, hdb, heq⟩ := Sighted.exec_eq_some.mp hexec
    refine ⟨heq ▸ AssetStmt.exec_kept hdb, fun k hk => ⟨(AssetStmt.exec_eq_some.mp hdb).1, ?_⟩⟩
    by_contra hne
    rw [Sighted.rowOf_exec hexec k] at hk
    exact hk (if_neg hne)
  · exact ⟨.refl _, fun k hk => absurd rfl hk⟩

theorem serviceFor_kept {db db' : DB} (h : Kept db db') {id : UUID}
    (hfound : serviceFor out db scopeID o = some id) : serviceFor out db' scopeID o = some id := by
  obtain ⟨addr, haddr, hfound⟩ := Option.bind_eq_some_iff.mp hfound
  obtain ⟨ip, hip, hservice⟩ := Option.bind_eq_some_iff.mp hfound
  simp only [serviceFor, haddr, Option.bind_some, h.ip _ _ _ hip]
  exact h.service _ _ _ _ hservice

/-- **A row that is written is the one of the service, the run and the host that was told.** -/
theorem changed_row (hty : ofHost o.type = true) {r : Except String StageSummary}
    (hend : (observing out pr now scopeID runID sum).MayEnd st
      (processOne now scopeID runID sum o).run st' r) {k : ObservationKey}
    (hk : st'.rowOf k ≠ st.rowOf k) :
    Recordable out o ∧ serviceFor out st'.db scopeID o = some k.serviceID ∧ k.runID = runID ∧
      k.host = (told o).host := by
  by_cases hip : o.ip = ""
  -- without an address the observation is passed over
  · have hskip : processOne now scopeID runID sum o = pure sum := by
      unfold processOne
      cases htype : o.type <;> simp_all [needsAddress, ofHost]
    rw [hskip] at hend
    rw [hend.1] at hk
    exact absurd rfl hk
  obtain ⟨rest, hrest, heq⟩ := processOne_eq now scopeID runID sum hty hip
  rw [heq] at hend
  rcases mayEnd_bind_except.mp hend with ⟨st₁, svcID, hservice, hend⟩ | ⟨e, hservice, -⟩
  · obtain ⟨hkept₁, hfound⟩ := serviceID_end hservice
    obtain ⟨hport, hfound⟩ := hfound svcID rfl
    rw [← hkept₁.1 k] at hk
    -- whether or not the statements after it succeed, this one wrote the row
    have hkey : ∀ {st₂ r}, (observing out pr now scopeID runID sum).MayEnd st₁
        (Go.exec (.asset (.upsertServiceObservation svcID runID (told o)))).run st₂ r →
        GraphKept st₂ st' → Recordable out o ∧ serviceFor out st'.db scopeID o = some k.serviceID ∧
          k.runID = runID ∧ k.host = (told o).host := by
      intro st₂ r hwrite hkept₂
      obtain ⟨hkept, hrow⟩ := write_end hwrite
      rw [hkept₂.1 k] at hk
      obtain ⟨hstorable, rfl⟩ := hrow k hk
      obtain ⟨addr, haddr, -⟩ := Option.bind_eq_some_iff.mp hfound
      exact ⟨⟨hip, Option.isSome_of_eq_some haddr, hport, hstorable⟩,
        serviceFor_kept (hkept.trans hkept₂.2) hfound, rfl, rfl⟩
    rcases mayEnd_bind_except.mp hend with ⟨st₂, _, hwrite, hend⟩ | ⟨e, hwrite, -⟩
    · exact hkey hwrite (graphKept_of_uses (hrest svcID) hend)
    · exact hkey hwrite ⟨fun _ => rfl, .refl _⟩
  · exact absurd ((serviceID_end hservice).1.1 k) hk

/-- A statement whose rows are there and whose values are accepted is executed. -/
theorem mayEnd_asset (out : Outside) (pr : Printing) (now : Time) (scopeID runID : UUID)
    (sum : StageSummary)
    {β : Type} (a : AssetStmt β) (st : SightDB) (hrefs : ∀ r ∈ a.refs, st.db.has r.1 r.2 = true)
    (ha : a.accepted out = true) :
    ∃ b st', a.exec out st.db = some (b, st'.db) ∧
      (sighted now _ (.asset a)).exec out pr {} st = some (b, st') ∧
      (observing out pr now scopeID runID sum).MayEnd st (Go.exec (.asset a)).run st' (.ok b) := by
  obtain ⟨⟨b, db⟩, hexec⟩ := Option.isSome_iff_exists.mp ((AssetStmt.exec_isSome hrefs).trans ha)
  have hsight : (sighted now _ (.asset a)).exec out pr {} st =
      some (b, { (sighted now _ (.asset a)).record pr st b with db }) :=
    Sighted.exec_eq_some.mpr ⟨db, hexec, rfl⟩
  exact ⟨b, _, hexec, hsight, mayEnd_query.mpr (.inl ⟨{}, b, hsight, rfl⟩)⟩

/-- A database with nothing but a run. -/
def onlyRun (runID : UUID) : SightDB where
  db := { runs := .ofRows [{ id := runID, scopeID := 1, profile := .standard, status := .running }]
            (by simp) }

theorem exists_changed_row (pr : Printing) (now : Time) (scopeID runID : UUID) (sum : StageSummary)
    (hty : ofHost o.type = true) (ho : Recordable out o) :
    ∃ st st' r k, (observing out pr now scopeID runID sum).MayEnd st
      (processOne now scopeID runID sum o).run st' r ∧ st'.rowOf k ≠ st.rowOf k := by
  obtain ⟨hip, hinet, hport, hstorable⟩ := ho
  obtain ⟨addr, haddr⟩ := Option.isSome_iff_exists.mp hinet
  obtain ⟨rest, hrest, heq⟩ := processOne_eq now scopeID runID sum hty hip
  have hrun : (onlyRun runID).db.has .run runID = true := by
    simp [DB.has, onlyRun, Table.ofRows, Table.find?]
  -- The address, the service on it and what was told are recorded in turn.
  obtain ⟨ipID, st₁, hexec₁, hsight₁, hend₁⟩ := mayEnd_asset out pr now scopeID runID sum
    (.upsertIP scopeID o.ip) (onlyRun runID) (by simp [AssetStmt.refs]) hinet
  obtain ⟨-, hip₁, -, -⟩ := AssetStmt.upsertIP_answer haddr hexec₁
  obtain ⟨svcID, st₂, hexec₂, hsight₂, hend₂⟩ := mayEnd_asset out pr now scopeID runID sum
    (.upsertService ipID o.port "tcp" "open") st₁ (by simpa [AssetStmt.refs] using hip₁)
    (by simp [AssetStmt.accepted, AssetStmt.storable, hport]; decide)
  obtain ⟨-, hservice₂, -⟩ := AssetStmt.upsertService_answer hexec₂
  have hrun₂ := ((AssetStmt.exec_kept hexec₁).trans (AssetStmt.exec_kept hexec₂)).has _ _ hrun
  obtain ⟨_, st₃, -, hsight₃, hend₃⟩ := mayEnd_asset out pr now scopeID runID sum
    (.upsertServiceObservation svcID runID (told o)) st₂
    (by simpa [AssetStmt.refs] using ⟨hservice₂, hrun₂⟩) hstorable
  -- The rest does not touch the row that is there now.
  obtain ⟨st₄, r, hend₄⟩ : ∃ st₄ r, (observing out pr now scopeID runID sum).MayEnd st₃
      (rest svcID).run st₄ r := ⟨_, _, mayEnd_serve _ {} [] _ _⟩
  refine ⟨onlyRun runID, st₄, r, ⟨svcID, runID, (told o).host⟩, ?_, ?_⟩
  · rw [heq]
    exact mayEnd_bind_except.mpr (.inl ⟨st₂, svcID, mayEnd_bind_except.mpr (.inl ⟨st₁, ipID, hend₁,
      hend₂⟩), mayEnd_bind_except.mpr (.inl ⟨st₃, _, hend₃, hend₄⟩)⟩)
  · rw [(graphKept_of_uses (hrest svcID) hend₄).1, Sighted.rowOf_exec hsight₃]
    exact (if_pos rfl).trans_ne (Option.some_ne_none _)

end Frame

/-- **An observation changes the row of its own host and no other, exactly if it is not of a
certificate seen for a name** (or cannot be recorded at all). -/
theorem onlyOwnRow_iff (out : Outside) (pr : Printing) (now : Time) (scopeID runID : UUID)
    (sum : StageSummary) (o : Observation) (hty : ofHost o.type = true) :
    (∀ st st' r, (observing out pr now scopeID runID sum).MayEnd st
        (processOne now scopeID runID sum o).run st' r → OnlyOwnRow out scopeID runID o st st') ↔
      (o.type = .tls → norm o.host = "" ∨ ¬Recordable out o) := by
  have hhost : (told o).host = if o.type = .tls then "" else norm o.host := by
    unfold told
    cases htype : o.type <;> simp_all [ofHost]
  constructor
  · intro h htls
    by_contra hno
    rw [not_or, not_not] at hno
    obtain ⟨st, st', r, k, hend, hk⟩ := exists_changed_row pr now scopeID runID sum hty hno.2
    have hown := (h st st' r hend k hk).2.2
    rw [(changed_row hty hend hk).2.2.2, hhost, if_pos htls] at hown
    exact hno.1 hown.symm
  · intro h st st' r hend k hk
    obtain ⟨hrecordable, hservice, hrun, hk'⟩ := changed_row hty hend hk
    refine ⟨hservice, hrun, ?_⟩
    rw [hk', hhost]
    split
    · next htls => exact ((h htls).resolve_right (not_not_intro hrecordable)).symm
    · rfl

/-- A certificate, seen for a name on an address. -/
def certificateFor (host : String) : Observation :=
  { type := .tls, ip := "192.0.2.1", port := 443, host, subjectCN := host }

/-- A page, seen for a name on an address. -/
def pageFor (host : String) : Observation :=
  { type := .http, ip := "192.0.2.1", port := 443, host, title := "Welcome" }

theorem onlyOwnRow_of_named_page :
    ofHost (pageFor "a.example").type = true ∧
      ∀ st st' r, (observing {} {} 0 1 1 {}).MayEnd st
          (processOne 0 1 1 {} (pageFor "a.example")).run st' r →
        OnlyOwnRow {} 1 1 (pageFor "a.example") st st' :=
  ⟨rfl, (onlyOwnRow_iff {} {} 0 1 1 {} (pageFor "a.example") rfl).mpr fun h => by cases h⟩

/-- The certificate of `a.example` is written to the row of the bare address. -/
theorem certificate_in_bare_row :
    ∃ st st' r, (observing {} {} 0 1 1 {}).MayEnd st
        (processOne 0 1 1 {} (certificateFor "a.example")).run st' r ∧
      (st.rowOf ⟨1, 1, ""⟩).isNone = true ∧ (st'.rowOf ⟨1, 1, ""⟩).isSome = true ∧
      (st'.rowOf ⟨1, 1, "a.example"⟩).isNone = true ∧
      ¬OnlyOwnRow {} 1 1 (certificateFor "a.example") st st' := by
  refine ⟨onlyRun 1, _, _, mayEnd_serve (observing {} {} 0 1 1 {}) {} [] (onlyRun 1) _,
    rfl, by decide +kernel, by decide +kernel, ?_⟩
  intro h
  have hhost : "" = norm "a.example" := by
    refine (h ⟨1, 1, ""⟩ fun hsame => ?_).2.2
    have hsome := congrArg Option.isSome hsame
    revert hsome
    decide +kernel
  revert hhost
  decide

end Sightings

end PinkGlasses
