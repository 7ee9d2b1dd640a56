import PinkGlasses.Store.Stmt

/-!
# PinkGlasses.Store.Refs

The **foreign keys** of the asset graph. A statement on it is refused because of the values it is
given (`AssetStmt.accepted`) or because a row it refers to is missing (`AssetStmt.refs`); rows are
never deleted from it, and a row keeps being found under what identifies it (`Kept`).
-/

namespace PinkGlasses

open Lib Table

variable {β : Type}

/-- What statements on the asset graph refer to. -/
inductive Entity
  | run
  | domain
  | ip
  | service
  | finding
deriving Repr, DecidableEq

/-- The row is there. -/
def DB.has (db : DB) : Entity → UUID → Bool
  | .run, id => (db.runs.find? id).isSome
  | .domain, id => (db.domains.find? id).isSome
  | .ip, id => (db.ipAddresses.find? id).isSome
  | .service, id => (db.services.find? id).isSome
  | .finding, id => (db.findings.find? id).isSome

/-- The address of a company. -/
def DB.ipOf (db : DB) (scopeID : UUID) (addr : String) : Option UUID :=
  db.ipAddresses.keyOf fun r => r.scopeID == scopeID && r.addr == addr

/-- The service on an address. -/
def DB.serviceOf (db : DB) (ipID : UUID) (port : Int) (proto : String) : Option UUID :=
  db.services.keyOf fun s => s.ipID == ipID && s.port == port && s.proto == proto

namespace AssetStmt

/-- The rows a statement refers to. -/
def refs : AssetStmt β → List (Entity × UUID)
  | upsertDNSRecord domainID _ _ _ => [(.domain, domainID)]
  | linkDomainIP domainID ipID _ => [(.domain, domainID), (.ip, ipID)]
  | recordDomainIPObservation domainID ipID runID =>
    [(.domain, domainID), (.ip, ipID), (.run, runID)]
  | upsertService ipID _ _ _ => [(.ip, ipID)]
  | upsertServiceObservation serviceID runID _ => [(.service, serviceID), (.run, runID)]
  | insertTechnology serviceID _ _ _ _ => [(.service, serviceID)]
  | recordFindingObservation findingID runID _ _ => [(.finding, findingID), (.run, runID)]
  | _ => []

/-- Whether PostgreSQL takes the values of a statement. -/
def accepted (out : Outside) : AssetStmt β → Bool
  | upsertIP _ addr => (out.inet addr).isSome
  | namesResolvingTo _ ip _ => (out.inet ip).isSome
  | s => s.storable

variable {out : Outside} {db db' : DB} {s : AssetStmt β} {b : β}

/-- **A statement whose references are there is executed exactly if its values are accepted.** -/
theorem exec_isSome (hrefs : ∀ r ∈ s.refs, db.has r.1 r.2 = true) :
    (s.exec out db).isSome = s.accepted out := by
  rw [exec]
  cases hs : s.storable with
  | false =>
    cases s with
    | upsertIP | namesResolvingTo => cases hs
    | _ => exact hs.symm
  | true =>
    rw [if_pos rfl]
    cases s with
    | upsertDNSRecord | linkDomainIP | recordDomainIPObservation | upsertServiceObservation
    | insertTechnology | recordFindingObservation =>
      simp only [refs, List.mem_cons, List.not_mem_nil, or_false, forall_eq_or_imp, forall_eq,
        DB.has, ← Option.isNone_eq_false_iff] at hrefs
      simp only [apply, hrefs, Bool.or_self, Bool.false_eq_true, if_false]
      exact hs.symm
    | upsertService =>
      simp only [refs, List.mem_cons, List.not_mem_nil, or_false, forall_eq, DB.has,
        ← Option.isNone_eq_false_iff] at hrefs
      simp only [apply, hrefs, Bool.false_eq_true, if_false]
      split <;> exact hs.symm
    | upsertDomain | upsertFinding =>
      simp only [apply]
      split <;> exact hs.symm
    | upsertIP | namesResolvingTo => simp [apply, accepted]
    | _ => exact hs.symm

end AssetStmt

/-- **What the asset graph keeps**: its rows, what they are found under, and the technologies whose
version is known. -/
structure Kept (db db' : DB) : Prop where
  has : ∀ e id, db.has e id = true → db'.has e id = true
  ip : ∀ scopeID addr id, db.ipOf scopeID addr = some id → db'.ipOf scopeID addr = some id
  service : ∀ ipID port proto id, db.serviceOf ipID port proto = some id →
    db'.serviceOf ipID port proto = some id
  technology : ∀ t ∈ db.technologies, t.version ≠ "" → t ∈ db'.technologies

theorem Kept.refl (db : DB) : Kept db db :=
  ⟨fun _ _ h => h, fun _ _ _ h => h, fun _ _ _ _ h => h, fun _ h _ => h⟩

theorem Kept.trans {db db₁ db₂ : DB} (h₁ : Kept db db₁) (h₂ : Kept db₁ db₂) : Kept db db₂ :=
  ⟨fun e id h => h₂.has e id (h₁.has e id h), fun _ _ _ h => h₂.ip _ _ _ (h₁.ip _ _ _ h),
    fun _ _ _ _ h => h₂.service _ _ _ _ (h₁.service _ _ _ _ h),
    fun t ht hv => h₂.technology t (h₁.technology t ht hv) hv⟩

namespace AssetStmt

variable {out : Outside} {db db' : DB} {s : AssetStmt β} {b : β}

/-- **Every statement keeps it.** -/
theorem exec_kept (hexec : s.exec out db = some (b, db')) : Kept db db' where
  has e id h := by
    have hgrew := exec_assets hexec
    cases e with
    | run => rw [DB.has, exec_frame hexec]; exact h
    | domain => exact hgrew.domains.isSome_find? h
    | ip => exact hgrew.ipAddresses.isSome_find? h
    | service => exact hgrew.services.isSome_find? h
    | finding => exact hgrew.findings.isSome_find? h
  ip scopeID addr _ h := (exec_assets hexec).ipAddresses.keyOf
    (q := fun x => x.1 == scopeID && x.2 == addr) h
  service ipID port proto _ h := (exec_assets hexec).services.keyOf
    (q := fun x => x.1 == ipID && x.2.1 == port && x.2.2 == proto) h
  technology := (exec_assets hexec).technologies

/-! ### The rows an upsert answers with -/

theorem upsertDomain_has {scopeID id : UUID} {name source : String}
    (hexec : (upsertDomain scopeID name source).exec out db = some (id, db')) :
    db'.has .domain id = true := by
  have happly := (exec_eq_some.mp hexec).2
  simp only [apply] at happly
  split at happly <;> cases happly
  · rename_i hfind
    exact isSome_find?.mpr ⟨_, List.mem_of_find?_eq_some hfind, rfl⟩
  · exact isSome_find?_insert.mpr (.inr rfl)

theorem upsertFinding_has {scopeID assetID id : UUID} {assetKind kind severity title : String}
    {evidence : Doc}
    (hexec : (upsertFinding scopeID assetID assetKind kind severity title evidence).exec out db =
      some (id, db')) : db'.has .finding id = true := by
  have happly := (exec_eq_some.mp hexec).2
  simp only [apply] at happly
  split at happly <;> cases happly
  · rename_i hfind
    exact isSome_find?.mpr ⟨_, List.mem_of_find?_eq_some hfind, rfl⟩
  · exact isSome_find?_insert.mpr (.inr rfl)

theorem upsertIP_answer {scopeID id : UUID} {addr a : String} (ha : out.inet addr = some a)
    (hexec : (upsertIP scopeID addr).exec out db = some (id, db')) :
    id = (db.ipOf scopeID a).getD db.ipAddresses.next ∧ db'.has .ip id = true ∧
      db'.services = db.services ∧ db'.technologies = db.technologies := by
  have happly := (exec_eq_some.mp hexec).2
  simp only [apply, ha, Option.map_some, Option.some.injEq] at happly
  split at happly <;> cases happly
  · rename_i r hfind
    refine ⟨?_, isSome_find?.mpr ⟨_, List.mem_of_find?_eq_some hfind, rfl⟩, rfl, rfl⟩
    rw [DB.ipOf, keyOf, hfind]
    rfl
  · rename_i hfind
    refine ⟨?_, isSome_find?_insert.mpr (.inr rfl), rfl, rfl⟩
    rw [DB.ipOf, keyOf, hfind]
    rfl

theorem upsertService_answer {ipID id : UUID} {port : Int} {proto state : String}
    (hexec : (upsertService ipID port proto state).exec out db = some (id, db')) :
    id = (db.serviceOf ipID port proto).getD db.services.next ∧ db'.has .service id = true ∧
      db'.technologies = db.technologies := by
  have happly := (exec_eq_some.mp hexec).2
  simp only [apply] at happly
  split at happly
  · cases happly
  · split at happly <;> cases happly
    · rename_i s hfind
      refine ⟨?_, isSome_find?_update (by exact fun _ => rfl)
        (isSome_find?.mpr ⟨_, List.mem_of_find?_eq_some hfind, rfl⟩), rfl⟩
      rw [DB.serviceOf, keyOf, hfind]
      rfl
    · rename_i hfind
      refine ⟨?_, isSome_find?_insert.mpr (.inr rfl), rfl⟩
      rw [DB.serviceOf, keyOf, hfind]
      rfl

theorem upsertIP_found {scopeID id : UUID} {addr : String}
    (hexec : (upsertIP scopeID addr).exec out db = some (id, db')) :
    ∃ a, out.inet addr = some a ∧ db'.ipOf scopeID a = some id := by
  obtain ⟨a, ha, happly⟩ := Option.map_eq_some_iff.mp (exec_eq_some.mp hexec).2
  refine ⟨a, ha, ?_⟩
  split at happly <;> cases happly
  · rename_i r hfind
    simp [DB.ipOf, keyOf, hfind]
  · rename_i hfind
    simp [DB.ipOf, keyOf, rows_insert, List.find?_append, hfind]

theorem upsertService_found {ipID id : UUID} {port : Int} {proto state : String}
    (hexec : (upsertService ipID port proto state).exec out db = some (id, db')) :
    db'.serviceOf ipID port proto = some id := by
  obtain ⟨hid, -⟩ := upsertService_answer hexec
  cases hold : db.serviceOf ipID port proto with
  | some id' =>
    rw [hid, hold]
    exact (exec_kept hexec).service _ _ _ _ hold
  | none =>
    have happly := (exec_eq_some.mp hexec).2
    simp only [DB.serviceOf, keyOf, Option.map_eq_none_iff] at hold
    simp only [apply, hold] at happly
    split at happly <;> cases happly
    simp [DB.serviceOf, keyOf, rows_insert, List.find?_append, hold]

end AssetStmt

/-! ### Referential integrity -/

/-- **The foreign keys that hold in the database**: a technology's service and a service's address
are there. -/
structure DB.Referential (db : DB) : Prop where
  technology : ∀ t ∈ db.technologies, db.has .service t.serviceID = true
  service : ∀ s ∈ db.services.rows, db.has .ip s.ipID = true

section Integrity

variable {out : Outside} {db db' : DB} {b : β}

end Integrity

end PinkGlasses
