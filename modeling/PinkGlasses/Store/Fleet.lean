import Mathlib.Data.List.Sort
import PinkGlasses.Store.Schema

/-!
# PinkGlasses.Store.Fleet

The statements of `internal/store/fleet.go` and `internal/store/vpn.go`: the record of the
containers a run brings up for itself, and the VPN configurations they leave through. A deleted
configuration, whether removed by itself or with the account that owns it, **disappears from the
fleets that name it**: the foreign key sets `run_fleet.vpn_config_id` to NULL.
-/

namespace PinkGlasses

namespace Store

/-- The fleets `fleetsWhere` lists, with the run each belongs to, oldest first. -/
def fleetsWhere (p : RunFleet → ScanRun → Bool) (db : DB) : List RunFleet :=
  (db.fleets.filter fun f => (db.runs.find? f.runID).any (p f)).insertionSort
    fun f f' => f.createdAt ≤ f'.createdAt

def fleetsToBuild : DB → List RunFleet := fleetsWhere fun f r =>
  f.status == .requested && (r.status == .queued || r.status == .planning || r.status == .running)

def fleetsToTearDown : DB → List RunFleet := fleetsWhere fun f r =>
  (f.status == .up || f.status == .failed || f.status == .requested) &&
    !(r.status == .queued || r.status == .planning || r.status == .running || r.status == .paused)

def liveFleets : DB → List RunFleet := fleetsWhere fun f r =>
  f.status == .up &&
    (r.status == .queued || r.status == .planning || r.status == .running || r.status == .paused)

/-- `UPDATE run_fleet SET … WHERE run_id = …`. -/
def updateFleet (runID : UUID) (f : RunFleet → RunFleet) (db : DB) : DB :=
  { db with fleets := db.fleets.map fun x => if x.runID == runID then f x else x }

/-- `DELETE FROM vpn_config WHERE …`, with every reference to a deleted one set to NULL. -/
def deleteVPNConfigs (p : VPNConfig → Bool) (db : DB) : DB :=
  let gone := db.vpnConfigs.refers p
  { db with
    vpnConfigs := db.vpnConfigs.delete p
    runs := db.runs.update (fun r => gone r.vpnConfigID) fun r => { r with vpnConfigID := none }
    fleets := db.fleets.map fun f =>
      if gone f.vpnConfigID then { f with vpnConfigID := none } else f }

end Store

/-- The statements on fleets, VPN configurations and the accounts that own them. -/
inductive FleetStmt : Type → Type
  | createRunFleet (f : RunFleet) : FleetStmt Unit
  | fleetsToBuild : FleetStmt (List RunFleet)
  | fleetsToTearDown : FleetStmt (List RunFleet)
  | liveFleets : FleetStmt (List RunFleet)
  | countLiveFleets : FleetStmt Nat
  | setFleetStatus (runID : UUID) (status : FleetStatus) (err egressIP : Option String) :
      FleetStmt Unit
  | setFleetEvidence (runID : UUID) (evidence : String) : FleetStmt Unit
  | markFleetTornDown (runID : UUID) : FleetStmt Unit
  | activeWorkersInPool (poolID : UUID) : FleetStmt Nat
  | createVPNConfig (ownerID : UUID) (name : String) (kind : VPNKind) (config : String) :
      FleetStmt UUID
  | listVPNConfigs (ownerID : UUID) : FleetStmt (List VPNConfig)
  | getVPNConfig (id : UUID) : FleetStmt VPNConfig
  | openVPNConfigBody (id : UUID) : FleetStmt String
  | recordVPNEgress (id : UUID) (ip : String) : FleetStmt Unit
  | deleteVPNConfig (id : UUID) (owner : Option UUID) : FleetStmt Bool
  | deleteUser (id : UUID) : FleetStmt Bool

namespace FleetStmt

open Store

variable {β : Type}

/-- What a statement answers and does. -/
def exec (out : Outside) (env : Env) (db : DB) : FleetStmt β → Option (β × DB)
  | createRunFleet f =>
    if db.fleets.any (·.runID == f.runID) || (db.runs.find? f.runID).isNone ||
        f.poolID.any (fun p => (db.pools.find? p).isNone) ||
        f.vpnConfigID.any (fun v => (db.vpnConfigs.find? v).isNone) then none
    else some ((), { db with
      fleets := db.fleets ++ [{ f with status := .requested, createdAt := env.now }] })
  | fleetsToBuild => some (Store.fleetsToBuild db, db)
  | fleetsToTearDown => some (Store.fleetsToTearDown db, db)
  | liveFleets => some (Store.liveFleets db, db)
  | countLiveFleets => some (db.fleets.countP (·.status == .up), db)
  | setFleetStatus runID status err egressIP => some ((), updateFleet runID (fun f =>
      { f with
        status := status, error := err, egressIP := egressIP.or f.egressIP
        readyAt := if status = .up ∧ f.readyAt = none then some env.now else f.readyAt }) db)
  | setFleetEvidence runID evidence =>
    some ((), updateFleet runID (fun f => { f with evidence := some evidence }) db)
  | markFleetTornDown runID =>
    some ((), updateFleet runID (fun f => { f with status := .tornDown }) db)
  | activeWorkersInPool poolID =>
    some (db.workers.rows.countP fun w => w.poolID == some poolID && w.status == .active, db)
  | createVPNConfig ownerID name kind config =>
    if (db.users.find? ownerID).isNone ||
        db.vpnConfigs.rows.any (fun v => v.ownerID == ownerID && v.name == name) then none
    else some (db.vpnConfigs.next, { db with
      vpnConfigs := db.vpnConfigs.insert fun id => { id, ownerID, name, kind, config } })
  | listVPNConfigs ownerID =>
    some ((db.vpnConfigs.rows.filter (·.ownerID == ownerID)).insertionSort
      fun v v' => v.name ≤ v'.name, db)
  | getVPNConfig id => (db.vpnConfigs.find? id).map (·, db)
  | openVPNConfigBody id =>
    ((db.vpnConfigs.find? id).bind fun v => out.openSealed v.config).map (·, db)
  | recordVPNEgress id ip => some ((), { db with
      vpnConfigs := db.vpnConfigs.update (·.id == id) fun v => { v with lastEgressIP := some ip } })
  | deleteVPNConfig id owner =>
    let p := fun v : VPNConfig => v.id == id && owner.all (v.ownerID == ·)
    some (db.vpnConfigs.rows.any p, deleteVPNConfigs p db)
  | deleteUser id =>
    let db' := deleteVPNConfigs (·.ownerID == id) db
    some (db.users.rows.any (·.id == id), { db' with users := db'.users.delete (·.id == id) })

variable {out : Outside} {env : Env} {db db' : DB} {s : FleetStmt β} {b : β}

/-- **A statement on fleets leaves a run as it is**, up to a cleared VPN configuration. -/
theorem exec_runs (h : s.exec out env db = some (b, db')) :
    ∃ g, db'.runs.rows = db.runs.rows.map g ∧
      ∀ r, g r = r ∨ g r = { r with vpnConfigID := none } := by
  have hsame : ∃ g, db.runs.rows = db.runs.rows.map g ∧
      ∀ r, g r = r ∨ g r = { r with vpnConfigID := none } :=
    ⟨id, (List.map_id _).symm, fun _ => .inl rfl⟩
  cases s with
  | deleteVPNConfig | deleteUser =>
    cases h
    refine ⟨_, rfl, fun r => ?_⟩
    dsimp only
    split
    · exact .inr rfl
    · exact .inl rfl
  | createRunFleet | createVPNConfig =>
    simp only [exec] at h
    split at h
    · cases h
    · cases h; exact hsame
  | getVPNConfig | openVPNConfigBody =>
    obtain ⟨_, _, hdb⟩ := Option.map_eq_some_iff.mp h
    cases hdb
    exact hsame
  | _ => cases h; exact hsame

theorem exec_runs_next (h : s.exec out env db = some (b, db')) : db'.runs.next = db.runs.next := by
  cases s with
  | createRunFleet | createVPNConfig =>
    simp only [exec] at h
    split at h
    · cases h
    · cases h; rfl
  | getVPNConfig | openVPNConfigBody =>
    obtain ⟨_, _, hdb⟩ := Option.map_eq_some_iff.mp h
    cases hdb
    rfl
  | _ => cases h; rfl

theorem exec_frame (h : s.exec out env db = some (b, db')) :
    db' = { db with
      runs := db'.runs, fleets := db'.fleets, vpnConfigs := db'.vpnConfigs
      users := db'.users } := by
  cases s with
  | createRunFleet | createVPNConfig =>
    simp only [exec] at h
    split at h
    · cases h
    · cases h; rfl
  | getVPNConfig | openVPNConfigBody =>
    obtain ⟨_, _, hdb⟩ := Option.map_eq_some_iff.mp h
    cases hdb
    rfl
  | _ => cases h; rfl

end FleetStmt

end PinkGlasses
