import PinkGlasses.Schedules
import PinkGlasses.Lib.Faults

/-!
# PinkGlasses.Schedules.Patch

A schedule is edited. `patchSchedule` reads the row, puts over it what the request names, and writes
it back. The update would also **bring `next_run_at` forward** to one cadence from now if it is
planned for later, whatever is edited.

It is never carried out: the row is read with the columns of `scheduleCols`, which the database
refuses, and the request is answered with 404 (`patch_refused`).
-/

namespace PinkGlasses

open Lib Lib.System Prog

/-- `scheduleInput`. A field that is absent is `none`. -/
structure ScheduleInput where
  profile : Option RunProfile := none
  exit : Exit := .unset
  vpnConfigID : Option String := none
  poolID : Option String := none
  workerCount : Int := 0
  everyHours : Option Int := none
  startAt : Option Time := none
  enabled : Option Bool := none
  profileID : Option String := none
  params : Option (List (String × String)) := none
  wordlistIDs : Option (List String) := none
  targets : Option (List String) := none
  targetGroupIDs : Option (List String) := none

namespace Schedules

/-- What the handler takes from its surroundings. -/
structure PatchConfig where
  /-- `uuid.Parse`. -/
  parse : String → Option UUID
  /-- `uuid.UUID.String`. -/
  text : UUID → String
  /-- `scanparams.Validate`. -/
  validate : List (String × String) → Except String (List (String × String))

def maxEveryHours : Int := 366 * 24

variable (cfg : PatchConfig)

/-- Refuse in some cases. -/
def refuseIf (bad : Prop) [Decidable bad] (msg : String) : Except Refusal Unit :=
  if bad then .error ⟨400, msg⟩ else .ok ()

/-- `uuid.Parse`, with what is answered if it fails. -/
def parseID (msg raw : String) : Except Refusal UUID :=
  (cfg.parse raw).elim (.error ⟨400, msg⟩) .ok

/-- An identifier that may be absent or empty. -/
def optionalID (msg : String) : Option String → Except Refusal (Option UUID)
  | none | some "" => .ok none
  | some raw => some <$> parseID cfg msg raw

def apply (inp : ScheduleInput) (sc : Schedule) : Except Refusal Schedule := do
  let profile := inp.profile.getD sc.profile
  refuseIf (inp.exit = .other) "exit must be \"local\", \"remote\" or empty for a passive profile"
  refuseIf (profile ≠ .passive ∧ inp.exit = .unset)
    ("a scheduled " ++ profile.text ++ " scan sends " ++
    "traffic at its targets and needs an exit: local (with a VPN config) or remote (with a pool)")
  let vpnConfigID ← optionalID cfg "bad vpn config id" inp.vpnConfigID
  let poolID ← optionalID cfg "bad pool id" inp.poolID
  refuseIf (inp.exit = .local ∧ vpnConfigID = none) "a local exit needs vpn_config_id"
  refuseIf (inp.exit = .remote ∧ poolID = none) "a remote exit needs pool_id"
  let workerCount := max 0 (if 0 < inp.workerCount then inp.workerCount else sc.workerCount)
  refuseIf (8 < workerCount) "worker_count is at most 8"
  let everyHours := inp.everyHours.getD sc.everyHours
  refuseIf (everyHours < 0 ∨ maxEveryHours < everyHours)
    "every_hours is 0 for a one-off, or a cadence of 1 to 8784 hours (a year)"
  let profileID ← inp.profileID.elim (.ok sc.profileID) (optionalID cfg "bad profile id" ∘ some)
  let params ← inp.params.elim (.ok sc.params) fun params =>
    (cfg.validate params).mapError fun e => ⟨400, "invalid scan parameter: " ++ e⟩
  let targetGroupIDs ← inp.targetGroupIDs.elim (.ok sc.targetGroupIDs) fun raws =>
    raws.mapM fun raw => parseID cfg ("bad target group id " ++ raw) raw
  let wordlistIDs ← inp.wordlistIDs.elim (.ok sc.wordlistIDs) fun raws =>
    raws.mapM fun raw => parseID cfg ("bad wordlist id " ++ raw) raw
  return { sc with
    profile, exit := inp.exit, vpnConfigID, poolID, workerCount, everyHours := everyHours.toNat
    enabled := inp.enabled.getD sc.enabled, profileID, params, targetGroupIDs, wordlistIDs
    targets := inp.targets.elim sc.targets fun ts => (ts.map trimSpace).filter (· ≠ "") }

/-- A patch that names no exit keeps the current one. -/
def keepExit (inp : ScheduleInput) (sc : Schedule) : ScheduleInput :=
  if inp.exit = .unset then
    { inp with
      exit := sc.exit
      vpnConfigID := inp.vpnConfigID.or (sc.vpnConfigID.map cfg.text)
      poolID := inp.poolID.or (sc.poolID.map cfg.text) }
  else inp

/-- The statements of the handler. -/
inductive PatchStmt : Type → Type
  | getSchedule (id : UUID) : PatchStmt Schedule
  | vpnConfigOwnedBy (id owner : UUID) : PatchStmt Bool
  | updateSchedule (sc : Schedule) (startAt : Option Time) : PatchStmt Schedule

/-- What `UpdateSchedule` makes of a row. -/
def updated (now : Time) (sc : Schedule) (startAt : Option Time) (row : Schedule) : Schedule :=
  { row with
    profile := sc.profile, exit := sc.exit, vpnConfigID := sc.vpnConfigID, poolID := sc.poolID
    workerCount := sc.workerCount, everyHours := sc.everyHours, enabled := sc.enabled
    profileID := sc.profileID, params := sc.params, wordlistIDs := sc.wordlistIDs
    targets := sc.targets, targetGroupIDs := sc.targetGroupIDs
    nextRunAt := startAt.getD <|
      if sc.everyHours = 0 then row.nextRunAt else min row.nextRunAt (now + sc.cadence) }

theorem updated_id (now : Time) (sc : Schedule) (startAt : Option Time) (row : Schedule) :
    (updated now sc startAt row).id = row.id := rfl

/-- What the row references is there. -/
def Refers (db : DB) (sc : Schedule) : Prop :=
  (∀ v ∈ sc.vpnConfigID, (db.vpnConfigs.find? v).isSome = true) ∧
    (∀ p ∈ sc.poolID, (db.pools.find? p).isSome = true) ∧
    ∀ p ∈ sc.profileID, (db.profiles.find? p).isSome = true
deriving Decidable

def PatchStmt.exec (now : Time) (ag : Agenda) : {β : Type} → PatchStmt β → Option (β × Agenda)
  | _, getSchedule id => answering ((ag.schedules.find? id).map (·, ag))
  | _, vpnConfigOwnedBy id owner =>
    some (ag.db.vpnConfigs.rows.any fun v => v.id == id && v.ownerID == owner, ag)
  | _, updateSchedule sc startAt =>
    answering (if Refers ag.db sc then
      (ag.schedules.find? sc.id).map fun row => (updated now sc startAt row,
        ag.onSchedule sc.id (updated now sc startAt) (updated_id now sc startAt))
    else none)

/-- `ownsVPN`, for the account of the request. -/
def ownsVPN (uid : Option UUID) (id : UUID) : ExceptT Refusal (Prog PatchStmt) Unit := do
  match uid with
  | none => throw ⟨401, "sign in to continue"⟩
  | some uid =>
    if !(← query ⟨500, dbError⟩ (.vpnConfigOwnedBy id uid)) then
      throw ⟨403, "that VPN configuration is not yours (or no longer exists); pick one of yours " ++
        "under VPN"⟩

def applyFor (uid : Option UUID) (inp : ScheduleInput) (sc : Schedule) :
    ExceptT Refusal (Prog PatchStmt) Schedule := do
  match apply cfg inp sc with
  | .error ref => throw ref
  | .ok sc =>
    match sc.vpnConfigID with
    | none => pure sc
    | some id =>
      if inp.vpnConfigID.getD "" = "" then pure sc
      else
        ownsVPN uid id
        pure sc

def patchSchedule (uid : Option UUID) (id : UUID) (inp : ScheduleInput) :
    ExceptT Refusal (Prog PatchStmt) Schedule := do
  let sc ← query ⟨404, "schedule not found"⟩ (.getSchedule id)
  let sc ← applyFor cfg uid (keepExit cfg inp sc) sc
  query ⟨500, dbError⟩ (.updateSchedule sc inp.startAt)

/-- The database at a moment; any statement may fail. -/
def patchSystem (now : Time) : System PatchStmt Agenda Unit Unit Unit where
  exec s _ ag := s.exec now ag
  accepts _ _ := true
  prog _ := pure ()

variable {cfg} {now : Time} {ag : Agenda} {uid : Option UUID} {id : UUID} {inp : ScheduleInput}

/-- **Every edit is refused**, and nothing is written. -/
theorem patch_refused : (patchSystem now).AllEnds ag (patchSchedule cfg uid id inp).run
    fun ag' r => ag' = ag ∧ r = .error ⟨404, "schedule not found"⟩ := by
  rw [patchSchedule, allEnds_bind, allEnds_query]
  refine ⟨⟨rfl, rfl⟩, fun _ sc ag' hexec => ?_⟩
  -- the row would have been read with the columns
  cases hexec

/-- **An edit leaves the time of every schedule**, whatever it names and whatever fails. -/
theorem patch_keeps_nextRunAt : (patchSystem now).AllEnds ag (patchSchedule cfg uid id inp).run
    fun ag' _ => ∀ sc ∈ ag.schedules.rows, ∃ sc' ∈ ag'.schedules.rows,
      sc'.id = sc.id ∧ sc'.nextRunAt = sc.nextRunAt :=
  patch_refused.mono fun _ _ h sc hsc => ⟨sc, h.1 ▸ hsc, rfl, rfl⟩

end Schedules

end PinkGlasses
