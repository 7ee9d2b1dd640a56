import PinkGlasses.Domain
import PinkGlasses.Lib.Table

/-!
# PinkGlasses.Store.Schema

The database: one row type for each table of `migrations/` that the modelled code reads or
writes, with the columns it uses, and `DB`, all tables together. A nullable column is an
`Option`. **Primary keys are part of the tables' type** (`Lib.Table`); foreign keys are
checked by the statements that could violate them, which then fail.
-/

namespace PinkGlasses

/-- `worker_pool`. -/
structure WorkerPool where
  id : UUID
  name : String
  isDefault : Bool := false
  /-- The pool was made for one run and goes with it. -/
  runScoped : Bool := false
  /-- An operator's pool that may run passive stages. -/
  takesDiscovery : Bool := false
deriving Repr, DecidableEq

/-- `worker`. -/
structure Worker where
  id : UUID
  poolID : Option UUID
  name : String
  kind : WorkerKind
  status : WorkerStatus
  capabilities : List String
  maxConcurrency : Int := 8
  runningTasks : Int := 0
  credHash : String := ""
  lastSeenAt : Option Time := none
deriving Repr, DecidableEq

/-- `enrollment_token`. -/
structure EnrollmentToken where
  id : UUID
  tokenHash : String
  poolID : Option UUID
  expiresAt : Time
  maxUses : Int := 1
  uses : Int := 0
  revokedAt : Option Time := none
  kind : WorkerKind := .vps
  preapproved : Bool := false
deriving Repr, DecidableEq

/-- `scope_target`. -/
structure ScopeTarget where
  id : UUID
  scopeID : UUID
  kind : TargetKind
  value : String
  mode : TargetMode
  tags : List String := []
  groupID : Option UUID := none
  authorizedBy : Option String := none
  authorizedAt : Option Time := none
deriving Repr, DecidableEq

/-- `target_group`: a named list of targets. -/
structure TargetGroup where
  id : UUID
  scopeID : UUID
  name : String
deriving Repr, DecidableEq

/-- `scan_profile`: a saved preset of launch parameters; without a `scopeID` it is everybody's. -/
structure ScanProfile where
  id : UUID
  name : String
  scopeID : Option UUID := none
  params : List (String × String) := []
deriving Repr, DecidableEq

/-- `scan_run`. -/
structure ScanRun where
  id : UUID
  scopeID : UUID
  profile : RunProfile
  status : RunStatus
  poolID : Option UUID := none
  vpnConfigID : Option UUID := none
  profileID : Option UUID := none
  /-- The launch parameters, one entry a key. -/
  params : List (String × String) := []
  error : Option String := none
  createdAt : Time := 0
  startedAt : Option Time := none
  finishedAt : Option Time := none
deriving Repr, DecidableEq

/-- `run_target`. -/
structure RunTarget where
  id : UUID
  runID : UUID
  kind : TargetKind
  value : String
  status : TargetStatus := .pending
  skipReason : Option String := none
  tasksTotal : Int := 0
  tasksDone : Int := 0
deriving Repr, DecidableEq

/-- `scan_task`. The `result` column holds a stage summary. -/
structure ScanTask where
  id : UUID
  runID : UUID
  stage : Stage
  target : Target
  requires : List String
  priority : Int
  status : TaskStatus
  poolID : Option UUID
  workerID : Option UUID := none
  workerName : Option String := none
  workerKind : Option WorkerKind := none
  leaseToken : Option UUID := none
  leaseExpiresAt : Option Time := none
  attempts : Nat := 0
  maxAttempts : Nat := 3
  error : Option String := none
  result : Option StageSummary := none
  startedAt : Option Time := none
  finishedAt : Option Time := none
deriving Repr, DecidableEq

/-- `task_origin`: the run target a task serves. -/
structure TaskOrigin where
  taskID : UUID
  runTargetID : UUID
deriving Repr, DecidableEq

/-- `wordlist`. -/
structure Wordlist where
  id : UUID
  name : String
  kind : String
  status : String
  isDefault : Bool := false
deriving Repr, DecidableEq

/-- `run_wordlist`. -/
structure RunWordlist where
  runID : UUID
  wordlistID : UUID
deriving Repr, DecidableEq

/-- `domain`. -/
structure DomainRow where
  id : UUID
  scopeID : UUID
  name : String
  isWildcard : Bool := false
deriving Repr, DecidableEq

/-- `ip_address`; `addr` is the text `host(addr)` gives. -/
structure IPAddress where
  id : UUID
  scopeID : UUID
  addr : String
  isShared : Bool := false
deriving Repr, DecidableEq

/-- `domain_ip`: a name resolves to an address. -/
structure DomainIP where
  domainID : UUID
  ipID : UUID
  via : String
deriving Repr, DecidableEq

/-- `domain_ip_observation`: a run saw a name resolve to an address. -/
structure DomainIPObservation where
  domainID : UUID
  ipID : UUID
  runID : UUID
deriving Repr, DecidableEq

/-- `service`. -/
structure Service where
  id : UUID
  ipID : UUID
  port : Int
  proto : String
  lastState : String
deriving Repr, DecidableEq

/-- `technology`: what runs behind a service. A technology seen without a version has the empty
one. -/
structure Technology where
  serviceID : UUID
  name : String
  version : String
deriving Repr, DecidableEq

/-- `finding`; its asset, kind and title identify it. -/
structure Finding where
  id : UUID
  scopeID : UUID
  assetKind : String
  assetID : UUID
  kind : String
  title : String
deriving Repr, DecidableEq

/-- The kinds `vpn_config.kind` is checked against. -/
inductive VPNKind
  | wireguard | openvpn
deriving Repr, DecidableEq

/-- `app_user`. -/
structure AppUser where
  id : UUID
  username : String
deriving Repr, DecidableEq

/-- `vpn_config`; `config` is the sealed body. -/
structure VPNConfig where
  id : UUID
  ownerID : UUID
  name : String
  kind : VPNKind
  config : String
  lastEgressIP : Option String := none
deriving Repr, DecidableEq

/-- The values of `run_fleet.status`. -/
inductive FleetStatus
  | requested | up | failed | tornDown
deriving Repr, DecidableEq

/-- `run_fleet`. -/
structure RunFleet where
  runID : UUID
  poolID : Option UUID
  workers : Int
  workersAuto : Bool := false
  enrollToken : String
  vpnConfigID : Option UUID
  status : FleetStatus := .requested
  error : Option String := none
  egressIP : Option String := none
  createdAt : Time := 0
  readyAt : Option Time := none
  evidence : Option String := none
deriving Repr, DecidableEq

/-- The database. -/
structure DB where
  pools : Lib.Table WorkerPool WorkerPool.id := .empty
  workers : Lib.Table Worker Worker.id := .empty
  enrollmentTokens : Lib.Table EnrollmentToken EnrollmentToken.id := .empty
  scopeTargets : Lib.Table ScopeTarget ScopeTarget.id := .empty
  targetGroups : Lib.Table TargetGroup TargetGroup.id := .empty
  profiles : Lib.Table ScanProfile ScanProfile.id := .empty
  runs : Lib.Table ScanRun ScanRun.id := .empty
  runTargets : Lib.Table RunTarget RunTarget.id := .empty
  tasks : Lib.Table ScanTask ScanTask.id := .empty
  taskOrigins : List TaskOrigin := []
  wordlists : Lib.Table Wordlist Wordlist.id := .empty
  runWordlists : List RunWordlist := []
  domains : Lib.Table DomainRow DomainRow.id := .empty
  ipAddresses : Lib.Table IPAddress IPAddress.id := .empty
  domainIPs : List DomainIP := []
  domainIPObservations : List DomainIPObservation := []
  services : Lib.Table Service Service.id := .empty
  technologies : List Technology := []
  findings : Lib.Table Finding Finding.id := .empty
  users : Lib.Table AppUser AppUser.id := .empty
  vpnConfigs : Lib.Table VPNConfig VPNConfig.id := .empty
  /-- One fleet a run: `run_id` is the key. -/
  fleets : List RunFleet := []
  /-- The next lease token `gen_random_uuid()` gives; no token is given twice. -/
  nextToken : UUID := 1

/-- What a statement takes from outside the database. -/
structure Env where
  /-- `now()`. -/
  now : Time := 0
  /-- The task rows other transactions hold locked, which `SKIP LOCKED` passes over. -/
  locked : List UUID := []
deriving Repr, DecidableEq

/-- Functions the statements rest on that are not the program's own. -/
structure Outside where
  /-- How PostgreSQL reads an address: the text `host` prints for it, or `none`. -/
  inet : String → Option String := some
  /-- `secret.Open`: the body of a sealed configuration, or `none`. -/
  openSealed : String → Option String := some

/-- `LIKE '%pat%'`, for a pattern text without wildcards. -/
def likeInfix (pat text : String) : Bool := text.toList.tails.any (pat.toList.isPrefixOf ·)

end PinkGlasses
