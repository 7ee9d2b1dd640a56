import PinkGlasses.Planner.Program

/-!
# PinkGlasses.Launch

`internal/launch`: how a run starts. `start` checks what it is asked for before any row exists,
creates the run, binds the exit its active stages leave from, and plans its first stage. From the
moment the row exists a refusal **fails the run** instead of deleting it (`failed`), and the two
statements that do so ignore each other's errors.

What the launcher takes from elsewhere is in `LaunchConfig`: the rules for scan parameters, the hash
of an enrolment token, and whether a provisioner is configured.
-/

namespace PinkGlasses

open Lib Lib.Netip Prog

/-- What `internal/launch` takes from its surroundings. -/
structure LaunchConfig where
  /-- `scanparams.Validate`. -/
  validate : List (String × String) → Except String (List (String × String)) := .ok
  /-- `scanparams.WithDefaults`. -/
  withDefaults : List (String × String) → List (String × String) := id
  /-- The hash an enrolment token is stored under. -/
  tokenHash : String → String := id
  /-- `ProvisionerConfigured`. -/
  provisionerConfigured : Bool := true
  /-- `ASM_ALLOW_PRIVATE_TARGETS`. -/
  allowPrivate : Bool := false

/-- An identifier in a request: absent, or a text that `uuid.Parse` reads or refuses. -/
inductive IDText
  | absent
  | bad
  | id (u : UUID)
deriving Repr, DecidableEq

/-- `Options.Exit`. -/
inductive Exit
  | remote | local | unset | other
deriving Repr, DecidableEq

/-- `Options`, with the random token a local exit draws. -/
structure LaunchOptions where
  profile : RunProfile := .standard
  targets : List String := []
  targetGroupIDs : List IDText := []
  tag : String := ""
  all : Bool := false
  userID : Option UUID := none
  exit : Exit := .unset
  vpnConfigID : IDText := .absent
  poolID : IDText := .absent
  workerCount : Int := 0
  profileID : IDText := .absent
  params : List (String × String) := []
  wordlistIDs : List IDText := []
  /-- `rand.Read` in `requestRunFleet`. -/
  token : String := ""
deriving Repr, DecidableEq

/-- `Refusal`. -/
structure Refusal where
  status : Nat
  msg : String
deriving Repr, DecidableEq

/-- A step of the launch: it can refuse. -/
abbrev Launch (α : Type) := ExceptT Refusal (Prog Stmt) α

/-- `exitPlan`. -/
inductive ExitPlan
  | remote (poolID : UUID)
  | local (vpnID : UUID) (workers : Int) (auto : Bool)
deriving Repr, DecidableEq

namespace Launch

/-- Issue a statement; its error refuses with status 500. -/
def ask {α : Type} (s : Stmt α) : Launch α := query ⟨500, dbError⟩ s

/-- Issue a statement whose error is answered here. -/
def «try» {α : Type} (s : Stmt α) : Launch (Option α) := attempt s

/-- Refuse. -/
def refuse {α : Type} (status : Nat) (msg : String) : Launch α := throw ⟨status, msg⟩

/-! ### What the run covers -/

/-- The identifiers among the texts. -/
def parsedIDs (ids : List IDText) : List UUID :=
  ids.filterMap fun | .id u => some u | _ => none

/-- The targets asked for by name, with those of the groups. -/
def wantedTargets (scopeID : UUID) (o : LaunchOptions) : Launch (List String) := do
  if o.targetGroupIDs.isEmpty then pure o.targets
  else
    let vals ← ask (.run (.groupValues scopeID (parsedIDs o.targetGroupIDs)))
    if vals.isEmpty then
      refuse 400 "none of the chosen target groups exist any more, or they are empty"
    else pure (o.targets ++ vals)

/-- The targets a run is created with: never an excluded one. -/
def runTargetsFor (o : LaunchOptions) (want : List String) (scopeTargets : List ScopeTarget) :
    List (TargetKind × String) :=
  (scopeTargets.filter fun t => t.mode != .exclude &&
    ((o.all && o.targetGroupIDs.isEmpty) || o.tag != "" || want.contains t.value)).map
    fun t => (t.kind, t.value)

/-- Why a run would cover nothing. -/
def refuseEmpty (scopeID : UUID) (o : LaunchOptions) : Launch Unit := do
  let all ← «try» (.run (.listTargets scopeID ""))
  if (mergeTargets (all.getD [])).all (·.mode == .exclude) then
    refuse 400 ("this scope has no targets yet — add a domain or CIDR on the Dashboard before " ++
      "scanning")
  else if o.tag ≠ "" then refuse 400 ("no targets carry the tag \"" ++ o.tag ++ "\"")
  else refuse 400 "none of the selected targets are in this scope"

/-- The preset a run starts from. Any preset there is, whoever it belongs to. -/
def profileParams (o : LaunchOptions) : Launch (Option UUID × List (String × String)) := do
  match o.profileID with
  | .id u =>
    match ← «try» (.run (.getScanProfileParams u)) with
    | some params => pure (some u, params)
    | none => pure (none, [])
  | _ => pure (none, [])

/-- `rawParams[k] = v` for every override. -/
def override (params overrides : List (String × String)) : List (String × String) :=
  overrides ++ params.filter fun kv => !overrides.any (·.1 == kv.1)

/-! ### The exit -/

def maxFleetWorkers : Int := 8

def autoFleetCap : Int := 4

def checkExit (cfg : LaunchConfig) (o : LaunchOptions) : Launch ExitPlan := do
  match o.exit with
  | .remote =>
    match o.poolID with
    | .absent =>
      refuse 400 "a remote exit needs pool_id: which pool of enrolled workers should run this scan"
    | .bad => refuse 400 "bad pool id"
    | .id id =>
      match ← «try» (.worker (.getExitPool id)) with
      | none => refuse 400 "that pool does not exist, or belongs to another run"
      | some pool =>
        if pool.activeWorkers = 0 then
          refuse 409 ("pool \"" ++ pool.name ++
            "\" has no active remote worker to run this scan. " ++
            "The standing local workers only run passive stages and are never an exit; enrol a " ++
            "VPS worker under Workers, or scan from local workers behind a VPN")
        else pure (.remote pool.id)
  | .local =>
    if !cfg.provisionerConfigured then
      refuse 400 ("a local exit builds workers and a VPN gateway for this run, but no " ++
        "provisioner is configured to create them: set ASM_PROVISIONER_URL and " ++
        "ASM_PROVISIONER_TOKEN, or scan from a remote pool instead")
    else
      match o.vpnConfigID with
      | .absent =>
        let configs ← match o.userID with
          | some u => «try» (.fleet (.listVPNConfigs u))
          | none => pure none
        if (configs.getD []).isEmpty then
          refuse 409 ("scanning from local workers needs a VPN so the scan never leaves from " ++
            "this host's own address, and your account has no VPN configuration yet: add one " ++
            "under VPN, or scan from a remote pool")
        else refuse 400 "a local exit needs vpn_config_id: which tunnel this scan leaves through"
      | .bad => refuse 400 "bad vpn config id"
      | .id vpnID =>
        match ← «try» (.fleet (.getVPNConfig vpnID)) with
        | none => refuse 400 "unknown vpn config"
        | some vc =>
          if o.userID.any (vc.ownerID != ·) then
            refuse 403 ("that VPN configuration belongs to another account; pick one of yours " ++
              "under VPN")
          else if maxFleetWorkers < o.workerCount then
            refuse 400 ("a run may ask for at most " ++ toString maxFleetWorkers ++ " workers")
          else pure (.local vpnID (max o.workerCount 0) (o.workerCount ≤ 0))
  | .unset =>
    refuse 400 ("this scan sends traffic at its targets, so it needs an exit: \"local\" (own " ++
      "workers behind a VPN) or \"remote\" (a pool of enrolled workers). Only a passive scan " ++
      "needs neither")
  | .other => refuse 400 "exit must be \"local\" or \"remote\""

/-- How many workers a target adds in `autoFleetSize`: a network one a /24, the rest counted apart.
The shift drops what it moves past the last bit. -/
def cidrWorkers (t : TargetKind × String) : Option Int :=
  if t.1 = .cidr then (parseCIDR t.2).map fun net =>
    if 8 < net.ip.bitLen - net.bits then int64 (2 ^ (net.ip.bitLen - net.bits - 8)) else 1
  else none

def autoFleetSize (targets : List (TargetKind × String)) : Int :=
  let n := targets.foldl (fun n t => match cidrWorkers t with
    | some w => int64 (n + w)
    | none => n) 1
  let singles := (targets.filter fun t => (cidrWorkers t).isNone).length
  let n := int64 (n + (singles / 5 : Nat))
  if autoFleetCap < n then autoFleetCap else n

/-- The exit of a run: a passive one needs none, and an automatic fleet is sized from the
targets. -/
def exitFor (cfg : LaunchConfig) (o : LaunchOptions) (targets : List (TargetKind × String)) :
    Launch (Option ExitPlan) := do
  if o.profile = .passive then pure none
  else
    match ← checkExit cfg o with
    | .local vpnID workers auto =>
      pure (some (.local vpnID (if auto then autoFleetSize targets else workers) auto))
    | plan => pure (some plan)

/-! ### Before the row exists -/

/-- What `start` has established before it creates the run. -/
structure Prepared where
  targets : List (TargetKind × String)
  scopeTargets : List ScopeTarget
  profileID : Option UUID
  params : List (String × String)
  exit : Option ExitPlan

/-- The checks of `start`, up to `CreateRun`. -/
def prepare (cfg : LaunchConfig) (scopeID : UUID) (o : LaunchOptions) : Launch Prepared := do
  let want ← wantedTargets scopeID o
  let rows ← ask (.run (.listTargets scopeID o.tag))
  let scopeTargets := mergeTargets rows
  let targets := runTargetsFor o want scopeTargets
  if targets.isEmpty then refuseEmpty scopeID o
  let (profileID, raw) ← profileParams o
  match cfg.validate (override raw o.params) with
  | .error e => refuse 400 ("invalid scan parameter: " ++ e)
  | .ok clean =>
    let exit ← exitFor cfg o targets
    pure { targets, scopeTargets, profileID, params := cfg.withDefaults clean, exit }

/-! ### Once the row exists

From here an error names the run that `failed` gives up: the run, or nothing when it is the re-read
of the run itself that failed. -/

/-- A step that can fail the run. -/
abbrev Bound (α : Type) := ExceptT (UUID × Refusal) (Prog Stmt) α

/-- Issue a statement; its error fails the run. -/
def ask' {α : Type} (runID : UUID) (s : Stmt α) : Bound α := query (runID, ⟨500, dbError⟩) s

/-- The named wordlists, with the kind of each. -/
def namedWordlists (runID : UUID) : List IDText → Bound (List Wordlist)
  | [] => pure []
  | .id u :: ids => do
    match ← (attempt (.run (.getWordlist u)) : Bound _) with
    | none => throw (runID, ⟨400, "unknown wordlist " ++ toString u⟩)
    | some wl =>
      if wl.status ≠ "ready" then
        throw (runID, ⟨400, "wordlist \"" ++ wl.name ++ "\" is not ready (" ++ wl.status ++ ")"⟩)
      let rest ← namedWordlists runID ids
      pure (wl :: rest)
  | _ :: ids => namedWordlists runID ids

/-- The default lists of every kind that was not named. -/
def defaultWordlists (chosen : List String) : List String → Bound (List UUID)
  | [] => pure []
  | kind :: kinds => do
    if chosen.contains kind then defaultWordlists chosen kinds
    else
      let defs ← attempt (.run (.defaultWordlists kind))
      let rest ← defaultWordlists chosen kinds
      pure ((defs.getD []).map (·.id) ++ rest)

def setRunWordlists (runID : UUID) : List UUID → Bound Unit
  | [] => pure ()
  | id :: ids => do
    ask' runID (.run (.setRunWordlist runID id))
    setRunWordlists runID ids

/-- `requestRunFleet`: a pool and an enrolment token of the run's own, and the record of the
fleet. -/
def requestRunFleet (cfg : LaunchConfig) (token : String) (runID : UUID) (count : Int) (auto : Bool)
    (vpnID : UUID) : Bound Unit := do
  let count := max count 1
  if maxFleetWorkers < count then
    throw (runID, ⟨500, "a run may ask for at most " ++ toString maxFleetWorkers ++ " workers"⟩)
  let poolID ← ask' runID (.worker (.createRunPool ("run " ++
    String.ofList ((toString runID).toList.take 8))))
  ask' runID (.run (.setRunPool runID poolID))
  let _ ← ask' runID (.worker (.createEnrollmentToken (cfg.tokenHash token) (some poolID) 1800
    (count + 2) .local))
  ask' runID (.fleet (.createRunFleet
    { runID, poolID := some poolID, workers := count, workersAuto := auto, enrollToken := token
      vpnConfigID := some vpnID }))

def bindExit (cfg : LaunchConfig) (token : String) (runID : UUID) : ExitPlan → Bound Unit
  | .remote poolID => ask' runID (.run (.setRunPool runID poolID))
  | .local vpnID workers auto => do
    ask' runID (.run (.setRunVPN runID vpnID))
    requestRunFleet cfg token runID workers auto vpnID

/-- Bind the exit and re-read the run, which now has its pool. -/
def boundRun (cfg : LaunchConfig) (token : String) (run : ScanRun) :
    Option ExitPlan → Bound ScanRun
  | none => pure run
  | some plan => do
    bindExit cfg token run.id plan
    query (uuidNil, ⟨500, dbError⟩) (.run (.getRun run.id))

/-- An error of the planner fails the run. -/
def planning {α : Type} (runID : UUID) (x : Go α) : Bound α :=
  ExceptT.mk (do let r ← x.run; pure (r.mapError fun e => (runID, ⟨500, e⟩)))

/-- `start` from the created row on. -/
def afterCreate (cfg : LaunchConfig) (o : LaunchOptions) (p : Prepared) (run : ScanRun)
    (saved : List RunTarget) : Bound ScanRun := do
  let named ← namedWordlists run.id o.wordlistIDs
  let defs ← defaultWordlists (named.map (·.kind)) ["dns", "resolvers", "dir"]
  setRunWordlists run.id (named.map (·.id) ++ defs)
  let run ← boundRun cfg o.token run p.exit
  ask' run.id (.run (.setRunParams run.id p.profileID p.params))
  planning run.id (Planner.planInitial cfg.allowPrivate run saved p.scopeTargets)
  pure run

def failed (runID : UUID) : Prog Stmt Unit := do
  let _ ← issue (.task (.cancelRunTasks runID))
  let _ ← issue (.run (.setRunStatus runID .failed))

def start (cfg : LaunchConfig) (scopeID : UUID) (o : LaunchOptions) :
    Prog Stmt (Except Refusal ScanRun) := do
  match ← (prepare cfg scopeID o).run with
  | .error ref => pure (.error ref)
  | .ok p =>
    match ← issue (.run (.createRun scopeID o.profile p.targets)) with
    | none => pure (.error ⟨500, dbError⟩)
    | some (run, saved) =>
      match ← (afterCreate cfg o p run saved).run with
      | .ok run => pure (.ok run)
      | .error (runID, ref) =>
        failed runID
        pure (.error ref)

end Launch

end PinkGlasses
