import PinkGlasses.Run.Life

/-!
# PinkGlasses.Run.Once

Each address in one port scan. Addresses are compared as addresses here, not as the texts they are
written in. The once-only rule is kept in two places that do not know of each other: `PlanInitial`
expands every target for itself, and `scanNewAddresses` compares texts. So **no address is scanned
twice** exactly as long as the targets of the first plan have no address in common and every address
the run hears of is always written the same way; then `scans_apart` holds in every state of its
life.
-/

namespace PinkGlasses

open Lib Netip Planner Store

/-- The texts are of the same address. -/
def SameAddress (a b : String) : Prop := (parseAddr a).isSome = true ∧ parseAddr a = parseAddr b
deriving Decidable

/-- The addresses the task scans for the run. -/
def scans (runID : UUID) (t : ScanTask) : List String :=
  if t.runID = runID ∧ t.stage = .portScan then targetAddresses t.target else []

/-- No address is named by two port scans of the run. -/
def ScansApart (runID : UUID) (db : DB) : Prop :=
  db.tasks.rows.Pairwise fun t t' => ∀ a ∈ scans runID t, ∀ a' ∈ scans runID t', ¬ SameAddress a a'
deriving Decidable

/-! ### The condition -/

/-- The addresses `PlanInitial` scans for a target. -/
def hostsOf (allowPrivate : Bool) (run : ScanRun) (scopeTargets : List ScopeTarget)
    (t : RunTarget) :
    List String :=
  if run.profile = .passive ∨ authorized scopeTargets t.value = false ∨
      (isPrivateTarget t.value = true ∧ allowPrivate = false) then []
  else match t.kind with
    | .ip => [t.value]
    | .cidr => ScopeGuard.expandCIDRHosts t.value cidrHostCap
    | _ => []

/-- The texts of addresses the run has heard of. -/
def knownTexts (runID : UUID) (db : DB) : List String :=
  reportedAddresses runID db ++ scannedAddresses runID db

/-- **The move keeps the port scans apart**: the first plan is made for a run without port scans and
for targets that have no address in common, and a pass finds every address it knows in one text. -/
def Fits (allowPrivate : Bool) (runID : UUID) (db : DB) : Move → Prop
  | .planInitial targets scopeTargets =>
    scannedAddresses runID db = [] ∧ ∀ run ∈ db.runs.rows, run.id = runID →
      (targets.flatMap (hostsOf allowPrivate run scopeTargets)).Pairwise fun a a' =>
      ¬ SameAddress a a'
  | .advance => ∀ a ∈ knownTexts runID db, ∀ a' ∈ knownTexts runID db, SameAddress a a' → a = a'
  | .other _ _ => True

instance (allowPrivate : Bool) (runID : UUID) (db : DB) (m : Move) :
    Decidable (Fits allowPrivate runID db m) := by
  induction m using Move.casesOn <;> unfold Fits <;> infer_instance

/-! ### Inserting -/

section Insert

variable {runID : UUID} {db db' : DB}

/-- The addresses a planned task scans. -/
def specScans (sp : TaskSpec) : List String :=
  if sp.stage = .portScan then targetAddresses sp.target else []

theorem specScans_of_stage {sp : TaskSpec} (h : sp.stage ≠ .portScan) : specScans sp = [] :=
  if_neg h

theorem scans_newTask (sp : TaskSpec) (id : UUID) :
    scans runID (newTask runID sp id) = specScans sp := by
  have hstage : (newTask runID sp id).stage = sp.stage := rfl
  unfold scans specScans
  rw [hstage, addresses_newTask]
  by_cases h : sp.stage = .portScan
  · rw [if_pos ⟨rfl, h⟩, if_pos h]
  · rw [if_neg fun hand => h hand.2, if_neg h]

/-- Whether a task's addresses are apart from another's is read off what they were planned with. -/
theorem pairwise_newTasks {specs : List TaskSpec} (rt : Routing)
    (h : specs.Pairwise fun sp sp' => ∀ a ∈ specScans sp, ∀ a' ∈ specScans sp', ¬ SameAddress a a')
    (next : UUID) : (newTasks runID (specs.map (routed rt)) next).Pairwise fun t t' =>
      ∀ a ∈ scans runID t, ∀ a' ∈ scans runID t', ¬ SameAddress a a' := by
  induction specs generalizing next with
  | nil => exact .nil
  | cons sp specs ih =>
    obtain ⟨hfirst, hrest⟩ := List.pairwise_cons.mp h
    refine List.Pairwise.cons (fun t ht => ?_) (ih hrest _)
    obtain ⟨sp', hsp', id, rfl⟩ := mem_newTasks ht
    obtain ⟨sp₀, hsp₀, rfl⟩ := List.mem_map.mp hsp'
    rw [scans_newTask, scans_newTask]
    exact hfirst sp₀ hsp₀

/-- **A batch keeps the port scans apart** if its tasks are apart from each other and from those
there are. -/
theorem ScansApart.insert (hdb : ScansApart runID db) {specs : List TaskSpec}
    (hnew : specs.Pairwise fun sp sp' => ∀ a ∈ specScans sp, ∀ a' ∈ specScans sp',
      ¬ SameAddress a a')
    (hcross : ∀ t ∈ db.tasks.rows, ∀ a ∈ scans runID t, ∀ sp ∈ specs, ∀ a' ∈ specScans sp,
      ¬ SameAddress a a') (hins : Inserts runID specs db db') : ScansApart runID db' := by
  cases hins with
  | nothing => exact hdb
  | @batch rt ids _ h =>
    unfold ScansApart
    rw [insertTasks_rows h]
    refine List.pairwise_append.mpr
      ⟨hdb, pairwise_newTasks rt hnew _, fun t ht t' ht' a ha a' ha' => ?_⟩
    obtain ⟨sp', hsp', id, rfl⟩ := mem_newTasks ht'
    obtain ⟨sp₀, hsp₀, rfl⟩ := List.mem_map.mp hsp'
    rw [scans_newTask] at ha'
    exact hcross t ht a ha sp₀ hsp₀ a' ha'

theorem ScansApart.insert_others (hdb : ScansApart runID db) {specs : List TaskSpec}
    (hspecs : ∀ sp ∈ specs, sp.stage ≠ .portScan) (hins : Inserts runID specs db db') :
    ScansApart runID db' := by
  refine hdb.insert (List.pairwise_of_forall_mem_list fun sp hsp _ _ a ha => ?_)
    (fun _ _ _ _ sp hsp a' ha' => ?_) hins
  · rw [specScans_of_stage (hspecs sp hsp)] at ha
    cases ha
  · rw [specScans_of_stage (hspecs sp hsp)] at ha'
    cases ha'

theorem ScansApart.other {β : Type} {out : Outside} {env : Env} {s : Stmt β} {b : β}
    (hdb : ScansApart runID db) (hs : s.plans = false) (hexec : s.exec out env db = some (b, db')) :
    ScansApart runID db' := by
  obtain ⟨g, hrows, hg⟩ := exec_tasks_moved hs hexec
  have hsame : ∀ t, scans runID (g t) = scans runID t := by
    intro t
    obtain ⟨-, hrun, hstage, htarget, -⟩ := (hg t).fixed
    unfold scans
    rw [hrun, hstage, htarget]
  unfold ScansApart
  rw [hrows, List.pairwise_map]
  refine hdb.imp fun {t t'} h => ?_
  rw [hsame, hsame]
  exact h

end Insert

/-! ### The moves -/

section Moves

variable {cfg : ControlConfig} {out : Outside} {runID : UUID} {db : DB} {run : ScanRun}

theorem specScans_planTarget (allowPrivate : Bool) (run : ScanRun) (scopeTargets : List ScopeTarget)
    (t : RunTarget) :
    ((planTarget allowPrivate (run.profile == .passive) scopeTargets t).1.flatMap specScans).Sublist
      (hostsOf allowPrivate run scopeTargets t) := by
  -- of either kind every task scans one address
  have hone : ∀ ip, (specScans (spec .portScan { ip := ip } 100 t.id [capRawSocket])).Sublist
      [ip] := by
    intro ip
    show (([] : List String) ++ if ip = "" then [] else [ip]).Sublist [ip]
    split
    · exact List.nil_sublist _
    · exact List.Sublist.refl _
  have hall : ∀ ips : List String, ((ips.map fun ip =>
      spec .portScan { ip := ip } 100 t.id [capRawSocket]).flatMap specScans).Sublist ips := by
    intro ips
    induction ips with
    | nil => exact List.Sublist.refl _
    | cons ip ips ih => exact (hone ip).append ih
  unfold planTarget hostsOf
  cases t.kind with
  | domain | asn => exact List.nil_sublist _
  | ip | cidr =>
    dsimp only
    split
    · exact List.nil_sublist _
    · split
      · exact List.nil_sublist _
      · split
        · exact List.nil_sublist _
        · rename_i hprofile hauth hprivate
          rw [if_neg (by simp_all)]
          first | exact hall [t.value] | exact hall _

theorem specScans_planTargets (allowPrivate : Bool) (run : ScanRun)
    (scopeTargets : List ScopeTarget)
    (ts : List RunTarget) : ((ts.flatMap fun t =>
      (planTarget allowPrivate (run.profile == .passive) scopeTargets t).1).flatMap
        specScans).Sublist
      (ts.flatMap (hostsOf allowPrivate run scopeTargets)) := by
  induction ts with
  | nil => exact List.Sublist.refl _
  | cons t ts ih =>
    rw [List.flatMap_cons, List.flatMap_cons, List.flatMap_append]
    exact (specScans_planTarget allowPrivate run scopeTargets t).append ih

theorem inScan_of_mem_scans {t : ScanTask} (ht : t ∈ db.tasks.rows) {a : String}
    (ha : a ∈ scans runID t) : InScan db runID a := by
  unfold scans at ha
  split at ha
  · rename_i hscan
    exact ⟨t, ht, hscan.1, hscan.2, ha⟩
  · cases ha

/-- The first plan of a run without port scans scans each address once. -/
theorem scansApart_first {db' : DB} {allowPrivate : Bool} {targets : List RunTarget}
    {scopeTargets : List ScopeTarget} {specs : List TaskSpec} (hdb : ScansApart runID db)
    (hnone : scannedAddresses runID db = [])
    (happart : (targets.flatMap (hostsOf allowPrivate run scopeTargets)).Pairwise
      fun a a' => ¬ SameAddress a a')
    (hspecs : FirstBatch allowPrivate run targets scopeTargets specs)
    (hins : Inserts runID specs db db') : ScansApart runID db' := by
  obtain ⟨brute, rfl, hbrute⟩ := hspecs.split
  have hnil : brute.flatMap specScans = [] :=
    List.flatMap_eq_nil_iff.mpr fun sp hsp =>
      specScans_of_stage (by rw [(hbrute sp hsp).1]; nofun)
  have hpair := happart.sublist (specScans_planTargets allowPrivate run scopeTargets targets)
  rw [← List.append_nil (List.flatMap specScans _), ← hnil, ← List.flatMap_append] at hpair
  refine hdb.insert (List.pairwise_flatMap.mp hpair).2 (fun t ht a ha => ?_) hins
  have hin := mem_scannedAddresses.mpr (inScan_of_mem_scans ht ha)
  rw [hnone] at hin
  cases hin

theorem scansApart_scans {db' : DB} {allowPrivate : Bool} (hrun : run.id = runID)
    (hdb : ScansApart runID db)
    (hone : ∀ a ∈ knownTexts runID db, ∀ a' ∈ knownTexts runID db, SameAddress a a' → a = a')
    (hins : Inserts runID (newScans allowPrivate run db) db db') : ScansApart runID db' := by
  subst hrun
  have hknown : ∀ a, Admitted allowPrivate db run a → a ∈ knownTexts run.id db := by
    intro a hadm
    obtain ⟨t, -, -, -, t', hrep, -⟩ := hadm.authorized
    exact List.mem_append_left _ hrep.mem
  have hadm : ∀ sp ∈ newScans allowPrivate run db, ∀ a ∈ specScans sp,
      Admitted allowPrivate db run a := by
    intro sp hsp a ha
    rw [specScans, if_pos (mem_addressSpecs hsp).1, addresses_newScan hsp] at ha
    exact (count_newScans allowPrivate run db a).2 (List.mem_flatMap.mpr ⟨sp, hsp, ha⟩)
  refine hdb.insert ?_ (fun t ht a ha sp hsp a' ha' hsame => ?_) hins
  · -- the texts differ, so the addresses do
    have hnodup := nodup_newScans allowPrivate run db
    refine (List.pairwise_flatMap.mp hnodup).2.imp_of_mem
      fun {sp sp'} hsp hsp' h a ha a' ha' hsame => ?_
    have heq := hone a (hknown a (hadm sp hsp a ha)) a' (hknown a' (hadm sp' hsp' a' ha')) hsame
    rw [specScans, if_pos (mem_addressSpecs hsp).1, addresses_newScan hsp] at ha
    rw [specScans, if_pos (mem_addressSpecs hsp').1, addresses_newScan hsp'] at ha'
    exact h a ha a' ha' heq
  -- an address with a scan has been seen, and a new scan is of another text
  · have hin := inScan_of_mem_scans ht ha
    have heq := hone a (List.mem_append_right _ (mem_scannedAddresses.mpr hin)) a'
      (hknown a' (hadm sp hsp a' ha')) hsame
    exact (hadm sp hsp a' ha').new (heq ▸ hin)

/-- **Every fitting move keeps the port scans apart.** -/
theorem scansApart_keeps :
    Keeps cfg out runID (ScansApart runID) (Fits cfg.launch.allowPrivate runID) where
  first := by
    intro env db db₁ db' run targets scopeTargets specs hdb hmem hrun hok hstarts
    have hlabel := hstarts.labeled
    have hdb₁ := labeled_keeps (fun hold hs => hold.other (plans_of_labels hs)) hdb hlabel
    refine scansApart_first hdb₁ ?_ (hok.2 run hmem hrun) hstarts.batch (hrun ▸ hstarts.inserts)
    refine List.eq_nil_iff_forall_not_mem.mpr fun a ha => ?_
    have hin := mem_scannedAddresses.mpr (inScan_labeled hlabel (mem_scannedAddresses.mp ha))
    rw [hok.1] at hin
    cases hin
  pass hdb hmem hrun hok hplans := by
    cases hplans with
    | intro hscan hprobes hprobe hwebs hweb =>
      rw [hrun] at hscan hprobe hweb
      have h₁ := scansApart_scans hrun hdb hok hscan
      refine (h₁.insert_others ?_ hprobe).insert_others ?_ hweb
      -- probes and page requests scan no address
      · intro sp hsp
        obtain ⟨t, -, -, -, sv, -, rfl⟩ := hprobes sp hsp
        nofun
      · intro sp hsp hport
        obtain ⟨t, -, -, -, u, -, hstage, -⟩ := hwebs sp hsp
        rw [hport] at hstage
        cases hstage
  finish hdb _ hfin := labeled_keeps
    (fun hold hs => hold.other (plans_of_labels hs)) hdb hfin.labeled
  other hdb _ hexec := hdb.other (by assumption) hexec

end Moves

/-- **Each address is named by at most one port scan of the run**, in every state of a life whose
moves all fit. -/
theorem scans_apart (cfg : ControlConfig) (out : Outside) (runID : UUID) {db : DB}
    {ms : List (Env × Move)} (hdb : ScansApart runID db)
    (hfits : Through cfg out runID (Fits cfg.launch.allowPrivate runID) db ms) :
    ScansApart runID (live cfg out runID db ms) :=
  scansApart_keeps.live hdb hfits

/-! ### Targets that overlap -/

/-- A network and an address in it, both authorized. -/
def overlapScope : List ScopeTarget :=
  [{ id := 1, scopeID := 1, kind := .cidr, value := "192.0.2.0/30", mode := .active,
     authorizedBy := some "owner", authorizedAt := some 0 },
   { id := 2, scopeID := 1, kind := .ip, value := "192.0.2.1", mode := .active,
     authorizedBy := some "owner", authorizedAt := some 0 }]

/-- The run is for both. -/
def overlapTargets : List RunTarget :=
  [{ id := 1, runID := 1, kind := .cidr, value := "192.0.2.0/30" },
   { id := 2, runID := 1, kind := .ip, value := "192.0.2.1" }]

/-- The run is new. -/
def overlapDB : DB where
  pools := oneTaskDB.pools
  runs := oneTaskDB.runs
  scopeTargets := .ofRows overlapScope (by simp [overlapScope])
  runTargets := .ofRows overlapTargets (by simp [overlapTargets])

/-- **The address is in two port scans** as soon as the run is planned. -/
theorem overlapping_targets_scanned_twice :
    ¬ ScansApart 1 (live {} {} 1 overlapDB [({}, .planInitial overlapTargets overlapScope)]) := by
  decide +kernel

/-- With the network alone, planned and then passed over, each of its four addresses is scanned
once. -/
theorem scans_apart_network :
    (live {} {} 1 overlapDB [({}, .planInitial (overlapTargets.take 1) overlapScope),
      ({}, .advance)]).tasks.rows.length = 4 ∧
    ScansApart 1 (live {} {} 1 overlapDB
      [({}, .planInitial (overlapTargets.take 1) overlapScope), ({}, .advance)]) :=
  ⟨by decide +kernel, scans_apart {} {} 1 (by decide +kernel) (by decide +kernel)⟩

end PinkGlasses
