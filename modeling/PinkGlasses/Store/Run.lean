import Mathlib.Data.List.Induction
import Mathlib.Data.List.Sort
import PinkGlasses.Store.Schema

/-!
# PinkGlasses.Store.Run

The statements of `internal/store/run.go` on `scan_run` and `run_target`, with what a launch and
the planner read beside them: a company's targets (`scope.go`, `targetgroup.go`), presets and
parameters (`scanprofile.go`) and wordlists (`wordlist.go`).
-/

namespace PinkGlasses

/-- `ScopeTarget.Authorized`: active scanning of the target is permitted. -/
def ScopeTarget.authorized (t : ScopeTarget) : Bool :=
  t.mode == .active && t.authorizedBy.isSome && t.authorizedAt.isSome

/-- One row of `domain.MergeTargets`: the first row of a (kind, value) stays, unless a later one
excludes it or, where it is not excluded, authorizes it. -/
def mergeTarget (out : List ScopeTarget) (t : ScopeTarget) : List ScopeTarget :=
  if out.any fun c => c.kind == t.kind && c.value == t.value then
    out.map fun cur =>
      if cur.kind == t.kind && cur.value == t.value then
        if cur.mode == .exclude then cur
        else if t.mode == .exclude then t
        else if !cur.authorized && t.authorized then t
        else cur
      else cur
  else out ++ [t]

/-- `domain.MergeTargets`. -/
def mergeTargets (rows : List ScopeTarget) : List ScopeTarget := rows.foldl mergeTarget []

variable {rows : List ScopeTarget} {t : ScopeTarget}

/-- What a row is about, whatever its group, its tags and its mode. -/
def ScopeTarget.entry (t : ScopeTarget) : TargetKind × String := (t.kind, t.value)

theorem ScopeTarget.entry_eq_iff {t' : ScopeTarget} :
    t.entry = t'.entry ↔ (t.kind == t'.kind && t.value == t'.value) = true := by
  simp [entry]

theorem ScopeTarget.mode_ne_of_authorized (h : t.authorized = true) : t.mode ≠ .exclude := by
  intro hmode
  simp [authorized, hmode] at h

/-- Some row about the entry is like that. -/
def SomeRow (p : ScopeTarget → Prop) (rows : List ScopeTarget) (e : TargetKind × String) : Prop :=
  ∃ t ∈ rows, t.entry = e ∧ p t

/-- The entry is among the targets as an excluded one. -/
def ExcludesEntry (out : List ScopeTarget) (e : TargetKind × String) : Prop :=
  ∃ t ∈ out, t.entry = e ∧ t.mode = .exclude

/-- The entry is among the targets as an authorized one. -/
def AuthorizesEntry (out : List ScopeTarget) (e : TargetKind × String) : Prop :=
  ∃ t ∈ out, t.entry = e ∧ t.authorized = true

theorem someRow_concat {p : ScopeTarget → Prop} {e : TargetKind × String} :
    SomeRow p (rows ++ [t]) e ↔ SomeRow p rows e ∨ (t.entry = e ∧ p t) := by
  simp only [SomeRow, List.mem_append, List.mem_singleton, or_and_right, exists_or, exists_eq_left]

theorem excludesEntry_concat {e : TargetKind × String} :
    ExcludesEntry (rows ++ [t]) e ↔ ExcludesEntry rows e ∨ (t.entry = e ∧ t.mode = .exclude) :=
  someRow_concat

theorem authorizesEntry_concat {e : TargetKind × String} :
    AuthorizesEntry (rows ++ [t]) e ↔ AuthorizesEntry rows e ∨
      (t.entry = e ∧ t.authorized = true) :=
  someRow_concat

/-- **What the merge of the rows is**: their entries, each once and in the order of first
appearance; and the row that stands for an entry is one of them, excluded if any of the entry's rows
is, and else authorized if any is. -/
structure Merged (rows out : List ScopeTarget) : Prop where
  entries : out.map (·.entry) = (rows.map (·.entry)).eraseDups
  nodup : (out.map (·.entry)).Nodup
  mem : ∀ m ∈ out, m ∈ rows
  mode : ∀ m ∈ out, m.mode = .exclude ↔ ExcludesEntry rows m.entry
  authorized : ∀ m ∈ out, m.authorized = true ↔
    ¬ExcludesEntry rows m.entry ∧ AuthorizesEntry rows m.entry

/-- The row that stands for an entry once a further row of it is read. -/
def ScopeTarget.joined (cur t : ScopeTarget) : ScopeTarget :=
  if cur.entry = t.entry then
    if cur.mode == .exclude then cur
    else if t.mode == .exclude then t
    else if !cur.authorized && t.authorized then t
    else cur
  else cur

theorem mergeTarget_eq (out : List ScopeTarget) (t : ScopeTarget) :
    mergeTarget out t =
      if t.entry ∈ out.map (·.entry) then out.map (·.joined t) else out ++ [t] := by
  have hany : (out.any fun c => c.kind == t.kind && c.value == t.value) = true ↔
      t.entry ∈ out.map (·.entry) := by
    simp only [List.any_eq_true, List.mem_map, ← ScopeTarget.entry_eq_iff]
  simp only [mergeTarget, hany, ScopeTarget.joined, ScopeTarget.entry_eq_iff]

namespace ScopeTarget

variable {cur : ScopeTarget}

theorem joined_or (cur t : ScopeTarget) : cur.joined t = cur ∨ cur.joined t = t := by
  unfold joined
  split_ifs <;> simp

@[simp] theorem entry_joined (cur t : ScopeTarget) : (cur.joined t).entry = cur.entry := by
  unfold joined
  split_ifs with hsame <;> simp [hsame]

theorem mode_joined :
    (cur.joined t).mode = .exclude ↔ cur.mode = .exclude ∨
    (t.entry = cur.entry ∧ t.mode = .exclude) := by
  unfold joined
  split_ifs <;> grind

theorem authorized_joined :
    (cur.joined t).authorized = true ↔
      (cur.mode ≠ .exclude ∧ ¬(t.entry = cur.entry ∧ t.mode = .exclude)) ∧
        (cur.authorized = true ∨ (t.entry = cur.entry ∧ t.authorized = true)) := by
  have hcur := @mode_ne_of_authorized cur
  have ht := @mode_ne_of_authorized t
  unfold joined
  split_ifs with hsame hcur ht hauth <;> grind

end ScopeTarget

theorem eraseDups_concat {α : Type} [BEq α] [LawfulBEq α] (l : List α) (a : α) :
    (l ++ [a]).eraseDups = if a ∈ l then l.eraseDups else l.eraseDups ++ [a] := by
  rw [List.eraseDups_append]
  split <;> simp [List.removeAll, List.eraseDups_cons, *]

theorem Merged.row {out : List ScopeTarget} (h : Merged rows out) (t : ScopeTarget) :
    Merged (rows ++ [t]) (mergeTarget out t) := by
  have hmem : t.entry ∈ out.map (·.entry) ↔ t.entry ∈ rows.map (·.entry) := by
    rw [h.entries, List.mem_eraseDups]
  have hentries := eraseDups_concat (rows.map (·.entry)) t.entry
  rw [← h.entries] at hentries
  rw [mergeTarget_eq]
  split
  · rename_i hold
    have hmap : (out.map (·.joined t)).map (·.entry) = out.map (·.entry) := by simp
    rw [if_pos (hmem.mp hold)] at hentries
    refine ⟨by rw [hmap, ← hentries, List.map_append, List.map_singleton],
      hmap ▸ h.nodup, ?_, ?_, ?_⟩
    all_goals
      simp only [List.forall_mem_map]
      intro cur hcur
    · rcases cur.joined_or t with hj | hj <;> simp [hj, h.mem cur hcur]
    · rw [ScopeTarget.mode_joined, h.mode cur hcur, ScopeTarget.entry_joined, excludesEntry_concat]
    · have hauth := h.authorized cur hcur
      rw [ScopeTarget.authorized_joined, ne_eq, h.mode cur hcur, ScopeTarget.entry_joined,
        excludesEntry_concat, authorizesEntry_concat]
      tauto
  · rename_i hnew
    rw [if_neg (mt hmem.mpr hnew)] at hentries
    -- no earlier row is about the entry
    have hnone : ¬ExcludesEntry rows t.entry ∧ ¬AuthorizesEntry rows t.entry := by
      constructor <;>
        exact fun ⟨r, hr, hentry, _⟩ => hnew (hmem.mpr (hentry ▸ List.mem_map_of_mem hr))
    have hother : ∀ m ∈ out, t.entry ≠ m.entry := fun m hm heq =>
      hnew (heq ▸ List.mem_map_of_mem hm)
    refine ⟨by simpa using hentries.symm, ?_, ?_, ?_, ?_⟩
    · rw [List.map_append]
      exact h.nodup.append (List.nodup_singleton _) (by simpa using hnew)
    all_goals
      simp only [List.forall_mem_append, List.forall_mem_singleton]
      refine ⟨fun m hm => ?_, ?_⟩
    · exact List.mem_append_left _ (h.mem m hm)
    · simp
    · simp [excludesEntry_concat, h.mode m hm, hother m hm]
    · simp [excludesEntry_concat, hnone.1]
    · simp [excludesEntry_concat, authorizesEntry_concat, h.authorized m hm, hother m hm]
    · simpa [excludesEntry_concat, authorizesEntry_concat, hnone] using
        ScopeTarget.mode_ne_of_authorized

theorem mergeTargets_merged (rows : List ScopeTarget) : Merged rows (mergeTargets rows) := by
  induction rows using List.reverseRecOn with
  | nil => exact ⟨rfl, List.nodup_nil, nofun, nofun, nofun⟩
  | append_singleton rows t ih =>
    rw [mergeTargets, List.foldl_append]
    exact ih.row t

theorem mem_of_mem_mergeTargets (h : t ∈ mergeTargets rows) : t ∈ rows :=
  (mergeTargets_merged rows).mem t h

/-- **The merged list has every entry once.** -/
theorem nodup_entry_mergeTargets (rows : List ScopeTarget) :
    ((mergeTargets rows).map (·.entry)).Nodup :=
  (mergeTargets_merged rows).nodup

theorem entry_mem_mergeTargets (ht : t ∈ rows) : ∃ m ∈ mergeTargets rows, m.entry = t.entry := by
  refine List.mem_map.mp ?_
  rw [(mergeTargets_merged rows).entries, List.mem_eraseDups]
  exact List.mem_map_of_mem ht

/-- The one merged row of an entry is excluded exactly if some row of the entry is. -/
theorem mode_of_mem_mergeTargets {m : ScopeTarget} (hm : m ∈ mergeTargets rows) :
    m.mode = .exclude ↔ ExcludesEntry rows m.entry :=
  (mergeTargets_merged rows).mode m hm

theorem mergeTargets_of_nodup (h : (rows.map (·.entry)).Nodup) : mergeTargets rows = rows := by
  induction rows using List.reverseRecOn with
  | nil => rfl
  | append_singleton rows t ih =>
    rw [List.map_append, List.nodup_append] at h
    have hnew : t.entry ∉ rows.map (·.entry) := fun hold => h.2.2 _ hold _ (by simp) rfl
    rw [mergeTargets, List.foldl_append, ← mergeTargets, ih h.1, List.foldl_cons, List.foldl_nil,
      mergeTarget_eq, if_neg hnew]

/-- What the merged row of an entry says is what the rows of the entry say. -/
theorem someRow_mergeTargets {p : ScopeTarget → Prop} {e : TargetKind × String} {q : Prop}
    (hp : ∀ m ∈ mergeTargets rows, m.entry = e → (p m ↔ q)) (hq : q → ∃ t ∈ rows, t.entry = e) :
    SomeRow p (mergeTargets rows) e ↔ q := by
  constructor
  · rintro ⟨m, hm, hentry, hpm⟩
    exact (hp m hm hentry).mp hpm
  · intro h
    obtain ⟨t, ht, rfl⟩ := hq h
    obtain ⟨m, hm, hentry⟩ := entry_mem_mergeTargets ht
    exact ⟨m, hm, hentry, (hp m hm hentry).mpr h⟩

theorem excludesEntry_mergeTargets {e : TargetKind × String} :
    ExcludesEntry (mergeTargets rows) e ↔ ExcludesEntry rows e :=
  someRow_mergeTargets (fun m hm hentry => hentry ▸ (mergeTargets_merged rows).mode m hm)
    fun ⟨t, ht, hentry, _⟩ => ⟨t, ht, hentry⟩

theorem authorizesEntry_mergeTargets {e : TargetKind × String} :
    AuthorizesEntry (mergeTargets rows) e ↔ ¬ExcludesEntry rows e ∧ AuthorizesEntry rows e :=
  someRow_mergeTargets (fun m hm hentry => hentry ▸ (mergeTargets_merged rows).authorized m hm)
    fun ⟨_, t, ht, hentry, _⟩ => ⟨t, ht, hentry⟩

/-- **`MergeTargets` keeps one row for every (kind, value), in the order of first appearance.** The
row is excluded exactly if some row of its entry is, and authorized exactly if none is excluded and
some is authorized. What is decided about an entry does not change with the order of the rows, and
merging the result again changes nothing. -/
theorem mergeTargets_decides (rows : List ScopeTarget) :
    ((mergeTargets rows).map (·.entry) = (rows.map (·.entry)).eraseDups ∧
      ((mergeTargets rows).map (·.entry)).Nodup) ∧
    (∀ m ∈ mergeTargets rows,
      (m.mode = .exclude ↔ ∃ t ∈ rows, t.entry = m.entry ∧ t.mode = .exclude) ∧
      (m.authorized = true ↔ (∀ t ∈ rows, t.entry = m.entry → t.mode ≠ .exclude) ∧
        ∃ t ∈ rows, t.entry = m.entry ∧ t.authorized = true)) ∧
    (∀ rows', rows.Perm rows' → ∀ e,
      (ExcludesEntry (mergeTargets rows') e ↔ ExcludesEntry (mergeTargets rows) e) ∧
      (AuthorizesEntry (mergeTargets rows') e ↔ AuthorizesEntry (mergeTargets rows) e)) ∧
    mergeTargets (mergeTargets rows) = mergeTargets rows := by
  have h := mergeTargets_merged rows
  refine ⟨⟨h.entries, h.nodup⟩, fun m hm => ⟨h.mode m hm, ?_⟩, fun rows' hperm e => ?_,
    mergeTargets_of_nodup h.nodup⟩
  · rw [h.authorized m hm]
    simp only [ExcludesEntry, AuthorizesEntry, not_exists, not_and, ne_eq]
  · simp only [excludesEntry_mergeTargets, authorizesEntry_mergeTargets]
    simp only [ExcludesEntry, AuthorizesEntry, hperm.mem_iff, and_self]

namespace Store

/-- `ListTargets`, `ORDER BY kind, value`. An empty tag filters nothing. -/
def listTargets (scopeID : UUID) (tag : String) (db : DB) : List ScopeTarget :=
  (db.scopeTargets.rows.filter fun t =>
      t.scopeID == scopeID && (tag == "" || t.tags.contains tag)).insertionSort
    fun t t' => t.kind.text < t'.kind.text ∨ (t.kind = t'.kind ∧ t.value ≤ t'.value)

/-- `ListRunTargets`, `ORDER BY value`. -/
def listRunTargets (runID : UUID) (db : DB) : List RunTarget :=
  (db.runTargets.rows.filter (·.runID == runID)).insertionSort fun t t' => t.value ≤ t'.value

/-- `RunWordlists`: the ready lists of a run, `ORDER BY name`. -/
def runWordlists (runID : UUID) (db : DB) : List Wordlist :=
  (db.wordlists.rows.filter fun w =>
      w.status == "ready" && db.runWordlists.contains ⟨runID, w.id⟩).insertionSort
    fun w w' => w.name ≤ w'.name

/-- The rows of a new run's targets. -/
def insertRunTargets (runID : UUID) (targets : List (TargetKind × String))
    (t : Lib.Table RunTarget RunTarget.id) : Lib.Table RunTarget RunTarget.id :=
  targets.foldl (fun t kv => t.insert fun id => { id, runID, kind := kv.1, value := kv.2 }) t

/-- The columns `SetRunStatus` sets. -/
def runStatusRow (env : Env) (status : RunStatus) (r : ScanRun) : ScanRun :=
  { r with
    status := status
    startedAt := if status = .running then some (r.startedAt.getD env.now) else r.startedAt
    finishedAt := if status.terminal then some env.now else r.finishedAt }

/-- The columns `SetRunTargetStatus` sets. -/
def runTargetStatusRow (status : TargetStatus) (skipReason : Option String) (r : RunTarget) :
    RunTarget :=
  { r with status := status, skipReason := skipReason }

/-- The runs `FailZombieRuns` gives up on: queued too long and without a single task. -/
def zombie (env : Env) (db : DB) (olderThan : Int) (r : ScanRun) : Bool :=
  r.status == .queued && decide (r.createdAt < env.now - olderThan) &&
    !db.tasks.rows.any (·.runID == r.id)

end Store

/-- The statements on runs, their targets, parameters and wordlists. -/
inductive RunStmt : Type → Type
  | createRun (scopeID : UUID) (profile : RunProfile) (targets : List (TargetKind × String)) :
      RunStmt (ScanRun × List RunTarget)
  | getRun (id : UUID) : RunStmt ScanRun
  | setRunStatus (id : UUID) (status : RunStatus) : RunStmt Unit
  | pauseRun (id : UUID) : RunStmt Bool
  | resumeRun (id : UUID) : RunStmt Bool
  | listRunTargets (runID : UUID) : RunStmt (List RunTarget)
  | setRunTargetStatus (id : UUID) (status : TargetStatus) (skipReason : Option String) :
      RunStmt Unit
  | runningRuns : RunStmt (List ScanRun)
  | failZombieRuns (olderThan : Int) : RunStmt Nat
  | setRunPool (runID poolID : UUID) : RunStmt Unit
  | setRunVPN (runID vpnID : UUID) : RunStmt Unit
  | setRunParams (runID : UUID) (profileID : Option UUID) (params : List (String × String)) :
      RunStmt Unit
  | getRunParams (runID : UUID) : RunStmt (List (String × String))
  | getScanProfileParams (id : UUID) : RunStmt (List (String × String))
  | groupValues (scopeID : UUID) (ids : List UUID) : RunStmt (List String)
  | listTargets (scopeID : UUID) (tag : String) : RunStmt (List ScopeTarget)
  | getWordlist (id : UUID) : RunStmt Wordlist
  | defaultWordlists (kind : String) : RunStmt (List Wordlist)
  | setRunWordlist (runID wordlistID : UUID) : RunStmt Unit
  | runWordlists (runID : UUID) : RunStmt (List Wordlist)

namespace RunStmt

open Store

variable {β : Type}

/-- What a statement answers and does. -/
def exec (env : Env) (db : DB) : RunStmt β → Option (β × DB)
  | createRun scopeID profile targets =>
    -- `run_target` is unique on (run, kind, value)
    if targets.Nodup then
      let id := db.runs.next
      let runTargets := insertRunTargets id targets db.runTargets
      some (({ id, scopeID, profile, status := .queued, createdAt := env.now },
          runTargets.rows.filter (·.runID == id)),
        { db with
          runs := db.runs.insert fun id =>
            { id, scopeID, profile, status := .queued, createdAt := env.now }
          runTargets := runTargets })
    else none
  | getRun id => (db.runs.find? id).map (·, db)
  | setRunStatus id status => some ((), { db with
      runs := db.runs.update (·.id == id) (runStatusRow env status) })
  | pauseRun id =>
    some (db.runs.rows.any fun r => r.id == id && r.status == .running, { db with
      runs := db.runs.update (fun r => r.id == id && r.status == .running)
        fun r => { r with status := .paused } })
  | resumeRun id =>
    some (db.runs.rows.any fun r => r.id == id && r.status == .paused, { db with
      runs := db.runs.update (fun r => r.id == id && r.status == .paused)
        fun r => { r with status := .running } })
  | listRunTargets runID => some (Store.listRunTargets runID db, db)
  | setRunTargetStatus id status skipReason => some ((), { db with
      runTargets := db.runTargets.update (·.id == id) (runTargetStatusRow status skipReason) })
  | runningRuns => some (((db.runs.rows.filter (·.status == .running)).insertionSort
      fun r r' => r.createdAt ≤ r'.createdAt).take 100, db)
  | failZombieRuns olderThan =>
    some (db.runs.rows.countP (zombie env db olderThan), { db with
      runs := db.runs.update (zombie env db olderThan)
        fun r => { r with status := .failed, finishedAt := some env.now } })
  | setRunPool runID poolID =>
    if (db.pools.find? poolID).isNone then none
    else some ((), { db with
      runs := db.runs.update (·.id == runID) fun r => { r with poolID := some poolID } })
  | setRunVPN runID vpnID =>
    if (db.vpnConfigs.find? vpnID).isNone then none
    else some ((), { db with
      runs := db.runs.update (·.id == runID) fun r => { r with vpnConfigID := some vpnID } })
  | setRunParams runID profileID params =>
    if profileID.any fun p => (db.profiles.find? p).isNone then none
    else some ((), { db with
      runs := db.runs.update (·.id == runID)
        fun r => { r with profileID := profileID, params := params } })
  | getRunParams runID => (db.runs.find? runID).map fun r => (r.params, db)
  | getScanProfileParams id => (db.profiles.find? id).map fun p => (p.params, db)
  | groupValues scopeID ids =>
    some (((db.scopeTargets.rows.filter fun t =>
        t.scopeID == scopeID && t.groupID.any (ids.contains ·)).map (·.value)).insertionSort
      (· ≤ ·), db)
  | listTargets scopeID tag => some (Store.listTargets scopeID tag db, db)
  | getWordlist id => (db.wordlists.find? id).map (·, db)
  | defaultWordlists kind =>
    some ((db.wordlists.rows.filter fun w =>
        w.kind == kind && w.isDefault && w.status == "ready").insertionSort
      fun w w' => w.name ≤ w'.name, db)
  | setRunWordlist runID wordlistID =>
    if (db.runs.find? runID).isNone || (db.wordlists.find? wordlistID).isNone then none
    else some ((), { db with
      runWordlists := if db.runWordlists.contains ⟨runID, wordlistID⟩ then db.runWordlists
        else db.runWordlists ++ [⟨runID, wordlistID⟩] })
  | runWordlists runID => some (Store.runWordlists runID db, db)

/-! ### What a statement does to a run -/

/-- The status a statement leaves a run in. -/
def statusAfter (env : Env) (db : DB) : RunStmt β → ScanRun → RunStatus
  | setRunStatus id status, r => if r.id == id then status else r.status
  | pauseRun id, r => if r.id == id && r.status == .running then .paused else r.status
  | resumeRun id, r => if r.id == id && r.status == .paused then .running else r.status
  | failZombieRuns olderThan, r => if zombie env db olderThan r then .failed else r.status
  | _, r => r.status

/-- The parameters a statement leaves a run with. -/
def paramsAfter : RunStmt β → ScanRun → List (String × String)
  | setRunParams runID _ params, r => if r.id == runID then params else r.params
  | _, r => r.params

/-- The run and the pool a statement binds it to. -/
def binds : RunStmt β → Option (UUID × UUID)
  | setRunPool runID poolID => some (runID, poolID)
  | _ => none

/-- The pool a statement leaves a run with. -/
def poolAfter : RunStmt β → ScanRun → Option UUID
  | setRunPool runID poolID, r => if r.id == runID then some poolID else r.poolID
  | _, r => r.poolID

/-- The run a statement creates. -/
def created (env : Env) (db : DB) : RunStmt β → List ScanRun
  | createRun scopeID profile _ =>
    [{ id := db.runs.next, scopeID, profile, status := .queued, createdAt := env.now }]
  | _ => []

/-- What becomes of one existing run. Its company and its profile stay as they were. -/
structure OnRun (env : Env) (db : DB) (s : RunStmt β) (r r' : ScanRun) : Prop where
  id : r'.id = r.id
  scopeID : r'.scopeID = r.scopeID
  profile : r'.profile = r.profile
  status : r'.status = s.statusAfter env db r
  params : r'.params = s.paramsAfter r
  poolID : r'.poolID = s.poolAfter r

variable {env : Env} {db db' : DB} {s : RunStmt β} {b : β}

/-- **The runs after a statement**: the old ones, each moved by `OnRun`, and the created one. -/
theorem exec_runs (h : s.exec env db = some (b, db')) :
    ∃ g, db'.runs.rows = db.runs.rows.map g ++ s.created env db ∧ ∀ r, OnRun env db s r (g r) := by
  have hsame : db'.runs = db.runs → (∀ r, OnRun env db s r r) → s.created env db = [] →
      ∃ g, db'.runs.rows = db.runs.rows.map g ++ s.created env db ∧ ∀ r,
        OnRun env db s r (g r) := by
    intro hruns hon hcreated
    refine ⟨id, ?_, hon⟩
    rw [hruns, List.map_id, hcreated, List.append_nil]
  cases s with
  | createRun scopeID profile targets =>
    simp only [exec] at h
    split at h
    · cases h
      exact ⟨id, by rw [List.map_id]; rfl, fun r => ⟨rfl, rfl, rfl, rfl, rfl, rfl⟩⟩
    · cases h
  | setRunStatus | pauseRun | resumeRun | failZombieRuns =>
    cases h
    refine ⟨_, (List.append_nil _).symm, fun r => ?_⟩
    dsimp only
    split
    · rename_i hsel
      exact ⟨rfl, rfl, rfl, (if_pos hsel).symm, rfl, rfl⟩
    · rename_i hsel
      exact ⟨rfl, rfl, rfl, (if_neg hsel).symm, rfl, rfl⟩
  | setRunPool runID poolID =>
    simp only [exec] at h
    split at h
    · cases h
    · cases h
      refine ⟨_, (List.append_nil _).symm, fun r => ?_⟩
      dsimp only
      split
      · rename_i hsel
        exact ⟨rfl, rfl, rfl, rfl, rfl, (if_pos hsel).symm⟩
      · rename_i hsel
        exact ⟨rfl, rfl, rfl, rfl, rfl, (if_neg hsel).symm⟩
  | setRunVPN =>
    simp only [exec] at h
    split at h
    · cases h
    · cases h
      refine ⟨_, (List.append_nil _).symm, fun r => ?_⟩
      dsimp only
      split <;> exact ⟨rfl, rfl, rfl, rfl, rfl, rfl⟩
  | setRunParams =>
    simp only [exec] at h
    split at h
    · cases h
    · cases h
      refine ⟨_, (List.append_nil _).symm, fun r => ?_⟩
      dsimp only
      split
      · rename_i hsel
        exact ⟨rfl, rfl, rfl, rfl, (if_pos hsel).symm, rfl⟩
      · rename_i hsel
        exact ⟨rfl, rfl, rfl, rfl, (if_neg hsel).symm, rfl⟩
  | setRunWordlist =>
    simp only [exec] at h
    split at h
    · cases h
    · cases h
      exact hsame rfl (fun r => ⟨rfl, rfl, rfl, rfl, rfl, rfl⟩) rfl
  | getRun | getRunParams | getScanProfileParams | getWordlist =>
    obtain ⟨_, _, hdb⟩ := Option.map_eq_some_iff.mp h
    cases hdb
    exact hsame rfl (fun r => ⟨rfl, rfl, rfl, rfl, rfl, rfl⟩) rfl
  | _ =>
    cases h
    exact hsame rfl (fun r => ⟨rfl, rfl, rfl, rfl, rfl, rfl⟩) rfl

theorem exec_runs_next (h : s.exec env db = some (b, db')) :
    db'.runs.next = db.runs.next + (s.created env db).length := by
  cases s with
  | createRun =>
    simp only [exec] at h
    split at h
    · cases h; rfl
    · cases h
  | setRunPool | setRunVPN | setRunParams | setRunWordlist =>
    simp only [exec] at h
    split at h
    · cases h
    · cases h; rfl
  | getRun | getRunParams | getScanProfileParams | getWordlist =>
    obtain ⟨_, _, hdb⟩ := Option.map_eq_some_iff.mp h
    cases hdb
    rfl
  | _ => cases h; rfl

theorem exec_frame (h : s.exec env db = some (b, db')) :
    db' = { db with
      runs := db'.runs, runTargets := db'.runTargets, runWordlists := db'.runWordlists } := by
  cases s with
  | createRun =>
    simp only [exec] at h
    split at h
    · cases h; rfl
    · cases h
  | setRunPool | setRunVPN | setRunParams | setRunWordlist =>
    simp only [exec] at h
    split at h
    · cases h
    · cases h; rfl
  | getRun | getRunParams | getScanProfileParams | getWordlist =>
    obtain ⟨_, _, hdb⟩ := Option.map_eq_some_iff.mp h
    cases hdb
    rfl
  | _ => cases h; rfl

end RunStmt

end PinkGlasses
