import PinkGlasses.Delivery.Summary
import PinkGlasses.Lib.Seq

/-!
# PinkGlasses.Delivery.Redelivery

A worker that got no answer delivers its batch **again**, with the same sequence number, and the
gateway does not look at that number. For what a summary lists, a batch that is merged again changes
nothing; its per-source counts are added once more.

Batches processed one after the other leave the fold of their summaries (`Delivered.summary`). So
delivering some batches again gives the same summary exactly if none of those counts a source
(`redelivery_same_iff`).
-/

namespace PinkGlasses

open Lib Prog System Table Gateway Ingest

/-! ### Deliveries in turn -/

/-- The batches of a task, delivered one after the other and all answered 200. -/
inductive Delivered (cfg : GatewayConfig) (out : Outside) (taskID : UUID) :
    DB → List Result → DB → Prop
  | nil {db : DB} : Delivered cfg out taskID db [] db
  | cons {db db₁ db₂ : DB} {req : ResultsRequest} {res : Result} {batches : List Result}
      {h : Hist Stmt} (hbody : req.body = some res) (htask : res.taskID = some taskID)
      (hserved : (gatewaySystem cfg out).Runs [] db (results cfg req) h db₁ 200)
      (hrest : Delivered cfg out taskID db₁ batches db₂) :
      Delivered cfg out taskID db (res :: batches) db₂

variable {db : DB}

section Deliver

variable {cfg : GatewayConfig} {out : Outside} {env : Env} {db db₀ db' : DB} {h h' : Hist Stmt}
  {taskID : UUID} {res : Result} {β : Type} {s : Stmt β} {b : β}

/-- What a request that is served alone knows of its task's summary: until it writes one it is as at
the start (`db₀`), and so is what it reads; what it writes, it is then. -/
def Merging (taskID : UUID) (db₀ : DB) (h : Hist Stmt) (db : DB) : Prop :=
  ∀ t' ∈ db.tasks.rows, t'.id = taskID → ∃ t ∈ db₀.tasks.rows, t.id = taskID ∧
    (Unsaved h → t'.result = t.result) ∧
    (∀ raw, h.Asked (.task (.taskResult taskID)) raw → raw = some t.result) ∧
    ∀ sum r, h.Asked (.task (.setTaskResult taskID sum)) r → t'.result = some sum

theorem Merging.step (hA : Merging taskID db₀ h db) (hpre : s.gatewayPre h)
    (hexec : s.exec out env db = some (b, db')) : Merging taskID db₀ (⟨s, some b⟩ :: h) db' := by
  intro t' ht' hid'
  obtain ⟨t₁, ht₁, hsame, hres⟩ := summary_before hpre hexec ht'
  have hid₁ : t₁.id = taskID := hsame.symm.trans hid'
  obtain ⟨t, ht, hid, hkept, hread, hset⟩ := hA t₁ ht₁ hid₁
  refine ⟨t, ht, hid, fun hu => ?_, fun raw hraw => ?_, fun sum r hsum => ?_⟩
  · obtain ⟨hs, hu⟩ := List.forall_mem_cons.mp hu
    rcases hres with hres | ⟨sum, hstored, -⟩
    · exact hres.trans (hkept hu)
    · rw [hs] at hstored
      cases hstored
  -- the summary just read is the one of the start, since nothing was written before
  · rcases hraw with _ | ⟨_, hraw⟩
    · obtain ⟨row, hrow, hanswer⟩ := Option.map_eq_some_iff.mp hexec
      cases hanswer
      obtain ⟨hmem, hkey⟩ := find?_eq_some.mp hrow
      rw [← hkept hpre, eq_of_key ht₁ hmem (hid₁.trans hkey.symm)]
    · exact hread raw hraw
  · rcases hsum with _ | ⟨_, hold⟩
    · exact result_of_set hexec ht' hid'
    · rcases hres with hres | ⟨sum', hstored, hres⟩
      · exact hres.trans (hset sum r hold)
      · -- a second write is of the same summary
        cases s with
        | task s =>
          cases s with
          | setTaskResult =>
            cases hstored
            obtain ⟨-, -, -, -, -, -, -, honce⟩ := hpre
            have heq := honce _ hold _ rfl
            cases heq
            exact hres
          | _ => cases hstored
        | _ => cases hstored

/-- Neither a read nor a write of the summary of a task that is there is refused. -/
theorem Merging.fail (hA : Merging taskID db₀ h db) (hexec : s.exec out env db = none) :
    Merging taskID db₀ (⟨s, none⟩ :: h) db := by
  intro t' ht' hid'
  obtain ⟨t, ht, hid, hkept, hread, hset⟩ := hA t' ht' hid'
  refine ⟨t, ht, hid, fun hu => hkept (List.forall_mem_cons.mp hu).2, fun raw hraw => ?_,
    fun sum r hsum => ?_⟩
  · rcases hraw with _ | ⟨_, hraw⟩
    · exact absurd hid' (find?_eq_none.mp (Option.map_eq_none_iff.mp hexec) t' ht')
    · exact hread raw hraw
  · rcases hsum with _ | ⟨_, hsum⟩
    · cases hexec
    · exact hset sum r hsum

/-- **A batch that is answered 200 is merged into the task's summary.** -/
theorem results_runs {req : ResultsRequest} (hbody : req.body = some res)
    (htask : res.taskID = some taskID)
    (hr : (gatewaySystem cfg out).Runs [] db (results cfg req) h' db' 200) :
    ∀ t' ∈ db'.tasks.rows, t'.id = taskID → ∃ t ∈ db.tasks.rows, t.id = taskID ∧
      decode t'.result =
        mergeSummary (decode t.result) (summarize res.observations) := by
  intro t' ht' hid'
  have hend : Merging taskID db h' db' := runs_inv (results_meets cfg req) hr (Merging taskID db)
    (fun t ht hid => ⟨t, ht, hid, fun _ => rfl, nofun, nofun⟩)
    (fun hA hpre hexec => hA.step hpre.1 hexec) fun hA _ hexec => hA.fail hexec
  obtain ⟨raw, r, hread, hset⟩ :=
    runs_meets (results_meets cfg req) hr req res rfl hbody taskID htask
  obtain ⟨t, ht, hid, -, hraw, hsum⟩ := hend t' ht' hid'
  refine ⟨t, ht, hid, ?_⟩
  rw [hsum _ r hset, hraw raw hread]
  rfl

/-- **Batches in turn leave the fold of their summaries.** -/
theorem Delivered.summary {batches : List Result} (hd : Delivered cfg out taskID db batches db') :
    ∀ t' ∈ db'.tasks.rows, t'.id = taskID → ∃ t ∈ db.tasks.rows, t.id = taskID ∧
      decode t'.result = (batches.map fun r => summarize r.observations).foldl
        mergeSummary (decode t.result) := by
  induction hd with
  | nil => exact fun t ht hid => ⟨t, ht, hid, rfl⟩
  | cons hbody htask hserved _ ih =>
    intro t' ht' hid'
    obtain ⟨t₁, ht₁, hid₁, hfold⟩ := ih t' ht' hid'
    obtain ⟨t, ht, hid, hmerge⟩ := results_runs hbody htask hserved t₁ ht₁ hid₁
    refine ⟨t, ht, hid, ?_⟩
    rw [List.map_cons, List.foldl_cons, ← hmerge]
    exact hfold

end Deliver

/-! ### Delivering again -/

/-- **Delivering batches again leaves the summary as it would be**, had each distinct batch been
delivered once, exactly if none of the batches that are delivered again counts a source. -/
theorem redelivery_same_iff (cfg : GatewayConfig) (out : Outside) {db db₁ db₂ : DB} {taskID : UUID}
    {batches : List Result}
    (hsame : ∀ r ∈ batches, ∀ r' ∈ batches, r.seq = r'.seq → r.observations = r'.observations)
    (hall : Delivered cfg out taskID db batches db₁)
    (honce : Delivered cfg out taskID db (firstsBy Result.seq [] batches) db₂)
    {t₁ t₂ : ScanTask} (ht₁ : t₁ ∈ db₁.tasks.rows) (hid₁ : t₁.id = taskID)
    (ht₂ : t₂ ∈ db₂.tasks.rows) (hid₂ : t₂.id = taskID) :
    SameSummary (decode t₁.result) (decode t₂.result) ↔
      ∀ r ∈ againBy Result.seq [] batches, ¬ Sourced r.observations := by
  obtain ⟨t, ht, hid, hsum₁⟩ := hall.summary t₁ ht₁ hid₁
  obtain ⟨t', ht', hid', hsum₂⟩ := honce.summary t₂ ht₂ hid₂
  cases eq_of_key ht ht' (hid.trans hid'.symm)
  rw [hsum₁, hsum₂]
  -- the same summaries are merged, only not as often
  rw [sameSummary_foldl_iff]
  · have hsplit : ∀ src, (batches.map fun r => addedFor (summarize r.observations).sources
        src).sum = _ := fun src => sum_firstsBy_add Result.seq _ [] batches
    simp only [List.map_map, Function.comp_def, hsplit, Nat.add_eq_left,
      List.sum_eq_zero_iff_forall_eq_nat, List.mem_map, forall_exists_index, and_imp,
      forall_apply_eq_imp_iff₂]
    rw [forall_comm]
    refine forall_congr' fun r => ?_
    rw [forall_comm]
    exact forall_congr' fun _ => addedFor_summarize_eq_zero
  · intro add
    simp only [List.mem_map]
    constructor
    · rintro ⟨r, hr, rfl⟩
      rcases exists_mem_firstsBy Result.seq [] hr with hseen | ⟨r', hr', hseq⟩
      · cases hseen
      · exact ⟨r', hr', by rw [hsame r' (firstsBy_subset _ _ _ hr') r hr hseq]⟩
    · rintro ⟨r, hr, rfl⟩
      exact ⟨r, firstsBy_subset _ _ _ hr, rfl⟩

/-- The worker delivers a batch of its task. -/
def batchDelivery (batch : Result) : ResultsRequest where
  workerID := some 1
  credential := "secret"
  body := some batch

/-- The database after it, and the answer. -/
def afterDelivery (db : DB) (batch : Result) : DB × Nat :=
  ((gatewaySystem {} {}).serve {} [] db (results {} (batchDelivery batch))).2

theorem Delivered.batch {taskID : UUID} {db' : DB} {batch : Result} {batches : List Result}
    (htask : batch.taskID = some taskID) (hanswer : (afterDelivery db batch).2 = 200)
    (hrest : Delivered {} {} taskID (afterDelivery db batch).1 batches db') :
    Delivered {} {} taskID db (batch :: batches) db' := by
  have hbody : (batchDelivery batch).body = some batch := rfl
  exact .cons hbody htask (runs_of_serve _ hanswer) hrest

/-- A name, and where it was found. -/
def nameBatch : Result where
  taskID := some 1
  leaseToken := some 1
  observations := [{ type := .subdomain, domain := "www.example.org", source := "crtsh" }]

/-- The batch is delivered twice, and its source counted twice. -/
theorem redelivered_source_counted_twice :
    Delivered {} {} 1 leasedTaskDB [nameBatch, nameBatch]
      (afterDelivery (afterDelivery leasedTaskDB nameBatch).1 nameBatch).1 ∧
    Delivered {} {} 1 leasedTaskDB (firstsBy Result.seq [] [nameBatch, nameBatch])
      (afterDelivery leasedTaskDB nameBatch).1 ∧
    ∃ t₁ ∈ (afterDelivery (afterDelivery leasedTaskDB nameBatch).1 nameBatch).1.tasks.rows,
      ∃ t₂ ∈ (afterDelivery leasedTaskDB nameBatch).1.tasks.rows,
        (t₁.id = 1 ∧ (decode t₁.result).sources = [("crtsh", 2)]) ∧
        (t₂.id = 1 ∧ (decode t₂.result).sources = [("crtsh", 1)]) ∧
        ¬ SameSummary (decode t₁.result) (decode t₂.result) := by
  have hfirst : (afterDelivery leasedTaskDB nameBatch).2 = 200 := by decide +kernel
  have hagain : (afterDelivery (afterDelivery leasedTaskDB nameBatch).1 nameBatch).2 = 200 := by
    decide +kernel
  have hcounts : ∃ t₁ ∈ (afterDelivery (afterDelivery leasedTaskDB nameBatch).1
      nameBatch).1.tasks.rows, ∃ t₂ ∈ (afterDelivery leasedTaskDB nameBatch).1.tasks.rows,
        (t₁.id = 1 ∧ (decode t₁.result).sources = [("crtsh", 2)]) ∧
        (t₂.id = 1 ∧ (decode t₂.result).sources = [("crtsh", 1)]) := by decide +kernel
  refine ⟨.batch rfl hfirst (.batch rfl hagain .nil), .batch rfl hfirst .nil, ?_⟩
  obtain ⟨t₁, ht₁, t₂, ht₂, hsources₁, hsources₂⟩ := hcounts
  refine ⟨t₁, ht₁, t₂, ht₂, hsources₁, hsources₂, fun hsame => ?_⟩
  have hcrtsh := hsame.sources "crtsh"
  rw [hsources₁.2, hsources₂.2] at hcrtsh
  exact absurd hcrtsh (by decide +kernel)

/-- An open port. -/
def portBatch : Result where
  taskID := some 1
  leaseToken := some 1
  observations := [{ type := .service, ip := "192.0.2.1", port := 22 }]

theorem redelivered_port_iff :
    (Delivered {} {} 1 leasedTaskDB [portBatch, portBatch]
        (afterDelivery (afterDelivery leasedTaskDB portBatch).1 portBatch).1 ∧
      Delivered {} {} 1 leasedTaskDB (firstsBy Result.seq [] [portBatch, portBatch])
        (afterDelivery leasedTaskDB portBatch).1) ∧
    ∃ t₁ ∈ (afterDelivery (afterDelivery leasedTaskDB portBatch).1 portBatch).1.tasks.rows,
      ∃ t₂ ∈ (afterDelivery leasedTaskDB portBatch).1.tasks.rows, t₁.id = 1 ∧ t₂.id = 1 ∧
        (SameSummary (decode t₁.result) (decode t₂.result) ↔
          ∀ r ∈ againBy Result.seq [] [portBatch, portBatch], ¬ Sourced r.observations) := by
  have hfirst : (afterDelivery leasedTaskDB portBatch).2 = 200 := by decide +kernel
  have hagain : (afterDelivery (afterDelivery leasedTaskDB portBatch).1 portBatch).2 = 200 := by
    decide +kernel
  have hrows : ∃ t₁ ∈ (afterDelivery (afterDelivery leasedTaskDB portBatch).1
      portBatch).1.tasks.rows, ∃ t₂ ∈ (afterDelivery leasedTaskDB portBatch).1.tasks.rows,
        t₁.id = 1 ∧ t₂.id = 1 := by decide +kernel
  have hall : Delivered {} {} 1 leasedTaskDB [portBatch, portBatch] _ :=
    .batch rfl hfirst (.batch rfl hagain .nil)
  have honce : Delivered {} {} 1 leasedTaskDB (firstsBy Result.seq [] [portBatch, portBatch]) _ :=
    .batch rfl hfirst .nil
  obtain ⟨t₁, ht₁, t₂, ht₂, hid₁, hid₂⟩ := hrows
  exact ⟨⟨hall, honce⟩, t₁, ht₁, t₂, ht₂, hid₁, hid₂,
    redelivery_same_iff {} {} (by simp) hall honce ht₁ hid₁ ht₂ hid₂⟩

/-- **The order in which batches arrive does not matter**: the same batches in another order, from
the same database and all answered 200, leave a summary that says the same. -/
theorem summary_of_any_order (cfg : GatewayConfig) (out : Outside) {db₁ db₂ : DB} {taskID : UUID}
    {batches batches' : List Result} (hperm : batches.Perm batches')
    (h₁ : Delivered cfg out taskID db batches db₁) (h₂ : Delivered cfg out taskID db batches' db₂)
    {t₁ t₂ : ScanTask} (ht₁ : t₁ ∈ db₁.tasks.rows) (hid₁ : t₁.id = taskID)
    (ht₂ : t₂ ∈ db₂.tasks.rows) (hid₂ : t₂.id = taskID) :
    SameSummary (decode t₁.result) (decode t₂.result) := by
  obtain ⟨t, ht, hid, hsum₁⟩ := h₁.summary t₁ ht₁ hid₁
  obtain ⟨t', ht', hid', hsum₂⟩ := h₂.summary t₂ ht₂ hid₂
  cases eq_of_key ht ht' (hid.trans hid'.symm)
  rw [hsum₁, hsum₂]
  have hadds := hperm.map fun r => summarize r.observations
  exact (sameSummary_foldl_iff _ fun _ => hadds.mem_iff).mpr fun src => (hadds.map _).sum_nat

/-- Two batches, delivered in turn. -/
def afterBoth (a b : Result) : DB × Nat := afterDelivery (afterDelivery leasedTaskDB a).1 b

theorem summary_of_any_order_swapped :
    ∃ t₁ ∈ (afterBoth nameBatch portBatch).1.tasks.rows,
      ∃ t₂ ∈ (afterBoth portBatch nameBatch).1.tasks.rows,
        (t₁.id = 1 ∧ t₂.id = 1) ∧ SameSummary (decode t₁.result) (decode t₂.result) := by
  have hrows : ∃ t₁ ∈ (afterBoth nameBatch portBatch).1.tasks.rows,
      ∃ t₂ ∈ (afterBoth portBatch nameBatch).1.tasks.rows, t₁.id = 1 ∧
        t₂.id = 1 := by decide +kernel
  obtain ⟨t₁, ht₁, t₂, ht₂, hid₁, hid₂⟩ := hrows
  exact ⟨t₁, ht₁, t₂, ht₂, ⟨hid₁, hid₂⟩, summary_of_any_order {} {} (.swap _ _ [])
    (.batch rfl (by decide +kernel) (.batch rfl (by decide +kernel) .nil))
    (.batch rfl (by decide +kernel) (.batch rfl (by decide +kernel) .nil)) ht₁ hid₁ ht₂ hid₂⟩

end PinkGlasses
