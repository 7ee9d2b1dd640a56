import PinkGlasses.Delivery.Merge
import PinkGlasses.GatewayTrace

/-!
# PinkGlasses.Delivery.Summary

A delivery that is answered 200 should be in its task's summary: **everything its batch lists is
listed there**, whatever other deliveries for the task were under way.

`mergeTaskSummary` reads the summary, merges and writes it back in two statements, and `Complete`
writes the same merged value once more. Two deliveries that overlap between the read and the last
write lose what the first one wrote, and both are answered 200; so are deliveries whose read or
write failed, since the handler goes on. Where no summary is written while another request has read
it and is not done (`Exclusive`), every accepted batch is covered, in every state of every run
(`accepted_batches_covered`).
-/

namespace PinkGlasses

open Lib Prog Gateway Ingest

variable {β : Type}

/-- The task whose summary a statement reads. -/
def TaskStmt.readsSummary : TaskStmt β → Option UUID
  | taskResult taskID => some taskID
  | _ => none

def Stmt.readsSummary : Stmt β → Option UUID
  | task s => s.readsSummary
  | _ => none

/-! ### Runs -/

/-- The gateway, with each request kept beside its answer. -/
def deliverySystem (cfg : GatewayConfig) (out : Outside) :
    System Stmt DB Env GatewayRequest (GatewayRequest × Nat) :=
  (gatewaySystem cfg out).answered

/-- **Every batch that was answered 200 is covered** by the summary of its task. -/
def AcceptedCovered (c : Conf Stmt DB (GatewayRequest × Nat)) : Prop :=
  ∀ th ∈ c.threads, ∀ req res, th.prog.result = some (.results req, 200) → req.body = some res →
    ∀ taskID, res.taskID = some taskID → ∀ t ∈ c.state.tasks.rows, t.id = taskID →
      Covers (decode t.result) (summarize res.observations)

/-- The request has read the task's summary. -/
def HasRead (h : Hist Stmt) (taskID : UUID) : Prop :=
  ∃ c ∈ h, c.stmt.readsSummary = some taskID
deriving Decidable

/-- A summary is written while no other request that has read it is under way, by a request whose
own read did not fail. -/
def Exclusive (c : Conf Stmt DB (GatewayRequest × Nat)) (i : Nat) (β : Type) (s : Stmt β) : Prop :=
  ∀ x ∈ s.stored,
    (∀ th ∈ c.threads.eraseIdx i, th.prog.finished = false → ¬ HasRead th.hist x.1) ∧
    ∀ th ∈ c.threads[i]?, ∀ call ∈ th.hist, call.stmt.readsSummary = some x.1 →
      call.answer.isSome = true
deriving Decidable

/-- No write of a summary has failed. -/
def Saved (c : Conf Stmt DB (GatewayRequest × Nat)) : Prop :=
  ∀ th ∈ c.threads, ∀ call ∈ th.hist, call.stmt.stored.isSome = true → call.answer.isSome = true
deriving Decidable

/-- What a request may assume of the summaries it has read and written. -/
structure Booked (db : DB) (th : Thread Stmt (GatewayRequest × Nat)) : Prop where
  /-- While it is under way, a summary it read is as it was read, or as it wrote it. -/
  current : th.prog.finished = false → ∀ taskID raw,
    th.hist.Asked (.task (.taskResult taskID)) (some raw) → ∀ t ∈ db.tasks.rows, t.id = taskID →
      t.result = raw ∨
        ∃ sum r, th.hist.Asked (.task (.setTaskResult taskID sum)) r ∧ t.result = some sum
  /-- What it wrote is covered ever after. -/
  saved : ∀ taskID sum, th.hist.Asked (.task (.setTaskResult taskID sum)) (some ()) →
    ∀ t ∈ db.tasks.rows, t.id = taskID → Covers (decode t.result) sum

section Step

variable {out : Outside} {env : Env} {c : Conf Stmt DB (GatewayRequest × Nat)} {i : Nat}
  {h : Hist Stmt} {s : Stmt β} {k : Option β → Prog Stmt (GatewayRequest × Nat)} {b : β} {db' : DB}

/-- No task is new, and a summary that changes is the one that is written. -/
theorem summary_before {db : DB} (hpre : s.gatewayPre h)
    (hexec : s.exec out env db = some (b, db')) {t' : ScanTask} (ht' : t' ∈ db'.tasks.rows) :
    ∃ t ∈ db.tasks.rows, t'.id = t.id ∧ (t'.result = t.result ∨
      ∃ sum, s.stored = some (t.id, sum) ∧ t'.result = some sum) := by
  rcases Stmt.task_before hexec ht' with ⟨t, ht, hstep⟩ | hins
  · exact ⟨t, ht, hstep.fixed.1, hstep.result⟩
  · cases s with
    | task s =>
      cases s with
      | insertTasks => cases hpre
      | _ => cases hins
    | _ => cases hins

theorem result_of_set {db : DB} {taskID : UUID} {sum : StageSummary} {u : Unit}
    (hexec : (Stmt.task (.setTaskResult taskID sum)).exec out env db = some (u, db'))
    {t' : ScanTask}
    (ht' : t' ∈ db'.tasks.rows) (hid : t'.id = taskID) : t'.result = some sum := by
  rcases Stmt.task_before hexec ht' with ⟨t, -, hstep⟩ | hins
  · have hsel : (TaskStmt.setTaskResult taskID sum).selects env db t = true :=
      beq_iff_eq.mpr (hstep.fixed.1.symm.trans hid)
    rw [show t' = _ from hstep, TaskStmt.onTask_selected hsel]
    rfl
  · cases hins

theorem Booked.failed {db : DB} (hbook : Booked db ⟨h, .call s k⟩) :
    Booked db ⟨⟨s, none⟩ :: h, k none⟩ where
  saved := by
    intro taskID sum hset
    rcases hset with _ | ⟨_, hset⟩
    exact hbook.saved taskID sum hset
  current := by
    intro _ taskID raw hread t ht hid
    rcases hread with _ | ⟨_, hread⟩
    rcases hbook.current rfl taskID raw hread t ht hid with hraw | ⟨sum, r, hset, hsum⟩
    · exact .inl hraw
    · exact .inr ⟨sum, r, List.mem_cons_of_mem _ hset, hsum⟩

variable (hth : c.threads[i]? = some ⟨h, .call s k⟩) (hbook : Booked c.state ⟨h, .call s k⟩)
  (hpre : s.gatewayPre h) (hok : Exclusive c i β s)

include hth hbook hpre hok

/-- **A written summary covers the one it replaces.** -/
theorem covers_before {t : ScanTask} (ht : t ∈ c.state.tasks.rows) {sum : StageSummary}
    (hstored : s.stored = some (t.id, sum)) : Covers sum (decode t.result) := by
  cases s with
  | task s =>
    cases s with
    | setTaskResult taskID sum =>
      cases hstored
      obtain ⟨-, -, raw, add, -, hread, hsum, honce⟩ := hpre
      -- the request's own read was answered
      have hsome := (hok _ rfl).2 _ hth _ hread rfl
      cases raw with
      | none => cases hsome
      | some raw =>
        rcases hbook.current rfl t.id raw hread t ht rfl with hraw | ⟨sum', r, hset, hres⟩
        · rw [hraw, hsum]
          exact covers_merge_left _ _
        · have heq := honce _ hset _ rfl
          cases heq
          rw [hres]
          exact Covers.refl _
    | _ => cases hstored
  | _ => cases hstored

variable (hexec : s.exec out env c.state = some (b, db'))

include hexec

theorem Booked.saved_after {th : Thread Stmt (GatewayRequest × Nat)} (hother : Booked c.state th) :
    ∀ taskID sum,
      th.hist.Asked (.task (.setTaskResult taskID sum)) (some ()) →
      ∀ t ∈ db'.tasks.rows, t.id = taskID → Covers (decode t.result) sum := by
  intro taskID sum hset t' ht' hid
  obtain ⟨t, ht, hsame, hres⟩ := summary_before hpre hexec ht'
  have hold := hother.saved taskID sum hset t ht (hsame.symm.trans hid)
  rcases hres with hres | ⟨sum', hstored, hres⟩
  · rw [hres]
    exact hold
  · rw [hres]
    exact (covers_before hth hbook hpre hok ht hstored).trans hold

theorem Booked.other {j : Nat} {th : Thread Stmt (GatewayRequest × Nat)} (hji : j ≠ i)
    (hj : c.threads[j]? = some th) (hother : Booked c.state th) : Booked db' th where
  saved := hbook.saved_after hth hpre hok hexec hother
  current := by
    intro hunfinished taskID raw hread t' ht' hid
    obtain ⟨t, ht, hsame, hres⟩ := summary_before hpre hexec ht'
    rcases hres with hres | ⟨sum, hstored, -⟩
    · rw [hres]
      exact hother.current hunfinished taskID raw hread t ht (hsame.symm.trans hid)
    · -- it would have been written under this request's eyes
      have hmem : th ∈ c.threads.eraseIdx i := List.mem_eraseIdx_iff_getElem?.mpr ⟨j, hji, hj⟩
      refine absurd ⟨_, hread, ?_⟩ ((hok _ hstored).1 th hmem hunfinished)
      show some taskID = some t.id
      rw [← hsame, hid]

theorem Booked.self : Booked db' ⟨⟨s, some b⟩ :: h, k (some b)⟩ where
  saved := by
    intro taskID sum hset t' ht' hid
    rcases hset with _ | ⟨_, hset⟩
    · rw [result_of_set hexec ht' hid]
      exact Covers.refl sum
    · exact hbook.saved_after hth hpre hok hexec hbook taskID sum hset t' ht' hid
  current := by
    intro _ taskID raw hread t' ht' hid
    obtain ⟨t, ht, hsame, hres⟩ := summary_before hpre hexec ht'
    rcases hres with hres | ⟨sum, hstored, hres⟩
    · rw [hres]
      rcases List.mem_cons.mp hread with heq | hread
      · -- it has just been read
        cases heq
        obtain ⟨row, hrow, hraw⟩ := Option.map_eq_some_iff.mp hexec
        cases hraw
        obtain ⟨hmem, hkey⟩ := Table.find?_eq_some.mp hrow
        rw [Table.eq_of_key ht hmem (hsame.symm.trans (hid.trans hkey.symm))]
        exact .inl rfl
      · rcases hbook.current rfl taskID raw hread t ht (hsame.symm.trans hid) with hraw | hset
        · exact .inl hraw
        · obtain ⟨sum, r, hset, hsum⟩ := hset
          exact .inr ⟨sum, r, List.mem_cons_of_mem _ hset, hsum⟩
    · cases s with
      | task s =>
        cases s with
        | setTaskResult =>
          cases hstored
          refine .inr ⟨sum, some b, ?_, hres⟩
          rw [← hid, hsame]
          exact Hist.asked_head ..
        | _ => cases hstored
      | _ => cases hstored

end Step

/-- The invariant of deliveries under the condition. -/
theorem summary_inductive (cfg : GatewayConfig) (out : Outside) :
    System.Inductive (deliverySystem cfg out) Exclusive gatewayContract summaryPost
      (fun _ => True) Booked := by
  refine ⟨fun _ r _ _ => ⟨⟨?_, ?_⟩, Prog.meets_bind.mpr (answered_meets cfg r)⟩, ?_,
    fun _ hbook _ => hbook.failed⟩
  · intro _ _ _ hread
    cases hread
  · intro _ _ hset
    cases hset
  · intro c i h β s k env b db' hc hth hpre hok hexec
    have hbook := hc.threads _ (List.mem_of_getElem? hth)
    exact ⟨trivial, hbook.self hth hpre hok hexec,
      fun j th hji hj hother => hbook.other hth hpre hok hexec hji hj hother⟩

/-- **Every accepted batch is in its task's summary**, in every state of every run of the gateway's
requests in which summaries are written undisturbed and no read or write of one fails. -/
theorem accepted_batches_covered (cfg : GatewayConfig) (out : Outside) (db : DB)
    (es : List (Event GatewayRequest Env))
    (hok : (deliverySystem cfg out).Along Exclusive ⟨db, []⟩ es)
    (hsaved : Saved ((deliverySystem cfg out).run ⟨db, []⟩ es)) :
    AcceptedCovered ((deliverySystem cfg out).run ⟨db, []⟩ es) := by
  have hend := (summary_inductive cfg out).run (System.Holds.start trivial) hok
  intro th hth req res hresult hbody taskID htask t ht hid
  -- the request has returned, so its contract holds of its history
  have hpost : summaryPost th.hist (.results req, 200) := by
    have hmeets := hend.contract th hth
    cases hprog : th.prog with
    | call s k => rw [hprog] at hresult; cases hresult
    | ret a =>
      rw [hprog] at hresult hmeets
      cases hresult
      exact hmeets
  obtain ⟨raw, r, -, hset⟩ := hpost req res rfl hbody taskID htask
  have hanswered := hsaved th hth _ hset rfl
  cases r with
  | none => cases hanswered
  | some u =>
    exact ((hend.threads th hth).saved taskID _ hset t ht hid).trans (covers_merge_right _ _)

/-- The worker's delivery of an open port of the task's address. -/
def portDelivery (port : Int) : GatewayRequest :=
  .results {
    workerID := some 1, credential := "secret"
    body := some { taskID := some 1, leaseToken := some 1
                   observations := [{ type := .service, ip := "192.0.2.1", port := port }] } }

/-- Two deliveries for the task, the second of which reads the summary before the first writes
it. -/
def overlappingDeliveries : List (Event GatewayRequest Env) :=
  .spawn (portDelivery 22) :: .spawn (portDelivery 80) ::
    steps 0 7 ++ steps 1 7 ++ steps 0 2 ++ steps 1 2

/-- Both are answered 200, and the first one's port is lost. -/
theorem overlapping_delivery_lost :
    ((deliverySystem {} {}).run ⟨leasedTaskDB, []⟩ overlappingDeliveries).threads.map
      (·.prog.result) = [some (portDelivery 22, 200), some (portDelivery 80, 200)] ∧
    ((deliverySystem {} {}).run ⟨leasedTaskDB, []⟩ overlappingDeliveries).state.tasks.rows.map
      (fun t => (decode t.result).services) = [[⟨"192.0.2.1", 80⟩]] ∧
    ¬ AcceptedCovered ((deliverySystem {} {}).run ⟨leasedTaskDB, []⟩ overlappingDeliveries) := by
  have hanswers : ((deliverySystem {} {}).run ⟨leasedTaskDB, []⟩ overlappingDeliveries).threads.map
      (·.prog.result) = [some (portDelivery 22, 200), some (portDelivery 80, 200)] := by
    decide +kernel
  have hstored : ((deliverySystem {} {}).run ⟨leasedTaskDB, []⟩
      overlappingDeliveries).state.tasks.rows.map (fun t => (t.id, (decode t.result).services)) =
        [(1, [⟨"192.0.2.1", 80⟩])] := by decide +kernel
  refine ⟨hanswers, ?_, fun hcov => ?_⟩
  · simpa using congrArg (List.map Prod.snd) hstored
  · -- the first delivery's thread, and the row of the task
    obtain ⟨th, hth, hresult⟩ := List.mem_map.mp (hanswers ▸ List.mem_cons_self :
      some (portDelivery 22, 200) ∈ _)
    obtain ⟨t, ht, hrow⟩ := List.mem_map.mp (hstored ▸ List.mem_cons_self :
      ((1, [⟨"192.0.2.1", 80⟩]) : UUID × List IPPort) ∈ _)
    obtain ⟨hid, hservices⟩ := Prod.mk.inj hrow
    have hin := (hcov th hth _ _ hresult rfl 1 rfl t ht hid).services
    rw [hservices] at hin
    exact absurd hin (by decide +kernel)

/-- The two deliveries one after the other. -/
def deliveriesInTurn : List (Event GatewayRequest Env) :=
  .spawn (portDelivery 22) :: steps 0 9 ++ .spawn (portDelivery 80) :: steps 1 9

theorem deliveries_in_turn_covered :
    ((deliverySystem {} {}).Along Exclusive ⟨leasedTaskDB, []⟩ deliveriesInTurn ∧
      Saved ((deliverySystem {} {}).run ⟨leasedTaskDB, []⟩ deliveriesInTurn)) ∧
    AcceptedCovered ((deliverySystem {} {}).run ⟨leasedTaskDB, []⟩ deliveriesInTurn) := by
  suffices h : _ ∧ _ from
    ⟨h, accepted_batches_covered {} {} leasedTaskDB deliveriesInTurn h.1 h.2⟩
  exact ⟨by decide +kernel, by decide +kernel⟩

end PinkGlasses
