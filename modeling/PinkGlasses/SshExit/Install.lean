import PinkGlasses.SshExit

/-!
# PinkGlasses.SshExit.Install

**An install that is claimed must be finished by the goroutine that claimed it.** Nothing else takes
an exit out of `running`: a request for a new install is refused there and `reconcile` looks for
`pending` only. A connector that stops before `FinishSSHExitInstall` has taken effect, or whose
`FinishSSHExitInstall` fails, leaves the exit so for good.
-/

namespace PinkGlasses

open Lib Lib.System

namespace SshExit

/-- An install of the exit is under way. -/
def UnderWay (w : World) (id : UUID) : Prop := ∃ i ∈ w.installing, i.2 = id
deriving Decidable

/-- No exit is left `running` with no install under way. -/
def NoneLeft (w : World) : Prop :=
  ∀ e ∈ w.exits.rows, e.installStatus = .running → UnderWay w e.id
deriving Decidable

/-- The next pass installs, or a request for an install is taken. -/
def Retried (w : World) (e : SSHExit) : Prop :=
  e.installStatus = .pending ∨
    ((ConnStmt.requestSSHExitInstall e.id).apply id "" none w).1 = true

/-- A goroutine ends, and a process stops, only with its installs finished. -/
def Finished {ρ : Type} (c : Conf Op World ρ) (_ : Nat) (β : Type) (s : Op β) : Prop :=
  match s.stmt with
  | .release => ∀ i ∈ c.state.installing, i.1 ≠ s.held
  | .stop process => ∀ i ∈ c.state.installing, ∀ x ∈ c.state.helds.rows, x.process = process →
      i.1 ≠ some x.id
  | _ => True

instance {ρ : Type} (c : Conf Op World ρ) (i : Nat) (β : Type) (s : Op β) :
    Decidable (Finished c i β s) := by
  obtain ⟨held, s⟩ := s
  induction s using ConnStmt.casesOn <;> unfold Finished <;> infer_instance

section Step

variable {sha256 : String → String} {presented : String} {w w' : World} {β : Type}

/-- An `UPDATE` of the exits: those it selects have their install or are not `running`, the others
keep theirs. -/
theorem NoneLeft.update (hw : NoneLeft w) {p : SSHExit → Bool} {f : SSHExit → SSHExit}
    (hexits : w'.exits.rows = w.exits.rows.map fun e => if p e then f e else e)
    (hid : ∀ e, (f e).id = e.id)
    (hsel : ∀ e ∈ w.exits.rows, p e = true → (f e).installStatus = .running → UnderWay w' e.id)
    (hrest : ∀ i ∈ w.installing, (∃ e ∈ w.exits.rows, e.id = i.2 ∧ p e = false) →
      i ∈ w'.installing) :
    NoneLeft w' := by
  intro e' he' hrunning
  rw [hexits] at he'
  obtain ⟨e, he, rfl⟩ := List.mem_map.mp he'
  cases hp : p e with
  | true =>
    simp only [hp, if_true, hid] at hrunning ⊢
    exact hsel e he hp hrunning
  | false =>
    simp only [hp] at hrunning ⊢
    obtain ⟨i, hi, hiid⟩ := hw e he hrunning
    exact ⟨i, hrest i hi ⟨e, he, hiid.symm, hp⟩, hiid⟩

/-- An `UPDATE` that puts no exit to `running`. -/
theorem NoneLeft.update_same (hw : NoneLeft w) {p : SSHExit → Bool} {f : SSHExit → SSHExit}
    {hid : ∀ e, (f e).id = e.id}
    (hf : ∀ e, (f e).installStatus = .running → e.installStatus = .running) :
    NoneLeft { w with exits := w.exits.update p f hid } :=
  hw.update rfl hid (fun e he _ hrunning => hw e he (hf e hrunning)) fun _ hi _ => hi

/-- **A statement leaves no exit `running` by itself**, unless a goroutine or a process goes with
its install unfinished. -/
theorem NoneLeft.exec {ρ : Type} {c : Conf Op World ρ} {i : Nat} {s : Op β} {b : β} {w' : World}
    (hw : NoneLeft c.state) (hok : Finished c i β s)
    (hexec : s.exec sha256 presented c.state = some (b, w')) : NoneLeft w' := by
  obtain ⟨h, s⟩ := s
  simp only [Op.exec, Option.ite_none_right_eq_some, Option.some.injEq] at hexec
  obtain rfl : (s.apply sha256 presented h c.state).2 = w' := by rw [hexec.2]
  cases s with
  | startSSHExitInstall id =>
    -- the session that claims the install is the one that answers for it
    refine hw.update rfl (fun _ => rfl) (fun e he hp _ => ⟨(h, id), ?_, ?_⟩) fun i hi _ => ?_
    · have hclaimed : (c.state.exits.rows.any fun e => e.id == id && e.installStatus == .pending) :=
        List.any_eq_true.mpr ⟨e, he, hp⟩
      simp [ConnStmt.apply, hclaimed]
    · exact (beq_iff_eq.mp (Bool.and_eq_true_iff.mp hp).1).symm
    · simp only [ConnStmt.apply]
      split
      · exact List.mem_cons_of_mem _ hi
      · exact hi
  | finishSSHExitInstall id ok =>
    refine hw.update rfl (fun _ => rfl) (fun e _ _ hrunning => ?_) fun i hi ⟨e, _, hid, hp⟩ => ?_
    · cases ok <;> cases hrunning
    · refine List.mem_filter.mpr ⟨hi, ?_⟩
      rw [bne_iff_ne]
      rintro rfl
      rw [hid, beq_self_eq_true] at hp
      cases hp
  | setSSHExitState | pinSSHExitHostKey | markSSHExitDeleting =>
    refine hw.update_same ?_
    exact fun _ hrunning => hrunning
  | requestSSHExitInstall =>
    refine hw.update_same ?_
    intro _ hrunning
    cases hrunning
  | deleteSSHExit id => exact fun e he => hw e (Table.mem_delete.mp he).1
  | release =>
    -- a session that is let go has no install running
    intro e he hrunning
    obtain ⟨i, hi, hid⟩ := hw e he hrunning
    exact ⟨i, List.mem_filter.mpr ⟨hi, bne_iff_ne.mpr (hok i hi)⟩, hid⟩
  | stop process =>
    intro e he hrunning
    obtain ⟨i, hi, hid⟩ := hw e he hrunning
    refine ⟨i, List.mem_filter.mpr ⟨hi, ?_⟩, hid⟩
    rw [Bool.not_eq_true', List.any_eq_false]
    intro x hx hsel
    obtain ⟨hprocess, hheld⟩ := Bool.and_eq_true_iff.mp hsel
    exact hok i hi x hx (beq_iff_eq.mp hprocess) (beq_iff_eq.mp hheld).symm
  | enter process e =>
    simp only [ConnStmt.apply]
    split
    · exact hw
    · split <;> exact hw
  | _ => exact hw

end Step

/-- One exit that nothing has been done about. -/
def oneExit : World where
  exits := .ofRows [{ id := 1, host := "vps.example" }] (List.nodup_singleton _)

/-- The connector connects, an install is asked for and the connector claims it. -/
def claimed : List (Event Request String) :=
  .spawn (.pass 0 1 1) :: List.replicate 8 (.step 0 "SHA256:A") ++
    [.spawn (.installSSHExit 1), .step 1 ""] ++
    .spawn (.pass 0 1 1) :: List.replicate 5 (.step 2 "")

/-- The connector is killed and started again; it connects and makes another pass. -/
def restarted : List (Event Request String) :=
  claimed ++ [.spawn (.stop 0), .step 3 ""] ++ .spawn (.pass 1 1 1) ::
    List.replicate 7 (.step 4 "SHA256:A") ++ .spawn (.pass 1 1 1) :: List.replicate 2 (.step 5 "")

end SshExit

end PinkGlasses
