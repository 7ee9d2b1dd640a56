import PinkGlasses.Store.Stmt

/-!
# PinkGlasses.FleetManager

`internal/fleet`: the workers a run brings up for itself. Here is what the manager writes when a
fleet fails and when its containers are gone, each statement on its own and **each one's error
ignored**; what it asks of the provisioner in between is answered from outside.
-/

namespace PinkGlasses

open Lib Prog

namespace FleetManager

/-- The statements of `fail`: the fleet and its run are given up for the same reason. The evidence
is what the provisioner reported of the containers, with the one-line cause read from it. -/
def failRecord (f : RunFleet) (reason : String) (evidence : Option (String × String)) :
    Prog Stmt Unit := do
  let reason ← match evidence with
    | some (cause, raw) => do
      let _ ← issue (.fleet (.setFleetEvidence f.runID raw))
      pure (if cause = "" then reason else reason ++ ". What the containers showed: " ++ cause)
    | none => pure reason
  let _ ← issue (.fleet (.setFleetStatus f.runID .failed (some reason) none))
  let _ ← issue (.task (.cancelRunTasks f.runID))
  let _ ← issue (.run (.setRunStatus f.runID .failed))

/-- `DeleteRunPoolAndWorkers`: the workers first, then the pool. -/
def deleteRunPoolAndWorkers (poolID : UUID) : Prog Stmt Unit := do
  match ← issue (.worker (.deletePoolWorkers poolID)) with
  | none => pure ()
  | some _ =>
    let _ ← issue (.worker (.deleteRunPool poolID))

/-- The statements of `remove`, once the containers are gone. -/
def removeRecord (f : RunFleet) : Prog Stmt Unit := do
  match f.poolID with
  | some poolID => deleteRunPoolAndWorkers poolID
  | none => pure ()
  let _ ← issue (.fleet (.markFleetTornDown f.runID))

/-- `fail` as the database sees it; `removed` is whether the provisioner removed the containers. -/
def fail (f : RunFleet) (reason : String) (evidence : Option (String × String)) (removed : Bool) :
    Prog Stmt Unit := do
  failRecord f reason evidence
  if removed then removeRecord f

end FleetManager

end PinkGlasses
