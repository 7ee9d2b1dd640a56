import PinkGlasses.Http
import PinkGlasses.Lib.Faults

/-!
# PinkGlasses.Atomic

**All or nothing**, what a caller can take from the status of a reply: an error has left everything
as it was, and otherwise what was asked for is in force.

A handler keeps that promise if it holds at every end, whichever of its statements fail. `Promise`
is the promise for a part of a handler, with what is left to its rest.
-/

namespace PinkGlasses

open Lib Lib.System

/-- The status of a reply: a handler that is not in error answers with its own. -/
def replyStatus : Except ErrorReply Nat → Nat
  | .ok status => status
  | .error e => e.status

/-- All or nothing, judged by the status. -/
def AllOrNothing {σ : Type} (same inForce : σ → Prop) (st : σ) (reply : Except ErrorReply Nat) :
    Prop :=
  (400 ≤ replyStatus reply → same st) ∧ (replyStatus reply < 400 → inForce st)

/-- The promise for a part of a handler: at an error it is due, and otherwise `next` holds, which is
about the rest. -/
def Promise {σ α : Type} (same inForce next : σ → Prop) (st : σ) : Except ErrorReply α → Prop
  | .ok _ => next st
  | .error e => AllOrNothing same inForce st (.error e)

/-- The promise for the last part, which is answered with a status of success. -/
abbrev Ending {σ α : Type} (same inForce : σ → Prop) (st : σ) (r : Except ErrorReply α) : Prop :=
  Promise same inForce inForce st r

section Promise

variable {S : Type → Type} {σ O R ρ α β : Type} {sys : System S σ O R ρ} {st : σ}
  {same inForce next : σ → Prop} {x : ExceptT ErrorReply (Prog S) α}

theorem promise_error {e : ErrorReply} (h : 400 ≤ e.status) :
    Promise same inForce next st (.error e : Except ErrorReply α) ↔ same st := by
  have h' : ¬e.status < 400 := Nat.not_lt.mpr h
  simp [Promise, AllOrNothing, replyStatus, h, h']

theorem allEnds_refuse {e : ErrorReply} (h : 400 ≤ e.status) (hsame : same st) :
    sys.AllEnds st (throw e : ExceptT ErrorReply (Prog S) α).run (Promise same inForce next) :=
  allEnds_throw.mpr ((promise_error h).mpr hsame)

theorem allEnds_then {f : α → ExceptT ErrorReply (Prog S) β} {goal : σ → Prop}
    (hf : ∀ st a, sys.AllEnds st (f a).run (Promise same inForce goal) ↔ next st) :
    sys.AllEnds st (x >>= f).run (Promise same inForce goal) ↔
      sys.AllEnds st x.run (Promise same inForce next) := by
  rw [allEnds_bind]
  refine allEnds_congr fun st' r => ?_
  cases r with
  | ok a => exact hf st' a
  | error e => exact Iff.rfl

theorem allEnds_reply {status : Nat} (h : status < 400) :
    sys.AllEnds st (do let _ ← x; pure status : ExceptT ErrorReply (Prog S) Nat).run
      (AllOrNothing same inForce) ↔ sys.AllEnds st x.run (Ending same inForce) := by
  rw [allEnds_bind]
  refine allEnds_congr fun st' r => ?_
  cases r with
  | ok a =>
    have h' : ¬400 ≤ status := Nat.not_le.mpr h
    refine allEnds_pure.trans ?_
    simp [AllOrNothing, replyStatus, Promise, h, h']
  | error e => exact Iff.rfl

end Promise

end PinkGlasses
