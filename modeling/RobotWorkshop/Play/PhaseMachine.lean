import RobotWorkshop.Fault
import RobotWorkshop.Journal

/-!
The phase of a session and the two controls that change it.  Entering a phase sets the controls:
a run can be started while buying and reset while running.
-/

namespace RobotWorkshop

/-- Whether the controls for starting and for resetting a run are active. -/
structure Controls where
  runActive : Bool := true
  resetActive : Bool := false
deriving DecidableEq, Repr

/-- The controls as a phase sets them. -/
def Controls.for (phase : Phase) : Controls :=
  { runActive := phase = .buying, resetActive := phase = .running }

structure PhaseMachine where
  phase : Phase := .buying
  controls : Controls := .for .buying
deriving DecidableEq, Repr

namespace PhaseMachine

def running (m : PhaseMachine) : Bool := m.phase = .running

/-- The machine in a phase that it has just entered. -/
def entered (phase : Phase) : PhaseMachine := { phase, controls := .for phase }

/-- What is noted when one phase is left for another. -/
def goingTo (m target : PhaseMachine) : Entry := .phaseChanged m.phase target.phase

def requestStart? (m : PhaseMachine) : Except Fault PhaseMachine :=
  if m.running then .error (.refused .alreadyRunning)
  else if !m.controls.runActive then .error (.refused .runInactive)
  else .ok (entered .running)

def requestReset? (m : PhaseMachine) : Except Fault PhaseMachine :=
  if !m.running then .error (.refused .nothingToReset)
  else if !m.controls.resetActive then .error (.refused .resetInactive)
  else .ok (entered .buying)

theorem requestStart?_refuses {m : PhaseMachine} {fault : Fault}
    (h : m.requestStart? = .error fault) : ∃ cause, fault = .refused cause := by
  unfold requestStart? at h
  split at h
  · exact ⟨_, (Except.error.inj h).symm⟩
  · split at h
    · exact ⟨_, (Except.error.inj h).symm⟩
    · cases h

theorem requestReset?_refuses {m : PhaseMachine} {fault : Fault}
    (h : m.requestReset? = .error fault) : ∃ cause, fault = .refused cause := by
  unfold requestReset? at h
  split at h
  · exact ⟨_, (Except.error.inj h).symm⟩
  · split at h
    · exact ⟨_, (Except.error.inj h).symm⟩
    · cases h

/-- The end of a run that completed or blew up. -/
def finishRun? (m : PhaseMachine) : Except Fault PhaseMachine :=
  if m.running then .ok (entered .buying) else .error .noRunToFinish

end PhaseMachine

end RobotWorkshop
