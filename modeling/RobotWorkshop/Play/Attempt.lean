import RobotWorkshop.Fault
import RobotWorkshop.Journal

/-!
An attempt at an operation.  It leaves a state and journal entries behind whether it succeeds or a
fault stops it half way.
-/

namespace RobotWorkshop

structure Attempt (σ α : Type) where
  result : Except Fault α
  state : σ
  journal : List Entry := []

namespace Attempt

variable {σ τ α β : Type}

def done (state : σ) (value : α) (journal : List Entry := []) : Attempt σ α :=
  { result := .ok value, state, journal }

def failed (state : σ) (fault : Fault) (journal : List Entry := []) : Attempt σ α :=
  { result := .error fault, state, journal }

/-- Goes on where the first attempt left off, if it succeeded. -/
def andThen (first : Attempt σ α) (next : σ → α → Attempt σ β) : Attempt σ β :=
  match first.result with
  | .error fault => { result := .error fault, state := first.state, journal := first.journal }
  | .ok value =>
    let second := next first.state value
    { second with journal := first.journal ++ second.journal }

/-- The same attempt as part of a larger state. -/
def within (attempt : Attempt σ α) (embed : σ → τ) : Attempt τ α :=
  { result := attempt.result, state := embed attempt.state, journal := attempt.journal }

/-- Entries that were made before the attempt. -/
def after (attempt : Attempt σ α) (journal : List Entry) : Attempt σ α :=
  { attempt with journal := journal ++ attempt.journal }

end Attempt

end RobotWorkshop
