import RobotWorkshop.Fault

/-!
The two parameters of the robot's processor.  The multiplier stretches both the time between two
instructions and the time until the bomb goes off.
-/

namespace RobotWorkshop

structure Cpu where
  tickInterval : Float := 1.0
  multiplier : Float := 1.0

namespace Cpu

/-- Neither parameter may be zero or less; an undefined one is let through. -/
def new? (tickInterval multiplier : Float) : Except Fault Cpu :=
  if tickInterval ≤ 0.0 ∨ multiplier ≤ 0.0 then .error .cpuNotPositive
  else .ok { tickInterval, multiplier }

/-- Seconds from one instruction to the next. -/
def tickPeriod (c : Cpu) : Float := c.tickInterval * c.multiplier

/-- A duration in seconds, stretched. -/
def scaled (c : Cpu) (duration : Float) : Float := duration * c.multiplier

end Cpu

end RobotWorkshop
