import RobotWorkshop.Number.Binary
import RobotWorkshop.Fault

/-!
Time is counted in whole nanoseconds, as integers, so that moments told by different clocks
compare exactly.  Seconds, as floats, are what callers speak.
-/

namespace RobotWorkshop

namespace Nanos

def perSecond : Nat := 1000000000

/-- Seconds as nanoseconds: one product of floats, then rounded from its exact value, a half to
the even neighbour. -/
def ofSeconds? (seconds : Float) : Except Fault Int :=
  let product := seconds * 1e9
  if product.isNaN then .error .undefinedTime
  else if product.isInf then .error .infiniteTime
  else .ok ((Binary.ofFloat product).times 1)

/-- Nanoseconds as seconds: the float nearest to the exact quotient. -/
def toSeconds (n : Int) : Float := floatOfRatio n perSecond

/-- Nanoseconds as seconds, for spans of any size. -/
def toSeconds? (n : Int) : Except Fault Float :=
  let seconds := toSeconds n
  if seconds.isInf then .error .timeTooLarge else .ok seconds

end Nanos

end RobotWorkshop
