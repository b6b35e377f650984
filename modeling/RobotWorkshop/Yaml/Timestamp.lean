import RobotWorkshop.Settings.Value
import RobotWorkshop.Yaml.Plain

/-!
The dates and moments of a document.
-/

namespace RobotWorkshop.Yaml

namespace Plain

/-- The seconds of an offset, which has to be less than a day. -/
def Zone.offset (z : Zone) : Result Int :=
  let seconds : Int := 3600 * z.hours + 60 * z.minutes
  let offset := if z.behind then -seconds else seconds
  if offset.natAbs < 86400 then .ok offset else .error (.offsetOutOfRange offset)

/-- The date of a stamp, if there is such a day. -/
def Stamp.date (s : Stamp) : Result Date :=
  if s.year = 0 then .error (.yearOutOfRange s.year)
  else if s.month = 0 ∨ 12 < s.month then .error .monthOutOfRange
  else if s.day = 0 ∨ Date.daysInMonth s.year s.month < s.day then .error .dayOutOfRange
  else .ok ⟨s.year, s.month, s.day⟩

/-- The first six digits of a fraction of a second. -/
def Clock.microsecond (c : Clock) : Nat :=
  let digits := c.fraction.take 6
  Numeral.value (digits ++ List.replicate (6 - digits.length) '0')

/-- The moment of a date and a time of day. -/
def Clock.on (c : Clock) (date : Date) (offset : Option Int) : Result Moment :=
  if 23 < c.hour then .error .hourOutOfRange
  else if 59 < c.minute then .error .minuteOutOfRange
  else if 59 < c.second then .error .secondOutOfRange
  else .ok
    { date
      hour := c.hour
      minute := c.minute
      second := c.second
      microsecond := c.microsecond
      offset }

end Plain

/-- The date or the moment that a text stands for.  The offset is looked at before the rest. -/
def timestamp (text : String) : Result Value := do
  let stamp ← (Plain.stamp? text.toList).elim (.error .notMoment) .ok
  match stamp.clock with
  | none => return .date (← stamp.date)
  | some clock =>
    let offset ← clock.zone.mapM Plain.Zone.offset
    return .moment (← clock.on (← stamp.date) offset)

end RobotWorkshop.Yaml
