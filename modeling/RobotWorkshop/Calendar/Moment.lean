/-!
Dates, and moments in time.  A moment is what calendar and clock show at some place; where the
offset of that place from universal time is known, it is an instant too, and two moments of one
instant are the same (`Moment.same`).
-/

namespace RobotWorkshop

structure Date where
  year : Nat
  month : Nat
  day : Nat
deriving DecidableEq, Repr

structure Moment where
  date : Date
  hour : Nat
  minute : Nat
  second : Nat
  microsecond : Nat
  /-- The seconds by which the place is ahead of universal time, if that is known. -/
  offset : Option Int
deriving DecidableEq, Repr

namespace Date

def isLeapYear (year : Nat) : Bool := year % 4 = 0 ∧ (year % 100 ≠ 0 ∨ year % 400 = 0)

def daysInMonth (year month : Nat) : Nat :=
  if month = 2 then (if isLeapYear year then 29 else 28)
  else if month ∈ [4, 6, 9, 11] then 30 else 31

/-- The days since the year zero began. -/
def dayNumber (d : Date) : Nat :=
  let years := d.year * 365 + (d.year + 3) / 4 - (d.year + 99) / 100 + (d.year + 399) / 400
  (List.range (d.month - 1)).foldl (fun n month => n + daysInMonth d.year (month + 1)) years + d.day - 1

/-- A number with zeros in front, up to a number of digits. -/
def padded (width n : Nat) : String :=
  let digits := toString n
  String.ofList (List.replicate (width - digits.length) '0') ++ digits

/-- Year, month and day, with dashes between them. -/
def text (d : Date) : String := s!"{padded 4 d.year}-{padded 2 d.month}-{padded 2 d.day}"

end Date

namespace Moment

/-- The microseconds since the year zero began by the moment's own clock. -/
def reading (m : Moment) : Int :=
  (((m.date.dayNumber * 24 + m.hour) * 60 + m.minute) * 60 + m.second) * 1000000 + m.microsecond

/-- The same reading, of clocks that agree: the universal one, or two that are not known. -/
def same (m n : Moment) : Bool :=
  match m.offset, n.offset with
  | none, none => m.reading = n.reading
  | some ahead, some further => m.reading - ahead * 1000000 = n.reading - further * 1000000
  | _, _ => false

/-- The date and the time of day, and the offset in hours and minutes. -/
def text (m : Moment) : String :=
  let clock := s!"{Date.padded 2 m.hour}:{Date.padded 2 m.minute}:{Date.padded 2 m.second}"
  let fraction := if m.microsecond = 0 then "" else "." ++ Date.padded 6 m.microsecond
  let zone := m.offset.elim "" fun offset =>
    let minutes := offset.natAbs / 60
    (if offset < 0 then "-" else "+") ++ s!"{Date.padded 2 (minutes / 60)}:{Date.padded 2 (minutes % 60)}"
  m.date.text ++ " " ++ clock ++ fraction ++ zone

end Moment

end RobotWorkshop
