import RobotWorkshop.Clock.Nanos

/-!
Timers that are driven by frames.  A timer is told how long a frame lasts and answers where
inside the frame each of its completions falls, so the completions of independent timers compare
exactly whatever the length of a frame.

A one-shot timer completes once and stops; a repeating one starts over at each completion.
`Timer.tick` reports at most `limit` completions of a repeating timer; those beyond the limit are
still counted, so the timer stays in phase.
-/

namespace RobotWorkshop

structure Timer where
  duration : Int
  repeating : Bool
  elapsed : Int := 0
  running : Bool := true
  timesFinished : Int := 0
  /-- A timer takes some time. -/
  duration_pos : 0 < duration

namespace Timer

/-- A timer of that many seconds, at its start. -/
def ofSeconds? (seconds : Float) (repeating : Bool) : Except Fault Timer :=
  match Nanos.ofSeconds? seconds with
  | .error f => .error f
  | .ok duration =>
    if h : 0 < duration then .ok { duration, repeating, duration_pos := h }
    else .error .timerNotPositive

/-- Time from now to the next completion, if the timer runs on. -/
def due (t : Timer) : Int := t.duration - t.elapsed

/-- Time left until the next completion; a stopped timer has none left. -/
def remaining (t : Timer) : Int := if t.running then max t.due 0 else 0

def finished (t : Timer) : Bool := !t.repeating && !t.running

/-- Where in a frame of length `dt` the next completion falls, if it does. -/
def expiryOffset (t : Timer) (dt : Int) : Option Int :=
  if t.running ∧ t.due ≤ dt then some t.due else none

/-- Runs the timer for `left` more nanoseconds of a frame of which `offset` are over.  `room` is the
number of completions that may still be reported. -/
def advance (t : Timer) (room : Option Int) (offset left : Int) : List Int × Timer :=
  if t.due ≤ left then
    if t.repeating then
      if room.any (· ≤ 0) then
        ([], { t with
          elapsed := (left - t.due) % t.duration
          timesFinished := t.timesFinished + 1 + (left - t.due) / t.duration })
      else
        let rest := { t with elapsed := 0, timesFinished := t.timesFinished + 1 }.advance
          (room.map (· - 1)) (offset + t.due) (left - t.due)
        ((offset + t.due) :: rest.1, rest.2)
    else
      ([offset + t.due], { t with
        elapsed := t.duration
        running := false
        timesFinished := t.timesFinished + 1 })
  else ([], { t with elapsed := t.elapsed + left })
termination_by (left + t.elapsed).toNat
decreasing_by
  have := t.duration_pos
  unfold due at *
  omega

/-- The completions in a frame of length `dt`, as offsets from its start, and the timer after it. -/
def tick (t : Timer) (dt : Int) (limit : Option Int) : Except Fault (List Int × Timer) :=
  if dt < 0 then .error .negativeDelta
  else if t.running then .ok (t.advance limit 0 dt)
  else .ok ([], t)

def stop (t : Timer) : Timer := { t with running := false }

end Timer

end RobotWorkshop
