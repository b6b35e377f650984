import RobotWorkshop.Play.Frame

/-!
The screens around a session: loading, the menu, playing and pausing.  A session exists only
between `play` and `quit`, and only while playing do frames reach it.
-/

namespace RobotWorkshop

structure Screens where
  screen : Screen := .loading
  session : Option Session := none

namespace Screens

/-- Goes to another screen, from one of those allowed.  The answer tells whether it went. -/
def move (m : Screens) (allowed : List Screen) (target : Screen) : Attempt Screens Bool :=
  if m.screen ∈ allowed then
    .done { m with screen := target } true [.screenChanged m.screen target]
  else .done m false [.screenRefused m.screen target]

def finishLoading (m : Screens) : Attempt Screens Bool := m.move [.loading] .menu

/-- Starts playing with a new session, for which a factory is asked on the menu only.  `stock` is
what the factory goes by.  A session that cannot be made leaves the menu on. -/
def play {φ : Type} (m : Screens) (factory : φ → Except Fault Session × φ) (stock : φ) :
    Attempt (Screens × φ) Bool :=
  if m.screen = .menu then
    match factory stock with
    | (.error f, stock) => .failed (m, stock) f
    | (.ok session, stock) =>
      (m.move [.menu] .playing).within fun m => ({ m with session := some session }, stock)
  else (m.move [.menu] .playing).within fun m => (m, stock)

def pause (m : Screens) : Attempt Screens Bool := m.move [.playing] .paused

def resume (m : Screens) : Attempt Screens Bool := m.move [.paused] .playing

/-- Leaves the game; its session is gone. -/
def quit (m : Screens) : Attempt Screens Bool :=
  (m.move [.playing, .paused] .menu).andThen fun m left =>
    .done (if left then { m with session := none } else m) left

def requireSession (m : Screens) : Except Fault Session :=
  match m.session with
  | none => .error (.refused .noGame)
  | some session => .ok session

/-- One frame of that many seconds; it has an effect only while playing. -/
def update (m : Screens) (seconds : Float) : Attempt Screens (List Event) :=
  match m.session with
  | none => .done m []
  | some session =>
    if m.screen = .playing then
      (session.update seconds).within fun session => { m with session := some session }
    else .done m []

end Screens

end RobotWorkshop
