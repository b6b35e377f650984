import RobotWorkshop.Play.Screens
import RobotWorkshop.Proofs.History
import RobotWorkshop.Proofs.RunStart

/-!
Calls on the screens, in any order.  A factory makes the sessions, one each time that it is asked,
and may fail to.  A visit lasts from `play` to `quit`; whatever is called in between, its session
fares as if it had been given only the frames of the time played and what the host did to it
directly (`Lobby.Orderly.visit`).
-/

namespace RobotWorkshop

namespace Screens

theorem move_of_mem {m : Screens} {allowed : List Screen} (target : Screen) (h : m.screen ∈ allowed) :
    (m.move allowed target).Gives true { m with screen := target } := by
  unfold move
  rw [if_pos h]
  exact Attempt.gives_done ..

theorem move_of_not_mem {m : Screens} {allowed : List Screen} (target : Screen)
    (h : m.screen ∉ allowed) : (m.move allowed target).Gives false m := by
  unfold move
  rw [if_neg h]
  exact Attempt.gives_done ..

section
variable {φ : Type} {m : Screens} {factory : φ → Except Fault Session × φ} {stock left : φ}

theorem play_of_ok (menu : m.screen = .menu) {s : Session} (made : factory stock = (.ok s, left)) :
    (m.play factory stock).Gives true ({ screen := .playing, session := some s }, left) := by
  unfold play
  rw [if_pos menu, made]
  exact (move_of_mem .playing (by rw [menu]; exact List.mem_cons_self)).within _

theorem play_of_error (menu : m.screen = .menu) {fault : Fault}
    (failed : factory stock = (.error fault, left)) :
    (m.play factory stock).result = .error fault ∧ (m.play factory stock).state = (m, left) := by
  unfold play
  rw [if_pos menu, failed]
  exact ⟨rfl, rfl⟩

/-- Away from the menu the factory is not asked. -/
theorem play_of_not_menu (h : m.screen ≠ .menu) (factory : φ → Except Fault Session × φ) (stock : φ) :
    (m.play factory stock).Gives false (m, stock) := by
  unfold play
  rw [if_neg h]
  exact (move_of_not_mem .playing (by simpa using h)).within _

end

theorem quit_of_mem {m : Screens} (h : m.screen ∈ [Screen.playing, .paused]) :
    m.quit.Gives true { screen := .menu, session := none } :=
  (move_of_mem .menu h).andThen (Attempt.gives_done _ _ [])

theorem quit_of_not_mem {m : Screens} (h : m.screen ∉ [Screen.playing, .paused]) :
    m.quit.Gives false m :=
  (move_of_not_mem .menu h).andThen (Attempt.gives_done _ _ [])

/-- A frame outside of play does nothing and hands nothing over. -/
theorem update_of_not_playing {m : Screens} (h : m.screen ≠ .playing) (seconds : Float) :
    (m.update seconds).Gives [] m := by
  unfold update
  cases m.session with
  | none => exact Attempt.gives_done ..
  | some s =>
    dsimp only
    rw [if_neg h]
    exact Attempt.gives_done ..

theorem update_of_playing {m : Screens} {s : Session} (playing : m.screen = .playing)
    (session : m.session = some s) (seconds : Float) :
    (m.update seconds).result = (s.update seconds).result ∧
      (m.update seconds).state = { m with session := some (s.update seconds).state } := by
  unfold update
  simp only [session, if_pos playing]
  exact ⟨rfl, rfl⟩

end Screens

namespace Attempt

variable {σ α β : Type}

/-- The same attempt with its answer told in other words. -/
def answering (a : Attempt σ α) (answer : α → β) : Attempt σ β :=
  { result := a.result.map answer, state := a.state, journal := a.journal }

theorem Gives.answering {a : Attempt σ α} {v : α} {s : σ} (h : a.Gives v s) (answer : α → β) :
    (a.answering answer).Gives (answer v) s :=
  ⟨congrArg (Except.map answer) h.result, h.state⟩

end Attempt

/-! ## The calls -/

/-- What a host may call. -/
inductive Call where
  | finishLoading
  | play
  | pause
  | resume
  | quit
  | update (seconds : Float)
  /-- It asks the screens for their session and does something to that directly. -/
  | deal (move : Session.Move)

/-- The screens on which a transition may be made and the screen that it leads to. -/
def Call.route : Call → Option (List Screen × Screen)
  | .finishLoading => some ([.loading], .menu)
  | .play => some ([.menu], .playing)
  | .pause => some ([.playing], .paused)
  | .resume => some ([.paused], .playing)
  | .quit => some ([.playing, .paused], .menu)
  | .update _ => none
  | .deal _ => none

/-- What a call answers: whether a transition went, or the events that are handed over. -/
inductive Answer where
  | moved (went : Bool)
  | told (events : List Event)

def Answer.events : Answer → List Event
  | .moved _ => []
  | .told events => events

/-- The screens, and how often the factory has been asked for a session. -/
structure Lobby where
  screens : Screens := {}
  asked : Nat := 0

namespace Lobby

/-- The factory as the screens ask it: it is told how often it has been asked before. -/
def counted (factory : Nat → Except Fault Session) (asked : Nat) : Except Fault Session × Nat :=
  (factory asked, asked + 1)

/-- One call: what it does and what it answers. -/
def call (factory : Nat → Except Fault Session) (l : Lobby) : Call → Attempt Lobby Answer
  | .finishLoading =>
    (l.screens.finishLoading.within fun screens => { l with screens }).answering .moved
  | .play =>
    ((l.screens.play (counted factory) l.asked).within
      fun (screens, asked) => { screens, asked }).answering .moved
  | .pause => (l.screens.pause.within fun screens => { l with screens }).answering .moved
  | .resume => (l.screens.resume.within fun screens => { l with screens }).answering .moved
  | .quit => (l.screens.quit.within fun screens => { l with screens }).answering .moved
  | .update seconds =>
    ((l.screens.update seconds).within fun screens => { l with screens }).answering .told
  | .deal move =>
    match l.screens.requireSession with
    | .error fault => .failed l fault
    | .ok session =>
      ((session.perform move).within fun session =>
        { l with screens := { l.screens with session := some session } }).answering .told

/-- What a call does to the session of a visit. -/
def keeps (l : Lobby) : Call → List Session.Move
  | .update seconds => if l.screens.screen = .playing then [.update seconds] else []
  | .deal move => [move]
  | _ => []

/-- The screens after some calls; a fault of one call leaves a state behind like any other. -/
def after (factory : Nat → Except Fault Session) (l : Lobby) : List Call → Lobby
  | [] => l
  | c :: calls => (l.call factory c).state.after factory calls

/-- The events that a call hands over; a call that is stopped by a fault hands none over. -/
def handed (factory : Nat → Except Fault Session) (l : Lobby) (c : Call) : List Event :=
  ((l.call factory c).result.map Answer.events).toOption.getD []

/-- The events that some calls hand over, in order. -/
def told (factory : Nat → Except Fault Session) (l : Lobby) : List Call → List Event
  | [] => []
  | c :: calls => l.handed factory c ++ (l.call factory c).state.told factory calls

/-- What some calls do to the session of a visit: the frames of the time played, and what the host
does to it directly. -/
def kept (factory : Nat → Except Fault Session) (l : Lobby) : List Call → List Session.Move
  | [] => []
  | c :: calls => l.keeps c ++ (l.call factory c).state.kept factory calls

variable {factory : Nat → Except Fault Session} {l : Lobby}

/-! ## One call -/

theorem call_play_of_ok {s : Session} (menu : l.screens.screen = .menu)
    (made : factory l.asked = .ok s) :
    (l.call factory .play).Gives (.moved true)
      { screens := { screen := .playing, session := some s }, asked := l.asked + 1 } := by
  have made : counted factory l.asked = (.ok s, l.asked + 1) := by rw [counted, made]
  exact ((Screens.play_of_ok menu made).within _).answering _

theorem call_play_of_error {fault : Fault} (menu : l.screens.screen = .menu)
    (failed : factory l.asked = .error fault) :
    (l.call factory .play).result = .error fault ∧
      (l.call factory .play).state = { l with asked := l.asked + 1 } := by
  have failed : counted factory l.asked = (.error fault, l.asked + 1) := by rw [counted, failed]
  obtain ⟨result, state⟩ := Screens.play_of_error menu failed
  simp only [call, Attempt.answering, Attempt.within, result, state]
  exact ⟨rfl, trivial⟩

/-- A transition from another screen than its own is refused and changes nothing. -/
theorem call_of_not_mem {c : Call} {starts : List Screen} {target : Screen}
    (route : c.route = some (starts, target)) (h : l.screens.screen ∉ starts) :
    (l.call factory c).Gives (.moved false) l := by
  cases c with
  | update seconds => cases route
  | deal move => cases route
  | play =>
    cases route
    have menu : l.screens.screen ≠ .menu := by simpa using h
    exact ((Screens.play_of_not_menu menu _ l.asked).within _).answering _
  | quit =>
    cases route
    exact ((Screens.quit_of_not_mem h).within _).answering _
  | finishLoading | pause | resume =>
    cases route
    exact ((Screens.move_of_not_mem _ h).within _).answering _

/-- What `play` can come to. -/
theorem call_play_cases (factory : Nat → Except Fault Session) (l : Lobby) :
    (l.call factory .play).Gives (.moved false) l ∨
    (∃ fault, (l.call factory .play).result = .error fault ∧
      (l.call factory .play).state = { l with asked := l.asked + 1 }) ∨
    ∃ s, factory l.asked = .ok s ∧ (l.call factory .play).Gives (.moved true)
      { screens := { screen := .playing, session := some s }, asked := l.asked + 1 } := by
  by_cases menu : l.screens.screen = .menu
  · cases made : factory l.asked with
    | error fault => exact .inr (.inl ⟨fault, call_play_of_error menu made⟩)
    | ok s => exact .inr (.inr ⟨s, rfl, call_play_of_ok menu made⟩)
  · exact .inl (call_of_not_mem (c := .play) rfl (by simpa using menu))

/-- A transition that neither makes nor ends a session goes from its own screens. -/
theorem call_of_mem_of_ne {c : Call} {starts : List Screen} {target : Screen} (not_play : c ≠ .play)
    (not_quit : c ≠ .quit) (route : c.route = some (starts, target)) (h : l.screens.screen ∈ starts) :
    (l.call factory c).Gives (.moved true)
      { l with screens := { l.screens with screen := target } } := by
  cases c with
  | update seconds => cases route
  | deal move => cases route
  | play => exact absurd rfl not_play
  | quit => exact absurd rfl not_quit
  | finishLoading | pause | resume =>
    cases route
    exact ((Screens.move_of_mem _ h).within _).answering _

theorem call_quit_of_mem (h : l.screens.screen ∈ [Screen.playing, .paused]) :
    (l.call factory .quit).Gives (.moved true)
      { l with screens := { screen := .menu, session := none } } :=
  ((Screens.quit_of_mem h).within _).answering _

/-- A transition from one of its screens goes, unless it needs a session that cannot be made. -/
theorem call_of_mem {c : Call} {starts : List Screen} {target : Screen}
    (route : c.route = some (starts, target)) (h : l.screens.screen ∈ starts)
    (made : c = .play → ∃ s, factory l.asked = .ok s) :
    (l.call factory c).result = .ok (.moved true) ∧
      (l.call factory c).state.screens.screen = target := by
  have moved {next : Lobby} (went : (l.call factory c).Gives (.moved true) next)
      (there : next.screens.screen = target) :
      (l.call factory c).result = .ok (.moved true) ∧
        (l.call factory c).state.screens.screen = target := by
    refine ⟨went.result, ?_⟩
    rw [went.state]
    exact there
  cases c with
  | update seconds => cases route
  | deal move => cases route
  | finishLoading | pause | resume =>
    exact moved (call_of_mem_of_ne nofun nofun route h) rfl
  | quit =>
    cases route
    exact moved (call_quit_of_mem h) rfl
  | play =>
    cases route
    obtain ⟨s, made⟩ := made rfl
    exact moved (call_play_of_ok (by simpa using h) made) rfl

theorem call_update_of_not_playing (factory : Nat → Except Fault Session)
    (h : l.screens.screen ≠ .playing) (seconds : Float) :
    (l.call factory (.update seconds)).Gives (.told []) l :=
  ((Screens.update_of_not_playing h seconds).within _).answering _

/-- A frame of the time played is one of the session's. -/
theorem call_update_of_playing (factory : Nat → Except Fault Session) {s : Session}
    (playing : l.screens.screen = .playing) (session : l.screens.session = some s) (seconds : Float) :
    (l.call factory (.update seconds)).result = (s.update seconds).result.map .told ∧
      (l.call factory (.update seconds)).state =
        { l with screens := { l.screens with session := some (s.update seconds).state } } := by
  obtain ⟨result, state⟩ := Screens.update_of_playing playing session seconds
  simp only [call, Attempt.answering, Attempt.within, result, state]
  exact ⟨trivial, trivial⟩

theorem call_deal_of_session (factory : Nat → Except Fault Session) {s : Session}
    (session : l.screens.session = some s) (move : Session.Move) :
    (l.call factory (.deal move)).result = (s.perform move).result.map .told ∧
      (l.call factory (.deal move)).state =
        { l with screens := { l.screens with session := some (s.perform move).state } } := by
  simp only [call, Screens.requireSession, session]
  exact ⟨rfl, rfl⟩

theorem call_deal_of_none (factory : Nat → Except Fault Session)
    (session : l.screens.session = none) (move : Session.Move) :
    (l.call factory (.deal move)).result = .error (.refused .noGame) ∧
      (l.call factory (.deal move)).state = l := by
  simp only [call, Screens.requireSession, session]
  exact ⟨rfl, rfl⟩

/-- What `play` does when it goes. -/
theorem call_play_of_moved (h : (l.call factory .play).result = .ok (.moved true)) :
    ∃ s, factory l.asked = .ok s ∧ (l.call factory .play).state =
      { screens := { screen := .playing, session := some s }, asked := l.asked + 1 } := by
  rcases call_play_cases factory l with refused | ⟨fault, failed, -⟩ | ⟨s, made, played⟩
  · rw [refused.result] at h
    cases h
  · rw [failed] at h
    cases h
  · exact ⟨s, made, played.state⟩

/-- What `quit` leaves behind when it goes. -/
theorem call_quit_of_moved (h : (l.call factory .quit).result = .ok (.moved true)) :
    (l.call factory .quit).state.screens = { screen := .menu, session := none } := by
  by_cases on : l.screens.screen ∈ [Screen.playing, .paused]
  · rw [(call_quit_of_mem on).state]
  · rw [(call_of_not_mem (c := .quit) rfl on).result] at h
    cases h

/-- A transition that is refused changes nothing, whatever it is. -/
theorem call_of_refused {c : Call} (h : (l.call factory c).result = .ok (.moved false)) :
    (l.call factory c).state = l := by
  have transition {starts target} (route : c.route = some (starts, target))
      (other : c ≠ .play) : (l.call factory c).state = l := by
    by_cases on : l.screens.screen ∈ starts
    · rw [(call_of_mem route on fun play => absurd play other).1] at h
      cases h
    · exact (call_of_not_mem route on).state
  -- what is not a transition does not answer whether it went
  have silent {result : Except Fault (List Event)} :
      result.map Answer.told ≠ .ok (.moved false) := by
    cases result <;> intro h <;> cases h
  cases c with
  | finishLoading | pause | resume | quit => exact transition rfl nofun
  | play =>
    rcases call_play_cases factory l with refused | ⟨fault, failed, -⟩ | ⟨s, -, played⟩
    · exact refused.state
    · rw [failed] at h
      cases h
    · rw [played.result] at h
      cases h
  | update seconds => exact absurd h silent
  | deal move =>
    cases session : l.screens.session with
    | none => exact (call_deal_of_none factory session move).2
    | some s =>
      rw [(call_deal_of_session factory session move).1] at h
      exact absurd h silent

/-! ## A session exists between `play` and `quit` -/

/-- There is a session exactly while it is played or paused. -/
def Housed (l : Lobby) : Prop :=
  l.screens.session.isSome = true ↔ l.screens.screen = .playing ∨ l.screens.screen = .paused

theorem housed_fresh : Housed {} := by
  constructor
  · intro h
    cases h
  · rintro (h | h) <;> cases h

/-- A session may be replaced by another one. -/
theorem Housed.replace (h : l.Housed) {s : Session} (session : l.screens.session = some s)
    (t : Session) : Housed { l with screens := { l.screens with session := some t } } := by
  unfold Housed at h
  rw [session] at h
  exact h

theorem Housed.session_of_playing (h : l.Housed) (playing : l.screens.screen = .playing) :
    ∃ s, l.screens.session = some s :=
  Option.isSome_iff_exists.mp (h.mpr (.inl playing))

theorem Housed.session_of_menu (h : l.Housed) (menu : l.screens.screen = .menu) :
    l.screens.session = none := by
  unfold Housed at h
  simpa [menu] using h

/-- **Step lemma.** -/
theorem Housed.call (h : l.Housed) (factory : Nat → Except Fault Session) (c : Call) :
    (l.call factory c).state.Housed := by
  -- other transitions lead from a screen with a session to such a screen, or from one without to
  -- one without
  have moves {starts target} (not_play : c ≠ .play) (not_quit : c ≠ .quit)
      (route : c.route = some (starts, target))
      (fits : ∀ screen ∈ starts,
        ((screen = .playing ∨ screen = .paused) ↔ (target = .playing ∨ target = .paused))) :
      (l.call factory c).state.Housed := by
    by_cases on : l.screens.screen ∈ starts
    · rw [(call_of_mem_of_ne not_play not_quit route on).state]
      exact h.trans (fits _ on)
    · rw [(call_of_not_mem route on).state]
      exact h
  cases c with
  | finishLoading | pause | resume => exact moves nofun nofun rfl (by decide)
  | play =>
    rcases call_play_cases factory l with refused | ⟨fault, -, state⟩ | ⟨s, -, played⟩
    · rw [refused.state]
      exact h
    · rw [state]
      exact h
    · rw [played.state]
      simp [Housed]
  | quit =>
    by_cases on : l.screens.screen ∈ [Screen.playing, .paused]
    · rw [(call_quit_of_mem on).state]
      simp [Housed]
    · rw [(call_of_not_mem (c := .quit) rfl on).state]
      exact h
  | update seconds =>
    by_cases playing : l.screens.screen = .playing
    · obtain ⟨s, session⟩ := h.session_of_playing playing
      rw [(call_update_of_playing factory playing session seconds).2]
      exact h.replace session _
    · rw [(call_update_of_not_playing factory playing seconds).state]
      exact h
  | deal move =>
    cases session : l.screens.session with
    | none =>
      rw [(call_deal_of_none factory session move).2]
      exact h
    | some s =>
      rw [(call_deal_of_session factory session move).2]
      exact h.replace session _

/-- **Run lemma.** -/
theorem Housed.after (h : l.Housed) (factory : Nat → Except Fault Session) (calls : List Call) :
    (l.after factory calls).Housed := by
  induction calls generalizing l with
  | nil => exact h
  | cons c calls ih => exact ih (h.call factory c)

/-! ## A visit -/

theorem handed_of_moved {c : Call} {went : Bool} {next : Lobby}
    (h : (l.call factory c).Gives (.moved went) next) : l.handed factory c = [] := by
  unfold handed
  rw [h.result]
  rfl

theorem handed_of_told {c : Call} {result : Except Fault (List Event)}
    (h : (l.call factory c).result = result.map .told) :
    l.handed factory c = result.toOption.getD [] := by
  unfold handed
  rw [h]
  cases result <;> rfl

/-- **Step lemma.**  A call other than `quit` does to the session of a visit what is kept of the
call, and hands over what that hands over. -/
theorem Housed.call_of_visit (h : l.Housed) (factory : Nat → Except Fault Session)
    {s : Session} (session : l.screens.session = some s) {c : Call} (stays : c ≠ .quit) :
    (l.call factory c).state.screens.session = some (s.after (l.keeps c)) ∧
      l.handed factory c = s.emitted (l.keeps c) := by
  have on : l.screens.screen = .playing ∨ l.screens.screen = .paused :=
    h.mp (by rw [session]; rfl)
  have refused {starts target} (route : c.route = some (starts, target))
      (off : l.screens.screen ∉ starts) :
      (l.call factory c).state.screens.session = some s ∧ l.handed factory c = [] := by
    have nothing : (l.call factory c).Gives (.moved false) l := call_of_not_mem route off
    exact ⟨by rw [nothing.state, session], handed_of_moved nothing⟩
  have moves {starts target} (not_play : c ≠ .play) (route : c.route = some (starts, target)) :
      (l.call factory c).state.screens.session = some s ∧ l.handed factory c = [] := by
    by_cases mem : l.screens.screen ∈ starts
    · have went : (l.call factory c).Gives (.moved true) _ :=
        call_of_mem_of_ne not_play stays route mem
      exact ⟨by rw [went.state, session], handed_of_moved went⟩
    · exact refused route mem
  cases c with
  | finishLoading | pause | resume => exact moves nofun rfl
  | play =>
    refine refused rfl ?_
    rcases on with on | on <;> rw [on] <;> decide
  | quit => exact absurd rfl stays
  | update seconds =>
    by_cases playing : l.screens.screen = .playing
    · obtain ⟨result, state⟩ := call_update_of_playing factory playing session seconds
      simp only [keeps, if_pos playing]
      refine ⟨by rw [state]; rfl, ?_⟩
      rw [handed_of_told result]
      simp [Session.emitted, Session.perform]
    · have nothing := call_update_of_not_playing factory playing seconds
      simp only [keeps, if_neg playing]
      exact ⟨by rw [nothing.state, session]; rfl, by unfold handed; rw [nothing.result]; rfl⟩
  | deal move =>
    obtain ⟨result, state⟩ := call_deal_of_session factory session move
    exact ⟨by rw [state]; rfl, by rw [handed_of_told result]; simp [keeps, Session.emitted]⟩

/-- **Run lemma.** -/
theorem Housed.after_of_visit (h : l.Housed) {s : Session} (session : l.screens.session = some s)
    {calls : List Call} (stays : .quit ∉ calls) :
    (l.after factory calls).screens.session = some (s.after (l.kept factory calls)) ∧
      l.told factory calls = s.emitted (l.kept factory calls) := by
  induction calls generalizing l s with
  | nil => exact ⟨session, rfl⟩
  | cons c calls ih =>
    obtain ⟨first, rest⟩ := not_or.mp fun mem => stays (List.mem_cons.mpr mem)
    obtain ⟨lasts, handed⟩ := h.call_of_visit factory session (Ne.symm first)
    obtain ⟨state, told⟩ := ih (h.call factory c) lasts rest
    simp only [kept, Lobby.told, Session.after_append, Session.emitted_append]
    exact ⟨state, by rw [handed, told]⟩

/-! ## The factory -/

theorem asked_le_call (l : Lobby) (c : Call) : l.asked ≤ (l.call factory c).state.asked := by
  cases c with
  | play =>
    rcases call_play_cases factory l with refused | ⟨fault, -, state⟩ | ⟨s, -, played⟩
    · exact Nat.le_of_eq (congrArg asked refused.state.symm)
    · rw [state]
      exact Nat.le_succ _
    · rw [played.state]
      exact Nat.le_succ _
  | deal move =>
    unfold call
    cases l.screens.requireSession <;> exact Nat.le_refl _
  | finishLoading | pause | resume | quit | update => exact Nat.le_refl _

/-- The factory is never asked less often than before. -/
theorem asked_le_after (l : Lobby) (calls : List Call) : l.asked ≤ (l.after factory calls).asked := by
  induction calls generalizing l with
  | nil => exact Nat.le_refl _
  | cons c calls ih => exact Nat.le_trans (asked_le_call l c) (ih _)

/-! ## The screens as a whole -/

/-- What the screens promise of a lobby, whatever has been called before. -/
structure Orderly (factory : Nat → Except Fault Session) (l : Lobby) : Prop where
  housed : l.screens.session.isSome = true ↔ l.screens.screen = .playing ∨ l.screens.screen = .paused
  /-- A transition from another screen than its own is refused. -/
  refused : ∀ c starts target, c.route = some (starts, target) → l.screens.screen ∉ starts →
    (l.call factory c).result = .ok (.moved false)
  /-- A transition from one of its screens goes, unless it needs a session that cannot be made. -/
  accepted : ∀ c starts target, c.route = some (starts, target) → l.screens.screen ∈ starts →
    (c = .play → ∃ s, factory l.asked = .ok s) →
    (l.call factory c).result = .ok (.moved true) ∧
      (l.call factory c).state.screens.screen = target
  /-- A refused transition changes nothing. -/
  unchanged : ∀ c, (l.call factory c).result = .ok (.moved false) → (l.call factory c).state = l
  /-- A session that cannot be made leaves the menu on and no session behind, and the next one that
  can be made is played. -/
  failed : ∀ fault, l.screens.screen = .menu → factory l.asked = .error fault →
    (l.call factory .play).result = .error fault ∧
      (l.call factory .play).state =
        { screens := { screen := .menu, session := none }, asked := l.asked + 1 } ∧
      ∀ s, factory (l.asked + 1) = .ok s →
        ((l.call factory .play).state.call factory .play).Gives (.moved true)
          { screens := { screen := .playing, session := some s }, asked := l.asked + 2 }
  /-- What is played is the factory's answer to a question of its own. -/
  played : (l.call factory .play).result = .ok (.moved true) →
    ∃ s, factory l.asked = .ok s ∧
      (l.call factory .play).state.screens = { screen := .playing, session := some s } ∧
      ∀ calls, l.asked < ((l.call factory .play).state.after factory calls).asked
  left : (l.call factory .quit).result = .ok (.moved true) →
    (l.call factory .quit).state.screens = { screen := .menu, session := none }
  /-- A frame outside of play hands nothing over and has no effect. -/
  idle : l.screens.screen ≠ .playing → ∀ seconds,
    (l.call factory (.update seconds)).Gives (.told []) l
  /-- During a visit the session and the events handed over are those of what is kept of the
  calls. -/
  visit : ∀ s calls, l.screens.screen = .menu → factory l.asked = .ok s → .quit ∉ calls →
    let start := (l.call factory .play).state
    (start.after factory calls).screens.session = some (s.after (start.kept factory calls)) ∧
      start.told factory calls = s.emitted (start.kept factory calls)

/-- Whatever is called, in any order and with any factory, the screens keep their promises. -/
theorem orderly (factory : Nat → Except Fault Session) (before : List Call) :
    Orderly factory (after factory {} before) := by
  have h : (after factory {} before).Housed := housed_fresh.after factory before
  revert h
  generalize after factory {} before = l
  intro h
  constructor
  case housed => exact h
  case refused => exact fun c starts target route off => (call_of_not_mem route off).result
  case accepted => exact fun c starts target route on made => call_of_mem route on made
  case unchanged => exact fun c refused => call_of_refused refused
  case failed =>
    intro fault menu error
    obtain ⟨result, state⟩ := call_play_of_error menu error
    have empty : l.screens = { screen := .menu, session := none } := by
      rw [← menu, ← h.session_of_menu menu]
    refine ⟨result, by rw [state, empty], fun s made => ?_⟩
    rw [state]
    exact call_play_of_ok menu made
  case played =>
    intro went
    obtain ⟨s, made, state⟩ := call_play_of_moved went
    refine ⟨s, made, by rw [state], fun calls => ?_⟩
    calc l.asked < (l.call factory .play).state.asked := by rw [state]; exact Nat.lt_succ_self _
      _ ≤ _ := asked_le_after _ calls
  case left => exact call_quit_of_moved
  case idle => exact fun off seconds => call_update_of_not_playing factory off seconds
  case visit =>
    intro s calls menu made stays start
    have begun := (call_play_of_ok menu made).state
    exact (h.call factory .play).after_of_visit (by rw [begun]) stays

/-- A factory that fails the first time that it is asked. -/
def reluctant : Nat → Except Fault Session
  | 0 => .error .timerNotPositive
  | _ + 1 => .ok (Session.new .twoSteps {})

/-- A start, and a pause that a frame and a second `play` fall into. -/
def interrupted : List Call :=
  [.deal (.submit (.command .startRun)), .update 0, .pause, .update 1, .play, .resume, .update 1]

theorem orderly_two_steps :
    let moves : List Session.Move := [.submit (.command .startRun), .update 0, .update 1]
    let l := after reluctant {} [.finishLoading, .play]
    let start := (l.call reluctant .play).state
    l.screens.screen = .menu ∧ l.asked = 1 ∧ .quit ∉ interrupted ∧
      start.kept reluctant interrupted = moves ∧
      (start.after reluctant interrupted).screens.session =
        some ((Session.new .twoSteps {}).after moves) ∧
      start.told reluctant interrupted = (Session.new .twoSteps {}).emitted moves := by
  have stays : .quit ∉ interrupted := by simp [interrupted]
  exact ⟨rfl, rfl, stays, rfl,
    (orderly reluctant [.finishLoading, .play]).visit _ interrupted rfl rfl stays⟩

end Lobby

end RobotWorkshop
