import RobotWorkshop.Proofs.FrameSize
import RobotWorkshop.Script.Playthrough

/-!
Frames of one length, one after the other.  `s.framed dt k` is the session after `k` frames of `dt`
nanoseconds, and only their sum counts:

    s.framed dt k = s.settled (k dt) found        (Steady.framed_eq)

The loop of a scripted run lets such frames pass until the run is over or the time for it is up,
which is told by another clock: the sum of the frame times, in floating point
(`ScriptSettings.waited`).  It stops at the first `k` at which one of the two is so
(`passFrames_gives`), and a limit on its frames makes no difference unless it is reached
(`passFrames_of_le`).
-/

namespace RobotWorkshop

/-- The time that has been waited, in seconds, after so many frames more. -/
def ScriptSettings.waited (pace : ScriptSettings) (start : Float) (k : Nat) : Float :=
  (· + pace.frameDt)^[k] start

namespace Session

/-! ## Frames of one length -/

/-- The session after so many frames of so many nanoseconds. -/
def framed (s : Session) (dt : Int) (k : Nat) : Session := (fun t => (t.frame dt).state)^[k] s

theorem framed_succ (s : Session) (dt : Int) (k : Nat) :
    s.framed dt (k + 1) = ((s.framed dt k).frame dt).state :=
  Function.iterate_succ_apply' _ k s

section
variable {s : Session} {dt : Int}

/-- **Only the sum of the lengths counts.** -/
theorem Steady.framed_eq (steady : s.Steady) (clear : s.Clear) (answerable : s.level.Answerable)
    (nonneg : 0 ≤ dt) (k : Nat) :
    ∃ found news, s.Brings (k * dt) found news ∧ s.framed dt k = s.settled (k * dt) found := by
  induction k with
  | zero =>
    refine ⟨[], [], ?_, ?_⟩
    · rw [Int.natCast_zero, Int.zero_mul]
      exact steady.brings_zero
    · rw [Int.natCast_zero, Int.zero_mul, settled_zero steady clear]
      rfl
  | succ k ih =>
    obtain ⟨found, news, brings, same⟩ := ih
    have before : 0 ≤ k * dt := Int.mul_nonneg (Int.natCast_nonneg k) nonneg
    have steady' := steady.settled before found
    have answerable' : (s.settled (k * dt) found).level.Answerable :=
      (steady.passed_answerable answerable _).1
    obtain ⟨more, news', brings', -⟩ := (s.settled (k * dt) found).exists_brings dt
    have again := brings'.of_settled
    have sum : ((k + 1 : Nat) : Int) * dt = k * dt + dt := by
      rw [Int.natCast_succ, Int.add_mul, Int.one_mul]
    refine ⟨found ++ more, news ++ news', ?_, ?_⟩
    · rw [sum]
      exact brings.add steady before nonneg again
    · have last := (steady'.frame_gives (clear.settled _ found) nonneg brings'
        (brings'.answerable steady' answerable')).state
      rw [framed_succ, same, last, sum]
      exact settled_settled steady before nonneg found again

theorem Steady.framed_steady (steady : s.Steady) (clear : s.Clear) (answerable : s.level.Answerable)
    (nonneg : 0 ≤ dt) (k : Nat) :
    (s.framed dt k).Steady ∧ (s.framed dt k).Clear ∧ (s.framed dt k).level.Answerable := by
  obtain ⟨found, -, -, same⟩ := steady.framed_eq clear answerable nonneg k
  rw [same]
  exact ⟨steady.settled (Int.mul_nonneg (Int.natCast_nonneg k) nonneg) found, clear.settled _ found,
    (steady.passed_answerable answerable _).1⟩

/-- A run that is over stays as it is, however many frames go by. -/
theorem Steady.framed_of_over (steady : s.Steady) (clear : s.Clear) (answerable : s.level.Answerable)
    {time : Int} (nonneg : 0 ≤ time) (finished : (s.passed time).running = false) {found : List Int}
    {news : List Event} (brings : s.Brings time found news) (dt_nonneg : 0 ≤ dt) {k : Nat}
    (le : time ≤ k * dt) : s.framed dt k = s.settled time found := by
  obtain ⟨found', news', brings', same⟩ := steady.framed_eq clear answerable dt_nonneg k
  have rest : (s.passed time).Resting := (steady.passed nonneg).resting finished
  have both := brings.add steady nonneg (Int.sub_nonneg.mpr le) (rest.brings _)
  have passed := steady.passed_passed nonneg (Int.sub_nonneg.mpr le)
  rw [rest.passed_eq, add_sub_cancel] at passed
  rw [add_sub_cancel, List.append_nil] at both
  obtain ⟨rfl, -⟩ := both.unique brings'
  rw [same]
  unfold Session.settled
  rw [passed]

theorem Resting.framed_eq (rest : s.Resting) (clear : s.Clear) (nonneg : 0 ≤ dt) (k : Nat) :
    s.framed dt k = s := by
  have steady : s.Steady := .inl rest
  induction k with
  | zero => rfl
  | succ k ih =>
    have unmoved : s.settled dt [] = s.settled 0 [] := by
      rw [Session.settled, Session.settled, rest.passed_eq, rest.passed_eq]
    have last := (steady.frame_gives clear nonneg (rest.brings dt) fun _ mem => nomatch mem).state
    rw [framed_succ, ih, last, unmoved, settled_zero steady clear]

end

/-! ## The loop of a scripted run -/

section
variable {pace : ScriptSettings} {s : Session} {waited : Float} {past : List Entry}

/-- The loop lets another frame pass. -/
def Waits (pace : ScriptSettings) (s : Session) (waited : Float) : Prop :=
  s.running = true ∧ waited < pace.maxRunSeconds

instance : Decidable (s.Waits pace waited) :=
  inferInstanceAs (Decidable (s.running = true ∧ waited < pace.maxRunSeconds))

theorem passFrames_of_not_waits (n : Nat) (stops : ¬s.Waits pace waited) :
    s.passFrames pace (n + 1) waited past = .done s waited past.reverse := by
  rw [passFrames, if_neg (by simpa [Waits] using stops)]

theorem passFrames_of_waits (n : Nat) (waits : s.Waits pace waited) {events : List Event}
    (ok : (s.update pace.frameDt).result = .ok events) :
    s.passFrames pace (n + 1) waited past =
      (s.update pace.frameDt).state.passFrames pace n (waited + pace.frameDt)
        ((s.update pace.frameDt).journal.reverse ++ past) := by
  rw [passFrames, if_pos (by simpa [Waits] using waits)]
  dsimp only
  rw [ok]

theorem passFrames_of_fault (n : Nat) (waits : s.Waits pace waited) {fault : Fault}
    (failed : (s.update pace.frameDt).result = .error fault) :
    (s.passFrames pace (n + 1) waited past).result = .error fault := by
  rw [passFrames, if_pos (by simpa [Waits] using waits)]
  dsimp only
  rw [failed]
  rfl

/-- **A limit on the frames** makes no difference unless it is reached. -/
theorem passFrames_of_le {n m : Nat} (le : n ≤ m)
    (enough : (s.passFrames pace n waited past).result ≠ .error .framesSpent) :
    s.passFrames pace m waited past = s.passFrames pace n waited past := by
  induction n generalizing s waited past m with
  | zero => exact absurd rfl enough
  | succ n ih =>
    obtain ⟨m, rfl⟩ : ∃ m', m = m' + 1 := ⟨m - 1, by omega⟩
    rw [passFrames] at enough ⊢
    rw [passFrames]
    split
    · rename_i goes_on
      rw [if_pos goes_on] at enough
      dsimp only at enough ⊢
      split
      · rfl
      · rename_i events ok
        rw [ok] at enough
        exact ih (by omega) enough
    · rfl

variable {dt : Int} (nanos : Nanos.ofSeconds? pace.frameDt = .ok dt) (nonneg : 0 ≤ dt)
include nanos nonneg

/-- A frame that the loop lets pass. -/
theorem Steady.passFrames_succ (steady : s.Steady) (clear : s.Clear) (answerable : s.level.Answerable)
    (n : Nat) (waits : s.Waits pace waited) (past : List Entry) :
    ∃ past', s.passFrames pace (n + 1) waited past =
      (s.framed dt 1).passFrames pace n (waited + pace.frameDt) past' := by
  obtain ⟨found, news, brings, -⟩ := s.exists_brings dt
  have frame := steady.frame_gives clear nonneg brings (brings.answerable steady answerable)
  rw [← s.update_eq_frame nanos] at frame
  refine ⟨(s.update pace.frameDt).journal.reverse ++ past, ?_⟩
  rw [passFrames_of_waits n waits frame.result, s.update_eq_frame nanos]
  rfl

/-- **Run lemma.**  The loop stops where it first has a reason to. -/
theorem Steady.passFrames_gives (steady : s.Steady) (clear : s.Clear)
    (answerable : s.level.Answerable) {k n : Nat} (enough : k < n)
    (waits : ∀ j < k, (s.framed dt j).Waits pace (pace.waited waited j))
    (stops : ¬(s.framed dt k).Waits pace (pace.waited waited k)) (past : List Entry) :
    (s.passFrames pace n waited past).Gives (pace.waited waited k) (s.framed dt k) := by
  induction k generalizing s waited n past with
  | zero =>
    obtain ⟨n, rfl⟩ : ∃ n', n = n' + 1 := ⟨n - 1, by omega⟩
    have stops : ¬s.Waits pace waited := stops
    rw [passFrames_of_not_waits n stops]
    exact Attempt.gives_done _ _ _
  | succ k ih =>
    obtain ⟨n, rfl⟩ : ∃ n', n = n' + 1 := ⟨n - 1, by omega⟩
    have now : s.Waits pace waited := waits 0 (Nat.succ_pos k)
    obtain ⟨past', same⟩ := steady.passFrames_succ nanos nonneg clear answerable n now past
    obtain ⟨steady', clear', answerable'⟩ := steady.framed_steady clear answerable nonneg 1
    rw [same]
    exact ih steady' clear' answerable' (by omega) (fun j lt => waits (j + 1) (by omega)) stops past'

/-- A loop that has no reason to stop is cut off. -/
theorem Steady.passFrames_spent (steady : s.Steady) (clear : s.Clear)
    (answerable : s.level.Answerable) {n : Nat}
    (waits : ∀ j < n, (s.framed dt j).Waits pace (pace.waited waited j)) (past : List Entry) :
    (s.passFrames pace n waited past).result = .error .framesSpent := by
  induction n generalizing s waited past with
  | zero => rfl
  | succ n ih =>
    have now : s.Waits pace waited := waits 0 (Nat.succ_pos n)
    obtain ⟨past', same⟩ := steady.passFrames_succ nanos nonneg clear answerable n now past
    obtain ⟨steady', clear', answerable'⟩ := steady.framed_steady clear answerable nonneg 1
    rw [same]
    exact ih steady' clear' answerable' (fun j lt => waits (j + 1) (by omega)) past'

end

end Session

end RobotWorkshop
