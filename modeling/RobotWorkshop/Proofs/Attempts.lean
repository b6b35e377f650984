import RobotWorkshop.Play.Attempt

/-!
Attempts that succeed.  `a.Gives value state` says that `a` succeeds with `value` and leaves
`state` behind, whatever it notes in the journal; attempts that are carried out one after the other
are followed by `Gives.andThen`.
-/

namespace RobotWorkshop

namespace Attempt

variable {σ τ α β : Type}

/-- The attempt succeeds with that answer and leaves that state behind. -/
structure Gives (a : Attempt σ α) (value : α) (state : σ) : Prop where
  result : a.result = .ok value
  state : a.state = state

theorem gives_done (state : σ) (value : α) (journal : List Entry) :
    (Attempt.done state value journal).Gives value state :=
  ⟨rfl, rfl⟩

theorem Gives.andThen {first : Attempt σ α} {next : σ → α → Attempt σ β} {v : α} {s t : σ} {w : β}
    (h : first.Gives v s) (k : (next s v).Gives w t) : (first.andThen next).Gives w t := by
  obtain ⟨result, state, journal⟩ := first
  obtain ⟨rfl, rfl⟩ := h
  exact ⟨k.result, k.state⟩

/-- Of two attempts that succeed one after the other, each succeeds. -/
theorem Gives.of_andThen {first : Attempt σ α} {next : σ → α → Attempt σ β} {w : β} {t : σ}
    (h : (first.andThen next).Gives w t) : ∃ v s, first.Gives v s ∧ (next s v).Gives w t := by
  obtain ⟨result, state, journal⟩ := first
  cases result with
  | error fault => cases h.result
  | ok v => exact ⟨v, state, ⟨rfl, rfl⟩, h.result, h.state⟩

theorem Gives.after {a : Attempt σ α} {v : α} {s : σ} (h : a.Gives v s) (journal : List Entry) :
    (a.after journal).Gives v s :=
  ⟨h.result, h.state⟩

theorem Gives.within {a : Attempt σ α} {v : α} {s : σ} (h : a.Gives v s) (embed : σ → τ) :
    (a.within embed).Gives v (embed s) :=
  ⟨h.result, congrArg embed h.state⟩

theorem Gives.of_within {a : Attempt σ α} {v : α} {embed : σ → τ} {t : τ}
    (h : (a.within embed).Gives v t) : ∃ s, a.Gives v s ∧ embed s = t :=
  ⟨a.state, ⟨h.result, rfl⟩, h.state⟩

/-- A first attempt that fails is all there is. -/
theorem andThen_of_error {first : Attempt σ α} {fault : Fault} (next : σ → α → Attempt σ β)
    (h : first.result = .error fault) :
    (first.andThen next).result = .error fault ∧ (first.andThen next).state = first.state := by
  obtain ⟨result, state, journal⟩ := first
  obtain rfl : result = .error fault := h
  exact ⟨rfl, rfl⟩

/-- After a first attempt that succeeds the second one counts. -/
theorem andThen_of_ok {first : Attempt σ α} {v : α} (next : σ → α → Attempt σ β)
    (h : first.result = .ok v) :
    (first.andThen next).result = (next first.state v).result ∧
      (first.andThen next).state = (next first.state v).state := by
  obtain ⟨result, state, journal⟩ := first
  obtain rfl : result = .ok v := h
  exact ⟨rfl, rfl⟩

/-- What fails in two steps, and does not fail so in the second, fails in the first. -/
theorem error_of_andThen {first : Attempt σ α} {next : σ → α → Attempt σ β} {fault : Fault}
    (h : (first.andThen next).result = .error fault)
    (fine : ∀ s v, (next s v).result ≠ .error fault) : first.result = .error fault := by
  obtain ⟨result, state, journal⟩ := first
  cases result with
  | error other => rw [Except.error.inj h]
  | ok v => exact absurd h (fine state v)

/-- Two ways to go on that agree where the first attempt left off. -/
theorem andThen_congr {first : Attempt σ α} {next next' : σ → α → Attempt σ β}
    (same : ∀ v, first.result = .ok v → next first.state v = next' first.state v) :
    first.andThen next = first.andThen next' := by
  unfold andThen
  cases result : first.result with
  | error fault => rfl
  | ok v =>
    dsimp only
    rw [same v result]

theorem gives_of_isOk {a : Attempt σ α} (h : a.result.isOk = true) : ∃ v, a.Gives v a.state := by
  cases result : a.result with
  | error fault =>
    rw [result] at h
    cases h
  | ok v => exact ⟨v, result, rfl⟩

/-- The attempt is stopped by a fault. -/
def Raises (a : Attempt σ α) : Prop := ∃ fault, a.result = .error fault

instance (a : Attempt σ α) : Decidable a.Raises :=
  match h : a.result with
  | .error fault => .isTrue ⟨fault, h⟩
  | .ok v => .isFalse (by rintro ⟨fault, failed⟩; rw [h] at failed; cases failed)

end Attempt

end RobotWorkshop
