import RobotWorkshop.Play.Frame
import RobotWorkshop.Proofs.Attempts

/-!
What a command can do to a session, said once: `Session.Carried` has one case for each way in which
a command is carried out and one for all refusals (`Session.dispatch_carried`).  What holds of every
command is proved by cases on it; what holds of a whole queue by `Session.runQueue_induction`.
-/

namespace RobotWorkshop.Session

/-! ## One command -/

/-- A run that is given up. -/
def givenUp (s : Session) : Session :=
  { s with
    phases := .entered .buying
    interpreter := .idle
    outbox := s.outbox ++ [.phaseChanged .buying] }

/-- The session with another program. -/
def withProgram (s : Session) (program : Program) : Session :=
  { s with holdings := { s.holdings with program } }

/-- The session in which an upgrade has been bought and applied. -/
def bought (s : Session) (index : Int) (sale : Sale) : Session :=
  let applied :=
    { s.holdings with upgrades := sale.graph, wallet := sale.wallet }.apply sale.node.kind
  let unlocked := applied.unlocked.toList.map fun i => Event.unlocksChanged i.category i
  ({ s with holdings := applied.holdings }.announce
    (.upgradePurchased sale.node.kind index :: unlocked)).walletChanged

/-- The session with another balance, which is announced. -/
def withWallet (s : Session) (wallet : Wallet) : Session :=
  { s with holdings := { s.holdings with wallet } }.walletChanged

/-- How a submission is dealt with. -/
inductive Carried (s : Session) : Submission → Attempt Session Bool → Prop where
  | unknown (shown : String) : Carried s (.unknown shown) (.failed s (.unhandledCommand shown))
  | refused (c : Command) (journal : List Entry) : Carried s (.command c) (.done s false journal)
  /-- It is refused, and the refusal cannot be put into words. -/
  | untold (c : Command) : Carried s (.command c) (.failed s .numberTooLong)
  | started (buying : s.running = false) (active : s.phases.controls.runActive = true) :
      Carried s (.command .startRun)
        ((s.beginRun (.entered .running)).andThen fun t () => .done t true)
  | reset (journal : List Entry) (running : s.running = true)
      (active : s.phases.controls.resetActive = true) :
      Carried s (.command .resetToBuying) (.done s.givenUp true journal)
  | bought {index : Int} {sale : Sale} (journal : List Entry) (buying : s.running = false)
      (sold : s.holdings.upgrades.buy? index s.holdings.wallet = .ok sale) :
      Carried s (.command (.purchase index)) (.done (s.bought index sale) true journal)
  | added {i : Instruction} {program : Program} (journal : List Entry) (buying : s.running = false)
      (unlocked : i ∈ s.holdings.unlocks) (fits : s.holdings.program.append? i = .ok program) :
      Carried s (.command (.addInstruction i)) (.done (s.withProgram program) true journal)
  | removed {index : Int} {i : Instruction} {program : Program} (journal : List Entry)
      (buying : s.running = false) (found : s.holdings.program.remove? index = .ok (i, program)) :
      Carried s (.command (.removeInstruction index)) (.done (s.withProgram program) true journal)
  | credited {amount : Int} {wallet : Wallet} (journal : List Entry)
      (taken : s.holdings.wallet.deposit? amount = .ok wallet) :
      Carried s (.command (.pickUp amount)) (.done (s.withWallet wallet) true journal)

theorem requestStart?_eq_ok {m target : PhaseMachine} (h : m.requestStart? = .ok target) :
    m.running = false ∧ m.controls.runActive = true ∧ target = .entered .running := by
  unfold PhaseMachine.requestStart? at h
  split at h
  · cases h
  · split at h
    · cases h
    · exact ⟨by simpa using ‹¬m.running = true›, by simpa using ‹¬(!m.controls.runActive) = true›,
        (Except.ok.inj h).symm⟩

theorem requestReset?_eq_ok {m target : PhaseMachine} (h : m.requestReset? = .ok target) :
    m.running = true ∧ m.controls.resetActive = true ∧ target = .entered .buying := by
  unfold PhaseMachine.requestReset? at h
  split at h
  · cases h
  · split at h
    · cases h
    · exact ⟨by simpa using ‹¬(!m.running) = true›,
        by simpa using ‹¬(!m.controls.resetActive) = true›, (Except.ok.inj h).symm⟩

/-- The program can be replaced only while buying. -/
theorem edit_eq_ok {s t : Session} {change : Program → Except Fault Program}
    (h : s.edit change = .ok t) :
    s.running = false ∧
      ∃ program, change s.holdings.program = .ok program ∧ t = s.withProgram program := by
  unfold edit at h
  split at h
  · cases h
  · rename_i not_running
    cases changed : change s.holdings.program with
    | error cause => rw [changed] at h; cases h
    | ok program =>
      rw [changed] at h
      exact ⟨by simpa using not_running, program, rfl, (Except.ok.inj h).symm⟩

theorem edit_refuses {s : Session} {change : Program → Except Fault Program} {fault : Fault}
    (refuses : ∀ fault, change s.holdings.program = .error fault → fault.Refuses)
    (h : s.edit change = .error fault) : fault.Refuses := by
  unfold edit at h
  split at h
  · exact Except.error.inj h ▸ Fault.refused_refuses _
  · cases changed : change s.holdings.program with
    | error cause =>
      rw [changed] at h
      exact Except.error.inj h ▸ refuses cause changed
    | ok program => rw [changed] at h; cases h

theorem require_eq_ok {u : Unlocks} {i : Instruction} (h : u.require i = .ok ()) : i ∈ u := by
  unfold Unlocks.require at h
  split at h
  · assumption
  · cases h

theorem settle_carried (s : Session) (c : Command) {fault : Fault} (refuses : fault.Refuses) :
    s.Carried (.command c) (s.settle c (.error fault)) := by
  rcases refuses with rfl | ⟨cause, rfl⟩
  · exact .untold c
  · exact .refused c _

theorem purchase_carried (s : Session) (index : Int) :
    s.Carried (.command (.purchase index)) (s.purchase index) := by
  unfold purchase
  split
  · exact .refused _ _
  · rename_i not_running
    cases h : s.holdings.upgrades.buy? index s.holdings.wallet with
    | error unsold =>
      cases unsold with
      | refused note => exact .refused _ _
      | stopped fault =>
        obtain rfl := UpgradeGraph.buy?_stopped h
        exact .untold _
    | ok sale => exact .bought _ (by simpa using not_running) h

/-- A command that edits the program. -/
theorem edit_carried (s : Session) (c : Command) {change : Program → Except Fault Program}
    (refuses : ∀ fault, change s.holdings.program = .error fault → fault.Refuses)
    (carried : ∀ program journal, s.running = false → change s.holdings.program = .ok program →
      s.Carried (.command c) (.done (s.withProgram program) true journal)) :
    s.Carried (.command c) (s.settle c ((s.edit change).map (.done · ()))) := by
  cases h : s.edit change with
  | error fault => exact s.settle_carried c (edit_refuses refuses h)
  | ok t =>
    obtain ⟨buying, program, changed, rfl⟩ := edit_eq_ok h
    exact carried program _ buying changed

/-- **Every command** is dealt with in one of these ways. -/
theorem dispatch_carried (s : Session) (item : Submission) : s.Carried item (s.dispatch item) := by
  cases item with
  | unknown shown => exact .unknown shown
  | command c =>
    cases c with
    | startRun =>
      simp only [dispatch]
      cases h : s.phases.requestStart? with
      | error fault => exact s.settle_carried _ (.inr (PhaseMachine.requestStart?_refuses h))
      | ok m =>
        obtain ⟨buying, active, rfl⟩ := requestStart?_eq_ok h
        exact .started buying active
    | resetToBuying =>
      simp only [dispatch]
      cases h : s.phases.requestReset? with
      | error fault => exact s.settle_carried _ (.inr (PhaseMachine.requestReset?_refuses h))
      | ok m =>
        obtain ⟨running, active, rfl⟩ := requestReset?_eq_ok h
        exact .reset _ running active
    | purchase index => exact s.purchase_carried index
    | addInstruction i =>
      simp only [dispatch]
      cases unlocked : s.holdings.unlocks.require i with
      | error fault =>
        have refuses := Unlocks.require_refuses unlocked
        refine s.edit_carried _ (fun _ failed => Except.error.inj failed ▸ refuses) ?_
        intro program journal buying changed
        cases changed
      | ok =>
        exact s.edit_carried _ (fun _ failed => Program.append?_refuses failed)
          fun _ journal buying changed => .added journal buying (require_eq_ok unlocked) changed
    | removeInstruction index =>
      simp only [dispatch]
      refine s.edit_carried _ (fun fault failed => ?_) fun program journal buying changed => ?_
      · cases found : s.holdings.program.remove? index with
        | error cause =>
          rw [found] at failed
          exact Except.error.inj failed ▸ Program.remove?_refuses found
        | ok pair => rw [found] at failed; cases failed
      · cases found : s.holdings.program.remove? index with
        | error cause => rw [found] at changed; cases changed
        | ok pair =>
          rw [found] at changed
          obtain rfl : pair.2 = program := Except.ok.inj changed
          exact .removed journal buying found
    | pickUp amount =>
      simp only [dispatch]
      cases h : s.holdings.wallet.deposit? amount with
      | error fault => exact s.settle_carried _ (Wallet.deposit?_refuses h)
      | ok wallet => exact .credited _ h

/-! ## The queue -/

/-- The commands that working off the queue comes to, each with the session that it is given to.
The last of them is the one that a fault stops at, if one does. -/
def handled (s : Session) : List (Session × Submission) :=
  match _h : s.queue with
  | [] => []
  | item :: rest =>
    let first := { s with queue := rest }.dispatch item
    ({ s with queue := rest }, item) ::
      match first.result with
      | .error _ => []
      | .ok _ => first.state.handled
termination_by workload s.queue
decreasing_by
  rw [_h]
  exact workload_dispatch s item rest

/-- **Induction on the queue**, on the commands that it may still come to: the start of a run can
queue a pickup, so the queue need not get shorter. -/
@[elab_as_elim]
theorem queue_induction {P : Session → Prop} (nil : ∀ s, s.queue = [] → P s)
    (cons : ∀ s item rest, s.queue = item :: rest →
      P ({ s with queue := rest }.dispatch item).state → P s)
    (s : Session) : P s := by
  induction work : workload s.queue using Nat.strongRecOn generalizing s with
  | _ n ih =>
    subst work
    cases queue : s.queue with
    | nil => exact nil s queue
    | cons item rest =>
      have smaller := workload_dispatch s item rest
      rw [← queue] at smaller
      exact cons s item rest queue (ih _ smaller _ rfl)

theorem runQueue_of_nil {s : Session} (h : s.queue = []) : s.runQueue = .done s () := by
  rw [runQueue]
  split
  · rfl
  · rename_i other
    rw [h] at other
    cases other

theorem runQueue_of_cons {s : Session} {item : Submission} {rest : List Submission}
    (h : s.queue = item :: rest) :
    s.runQueue =
      let first := { s with queue := rest }.dispatch item
      match first.result with
      | .error fault => .failed first.state fault first.journal
      | .ok _ => first.state.runQueue.after first.journal := by
  rw [runQueue]
  split
  · rename_i other
    rw [h] at other
    cases other
  · rename_i other
    obtain ⟨rfl, rfl⟩ := List.cons.inj (h.symm.trans other)
    rfl

/-- A command that is not stopped by a fault is followed by the others. -/
theorem runQueue_gives_of_cons {s t u : Session} {item : Submission} {rest : List Submission}
    {answer : Bool} (h : s.queue = item :: rest)
    (first : ({ s with queue := rest }.dispatch item).Gives answer t)
    (others : t.runQueue.Gives () u) : s.runQueue.Gives () u := by
  rw [runQueue_of_cons h]
  dsimp only
  rw [first.result]
  exact first.state.symm ▸ others.after _

theorem runQueue_fails_of_cons {s t : Session} {item : Submission} {rest : List Submission}
    {answer : Bool} {fault : Fault} (h : s.queue = item :: rest)
    (first : ({ s with queue := rest }.dispatch item).Gives answer t)
    (others : t.runQueue.result = .error fault) : s.runQueue.result = .error fault := by
  rw [runQueue_of_cons h]
  dsimp only
  rw [first.result]
  exact first.state.symm ▸ others

theorem handled_of_nil {s : Session} (h : s.queue = []) : s.handled = [] := by
  rw [handled]
  split
  · rfl
  · rename_i other
    rw [h] at other
    cases other

theorem handled_of_cons {s : Session} {item : Submission} {rest : List Submission}
    (h : s.queue = item :: rest) :
    s.handled =
      let first := { s with queue := rest }.dispatch item
      ({ s with queue := rest }, item) ::
        match first.result with
        | .error _ => []
        | .ok _ => first.state.handled := by
  rw [handled]
  split
  · rename_i other
    rw [h] at other
    cases other
  · rename_i other
    obtain ⟨rfl, rfl⟩ := List.cons.inj (h.symm.trans other)
    rfl

/-- A property that does not look at the queue and is kept by every command that working off the
queue comes to is kept by working it off. -/
theorem runQueue_induction {P : Session → Prop} {s : Session}
    (unqueued : ∀ t rest, P t → P { t with queue := rest })
    (step : ∀ t item, (t, item) ∈ s.handled → P t → P (t.dispatch item).state) (h : P s) :
    P s.runQueue.state := by
  induction s using queue_induction with
  | nil s queue =>
    rw [runQueue_of_nil queue]
    exact h
  | cons s item rest queue ih =>
    rw [handled_of_cons queue] at step
    rw [runQueue_of_cons queue]
    dsimp only at step ⊢
    have first := step _ item List.mem_cons_self (unqueued s rest h)
    cases result : ({ s with queue := rest }.dispatch item).result with
    | error fault => exact first
    | ok answer =>
      simp only [result] at step
      exact ih (fun t other mem => step t other (List.mem_cons_of_mem _ mem)) first

/-- What stops working off the queue is the fault of the last command that it came to; none of the
others was stopped. -/
theorem runQueue_stops {s : Session} {fault : Fault} (h : s.runQueue.result = .error fault) :
    ∃ before given, s.handled = before ++ [given] ∧
      (given.1.dispatch given.2).result = .error fault ∧
      s.runQueue.state = (given.1.dispatch given.2).state ∧
      ∀ other ∈ before, ¬(other.1.dispatch other.2).Raises := by
  induction s using queue_induction with
  | nil s queue =>
    rw [runQueue_of_nil queue] at h
    cases h
  | cons s item rest queue ih =>
    rw [runQueue_of_cons queue] at h ⊢
    rw [handled_of_cons queue]
    dsimp only at h ⊢
    cases result : ({ s with queue := rest }.dispatch item).result with
    | error first =>
      simp only [result] at h ⊢
      obtain rfl : first = fault := Except.error.inj h
      exact ⟨[], _, rfl, result, rfl, fun _ mem => nomatch mem⟩
    | ok answer =>
      simp only [result] at h ⊢
      obtain ⟨before, given, handled, failed, state, others⟩ := ih h
      refine ⟨_ :: before, given, congrArg _ handled, failed, state,
        List.forall_mem_cons.mpr ⟨?_, others⟩⟩
      rintro ⟨first, raised⟩
      cases result.symm.trans raised

/-- If nothing stops it, none of the commands that it came to was stopped. -/
theorem handled_of_runQueue_ok {s : Session} (h : s.runQueue.result = .ok ()) :
    ∀ given ∈ s.handled, ¬(given.1.dispatch given.2).Raises := by
  induction s using queue_induction with
  | nil s queue =>
    rw [handled_of_nil queue]
    exact fun given mem => nomatch mem
  | cons s item rest queue ih =>
    rw [runQueue_of_cons queue] at h
    rw [handled_of_cons queue]
    dsimp only at h ⊢
    cases result : ({ s with queue := rest }.dispatch item).result with
    | error first => rw [result] at h; cases h
    | ok answer =>
      rw [result] at h
      refine List.forall_mem_cons.mpr ⟨?_, ih h⟩
      rintro ⟨first, raised⟩
      cases result.symm.trans raised

end RobotWorkshop.Session
