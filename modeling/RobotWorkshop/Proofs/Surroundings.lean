import RobotWorkshop.Proofs.Commands
import RobotWorkshop.Proofs.RunStage

/-!
The surroundings of a run: the wallet, the offers, the queue and the outbox.  The run stage of a
frame does not look at them and only adds to the queue and the outbox

    (s.amid c).runUntil … = (s.runUntil …).amid (c.adding …)      (Session.runUntil_amid)

and a command that comes in while a run goes on, short of giving it up, changes nothing else
(`Session.dispatch_amid`, `Session.runQueue_amid`).
-/

namespace RobotWorkshop

/-! ## Kinds of events -/

/-- What a run tells about itself. -/
def Event.ofRun : Event → Bool
  | .tickExecuted _ _ | .runCompleted _ _ | .phaseChanged _ => true
  | _ => false

def Event.ofTick : Event → Bool
  | .tickExecuted _ _ => true
  | _ => false

def Event.ofWallet : Event → Bool
  | .walletChanged _ => true
  | _ => false

theorem Program.ofTick_ticksFrom (p : Program) (start count : Nat) :
    ∀ e ∈ p.ticksFrom start count, e.ofTick = true := by
  intro e mem
  obtain ⟨⟨i, pc⟩, -, rfl⟩ := List.mem_map.mp mem
  rfl

theorem Event.ofRun_of_ofTick {e : Event} (h : e.ofTick = true) : e.ofRun = true := by
  cases e with
  | tickExecuted i pc => rfl
  | _ => cases h

theorem Event.ofWallet_only {e : Event} (h : e.ofWallet = true) :
    e.ofRun = false ∧ e.ofTick = false := by
  cases e with
  | walletChanged balance => exact ⟨rfl, rfl⟩
  | _ => cases h

theorem filter_ofTick_of_ofWallet {events : List Event} (h : ∀ e ∈ events, e.ofWallet = true) :
    events.filter Event.ofTick = [] := by
  rw [List.filter_eq_nil_iff]
  intro e mem
  simp [(Event.ofWallet_only (h e mem)).2]

/-- Gears that were found, queued for the wallet. -/
def pickUps (found : List Int) : List Submission := found.map fun amount => .command (.pickUp amount)

theorem pickUps_append (found more : List Int) :
    pickUps (found ++ more) = pickUps found ++ pickUps more :=
  List.map_append

theorem pickUps_injective : Function.Injective pickUps :=
  List.map_injective_iff.mpr fun _ _ eq => Command.pickUp.inj (Submission.command.inj eq)

theorem reset_not_mem_pickUps (found : List Int) :
    .command .resetToBuying ∉ pickUps found := by
  intro mem
  obtain ⟨amount, -, eq⟩ := List.mem_map.mp mem
  cases eq

/-- What a run goes on amid. -/
structure Surroundings where
  wallet : Wallet
  offers : List Offer
  queue : List Submission
  outbox : List Event

/-- The surroundings with gears that were found and events that were told. -/
def Surroundings.adding (c : Surroundings) (found : List Int) (news : List Event) : Surroundings :=
  { c with
    queue := c.queue ++ pickUps found
    outbox := c.outbox ++ news }

theorem Surroundings.adding_adding (c : Surroundings) (found found' : List Int)
    (news news' : List Event) :
    (c.adding found news).adding found' news' = c.adding (found ++ found') (news ++ news') := by
  simp only [adding, List.append_assoc, pickUps_append]

namespace Session

def surroundings (s : Session) : Surroundings :=
  { wallet := s.holdings.wallet, offers := s.offers, queue := s.queue, outbox := s.outbox }

/-- The session in other surroundings. -/
def amid (s : Session) (c : Surroundings) : Session :=
  { s with
    holdings := { s.holdings with wallet := c.wallet }
    offers := c.offers
    queue := c.queue
    outbox := c.outbox }

@[simp] theorem surroundings_amid (s : Session) (c : Surroundings) :
    (s.amid c).surroundings = c := rfl

@[simp] theorem amid_amid (s : Session) (c d : Surroundings) : (s.amid c).amid d = s.amid d := rfl

/-! ## The run stage -/

/-- Executing instructions adds gears that are found to the queue, and the ticks to the outbox. -/
theorem executed_amid (s : Session) (n : Nat) :
    ∃ found, ∀ c, (s.amid c).executed n =
      (s.executed n).amid (c.adding found (s.holdings.program.ticksFrom s.interpreter.pc n)) := by
  induction n generalizing s with
  | zero =>
    refine ⟨[], fun c => ?_⟩
    simp [executed, Surroundings.adding, Program.ticksFrom, pickUps]
  | succ n ih =>
    cases h : s.holdings.program.sequence[s.interpreter.pc]? with
    | none =>
      refine ⟨[], fun c => ?_⟩
      rw [executed_of_past _ h, executed_of_past _ (s := s.amid c) h, Program.ticksFrom_of_past _ h]
      simp [Surroundings.adding, pickUps]
    | some i =>
      obtain ⟨found, others⟩ := ih (s.stepped i)
      let value := (s.level.collect (s.pose.execute i).position).1
      refine ⟨(if value = 0 then [] else [value]) ++ found, fun c => ?_⟩
      have first : (s.amid c).stepped i = (s.stepped i).amid
          (c.adding (if value = 0 then [] else [value]) [.tickExecuted i s.interpreter.pc]) := by
        have queued : pickups value = pickUps (if value = 0 then [] else [value]) := by
          unfold pickups
          split <;> rfl
        simp only [stepped, amid, Surroundings.adding, ← queued, value]
      rw [executed_succ _ h, executed_succ _ (s := s.amid c) h, first, others,
        Surroundings.adding_adding, Nat.add_comm n 1, Program.ticksFrom_add, Program.ticksFrom_one h]
      rfl

theorem goneOn_amid (s : Session) (ticks bomb : Timer) (t : Int) :
    ∃ found, ∀ c, (s.amid c).goneOn ticks bomb t =
      (s.goneOn ticks bomb t).amid (c.adding found (s.holdings.program.ticksFrom s.interpreter.pc
        (t / ticks.duration + 1 - s.interpreter.pc).toNat)) := by
  obtain ⟨found, executed⟩ := s.executed_amid (t / ticks.duration + 1 - s.interpreter.pc).toNat
  refine ⟨found, fun c => ?_⟩
  exact congrArg (clocked · (.armed (ticks.standing t) { bomb with elapsed := t }) t) (executed c)

theorem executed_ended_amid (s : Session) (outcome : Outcome) (time : Int) (n : Nat) :
    ∃ found, ∀ c, ((s.amid c).executed n).ended outcome time =
      ((s.executed n).ended outcome time).amid
        (c.adding found (s.holdings.program.ticksFrom s.interpreter.pc n ++
          [.runCompleted outcome (s.executed n).ticks, .phaseChanged .buying])) := by
  obtain ⟨found, executed⟩ := s.executed_amid n
  refine ⟨found, fun c => ?_⟩
  rw [executed c]
  simp only [ended, amid, Surroundings.adding, List.append_assoc]

/-- What a run does until some moment does not depend on its surroundings. -/
theorem runUntil_amid (s : Session) (ticks bomb : Timer) (t : Int) :
    ∃ found news, (∀ e ∈ news, e.ofRun = true) ∧ ∀ c, (s.amid c).runUntil ticks bomb t =
      (s.runUntil ticks bomb t).amid (c.adding found news) := by
  have ticks_ofRun : ∀ n, ∀ e ∈ s.holdings.program.ticksFrom s.interpreter.pc n, e.ofRun = true :=
    fun n e mem => Event.ofRun_of_ofTick (Program.ofTick_ticksFrom _ _ n e mem)
  have ending : ∀ outcome time n, ∃ found news, (∀ e ∈ news, e.ofRun = true) ∧
      ∀ c, ((s.amid c).executed n).ended outcome time =
        ((s.executed n).ended outcome time).amid (c.adding found news) := by
    intro outcome time n
    obtain ⟨found, same⟩ := s.executed_ended_amid outcome time n
    refine ⟨found, _, ?_, same⟩
    intro e mem
    rcases List.mem_append.mp mem with mem | mem
    · exact ticks_ofRun n e mem
    · simp only [List.mem_cons, List.not_mem_nil, or_false] at mem
      rcases mem with rfl | rfl <;> rfl
  rcases s.runUntil_cases ticks bomb t with
    ⟨before_end, before_bomb⟩ | ⟨at_end, before_bomb⟩ | ⟨at_bomb, not_through⟩
  · obtain ⟨found, same⟩ := s.goneOn_amid ticks bomb t
    refine ⟨found, s.holdings.program.ticksFrom s.interpreter.pc
      (t / ticks.duration + 1 - s.interpreter.pc).toNat, ticks_ofRun _, fun c => ?_⟩
    rw [runUntil_of_lt before_end before_bomb,
      runUntil_of_lt (s := s.amid c) before_end before_bomb, same c]
  · obtain ⟨found, news, ofRun, same⟩ := ending .success
      (s.holdings.program.length * ticks.duration) (s.holdings.program.length - s.interpreter.pc)
    refine ⟨found, news, ofRun, fun c => ?_⟩
    rw [runUntil_of_through at_end before_bomb,
      runUntil_of_through (s := s.amid c) at_end before_bomb]
    exact same c
  · obtain ⟨found, news, ofRun, same⟩ := ending .failure bomb.duration
      ((ticksBefore ticks.duration bomb.duration).toNat - s.interpreter.pc)
    refine ⟨found, news, ofRun, fun c => ?_⟩
    rw [runUntil_of_bomb at_bomb not_through,
      runUntil_of_bomb (s := s.amid c) at_bomb not_through]
    exact same c

/-! ## Commands -/

/-- A command that comes in while a run goes on can at most change the balance. -/
theorem dispatch_amid {s : Session} {item : Submission} (running : s.running = true)
    (unreset : item ≠ .command .resetToBuying) :
    ∃ c money, (s.dispatch item).state = s.amid c ∧ c.queue = s.queue ∧
      c.outbox = s.outbox ++ money ∧ ∀ e ∈ money, e.ofWallet = true := by
  have unchanged : ∃ c money, s = s.amid c ∧ c.queue = s.queue ∧ c.outbox = s.outbox ++ money ∧
      ∀ e ∈ money, e.ofWallet = true :=
    ⟨s.surroundings, [], rfl, rfl, (List.append_nil _).symm, by simp⟩
  have carried := dispatch_carried s item
  generalize s.dispatch item = a at carried ⊢
  cases carried with
  | unknown shown => exact unchanged
  | refused c journal => exact unchanged
  | untold c => exact unchanged
  | started buying => exact absurd (running.symm.trans buying) (by simp)
  | reset journal _ active => exact absurd rfl unreset
  | bought journal buying sold => exact absurd (running.symm.trans buying) (by simp)
  | added journal buying unlocked fits => exact absurd (running.symm.trans buying) (by simp)
  | removed journal buying found => exact absurd (running.symm.trans buying) (by simp)
  | @credited amount wallet journal taken =>
    refine ⟨⟨wallet, s.holdings.upgrades.offers wallet.balance, s.queue,
      s.outbox ++ [.walletChanged wallet.balance]⟩, [.walletChanged wallet.balance], rfl, rfl, rfl, ?_⟩
    intro e mem
    rw [List.mem_singleton.mp mem]
    rfl

/-- Working off a queue while a run goes on, with no command in it to give the run up. -/
theorem runQueue_amid {s : Session} (running : s.running = true)
    (unreset : .command .resetToBuying ∉ s.queue) :
    ∃ c money, s.runQueue.state = s.amid c ∧ (∀ item ∈ c.queue, item ∈ s.queue) ∧
      c.outbox = s.outbox ++ money ∧ ∀ e ∈ money, e.ofWallet = true := by
  -- the queue does not grow, so the induction is on it
  induction queue : s.queue generalizing s with
  | nil =>
    rw [runQueue_of_nil queue]
    refine ⟨s.surroundings, [], rfl, ?_, (List.append_nil _).symm, by simp⟩
    intro item mem
    rwa [← queue]
  | cons item rest ih =>
    rw [queue] at unreset
    have not_reset : item ≠ .command .resetToBuying := fun h => unreset (h ▸ List.mem_cons_self)
    obtain ⟨c, money, state, same, told, ofWallet⟩ :=
      dispatch_amid (s := { s with queue := rest }) running not_reset
    have kept : c.queue = rest := same
    rw [runQueue_of_cons queue]
    dsimp only
    cases result : ({ s with queue := rest }.dispatch item).result with
    | error fault =>
      refine ⟨c, money, state, ?_, told, ofWallet⟩
      rw [kept]
      intro other mem
      exact List.mem_cons_of_mem _ mem
    | ok answer =>
      rw [show (Attempt.after _ _).state = _ from rfl, state]
      obtain ⟨d, more, state', fewer, told', ofWallet'⟩ :=
        ih (s := s.amid c) running (fun h => unreset (List.mem_cons_of_mem _ (kept ▸ h))) kept
      refine ⟨d, money ++ more, state', ?_, ?_, ?_⟩
      · intro other mem
        exact List.mem_cons_of_mem _ (fewer other mem)
      · rw [told', ← List.append_assoc, ← told]
        rfl
      · intro e mem
        rcases List.mem_append.mp mem with mem | mem
        · exact ofWallet e mem
        · exact ofWallet' e mem

end Session

end RobotWorkshop
