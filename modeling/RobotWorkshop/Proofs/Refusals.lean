import RobotWorkshop.CommandLine.Standard
import RobotWorkshop.Play.NewGame
import RobotWorkshop.Proofs.Purchases

/-!
When a command is refused.  Each command has a guard, which looks at the session alone
(`Session.Admits`).  A refusal is put into words as it comes to be, so a command that its guard
keeps out is answered only if no integer of too many digits would be among those words
(`Session.CanTell`):

    answered by false           ↔  ¬s.Admits c ∧ s.CanTell c      (Session.dispatch_refused_iff)
    stopped, a number too long  ↔  ¬s.Admits c ∧ ¬s.CanTell c     (Session.dispatch_untold_iff)

Either way nothing changes at all, and an admitted command is carried out, unless it is a start
whose clocks cannot be made (`Session.dispatch_answer`).
-/

namespace RobotWorkshop

/-! ## Guards -/

/-- The node of this index is for sale to the owner of the wallet: it has not been bought, it is a
root or comes after bought nodes only, and the wallet holds its price. -/
structure UpgradeGraph.ForSale (g : UpgradeGraph) (w : Wallet) (i : Nat) (node : UpgradeNode) :
    Prop where
  here : g.nodes[i]? = some node
  unbought : node.purchased = false
  visible : i ∈ g.roots ∨ ∀ p < g.size, (p, i) ∈ g.edges → g.isPurchased p = true
  affordable : node.cost ≤ w.balance

/-- The guard of a command. -/
def Session.Admits (s : Session) : Command → Prop
  | .startRun => s.phases.phase = .buying ∧ s.phases.controls.runActive = true
  | .resetToBuying => s.phases.phase = .running ∧ s.phases.controls.resetActive = true
  | .purchase index =>
    s.phases.phase = .buying ∧
      ∃ i : Nat, index = i ∧ ∃ node, s.holdings.upgrades.ForSale s.holdings.wallet i node
  | .addInstruction i =>
    s.phases.phase = .buying ∧ i ∈ s.holdings.unlocks ∧
      s.holdings.program.length < s.holdings.program.capacity
  | .removeInstruction index =>
    s.phases.phase = .buying ∧ 0 ≤ index ∧ index < s.holdings.program.length
  | .pickUp amount => 0 < amount

/-- A refusal to sell the node has a text.  It shows the price, and besides the level of a node that
is withheld, or the balance if the wallet does not hold the price. -/
structure UpgradeGraph.CanTellOf (g : UpgradeGraph) (w : Wallet) (i : Nat) (node : UpgradeNode) :
    Prop where
  price : isWritable node.cost = true
  level : node.purchased = true ∨ g.isVisible i = false → isWritable node.level = true
  balance : node.purchased = false → g.isVisible i = true → isWritable w.balance = true

/-- A refusal to sell has a text, if there is a node of the index; that there is none is only noted.
-/
def UpgradeGraph.CanTell (g : UpgradeGraph) (w : Wallet) (index : Int) : Prop :=
  ∀ (i : Nat) (node : UpgradeNode), index = i → g.nodes[i]? = some node → g.CanTellOf w i node

/-- A refusal of the command has a text, if it comes to one: what is shown in it can be written. -/
def Session.CanTell (s : Session) : Command → Prop
  | .startRun | .resetToBuying => True
  | .purchase index =>
    s.phases.phase = .buying → s.holdings.upgrades.CanTell s.holdings.wallet index
  | .addInstruction i =>
    s.phases.phase = .buying → i ∈ s.holdings.unlocks →
      isWritable s.holdings.program.capacity = true
  | .removeInstruction index => s.phases.phase = .buying → isWritable index = true
  | .pickUp amount => isWritable amount = true

/-! ## Operations with a guard -/

/-- An operation that goes through just if `guard` holds, and whose refusal has a text just if
`told` holds. -/
structure Guarded {α : Type} (e : Except Fault α) (guard told : Prop) : Prop where
  goes : guard → ∃ a, e = .ok a
  refuses : ¬guard → told → ∃ cause, e = .error (.refused cause)
  stops : ¬guard → ¬told → e = .error .numberTooLong

namespace Guarded

variable {α β : Type} {e : Except Fault α} {guard told : Prop}

theorem ok (a : α) (holds : guard) : Guarded (.ok a : Except Fault α) guard told where
  goes _ := ⟨a, rfl⟩
  refuses fails := absurd holds fails
  stops fails := absurd holds fails

theorem refused {cause : Refusal} (fails : ¬guard) (words : cause.wording.isWritable = true ↔ told) :
    Guarded (.error (.ofRefusal cause) : Except Fault α) guard told where
  goes holds := absurd holds fails
  refuses _ can := ⟨cause, congrArg _ (Fault.ofRefusal_eq_refused_iff.mpr ⟨rfl, words.mpr can⟩)⟩
  stops _ cannot :=
    congrArg _ (Fault.ofRefusal_eq_numberTooLong_iff.mpr (Bool.eq_false_iff.mpr (mt words.mp cannot)))

/-- A refusal of fixed words has a text. -/
theorem refused_plainly {cause : Refusal} (fails : ¬guard) :
    Guarded (.error (.refused cause) : Except Fault α) guard True where
  goes holds := absurd holds fails
  refuses _ _ := ⟨cause, rfl⟩
  stops _ cannot := absurd trivial cannot

theorem map (h : Guarded e guard told) (f : α → β) : Guarded (e.map f) guard told where
  goes holds := by
    obtain ⟨a, rfl⟩ := h.goes holds
    exact ⟨f a, rfl⟩
  refuses fails can := by
    obtain ⟨cause, rfl⟩ := h.refuses fails can
    exact ⟨cause, rfl⟩
  stops fails cannot := by
    rw [h.stops fails cannot]
    rfl

/-- Of two operations in a row the second is asked only if the first goes through. -/
theorem bind {e : Except Fault Unit} {f : Unit → Except Fault β} {guard' told' : Prop}
    (h : Guarded e guard told) (h' : Guarded (f ()) guard' told') :
    Guarded (e.bind f) (guard ∧ guard') ((¬guard → told) ∧ (guard → told')) := by
  by_cases holds : guard
  · obtain ⟨⟨⟩, rfl⟩ := h.goes holds
    simp only [holds, not_true_eq_false, false_implies, true_implies, true_and]
    exact h'
  · refine ⟨fun both => absurd both.1 holds, fun _ can => ?_, fun _ cannot => ?_⟩
    · obtain ⟨cause, rfl⟩ := h.refuses holds (can.1 holds)
      exact ⟨cause, rfl⟩
    · rw [h.stops holds fun can => cannot ⟨fun _ => can, fun h => absurd h holds⟩]
      rfl

theorem fails_of_error {fault : Fault} (h : Guarded e guard told) (failed : e = .error fault) :
    ¬guard := fun holds => by
  obtain ⟨a, went⟩ := h.goes holds
  cases went.symm.trans failed

theorem ok_iff (h : Guarded e guard told) : (∃ a, e = .ok a) ↔ guard := by
  refine ⟨fun ⟨a, went⟩ => by_contra fun fails => ?_, h.goes⟩
  by_cases can : told
  · obtain ⟨cause, refused⟩ := h.refuses fails can
    cases went.symm.trans refused
  · cases went.symm.trans (h.stops fails can)

theorem refused_iff (h : Guarded e guard told) :
    (∃ cause, e = .error (.refused cause)) ↔ ¬guard ∧ told := by
  refine ⟨fun ⟨cause, refused⟩ => ?_, fun ⟨fails, can⟩ => h.refuses fails can⟩
  have fails := h.fails_of_error refused
  exact ⟨fails, by_contra fun cannot => by cases refused.symm.trans (h.stops fails cannot)⟩

theorem stopped_iff (h : Guarded e guard told) : e = .error .numberTooLong ↔ ¬guard ∧ ¬told := by
  refine ⟨fun stopped => ?_, fun ⟨fails, cannot⟩ => h.stops fails cannot⟩
  have fails := h.fails_of_error stopped
  refine ⟨fails, fun can => ?_⟩
  obtain ⟨cause, refused⟩ := h.refuses fails can
  cases stopped.symm.trans refused

end Guarded

theorem PhaseMachine.requestStart?_guarded (m : PhaseMachine) :
    Guarded m.requestStart? (m.phase = .buying ∧ m.controls.runActive = true) True := by
  unfold requestStart? running
  cases m.phase <;> cases m.controls.runActive
  case buying.true => exact .ok _ ⟨rfl, rfl⟩
  all_goals exact .refused_plainly (by simp)

theorem PhaseMachine.requestReset?_guarded (m : PhaseMachine) :
    Guarded m.requestReset? (m.phase = .running ∧ m.controls.resetActive = true) True := by
  unfold requestReset? running
  cases m.phase <;> cases m.controls.resetActive
  case running.true => exact .ok _ ⟨rfl, rfl⟩
  all_goals exact .refused_plainly (by simp)

theorem Program.append?_guarded (p : Program) (i : Instruction) :
    Guarded (p.append? i) (p.length < p.capacity) (isWritable p.capacity = true) := by
  unfold append? full
  split
  · exact .refused (by simp_all) (by simp [Refusal.wording])
  · exact .ok _ (by simp_all)

theorem Program.remove?_guarded (p : Program) (index : Int) :
    Guarded (p.remove? index) (0 ≤ index ∧ index < p.length) (isWritable index = true) := by
  unfold remove? Program.length
  split
  · exact .refused (by omega) (by simp [Refusal.wording])
  · cases found : p.sequence[index.toNat]? with
    | none =>
      have outside := List.getElem?_eq_none_iff.mp found
      exact .refused (by omega) (by simp [Refusal.wording])
    | some i =>
      obtain ⟨inside, -⟩ := List.getElem?_eq_some_iff.mp found
      exact .ok _ (by omega)

theorem Unlocks.require_guarded (u : Unlocks) (i : Instruction) :
    Guarded (u.require i) (i ∈ u) True := by
  unfold require
  split
  · exact .ok _ ‹_›
  · exact .refused_plainly ‹_›

theorem Wallet.deposit?_guarded (w : Wallet) (amount : Int) :
    Guarded (w.deposit? amount) (0 < amount) (isWritable amount = true) := by
  unfold deposit?
  split
  · exact .refused (by omega) (by simp [Refusal.wording])
  · exact .ok _ (by omega)

theorem Wallet.spend?_guarded (w : Wallet) (cost : Int) :
    Guarded (w.spend? cost) (cost ≤ w.balance)
      (isWritable w.balance = true ∧ isWritable cost = true) := by
  unfold spend? canAfford
  split
  · exact .ok _ (of_decide_eq_true ‹_›)
  · exact .refused (fun enough => ‹¬_› (decide_eq_true enough)) (by simp [Refusal.wording])

theorem UpgradeNode.isWritable_wording (node : UpgradeNode) :
    node.wording.isWritable = true ↔ isWritable node.level = true ∧ isWritable node.cost = true := by
  simp [wording]

namespace UpgradeGraph

variable (g : UpgradeGraph)

theorem charge?_guarded {i : Nat} {node : UpgradeNode} (here : g.nodes[i]? = some node) (w : Wallet) :
    Guarded (g.charge? i node w) (g.ForSale w i node) (g.CanTellOf w i node) := by
  unfold charge?
  cases bought : node.purchased with
  | true =>
    have unsold : ¬g.ForSale w i node := fun sale => by cases bought.symm.trans sale.unbought
    refine .refused unsold (node.isWritable_wording.trans ⟨fun ⟨level, price⟩ => ?_, fun can => ?_⟩)
    · exact ⟨price, fun _ => level, fun unbought => by cases bought.symm.trans unbought⟩
    · exact ⟨can.level (.inl bought), can.price⟩
  | false =>
    cases seen : g.isVisible i with
    | false =>
      have unsold : ¬g.ForSale w i node := fun sale => by
        cases seen.symm.trans ((g.isVisible_iff i).mpr sale.visible)
      refine .refused unsold (node.isWritable_wording.trans ⟨fun ⟨level, price⟩ => ?_, fun can => ?_⟩)
      · exact ⟨price, fun _ => level, fun _ visible => by cases seen.symm.trans visible⟩
      · exact ⟨can.level (.inr seen), can.price⟩
    | true =>
      have paid := w.spend?_guarded node.cost
      refine ⟨fun sale => paid.goes sale.affordable, fun kept can => ?_, fun kept cannot => ?_⟩
      · exact paid.refuses (fun enough => kept ⟨here, bought, (g.isVisible_iff i).mp seen, enough⟩)
          ⟨can.balance bought seen, can.price⟩
      · refine paid.stops (fun enough => kept ⟨here, bought, (g.isVisible_iff i).mp seen, enough⟩) ?_
        rintro ⟨balance, price⟩
        exact cannot ⟨price, by simp [bought, seen], fun _ _ => balance⟩

/-- There is a node of this index. -/
theorem buy?_of_here {i : Nat} {node : UpgradeNode} (here : g.nodes[i]? = some node) (w : Wallet) :
    ((∃ sale, g.buy? i w = .ok sale) ↔ ∃ paid, g.charge? i node w = .ok paid) ∧
    (g.buy? i w = .error (.stopped .numberTooLong) ↔
      g.charge? i node w = .error .numberTooLong) := by
  obtain ⟨inside, -⟩ := List.getElem?_eq_some_iff.mp here
  have found : nodeIndex? g.size i = some i := nodeIndex?_eq_some.mpr ⟨rfl, inside⟩
  simp only [buy?, found, here]
  cases charged : g.charge? i node w with
  | ok paid => simp
  | error fault =>
    rcases charge?_refuses charged with rfl | ⟨cause, rfl⟩
    · simp
    · simp

theorem buy?_of_absent {index : Int} (absent : ∀ i : Nat, index = i → g.nodes[i]? = none)
    (w : Wallet) :
    g.buy? index w = .error (.refused (.unknownUpgrade index)) := by
  unfold buy?
  split
  · rfl
  · rename_i i found
    rw [absent i (nodeIndex?_eq_some.mp found).1]

/-- **A purchase** goes through just if the node is for sale. -/
theorem buy?_ok_iff (index : Int) (w : Wallet) :
    (∃ sale, g.buy? index w = .ok sale) ↔ ∃ i : Nat, index = i ∧ ∃ node, g.ForSale w i node := by
  constructor
  · rintro ⟨sale, sold⟩
    obtain ⟨i, sells⟩ := buy?_sells sold
    exact ⟨i, sells.index_eq, sale.node, sells.node, sells.unbought,
      (g.isVisible_iff i).mp sells.visible, sells.affordable⟩
  · rintro ⟨i, rfl, node, sale⟩
    exact (g.buy?_of_here sale.here w).1.mpr ((g.charge?_guarded sale.here w).goes sale)

/-- It is stopped just if there is a node that is not for sale, and the refusal has no text. -/
theorem buy?_stopped_iff (index : Int) (w : Wallet) :
    g.buy? index w = .error (.stopped .numberTooLong) ↔
      ¬(∃ i : Nat, index = i ∧ ∃ node, g.ForSale w i node) ∧ ¬g.CanTell w index := by
  by_cases present : ∃ i : Nat, index = i ∧ ∃ node, g.nodes[i]? = some node
  · obtain ⟨i, rfl, node, here⟩ := present
    have the_node {j : Nat} {other : UpgradeNode} (same : (i : Int) = j)
        (there : g.nodes[j]? = some other) : j = i ∧ other = node := by
      obtain rfl : i = j := Int.ofNat.inj same
      exact ⟨rfl, Option.some.inj (there.symm.trans here)⟩
    rw [(g.buy?_of_here here w).2, (g.charge?_guarded here w).stopped_iff]
    refine and_congr (not_congr ⟨fun sale => ⟨i, rfl, node, sale⟩, ?_⟩) (not_congr ⟨?_, ?_⟩)
    · rintro ⟨j, same, other, sale⟩
      obtain ⟨rfl, rfl⟩ := the_node same sale.here
      exact sale
    · intro can j other same there
      obtain ⟨rfl, rfl⟩ := the_node same there
      exact can
    · exact fun can => can i node rfl here
  · have absent : ∀ i : Nat, index = i → g.nodes[i]? = none := fun i same =>
      Option.eq_none_iff_forall_ne_some.mpr fun node here => present ⟨i, same, node, here⟩
    rw [g.buy?_of_absent absent w]
    refine ⟨nofun, fun ⟨_, untold⟩ => absurd (fun i node same here => ?_) untold⟩
    exact absurd ⟨i, same, node, here⟩ present

end UpgradeGraph

/-! ## The answer to a command -/

namespace Session

variable (s : Session)

theorem running_eq_false_iff : s.running = false ↔ s.phases.phase = .buying := by
  unfold running PhaseMachine.running
  cases s.phases.phase <;> simp

theorem running_of_not_buying (not_buying : s.phases.phase ≠ .buying) : s.running = true := by
  rwa [← Bool.not_eq_false, running_eq_false_iff]

theorem edit_guarded {change : Program → Except Fault Program} {guard told : Prop}
    (h : Guarded (change s.holdings.program) guard told) :
    Guarded (s.edit change) (s.phases.phase = .buying ∧ guard)
      (s.phases.phase = .buying → told) := by
  unfold edit
  by_cases buying : s.phases.phase = .buying
  · simp only [(running_eq_false_iff s).mpr buying, buying, true_and, true_implies,
      Bool.false_eq_true, if_false]
    exact h.map _
  · simp only [s.running_of_not_buying buying, buying, false_and, false_implies, if_true]
    exact .refused_plainly not_false

/-- How a command with a guard is answered if it is not carried out. -/
structure Answered (a : Attempt Session Bool) (guard told : Prop) : Prop where
  refused : a.result = .ok false ↔ ¬guard ∧ told
  untold : a.result = .error .numberTooLong ↔ ¬guard ∧ ¬told

theorem settle_answered (c : Command) {e : Except Fault (Attempt Session Unit)} {guard told : Prop}
    (h : Guarded e guard told)
    (writable : ∀ attempt, e = .ok attempt → attempt.result ≠ .error .numberTooLong) :
    Answered (s.settle c e) guard told := by
  refine ⟨?_, ?_⟩
  · rw [← h.refused_iff]
    cases e with
    | error fault => cases fault <;> simp [settle, Attempt.done, Attempt.failed]
    | ok attempt =>
      obtain ⟨result, state, journal⟩ := attempt
      cases result <;> simp [settle, Attempt.andThen, Attempt.done]
  · rw [← h.stopped_iff]
    cases e with
    | error fault => cases fault <;> simp [settle, Attempt.done, Attempt.failed]
    | ok attempt =>
      have := writable attempt rfl
      obtain ⟨result, state, journal⟩ := attempt
      cases result <;> simp_all [settle, Attempt.andThen, Attempt.done]

theorem purchase_answered (index : Int) :
    Answered (s.purchase index) (s.Admits (.purchase index)) (s.CanTell (.purchase index)) := by
  unfold purchase
  by_cases buying : s.phases.phase = .buying
  · have sold := s.holdings.upgrades.buy?_ok_iff index s.holdings.wallet
    have stopped := s.holdings.upgrades.buy?_stopped_iff index s.holdings.wallet
    simp only [(running_eq_false_iff s).mpr buying, Bool.false_eq_true, if_false]
    simp only [Admits, CanTell, buying, true_and, true_implies]
    rw [← sold] at stopped ⊢
    cases bought : s.holdings.upgrades.buy? index s.holdings.wallet with
    | ok sale => exact ⟨by simp [Attempt.done], by simp [Attempt.done]⟩
    | error unsold =>
      rw [bought] at stopped
      cases unsold with
      | refused note =>
        exact ⟨by simpa [Attempt.done] using stopped, by simpa [Attempt.done] using stopped⟩
      | stopped fault =>
        obtain rfl := UpgradeGraph.buy?_stopped bought
        exact ⟨by simpa [Attempt.failed] using stopped, by simpa [Attempt.failed] using stopped⟩
  · simp only [s.running_of_not_buying buying, if_true]
    exact ⟨by simp [Attempt.done, Admits, CanTell, buying], by simp [Attempt.done, CanTell, buying]⟩

theorem map_writable {σ : Type} {e : Except Fault σ} {next : σ → Attempt Session Unit}
    (writable : ∀ a, e = .ok a → (next a).result ≠ .error .numberTooLong)
    (attempt : Attempt Session Unit) (went : e.map next = .ok attempt) :
    attempt.result ≠ .error .numberTooLong := by
  cases e with
  | error fault => cases went
  | ok a =>
    obtain rfl := Except.ok.inj went
    exact writable a rfl

/-- Only a clock that cannot be made stops the start of a run. -/
theorem beginRun_writable : (s.beginRun (.entered .running)).result ≠ .error .numberTooLong := by
  by_cases can : s.holdings.CanRun
  · obtain ⟨t, begun, -⟩ := beginRun_steady can
    simp [begun.result]
  · obtain ⟨⟨fault, failed, ofTime⟩, -⟩ := beginRun_fails can
    rw [failed]
    rcases ofTime with rfl | rfl | rfl <;> exact nofun

/-- **Each command** is answered by its guard and the words of its refusal. -/
theorem dispatch_answered (c : Command) :
    Answered (s.dispatch (.command c)) (s.Admits c) (s.CanTell c) := by
  cases c with
  | startRun =>
    refine s.settle_answered _ (s.phases.requestStart?_guarded.map _) (map_writable ?_)
    intro target requested
    obtain ⟨-, -, rfl⟩ := requestStart?_eq_ok requested
    exact s.beginRun_writable
  | resetToBuying =>
    exact s.settle_answered _ (s.phases.requestReset?_guarded.map _)
      (map_writable fun _ _ => nofun)
  | purchase index => exact s.purchase_answered index
  | addInstruction i =>
    refine s.settle_answered _ (Guarded.map ?_ _) (map_writable fun _ _ => nofun)
    let change (program : Program) :=
      (s.holdings.unlocks.require i).bind fun () => program.append? i
    have guarded : Guarded (s.edit change) _ _ := s.edit_guarded
      ((s.holdings.unlocks.require_guarded i).bind (s.holdings.program.append?_guarded i))
    simpa only [Admits, CanTell, implies_true, true_and] using guarded
  | removeInstruction index =>
    refine s.settle_answered _ (Guarded.map ?_ _) (map_writable fun _ _ => nofun)
    have guarded := (s.holdings.program.remove?_guarded index).map (·.2)
    exact s.edit_guarded guarded
  | pickUp amount =>
    exact s.settle_answered _ ((s.holdings.wallet.deposit?_guarded amount).map _)
      (map_writable fun _ _ => nofun)

/-- **A command is refused** just if its guard fails and its refusal has a text. -/
theorem dispatch_refused_iff (c : Command) :
    (s.dispatch (.command c)).result = .ok false ↔ ¬s.Admits c ∧ s.CanTell c :=
  (s.dispatch_answered c).refused

theorem dispatch_untold_iff (c : Command) :
    (s.dispatch (.command c)).result = .error .numberTooLong ↔ ¬s.Admits c ∧ ¬s.CanTell c :=
  (s.dispatch_answered c).untold

/-- A command is answered: its guard holds, or its refusal has a text. -/
def Answers (c : Command) : Prop := s.Admits c ∨ s.CanTell c

theorem answers_iff (c : Command) :
    s.Answers c ↔ (s.dispatch (.command c)).result ≠ .error .numberTooLong := by
  rw [ne_eq, dispatch_untold_iff, Answers]
  tauto

/-- **The answer to a command**: it is refused and nothing changes, or its refusal has no text and
nothing changes, or it is carried out, or it is a start that is stopped because a clock cannot be
made. -/
theorem dispatch_answer (c : Command) :
    (s.dispatch (.command c)).Gives false s ∨
      ((s.dispatch (.command c)).result = .error .numberTooLong ∧
        (s.dispatch (.command c)).state = s) ∨
      ((s.dispatch (.command c)).result = .ok true ∧ (c = .startRun → s.holdings.CanRun)) ∨
      ((c = .startRun ∧ ¬s.holdings.CanRun) ∧
        ∃ fault, (s.dispatch (.command c)).result = .error fault ∧ fault.OfTime) := by
  have carried := dispatch_carried s (.command c)
  generalize s.dispatch (.command c) = a at carried ⊢
  cases carried with
  | refused _ journal => exact .inl (Attempt.gives_done _ _ _)
  | untold => exact .inr (.inl ⟨rfl, rfl⟩)
  | started buying active =>
    right; right
    by_cases can : s.holdings.CanRun
    · obtain ⟨t, begun, -⟩ := beginRun_steady can
      exact .inl ⟨(begun.andThen (Attempt.gives_done t true [])).result, fun _ => can⟩
    · obtain ⟨⟨fault, failed, ofTime⟩, -⟩ := beginRun_fails can
      obtain ⟨result, -⟩ := Attempt.andThen_of_error (fun t () => Attempt.done t true) failed
      exact .inr ⟨⟨rfl, can⟩, fault, result, ofTime⟩
  | _ => exact .inr (.inr (.inl ⟨rfl, nofun⟩))

/-- A command is carried out just if its guard holds and it is no start whose clocks cannot be made.
-/
theorem dispatch_carried_iff (c : Command) :
    (s.dispatch (.command c)).result = .ok true ↔
      s.Admits c ∧ (c = .startRun → s.holdings.CanRun) := by
  have refused := s.dispatch_refused_iff c
  have untold := s.dispatch_untold_iff c
  rcases s.dispatch_answer c with
    ⟨result, -⟩ | ⟨result, -⟩ | ⟨result, can⟩ | ⟨⟨rfl, cannot⟩, fault, result, -⟩
  · have fails : ¬s.Admits c := (refused.mp result).1
    simp [result, fails]
  · have fails : ¬s.Admits c := (untold.mp result).1
    simp [result, fails]
  · have admitted : s.Admits c := by
      simp only [result, Except.ok.injEq, Bool.true_eq_false, false_iff, reduceCtorEq]
        at refused untold
      tauto
    simpa [result, admitted] using can
  · simp [result, cannot]

/-- **Refusals.**  In any state a command that its guard keeps out changes nothing at all, and it is
answered just if its refusal has a text.  So the answer tells just what the guard says if the guard
holds or the refusal has a text.  If the guard holds the command is carried out, unless it is a
start whose clocks cannot be made.  A refusal is an answer and never a fault. -/
theorem answer_tells_guard_iff (c : Command) :
    (((s.dispatch (.command c)).result = .ok false ↔ ¬s.Admits c) ↔ s.Answers c) ∧
    ((s.dispatch (.command c)).result = .ok false ↔ ¬s.Admits c ∧ s.CanTell c) ∧
    ((s.dispatch (.command c)).result = .error .numberTooLong ↔ ¬s.Admits c ∧ ¬s.CanTell c) ∧
    (¬s.Admits c → (s.dispatch (.command c)).state = s) ∧
    ((s.dispatch (.command c)).result = .ok true ↔
      s.Admits c ∧ (c = .startRun → s.holdings.CanRun)) ∧
    ∀ cause, (s.dispatch (.command c)).result ≠ .error (.refused cause) := by
  have refused := s.dispatch_refused_iff c
  have untold := s.dispatch_untold_iff c
  refine ⟨?exactly, refused, untold, ?unchanged, s.dispatch_carried_iff c, ?answered⟩
  case exactly =>
    rw [refused, Answers]
    tauto
  case unchanged =>
    intro kept
    rcases s.dispatch_answer c with
      ⟨-, state⟩ | ⟨-, state⟩ | ⟨result, -⟩ | ⟨⟨rfl, cannot⟩, fault, result, ofTime⟩
    · exact state
    · exact state
    · exact absurd ((s.dispatch_carried_iff c).mp result).1 kept
    · cases result.symm.trans (refused.mpr ⟨kept, trivial⟩)
  case answered =>
    intro cause escaped
    rcases s.dispatch_answer c with
      ⟨result, -⟩ | ⟨result, -⟩ | ⟨result, -⟩ | ⟨-, fault, result, ofTime⟩
    · cases escaped.symm.trans result
    · cases escaped.symm.trans result
    · cases escaped.symm.trans result
    · obtain rfl : fault = .refused cause := Except.error.inj (result.symm.trans escaped)
      rcases ofTime with h | h | h <;> cases h

/-- A pickup of a debt of 4301 digits, in the standard game.  It is not above zero, and instead of
being refused it is stopped. -/
theorem debt_unanswered_standard :
    let debt : Int := -Nat.pow 10 mostWrittenDigits
    ∃ s, Session.ofSettings? CommandLine.standardSettings = .ok s ∧ ¬s.Admits (.pickUp debt) ∧
      (s.dispatch (.command (.pickUp debt))).result = .error .numberTooLong := by
  intro debt
  have opened : (Session.ofSettings? CommandLine.standardSettings).isOk = true := by decide +kernel
  have kept : ¬0 < debt := by decide +kernel
  have long : ¬isWritable debt = true := by decide +kernel
  cases made : Session.ofSettings? CommandLine.standardSettings with
  | error fault => rw [made] at opened; cases opened
  | ok s => exact ⟨s, rfl, kept, (s.dispatch_untold_iff _).mpr ⟨kept, long⟩⟩

end Session

end RobotWorkshop
