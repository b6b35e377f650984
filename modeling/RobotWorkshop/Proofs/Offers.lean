import RobotWorkshop.Proofs.Ledger
import RobotWorkshop.Proofs.Refusals

/-!
Offers predict purchases.  A session works its offers out anew only when its wallet changes, and yet
they are at any time those of the tree and the balance as they are:

    s.offers = s.holdings.upgrades.offers s.holdings.wallet.balance               (Session.Current)

What is offered as affordable is what is for sale (`UpgradeGraph.offered_iff_forSale`).
-/

namespace RobotWorkshop

/-! ## What is offered -/

namespace UpgradeGraph

variable (g : UpgradeGraph)

theorem mem_offers (balance : Int) (offer : Offer) :
    offer ∈ g.offers balance ↔
      offer.index ∈ g.revealed ∧ g.nodes[offer.index]? = some offer.node ∧
        offer.affordable = decide (offer.node.cost ≤ balance) := by
  rw [offers, List.mem_filterMap]
  constructor
  · rintro ⟨i, shown, made⟩
    obtain ⟨node, here, rfl⟩ := Option.map_eq_some_iff.mp made
    exact ⟨shown, here, rfl⟩
  · rintro ⟨shown, here, affordable⟩
    refine ⟨offer.index, shown, Option.map_eq_some_iff.mpr ⟨offer.node, here, ?_⟩⟩
    rw [← affordable]

/-- **An affordable offer** is a node that is for sale. -/
theorem offered_iff_forSale (w : Wallet) (i : Nat) :
    (∃ offer ∈ g.offers w.balance, offer.index = i ∧ offer.affordable = true) ↔
      ∃ node, g.ForSale w i node := by
  constructor
  · rintro ⟨offer, mem, rfl, affordable⟩
    obtain ⟨shown, here, price⟩ := (g.mem_offers w.balance offer).mp mem
    obtain ⟨-, visible, unbought⟩ := (g.mem_revealed offer.index).mp shown
    rw [isPurchased_of_getElem? here] at unbought
    rw [price] at affordable
    exact ⟨offer.node, here, unbought, (g.isVisible_iff _).mp visible, of_decide_eq_true affordable⟩
  · rintro ⟨node, sale⟩
    have shown : i ∈ g.revealed :=
      (g.mem_revealed i).mpr ⟨(List.getElem?_eq_some_iff.mp sale.here).1,
        (g.isVisible_iff i).mpr sale.visible, (isPurchased_of_getElem? sale.here).trans sale.unbought⟩
    exact ⟨⟨i, node, true⟩, (g.mem_offers w.balance _).mpr
      ⟨shown, sale.here, (decide_eq_true sale.affordable).symm⟩, rfl, rfl⟩

end UpgradeGraph

/-! ## Offers along a history -/

namespace Session

variable {s t : Session} {c : Option Command} {told : List Event}

/-- The offers are those of the tree and the balance as they are. -/
def Current (s : Session) : Prop :=
  s.offers = s.holdings.upgrades.offers s.holdings.wallet.balance

theorem Runs.offers (h : s.Runs told t) : t.offers = s.offers := by
  cases h with
  | @goesOn n clocks time fit => exact congrArg (·.offers) (s.executed_rest n)
  | @ends n outcome time fit through => exact congrArg (·.offers) (s.executed_rest n)

theorem Runs.current (h : s.Runs told t) (current : s.Current) : t.Current := by
  rw [Current, h.offers, h.holdings]
  exact current

/-- **Step lemma.**  A turn changes the tree or the balance only where it works the offers out anew.
-/
theorem Turn.current (h : s.Turn c told t) (current : s.Current) : t.Current := by
  cases h with
  | still => exact current
  | ran running counted runs => exact runs.current current
  | stranded buying => exact current
  | began buying fresh runs => exact runs.current current
  | givenUp running => exact current
  | bought buying sold => rfl
  | added buying unlocked fits => exact current
  | removed buying found => exact current
  | credited taken => rfl

/-- **Run lemma.**  The offers are current at any time, also in the middle of a frame. -/
theorem through_current (holdings : Holdings) (level : Level) (hs : List Happening) :
    ((Session.new holdings level).through hs).Current :=
  history_induction (P := fun _ t => t.Current) rfl (fun _ _ _ _ _ current => current)
    (fun _ _ current turn => turn.current current) hs

/-- **Offers predict purchases.**  Whatever has been done with a new session, its offers are those
of the tree and the balance as they are; and a purchase is carried out just if the shop is open and
the session offers the upgrade as affordable. -/
theorem offers_predict_purchases (holdings : Holdings) (level : Level) (moves : List Move) :
    let s := (Session.new holdings level).after moves
    s.offers = s.holdings.upgrades.offers s.holdings.wallet.balance ∧
      ∀ index : Int, (s.dispatch (.command (.purchase index))).result = .ok true ↔
        s.phases.phase = .buying ∧
          ∃ offer ∈ s.offers, (offer.index : Int) = index ∧ offer.affordable = true := by
  intro s
  have current : s.Current := by
    show ((Session.new holdings level).after moves).Current
    rw [after_eq_through]
    exact through_current holdings level _
  refine ⟨current, fun index => ?_⟩
  have offered (i : Nat) := s.holdings.upgrades.offered_iff_forSale s.holdings.wallet i
  rw [← show s.offers = _ from current] at offered
  rw [dispatch_carried_iff, and_iff_left nofun, Admits]
  refine and_congr_right fun _ => ⟨?_, ?_⟩
  · rintro ⟨i, rfl, forSale⟩
    obtain ⟨offer, mem, rfl, affordable⟩ := (offered i).mpr forSale
    exact ⟨offer, mem, rfl, affordable⟩
  · rintro ⟨offer, mem, rfl, affordable⟩
    exact ⟨offer.index, rfl, (offered offer.index).mp ⟨offer, mem, rfl, affordable⟩⟩

end Session

end RobotWorkshop
