import RobotWorkshop.Proofs.Purchases

/-!
The account of a player over a history.  A command that is carried out is a pickup, which brings
gears in, or a purchase, which spends them on a node, or it leaves the holdings alone up to the
program (`Session.Turn.traded`).  So at any time

    balance + spent = initial balance + initially spent + income          (Session.accounted)

the nodes that have been bought are the initial ones and those of the purchases so far, each of them
bought once, and nothing else of the unlock tree has changed.
-/

namespace RobotWorkshop

/-- The gears that a command brings in. -/
def Command.income : Command → Int
  | .pickUp amount => amount
  | _ => 0

/-- The node that a command is to buy. -/
def Command.wanted : Command → Option Int
  | .purchase index => some index
  | _ => none

namespace Holdings

/-! ## Trades -/

/-- What can happen to the holdings, with the command that is carried out. -/
inductive Traded (h : Holdings) : Option Command → Holdings → Prop where
  | edited {c : Option Command} {sequence : List Instruction}
      (nothing_in : c.elim 0 Command.income = 0) (nothing_bought : c.bind Command.wanted = none) :
      Traded h c { h with program := { h.program with sequence } }
  | paid {amount : Int} (positive : 0 < amount) :
      Traded h (some (.pickUp amount)) { h with wallet := ⟨h.wallet.balance + amount⟩ }
  | bought {index : Int} {sale : Sale} {i : Nat}
      (sold : h.upgrades.Sells h.wallet index sale i) :
      Traded h (some (.purchase index))
        ({ h with upgrades := sale.graph, wallet := sale.wallet }.apply sale.node.kind).holdings

end Holdings

theorem Wallet.deposit?_eq_ok {w paid : Wallet} {amount : Int} (h : w.deposit? amount = .ok paid) :
    0 < amount ∧ paid = ⟨w.balance + amount⟩ := by
  unfold deposit? at h
  split at h
  · cases h
  · rename_i positive
    exact ⟨by omega, (Except.ok.inj h).symm⟩

theorem Program.append?_eq_ok {p q : Program} {i : Instruction} (h : p.append? i = .ok q) :
    q = { p with sequence := p.sequence ++ [i] } := by
  unfold append? at h
  split at h
  · cases h
  · exact (Except.ok.inj h).symm

theorem Program.remove?_eq_ok {p q : Program} {index : Int} {i : Instruction}
    (h : p.remove? index = .ok (i, q)) :
    q = { p with sequence := p.sequence.eraseIdx index.toNat } := by
  unfold remove? at h
  split at h
  · cases h
  · split at h
    · cases h
    · exact (Prod.mk.inj (Except.ok.inj h)).2.symm

namespace Session

theorem Runs.holdings {s t : Session} {told : List Event} (h : s.Runs told t) :
    t.holdings = s.holdings := by
  cases h with
  | @goesOn n clocks time fit => exact s.executed_holdings n
  | @ends n outcome time fit through => exact s.executed_holdings n

/-- **What a turn does to the holdings.** -/
theorem Turn.traded {s t : Session} {c : Option Command} {told : List Event} (h : s.Turn c told t) :
    s.holdings.Traded c t.holdings := by
  cases h with
  | still => exact .edited rfl rfl
  | ran running counted runs => rw [runs.holdings]; exact .edited rfl rfl
  | stranded buying => exact .edited rfl rfl
  | began buying fresh runs => rw [runs.holdings]; exact .edited rfl rfl
  | givenUp running => exact .edited rfl rfl
  | bought buying sold =>
    obtain ⟨i, sells⟩ := UpgradeGraph.buy?_sells sold
    exact .bought sells
  | added buying unlocked fits =>
    obtain rfl := Program.append?_eq_ok fits
    exact .edited rfl rfl
  | removed buying found =>
    obtain rfl := Program.remove?_eq_ok found
    exact .edited rfl rfl
  | credited taken =>
    obtain ⟨positive, rfl⟩ := Wallet.deposit?_eq_ok taken
    exact .paid positive

/-! ## The account -/

namespace Moment

variable (m : Moment)

/-- The gears that the command which is carried out brings in. -/
def income : Int := m.carriedOut.elim 0 Command.income

/-- The node that is bought. -/
def purchase : Option Int := m.carriedOut.bind Command.wanted

end Moment

/-- All gears that came in. -/
def income (ms : List Moment) : Int := (ms.map Moment.income).sum

/-- All nodes that were bought, in order. -/
def purchases (ms : List Moment) : List Int := ms.filterMap Moment.purchase

theorem income_snoc (ms : List Moment) (m : Moment) : income (ms ++ [m]) = income ms + m.income := by
  simp [income]

theorem purchases_snoc (ms : List Moment) (m : Moment) :
    purchases (ms ++ [m]) = purchases ms ++ m.purchase.toList := by
  rw [purchases, purchases, List.filterMap_append]
  rfl

/-- The account of a player who had `h₀` at first and has `h` after some moments. -/
structure Accounted (h₀ : Holdings) (ms : List Moment) (h : Holdings) : Prop where
  balance_eq : h.wallet.balance + h.upgrades.spent =
    h₀.wallet.balance + h₀.upgrades.spent + income ms
  solvent : 0 ≤ h₀.wallet.balance → 0 ≤ h.wallet.balance
  cleared : h.upgrades.cleared = h₀.upgrades.cleared
  bought : ∀ i : Nat, h.upgrades.isPurchased i = true ↔
    h₀.upgrades.isPurchased i = true ∨ (i : Int) ∈ purchases ms
  /-- Every purchase is of a node that had not been bought at first. -/
  fresh : ∀ index ∈ purchases ms, ∃ i : Nat, index = i ∧ h₀.upgrades.isPurchased i = false
  once : (purchases ms).Nodup

theorem Accounted.start (h₀ : Holdings) : Accounted h₀ [] h₀ where
  balance_eq := by simp [income]
  solvent := id
  cleared := rfl
  bought i := by simp [purchases]
  fresh index mem := nomatch mem
  once := List.nodup_nil

/-- Gears come in, or nothing happens to the account. -/
theorem Accounted.unbought {h₀ h h' : Holdings} {ms ms' : List Moment} (kept : Accounted h₀ ms h)
    {amount : Int} (nonneg : 0 ≤ amount) (came_in : income ms' = income ms + amount)
    (same : purchases ms' = purchases ms) (upgrades : h'.upgrades = h.upgrades)
    (balance : h'.wallet.balance = h.wallet.balance + amount) : Accounted h₀ ms' h' where
  balance_eq := by
    have before := kept.balance_eq
    rw [upgrades, came_in, balance]
    omega
  solvent initially := by
    have before := kept.solvent initially
    omega
  cleared := upgrades ▸ kept.cleared
  bought i := by
    rw [upgrades, same]
    exact kept.bought i
  fresh := same ▸ kept.fresh
  once := same ▸ kept.once

/-- A node is bought. -/
theorem Accounted.sold {h₀ h h' : Holdings} {ms ms' : List Moment} (kept : Accounted h₀ ms h)
    {index : Int} {sale : Sale} {i : Nat} (sold : h.upgrades.Sells h.wallet index sale i)
    (came_in : income ms' = income ms) (one_more : purchases ms' = purchases ms ++ [index])
    (upgrades : h'.upgrades = h.upgrades.markPurchased i)
    (balance : h'.wallet.balance = h.wallet.balance - sale.node.cost) : Accounted h₀ ms' h' := by
  have unbought := sold.unpurchased
  have unseen : ¬(h₀.upgrades.isPurchased i = true ∨ (i : Int) ∈ purchases ms) :=
    fun seen => by simp [(kept.bought i).mpr seen] at unbought
  obtain ⟨not_at_first, not_since⟩ := not_or.mp unseen
  rw [sold.index_eq] at one_more
  constructor
  · have before := kept.balance_eq
    have spent := UpgradeGraph.spent_markPurchased sold.node sold.unbought
    rw [upgrades, balance, spent, came_in]
    omega
  · intro _
    have affordable := sold.affordable
    omega
  · rw [upgrades, UpgradeGraph.cleared_markPurchased]
    exact kept.cleared
  · intro j
    rw [upgrades, sold.purchased_iff, kept.bought, one_more,
      List.mem_append, List.mem_singleton, Int.natCast_inj]
    tauto
  · intro other mem
    rw [one_more] at mem
    rcases List.mem_append.mp mem with earlier | last
    · exact kept.fresh other earlier
    · exact ⟨i, List.mem_singleton.mp last, by simpa using not_at_first⟩
  · rw [one_more]
    exact kept.once.append (List.nodup_singleton _) (List.disjoint_singleton.mpr not_since)

/-- **Step lemma.** -/
theorem Accounted.step {h₀ h h' : Holdings} {ms : List Moment} {m : Moment} (kept : Accounted h₀ ms h)
    (traded : h.Traded m.carriedOut h') : Accounted h₀ (ms ++ [m]) h' := by
  have came_in := income_snoc ms m
  have purchased := purchases_snoc ms m
  rw [Moment.income] at came_in
  rw [Moment.purchase] at purchased
  generalize m.carriedOut = c at came_in purchased traded
  cases traded with
  | edited nothing_in nothing_bought =>
    rw [nothing_bought, Option.toList_none, List.append_nil] at purchased
    rw [nothing_in] at came_in
    exact kept.unbought (Int.le_refl 0) came_in purchased rfl (Int.add_zero _).symm
  | @paid amount positive =>
    exact kept.unbought (Int.le_of_lt positive) came_in (purchased.trans (List.append_nil _)) rfl rfl
  | @bought index sale i sold =>
    refine kept.sold sold (came_in.trans (Int.add_zero _)) purchased ?_ ?_
    · rw [Holdings.apply_upgrades, sold.graph]
    · rw [Holdings.apply_wallet, sold.wallet]

/-- **The account holds at any time.** -/
theorem accounted (holdings : Holdings) (level : Level) (hs : List Happening) :
    Accounted holdings ((Session.new holdings level).trace hs)
      ((Session.new holdings level).through hs).holdings :=
  history_induction (P := fun ms t => Accounted holdings ms t.holdings) (.start holdings)
    (fun _ _ _ _ _ kept => kept) (fun _ _ kept turn => kept.step turn.traded) hs

end Session

end RobotWorkshop
