import RobotWorkshop.Play.NewGame
import RobotWorkshop.Proofs.Ledger

/-!
The parameters of the robot follow from the nodes that have been bought.  In a game that began from
settings, with `n kind` bought nodes of a kind,

    capacity      = initial capacity * 2 ^ n capacityBoost
    tick interval = the initial one, halved n speedBoost times
    multiplier    = the initial one, doubled n multiplierBoost times

and the conditional instruction is available just if it was listed or `1 ≤ n unlockConditional`
(`Session.parameters_of_purchases`).  In which order they were bought, and what else happened
meanwhile, makes no difference.
-/

namespace RobotWorkshop

/-! ## The conditional instruction -/

theorem Unlocks.mem_withConditional (u : Unlocks) (i : Instruction) :
    i ∈ u.withConditional ↔ i ∈ u ∨ i = .ifGapTurnLeft := by
  unfold withConditional
  split
  · rename_i there
    exact ⟨.inl, fun h => h.elim id fun eq => eq ▸ there⟩
  · rw [mem_unlock]
    exact or_comm

theorem Unlocks.mem_iterate_withConditional (u : Unlocks) (n : Nat) (i : Instruction) :
    i ∈ withConditional^[n] u ↔ i ∈ u ∨ (i = .ifGapTurnLeft ∧ 1 ≤ n) := by
  induction n with
  | zero => simp
  | succ n ih =>
    rw [Function.iterate_succ_apply', mem_withConditional, ih]
    have positive : 1 ≤ n + 1 := Nat.le_add_left 1 n
    tauto

/-! ## What all upgrades do -/

/-- What the bought upgrades have made of holdings with nothing bought. -/
structure Improved (h₀ h : Holdings) : Prop where
  capacity : h.program.capacity =
    (· * 2)^[h.upgrades.ownedOf .capacityBoost] h₀.program.capacity
  tickInterval : h.cpu.tickInterval =
    (· / 2.0)^[h.upgrades.ownedOf .speedBoost] h₀.cpu.tickInterval
  multiplier : h.cpu.multiplier =
    (· * 2.0)^[h.upgrades.ownedOf .multiplierBoost] h₀.cpu.multiplier
  unlocks : h.unlocks =
    Unlocks.withConditional^[h.upgrades.ownedOf .unlockConditional] h₀.unlocks

namespace Improved

variable {h₀ h h' : Holdings}

theorem start (unbought : h₀.upgrades.owned = []) : Improved h₀ h₀ := by
  have none_owned : ∀ kind, h₀.upgrades.ownedOf kind = 0 := by
    intro kind
    rw [UpgradeGraph.ownedOf, unbought, List.countP_nil]
  constructor <;> rw [none_owned] <;> rfl

theorem congr (kept : Improved h₀ h) (capacity : h'.program.capacity = h.program.capacity)
    (cpu : h'.cpu = h.cpu) (unlocks : h'.unlocks = h.unlocks) (upgrades : h'.upgrades = h.upgrades) :
    Improved h₀ h' where
  capacity := by rw [capacity, upgrades, kept.capacity]
  tickInterval := by rw [cpu, upgrades, kept.tickInterval]
  multiplier := by rw [cpu, upgrades, kept.multiplier]
  unlocks := by rw [unlocks, upgrades, kept.unlocks]

/-- One more node of a kind, and its effect. -/
theorem applied (kept : Improved h₀ h) (kind : UpgradeKind) {graph : UpgradeGraph} {wallet : Wallet}
    (counted : ∀ other, graph.ownedOf other =
      h.upgrades.ownedOf other + if kind = other then 1 else 0) :
    Improved h₀ ({ h with upgrades := graph, wallet }.apply kind).holdings := by
  constructor <;> rw [Holdings.apply_holdings] <;> dsimp only
  · rw [kept.capacity, counted, Nat.add_comm, Function.iterate_add_apply]
  · rw [kept.tickInterval, counted, Nat.add_comm, Function.iterate_add_apply]
  · rw [kept.multiplier, counted, Nat.add_comm, Function.iterate_add_apply]
  · rw [kept.unlocks, counted, Nat.add_comm, Function.iterate_add_apply]

/-- **Step lemma.** -/
theorem traded {c : Option Command} (kept : Improved h₀ h) (traded : h.Traded c h') :
    Improved h₀ h' := by
  cases traded with
  | edited nothing_in nothing_bought => exact kept.congr rfl rfl rfl rfl
  | paid positive => exact kept.congr rfl rfl rfl rfl
  | @bought index sale i sold =>
    refine kept.applied sale.node.kind fun other => ?_
    rw [sold.graph]
    exact UpgradeGraph.ownedOf_markPurchased sold.node sold.unbought other

/-- The same nodes have the same effect. -/
theorem unique (one : Improved h₀ h) (other : Improved h₀ h') (same : h'.upgrades = h.upgrades) :
    h'.program.capacity = h.program.capacity ∧ h'.cpu = h.cpu ∧ h'.unlocks = h.unlocks := by
  have tickInterval : h'.cpu.tickInterval = h.cpu.tickInterval := by
    rw [other.tickInterval, one.tickInterval, same]
  have multiplier : h'.cpu.multiplier = h.cpu.multiplier := by
    rw [other.multiplier, one.multiplier, same]
  refine ⟨?_, ?_, ?_⟩
  · rw [other.capacity, one.capacity, same]
  · calc h'.cpu = ⟨h'.cpu.tickInterval, h'.cpu.multiplier⟩ := rfl
      _ = h.cpu := by rw [tickInterval, multiplier]
  · rw [other.unlocks, one.unlocks, same]

end Improved

theorem Session.improved {holdings : Holdings} (unbought : holdings.upgrades.owned = [])
    (level : Level) (hs : List Happening) :
    Improved holdings ((Session.new holdings level).through hs).holdings :=
  history_induction (P := fun _ t => Improved holdings t.holdings) (.start unbought)
    (fun _ _ _ _ _ kept => kept) (fun _ _ kept turn => kept.traded turn.traded) hs

/-! ## A game from settings -/

namespace Unlocks

variable {u v : Unlocks}

theorem file?_eq_ok {category : String} {i : Instruction} (h : u.file? category i.name = .ok v) :
    v = u.unlock i := by
  unfold file? Instruction.parse at h
  rw [Instruction.ofName?_name] at h
  dsimp only at h
  split at h
  · cases h
  · split at h
    · exact (Except.ok.inj h).symm
    · cases h

theorem mem_fileAll {category : String} {is : List Instruction}
    (h : (is.map Instruction.name).foldlM (file? · category) u = .ok v) (i : Instruction) :
    i ∈ v ↔ i ∈ is ∨ i ∈ u := by
  induction is generalizing u with
  | nil =>
    obtain rfl := Except.ok.inj h
    simp
  | cons j is ih =>
    rw [List.map_cons, List.foldlM_cons] at h
    obtain ⟨w, filed, others⟩ := bind_eq_ok h
    rw [ih others, file?_eq_ok filed, mem_unlock, List.mem_cons]
    tauto

/-- Reading a table adds the instructions that are listed in it. -/
theorem mem_readTable {seed : List (Category × List Instruction)}
    (h : (seed.map fun (category, instructions) =>
      (category.name, instructions.map Instruction.name)).foldlM
        (fun u (category, names) => names.foldlM (file? · category) u) u = .ok v) (i : Instruction) :
    i ∈ v ↔ (∃ entry ∈ seed, i ∈ entry.2) ∨ i ∈ u := by
  induction seed generalizing u with
  | nil =>
    obtain rfl := Except.ok.inj h
    simp
  | cons entry seed ih =>
    obtain ⟨category, instructions⟩ := entry
    rw [List.map_cons, List.foldlM_cons] at h
    obtain ⟨w, first, others⟩ := bind_eq_ok h
    rw [ih others, mem_fileAll first, List.exists_mem_cons_iff, or_left_comm, ← or_assoc]

theorem mem_ofTable? {seed : List (Category × List Instruction)}
    (h : ofTable? (seed.map fun (category, instructions) =>
      (category.name, instructions.map Instruction.name)) = .ok v) (i : Instruction) :
    i ∈ v ↔ ∃ entry ∈ seed, i ∈ entry.2 := by
  rw [mem_readTable h]
  exact or_iff_left (show i ∉ ([] : List Instruction) from List.not_mem_nil)

end Unlocks

/-- What a game begins with. -/
structure Holdings.Initial (settings : Settings) (h : Holdings) : Prop where
  balance : h.wallet.balance = 0
  unlocks : ∀ i, i ∈ h.unlocks ↔ ∃ entry ∈ settings.unlockSeed, i ∈ entry.2
  tickInterval : h.cpu.tickInterval = settings.cpu.tickInterval
  multiplier : h.cpu.multiplier = settings.cpu.multiplier
  capacity : h.program.capacity = settings.program.initialCapacity
  unbought : h.upgrades.owned = []

theorem Cpu.new?_eq_ok {tickInterval multiplier : Float} {cpu : Cpu}
    (h : Cpu.new? tickInterval multiplier = .ok cpu) : cpu = { tickInterval, multiplier } := by
  unfold new? at h
  split at h
  · cases h
  · exact (Except.ok.inj h).symm

theorem Program.new?_eq_ok {capacity : Int} {sequence : List Instruction} {program : Program}
    (h : Program.new? capacity sequence = .ok program) : program = { capacity, sequence } := by
  unfold new? at h
  split at h
  · cases h
  · split at h
    · cases h
    · exact (Except.ok.inj h).symm

theorem Holdings.ofSettings?_eq_ok {settings : Settings} {h : Holdings}
    (made : Holdings.ofSettings? settings = .ok h) : h.Initial settings := by
  obtain ⟨u, unlocks, made⟩ := bind_eq_ok made
  obtain ⟨c, cpu, made⟩ := bind_eq_ok made
  obtain ⟨p, program, made⟩ := bind_eq_ok made
  obtain ⟨g, tree, made⟩ := bind_eq_ok made
  obtain rfl := Except.ok.inj made
  obtain rfl := Cpu.new?_eq_ok cpu
  obtain rfl := Program.new?_eq_ok program
  refine ⟨rfl, Unlocks.mem_ofTable? unlocks, rfl, rfl, rfl, UpgradeGraph.owned_eq_nil ?_⟩
  intro node mem
  cases upgrades : UpgradeGraph.ofSettings? settings.upgrades with
  | error m => rw [upgrades] at tree; cases tree
  | ok g' =>
    rw [upgrades] at tree
    obtain rfl := Except.ok.inj tree
    rw [(UpgradeGraph.new?_eq_ok upgrades).1] at mem
    obtain ⟨n, -, rfl⟩ := List.mem_map.mp mem
    rfl

namespace Session

theorem ofSettings?_eq_new {settings : Settings} {s : Session}
    (made : Session.ofSettings? settings = .ok s) :
    ∃ holdings level,
      Holdings.ofSettings? settings = .ok holdings ∧ s = Session.new holdings level := by
  obtain ⟨holdings, owned, made⟩ := bind_eq_ok made
  obtain ⟨level, -, made⟩ := bind_eq_ok made
  exact ⟨holdings, level, owned, (Except.ok.inj made).symm⟩

theorem ofSettings?_eq_ok {settings : Settings} {s : Session}
    (made : Session.ofSettings? settings = .ok s) :
    ∃ holdings level, holdings.Initial settings ∧ s = Session.new holdings level := by
  obtain ⟨holdings, level, owned, new⟩ := ofSettings?_eq_new made
  exact ⟨holdings, level, Holdings.ofSettings?_eq_ok owned, new⟩

/-- **The parameters are a function of the bought nodes.**  After any history of a game from
settings they are the initial ones, improved as often as nodes of a kind have been bought; and of
two histories with the same income that end with the same nodes bought, whatever else they consist
of, all that purchases have an effect on is the same in the end. -/
theorem parameters_of_purchases {settings : Settings} {s : Session}
    (made : Session.ofSettings? settings = .ok s) (moves : List Move) :
    let now := (s.after moves).holdings
    let owned := now.upgrades.ownedOf
    now.program.capacity = settings.program.initialCapacity * 2 ^ owned .capacityBoost ∧
    now.cpu.tickInterval = (· / 2.0)^[owned .speedBoost] settings.cpu.tickInterval ∧
    now.cpu.multiplier = (· * 2.0)^[owned .multiplierBoost] settings.cpu.multiplier ∧
    (∀ i, i ∈ now.unlocks ↔ (∃ entry ∈ settings.unlockSeed, i ∈ entry.2) ∨
      (i = .ifGapTurnLeft ∧ 1 ≤ owned .unlockConditional)) ∧
    ∀ others : List Move,
      let other := (s.after others).holdings
      income (s.trace (s.happenings others)) = income (s.trace (s.happenings moves)) →
      other.upgrades.purchased = now.upgrades.purchased →
        other.program.capacity = now.program.capacity ∧ other.cpu = now.cpu ∧
          other.unlocks = now.unlocks ∧ other.upgrades.revealed = now.upgrades.revealed ∧
          other.wallet.balance = now.wallet.balance := by
  obtain ⟨holdings, level, initial, rfl⟩ := ofSettings?_eq_ok made
  intro now owned
  have improved : ∀ moves, Improved holdings ((Session.new holdings level).after moves).holdings := by
    intro moves
    rw [after_eq_through]
    exact improved initial.unbought level _
  have account : ∀ moves, Accounted holdings
      ((Session.new holdings level).trace ((Session.new holdings level).happenings moves))
      ((Session.new holdings level).after moves).holdings := by
    intro moves
    rw [after_eq_through]
    exact accounted holdings level _
  obtain ⟨capacity, tickInterval, multiplier, unlocks⟩ := improved moves
  refine ⟨?_, ?_, ?_, ?_, ?_⟩
  · rw [← initial.capacity, ← mul_right_iterate_apply]
    exact capacity
  · rw [← initial.tickInterval]
    exact tickInterval
  · rw [← initial.multiplier]
    exact multiplier
  · intro i
    rw [← initial.unlocks, ← Unlocks.mem_iterate_withConditional, ← unlocks]
  · intro others other same_income same_nodes
    have graph : other.upgrades = now.upgrades :=
      UpgradeGraph.eq_of_cleared ((account others).cleared.trans (account moves).cleared.symm) same_nodes
    obtain ⟨same_capacity, same_cpu, same_unlocks⟩ := (improved moves).unique (improved others) graph
    refine ⟨same_capacity, same_cpu, same_unlocks, by rw [graph], ?_⟩
    have balance : now.wallet.balance + now.upgrades.spent = _ := (account moves).balance_eq
    have balance' : other.wallet.balance + other.upgrades.spent = _ := (account others).balance_eq
    rw [same_income, graph] at balance'
    omega

/-- Five nodes of the standard tree, bought in two orders, the second time with a run and two
refusals in between. -/
theorem parameters_of_purchases_two_orders :
    let buy (index : Int) : Move := .dispatch (.command (.purchase index))
    let earn (amount : Int) : Move := .dispatch (.command (.pickUp amount))
    let moves := [earn 400, buy 0, buy 4, buy 1, buy 5, buy 9]
    let others := [buy 9, earn 150, buy 0, .dispatch (.command .startRun), buy 4, .update 1.0, buy 5,
      .submit (.command (.pickUp 250)), .update 0.1, buy 5, buy 9, buy 1]
    ∃ s, Session.ofSettings? .standard = .ok s ∧
      income (s.trace (s.happenings others)) = income (s.trace (s.happenings moves)) ∧
      (s.after others).holdings.upgrades.purchased = (s.after moves).holdings.upgrades.purchased ∧
      (s.after moves).holdings.program.capacity = 4 ∧
      (s.after others).holdings.program.capacity = 4 ∧
      (s.after others).holdings.cpu = (s.after moves).holdings.cpu ∧
      (s.after others).holdings.unlocks = (s.after moves).holdings.unlocks := by
  intro buy earn moves others
  have evaluated : (Session.ofSettings? .standard).toOption.any (fun s =>
      income (s.trace (s.happenings others)) = income (s.trace (s.happenings moves)) ∧
      (s.after others).holdings.upgrades.purchased = (s.after moves).holdings.upgrades.purchased ∧
      (s.after moves).holdings.upgrades.ownedOf .capacityBoost = 2) = true := by
    decide +kernel
  cases made : Session.ofSettings? .standard with
  | error fault => rw [made] at evaluated; cases evaluated
  | ok s =>
    rw [made] at evaluated
    obtain ⟨same_income, same_nodes, two⟩ := of_decide_eq_true evaluated
    obtain ⟨capacity, -, -, -, unique⟩ := parameters_of_purchases made moves
    obtain ⟨same_capacity, same_cpu, same_unlocks, -, -⟩ := unique others same_income same_nodes
    have four : (s.after moves).holdings.program.capacity = 4 := by
      rw [capacity, two]
      rfl
    exact ⟨s, rfl, same_income, same_nodes, four, same_capacity.trans four, same_cpu, same_unlocks⟩

end Session

end RobotWorkshop
