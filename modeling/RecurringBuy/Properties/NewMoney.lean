import RecurringBuy.Properties.RogueCall

set_option autoImplicit false

namespace RecurringBuy

open Checked SplToken ProgramAddress Rounding

variable {Pubkey : Type} [ProgramAddress Pubkey]

def OutputIsNew (direction : Direction) (user : Pubkey) (cfg : Config Pubkey) (swap : Swap Pubkey) : Prop :=
  holding swap.before user (direction.mintOut cfg) + swap.minOut.toNat ≤
    holding swap.after user (direction.mintOut cfg)

def LeavesNoResidue (user : Pubkey) (cfg : Config Pubkey) (swap : Swap Pubkey) : Prop :=
  swap.after.balance (transient user cfg.usdcMint) = 0 ∧ swap.after.balance (transient user cfg.targetMint) = 0

theorem outputIsNew_of_empty (direction : Direction) (user : Pubkey) (cfg : Config Pubkey)
    (feeConfig : FeeConfig Pubkey) (swap : Swap Pubkey) (facts : SwapFacts direction user cfg feeConfig swap)
    (empty : swap.before.balance (transient user (direction.mintOut cfg)) = 0) :
    OutputIsNew direction user cfg swap := by
  have enough := facts.enough
  have received := facts.received
  unfold OutputIsNew holding
  omega

-- One token of the output is the user's own, or the drained transient was the output transient.
theorem outputNotNew (direction : Direction) (user : Pubkey) (cfg : Config Pubkey) (swap : Swap Pubkey)
    (taken : Nat) (played : Rogue.Played user (direction.mintIn cfg) (direction.mintOut cfg) swap.before swap.after
      swap.minOut.toNat taken 0)
    (kept : 0 < swap.before.balance (transient user (direction.mintOut cfg)))
    (own : direction.mintIn cfg ≠ direction.mintOut cfg → taken = 1) : ¬ OutputIsNew direction user cfg swap := by
  have destBefore := played.destBefore
  have destAfter := played.destAfter
  unfold OutputIsNew holding
  by_cases same : direction.mintIn cfg = direction.mintOut cfg
  next =>
    have drained := played.inAfter
    rw [same] at drained
    omega
  next =>
    have left := played.outAfter same
    have one := own same
    omega

variable [DecidableEq Pubkey]

theorem output_new_iff (direction : Direction) (world : World Pubkey) (user : Pubkey) (cfg : Config Pubkey)
    (feeConfig : FeeConfig Pubkey) (reachable : world.Reachable) (configLoaded : world.config = some cfg)
    (feeConfigLoaded : world.feeConfig = some feeConfig) :
    EverySwap world user (OutputIsNew direction user) direction ↔
      direction.Refuses cfg feeConfig (world.ledger.balance (transient user (direction.mintIn cfg))) ∨
      world.ledger.balance (transient user (direction.mintOut cfg)) = 0 := by
  have formed := reachable_wellFormed world reachable
  constructor
  next =>
    intro every
    by_contra exposed
    obtain ⟨granted, kept⟩ := not_or.mp exposed
    obtain ⟨minOut, floorMet, feeMet, -⟩ := minOut_exists feeConfig (formed.feeConfig feeConfig feeConfigLoaded)
      (direction.exactFloor cfg (feeConfig.netOf (world.ledger.balance (transient user (direction.mintIn cfg)))))
      (world.ledger.balance (transient user (direction.mintIn cfg))) (Ledger.balance_lt _ _)
    let taken := if direction.mintIn cfg = direction.mintOut cfg then 0 else 1
    have little : taken ≤ 1 := by simp only [taken]; split <;> omega
    obtain ⟨swap, transients, facts, played, value, new⟩ := everySwap_rogue world user cfg feeConfig formed
      configLoaded feeConfigLoaded _ direction every granted minOut taken 0
      (fun same => ⟨by simp only [taken, same, if_true], rfl⟩) (by omega) (Nat.zero_le _) (Ledger.balance_lt _ _)
      floorMet false (.inl ((Nat.add_le_add_right (rebate_le _ _ _ _ _) _).trans (by omega)))
    rw [← value] at played
    refine outputNotNew direction user cfg swap taken played ?_ ?_ new
    next =>
      rw [transients]
      exact Nat.pos_of_ne_zero kept
    next =>
      intro different
      simp only [taken, different, if_false]
  next =>
    intro safe
    apply everySwap_sound world user cfg feeConfig formed configLoaded feeConfigLoaded
    intro swap transients facts
    rcases safe with refused | empty
    next =>
      have granted := facts.granted
      rw [transients] at granted
      exact absurd refused granted
    next => exact outputIsNew_of_empty _ _ _ _ _ facts ((transients _).trans empty)

section Sample

-- 1000 units were pulled, and the transient of the target mint holds `kept` from before.
def pulledWorld (kept : UInt64) : World Address :=
  Terms.dollar.deployed (Rogue.buyer.ledger Ledger.empty 1000 kept).accounts

theorem output_new_iff_dollar : EverySwap (pulledWorld 0) Terms.user (OutputIsNew .buy Terms.user) .buy :=
  (output_new_iff .buy (pulledWorld 0) Terms.user Terms.dollar.config Terms.dollar.feeConfig
    (Terms.deployed_reachable _ _) (Terms.deployed_config _ _ Terms.dollar_acceptable)
    (Terms.deployed_feeConfig _ _ Terms.dollar_acceptable)).mpr (.inr (by decide))

-- The route pays the user 1000 units out of the user's own transient.
theorem output_taken_from_transient :
    ¬ ∀ world' event, executeBuy (pulledWorld 1000) (Rogue.buyer.context (Rogue.buyer.buyAccounts Terms.swapProgram))
      1000 [] (Rogue.buyer.venue 1000 0 1000) = .ok (world', event) →
      holding (pulledWorld 1000).ledger Terms.user Terms.targetMint + 1000 ≤
        holding world'.ledger Terms.user Terms.targetMint := by
  intro always
  have before : holding (pulledWorld 1000).ledger Terms.user Terms.targetMint = 1000 := by decide
  have after : (executeBuy (pulledWorld 1000) (Rogue.buyer.context (Rogue.buyer.buyAccounts Terms.swapProgram))
      1000 [] (Rogue.buyer.venue 1000 0 1000)).map
        (fun result => holding result.1.ledger Terms.user Terms.targetMint) = .ok 1000 := by decide
  obtain ⟨⟨world', event⟩, accepted, value⟩ := (map_ok _ _ _).mp after
  have left : holding world'.ledger Terms.user Terms.targetMint = 1000 := value
  have grown := always world' event accepted
  omega

end Sample

theorem residue_free_iff (direction : Direction) (world : World Pubkey) (user : Pubkey) (cfg : Config Pubkey)
    (feeConfig : FeeConfig Pubkey) (reachable : world.Reachable) (configLoaded : world.config = some cfg)
    (feeConfigLoaded : world.feeConfig = some feeConfig) :
    EverySwap world user (LeavesNoResidue user) direction ↔
      direction.Refuses cfg feeConfig (world.ledger.balance (transient user (direction.mintIn cfg))) ∨
      cfg.usdcMint = cfg.targetMint := by
  have formed := reachable_wellFormed world reachable
  have mints : direction.mintIn cfg = direction.mintOut cfg ↔ cfg.usdcMint = cfg.targetMint := by
    cases direction with
    | buy => exact Iff.rfl
    | sell => exact eq_comm
  constructor
  next =>
    intro every
    by_contra exposed
    obtain ⟨granted, different⟩ := not_or.mp exposed
    rw [← mints] at different
    obtain ⟨minOut, floorMet, feeMet, -⟩ := minOut_exists feeConfig (formed.feeConfig feeConfig feeConfigLoaded)
      (direction.exactFloor cfg (feeConfig.netOf (world.ledger.balance (transient user (direction.mintIn cfg)))))
      (world.ledger.balance (transient user (direction.mintIn cfg))) (Ledger.balance_lt _ _)
    have opening := world.ledger.balance_lt (transient user (direction.mintOut cfg))
    let deposit := if world.ledger.balance (transient user (direction.mintOut cfg)) = 0 then 1 else 0
    have chosen : deposit ≤ 1 ∧ world.ledger.balance (transient user (direction.mintOut cfg)) + deposit < 2 ^ 64 ∧
        0 < world.ledger.balance (transient user (direction.mintOut cfg)) + deposit := by
      simp only [deposit]
      split <;> omega
    obtain ⟨swap, transients, facts, played, -, clean⟩ := everySwap_rogue world user cfg feeConfig formed
      configLoaded feeConfigLoaded _ direction every granted minOut 0 deposit
      (fun same => absurd same different) (Nat.zero_le _) chosen.1 chosen.2.1 floorMet
      false (.inl ((rebate_le _ _ _ _ _).trans (by omega)))
    have left := played.outAfter different
    rw [transients] at left
    have zero : swap.after.balance (transient user (direction.mintOut cfg)) = 0 := by
      cases direction with
      | buy => exact clean.2
      | sell => exact clean.1
    omega
  next =>
    intro safe
    apply everySwap_sound world user cfg feeConfig formed configLoaded feeConfigLoaded
    intro swap transients facts
    rcases safe with refused | same
    next =>
      have granted := facts.granted
      rw [transients] at granted
      exact absurd refused granted
    next =>
      have drained := facts.drained
      have input : direction.mintIn cfg = cfg.usdcMint := by
        cases direction with
        | buy => rfl
        | sell => exact same.symm
      rw [input] at drained
      exact ⟨drained, by rwa [← same]⟩

theorem residue_free_iff_dollar :
    ¬ EverySwap (pulledWorld 0) Terms.user (LeavesNoResidue Terms.user) .buy := by
  intro every
  have safe := (residue_free_iff .buy (pulledWorld 0) Terms.user Terms.dollar.config Terms.dollar.feeConfig
    (Terms.deployed_reachable _ _) (Terms.deployed_config _ _ Terms.dollar_acceptable)
    (Terms.deployed_feeConfig _ _ Terms.dollar_acceptable)).mp every
  rcases safe with ((paused | unlisted | unpriced) | nothing | never) | same
  next => exact absurd paused (by decide)
  next => exact absurd unlisted (by decide)
  next => exact absurd unpriced (by decide)
  next => exact absurd nothing (by decide)
  next => exact never
  next => exact absurd same (by decide)

-- The route leaves one unit of the target mint in the transient that it found empty.
theorem residue_left_in_transient :
    ¬ ∀ world' event, executeBuy (pulledWorld 0) (Rogue.buyer.context (Rogue.buyer.buyAccounts Terms.swapProgram))
      1000 [] (Rogue.buyer.venue 0 1 1000) = .ok (world', event) →
      world'.ledger.balance (transient Terms.user Terms.usdcMint) = 0 ∧
        world'.ledger.balance (transient Terms.user Terms.targetMint) = 0 := by
  intro always
  have after : (executeBuy (pulledWorld 0) (Rogue.buyer.context (Rogue.buyer.buyAccounts Terms.swapProgram))
      1000 [] (Rogue.buyer.venue 0 1 1000)).map
        (fun result => result.1.ledger.balance (transient Terms.user Terms.targetMint)) = .ok 1 := by decide
  obtain ⟨⟨world', event⟩, accepted, value⟩ := (map_ok _ _ _).mp after
  have left : world'.ledger.balance (transient Terms.user Terms.targetMint) = 1 := value
  have empty := (always world' event accepted).2
  omega

end RecurringBuy
