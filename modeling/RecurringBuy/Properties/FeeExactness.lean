import RecurringBuy.Properties.RogueCall
import RecurringBuy.Token.Flow

set_option autoImplicit false

namespace RecurringBuy

open Checked SplToken ProgramAddress

variable {Pubkey : Type}

section Split

-- Splitting an input never raises the total fee, and lowers it by at most one unit.
theorem feeOf_split (feeConfig : FeeConfig Pubkey) (first second : Nat) :
    feeConfig.feeOf first + feeConfig.feeOf second ≤ feeConfig.feeOf (first + second) ∧
      feeConfig.feeOf (first + second) ≤ feeConfig.feeOf first + feeConfig.feeOf second + 1 := by
  unfold FeeConfig.feeOf
  rw [Nat.add_mul]
  omega

end Split

variable [DecidableEq Pubkey] [ProgramAddress Pubkey]

def Leg.forwarded (leg : Leg Pubkey) (remainingAccounts : List (AccountInfo Pubkey)) (swapData : List UInt8) :
    Instruction Pubkey :=
  { programId := leg.swapProgram
    accounts := forwardedMetas remainingAccounts leg.buyAuthority
    data := swapData }

/-- `skimmed` is the ledger between the skim and the venue's instructions. -/
structure FeeExact (direction : Direction) (cfg : Config Pubkey) (feeConfig : FeeConfig Pubkey) (leg : Leg Pubkey)
    (swap : Swap Pubkey) (skimmed : Ledger Pubkey) : Prop where
  charged : swap.fee.toNat = swap.amountIn.toNat * feeConfig.feeBps.toNat / 10000
  gained : swap.after.balance leg.feeAta = swap.before.balance leg.feeAta + swap.fee.toNat
  consumed : skimmed.balance leg.transient =
    swap.after.balance leg.transient + (swap.amountIn.toNat - swap.fee.toNat)
  capped : 100 * swap.fee.toNat ≤ swap.amountIn.toNat
  positive : 0 < swap.amountIn.toNat - swap.fee.toNat
  floored : direction.exactFloor cfg (skimmed.balance leg.transient - swap.after.balance leg.transient) % 2 ^ 64 ≤
    swap.minOut.toNat
  split : ∀ first second, feeConfig.feeOf first + feeConfig.feeOf second ≤ feeConfig.feeOf (first + second) ∧
    feeConfig.feeOf (first + second) ≤ feeConfig.feeOf first + feeConfig.feeOf second + 1

omit [ProgramAddress Pubkey] in
theorem skimFee_flow [AssociatedAddress Pubkey] (ledger skimmed : Ledger Pubkey) (leg : Leg Pubkey) (fee : UInt64)
    (apart : leg.feeAta ≠ leg.transient) (skim : skimFee ledger leg fee = .ok skimmed) :
    skimmed.balance leg.transient + fee.toNat = ledger.balance leg.transient ∧
      skimmed.balance leg.feeAta = ledger.balance leg.feeAta + fee.toNat := by
  unfold skimFee at skim
  split at skim
  next =>
    rw [tokenCall_ok] at skim
    have source := process_flow _ _ _ _ leg.transient skim
    have target := process_flow _ _ _ _ leg.feeAta skim
    simp only [TokenInstruction.takes, TokenInstruction.gives, apart, apart.symm, ne_eq, not_false_eq_true, and_self,
      not_true_eq_false, if_true, if_false] at source target
    exact ⟨by omega, by omega⟩
  next none =>
    cases skim
    have zero : fee.toNat = 0 := by
      rw [UInt64.lt_iff_toNat_lt] at none
      exact Nat.eq_zero_of_not_pos none
    exact ⟨by omega, by omega⟩

theorem feeExact_iff (direction : Direction) (user : Pubkey) (cfg : Config Pubkey) (feeConfig : FeeConfig Pubkey)
    (feeFormed : feeConfig.WellFormed) (leg : Leg Pubkey) (swap : Swap Pubkey) (skimmed : Ledger Pubkey)
    (facts : SwapFacts direction user cfg feeConfig swap)
    (transientIs : leg.transient = transient user (direction.mintIn cfg))
    (feeAtaIs : leg.feeAta = AssociatedAddress.associated feeConfig.destination (direction.mintIn cfg))
    (skim : skimFee swap.before leg swap.fee = .ok skimmed) (signed : Pubkey → Bool)
    (issued : List (TokenInstruction Pubkey)) (ran : run signed skimmed issued = .ok swap.after)
    (uncredited : ∀ step ∈ issued, step.gives leg.feeAta = 0) :
    FeeExact direction cfg feeConfig leg swap skimmed ↔
      feeConfig.destination ≠ buyAuthority user ∧
        ∀ step ∈ issued, step.takes leg.feeAta (skimmed.balance leg.feeAta) = 0 := by
  have untouched := (run_ungiven signed skimmed swap.after issued leg.feeAta ran uncredited).2
  have input := facts.input
  have drained := facts.drained
  have charged := facts.charged
  rw [← transientIs] at input drained
  have small := feeOf_le feeConfig feeFormed swap.amountIn.toNat
  have pulled : swap.amountIn.toNat ≠ 0 := by
    intro zero
    have granted := facts.granted
    rw [← transientIs, ← input, zero] at granted
    exact granted (.inr (.inl rfl))
  have separate : feeConfig.destination ≠ buyAuthority user ↔ leg.feeAta ≠ leg.transient := by
    rw [not_iff_not, feeAtaIs, transientIs, transient]
    constructor
    next =>
      intro same
      rw [same]
    next => exact fun same => (AssociatedAddress.associated_inj _ _ _ _ same).1
  rw [separate, ← untouched]
  constructor
  next =>
    intro exactly
    have apart : leg.feeAta ≠ leg.transient := by
      intro same
      have gained := exactly.gained
      rw [same] at gained
      omega
    refine ⟨apart, ?_⟩
    have skims := skimFee_flow swap.before skimmed leg swap.fee apart skim
    rw [exactly.gained, skims.2]
  next =>
    intro conditions
    obtain ⟨apart, kept⟩ := conditions
    have skims := skimFee_flow swap.before skimmed leg swap.fee apart skim
    have net : skimmed.balance leg.transient - swap.after.balance leg.transient =
        feeConfig.netOf swap.amountIn.toNat := by
      unfold FeeConfig.netOf
      omega
    constructor
    case charged => exact charged
    case gained => rw [kept, skims.2]
    case consumed => omega
    case capped => omega
    case positive => omega
    case floored =>
      rw [net]
      exact facts.floorMet
    case split => exact feeOf_split feeConfig

theorem fee_exact_iff (world : World Pubkey) (cfg : Config Pubkey) (feeConfig : FeeConfig Pubkey)
    (reachable : world.Reachable) (configLoaded : world.config = some cfg)
    (feeConfigLoaded : world.feeConfig = some feeConfig) (minOut : UInt64) (swapData : List UInt8)
    (venue : Venue Pubkey) (world' : World Pubkey) (skimmed : Ledger Pubkey)
    (issued : List (TokenInstruction Pubkey)) :
    (∀ ctx event, executeBuy world ctx minOut swapData venue = .ok (world', event) →
      skimFee world.ledger ctx.accounts.leg event.fee = .ok skimmed →
      venue.behaviour (ctx.accounts.leg.forwarded ctx.remainingAccounts swapData) skimmed = some issued →
      (∀ step ∈ issued, step.gives ctx.accounts.feeAta = 0) →
      (FeeExact .buy cfg feeConfig ctx.accounts.leg
          ⟨world.ledger, world'.ledger, minOut, event.amountIn, event.fee, event.amountOut⟩ skimmed ↔
        feeConfig.destination ≠ buyAuthority ctx.accounts.user ∧
          ∀ step ∈ issued, step.takes ctx.accounts.feeAta (skimmed.balance ctx.accounts.feeAta) = 0)) ∧
    ∀ ctx event, executeSell world ctx minOut swapData venue = .ok (world', event) →
      skimFee world.ledger ctx.accounts.leg event.fee = .ok skimmed →
      venue.behaviour (ctx.accounts.leg.forwarded ctx.remainingAccounts swapData) skimmed = some issued →
      (∀ step ∈ issued, step.gives ctx.accounts.feeAta = 0) →
      (FeeExact .sell cfg feeConfig ctx.accounts.leg
          ⟨world.ledger, world'.ledger, minOut, event.amountIn, event.fee, event.amountOut⟩ skimmed ↔
        feeConfig.destination ≠ buyAuthority ctx.accounts.user ∧
          ∀ step ∈ issued, step.takes ctx.accounts.feeAta (skimmed.balance ctx.accounts.feeAta) = 0) := by
  have formed := reachable_wellFormed world reachable
  have feeFormed := formed.feeConfig feeConfig feeConfigLoaded
  constructor
  next =>
    intro ctx event bought skim behaved uncredited
    have facts := executeBuy_facts _ _ _ _ _ _ _ _ _ (formed.config cfg configLoaded) feeFormed configLoaded
      feeConfigLoaded bought
    obtain ⟨cfg', feeConfig', _, _, fee, _, _, _, skimmed', course, rfl⟩ := (executeBuy_ok _ _ _ _ _ _ _).mp bought
    obtain rfl : cfg' = cfg := Option.some.inj (course.configLoaded.symm.trans configLoaded)
    obtain rfl : feeConfig' = feeConfig := Option.some.inj (course.feeConfigLoaded.symm.trans feeConfigLoaded)
    obtain rfl : skimmed' = skimmed := Except.ok.inj (course.settlement.skim.symm.trans skim)
    obtain ⟨issued', behaved', ran⟩ := invokeSigned_ok _ _ _ _ _ _ course.settlement.invoke
    obtain rfl : issued' = issued := Option.some.inj (behaved'.symm.trans behaved)
    apply feeExact_iff .buy _ _ _ feeFormed _ _ _ facts _ course.feeAddress skim _ issued' ran uncredited
    rw [transient, ← course.authoritySeeds]
    exact course.transientAddress
  next =>
    intro ctx event sold skim behaved uncredited
    have facts := executeSell_facts _ _ _ _ _ _ _ _ _ (formed.config cfg configLoaded) feeFormed configLoaded
      feeConfigLoaded sold
    obtain ⟨cfg', feeConfig', _, _, _, _, _, fee, _, _, _, skimmed', course, rfl⟩ :=
      (executeSell_ok _ _ _ _ _ _ _).mp sold
    obtain rfl : cfg' = cfg := Option.some.inj (course.configLoaded.symm.trans configLoaded)
    obtain rfl : feeConfig' = feeConfig := Option.some.inj (course.feeConfigLoaded.symm.trans feeConfigLoaded)
    obtain rfl : skimmed' = skimmed := Except.ok.inj (course.settlement.skim.symm.trans skim)
    obtain ⟨issued', behaved', ran⟩ := invokeSigned_ok _ _ _ _ _ _ course.settlement.invoke
    obtain rfl : issued' = issued := Option.some.inj (behaved'.symm.trans behaved)
    apply feeExact_iff .sell _ _ _ feeFormed _ _ _ facts _ course.feeAddress skim _ issued' ran uncredited
    rw [transient, ← course.authoritySeeds]
    exact course.transientAddress

section Sample

def taxed : Terms := { Terms.dollar with feeBps := 100 }

theorem taxed_acceptable : taxed.Acceptable := by
  constructor <;> decide

def taxedWorld : World Address := taxed.deployed (Rogue.buyer.ledger Ledger.empty 1000 0).accounts

-- The route of the keeper leaves the account of another wallet alone.
theorem rogue_ungiven (goal : Nat) (ledger : Ledger Address) (key : Address)
    (elsewhere : key ∉ [wallet Terms.user Terms.targetMint, transient Terms.user Terms.targetMint, Rogue.buyer.sink,
      Rogue.buyer.reserve])
    (step : TokenInstruction Address) (member : step ∈ Rogue.buyer.instructions 0 0 goal ledger) :
    step.gives key = 0 := by
  simp only [List.mem_cons, List.not_mem_nil, or_false, not_or] at elsewhere
  obtain ⟨notDest, notOut, notSink, notReserve⟩ := elsewhere
  simp only [Rogue.instructions, List.mem_append, List.mem_cons, List.not_mem_nil, or_false] at member
  rcases member with (rfl | rfl | rfl | rfl) | back
  next => exact if_neg fun paid => notDest paid.1.symm
  next => exact if_neg fun paid => notOut paid.1.symm
  next => exact if_neg fun paid => notDest paid.1.symm
  next => exact if_neg fun paid => notSink paid.1.symm
  next =>
    split at back
    next =>
      obtain rfl := List.mem_singleton.mp back
      exact if_neg fun paid => notReserve paid.1.symm
    next => exact absurd back List.not_mem_nil

theorem rogue_untaken (goal held : Nat) (ledger : Ledger Address) (key : Address)
    (elsewhere : key ∉ [transient Terms.user Terms.targetMint, Rogue.buyer.reserve, Rogue.buyer.bank,
      transient Terms.user Terms.usdcMint, wallet Terms.user Terms.targetMint])
    (step : TokenInstruction Address) (member : step ∈ Rogue.buyer.instructions 0 0 goal ledger) :
    step.takes key held = 0 := by
  simp only [List.mem_cons, List.not_mem_nil, or_false, not_or] at elsewhere
  obtain ⟨notOut, notReserve, notBank, notIn, notDest⟩ := elsewhere
  simp only [Rogue.instructions, List.mem_append, List.mem_cons, List.not_mem_nil, or_false] at member
  rcases member with (rfl | rfl | rfl | rfl) | back
  next => exact if_neg fun taken => notOut taken.1.symm
  next => exact if_neg fun taken => notReserve taken.1.symm
  next => exact if_neg fun taken => notBank taken.1.symm
  next => exact if_neg fun taken => notIn taken.1.symm
  next =>
    split at back
    next =>
      obtain rfl := List.mem_singleton.mp back
      exact if_neg fun taken => notDest taken.1.symm
    next => exact absurd back List.not_mem_nil

theorem fee_exact_iff_taxed :
    ∃ world' event, executeBuy taxedWorld (Rogue.buyer.context (Rogue.buyer.buyAccounts Terms.swapProgram)) 990 []
        (Rogue.buyer.venue 0 0 990) = .ok (world', event) ∧
      world'.ledger.balance (wallet Terms.feeOwner Terms.usdcMint) =
        taxedWorld.ledger.balance (wallet Terms.feeOwner Terms.usdcMint) + event.fee.toNat := by
  have fee : (executeBuy taxedWorld (Rogue.buyer.context (Rogue.buyer.buyAccounts Terms.swapProgram)) 990 []
      (Rogue.buyer.venue 0 0 990)).map (fun result => result.2.fee) = .ok 10 := by decide
  obtain ⟨⟨world', event⟩, bought, -⟩ := (map_ok _ _ _).mp fee
  obtain ⟨_, _, _, _, _, _, _, _, skimmed, course, charged⟩ := (executeBuy_ok _ _ _ _ _ _ _).mp bought
  have skim := course.settlement.skim
  rw [charged] at bought
  refine ⟨world', _, bought, ?_⟩
  have exactly := ((fee_exact_iff taxedWorld taxed.config taxed.feeConfig (Terms.deployed_reachable _ _)
    (Terms.deployed_config _ _ taxed_acceptable) (Terms.deployed_feeConfig _ _ taxed_acceptable) 990 []
    (Rogue.buyer.venue 0 0 990) world' skimmed (Rogue.buyer.instructions 0 0 990 skimmed)).1 _ _ bought skim rfl
    (rogue_ungiven 990 skimmed _ (by decide))).mpr ⟨by decide, rogue_untaken 990 _ skimmed _ (by decide)⟩
  exact exactly.gained

-- The admin names the user's transient PDA as the destination of the fee.
def selfTaxed : World Address :=
  taxedWorld.run [.call (.setFee (Address.context ⟨Terms.admin, .config, .feeConfig⟩ [20]) 100
    (buyAuthority Terms.user))]

def selfTaxedAccounts : ExecuteBuy Address :=
  { Rogue.buyer.buyAccounts Terms.swapProgram with feeAta := transient Terms.user Terms.usdcMint }

-- The fee of 10 units goes from the transient to itself, and the venue takes all 1000.
theorem fee_not_taken :
    (∀ instruction ledger issued, (Rogue.buyer.venue 0 0 990).behaviour instruction ledger = some issued →
      ∀ step ∈ issued, step.gives (transient Terms.user Terms.usdcMint) = 0) ∧
    ¬ ∀ world' event, executeBuy selfTaxed (Rogue.buyer.context selfTaxedAccounts) 990 [] (Rogue.buyer.venue 0 0 990) =
        .ok (world', event) →
      world'.ledger.balance (transient Terms.user Terms.usdcMint) =
        selfTaxed.ledger.balance (transient Terms.user Terms.usdcMint) + event.fee.toNat := by
  constructor
  next =>
    intro instruction ledger issued behaved step member
    cases behaved
    exact rogue_ungiven 990 ledger _ (by decide) step member
  next =>
    intro always
    have before : selfTaxed.ledger.balance (transient Terms.user Terms.usdcMint) = 1000 := by decide
    have after : (executeBuy selfTaxed (Rogue.buyer.context selfTaxedAccounts) 990 [] (Rogue.buyer.venue 0 0 990)).map
        (fun result => result.1.ledger.balance (transient Terms.user Terms.usdcMint)) = .ok 0 := by decide
    obtain ⟨⟨world', event⟩, bought, value⟩ := (map_ok _ _ _).mp after
    have left : world'.ledger.balance (transient Terms.user Terms.usdcMint) = 0 := value
    have gained := always world' event bought
    omega

end Sample

end RecurringBuy
