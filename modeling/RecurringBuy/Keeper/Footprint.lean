import RecurringBuy.Keeper.Round

set_option autoImplicit false

namespace RecurringBuy

open Checked SplToken ProgramAddress

variable {Pubkey : Type} [DecidableEq Pubkey] [ProgramAddress Pubkey] (daemon : Daemon Pubkey)

/-- The native program makes the transfer that it was asked for, or none. -/
def NativeProgram.Honest (native : NativeProgram Pubkey) (del : Delegation Pubkey) : Prop :=
  ∀ ledger source destination amount paid, native.rail del ledger source destination amount = some paid →
    Moves ledger paid source destination amount.toNat

def Daemon.Touches (feeOwner : Pubkey) (d : RecurringDelegation Pubkey) (key : Pubkey) : Prop :=
  (∃ mint, key = wallet d.delegator mint) ∨ key = transient d.delegator d.mint ∨ key = wallet feeOwner d.mint ∨
    key = daemon.poolUsdc ∨ key = daemon.poolTarget

structure Daemon.Passed (feeOwner : Pubkey) (d : RecurringDelegation Pubkey) (world world' : World Pubkey) : Prop where
  posting : ∃ payments, Posting world.ledger payments world'.ledger ∧ Within (daemon.Touches feeOwner d) payments
  plans : ∀ user, user ≠ d.delegator → world'.sellPlans (sellPlanPda user) = world.sellPlans (sellPlanPda user)
  config : world'.config = world.config
  fees : world'.feeConfig = world.feeConfig
  clock : world'.clock = world.clock

section Setup

variable (native : NativeProgram Pubkey) (del : Delegation Pubkey) (honest : native.Honest del) (among : Pubkey → Prop)

include honest

theorem setup_within (setup : List (SetupInstruction Pubkey))
    (inside : ∀ source destination amount, .pull source destination amount ∈ setup → among source ∧ among destination)
    (ledger funded : Ledger Pubkey) (ran : setup.foldlM (SetupInstruction.run native.rail del) ledger = some funded) :
    ∃ payments, Posting ledger payments funded ∧ Within among payments := by
  induction setup generalizing ledger with
  | nil =>
    cases ran
    exact ⟨[], .nil _, by simp [Within]⟩
  | cons instruction rest ih =>
    simp only [List.foldlM_cons, Option.bind_eq_bind, Option.bind_eq_some_iff] at ran
    obtain ⟨middle, first, later⟩ := ran
    obtain ⟨payments, posting, within⟩ := ih
      (fun source destination amount member => inside source destination amount (List.mem_cons_of_mem _ member)) middle later
    cases instruction with
    | createIdempotent ata owner mint =>
      exact ⟨payments, posting_append _ _ [] _ _ (create_posting native del _ _ ata owner mint first) posting, within⟩
    | pull source destination amount =>
      simp only [SetupInstruction.run, Option.bind_eq_bind, Option.bind_eq_some_iff] at first
      obtain ⟨-, -, paid⟩ := first
      refine ⟨⟨source, destination, (UInt64.ofNat amount.toNat).toNat⟩ :: payments,
        .moves _ middle _ _ _ (honest _ _ _ _ _ paid) (rail_mints native del _ _ _ _ _ paid) posting, ?_⟩
      intro payment member
      rcases List.mem_cons.mp member with rfl | member
      next => exact inside source destination amount List.mem_cons_self
      next => exact within payment member

end Setup

section Venue

variable (source sourceAuth poolIn poolOut dest : Pubkey)

theorem swap_within (signers : List Pubkey) (pda programId : Pubkey) (data : List UInt8) (skimmed settled : Ledger Pubkey)
    (invoked : invokeSigned signers pda daemon.mockSwap.venue skimmed
      { programId := programId
        accounts := forwardedMetas (daemon.mockSwapAccounts source sourceAuth poolIn poolOut dest) pda
        data := data } = .ok settled) :
    ∃ spent received, Posting skimmed [⟨source, poolIn, spent⟩, ⟨poolOut, dest, received⟩] settled := by
  obtain ⟨issued, behaved, ran⟩ := invokeSigned_ok _ _ _ _ _ _ invoked
  simp only [MockSwap.venue, MockSwap.swap, forwardedMetas, Daemon.mockSwapAccounts, Daemon.acc, List.map_cons,
    List.map_nil, Option.bind_eq_bind, Option.bind_eq_some_iff, Prod.exists, Option.pure_def, Option.some.injEq] at behaved
  obtain ⟨amountIn, outAmount, -, -, -, -, -, rfl⟩ := behaved
  simp only [run, bind_ok] at ran
  obtain ⟨taken, first, settled', second, same⟩ := ran
  cases same
  exact ⟨amountIn.toNat, outAmount.toNat,
    posting_append _ _ _ _ _ (transfer_posting _ _ _ _ _ _ _ first) (transfer_posting _ _ _ _ _ _ _ second)⟩

theorem skim_within (ledger skimmed : Ledger Pubkey) (leg : Leg Pubkey) (fee : UInt64)
    (skim : skimFee ledger leg fee = .ok skimmed) :
    ∃ payments, Posting ledger payments skimmed ∧
      Within (fun key => key = leg.transient ∨ key = leg.feeAta) payments := by
  unfold skimFee at skim
  split at skim
  next =>
    rw [tokenCall_ok] at skim
    exact ⟨_, transfer_posting _ _ _ _ _ _ _ skim, by simp [Within]⟩
  next =>
    cases skim
    exact ⟨[], .nil _, by simp [Within]⟩

theorem settlement_within (ledger skimmed settled : Ledger Pubkey) (signers : List Pubkey) (leg : Leg Pubkey)
    (fee destBefore minOut out : UInt64) (swapData : List UInt8)
    (settlement : Settlement ledger skimmed settled signers
      (daemon.mockSwapAccounts source sourceAuth poolIn poolOut dest) leg fee destBefore minOut out swapData
      daemon.mockSwap.venue) :
    ∃ payments, Posting ledger payments settled ∧
      Within (fun key => key ∈ [leg.transient, leg.feeAta, source, poolIn, poolOut, dest]) payments := by
  obtain ⟨charged, first, among⟩ := skim_within ledger skimmed leg fee settlement.skim
  obtain ⟨spent, received, second⟩ := swap_within daemon source sourceAuth poolIn poolOut dest _ _ _ _ _ _
    settlement.invoke
  refine ⟨_, posting_append _ _ _ _ _ first second, ?_⟩
  rw [within_append]
  constructor
  next =>
    intro payment member
    obtain ⟨paying, paid⟩ := among payment member
    simp only [List.mem_cons]
    tauto
  next => simp [Within]

end Venue

section Cranks

variable (user mintIn mintOut feeOwner poolIn poolOut : Pubkey)

theorem crank_within (native : NativeProgram Pubkey) (del : Delegation Pubkey) (honest : native.Honest del)
    (setup : List (SetupInstruction Pubkey))
    (pulls : ∀ source destination amount, .pull source destination amount ∈ setup →
      source = wallet user mintIn ∧ destination = transient user mintIn)
    (ledger funded skimmed settled : Ledger Pubkey)
    (ran : setup.foldlM (SetupInstruction.run native.rail del) ledger = some funded) (signers : List Pubkey)
    (fee destBefore minOut out : UInt64) (swapData : List UInt8)
    (settlement : Settlement funded skimmed settled signers
      (daemon.mockSwapAccounts (transient user mintIn) (buyAuthority user) poolIn poolOut (wallet user mintOut))
      (daemon.leg user mintIn mintOut feeOwner) fee destBefore minOut out swapData daemon.mockSwap.venue) :
    ∃ payments, Posting ledger payments settled ∧
      Within (fun key => (∃ mint, key = wallet user mint) ∨ key = transient user mintIn ∨ key = wallet feeOwner mintIn ∨
        key = poolIn ∨ key = poolOut) payments := by
  obtain ⟨pulled, first, drawn⟩ := setup_within native del honest
    (fun key => key = wallet user mintIn ∨ key = transient user mintIn) setup
    (fun source destination amount member => by
      obtain ⟨rfl, rfl⟩ := pulls source destination amount member
      exact ⟨.inl rfl, .inr rfl⟩) ledger funded ran
  obtain ⟨payments, second, traded⟩ := settlement_within daemon _ _ _ _ _ _ _ _ _ _ _ _ _ _ _ settlement
  refine ⟨pulled ++ payments, posting_append _ _ _ _ _ first second, (within_append _ _ _).mpr ⟨?_, ?_⟩⟩
  next =>
    refine within_mono _ _ ?_ pulled drawn
    rintro key (rfl | rfl)
    next => exact .inl ⟨mintIn, rfl⟩
    next => exact .inr (.inl rfl)
  next =>
    refine within_mono _ _ ?_ payments traded
    intro key member
    simp only [Daemon.leg, List.mem_cons, List.not_mem_nil, or_false] at member
    grind

end Cranks

section Turns

variable (native : NativeProgram Pubkey) (feeConfig : FeeConfig Pubkey) (world world' view : World Pubkey)
  (d : RecurringDelegation Pubkey)

theorem passed_idle (feeOwner : Pubkey) : daemon.Passed feeOwner d world world where
  posting := ⟨[], .nil _, by simp [Within]⟩
  plans := fun _ _ => rfl
  config := rfl
  fees := rfl
  clock := rfl

variable (honest : native.Honest d.toDelegation) (loaded : view.feeConfig = some feeConfig) (amount : Int)

include honest loaded

theorem buy_passed (usdc : d.mint = daemon.usdc) (event : BuyExecuted Pubkey)
    (landed : daemon.submitBuy (daemon.composeBuy view d.delegator amount) native.rail d.toDelegation world =
      some (world', event)) : daemon.Passed feeConfig.destination d world world' := by
  simp only [Daemon.submitBuy, Crank.submit, Option.bind_eq_bind, Option.bind_eq_some_iff, Prod.exists] at landed
  obtain ⟨funded, ran, minOut, swapData, -, executed⟩ := landed
  obtain ⟨_, _, _, _, fee, netIn, floor, out, skimmed, course, -⟩ :=
    (executeBuy_ok _ _ _ _ _ _ _).mp (toOption_some _ _ executed)
  have settlement := course.settlement
  rw [composeBuy_leg daemon view feeConfig loaded d.delegator amount] at settlement
  obtain ⟨payments, posting, within⟩ := crank_within daemon d.delegator daemon.usdc daemon.target feeConfig.destination
    daemon.poolUsdc daemon.poolTarget native d.toDelegation honest _
    (by simp [Daemon.composeBuy]; grind) _ funded skimmed _ ran _ _ _ _ _ _ settlement
  have unchanged := course.unchanged
  constructor
  case posting =>
    refine ⟨payments, posting, within_mono _ _ ?_ payments within⟩
    simp only [Daemon.Touches, usdc]
    exact fun _ => id
  case plans => exact fun _ _ => by rw [unchanged]
  case config => rw [unchanged]
  case fees => rw [unchanged]
  case clock => rw [unchanged]

theorem sell_passed (target : d.mint = daemon.target) (event : SellExecuted Pubkey)
    (landed : daemon.submitSell (daemon.composeSell view d.delegator amount) native.rail d.toDelegation world =
      some (world', event)) : daemon.Passed feeConfig.destination d world world' := by
  simp only [Daemon.submitSell, Crank.submit, Option.bind_eq_bind, Option.bind_eq_some_iff, Prod.exists] at landed
  obtain ⟨funded, ran, minOut, swapData, -, executed⟩ := landed
  obtain ⟨_, _, _, _, _, _, _, fee, netIn, floor, out, skimmed, course, -⟩ :=
    (executeSell_ok _ _ _ _ _ _ _).mp (toOption_some _ _ executed)
  have settlement := course.settlement
  rw [composeSell_leg daemon view feeConfig loaded d.delegator amount] at settlement
  obtain ⟨payments, posting, within⟩ := crank_within daemon d.delegator daemon.target daemon.usdc feeConfig.destination
    daemon.poolTarget daemon.poolUsdc native d.toDelegation honest _
    (by simp [Daemon.composeSell]; grind) _ funded skimmed _ ran _ _ _ _ _ _ settlement
  have changed := course.changed
  constructor
  case posting =>
    refine ⟨payments, posting, within_mono _ _ ?_ payments within⟩
    simp only [Daemon.Touches, target]
    grind
  case plans =>
    intro user other
    rw [changed]
    exact setSellPlan_other _ _ _ _ fun same => other (sellPlanPda_inj _ _ same)
  case config => rw [changed]; rfl
  case fees => rw [changed]; rfl
  case clock => rw [changed]; rfl

omit honest loaded in
-- A turn sends nothing that lands, or one of the two transactions for its user.
theorem turn_cases (now : Number) (outcome : World Pubkey → Prop) (idle : outcome world)
    (buy : ∀ amount world' event, d.mint = daemon.usdc →
      daemon.submitBuy (daemon.composeBuy { world with feeConfig := some feeConfig } d.delegator amount) native.rail
        d.toDelegation world = some (world', event) → outcome world')
    (sell : ∀ amount world' event, d.mint ≠ daemon.usdc →
      daemon.submitSell (daemon.composeSell { world with feeConfig := some feeConfig } d.delegator amount) native.rail
        d.toDelegation world = some (world', event) → outcome world') :
    outcome (daemon.turn native.rail (some feeConfig) now world d) := by
  unfold Daemon.turn
  cases sent : daemon.crank (some feeConfig) now world d with
  | none => exact idle
  | some transaction =>
    simp only [Daemon.crank] at sent
    split at sent
    next usdc =>
      simp only [Daemon.crankBuy, Option.map_eq_some_iff, Option.bind_eq_bind, Option.bind_eq_some_iff, Option.pure_def,
        Option.some.injEq] at sent
      obtain ⟨_, ⟨avail, -, -, -, rfl⟩, rfl⟩ := sent
      simp only [Daemon.land]
      split
      next world' event landed => exact buy avail world' event usdc landed
      next => exact idle
    next other =>
      simp only [Daemon.crankSell, Option.map_eq_some_iff, Option.bind_eq_bind, Option.bind_eq_some_iff, Option.pure_def,
        Option.some.injEq] at sent
      obtain ⟨_, ⟨plan, -, -, -, draw, -, avail, -, -, -, rfl⟩, rfl⟩ := sent
      simp only [Daemon.land]
      split
      next world' event landed => exact sell _ world' event other landed
      next => exact idle

omit loaded in
theorem turn_passed (traded : d.mint = daemon.usdc ∨ d.mint = daemon.target) (now : Number) :
    daemon.Passed feeConfig.destination d world (daemon.turn native.rail (some feeConfig) now world d) := by
  apply turn_cases
  case idle => exact passed_idle daemon world d feeConfig.destination
  case buy =>
    exact fun amount world' event usdc => buy_passed daemon native feeConfig world world' _ d honest rfl amount usdc event
  case sell =>
    intro amount world' event other
    have target := traded.resolve_left other
    exact sell_passed daemon native feeConfig world world' _ d honest rfl amount target event

omit honest loaded in
theorem turn_reachable (now : Number) (reachable : world.Reachable) :
    (daemon.turn native.rail (some feeConfig) now world d).Reachable := by
  apply turn_cases
  case idle => exact reachable
  case buy =>
    exact fun amount world' event _ => submitBuy_reachable native d.toDelegation daemon _ world world' event reachable
  case sell =>
    exact fun amount world' event _ => submitSell_reachable native d.toDelegation daemon _ world world' event reachable

end Turns

section Outside

variable (feeOwner : Pubkey) (d : RecurringDelegation Pubkey)

omit [DecidableEq Pubkey] in
theorem touches_outside (owner mint : Pubkey) (different : owner ≠ d.delegator)
    (through : transient d.delegator d.mint ≠ AssociatedAddress.associated owner mint) (unpaid : feeOwner ≠ owner)
    (usdcPool : daemon.poolUsdc ≠ AssociatedAddress.associated owner mint)
    (targetPool : daemon.poolTarget ≠ AssociatedAddress.associated owner mint) :
    ¬ daemon.Touches feeOwner d (AssociatedAddress.associated owner mint) := by
  rintro (⟨held, same⟩ | same | same | same | same)
  next => exact different (AssociatedAddress.associated_inj _ _ _ _ same).1
  next => exact through same.symm
  next => exact unpaid (AssociatedAddress.associated_inj _ _ _ _ same).1.symm
  next => exact usdcPool same.symm
  next => exact targetPool same.symm

theorem books_within (feeConfig : FeeConfig Pubkey) (world : World Pubkey) :
    Within (daemon.Touches feeConfig.destination d) (daemon.books feeConfig world d) := by
  have inside : (daemon.poolIn d = daemon.poolUsdc ∨ daemon.poolIn d = daemon.poolTarget) ∧
      (daemon.poolOut d = daemon.poolUsdc ∨ daemon.poolOut d = daemon.poolTarget) := by
    unfold Daemon.poolIn Daemon.poolOut
    split <;> simp
  by_cases nothing : daemon.pulls world d = 0
  next => simp [Daemon.books, nothing, Within]
  next =>
    simp only [Daemon.books, if_neg nothing, Within, bookings, outlays, List.mem_cons, List.not_mem_nil, or_false,
      forall_eq_or_imp, forall_eq, Daemon.Touches]
    grind

theorem passed_balance (world world' : World Pubkey) (passed : daemon.Passed feeOwner d world world') (key : Pubkey)
    (outside : ¬ daemon.Touches feeOwner d key) : world'.ledger.balance key = world.ledger.balance key := by
  obtain ⟨payments, posting, within⟩ := passed.posting
  exact posting_outside _ _ _ payments posting within key outside

theorem passed_wallet (world world' : World Pubkey) (passed : daemon.Passed feeOwner d world world') (user mint : Pubkey)
    (different : user ≠ d.delegator) (apart : user ≠ buyAuthority d.delegator) (unpaid : feeOwner ≠ user)
    (usdcPool : daemon.poolUsdc ≠ wallet user mint) (targetPool : daemon.poolTarget ≠ wallet user mint) :
    world'.ledger.balance (wallet user mint) = world.ledger.balance (wallet user mint) := by
  have through : transient d.delegator d.mint ≠ wallet user mint :=
    fun same => apart (AssociatedAddress.associated_inj _ _ _ _ same).1.symm
  exact passed_balance daemon feeOwner d world world' passed _
    (touches_outside daemon feeOwner d user mint different through unpaid usdcPool targetPool)

end Outside

end RecurringBuy
