import RecurringBuy.Keeper.Books

set_option autoImplicit false

namespace RecurringBuy

open Checked SplToken ProgramAddress

variable {Pubkey : Type} [DecidableEq Pubkey] [ProgramAddress Pubkey] (daemon : Daemon Pubkey)

section Kept

variable (user mintIn mintOut feeOwner poolIn poolOut : Pubkey) (ledger ledger' : Ledger Pubkey)
  (payments : List (Payment Pubkey))
  (fundable : Fundable daemon user mintIn mintOut feeOwner poolIn poolOut ledger)

include fundable

theorem fundable_kept (posting : Posting ledger payments ledger') :
    Fundable daemon user mintIn mintOut feeOwner poolIn poolOut ledger' := by
  have minted (mint : Pubkey) (present : (ledger.mints mint).isSome) : (ledger'.mints mint).isSome := by
    obtain ⟨source, found⟩ := Option.isSome_iff_exists.mp present
    obtain ⟨source', found', -⟩ := posting_mints _ _ _ posting mint source found
    rw [found']
    rfl
  constructor
  case supplied => exact posting_supplied _ _ _ posting fundable.supplied
  case minted => exact ⟨minted _ fundable.minted.1, minted _ fundable.minted.2⟩
  case input =>
    intro account present
    rcases posting_origin _ _ _ posting _ account present with ⟨before, found, lasts⟩ | ⟨address, undelegated⟩
    next =>
      obtain ⟨owner, mint, delegate⟩ := fundable.input before found
      refine ⟨lasts.owner.trans owner, lasts.mint.trans mint, ?_⟩
      rcases lasts.delegate with same | cleared
      next => rwa [same]
      next => simp [cleared]
    next =>
      obtain ⟨owner, mint⟩ := AssociatedAddress.associated_inj _ _ _ _ address
      exact ⟨owner.symm, mint.symm, by simp [undelegated]⟩
  case source =>
    obtain ⟨account, present, mint, owner⟩ := fundable.source
    obtain ⟨after, present', lasts⟩ := posting_account _ _ _ posting _ account present
    exact ⟨after, present', lasts.mint.trans mint, lasts.owner.trans owner⟩
  case dest =>
    intro account present
    rcases posting_origin _ _ _ posting _ account present with ⟨before, found, lasts⟩ | ⟨address, -⟩
    next =>
      obtain ⟨owner, mint⟩ := fundable.dest before found
      exact ⟨lasts.owner.trans owner, lasts.mint.trans mint⟩
    next =>
      obtain ⟨owner, mint⟩ := AssociatedAddress.associated_inj _ _ _ _ address
      exact ⟨owner.symm, mint.symm⟩
  case fee => exact posting_ofMint _ _ _ posting _ _ fundable.fee
  case inPool => exact posting_owned _ _ _ posting _ _ _ fundable.inPool
  case outPool => exact posting_owned _ _ _ posting _ _ _ fundable.outPool
  case feeApart => exact fundable.feeApart
  case userApart => exact fundable.userApart
  case authorityApart => exact fundable.authorityApart

-- The pools have another owner than the transient account.
omit [DecidableEq Pubkey] in
theorem fundable_pools : poolIn ≠ transient user mintIn ∧ poolOut ≠ transient user mintIn := by
  have apart (pool mint : Pubkey) (owned : OwnedAccount ledger pool mint daemon.mockSwap.poolAuthority) :
      pool ≠ transient user mintIn := by
    intro same
    obtain ⟨account, present, -, holder, -⟩ := owned
    rw [same] at present
    exact fundable.authorityApart ((fundable.input account present).1.symm.trans holder)
  exact ⟨apart poolIn mintIn fundable.inPool, apart poolOut mintOut fundable.outPool⟩

omit [DecidableEq Pubkey] in
theorem fundable_feeOwner : feeOwner ≠ buyAuthority user := fun same => fundable.feeApart (by rw [same]; rfl)

end Kept

section Transients

variable (user mintIn mintOut feeOwner poolIn poolOut : Pubkey) (pulled fee net : Nat)

theorem bookings_through (feeApart : wallet feeOwner mintIn ≠ transient user mintIn)
    (inApart : poolIn ≠ transient user mintIn) (outApart : poolOut ≠ transient user mintIn) :
    paidOut (transient user mintIn) (bookings user mintIn mintOut feeOwner poolIn poolOut pulled fee net) = fee + net ∧
      paidIn (transient user mintIn) (bookings user mintIn mintOut feeOwner poolIn poolOut pulled fee net) = pulled := by
  have source := (transient_ne_wallet user mintIn mintIn).symm
  have dest := (transient_ne_wallet user mintIn mintOut).symm
  constructor
  next => simp [bookings, outlays, paidOut, feeApart, inApart, outApart, source]
  next => simp [bookings, outlays, paidIn, feeApart, inApart, source, dest]

end Transients

-- Unix seconds that a JavaScript number holds.
structure SellPlan.Dated (plan : SellPlan Pubkey) : Prop where
  nextDue : 0 ≤ plan.nextDueTs.toInt ∧ plan.nextDueTs.toInt ≤ 2 ^ 53
  horizon : 0 ≤ plan.endTs.toInt ∧ plan.endTs.toInt ≤ 2 ^ 53

-- The period of a plan is at most a year.
def DatedClock (now : Int64) : Prop := 0 ≤ now.toInt ∧ now.toInt ≤ 2 ^ 52

section Dates

omit [DecidableEq Pubkey] [ProgramAddress Pubkey] in
theorem dated_exact (plan : SellPlan Pubkey) (now : Int64) (dated : plan.Dated) (clock : DatedClock now) :
    ExactTimes plan now where
  endTs := Binary64.round_int _ (by linarith [dated.horizon.1]) dated.horizon.2
  nextDueTs := Binary64.round_int _ (by linarith [dated.nextDue.1]) dated.nextDue.2
  now := Binary64.round_int _ (by linarith [clock.1]) (by linarith [clock.2])

omit [DecidableEq Pubkey] [ProgramAddress Pubkey] in
theorem dated_advance (plan advanced : SellPlan Pubkey) (formed : plan.WellFormed) (now : Int64) (dated : plan.Dated)
    (clock : DatedClock now) (due : plan.nextDueTs.toInt ≤ now.toInt) (jumped : plan.advance now = .ok advanced) :
    advanced.Dated := by
  obtain ⟨same, value⟩ := advance_ok plan advanced now due jumped
  have least := formed.minPeriod
  have most := formed.maxPeriod
  have elapsed := Int.ediv_mul_le (now.toInt - plan.nextDueTs.toInt) (show plan.periodSecs.toInt ≠ 0 by omega)
  have whole : 0 ≤ (now.toInt - plan.nextDueTs.toInt) / plan.periodSecs.toInt * plan.periodSecs.toInt :=
    Int.mul_nonneg (Int.ediv_nonneg (by omega) (by omega)) (by omega)
  rw [add_mul, one_mul] at value
  have low := dated.nextDue.1
  have late := clock.2
  have horizon : advanced.endTs = plan.endTs := by rw [same]
  exact ⟨⟨by omega, by omega⟩, by rw [horizon]; exact dated.horizon⟩

omit [DecidableEq Pubkey] [ProgramAddress Pubkey] in
theorem dated_advances (plan : SellPlan Pubkey) (formed : plan.WellFormed) (now : Int64) (dated : plan.Dated)
    (clock : DatedClock now) (due : plan.nextDueTs.toInt ≤ now.toInt) : ∃ advanced, plan.advance now = .ok advanced := by
  have positive := wellFormed_positive plan formed
  have most := formed.maxPeriod
  have low := dated.nextDue.1
  have late := clock.2
  have elapsed := Int.ediv_mul_le (now.toInt - plan.nextDueTs.toInt) positive.ne'
  apply (advance_exists plan now positive due).mpr
  simp only [SellPlan.NextFits, add_mul, one_mul]
  omega

end Dates

/-- `buyers` have delegated USDC to the keeper and `sellers` the target. -/
structure Daemon.Healthy (cfg : Config Pubkey) (feeConfig : FeeConfig Pubkey) (buyers sellers : List Pubkey)
    (world : World Pubkey) : Prop where
  serves : daemon.Serves world cfg feeConfig
  buys : ∀ user ∈ buyers, Fundable daemon user daemon.usdc daemon.target feeConfig.destination daemon.poolUsdc
    daemon.poolTarget world.ledger
  sells : ∀ user ∈ sellers, Fundable daemon user daemon.target daemon.usdc feeConfig.destination daemon.poolTarget
    daemon.poolUsdc world.ledger
  noUsdc : ∀ user ∈ buyers, world.ledger.balance (transient user daemon.usdc) = 0
  noTarget : ∀ user ∈ sellers, world.ledger.balance (transient user daemon.target) = 0
  strangers : ∀ user ∈ buyers ++ sellers, ∀ other ∈ buyers ++ sellers, user ≠ buyAuthority other
  dated : ∀ user ∈ sellers, ∀ plan, world.sellPlans (sellPlanPda user) = some plan → plan.Dated
  clock : DatedClock world.clock

section Healthy

variable (cfg : Config Pubkey) (feeConfig : FeeConfig Pubkey) (buyers sellers : List Pubkey) (world world' : World Pubkey)

theorem serves_kept (serves : daemon.Serves world cfg feeConfig) (reachable : world'.Reachable)
    (config : world'.config = world.config) (fees : world'.feeConfig = world.feeConfig) :
    daemon.Serves world' cfg feeConfig :=
  { serves with
    reachable := reachable
    configLoaded := config.trans serves.configLoaded
    feeConfigLoaded := fees.trans serves.feeConfigLoaded }

end Healthy

end RecurringBuy
