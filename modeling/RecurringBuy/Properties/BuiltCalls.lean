import RecurringBuy.Keeper.Builders
import RecurringBuy.Keeper.Settlement
import RecurringBuy.Properties.Failures
import RecurringBuy.Properties.Ownership

set_option autoImplicit false

namespace RecurringBuy

open Checked SplToken ProgramAddress

variable {Pubkey : Type} [DecidableEq Pubkey] [ProgramAddress Pubkey]

section Mints

variable (user mint : Pubkey)

-- What no instruction without the account's signature can spoil, no event can.
theorem step_associated (holds : Option (TokenAccount Pubkey) → Prop)
    (kept : ∀ signed instruction before after, signed (wallet user mint) = false →
      SlotStep signed instruction (wallet user mint) before after → holds before → holds after)
    (world : World Pubkey) (event : Event Pubkey) (before : holds (world.ledger.accounts (wallet user mint))) :
    holds ((world.step event).ledger.accounts (wallet user mint)) := by
  have swapped {Accounts : Type} (ctx : Context Pubkey Accounts) (leg : Leg Pubkey) (caller : Pubkey)
      (seeds : leg.buyAuthority = buyAuthority caller) (venue : Venue Pubkey) (skimmed settled : Ledger Pubkey)
      (fee destBefore minOut out : UInt64) (swapData : List UInt8)
      (settlement : Settlement world.ledger skimmed settled ctx.signers ctx.remainingAccounts leg fee destBefore minOut out
        swapData venue) : holds (settled.accounts (wallet user mint)) := by
    have charged : holds (skimmed.accounts (wallet user mint)) := by
      have skim := settlement.skim
      unfold skimFee at skim
      split at skim
      next =>
        rw [tokenCall_ok] at skim
        refine kept _ _ _ _ (decide_eq_false ?_) (process_slot _ _ _ _ _ skim) before
        rw [seeds]
        exact (buyAuthority_ne_associated caller user mint).symm
      next =>
        cases skim
        exact before
    obtain ⟨issued, -, ran⟩ := invokeSigned_ok _ _ _ _ _ _ settlement.invoke
    have within := signed_within ctx.signers caller venue _ (forwarded_confined ctx leg caller swapData seeds)
    have unsigned : venue.signed
        { programId := leg.swapProgram, accounts := forwardedMetas ctx.remainingAccounts leg.buyAuthority
          data := swapData } (wallet user mint) = false := by
      by_contra signature
      have granted := within _ (Bool.not_eq_false _ ▸ signature)
      have refused := (authorities_false ctx.signers caller venue (wallet user mint)).mpr
        ⟨ctx.unassociated user mint, (buyAuthority_ne_associated caller user mint).symm, venue.unassociated user mint⟩
      simp [refused] at granted
    exact run_slot _ holds _ issued _ _ (fun instruction _ before after => kept _ instruction before after unsigned) ran
      charged
  apply step_kept (fun after => holds (after.ledger.accounts (wallet user mint))) world event before
  case ticked => exact fun _ _ => before
  case moved =>
    rintro signed underived unassociated instructions ledger rfl accepted
    exact run_slot _ holds _ instructions _ _
      (fun instruction _ before after => kept signed instruction before after (unassociated user mint)) accepted before
  case called =>
    rintro call world' rfl outcome
    rcases ledger_cases world world' call outcome with same | ⟨ctx, minOut, swapData, venue, event, rfl, bought⟩ |
      ⟨ctx, minOut, swapData, venue, event, rfl, sold⟩
    next =>
      rw [same]
      exact before
    next =>
      obtain ⟨_, _, _, _, _, _, _, _, _, course, -⟩ := (executeBuy_ok _ _ _ _ _ _ _).mp bought
      exact swapped ctx _ _ course.authoritySeeds venue _ _ _ _ _ _ _ course.settlement
    next =>
      obtain ⟨_, _, _, _, _, _, _, _, _, _, _, _, course, -⟩ := (executeSell_ok _ _ _ _ _ _ _).mp sold
      exact swapped ctx _ _ course.authoritySeeds venue _ _ _ _ _ _ _ course.settlement

def MintOf (slot : Option (TokenAccount Pubkey)) : Prop := ∀ account, slot = some account → account.mint = mint

omit [DecidableEq Pubkey] in
theorem mintOf_step (signed : Pubkey → Bool) (instruction : TokenInstruction Pubkey)
    (before after : Option (TokenAccount Pubkey)) (unsigned : signed (wallet user mint) = false)
    (step : SlotStep signed instruction (wallet user mint) before after) (named : MintOf mint before) :
    MintOf mint after := by
  intro result present
  cases step with
  | unchanged => exact named result present
  | credited account amount =>
    cases present
    exact named account rfl
  | debited account account' authorised owner same =>
    cases present
    exact same.trans (named account rfl)
  | delegated account account' authorised owner same =>
    cases present
    exact same.trans (named account rfl)
  | reowned account account' authority is authorised same =>
    cases present
    exact same.trans (named account rfl)
  | closeAuthority account closeAuthority =>
    cases present
    exact named account rfl
  | closed => cases present
  | opened mint' owner address =>
    cases present
    rcases address with signature | same
    next => simp [unsigned] at signature
    next => exact (AssociatedAddress.associated_inj _ _ _ _ same).2.symm

def Canonical (ledger : Ledger Pubkey) : Prop := ∀ user mint, MintOf mint (ledger.accounts (wallet user mint))

theorem run_canonical (world : World Pubkey) (events : List (Event Pubkey)) (canonical : Canonical world.ledger) :
    Canonical (world.run events).ledger := by
  induction events generalizing world with
  | nil => exact canonical
  | cons event rest ih =>
    exact ih (world.step event) fun user mint =>
      step_associated user mint (MintOf mint) (mintOf_step user mint) world event (canonical user mint)

end Mints

structure RecurringBuyKeeper.Serves (client : RecurringBuyKeeper Pubkey) (cfg : Config Pubkey) : Prop where
  usdcMint : client.usdcMint = cfg.usdcMint
  targetMint : client.targetMint = cfg.targetMint

-- The keys that the library has no associated accounts for are not among them.
def RecurringBuyKeeper.Reaches (client : RecurringBuyKeeper Pubkey) (feeConfig : FeeConfig Pubkey) (user : Pubkey) : Prop :=
  client.isOnCurve user = true ∧ client.isOnCurve feeConfig.destination = true

section Accounts

variable (client : RecurringBuyKeeper Pubkey) (derives : client.Derives) (feeConfig : FeeConfig Pubkey)
  (user keeper swapProgram : Pubkey)

include derives

omit [DecidableEq Pubkey] in
theorem executeBuyAccounts_some (accounts : ExecuteBuy Pubkey) :
    client.executeBuyAccounts (some feeConfig) user keeper swapProgram = some accounts ↔
      client.Reaches feeConfig user ∧ accounts =
        { keeper := keeper, config := configPda, user := user, buyAuthority := buyAuthority user
          transientUsdc := transient user client.usdcMint, destAta := wallet user client.targetMint
          swapProgram := swapProgram, feeConfig := feeConfigPda
          feeAta := wallet feeConfig.destination client.usdcMint } := by
  simp only [RecurringBuyKeeper.executeBuyAccounts, RecurringBuyKeeper.transientUsdc, RecurringBuyKeeper.destAta,
    RecurringBuyKeeper.feeAta, Option.bind_eq_bind, Option.bind_some, Option.bind_eq_some_iff,
    getAssociatedTokenAddressSync_some client derives, Option.pure_def, Option.some.injEq, true_or, true_and,
    Bool.false_eq_true, false_or,
    RecurringBuyKeeper.Reaches]
  constructor
  next =>
    rintro ⟨_, rfl, _, ⟨own, rfl⟩, _, ⟨charged, rfl⟩, rfl⟩
    exact ⟨⟨own, charged⟩, rfl⟩
  next =>
    rintro ⟨⟨own, charged⟩, rfl⟩
    exact ⟨_, rfl, _, ⟨own, rfl⟩, _, ⟨charged, rfl⟩, rfl⟩

omit [DecidableEq Pubkey] in
theorem executeSellAccounts_some (accounts : ExecuteSell Pubkey) :
    client.executeSellAccounts (some feeConfig) user keeper swapProgram = some accounts ↔
      client.Reaches feeConfig user ∧ accounts =
        { keeper := keeper, config := configPda, user := user, sellPlan := sellPlanPda user
          buyAuthority := buyAuthority user, transientTarget := transient user client.targetMint
          userTargetAta := wallet user client.targetMint, destUsdc := wallet user client.usdcMint
          swapProgram := swapProgram, feeConfig := feeConfigPda
          feeAta := wallet feeConfig.destination client.targetMint } := by
  simp only [RecurringBuyKeeper.executeSellAccounts, RecurringBuyKeeper.transientTarget, RecurringBuyKeeper.destUsdc,
    RecurringBuyKeeper.feeAta, Option.bind_eq_bind, Option.bind_some, Option.bind_eq_some_iff,
    getAssociatedTokenAddressSync_some client derives, Option.pure_def, Option.some.injEq, true_or, true_and,
    Bool.false_eq_true, false_or,
    RecurringBuyKeeper.Reaches]
  constructor
  next =>
    rintro ⟨_, rfl, _, ⟨own, rfl⟩, _, ⟨-, rfl⟩, _, ⟨charged, rfl⟩, rfl⟩
    exact ⟨⟨own, charged⟩, rfl⟩
  next =>
    rintro ⟨⟨own, charged⟩, rfl⟩
    exact ⟨_, rfl, _, ⟨own, rfl⟩, _, ⟨own, rfl⟩, _, ⟨charged, rfl⟩, rfl⟩

end Accounts

/-- The refusals that an account of the call causes: in Anchor's checks, in the handler's, and when it is read again. -/
def Error.WrongAccount : Error → Prop
  | .anchor _ => True
  | .invalidAccountData => True
  | .buy .wrongTargetMint => True
  | .buy .destinationNotOwner => True
  | .buy .badTransient => True
  | .buy .badPotAccount => True
  | .buy .badFeeAccount => True
  | _ => False

-- The venue closes one of the two accounts that are read again.
def VenueCloses (ledger : Ledger Pubkey) (signers : List Pubkey) (remainingAccounts : List (AccountInfo Pubkey))
    (leg : Leg Pubkey) (fee : UInt64) (swapData : List UInt8) (venue : Venue Pubkey) : Prop :=
  ∃ skimmed settled, skimFee ledger leg fee = .ok skimmed ∧
    invokeSigned signers leg.buyAuthority venue skimmed
      { programId := leg.swapProgram
        accounts := forwardedMetas remainingAccounts leg.buyAuthority
        data := swapData } = .ok settled ∧
    (settled.accounts leg.transient = none ∨ settled.accounts leg.destination = none)

/-- An account is refused for three reasons only: it is missing, the venue has closed it, or the fee has been redirected
since the library read where it goes. -/
def Error.Explained (read now : FeeConfig Pubkey) (missing closed : Prop) : Error → Prop
  | .anchor .accountNotInitialized => missing
  | .invalidAccountData => closed
  | .buy .badFeeAccount => read.destination ≠ now.destination
  | error => ¬ error.WrongAccount

def BuyExplained (world : World Pubkey) (read now : FeeConfig Pubkey) (ctx : Context Pubkey (ExecuteBuy Pubkey))
    (swapData : List UInt8) (venue : Venue Pubkey) : Error → Prop :=
  Error.Explained read now
    (∃ key ∈ [ctx.accounts.transientUsdc, ctx.accounts.destAta, ctx.accounts.feeAta], world.ledger.accounts key = none)
    (VenueCloses world.ledger ctx.signers ctx.remainingAccounts ctx.accounts.leg
      (UInt64.ofNat (world.fee ctx.accounts.transientUsdc)) swapData venue)

def SellExplained (world : World Pubkey) (read now : FeeConfig Pubkey) (ctx : Context Pubkey (ExecuteSell Pubkey))
    (swapData : List UInt8) (venue : Venue Pubkey) : Error → Prop :=
  Error.Explained read now
    (world.sellPlans ctx.accounts.sellPlan = none ∨
      ∃ key ∈ [ctx.accounts.transientTarget, ctx.accounts.userTargetAta, ctx.accounts.destUsdc, ctx.accounts.feeAta],
        world.ledger.accounts key = none)
    (VenueCloses world.ledger ctx.signers ctx.remainingAccounts ctx.accounts.leg
      (UInt64.ofNat (world.fee ctx.accounts.transientTarget)) swapData venue)

section Blameless

-- What follows the checks of the accounts blames none of them.
def Error.Blameless (error : Error) : Prop := ¬ error.WrongAccount

theorem require_blameless (condition : Bool) (error : Error) (blameless : error.Blameless) :
    FailsOnly Error.Blameless (require condition error) :=
  failsOnly_require _ _ _ fun _ => blameless

theorem okOr_blameless {A : Type} (value : Option A) (error : Error) (blameless : error.Blameless) :
    FailsOnly Error.Blameless (okOr value error) :=
  failsOnly_okOr _ _ _ fun _ => blameless

theorem tokenCall_blameless {A : Type} (result : Except TokenError A) : FailsOnly Error.Blameless (tokenCall result) := by
  cases result with
  | ok value => exact failsOnly_ok _ _ value rfl
  | error error =>
    intro error' failed
    cases failed
    exact id

omit [ProgramAddress Pubkey] in
theorem isWhitelisted_blameless (cfg : Config Pubkey) (programId : Pubkey) :
    FailsOnly Error.Blameless (cfg.isWhitelisted programId) := by
  unfold Config.isWhitelisted
  exact failsOnly_bind _ _ _ (require_blameless _ _ id) fun _ _ => failsOnly_pure _ _

theorem executionFee_blameless (amountIn : UInt64) (feeBps : UInt16) :
    FailsOnly Error.Blameless (executionFee amountIn feeBps) := by
  unfold executionFee
  refine failsOnly_bind _ _ _ (okOr_blameless _ _ id) fun _ _ => ?_
  exact failsOnly_bind _ _ _ (okOr_blameless _ _ id) fun _ _ => failsOnly_pure _ _

theorem bandFloor_blameless (amountIn multiplier divisor : Nat) (maxSlippageBps : UInt16) :
    FailsOnly Error.Blameless (bandFloor amountIn multiplier divisor maxSlippageBps) := by
  unfold bandFloor
  refine failsOnly_bind _ _ _ (okOr_blameless _ _ id) fun _ _ => ?_
  refine failsOnly_bind _ _ _ (okOr_blameless _ _ id) fun _ _ => ?_
  refine failsOnly_bind _ _ _ (require_blameless _ _ id) fun _ _ => ?_
  refine failsOnly_bind _ _ _ (okOr_blameless _ _ id) fun _ _ => ?_
  exact failsOnly_bind _ _ _ (okOr_blameless _ _ id) fun _ _ => failsOnly_pure _ _

omit [DecidableEq Pubkey] [ProgramAddress Pubkey] in
theorem checkDue_blameless (plan : SellPlan Pubkey) (now : Int64) : FailsOnly Error.Blameless (plan.checkDue now) := by
  unfold SellPlan.checkDue
  exact failsOnly_bind _ _ _ (require_blameless _ _ id) fun _ _ => require_blameless _ _ id

omit [DecidableEq Pubkey] [ProgramAddress Pubkey] in
theorem checkCap_blameless (plan : SellPlan Pubkey) (userTargetAta amountIn : UInt64) (now : Int64) :
    FailsOnly Error.Blameless (plan.checkCap userTargetAta amountIn now) := by
  unfold SellPlan.checkCap SellPlan.remainingPeriods
  refine failsOnly_bind _ _ _ (okOr_blameless _ _ id) fun _ _ => ?_
  refine failsOnly_bind _ _ _ ?_ fun _ _ => ?_
  next => exact failsOnly_bind _ _ _ (okOr_blameless _ _ id) fun _ _ => failsOnly_pure _ _
  next => exact failsOnly_bind _ _ _ (okOr_blameless _ _ id) fun _ _ => require_blameless _ _ id

omit [DecidableEq Pubkey] [ProgramAddress Pubkey] in
theorem advance_blameless (plan : SellPlan Pubkey) (now : Int64) : FailsOnly Error.Blameless (plan.advance now) := by
  unfold SellPlan.advance
  refine failsOnly_bind _ _ _ (okOr_blameless _ _ id) fun _ _ => ?_
  refine failsOnly_bind _ _ _ (okOr_blameless _ _ id) fun _ _ => ?_
  refine failsOnly_bind _ _ _ (okOr_blameless _ _ id) fun _ _ => ?_
  refine failsOnly_bind _ _ _ (okOr_blameless _ _ id) fun _ _ => ?_
  exact failsOnly_bind _ _ _ (okOr_blameless _ _ id) fun _ _ => failsOnly_pure _ _

omit [DecidableEq Pubkey] [ProgramAddress Pubkey] in
theorem explained_blameless {A : Type} (read now : FeeConfig Pubkey) (missing closed : Prop) (result : Except Error A)
    (blameless : FailsOnly Error.Blameless result) : FailsOnly (Error.Explained read now missing closed) result := by
  refine failsOnly_mono _ _ _ blameless fun error clean => ?_
  unfold Error.Explained
  split
  next => exact absurd trivial clean
  next => exact absurd trivial clean
  next => exact absurd trivial clean
  next => exact clean

omit [DecidableEq Pubkey] [ProgramAddress Pubkey] in
theorem tokenAccount_explained (read now : FeeConfig Pubkey) (missing closed : Prop) (ledger : Ledger Pubkey)
    (key : Pubkey) (absent : ledger.accounts key = none → missing) :
    FailsOnly (Error.Explained read now missing closed) (tokenAccount ledger key) :=
  failsOnly_okOr _ _ _ absent

theorem forwardSwap_explained (read now : FeeConfig Pubkey) (missing : Prop) (ledger : Ledger Pubkey)
    (signers : List Pubkey) (remainingAccounts : List (AccountInfo Pubkey)) (leg : Leg Pubkey)
    (fee destBefore minOut : UInt64) (swapData : List UInt8) (venue : Venue Pubkey) :
    FailsOnly (Error.Explained read now missing (VenueCloses ledger signers remainingAccounts leg fee swapData venue))
      (forwardSwap ledger signers remainingAccounts leg fee destBefore minOut swapData venue) := by
  have clean {A : Type} {result : Except Error A} :=
    explained_blameless read now missing (VenueCloses ledger signers remainingAccounts leg fee swapData venue) result
  unfold forwardSwap
  refine failsOnly_bind _ _ _ (clean ?skims) fun skimmed skim => ?_
  case skims =>
    unfold skimFee
    split
    next => exact tokenCall_blameless _
    next => exact failsOnly_ok _ _ _ rfl
  refine failsOnly_bind _ _ _ (clean ?invokes) fun settled invoked => ?_
  case invokes =>
    unfold invokeSigned
    refine failsOnly_bind _ _ _ (require_blameless _ _ id) fun _ _ => ?_
    exact failsOnly_bind _ _ _ (okOr_blameless _ _ id) fun _ _ => tokenCall_blameless _
  refine failsOnly_bind _ _ _ ?verifies fun _ _ => failsOnly_pure _ _
  unfold verifyOutcome
  refine failsOnly_bind _ _ _ (failsOnly_okOr _ _ _ fun gone => ⟨skimmed, settled, skim, invoked, .inl gone⟩) fun _ _ => ?_
  refine failsOnly_bind _ _ _ (failsOnly_okOr _ _ _ fun gone => ⟨skimmed, settled, skim, invoked, .inr gone⟩) fun _ _ => ?_
  refine failsOnly_bind _ _ _ (clean (require_blameless _ _ id)) fun _ _ => ?_
  refine failsOnly_bind _ _ _ (clean (okOr_blameless _ _ id)) fun _ _ => ?_
  exact failsOnly_bind _ _ _ (clean (require_blameless _ _ id)) fun _ _ => failsOnly_pure _ _

theorem require_met (errors : Error → Prop) (condition : Bool) (error : Error) (met : condition = true) :
    FailsOnly errors (require condition error) := by
  rw [met]
  exact failsOnly_ok _ _ () rfl

end Blameless

section Calls

variable (client : RecurringBuyKeeper Pubkey) (derives : client.Derives) (world : World Pubkey) (cfg : Config Pubkey)
  (feeConfig : FeeConfig Pubkey) (configured : world.config = some cfg) (charged : world.feeConfig = some feeConfig)
  (serves : client.Serves cfg)

include derives configured charged serves

theorem bought_accounts (ctx : Context Pubkey (ExecuteBuy Pubkey)) (minOut : UInt64) (swapData : List UInt8)
    (venue : Venue Pubkey) (result : World Pubkey × BuyExecuted Pubkey)
    (bought : executeBuy world ctx minOut swapData venue = .ok result) (accounts : ExecuteBuy Pubkey) :
    client.executeBuyAccounts (some feeConfig) ctx.accounts.user ctx.accounts.keeper ctx.accounts.swapProgram =
      some accounts ↔ client.Reaches feeConfig ctx.accounts.user ∧ accounts = ctx.accounts := by
  obtain ⟨cfg', feeConfig', _, _, _, _, _, _, _, course, -⟩ := (executeBuy_ok _ _ _ _ _ _ _).mp bought
  obtain rfl : cfg' = cfg := Option.some.inj (course.configLoaded.symm.trans configured)
  obtain rfl : feeConfig' = feeConfig := Option.some.inj (course.feeConfigLoaded.symm.trans charged)
  have same : ctx.accounts =
      { keeper := ctx.accounts.keeper, config := configPda, user := ctx.accounts.user
        buyAuthority := buyAuthority ctx.accounts.user
        transientUsdc := transient ctx.accounts.user client.usdcMint
        destAta := wallet ctx.accounts.user client.targetMint, swapProgram := ctx.accounts.swapProgram
        feeConfig := feeConfigPda, feeAta := wallet feeConfig'.destination client.usdcMint } := by
    rw [serves.usdcMint, serves.targetMint, transient, wallet, wallet, ← course.authoritySeeds, ← course.configSeeds.1,
      ← course.feeConfigSeeds.1, ← course.transientAddress, ← course.destAddress, ← course.feeAddress]
  rw [executeBuyAccounts_some client derives, ← same]

theorem sold_accounts (ctx : Context Pubkey (ExecuteSell Pubkey)) (minOut : UInt64) (swapData : List UInt8)
    (venue : Venue Pubkey) (result : World Pubkey × SellExecuted Pubkey)
    (sold : executeSell world ctx minOut swapData venue = .ok result) (accounts : ExecuteSell Pubkey) :
    client.executeSellAccounts (some feeConfig) ctx.accounts.user ctx.accounts.keeper ctx.accounts.swapProgram =
      some accounts ↔ client.Reaches feeConfig ctx.accounts.user ∧ accounts = ctx.accounts := by
  obtain ⟨cfg', feeConfig', _, _, _, _, _, _, _, _, _, _, course, -⟩ := (executeSell_ok _ _ _ _ _ _ _).mp sold
  obtain rfl : cfg' = cfg := Option.some.inj (course.configLoaded.symm.trans configured)
  obtain rfl : feeConfig' = feeConfig := Option.some.inj (course.feeConfigLoaded.symm.trans charged)
  have same : ctx.accounts =
      { keeper := ctx.accounts.keeper, config := configPda, user := ctx.accounts.user
        sellPlan := sellPlanPda ctx.accounts.user, buyAuthority := buyAuthority ctx.accounts.user
        transientTarget := transient ctx.accounts.user client.targetMint
        userTargetAta := wallet ctx.accounts.user client.targetMint
        destUsdc := wallet ctx.accounts.user client.usdcMint, swapProgram := ctx.accounts.swapProgram
        feeConfig := feeConfigPda, feeAta := wallet feeConfig'.destination client.targetMint } := by
    rw [serves.usdcMint, serves.targetMint, transient, wallet, wallet, wallet, ← course.authoritySeeds,
      ← course.configSeeds.1, ← course.feeConfigSeeds.1, ← course.planSeeds.1, ← course.transientAddress,
      ← course.potAddress, ← course.destAddress, ← course.feeAddress]
  rw [executeSellAccounts_some client derives, ← same]

variable (formed : world.WellFormed) (read : FeeConfig Pubkey)
  (user keeper swapProgram : Pubkey)

include formed

theorem built_buy_fails (canonical : Canonical world.ledger) (ctx : Context Pubkey (ExecuteBuy Pubkey))
    (built : client.executeBuyAccounts (some read) user keeper swapProgram = some ctx.accounts)
    (signer : keeper ∈ ctx.signers) (minOut : UInt64) (swapData : List UInt8) (venue : Venue Pubkey) :
    FailsOnly (BuyExplained world read feeConfig ctx swapData venue) (executeBuy world ctx minOut swapData venue) := by
  have clean {A : Type} {result : Except Error A} := explained_blameless read feeConfig
    (∃ key ∈ [ctx.accounts.transientUsdc, ctx.accounts.destAta, ctx.accounts.feeAta], world.ledger.accounts key = none)
    (VenueCloses world.ledger ctx.signers ctx.remainingAccounts ctx.accounts.leg
      (UInt64.ofNat (world.fee ctx.accounts.transientUsdc)) swapData venue) result
  have accounts := ((executeBuyAccounts_some client derives read user keeper swapProgram _).mp built).2
  have loaded : world.loadConfig = .ok cfg := (loadConfig_ok _ _).mpr configured
  have feeLoaded : world.loadFeeConfig = .ok feeConfig := (loadFeeConfig_ok _ _).mpr charged
  unfold executeBuy
  refine failsOnly_bind _ _ _ (require_met _ _ _ (by rw [accounts]; simpa using signer)) fun _ _ => ?_
  refine failsOnly_bind _ _ _ (failsOnly_ok _ _ _ loaded) fun cfg' found => ?_
  obtain rfl : cfg = cfg' := Except.ok.inj (loaded.symm.trans found)
  refine failsOnly_bind _ _ _ (tokenAccount_explained _ _ _ _ _ _ fun absent => ⟨_, by simp, absent⟩)
    fun source atSource => ?_
  refine failsOnly_bind _ _ _ (tokenAccount_explained _ _ _ _ _ _ fun absent => ⟨_, by simp, absent⟩) fun dest atDest => ?_
  refine failsOnly_bind _ _ _ (failsOnly_ok _ _ _ feeLoaded) fun feeConfig' feeFound => ?_
  obtain rfl : feeConfig = feeConfig' := Except.ok.inj (feeLoaded.symm.trans feeFound)
  refine failsOnly_bind _ _ _ (tokenAccount_explained _ _ _ _ _ _ fun absent => ⟨_, by simp, absent⟩) fun _ _ => ?_
  have seeds := (formed.config cfg configured).bump
  have feeSeeds := (formed.feeConfig feeConfig charged).bump
  refine failsOnly_bind _ _ _ (require_met _ _ _ (by rw [accounts]; exact decide_eq_true ⟨rfl, seeds⟩)) fun _ _ => ?_
  refine failsOnly_bind _ _ _ (require_met _ _ _ (by rw [accounts]; exact decide_eq_true rfl)) fun _ _ => ?_
  refine failsOnly_bind _ _ _ (require_met _ _ _ (by rw [accounts]; exact decide_eq_true ⟨rfl, feeSeeds⟩)) fun _ _ => ?_
  have present := (tokenAccount_ok _ _ _).mp atSource
  have paid := (tokenAccount_ok _ _ _).mp atDest
  have destMint : dest.mint = cfg.targetMint := by
    rw [← serves.targetMint]
    rw [accounts] at paid
    exact canonical _ _ dest paid
  have sourceMint : source.mint = cfg.usdcMint := by
    rw [← serves.usdcMint]
    have there := present
    rw [accounts] at there
    exact canonical _ _ source there
  refine failsOnly_bind _ _ _ (clean (require_blameless _ _ id)) fun _ _ => ?_
  refine failsOnly_bind _ _ _ (require_met _ _ _ (decide_eq_true destMint)) fun _ _ => ?_
  refine failsOnly_bind _ _ _
    (require_met _ _ _ (by rw [accounts, serves.targetMint]; exact decide_eq_true rfl)) fun _ _ => ?_
  refine failsOnly_bind _ _ _ (require_met _ _ _ (decide_eq_true sourceMint)) fun _ _ => ?_
  refine failsOnly_bind _ _ _
    (require_met _ _ _ (by rw [accounts, serves.usdcMint]; exact decide_eq_true rfl)) fun _ _ => ?_
  refine failsOnly_bind _ _ _ (clean (require_blameless _ _ id)) fun _ _ => ?_
  refine failsOnly_bind _ _ _ (clean (isWhitelisted_blameless _ _)) fun _ _ => ?_
  refine failsOnly_bind _ _ _ (clean (require_blameless _ _ id)) fun _ _ => ?_
  refine failsOnly_bind _ _ _ (clean (executionFee_blameless _ _)) fun fee feeValue => ?_
  refine failsOnly_bind _ _ _ (clean (okOr_blameless _ _ id)) fun netIn _ => ?_
  refine failsOnly_bind _ _ _ (clean (require_blameless _ _ id)) fun _ _ => ?_
  refine failsOnly_bind _ _ _ (failsOnly_require _ _ _ ?redirected) fun _ _ => ?_
  case redirected =>
    intro refused
    refine fun unmoved => of_decide_eq_false refused ?_
    rw [accounts, unmoved, serves.usdcMint]
    rfl
  refine failsOnly_bind _ _ _ (clean (require_blameless _ _ id)) fun _ _ => ?_
  refine failsOnly_bind _ _ _ (clean ?floors) fun floor _ => ?_
  case floors =>
    unfold priceFloor
    exact failsOnly_bind _ _ _ (okOr_blameless _ _ id) fun _ _ => bandFloor_blameless _ _ _ _
  refine failsOnly_bind _ _ _ (clean (require_blameless _ _ id)) fun _ _ => ?_
  rw [charged_fee world feeConfig charged _ source present fee feeValue]
  exact failsOnly_bind _ _ _ (forwardSwap_explained _ _ _ _ _ _ _ _ _ _ _ _) fun _ _ => failsOnly_pure _ _

theorem built_sell_fails (plans : ∀ user plan, world.sellPlans (sellPlanPda user) = some plan →
      plan.user = user ∧ plan.bump = sellPlanBump user) (ctx : Context Pubkey (ExecuteSell Pubkey))
    (built : client.executeSellAccounts (some read) user keeper swapProgram = some ctx.accounts)
    (signer : keeper ∈ ctx.signers) (minOut : UInt64) (swapData : List UInt8) (venue : Venue Pubkey) :
    FailsOnly (SellExplained world read feeConfig ctx swapData venue) (executeSell world ctx minOut swapData venue) := by
  have clean {A : Type} {result : Except Error A} := explained_blameless read feeConfig
    (world.sellPlans ctx.accounts.sellPlan = none ∨
      ∃ key ∈ [ctx.accounts.transientTarget, ctx.accounts.userTargetAta, ctx.accounts.destUsdc, ctx.accounts.feeAta],
        world.ledger.accounts key = none)
    (VenueCloses world.ledger ctx.signers ctx.remainingAccounts ctx.accounts.leg
      (UInt64.ofNat (world.fee ctx.accounts.transientTarget)) swapData venue) result
  have accounts := ((executeSellAccounts_some client derives read user keeper swapProgram _).mp built).2
  have loaded : world.loadConfig = .ok cfg := (loadConfig_ok _ _).mpr configured
  have feeLoaded : world.loadFeeConfig = .ok feeConfig := (loadFeeConfig_ok _ _).mpr charged
  unfold executeSell
  refine failsOnly_bind _ _ _ (require_met _ _ _ (by rw [accounts]; simpa using signer)) fun _ _ => ?_
  refine failsOnly_bind _ _ _ (failsOnly_ok _ _ _ loaded) fun cfg' found => ?_
  obtain rfl : cfg = cfg' := Except.ok.inj (loaded.symm.trans found)
  refine failsOnly_bind _ _ _ (failsOnly_okOr _ _ _ .inl) fun plan planned => ?_
  refine failsOnly_bind _ _ _ (tokenAccount_explained _ _ _ _ _ _ fun absent => .inr ⟨_, by simp, absent⟩)
    fun source atSource => ?_
  refine failsOnly_bind _ _ _ (tokenAccount_explained _ _ _ _ _ _ fun absent => .inr ⟨_, by simp, absent⟩) fun pot _ => ?_
  refine failsOnly_bind _ _ _ (tokenAccount_explained _ _ _ _ _ _ fun absent => .inr ⟨_, by simp, absent⟩) fun dest _ => ?_
  refine failsOnly_bind _ _ _ (failsOnly_ok _ _ _ feeLoaded) fun feeConfig' feeFound => ?_
  obtain rfl : feeConfig = feeConfig' := Except.ok.inj (feeLoaded.symm.trans feeFound)
  refine failsOnly_bind _ _ _ (tokenAccount_explained _ _ _ _ _ _ fun absent => .inr ⟨_, by simp, absent⟩) fun _ _ => ?_
  have seeds := (formed.config cfg configured).bump
  have feeSeeds := (formed.feeConfig feeConfig charged).bump
  have owned : plan.user = user ∧ plan.bump = sellPlanBump user := by
    have there := (loadSellPlan_ok _ _ _).mp planned
    rw [accounts] at there
    exact plans user plan there
  have present := (tokenAccount_ok _ _ _).mp atSource
  refine failsOnly_bind _ _ _ (require_met _ _ _ (by rw [accounts]; exact decide_eq_true ⟨rfl, seeds⟩)) fun _ _ => ?_
  refine failsOnly_bind _ _ _
    (failsOnly_ok _ _ () ((checkOwner_ok _ _ _ _).mpr (by rw [accounts]; exact ⟨⟨rfl, owned.2⟩, owned.1⟩)))
    fun _ _ => ?_
  refine failsOnly_bind _ _ _ (require_met _ _ _ (by rw [accounts]; exact decide_eq_true rfl)) fun _ _ => ?_
  refine failsOnly_bind _ _ _ (require_met _ _ _ (by rw [accounts]; exact decide_eq_true ⟨rfl, feeSeeds⟩)) fun _ _ => ?_
  refine failsOnly_bind _ _ _ (clean (require_blameless _ _ id)) fun _ _ => ?_
  refine failsOnly_bind _ _ _ (clean (checkDue_blameless _ _)) fun _ _ => ?_
  refine failsOnly_bind _ _ _
    (require_met _ _ _ (by rw [accounts, serves.usdcMint]; exact decide_eq_true rfl)) fun _ _ => ?_
  refine failsOnly_bind _ _ _
    (require_met _ _ _ (by rw [accounts, serves.targetMint]; exact decide_eq_true rfl)) fun _ _ => ?_
  refine failsOnly_bind _ _ _
    (require_met _ _ _ (by rw [accounts, serves.targetMint]; exact decide_eq_true rfl)) fun _ _ => ?_
  refine failsOnly_bind _ _ _ (clean (require_blameless _ _ id)) fun _ _ => ?_
  refine failsOnly_bind _ _ _ (clean (checkCap_blameless _ _ _ _)) fun _ _ => ?_
  refine failsOnly_bind _ _ _ (clean (isWhitelisted_blameless _ _)) fun _ _ => ?_
  refine failsOnly_bind _ _ _ (clean (require_blameless _ _ id)) fun _ _ => ?_
  refine failsOnly_bind _ _ _ (clean (executionFee_blameless _ _)) fun fee feeValue => ?_
  refine failsOnly_bind _ _ _ (clean (okOr_blameless _ _ id)) fun netIn _ => ?_
  refine failsOnly_bind _ _ _ (clean (require_blameless _ _ id)) fun _ _ => ?_
  refine failsOnly_bind _ _ _ (failsOnly_require _ _ _ ?redirected) fun _ _ => ?_
  case redirected =>
    intro refused
    refine fun unmoved => of_decide_eq_false refused ?_
    rw [accounts, unmoved, serves.targetMint]
    rfl
  refine failsOnly_bind _ _ _ (clean (require_blameless _ _ id)) fun _ _ => ?_
  refine failsOnly_bind _ _ _ (clean ?floors) fun floor _ => ?_
  case floors =>
    unfold sellFloor
    exact failsOnly_bind _ _ _ (okOr_blameless _ _ id) fun _ _ => bandFloor_blameless _ _ _ _
  refine failsOnly_bind _ _ _ (clean (require_blameless _ _ id)) fun _ _ => ?_
  rw [charged_fee world feeConfig charged _ source present fee feeValue]
  refine failsOnly_bind _ _ _ (forwardSwap_explained _ _ _ _ _ _ _ _ _ _ _ _) fun _ _ => ?_
  exact failsOnly_bind _ _ _ (clean (advance_blameless _ _)) fun _ _ => failsOnly_pure _ _

end Calls

/-- An accepted call has the accounts that the library builds, and the library builds them for the keys on the curve. -/
theorem accepted_accounts (client : RecurringBuyKeeper Pubkey) (derives : client.Derives) (world : World Pubkey)
    (cfg : Config Pubkey) (feeConfig : FeeConfig Pubkey) (configured : world.config = some cfg)
    (charged : world.feeConfig = some feeConfig) (serves : client.Serves cfg) :
    (∀ ctx minOut swapData venue result, executeBuy world ctx minOut swapData venue = .ok result → ∀ accounts,
      client.executeBuyAccounts (some feeConfig) ctx.accounts.user ctx.accounts.keeper ctx.accounts.swapProgram =
        some accounts ↔ client.Reaches feeConfig ctx.accounts.user ∧ accounts = ctx.accounts) ∧
    ∀ ctx minOut swapData venue result, executeSell world ctx minOut swapData venue = .ok result → ∀ accounts,
      client.executeSellAccounts (some feeConfig) ctx.accounts.user ctx.accounts.keeper ctx.accounts.swapProgram =
        some accounts ↔ client.Reaches feeConfig ctx.accounts.user ∧ accounts = ctx.accounts :=
  ⟨bought_accounts client derives world cfg feeConfig configured charged serves,
    sold_accounts client derives world cfg feeConfig configured charged serves⟩

omit [DecidableEq Pubkey] [ProgramAddress Pubkey] in
theorem granted_front (needed venue infos : List (AccountInfo Pubkey))
    (granted : List.Forall₂ AccountInfo.Grants (needed ++ venue) infos) :
    ∃ front rest, infos = front ++ rest ∧ List.Forall₂ AccountInfo.Grants needed front ∧
      List.Forall₂ AccountInfo.Grants venue rest :=
  ⟨_, _, (List.take_append_drop needed.length infos).symm, (List.forall₂_take_append _ _ _ granted.flip).flip,
    (List.forall₂_drop_append _ _ _ granted.flip).flip⟩

/-- What arrives on chain of a built instruction, whatever further rights the message gives to its accounts, and how the
program answers it. -/
theorem built_calls (client : RecurringBuyKeeper Pubkey) (derives : client.Derives) (initial : World Pubkey)
    (events : List (Event Pubkey)) (fresh : initial.Initial) (canonical : Canonical initial.ledger) (cfg : Config Pubkey)
    (read feeConfig : FeeConfig Pubkey) (configured : (initial.run events).config = some cfg)
    (charged : (initial.run events).feeConfig = some feeConfig) (serves : client.Serves cfg) (args : BuildArgs Pubkey)
    (short : args.swap.data.length < 2 ^ 32) (instruction : TransactionInstruction Pubkey)
    (infos : List (AccountInfo Pubkey)) (granted : List.Forall₂ AccountInfo.Grants instruction.keys infos) :
    (client.buildExecuteBuy (some read) args = some instruction →
      executeArguments client.executeBuy instruction.data = some (args.minOut, args.swap.data) ∧
      ∃ accounts remainingAccounts,
        client.executeBuyAccounts (some read) args.user args.keeper args.swap.program = some accounts ∧
        ExecuteBuy.tryAccounts client.tokenProgram infos = some (accounts, remainingAccounts) ∧
        List.Forall₂ AccountInfo.Grants args.swap.keys remainingAccounts ∧
        ∀ (ctx : Context Pubkey (ExecuteBuy Pubkey)) (venue : Venue Pubkey), ctx.accounts = accounts →
          ctx.remainingAccounts = remainingAccounts → (∀ info ∈ infos, info.isSigner = true → info.key ∈ ctx.signers) →
          FailsOnly (BuyExplained (initial.run events) read feeConfig ctx args.swap.data venue)
            (executeBuy (initial.run events) ctx args.minOut args.swap.data venue)) ∧
    (client.buildExecuteSell (some read) args = some instruction →
      executeArguments client.executeSell instruction.data = some (args.minOut, args.swap.data) ∧
      ∃ accounts remainingAccounts,
        client.executeSellAccounts (some read) args.user args.keeper args.swap.program = some accounts ∧
        ExecuteSell.tryAccounts client.tokenProgram infos = some (accounts, remainingAccounts) ∧
        List.Forall₂ AccountInfo.Grants args.swap.keys remainingAccounts ∧
        ∀ (ctx : Context Pubkey (ExecuteSell Pubkey)) (venue : Venue Pubkey), ctx.accounts = accounts →
          ctx.remainingAccounts = remainingAccounts → (∀ info ∈ infos, info.isSigner = true → info.key ∈ ctx.signers) →
          FailsOnly (SellExplained (initial.run events) read feeConfig ctx args.swap.data venue)
            (executeSell (initial.run events) ctx args.minOut args.swap.data venue)) := by
  have reachable : (initial.run events).Reachable := ⟨initial, events, fresh, rfl⟩
  have formed := reachable_wellFormed _ reachable
  have arrives (discriminator : Vector UInt8 8) :
      executeArguments discriminator (Daemon.execData discriminator args.minOut.toNat args.swap.data) =
        some (args.minOut, args.swap.data) := by
    rw [executeArguments_execData discriminator _ _ args.minOut.toNat_lt short, UInt64.ofNat_toNat]
  constructor
  next =>
    intro built
    simp only [RecurringBuyKeeper.buildExecuteBuy, Option.bind_eq_bind, Option.bind_eq_some_iff, Option.pure_def,
      Option.some.injEq] at built
    obtain ⟨accounts, derived, rfl⟩ := built
    obtain ⟨front, rest, rfl, own, forwarded⟩ := granted_front _ _ _ granted
    refine ⟨arrives client.executeBuy, accounts, rest, derived, (tryAccounts_buy _ _ _ _).mpr ⟨front, rfl, own⟩,
      forwarded, ?_⟩
    rintro ctx venue rfl - signs
    apply built_buy_fails client derives _ cfg feeConfig configured charged serves formed read _ _ _
      (run_canonical initial events canonical) ctx derived
    have named := ((executeBuyAccounts_some client derives read _ _ _ _).mp derived).2
    rw [named] at own
    rcases own with _ | ⟨keeper, -⟩
    rw [← show _ = args.keeper from keeper.key]
    exact signs _ List.mem_cons_self (keeper.signer rfl)
  next =>
    intro built
    simp only [RecurringBuyKeeper.buildExecuteSell, Option.bind_eq_bind, Option.bind_eq_some_iff, Option.pure_def,
      Option.some.injEq] at built
    obtain ⟨accounts, derived, rfl⟩ := built
    obtain ⟨front, rest, rfl, own, forwarded⟩ := granted_front _ _ _ granted
    refine ⟨arrives client.executeSell, accounts, rest, derived, (tryAccounts_sell _ _ _ _).mpr ⟨front, rfl, own⟩,
      forwarded, ?_⟩
    rintro ctx venue rfl - signs
    apply built_sell_fails client derives _ cfg feeConfig configured charged serves formed read _ _ _
      (reachable_plan _ reachable) ctx derived
    have named := ((executeSellAccounts_some client derives read _ _ _ _).mp derived).2
    rw [named] at own
    rcases own with _ | ⟨keeper, -⟩
    rw [← show _ = args.keeper from keeper.key]
    exact signs _ List.mem_cons_self (keeper.signer rfl)

section Sample

open Handover

def onCurve (key : Address) : Bool := key.number.isSome

def library : RecurringBuyKeeper Address where
  usdcMint := Terms.usdcMint
  targetMint := Terms.targetMint
  tokenProgram := .key 50
  executeBuy := #v[14, 137, 248, 5, 172, 244, 183, 152]
  executeSell := #v[105, 247, 168, 116, 231, 104, 224, 46]
  isOnCurve := onCurve
  getAssociatedTokenAddressSync mint owner allowOwnerOffCurve :=
    if allowOwnerOffCurve || onCurve owner then some (.associated owner mint) else none

theorem library_derives : library.Derives where
  derived := by
    intro mint owner allowOwnerOffCurve allowed
    exact if_pos (Bool.or_eq_true _ _ ▸ allowed)
  offCurve := by
    intro mint owner off
    exact if_neg (by simpa [library] using off)

theorem accepted_accounts_launch :
    library.executeBuyAccounts (some Terms.dollar.feeConfig) Terms.user Rogue.buyer.keeper Terms.swapProgram =
      some (Rogue.buyer.buyAccounts Terms.swapProgram) := by
  obtain ⟨result, bought⟩ := (isOk_iff _).mp (by decide +kernel : (buy (genesis.run launch)).isOk = true)
  have only := (accepted_accounts library library_derives (genesis.run launch) Terms.dollar.config Terms.dollar.feeConfig
    (by decide) (by decide) ⟨rfl, rfl⟩).1 _ _ _ _ result bought (Rogue.buyer.buyAccounts Terms.swapProgram)
  exact only.mpr ⟨⟨rfl, rfl⟩, rfl⟩

def redirection : List (Event Address) :=
  launch ++ [.call (.setFee (Address.context ⟨Terms.admin, .config, .feeConfig⟩ [20]) 0 (.key 60))]

def order : BuildArgs Address := ⟨Terms.user, Rogue.buyer.keeper, 1000, ⟨Terms.swapProgram, [], Rogue.buyer.route⟩⟩

-- The call was built before the fee was redirected, and its account for the fee is refused.
theorem built_calls_redirected :
    executeBuy (genesis.run redirection) (Rogue.buyer.context (Rogue.buyer.buyAccounts Terms.swapProgram)) 1000 []
        exchange = .error (.buy .badFeeAccount) ∧ Terms.dollar.feeConfig.destination ≠ .key 60 := by
  let accounts := Rogue.buyer.buyAccounts Terms.swapProgram
  have itself (infos : List (AccountInfo Address)) : List.Forall₂ AccountInfo.Grants infos infos :=
    List.forall₂_same.mpr fun _ _ => ⟨rfl, id, id⟩
  have built : library.buildExecuteBuy (some Terms.dollar.feeConfig) order = some
      ⟨accounts.metas library.tokenProgram ++ Rogue.buyer.route,
        Daemon.execData library.executeBuy (1000 : UInt64).toNat []⟩ := rfl
  obtain ⟨-, taken, rest, derived, found, -, answered⟩ := (built_calls library library_derives genesis redirection
    ⟨rfl, rfl, rfl⟩ (fun _ _ _ present => by cases present) Terms.dollar.config Terms.dollar.feeConfig
    { Terms.dollar.feeConfig with destination := .key 60 } (by decide) (by decide) ⟨rfl, rfl⟩ order (by decide) _ _
    (itself _)).1 built
  have own := (tryAccounts_buy library.tokenProgram _ Rogue.buyer.route accounts).mpr ⟨_, rfl, itself _⟩
  cases own.symm.trans found
  have verdict : (executeBuy (genesis.run redirection) (Rogue.buyer.context accounts) 1000 [] exchange).map
      (fun result => result.2.amountOut) = .error (.buy .badFeeAccount) := by decide +kernel
  have refused := (map_error _ _ _).mp verdict
  refine ⟨refused, answered (Rogue.buyer.context accounts) exchange rfl rfl ?_ _ refused⟩
  decide

end Sample

end RecurringBuy
