import RecurringBuy.Keeper.System
import RecurringBuy.Properties.CrankBuy
import RecurringBuy.Properties.CrankSell
import RecurringBuy.Token.Posting

set_option autoImplicit false

namespace RecurringBuy

open Checked SplToken ProgramAddress

variable {Pubkey : Type} [DecidableEq Pubkey] [ProgramAddress Pubkey] (daemon : Daemon Pubkey)
  (user mintIn mintOut feeOwner poolIn poolOut : Pubkey)

def outlays (fee net : Nat) : List (Payment Pubkey) :=
  [⟨transient user mintIn, wallet feeOwner mintIn, fee⟩, ⟨transient user mintIn, poolIn, net⟩,
    ⟨poolOut, wallet user mintOut, net⟩]

def bookings (pulled fee net : Nat) : List (Payment Pubkey) :=
  ⟨wallet user mintIn, transient user mintIn, pulled⟩ :: outlays user mintIn mintOut feeOwner poolIn poolOut fee net

section Settled

theorem skimFee_posting (ledger skimmed : Ledger Pubkey) (fee : UInt64)
    (source : OfMint ledger (transient user mintIn) mintIn)
    (destination : OfMint ledger (wallet feeOwner mintIn) mintIn)
    (skim : skimFee ledger (daemon.leg user mintIn mintOut feeOwner) fee = .ok skimmed) :
    Posting ledger [⟨transient user mintIn, wallet feeOwner mintIn, fee.toNat⟩] skimmed := by
  unfold skimFee at skim
  split at skim
  next =>
    rw [tokenCall_ok] at skim
    exact transfer_posting _ _ _ _ _ _ _ skim
  next nothing =>
    cases skim
    have zero : fee.toNat = 0 := by
      rw [UInt64.lt_iff_toNat_lt] at nothing
      exact Nat.eq_zero_of_not_pos nothing
    rw [zero]
    exact .moves _ _ _ _ _ (moves_zero ledger _ _ mintIn source destination) (keepsMints_same _ _ rfl) (.nil ledger)

theorem settlement_posting (ledger skimmed settled : Ledger Pubkey) (amountIn : Nat)
    (fee net destBefore minOut out : UInt64)
    (funded : Funded daemon ledger user mintIn mintOut feeOwner poolIn poolOut amountIn)
    (settlement : Settlement ledger skimmed settled [daemon.keeper]
      (daemon.mockSwapAccounts (transient user mintIn) (buyAuthority user) poolIn poolOut (wallet user mintOut))
      (daemon.leg user mintIn mintOut feeOwner) fee destBefore minOut out
      (daemon.mockSwapData net.toNat net.toNat) daemon.mockSwap.venue) :
    Posting ledger (outlays user mintIn mintOut feeOwner poolIn poolOut fee.toNat net.toNat) settled := by
  have inputMint := ownedAccount_ofMint _ _ _ _ funded.input
  have first := skimFee_posting daemon user mintIn mintOut feeOwner ledger skimmed fee inputMint funded.fee settlement.skim
  have kept := posting_ofMint _ _ _ first
  have issues := swapInstruction_issues daemon user mintIn mintOut poolIn poolOut skimmed net.toNat net.toNat_lt
    (kept _ _ inputMint) (kept _ _ funded.dest) (kept _ _ (ownedAccount_ofMint _ _ _ _ funded.inPool))
    (kept _ _ (ownedAccount_ofMint _ _ _ _ funded.outPool))
  rw [UInt64.ofNat_toNat] at issues
  obtain ⟨issued, behaved, ran⟩ := invokeSigned_ok _ _ _ _ _ _ settlement.invoke
  obtain rfl := Option.some.inj (behaved.symm.trans issues)
  simp only [run, bind_ok] at ran
  obtain ⟨taken, second, settled', third, same⟩ := ran
  cases same
  exact posting_append _ _ _ _ _ first
    (posting_append _ _ _ _ _ (transfer_posting _ _ _ _ _ _ _ second) (transfer_posting _ _ _ _ _ _ _ third))

end Settled

section Setup

variable (native : NativeProgram Pubkey) (del : Delegation Pubkey) (ledger : Ledger Pubkey)

theorem rail_mints (paid : Ledger Pubkey) (source destination : Pubkey) (amount : UInt64)
    (payment : native.rail del ledger source destination amount = some paid) : ledger.KeepsMints paid := by
  simp only [NativeProgram.rail, Option.bind_eq_bind, Option.bind_eq_some_iff] at payment
  obtain ⟨issued, -, ran⟩ := payment
  exact run_keepsMints _ _ _ issued (toOption_some _ _ ran)

theorem create_posting (opened : Ledger Pubkey) (ata owner mint : Pubkey)
    (created : SetupInstruction.run native.rail del ledger (.createIdempotent ata owner mint) = some opened) :
    Posting ledger [] opened := by
  simp only [SetupInstruction.run, Option.bind_eq_bind, Option.bind_eq_some_iff] at created
  obtain ⟨_, -, created⟩ := created
  exact createIdempotent_posting _ _ owner mint (toOption_some _ _ created)

theorem setup_posting (fundable : Fundable daemon user mintIn mintOut feeOwner poolIn poolOut ledger) (amount : Nat)
    (small : amount < 2 ^ 64)
    (pays : 0 < amount →
      native.rail.Pays del ledger (wallet user mintIn) (transient user mintIn) mintIn (UInt64.ofNat amount))
    (funded : Ledger Pubkey)
    (ran : ([.createIdempotent (transient user mintIn) (buyAuthority user) mintIn,
          .createIdempotent (wallet user mintOut) user mintOut] ++
        (if 0 < amount then [.pull (wallet user mintIn) (transient user mintIn) amount] else []) :
          List (SetupInstruction Pubkey)).foldlM (SetupInstruction.run native.rail del) ledger = some funded) :
    Posting ledger [⟨wallet user mintIn, transient user mintIn, amount⟩] funded := by
  obtain ⟨opened, ran', kept, -, supplied, input, -⟩ :=
    fundable_opens daemon user mintIn mintOut feeOwner poolIn poolOut ledger fundable native.rail del
  obtain ⟨payer, atSource, sourceMint, -⟩ := fundable.source
  have inputMint := ownedAccount_ofMint _ _ _ _ input
  rw [List.foldlM_append, ran', Option.bind_eq_bind, Option.bind_some] at ran
  have opening : Posting ledger [] opened := by
    simp only [List.foldlM_cons, List.foldlM_nil, Option.bind_eq_bind, Option.bind_eq_some_iff, Option.pure_def,
      Option.some.injEq] at ran'
    obtain ⟨first, created, second, created', rfl⟩ := ran'
    exact posting_append _ _ _ _ _ (create_posting native del _ _ _ _ _ created)
      (create_posting native del _ _ _ _ _ created')
  refine posting_append _ _ [] opened _ opening ?_
  by_cases positive : 0 < amount
  next =>
    obtain ⟨paid, payment, moves⟩ := pays positive opened (by rw [kept _ payer atSource, atSource]) inputMint supplied
    have fits : amount < 18446744073709551616 := small
    simp only [if_pos positive, List.foldlM_cons, List.foldlM_nil, SetupInstruction.run, guard, Int.natCast_nonneg,
      true_and] at ran
    rw [if_pos (by exact_mod_cast fits)] at ran
    simp only [Option.pure_def, Option.bind_eq_bind, Option.bind_some, Int.toNat_natCast, payment,
      Option.some.injEq] at ran
    obtain rfl := ran
    rw [ofNat_toNat amount small] at moves
    exact .moves _ _ _ ⟨_, _, amount⟩ [] moves (rail_mints native del opened paid _ _ _ payment) (.nil paid)
  next =>
    obtain rfl : amount = 0 := Nat.eq_zero_of_not_pos positive
    simp only [Nat.lt_irrefl, if_false, List.foldlM_nil, Option.pure_def, Option.some.injEq] at ran
    obtain rfl := ran
    exact .moves _ _ _ ⟨_, _, 0⟩ [] (moves_zero opened _ _ mintIn ⟨payer, kept _ payer atSource, sourceMint⟩ inputMint)
      (keepsMints_same _ _ rfl) (.nil opened)

end Setup

section Executed

variable (world : World Pubkey) (cfg : Config Pubkey) (feeConfig : FeeConfig Pubkey)
  (serves : daemon.Serves world cfg feeConfig) (native : NativeProgram Pubkey) (del : Delegation Pubkey)

include serves

theorem composeBuy_posting (amount : Nat) (positive : 0 < amount) (small : amount < 2 ^ 64)
    (fundable : Fundable daemon del.delegator daemon.usdc daemon.target feeConfig.destination daemon.poolUsdc
      daemon.poolTarget world.ledger)
    (pays : native.rail.Pays del world.ledger (wallet del.delegator daemon.usdc) (transient del.delegator daemon.usdc)
      daemon.usdc (UInt64.ofNat amount))
    (world' : World Pubkey) (event : BuyExecuted Pubkey)
    (submitted : daemon.submitBuy (daemon.composeBuy world del.delegator amount) native.rail del world =
      some (world', event)) :
    ∃ netIn floor, Agreement daemon cfg feeConfig event.amountIn event.fee netIn floor ∧
      event.amountIn.toNat = world.ledger.balance (transient del.delegator daemon.usdc) + amount ∧
      world' = { world with ledger := world'.ledger } ∧
      Posting world.ledger (bookings del.delegator daemon.usdc daemon.target feeConfig.destination daemon.poolUsdc
        daemon.poolTarget amount event.fee.toNat netIn.toNat) world'.ledger := by
  obtain ⟨funded, ran, found, -, -, -⟩ := fundable_funds daemon del.delegator daemon.usdc daemon.target
    feeConfig.destination daemon.poolUsdc daemon.poolTarget world.ledger fundable native.rail del amount small fun _ => pays
  have pulling := setup_posting daemon del.delegator daemon.usdc daemon.target feeConfig.destination daemon.poolUsdc
    daemon.poolTarget native del world.ledger fundable amount small (fun _ => pays) funded ran
  have fits : world.ledger.balance (transient del.delegator daemon.usdc) + amount < 2 ^ 64 := by
    rw [← found.amount]
    exact Ledger.balance_lt _ _
  let amountIn := UInt64.ofNat (world.ledger.balance (transient del.delegator daemon.usdc) + amount)
  have value : amountIn.toNat = world.ledger.balance (transient del.delegator daemon.usdc) + amount := ofNat_toNat _ fits
  obtain ⟨fee, netIn, floor, agreement⟩ := serves_agreement daemon world cfg feeConfig serves amountIn (by omega)
  have data := composeBuy_data daemon world cfg feeConfig serves.feeConfigLoaded del.delegator amount amountIn fee netIn
    floor agreement (by omega)
  rw [if_pos positive] at ran
  have bought := (submitBuy_some daemon native.rail del world funded floor _ _ ran data
    (mockSwapData_short daemon netIn.toNat netIn.toNat) _).mp submitted
  obtain ⟨cfg', feeConfig', source, dest, fee', netIn', floor', out, skimmed, course, rfl⟩ :=
    (executeBuy_ok _ _ _ _ _ _ _).mp bought
  obtain rfl := Option.some.inj (serves.feeConfigLoaded.symm.trans course.feeConfigLoaded)
  have amount' : source.amount = amountIn :=
    Ledger.amount_of_balance _ _ _ amountIn course.transientAccount (by rw [value]; exact found.amount)
  have charged := course.feeValue
  rw [amount', agreement.feeValue, Except.ok.injEq] at charged
  subst charged
  have settlement := course.settlement
  rw [composeBuy_leg daemon world feeConfig serves.feeConfigLoaded del.delegator amount] at settlement
  rw [← value] at found
  refine ⟨netIn, floor, by rw [amount']; exact agreement, by rw [amount', value], course.unchanged, ?_⟩
  exact posting_append _ _ _ funded _ pulling (settlement_posting daemon del.delegator daemon.usdc daemon.target
    feeConfig.destination daemon.poolUsdc daemon.poolTarget funded skimmed world'.ledger amountIn.toNat fee netIn _ _ _
    found settlement)

theorem composeSell_posting (amount : Nat) (small : amount < 2 ^ 64)
    (fundable : Fundable daemon del.delegator daemon.target daemon.usdc feeConfig.destination daemon.poolTarget
      daemon.poolUsdc world.ledger)
    (pays : 0 < amount → native.rail.Pays del world.ledger (wallet del.delegator daemon.target)
      (transient del.delegator daemon.target) daemon.target (UInt64.ofNat amount))
    (something : 0 < world.ledger.balance (transient del.delegator daemon.target) + amount)
    (world' : World Pubkey) (event : SellExecuted Pubkey)
    (submitted : daemon.submitSell (daemon.composeSell world del.delegator amount) native.rail del world =
      some (world', event)) :
    ∃ netIn floor plan advanced, Agreement daemon cfg feeConfig event.amountIn event.fee netIn floor ∧
      event.amountIn.toNat = world.ledger.balance (transient del.delegator daemon.target) + amount ∧
      world.sellPlans (sellPlanPda del.delegator) = some plan ∧ plan.advance world.clock = .ok advanced ∧
      world' = { world with ledger := world'.ledger }.setSellPlan (sellPlanPda del.delegator) (some advanced) ∧
      Posting world.ledger (bookings del.delegator daemon.target daemon.usdc feeConfig.destination daemon.poolTarget
        daemon.poolUsdc amount event.fee.toNat netIn.toNat) world'.ledger := by
  obtain ⟨funded, ran, found, -, -, -⟩ := fundable_funds daemon del.delegator daemon.target daemon.usdc
    feeConfig.destination daemon.poolTarget daemon.poolUsdc world.ledger fundable native.rail del amount small pays
  have pulling := setup_posting daemon del.delegator daemon.target daemon.usdc feeConfig.destination daemon.poolTarget
    daemon.poolUsdc native del world.ledger fundable amount small pays funded ran
  have fits : world.ledger.balance (transient del.delegator daemon.target) + amount < 2 ^ 64 := by
    rw [← found.amount]
    exact Ledger.balance_lt _ _
  let amountIn := UInt64.ofNat (world.ledger.balance (transient del.delegator daemon.target) + amount)
  have value : amountIn.toNat = world.ledger.balance (transient del.delegator daemon.target) + amount :=
    ofNat_toNat _ fits
  obtain ⟨fee, netIn, floor, agreement⟩ := serves_agreement daemon world cfg feeConfig serves amountIn (by omega)
  have data := composeSell_data daemon world cfg feeConfig serves.feeConfigLoaded del.delegator amount amountIn fee netIn
    floor agreement (by omega)
  have setup : (daemon.composeSell world del.delegator amount).setup.foldlM (SetupInstruction.run native.rail del)
      world.ledger = some funded := by
    simp only [Daemon.composeSell, Int.natCast_pos]
    exact ran
  have sold := (submitSell_some daemon native.rail del world funded floor _ _ setup data
    (mockSwapData_short daemon netIn.toNat netIn.toNat) _).mp submitted
  obtain ⟨cfg', feeConfig', plan, advanced, source, pot, dest, fee', netIn', floor', out, skimmed, course, rfl⟩ :=
    (executeSell_ok _ _ _ _ _ _ _).mp sold
  obtain rfl := Option.some.inj (serves.feeConfigLoaded.symm.trans course.feeConfigLoaded)
  have amount' : source.amount = amountIn :=
    Ledger.amount_of_balance _ _ _ amountIn course.transientAccount (by rw [value]; exact found.amount)
  have charged := course.feeValue
  rw [amount', agreement.feeValue, Except.ok.injEq] at charged
  subst charged
  have settlement := course.settlement
  rw [composeSell_leg daemon world feeConfig serves.feeConfigLoaded del.delegator amount] at settlement
  rw [← value] at found
  refine ⟨netIn, floor, plan, advanced, by rw [amount']; exact agreement, by rw [amount', value], course.planLoaded,
    course.advancedValue, course.changed, ?_⟩
  exact posting_append _ _ _ funded _ pulling (settlement_posting daemon del.delegator daemon.target daemon.usdc
    feeConfig.destination daemon.poolTarget daemon.poolUsdc funded skimmed world'.ledger amountIn.toNat fee netIn _ _ _
    found settlement)

end Executed

end RecurringBuy
