import RecurringBuy.Keeper.Healthy

set_option autoImplicit false

namespace RecurringBuy

open Checked SplToken ProgramAddress Simulation

section Amounts

variable {Pubkey : Type}

def Delegation.allowance (del : Delegation Pubkey) (now : Int64) : Nat :=
  if del.currentPeriodStartTs + del.periodLengthS ≤ now.toInt then del.amountPerPeriod.toNat
  else del.amountPerPeriod.toNat - del.amountPulledInPeriod.toNat

def SellPlan.periodsLeft (plan : SellPlan Pubkey) (now : Int64) : Nat :=
  (max ((plan.endTs.toInt - now.toInt) / plan.periodSecs.toInt) 1).toNat

def SellPlan.Due (plan : SellPlan Pubkey) (now : Int64) : Prop :=
  plan.nextDueTs.toInt ≤ plan.endTs.toInt ∧ plan.nextDueTs.toInt ≤ now.toInt

instance (plan : SellPlan Pubkey) (now : Int64) : Decidable (plan.Due now) :=
  inferInstanceAs (Decidable (_ ∧ _))

theorem allowance_small (del : Delegation Pubkey) (now : Int64) : del.allowance now < 2 ^ 64 := by
  have high := del.amountPerPeriod.toNat_lt
  unfold Delegation.allowance
  split <;> omega

theorem available_allowance (del : Delegation Pubkey) (now : Int64) (clock : DatedClock now) :
    available del (.ofBigInt now.toInt) = some (del.allowance now : Int) := by
  have exactly : Number.ofBigInt now.toInt = (now.toInt : Number) :=
    Binary64.round_int _ (by linarith [clock.1]) (by linarith [clock.2])
  simp only [available, exactly, toBigInt_int, Option.bind_eq_bind, Option.bind_some, Option.pure_def, Option.some.injEq,
    Delegation.allowance]
  split_ifs <;> omega

theorem counted_periods (plan : SellPlan Pubkey) (now : Int64) (positive : 0 < plan.periodSecs.toInt)
    (near : plan.endTs.toInt - now.toInt ≤ 2 ^ 53) :
    (countedPeriods plan now).toNat = plan.periodsLeft now := by
  have counted := daemon_periods_near plan.endTs.toInt plan.periodSecs.toInt now.toInt positive near
  rw [daemon_periods _ _ _ (by exact_mod_cast positive), Option.some.injEq] at counted
  rw [SellPlan.periodsLeft, ← counted]
  rfl

end Amounts

variable {Pubkey : Type} [DecidableEq Pubkey] [ProgramAddress Pubkey] (daemon : Daemon Pubkey)

-- What the turn of `d` pulls.
def Daemon.pulls (world : World Pubkey) (d : RecurringDelegation Pubkey) : Nat :=
  if d.mint = daemon.usdc then d.allowance world.clock
  else match world.sellPlans (sellPlanPda d.delegator) with
    | some plan =>
        if plan.Due world.clock then
          min (d.allowance world.clock)
            (world.ledger.balance (wallet d.delegator daemon.target) / plan.periodsLeft world.clock)
        else 0
    | none => 0

def Daemon.mintOut (d : RecurringDelegation Pubkey) : Pubkey := if d.mint = daemon.usdc then daemon.target else daemon.usdc

def Daemon.poolIn (d : RecurringDelegation Pubkey) : Pubkey :=
  if d.mint = daemon.usdc then daemon.poolUsdc else daemon.poolTarget

def Daemon.poolOut (d : RecurringDelegation Pubkey) : Pubkey :=
  if d.mint = daemon.usdc then daemon.poolTarget else daemon.poolUsdc

-- The payments of the turn, if there is anything to pull.
def Daemon.books (feeConfig : FeeConfig Pubkey) (world : World Pubkey) (d : RecurringDelegation Pubkey) :
    List (Payment Pubkey) :=
  let amount := daemon.pulls world d
  if amount = 0 then []
  else bookings d.delegator d.mint (daemon.mintOut d) feeConfig.destination (daemon.poolIn d) (daemon.poolOut d) amount
    (feeConfig.feeOf amount) (feeConfig.netOf amount)

/-- The user's account and the pool have what the turn asks of them. -/
structure Daemon.Backed (feeConfig : FeeConfig Pubkey) (native : NativeProgram Pubkey) (world : World Pubkey)
    (d : RecurringDelegation Pubkey) : Prop where
  pays : 0 < daemon.pulls world d → native.rail.Pays d.toDelegation world.ledger (wallet d.delegator d.mint)
    (transient d.delegator d.mint) d.mint (UInt64.ofNat (daemon.pulls world d))
  liquid : feeConfig.netOf (daemon.pulls world d) ≤ world.ledger.balance (daemon.poolOut d)

section Balances

omit [DecidableEq Pubkey] [ProgramAddress Pubkey] in
theorem netOf_zero (feeConfig : FeeConfig Pubkey) : feeConfig.feeOf 0 = 0 ∧ feeConfig.netOf 0 = 0 := by
  simp [FeeConfig.feeOf, FeeConfig.netOf]

theorem pools_ne (d : RecurringDelegation Pubkey) (key : Pubkey) (usdcPool : daemon.poolUsdc ≠ key)
    (targetPool : daemon.poolTarget ≠ key) : daemon.poolIn d ≠ key ∧ daemon.poolOut d ≠ key := by
  unfold Daemon.poolIn Daemon.poolOut
  by_cases usdc : d.mint = daemon.usdc
  next => simp [usdc, usdcPool, targetPool]
  next => simp [usdc, usdcPool, targetPool]

-- A turn that pulls nothing leaves a balance as payments of nothing do.
theorem books_balance (feeConfig : FeeConfig Pubkey) (world : World Pubkey) (d : RecurringDelegation Pubkey)
    (ledger' : Ledger Pubkey) (posting : Posting world.ledger (daemon.books feeConfig world d) ledger') (key : Pubkey) :
    let amount := daemon.pulls world d
    let payments := bookings d.delegator d.mint (daemon.mintOut d) feeConfig.destination (daemon.poolIn d)
      (daemon.poolOut d) amount (feeConfig.feeOf amount) (feeConfig.netOf amount)
    ledger'.balance key + paidOut key payments = world.ledger.balance key + paidIn key payments := by
  have balance := posting_balance _ _ _ posting key
  by_cases nothing : daemon.pulls world d = 0
  next =>
    simp only [Daemon.books, if_pos nothing, paidOut, paidIn] at balance
    simp [nothing, netOf_zero feeConfig, bookings, outlays, paidOut, paidIn, balance]
  next =>
    simp only [Daemon.books, if_neg nothing] at balance
    exact balance

end Balances

section Decisions

variable (world : World Pubkey) (d : RecurringDelegation Pubkey) (clock : DatedClock world.clock)

include clock

theorem crankBuy_pulls (usdc : d.mint = daemon.usdc) :
    daemon.crankBuy world d.toDelegation (.ofBigInt world.clock.toInt) =
      if 0 < daemon.pulls world d then some (daemon.composeBuy world d.delegator (daemon.pulls world d)) else none := by
  have allowed := available_allowance d.toDelegation world.clock clock
  simp only [Daemon.crankBuy, allowed, Option.bind_eq_bind, Option.bind_some, Daemon.pulls, if_pos usdc]
  by_cases positive : 0 < d.allowance world.clock
  next => simp [guard, positive]
  next => simp [guard, positive]

-- Without residue the daemon draws a period's share, or what the delegation allows.
theorem crankSell_pulls (other : d.mint ≠ daemon.usdc)
    (formed : ∀ plan, world.sellPlans (sellPlanPda d.delegator) = some plan → plan.WellFormed ∧ plan.Dated)
    (empty : world.ledger.balance (transient d.delegator daemon.target) = 0) :
    daemon.crankSell world d.toDelegation (.ofBigInt world.clock.toInt) =
      if 0 < daemon.pulls world d then some (daemon.composeSell world d.delegator (daemon.pulls world d)) else none := by
  have allowed := available_allowance d.toDelegation world.clock clock
  simp only [Daemon.pulls, if_neg other]
  cases present : world.sellPlans (sellPlanPda d.delegator) with
  | none => simp [Daemon.crankSell, present]
  | some plan =>
    obtain ⟨wellFormed, dated⟩ := formed plan present
    have times := dated_exact plan world.clock dated clock
    have positive := wellFormed_positive plan wellFormed
    have least := wellFormed.minPeriod
    have most := wellFormed.maxPeriod
    have period : Number.Exact plan.periodSecs.toInt := Binary64.round_int _ (by omega) (by omega)
    have near : plan.endTs.toInt - world.clock.toInt ≤ 2 ^ 53 := by linarith [dated.horizon.2, clock.1]
    have counted : Daemon.periods (.ofBigInt plan.endTs.toInt) (.ofBigInt plan.periodSecs.toInt)
        (.ofBigInt world.clock.toInt) = some (countedPeriods plan world.clock) := by
      rw [times.endTs, period, times.now, daemon_periods _ _ _ (by exact_mod_cast positive)]
      rfl
    have drawn := daemon_draw (world.ledger.balance (wallet d.delegator daemon.target)) 0 _ _ _ _
      (by simp [countedPeriods]) counted
    rw [counted_periods plan world.clock positive near] at drawn
    simp only [Nat.cast_zero, Nat.add_zero, Nat.sub_zero] at drawn
    simp only [Daemon.crankSell, present, empty, Nat.cast_zero, drawn, allowed, Option.bind_eq_bind, Option.bind_some]
    by_cases due : plan.Due world.clock
    next =>
      have shown : Number.ofBigInt plan.nextDueTs.toInt ≤ Number.ofBigInt plan.endTs.toInt ∧
          Number.ofBigInt plan.nextDueTs.toInt ≤ Number.ofBigInt world.clock.toInt := by
        rw [times.endTs, times.nextDueTs, times.now]
        exact ⟨by exact_mod_cast due.1, by exact_mod_cast due.2⟩
      have least' : (if (world.ledger.balance (wallet d.delegator daemon.target) / plan.periodsLeft world.clock : Nat) >
          (d.allowance world.clock : Int) then (d.allowance world.clock : Int)
          else (world.ledger.balance (wallet d.delegator daemon.target) / plan.periodsLeft world.clock : Nat)) =
          (min (d.allowance world.clock)
            (world.ledger.balance (wallet d.delegator daemon.target) / plan.periodsLeft world.clock) : Nat) := by
        split_ifs <;> omega
      simp only [if_pos due, guard, shown, and_self, if_true, Option.pure_def, Option.bind_some, least',
        lt_self_iff_false, or_false, Int.natCast_pos]
      by_cases something : 0 < min (d.allowance world.clock)
          (world.ledger.balance (wallet d.delegator daemon.target) / plan.periodsLeft world.clock)
      next =>
        rw [if_pos something, if_pos something]
        rfl
      next =>
        rw [if_neg something, if_neg something]
        rfl
    next =>
      have unshown : ¬ (Number.ofBigInt plan.nextDueTs.toInt ≤ Number.ofBigInt plan.endTs.toInt ∧
          Number.ofBigInt plan.nextDueTs.toInt ≤ Number.ofBigInt world.clock.toInt) := by
        rw [times.endTs, times.nextDueTs, times.now]
        intro shown
        exact due ⟨by exact_mod_cast shown.1, by exact_mod_cast shown.2⟩
      simp [if_neg due, guard, unshown]

end Decisions

section Lands

variable (world : World Pubkey) (cfg : Config Pubkey) (feeConfig : FeeConfig Pubkey)

omit [DecidableEq Pubkey] [ProgramAddress Pubkey] in
theorem feeOf_netOf (capped : feeConfig.feeBps.toNat ≤ 100) (amount : Nat) :
    feeConfig.feeOf amount + feeConfig.netOf amount = amount := by
  have scaled : amount * feeConfig.feeBps.toNat ≤ amount * 100 := Nat.mul_le_mul_left _ capped
  have small : feeConfig.feeOf amount ≤ amount := by
    rw [FeeConfig.feeOf]
    omega
  rw [FeeConfig.netOf]
  omega

omit [DecidableEq Pubkey] in
theorem agreement_amounts (amountIn fee netIn floor : UInt64)
    (agreement : Agreement daemon cfg feeConfig amountIn fee netIn floor) :
    fee.toNat = feeConfig.feeOf amountIn.toNat ∧ netIn.toNat = feeConfig.netOf amountIn.toNat := by
  have charged := agreement.daemonFee
  have net := agreement.net
  rw [feeOn_nat] at charged
  have fee' : fee.toNat = feeConfig.feeOf amountIn.toNat := by
    rw [FeeConfig.feeOf]
    exact_mod_cast charged.symm
  exact ⟨fee', by rw [FeeConfig.netOf]; omega⟩

omit [DecidableEq Pubkey] [ProgramAddress Pubkey] in
theorem netOf_rate (amounts : List Nat) :
    amounts.sum * (10000 - feeConfig.feeBps.toNat) ≤ 10000 * (amounts.map feeConfig.netOf).sum := by
  induction amounts with
  | nil => simp
  | cons amount rest ih =>
    have fee := Nat.div_mul_le_self (amount * feeConfig.feeBps.toNat) 10000
    rw [List.sum_cons, List.map_cons, List.sum_cons, Nat.add_mul, Nat.mul_add]
    apply Nat.add_le_add _ ih
    rw [FeeConfig.netOf, FeeConfig.feeOf, Nat.mul_sub, Nat.mul_sub]
    omega

omit [DecidableEq Pubkey] [ProgramAddress Pubkey] in
theorem feeOf_rate (amounts : List Nat) :
    10000 * (amounts.map feeConfig.feeOf).sum ≤ amounts.sum * feeConfig.feeBps.toNat := by
  induction amounts with
  | nil => simp
  | cons amount rest ih =>
    have fee := Nat.mul_div_le (amount * feeConfig.feeBps.toNat) 10000
    rw [List.sum_cons, List.map_cons, List.sum_cons, Nat.add_mul, Nat.mul_add]
    exact Nat.add_le_add fee ih

variable (serves : daemon.Serves world cfg feeConfig) (native : NativeProgram Pubkey) (del : Delegation Pubkey)

include serves

theorem composeBuy_lands (amount : Nat) (positive : 0 < amount) (small : amount < 2 ^ 64)
    (fundable : Fundable daemon del.delegator daemon.usdc daemon.target feeConfig.destination daemon.poolUsdc
      daemon.poolTarget world.ledger)
    (pays : native.rail.Pays del world.ledger (wallet del.delegator daemon.usdc) (transient del.delegator daemon.usdc)
      daemon.usdc (UInt64.ofNat amount))
    (empty : world.ledger.balance (transient del.delegator daemon.usdc) = 0)
    (liquid : feeConfig.netOf amount ≤ world.ledger.balance daemon.poolTarget) :
    ∃ result, daemon.submitBuy (daemon.composeBuy world del.delegator amount) native.rail del world = some result := by
  obtain ⟨funded, ran, found, poolKept, -, -⟩ := fundable_funds daemon del.delegator daemon.usdc daemon.target
    feeConfig.destination daemon.poolUsdc daemon.poolTarget world.ledger fundable native.rail del amount small fun _ => pays
  have value : (UInt64.ofNat amount).toNat = amount := ofNat_toNat _ small
  obtain ⟨fee, netIn, floor, agreement⟩ := serves_agreement daemon world cfg feeConfig serves (UInt64.ofNat amount)
    (by omega)
  have net := (agreement_amounts daemon cfg feeConfig _ _ _ _ agreement).2
  rw [empty, Nat.zero_add, ← value] at found
  rw [value] at net
  obtain ⟨settled, out, bought, -, -⟩ := composeBuy_course daemon world cfg feeConfig serves del.delegator
    amount (UInt64.ofNat amount) fee netIn floor agreement funded found (by omega)
  have data := composeBuy_data daemon world cfg feeConfig serves.feeConfigLoaded del.delegator amount (UInt64.ofNat amount)
    fee netIn floor agreement (by rw [empty, value]; simp)
  rw [if_pos positive] at ran
  exact ⟨_, (submitBuy_some daemon native.rail del world funded floor _ _ ran data
    (mockSwapData_short daemon netIn.toNat netIn.toNat) _).mpr bought⟩

theorem composeSell_lands (amount : Nat) (positive : 0 < amount) (small : amount < 2 ^ 64)
    (fundable : Fundable daemon del.delegator daemon.target daemon.usdc feeConfig.destination daemon.poolTarget
      daemon.poolUsdc world.ledger)
    (pays : native.rail.Pays del world.ledger (wallet del.delegator daemon.target)
      (transient del.delegator daemon.target) daemon.target (UInt64.ofNat amount))
    (empty : world.ledger.balance (transient del.delegator daemon.target) = 0)
    (liquid : feeConfig.netOf amount ≤ world.ledger.balance daemon.poolUsdc)
    (plan : SellPlan Pubkey) (planLoaded : world.sellPlans (sellPlanPda del.delegator) = some plan)
    (due : plan.Due world.clock) (dated : plan.Dated) (clock : DatedClock world.clock)
    (share : amount = min (del.allowance world.clock)
      (world.ledger.balance (wallet del.delegator daemon.target) / plan.periodsLeft world.clock)) :
    ∃ result, daemon.submitSell (daemon.composeSell world del.delegator amount) native.rail del world = some result := by
  let pot := world.ledger.balance (wallet del.delegator daemon.target)
  have formed := (reachable_wellFormed world serves.reachable).sellPlans _ _ planLoaded
  have near : plan.endTs.toInt - world.clock.toInt ≤ 2 ^ 53 := by linarith [dated.horizon.2, clock.1]
  obtain ⟨funded, ran, found, poolKept, wallet', rest⟩ := fundable_funds daemon del.delegator daemon.target daemon.usdc
    feeConfig.destination daemon.poolTarget daemon.poolUsdc world.ledger fundable native.rail del amount small fun _ => pays
  have value : (UInt64.ofNat amount).toNat = amount := ofNat_toNat _ small
  let left := UInt64.ofNat (funded.balance (wallet del.delegator daemon.target))
  have leftValue : left.toNat = funded.balance (wallet del.delegator daemon.target) := Ledger.balance_ofNat _ _
  obtain ⟨fee, netIn, floor, agreement⟩ := serves_agreement daemon world cfg feeConfig serves (UInt64.ofNat amount)
    (by omega)
  have net := (agreement_amounts daemon cfg feeConfig _ _ _ _ agreement).2
  rw [empty, Nat.zero_add, ← value] at found
  rw [value] at net
  have cut : (amount : Int) = min (del.allowance world.clock : Int)
      ((pot + 0) / (countedPeriods plan world.clock).toNat - 0 : Nat) := by
    rw [counted_periods plan world.clock (wellFormed_positive plan formed) near]
    simp only [Nat.add_zero, Nat.sub_zero]
    exact_mod_cast share
  have fits := (sellFits_near plan world.clock formed pot 0 (del.allowance world.clock) due.2 near
    (by linarith [dated.nextDue.1]) (by linarith [clock.2])).mpr fun _ _ => Nat.zero_le _
  have capped := (pull_capped plan world.clock formed pot 0 (del.allowance world.clock) amount left (UInt64.ofNat amount)
    (Int.natCast_nonneg _) cut (by omega) (by omega) due.2).mpr fits
  have accepted := (composeSell_accepted_iff daemon world cfg feeConfig serves del.delegator amount plan planLoaded
    ((checkDue_ok _ _ _).mpr due) (UInt64.ofNat amount) fee netIn floor left agreement funded found wallet'
    leftValue.symm (by omega)).mpr capped
  obtain ⟨result, sold⟩ := accepted
  have data := composeSell_data daemon world cfg feeConfig serves.feeConfigLoaded del.delegator amount
    (UInt64.ofNat amount) fee netIn floor agreement (by rw [empty, value]; simp)
  have setup : (daemon.composeSell world del.delegator amount).setup.foldlM (SetupInstruction.run native.rail del)
      world.ledger = some funded := by
    simp only [Daemon.composeSell, Int.natCast_pos]
    exact ran
  exact ⟨result, (submitSell_some daemon native.rail del world funded floor _ _ setup data
    (mockSwapData_short daemon netIn.toNat netIn.toNat) _).mpr sold⟩

end Lands

end RecurringBuy
