import RecurringBuy.Keeper.Wallets
import RecurringBuy.Properties.ClosedLoop
import RecurringBuy.Shared.Runoff

set_option autoImplicit false

namespace RecurringBuy

open Checked SplToken ProgramAddress Simulation

section Runs

variable {Pubkey : Type} [DecidableEq Pubkey] [ProgramAddress Pubkey] (daemon : Daemon Pubkey)

-- The visits that the turns of `queue` pay to the plan of `user`.
def Daemon.visits (user : Pubkey) (now : Int64) (queue : List (RecurringDelegation Pubkey)) : List Runoff.Visit :=
  (queue.filter fun d => d.key = (user, daemon.target)).map fun d => ⟨now.toInt, d.allowance now⟩

structure Daemon.Holds (horizon period : Int64) (user : Pubkey) (world : World Pubkey) (state : Runoff.State) : Prop where
  plan : ∃ plan, world.sellPlans (sellPlanPda user) = some plan ∧ plan.endTs = horizon ∧ plan.periodSecs = period ∧
    plan.nextDueTs.toInt = state.due
  holding : world.ledger.balance (wallet user daemon.target) = state.holding

variable (cfg : Config Pubkey) (feeConfig : FeeConfig Pubkey) (buyers sellers : List Pubkey)
  (horizon period : Int64) (user : Pubkey)

def Daemon.PaysOut (world : World Pubkey) (visits : List Runoff.Visit) (world' : World Pubkey) : Prop :=
  ∀ state, daemon.Holds horizon period user world state →
    daemon.Holds horizon period user world' (visits.foldl (Runoff.step horizon.toInt period.toInt) state) ∧
    world'.ledger.balance (wallet user daemon.usdc) = world.ledger.balance (wallet user daemon.usdc) +
      ((Runoff.draws horizon.toInt period.toInt state visits).map feeConfig.netOf).sum

omit [DecidableEq Pubkey] in
theorem paysOut_append (world middle world' : World Pubkey) (first later : List Runoff.Visit)
    (pays : daemon.PaysOut feeConfig horizon period user world first middle)
    (next : daemon.PaysOut feeConfig horizon period user middle later world') :
    daemon.PaysOut feeConfig horizon period user world (first ++ later) world' := by
  intro state holds
  obtain ⟨between, paid⟩ := pays state holds
  obtain ⟨last, paid'⟩ := next _ between
  constructor
  next =>
    rw [List.foldl_append]
    exact last
  next =>
    rw [paid', paid, Runoff.draws_append, List.map_append, List.sum_append, Nat.add_assoc]

theorem pulls_draw (world : World Pubkey) (d : RecurringDelegation Pubkey) (state : Runoff.State)
    (holds : daemon.Holds horizon period d.delegator world state) (other : d.mint ≠ daemon.usdc) :
    daemon.pulls world d =
      Runoff.draw horizon.toInt period.toInt state ⟨world.clock.toInt, d.allowance world.clock⟩ := by
  obtain ⟨plan, loaded, rfl, rfl, due⟩ := holds.plan
  simp only [Daemon.pulls, if_neg other, loaded, holds.holding, SellPlan.Due, due, Runoff.draw]
  rfl

section Turns

variable (world world' : World Pubkey) (d : RecurringDelegation Pubkey)
  (healthy : daemon.Healthy cfg feeConfig buyers sellers world) (seller : user ∈ sellers)
  (unpaid : feeConfig.destination ≠ user)

include healthy seller unpaid

theorem stranger_paysOut (passed : daemon.Passed feeConfig.destination d world world') (different : user ≠ d.delegator)
    (apart : user ≠ buyAuthority d.delegator) : daemon.PaysOut feeConfig horizon period user world [] world' := by
  intro state holds
  have pools := fundable_wallet daemon _ _ _ _ _ _ _ (healthy.sells user seller)
  have untouched (mint : Pubkey) (traded : mint = daemon.target ∨ mint = daemon.usdc) :
      world'.ledger.balance (wallet user mint) = world.ledger.balance (wallet user mint) :=
    passed_wallet daemon feeConfig.destination d world world' passed user mint different apart unpaid
      (pools mint traded).2 (pools mint traded).1
  refine ⟨⟨?_, ?_⟩, ?_⟩
  next =>
    rw [passed.plans user different]
    exact holds.plan
  next => rw [untouched daemon.target (.inl rfl), holds.holding, List.foldl_nil]
  next =>
    rw [untouched daemon.usdc (.inr rfl)]
    rfl

theorem own_paysOut (known : daemon.Knows buyers sellers d)
    (turned : Turned daemon cfg feeConfig buyers sellers world d world') (unbuying : user ∉ buyers)
    (mine : d.delegator = user) :
    daemon.PaysOut feeConfig horizon period user world [⟨world.clock.toInt, d.allowance world.clock⟩] world' := by
  subst mine
  intro state holds
  obtain ⟨other, target⟩ : d.mint ≠ daemon.usdc ∧ d.mint = daemon.target := by
    rcases known with ⟨-, buyer⟩ | ⟨other, target, -⟩
    next => exact absurd buyer unbuying
    next => exact ⟨other, target⟩
  have pools := fundable_wallet daemon _ _ _ _ _ _ _ (healthy.sells d.delegator seller)
  have drawn := pulls_draw daemon horizon period world d state holds other
  have mintOut : daemon.mintOut d = daemon.usdc := if_neg other
  have moved := books_own daemon feeConfig world d world'.ledger turned.posting (by rwa [mintOut]) unpaid (by
    intro mint traded
    rw [target, mintOut] at traded
    exact (pools_ne daemon d _ (pools mint traded).2 (pools mint traded).1))
  rw [target, mintOut] at moved
  obtain ⟨holding, received⟩ := moved
  have plans := turned.plans d.delegator
  obtain ⟨plan, loaded, rfl, rfl, due⟩ := holds.plan
  have formed := (reachable_wellFormed world healthy.serves.reachable).sellPlans _ _ loaded
  have within := holds.holding
  simp only [List.foldl_cons, List.foldl_nil, Runoff.draws, collect, List.append_nil, List.map_cons, List.map_nil,
    List.sum_singleton, ← drawn]
  by_cases nothing : daemon.pulls world d = 0
  next =>
    have still : Runoff.step plan.endTs.toInt plan.periodSecs.toInt state
        ⟨world.clock.toInt, d.allowance world.clock⟩ = state := by
      rw [Runoff.step, if_pos (drawn.symm.trans nothing)]
    rw [Daemon.planAfter, if_neg fun active => absurd active.2.2 (by omega)] at plans
    rw [nothing, Nat.add_zero] at holding
    rw [still]
    exact ⟨⟨⟨plan, plans.trans loaded, rfl, rfl, due⟩, holding.trans within⟩, received⟩
  next =>
    obtain ⟨-, passed⟩ := Runoff.draw_due _ _ state _ (drawn ▸ nothing)
    obtain ⟨advanced, jumped⟩ := dated_advances plan formed world.clock (healthy.dated _ seller plan loaded)
      healthy.clock (due ▸ passed)
    obtain ⟨same, value⟩ := advance_ok plan advanced world.clock (due ▸ passed) jumped
    rw [Daemon.planAfter, if_pos ⟨other, rfl, Nat.pos_of_ne_zero nothing⟩, loaded, Option.bind_some, jumped] at plans
    have moved : Runoff.step plan.endTs.toInt plan.periodSecs.toInt state
        ⟨world.clock.toInt, d.allowance world.clock⟩ =
        { holding := state.holding - daemon.pulls world d, due := advanced.nextDueTs.toInt } := by
      rw [Runoff.step, if_neg (drawn ▸ nothing), ← drawn, value, due]
    rw [moved]
    refine ⟨⟨⟨advanced, plans, by rw [same], by rw [same], rfl⟩, ?_⟩, ?_⟩
    next =>
      have small := Runoff.draw_le plan.endTs.toInt plan.periodSecs.toInt state ⟨world.clock.toInt, d.allowance world.clock⟩
      rw [← drawn] at small
      show world'.ledger.balance (wallet d.delegator daemon.target) = state.holding - daemon.pulls world d
      omega
    next => exact received

theorem turn_paysOut (native : NativeProgram Pubkey)
    (tolerated : daemon.Tolerated feeConfig buyers sellers native world d) (unbuying : user ∉ buyers) :
    daemon.PaysOut feeConfig horizon period user world (daemon.visits user world.clock [d])
      (daemon.turnAt feeConfig native world.clock world d) := by
  by_cases mine : d.delegator = user
  next =>
    obtain ⟨known, backed⟩ : daemon.InOrder feeConfig buyers sellers native world d := by
      rcases tolerated.user with ready | stranger
      next => exact ready
      next => exact absurd (mine ▸ List.mem_append_right _ seller) stranger.unserved
    have turned := (inOrder_turned daemon cfg feeConfig buyers sellers native world d healthy ⟨known, backed⟩).2
    have target : d.mint = daemon.target := by
      rcases known with ⟨-, buyer⟩ | ⟨-, target, -⟩
      next => exact absurd (mine ▸ buyer) unbuying
      next => exact target
    have visited : daemon.visits user world.clock [d] = [⟨world.clock.toInt, d.allowance world.clock⟩] := by
      simp [Daemon.visits, RecurringDelegation.key, mine, target]
    rw [visited]
    exact own_paysOut daemon cfg feeConfig buyers sellers horizon period user world _ d healthy seller unpaid known turned
      unbuying mine
  next =>
    have unvisited : daemon.visits user world.clock [d] = [] := by
      simp [Daemon.visits, RecurringDelegation.key, mine]
    rw [unvisited]
    exact stranger_paysOut daemon cfg feeConfig buyers sellers horizon period user world _ d healthy seller unpaid
      (tolerated_passed daemon feeConfig buyers sellers native world d tolerated) (Ne.symm mine)
      (tolerated_apart daemon cfg feeConfig buyers sellers native world d healthy tolerated user
        (List.mem_append_right _ seller))

end Turns

def Daemon.roundVisits (user : Pubkey) (round : Round Pubkey) : List Runoff.Visit :=
  daemon.visits user round.now (daemon.best round.dels).values

section Rounds

theorem visits_flatMap (now : Int64) (queue : List (RecurringDelegation Pubkey)) :
    queue.flatMap (fun d => daemon.visits user now [d]) = daemon.visits user now queue := by
  induction queue with
  | nil => rfl
  | cons d rest ih => rw [List.flatMap_cons, ih, Daemon.visits, Daemon.visits, Daemon.visits, ← List.map_append,
      ← List.filter_append, List.singleton_append]

theorem collect_visits (world : World Pubkey) (rounds : List (Round Pubkey)) :
    collect daemon.round (daemon.roundOutput feeConfig fun now _ d => daemon.visits user now [d]) world rounds =
      rounds.flatMap (daemon.roundVisits user) := by
  have visited : daemon.roundOutput feeConfig (fun now _ d => daemon.visits user now [d]) =
      fun _ => daemon.roundVisits user := by
    funext world round
    rw [Daemon.roundOutput, collect_flatMap, visits_flatMap, Daemon.roundVisits]
  rw [visited, collect_flatMap]

theorem visits_addUp (seller : user ∈ sellers) (unbuying : user ∉ buyers) (unpaid : feeConfig.destination ≠ user) :
    daemon.AddsUp cfg feeConfig buyers sellers (daemon.Tolerated feeConfig buyers sellers)
      (fun now _ d => daemon.visits user now [d]) (daemon.PaysOut feeConfig horizon period user) where
  later := fun _ _ _ holds => ⟨⟨holds.plan, holds.holding⟩, rfl⟩
  append := fun _ _ _ _ _ first next => paysOut_append daemon feeConfig horizon period user _ _ _ _ _ first next
  turn := fun native world d healthy tolerated => turn_paysOut daemon cfg feeConfig buyers sellers horizon period user
    world d healthy seller unpaid native tolerated unbuying

end Rounds

def SellPlan.draws (plan : SellPlan Pubkey) (holding : Nat) (visits : List Runoff.Visit) : List Nat :=
  Runoff.draws plan.endTs.toInt plan.periodSecs.toInt ⟨holding, plan.nextDueTs.toInt⟩ visits

def SellPlan.lastDate (plan : SellPlan Pubkey) : Int :=
  Runoff.lastDate plan.endTs.toInt plan.periodSecs.toInt plan.nextDueTs.toInt

/-- What these visits to the plan of `user` left of the holding, and what they paid for it. -/
structure Daemon.PaidOut (plan : SellPlan Pubkey) (world : World Pubkey) (visits : List Runoff.Visit)
    (world' : World Pubkey) : Prop where
  drawn : world'.ledger.balance (wallet user daemon.target) +
    (plan.draws (world.ledger.balance (wallet user daemon.target)) visits).sum =
      world.ledger.balance (wallet user daemon.target)
  received : world'.ledger.balance (wallet user daemon.usdc) = world.ledger.balance (wallet user daemon.usdc) +
    ((plan.draws (world.ledger.balance (wallet user daemon.target)) visits).map feeConfig.netOf).sum
  emptied :
    (∀ visit ∈ visits, plan.lastDate ≤ visit.now → world.ledger.balance (wallet user daemon.target) ≤ visit.allowance) →
    (∃ visit ∈ visits, plan.lastDate ≤ visit.now) →
    world'.ledger.balance (wallet user daemon.target) = 0 ∧
      world.ledger.balance (wallet user daemon.target) * (10000 - feeConfig.feeBps.toNat) ≤
        10000 * (world'.ledger.balance (wallet user daemon.usdc) - world.ledger.balance (wallet user daemon.usdc))

/-- Whoever else the daemon serves, and however irregular its rounds are, a seller's holding is paid out by the plan, and
all of it where a round comes on the last date or later and those from then on may take the whole. -/
theorem payout (world : World Pubkey) (rounds : List (Round Pubkey))
    (healthy : daemon.Healthy cfg feeConfig buyers sellers world)
    (tolerable : Always daemon.round (daemon.Tolerable feeConfig buyers sellers) world rounds) (seller : user ∈ sellers)
    (unbuying : user ∉ buyers) (unpaid : feeConfig.destination ≠ user) (plan : SellPlan Pubkey)
    (loaded : world.sellPlans (sellPlanPda user) = some plan) (running : plan.nextDueTs.toInt ≤ plan.endTs.toInt) :
    daemon.PaidOut feeConfig user plan world (rounds.flatMap (daemon.roundVisits user))
      (rounds.foldl daemon.round world) := by
  have formed := (reachable_wellFormed world healthy.serves.reachable).sellPlans _ _ loaded
  have positive := wellFormed_positive plan formed
  let start : Runoff.State := ⟨world.ledger.balance (wallet user daemon.target), plan.nextDueTs.toInt⟩
  have pays := rounds_addUp daemon cfg feeConfig buyers sellers _ world rounds healthy _ _
    (tolerated_keeps daemon cfg feeConfig buyers sellers)
    (visits_addUp daemon cfg feeConfig buyers sellers plan.endTs plan.periodSecs user seller unbuying unpaid)
    (always_mono _ _ _ (tolerable_meets daemon feeConfig buyers sellers) world rounds tolerable)
  rw [collect_visits] at pays
  obtain ⟨last, received⟩ := pays start ⟨⟨plan, loaded, rfl, rfl, rfl⟩, rfl⟩
  have drawn := Runoff.run_conserved plan.endTs.toInt plan.periodSecs.toInt start
    (rounds.flatMap (daemon.roundVisits user))
  rw [← last.holding] at drawn
  refine ⟨drawn, received, ?_⟩
  intro ample visited
  have first := Runoff.lastDate_ge plan.endTs.toInt plan.periodSecs.toInt plan.nextDueTs.toInt positive 0
    (by rwa [Int.zero_mul, Int.add_zero])
  rw [Int.zero_mul, Int.add_zero] at first
  have spent := Runoff.run_spent plan.endTs.toInt plan.periodSecs.toInt plan.nextDueTs.toInt positive start
    (rounds.flatMap (daemon.roundVisits user)) start.holding
    ⟨⟨0, by rw [Int.zero_mul, Int.add_zero]⟩, .inl first⟩ le_rfl ample (.inr visited)
  rw [← last.holding] at spent
  have rate := netOf_rate feeConfig (Runoff.draws plan.endTs.toInt plan.periodSecs.toInt start
    (rounds.flatMap (daemon.roundVisits user)))
  rw [spent, Nat.zero_add] at drawn
  rw [drawn] at rate
  refine ⟨spent, rate.trans_eq ?_⟩
  rw [received, Nat.add_sub_cancel_left]

end Runs

section Sample

open Served

-- Visits at the start, in the middle and at the end of the plan. The last one draws what is left.
theorem payout_saver :
    let last := [visitAt 0, visitAt 300, visitAt 600].foldl daemon.round saver
    daemon.PaidOut terms.feeConfig Terms.user terms.plan saver [⟨0, 25000⟩, ⟨300, 25000⟩, ⟨600, 25000⟩] last ∧
      last.ledger.balance (wallet Terms.user Terms.targetMint) = 0 := by
  have tolerable (world : World Address) (now : Int64)
      (ready : daemon.Ready terms.feeConfig [] [Terms.user] world (visitAt now)) :
      daemon.Tolerable terms.feeConfig [] [Terms.user] world (visitAt now) :=
    ready_tolerable daemon terms.feeConfig [] [Terms.user] world _ ready fun d _ => native_honest d.toDelegation
  obtain ⟨first, second, third, -⟩ := saver_readies
  have paid := payout daemon terms.config terms.feeConfig [] [Terms.user] Terms.user saver
    [visitAt 0, visitAt 300, visitAt 600] saver_healthy
    ⟨tolerable _ _ first, tolerable _ _ second, tolerable _ _ third, trivial⟩
    (List.mem_singleton_self _) List.not_mem_nil (by decide) terms.plan (world_plan _ _ _ _) (by decide)
  exact ⟨paid, (paid.emptied (by decide +kernel) ⟨⟨600, 25000⟩, by decide, by decide +kernel⟩).1⟩

end Sample

end RecurringBuy
