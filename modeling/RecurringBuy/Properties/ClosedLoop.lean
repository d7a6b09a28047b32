import RecurringBuy.Keeper.Footprint
import RecurringBuy.Properties.Interleaving

set_option autoImplicit false

namespace RecurringBuy

open Checked SplToken ProgramAddress Simulation

section Loop

variable {Pubkey : Type} [DecidableEq Pubkey] [ProgramAddress Pubkey] (daemon : Daemon Pubkey)

def Daemon.Accepted (rail : Rail Pubkey) (world : World Pubkey) : Transaction Pubkey → Prop
  | .buy del crank => ∃ result, daemon.submitBuy crank rail del world = some result
  | .sell del crank => ∃ result, daemon.submitSell crank rail del world = some result

-- The daemon has `d` from one of its users.
def Daemon.Knows (buyers sellers : List Pubkey) (d : RecurringDelegation Pubkey) : Prop :=
  (d.mint = daemon.usdc ∧ d.delegator ∈ buyers) ∨
    (d.mint ≠ daemon.usdc ∧ d.mint = daemon.target ∧ d.delegator ∈ sellers)

theorem pulls_small (world : World Pubkey) (d : RecurringDelegation Pubkey) : daemon.pulls world d < 2 ^ 64 := by
  have small := allowance_small d.toDelegation world.clock
  unfold Daemon.pulls
  split
  next => exact small
  next =>
    split
    next =>
      split
      next => exact (Nat.min_le_left _ _).trans_lt small
      next => decide
    next => decide

variable (cfg : Config Pubkey) (feeConfig : FeeConfig Pubkey) (buyers sellers : List Pubkey)
  (native : NativeProgram Pubkey)

section Kept

variable (world world' : World Pubkey) (d : RecurringDelegation Pubkey)

theorem books_transient (capped : feeConfig.feeBps.toNat ≤ 100) (user mint : Pubkey)
    (posting : Posting world.ledger (daemon.books feeConfig world d) world'.ledger)
    (stranger : d.delegator ≠ buyAuthority user) (feeOwner : feeConfig.destination ≠ buyAuthority user)
    (usdcPool : daemon.poolUsdc ≠ transient user mint) (targetPool : daemon.poolTarget ≠ transient user mint) :
    world'.ledger.balance (transient user mint) = world.ledger.balance (transient user mint) := by
  by_cases own : transient d.delegator d.mint = transient user mint
  next =>
    obtain ⟨poolIn, poolOut⟩ := pools_ne daemon d _ usdcPool targetPool
    have balance := books_balance daemon feeConfig world d world'.ledger posting (transient user mint)
    have feeApart : wallet feeConfig.destination d.mint ≠ transient d.delegator d.mint := by
      rw [own]
      exact fun same => feeOwner (AssociatedAddress.associated_inj _ _ _ _ same).1
    have through := bookings_through d.delegator d.mint (daemon.mintOut d) feeConfig.destination (daemon.poolIn d)
      (daemon.poolOut d) (daemon.pulls world d) (feeConfig.feeOf (daemon.pulls world d))
      (feeConfig.netOf (daemon.pulls world d)) feeApart (own ▸ poolIn) (own ▸ poolOut)
    have split := feeOf_netOf feeConfig capped (daemon.pulls world d)
    rw [← own] at balance ⊢
    omega
  next =>
    exact posting_outside _ _ _ _ posting (books_within daemon d feeConfig world) _
      (touches_outside daemon feeConfig.destination d (buyAuthority user) mint stranger.symm own feeOwner usdcPool targetPool)

omit [DecidableEq Pubkey] in
theorem knows_user (known : daemon.Knows buyers sellers d) : d.delegator ∈ buyers ++ sellers := by
  rcases known with ⟨-, buyer⟩ | ⟨-, -, seller⟩
  next => exact List.mem_append_left _ buyer
  next => exact List.mem_append_right _ seller

theorem healthy_kept (healthy : daemon.Healthy cfg feeConfig buyers sellers world) (payments : List (Payment Pubkey))
    (posting : Posting world.ledger payments world'.ledger) (reachable : world'.Reachable)
    (config : world'.config = world.config) (fees : world'.feeConfig = world.feeConfig)
    (clock : world'.clock = world.clock)
    (dated : ∀ user ∈ sellers, ∀ plan, world'.sellPlans (sellPlanPda user) = some plan → plan.Dated)
    (noUsdc : ∀ user ∈ buyers, daemon.poolUsdc ≠ transient user daemon.usdc →
      daemon.poolTarget ≠ transient user daemon.usdc →
      feeConfig.destination ≠ buyAuthority user →
      world'.ledger.balance (transient user daemon.usdc) = world.ledger.balance (transient user daemon.usdc))
    (noTarget : ∀ user ∈ sellers, daemon.poolUsdc ≠ transient user daemon.target →
      daemon.poolTarget ≠ transient user daemon.target → feeConfig.destination ≠ buyAuthority user →
      world'.ledger.balance (transient user daemon.target) = world.ledger.balance (transient user daemon.target)) :
    daemon.Healthy cfg feeConfig buyers sellers world' := by
  constructor
  case serves => exact serves_kept daemon cfg feeConfig world world' healthy.serves reachable config fees
  case buys =>
    exact fun buyer member => fundable_kept daemon _ _ _ _ _ _ _ _ _ (healthy.buys buyer member) posting
  case sells =>
    exact fun seller member => fundable_kept daemon _ _ _ _ _ _ _ _ _ (healthy.sells seller member) posting
  case noUsdc =>
    intro buyer member
    have fundable := healthy.buys buyer member
    obtain ⟨usdcPool, targetPool⟩ := fundable_pools daemon _ _ _ _ _ _ _ fundable
    rw [noUsdc buyer member usdcPool targetPool (fundable_feeOwner daemon _ _ _ _ _ _ _ fundable),
      healthy.noUsdc buyer member]
  case noTarget =>
    intro seller member
    have fundable := healthy.sells seller member
    obtain ⟨targetPool, usdcPool⟩ := fundable_pools daemon _ _ _ _ _ _ _ fundable
    rw [noTarget seller member usdcPool targetPool (fundable_feeOwner daemon _ _ _ _ _ _ _ fundable),
      healthy.noTarget seller member]
  case strangers => exact healthy.strangers
  case dated => exact dated
  case clock =>
    rw [clock]
    exact healthy.clock

theorem healthy_booked (healthy : daemon.Healthy cfg feeConfig buyers sellers world)
    (known : daemon.Knows buyers sellers d)
    (posting : Posting world.ledger (daemon.books feeConfig world d) world'.ledger) (reachable : world'.Reachable)
    (config : world'.config = world.config) (fees : world'.feeConfig = world.feeConfig)
    (clock : world'.clock = world.clock)
    (dated : ∀ user ∈ sellers, ∀ plan, world'.sellPlans (sellPlanPda user) = some plan → plan.Dated) :
    daemon.Healthy cfg feeConfig buyers sellers world' := by
  have capped := ((reachable_wellFormed world healthy.serves.reachable).feeConfig feeConfig
    healthy.serves.feeConfigLoaded).capped
  have user := knows_user daemon buyers sellers d known
  refine healthy_kept daemon cfg feeConfig buyers sellers world world' healthy _ posting reachable config fees clock dated
    ?_ ?_
  next =>
    exact fun buyer member usdcPool targetPool feeOwner => books_transient daemon feeConfig world world' d capped buyer _
      posting (healthy.strangers _ user buyer (List.mem_append_left _ member)) feeOwner usdcPool targetPool
  next =>
    exact fun seller member usdcPool targetPool feeOwner => books_transient daemon feeConfig world world' d capped seller _
      posting (healthy.strangers _ user seller (List.mem_append_right _ member)) feeOwner usdcPool targetPool

end Kept

def Daemon.planAfter (world : World Pubkey) (d : RecurringDelegation Pubkey) (user : Pubkey) : Option (SellPlan Pubkey) :=
  if d.mint ≠ daemon.usdc ∧ d.delegator = user ∧ 0 < daemon.pulls world d then
    (world.sellPlans (sellPlanPda user)).bind fun plan => (plan.advance world.clock).toOption
  else world.sellPlans (sellPlanPda user)

structure Turned (world : World Pubkey) (d : RecurringDelegation Pubkey) (world' : World Pubkey) : Prop where
  healthy : daemon.Healthy cfg feeConfig buyers sellers world'
  posting : Posting world.ledger (daemon.books feeConfig world d) world'.ledger
  clock : world'.clock = world.clock
  plans : ∀ user, world'.sellPlans (sellPlanPda user) = daemon.planAfter world d user

section Outcomes

variable (world : World Pubkey) (d : RecurringDelegation Pubkey)

theorem sent_turned (transaction : Transaction Pubkey)
    (crank : daemon.crank (some feeConfig) (.ofBigInt world.clock.toInt) world d = some transaction)
    (accepted : daemon.Accepted native.rail world transaction)
    (turned : Turned daemon cfg feeConfig buyers sellers world d (daemon.land native.rail world transaction)) :
    (∀ transaction, daemon.crank (some feeConfig) (.ofBigInt world.clock.toInt) world d = some transaction →
      daemon.Accepted native.rail world transaction) ∧
    Turned daemon cfg feeConfig buyers sellers world d
      (daemon.turn native.rail (some feeConfig) (.ofBigInt world.clock.toInt) world d) := by
  constructor
  next =>
    intro transaction' made
    obtain rfl := Option.some.inj (crank.symm.trans made)
    exact accepted
  next =>
    simp only [Daemon.turn, crank]
    exact turned

theorem unsent_turned (crank : daemon.crank (some feeConfig) (.ofBigInt world.clock.toInt) world d = none)
    (idle : Turned daemon cfg feeConfig buyers sellers world d world) :
    (∀ transaction, daemon.crank (some feeConfig) (.ofBigInt world.clock.toInt) world d = some transaction →
      daemon.Accepted native.rail world transaction) ∧
    Turned daemon cfg feeConfig buyers sellers world d
      (daemon.turn native.rail (some feeConfig) (.ofBigInt world.clock.toInt) world d) := by
  constructor
  next =>
    intro transaction made
    rw [crank] at made
    cases made
  next =>
    simp only [Daemon.turn, crank]
    exact idle

end Outcomes

section Turns

variable (world : World Pubkey) (d : RecurringDelegation Pubkey)
  (healthy : daemon.Healthy cfg feeConfig buyers sellers world) (known : daemon.Knows buyers sellers d)

include healthy

theorem idle_turned (idle : daemon.pulls world d = 0) : Turned daemon cfg feeConfig buyers sellers world d world where
  healthy := healthy
  posting := by
    simp only [Daemon.books, if_pos idle]
    exact .nil _
  clock := rfl
  plans := by
    intro user
    rw [Daemon.planAfter, if_neg]
    rw [idle]
    exact fun active => absurd active.2.2 (Nat.lt_irrefl 0)

include known

theorem buy_turned (usdc : d.mint = daemon.usdc) (positive : 0 < daemon.pulls world d)
    (backed : daemon.Backed feeConfig native world d) :
    ∃ world' event, daemon.submitBuy (daemon.composeBuy world d.delegator (daemon.pulls world d)) native.rail
        d.toDelegation world = some (world', event) ∧
      Turned daemon cfg feeConfig buyers sellers world d world' := by
  have buyer : d.delegator ∈ buyers := by
    rcases known with ⟨-, buyer⟩ | ⟨other, -⟩
    next => exact buyer
    next => exact absurd usdc other
  have small := pulls_small daemon world d
  have fundable := healthy.buys d.delegator buyer
  have empty := healthy.noUsdc d.delegator buyer
  have pays := backed.pays positive
  have liquid := backed.liquid
  simp only [Daemon.poolOut, if_pos usdc] at liquid
  rw [usdc] at pays
  obtain ⟨⟨world', event⟩, submitted⟩ := composeBuy_lands daemon world cfg feeConfig healthy.serves native d.toDelegation
    (daemon.pulls world d) positive small fundable pays empty liquid
  obtain ⟨netIn, floor, agreement, amountIn, unchanged, posting⟩ := composeBuy_posting daemon world cfg feeConfig
    healthy.serves native d.toDelegation (daemon.pulls world d) positive small fundable pays world' event submitted
  obtain ⟨fee, net⟩ := agreement_amounts daemon cfg feeConfig _ _ _ _ agreement
  rw [empty, Nat.zero_add] at amountIn
  rw [amountIn] at fee net
  rw [fee, net] at posting
  have books : Posting world.ledger (daemon.books feeConfig world d) world'.ledger := by
    simp only [Daemon.books, if_neg positive.ne', Daemon.mintOut, Daemon.poolIn, Daemon.poolOut, usdc]
    exact posting
  refine ⟨world', event, submitted, ?_⟩
  constructor
  case healthy =>
    refine healthy_booked daemon cfg feeConfig buyers sellers world world' d healthy known books
      (submitBuy_reachable native d.toDelegation daemon _ world world' event healthy.serves.reachable submitted) ?_ ?_ ?_ ?_
    next => rw [unchanged]
    next => rw [unchanged]
    next => rw [unchanged]
    next =>
      rw [unchanged]
      exact healthy.dated
  case posting => exact books
  case clock => rw [unchanged]
  case plans =>
    intro user
    rw [unchanged, Daemon.planAfter, if_neg fun active => active.1 usdc]

theorem sell_turned (other : d.mint ≠ daemon.usdc) (positive : 0 < daemon.pulls world d)
    (backed : daemon.Backed feeConfig native world d) :
    ∃ world' event, daemon.submitSell (daemon.composeSell world d.delegator (daemon.pulls world d)) native.rail
        d.toDelegation world = some (world', event) ∧
      Turned daemon cfg feeConfig buyers sellers world d world' := by
  obtain ⟨target, seller⟩ : d.mint = daemon.target ∧ d.delegator ∈ sellers := by
    rcases known with ⟨usdc, -⟩ | ⟨-, both⟩
    next => exact absurd usdc other
    next => exact both
  have small := pulls_small daemon world d
  have fundable := healthy.sells d.delegator seller
  have empty := healthy.noTarget d.delegator seller
  have pays := backed.pays positive
  have liquid := backed.liquid
  simp only [Daemon.poolOut, if_neg other] at liquid
  rw [target] at pays
  -- Something is pulled, so there is a plan, and it is due.
  have pulls : ∃ plan, world.sellPlans (sellPlanPda d.delegator) = some plan ∧ plan.Due world.clock ∧
      daemon.pulls world d = min (d.allowance world.clock)
        (world.ledger.balance (wallet d.delegator daemon.target) / plan.periodsLeft world.clock) := by
    have value : daemon.pulls world d = daemon.pulls world d := rfl
    conv at value => rhs; rw [Daemon.pulls, if_neg other]
    split at value
    next plan loaded =>
      by_cases due : plan.Due world.clock
      next => exact ⟨plan, loaded, due, by rw [value, if_pos due]⟩
      next =>
        rw [if_neg due] at value
        omega
    next => omega
  obtain ⟨plan, loaded, due, share⟩ := pulls
  have dated := healthy.dated d.delegator seller plan loaded
  obtain ⟨⟨world', event⟩, submitted⟩ := composeSell_lands daemon world cfg feeConfig healthy.serves native d.toDelegation
    (daemon.pulls world d) positive small fundable pays empty liquid plan loaded due dated healthy.clock share
  obtain ⟨netIn, floor, plan', advanced, agreement, amountIn, loaded', jumped, changed, posting⟩ :=
    composeSell_posting daemon world cfg feeConfig healthy.serves native d.toDelegation (daemon.pulls world d) small
      fundable (fun _ => pays) (by omega) world' event submitted
  obtain rfl : plan = plan' := Option.some.inj (loaded.symm.trans loaded')
  obtain ⟨fee, net⟩ := agreement_amounts daemon cfg feeConfig _ _ _ _ agreement
  rw [empty, Nat.zero_add] at amountIn
  rw [amountIn] at fee net
  rw [fee, net] at posting
  have books : Posting world.ledger (daemon.books feeConfig world d) world'.ledger := by
    simp only [Daemon.books, if_neg positive.ne', Daemon.mintOut, Daemon.poolIn, Daemon.poolOut, if_neg other]
    rw [target]
    exact posting
  have formed := (reachable_wellFormed world healthy.serves.reachable).sellPlans _ _ loaded
  have moved (user : Pubkey) : world'.sellPlans (sellPlanPda user) =
      if user = d.delegator then some advanced else world.sellPlans (sellPlanPda user) := by
    rw [changed]
    by_cases own : user = d.delegator
    next =>
      rw [if_pos own, own]
      exact setSellPlan_same _ _ _
    next =>
      rw [if_neg own]
      exact setSellPlan_other _ _ _ _ fun same => own (sellPlanPda_inj _ _ same)
  refine ⟨world', event, submitted, ?_⟩
  constructor
  case healthy =>
    refine healthy_booked daemon cfg feeConfig buyers sellers world world' d healthy known books
      (submitSell_reachable native d.toDelegation daemon _ world world' event healthy.serves.reachable submitted) ?_ ?_ ?_ ?_
    next => rw [changed]; rfl
    next => rw [changed]; rfl
    next => rw [changed]; rfl
    next =>
      intro user member plan' present
      rw [moved] at present
      split at present
      next =>
        obtain rfl := Option.some.inj present
        exact dated_advance plan advanced formed world.clock dated healthy.clock due.2 jumped
      next => exact healthy.dated user member plan' present
  case posting => exact books
  case clock => rw [changed]; rfl
  case plans =>
    intro user
    rw [moved, Daemon.planAfter]
    by_cases own : user = d.delegator
    next =>
      subst own
      rw [if_pos rfl, if_pos ⟨other, rfl, positive⟩, loaded, Option.bind_some, jumped]
      rfl
    next => rw [if_neg own, if_neg fun active => own active.2.1.symm]

theorem turn_turned (backed : daemon.Backed feeConfig native world d) :
    (∀ transaction, daemon.crank (some feeConfig) (.ofBigInt world.clock.toInt) world d = some transaction →
      daemon.Accepted native.rail world transaction) ∧
    Turned daemon cfg feeConfig buyers sellers world d
      (daemon.turn native.rail (some feeConfig) (.ofBigInt world.clock.toInt) world d) := by
  have view : ({ world with feeConfig := some feeConfig } : World Pubkey) = world := by
    rw [← healthy.serves.feeConfigLoaded]
  by_cases usdc : d.mint = daemon.usdc
  next =>
    have sent := crankBuy_pulls daemon world d healthy.clock usdc
    by_cases positive : 0 < daemon.pulls world d
    next =>
      obtain ⟨world', event, submitted, turned⟩ := buy_turned daemon cfg feeConfig buyers sellers native world d healthy
        known usdc positive backed
      rw [if_pos positive] at sent
      have crank : daemon.crank (some feeConfig) (.ofBigInt world.clock.toInt) world d =
          some (.buy d.toDelegation (daemon.composeBuy world d.delegator (daemon.pulls world d))) := by
        simp only [Daemon.crank, if_pos usdc, view, sent, Option.map_some]
      apply sent_turned daemon cfg feeConfig buyers sellers native world d _ crank ⟨_, submitted⟩
      simp only [Daemon.land, submitted]
      exact turned
    next =>
      have idle := idle_turned daemon cfg feeConfig buyers sellers world d healthy (Nat.eq_zero_of_not_pos positive)
      rw [if_neg positive] at sent
      have crank : daemon.crank (some feeConfig) (.ofBigInt world.clock.toInt) world d = none := by
        simp only [Daemon.crank, if_pos usdc, view, sent, Option.map_none]
      exact unsent_turned daemon cfg feeConfig buyers sellers native world d crank idle
  next =>
    have seller : d.delegator ∈ sellers := by
      rcases known with ⟨buys, -⟩ | ⟨-, -, seller⟩
      next => exact absurd buys usdc
      next => exact seller
    have sent := crankSell_pulls daemon world d healthy.clock usdc
      (fun plan present => ⟨(reachable_wellFormed world healthy.serves.reachable).sellPlans _ _ present,
        healthy.dated d.delegator seller plan present⟩) (healthy.noTarget d.delegator seller)
    by_cases positive : 0 < daemon.pulls world d
    next =>
      obtain ⟨world', event, submitted, turned⟩ := sell_turned daemon cfg feeConfig buyers sellers native world d healthy
        known usdc positive backed
      rw [if_pos positive] at sent
      have crank : daemon.crank (some feeConfig) (.ofBigInt world.clock.toInt) world d =
          some (.sell d.toDelegation (daemon.composeSell world d.delegator (daemon.pulls world d))) := by
        simp only [Daemon.crank, if_neg usdc, view, sent, Option.map_some]
      apply sent_turned daemon cfg feeConfig buyers sellers native world d _ crank ⟨_, submitted⟩
      simp only [Daemon.land, submitted]
      exact turned
    next =>
      have idle := idle_turned daemon cfg feeConfig buyers sellers world d healthy (Nat.eq_zero_of_not_pos positive)
      rw [if_neg positive] at sent
      have crank : daemon.crank (some feeConfig) (.ofBigInt world.clock.toInt) world d = none := by
        simp only [Daemon.crank, if_neg usdc, view, sent, Option.map_none]
      exact unsent_turned daemon cfg feeConfig buyers sellers native world d crank idle

end Turns

section Ticks

-- A turn of the tick that read the clock `now`.
def Daemon.turnAt (now : Int64) (world : World Pubkey) (d : RecurringDelegation Pubkey) : World Pubkey :=
  daemon.turn native.rail (some feeConfig) (.ofBigInt now.toInt) world d

def Daemon.Serviced (now : Int64) (world : World Pubkey) (d : RecurringDelegation Pubkey) : Prop :=
  ∀ transaction, daemon.crank (some feeConfig) (.ofBigInt now.toInt) world d = some transaction →
    daemon.Accepted native.rail world transaction

def Daemon.InOrder (world : World Pubkey) (d : RecurringDelegation Pubkey) : Prop :=
  daemon.Knows buyers sellers d ∧ daemon.Backed feeConfig native world d

/-- Someone else's delegation, in whatever state their accounts are. -/
structure Daemon.Stranger (d : RecurringDelegation Pubkey) : Prop where
  unserved : d.delegator ∉ buyers ++ sellers
  apart : ∀ user ∈ buyers ++ sellers, user ≠ buyAuthority d.delegator ∧ d.delegator ≠ buyAuthority user

structure Daemon.Tolerated (world : World Pubkey) (d : RecurringDelegation Pubkey) : Prop where
  relevant : daemon.relevant d = true
  honest : native.Honest d.toDelegation
  user : daemon.InOrder feeConfig buyers sellers native world d ∨ Daemon.Stranger buyers sellers d

section Turns

variable (world : World Pubkey) (d : RecurringDelegation Pubkey)
  (healthy : daemon.Healthy cfg feeConfig buyers sellers world)

include healthy

theorem inOrder_turned (ready : daemon.InOrder feeConfig buyers sellers native world d) :
    daemon.Serviced feeConfig native world.clock world d ∧
      Turned daemon cfg feeConfig buyers sellers world d (daemon.turnAt feeConfig native world.clock world d) :=
  turn_turned daemon cfg feeConfig buyers sellers native world d healthy ready.1 ready.2

omit healthy in
theorem tolerated_passed (tolerated : daemon.Tolerated feeConfig buyers sellers native world d) :
    daemon.Passed feeConfig.destination d world (daemon.turnAt feeConfig native world.clock world d) :=
  turn_passed daemon native feeConfig world d tolerated.honest (by simpa [Daemon.relevant] using tolerated.relevant) _

theorem tolerated_apart (tolerated : daemon.Tolerated feeConfig buyers sellers native world d) (user : Pubkey)
    (member : user ∈ buyers ++ sellers) : user ≠ buyAuthority d.delegator := by
  rcases tolerated.user with ⟨known, -⟩ | stranger
  next => exact healthy.strangers user member d.delegator (knows_user daemon buyers sellers d known)
  next => exact (stranger.apart user member).1

theorem stranger_healthy (stranger : Daemon.Stranger buyers sellers d) (world' : World Pubkey)
    (passed : daemon.Passed feeConfig.destination d world world') (reachable : world'.Reachable) :
    daemon.Healthy cfg feeConfig buyers sellers world' := by
  obtain ⟨payments, posting, within⟩ := passed.posting
  have different (user : Pubkey) (member : user ∈ buyers ++ sellers) : user ≠ d.delegator :=
    fun same => stranger.unserved (same ▸ member)
  have untouched (user mint : Pubkey) (member : user ∈ buyers ++ sellers) (usdcPool : daemon.poolUsdc ≠ transient user mint)
      (targetPool : daemon.poolTarget ≠ transient user mint) (feeOwner : feeConfig.destination ≠ buyAuthority user) :
      world'.ledger.balance (transient user mint) = world.ledger.balance (transient user mint) := by
    refine posting_outside _ _ _ payments posting within _
      (touches_outside daemon feeConfig.destination d (buyAuthority user) mint (stranger.apart user member).2.symm ?_
        feeOwner usdcPool targetPool)
    exact fun same => different user member
      (buyAuthority_inj _ _ (AssociatedAddress.associated_inj _ _ _ _ same).1).symm
  refine healthy_kept daemon cfg feeConfig buyers sellers world world' healthy payments posting reachable passed.config
    passed.fees passed.clock ?_ ?_ ?_
  next =>
    intro user member plan present
    rw [passed.plans user (different user (List.mem_append_right _ member))] at present
    exact healthy.dated user member plan present
  next =>
    exact fun user member usdcPool targetPool feeOwner =>
      untouched user daemon.usdc (List.mem_append_left _ member) usdcPool targetPool feeOwner
  next =>
    exact fun user member usdcPool targetPool feeOwner =>
      untouched user daemon.target (List.mem_append_right _ member) usdcPool targetPool feeOwner

end Turns

variable (admits : NativeProgram Pubkey → World Pubkey → RecurringDelegation Pubkey → Prop)

def Daemon.Keeps : Prop :=
  ∀ native world d, daemon.Healthy cfg feeConfig buyers sellers world → admits native world d →
    daemon.Healthy cfg feeConfig buyers sellers (daemon.turnAt feeConfig native world.clock world d) ∧
      (daemon.turnAt feeConfig native world.clock world d).clock = world.clock

theorem inOrder_keeps : daemon.Keeps cfg feeConfig buyers sellers (daemon.InOrder feeConfig buyers sellers) := by
  intro native world d healthy ready
  have turned := (inOrder_turned daemon cfg feeConfig buyers sellers native world d healthy ready).2
  exact ⟨turned.healthy, turned.clock⟩

theorem tolerated_keeps : daemon.Keeps cfg feeConfig buyers sellers (daemon.Tolerated feeConfig buyers sellers) := by
  intro native world d healthy tolerated
  have passed := tolerated_passed daemon feeConfig buyers sellers native world d tolerated
  refine ⟨?_, passed.clock⟩
  rcases tolerated.user with ready | stranger
  next => exact (inOrder_turned daemon cfg feeConfig buyers sellers native world d healthy ready).2.healthy
  next =>
    exact stranger_healthy daemon cfg feeConfig buyers sellers world d healthy stranger _ passed
      (turn_reachable daemon native feeConfig world d _ healthy.serves.reachable)

-- What holds across each turn that is admitted, and adds up over what the turns put out.
structure Daemon.AddsUp {Output : Type} (emit : Int64 → World Pubkey → RecurringDelegation Pubkey → List Output)
    (across : World Pubkey → List Output → World Pubkey → Prop) : Prop where
  later : ∀ world now, across world [] { world with clock := now }
  append : ∀ world middle world' first next, across world first middle → across middle next world' →
    across world (first ++ next) world'
  turn : ∀ native world d, daemon.Healthy cfg feeConfig buyers sellers world → admits native world d →
    across world (emit world.clock world d) (daemon.turnAt feeConfig native world.clock world d)

section Queue

variable (now : Int64) (queue : List (RecurringDelegation Pubkey)) (world : World Pubkey)
  (healthy : daemon.Healthy cfg feeConfig buyers sellers world) (clock : world.clock = now)

include healthy clock

theorem turns_healthy (keeps : daemon.Keeps cfg feeConfig buyers sellers admits)
    (always : Always (daemon.turnAt feeConfig native now) (admits native) world queue) :
    daemon.Healthy cfg feeConfig buyers sellers (queue.foldl (daemon.turnAt feeConfig native now) world) := by
  refine (always_invariant _ (fun world => daemon.Healthy cfg feeConfig buyers sellers world ∧ world.clock = now) _ ?_ world
    queue always ⟨healthy, clock⟩).1
  rintro world d ⟨good, rfl⟩ admitted
  exact keeps native world d good admitted

theorem turns_serviced
    (always : Always (daemon.turnAt feeConfig native now) (daemon.InOrder feeConfig buyers sellers native) world queue) :
    Always (daemon.turnAt feeConfig native now) (daemon.Serviced feeConfig native now) world queue := by
  refine always_kept _ (fun world => daemon.Healthy cfg feeConfig buyers sellers world ∧ world.clock = now) _ _ ?_ world
    queue always ⟨healthy, clock⟩
  rintro world d ⟨good, rfl⟩ ready
  exact ⟨(inOrder_turned daemon cfg feeConfig buyers sellers native world d good ready).1,
    inOrder_keeps daemon cfg feeConfig buyers sellers native world d good ready⟩

theorem turns_addUp {Output : Type} (emit : Int64 → World Pubkey → RecurringDelegation Pubkey → List Output)
    (across : World Pubkey → List Output → World Pubkey → Prop) (keeps : daemon.Keeps cfg feeConfig buyers sellers admits)
    (sum : daemon.AddsUp cfg feeConfig buyers sellers admits emit across)
    (always : Always (daemon.turnAt feeConfig native now) (admits native) world queue) :
    across world (collect (daemon.turnAt feeConfig native now) (emit now) world queue)
      (queue.foldl (daemon.turnAt feeConfig native now) world) := by
  refine collect_across _ _ _ (fun world => sum.later world world.clock) sum.append
    (fun world => daemon.Healthy cfg feeConfig buyers sellers world ∧ world.clock = now) _ ?_ world queue always
    ⟨healthy, clock⟩
  rintro world d ⟨good, rfl⟩ admitted
  exact ⟨sum.turn native world d good admitted, keeps native world d good admitted⟩

end Queue

end Ticks

/-- A tick of the daemon, with what the node and the native program answer to it. -/
structure Round (Pubkey : Type) [ProgramAddress Pubkey] where
  now : Int64
  dels : List (RecurringDelegation Pubkey)
  native : NativeProgram Pubkey

def Daemon.round (world : World Pubkey) (round : Round Pubkey) : World Pubkey :=
  daemon.tick round.native.rail round.dels { world with clock := round.now }

section Rounds

def Daemon.roundBooks (world : World Pubkey) (round : Round Pubkey) : List (Payment Pubkey) :=
  collect (daemon.turnAt feeConfig round.native round.now) (daemon.books feeConfig) { world with clock := round.now }
    (daemon.best round.dels).values

def Daemon.RoundServiced (world : World Pubkey) (round : Round Pubkey) : Prop :=
  Always (daemon.turnAt feeConfig round.native round.now) (daemon.Serviced feeConfig round.native round.now)
    { world with clock := round.now } (daemon.best round.dels).values

/-- The round finds the delegations of users in good order, and each turn of it the funds it asks for. -/
structure Daemon.Ready (world : World Pubkey) (round : Round Pubkey) : Prop where
  clock : DatedClock round.now
  known : ∀ d ∈ round.dels, daemon.relevant d = true → daemon.Knows buyers sellers d
  backed : Always (daemon.turnAt feeConfig round.native round.now) (daemon.Backed feeConfig round.native)
    { world with clock := round.now } (daemon.best round.dels).values

theorem healthy_clock (world : World Pubkey) (now : Int64)
    (healthy : daemon.Healthy cfg feeConfig buyers sellers world) (clock : DatedClock now) :
    daemon.Healthy cfg feeConfig buyers sellers { world with clock := now } :=
  { healthy with
    serves := serves_kept daemon cfg feeConfig world _ healthy.serves
      (reachable_run world [.tick now] healthy.serves.reachable) rfl rfl
    clock := clock }

theorem round_turns (world : World Pubkey) (round : Round Pubkey)
    (healthy : daemon.Healthy cfg feeConfig buyers sellers world) :
    daemon.round world round =
      (daemon.best round.dels).values.foldl (daemon.turnAt feeConfig round.native round.now)
        { world with clock := round.now } := by
  have loaded : world.feeConfig = some feeConfig := healthy.serves.feeConfigLoaded
  simp only [Daemon.round, Daemon.tick, loaded]
  rfl

def Daemon.roundOutput {Output : Type} (emit : Int64 → World Pubkey → RecurringDelegation Pubkey → List Output)
    (world : World Pubkey) (round : Round Pubkey) : List Output :=
  collect (daemon.turnAt feeConfig round.native round.now) (emit round.now) { world with clock := round.now }
    (daemon.best round.dels).values

variable (admits : NativeProgram Pubkey → World Pubkey → RecurringDelegation Pubkey → Prop)

structure Daemon.Meets (world : World Pubkey) (round : Round Pubkey) : Prop where
  clock : DatedClock round.now
  turns : Always (daemon.turnAt feeConfig round.native round.now) (admits round.native) { world with clock := round.now }
    (daemon.best round.dels).values

theorem ready_meets (world : World Pubkey) (round : Round Pubkey)
    (ready : daemon.Ready feeConfig buyers sellers world round) :
    daemon.Meets feeConfig (daemon.InOrder feeConfig buyers sellers) world round where
  clock := ready.clock
  turns := by
    refine (always_and _ _ _ _ _).mpr ⟨always_mem _ _ _ _ fun d chosen => ?_, ready.backed⟩
    exact ready.known d (daemon.best_mem _ d chosen).1 (daemon.best_mem _ d chosen).2

/-- The round finds users in good order, each turn of theirs the funds it asks for, and besides them whoever there is. -/
structure Daemon.Tolerable (world : World Pubkey) (round : Round Pubkey) : Prop where
  clock : DatedClock round.now
  honest : ∀ d ∈ round.dels, round.native.Honest d.toDelegation
  known : ∀ d ∈ round.dels, daemon.relevant d = true →
    daemon.Knows buyers sellers d ∨ Daemon.Stranger buyers sellers d
  backed : Always (daemon.turnAt feeConfig round.native round.now)
    (fun world d => daemon.Knows buyers sellers d → daemon.Backed feeConfig round.native world d)
    { world with clock := round.now } (daemon.best round.dels).values

theorem tolerable_meets (world : World Pubkey) (round : Round Pubkey)
    (tolerable : daemon.Tolerable feeConfig buyers sellers world round) :
    daemon.Meets feeConfig (daemon.Tolerated feeConfig buyers sellers) world round where
  clock := tolerable.clock
  turns := by
    let chosen (d : RecurringDelegation Pubkey) := d ∈ round.dels ∧ daemon.relevant d = true
    have members := always_mem (daemon.turnAt feeConfig round.native round.now) chosen { world with clock := round.now }
      (daemon.best round.dels).values (daemon.best_mem round.dels)
    refine always_mono _ _ _ ?_ _ _ ((always_and _ _ _ _ _).mpr ⟨members, tolerable.backed⟩)
    rintro world d ⟨⟨listed, relevant⟩, backed⟩
    refine ⟨relevant, tolerable.honest d listed, ?_⟩
    rcases tolerable.known d listed relevant with known | stranger
    next => exact .inl ⟨known, backed known⟩
    next => exact .inr stranger

theorem ready_tolerable (world : World Pubkey) (round : Round Pubkey)
    (ready : daemon.Ready feeConfig buyers sellers world round)
    (honest : ∀ d ∈ round.dels, round.native.Honest d.toDelegation) :
    daemon.Tolerable feeConfig buyers sellers world round where
  clock := ready.clock
  honest := honest
  known := fun d listed relevant => .inl (ready.known d listed relevant)
  backed := by
    refine always_mono _ _ _ ?_ _ _ ready.backed
    exact fun world d backed _ => backed

section Round

variable (world : World Pubkey) (round : Round Pubkey) (healthy : daemon.Healthy cfg feeConfig buyers sellers world)

include healthy

theorem round_healthy (keeps : daemon.Keeps cfg feeConfig buyers sellers admits)
    (meets : daemon.Meets feeConfig admits world round) :
    daemon.Healthy cfg feeConfig buyers sellers (daemon.round world round) := by
  have dated := healthy_clock daemon cfg feeConfig buyers sellers world round.now healthy meets.clock
  rw [round_turns daemon cfg feeConfig buyers sellers world round healthy]
  exact turns_healthy daemon cfg feeConfig buyers sellers round.native admits round.now _ _ dated rfl keeps meets.turns

theorem round_serviced (ready : daemon.Ready feeConfig buyers sellers world round) :
    daemon.RoundServiced feeConfig world round :=
  turns_serviced daemon cfg feeConfig buyers sellers round.native round.now _ _
    (healthy_clock daemon cfg feeConfig buyers sellers world round.now healthy ready.clock) rfl
    (ready_meets daemon feeConfig buyers sellers world round ready).turns

theorem round_addsUp {Output : Type} (emit : Int64 → World Pubkey → RecurringDelegation Pubkey → List Output)
    (across : World Pubkey → List Output → World Pubkey → Prop) (keeps : daemon.Keeps cfg feeConfig buyers sellers admits)
    (sum : daemon.AddsUp cfg feeConfig buyers sellers admits emit across)
    (meets : daemon.Meets feeConfig admits world round) :
    across world (daemon.roundOutput feeConfig emit world round) (daemon.round world round) := by
  have dated := healthy_clock daemon cfg feeConfig buyers sellers world round.now healthy meets.clock
  rw [round_turns daemon cfg feeConfig buyers sellers world round healthy]
  exact sum.append _ _ _ _ _ (sum.later world round.now)
    (turns_addUp daemon cfg feeConfig buyers sellers round.native admits round.now _ _ dated rfl emit across keeps sum
      meets.turns)

end Round

section Runs

variable (world : World Pubkey) (rounds : List (Round Pubkey))
  (healthy : daemon.Healthy cfg feeConfig buyers sellers world)

include healthy

theorem rounds_healthy (keeps : daemon.Keeps cfg feeConfig buyers sellers admits)
    (meets : Always daemon.round (daemon.Meets feeConfig admits) world rounds) :
    daemon.Healthy cfg feeConfig buyers sellers (rounds.foldl daemon.round world) :=
  always_invariant _ _ _ (fun world round good => round_healthy daemon cfg feeConfig buyers sellers admits world round good
    keeps) world rounds meets healthy

theorem rounds_addUp {Output : Type} (emit : Int64 → World Pubkey → RecurringDelegation Pubkey → List Output)
    (across : World Pubkey → List Output → World Pubkey → Prop) (keeps : daemon.Keeps cfg feeConfig buyers sellers admits)
    (sum : daemon.AddsUp cfg feeConfig buyers sellers admits emit across)
    (meets : Always daemon.round (daemon.Meets feeConfig admits) world rounds) :
    across world (collect daemon.round (daemon.roundOutput feeConfig emit) world rounds)
      (rounds.foldl daemon.round world) :=
  collect_across _ _ _ (fun world => sum.later world world.clock) sum.append _ _
    (fun world round good here =>
      ⟨round_addsUp daemon cfg feeConfig buyers sellers admits world round good emit across keeps sum here,
        round_healthy daemon cfg feeConfig buyers sellers admits world round good keeps here⟩) world rounds meets healthy

end Runs

theorem readies_meet (world : World Pubkey) (rounds : List (Round Pubkey))
    (ready : Always daemon.round (daemon.Ready feeConfig buyers sellers) world rounds) :
    Always daemon.round (daemon.Meets feeConfig (daemon.InOrder feeConfig buyers sellers)) world rounds :=
  always_mono _ _ _ (ready_meets daemon feeConfig buyers sellers) world rounds ready

theorem books_addUp : daemon.AddsUp cfg feeConfig buyers sellers (daemon.InOrder feeConfig buyers sellers)
    (fun _ => daemon.books feeConfig) (fun world payments world' => Posting world.ledger payments world'.ledger) where
  later := fun world _ => .nil world.ledger
  append := fun _ _ _ _ _ first next => posting_append _ _ _ _ _ first next
  turn := fun native world d healthy ready =>
    (inOrder_turned daemon cfg feeConfig buyers sellers native world d healthy ready).2.posting

/-- In good order the daemon never sends a transaction that fails, and the ledger is what its books say. -/
theorem closed_loop (world : World Pubkey) (rounds : List (Round Pubkey))
    (healthy : daemon.Healthy cfg feeConfig buyers sellers world)
    (ready : Always daemon.round (daemon.Ready feeConfig buyers sellers) world rounds) :
    daemon.Healthy cfg feeConfig buyers sellers (rounds.foldl daemon.round world) ∧
      Always daemon.round (daemon.RoundServiced feeConfig) world rounds ∧
      Posting world.ledger (collect daemon.round (daemon.roundBooks feeConfig) world rounds)
        (rounds.foldl daemon.round world).ledger := by
  have meets := readies_meet daemon feeConfig buyers sellers world rounds ready
  have keeps := inOrder_keeps daemon cfg feeConfig buyers sellers
  refine ⟨?_, ?_, ?_⟩
  next => exact rounds_healthy daemon cfg feeConfig buyers sellers _ world rounds healthy keeps meets
  next =>
    apply always_kept daemon.round (daemon.Healthy cfg feeConfig buyers sellers) _ _ _ world rounds ready healthy
    exact fun world round good here => ⟨round_serviced daemon cfg feeConfig buyers sellers world round good here,
      round_healthy daemon cfg feeConfig buyers sellers _ world round good keeps
        (ready_meets daemon feeConfig buyers sellers world round here)⟩
  next =>
    exact rounds_addUp daemon cfg feeConfig buyers sellers _ world rounds healthy _ _ keeps
      (books_addUp daemon cfg feeConfig buyers sellers) meets

end Rounds

end Loop

section Sample

open Served

def saver : World Address := Served.world .sell 1000 0 5000000

def visitAt (now : Int64) : Round Address := { now := now, dels := [pension], native := native }

theorem native_rail : native.rail = delegateRail subscriptionAuthority := by
  funext del ledger source destination amount
  by_cases within : amount ≤ del.amountPerPeriod
  next =>
    simp only [NativeProgram.rail, native, delegateRail, guard, within, if_true, Option.bind_eq_bind, Option.bind_some,
      Option.pure_def, SplToken.run, SplToken.process]
    cases processTransfer (fun key => decide (key = subscriptionAuthority)) ledger source destination
      subscriptionAuthority amount <;> rfl
  next => simp [NativeProgram.rail, native, delegateRail, guard, within]

theorem native_honest (del : Delegation Address) : native.Honest del := by
  intro ledger source destination amount paid payment
  simp only [NativeProgram.rail, native, Option.bind_eq_bind, Option.bind_eq_some_iff] at payment
  obtain ⟨issued, asked, ran⟩ := payment
  split at asked
  next =>
    obtain rfl := Option.some.inj asked
    have transferred := toOption_some _ _ ran
    simp only [SplToken.run, bind_ok] at transferred
    obtain ⟨ledger', accepted, same⟩ := transferred
    cases same
    exact processTransfer_moves _ _ _ _ _ _ _ accepted
  next => cases asked

theorem saver_healthy : daemon.Healthy terms.config terms.feeConfig [] [Terms.user] saver where
  serves := Served.serves .sell 1000 0 5000000
  buys := fun _ member => absurd member List.not_mem_nil
  sells := by
    intro user member
    obtain rfl := List.mem_singleton.mp member
    exact Served.fundable .sell 1000 0 5000000 (by decide)
  noUsdc := fun _ member => absurd member List.not_mem_nil
  noTarget := by
    intro user member
    obtain rfl := List.mem_singleton.mp member
    rw [saver, world_ledger]
    rfl
  strangers := by decide
  dated := by
    intro user member plan present
    obtain rfl := List.mem_singleton.mp member
    rw [saver, world_plan] at present
    obtain rfl := Option.some.inj present
    constructor <;> decide
  clock := by
    rw [saver, world_clock]
    constructor <;> decide

def delegated (owner mint : Address) (amount : UInt64) : TokenAccount Address :=
  { mint := mint, owner := owner, amount := amount, delegate := some subscriptionAuthority, delegatedAmount := amount }

section Ready

variable (buyers sellers : List Address) (d : RecurringDelegation Address) (world : World Address) (now : Int64)
  (amount : UInt64)

-- The account pays as long as it has what the turn pulls.
theorem delegated_ready (alone : (daemon.best [d]).values = [d]) (known : daemon.Knows buyers sellers d)
    (clock : DatedClock now)
    (atSource : world.ledger.accounts (wallet d.delegator d.mint) = some (delegated d.delegator d.mint amount))
    (within : daemon.pulls { world with clock := now } d ≤ min d.amountPerPeriod.toNat amount.toNat)
    (liquid : terms.feeConfig.netOf (daemon.pulls { world with clock := now } d) ≤
      world.ledger.balance (daemon.poolOut d)) :
    daemon.Ready terms.feeConfig buyers sellers world { now := now, dels := [d], native := native } where
  clock := clock
  known := by
    intro other member _
    obtain rfl := List.mem_singleton.mp member
    exact known
  backed := by
    simp only [alone]
    refine ⟨⟨?_, liquid⟩, trivial⟩
    intro _
    have value := ofNat_toNat _ (pulls_small daemon { world with clock := now } d)
    have enough := within.trans (Nat.min_le_right _ _)
    have paid := delegateRail_pays subscriptionAuthority d.toDelegation world.ledger _
      (transient d.delegator d.mint) (UInt64.ofNat (daemon.pulls { world with clock := now } d))
      (delegated d.delegator d.mint amount) atSource rfl
      (by rw [UInt64.le_iff_toNat_le, value]; exact within.trans (Nat.min_le_left _ _))
      (value.trans_le enough) (value.trans_le enough)
    rw [← native_rail] at paid
    exact paid

end Ready

theorem saver_ready (world : World Address) (now : Int64) (amount : UInt64) (clock : DatedClock now)
    (atSource : world.ledger.accounts (wallet Terms.user Terms.targetMint) =
      some (delegated Terms.user Terms.targetMint amount))
    (within : daemon.pulls { world with clock := now } pension ≤ min 25000 amount.toNat)
    (liquid : terms.feeConfig.netOf (daemon.pulls { world with clock := now } pension) ≤
      world.ledger.balance poolUsdc) :
    daemon.Ready terms.feeConfig [] [Terms.user] world (visitAt now) :=
  delegated_ready [] [Terms.user] pension world now amount rfl
    (.inr ⟨by decide, rfl, List.mem_singleton_self _⟩) clock atSource within liquid

theorem saver_readies : Always daemon.round (daemon.Ready terms.feeConfig [] [Terms.user]) saver
    [visitAt 0, visitAt 300, visitAt 600] := by
  refine ⟨saver_ready _ 0 1000 ⟨by decide, by decide⟩ ?_ ?_ ?_, saver_ready _ 300 900 ⟨by decide, by decide⟩ ?_ ?_ ?_,
    saver_ready _ 600 720 ⟨by decide, by decide⟩ ?_ ?_ ?_, trivial⟩ <;> decide +kernel

theorem closed_loop_saver :
    let last := [visitAt 0, visitAt 300, visitAt 600].foldl daemon.round saver
    daemon.Healthy terms.config terms.feeConfig [] [Terms.user] last ∧
      Always daemon.round (daemon.RoundServiced terms.feeConfig) saver [visitAt 0, visitAt 300, visitAt 600] ∧
      Posting saver.ledger
        (collect daemon.round (daemon.roundBooks terms.feeConfig) saver [visitAt 0, visitAt 300, visitAt 600])
        last.ledger :=
  closed_loop daemon terms.config terms.feeConfig [] [Terms.user] saver _ saver_healthy saver_readies

end Sample

end RecurringBuy
