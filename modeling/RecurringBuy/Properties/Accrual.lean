import RecurringBuy.Keeper.Wallets
import RecurringBuy.Properties.ClosedLoop

set_option autoImplicit false

namespace RecurringBuy

open Checked SplToken ProgramAddress Simulation

section Runs

variable {Pubkey : Type} [DecidableEq Pubkey] [ProgramAddress Pubkey] (daemon : Daemon Pubkey) (cfg : Config Pubkey)
  (feeConfig : FeeConfig Pubkey) (buyers sellers : List Pubkey)

section Buyers

variable (user : Pubkey)

/-- What the delegation that the daemon chooses allows in this round, if the user has one. -/
def Daemon.contributions (round : Round Pubkey) : List Nat :=
  ((daemon.best round.dels).get (user, daemon.usdc)).toList.map fun d => d.allowance round.now

def Daemon.contribution (now : Int64) (_ : World Pubkey) (d : RecurringDelegation Pubkey) : List Nat :=
  if d.key = (user, daemon.usdc) then [d.allowance now] else []

/-- Between the two worlds the user paid `drawn`, and received it in the target mint less the fee. -/
structure Daemon.Accrues (world : World Pubkey) (drawn : List Nat) (world' : World Pubkey) : Prop where
  paid : world'.ledger.balance (wallet user daemon.usdc) + drawn.sum = world.ledger.balance (wallet user daemon.usdc)
  received : world'.ledger.balance (wallet user daemon.target) =
    world.ledger.balance (wallet user daemon.target) + (drawn.map feeConfig.netOf).sum

omit [DecidableEq Pubkey] in
theorem accrues_append (world middle world' : World Pubkey) (first later : List Nat)
    (accrues : daemon.Accrues feeConfig user world first middle)
    (next : daemon.Accrues feeConfig user middle later world') :
    daemon.Accrues feeConfig user world (first ++ later) world' where
  paid := by
    rw [← accrues.paid, ← next.paid, List.sum_append]
    omega
  received := by rw [next.received, accrues.received, List.map_append, List.sum_append, Nat.add_assoc]

section Turns

variable (world world' : World Pubkey) (d : RecurringDelegation Pubkey)
  (healthy : daemon.Healthy cfg feeConfig buyers sellers world) (buyer : user ∈ buyers)
  (unpaid : feeConfig.destination ≠ user)

include healthy buyer unpaid

theorem stranger_accrues (passed : daemon.Passed feeConfig.destination d world world') (different : user ≠ d.delegator)
    (apart : user ≠ buyAuthority d.delegator) : daemon.Accrues feeConfig user world [] world' := by
  have pools := fundable_wallet daemon _ _ _ _ _ _ _ (healthy.buys user buyer)
  have untouched (mint : Pubkey) (traded : mint = daemon.usdc ∨ mint = daemon.target) :
      world'.ledger.balance (wallet user mint) = world.ledger.balance (wallet user mint) :=
    passed_wallet daemon feeConfig.destination d world world' passed user mint different apart unpaid
      (pools mint traded).1 (pools mint traded).2
  exact ⟨untouched _ (.inl rfl), untouched _ (.inr rfl)⟩

theorem own_accrues (turned : Turned daemon cfg feeConfig buyers sellers world d world')
    (mints : daemon.usdc ≠ daemon.target) (usdc : d.mint = daemon.usdc) (mine : d.delegator = user) :
    daemon.Accrues feeConfig user world [d.allowance world.clock] world' := by
  subst mine
  have pools := fundable_wallet daemon _ _ _ _ _ _ _ (healthy.buys d.delegator buyer)
  have mintOut : daemon.mintOut d = daemon.target := if_pos usdc
  have pulls : daemon.pulls world d = d.allowance world.clock := if_pos usdc
  have moved := books_own daemon feeConfig world d world'.ledger turned.posting
    (by rw [usdc, mintOut]; exact mints) unpaid (by
      intro mint traded
      rw [usdc, mintOut] at traded
      exact pools_ne daemon d _ (pools mint traded).1 (pools mint traded).2)
  rw [usdc, mintOut, pulls] at moved
  exact ⟨by simpa using moved.1, by simpa using moved.2⟩

theorem turn_accrues (native : NativeProgram Pubkey)
    (tolerated : daemon.Tolerated feeConfig buyers sellers native world d) (mints : daemon.usdc ≠ daemon.target)
    (unselling : user ∉ sellers) :
    daemon.Accrues feeConfig user world (daemon.contribution user world.clock world d)
      (daemon.turnAt feeConfig native world.clock world d) := by
  by_cases mine : d.delegator = user
  next =>
    obtain ⟨known, backed⟩ : daemon.InOrder feeConfig buyers sellers native world d := by
      rcases tolerated.user with ready | stranger
      next => exact ready
      next => exact absurd (mine ▸ List.mem_append_left _ buyer) stranger.unserved
    have turned := (inOrder_turned daemon cfg feeConfig buyers sellers native world d healthy ⟨known, backed⟩).2
    have usdc : d.mint = daemon.usdc := by
      rcases known with ⟨usdc, -⟩ | ⟨-, -, seller⟩
      next => exact usdc
      next => exact absurd (mine ▸ seller) unselling
    have drawn : daemon.contribution user world.clock world d = [d.allowance world.clock] := by
      simp [Daemon.contribution, RecurringDelegation.key, usdc, mine]
    rw [drawn]
    exact own_accrues daemon cfg feeConfig buyers sellers user world _ d healthy buyer unpaid turned mints usdc mine
  next =>
    have undrawn : daemon.contribution user world.clock world d = [] := by
      simp [Daemon.contribution, RecurringDelegation.key, mine]
    rw [undrawn]
    exact stranger_accrues daemon cfg feeConfig buyers sellers user world _ d healthy buyer unpaid
      (tolerated_passed daemon feeConfig buyers sellers native world d tolerated) (Ne.symm mine)
      (tolerated_apart daemon cfg feeConfig buyers sellers native world d healthy tolerated user
        (List.mem_append_left _ buyer))

end Turns

theorem contribution_addsUp (mints : daemon.usdc ≠ daemon.target) (buyer : user ∈ buyers) (unselling : user ∉ sellers)
    (unpaid : feeConfig.destination ≠ user) :
    daemon.AddsUp cfg feeConfig buyers sellers (daemon.Tolerated feeConfig buyers sellers) (daemon.contribution user)
      (daemon.Accrues feeConfig user) where
  later := fun _ _ => ⟨rfl, rfl⟩
  append := fun _ _ _ _ _ first next => accrues_append daemon feeConfig user _ _ _ _ _ first next
  turn := fun native world d healthy tolerated =>
    turn_accrues daemon cfg feeConfig buyers sellers user world d healthy buyer unpaid native tolerated mints unselling

theorem contributions_chosen (queue : List (RecurringDelegation Pubkey)) (world : World Pubkey) (now : Int64) :
    queue.flatMap (daemon.contribution user now world) =
      (queue.filter fun d => d.key = (user, daemon.usdc)).map fun d => d.allowance now := by
  induction queue with
  | nil => rfl
  | cons d rest ih =>
    by_cases mine : d.key = (user, daemon.usdc)
    next => simp [Daemon.contribution, mine, ih]
    next => simp [Daemon.contribution, mine, ih]

theorem collect_contributions (world : World Pubkey) (rounds : List (Round Pubkey)) :
    collect daemon.round (daemon.roundOutput feeConfig (daemon.contribution user)) world rounds =
      rounds.flatMap (daemon.contributions user) := by
  have drawn : daemon.roundOutput feeConfig (daemon.contribution user) = fun _ => daemon.contributions user := by
    funext world round
    have chosen := OrderedMap.values_filter (daemon.best round.dels) RecurringDelegation.key
      (daemon.best_indexed round.dels) (user, daemon.usdc)
    rw [Daemon.contributions, ← chosen, ← contributions_chosen daemon user _ world]
    exact collect_flatMap _ _ _ _
  rw [drawn, collect_flatMap]

end Buyers

section Fees

variable (mint : Pubkey)

def Daemon.draft (_ : Int64) (world : World Pubkey) (d : RecurringDelegation Pubkey) : List Nat :=
  if d.mint = mint then [daemon.pulls world d] else []

def FeeConfig.Earns (world : World Pubkey) (drawn : List Nat) (world' : World Pubkey) : Prop :=
  world'.ledger.balance (wallet feeConfig.destination mint) =
    world.ledger.balance (wallet feeConfig.destination mint) + (drawn.map feeConfig.feeOf).sum

theorem draft_addsUp (unserved : feeConfig.destination ∉ buyers ++ sellers)
    (usdcPool : daemon.poolUsdc ≠ wallet feeConfig.destination mint)
    (targetPool : daemon.poolTarget ≠ wallet feeConfig.destination mint) :
    daemon.AddsUp cfg feeConfig buyers sellers (daemon.InOrder feeConfig buyers sellers) (daemon.draft mint)
      (feeConfig.Earns mint) where
  later := fun _ _ => rfl
  append := by
    intro world middle world' first later earns next
    rw [FeeConfig.Earns, next, earns, List.map_append, List.sum_append, Nat.add_assoc]
  turn := by
    intro native world d healthy ready
    have turned := (inOrder_turned daemon cfg feeConfig buyers sellers native world d healthy ready).2
    have member := knows_user daemon buyers sellers d ready.1
    have apart : feeConfig.destination ≠ buyAuthority d.delegator := by
      rcases List.mem_append.mp member with buyer | seller
      next => exact fundable_feeOwner daemon _ _ _ _ _ _ _ (healthy.buys d.delegator buyer)
      next => exact fundable_feeOwner daemon _ _ _ _ _ _ _ (healthy.sells d.delegator seller)
    have unpaid : feeConfig.destination ≠ d.delegator := fun same => unserved (same ▸ member)
    have charged := books_fee daemon feeConfig world d _ turned.posting mint unpaid apart usdcPool targetPool
    rw [FeeConfig.Earns, charged, Daemon.draft]
    split <;> simp

end Fees

section Rounds

variable (world : World Pubkey) (rounds : List (Round Pubkey))
  (healthy : daemon.Healthy cfg feeConfig buyers sellers world)

include healthy

/-- Whoever else the daemon serves, a buyer pays in every round what the chosen delegation allows, no more and no less,
and gets at least what the fee leaves of it. -/
theorem accrued (tolerable : Always daemon.round (daemon.Tolerable feeConfig buyers sellers) world rounds) (user : Pubkey)
    (mints : daemon.usdc ≠ daemon.target) (buyer : user ∈ buyers) (unselling : user ∉ sellers)
    (unpaid : feeConfig.destination ≠ user) :
    let drawn := rounds.flatMap (daemon.contributions user)
    let last := rounds.foldl daemon.round world
    daemon.Accrues feeConfig user world drawn last ∧
      drawn.sum * (10000 - feeConfig.feeBps.toNat) ≤
        10000 * (last.ledger.balance (wallet user daemon.target) - world.ledger.balance (wallet user daemon.target)) := by
  have accrues := rounds_addUp daemon cfg feeConfig buyers sellers _ world rounds healthy _ _
    (tolerated_keeps daemon cfg feeConfig buyers sellers)
    (contribution_addsUp daemon cfg feeConfig buyers sellers user mints buyer unselling unpaid)
    (always_mono _ _ _ (tolerable_meets daemon feeConfig buyers sellers) world rounds tolerable)
  rw [collect_contributions] at accrues
  have rate := netOf_rate feeConfig (rounds.flatMap (daemon.contributions user))
  refine ⟨accrues, rate.trans_eq ?_⟩
  rw [accrues.received, Nat.add_sub_cancel_left]

/-- The fee owner has the fee of each draw, and of all draws together no more than the rate. -/
theorem revenue (ready : Always daemon.round (daemon.Ready feeConfig buyers sellers) world rounds) (mint : Pubkey)
    (unserved : feeConfig.destination ∉ buyers ++ sellers)
    (usdcPool : daemon.poolUsdc ≠ wallet feeConfig.destination mint)
    (targetPool : daemon.poolTarget ≠ wallet feeConfig.destination mint) :
    let drawn := collect daemon.round (daemon.roundOutput feeConfig (daemon.draft mint)) world rounds
    let last := rounds.foldl daemon.round world
    last.ledger.balance (wallet feeConfig.destination mint) =
        world.ledger.balance (wallet feeConfig.destination mint) + (drawn.map feeConfig.feeOf).sum ∧
      10000 * (last.ledger.balance (wallet feeConfig.destination mint) -
        world.ledger.balance (wallet feeConfig.destination mint)) ≤ drawn.sum * feeConfig.feeBps.toNat := by
  have earns := rounds_addUp daemon cfg feeConfig buyers sellers _ world rounds healthy _ _
    (inOrder_keeps daemon cfg feeConfig buyers sellers)
    (draft_addsUp daemon cfg feeConfig buyers sellers mint unserved usdcPool targetPool)
    (readies_meet daemon feeConfig buyers sellers world rounds ready)
  refine ⟨earns, ?_⟩
  rw [earns, Nat.add_sub_cancel_left]
  exact feeOf_rate feeConfig _

end Rounds

end Runs

section Sample

open Served

def spender : World Address := Served.world .buy 1000 0 5000000

def allotment : RecurringDelegation Address :=
  { delegator := Terms.user, amountPerPeriod := 400, amountPulledInPeriod := 0, currentPeriodStartTs := 0
    periodLengthS := 86400, mint := Terms.usdcMint, expiryTs := 1000000 }

-- This user has no account that anything could be pulled from.
def unfunded : RecurringDelegation Address := { allotment with delegator := .key 50 }

def dayAt (now : Int64) : Round Address := { now := now, dels := [allotment], native := native }

def sharedDayAt (now : Int64) : Round Address := { now := now, dels := [allotment, unfunded], native := native }

theorem spender_healthy : daemon.Healthy terms.config terms.feeConfig [Terms.user] [] spender where
  serves := Served.serves .buy 1000 0 5000000
  buys := by
    intro user member
    obtain rfl := List.mem_singleton.mp member
    exact Served.fundable .buy 1000 0 5000000 (by decide)
  sells := fun _ member => absurd member List.not_mem_nil
  noUsdc := by
    intro user member
    obtain rfl := List.mem_singleton.mp member
    rw [spender, world_ledger]
    rfl
  noTarget := fun _ member => absurd member List.not_mem_nil
  strangers := by decide
  dated := fun _ member => absurd member List.not_mem_nil
  clock := by
    rw [spender, world_clock]
    constructor <;> decide

theorem spender_ready (world : World Address) (now : Int64) (amount : UInt64) (clock : DatedClock now)
    (atSource : world.ledger.accounts (wallet Terms.user Terms.usdcMint) =
      some (delegated Terms.user Terms.usdcMint amount))
    (within : daemon.pulls { world with clock := now } allotment ≤ min 400 amount.toNat)
    (liquid : terms.feeConfig.netOf (daemon.pulls { world with clock := now } allotment) ≤
      world.ledger.balance poolTarget) :
    daemon.Ready terms.feeConfig [Terms.user] [] world (dayAt now) :=
  delegated_ready [Terms.user] [] allotment world now amount rfl (.inl ⟨rfl, List.mem_singleton_self _⟩) clock atSource
    within liquid

theorem spender_readies : Always daemon.round (daemon.Ready terms.feeConfig [Terms.user] []) spender
    [dayAt 0, dayAt 86400] := by
  refine ⟨spender_ready _ 0 1000 ⟨by decide, by decide⟩ ?_ ?_ ?_,
    spender_ready _ 86400 600 ⟨by decide, by decide⟩ ?_ ?_ ?_, trivial⟩ <;> decide +kernel

theorem unfunded_stranger : Daemon.Stranger [Terms.user] [] unfunded where
  unserved := by decide
  apart := by decide

theorem sharedDay_tolerable (world : World Address) (now : Int64)
    (ready : daemon.Ready terms.feeConfig [Terms.user] [] world (dayAt now)) :
    daemon.Tolerable terms.feeConfig [Terms.user] [] world (sharedDayAt now) where
  clock := ready.clock
  honest := fun d _ => native_honest d.toDelegation
  known := by
    intro d listed _
    simp only [sharedDayAt, List.mem_cons, List.not_mem_nil, or_false] at listed
    rcases listed with rfl | rfl
    next => exact .inl (.inl ⟨rfl, List.mem_singleton_self _⟩)
    next => exact .inr unfunded_stranger
  backed := by
    refine ⟨fun _ => ready.backed.1, fun known => ?_, trivial⟩
    exact absurd (knows_user daemon _ _ _ known) unfunded_stranger.unserved

theorem sharedDay_tolerables : Always daemon.round (daemon.Tolerable terms.feeConfig [Terms.user] []) spender
    [sharedDayAt 0, sharedDayAt 86400] := by
  refine ⟨sharedDay_tolerable _ 0 (spender_ready _ 0 1000 ⟨by decide, by decide⟩ ?_ ?_ ?_),
    sharedDay_tolerable _ 86400 (spender_ready _ 86400 600 ⟨by decide, by decide⟩ ?_ ?_ ?_), trivial⟩ <;>
    decide +kernel

theorem accrued_spender :
    let last := [sharedDayAt 0, sharedDayAt 86400].foldl daemon.round spender
    daemon.Accrues terms.feeConfig Terms.user spender [400, 400] last ∧
      800 * 9950 ≤ 10000 * (last.ledger.balance (wallet Terms.user Terms.targetMint) -
        spender.ledger.balance (wallet Terms.user Terms.targetMint)) :=
  accrued daemon terms.config terms.feeConfig [Terms.user] [] spender [sharedDayAt 0, sharedDayAt 86400] spender_healthy
    sharedDay_tolerables Terms.user (by decide) (List.mem_singleton_self _) List.not_mem_nil (by decide)

theorem revenue_spender :
    let last := [dayAt 0, dayAt 86400].foldl daemon.round spender
    last.ledger.balance (wallet Terms.feeOwner Terms.usdcMint) =
        spender.ledger.balance (wallet Terms.feeOwner Terms.usdcMint) + 4 ∧
      10000 * (last.ledger.balance (wallet Terms.feeOwner Terms.usdcMint) -
        spender.ledger.balance (wallet Terms.feeOwner Terms.usdcMint)) ≤ 800 * 50 := by
  have drawn : collect daemon.round (daemon.roundOutput terms.feeConfig (daemon.draft Terms.usdcMint)) spender
      [dayAt 0, dayAt 86400] = [400, 400] := by decide +kernel
  have earned := revenue daemon terms.config terms.feeConfig [Terms.user] [] spender [dayAt 0, dayAt 86400]
    spender_healthy spender_readies Terms.usdcMint (by decide) (by decide) (by decide)
  simp only [drawn] at earned
  exact earned

end Sample

end RecurringBuy
