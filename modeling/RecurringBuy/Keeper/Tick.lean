import RecurringBuy.Keeper.Daemon
import RecurringBuy.Shared.OrderedMap

set_option autoImplicit false

namespace RecurringBuy

open Checked SplToken ProgramAddress

variable {Pubkey : Type}

-- A delegation as `fetchDelegationsByDelegatee` lists it.
structure RecurringDelegation (Pubkey : Type) extends Delegation Pubkey where
  mint : Pubkey
  expiryTs : Int

-- The key of `best`. No address contains the separator.
def RecurringDelegation.key (d : RecurringDelegation Pubkey) : Pubkey × Pubkey := (d.delegator, d.mint)

inductive Transaction (Pubkey : Type) [ProgramAddress Pubkey] where
  | buy (del : Delegation Pubkey) (crank : Crank Pubkey (ExecuteBuy Pubkey))
  | sell (del : Delegation Pubkey) (crank : Crank Pubkey (ExecuteSell Pubkey))

namespace Daemon

variable [DecidableEq Pubkey] [ProgramAddress Pubkey] (daemon : Daemon Pubkey)

def relevant (d : RecurringDelegation Pubkey) : Bool := decide (d.mint = daemon.usdc) || decide (d.mint = daemon.target)

-- Latest-expiry delegation per (delegator, mint); ignore foreign mints.
def best (dels : List (RecurringDelegation Pubkey)) : OrderedMap (Pubkey × Pubkey) (RecurringDelegation Pubkey) :=
  dels.foldl (fun best d =>
    if d.mint ≠ daemon.usdc ∧ d.mint ≠ daemon.target then best
    else OrderedMap.keepBest RecurringDelegation.key RecurringDelegation.expiryTs best d) .empty

-- The transaction of one turn of the loop. `feeConfig` was read at the start of the tick.
def crank (feeConfig : Option (FeeConfig Pubkey)) (now : Number) (world : World Pubkey)
    (d : RecurringDelegation Pubkey) : Option (Transaction Pubkey) :=
  let view : World Pubkey := { world with feeConfig := feeConfig }
  if d.mint = daemon.usdc then (daemon.crankBuy view d.toDelegation now).map (.buy d.toDelegation)
  else (daemon.crankSell view d.toDelegation now).map (.sell d.toDelegation)

-- `sendTx`: all of a transaction, or none of it.
def land (rail : Rail Pubkey) (world : World Pubkey) : Transaction Pubkey → World Pubkey
  | .buy del crank =>
      match daemon.submitBuy crank rail del world with
      | some (world', _) => world'
      | none => world
  | .sell del crank =>
      match daemon.submitSell crank rail del world with
      | some (world', _) => world'
      | none => world

-- What a turn throws is logged, and the next one follows.
def turn (rail : Rail Pubkey) (feeConfig : Option (FeeConfig Pubkey)) (now : Number) (world : World Pubkey)
    (d : RecurringDelegation Pubkey) : World Pubkey :=
  match daemon.crank feeConfig now world d with
  | some transaction => daemon.land rail world transaction
  | none => world

def tick (rail : Rail Pubkey) (dels : List (RecurringDelegation Pubkey)) (world : World Pubkey) : World Pubkey :=
  let now := Number.ofBigInt world.clock.toInt
  (daemon.best dels).values.foldl (daemon.turn rail world.feeConfig now) world

section Selection

/-- One delegation for each user and mint among those that matter, in the order in which the pairs first occur, and of
a pair the first that expires last. -/
structure Selects (dels chosen : List (RecurringDelegation Pubkey)) : Prop where
  pairs : chosen.map RecurringDelegation.key = ((dels.filter daemon.relevant).map RecurringDelegation.key).eraseDups
  latest : ∀ d ∈ chosen,
    OrderedMap.bestOf RecurringDelegation.key RecurringDelegation.expiryTs (dels.filter daemon.relevant) d.key = some d

theorem best_filter (dels : List (RecurringDelegation Pubkey)) :
    daemon.best dels =
      (dels.filter daemon.relevant).foldl
        (OrderedMap.keepBest RecurringDelegation.key RecurringDelegation.expiryTs) .empty := by
  rw [best, List.foldl_filter]
  congr 1
  funext map d
  by_cases usdc : d.mint = daemon.usdc <;> by_cases target : d.mint = daemon.target <;> simp [relevant, usdc, target]

theorem best_indexed (dels : List (RecurringDelegation Pubkey)) (held : Pubkey × Pubkey) (d : RecurringDelegation Pubkey)
    (found : (daemon.best dels).get held = some d) : d.key = held := by
  rw [best_filter] at found
  exact OrderedMap.foldl_indexed _ _ _ held d found

theorem best_selects (dels : List (RecurringDelegation Pubkey)) : daemon.Selects dels (daemon.best dels).values := by
  have keys := OrderedMap.keys_foldl RecurringDelegation.key RecurringDelegation.expiryTs (dels.filter daemon.relevant)
  have get := OrderedMap.get_foldl RecurringDelegation.key RecurringDelegation.expiryTs (dels.filter daemon.relevant)
  rw [← best_filter] at keys get
  constructor
  case pairs => rw [OrderedMap.values_keys _ _ (daemon.best_indexed dels), keys]
  case latest =>
    intro d member
    rw [← get, OrderedMap.get_value _ _ (daemon.best_indexed dels) d member]

theorem best_mem (dels : List (RecurringDelegation Pubkey)) (d : RecurringDelegation Pubkey)
    (chosen : d ∈ (daemon.best dels).values) : d ∈ dels ∧ daemon.relevant d = true := by
  have latest := (daemon.best_selects dels).latest d chosen
  exact List.mem_filter.mp (OrderedMap.bestOf_mem _ _ _ _ d latest)

theorem best_values_iff (dels chosen : List (RecurringDelegation Pubkey)) :
    (daemon.best dels).values = chosen ↔ daemon.Selects dels chosen := by
  constructor
  next =>
    rintro rfl
    exact daemon.best_selects dels
  next =>
    intro selects
    have keys := OrderedMap.keys_foldl RecurringDelegation.key RecurringDelegation.expiryTs
      (dels.filter daemon.relevant)
    have get := OrderedMap.get_foldl RecurringDelegation.key RecurringDelegation.expiryTs (dels.filter daemon.relevant)
    rw [← best_filter] at keys get
    apply List.map_injective_iff.mpr (Option.some_injective _)
    rw [OrderedMap.values_get, keys, ← selects.pairs, List.map_map]
    apply List.map_congr_left
    intro d member
    rw [Function.comp_apply, get, selects.latest d member]

end Selection

end Daemon

end RecurringBuy
