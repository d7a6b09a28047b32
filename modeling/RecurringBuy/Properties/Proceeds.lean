import RecurringBuy.Properties.LastingAuthority
import RecurringBuy.Shared.Simulation
import Mathlib.Algebra.BigOperators.Group.List.Basic
import Mathlib.Algebra.Order.Ring.Nat

set_option autoImplicit false

namespace RecurringBuy

open Checked SplToken ProgramAddress Simulation

variable {Pubkey : Type} [DecidableEq Pubkey] [ProgramAddress Pubkey]

/-- `holder` does not sign for the token instructions of the event, nor for the venue of a call. -/
def Event.Without (holder : Pubkey) : Event Pubkey → Prop
  | .call (.executeBuy ctx _ _ venue) => authorities ctx.signers ctx.accounts.user venue holder = false
  | .call (.executeSell ctx _ _ venue) => authorities ctx.signers ctx.accounts.user venue holder = false
  | .tokens signed _ _ _ => signed holder = false
  | _ => True

structure Receipt where
  floor : Nat
  out : Nat

/-- What a swap delivers to the account of `user` for `mint`, and the price floor that it has to meet. -/
def receipts (direction : Direction) (world : World Pubkey) (destination user mint : Pubkey)
    (amountIn amountOut : UInt64) : List Receipt :=
  match world.config, world.feeConfig with
  | some cfg, some feeConfig =>
      if destination = wallet user mint then
        [⟨direction.exactFloor cfg (feeConfig.netOf amountIn.toNat) % 2 ^ 64, amountOut.toNat⟩]
      else []
  | _, _ => []

def Event.receipts (user mint : Pubkey) (world : World Pubkey) : Event Pubkey → List Receipt
  | .call (.executeBuy ctx minOut swapData venue) =>
      match executeBuy world ctx minOut swapData venue with
      | .ok (_, bought) => RecurringBuy.receipts .buy world ctx.accounts.destAta user mint bought.amountIn bought.amountOut
      | .error _ => []
  | .call (.executeSell ctx minOut swapData venue) =>
      match executeSell world ctx minOut swapData venue with
      | .ok (_, sold) => RecurringBuy.receipts .sell world ctx.accounts.destUsdc user mint sold.amountIn sold.amountOut
      | .error _ => []
  | _ => []

section Steps

variable (holder mint : Pubkey)

structure Credits (world : World Pubkey) (event : Event Pubkey) : Prop where
  entrusted : Entrusted holder mint ((world.step event).ledger.authority (wallet holder mint))
  paid : world.ledger.balance (wallet holder mint) + ((event.receipts holder mint world).map Receipt.out).sum ≤
    (world.step event).ledger.balance (wallet holder mint)
  priced : ∀ receipt ∈ event.receipts holder mint world, receipt.floor ≤ receipt.out

variable (world : World Pubkey)

theorem receipt_paid (direction : Direction) (caller destination : Pubkey) (cfg : Config Pubkey)
    (feeConfig : FeeConfig Pubkey) (swap : Swap Pubkey) (configLoaded : world.config = some cfg)
    (feeConfigLoaded : world.feeConfig = some feeConfig) (facts : SwapFacts direction caller cfg feeConfig swap)
    (address : destination = wallet caller (direction.mintOut cfg))
    (kept : swap.before.balance (wallet holder mint) ≤ swap.after.balance (wallet holder mint)) :
    let paid := receipts direction world destination holder mint swap.amountIn swap.amountOut
    swap.before.balance (wallet holder mint) + (paid.map Receipt.out).sum ≤ swap.after.balance (wallet holder mint) ∧
      ∀ receipt ∈ paid, receipt.floor ≤ receipt.out := by
  simp only [receipts, configLoaded, feeConfigLoaded]
  split
  next here =>
    have received := facts.received
    rw [← address, here] at received
    constructor
    next =>
      rw [received]
      exact Nat.le_refl _
    next =>
      intro receipt member
      obtain rfl := List.mem_singleton.mp member
      exact facts.floorMet.trans facts.enough
  next => exact ⟨kept, fun _ member => absurd member List.not_mem_nil⟩

variable (event : Event Pubkey) (stranger : event.Without holder)
  (entrusted : Entrusted holder mint (world.ledger.authority (wallet holder mint)))

include entrusted

theorem unreceipted_credits (unreceipted : event.receipts holder mint world = [])
    (same : (world.step event).ledger = world.ledger) : Credits holder mint world event where
  entrusted := by rwa [same]
  paid := by
    rw [same, unreceipted]
    exact Nat.le_refl _
  priced := by
    rw [unreceipted]
    exact fun _ member => absurd member List.not_mem_nil

include stranger

theorem buy_credits (formed : world.WellFormed) (ctx : Context Pubkey (ExecuteBuy Pubkey)) (minOut : UInt64)
    (swapData : List UInt8) (venue : Venue Pubkey) (is : event = .call (.executeBuy ctx minOut swapData venue)) :
    Credits holder mint world event := by
  subst is
  cases outcome : executeBuy world ctx minOut swapData venue with
  | error error =>
    apply unreceipted_credits holder mint world _ entrusted
    next => simp only [Event.receipts, outcome]
    next => rw [step_error world _ error (by simp [World.execute, outcome, Except.map])]
  | ok result =>
    obtain ⟨world', bought⟩ := result
    have stepped := step_executeBuy _ _ _ _ _ _ _ outcome
    obtain ⟨cfg, feeConfig, source, dest, fee, netIn, floor, out, skimmed, course, rfl⟩ :=
      (executeBuy_ok _ _ _ _ _ _ _).mp outcome
    have facts := executeBuy_facts world world' ctx minOut swapData venue _ cfg feeConfig
      (formed.config cfg course.configLoaded) (formed.feeConfig feeConfig course.feeConfigLoaded) course.configLoaded
      course.feeConfigLoaded outcome
    obtain ⟨entrusted', kept⟩ := settlement_stranger ctx _ _ course.authoritySeeds venue holder mint stranger _ _ _ _ _ _
      _ _ course.settlement entrusted
    obtain ⟨paid, priced⟩ := receipt_paid holder mint world .buy ctx.accounts.user ctx.accounts.destAta cfg feeConfig _
      course.configLoaded course.feeConfigLoaded facts course.destAddress kept
    constructor
    case entrusted => rwa [stepped]
    case paid =>
      simp only [stepped, Event.receipts, outcome]
      exact paid
    case priced =>
      simp only [Event.receipts, outcome]
      exact priced

theorem sell_credits (formed : world.WellFormed) (ctx : Context Pubkey (ExecuteSell Pubkey)) (minOut : UInt64)
    (swapData : List UInt8) (venue : Venue Pubkey) (is : event = .call (.executeSell ctx minOut swapData venue)) :
    Credits holder mint world event := by
  subst is
  cases outcome : executeSell world ctx minOut swapData venue with
  | error error =>
    apply unreceipted_credits holder mint world _ entrusted
    next => simp only [Event.receipts, outcome]
    next => rw [step_error world _ error (by simp [World.execute, outcome, Except.map])]
  | ok result =>
    obtain ⟨world', sold⟩ := result
    have stepped := step_executeSell _ _ _ _ _ _ _ outcome
    obtain ⟨cfg, feeConfig, plan, advanced, source, pot, dest, fee, netIn, floor, out, skimmed, course, rfl⟩ :=
      (executeSell_ok _ _ _ _ _ _ _).mp outcome
    have facts := executeSell_facts world world' ctx minOut swapData venue _ cfg feeConfig
      (formed.config cfg course.configLoaded) (formed.feeConfig feeConfig course.feeConfigLoaded) course.configLoaded
      course.feeConfigLoaded outcome
    obtain ⟨entrusted', kept⟩ := settlement_stranger ctx _ _ course.authoritySeeds venue holder mint stranger _ _ _ _ _ _
      _ _ course.settlement entrusted
    obtain ⟨paid, priced⟩ := receipt_paid holder mint world .sell ctx.accounts.user ctx.accounts.destUsdc cfg feeConfig _
      course.configLoaded course.feeConfigLoaded facts course.destAddress kept
    constructor
    case entrusted => rwa [stepped]
    case paid =>
      simp only [stepped, Event.receipts, outcome]
      exact paid
    case priced =>
      simp only [Event.receipts, outcome]
      exact priced

theorem step_credits (formed : world.WellFormed) : Credits holder mint world event := by
  cases event with
  | tick clock => exact unreceipted_credits holder mint world _ entrusted rfl rfl
  | tokens signed underived unassociated instructions =>
    cases outcome : SplToken.run signed world.ledger instructions with
    | error error =>
      apply unreceipted_credits holder mint world _ entrusted rfl
      simp only [World.step, outcome]
    | ok ledger =>
      constructor
      case entrusted =>
        simp only [World.step, outcome]
        exact run_entrusted signed holder mint stranger (unassociated holder mint) _ _ instructions outcome entrusted
      case paid =>
        simp only [World.step, outcome]
        exact run_entrusted_balance signed holder mint stranger _ _ instructions outcome entrusted
      case priced => exact fun _ member => absurd member List.not_mem_nil
  | call call =>
    cases call with
    | executeBuy ctx minOut swapData venue =>
      exact buy_credits holder mint world _ stranger entrusted formed ctx minOut swapData venue rfl
    | executeSell ctx minOut swapData venue =>
      exact sell_credits holder mint world _ stranger entrusted formed ctx minOut swapData venue rfl
    | _ =>
      apply unreceipted_credits holder mint world _ entrusted rfl
      exact call_quiet world _ fun _ serves => serves.elim

end Steps

/-- Whoever calls what, and whatever the venues do, the account never loses anything, and each swap for the user adds what
it delivers, which is at least its price floor. -/
theorem proceeds_kept (user mint : Pubkey) (world : World Pubkey) (events : List (Event Pubkey))
    (reachable : world.Reachable) (strangers : Throughout (fun _ event => event.Without user) world events)
    (start : Entrusted user mint (world.ledger.authority (wallet user mint))) :
    let receipts := collect World.step (fun world event => event.receipts user mint world) world events
    world.ledger.balance (wallet user mint) + (receipts.map Receipt.out).sum ≤
        (world.run events).ledger.balance (wallet user mint) ∧
      (∀ receipt ∈ receipts, receipt.floor ≤ receipt.out) ∧
      Entrusted user mint ((world.run events).ledger.authority (wallet user mint)) := by
  intro receipts
  induction events generalizing world with
  | nil => exact ⟨Nat.le_refl _, fun _ member => absurd member List.not_mem_nil, start⟩
  | cons event rest ih =>
    have credits := step_credits user mint world event strangers.1 start (reachable_wellFormed world reachable)
    obtain ⟨paid, priced, entrusted⟩ := ih (world.step event) (reachable_run world [event] reachable) strangers.2
      credits.entrusted
    have here := credits.paid
    refine ⟨?_, ?_, entrusted⟩
    next =>
      simp only [receipts, collect, List.map_append, List.sum_append]
      exact (by omega : _ ≤ _).trans paid
    next =>
      intro receipt member
      rcases List.mem_append.mp member with first | later
      next => exact credits.priced receipt first
      next => exact priced receipt later

section Sample

open Handover

-- The venue keeps the leave to spend from the transient account, and its owner then tries the wallet.
def raided : List (Event Address) :=
  [buyCall grant,
    .tokens (fun key => decide (key = attacker)) (fun _ => rfl) (fun _ _ => rfl)
      [.createAssociated attacker Terms.targetMint,
        .transfer (wallet Terms.user Terms.targetMint) (wallet attacker Terms.targetMint) attacker 500]]

theorem proceeds_kept_raided : 1000 ≤ (launched.run raided).ledger.balance (wallet Terms.user Terms.targetMint) := by
  have held : launched.ledger.authority (wallet Terms.user Terms.targetMint) =
      some (.fresh Terms.targetMint Terms.user) := by decide
  have start : Entrusted Terms.user Terms.targetMint (launched.ledger.authority (wallet Terms.user Terms.targetMint)) := by
    rw [held]
    rintro authority ⟨⟩
    exact fresh_confined _ _
  have kept := (proceeds_kept Terms.user Terms.targetMint launched raided
    ⟨genesis, launch, ⟨rfl, rfl, rfl⟩, rfl⟩ ⟨rfl, rfl, trivial⟩ start).1
  have delivered : ((collect World.step (fun world event => event.receipts Terms.user Terms.targetMint world) launched
      raided).map Receipt.out).sum = 1000 := by decide +kernel
  rw [delivered] at kept
  exact (Nat.le_add_left _ _).trans kept

end Sample

end RecurringBuy
