import RecurringBuy.Keeper.Service
import RecurringBuy.Keeper.System
import RecurringBuy.Properties.Configuration
import RecurringBuy.Properties.Gate

set_option autoImplicit false

namespace RecurringBuy

open Checked SplToken ProgramAddress Simulation

section Safety

variable {Pubkey : Type} [DecidableEq Pubkey] [ProgramAddress Pubkey]

/-- The call of a transaction that lands carries the signature of the keeper that sent it, and no other. -/
def LandsSigned (system : System Pubkey) (action : Action Pubkey) : Prop :=
  ∀ index native call, action = .land index native → .call call ∈ system.seen action →
    ∃ sent, system.inFlight[index]? = some sent ∧ call.signers = [sent.daemon.keeper]

/-- A run of the system is the run of the program that its actions show. -/
structure Accounted (system : System Pubkey) (actions : List (Action Pubkey)) : Prop where
  world : (system.run actions).world = system.world.run (system.history actions)
  sales : ∀ user, crankTimes user system.world (system.history actions) = system.sales user actions
  signed : Always System.step LandsSigned system actions
  reachable : system.world.Reachable → (system.run actions).world.Reachable

theorem composed_call (system : System Pubkey) (composed : system.Composed) (index : Nat)
    (native : NativeProgram Pubkey) (call : Call Pubkey) (member : .call call ∈ system.seen (.land index native)) :
    ∃ sent, system.inFlight[index]? = some sent ∧
      ((∃ ctx minOut swapData, call = sent.daemon.buyCall ctx minOut swapData ∧ ctx.signers = [sent.daemon.keeper]) ∨
        ∃ ctx minOut swapData, call = sent.daemon.sellCall ctx minOut swapData ∧ ctx.signers = [sent.daemon.keeper]) := by
  simp only [System.seen] at member
  split at member
  next sent found =>
    exact ⟨sent, found, sent_call sent native _ (composed sent (List.mem_of_getElem? found)) call member⟩
  next => exact absurd member List.not_mem_nil

theorem composed_signed (system : System Pubkey) (action : Action Pubkey) (composed : system.Composed) :
    LandsSigned system action := by
  rintro index native call rfl member
  obtain ⟨sent, found, asked⟩ := composed_call system composed index native call member
  refine ⟨sent, found, ?_⟩
  rcases asked with ⟨ctx, minOut, swapData, rfl, signed⟩ | ⟨ctx, minOut, swapData, rfl, signed⟩
  next => exact signed
  next => exact signed

theorem keepers_refine (system : System Pubkey) (composed : system.Composed) (actions : List (Action Pubkey)) :
    Accounted system actions where
  world := history_world system actions
  sales := history_sales system actions
  signed :=
    always_kept System.step System.Composed (fun _ _ => True) LandsSigned
      (fun system action kept _ => ⟨composed_signed system action kept, step_composed system action kept⟩) system actions
      (always_all System.step _ (fun _ _ => trivial) system actions) composed
  reachable := by
    intro reachable
    rw [history_world]
    exact reachable_run system.world _ reachable

/-- No action of anyone else closes the plan of `user`. -/
def System.Unclosed (user : Pubkey) (system : System Pubkey) (actions : List (Action Pubkey)) : Prop :=
  Always System.step (fun system action => ∀ event, action = .chain event → closes user system.world event = false)
    system actions

-- No keeper closes a plan: its transactions pay and crank.
theorem seen_unclosed (user : Pubkey) (system : System Pubkey) (action : Action Pubkey) (composed : system.Composed)
    (unclosed : ∀ event, action = .chain event → closes user system.world event = false) :
    Always World.step (fun world event => closes user world event = false) system.world (system.seen action) := by
  cases action with
  | chain event => exact ⟨unclosed event rfl, trivial⟩
  | land index native =>
    have quiet : ∀ event ∈ system.seen (.land index native), ∀ world : World Pubkey, closes user world event = false := by
      intro event member world
      cases event with
      | call call =>
        obtain ⟨sent, -, asked⟩ := composed_call system composed index native call member
        rcases asked with ⟨_, _, _, rfl, -⟩ | ⟨_, _, _, rfl, -⟩
        next => rfl
        next => rfl
      | tokens => rfl
      | tick => rfl
    exact always_mono World.step _ _ (fun world event silent => silent world) system.world _
      (always_mem World.step (fun event => ∀ world, closes user world event = false) system.world _ quiet)
  | _ => trivial

theorem unclosed_throughout (user : Pubkey) (system : System Pubkey) (actions : List (Action Pubkey))
    (composed : system.Composed) (unclosed : system.Unclosed user actions) :
    Throughout (fun world event => closes user world event = false) system.world (system.history actions) := by
  rw [throughout_always]
  refine always_collect System.step System.seen World.step System.world step_seen
    (fun system action => system.Composed ∧ ∀ event, action = .chain event → closes user system.world event = false) _
    (fun system action met => seen_unclosed user system action met.1 met.2) system actions ?_
  exact always_kept System.step System.Composed _ _
    (fun system action kept others => ⟨⟨kept, others⟩, step_composed system action kept⟩) system actions unclosed composed

theorem system_gate (world : World Pubkey) (ctx : Context Pubkey (PlanOwner Pubkey)) (endTs periodSecs : Int64)
    (system : System Pubkey) (composed : system.Composed)
    (opened : openSellPlan world ctx endTs periodSecs = .ok system.world) (actions : List (Action Pubkey))
    (unclosed : system.Unclosed ctx.accounts.user actions) :
    ∃ plan, (system.run actions).world.sellPlans (sellPlanPda ctx.accounts.user) = some plan ∧
      Gated world.clock.toInt endTs periodSecs ctx.accounts.user plan (system.sales ctx.accounts.user actions) ∧
      (endTs.toInt < plan.nextDueTs.toInt → ∀ more, (system.run actions).Unclosed ctx.accounts.user more →
        (system.run actions).sales ctx.accounts.user more = []) := by
  obtain ⟨-, -, -, ⟨least, -⟩, later, -⟩ := (openSellPlan_ok _ _ _ _ _).mp opened
  have positive : 0 < periodSecs.toInt := by omega
  have horizon : world.clock.toInt ≤ endTs.toInt := by omega
  have quiet := unclosed_throughout ctx.accounts.user system actions composed unclosed
  obtain ⟨plan, present, tracks⟩ := run_tracks _ _ _ _ system.world _ positive horizon quiet
    (opened_tracks world system.world ctx endTs periodSecs opened)
  have gated := tracks_gated _ _ _ _ plan _ positive horizon tracks
  rw [List.reverse_reverse, history_sales] at gated
  rw [← history_world] at present
  refine ⟨plan, present, gated, ?_⟩
  intro completed more still
  rw [← history_sales]
  rw [← tracks.horizon] at completed
  exact completed_quiet _ _ _ plan present completed
    (unclosed_throughout ctx.accounts.user (system.run actions) more (run_composed system actions composed) still)

end Safety

section Sample

open Served

def native : NativeProgram Address where
  signed key := decide (key = subscriptionAuthority)
  underived _ := rfl
  unassociated _ _ := rfl
  transferRecurring del _ source destination amount :=
    if amount ≤ del.amountPerPeriod then some [.transfer source destination subscriptionAuthority amount] else none

def pension : RecurringDelegation Address :=
  { delegator := Terms.user, amountPerPeriod := 25000, amountPulledInPeriod := 0, currentPeriodStartTs := 0
    periodLengthS := 2592000, mint := Terms.targetMint, expiryTs := 100000 }

-- Two processes of one keeper.
def rivals : System Address :=
  { world := Served.world .sell 1000 0 5000000
    processes := [⟨daemon, 0, none, []⟩, ⟨daemon, 0, none, []⟩]
    inFlight := [] }

-- Both read the same plan, and both transactions reach the chain.
def race : List (Action Address) :=
  [.scan 0 0 (some terms.feeConfig) [pension], .scan 1 0 (some terms.feeConfig) [pension], .turn 0 rivals.world,
    .turn 1 rivals.world, .chain (.tick 5), .land 1 native, .land 0 native]

theorem rivals_composed : rivals.Composed := fun _ member => absurd member List.not_mem_nil

theorem race_sales : rivals.sales Terms.user race = [5] := by decide +kernel

def unopenedRivals : World Address :=
  ((terms.genesis (Served.ledger .sell 1000 0 5000000).accounts).setConfig terms.config).setFeeConfig terms.feeConfig

theorem rivals_opened :
    openSellPlan unopenedRivals (Address.context ⟨Terms.user, .sellPlan Terms.user⟩ [23]) 600 60 = .ok rivals.world := by
  apply (openSellPlan_ok _ _ _ _ _).mpr
  refine ⟨List.mem_singleton_self _, rfl, rfl, by decide, by decide, ?_⟩
  have same := Terms.deployed_eq terms (Served.ledger .sell 1000 0 5000000).accounts terms_acceptable
  exact same

-- Of the two transactions the chain sees one: three payments and a sale.
theorem keepers_refine_race :
    Accounted rivals race ∧ crankTimes Terms.user rivals.world (rivals.history race) = [5] ∧
      (rivals.history race).length = 5 := by
  have accounted := keepers_refine rivals rivals_composed race
  exact ⟨accounted, (accounted.sales Terms.user).trans race_sales, by decide +kernel⟩

theorem system_gate_race :
    ∃ plan, (rivals.run race).world.sellPlans (.sellPlan Terms.user) = some plan ∧ Gated 0 600 60 Terms.user plan [5] := by
  obtain ⟨plan, present, gated, -⟩ := system_gate unopenedRivals
    (Address.context ⟨Terms.user, .sellPlan Terms.user⟩ [23]) 600 60 rivals rivals_composed rivals_opened race
    ⟨fun _ same => (by cases same), fun _ same => (by cases same), fun _ same => (by cases same),
      fun _ same => (by cases same), fun _ same => (by cases same; rfl), fun _ same => (by cases same),
      fun _ same => (by cases same), trivial⟩
  have told : rivals.sales (Address.context (⟨Terms.user, .sellPlan Terms.user⟩ : PlanOwner Address) [23]).accounts.user
      race = [5] := race_sales
  rw [told] at gated
  exact ⟨plan, present, gated⟩

end Sample

end RecurringBuy
