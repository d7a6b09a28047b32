import RecurringBuy.Program.Deployment
import RecurringBuy.Program.History
import RecurringBuy.Properties.RogueCall
import RecurringBuy.Shared.SkipSchedule

set_option autoImplicit false

namespace RecurringBuy

open Checked SplToken ProgramAddress SkipSchedule

variable {Pubkey : Type}

/-- `time` lies in the cell `[start + cell * period, start + (cell + 1) * period)`. -/
def InCell (start period : Int) (cell : Nat) (time : Int) : Prop :=
  start + cell * period ≤ time ∧ time < start + (cell + 1) * period

theorem inCell_cellOf (start period time : Int) (positive : 0 < period) (after : start ≤ time) :
    InCell start period (cellOf start period time) time :=
  (cellOf_iff start period positive time _ after).mp rfl

theorem inCell_after (start period time : Int) (cell : Nat) (positive : 0 < period)
    (inside : InCell start period cell time) : start ≤ time := by
  have nonneg : 0 ≤ (cell : Int) * period := Int.mul_nonneg (Int.natCast_nonneg cell) positive.le
  have low := inside.1
  omega

theorem cellOf_inCell (start period time : Int) (cell : Nat) (positive : 0 < period)
    (inside : InCell start period cell time) : cellOf start period time = cell :=
  (cellOf_iff start period positive time cell (inCell_after start period time cell positive inside)).mpr inside

/-- The plan was opened at `start` with these terms, and `times` are the cranks since, newest first. -/
structure PlanTracks (start : Int) (endTs periodSecs : Int64) (user : Pubkey) (plan : SellPlan Pubkey)
    (times : List Int) : Prop where
  user : plan.user = user
  horizon : plan.endTs = endTs
  cadence : plan.periodSecs = periodSecs
  due : plan.nextDueTs.toInt = start + next (times.map (cellOf start periodSecs.toInt)) * periodSecs.toInt
  after : ∀ time ∈ times, start ≤ time
  served : Served (cellOf start periodSecs.toInt endTs.toInt) (times.map (cellOf start periodSecs.toInt))

/-- What the history of cranks, oldest first, says of the plan it leaves. -/
structure Gated (start : Int) (endTs periodSecs : Int64) (user : Pubkey) (plan : SellPlan Pubkey)
    (times : List Int) : Prop where
  terms : plan.user = user ∧ plan.endTs = endTs ∧ plan.periodSecs = periodSecs
  gate : ∀ (now : Int64) (k : Nat), InCell start periodSecs.toInt k now.toInt →
    (plan.checkDue now = .ok () ↔
      ¬ ∃ time ∈ times, ∃ j, InCell start periodSecs.toInt j time ∧
        min k (cellOf start periodSecs.toInt endTs.toInt) ≤ j)
  onGrid : ∃ j : Nat, plan.nextDueTs.toInt = start + j * periodSecs.toInt
  leastAfter : ∀ time, times.getLast? = some time → time < plan.nextDueTs.toInt ∧
    ∀ j : Nat, time < start + j * periodSecs.toInt → plan.nextDueTs.toInt ≤ start + j * periodSecs.toInt
  located : ∀ time ∈ times, ∃ j, InCell start periodSecs.toInt j time
  distinct : times.Pairwise fun earlier later => ∀ i j, InCell start periodSecs.toInt i earlier →
    InCell start periodSecs.toInt j later → i < j
  count : times.length ≤ cellOf start periodSecs.toInt endTs.toInt + 1
  late : (times.filter fun time => endTs.toInt < time).length ≤ 1

section Tracking

variable (start : Int) (endTs periodSecs : Int64) (user : Pubkey) (plan : SellPlan Pubkey) (times : List Int)
  (positive : 0 < periodSecs.toInt) (horizon : start ≤ endTs.toInt)

include positive horizon

theorem tracks_open_iff (tracks : PlanTracks start endTs periodSecs user plan times) (now : Int64)
    (after : start ≤ now.toInt) :
    plan.checkDue now = .ok () ↔
      ∀ time ∈ times, cellOf start periodSecs.toInt time <
        min (cellOf start periodSecs.toInt now.toInt) (cellOf start periodSecs.toInt endTs.toInt) := by
  rw [checkDue_ok, tracks.due, tracks.horizon, ← le_cellOf_iff start _ positive _ _ horizon,
    ← le_cellOf_iff start _ positive _ _ after, open_iff _ _ _ tracks.served]
  simp only [List.mem_map, forall_exists_index, and_imp, forall_apply_eq_imp_iff₂]

theorem tracks_crank (tracks : PlanTracks start endTs periodSecs user plan times) (now : Int64)
    (advanced : SellPlan Pubkey) (due : plan.checkDue now = .ok ()) (jumped : plan.advance now = .ok advanced) :
    PlanTracks start endTs periodSecs user advanced (now.toInt :: times) := by
  obtain ⟨open', passed⟩ := (checkDue_ok _ _ _).mp due
  obtain ⟨same, value⟩ := advance_ok plan advanced now passed jumped
  rw [tracks.due] at passed value
  rw [tracks.due, tracks.horizon, ← le_cellOf_iff start _ positive _ _ horizon] at open'
  rw [tracks.cadence, jump_past start _ positive _ _ passed] at value
  have after : start ≤ now.toInt := by
    have nonneg := Int.mul_nonneg (Int.natCast_nonneg (next (times.map (cellOf start periodSecs.toInt)))) positive.le
    omega
  rw [← le_cellOf_iff start _ positive _ _ after] at passed
  constructor
  case user => rw [same]; exact tracks.user
  case horizon => rw [same]; exact tracks.horizon
  case cadence => rw [same]; exact tracks.cadence
  case due => exact value
  case after =>
    intro time member
    rcases List.mem_cons.mp member with rfl | older
    next => exact after
    next => exact tracks.after time older
  case served => exact .serve _ _ tracks.served open' passed

theorem tracks_gated (tracks : PlanTracks start endTs periodSecs user plan times) :
    Gated start endTs periodSecs user plan times.reverse := by
  have inside (time : Int) (member : time ∈ times) := inCell_cellOf start _ time positive (tracks.after time member)
  constructor
  case terms => exact ⟨tracks.user, tracks.horizon, tracks.cadence⟩
  case gate =>
    intro now k here
    rw [tracks_open_iff start endTs periodSecs user plan times positive horizon tracks now
      (inCell_after _ _ _ _ positive here), cellOf_inCell _ _ _ _ positive here]
    constructor
    next =>
      intro earlier served
      rcases served with ⟨time, member, j, there, late⟩
      have before := earlier time (List.mem_reverse.mp member)
      rw [cellOf_inCell _ _ _ _ positive there] at before
      omega
    next =>
      intro none time member
      by_contra late
      exact none ⟨time, List.mem_reverse.mpr member, _, inside time member, Nat.le_of_not_lt late⟩
  case onGrid => exact ⟨_, tracks.due⟩
  case leastAfter =>
    intro time newest
    rw [List.getLast?_reverse] at newest
    obtain ⟨older, rfl⟩ := List.head?_eq_some_iff.mp newest
    have value := tracks.due
    obtain ⟨low, high⟩ := inside time List.mem_cons_self
    simp only [List.map_cons, next, Nat.cast_add, Nat.cast_one] at value
    rw [value]
    refine ⟨high, ?_⟩
    intro j beyond
    have above : cellOf start periodSecs.toInt time < j := by
      by_contra below
      have reached := (le_cellOf_iff start _ positive time j (tracks.after time List.mem_cons_self)).mp
        (Nat.le_of_not_lt below)
      omega
    have scaled : ((cellOf start periodSecs.toInt time : Int) + 1) * periodSecs.toInt ≤ j * periodSecs.toInt :=
      Int.mul_le_mul_of_nonneg_right (by omega) positive.le
    omega
  case located => exact fun time member => ⟨_, inside time (List.mem_reverse.mp member)⟩
  case distinct =>
    rw [List.pairwise_reverse]
    have descending := List.pairwise_map.mp (served_descending _ _ tracks.served)
    refine descending.imp ?_
    intro later earlier above i j there here
    rw [cellOf_inCell _ _ _ _ positive there, cellOf_inCell _ _ _ _ positive here] at above
    exact above
  case count =>
    have counted := served_length _ _ tracks.served
    simpa using counted
  case late =>
    rw [List.filter_reverse, List.length_reverse]
    cases times with
    | nil => exact Nat.zero_le _
    | cons newest older =>
      have none : older.filter (fun time => endTs.toInt < time) = [] := by
        apply List.filter_eq_nil_iff.mpr
        intro time member beyond
        have before := older_lt_last _ _ _ tracks.served _ (List.mem_map_of_mem member)
        have reached := (le_cellOf_iff start _ positive time _
          (tracks.after time (List.mem_cons_of_mem _ member))).mpr
          (((le_cellOf_iff start _ positive endTs.toInt _ horizon).mp le_rfl).trans (of_decide_eq_true beyond).le)
        omega
      rw [List.filter_cons, none]
      split <;> simp

end Tracking

section Runs

variable [DecidableEq Pubkey] [ProgramAddress Pubkey]

def WorldTracks (start : Int) (endTs periodSecs : Int64) (user : Pubkey) (world : World Pubkey)
    (times : List Int) : Prop :=
  ∃ plan, world.sellPlans (sellPlanPda user) = some plan ∧ PlanTracks start endTs periodSecs user plan times

theorem opened_tracks (world world' : World Pubkey) (ctx : Context Pubkey (PlanOwner Pubkey))
    (endTs periodSecs : Int64) (opened : openSellPlan world ctx endTs periodSecs = .ok world') :
    WorldTracks world.clock.toInt endTs periodSecs ctx.accounts.user world' [] := by
  obtain ⟨-, seeds, -, -, -, rfl⟩ := (openSellPlan_ok _ _ _ _ _).mp opened
  rw [seeds]
  refine ⟨_, setSellPlan_same _ _ _, rfl, rfl, rfl, ?_, ?_, .start⟩
  next => simp [next]
  next => exact fun _ member => absurd member List.not_mem_nil

theorem run_tracks (start : Int) (endTs periodSecs : Int64) (user : Pubkey) (world : World Pubkey)
    (events : List (Event Pubkey)) (positive : 0 < periodSecs.toInt) (horizon : start ≤ endTs.toInt)
    (unclosed : Throughout (fun world event => closes user world event = false) world events)
    (tracks : WorldTracks start endTs periodSecs user world []) :
    WorldTracks start endTs periodSecs user (world.run events) (crankTimes user world events).reverse := by
  have after := history_invariant (fun world event => closes user world event = false) user
    (WorldTracks start endTs periodSecs user) ?_ ?_ world events [] unclosed tracks
  next => rwa [List.append_nil] at after
  next =>
    intro world event times quiet kept tracked
    rcases tracked with ⟨plan, present, tracks⟩
    exact ⟨plan, quiet_plan user world event plan present quiet kept, tracks⟩
  next =>
    intro world event times cranked _ tracked
    rcases tracked with ⟨plan, present, tracks⟩
    obtain ⟨due, advanced, jumped, stored⟩ := crank_plan user world event plan present cranked
    exact ⟨advanced, stored, tracks_crank start endTs periodSecs user plan times positive horizon tracks
      world.clock advanced due jumped⟩

theorem completed_quiet (user : Pubkey) (world : World Pubkey) (events : List (Event Pubkey))
    (plan : SellPlan Pubkey) (present : world.sellPlans (sellPlanPda user) = some plan)
    (completed : plan.endTs.toInt < plan.nextDueTs.toInt)
    (unclosed : Throughout (fun world event => closes user world event = false) world events) :
    crankTimes user world events = [] := by
  apply crankTimes_nil _ user (fun world => world.sellPlans (sellPlanPda user) = some plan) _ world events
    unclosed present
  intro world event present kept
  have quiet : cranks user world event = false := by
    by_contra cranked
    rw [Bool.not_eq_false] at cranked
    have due := (crank_plan user world event plan present cranked).1
    have open' := ((checkDue_ok _ _ _).mp due).1
    omega
  exact ⟨quiet, quiet_plan user world event plan present quiet kept⟩

theorem closed_quiet (user : Pubkey) (world world' : World Pubkey) (ctx : Context Pubkey (PlanOwner Pubkey))
    (events : List (Event Pubkey)) (owner : ctx.accounts.user = user)
    (closed : closeSellPlan world ctx = .ok world')
    (unopened : Throughout (fun world event => opens user world event = false) world' events) :
    crankTimes user world' events = [] := by
  obtain ⟨seeds, -, rfl⟩ := closeSellPlan_ok _ _ _ closed
  apply crankTimes_nil _ user (fun world => world.sellPlans (sellPlanPda user) = none) _ _ events unopened
  next => rw [seeds, owner, setSellPlan_same]
  next => exact fun world event absent kept => absent_plan user world event absent kept

/-- The gate of a plan over every run since `open_sell_plan`, until and after `close_sell_plan`. -/
theorem schedule_gate (world world' : World Pubkey) (ctx : Context Pubkey (PlanOwner Pubkey))
    (endTs periodSecs : Int64) (opened : openSellPlan world ctx endTs periodSecs = .ok world') :
    (∀ events, Throughout (fun world event => closes ctx.accounts.user world event = false) world' events →
      ∃ plan, (world'.run events).sellPlans (sellPlanPda ctx.accounts.user) = some plan ∧
        Gated world.clock.toInt endTs periodSecs ctx.accounts.user plan
          (crankTimes ctx.accounts.user world' events) ∧
        (endTs.toInt < plan.nextDueTs.toInt → ∀ more,
          Throughout (fun world event => closes ctx.accounts.user world event = false) (world'.run events) more →
          crankTimes ctx.accounts.user (world'.run events) more = [])) ∧
    (∀ open' closed closing events, closing.accounts.user = ctx.accounts.user →
      closeSellPlan open' closing = .ok closed →
      Throughout (fun world event => opens ctx.accounts.user world event = false) closed events →
      crankTimes ctx.accounts.user closed events = []) := by
  obtain ⟨-, -, -, ⟨least, -⟩, later, -⟩ := (openSellPlan_ok _ _ _ _ _).mp opened
  have positive : 0 < periodSecs.toInt := by omega
  have horizon : world.clock.toInt ≤ endTs.toInt := by omega
  constructor
  next =>
    intro events unclosed
    obtain ⟨plan, present, tracks⟩ := run_tracks _ _ _ _ world' events positive horizon unclosed
      (opened_tracks world world' ctx endTs periodSecs opened)
    have gated := tracks_gated _ _ _ _ plan _ positive horizon tracks
    rw [List.reverse_reverse] at gated
    refine ⟨plan, present, gated, ?_⟩
    intro completed more still
    rw [← tracks.horizon] at completed
    exact completed_quiet _ _ more plan present completed still
  next =>
    intro open' closed closing events owner accepted unopened
    exact closed_quiet _ open' closed closing events owner accepted unopened

end Runs

section Minutes

def ownPlan : Context Address (PlanOwner Address) := Address.context ⟨Terms.user, .sellPlan Terms.user⟩ [23]

def unopenedWorld : World Address :=
  (((Terms.dollar.genesis ((Rogue.seller.ledger Ledger.empty 1000 0).setAccount
      (wallet Terms.user Terms.targetMint)
      (some { mint := Terms.targetMint, owner := Terms.user, amount := 15000 })).accounts).setConfig
        Terms.dollar.config).setFeeConfig Terms.dollar.feeConfig)

def crankEvent (goal : Nat) : Event Address :=
  .call (.executeSell (Rogue.seller.context (Rogue.seller.sellAccounts Terms.swapProgram)) 1000 []
    (Rogue.seller.venue 0 0 goal))

def ownSigned (key : Address) : Bool := decide (key = Terms.user)

theorem ownSigned_underived (user : Address) : ownSigned (buyAuthority user) = false := rfl

theorem ownSigned_unassociated (holder mint : Address) : ownSigned (AssociatedAddress.associated holder mint) = false :=
  rfl

def refill : Event Address :=
  .tokens ownSigned ownSigned_underived ownSigned_unassociated
    [.transfer (wallet Terms.user Terms.targetMint) (transient Terms.user Terms.targetMint) Terms.user 1000]

-- The crank at 30 finds the cell served, and nobody cranks in the second cell.
def minutes : List (Event Address) :=
  [.tick 10, crankEvent 1000, refill, .tick 30, crankEvent 2000, .tick 130, crankEvent 2000]

def afterwards : List (Event Address) := [refill, .tick 190, crankEvent 3000]

def openedWorld : World Address :=
  unopenedWorld.setSellPlan (.sellPlan Terms.user) (some { Terms.dollar.plan with endTs := 150 })

theorem schedule_gate_minutes :
    ∃ plan closed, openSellPlan unopenedWorld ownPlan 150 60 = .ok openedWorld ∧
      (openedWorld.run minutes).sellPlans (.sellPlan Terms.user) = some plan ∧
      Gated 0 150 60 Terms.user plan [10, 130] ∧ crankTimes Terms.user (openedWorld.run minutes) afterwards = [] ∧
      closeSellPlan (openedWorld.run minutes) ownPlan = .ok closed ∧
      crankTimes Terms.user closed afterwards = [] := by
  have accepted : openSellPlan unopenedWorld ownPlan 150 60 = .ok openedWorld :=
    (openSellPlan_ok _ _ _ _ _).mpr ⟨List.mem_singleton_self _, rfl, rfl, by decide, by decide, rfl⟩
  obtain ⟨before, after⟩ := schedule_gate unopenedWorld openedWorld ownPlan 150 60 accepted
  obtain ⟨plan, present, gated, complete⟩ := before minutes ⟨rfl, rfl, rfl, rfl, rfl, rfl, rfl, trivial⟩
  have served : crankTimes Terms.user openedWorld minutes = [10, 130] := by decide +kernel
  have history : crankTimes ownPlan.accounts.user openedWorld minutes = [10, 130] := served
  rw [history] at gated
  have completed : (150 : Int64).toInt < plan.nextDueTs.toInt := by
    obtain ⟨j, grid⟩ := gated.onGrid
    obtain ⟨later, -⟩ := gated.leastAfter 130 rfl
    have horizon : (150 : Int64).toInt = 150 := rfl
    have cadence : (60 : Int64).toInt = 60 := rfl
    have start : unopenedWorld.clock.toInt = 0 := rfl
    rw [cadence] at grid
    omega
  have closes : (closeSellPlan (openedWorld.run minutes) ownPlan).isOk = true := by decide +kernel
  obtain ⟨closed, closes⟩ := (isOk_iff _).mp closes
  exact ⟨plan, closed, accepted, present, gated, complete completed afterwards ⟨rfl, rfl, rfl, trivial⟩, closes,
    after _ closed ownPlan afterwards rfl closes ⟨rfl, rfl, rfl, trivial⟩⟩

end Minutes

end RecurringBuy
