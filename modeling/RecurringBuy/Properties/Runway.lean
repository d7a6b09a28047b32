import RecurringBuy.Properties.Gate
import RecurringBuy.Properties.RogueCall
import RecurringBuy.Shared.Amortization

set_option autoImplicit false

namespace RecurringBuy

open Checked SplToken ProgramAddress SkipSchedule

variable {Pubkey : Type}

section Periods

theorem periods_two (plan : SellPlan Pubkey) (now periods : Int64) (formed : plan.WellFormed)
    (early : now.toInt + 2 * plan.periodSecs.toInt ≤ plan.endTs.toInt)
    (left : plan.remainingPeriods now = .ok periods) : 2 ≤ periods.toInt := by
  have least := formed.minPeriod
  have most := formed.maxPeriod
  have value := (remainingPeriods_ok plan now periods formed).mp left
  have whole : 2 ≤ min (plan.endTs.toInt - now.toInt) (2 ^ 63 - 1) / plan.periodSecs.toInt := by
    apply (Int.le_ediv_iff_mul_le (by omega)).mpr
    omega
  omega

-- Later in the cell at most one period of the remaining ones is broken.
theorem periods_cell (start : Int) (plan : SellPlan Pubkey) (now periods : Int64) (formed : plan.WellFormed)
    (unix : 0 ≤ start) (after : start ≤ now.toInt) (horizon : start ≤ plan.endTs.toInt)
    (left : plan.remainingPeriods now = .ok periods) :
    1 ≤ periods.toInt ∧ (cellOf start plan.periodSecs.toInt plan.endTs.toInt : Int) -
      cellOf start plan.periodSecs.toInt now.toInt - 1 ≤ periods.toInt := by
  have positive : 0 < plan.periodSecs.toInt := by
    have := formed.minPeriod
    omega
  have value := (remainingPeriods_ok plan now periods formed).mp left
  have bounded := plan.endTs.toInt_lt
  rw [min_eq_left (by omega)] at value
  refine ⟨by omega, ?_⟩
  have endLow := (le_cellOf_iff start _ positive plan.endTs.toInt _ horizon).mp le_rfl
  have nowHigh := ((cellOf_iff start _ positive now.toInt _ after).mp rfl).2
  have whole : (cellOf start plan.periodSecs.toInt plan.endTs.toInt : Int) -
      cellOf start plan.periodSecs.toInt now.toInt - 1 ≤ (plan.endTs.toInt - now.toInt) / plan.periodSecs.toInt := by
    apply (Int.le_ediv_iff_mul_le positive).mpr
    linarith
  omega

theorem capped_share (plan : SellPlan Pubkey) (pot amountIn : UInt64) (now : Int64) (formed : plan.WellFormed)
    (capped : plan.checkCap pot amountIn now = .ok ()) :
    ∃ periods, plan.remainingPeriods now = .ok periods ∧ 1 ≤ periods.toInt ∧
      (amountIn.toNat : Int) * periods.toInt ≤ pot.toNat + amountIn.toNat := by
  obtain ⟨periods, left, within⟩ := (checkCap_ok _ _ _ _ formed _).mp capped
  have value := (remainingPeriods_ok plan now periods formed).mp left
  have positive : 1 ≤ periods.toInt := by omega
  refine ⟨periods, left, positive, ?_⟩
  have scaled := (Nat.le_div_iff_mul_le (by omega)).mp within
  have cast : ((periods.toInt.toNat : Nat) : Int) = periods.toInt := Int.toNat_of_nonneg (by omega)
  rw [← cast]
  exact_mod_cast scaled

end Periods

variable [DecidableEq Pubkey] [ProgramAddress Pubkey]

/-- A keeper takes the whole remainder only within the last two periods before `end_ts`, which leave at most
two payouts owed. -/
theorem whole_pot_late (world world' : World Pubkey) (ctx : Context Pubkey (ExecuteSell Pubkey)) (minOut : UInt64)
    (swapData : List UInt8) (venue : Venue Pubkey) (event : SellExecuted Pubkey) (plan advanced : SellPlan Pubkey)
    (reachable : world.Reachable) (planLoaded : world.sellPlans (sellPlanPda ctx.accounts.user) = some plan)
    (planStored : world'.sellPlans (sellPlanPda ctx.accounts.user) = some advanced)
    (accepted : executeSell world ctx minOut swapData venue = .ok (world', event))
    (divisible : 2 ≤ world.ledger.balance ctx.accounts.userTargetAta + event.amountIn.toNat)
    (early : world.clock.toInt + 2 * plan.periodSecs.toInt ≤ plan.endTs.toInt ∨
      advanced.nextDueTs.toInt + 2 * plan.periodSecs.toInt ≤ plan.endTs.toInt) :
    event.amountIn.toNat < world.ledger.balance ctx.accounts.userTargetAta + event.amountIn.toNat := by
  obtain ⟨cfg, feeConfig, plan', advanced', source, pot, dest, fee, netIn, floor, out, skimmed, course, rfl⟩ :=
    (executeSell_ok _ _ _ _ _ _ _).mp accepted
  have formed := (reachable_wellFormed world reachable).sellPlans _ plan planLoaded
  rw [← course.planSeeds.1] at planLoaded planStored
  obtain rfl : plan = plan' := Option.some.inj (planLoaded.symm.trans course.planLoaded)
  rw [course.changed] at planStored
  have same : advanced = advanced' := by simpa [World.setSellPlan] using planStored.symm
  have due := ((checkDue_ok _ _ _).mp course.due).2
  have jump := (advance_ok plan advanced' world.clock due course.advancedValue).2
  have least := formed.minPeriod
  have beyond : world.clock.toInt < advanced.nextDueTs.toInt := by
    have high := Int.lt_ediv_add_one_mul_self (world.clock.toInt - plan.nextDueTs.toInt)
      (show 0 < plan.periodSecs.toInt by omega)
    rw [same, jump]
    omega
  have now : world.clock.toInt + 2 * plan.periodSecs.toInt ≤ plan.endTs.toInt := by
    rcases early with now | owed <;> omega
  obtain ⟨periods, left, -, share⟩ := capped_share plan _ _ _ formed course.capped
  have two := periods_two plan world.clock periods formed now left
  have potBalance := Ledger.balance_some _ _ _ course.potAccount
  have doubled : (source.amount.toNat : Int) * 2 ≤ source.amount.toNat * periods.toInt :=
    Int.mul_le_mul_of_nonneg_left two (Int.natCast_nonneg _)
  have amount : 0 < source.amount.toNat := course.pulled
  simp only [potBalance] at divisible ⊢
  omega

section Sample

-- 1000 units were pulled and `pot` units stay in the wallet; the plan runs from 0 to `endTs` by the minute.
def pottedWorld (endTs : Int64) (pot : UInt64) : World Address :=
  { Terms.dollar with endTs := endTs }.deployed
    ((Rogue.seller.ledger Ledger.empty 1000 0).setAccount (wallet Terms.user Terms.targetMint)
      (some { mint := Terms.targetMint, owner := Terms.user, amount := pot })).accounts

theorem whole_pot_late_minutes :
    ∃ world' event, executeSell (pottedWorld 1000 15000)
        (Rogue.seller.context (Rogue.seller.sellAccounts Terms.swapProgram)) 1000 [] (Rogue.seller.venue 0 0 1000) =
          .ok (world', event) ∧ event.amountIn.toNat < 15000 + event.amountIn.toNat := by
  have facts : (executeSell (pottedWorld 1000 15000)
      (Rogue.seller.context (Rogue.seller.sellAccounts Terms.swapProgram)) 1000 [] (Rogue.seller.venue 0 0 1000)).map
        (fun result => (result.2.amountIn, result.1.sellPlans (sellPlanPda Terms.user))) =
          .ok (1000, some { user := Terms.user, endTs := 1000, periodSecs := 60, nextDueTs := 60, bump := 253 }) := by
    decide
  obtain ⟨⟨world', event⟩, accepted, value⟩ := (map_ok _ _ _).mp facts
  obtain ⟨amount, stored⟩ := Prod.mk.inj value
  have amountIn : event.amountIn = 1000 := amount
  have potted : (pottedWorld 1000 15000).ledger.balance (wallet Terms.user Terms.targetMint) = 15000 := by decide
  refine ⟨world', event, accepted, ?_⟩
  have bounded := whole_pot_late (pottedWorld 1000 15000) world'
    (Rogue.seller.context (Rogue.seller.sellAccounts Terms.swapProgram)) 1000 [] (Rogue.seller.venue 0 0 1000) event
    { user := Terms.user, endTs := 1000, periodSecs := 60, nextDueTs := 0, bump := 253 } _
    (Terms.deployed_reachable _ _) (by decide) stored accepted (by rw [amountIn]; exact Nat.le_add_left _ _)
    (.inl (by decide))
  rwa [← potted]

-- The first crank of the shortest plan takes the whole pot, and the payout at 60 is still owed.
theorem whole_pot_early :
    ¬ ∀ world' event, executeSell (pottedWorld 61 0)
      (Rogue.seller.context (Rogue.seller.sellAccounts Terms.swapProgram)) 1000 [] (Rogue.seller.venue 0 0 1000) =
        .ok (world', event) →
      2 ≤ (pottedWorld 61 0).ledger.balance (wallet Terms.user Terms.targetMint) + event.amountIn.toNat →
      (∀ advanced, world'.sellPlans (sellPlanPda Terms.user) = some advanced →
        advanced.nextDueTs ≤ advanced.endTs) →
      event.amountIn.toNat <
        (pottedWorld 61 0).ledger.balance (wallet Terms.user Terms.targetMint) + event.amountIn.toNat := by
  intro always
  have facts : (executeSell (pottedWorld 61 0)
      (Rogue.seller.context (Rogue.seller.sellAccounts Terms.swapProgram)) 1000 [] (Rogue.seller.venue 0 0 1000)).map
        (fun result => (result.2.amountIn, result.1.sellPlans (sellPlanPda Terms.user))) =
          .ok (1000, some { user := Terms.user, endTs := 61, periodSecs := 60, nextDueTs := 60, bump := 253 }) := by
    decide
  have empty : (pottedWorld 61 0).ledger.balance (wallet Terms.user Terms.targetMint) = 0 := by decide
  obtain ⟨⟨world', event⟩, accepted, value⟩ := (map_ok _ _ _).mp facts
  obtain ⟨amount, stored⟩ := Prod.mk.inj value
  have amountIn : event.amountIn = 1000 := amount
  have bounded := always world' event accepted (by rw [amountIn]; decide) (by
    intro advanced present
    obtain rfl := Option.some.inj (stored.symm.trans present)
    decide)
  omega

end Sample

section Drain

/-- A crank sells what was pulled and takes nothing else from the wallet; no other event lowers the holding. -/
def DrainsByCranks (user mint : Pubkey) (world : World Pubkey) (event : Event Pubkey) : Prop :=
  if cranks user world event = true then
    world.ledger.balance (wallet user mint) ≤ (world.step event).ledger.balance (wallet user mint)
  else holding world.ledger user mint ≤ holding (world.step event).ledger user mint

/-- At least `n - 1 - next` of the `n - 1` shares of `opening` are left. -/
def SharesLeft (start : Int) (endTs periodSecs : Int64) (user mint : Pubkey) (opening : Nat) (world : World Pubkey)
    (times : List Int) : Prop :=
  (opening : Int) * ((cellOf start periodSecs.toInt endTs.toInt : Int) - 1 -
      next (times.map (cellOf start periodSecs.toInt))) ≤
    holding world.ledger user mint * ((cellOf start periodSecs.toInt endTs.toInt : Int) - 1)

variable (start : Int) (endTs periodSecs : Int64) (user mint : Pubkey) (opening : Nat) (world : World Pubkey)
  (event : Event Pubkey) (times : List Int)

theorem crank_share (plan : SellPlan Pubkey) (formed : plan.WellFormed)
    (present : world.sellPlans (sellPlanPda user) = some plan) (targets : Targets mint world)
    (cranked : cranks user world event = true) :
    ∃ (amountIn : Nat) (periods : Int64), plan.remainingPeriods world.clock = .ok periods ∧
      (amountIn : Int) * periods.toInt ≤ holding world.ledger user mint ∧
      holding world.ledger user mint = world.ledger.balance (wallet user mint) + amountIn := by
  obtain ⟨ctx, minOut, swapData, venue, cfg, feeConfig, plan', advanced, source, pot, dest, fee, netIn, floor, out,
    skimmed, owner, course⟩ := cranks_ok user world event cranked
  have loaded := course.planLoaded
  rw [course.planSeeds.1, owner, present] at loaded
  obtain rfl : plan = plan' := Option.some.inj loaded
  have sourceAddress := course.transientAddress
  rw [course.authoritySeeds, owner, targets cfg course.configLoaded] at sourceAddress
  have potAddress := course.potAddress
  rw [owner, targets cfg course.configLoaded] at potAddress
  have sourceBalance : world.ledger.balance (transient user mint) = source.amount.toNat := by
    rw [transient, ← sourceAddress]
    exact Ledger.balance_some _ _ _ course.transientAccount
  have potBalance : world.ledger.balance (wallet user mint) = pot.amount.toNat := by
    rw [wallet, ← potAddress]
    exact Ledger.balance_some _ _ _ course.potAccount
  obtain ⟨periods, left, -, share⟩ := capped_share plan _ _ _ formed course.capped
  refine ⟨source.amount.toNat, periods, left, ?_, ?_⟩
  next =>
    rw [holding, sourceBalance, potBalance]
    exact_mod_cast share
  next => rw [holding, sourceBalance]

theorem crank_sharesLeft (least : 60 ≤ periodSecs.toInt) (most : periodSecs.toInt ≤ 366 * 86400) (unix : 0 ≤ start)
    (horizon : start + periodSecs.toInt ≤ endTs.toInt)
    (tracks : WorldTracks start endTs periodSecs user world times) (targets : Targets mint world)
    (cranked : cranks user world event = true) (drains : DrainsByCranks user mint world event)
    (left : SharesLeft start endTs periodSecs user mint opening world times) :
    SharesLeft start endTs periodSecs user mint opening (world.step event) (world.clock.toInt :: times) := by
  obtain ⟨plan, present, tracked⟩ := tracks
  have formed : plan.WellFormed := ⟨by rw [tracked.cadence]; exact least, by rw [tracked.cadence]; exact most⟩
  have positive : 0 < periodSecs.toInt := by omega
  obtain ⟨due, -⟩ := crank_plan user world event plan present cranked
  obtain ⟨-, passed⟩ := (checkDue_ok _ _ _).mp due
  rw [tracked.due] at passed
  have nonneg := Int.mul_nonneg (Int.natCast_nonneg (next (times.map (cellOf start periodSecs.toInt)))) positive.le
  have after : start ≤ world.clock.toInt := by omega
  rw [← le_cellOf_iff start _ positive _ _ after] at passed
  obtain ⟨amountIn, periods, remaining, share, pot⟩ := crank_share user mint world event plan formed present targets
    cranked
  obtain ⟨one, enough⟩ := periods_cell start plan world.clock periods formed unix after
    (by rw [tracked.horizon]; omega) remaining
  rw [tracked.cadence, tracked.horizon] at enough
  have whole : 1 ≤ cellOf start periodSecs.toInt endTs.toInt := by
    apply (le_cellOf_iff start _ positive _ _ (by omega)).mpr
    push_cast
    linarith
  rw [DrainsByCranks, if_pos cranked] at drains
  have kept : (holding world.ledger user mint : Int) - amountIn ≤ holding (world.step event).ledger user mint := by
    have grown : world.ledger.balance (wallet user mint) ≤ holding (world.step event).ledger user mint :=
      drains.trans (Nat.le_add_right _ _)
    omega
  unfold SharesLeft at left ⊢
  simp only [List.map_cons, next, Nat.cast_add, Nat.cast_one]
  generalize cellOf start periodSecs.toInt endTs.toInt = cells at *
  generalize cellOf start periodSecs.toInt world.clock.toInt = cell at *
  have share' (_ : (0 : Int) < cells - cell - 1) :
      (amountIn : Int) * (cells - cell - 1) ≤ holding world.ledger user mint :=
    (Int.mul_le_mul_of_nonneg_left enough (Int.natCast_nonneg _)).trans share
  have before : (opening : Int) * (cells - cell - 1) ≤ holding world.ledger user mint * (cells - 1) :=
    (Int.mul_le_mul_of_nonneg_left (by omega) (Int.natCast_nonneg _)).trans left
  have step := Amortization.drain_step opening (holding world.ledger user mint)
    (holding (world.step event).ledger user mint) (cells - cell - 1) (cells - 1) amountIn (Int.natCast_nonneg _)
    (Int.natCast_nonneg _) (by omega) share' kept before
  have same : (cells : Int) - cell - 1 - 1 = cells - 1 - (cell + 1) := by ring
  rwa [same] at step

theorem quiet_sharesLeft (horizon : start + periodSecs.toInt ≤ endTs.toInt) (positive : 0 < periodSecs.toInt)
    (quiet : cranks user world event = false) (drains : DrainsByCranks user mint world event)
    (left : SharesLeft start endTs periodSecs user mint opening world times) :
    SharesLeft start endTs periodSecs user mint opening (world.step event) times := by
  have whole : 1 ≤ cellOf start periodSecs.toInt endTs.toInt := by
    apply (le_cellOf_iff start _ positive _ _ (by omega)).mpr
    push_cast
    linarith
  rw [DrainsByCranks, quiet, if_neg Bool.false_ne_true] at drains
  refine left.trans ?_
  exact Int.mul_le_mul_of_nonneg_right (by exact_mod_cast drains) (by omega)

end Drain

/-- However a plan is cranked, the holding does not fall below the schedule by more than the cell of the last
crank allows. -/
theorem drain_bound (world world' : World Pubkey) (ctx : Context Pubkey (PlanOwner Pubkey)) (endTs periodSecs : Int64)
    (unix : 0 ≤ world.clock.toInt) (opened : openSellPlan world ctx endTs periodSecs = .ok world')
    (events : List (Event Pubkey)) (mint : Pubkey)
    (configured : ∀ cfg, (world'.run events).config = some cfg → cfg.targetMint = mint)
    (drains : Throughout (fun world event => closes ctx.accounts.user world event = false ∧
      DrainsByCranks ctx.accounts.user mint world event) world' events)
    (time : Int) (latest : (crankTimes ctx.accounts.user world' events).getLast? = some time) (k : Nat)
    (inside : InCell world.clock.toInt periodSecs.toInt k time) :
    (holding world'.ledger ctx.accounts.user mint : Int) *
        ((cellOf world.clock.toInt periodSecs.toInt endTs.toInt : Int) - k - 2) ≤
      holding (world'.run events).ledger ctx.accounts.user mint *
        ((cellOf world.clock.toInt periodSecs.toInt endTs.toInt : Int) - 1) := by
  obtain ⟨-, -, -, ⟨least, most⟩, later, -⟩ := (openSellPlan_ok _ _ _ _ _).mp opened
  have positive : 0 < periodSecs.toInt := by omega
  let inv (world'' : World Pubkey) (times : List Int) : Prop :=
    WorldTracks world.clock.toInt endTs periodSecs ctx.accounts.user world'' times ∧
      SharesLeft world.clock.toInt endTs periodSecs ctx.accounts.user mint
        (holding world'.ledger ctx.accounts.user mint) world'' times
  have start : inv world' [] := by
    refine ⟨opened_tracks world world' ctx endTs periodSecs opened, ?_⟩
    simp [SharesLeft, next]
  have reached := history_invariant _ ctx.accounts.user inv ?_ ?_ world' events []
    (throughout_targets mint _ world' events configured drains) start
  next =>
    rw [List.append_nil] at reached
    rw [← List.head?_reverse] at latest
    obtain ⟨older, history⟩ := List.head?_eq_some_iff.mp latest
    have left := reached.2
    rw [history] at left
    simp only [SharesLeft, List.map_cons, next, cellOf_inCell _ _ _ _ positive inside, Nat.cast_add,
      Nat.cast_one] at left
    have same : (cellOf world.clock.toInt periodSecs.toInt endTs.toInt : Int) - 1 - (k + 1) =
        (cellOf world.clock.toInt periodSecs.toInt endTs.toInt : Int) - k - 2 := by ring
    rwa [same] at left
  next =>
    intro world'' event times quiet drained held
    rcases drained with ⟨⟨unclosed, drains⟩, _⟩
    rcases held with ⟨⟨plan, present, tracked⟩, left⟩
    exact ⟨⟨plan, quiet_plan _ _ event plan present quiet unclosed, tracked⟩,
      quiet_sharesLeft _ _ _ _ _ _ _ event times later.le positive quiet drains left⟩
  next =>
    intro world'' event times cranked drained held
    rcases drained with ⟨⟨_, drains⟩, targets⟩
    rcases held with ⟨tracks, left⟩
    refine ⟨?_, crank_sharesLeft _ _ _ _ _ _ _ event times least most unix later.le tracks targets cranked drains
      left⟩
    obtain ⟨plan, present, tracked⟩ := tracks
    obtain ⟨due, advanced, jumped, stored⟩ := crank_plan _ _ event plan present cranked
    exact ⟨advanced, stored, tracks_crank _ _ _ _ plan times positive (by omega) tracked world''.clock advanced due
      jumped⟩

section DrainSample

-- 16 periods, 16000 units, and one crank of 1000 in cell 0.
theorem drain_bound_minutes :
    ∃ opened, openSellPlan unopenedWorld (Address.context ⟨Terms.user, .sellPlan Terms.user⟩ [23]) 1000 60 =
        .ok opened ∧
      (holding opened.ledger Terms.user Terms.targetMint : Int) * ((cellOf 0 60 1000 : Int) - (0 : Nat) - 2) ≤
        holding (opened.run [crankEvent 1000]).ledger Terms.user Terms.targetMint * ((cellOf 0 60 1000 : Int) - 1) := by
  have accepted := (openSellPlan_ok unopenedWorld _ (Address.context ⟨Terms.user, .sellPlan Terms.user⟩ [23])
    1000 60).mpr ⟨List.mem_singleton_self _, rfl, rfl, by decide, by decide, rfl⟩
  refine ⟨_, accepted, drain_bound unopenedWorld _ _ 1000 60 (by decide) accepted [crankEvent 1000] Terms.targetMint ?_
    ⟨⟨rfl, ?_⟩, trivial⟩ 0 ?_ 0 ⟨by decide, by decide⟩⟩
  next =>
    intro cfg configured
    have known := congrArg (Option.map Config.targetMint) configured
    exact Option.some.inj (known.symm.trans (by decide))
  next =>
    unfold DrainsByCranks
    decide
  next => decide

end DrainSample

end RecurringBuy
