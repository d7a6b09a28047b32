import RecurringBuy.Program.Step

set_option autoImplicit false

namespace RecurringBuy

open Checked SplToken ProgramAddress

variable {Pubkey : Type} [DecidableEq Pubkey] [ProgramAddress Pubkey]

def cranks (user : Pubkey) (world : World Pubkey) : Event Pubkey → Bool
  | .call (.executeSell ctx minOut swapData venue) =>
      decide (ctx.accounts.user = user) && (executeSell world ctx minOut swapData venue).isOk
  | _ => false

def opens (user : Pubkey) (world : World Pubkey) : Event Pubkey → Bool
  | .call (.openSellPlan ctx endTs periodSecs) =>
      decide (ctx.accounts.user = user) && (openSellPlan world ctx endTs periodSecs).isOk
  | _ => false

def closes (user : Pubkey) (world : World Pubkey) : Event Pubkey → Bool
  | .call (.closeSellPlan ctx) => decide (ctx.accounts.user = user) && (closeSellPlan world ctx).isOk
  | _ => false

def crankTimes (user : Pubkey) : World Pubkey → List (Event Pubkey) → List Int
  | _, [] => []
  | world, event :: rest =>
      if cranks user world event then world.clock.toInt :: crankTimes user (world.step event) rest
      else crankTimes user (world.step event) rest

/-- `holds` is true of every event of the run, in the world where it happens. -/
def Throughout (holds : World Pubkey → Event Pubkey → Prop) : World Pubkey → List (Event Pubkey) → Prop
  | _, [] => True
  | world, event :: rest => holds world event ∧ Throughout holds (world.step event) rest

section Induction

variable (holds : World Pubkey → Event Pubkey → Prop)

theorem run_invariant (inv : World Pubkey → Prop)
    (step : ∀ world event, inv world → holds world event → inv (world.step event))
    (world : World Pubkey) (events : List (Event Pubkey)) (throughout : Throughout holds world events)
    (start : inv world) : inv (world.run events) := by
  induction events generalizing world with
  | nil => exact start
  | cons event rest ih => exact ih (world.step event) throughout.2 (step world event start throughout.1)

theorem throughout_invariant (inv : World Pubkey → Prop) (every : World Pubkey → Event Pubkey → Prop)
    (step : ∀ world event, inv world → holds world event → every world event ∧ inv (world.step event))
    (world : World Pubkey) (events : List (Event Pubkey)) (throughout : Throughout holds world events)
    (start : inv world) : Throughout every world events := by
  induction events generalizing world with
  | nil => trivial
  | cons event rest ih =>
    obtain ⟨here, kept⟩ := step world event start throughout.1
    exact ⟨here, ih (world.step event) throughout.2 kept⟩

theorem throughout_kept_iff (inv : World Pubkey → Prop) (good : World Pubkey → Event Pubkey → Prop)
    (step : ∀ world event, inv world → holds world event → (inv (world.step event) ↔ good world event))
    (world : World Pubkey) (events : List (Event Pubkey)) (throughout : Throughout holds world events)
    (start : inv world) :
    Throughout (fun world event => inv (world.step event)) world events ↔ Throughout good world events := by
  induction events generalizing world with
  | nil => exact Iff.rfl
  | cons event rest ih =>
    have here := step world event start throughout.1
    constructor
    next =>
      intro kept
      exact ⟨here.mp kept.1, (ih (world.step event) throughout.2 kept.1).mp kept.2⟩
    next =>
      intro met
      have next := here.mpr met.1
      exact ⟨next, (ih (world.step event) throughout.2 next).mpr met.2⟩

theorem throughout_and (holds' : World Pubkey → Event Pubkey → Prop) (world : World Pubkey)
    (events : List (Event Pubkey)) (first : Throughout holds world events) (second : Throughout holds' world events) :
    Throughout (fun world event => holds world event ∧ holds' world event) world events := by
  induction events generalizing world with
  | nil => trivial
  | cons event rest ih =>
    exact ⟨⟨first.1, second.1⟩, ih (world.step event) first.2 second.2⟩

-- An invariant of the world and the crank times so far, newest first.
theorem history_invariant (user : Pubkey) (inv : World Pubkey → List Int → Prop)
    (quiet : ∀ world event times, cranks user world event = false → holds world event → inv world times →
      inv (world.step event) times)
    (crank : ∀ world event times, cranks user world event = true → holds world event → inv world times →
      inv (world.step event) (world.clock.toInt :: times))
    (world : World Pubkey) (events : List (Event Pubkey)) (times : List Int)
    (throughout : Throughout holds world events) (start : inv world times) :
    inv (world.run events) ((crankTimes user world events).reverse ++ times) := by
  induction events generalizing world times with
  | nil => exact start
  | cons event rest ih =>
    cases cranked : cranks user world event with
    | false =>
      simp only [crankTimes, cranked, Bool.false_eq_true, if_false]
      exact ih (world.step event) times throughout.2 (quiet world event times cranked throughout.1 start)
    | true =>
      simp only [crankTimes, cranked, if_true, List.reverse_cons, List.append_assoc, List.singleton_append]
      exact ih (world.step event) (world.clock.toInt :: times) throughout.2
        (crank world event times cranked throughout.1 start)

theorem crankTimes_nil (user : Pubkey) (inv : World Pubkey → Prop)
    (step : ∀ world event, inv world → holds world event →
      cranks user world event = false ∧ inv (world.step event))
    (world : World Pubkey) (events : List (Event Pubkey)) (throughout : Throughout holds world events)
    (start : inv world) : crankTimes user world events = [] := by
  induction events generalizing world with
  | nil => rfl
  | cons event rest ih =>
    obtain ⟨quiet, kept⟩ := step world event start throughout.1
    simp only [crankTimes, quiet, Bool.false_eq_true, if_false]
    exact ih (world.step event) throughout.2 kept

end Induction

section Steps

theorem isOk_iff {E A : Type} (result : Except E A) : result.isOk = true ↔ ∃ value, result = .ok value := by
  cases result <;> simp [Except.isOk, Except.toBool]

omit [ProgramAddress Pubkey] in
theorem setSellPlan_same (world : World Pubkey) (key : Pubkey) (plan : Option (SellPlan Pubkey)) :
    (world.setSellPlan key plan).sellPlans key = plan := by
  simp [World.setSellPlan]

omit [ProgramAddress Pubkey] in
theorem setSellPlan_other (world : World Pubkey) (key other : Pubkey) (plan : Option (SellPlan Pubkey))
    (different : other ≠ key) : (world.setSellPlan key plan).sellPlans other = world.sellPlans other := by
  simp [World.setSellPlan, different]

theorem step_ok (world world' : World Pubkey) (call : Call Pubkey) (accepted : world.execute call = .ok world') :
    world.step (.call call) = world' := by
  simp only [World.step, accepted]

theorem step_error (world : World Pubkey) (call : Call Pubkey) (error : Error)
    (refused : world.execute call = .error error) : world.step (.call call) = world := by
  simp only [World.step, refused]

theorem step_executeBuy (world world' : World Pubkey) (ctx : Context Pubkey (ExecuteBuy Pubkey)) (minOut : UInt64)
    (swapData : List UInt8) (venue : Venue Pubkey) (event : BuyExecuted Pubkey)
    (bought : executeBuy world ctx minOut swapData venue = .ok (world', event)) :
    world.step (.call (.executeBuy ctx minOut swapData venue)) = world' := by
  apply step_ok
  simp only [World.execute, map_ok]
  exact ⟨_, bought, rfl⟩

theorem step_executeSell (world world' : World Pubkey) (ctx : Context Pubkey (ExecuteSell Pubkey)) (minOut : UInt64)
    (swapData : List UInt8) (venue : Venue Pubkey) (event : SellExecuted Pubkey)
    (sold : executeSell world ctx minOut swapData venue = .ok (world', event)) :
    world.step (.call (.executeSell ctx minOut swapData venue)) = world' := by
  apply step_ok
  simp only [World.execute, map_ok]
  exact ⟨_, sold, rfl⟩

theorem cranks_ok (user : Pubkey) (world : World Pubkey) (event : Event Pubkey)
    (cranked : cranks user world event = true) :
    ∃ ctx minOut swapData venue cfg feeConfig plan advanced source pot dest fee netIn floor out skimmed,
      ctx.accounts.user = user ∧
      SellCourse world ctx minOut swapData venue (world.step event) cfg feeConfig plan advanced source pot dest
        fee netIn floor out skimmed := by
  cases event with
  | call call =>
    cases call with
    | executeSell ctx minOut swapData venue =>
      simp only [cranks, Bool.and_eq_true, decide_eq_true_eq, isOk_iff] at cranked
      obtain ⟨owner, ⟨world', event⟩, accepted⟩ := cranked
      obtain ⟨cfg, feeConfig, plan, advanced, source, pot, dest, fee, netIn, floor, out, skimmed, course, -⟩ :=
        (executeSell_ok _ _ _ _ _ _ _).mp accepted
      rw [step_executeSell world world' ctx minOut swapData venue event accepted]
      exact ⟨ctx, minOut, swapData, venue, cfg, feeConfig, plan, advanced, source, pot, dest, fee, netIn, floor,
        out, skimmed, owner, course⟩
    | _ => cases cranked
  | _ => cases cranked

theorem opens_ok (user : Pubkey) (world : World Pubkey) (event : Event Pubkey)
    (opened : opens user world event = true) :
    ∃ ctx endTs periodSecs world', ctx.accounts.user = user ∧
      openSellPlan world ctx endTs periodSecs = .ok world' := by
  cases event with
  | call call =>
    cases call with
    | openSellPlan ctx endTs periodSecs =>
      simp only [opens, Bool.and_eq_true, decide_eq_true_eq, isOk_iff] at opened
      obtain ⟨owner, world', accepted⟩ := opened
      exact ⟨ctx, endTs, periodSecs, world', owner, accepted⟩
    | _ => cases opened
  | _ => cases opened

theorem closes_ok (user : Pubkey) (world : World Pubkey) (event : Event Pubkey)
    (closed : closes user world event = true) :
    ∃ ctx world', ctx.accounts.user = user ∧ closeSellPlan world ctx = .ok world' := by
  cases event with
  | call call =>
    cases call with
    | closeSellPlan ctx =>
      simp only [closes, Bool.and_eq_true, decide_eq_true_eq, isOk_iff] at closed
      obtain ⟨owner, world', accepted⟩ := closed
      exact ⟨ctx, world', owner, accepted⟩
    | _ => cases closed
  | _ => cases closed

/-- Only two instructions touch the token ledger, and only three a sell plan; the others write the two
configuration accounts. -/
theorem execute_cases (world world' : World Pubkey) (call : Call Pubkey) (accepted : world.execute call = .ok world') :
    world' = { world with config := world'.config, feeConfig := world'.feeConfig } ∨
      (∃ ctx endTs periodSecs, call = .openSellPlan ctx endTs periodSecs ∧
        openSellPlan world ctx endTs periodSecs = .ok world') ∨
      (∃ ctx, call = .closeSellPlan ctx ∧ closeSellPlan world ctx = .ok world') ∨
      (∃ ctx minOut swapData venue event, call = .executeBuy ctx minOut swapData venue ∧
        executeBuy world ctx minOut swapData venue = .ok (world', event)) ∨
      (∃ ctx minOut swapData venue event, call = .executeSell ctx minOut swapData venue ∧
        executeSell world ctx minOut swapData venue = .ok (world', event)) := by
  cases call with
  | initConfig ctx swapPrograms priceRefMicros maxSlippageBps =>
    obtain ⟨-, -, -, _, _, -, -, -, -, -, -, rfl⟩ := (initConfig_ok _ _ _ _ _ _).mp accepted
    exact .inl rfl
  | setPause ctx paused =>
    obtain ⟨_, -, rfl⟩ := (setPause_ok _ _ _ _).mp accepted
    exact .inl rfl
  | setParams ctx priceRefMicros maxSlippageBps =>
    obtain ⟨_, -, -, rfl⟩ := (setParams_ok _ _ _ _ _).mp accepted
    exact .inl rfl
  | setWhitelist ctx swapPrograms =>
    obtain ⟨_, -, -, rfl⟩ := (setWhitelist_ok _ _ _ _).mp accepted
    exact .inl rfl
  | initFeeConfig ctx feeBps destination =>
    obtain ⟨-, -, -, -, rfl⟩ := (initFeeConfig_ok _ _ _ _ _).mp accepted
    exact .inl rfl
  | setFee ctx feeBps destination =>
    obtain ⟨-, _, -, -, -, rfl⟩ := (setFee_ok _ _ _ _ _).mp accepted
    exact .inl rfl
  | openSellPlan ctx endTs periodSecs => exact .inr (.inl ⟨ctx, endTs, periodSecs, rfl, accepted⟩)
  | closeSellPlan ctx => exact .inr (.inr (.inl ⟨ctx, rfl, accepted⟩))
  | executeBuy ctx minOut swapData venue =>
    simp only [World.execute, map_ok, Prod.exists] at accepted
    obtain ⟨_, event, bought, rfl⟩ := accepted
    exact .inr (.inr (.inr (.inl ⟨ctx, minOut, swapData, venue, event, rfl, bought⟩)))
  | executeSell ctx minOut swapData venue =>
    simp only [World.execute, map_ok, Prod.exists] at accepted
    obtain ⟨_, event, sold, rfl⟩ := accepted
    exact .inr (.inr (.inr (.inr ⟨ctx, minOut, swapData, venue, event, rfl, sold⟩)))

theorem ledger_cases (world world' : World Pubkey) (call : Call Pubkey) (accepted : world.execute call = .ok world') :
    world'.ledger = world.ledger ∨
      (∃ ctx minOut swapData venue event, call = .executeBuy ctx minOut swapData venue ∧
        executeBuy world ctx minOut swapData venue = .ok (world', event)) ∨
      (∃ ctx minOut swapData venue event, call = .executeSell ctx minOut swapData venue ∧
        executeSell world ctx minOut swapData venue = .ok (world', event)) := by
  rcases execute_cases world world' call accepted with same | ⟨ctx, endTs, periodSecs, rfl, opened⟩ |
    ⟨ctx, rfl, closed⟩ | swapped
  next =>
    rw [same]
    exact .inl rfl
  next =>
    obtain ⟨-, -, -, -, -, rfl⟩ := (openSellPlan_ok _ _ _ _ _).mp opened
    exact .inl rfl
  next =>
    obtain ⟨-, -, rfl⟩ := closeSellPlan_ok _ _ _ closed
    exact .inl rfl
  next => exact .inr swapped

theorem plan_cases (world world' : World Pubkey) (call : Call Pubkey) (accepted : world.execute call = .ok world') :
    world'.sellPlans = world.sellPlans ∨
      (∃ ctx endTs periodSecs, call = .openSellPlan ctx endTs periodSecs ∧
        openSellPlan world ctx endTs periodSecs = .ok world') ∨
      (∃ ctx, call = .closeSellPlan ctx ∧ closeSellPlan world ctx = .ok world') ∨
      (∃ ctx minOut swapData venue event, call = .executeSell ctx minOut swapData venue ∧
        executeSell world ctx minOut swapData venue = .ok (world', event)) := by
  rcases execute_cases world world' call accepted with same | opened | closed | ⟨_, _, _, _, event, rfl, bought⟩ | sold
  next =>
    rw [same]
    exact .inl rfl
  next => exact .inr (.inl opened)
  next => exact .inr (.inr (.inl closed))
  next =>
    obtain ⟨_, _, _, _, _, _, _, _, _, course, -⟩ := (executeBuy_ok _ _ _ _ _ _ _).mp bought
    rw [course.unchanged]
    exact .inl rfl
  next => exact .inr (.inr (.inr sold))

theorem execute_clock (world world' : World Pubkey) (call : Call Pubkey) (accepted : world.execute call = .ok world') :
    world'.clock = world.clock := by
  rcases execute_cases world world' call accepted with same | ⟨ctx, endTs, periodSecs, rfl, opened⟩ |
    ⟨ctx, rfl, closed⟩ | ⟨_, _, _, _, event, rfl, bought⟩ | ⟨ctx, minOut, swapData, venue, event, rfl, sold⟩
  next => rw [same]
  next =>
    obtain ⟨-, -, -, -, -, rfl⟩ := (openSellPlan_ok _ _ _ _ _).mp opened
    rfl
  next =>
    obtain ⟨-, -, rfl⟩ := closeSellPlan_ok _ _ _ closed
    rfl
  next =>
    obtain ⟨_, _, _, _, _, _, _, _, _, course, -⟩ := (executeBuy_ok _ _ _ _ _ _ _).mp bought
    rw [course.unchanged]
  next =>
    obtain ⟨_, _, _, _, _, _, _, _, _, _, _, _, course, -⟩ := (executeSell_ok _ _ _ _ _ _ _).mp sold
    rw [course.changed]
    rfl

-- A user's plan changes only where that user's plan is opened, closed or cranked.
theorem untouched_plan (user : Pubkey) (world : World Pubkey) (event : Event Pubkey)
    (quiet : cranks user world event = false) (unopened : opens user world event = false)
    (unclosed : closes user world event = false) :
    (world.step event).sellPlans (sellPlanPda user) = world.sellPlans (sellPlanPda user) := by
  have elsewhere (owner : Pubkey) (slot : Option (SellPlan Pubkey)) (other : owner ≠ user) (base : World Pubkey) :
      (base.setSellPlan (sellPlanPda owner) slot).sellPlans (sellPlanPda user) =
        base.sellPlans (sellPlanPda user) :=
    setSellPlan_other _ _ _ _ fun same => other (sellPlanPda_inj _ _ same).symm
  apply step_kept (fun after => after.sellPlans (sellPlanPda user) = world.sellPlans (sellPlanPda user)) world event rfl
  case moved => exact fun _ _ _ _ _ _ _ => rfl
  case ticked => exact fun _ _ => rfl
  case called =>
    rintro call world' rfl outcome
    rcases plan_cases world world' call outcome with same | ⟨ctx, endTs, periodSecs, rfl, opened⟩ |
      ⟨ctx, rfl, closed⟩ | ⟨ctx, minOut, swapData, venue, event, rfl, sold⟩
    next => rw [same]
    next =>
      have other : ctx.accounts.user ≠ user := by
        intro owner
        simp [opens, owner, opened, Except.isOk, Except.toBool] at unopened
      obtain ⟨-, seeds, -, -, -, rfl⟩ := (openSellPlan_ok _ _ _ _ _).mp opened
      rw [seeds]
      exact elsewhere _ _ other _
    next =>
      have other : ctx.accounts.user ≠ user := by
        intro owner
        simp [closes, owner, closed, Except.isOk, Except.toBool] at unclosed
      obtain ⟨seeds, -, rfl⟩ := closeSellPlan_ok _ _ _ closed
      rw [seeds]
      exact elsewhere _ _ other _
    next =>
      have other : ctx.accounts.user ≠ user := by
        intro owner
        simp [cranks, owner, sold, Except.isOk, Except.toBool] at quiet
      obtain ⟨_, _, _, _, _, _, _, _, _, _, _, _, course, -⟩ := (executeSell_ok _ _ _ _ _ _ _).mp sold
      rw [course.changed, course.planSeeds.1]
      exact elsewhere _ _ other _

theorem quiet_plan (user : Pubkey) (world : World Pubkey) (event : Event Pubkey) (plan : SellPlan Pubkey)
    (present : world.sellPlans (sellPlanPda user) = some plan) (quiet : cranks user world event = false)
    (unclosed : closes user world event = false) : (world.step event).sellPlans (sellPlanPda user) = some plan := by
  rw [untouched_plan user world event quiet ?_ unclosed, present]
  -- The account is in use, so `open_sell_plan` fails.
  by_contra opened
  rw [Bool.not_eq_false] at opened
  obtain ⟨ctx, endTs, periodSecs, world', owner, accepted⟩ := opens_ok user world event opened
  obtain ⟨-, seeds, fresh, -⟩ := (openSellPlan_ok _ _ _ _ _).mp accepted
  rw [seeds, owner, present] at fresh
  cases fresh

theorem crank_plan (user : Pubkey) (world : World Pubkey) (event : Event Pubkey) (plan : SellPlan Pubkey)
    (present : world.sellPlans (sellPlanPda user) = some plan) (cranked : cranks user world event = true) :
    plan.checkDue world.clock = .ok () ∧ ∃ advanced, plan.advance world.clock = .ok advanced ∧
      (world.step event).sellPlans (sellPlanPda user) = some advanced := by
  obtain ⟨ctx, minOut, swapData, venue, cfg, feeConfig, plan', advanced, source, pot, dest, fee, netIn, floor, out,
    skimmed, owner, course⟩ := cranks_ok user world event cranked
  have seeds := course.planSeeds.1
  rw [owner] at seeds
  have loaded := course.planLoaded
  rw [seeds, present] at loaded
  obtain rfl : plan = plan' := Option.some.inj loaded
  refine ⟨course.due, advanced, course.advancedValue, ?_⟩
  rw [course.changed, seeds]
  exact setSellPlan_same _ _ _

-- Without a plan there is nothing to crank or close, and only `open_sell_plan` creates one.
theorem absent_plan (user : Pubkey) (world : World Pubkey) (event : Event Pubkey)
    (absent : world.sellPlans (sellPlanPda user) = none) (unopened : opens user world event = false) :
    cranks user world event = false ∧ (world.step event).sellPlans (sellPlanPda user) = none := by
  have quiet : cranks user world event = false := by
    by_contra cranked
    rw [Bool.not_eq_false] at cranked
    obtain ⟨_, _, _, _, _, _, _, _, _, _, _, _, _, _, _, _, owner, course⟩ := cranks_ok user world event cranked
    have loaded := course.planLoaded
    rw [course.planSeeds.1, owner, absent] at loaded
    cases loaded
  have unclosed : closes user world event = false := by
    by_contra closed
    rw [Bool.not_eq_false] at closed
    obtain ⟨ctx, world', owner, accepted⟩ := closes_ok user world event closed
    obtain ⟨seeds, ⟨plan, loaded⟩, -⟩ := closeSellPlan_ok _ _ _ accepted
    rw [seeds, owner, absent] at loaded
    cases loaded
  refine ⟨quiet, ?_⟩
  rw [untouched_plan user world event quiet unopened unclosed, absent]

-- What is true of a plan as `open_sell_plan` leaves it, and still after a crank, stays true.
theorem step_plans (good : Pubkey → SellPlan Pubkey → Prop) (world : World Pubkey) (event : Event Pubkey)
    (opens : ∀ user endTs periodSecs, 60 ≤ periodSecs.toInt ∧ periodSecs.toInt ≤ 366 * 86400 →
      good (sellPlanPda user) { user := user, endTs := endTs, periodSecs := periodSecs, nextDueTs := world.clock
                                bump := sellPlanBump user })
    (moves : ∀ key plan advanced, plan.nextDueTs.toInt ≤ world.clock.toInt →
      plan.advance world.clock = .ok advanced → good key plan → good key advanced)
    (before : ∀ key plan, world.sellPlans key = some plan → good key plan) :
    ∀ key plan, (world.step event).sellPlans key = some plan → good key plan := by
  have stored (base : World Pubkey) (slotKey : Pubkey) (slot : Option (SellPlan Pubkey))
      (same : base.sellPlans = world.sellPlans) (fits : ∀ plan, slot = some plan → good slotKey plan) :
      ∀ key plan, (base.setSellPlan slotKey slot).sellPlans key = some plan → good key plan := by
    intro key plan present
    by_cases here : key = slotKey
    next =>
      rw [here, setSellPlan_same] at present
      exact here ▸ fits plan present
    next =>
      rw [setSellPlan_other _ _ _ _ here, same] at present
      exact before key plan present
  apply step_kept (fun after => ∀ key plan, after.sellPlans key = some plan → good key plan) world event before
  case moved => exact fun _ _ _ _ _ _ _ => before
  case ticked => exact fun _ _ => before
  case called =>
    rintro call world' rfl outcome
    rcases plan_cases world world' call outcome with same | ⟨ctx, endTs, periodSecs, rfl, opened⟩ |
      ⟨ctx, rfl, closed⟩ | ⟨ctx, minOut, swapData, venue, event, rfl, sold⟩
    next =>
      rw [same]
      exact before
    next =>
      obtain ⟨-, seeds, -, cadence, -, rfl⟩ := (openSellPlan_ok _ _ _ _ _).mp opened
      apply stored world _ _ rfl
      intro plan present
      cases present
      rw [seeds]
      exact opens _ _ _ cadence
    next =>
      obtain ⟨-, -, rfl⟩ := closeSellPlan_ok _ _ _ closed
      exact stored world _ _ rfl fun plan present => by cases present
    next =>
      obtain ⟨_, _, plan, advanced, _, _, _, _, _, _, _, _, course, -⟩ := (executeSell_ok _ _ _ _ _ _ _).mp sold
      have due := ((checkDue_ok _ _ _).mp course.due).2
      rw [course.changed]
      apply stored { world with ledger := world'.ledger } _ _ rfl
      intro plan' present
      cases present
      exact moves _ _ _ due course.advancedValue (before _ _ course.planLoaded)

theorem reachable_seeds (world : World Pubkey) (reachable : world.Reachable) (key : Pubkey) (plan : SellPlan Pubkey)
    (present : world.sellPlans key = some plan) :
    key = sellPlanPda plan.user ∧ plan.bump = sellPlanBump plan.user := by
  let good (key : Pubkey) (plan : SellPlan Pubkey) := key = sellPlanPda plan.user ∧ plan.bump = sellPlanBump plan.user
  apply reachable_kept (fun world => ∀ key plan, world.sellPlans key = some plan → good key plan) _ _ world reachable
    key plan present
  next =>
    intro initial fresh
    obtain ⟨-, -, fresh⟩ := fresh
    simp [fresh]
  next =>
    intro world event before
    apply step_plans good world event
    case opens => exact fun _ _ _ _ => ⟨rfl, rfl⟩
    case moves =>
      intro key plan advanced due advancedValue owned
      rw [(advance_ok plan advanced world.clock due advancedValue).1]
      exact owned
    case before => exact before

theorem reachable_plan (world : World Pubkey) (reachable : world.Reachable) (user : Pubkey) (plan : SellPlan Pubkey)
    (present : world.sellPlans (sellPlanPda user) = some plan) : plan.user = user ∧ plan.bump = sellPlanBump user := by
  obtain ⟨seeds, bump⟩ := reachable_seeds world reachable _ plan present
  have owner : user = plan.user := sellPlanPda_inj _ _ seeds
  rw [← owner] at bump
  exact ⟨owner.symm, bump⟩

-- `init_config` runs once, and no other instruction writes the mints.
theorem execute_mints (world world' : World Pubkey) (call : Call Pubkey) (cfg : Config Pubkey)
    (present : world.config = some cfg) (accepted : world.execute call = .ok world') :
    ∃ cfg', world'.config = some cfg' ∧ cfg'.targetMint = cfg.targetMint ∧ cfg'.usdcMint = cfg.usdcMint := by
  have same (loaded : Config Pubkey) (found : world.config = some loaded) : loaded = cfg :=
    Option.some.inj (found.symm.trans present)
  cases call with
  | initConfig ctx swapPrograms priceRefMicros maxSlippageBps =>
    obtain ⟨-, -, fresh, -⟩ := (initConfig_ok _ _ _ _ _ _).mp accepted
    rw [present] at fresh
    cases fresh
  | setPause ctx paused =>
    obtain ⟨loaded, authorised, rfl⟩ := (setPause_ok _ _ _ _).mp accepted
    obtain rfl := same loaded authorised.present
    exact ⟨_, rfl, rfl, rfl⟩
  | setParams ctx priceRefMicros maxSlippageBps =>
    obtain ⟨loaded, authorised, -, rfl⟩ := (setParams_ok _ _ _ _ _).mp accepted
    obtain rfl := same loaded authorised.present
    exact ⟨_, rfl, rfl, rfl⟩
  | setWhitelist ctx swapPrograms =>
    obtain ⟨loaded, authorised, -, rfl⟩ := (setWhitelist_ok _ _ _ _).mp accepted
    obtain rfl := same loaded authorised.present
    exact ⟨_, rfl, rfl, rfl⟩
  | initFeeConfig ctx feeBps destination =>
    obtain ⟨-, -, -, -, rfl⟩ := (initFeeConfig_ok _ _ _ _ _).mp accepted
    exact ⟨cfg, present, rfl, rfl⟩
  | setFee ctx feeBps destination =>
    obtain ⟨-, _, -, -, -, rfl⟩ := (setFee_ok _ _ _ _ _).mp accepted
    exact ⟨cfg, present, rfl, rfl⟩
  | executeBuy ctx minOut swapData venue =>
    simp only [World.execute, map_ok, Prod.exists, executeBuy_ok] at accepted
    obtain ⟨_, _, ⟨_, _, _, _, _, _, _, _, _, course, -⟩, rfl⟩ := accepted
    rw [course.unchanged]
    exact ⟨cfg, present, rfl, rfl⟩
  | openSellPlan ctx endTs periodSecs =>
    obtain ⟨-, -, -, -, -, rfl⟩ := (openSellPlan_ok _ _ _ _ _).mp accepted
    exact ⟨cfg, present, rfl, rfl⟩
  | closeSellPlan ctx =>
    obtain ⟨-, -, rfl⟩ := closeSellPlan_ok _ _ _ accepted
    exact ⟨cfg, present, rfl, rfl⟩
  | executeSell ctx minOut swapData venue =>
    simp only [World.execute, map_ok, Prod.exists, executeSell_ok] at accepted
    obtain ⟨_, _, ⟨_, _, _, _, _, _, _, _, _, _, _, _, course, -⟩, rfl⟩ := accepted
    rw [course.changed]
    exact ⟨cfg, present, rfl, rfl⟩

theorem step_mints (world : World Pubkey) (event : Event Pubkey) (cfg : Config Pubkey)
    (present : world.config = some cfg) :
    ∃ cfg', (world.step event).config = some cfg' ∧ cfg'.targetMint = cfg.targetMint ∧
      cfg'.usdcMint = cfg.usdcMint := by
  have same : ∃ cfg', world.config = some cfg' ∧ cfg'.targetMint = cfg.targetMint ∧ cfg'.usdcMint = cfg.usdcMint :=
    ⟨cfg, present, rfl, rfl⟩
  apply step_kept (fun after => ∃ cfg', after.config = some cfg' ∧ cfg'.targetMint = cfg.targetMint ∧
    cfg'.usdcMint = cfg.usdcMint) world event same
  case called => exact fun call world' _ accepted => execute_mints world world' call cfg present accepted
  case moved => exact fun _ _ _ _ _ _ _ => same
  case ticked => exact fun _ _ => same

-- The program is configured for `targetMint`, if at all.
def Targets (targetMint : Pubkey) (world : World Pubkey) : Prop :=
  ∀ cfg, world.config = some cfg → cfg.targetMint = targetMint

theorem targets_before (targetMint : Pubkey) (world : World Pubkey) (events : List (Event Pubkey))
    (targets : Targets targetMint (world.run events)) : Targets targetMint world := by
  induction events generalizing world with
  | nil => exact targets
  | cons event rest ih =>
    intro cfg present
    obtain ⟨cfg', later, same, -⟩ := step_mints world event cfg present
    exact same.symm.trans (ih (world.step event) targets cfg' later)

-- What the configuration says at the end of a run it said all along.
theorem throughout_targets (targetMint : Pubkey) (holds : World Pubkey → Event Pubkey → Prop)
    (world : World Pubkey) (events : List (Event Pubkey)) (targets : Targets targetMint (world.run events))
    (throughout : Throughout holds world events) :
    Throughout (fun world event => holds world event ∧ Targets targetMint world) world events := by
  induction events generalizing world with
  | nil => trivial
  | cons event rest ih =>
    exact ⟨⟨throughout.1, targets_before targetMint world (event :: rest) targets⟩,
      ih (world.step event) targets throughout.2⟩

end Steps

end RecurringBuy
