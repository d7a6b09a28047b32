import RecurringBuy.Program.Deployment
import RecurringBuy.Program.History
import RecurringBuy.Properties.Configuration
import RecurringBuy.Properties.Gate
import RecurringBuy.Shared.Simulation

set_option autoImplicit false

namespace RecurringBuy

open Checked SplToken ProgramAddress Simulation

-- A sell plan as its owner sees it.
structure Agenda where
  endTs : Int
  periodSecs : Int
  due : Int
deriving DecidableEq

inductive Deed where
  | opened (now endTs periodSecs : Int)
  | served (now : Int)
  | closed
deriving DecidableEq

/-- The deeds that an agenda admits, and what they make of it. -/
def Agenda.next : Option Agenda → Deed → Option (Option Agenda)
  | none, .opened now endTs periodSecs =>
      if (60 ≤ periodSecs ∧ periodSecs ≤ 366 * 86400) ∧ now + periodSecs < endTs then some (some ⟨endTs, periodSecs, now⟩)
      else none
  | some agenda, .served now =>
      if agenda.due ≤ agenda.endTs ∧ agenda.due ≤ now then
        some (some { agenda with due := agenda.due + ((now - agenda.due) / agenda.periodSecs + 1) * agenda.periodSecs })
      else none
  | some _, .closed => some none
  | _, _ => none

variable {Pubkey : Type}

def SellPlan.agenda (plan : SellPlan Pubkey) : Agenda := ⟨plan.endTs.toInt, plan.periodSecs.toInt, plan.nextDueTs.toInt⟩

section Program

variable [DecidableEq Pubkey] [ProgramAddress Pubkey] (user : Pubkey)

def World.agenda (world : World Pubkey) : Option Agenda := (world.sellPlans (sellPlanPda user)).map SellPlan.agenda

/-- What an event does to the plan of `user`. -/
def deeds (world : World Pubkey) (event : Event Pubkey) : List Deed :=
  match event with
  | .call (.openSellPlan _ endTs periodSecs) =>
      if opens user world event then [.opened world.clock.toInt endTs.toInt periodSecs.toInt] else []
  | .call (.executeSell _ _ _ _) => if cranks user world event then [.served world.clock.toInt] else []
  | .call (.closeSellPlan _) => if closes user world event then [.closed] else []
  | _ => []

theorem deeds_none (world : World Pubkey) (event : Event Pubkey) (unopened : opens user world event = false)
    (quiet : cranks user world event = false) (unclosed : closes user world event = false) :
    deeds user world event = [] := by
  unfold deeds
  split
  next => rw [if_neg (by simp [unopened])]
  next => rw [if_neg (by simp [quiet])]
  next => rw [if_neg (by simp [unclosed])]
  next => rfl

theorem opened_agenda (world world' : World Pubkey) (ctx : Context Pubkey (PlanOwner Pubkey)) (endTs periodSecs : Int64)
    (owner : ctx.accounts.user = user) (opened : openSellPlan world ctx endTs periodSecs = .ok world') :
    Agenda.next (world.agenda user) (.opened world.clock.toInt endTs.toInt periodSecs.toInt) =
      some (world'.agenda user) := by
  obtain ⟨-, seeds, fresh, cadence, later, rfl⟩ := (openSellPlan_ok _ _ _ _ _).mp opened
  rw [seeds, owner] at fresh ⊢
  simp only [World.agenda, fresh, setSellPlan_same, Option.map_none, Option.map_some, Agenda.next,
    if_pos (⟨cadence, later⟩ : _ ∧ _), SellPlan.agenda]

theorem closed_agenda (world world' : World Pubkey) (ctx : Context Pubkey (PlanOwner Pubkey))
    (owner : ctx.accounts.user = user) (closed : closeSellPlan world ctx = .ok world') :
    Agenda.next (world.agenda user) .closed = some (world'.agenda user) := by
  obtain ⟨seeds, ⟨plan, present⟩, rfl⟩ := closeSellPlan_ok _ _ _ closed
  rw [seeds, owner] at present ⊢
  simp only [World.agenda, present, setSellPlan_same, Option.map_none, Option.map_some, Agenda.next]

theorem served_agenda (world : World Pubkey) (event : Event Pubkey) (served : cranks user world event = true) :
    Agenda.next (world.agenda user) (.served world.clock.toInt) = some ((world.step event).agenda user) := by
  obtain ⟨plan, present⟩ : ∃ plan, world.sellPlans (sellPlanPda user) = some plan := by
    by_contra missing
    have absent := Option.eq_none_iff_forall_ne_some.mpr fun plan present => missing ⟨plan, present⟩
    have unopened : opens user world event = false := by
      cases event with
      | call call => cases call <;> first | rfl | cases served
      | _ => rfl
    rw [(absent_plan user world event absent unopened).1] at served
    cases served
  obtain ⟨due, advanced, jumped, stored⟩ := crank_plan user world event plan present served
  have gate := (checkDue_ok _ _ _).mp due
  obtain ⟨same, jump⟩ := advance_ok plan advanced world.clock gate.2 jumped
  have agenda : advanced.agenda = ⟨plan.endTs.toInt, plan.periodSecs.toInt, advanced.nextDueTs.toInt⟩ := by
    rw [same]
    rfl
  simp only [World.agenda, present, stored, Option.map_some, Agenda.next, SellPlan.agenda, if_pos gate, ← jump]
  rw [← agenda]
  rfl

theorem step_deeds (world : World Pubkey) (event : Event Pubkey) :
    (deeds user world event).foldlM Agenda.next (world.agenda user) = some ((world.step event).agenda user) := by
  have once (deed : Deed) (made : Agenda.next (world.agenda user) deed = some ((world.step event).agenda user)) :
      [deed].foldlM Agenda.next (world.agenda user) = some ((world.step event).agenda user) := by
    rw [List.foldlM_cons, made, Option.bind_eq_bind, Option.bind_some, List.foldlM_nil, Option.pure_def]
  by_cases idle : opens user world event = false ∧ cranks user world event = false ∧ closes user world event = false
  next =>
    obtain ⟨unopened, quiet, unclosed⟩ := idle
    rw [deeds_none user world event unopened quiet unclosed, World.agenda, World.agenda,
      untouched_plan user world event quiet unopened unclosed]
    rfl
  next =>
    cases event with
    | tick clock => exact absurd ⟨rfl, rfl, rfl⟩ idle
    | tokens signed underived unassociated instructions => exact absurd ⟨rfl, rfl, rfl⟩ idle
    | call call =>
      cases call with
      | openSellPlan ctx endTs periodSecs =>
        have opened : opens user world (.call (.openSellPlan ctx endTs periodSecs)) = true := by
          by_contra refused
          exact idle ⟨Bool.eq_false_of_not_eq_true refused, rfl, rfl⟩
        rw [deeds, if_pos opened]
        simp only [opens, Bool.and_eq_true, decide_eq_true_eq, isOk_iff] at opened
        obtain ⟨owner, world', accepted⟩ := opened
        apply once
        rw [step_ok world world' (.openSellPlan ctx endTs periodSecs) accepted]
        exact opened_agenda user world world' ctx endTs periodSecs owner accepted
      | closeSellPlan ctx =>
        have closed : closes user world (.call (.closeSellPlan ctx)) = true := by
          by_contra refused
          exact idle ⟨rfl, rfl, Bool.eq_false_of_not_eq_true refused⟩
        rw [deeds, if_pos closed]
        simp only [closes, Bool.and_eq_true, decide_eq_true_eq, isOk_iff] at closed
        obtain ⟨owner, world', accepted⟩ := closed
        apply once
        rw [step_ok world world' (.closeSellPlan ctx) accepted]
        exact closed_agenda user world world' ctx owner accepted
      | executeSell ctx minOut swapData venue =>
        have served : cranks user world (.call (.executeSell ctx minOut swapData venue)) = true := by
          by_contra refused
          exact idle ⟨rfl, Bool.eq_false_of_not_eq_true refused, rfl⟩
        rw [deeds, if_pos served]
        exact once _ (served_agenda user world _ served)
      | _ => exact absurd ⟨rfl, rfl, rfl⟩ idle

/-- The owner's calls go through exactly where the agenda admits them. -/
structure Owned (world : World Pubkey) : Prop where
  opening : ∀ (ctx : Context Pubkey (PlanOwner Pubkey)) (endTs periodSecs : Int64),
    ctx.accounts = ⟨user, sellPlanPda user⟩ →
    ((openSellPlan world ctx endTs periodSecs).isOk ↔ user ∈ ctx.signers ∧
      (Agenda.next (world.agenda user) (.opened world.clock.toInt endTs.toInt periodSecs.toInt)).isSome)
  closing : ∀ ctx : Context Pubkey (PlanOwner Pubkey), ctx.accounts = ⟨user, sellPlanPda user⟩ →
    ((closeSellPlan world ctx).isOk ↔ user ∈ ctx.signers ∧ (Agenda.next (world.agenda user) .closed).isSome)

theorem reachable_owned (world : World Pubkey) (reachable : world.Reachable) : Owned user world where
  opening := by
    intro ctx endTs periodSecs accounts
    simp only [isOk_iff, openSellPlan_ok, accounts, exists_and_left, exists_eq, and_true, true_and]
    cases present : world.sellPlans (sellPlanPda user) with
    | some plan => simp [World.agenda, present, Agenda.next]
    | none => simp [World.agenda, present, Agenda.next, and_assoc]
  closing := by
    intro ctx accounts
    simp only [isOk_iff, closeSellPlan, bind_ok, require_ok, exists_const, loadSellPlan_ok, checkOwner_ok, pure_ok, accounts,
      List.contains_iff_mem, exists_and_left, true_and]
    cases present : world.sellPlans (sellPlanPda user) with
    | none => simp [World.agenda, present, Agenda.next]
    | some plan =>
      obtain ⟨owner, bump⟩ := reachable_plan world reachable user plan present
      simp [World.agenda, present, Agenda.next, owner, bump]

def OwnDeed (world : World Pubkey) (event : Event Pubkey) : Prop :=
  opens user world event = true ∨ closes user world event = true → ∃ call, event = .call call ∧ user ∈ call.signers

theorem step_ownDeed (world : World Pubkey) (event : Event Pubkey) : OwnDeed user world event := by
  rintro (opened | closed)
  next =>
    cases event with
    | call call =>
      cases call with
      | openSellPlan ctx endTs periodSecs =>
        simp only [opens, Bool.and_eq_true, decide_eq_true_eq, isOk_iff, openSellPlan_ok] at opened
        obtain ⟨rfl, _, signed, -⟩ := opened
        exact ⟨_, rfl, signed⟩
      | _ => cases opened
    | _ => cases opened
  next =>
    cases event with
    | call call =>
      cases call with
      | closeSellPlan ctx =>
        simp only [closes, closeSellPlan, Bool.and_eq_true, decide_eq_true_eq, isOk_iff, bind_ok, require_ok,
          exists_const, List.contains_iff_mem] at closed
        obtain ⟨rfl, _, signed, -⟩ := closed
        exact ⟨_, rfl, signed⟩
      | _ => cases closed
    | _ => cases closed

/-- Over every run the plan of a user is what the user opened and the cranks made of it, and the user is free to close
it whatever else the program's state is. -/
theorem agenda_refined (initial : World Pubkey) (events : List (Event Pubkey)) (fresh : initial.Initial) (user : Pubkey) :
    (collect World.step (deeds user) initial events).foldlM Agenda.next none = some ((initial.run events).agenda user) ∧
      Always World.step (OwnDeed user) initial events ∧ Owned user (initial.run events) := by
  have replayed := collect_replays World.step (deeds user) Agenda.next (World.agenda user) (step_deeds user) initial events
  have start : initial.agenda user = none := by rw [World.agenda, fresh.2.2, Option.map_none]
  rw [start] at replayed
  exact ⟨replayed, always_all World.step _ (step_ownDeed user) initial events,
    reachable_owned user _ ⟨initial, events, fresh, rfl⟩⟩

end Program

section Sample

def pausing (paused : Bool) : Event Address := .call (.setPause (Address.context ⟨Terms.admin, .config⟩ [20]) paused)

def closing (signer : Nat) : Event Address :=
  .call (.closeSellPlan (Address.context ⟨Terms.user, .sellPlan Terms.user⟩ [signer]))

-- The owner changes the plan while the admin has the program paused; the admin cannot.
def reopening : List (Event Address) :=
  Terms.dollar.setup ++
    [.tick 10, crankEvent 1000, pausing true, .tick 100, closing 20, closing 23,
      .call (.openSellPlan (Address.context ⟨Terms.user, .sellPlan Terms.user⟩ [23]) 1000 300), refill,
      crankEvent 2000, pausing false, .tick 120, crankEvent 2000]

theorem agenda_refined_reopening :
    ((Terms.dollar.genesis unopenedWorld.ledger.accounts).run reopening).agenda Terms.user = some ⟨1000, 300, 400⟩ := by
  have refined := (agenda_refined (Terms.dollar.genesis unopenedWorld.ledger.accounts) reopening ⟨rfl, rfl, rfl⟩
    Terms.user).1
  have told : collect World.step (deeds Terms.user) (Terms.dollar.genesis unopenedWorld.ledger.accounts) reopening =
      [.opened 0 61 60, .served 10, .closed, .opened 100 1000 300, .served 120] := by decide +kernel
  rw [told] at refined
  exact (Option.some.inj refined).symm

end Sample

end RecurringBuy
