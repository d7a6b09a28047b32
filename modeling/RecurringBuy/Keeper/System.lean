import RecurringBuy.Keeper.Tick
import RecurringBuy.Program.History
import RecurringBuy.Shared.Simulation
import RecurringBuy.Token.Transfer

set_option autoImplicit false

namespace RecurringBuy

open Checked SplToken ProgramAddress Simulation

variable {Pubkey : Type}

/-- The subscriptions program moves tokens through the token program, and signs for its own addresses. -/
structure NativeProgram (Pubkey : Type) [ProgramAddress Pubkey] where
  signed : Pubkey → Bool
  underived : ∀ user, signed (buyAuthority user) = false
  unassociated : ∀ wallet mint, signed (AssociatedAddress.associated wallet mint) = false
  transferRecurring : Delegation Pubkey → Ledger Pubkey → (source destination : Pubkey) → UInt64 →
    Option (List (TokenInstruction Pubkey))

structure Process (Pubkey : Type) [ProgramAddress Pubkey] where
  daemon : Daemon Pubkey
  now : Number
  feeConfig : Option (FeeConfig Pubkey)
  queue : List (RecurringDelegation Pubkey)

structure Sent (Pubkey : Type) [ProgramAddress Pubkey] where
  daemon : Daemon Pubkey
  transaction : Transaction Pubkey

structure System (Pubkey : Type) [ProgramAddress Pubkey] where
  world : World Pubkey
  processes : List (Process Pubkey)
  inFlight : List (Sent Pubkey)

inductive Action (Pubkey : Type) [ProgramAddress Pubkey] where
  | chain (event : Event Pubkey)
  -- `tick`, up to its loop, and then one turn of it. What the node answers may be of any moment, and of several.
  | scan (process : Nat) (now : Number) (feeConfig : Option (FeeConfig Pubkey))
      (dels : List (RecurringDelegation Pubkey))
  | turn (process : Nat) (read : World Pubkey)
  | land (sent : Nat) (native : NativeProgram Pubkey)
  | lose (sent : Nat)

section Step

variable [DecidableEq Pubkey] [ProgramAddress Pubkey]

def NativeProgram.rail (native : NativeProgram Pubkey) : Rail Pubkey := fun del ledger source destination amount => do
  let issued ← native.transferRecurring del ledger source destination amount
  (SplToken.run native.signed ledger issued).toOption

def System.step (system : System Pubkey) : Action Pubkey → System Pubkey
  | .chain event => { system with world := system.world.step event }
  | .scan index now feeConfig dels =>
      match system.processes[index]? with
      | some process =>
          { system with
            processes := system.processes.set index
              { process with
                now := now
                feeConfig := feeConfig
                queue := (process.daemon.best dels).values } }
      | none => system
  | .turn index read =>
      match system.processes[index]? with
      | some process =>
          match process.queue with
          | d :: rest =>
              { system with
                processes := system.processes.set index { process with queue := rest }
                inFlight := system.inFlight ++
                  ((process.daemon.crank process.feeConfig process.now read d).map
                    (Sent.mk process.daemon)).toList }
          | [] => system
      | none => system
  | .land index native =>
      match system.inFlight[index]? with
      | some sent =>
          { system with
            world := sent.daemon.land native.rail system.world sent.transaction
            inFlight := system.inFlight.eraseIdx index }
      | none => system
  | .lose index => { system with inFlight := system.inFlight.eraseIdx index }

def System.run (system : System Pubkey) (actions : List (Action Pubkey)) : System Pubkey :=
  actions.foldl System.step system

/-- The time of the sale of `user` that an action is, if it is one. -/
def System.sale (user : Pubkey) (system : System Pubkey) : Action Pubkey → List Int
  | .chain event => if cranks user system.world event then [system.world.clock.toInt] else []
  | .land index native =>
      match system.inFlight[index]? with
      | some ⟨daemon, .sell del crank⟩ =>
          if crank.ctx.accounts.user = user ∧ (daemon.submitSell crank native.rail del system.world).isSome then
            [system.world.clock.toInt]
          else []
      | _ => []
  | _ => []

def System.sales (user : Pubkey) (system : System Pubkey) (actions : List (Action Pubkey)) : List Int :=
  collect System.step (System.sale user) system actions

end Step

theorem toOption_some {E A : Type} (result : Except E A) (value : A) (found : result.toOption = some value) :
    result = .ok value := by
  cases result with
  | ok held =>
    cases found
    rfl
  | error error => cases found

section Composition

variable [DecidableEq Pubkey] [ProgramAddress Pubkey] (daemon : Daemon Pubkey)

def Daemon.Signs : Transaction Pubkey → Prop
  | .buy _ crank => crank.ctx.signers = [daemon.keeper]
  | .sell _ crank => crank.ctx.signers = [daemon.keeper]

theorem crank_signs (feeConfig : Option (FeeConfig Pubkey)) (now : Number) (world : World Pubkey)
    (d : RecurringDelegation Pubkey) (transaction : Transaction Pubkey)
    (composed : daemon.crank feeConfig now world d = some transaction) : daemon.Signs transaction := by
  unfold Daemon.crank at composed
  split at composed
  next =>
    simp only [Daemon.crankBuy, Option.map_eq_some_iff, Option.bind_eq_bind, Option.bind_eq_some_iff, Option.pure_def,
      Option.some.injEq] at composed
    obtain ⟨_, ⟨_, -, _, -, rfl⟩, rfl⟩ := composed
    rfl
  next =>
    simp only [Daemon.crankSell, Option.map_eq_some_iff, Option.bind_eq_bind, Option.bind_eq_some_iff, Option.pure_def,
      Option.some.injEq] at composed
    obtain ⟨_, ⟨_, -, _, -, _, -, _, -, _, -, rfl⟩, rfl⟩ := composed
    rfl

/-- What is in flight was signed by the keeper that sent it. -/
def System.Composed (system : System Pubkey) : Prop := ∀ sent ∈ system.inFlight, sent.daemon.Signs sent.transaction

theorem step_composed (system : System Pubkey) (action : Action Pubkey) (composed : system.Composed) :
    (system.step action).Composed := by
  cases action with
  | chain event => exact composed
  | scan index now feeConfig dels =>
    simp only [System.step]
    split <;> exact composed
  | turn index read =>
    simp only [System.step]
    split
    next process found =>
      split
      next d rest queued =>
        intro sent member
        rcases List.mem_append.mp member with earlier | fresh
        next => exact composed sent earlier
        next =>
          obtain ⟨transaction, made, rfl⟩ := Option.map_eq_some_iff.mp (Option.mem_toList.mp fresh)
          exact crank_signs process.daemon _ _ _ d transaction made
      next => exact composed
    next => exact composed
  | land index native =>
    simp only [System.step]
    split
    next => exact fun sent member => composed sent (List.mem_of_mem_eraseIdx member)
    next => exact composed
  | lose index => exact fun sent member => composed sent (List.mem_of_mem_eraseIdx member)

end Composition

section Landing

variable [DecidableEq Pubkey] [ProgramAddress Pubkey] (native : NativeProgram Pubkey) (del : Delegation Pubkey)

-- What a setup instruction asks of the token program.
def SetupInstruction.event (ledger : Ledger Pubkey) : SetupInstruction Pubkey → Event Pubkey
  | .createIdempotent _ owner mint =>
      .tokens (fun _ => false) (fun _ => rfl) (fun _ _ => rfl)
        (if (ledger.accounts (AssociatedAddress.associated owner mint)).isSome then []
        else [.createAssociated owner mint])
  | .pull delegatorAta receiverAta amount =>
      .tokens native.signed native.underived native.unassociated
        ((native.transferRecurring del ledger delegatorAta receiverAta (UInt64.ofNat amount.toNat)).getD [])

def payments (ledger : Ledger Pubkey) (setup : List (SetupInstruction Pubkey)) : List (Event Pubkey) :=
  collect (fun ledger instruction => (instruction.run native.rail del ledger).getD ledger)
    (fun ledger instruction => [instruction.event native del ledger]) ledger setup

/-- A transaction as the program's history has it: its setup, one event for each instruction, and then its call. -/
def Crank.events {Accounts : Type} (crank : Crank Pubkey Accounts) (discriminator : Vector UInt8 8)
    (call : Context Pubkey Accounts → UInt64 → List UInt8 → Call Pubkey) (ledger : Ledger Pubkey) :
    List (Event Pubkey) :=
  match executeArguments discriminator crank.data with
  | some (minOut, swapData) => payments native del ledger crank.setup ++ [.call (call crank.ctx minOut swapData)]
  | none => []

theorem createIdempotent_runs (ledger ledger' : Ledger Pubkey) (owner mint : Pubkey)
    (created : createIdempotent ledger owner mint = .ok ledger') :
    SplToken.run (fun _ => false) ledger
      (if (ledger.accounts (AssociatedAddress.associated owner mint)).isSome then [] else [.createAssociated owner mint]) =
        .ok ledger' := by
  unfold createIdempotent at created
  split at created
  next present =>
    simp only [bind_ok, pure_ok] at created
    obtain ⟨_, -, _, -, rfl⟩ := created
    rw [present, Option.isSome_some, if_pos rfl]
    rfl
  next absent =>
    rw [absent, Option.isSome_none, if_neg Bool.false_ne_true]
    exact run_cons _ _ ledger' _ _ [] created rfl

theorem setup_event (world : World Pubkey) (ledger' : Ledger Pubkey) (instruction : SetupInstruction Pubkey)
    (ran : instruction.run native.rail del world.ledger = some ledger') :
    world.step (instruction.event native del world.ledger) = { world with ledger := ledger' } := by
  cases instruction with
  | createIdempotent ata owner mint =>
    simp only [SetupInstruction.run, Option.bind_eq_bind, Option.bind_eq_some_iff] at ran
    obtain ⟨_, -, created⟩ := ran
    simp only [SetupInstruction.event, World.step, createIdempotent_runs _ _ owner mint (toOption_some _ _ created)]
  | pull delegatorAta receiverAta amount =>
    simp only [SetupInstruction.run, NativeProgram.rail, Option.bind_eq_bind, Option.bind_eq_some_iff] at ran
    obtain ⟨_, -, issued, asked, paid⟩ := ran
    simp only [SetupInstruction.event, World.step, asked, Option.getD_some, toOption_some _ _ paid]

theorem run_payments (setup : List (SetupInstruction Pubkey)) (world : World Pubkey) (funded : Ledger Pubkey)
    (ran : setup.foldlM (SetupInstruction.run native.rail del) world.ledger = some funded) :
    world.run (payments native del world.ledger setup) = { world with ledger := funded } := by
  induction setup generalizing world with
  | nil =>
    cases ran
    rfl
  | cons instruction rest ih =>
    simp only [List.foldlM_cons, Option.bind_eq_bind, Option.bind_eq_some_iff] at ran
    obtain ⟨ledger', first, later⟩ := ran
    have stepped := setup_event native del world ledger' instruction first
    have after := ih { world with ledger := ledger' } later
    rw [payments, collect, first, Option.getD_some, List.singleton_append, World.run, List.foldl_cons, stepped]
    exact after

theorem payments_tokens (setup : List (SetupInstruction Pubkey)) (ledger : Ledger Pubkey) (event : Event Pubkey)
    (member : event ∈ payments native del ledger setup) :
    ∃ signed underived unassociated issued, event = .tokens signed underived unassociated issued := by
  induction setup generalizing ledger with
  | nil => exact absurd member List.not_mem_nil
  | cons instruction rest ih =>
    rw [payments, collect, List.singleton_append, List.mem_cons] at member
    rcases member with rfl | later
    next => cases instruction <;> exact ⟨_, _, _, _, rfl⟩
    next => exact ih _ later

theorem submit_events {Accounts Result : Type} (crank : Crank Pubkey Accounts) (discriminator : Vector UInt8 8)
    (execute : World Pubkey → Context Pubkey Accounts → UInt64 → List UInt8 → Except Error (World Pubkey × Result))
    (call : Context Pubkey Accounts → UInt64 → List UInt8 → Call Pubkey)
    (world : World Pubkey) (result : World Pubkey × Result)
    (landed : crank.submit discriminator execute native.rail del world = some result) :
    ∃ funded minOut swapData,
      crank.events native del discriminator call world.ledger =
        payments native del world.ledger crank.setup ++ [.call (call crank.ctx minOut swapData)] ∧
      world.run (payments native del world.ledger crank.setup) = { world with ledger := funded } ∧
      execute { world with ledger := funded } crank.ctx minOut swapData = .ok result := by
  simp only [Crank.submit, Option.bind_eq_bind, Option.bind_eq_some_iff, Prod.exists] at landed
  obtain ⟨funded, ran, minOut, swapData, parsed, executed⟩ := landed
  refine ⟨funded, minOut, swapData, ?_, run_payments native del _ world funded ran, toOption_some _ _ executed⟩
  rw [Crank.events, parsed]

theorem submit_run {Accounts Result : Type} (crank : Crank Pubkey Accounts) (discriminator : Vector UInt8 8)
    (execute : World Pubkey → Context Pubkey Accounts → UInt64 → List UInt8 → Except Error (World Pubkey × Result))
    (call : Context Pubkey Accounts → UInt64 → List UInt8 → Call Pubkey)
    (stepped : ∀ world world' ctx minOut swapData result, execute world ctx minOut swapData = .ok (world', result) →
      world.step (.call (call ctx minOut swapData)) = world')
    (world world' : World Pubkey) (result : Result)
    (landed : crank.submit discriminator execute native.rail del world = some (world', result)) :
    world.run (crank.events native del discriminator call world.ledger) = world' := by
  obtain ⟨funded, minOut, swapData, told, moved, executed⟩ :=
    submit_events native del crank discriminator execute call world _ landed
  have paid : (payments native del world.ledger crank.setup).foldl World.step world = { world with ledger := funded } :=
    moved
  rw [told, World.run, List.foldl_append, paid]
  exact stepped _ world' _ minOut swapData result executed

variable (daemon : Daemon Pubkey)

def Daemon.buyCall (ctx : Context Pubkey (ExecuteBuy Pubkey)) (minOut : UInt64) (swapData : List UInt8) : Call Pubkey :=
  .executeBuy ctx minOut swapData daemon.mockSwap.venue

def Daemon.sellCall (ctx : Context Pubkey (ExecuteSell Pubkey)) (minOut : UInt64) (swapData : List UInt8) :
    Call Pubkey :=
  .executeSell ctx minOut swapData daemon.mockSwap.venue

theorem submitBuy_run (crank : Crank Pubkey (ExecuteBuy Pubkey)) (world world' : World Pubkey)
    (event : BuyExecuted Pubkey) (landed : daemon.submitBuy crank native.rail del world = some (world', event)) :
    world.run (crank.events native del daemon.executeBuy daemon.buyCall world.ledger) = world' :=
  submit_run native del crank _ _ daemon.buyCall
    (fun world world' ctx minOut swapData => step_executeBuy world world' ctx minOut swapData daemon.mockSwap.venue)
    world world' event landed

theorem submitSell_run (crank : Crank Pubkey (ExecuteSell Pubkey)) (world world' : World Pubkey)
    (event : SellExecuted Pubkey) (landed : daemon.submitSell crank native.rail del world = some (world', event)) :
    world.run (crank.events native del daemon.executeSell daemon.sellCall world.ledger) = world' :=
  submit_run native del crank _ _ daemon.sellCall
    (fun world world' ctx minOut swapData => step_executeSell world world' ctx minOut swapData daemon.mockSwap.venue)
    world world' event landed

theorem submitBuy_reachable (crank : Crank Pubkey (ExecuteBuy Pubkey)) (world world' : World Pubkey)
    (event : BuyExecuted Pubkey) (reachable : world.Reachable)
    (landed : daemon.submitBuy crank native.rail del world = some (world', event)) : world'.Reachable := by
  rw [← submitBuy_run native del daemon crank world world' event landed]
  exact reachable_run world _ reachable

theorem submitSell_reachable (crank : Crank Pubkey (ExecuteSell Pubkey)) (world world' : World Pubkey)
    (event : SellExecuted Pubkey) (reachable : world.Reachable)
    (landed : daemon.submitSell crank native.rail del world = some (world', event)) : world'.Reachable := by
  rw [← submitSell_run native del daemon crank world world' event landed]
  exact reachable_run world _ reachable

end Landing

section Seen

variable [DecidableEq Pubkey] [ProgramAddress Pubkey]

def Sent.seen (sent : Sent Pubkey) (native : NativeProgram Pubkey) (world : World Pubkey) : List (Event Pubkey) :=
  match sent.transaction with
  | .buy del crank =>
      if (sent.daemon.submitBuy crank native.rail del world).isSome then
        crank.events native del sent.daemon.executeBuy sent.daemon.buyCall world.ledger
      else []
  | .sell del crank =>
      if (sent.daemon.submitSell crank native.rail del world).isSome then
        crank.events native del sent.daemon.executeSell sent.daemon.sellCall world.ledger
      else []

/-- What the chain sees of an action: of a transaction that lands all or nothing, and of one that does not nothing. -/
def System.seen (system : System Pubkey) : Action Pubkey → List (Event Pubkey)
  | .chain event => [event]
  | .land index native =>
      match system.inFlight[index]? with
      | some sent => sent.seen native system.world
      | none => []
  | _ => []

def System.history (system : System Pubkey) (actions : List (Action Pubkey)) : List (Event Pubkey) :=
  collect System.step System.seen system actions

theorem sent_run (sent : Sent Pubkey) (native : NativeProgram Pubkey) (world : World Pubkey) :
    sent.daemon.land native.rail world sent.transaction = world.run (sent.seen native world) := by
  obtain ⟨daemon, transaction⟩ := sent
  cases transaction with
  | buy del crank =>
    simp only [Daemon.land, Sent.seen]
    cases submitted : daemon.submitBuy crank native.rail del world with
    | none => rfl
    | some result => exact (submitBuy_run native del daemon crank world result.1 result.2 submitted).symm
  | sell del crank =>
    simp only [Daemon.land, Sent.seen]
    cases submitted : daemon.submitSell crank native.rail del world with
    | none => rfl
    | some result => exact (submitSell_run native del daemon crank world result.1 result.2 submitted).symm

theorem step_seen (system : System Pubkey) (action : Action Pubkey) :
    (system.step action).world = (system.seen action).foldl World.step system.world := by
  cases action with
  | chain event => rfl
  | scan index now feeConfig dels =>
    simp only [System.step]
    split <;> rfl
  | turn index read =>
    simp only [System.step]
    split
    next => split <;> rfl
    next => rfl
  | land index native =>
    simp only [System.step, System.seen]
    split
    next sent found => exact sent_run sent native system.world
    next => rfl
  | lose index => rfl

theorem sent_call (sent : Sent Pubkey) (native : NativeProgram Pubkey) (world : World Pubkey)
    (signed : sent.daemon.Signs sent.transaction) (call : Call Pubkey) (member : .call call ∈ sent.seen native world) :
    (∃ ctx minOut swapData, call = sent.daemon.buyCall ctx minOut swapData ∧ ctx.signers = [sent.daemon.keeper]) ∨
      ∃ ctx minOut swapData, call = sent.daemon.sellCall ctx minOut swapData ∧ ctx.signers = [sent.daemon.keeper] := by
  have last (del : Delegation Pubkey) (setup : List (SetupInstruction Pubkey)) (other : Call Pubkey)
      (member : .call call ∈ payments native del world.ledger setup ++ [.call other]) : call = other := by
    rcases List.mem_append.mp member with payment | own
    next =>
      obtain ⟨_, _, _, _, different⟩ := payments_tokens native del setup world.ledger _ payment
      cases different
    next =>
      cases List.mem_singleton.mp own
      rfl
  obtain ⟨daemon, transaction⟩ := sent
  cases transaction with
  | buy del crank =>
    simp only [Sent.seen, Crank.events] at member
    split at member
    next =>
      split at member
      next minOut swapData parsed => exact .inl ⟨crank.ctx, minOut, swapData, last _ _ _ member, signed⟩
      next => exact absurd member List.not_mem_nil
    next => exact absurd member List.not_mem_nil
  | sell del crank =>
    simp only [Sent.seen, Crank.events] at member
    split at member
    next =>
      split at member
      next minOut swapData parsed => exact .inr ⟨crank.ctx, minOut, swapData, last _ _ _ member, signed⟩
      next => exact absurd member List.not_mem_nil
    next => exact absurd member List.not_mem_nil

end Seen

section Sales

variable [DecidableEq Pubkey] [ProgramAddress Pubkey] (user : Pubkey)

def crankTime (world : World Pubkey) (event : Event Pubkey) : List Int :=
  if cranks user world event then [world.clock.toInt] else []

theorem crankTimes_collect (world : World Pubkey) (events : List (Event Pubkey)) :
    crankTimes user world events = collect World.step (crankTime user) world events := by
  induction events generalizing world with
  | nil => rfl
  | cons event rest ih =>
    rw [crankTimes, collect, ih, crankTime]
    split <;> rfl

theorem throughout_always (holds : World Pubkey → Event Pubkey → Prop) (world : World Pubkey)
    (events : List (Event Pubkey)) : Throughout holds world events ↔ Always World.step holds world events := by
  induction events generalizing world with
  | nil => exact Iff.rfl
  | cons event rest ih => rw [Throughout, Always, ih]

theorem tokens_silent (events : List (Event Pubkey))
    (all : ∀ event ∈ events, ∃ signed underived unassociated issued, event = .tokens signed underived unassociated issued)
    (world : World Pubkey) : collect World.step (crankTime user) world events = [] := by
  induction events generalizing world with
  | nil => rfl
  | cons event rest ih =>
    obtain ⟨_, _, _, _, rfl⟩ := all event List.mem_cons_self
    rw [collect, ih (fun other member => all other (List.mem_cons_of_mem _ member)), List.append_nil]
    rfl

theorem submit_crankTimes {Accounts Result : Type} (native : NativeProgram Pubkey) (del : Delegation Pubkey)
    (crank : Crank Pubkey Accounts) (discriminator : Vector UInt8 8)
    (execute : World Pubkey → Context Pubkey Accounts → UInt64 → List UInt8 → Except Error (World Pubkey × Result))
    (call : Context Pubkey Accounts → UInt64 → List UInt8 → Call Pubkey) (world : World Pubkey)
    (result : World Pubkey × Result) (times : List Int)
    (landed : crank.submit discriminator execute native.rail del world = some result)
    (told : ∀ funded minOut swapData, execute { world with ledger := funded } crank.ctx minOut swapData = .ok result →
      crankTime user { world with ledger := funded } (.call (call crank.ctx minOut swapData)) = times) :
    collect World.step (crankTime user) world (crank.events native del discriminator call world.ledger) = times := by
  obtain ⟨funded, minOut, swapData, events, moved, executed⟩ :=
    submit_events native del crank discriminator execute call world result landed
  have paid : (payments native del world.ledger crank.setup).foldl World.step world = { world with ledger := funded } :=
    moved
  rw [events, collect_append, tokens_silent user _ (payments_tokens native del crank.setup world.ledger),
    List.nil_append, paid, collect, collect, List.append_nil, told funded minOut swapData executed]

theorem seen_sale (system : System Pubkey) (action : Action Pubkey) :
    collect World.step (crankTime user) system.world (system.seen action) = system.sale user action := by
  cases action with
  | chain event =>
    rw [System.seen, collect, collect, List.append_nil]
    rfl
  | land index native =>
    simp only [System.seen, System.sale]
    cases found : system.inFlight[index]? with
    | none => rfl
    | some sent =>
      obtain ⟨daemon, transaction⟩ := sent
      cases transaction with
      | buy del crank =>
        simp only [Sent.seen]
        cases submitted : daemon.submitBuy crank native.rail del system.world with
        | none => rfl
        | some result =>
          apply submit_crankTimes user native del crank _ _ daemon.buyCall system.world result [] submitted
          intro funded minOut swapData executed
          rfl
      | sell del crank =>
        simp only [Sent.seen]
        cases submitted : daemon.submitSell crank native.rail del system.world with
        | none =>
          simp only [Option.isSome_none, Bool.false_eq_true, and_false, if_false]
          rfl
        | some result =>
          apply submit_crankTimes user native del crank _ _ daemon.sellCall system.world result _ submitted
          intro funded minOut swapData executed
          have accepted : (executeSell { system.world with ledger := funded } crank.ctx minOut swapData
              daemon.mockSwap.venue).isOk = true := (isOk_iff _).mpr ⟨_, executed⟩
          simp only [Option.isSome_some, and_true, Daemon.sellCall, crankTime, cranks, accepted, Bool.and_true,
            decide_eq_true_eq]
  | _ => rfl

end Sales

section Runs

variable [DecidableEq Pubkey] [ProgramAddress Pubkey] (system : System Pubkey) (actions : List (Action Pubkey))

theorem run_composed (composed : system.Composed) : (system.run actions).Composed :=
  always_invariant System.step System.Composed (fun _ _ => True)
    (fun system action kept _ => step_composed system action kept) system actions
    (always_all System.step _ (fun _ _ => trivial) system actions) composed

theorem history_world : (system.run actions).world = system.world.run (system.history actions) :=
  collect_view System.step System.seen World.step System.world step_seen system actions

theorem history_sales (user : Pubkey) :
    crankTimes user system.world (system.history actions) = system.sales user actions := by
  rw [crankTimes_collect]
  exact collect_collect System.step System.seen World.step System.world step_seen (System.sale user) (crankTime user)
    (seen_sale user) system actions

end Runs

end RecurringBuy
