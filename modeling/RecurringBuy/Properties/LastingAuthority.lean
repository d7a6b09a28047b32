import RecurringBuy.Properties.Failures
import RecurringBuy.Properties.FeeExactness
import RecurringBuy.Properties.Ownership
import RecurringBuy.Token.Obligations

set_option autoImplicit false

namespace RecurringBuy

open Checked SplToken ProgramAddress

variable {Pubkey : Type} [DecidableEq Pubkey] [ProgramAddress Pubkey]

/-- What the venue answers to the instruction that a call forwards, on the ledger after the skim. -/
def World.routed (world : World Pubkey) (leg : Leg Pubkey) (remainingAccounts : List (AccountInfo Pubkey))
    (swapData : List UInt8) (venue : Venue Pubkey) : List (TokenInstruction Pubkey) :=
  match skimFee world.ledger leg (UInt64.ofNat (world.fee leg.transient)) with
  | .ok skimmed => (venue.behaviour (leg.forwarded remainingAccounts swapData) skimmed).getD []
  | .error _ => []

def Event.issued (world : World Pubkey) : Event Pubkey → List (TokenInstruction Pubkey)
  | .tokens _ _ _ instructions => instructions
  | .call (.executeBuy ctx _ swapData venue) => world.routed ctx.accounts.leg ctx.remainingAccounts swapData venue
  | .call (.executeSell ctx _ swapData venue) => world.routed ctx.accounts.leg ctx.remainingAccounts swapData venue
  | .call _ => []
  | .tick _ => []

def Event.Serves (user : Pubkey) : Event Pubkey → Prop
  | .call (.executeBuy ctx _ _ _) => ctx.accounts.user = user
  | .call (.executeSell ctx _ _ _) => ctx.accounts.user = user
  | _ => False

def Event.Accepted (world : World Pubkey) : Event Pubkey → Prop
  | .call made => ∃ world', world.execute made = .ok world'
  | _ => True

/-- Where the call is for `user`, its venue takes back what it gives away of the transient account. -/
def Event.GivesBack (user mint : Pubkey) (world : World Pubkey) (event : Event Pubkey) : Prop :=
  event.Serves user → SplToken.GivesBack (buyAuthority user) mint (event.issued world)

def Event.Closes (key : Pubkey) (world : World Pubkey) (event : Event Pubkey) : Prop :=
  ∃ authority, .closeAccount key authority ∈ event.issued world

-- The venue is not this program, which alone signs for its transient PDAs.
def Event.Foreign (user : Pubkey) : Event Pubkey → Prop
  | .call (.executeBuy _ _ _ venue) => venue.controls (buyAuthority user) = false
  | .call (.executeSell _ _ _ venue) => venue.controls (buyAuthority user) = false
  | _ => True

section Settlements

-- The PDA that pays the fee owns the account, so the skim spends no allowance.
theorem skimFee_authority (ledger skimmed : Ledger Pubkey) (leg : Leg Pubkey) (fee : UInt64) (owner mint key : Pubkey)
    (entrusted : Entrusted owner mint (ledger.authority key)) (skim : skimFee ledger leg fee = .ok skimmed) :
    skimmed.authority key = ledger.authority key := by
  unfold skimFee at skim
  split at skim
  next =>
    rw [tokenCall_ok] at skim
    rw [process_authority _ _ _ _ key skim]
    simp only [TokenInstruction.regrant, entrusted_spend owner mint _ _ _ entrusted, ite_self]
  next =>
    cases skim
    rfl

theorem forwarded_unsigned {Accounts : Type} (ctx : Context Pubkey Accounts) (leg : Leg Pubkey) (caller : Pubkey)
    (seeds : leg.buyAuthority = buyAuthority caller) (venue : Venue Pubkey) (swapData : List UInt8) (key : Pubkey)
    (refused : authorities ctx.signers caller venue key = false) :
    venue.signed (leg.forwarded ctx.remainingAccounts swapData) key = false := by
  by_contra signature
  have granted := signed_within ctx.signers caller venue _ (forwarded_confined ctx leg caller swapData seeds) key
    (Bool.not_eq_false _ ▸ signature)
  simp [refused] at granted

theorem associated_refused {Accounts : Type} (ctx : Context Pubkey Accounts) (caller : Pubkey) (venue : Venue Pubkey)
    (holder mint : Pubkey) : authorities ctx.signers caller venue (wallet holder mint) = false :=
  (authorities_false _ _ _ _).mpr ⟨ctx.unassociated holder mint, (buyAuthority_ne_associated caller holder mint).symm,
    venue.unassociated holder mint⟩

-- Who signs neither the transaction nor for its venue can only gain.
theorem settlement_stranger {Accounts : Type} (ctx : Context Pubkey Accounts) (leg : Leg Pubkey) (caller : Pubkey)
    (seeds : leg.buyAuthority = buyAuthority caller) (venue : Venue Pubkey) (holder mint : Pubkey)
    (stranger : authorities ctx.signers caller venue holder = false) (ledger skimmed settled : Ledger Pubkey)
    (fee destBefore minOut out : UInt64) (swapData : List UInt8)
    (settlement : Settlement ledger skimmed settled ctx.signers ctx.remainingAccounts leg fee destBefore minOut out
      swapData venue)
    (entrusted : Entrusted holder mint (ledger.authority (wallet holder mint))) :
    Entrusted holder mint (settled.authority (wallet holder mint)) ∧
      ledger.balance (wallet holder mint) ≤ settled.balance (wallet holder mint) := by
  constructor
  next =>
    have skimmedEntrusted := entrusted
    rw [← skimFee_authority _ _ _ _ _ _ _ entrusted settlement.skim] at skimmedEntrusted
    obtain ⟨issued, -, ran⟩ := invokeSigned_ok _ _ _ _ _ _ settlement.invoke
    have unsigned := forwarded_unsigned ctx leg caller seeds venue swapData
    exact run_entrusted _ holder mint (unsigned _ stranger) (unsigned _ (associated_refused ctx caller venue holder mint))
      skimmed settled issued ran skimmedEntrusted
  next =>
    apply settlement_spares ctx leg caller seeds venue _ _ _ _ _ _ _ _ settlement
    intro account present
    exact confined_unspendable _ holder mint stranger account ((entrusted_slot _ _ _).mp entrusted account present)

end Settlements

section Calls

-- An accepted swap for `caller`, of either kind.
inductive Settles (world : World Pubkey) (event : Event Pubkey) (caller : Pubkey) : Prop where
  | of {Accounts : Type} (ctx : Context Pubkey Accounts) (leg : Leg Pubkey) (venue : Venue Pubkey)
      (skimmed : Ledger Pubkey) (fee destBefore minOut out : UInt64) (swapData : List UInt8)
      (seeds : leg.buyAuthority = buyAuthority caller)
      (settlement : Settlement world.ledger skimmed (world.step event).ledger ctx.signers ctx.remainingAccounts leg fee
        destBefore minOut out swapData venue)
      (charged : fee = UInt64.ofNat (world.fee leg.transient))
      (issued : event.issued world = world.routed leg ctx.remainingAccounts swapData venue)
      (foreign : ∀ user, event.Foreign user → venue.controls (buyAuthority user) = false)

theorem served_settles (world : World Pubkey) (event : Event Pubkey) (caller : Pubkey) (serves : event.Serves caller)
    (accepted : event.Accepted world) : Settles world event caller := by
  cases event with
  | call call =>
    obtain ⟨world', accepted⟩ := accepted
    have stepped := step_ok world world' call accepted
    cases call with
    | executeBuy ctx minOut swapData venue =>
      simp only [World.execute, map_ok, Prod.exists, executeBuy_ok] at accepted
      obtain ⟨_, _, ⟨_, _, _, _, fee, _, _, out, skimmed, course, -⟩, rfl⟩ := accepted
      obtain rfl : ctx.accounts.user = caller := serves
      have settlement := course.settlement
      rw [← stepped] at settlement
      exact .of ctx _ venue skimmed fee _ minOut out swapData course.authoritySeeds settlement
        (charged_fee world _ course.feeConfigLoaded _ _ course.transientAccount fee course.feeValue) rfl fun _ => id
    | executeSell ctx minOut swapData venue =>
      simp only [World.execute, map_ok, Prod.exists, executeSell_ok] at accepted
      obtain ⟨_, _, ⟨_, _, _, _, _, _, _, fee, _, _, out, skimmed, course, -⟩, rfl⟩ := accepted
      obtain rfl : ctx.accounts.user = caller := serves
      have settlement := course.settlement
      rw [← stepped] at settlement
      exact .of ctx _ venue skimmed fee _ minOut out swapData course.authoritySeeds settlement
        (charged_fee world _ course.feeConfigLoaded _ _ course.transientAccount fee course.feeValue) rfl fun _ => id
    | _ => exact serves.elim
  | _ => exact serves.elim

-- A call that serves nobody, or is refused, moves no tokens.
theorem call_quiet (world : World Pubkey) (call : Call Pubkey)
    (unserved : ∀ user, Event.Serves user (.call call) → ¬ Event.Accepted world (.call call)) :
    (world.step (.call call)).ledger = world.ledger := by
  cases outcome : world.execute call with
  | error error => rw [step_error world call error outcome]
  | ok world' =>
    rw [step_ok world world' call outcome]
    rcases ledger_cases world world' call outcome with same | ⟨ctx, _, _, _, _, rfl, -⟩ | ⟨ctx, _, _, _, _, rfl, -⟩
    next => exact same
    next => exact absurd ⟨world', outcome⟩ (unserved ctx.accounts.user rfl)
    next => exact absurd ⟨world', outcome⟩ (unserved ctx.accounts.user rfl)

variable (user mint : Pubkey)

theorem others_keep (world : World Pubkey) (event : Event Pubkey) (foreign : event.Foreign user)
    (others : ¬ event.Serves user)
    (entrusted : Entrusted (buyAuthority user) mint (world.ledger.authority (transient user mint))) :
    Entrusted (buyAuthority user) mint ((world.step event).ledger.authority (transient user mint)) ∧
      world.ledger.balance (transient user mint) ≤ (world.step event).ledger.balance (transient user mint) := by
  cases event with
  | tick clock => exact ⟨entrusted, Nat.le_refl _⟩
  | tokens signed underived unassociated instructions =>
    simp only [World.step]
    split
    next ledger accepted =>
      constructor
      next => exact run_entrusted signed _ mint (underived user) (unassociated _ mint) _ _ instructions accepted entrusted
      next => exact run_entrusted_balance signed _ mint (underived user) _ _ instructions accepted entrusted
    next => exact ⟨entrusted, Nat.le_refl _⟩
  | call call =>
    by_cases served : ∃ caller, Event.Serves caller (.call call) ∧ Event.Accepted world (.call call)
    next =>
      obtain ⟨caller, serves, accepted⟩ := served
      have other : caller ≠ user := by
        rintro rfl
        exact others serves
      obtain ⟨ctx, leg, venue, skimmed, fee, destBefore, minOut, out, swapData, seeds, settlement, -, -, apart⟩ :=
        served_settles world _ caller serves accepted
      have stranger : authorities ctx.signers caller venue (buyAuthority user) = false :=
        (authorities_false _ _ _ _).mpr
          ⟨ctx.underived user, fun same => other (buyAuthority_inj _ _ same).symm, apart user foreign⟩
      exact settlement_stranger ctx leg caller seeds venue _ mint stranger _ _ _ _ _ _ _ _ settlement entrusted
    next =>
      rw [call_quiet world call fun caller serves accepted => served ⟨caller, serves, accepted⟩]
      exact ⟨entrusted, Nat.le_refl _⟩

-- The venue's instructions run on the skimmed ledger, whose authorities are those before the call.
theorem settles_routed (world : World Pubkey) (event : Event Pubkey) (caller : Pubkey)
    (settles : Settles world event caller) (holder : Pubkey)
    (entrusted : Entrusted holder mint (world.ledger.authority (wallet holder mint))) :
    ∃ (signed : Pubkey → Bool) (skimmed : Ledger Pubkey), signed (wallet holder mint) = false ∧
      SplToken.run signed skimmed (event.issued world) = .ok (world.step event).ledger ∧
      skimmed.authority (wallet holder mint) = world.ledger.authority (wallet holder mint) := by
  obtain ⟨ctx, leg, venue, skimmed, fee, destBefore, minOut, out, swapData, seeds, settlement, charged, routed, -⟩ := settles
  obtain ⟨issued, behaved, ran⟩ := invokeSigned_ok _ _ _ _ _ _ settlement.invoke
  have skim := settlement.skim
  rw [charged] at skim
  have same : event.issued world = issued := by
    simp only [routed, World.routed, skim]
    rw [Leg.forwarded, behaved, Option.getD_some]
  refine ⟨_, skimmed, forwarded_unsigned ctx leg caller seeds venue swapData _
    (associated_refused ctx caller venue holder mint), ?_, ?_⟩
  next => rw [same]; exact ran
  next => exact skimFee_authority _ _ _ _ holder mint _ entrusted settlement.skim

theorem served_entrusted_iff (world : World Pubkey) (event : Event Pubkey) (serves : event.Serves user)
    (accepted : event.Accepted world)
    (entrusted : Entrusted (buyAuthority user) mint (world.ledger.authority (transient user mint))) :
    Entrusted (buyAuthority user) mint ((world.step event).ledger.authority (transient user mint)) ↔
      event.GivesBack user mint world := by
  obtain ⟨signed, skimmed, unsigned, ran, same⟩ := settles_routed mint world event user
    (served_settles world event user serves accepted) (buyAuthority user) entrusted
  rw [Event.GivesBack, forall_prop_of_true serves]
  apply run_entrusted_iff signed (buyAuthority user) mint unsigned skimmed _ _ ran
  have kept := entrusted
  rw [show world.ledger.authority (transient user mint) = _ from same.symm] at kept
  exact kept

theorem step_entrusted (world : World Pubkey) (event : Event Pubkey) (foreign : event.Foreign user)
    (back : event.GivesBack user mint world)
    (entrusted : Entrusted (buyAuthority user) mint (world.ledger.authority (transient user mint))) :
    Entrusted (buyAuthority user) mint ((world.step event).ledger.authority (transient user mint)) := by
  by_cases serves : event.Serves user
  next =>
    by_cases accepted : event.Accepted world
    next => exact (served_entrusted_iff user mint world event serves accepted entrusted).mpr back
    next =>
      cases event with
      | call call =>
        rwa [call_quiet world call fun _ _ => accepted]
      | _ => exact serves.elim
  next => exact (others_keep user mint world event foreign serves entrusted).1

theorem unclosed_present (world : World Pubkey) (event : Event Pubkey)
    (entrusted : Entrusted (buyAuthority user) mint (world.ledger.authority (transient user mint)))
    (unclosed : ¬ event.Closes (transient user mint) world)
    (present : (world.ledger.authority (transient user mint)).isSome) :
    ((world.step event).ledger.authority (transient user mint)).isSome := by
  have kept (authority : Pubkey) : .closeAccount (transient user mint) authority ∉ event.issued world :=
    fun member => unclosed ⟨authority, member⟩
  cases event with
  | tick clock => exact present
  | tokens signed underived unassociated instructions =>
    simp only [World.step]
    split
    next ledger accepted => exact run_present signed _ _ instructions _ accepted kept present
    next => exact present
  | call call =>
    by_cases served : ∃ caller, Event.Serves caller (.call call) ∧ Event.Accepted world (.call call)
    next =>
      obtain ⟨caller, serves, accepted⟩ := served
      obtain ⟨signed, skimmed, -, ran, same⟩ := settles_routed mint world _ caller
        (served_settles world _ caller serves accepted) (buyAuthority user) entrusted
      apply run_present signed skimmed _ _ _ ran kept
      rw [show skimmed.authority (transient user mint) = _ from same]
      exact present
    next =>
      rw [call_quiet world call fun caller serves accepted => served ⟨caller, serves, accepted⟩]
      exact present

end Calls

/-- For either mint, and any other: in a run whose venues take back what they give away of it, the transient account
belongs to its PDA in every world, only calls for the user debit it, and it is there until an instruction closes it.
Where the calls for the user go through, it belongs to the PDA in every world only then. -/
theorem transient_entrusted_iff (user mint : Pubkey) (world : World Pubkey) (events : List (Event Pubkey))
    (foreign : Throughout (fun _ event => event.Foreign user) world events)
    (start : Entrusted (buyAuthority user) mint (world.ledger.authority (transient user mint))) :
    (Throughout (fun world event => event.GivesBack user mint world) world events →
      Throughout (fun world event =>
        Entrusted (buyAuthority user) mint ((world.step event).ledger.authority (transient user mint)) ∧
        (¬ event.Serves user →
          world.ledger.balance (transient user mint) ≤ (world.step event).ledger.balance (transient user mint)) ∧
        (¬ event.Closes (transient user mint) world → (world.ledger.authority (transient user mint)).isSome →
          ((world.step event).ledger.authority (transient user mint)).isSome)) world events) ∧
    (Throughout (fun world event => event.Serves user → event.Accepted world) world events →
      (Throughout (fun world event =>
          Entrusted (buyAuthority user) mint ((world.step event).ledger.authority (transient user mint))) world events ↔
        Throughout (fun world event => event.GivesBack user mint world) world events)) := by
  constructor
  next =>
    intro back
    have both := throughout_and _ _ world events foreign back
    apply throughout_invariant _
      (fun world => Entrusted (buyAuthority user) mint (world.ledger.authority (transient user mint))) _ _ world events both
      start
    intro world event entrusted conditions
    have next := step_entrusted user mint world event conditions.1 conditions.2 entrusted
    refine ⟨⟨next, ?_, ?_⟩, next⟩
    next => exact fun others => (others_keep user mint world event conditions.1 others entrusted).2
    next => exact unclosed_present user mint world event entrusted
  next =>
    intro accepted
    have both := throughout_and _ _ world events foreign accepted
    apply throughout_kept_iff _
      (fun world => Entrusted (buyAuthority user) mint (world.ledger.authority (transient user mint))) _ ?_ world events both
      start
    intro world event entrusted conditions
    constructor
    next =>
      intro kept serves
      exact (served_entrusted_iff user mint world event serves (conditions.2 serves) entrusted).mp kept serves
    next => exact fun back => step_entrusted user mint world event conditions.1 back entrusted

section Sample

open Handover

def purse : Address := transient Terms.user Terms.usdcMint

def attacker : Address := .key 40

def launched : World Address := genesis.run launch

def buyCall (venue : Venue Address) : Event Address :=
  .call (.executeBuy (Rogue.buyer.context (Rogue.buyer.buyAccounts Terms.swapProgram)) 1000 [] venue)

theorem launched_entrusted : Entrusted (buyAuthority Terms.user) Terms.usdcMint (launched.ledger.authority purse) := by
  have value : launched.ledger.authority purse = some (.fresh Terms.usdcMint (buyAuthority Terms.user)) := by decide
  rw [value]
  rintro held ⟨⟩
  exact fresh_confined _ _

def extended (more : List (TokenInstruction Address)) : Venue Address :=
  { exchange with
    behaviour := fun instruction ledger => (exchange.behaviour instruction ledger).map fun issued => issued ++ more }

def grant : Venue Address := extended [.approve purse attacker (buyAuthority Terms.user) 500]

def lend : Venue Address :=
  extended [.approve purse attacker (buyAuthority Terms.user) 500, .revoke purse (buyAuthority Terms.user)]

def pull : Event Address :=
  .tokens signs signs_underived signs_unassociated [.mintTo Terms.usdcMint purse Terms.admin 500]

def theft : Event Address :=
  .tokens signs signs_underived signs_unassociated
    [.createAssociated attacker Terms.usdcMint, .transfer purse (wallet attacker Terms.usdcMint) attacker 500]

-- What was lent to the attacker during the call is of no use to it afterwards.
theorem transient_entrusted_iff_lent :
    (∃ world' event, executeBuy launched (Rogue.buyer.context (Rogue.buyer.buyAccounts Terms.swapProgram)) 1000 []
      lend = .ok (world', event)) ∧
    500 ≤ (launched.run [buyCall lend, pull, theft]).ledger.balance purse := by
  constructor
  next =>
    have amount : (executeBuy launched (Rogue.buyer.context (Rogue.buyer.buyAccounts Terms.swapProgram)) 1000 [] lend).map
        (fun result => result.2.amountOut) = .ok 1000 := by decide
    obtain ⟨⟨world', event⟩, accepted, -⟩ := (map_ok _ _ _).mp amount
    exact ⟨world', event, accepted⟩
  next =>
    have issued : (buyCall lend).issued launched =
        [.transfer purse (wallet Rogue.buyer.keeper Terms.usdcMint) (buyAuthority Terms.user) 1000,
          .transfer (wallet Rogue.buyer.keeper Terms.targetMint) (wallet Terms.user Terms.targetMint) Rogue.buyer.keeper 1000,
          .approve purse attacker (buyAuthority Terms.user) 500, .revoke purse (buyAuthority Terms.user)] := by
      decide
    have back : (buyCall lend).GivesBack Terms.user Terms.usdcMint launched := by
      intro
      rw [issued]
      exact ⟨trivial, trivial, fun _ => .inl ⟨_, List.mem_cons_self, rfl⟩, trivial, trivial⟩
    have kept := (transient_entrusted_iff Terms.user Terms.usdcMint launched [buyCall lend, pull, theft]
      ⟨rfl, trivial, trivial, trivial⟩ launched_entrusted).1 ⟨back, False.elim, False.elim, trivial⟩
    have pulled : (launched.run [buyCall lend, pull]).ledger.balance purse = 500 := by decide
    rw [← pulled]
    exact kept.2.2.1.2.1 id

-- The call is accepted, the delegate stays, and the next pull is the delegate's.
theorem approval_outlives_call :
    (¬ ∀ world' event, executeBuy launched (Rogue.buyer.context (Rogue.buyer.buyAccounts Terms.swapProgram)) 1000 []
        grant = .ok (world', event) →
      Entrusted (buyAuthority Terms.user) Terms.usdcMint (launched.ledger.authority purse) →
      Entrusted (buyAuthority Terms.user) Terms.usdcMint (world'.ledger.authority purse)) ∧
    ¬ Throughout (fun world event => ¬ event.Serves Terms.user →
      world.ledger.balance purse ≤ (world.step event).ledger.balance purse) launched [buyCall grant, pull, theft] := by
  constructor
  next =>
    intro always
    have delegate : (executeBuy launched (Rogue.buyer.context (Rogue.buyer.buyAccounts Terms.swapProgram)) 1000 []
        grant).map (fun result => (result.1.ledger.authority purse).bind Authority.delegate) =
        .ok (some attacker) := by decide
    obtain ⟨⟨world', event⟩, accepted, value⟩ := (map_ok _ _ _).mp delegate
    have entrusted := always world' event accepted launched_entrusted
    obtain ⟨held, present, approved⟩ := Option.bind_eq_some_iff.mp value
    simp [(entrusted held present).undelegated] at approved
  next =>
    intro throughout
    have before : (launched.run [buyCall grant, pull]).ledger.balance purse = 500 := by decide
    have after : (launched.run [buyCall grant, pull, theft]).ledger.balance purse = 0 := by decide
    have kept : (launched.run [buyCall grant, pull]).ledger.balance purse ≤
        (launched.run [buyCall grant, pull, theft]).ledger.balance purse := throughout.2.2.1 id
    omega

end Sample

end RecurringBuy
