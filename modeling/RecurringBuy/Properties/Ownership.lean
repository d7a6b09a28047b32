import RecurringBuy.Program.History
import RecurringBuy.Properties.Confinement

set_option autoImplicit false

namespace RecurringBuy

open Checked SplToken ProgramAddress

variable {Pubkey : Type} [DecidableEq Pubkey] [ProgramAddress Pubkey]

/-- While `user` signs, the venue may hand the user's account for `mint` to somebody else. -/
def Venue.HandsOver (venue : Venue Pubkey) (signers : List Pubkey) (caller user mint : Pubkey) : Prop :=
  authorities signers caller venue user = true ∧
    ∃ instruction ledger issued, venue.behaviour instruction ledger = some issued ∧
      ∃ step ∈ issued, TokenInstruction.Disowns (wallet user mint) user step

def Event.HandsOver (user mint : Pubkey) : Event Pubkey → Prop
  | .call (.executeBuy ctx _ _ venue) => venue.HandsOver ctx.signers ctx.accounts.user user mint
  | .call (.executeSell ctx _ _ venue) => venue.HandsOver ctx.signers ctx.accounts.user user mint
  | .tokens signed _ _ instructions =>
      signed user = true ∧ ∃ step ∈ instructions, step.Disowns (wallet user mint) user
  | _ => False

/-- The user's account for `mint` starts out as the user's, or absent, and no event hands it over. -/
def Retained (user mint : Pubkey) (world : World Pubkey) (events : List (Event Pubkey)) : Prop :=
  OwnedBy user (world.ledger.accounts (wallet user mint)) ∧
    Throughout (fun _ event => ¬ event.HandsOver user mint) world events

def Owns (owner key : Pubkey) (ledger : Ledger Pubkey) : Prop :=
  ∃ account, ledger.accounts key = some account ∧ account.owner = owner

section Steps

variable (user mint : Pubkey)

theorem run_owned (signed : Pubkey → Bool) (ledger ledger' : Ledger Pubkey)
    (unsigned : signed (wallet user mint) = false) (instructions : List (TokenInstruction Pubkey))
    (kept : signed user = true → ∀ step ∈ instructions, ¬ step.Disowns (wallet user mint) user)
    (accepted : SplToken.run signed ledger instructions = .ok ledger')
    (owned : OwnedBy user (ledger.accounts (wallet user mint))) :
    OwnedBy user (ledger'.accounts (wallet user mint)) := by
  apply run_slot signed (OwnedBy user) (wallet user mint) instructions ledger ledger' _ accepted owned
  intro instruction member before after step
  exact ownedBy_step signed instruction user mint unsigned (fun signature => kept signature instruction member)
    before after step

theorem skimFee_owned (ledger skimmed : Ledger Pubkey) (leg : Leg Pubkey) (fee : UInt64) (caller : Pubkey)
    (seeds : leg.buyAuthority = buyAuthority caller) (skim : skimFee ledger leg fee = .ok skimmed)
    (owned : OwnedBy user (ledger.accounts (wallet user mint))) :
    OwnedBy user (skimmed.accounts (wallet user mint)) := by
  unfold skimFee at skim
  split at skim
  next =>
    rw [tokenCall_ok] at skim
    have unsigned : decide (wallet user mint = leg.buyAuthority) = false := by
      rw [seeds, decide_eq_false_iff_not]
      exact (buyAuthority_ne_associated caller user mint).symm
    apply ownedBy_step _ _ user mint unsigned _ _ _ (process_slot _ _ _ _ _ skim) owned
    intro _ disowns
    rcases disowns with ⟨_, _, transfer, _⟩
    cases transfer
  next =>
    cases skim
    exact owned

theorem settlement_owned {Accounts : Type} (ctx : Context Pubkey Accounts) (leg : Leg Pubkey) (caller : Pubkey)
    (seeds : leg.buyAuthority = buyAuthority caller) (venue : Venue Pubkey)
    (ledger skimmed settled : Ledger Pubkey) (fee destBefore minOut out : UInt64) (swapData : List UInt8)
    (settlement : Settlement ledger skimmed settled ctx.signers ctx.remainingAccounts leg fee destBefore minOut out
      swapData venue)
    (kept : ¬ venue.HandsOver ctx.signers caller user mint)
    (owned : OwnedBy user (ledger.accounts (wallet user mint))) :
    OwnedBy user (settled.accounts (wallet user mint)) := by
  have charged := skimFee_owned user mint _ _ _ _ caller seeds settlement.skim owned
  obtain ⟨issued, behaved, ran⟩ := invokeSigned_ok _ _ _ _ _ _ settlement.invoke
  have within := signed_within ctx.signers caller venue _ (forwarded_confined ctx leg caller swapData seeds)
  apply run_owned user mint _ _ _ _ issued _ ran charged
  next =>
    by_contra signature
    have granted := within _ (Bool.not_eq_false _ ▸ signature)
    have refused := (authorities_false ctx.signers caller venue (wallet user mint)).mpr
      ⟨ctx.unassociated user mint, (buyAuthority_ne_associated caller user mint).symm, venue.unassociated user mint⟩
    simp [refused] at granted
  next =>
    intro signature step member disowns
    exact kept ⟨within _ signature, _, _, issued, behaved, step, member, disowns⟩

theorem step_owned (world : World Pubkey) (event : Event Pubkey)
    (owned : OwnedBy user (world.ledger.accounts (wallet user mint))) (kept : ¬ event.HandsOver user mint) :
    OwnedBy user ((world.step event).ledger.accounts (wallet user mint)) := by
  apply step_kept (fun after => OwnedBy user (after.ledger.accounts (wallet user mint))) world event owned
  case ticked => exact fun _ _ => owned
  case moved =>
    rintro signed underived unassociated instructions ledger rfl accepted
    apply run_owned user mint signed _ _ (unassociated user mint) instructions _ accepted owned
    intro signature step member disowns
    exact kept ⟨signature, step, member, disowns⟩
  case called =>
    rintro call world' rfl outcome
    rcases ledger_cases world world' call outcome with same | ⟨ctx, minOut, swapData, venue, event, rfl, bought⟩ |
      ⟨ctx, minOut, swapData, venue, event, rfl, sold⟩
    next =>
      rw [same]
      exact owned
    next =>
      obtain ⟨_, _, _, _, _, _, _, _, _, course, -⟩ := (executeBuy_ok _ _ _ _ _ _ _).mp bought
      exact settlement_owned user mint ctx _ _ course.authoritySeeds venue _ _ _ _ _ _ _ _ course.settlement kept
        owned
    next =>
      obtain ⟨_, _, _, _, _, _, _, _, _, _, _, _, course, -⟩ := (executeSell_ok _ _ _ _ _ _ _).mp sold
      exact settlement_owned user mint ctx _ _ course.authoritySeeds venue _ _ _ _ _ _ _ _ course.settlement kept
        owned

theorem retained_owned (world : World Pubkey) (events : List (Event Pubkey))
    (retained : Retained user mint world events) :
    OwnedBy user ((world.run events).ledger.accounts (wallet user mint)) := by
  obtain ⟨start, throughout⟩ := retained
  exact run_invariant _ (fun world => OwnedBy user (world.ledger.accounts (wallet user mint)))
    (step_owned user mint) world events throughout start

omit [DecidableEq Pubkey] in
theorem owns_of (ledger : Ledger Pubkey) (key : Pubkey) (account : TokenAccount Pubkey)
    (address : key = wallet user mint) (present : ledger.accounts key = some account)
    (owned : OwnedBy user (ledger.accounts (wallet user mint))) : Owns user key ledger := by
  refine ⟨account, present, owned account ?_⟩
  rw [← address]
  exact present

end Steps

/-- In a run that hands neither account over, the destination and the pot of every accepted call are the user's;
the destination stays so if the call itself does not hand it over. -/
theorem proceeds_owned (world : World Pubkey) (events : List (Event Pubkey)) (user : Pubkey) (cfg : Config Pubkey)
    (configured : (world.run events).config = some cfg) (target : Retained user cfg.targetMint world events) :
    (∀ ctx minOut swapData venue world' event, ctx.accounts.user = user →
      executeBuy (world.run events) ctx minOut swapData venue = .ok (world', event) →
      Owns user ctx.accounts.destAta (world.run events).ledger ∧
        (¬ venue.HandsOver ctx.signers user user cfg.targetMint → Owns user ctx.accounts.destAta world'.ledger)) ∧
    (Retained user cfg.usdcMint world events →
      ∀ ctx minOut swapData venue world' event, ctx.accounts.user = user →
        executeSell (world.run events) ctx minOut swapData venue = .ok (world', event) →
        Owns user ctx.accounts.userTargetAta (world.run events).ledger ∧
          Owns user ctx.accounts.destUsdc (world.run events).ledger ∧
          (¬ venue.HandsOver ctx.signers user user cfg.usdcMint → Owns user ctx.accounts.destUsdc world'.ledger)) := by
  have targetOwned := retained_owned user cfg.targetMint world events target
  constructor
  next =>
    intro ctx minOut swapData venue world' event owner accepted
    obtain ⟨cfg', _, _, dest, _, _, _, _, _, course, -⟩ := (executeBuy_ok _ _ _ _ _ _ _).mp accepted
    obtain rfl : cfg' = cfg := Option.some.inj (course.configLoaded.symm.trans configured)
    subst owner
    refine ⟨owns_of _ _ _ _ dest course.destAddress course.destAccount targetOwned, ?_⟩
    intro kept
    obtain ⟨credited, present, -⟩ := course.settlement.received
    exact owns_of _ _ _ _ credited course.destAddress present
      (settlement_owned _ _ ctx _ _ course.authoritySeeds venue _ _ _ _ _ _ _ _ course.settlement kept targetOwned)
  next =>
    intro usdc ctx minOut swapData venue world' event owner accepted
    have usdcOwned := retained_owned user cfg.usdcMint world events usdc
    obtain ⟨cfg', _, _, _, _, pot, dest, _, _, _, _, _, course, -⟩ := (executeSell_ok _ _ _ _ _ _ _).mp accepted
    obtain rfl : cfg' = cfg := Option.some.inj (course.configLoaded.symm.trans configured)
    subst owner
    refine ⟨owns_of _ _ _ _ pot course.potAddress course.potAccount targetOwned,
      owns_of _ _ _ _ dest course.destAddress course.destAccount usdcOwned, ?_⟩
    intro kept
    obtain ⟨credited, present, -⟩ := course.settlement.received
    exact owns_of _ _ _ _ credited course.destAddress present
      (settlement_owned _ _ ctx _ _ course.authoritySeeds venue _ _ _ _ _ _ _ _ course.settlement kept usdcOwned)

section Sample

namespace Handover

def signs : Address → Bool
  | .key _ => true
  | _ => false

theorem signs_underived (user : Address) : signs (buyAuthority user) = false := rfl

theorem signs_unassociated (wallet mint : Address) : signs (AssociatedAddress.associated wallet mint) = false := rfl

def genesis : World Address :=
  { config := none, feeConfig := none, sellPlans := fun _ => none, ledger := Ledger.empty, clock := 0 }

-- The mints, the accounts of a buy of 1000 units, and the keeper's stock.
def supply : Event Address :=
  .tokens signs signs_underived signs_unassociated
    [.initializeMint Terms.targetMint 6 Terms.admin,
      .initializeMint Terms.usdcMint 6 Terms.admin,
      .createAssociated Terms.user Terms.targetMint,
      .createAssociated (buyAuthority Terms.user) Terms.usdcMint,
      .createAssociated Terms.feeOwner Terms.usdcMint,
      .createAssociated Rogue.buyer.keeper Terms.usdcMint,
      .createAssociated Rogue.buyer.keeper Terms.targetMint,
      .mintTo Terms.usdcMint (transient Terms.user Terms.usdcMint) Terms.admin 1000,
      .mintTo Terms.targetMint (wallet Rogue.buyer.keeper Terms.targetMint) Terms.admin 1000]

def launch : List (Event Address) := supply :: Terms.dollar.setup

def handover : Event Address :=
  .tokens signs signs_underived signs_unassociated
    [.setAccountOwner (wallet Terms.user Terms.targetMint) Terms.user (.key 40)]

-- The keeper's stock pays one for one.
def exchange : Venue Address :=
  { controls := fun _ => false
    unassociated := fun _ _ => rfl
    behaviour := fun _ _ => some
      [.transfer (transient Terms.user Terms.usdcMint) (wallet Rogue.buyer.keeper Terms.usdcMint)
          (buyAuthority Terms.user) 1000,
        .transfer (wallet Rogue.buyer.keeper Terms.targetMint) (wallet Terms.user Terms.targetMint)
          Rogue.buyer.keeper 1000] }

def buy (world : World Address) : Except Error (World Address × BuyExecuted Address) :=
  executeBuy world (Rogue.buyer.context (Rogue.buyer.buyAccounts Terms.swapProgram)) 1000 [] exchange

end Handover

open Handover

theorem proceeds_owned_launch :
    ∃ world' event, Handover.buy (genesis.run launch) = .ok (world', event) ∧
      Owns Terms.user (wallet Terms.user Terms.targetMint) world'.ledger := by
  have amount : (Handover.buy (genesis.run launch)).map (fun result => result.2.amountOut) = .ok 1000 := by decide
  obtain ⟨⟨world', event⟩, accepted, -⟩ := (map_ok _ _ _).mp amount
  have configured : (genesis.run launch).config = some Terms.dollar.config := by decide
  have retained : Retained Terms.user Terms.targetMint genesis launch := by
    refine ⟨fun account present => absurd present.symm (Option.some_ne_none account), ?_, id, id, id, trivial⟩
    intro handed
    rcases handed with ⟨_, step, member, authority, owner, same, _⟩
    rw [same] at member
    simp at member
  refine ⟨world', event, accepted, ?_⟩
  apply ((proceeds_owned genesis launch Terms.user Terms.dollar.config configured retained).1
    (Rogue.buyer.context (Rogue.buyer.buyAccounts Terms.swapProgram)) 1000 [] exchange world' event rfl accepted).2
  intro handed
  rcases handed with ⟨signature, _⟩
  exact absurd signature (by decide)

-- The user names another owner of the account, and the next buy pays that owner.
theorem destination_handed_over :
    ¬ ∀ world' event, Handover.buy (genesis.run (launch ++ [handover])) = .ok (world', event) →
      Owns Terms.user (wallet Terms.user Terms.targetMint) (genesis.run (launch ++ [handover])).ledger := by
  intro always
  have amount : (Handover.buy (genesis.run (launch ++ [handover]))).map (fun result => result.2.amountOut) =
      .ok 1000 := by decide
  obtain ⟨⟨world', event⟩, accepted, -⟩ := (map_ok _ _ _).mp amount
  obtain ⟨account, present, owner⟩ := always world' event accepted
  have holder : ((genesis.run (launch ++ [handover])).ledger.accounts
      (wallet Terms.user Terms.targetMint)).map TokenAccount.owner = some (.key 40) := by decide
  rw [present] at holder
  have thief : account.owner = .key 40 := Option.some.inj holder
  rw [owner] at thief
  exact absurd thief (by decide)

end Sample

end RecurringBuy
