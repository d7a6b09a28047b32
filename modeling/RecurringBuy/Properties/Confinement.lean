import RecurringBuy.Properties.RogueCall

set_option autoImplicit false

namespace RecurringBuy

open Checked SplToken ProgramAddress

variable {Pubkey : Type} [DecidableEq Pubkey] [ProgramAddress Pubkey]

/-- The keys that sign in a call for `user`: the transaction's signers, the transient PDA, and what the
venue and the programs it calls sign for. -/
def authorities (signers : List Pubkey) (user : Pubkey) (venue : Venue Pubkey) (key : Pubkey) : Bool :=
  signers.contains key || decide (key = buyAuthority user) || venue.controls key

def Instruction.Confined (signers : List Pubkey) (user : Pubkey) (instruction : Instruction Pubkey) : Prop :=
  ∀ account ∈ instruction.accounts, account.isSigner = true →
    account.pubkey ∈ signers ∨ account.pubkey = buyAuthority user

/-- The two venues differ at most on instructions with a signer beyond `signers` and the transient PDA. -/
structure Venue.Agrees (venue venue' : Venue Pubkey) (signers : List Pubkey) (user : Pubkey) : Prop where
  controls : venue'.controls = venue.controls
  behaviour : ∀ instruction : Instruction Pubkey, instruction.Confined signers user →
    venue'.behaviour instruction = venue.behaviour instruction

-- Who may close an account of wrapped SOL in its owner's place does not sign.
def Shut (granted : Pubkey → Bool) (account : TokenAccount Pubkey) : Prop :=
  account.IsNative → ∀ closer, account.closeAuthority = some closer → granted closer = false

structure Spares (signers : List Pubkey) (user : Pubkey) (venue : Venue Pubkey) (world world' : World Pubkey) :
    Prop where
  accounts : ∀ key, (∀ account, world.ledger.accounts key = some account →
      ¬ account.Spendable (authorities signers user venue)) →
    world.ledger.balance key ≤ world'.ledger.balance key
  transients : ∀ other, other ≠ user → ∀ key account, world.ledger.accounts key = some account →
    account.owner = buyAuthority other →
    (∀ delegate, account.delegate = some delegate → authorities signers user venue delegate = false) →
    Shut (authorities signers user venue) account →
    world.ledger.balance key ≤ world'.ledger.balance key
  wallets : ∀ holder, holder ∉ signers → holder ≠ buyAuthority user → venue.controls holder = false →
    ∀ key account, world.ledger.accounts key = some account → account.owner = holder → account.delegate = none →
    Shut (authorities signers user venue) account →
    world.ledger.balance key ≤ world'.ledger.balance key
  own : user ∉ signers → venue.controls user = false →
    ∀ key account, world.ledger.accounts key = some account → account.owner = user → account.delegate = none →
    Shut (authorities signers user venue) account →
    world.ledger.balance key ≤ world'.ledger.balance key
  sellPlans : ∀ other, other ≠ user → world'.sellPlans (sellPlanPda other) = world.sellPlans (sellPlanPda other)

section Signatures

theorem authorities_false (signers : List Pubkey) (user : Pubkey) (venue : Venue Pubkey) (key : Pubkey) :
    authorities signers user venue key = false ↔
      key ∉ signers ∧ key ≠ buyAuthority user ∧ venue.controls key = false := by
  simp only [authorities, Bool.or_eq_false_iff, decide_eq_false_iff_not, List.contains_eq_mem, and_assoc, ne_eq]

theorem forwarded_confined {Accounts : Type} (ctx : Context Pubkey Accounts) (leg : Leg Pubkey) (user : Pubkey)
    (swapData : List UInt8) (seeds : leg.buyAuthority = buyAuthority user) :
    Instruction.Confined ctx.signers user
      { programId := leg.swapProgram
        accounts := forwardedMetas ctx.remainingAccounts leg.buyAuthority
        data := swapData } := by
  intro account member signer
  rw [← seeds]
  exact forwardedMetas_signer _ _ _ ctx.genuine account member signer

theorem signed_within (signers : List Pubkey) (user : Pubkey) (venue : Venue Pubkey)
    (instruction : Instruction Pubkey) (confined : instruction.Confined signers user) (key : Pubkey)
    (signature : venue.signed instruction key = true) : authorities signers user venue key = true := by
  simp only [authorities, Bool.or_eq_true, decide_eq_true_eq, List.contains_iff_mem]
  rw [Venue.signed, Bool.or_eq_true] at signature
  rcases signature with presented | controlled
  next =>
    obtain ⟨account, member, flagged⟩ := List.any_eq_true.mp presented
    rw [Bool.and_eq_true, decide_eq_true_eq] at flagged
    obtain ⟨signer, rfl⟩ := flagged
    exact .inl (confined account member signer)
  next => exact .inr controlled

theorem unspendable (signers : List Pubkey) (user : Pubkey) (venue : Venue Pubkey) (account : TokenAccount Pubkey)
    (owner : authorities signers user venue account.owner = false)
    (delegate : ∀ delegate, account.delegate = some delegate → authorities signers user venue delegate = false)
    (shut : Shut (authorities signers user venue) account) :
    ¬ account.Spendable (authorities signers user venue) := by
  intro spendable
  rcases spendable with signature | ⟨spender, approved, signature⟩ | ⟨native, closer, named, signature⟩
  next => simp [owner] at signature
  next => simp [delegate spender approved] at signature
  next => simp [shut native closer named] at signature

end Signatures

section Forwarding

variable {Accounts : Type} (ctx : Context Pubkey Accounts) (leg : Leg Pubkey) (user : Pubkey)
  (seeds : leg.buyAuthority = buyAuthority user) (venue : Venue Pubkey)

include seeds

theorem skimFee_spares (ledger skimmed : Ledger Pubkey) (fee : UInt64) (key : Pubkey) (floor : Nat)
    (skim : skimFee ledger leg fee = .ok skimmed)
    (guarded : Guarded (authorities ctx.signers user venue) floor (ledger.accounts key)) :
    Guarded (authorities ctx.signers user venue) floor (skimmed.accounts key) := by
  unfold skimFee at skim
  split at skim
  next =>
    rw [tokenCall_ok] at skim
    apply guarded_step _ _ _ _ key floor _ _ (process_slot _ _ _ _ key skim) guarded
    intro signer signature
    rw [decide_eq_true_eq, seeds] at signature
    simp [authorities, signature]
  next =>
    cases skim
    exact guarded

theorem settlement_spares (ledger skimmed settled : Ledger Pubkey) (fee destBefore minOut out : UInt64)
    (swapData : List UInt8)
    (settlement : Settlement ledger skimmed settled ctx.signers ctx.remainingAccounts leg fee destBefore minOut out
      swapData venue)
    (key : Pubkey) (beyond : ∀ account, ledger.accounts key = some account →
      ¬ account.Spendable (authorities ctx.signers user venue)) :
    ledger.balance key ≤ settled.balance key := by
  have start := guarded_start (authorities ctx.signers user venue) ledger key beyond
  have charged := skimFee_spares ctx leg user seeds venue ledger skimmed fee key _ settlement.skim start
  obtain ⟨issued, -, ran⟩ := invokeSigned_ok _ _ _ _ _ _ settlement.invoke
  have confined := forwarded_confined ctx leg user swapData seeds
  apply guarded_balance (authorities ctx.signers user venue)
  exact run_guarded _ _ (signed_within ctx.signers user venue _ confined) key issued _ _ ran _ charged

theorem forwardSwap_agrees (venue' : Venue Pubkey) (agrees : venue.Agrees venue' ctx.signers user)
    (ledger : Ledger Pubkey) (fee destBefore minOut : UInt64) (swapData : List UInt8) :
    forwardSwap ledger ctx.signers ctx.remainingAccounts leg fee destBefore minOut swapData venue' =
      forwardSwap ledger ctx.signers ctx.remainingAccounts leg fee destBefore minOut swapData venue := by
  have same := agrees.behaviour _ (forwarded_confined ctx leg user swapData seeds)
  have signed : venue'.signed = venue.signed := by
    funext instruction key
    rw [Venue.signed, Venue.signed, agrees.controls]
  simp only [forwardSwap, invokeSigned, signed, same]

end Forwarding

section Calls

variable (venue : Venue Pubkey) (foreign : ∀ other, venue.controls (buyAuthority other) = false)

-- Before the seeds of the transient PDA are checked, no venue is called.
theorem executeBuy_agrees (world : World Pubkey) (ctx : Context Pubkey (ExecuteBuy Pubkey)) (minOut : UInt64)
    (swapData : List UInt8) (venue' : Venue Pubkey) (agrees : venue.Agrees venue' ctx.signers ctx.accounts.user) :
    executeBuy world ctx minOut swapData venue' = executeBuy world ctx minOut swapData venue := by
  unfold executeBuy
  iterate 7
    apply bind_congr
    intro _
  apply require_congr
  intro checked
  have seeds := of_decide_eq_true checked
  simp only [forwardSwap_agrees ctx ctx.accounts.leg ctx.accounts.user seeds venue venue' agrees]

theorem executeSell_agrees (world : World Pubkey) (ctx : Context Pubkey (ExecuteSell Pubkey)) (minOut : UInt64)
    (swapData : List UInt8) (venue' : Venue Pubkey) (agrees : venue.Agrees venue' ctx.signers ctx.accounts.user) :
    executeSell world ctx minOut swapData venue' = executeSell world ctx minOut swapData venue := by
  unfold executeSell
  iterate 10
    apply bind_congr
    intro _
  apply require_congr
  intro checked
  have seeds := of_decide_eq_true checked
  simp only [forwardSwap_agrees ctx ctx.accounts.leg ctx.accounts.user seeds venue venue' agrees]

include foreign

theorem spares_of (signers : List Pubkey) (user : Pubkey) (world world' : World Pubkey)
    (underived : ∀ other, buyAuthority other ∉ signers)
    (accounts : ∀ key, (∀ account, world.ledger.accounts key = some account →
      ¬ account.Spendable (authorities signers user venue)) →
      world.ledger.balance key ≤ world'.ledger.balance key)
    (sellPlans : ∀ other, other ≠ user →
      world'.sellPlans (sellPlanPda other) = world.sellPlans (sellPlanPda other)) :
    Spares signers user venue world world' := by
  have wallets : ∀ holder, holder ∉ signers → holder ≠ buyAuthority user → venue.controls holder = false →
      ∀ key account, world.ledger.accounts key = some account → account.owner = holder → account.delegate = none →
      Shut (authorities signers user venue) account → world.ledger.balance key ≤ world'.ledger.balance key := by
    intro holder unsigned underived uncontrolled key account present owner undelegated shut
    apply accounts key
    intro account' present'
    obtain rfl := Option.some.inj (present.symm.trans present')
    apply unspendable
    next => rw [owner]; exact (authorities_false _ _ _ _).mpr ⟨unsigned, underived, uncontrolled⟩
    next => simp [undelegated]
    next => exact shut
  constructor
  case accounts => exact accounts
  case transients =>
    intro other different key account present owner delegates shut
    apply accounts key
    intro account' present'
    obtain rfl := Option.some.inj (present.symm.trans present')
    apply unspendable _ _ _ _ _ delegates shut
    rw [owner]
    exact (authorities_false _ _ _ _).mpr
      ⟨underived other, fun same => different (buyAuthority_inj _ _ same), foreign other⟩
  case wallets => exact wallets
  case own => exact fun unsigned uncontrolled => wallets user unsigned (buyAuthority_ne_self user).symm uncontrolled
  case sellPlans => exact sellPlans

theorem executeBuy_spares (world world' : World Pubkey) (ctx : Context Pubkey (ExecuteBuy Pubkey))
    (minOut : UInt64) (swapData : List UInt8) (event : BuyExecuted Pubkey)
    (accepted : executeBuy world ctx minOut swapData venue = .ok (world', event)) :
    Spares ctx.signers ctx.accounts.user venue world world' := by
  obtain ⟨cfg, feeConfig, source, dest, fee, netIn, floor, out, skimmed, course, -⟩ :=
    (executeBuy_ok _ _ _ _ _ _ _).mp accepted
  apply spares_of venue foreign _ _ _ _ ctx.underived
  next =>
    intro key beyond
    exact settlement_spares ctx _ _ course.authoritySeeds venue _ _ _ _ _ _ _ _ course.settlement key beyond
  next =>
    intro other different
    rw [course.unchanged]

theorem executeSell_spares (world world' : World Pubkey) (ctx : Context Pubkey (ExecuteSell Pubkey))
    (minOut : UInt64) (swapData : List UInt8) (event : SellExecuted Pubkey)
    (accepted : executeSell world ctx minOut swapData venue = .ok (world', event)) :
    Spares ctx.signers ctx.accounts.user venue world world' := by
  obtain ⟨cfg, feeConfig, plan, advanced, source, pot, dest, fee, netIn, floor, out, skimmed, course, -⟩ :=
    (executeSell_ok _ _ _ _ _ _ _).mp accepted
  apply spares_of venue foreign _ _ _ _ ctx.underived
  next =>
    intro key beyond
    exact settlement_spares ctx _ _ course.authoritySeeds venue _ _ _ _ _ _ _ _ course.settlement key beyond
  next =>
    intro other different
    have elsewhere : (sellPlanPda other : Pubkey) ≠ ctx.accounts.sellPlan := by
      rw [course.planSeeds.1]
      exact fun same => different (sellPlanPda_inj _ _ same)
    rw [course.changed]
    exact if_neg elsewhere

end Calls

/-- `foreign`: the venue is not this program, which alone signs for its transient PDAs. -/
theorem signer_confinement (world : World Pubkey) (minOut : UInt64) (swapData : List UInt8) (venue : Venue Pubkey)
    (foreign : ∀ other, venue.controls (buyAuthority other) = false) :
    (∀ ctx : Context Pubkey (ExecuteBuy Pubkey),
      (∀ venue', venue.Agrees venue' ctx.signers ctx.accounts.user →
        executeBuy world ctx minOut swapData venue' = executeBuy world ctx minOut swapData venue) ∧
      ∀ world' event, executeBuy world ctx minOut swapData venue = .ok (world', event) →
        Spares ctx.signers ctx.accounts.user venue world world') ∧
    ∀ ctx : Context Pubkey (ExecuteSell Pubkey),
      (∀ venue', venue.Agrees venue' ctx.signers ctx.accounts.user →
        executeSell world ctx minOut swapData venue' = executeSell world ctx minOut swapData venue) ∧
      ∀ world' event, executeSell world ctx minOut swapData venue = .ok (world', event) →
        Spares ctx.signers ctx.accounts.user venue world world' := by
  constructor
  next =>
    intro ctx
    constructor
    next => exact executeBuy_agrees venue world ctx minOut swapData
    next => exact fun world' => executeBuy_spares venue foreign world world' ctx minOut swapData
  next =>
    intro ctx
    constructor
    next => exact executeSell_agrees venue world ctx minOut swapData
    next => exact fun world' => executeSell_spares venue foreign world world' ctx minOut swapData

section Sample

def bystander : Address := .key 30

-- 500 units wait in the transient of a second user.
def sharedWorld : World Address :=
  Terms.dollar.deployed ((Rogue.buyer.ledger Ledger.empty 1000 1000).setAccount
    (transient bystander Terms.usdcMint)
    (some { mint := Terms.usdcMint, owner := buyAuthority bystander, amount := 500 })).accounts

theorem signer_confinement_bystander :
    ∃ world' event, executeBuy sharedWorld (Rogue.buyer.context (Rogue.buyer.buyAccounts Terms.swapProgram)) 1000 []
        (Rogue.buyer.venue 1000 0 1000) = .ok (world', event) ∧
      500 ≤ world'.ledger.balance (transient bystander Terms.usdcMint) := by
  have amount : (executeBuy sharedWorld (Rogue.buyer.context (Rogue.buyer.buyAccounts Terms.swapProgram)) 1000 []
      (Rogue.buyer.venue 1000 0 1000)).map (fun result => result.2.amountIn) = .ok 1000 := by decide
  obtain ⟨⟨world', event⟩, accepted, -⟩ := (map_ok _ _ _).mp amount
  refine ⟨world', event, accepted, ?_⟩
  have spares := ((signer_confinement sharedWorld 1000 [] (Rogue.buyer.venue 1000 0 1000) fun _ => rfl).1
    (Rogue.buyer.context (Rogue.buyer.buyAccounts Terms.swapProgram))).2 world' event accepted
  exact spares.transients bystander (by decide) (transient bystander Terms.usdcMint)
    { mint := Terms.usdcMint, owner := buyAuthority bystander, amount := 500 } (by decide) rfl
    (fun delegate approved => absurd approved.symm (Option.some_ne_none delegate)) (fun _ closer named => by cases named)

end Sample

end RecurringBuy
