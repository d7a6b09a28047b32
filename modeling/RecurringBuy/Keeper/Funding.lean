import RecurringBuy.Keeper.Settlement

set_option autoImplicit false

namespace RecurringBuy

open Checked SplToken ProgramAddress

variable {Pubkey : Type}

/-- From the account at `source` as `ledger` has it, the native program pulls `amount`. -/
def Rail.Pays [DecidableEq Pubkey] (rail : Rail Pubkey) (del : Delegation Pubkey) (ledger : Ledger Pubkey)
    (source destination mint : Pubkey) (amount : UInt64) : Prop :=
  ∀ opened, opened.accounts source = ledger.accounts source → OfMint opened destination mint → opened.Supplied →
    ∃ paid, rail del opened source destination amount = some paid ∧
      Moves opened paid source destination amount.toNat

section Delegate

variable [DecidableEq Pubkey]

def delegateRail (authority : Pubkey) : Rail Pubkey := fun del ledger source destination amount => do
  guard (amount ≤ del.amountPerPeriod)
  (processTransfer (fun key => decide (key = authority)) ledger source destination authority amount).toOption

theorem delegateRail_pays (authority : Pubkey) (del : Delegation Pubkey) (ledger : Ledger Pubkey)
    (source destination : Pubkey) (amount : UInt64) (payer : TokenAccount Pubkey)
    (atSource : ledger.accounts source = some payer) (delegated : payer.delegate = some authority)
    (within : amount ≤ del.amountPerPeriod) (allowance : amount.toNat ≤ payer.delegatedAmount.toNat)
    (enough : amount.toNat ≤ payer.amount.toNat) :
    (delegateRail authority).Pays del ledger source destination payer.mint amount := by
  intro opened same receiver supplied
  rw [atSource] at same
  obtain ⟨paid, accepted, moves⟩ := transfer_allowed (fun key => decide (key = authority)) opened source destination
    authority amount payer supplied same delegated receiver (decide_eq_true rfl) allowance enough
  exact ⟨paid, by simp [delegateRail, guard, within, accepted, Except.toOption], moves⟩

end Delegate

variable [DecidableEq Pubkey] [ProgramAddress Pubkey] (daemon : Daemon Pubkey)
  (user mintIn mintOut feeOwner poolIn poolOut : Pubkey)

/-- What a crank for `user` finds in the token ledger. The transient account and the destination may be missing. -/
structure Fundable (ledger : Ledger Pubkey) : Prop where
  supplied : ledger.Supplied
  minted : (ledger.mints mintIn).isSome ∧ (ledger.mints mintOut).isSome
  input : ∀ account, ledger.accounts (transient user mintIn) = some account →
    account.owner = buyAuthority user ∧ account.mint = mintIn ∧ account.delegate ≠ some (buyAuthority user)
  source : ∃ account, ledger.accounts (wallet user mintIn) = some account ∧ account.mint = mintIn ∧
    account.owner = user
  dest : ∀ account, ledger.accounts (wallet user mintOut) = some account →
    account.owner = user ∧ account.mint = mintOut
  fee : OfMint ledger (wallet feeOwner mintIn) mintIn
  inPool : OwnedAccount ledger poolIn mintIn daemon.mockSwap.poolAuthority
  outPool : OwnedAccount ledger poolOut mintOut daemon.mockSwap.poolAuthority
  feeApart : wallet feeOwner mintIn ≠ transient user mintIn
  userApart : user ≠ daemon.mockSwap.poolAuthority
  authorityApart : buyAuthority user ≠ daemon.mockSwap.poolAuthority

section Setup

variable (ledger : Ledger Pubkey) (fundable : Fundable daemon user mintIn mintOut feeOwner poolIn poolOut ledger)

include fundable

omit [DecidableEq Pubkey] in
theorem fundable_poolApart : poolOut ≠ wallet user mintOut ∧ poolOut ≠ wallet user mintIn := by
  obtain ⟨pool, present, -, holder, -⟩ := fundable.outPool
  constructor
  next =>
    intro same
    rw [same] at present
    exact fundable.userApart ((fundable.dest pool present).1.symm.trans holder)
  next =>
    intro same
    rw [same] at present
    obtain ⟨account, present', -, owner⟩ := fundable.source
    obtain rfl : account = pool := Option.some.inj (present'.symm.trans present)
    exact fundable.userApart (owner.symm.trans holder)

theorem fundable_opens (rail : Rail Pubkey) (del : Delegation Pubkey) :
    ∃ opened,
      ([.createIdempotent (transient user mintIn) (buyAuthority user) mintIn,
          .createIdempotent (wallet user mintOut) user mintOut] : List (SetupInstruction Pubkey)).foldlM
          (SetupInstruction.run rail del) ledger = some opened ∧
      (∀ key account, ledger.accounts key = some account → opened.accounts key = some account) ∧
      (∀ key, opened.balance key = ledger.balance key) ∧ opened.Supplied ∧
      OwnedAccount opened (transient user mintIn) mintIn (buyAuthority user) ∧
      OfMint opened (wallet user mintOut) mintOut := by
  obtain ⟨first, created, opens⟩ := createIdempotent_opens ledger (buyAuthority user) mintIn fundable.minted.1
    fun account present => ⟨(fundable.input account present).1, (fundable.input account present).2.1⟩
  have elsewhere := opens.elsewhere (wallet user mintOut) (transient_ne_wallet user mintIn mintOut).symm
  obtain ⟨second, created', opens'⟩ := createIdempotent_opens first user mintOut
    (by rw [opens.mints]; exact fundable.minted.2)
    fun account present => fundable.dest account (elsewhere.symm.trans present)
  refine ⟨second, ?_, ?_, ?_, ?_, ?_, ?_⟩
  next =>
    simp [SetupInstruction.run, transient, wallet, created, created', Except.toOption]
  next => exact fun key account present => opens'.kept key account (opens.kept key account present)
  next =>
    intro key
    rw [opens_balance _ _ _ _ _ opens', opens_balance _ _ _ _ _ opens]
  next => exact opens_supplied _ _ _ _ _ opens' (opens_supplied _ _ _ _ _ opens fundable.supplied)
  next =>
    apply opens_owned _ _ _ _ _ opens'
    cases present : ledger.accounts (transient user mintIn) with
    | some account =>
      obtain ⟨owner, mint, undelegated⟩ := fundable.input account present
      exact ⟨account, opens.kept _ account present, mint, owner, undelegated⟩
    | none => exact ⟨_, opens.fresh present, rfl, rfl, (Option.some_ne_none _).symm⟩
  next =>
    cases present : first.accounts (wallet user mintOut) with
    | some account => exact ⟨account, opens'.kept _ account present, (fundable.dest account (elsewhere ▸ present)).2⟩
    | none => exact ⟨_, opens'.fresh present, rfl⟩

theorem fundable_funds (rail : Rail Pubkey) (del : Delegation Pubkey) (amount : Nat) (small : amount < 2 ^ 64)
    (pays : 0 < amount → rail.Pays del ledger (wallet user mintIn) (transient user mintIn) mintIn (UInt64.ofNat amount)) :
    ∃ funded,
      ([.createIdempotent (transient user mintIn) (buyAuthority user) mintIn,
          .createIdempotent (wallet user mintOut) user mintOut] ++
        (if 0 < amount then [.pull (wallet user mintIn) (transient user mintIn) amount] else []) :
          List (SetupInstruction Pubkey)).foldlM (SetupInstruction.run rail del) ledger = some funded ∧
      Funded daemon funded user mintIn mintOut feeOwner poolIn poolOut
        (ledger.balance (transient user mintIn) + amount) ∧
      ledger.balance poolOut ≤ funded.balance poolOut ∧
      OfMint funded (wallet user mintIn) mintIn ∧
      funded.balance (wallet user mintIn) + amount = ledger.balance (wallet user mintIn) := by
  obtain ⟨opened, ran, kept, balances, supplied, input, dest⟩ :=
    fundable_opens daemon user mintIn mintOut feeOwner poolIn poolOut ledger fundable rail del
  obtain ⟨destApart, sourceApart⟩ :=
    fundable_poolApart daemon user mintIn mintOut feeOwner poolIn poolOut ledger fundable
  obtain ⟨payer, atSource, sourceMint, -⟩ := fundable.source
  -- Without a pull the ledger is moved by nothing.
  have pulled : ∃ funded,
      (if 0 < amount then [.pull (wallet user mintIn) (transient user mintIn) amount] else
        ([] : List (SetupInstruction Pubkey))).foldlM (SetupInstruction.run rail del) opened = some funded ∧
      Moves opened funded (wallet user mintIn) (transient user mintIn) amount := by
    by_cases positive : 0 < amount
    next =>
      obtain ⟨funded, paid, moves⟩ := pays positive opened (by rw [kept _ payer atSource, atSource])
        (ownedAccount_ofMint _ _ _ _ input) supplied
      rw [ofNat_toNat amount small] at moves
      refine ⟨funded, ?_, moves⟩
      have fits : amount < 18446744073709551616 := small
      simp [positive, SetupInstruction.run, paid, guard, fits]
    next =>
      obtain rfl : amount = 0 := Nat.eq_zero_of_not_pos positive
      exact ⟨opened, rfl, moves_zero opened _ _ mintIn ⟨payer, kept _ payer atSource, sourceMint⟩
        (ownedAccount_ofMint _ _ _ _ input)⟩
  obtain ⟨funded, paid, moves⟩ := pulled
  have apart : wallet user mintIn ≠ transient user mintIn := (transient_ne_wallet user mintIn mintIn).symm
  have owned := moves_owned _ _ _ _ _ moves
  have ofMint := moves_ofMint _ _ _ _ _ moves
  have openOwned (key mint owner : Pubkey) (before : OwnedAccount ledger key mint owner) :
      OwnedAccount opened key mint owner := by
    obtain ⟨account, present, rest⟩ := before
    exact ⟨account, kept key account present, rest⟩
  refine ⟨funded, ?_, ?_, ?_, ?_, ?_⟩
  next => rw [List.foldlM_append, ran, Option.bind_eq_bind, Option.bind_some, paid]
  next =>
    constructor
    case supplied => exact moves_supplied _ _ _ _ _ moves supplied
    case input => exact owned _ _ _ input
    case amount => rw [moves_destination _ _ _ _ _ moves apart, balances]
    case fee =>
      obtain ⟨account, present, sameMint⟩ := fundable.fee
      exact ofMint _ _ ⟨account, kept _ account present, sameMint⟩
    case dest => exact ofMint _ _ dest
    case inPool => exact owned _ _ _ (openOwned _ _ _ fundable.inPool)
    case outPool => exact owned _ _ _ (openOwned _ _ _ fundable.outPool)
    case feeApart => exact fundable.feeApart
    case poolApart => exact destApart
    case authorityApart => exact fundable.authorityApart
  next =>
    rw [← balances]
    exact moves_grows _ _ _ _ _ moves poolOut sourceApart.symm
  next => exact ofMint _ _ ⟨payer, kept _ payer atSource, sourceMint⟩
  next => rw [moves_source _ _ _ _ _ moves apart, balances]

end Setup

section Submission

variable (rail : Rail Pubkey) (del : Delegation Pubkey) (world : World Pubkey) (funded : Ledger Pubkey)
  (minOut : UInt64) (swapData : List UInt8)

theorem submit_some {Accounts Result : Type} (crank : Crank Pubkey Accounts) (discriminator : Vector UInt8 8)
    (execute : World Pubkey → Context Pubkey Accounts → UInt64 → List UInt8 → Except Error (World Pubkey × Result))
    (ran : crank.setup.foldlM (SetupInstruction.run rail del) world.ledger = some funded)
    (data : crank.data = Daemon.execData discriminator minOut.toNat swapData) (short : swapData.length < 2 ^ 32)
    (result : World Pubkey × Result) :
    crank.submit discriminator execute rail del world = some result ↔
      execute { world with ledger := funded } crank.ctx minOut swapData = .ok result := by
  have arguments := executeArguments_execData discriminator minOut.toNat swapData minOut.toNat_lt short
  rw [UInt64.ofNat_toNat] at arguments
  simp only [Crank.submit, ran, data, arguments, Option.bind_eq_bind, Option.bind_some]
  cases execute { world with ledger := funded } crank.ctx minOut swapData with
  | ok value => simp [Except.toOption]
  | error error => simp [Except.toOption]

theorem submitBuy_some (crank : Crank Pubkey (ExecuteBuy Pubkey))
    (ran : crank.setup.foldlM (SetupInstruction.run rail del) world.ledger = some funded)
    (data : crank.data = Daemon.execData daemon.executeBuy minOut.toNat swapData) (short : swapData.length < 2 ^ 32)
    (result : World Pubkey × BuyExecuted Pubkey) :
    daemon.submitBuy crank rail del world = some result ↔
      executeBuy { world with ledger := funded } crank.ctx minOut swapData daemon.mockSwap.venue = .ok result :=
  submit_some rail del world funded minOut swapData crank daemon.executeBuy _ ran data short result

theorem submitSell_some (crank : Crank Pubkey (ExecuteSell Pubkey))
    (ran : crank.setup.foldlM (SetupInstruction.run rail del) world.ledger = some funded)
    (data : crank.data = Daemon.execData daemon.executeSell minOut.toNat swapData) (short : swapData.length < 2 ^ 32)
    (result : World Pubkey × SellExecuted Pubkey) :
    daemon.submitSell crank rail del world = some result ↔
      executeSell { world with ledger := funded } crank.ctx minOut swapData daemon.mockSwap.venue = .ok result :=
  submit_some rail del world funded minOut swapData crank daemon.executeSell _ ran data short result

end Submission

end RecurringBuy
