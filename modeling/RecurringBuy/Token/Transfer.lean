import RecurringBuy.Token.Slot

set_option autoImplicit false

namespace SplToken

open Checked

variable {Key : Type}

/-- What an account that nobody is a delegate of holds, as a number. -/
def Held (ledger : Ledger Key) (key mint owner : Key) (amount : Nat) : Prop :=
  ∃ account, ledger.accounts key = some account ∧ account.mint = mint ∧ account.owner = owner ∧
    account.delegate = none ∧ account.amount.toNat = amount

theorem Held.balance {ledger : Ledger Key} {key mint owner : Key} {amount : Nat}
    (held : Held ledger key mint owner amount) : ledger.balance key = amount := by
  obtain ⟨account, present, -, -, -, value⟩ := held
  rw [Ledger.balance_some _ _ _ present, value]

theorem Held.owner_eq {ledger : Ledger Key} {key mint mint' owner owner' : Key} {amount amount' : Nat}
    (held : Held ledger key mint owner amount) (held' : Held ledger key mint' owner' amount') : owner = owner' := by
  obtain ⟨account, present, -, rfl, -⟩ := held
  obtain ⟨account', present', -, rfl, -⟩ := held'
  rw [Option.some.inj (present.symm.trans present')]

theorem Held.lt {ledger : Ledger Key} {key mint owner : Key} {amount : Nat}
    (held : Held ledger key mint owner amount) : amount < 2 ^ 64 := by
  rw [← held.balance]
  exact Ledger.balance_lt ledger key

theorem Held.congr {ledger ledger' : Ledger Key} {key mint owner : Key} {amount : Nat}
    (held : Held ledger key mint owner amount) (same : ledger'.accounts key = ledger.accounts key) :
    Held ledger' key mint owner amount := by
  unfold Held
  rw [same]
  exact held

theorem ofNat_toNat (value : Nat) (small : value < 2 ^ 64) : (UInt64.ofNat value).toNat = value := by
  rw [UInt64.toNat_ofNat', Nat.mod_eq_of_lt small]

theorem Ledger.balance_ofNat (ledger : Ledger Key) (key : Key) :
    (UInt64.ofNat (ledger.balance key)).toNat = ledger.balance key :=
  ofNat_toNat _ (Ledger.balance_lt ledger key)

variable [DecidableEq Key]

theorem Held.set (ledger : Ledger Key) (key mint owner : Key) (amount : UInt64) :
    Held (ledger.setAccount key (some { mint := mint, owner := owner, amount := amount })) key mint owner
      amount.toNat :=
  ⟨_, Ledger.setAccount_same _ _ _, rfl, rfl, rfl, rfl⟩

theorem Held.other (ledger : Ledger Key) (key other mint owner : Key) (amount : Nat)
    (slot : Option (TokenAccount Key)) (different : other ≠ key) (held : Held ledger other mint owner amount) :
    Held (ledger.setAccount key slot) other mint owner amount :=
  held.congr (Ledger.setAccount_other _ _ _ _ different)

variable (signed : Key → Bool)

theorem spend_owner (account : TokenAccount Key) (amount : UInt64) (undelegated : account.delegate = none)
    (signature : signed account.owner = true) : spend signed account account.owner amount = .ok account := by
  have owner : validateOwner signed account.owner account.owner = .ok () :=
    (validateOwner_ok signed _ _ _).mpr ⟨rfl, signature⟩
  simp only [spend, undelegated, reduceCtorEq, if_false, owner]
  rfl

theorem processTransfer_held (ledger : Ledger Key) (source destination mint owner owner' : Key)
    (amount : UInt64) (available stored : Nat) (distinct : source ≠ destination)
    (sender : Held ledger source mint owner available) (receiver : Held ledger destination mint owner' stored)
    (signature : signed owner = true) (enough : amount.toNat ≤ available) (room : stored + amount.toNat < 2 ^ 64) :
    ∃ ledger', processTransfer signed ledger source destination owner amount = .ok ledger' ∧
      Held ledger' source mint owner (available - amount.toNat) ∧
      Held ledger' destination mint owner' (stored + amount.toNat) ∧
      ∀ other, other ≠ source → other ≠ destination → ledger'.accounts other = ledger.accounts other := by
  have small := sender.lt
  obtain ⟨from', atSource, fromMint, fromOwner, undelegated, fromAmount⟩ := sender
  obtain ⟨to', atDestination, toMint, toOwner, toUndelegated, toAmount⟩ := receiver
  let left := UInt64.ofNat (available - amount.toNat)
  let total := UInt64.ofNat (stored + amount.toNat)
  have leftValue : left.toNat = available - amount.toNat := ofNat_toNat _ (by omega)
  have totalValue : total.toNat = stored + amount.toNat := ofNat_toNat _ room
  have spent : spend signed from' owner amount = .ok from' := by
    rw [← fromOwner]
    exact spend_owner signed _ _ undelegated (by rwa [fromOwner])
  refine ⟨(ledger.setAccount source (some { from' with amount := left })).setAccount destination
    (some { to' with amount := total }), ?_, ?_, ?_, ?_⟩
  · simp only [processTransfer, bind_ok, account_ok, okOr_ok, require_ok, exists_const, decide_eq_true_eq,
      U64.checkedSub_some]
    refine ⟨from', atSource, to', atDestination, left, by omega, fromMint.trans toMint.symm, from', spent, ?_⟩
    simp only [distinct, if_false, bind_ok, okOr_ok, U64.checkedAdd_some, pure_ok]
    exact ⟨total, by omega, rfl⟩
  · refine ⟨{ from' with amount := left }, ?_, fromMint, fromOwner, undelegated, leftValue⟩
    rw [Ledger.setAccount_other _ _ _ _ distinct, Ledger.setAccount_same]
  · exact ⟨{ to' with amount := total }, Ledger.setAccount_same _ _ _, toMint, toOwner, toUndelegated, totalValue⟩
  · intro other notSource notDestination
    rw [Ledger.setAccount_other _ _ _ _ notDestination, Ledger.setAccount_other _ _ _ _ notSource]

theorem processTransfer_self (ledger : Ledger Key) (key mint owner : Key) (amount : UInt64) (available : Nat)
    (held : Held ledger key mint owner available) (signature : signed owner = true)
    (enough : amount.toNat ≤ available) :
    processTransfer signed ledger key key owner amount = .ok ledger := by
  have small := held.lt
  obtain ⟨account, present, -, accountOwner, undelegated, value⟩ := held
  let left := UInt64.ofNat (available - amount.toNat)
  have leftValue : left.toNat = available - amount.toNat := ofNat_toNat _ (by omega)
  have spent : spend signed account owner amount = .ok account := by
    rw [← accountOwner]
    exact spend_owner signed _ _ undelegated (by rwa [accountOwner])
  simp only [processTransfer, bind_ok, account_ok, okOr_ok, require_ok, exists_const, decide_eq_true_eq,
    U64.checkedSub_some]
  refine ⟨account, present, account, present, left, by omega, rfl, account, spent, ?_⟩
  simp [pure_ok]

variable [AssociatedAddress Key]

theorem run_cons (ledger middle ledger' : Ledger Key) (instruction : TokenInstruction Key)
    (rest : List (TokenInstruction Key)) (first : process signed ledger instruction = .ok middle)
    (later : run signed middle rest = .ok ledger') : run signed ledger (instruction :: rest) = .ok ledger' := by
  simp only [run, bind_ok]
  exact ⟨middle, first, later⟩

end SplToken
