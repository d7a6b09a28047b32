import RecurringBuy.Shared.Checked

set_option autoImplicit false

-- The documented behaviour of the legacy SPL Token program and of the associated token program's `Create`.

namespace SplToken

open Checked

-- The associated token program derives one address for each wallet and mint.
class AssociatedAddress (Key : Type) where
  associated : Key → Key → Key
  -- the mint of wrapped SOL
  nativeMint : Key
  associated_inj : ∀ wallet mint wallet' mint', associated wallet mint = associated wallet' mint' →
    wallet = wallet' ∧ mint = mint'

structure TokenAccount (Key : Type) where
  mint : Key
  owner : Key
  amount : UInt64
  delegate : Option Key := none
  delegatedAmount : UInt64 := 0
  closeAuthority : Option Key := none
deriving DecidableEq

structure Mint (Key : Type) where
  decimals : UInt8
  supply : UInt64
  mintAuthority : Option Key
deriving DecidableEq

structure Ledger (Key : Type) where
  accounts : Key → Option (TokenAccount Key)
  mints : Key → Option (Mint Key)

inductive TokenError where
  | uninitialized
  | alreadyInUse
  | missingSignature
  | ownerMismatch
  | mintMismatch
  | insufficientFunds
  | nonZeroBalance
  | nativeNotSupported
  | nonNativeNotSupported
  | fixedSupply
  | overflow
deriving DecidableEq, Repr

inductive TokenInstruction (Key : Type) where
  | transfer (source destination authority : Key) (amount : UInt64)
  | approve (source delegate owner : Key) (amount : UInt64)
  | revoke (source owner : Key)
  | setAccountOwner (account authority owner : Key)
  | setCloseAuthority (account authority : Key) (closeAuthority : Option Key)
  | mintTo (mint account authority : Key) (amount : UInt64)
  | burn (account mint authority : Key) (amount : UInt64)
  | closeAccount (account authority : Key)
  -- `deposit` lamports have come in since the amount was last set.
  | syncNative (account : Key) (deposit : UInt64)
  | initializeMint (mint : Key) (decimals : UInt8) (authority : Key)
  | initializeAccount (account mint owner : Key)
  | createAssociated (wallet mint : Key)
deriving DecidableEq

variable {Key : Type}

def Ledger.empty : Ledger Key := { accounts := fun _ => none, mints := fun _ => none }

def Ledger.balance (ledger : Ledger Key) (key : Key) : Nat :=
  match ledger.accounts key with
  | some account => account.amount.toNat
  | none => 0

theorem Ledger.balance_some (ledger : Ledger Key) (key : Key) (account : TokenAccount Key)
    (present : ledger.accounts key = some account) : ledger.balance key = account.amount.toNat := by
  simp [Ledger.balance, present]

theorem Ledger.amount_of_balance (ledger : Ledger Key) (key : Key) (account : TokenAccount Key) (amount : UInt64)
    (present : ledger.accounts key = some account) (held : ledger.balance key = amount.toNat) :
    account.amount = amount := by
  rw [Ledger.balance_some _ _ _ present] at held
  exact UInt64.toNat_inj.mp held

theorem Ledger.balance_congr (ledger ledger' : Ledger Key) (key : Key)
    (same : ledger'.accounts key = ledger.accounts key) : ledger'.balance key = ledger.balance key := by
  simp [Ledger.balance, same]

theorem Ledger.balance_lt (ledger : Ledger Key) (key : Key) : ledger.balance key < 2 ^ 64 := by
  unfold Ledger.balance
  split
  · exact UInt64.toNat_lt _
  · decide

section Update

variable [DecidableEq Key]

def Ledger.setAccount (ledger : Ledger Key) (key : Key) (slot : Option (TokenAccount Key)) : Ledger Key :=
  { ledger with accounts := fun other => if other = key then slot else ledger.accounts other }

def Ledger.setMint (ledger : Ledger Key) (key : Key) (mint : Mint Key) : Ledger Key :=
  { ledger with mints := fun other => if other = key then some mint else ledger.mints other }

@[simp] theorem Ledger.setAccount_same (ledger : Ledger Key) (key : Key) (slot : Option (TokenAccount Key)) :
    (ledger.setAccount key slot).accounts key = slot := by
  simp [Ledger.setAccount]

theorem Ledger.setAccount_other (ledger : Ledger Key) (key other : Key) (slot : Option (TokenAccount Key))
    (different : other ≠ key) : (ledger.setAccount key slot).accounts other = ledger.accounts other := by
  simp [Ledger.setAccount, different]

theorem Ledger.setAccount_accounts (ledger : Ledger Key) (key other : Key) (slot : Option (TokenAccount Key)) :
    (ledger.setAccount key slot).accounts other = if other = key then slot else ledger.accounts other := rfl

end Update

def Ledger.account (ledger : Ledger Key) (key : Key) : Except TokenError (TokenAccount Key) :=
  okOr (ledger.accounts key) .uninitialized

def Ledger.mint (ledger : Ledger Key) (key : Key) : Except TokenError (Mint Key) :=
  okOr (ledger.mints key) .uninitialized

-- Accounts of wrapped SOL hold lamports, which leave with the account when it is closed.
def TokenAccount.IsNative [AssociatedAddress Key] (account : TokenAccount Key) : Prop :=
  account.mint = AssociatedAddress.nativeMint

instance [DecidableEq Key] [AssociatedAddress Key] (account : TokenAccount Key) : Decidable account.IsNative :=
  inferInstanceAs (Decidable (account.mint = AssociatedAddress.nativeMint))

section Process

variable [DecidableEq Key] (signed : Key → Bool)

def validateOwner (expected authority : Key) : Except TokenError Unit := do
  require (expected = authority) .ownerMismatch
  require (signed authority) .missingSignature

-- A delegate spends its allowance; everyone else must be the owner.
def spend (account : TokenAccount Key) (authority : Key) (amount : UInt64) :
    Except TokenError (TokenAccount Key) :=
  if account.delegate = some authority then do
    require (signed authority) .missingSignature
    let allowance ← okOr (U64.checkedSub account.delegatedAmount amount) .insufficientFunds
    pure { account with
      delegate := if allowance = 0 then none else account.delegate
      delegatedAmount := allowance }
  else do
    validateOwner signed account.owner authority
    pure account

def processTransfer (ledger : Ledger Key) (source destination authority : Key) (amount : UInt64) :
    Except TokenError (Ledger Key) := do
  let sender ← ledger.account source
  let receiver ← ledger.account destination
  let left ← okOr (U64.checkedSub sender.amount amount) .insufficientFunds
  require (sender.mint = receiver.mint) .mintMismatch
  let sender ← spend signed sender authority amount
  if source = destination then
    pure ledger
  else do
    let total ← okOr (U64.checkedAdd receiver.amount amount) .overflow
    pure ((ledger.setAccount source (some { sender with amount := left })).setAccount
      destination (some { receiver with amount := total }))

variable [AssociatedAddress Key]

def processMintTo (ledger : Ledger Key) (mint account authority : Key) (amount : UInt64) :
    Except TokenError (Ledger Key) := do
  let receiver ← ledger.account account
  require (¬ receiver.IsNative) .nativeNotSupported
  require (receiver.mint = mint) .mintMismatch
  let source ← ledger.mint mint
  let expected ← okOr source.mintAuthority .fixedSupply
  validateOwner signed expected authority
  let supply ← okOr (U64.checkedAdd source.supply amount) .overflow
  let total ← okOr (U64.checkedAdd receiver.amount amount) .overflow
  pure ((ledger.setMint mint { source with supply := supply }).setAccount account
    (some { receiver with amount := total }))

def processBurn (ledger : Ledger Key) (account mint authority : Key) (amount : UInt64) :
    Except TokenError (Ledger Key) := do
  let sender ← ledger.account account
  let source ← ledger.mint mint
  require (¬ sender.IsNative) .nativeNotSupported
  let left ← okOr (U64.checkedSub sender.amount amount) .insufficientFunds
  require (sender.mint = mint) .mintMismatch
  let sender ← spend signed sender authority amount
  let supply ← okOr (U64.checkedSub source.supply amount) .overflow
  pure ((ledger.setMint mint { source with supply := supply }).setAccount account
    (some { sender with amount := left }))

-- With its owner a native account loses its close authority.
def processSetAccountOwner (ledger : Ledger Key) (account authority owner : Key) : Except TokenError (Ledger Key) := do
  let target ← ledger.account account
  validateOwner signed target.owner authority
  pure (ledger.setAccount account (some { target with
    owner := owner
    delegate := none
    delegatedAmount := 0
    closeAuthority := if target.IsNative then none else target.closeAuthority }))

-- The current close authority may pass its role on; while there is none, the owner holds it.
def processSetCloseAuthority (ledger : Ledger Key) (account authority : Key) (closeAuthority : Option Key) :
    Except TokenError (Ledger Key) := do
  let target ← ledger.account account
  validateOwner signed (target.closeAuthority.getD target.owner) authority
  pure (ledger.setAccount account (some { target with closeAuthority := closeAuthority }))

def processCloseAccount (ledger : Ledger Key) (account authority : Key) : Except TokenError (Ledger Key) := do
  let target ← ledger.account account
  require (target.IsNative ∨ target.amount = 0) .nonZeroBalance
  validateOwner signed (target.closeAuthority.getD target.owner) authority
  pure (ledger.setAccount account none)

def processSyncNative (ledger : Ledger Key) (account : Key) (deposit : UInt64) : Except TokenError (Ledger Key) := do
  let target ← ledger.account account
  require target.IsNative .nonNativeNotSupported
  let total ← okOr (U64.checkedAdd target.amount deposit) .overflow
  pure (ledger.setAccount account (some { target with amount := total }))

def processInitializeAccount (ledger : Ledger Key) (account mint owner : Key) :
    Except TokenError (Ledger Key) := do
  require (ledger.accounts account).isNone .alreadyInUse
  let _ ← ledger.mint mint
  pure (ledger.setAccount account (some { mint := mint, owner := owner, amount := 0 }))

def process (ledger : Ledger Key) : TokenInstruction Key → Except TokenError (Ledger Key)
  | .transfer source destination authority amount =>
      processTransfer signed ledger source destination authority amount
  | .approve source delegate owner amount => do
      let target ← ledger.account source
      validateOwner signed target.owner owner
      pure (ledger.setAccount source
        (some { target with delegate := some delegate, delegatedAmount := amount }))
  | .revoke source owner => do
      let target ← ledger.account source
      validateOwner signed target.owner owner
      pure (ledger.setAccount source (some { target with delegate := none, delegatedAmount := 0 }))
  | .setAccountOwner account authority owner => processSetAccountOwner signed ledger account authority owner
  | .setCloseAuthority account authority closeAuthority =>
      processSetCloseAuthority signed ledger account authority closeAuthority
  | .mintTo mint account authority amount => processMintTo signed ledger mint account authority amount
  | .burn account mint authority amount => processBurn signed ledger account mint authority amount
  | .closeAccount account authority => processCloseAccount signed ledger account authority
  | .syncNative account deposit => processSyncNative ledger account deposit
  | .initializeMint mint decimals authority => do
      require (ledger.mints mint).isNone .alreadyInUse
      pure (ledger.setMint mint { decimals := decimals, supply := 0, mintAuthority := some authority })
  -- The key of a new account signs its allocation.
  | .initializeAccount account mint owner => do
      require (signed account) .missingSignature
      processInitializeAccount ledger account mint owner
  | .createAssociated wallet mint =>
      processInitializeAccount ledger (AssociatedAddress.associated wallet mint) mint wallet

def run (ledger : Ledger Key) : List (TokenInstruction Key) → Except TokenError (Ledger Key)
  | [] => .ok ledger
  | instruction :: rest => process signed ledger instruction >>= fun next => run next rest

end Process

end SplToken
