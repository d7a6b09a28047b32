import RecurringBuy.Token.Ledger

set_option autoImplicit false

namespace RecurringBuy

open SplToken

/-- Program-derived addresses and ordinary keypairs, as the runtime documents them. -/
class ProgramAddress (Pubkey : Type) extends AssociatedAddress Pubkey where
  -- `Pubkey::default()`
  default : Pubkey
  keypair : Nat → Pubkey
  -- seeds [CONFIG_SEED]
  configPda : Pubkey
  configBump : UInt8
  -- seeds [FEE_CONFIG_SEED]
  feeConfigPda : Pubkey
  feeConfigBump : UInt8
  -- seeds [BUY_AUTH_SEED, user]
  buyAuthority : Pubkey → Pubkey
  -- seeds [SELL_PLAN_SEED, user]
  sellPlanPda : Pubkey → Pubkey
  sellPlanBump : Pubkey → UInt8
  keypair_inj : ∀ i j, keypair i = keypair j → i = j
  keypair_ne_associated : ∀ i wallet mint, keypair i ≠ associated wallet mint
  keypair_ne_buyAuthority : ∀ i user, keypair i ≠ buyAuthority user
  buyAuthority_inj : ∀ user user', buyAuthority user = buyAuthority user' → user = user'
  buyAuthority_ne_self : ∀ user, buyAuthority user ≠ user
  buyAuthority_ne_associated : ∀ user wallet mint, buyAuthority user ≠ associated wallet mint
  sellPlanPda_inj : ∀ user user', sellPlanPda user = sellPlanPda user' → user = user'

inductive BuyError where
  | paused
  | destinationNotOwner
  | wrongTargetMint
  | badTransient
  | nothingPulled
  | venueNotWhitelisted
  | floorNotConfigured
  | minOutTooLow
  | transientNotDrained
  | slippageExceeded
  | tooManyVenues
  | overflow
  | badParam
  | notDue
  | overdrawSchedule
  | planCompleted
  | badPotAccount
  | badFeeAccount
  | feeTooHigh
deriving DecidableEq, Repr

inductive AnchorError where
  | accountNotSigner
  | accountNotInitialized
  | accountAlreadyInUse
  | constraintSeeds
  | constraintHasOne
deriving DecidableEq, Repr

inductive Error where
  | buy (error : BuyError)
  | anchor (error : AnchorError)
  | token (error : TokenError)
  | privilegeEscalation
  | venueFailed
  -- an account that is gone when it is read again
  | invalidAccountData
  -- An abort: a failed overflow check, slice bound or division.
  | panicked
deriving DecidableEq, Repr

def maxSwapPrograms : Nat := 3

def maxFeeBps : UInt16 := 100

def minPeriodSecs : Int64 := 60

def maxPeriodSecs : Int64 := 366 * 86400

structure Config (Pubkey : Type) where
  admin : Pubkey
  targetMint : Pubkey
  usdcMint : Pubkey
  swapPrograms : Vector Pubkey maxSwapPrograms
  swapProgramCount : UInt8
  priceRefMicros : UInt64
  targetDecimals : UInt8
  maxSlippageBps : UInt16
  paused : Bool
  bump : UInt8
deriving DecidableEq

structure FeeConfig (Pubkey : Type) where
  feeBps : UInt16
  destination : Pubkey
  bump : UInt8
deriving DecidableEq

structure SellPlan (Pubkey : Type) where
  user : Pubkey
  endTs : Int64
  periodSecs : Int64
  nextDueTs : Int64
  bump : UInt8
deriving DecidableEq

-- The program's accounts, the token ledger and `Clock::unix_timestamp`.
structure World (Pubkey : Type) where
  config : Option (Config Pubkey)
  feeConfig : Option (FeeConfig Pubkey)
  -- by account address
  sellPlans : Pubkey → Option (SellPlan Pubkey)
  ledger : Ledger Pubkey
  clock : Int64

structure AccountInfo (Pubkey : Type) where
  key : Pubkey
  isSigner : Bool
  isWritable : Bool
deriving DecidableEq

/-- Anchor's `Context` with the keys that signed. Only signers are flagged as
such. An address derived by this program or by the associated token program
has no private key, so it is not among them. -/
structure Context (Pubkey Accounts : Type) [ProgramAddress Pubkey] where
  accounts : Accounts
  signers : List Pubkey
  remainingAccounts : List (AccountInfo Pubkey)
  genuine : ∀ info ∈ remainingAccounts, info.isSigner = true → info.key ∈ signers
  underived : ∀ user, ProgramAddress.buyAuthority user ∉ signers
  unassociated : ∀ wallet mint, AssociatedAddress.associated wallet mint ∉ signers

end RecurringBuy
