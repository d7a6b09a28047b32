import RecurringBuy.Program.State
import RecurringBuy.Token.Slot

set_option autoImplicit false

namespace RecurringBuy

open Checked SplToken

variable {Pubkey : Type}

structure AccountMeta (Pubkey : Type) where
  pubkey : Pubkey
  isSigner : Bool
  isWritable : Bool
deriving DecidableEq

structure Instruction (Pubkey : Type) where
  programId : Pubkey
  accounts : List (AccountMeta Pubkey)
  data : List UInt8
deriving DecidableEq

/-- A whitelisted program: the keys it or a program it calls can sign for, and
the token instructions it issues, or `none` where it fails. -/
structure Venue (Pubkey : Type) [AssociatedAddress Pubkey] where
  controls : Pubkey → Bool
  unassociated : ∀ wallet mint, controls (AssociatedAddress.associated wallet mint) = false
  behaviour : Instruction Pubkey → Ledger Pubkey → Option (List (TokenInstruction Pubkey))

structure Leg (Pubkey : Type) where
  swapProgram : Pubkey
  buyAuthority : Pubkey
  transient : Pubkey
  destination : Pubkey
  feeAta : Pubkey

def tokenCall {A : Type} (result : Except TokenError A) : Except Error A :=
  match result with
  | .ok value => .ok value
  | .error error => .error (.token error)

theorem tokenCall_ok {A : Type} (result : Except TokenError A) (value : A) :
    tokenCall result = .ok value ↔ result = .ok value := by
  cases result <;> simp [tokenCall]

def tokenAccount (ledger : Ledger Pubkey) (key : Pubkey) : Except Error (TokenAccount Pubkey) :=
  okOr (ledger.accounts key) (.anchor .accountNotInitialized)

def reload (ledger : Ledger Pubkey) (key : Pubkey) : Except Error (TokenAccount Pubkey) :=
  okOr (ledger.accounts key) .invalidAccountData

section Cpi

variable [DecidableEq Pubkey] [AssociatedAddress Pubkey]

def forwardedMetas (remainingAccounts : List (AccountInfo Pubkey)) (buyAuthority : Pubkey) :
    List (AccountMeta Pubkey) :=
  remainingAccounts.map fun info =>
    { pubkey := info.key
      isSigner := info.isSigner || decide (info.key = buyAuthority)
      isWritable := info.isWritable }

def Instruction.hasSigner (instruction : Instruction Pubkey) (key : Pubkey) : Bool :=
  instruction.accounts.any fun account => account.isSigner && decide (account.pubkey = key)

def Venue.signed (venue : Venue Pubkey) (instruction : Instruction Pubkey) (key : Pubkey) : Bool :=
  instruction.hasSigner key || venue.controls key

def executionFee (amountIn : UInt64) (feeBps : UInt16) : Except Error UInt64 := do
  let scaled ← okOr (U128.checkedMul amountIn.toNat feeBps.toNat) (.buy .overflow)
  let fee ← okOr (U128.checkedDiv scaled 10000) (.buy .overflow)
  pure fee.asU64

def verifyOutcome (ledger : Ledger Pubkey) (transient destination : Pubkey) (destBefore minOut : UInt64) :
    Except Error UInt64 := do
  let transient ← reload ledger transient
  let dest ← reload ledger destination
  require (transient.amount = 0) (.buy .transientNotDrained)
  let out ← okOr (U64.checkedSub dest.amount destBefore) (.buy .overflow)
  require (minOut ≤ out) (.buy .slippageExceeded)
  pure out

def skimFee (ledger : Ledger Pubkey) (leg : Leg Pubkey) (fee : UInt64) : Except Error (Ledger Pubkey) :=
  if 0 < fee then
    tokenCall (process (fun key => decide (key = leg.buyAuthority)) ledger
      (.transfer leg.transient leg.feeAta leg.buyAuthority fee))
  else .ok ledger

-- The runtime rejects a signer that neither signed the caller nor is derived from its seeds.
def invokeSigned (signers : List Pubkey) (pda : Pubkey) (venue : Venue Pubkey) (ledger : Ledger Pubkey)
    (instruction : Instruction Pubkey) : Except Error (Ledger Pubkey) := do
  require (instruction.accounts.all fun account =>
    !account.isSigner || signers.contains account.pubkey || decide (account.pubkey = pda)) .privilegeEscalation
  let issued ← okOr (venue.behaviour instruction ledger) .venueFailed
  tokenCall (run (venue.signed instruction) ledger issued)

def forwardSwap (ledger : Ledger Pubkey) (signers : List Pubkey) (remainingAccounts : List (AccountInfo Pubkey))
    (leg : Leg Pubkey) (fee destBefore minOut : UInt64) (swapData : List UInt8) (venue : Venue Pubkey) :
    Except Error (Ledger Pubkey × UInt64) := do
  let instruction : Instruction Pubkey :=
    { programId := leg.swapProgram
      accounts := forwardedMetas remainingAccounts leg.buyAuthority
      data := swapData }
  let skimmed ← skimFee ledger leg fee
  let settled ← invokeSigned signers leg.buyAuthority venue skimmed instruction
  let out ← verifyOutcome settled leg.transient leg.destination destBefore minOut
  pure (settled, out)

end Cpi

structure Settlement [DecidableEq Pubkey] [AssociatedAddress Pubkey] (ledger skimmed settled : Ledger Pubkey)
    (signers : List Pubkey) (remainingAccounts : List (AccountInfo Pubkey)) (leg : Leg Pubkey)
    (fee destBefore minOut out : UInt64) (swapData : List UInt8) (venue : Venue Pubkey) : Prop where
  skim : skimFee ledger leg fee = .ok skimmed
  invoke : invokeSigned signers leg.buyAuthority venue skimmed
    { programId := leg.swapProgram
      accounts := forwardedMetas remainingAccounts leg.buyAuthority
      data := swapData } = .ok settled
  drained : ∃ account, settled.accounts leg.transient = some account ∧ account.amount = 0
  received : ∃ account, settled.accounts leg.destination = some account ∧
    out.toNat + destBefore.toNat = account.amount.toNat
  enough : minOut.toNat ≤ out.toNat

section Inversion

theorem tokenAccount_ok (ledger : Ledger Pubkey) (key : Pubkey) (account : TokenAccount Pubkey) :
    tokenAccount ledger key = .ok account ↔ ledger.accounts key = some account := by
  simp [tokenAccount]

theorem reload_ok (ledger : Ledger Pubkey) (key : Pubkey) (account : TokenAccount Pubkey) :
    reload ledger key = .ok account ↔ ledger.accounts key = some account := by
  simp [reload]

theorem verifyOutcome_ok (ledger : Ledger Pubkey) (transient destination : Pubkey)
    (destBefore minOut out : UInt64) :
    verifyOutcome ledger transient destination destBefore minOut = .ok out ↔
      (∃ account, ledger.accounts transient = some account ∧ account.amount = 0) ∧
      (∃ account, ledger.accounts destination = some account ∧
        out.toNat + destBefore.toNat = account.amount.toNat) ∧ minOut.toNat ≤ out.toNat := by
  simp only [verifyOutcome, bind_ok, reload_ok, okOr_ok, require_ok, pure_ok, exists_const,
    U64.checkedSub_some, decide_eq_true_eq, UInt64.le_iff_toNat_le]
  constructor
  · intro accepted
    rcases accepted with ⟨source, atSource, dest, atDest, drained, _, gained, enough, rfl⟩
    exact ⟨⟨source, atSource, drained⟩, ⟨dest, atDest, gained⟩, enough⟩
  · intro conditions
    rcases conditions with ⟨⟨source, atSource, drained⟩, ⟨dest, atDest, gained⟩, enough⟩
    exact ⟨source, atSource, dest, atDest, drained, out, gained, enough, rfl⟩

variable [DecidableEq Pubkey] [AssociatedAddress Pubkey]

theorem forwardSwap_ok (ledger settled : Ledger Pubkey) (signers : List Pubkey)
    (remainingAccounts : List (AccountInfo Pubkey)) (leg : Leg Pubkey) (fee destBefore minOut out : UInt64)
    (swapData : List UInt8) (venue : Venue Pubkey) :
    forwardSwap ledger signers remainingAccounts leg fee destBefore minOut swapData venue = .ok (settled, out) ↔
      ∃ skimmed, Settlement ledger skimmed settled signers remainingAccounts leg fee destBefore minOut out
        swapData venue := by
  simp only [forwardSwap, bind_ok, pure_ok, Prod.mk.injEq, verifyOutcome_ok]
  constructor
  · intro accepted
    rcases accepted with ⟨skimmed, skim, _, invoke, _, ⟨drained, received, enough⟩, rfl, rfl⟩
    exact ⟨skimmed, skim, invoke, drained, received, enough⟩
  · intro conditions
    rcases conditions with ⟨skimmed, course⟩
    exact ⟨skimmed, course.skim, settled, course.invoke, out,
      ⟨course.drained, course.received, course.enough⟩, rfl, rfl⟩

omit [AssociatedAddress Pubkey] in
theorem forwardedMetas_signer (remainingAccounts : List (AccountInfo Pubkey)) (buyAuthority : Pubkey)
    (signers : List Pubkey) (genuine : ∀ info ∈ remainingAccounts, info.isSigner = true → info.key ∈ signers)
    (account : AccountMeta Pubkey) (member : account ∈ forwardedMetas remainingAccounts buyAuthority)
    (signer : account.isSigner = true) : account.pubkey ∈ signers ∨ account.pubkey = buyAuthority := by
  obtain ⟨info, present, rfl⟩ := List.mem_map.mp member
  simp only [Bool.or_eq_true, decide_eq_true_eq] at signer
  rcases signer with flagged | forced
  next => exact .inl (genuine info present flagged)
  next => exact .inr forced

omit [AssociatedAddress Pubkey] in
-- The signers that `execute_buy` and `execute_sell` ask for are always granted.
theorem forwardedMetas_allowed (remainingAccounts : List (AccountInfo Pubkey)) (buyAuthority : Pubkey)
    (signers : List Pubkey) (genuine : ∀ info ∈ remainingAccounts, info.isSigner = true → info.key ∈ signers) :
    ((forwardedMetas remainingAccounts buyAuthority).all fun account =>
      !account.isSigner || signers.contains account.pubkey || decide (account.pubkey = buyAuthority)) = true := by
  apply List.all_eq_true.mpr
  intro account member
  by_cases signer : account.isSigner = true
  next =>
    have granted := forwardedMetas_signer _ _ signers genuine account member signer
    simpa [signer] using granted
  next => simp [signer]

theorem invokeSigned_ok (signers : List Pubkey) (pda : Pubkey) (venue : Venue Pubkey)
    (ledger ledger' : Ledger Pubkey) (instruction : Instruction Pubkey)
    (accepted : invokeSigned signers pda venue ledger instruction = .ok ledger') :
    ∃ issued, venue.behaviour instruction ledger = some issued ∧
      run (venue.signed instruction) ledger issued = .ok ledger' := by
  simp only [invokeSigned, bind_ok, okOr_ok, tokenCall_ok] at accepted
  obtain ⟨-, -, issued, behaved, ran⟩ := accepted
  exact ⟨issued, behaved, ran⟩

end Inversion

section Fee

theorem executionFee_value (amountIn : UInt64) (feeBps : UInt16) (fee : UInt64)
    (charged : executionFee amountIn feeBps = .ok fee) :
    fee = UInt64.ofNat (amountIn.toNat * feeBps.toNat / 10000) := by
  simp only [executionFee, bind_ok, okOr_ok, pure_ok, U128.checkedMul_some, U128.checkedDiv_some] at charged
  obtain ⟨_, ⟨-, rfl⟩, _, ⟨-, rfl⟩, rfl⟩ := charged
  rfl

theorem executionFee_ok (amountIn : UInt64) (feeBps : UInt16) (fee : UInt64) (bps : feeBps.toNat ≤ 100) :
    executionFee amountIn feeBps = .ok fee ↔ fee.toNat = amountIn.toNat * feeBps.toNat / 10000 := by
  have amount := amountIn.toNat_lt
  have product : amountIn.toNat * feeBps.toNat ≤ amountIn.toNat * 100 := Nat.mul_le_mul_left _ bps
  have small : amountIn.toNat * feeBps.toNat / 10000 < 2 ^ 64 := by omega
  simp only [executionFee, bind_ok, okOr_ok, pure_ok, U128.checkedMul_some, U128.checkedDiv_some,
    ← UInt64.toNat_inj (b := fee), U128.asU64_toNat, and_assoc, exists_and_left, exists_eq_left]
  rw [Nat.mod_eq_of_lt small]
  constructor
  · intro accepted
    rcases accepted with ⟨-, -, value⟩
    exact value.symm
  · intro value
    exact ⟨by omega, by decide, value.symm⟩

end Fee

end RecurringBuy
