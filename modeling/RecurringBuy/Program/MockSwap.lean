import RecurringBuy.Program.Swap
import RecurringBuy.Shared.LittleEndian

set_option autoImplicit false

namespace RecurringBuy

open Checked SplToken

-- The first eight bytes select the instruction; the rest is its argument.
def dispatch (discriminator : Vector UInt8 8) (data : List UInt8) : Option (List UInt8) :=
  if data.take 8 = discriminator.toList then some (data.drop 8) else none

theorem dispatch_append (discriminator : Vector UInt8 8) (rest : List UInt8) :
    dispatch discriminator (discriminator.toList ++ rest) = some rest := by
  have length : discriminator.toList.length = 8 := Vector.length_toList
  rw [dispatch, List.take_left' length, if_pos rfl, List.drop_left' length]

structure MockSwap (Pubkey : Type) [AssociatedAddress Pubkey] where
  programId : Pubkey
  -- seeds [POOL_SEED]
  poolAuthority : Pubkey
  tokenProgram : Pubkey
  discriminator : Vector UInt8 8
  unassociated : ∀ wallet mint, poolAuthority ≠ AssociatedAddress.associated wallet mint

namespace MockSwap

variable {Pubkey : Type} [DecidableEq Pubkey] [AssociatedAddress Pubkey] (mockSwap : MockSwap Pubkey)

omit [DecidableEq Pubkey] in
def arguments (data : List UInt8) : Option (UInt64 × UInt64) := do
  let rest ← dispatch mockSwap.discriminator data
  let (amountIn, rest) ← LittleEndian.decode 8 rest
  let (outAmount, _) ← LittleEndian.decode 8 rest
  pure (UInt64.ofNat amountIn, UInt64.ofNat outAmount)

-- `#[account(mut)] Account<TokenAccount>`
def mutTokenAccount (ledger : Ledger Pubkey) (account : AccountMeta Pubkey) : Bool :=
  account.isWritable && (ledger.accounts account.pubkey).isSome

def swap (instruction : Instruction Pubkey) (ledger : Ledger Pubkey) : Option (List (TokenInstruction Pubkey)) :=
  match instruction.accounts with
  | sourceUsdc :: sourceAuthority :: poolUsdc :: poolTarget :: destTarget :: poolAuthority :: tokenProgram :: _ => do
      let (amountIn, outAmount) ← mockSwap.arguments instruction.data
      guard (mutTokenAccount ledger sourceUsdc && mutTokenAccount ledger poolUsdc &&
        mutTokenAccount ledger poolTarget && mutTokenAccount ledger destTarget)
      guard (poolAuthority.pubkey = mockSwap.poolAuthority ∧ tokenProgram.pubkey = mockSwap.tokenProgram)
      pure
        [.transfer sourceUsdc.pubkey poolUsdc.pubkey sourceAuthority.pubkey amountIn,
          .transfer poolTarget.pubkey destTarget.pubkey mockSwap.poolAuthority outAmount]
  | _ => none

def venue : Venue Pubkey where
  controls key := decide (key = mockSwap.poolAuthority)
  unassociated wallet mint := decide_eq_false (mockSwap.unassociated wallet mint).symm
  behaviour := mockSwap.swap

end MockSwap

end RecurringBuy
