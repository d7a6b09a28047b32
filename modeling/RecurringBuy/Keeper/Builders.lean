import RecurringBuy.Keeper.Daemon
import RecurringBuy.Program.TryAccounts

set_option autoImplicit false

namespace RecurringBuy

open SplToken

variable {Pubkey : Type}

structure SwapLeg (Pubkey : Type) where
  program : Pubkey
  data : List UInt8
  keys : List (AccountInfo Pubkey)

structure BuildArgs (Pubkey : Type) where
  user : Pubkey
  keeper : Pubkey
  minOut : UInt64
  swap : SwapLeg Pubkey

structure TransactionInstruction (Pubkey : Type) where
  keys : List (AccountInfo Pubkey)
  data : List UInt8

structure RecurringBuyKeeper (Pubkey : Type) where
  usdcMint : Pubkey
  targetMint : Pubkey
  tokenProgram : Pubkey
  executeBuy : Vector UInt8 8
  executeSell : Vector UInt8 8
  -- `PublicKey.isOnCurve`
  isOnCurve : Pubkey → Bool
  -- of the mint, the owner and `allowOwnerOffCurve`
  getAssociatedTokenAddressSync : Pubkey → Pubkey → Bool → Option Pubkey

section Associated

variable [AssociatedAddress Pubkey] (client : RecurringBuyKeeper Pubkey)

/-- The documented behaviour of `getAssociatedTokenAddressSync`: the canonical address, but for a wallet off the curve an
error unless it is allowed. -/
structure RecurringBuyKeeper.Derives : Prop where
  derived : ∀ mint owner allowOwnerOffCurve, allowOwnerOffCurve = true ∨ client.isOnCurve owner = true →
    client.getAssociatedTokenAddressSync mint owner allowOwnerOffCurve = some (AssociatedAddress.associated owner mint)
  offCurve : ∀ mint owner, client.isOnCurve owner = false → client.getAssociatedTokenAddressSync mint owner false = none

theorem getAssociatedTokenAddressSync_some (derives : client.Derives) (mint owner ata : Pubkey)
    (allowOwnerOffCurve : Bool) :
    client.getAssociatedTokenAddressSync mint owner allowOwnerOffCurve = some ata ↔
      (allowOwnerOffCurve = true ∨ client.isOnCurve owner = true) ∧ ata = AssociatedAddress.associated owner mint := by
  by_cases allowed : allowOwnerOffCurve = true ∨ client.isOnCurve owner = true
  next =>
    rw [derives.derived mint owner _ allowed, Option.some.injEq, eq_comm]
    exact (and_iff_right allowed).symm
  next =>
    simp only [not_or, Bool.not_eq_true] at allowed
    simp [allowed.1, allowed.2, derives.offCurve mint owner allowed.2]

end Associated

namespace RecurringBuyKeeper

variable [ProgramAddress Pubkey] (client : RecurringBuyKeeper Pubkey)

def config (_ : RecurringBuyKeeper Pubkey) : Pubkey := ProgramAddress.configPda

def feeConfig (_ : RecurringBuyKeeper Pubkey) : Pubkey := ProgramAddress.feeConfigPda

-- The account of the fee configuration has to be there.
def feeAta (fetched : Option (FeeConfig Pubkey)) (mint : Pubkey) : Option Pubkey := do
  let fc ← fetched
  client.getAssociatedTokenAddressSync mint fc.destination false

def buyAuthority (_ : RecurringBuyKeeper Pubkey) (user : Pubkey) : Pubkey := ProgramAddress.buyAuthority user

def transientUsdc (user : Pubkey) : Option Pubkey :=
  client.getAssociatedTokenAddressSync client.usdcMint (client.buyAuthority user) true

def destAta (user : Pubkey) : Option Pubkey := client.getAssociatedTokenAddressSync client.targetMint user false

def executeBuyAccounts (fetched : Option (FeeConfig Pubkey)) (user keeper swapProgram : Pubkey) :
    Option (ExecuteBuy Pubkey) := do
  let transientUsdc ← client.transientUsdc user
  let destAta ← client.destAta user
  let feeAta ← client.feeAta fetched client.usdcMint
  pure
    { keeper := keeper, config := client.config, user := user, buyAuthority := client.buyAuthority user
      transientUsdc := transientUsdc, destAta := destAta, swapProgram := swapProgram
      feeConfig := client.feeConfig, feeAta := feeAta }

def buildExecuteBuy (fetched : Option (FeeConfig Pubkey)) (args : BuildArgs Pubkey) :
    Option (TransactionInstruction Pubkey) := do
  let accounts ← client.executeBuyAccounts fetched args.user args.keeper args.swap.program
  pure
    { keys := accounts.metas client.tokenProgram ++ args.swap.keys
      data := Daemon.execData client.executeBuy args.minOut.toNat args.swap.data }

def sellPlan (_ : RecurringBuyKeeper Pubkey) (user : Pubkey) : Pubkey := ProgramAddress.sellPlanPda user

def transientTarget (user : Pubkey) : Option Pubkey :=
  client.getAssociatedTokenAddressSync client.targetMint (client.buyAuthority user) true

def destUsdc (user : Pubkey) : Option Pubkey := client.getAssociatedTokenAddressSync client.usdcMint user false

def executeSellAccounts (fetched : Option (FeeConfig Pubkey)) (user keeper swapProgram : Pubkey) :
    Option (ExecuteSell Pubkey) := do
  let transientTarget ← client.transientTarget user
  let userTargetAta ← client.getAssociatedTokenAddressSync client.targetMint user false
  let destUsdc ← client.destUsdc user
  let feeAta ← client.feeAta fetched client.targetMint
  pure
    { keeper := keeper, config := client.config, user := user, sellPlan := client.sellPlan user
      buyAuthority := client.buyAuthority user, transientTarget := transientTarget, userTargetAta := userTargetAta
      destUsdc := destUsdc, swapProgram := swapProgram, feeConfig := client.feeConfig, feeAta := feeAta }

def buildExecuteSell (fetched : Option (FeeConfig Pubkey)) (args : BuildArgs Pubkey) :
    Option (TransactionInstruction Pubkey) := do
  let accounts ← client.executeSellAccounts fetched args.user args.keeper args.swap.program
  pure
    { keys := accounts.metas client.tokenProgram ++ args.swap.keys
      data := Daemon.execData client.executeSell args.minOut.toNat args.swap.data }

end RecurringBuyKeeper

namespace Daemon

open ProgramAddress

variable [DecidableEq Pubkey] [ProgramAddress Pubkey] (daemon : Daemon Pubkey) (world : World Pubkey) (user : Pubkey)

-- The accounts of `execute_buy` as `crankBuy` lists them.
def buyAccounts : List (AccountInfo Pubkey) :=
  let feeCfg := loadFeeConfig world
  let buyAuth := buyAuthority user
  let source := transient user daemon.usdc
  let dest := wallet user daemon.target
  let feeAta := wallet (feeCfg.destination.getD daemon.keeper) daemon.usdc
  [daemon.acc daemon.keeper true, daemon.acc configPda false, daemon.acc user false, daemon.acc buyAuth false,
    daemon.acc source true, daemon.acc dest true, daemon.acc daemon.mockSwap.programId false,
    daemon.acc daemon.mockSwap.tokenProgram false, daemon.acc feeConfigPda false, daemon.acc feeAta true] ++
    daemon.mockSwapAccounts source buyAuth daemon.poolUsdc daemon.poolTarget dest

def sellAccounts : List (AccountInfo Pubkey) :=
  let feeCfg := loadFeeConfig world
  let buyAuth := buyAuthority user
  let source := transient user daemon.target
  let userTarget := wallet user daemon.target
  let destUsdc := wallet user daemon.usdc
  let feeAta := wallet (feeCfg.destination.getD daemon.keeper) daemon.target
  [daemon.acc daemon.keeper true, daemon.acc configPda false, daemon.acc user false, daemon.acc (sellPlanPda user) true,
    daemon.acc buyAuth false, daemon.acc source true, daemon.acc userTarget false, daemon.acc destUsdc true,
    daemon.acc daemon.mockSwap.programId false, daemon.acc daemon.mockSwap.tokenProgram false,
    daemon.acc feeConfigPda false, daemon.acc feeAta true] ++
    daemon.mockSwapAccounts source buyAuth daemon.poolTarget daemon.poolUsdc destUsdc

theorem composeBuy_accounts (avail : Int) :
    ExecuteBuy.tryAccounts daemon.mockSwap.tokenProgram (daemon.buyAccounts world user) =
      some ((daemon.composeBuy world user avail).ctx.accounts,
        (daemon.composeBuy world user avail).ctx.remainingAccounts) := by
  refine (tryAccounts_buy _ _ _ _).mpr ⟨_, rfl, ?_⟩
  simp [ExecuteBuy.metas, grants_iff, acc, composeBuy, context]

theorem composeSell_accounts (pull : Int) :
    ExecuteSell.tryAccounts daemon.mockSwap.tokenProgram (daemon.sellAccounts world user) =
      some ((daemon.composeSell world user pull).ctx.accounts,
        (daemon.composeSell world user pull).ctx.remainingAccounts) := by
  refine (tryAccounts_sell _ _ _ _).mpr ⟨_, rfl, ?_⟩
  simp [ExecuteSell.metas, grants_iff, acc, composeSell, context]

end Daemon

end RecurringBuy
