import RecurringBuy.Keeper.Draw
import RecurringBuy.Program.MockSwap
import RecurringBuy.Properties.SwapFacts
import RecurringBuy.Token.Movement

set_option autoImplicit false

namespace RecurringBuy

open Checked SplToken ProgramAddress

variable {Pubkey : Type}

-- The fields of a recurring delegation that the daemon reads.
structure Delegation (Pubkey : Type) where
  delegator : Pubkey
  amountPerPeriod : UInt64
  amountPulledInPeriod : UInt64
  currentPeriodStartTs : Int
  periodLengthS : Int

/-- A transfer of the native program out of the delegator's account, or `none` where it refuses. -/
abbrev Rail (Pubkey : Type) :=
  Delegation Pubkey → Ledger Pubkey → (source destination : Pubkey) → UInt64 → Option (Ledger Pubkey)

inductive SetupInstruction (Pubkey : Type) where
  | createIdempotent (ata owner mint : Pubkey)
  | pull (delegatorAta receiverAta : Pubkey) (amount : Int)

-- A transaction: the instructions before the last, and the accounts and the data of the last.
structure Crank (Pubkey Accounts : Type) [ProgramAddress Pubkey] where
  setup : List (SetupInstruction Pubkey)
  ctx : Context Pubkey Accounts
  data : List UInt8

structure Daemon (Pubkey : Type) [ProgramAddress Pubkey] where
  keeper : Pubkey
  mockSwap : MockSwap Pubkey
  usdc : Pubkey
  target : Pubkey
  poolUsdc : Pubkey
  poolTarget : Pubkey
  slippageBps : Int
  executeBuy : Vector UInt8 8
  executeSell : Vector UInt8 8
  underived : ∀ user, buyAuthority user ≠ keeper
  unassociated : ∀ wallet mint, AssociatedAddress.associated wallet mint ≠ keeper

section Amounts

-- Pullable amount for a delegation right now (lazy period roll).
def available (del : Delegation Pubkey) (now : Number) : Option Int := do
  let now ← Number.toBigInt now
  let amountPerPeriod : Int := del.amountPerPeriod.toNat
  let left := amountPerPeriod - del.amountPulledInPeriod.toNat
  pure (if del.currentPeriodStartTs + del.periodLengthS ≤ now then amountPerPeriod
    else if left > 0 then left
    else 0)

theorem available_nat (del : Delegation Pubkey) (now : Number) (avail : Int) (allowed : available del now = some avail) :
    ∃ amount : Nat, avail = amount ∧ amount < 2 ^ 64 := by
  have high := del.amountPerPeriod.toNat_lt
  simp only [available, Option.bind_eq_bind, Option.bind_eq_some_iff, Option.pure_def, Option.some.injEq] at allowed
  obtain ⟨_, -, value⟩ := allowed
  have range : 0 ≤ avail ∧ avail < 2 ^ 64 := by split_ifs at value <;> omega
  exact ⟨avail.toNat, by omega, by omega⟩

def u64Bytes (v : Int) : List UInt8 := LittleEndian.encode 8 (v % 2 ^ 64).toNat

def u32Bytes (v : Nat) : List UInt8 := LittleEndian.encode 4 v

def feeOn (amountIn bps : Int) : Int := (amountIn * bps).tdiv 10000

end Amounts

namespace Daemon

variable [DecidableEq Pubkey] [ProgramAddress Pubkey] (daemon : Daemon Pubkey)

omit [DecidableEq Pubkey] in
-- $1 ref, 6dp both sides.
def floorOut (amountIn : Int) : Int := (amountIn * (10000 - daemon.slippageBps)).tdiv 10000

-- Whether a key signs is decided for the whole message, and only the fee payer does.
def acc (key : Pubkey) (isWritable : Bool) : AccountInfo Pubkey :=
  { key := key, isSigner := decide (key = daemon.keeper), isWritable := isWritable }

def mockSwapAccounts (source sourceAuth poolIn poolOut dest : Pubkey) : List (AccountInfo Pubkey) :=
  [daemon.acc source true, daemon.acc sourceAuth false, daemon.acc poolIn true, daemon.acc poolOut true,
    daemon.acc dest true, daemon.acc daemon.mockSwap.poolAuthority false, daemon.acc daemon.mockSwap.tokenProgram false]

omit [DecidableEq Pubkey] in
def mockSwapData (amountIn out : Int) : List UInt8 :=
  daemon.mockSwap.discriminator.toList ++ u64Bytes amountIn ++ u64Bytes out

def execData (discriminator : Vector UInt8 8) (minOut : Int) (swapData : List UInt8) : List UInt8 :=
  discriminator.toList ++ u64Bytes minOut ++ u32Bytes swapData.length ++ swapData

theorem mockSwapAccounts_genuine (source sourceAuth poolIn poolOut dest : Pubkey) :
    ∀ info ∈ daemon.mockSwapAccounts source sourceAuth poolIn poolOut dest, info.isSigner = true →
      info.key ∈ [daemon.keeper] := by
  intro info member signer
  simp only [mockSwapAccounts, acc, List.mem_cons, List.not_mem_nil, or_false] at member
  rcases member with rfl | rfl | rfl | rfl | rfl | rfl | rfl <;>
    exact List.mem_singleton.mpr (of_decide_eq_true signer)

def context {Accounts : Type} (accounts : Accounts) (source sourceAuth poolIn poolOut dest : Pubkey) :
    Context Pubkey Accounts where
  accounts := accounts
  signers := [daemon.keeper]
  remainingAccounts := daemon.mockSwapAccounts source sourceAuth poolIn poolOut dest
  genuine := daemon.mockSwapAccounts_genuine source sourceAuth poolIn poolOut dest
  underived := fun user member => daemon.underived user (List.mem_singleton.mp member)
  unassociated := fun wallet mint member => daemon.unassociated wallet mint (List.mem_singleton.mp member)

-- `bps` and `destination` of `loadFeeConfig`.
structure FeeCfg (Pubkey : Type) where
  bps : Int
  destination : Option Pubkey

omit [DecidableEq Pubkey] in
def loadFeeConfig (world : World Pubkey) : FeeCfg Pubkey :=
  match world.feeConfig with
  | some feeConfig => { bps := feeConfig.feeBps.toNat, destination := some feeConfig.destination }
  | none => { bps := 0, destination := none }

-- The instructions of `crankBuy`, once it has something to pull.
def composeBuy (world : World Pubkey) (user : Pubkey) (avail : Int) : Crank Pubkey (ExecuteBuy Pubkey) :=
  let feeCfg := loadFeeConfig world
  let source := transient user daemon.usdc
  let userUsdc := wallet user daemon.usdc
  let dest := wallet user daemon.target
  let residue : Int := world.ledger.balance source
  let amountIn := avail + residue
  let fee := feeOn amountIn feeCfg.bps
  let net := amountIn - fee
  let minOut := daemon.floorOut net
  let feeAta := wallet (feeCfg.destination.getD daemon.keeper) daemon.usdc
  { setup :=
      [.createIdempotent source (buyAuthority user) daemon.usdc, .createIdempotent dest user daemon.target,
        .pull userUsdc source avail]
    ctx := daemon.context
      { keeper := daemon.keeper, config := configPda, user := user, buyAuthority := buyAuthority user
        transientUsdc := source, destAta := dest, swapProgram := daemon.mockSwap.programId
        feeConfig := feeConfigPda, feeAta := feeAta }
      source (buyAuthority user) daemon.poolUsdc daemon.poolTarget dest
    data := execData daemon.executeBuy minOut (daemon.mockSwapData net net) }

def crankBuy (world : World Pubkey) (del : Delegation Pubkey) (now : Number) :
    Option (Crank Pubkey (ExecuteBuy Pubkey)) := do
  let avail ← available del now
  guard (0 < avail)
  pure (daemon.composeBuy world del.delegator avail)

-- The instructions of `crankSell`, once the plan is due and the draw is known.
def composeSell (world : World Pubkey) (user : Pubkey) (pull : Int) : Crank Pubkey (ExecuteSell Pubkey) :=
  let feeCfg := loadFeeConfig world
  let source := transient user daemon.target
  let userTarget := wallet user daemon.target
  let destUsdc := wallet user daemon.usdc
  let residue : Int := world.ledger.balance source
  let amountIn := pull + residue
  let fee := feeOn amountIn feeCfg.bps
  let net := amountIn - fee
  let minOut := daemon.floorOut net
  let feeAta := wallet (feeCfg.destination.getD daemon.keeper) daemon.target
  { setup :=
      [.createIdempotent source (buyAuthority user) daemon.target, .createIdempotent destUsdc user daemon.usdc] ++
        if 0 < pull then [.pull userTarget source pull] else []
    ctx := daemon.context
      { keeper := daemon.keeper, config := configPda, user := user, sellPlan := sellPlanPda user
        buyAuthority := buyAuthority user, transientTarget := source, userTargetAta := userTarget
        destUsdc := destUsdc, swapProgram := daemon.mockSwap.programId, feeConfig := feeConfigPda
        feeAta := feeAta }
      source (buyAuthority user) daemon.poolTarget daemon.poolUsdc destUsdc
    data := execData daemon.executeSell minOut (daemon.mockSwapData net net) }

def crankSell (world : World Pubkey) (del : Delegation Pubkey) (now : Number) :
    Option (Crank Pubkey (ExecuteSell Pubkey)) := do
  let user := del.delegator
  let plan ← world.sellPlans (sellPlanPda user)
  let endTs := Number.ofBigInt plan.endTs.toInt
  let periodSecs := Number.ofBigInt plan.periodSecs.toInt
  let nextDueTs := Number.ofBigInt plan.nextDueTs.toInt
  -- Otherwise the schedule is complete, or not yet due.
  guard (nextDueTs ≤ endTs ∧ nextDueTs ≤ now)
  let pot : Int := world.ledger.balance (wallet user daemon.target)
  let residue : Int := world.ledger.balance (transient user daemon.target)
  let draw ← draw pot endTs periodSecs now residue
  let avail ← available del now
  let pull := if draw > avail then avail else draw
  guard (0 < pull ∨ 0 < residue)
  pure (daemon.composeSell world user pull)

end Daemon

section OnChain

variable [DecidableEq Pubkey] [ProgramAddress Pubkey]

def SetupInstruction.run (rail : Rail Pubkey) (del : Delegation Pubkey) (ledger : Ledger Pubkey) :
    SetupInstruction Pubkey → Option (Ledger Pubkey)
  | .createIdempotent ata owner mint => do
      guard (ata = AssociatedAddress.associated owner mint)
      (SplToken.createIdempotent ledger owner mint).toOption
  -- The encoder of the amount throws beyond 64 bits.
  | .pull delegatorAta receiverAta amount => do
      guard (0 ≤ amount ∧ amount < 2 ^ 64)
      rail del ledger delegatorAta receiverAta (UInt64.ofNat amount.toNat)

def executeArguments (discriminator : Vector UInt8 8) (data : List UInt8) : Option (UInt64 × List UInt8) := do
  let rest ← dispatch discriminator data
  let (minOut, rest) ← LittleEndian.decode 8 rest
  let (length, rest) ← LittleEndian.decode 4 rest
  guard (length ≤ rest.length)
  pure (UInt64.ofNat minOut, rest.take length)

/-- The whole transaction, or nothing. -/
def Crank.submit {Accounts Result : Type} (crank : Crank Pubkey Accounts) (discriminator : Vector UInt8 8)
    (execute : World Pubkey → Context Pubkey Accounts → UInt64 → List UInt8 → Except Error (World Pubkey × Result))
    (rail : Rail Pubkey) (del : Delegation Pubkey) (world : World Pubkey) : Option (World Pubkey × Result) := do
  let ledger ← crank.setup.foldlM (SetupInstruction.run rail del) world.ledger
  let (minOut, swapData) ← executeArguments discriminator crank.data
  (execute { world with ledger := ledger } crank.ctx minOut swapData).toOption

def Daemon.submitBuy (daemon : Daemon Pubkey) (crank : Crank Pubkey (ExecuteBuy Pubkey)) :=
  crank.submit daemon.executeBuy fun world ctx minOut swapData =>
    RecurringBuy.executeBuy world ctx minOut swapData daemon.mockSwap.venue

def Daemon.submitSell (daemon : Daemon Pubkey) (crank : Crank Pubkey (ExecuteSell Pubkey)) :=
  crank.submit daemon.executeSell fun world ctx minOut swapData =>
    RecurringBuy.executeSell world ctx minOut swapData daemon.mockSwap.venue

end OnChain

end RecurringBuy
