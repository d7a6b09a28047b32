import RecurringBuy.Keeper.Daemon
import RecurringBuy.Token.Transfer

set_option autoImplicit false

namespace RecurringBuy

open Checked SplToken ProgramAddress

section Encoding

theorem u64Bytes_nat (n : Nat) (small : n < 2 ^ 64) : u64Bytes n = LittleEndian.encode 8 n := by
  have same : ((n : Int) % 2 ^ 64).toNat = n := by omega
  rw [u64Bytes, same]

theorem executeArguments_execData (discriminator : Vector UInt8 8) (minOut : Nat) (swapData : List UInt8)
    (small : minOut < 2 ^ 64) (short : swapData.length < 2 ^ 32) :
    executeArguments discriminator (Daemon.execData discriminator minOut swapData) =
      some (UInt64.ofNat minOut, swapData) := by
  simp only [executeArguments, Daemon.execData, List.append_assoc, dispatch_append, u64Bytes_nat minOut small, u32Bytes,
    Option.bind_eq_bind, Option.bind_some, LittleEndian.decode_encode 8 minOut _ small,
    LittleEndian.decode_encode 4 swapData.length _ short, List.take_length]
  simp

variable {Pubkey : Type} [ProgramAddress Pubkey] (daemon : Daemon Pubkey)

theorem mockSwap_arguments (amountIn out : Nat) (inSmall : amountIn < 2 ^ 64) (outSmall : out < 2 ^ 64) :
    daemon.mockSwap.arguments (daemon.mockSwapData amountIn out) =
      some (UInt64.ofNat amountIn, UInt64.ofNat out) := by
  have last := LittleEndian.decode_encode 8 out [] outSmall
  rw [List.append_nil] at last
  simp only [MockSwap.arguments, Daemon.mockSwapData, List.append_assoc, dispatch_append, u64Bytes_nat amountIn inSmall,
    u64Bytes_nat out outSmall, Option.bind_eq_bind, Option.bind_some, LittleEndian.decode_encode 8 amountIn _ inSmall,
    last]
  rfl

theorem mockSwapData_short (amountIn out : Int) : (daemon.mockSwapData amountIn out).length < 2 ^ 32 := by
  have lengths : (daemon.mockSwapData amountIn out).length = 24 := by
    simp [Daemon.mockSwapData, u64Bytes]
  omega

theorem asked_inj (discriminator : Vector UInt8 8) (minOut minOut' netIn netIn' : UInt64)
    (same : Daemon.execData discriminator minOut.toNat (daemon.mockSwapData netIn.toNat netIn.toNat) =
      Daemon.execData discriminator minOut'.toNat (daemon.mockSwapData netIn'.toNat netIn'.toNat)) : netIn = netIn' := by
  have arguments := executeArguments_execData discriminator minOut.toNat (daemon.mockSwapData netIn.toNat netIn.toNat)
    minOut.toNat_lt (mockSwapData_short daemon _ _)
  rw [same, executeArguments_execData discriminator minOut'.toNat _ minOut'.toNat_lt (mockSwapData_short daemon _ _),
    Option.some.injEq, Prod.mk.injEq] at arguments
  have swap := mockSwap_arguments daemon netIn.toNat netIn.toNat netIn.toNat_lt netIn.toNat_lt
  rw [← arguments.2, mockSwap_arguments daemon netIn'.toNat netIn'.toNat netIn'.toNat_lt netIn'.toNat_lt,
    Option.some.injEq, Prod.mk.injEq, UInt64.ofNat_toNat, UInt64.ofNat_toNat] at swap
  exact swap.1.symm

end Encoding

variable {Pubkey : Type} [DecidableEq Pubkey] [ProgramAddress Pubkey] (daemon : Daemon Pubkey)

-- What a crank for `user` finds in the token ledger when its last instruction starts.
structure Funded (ledger : Ledger Pubkey) (user mintIn mintOut feeOwner poolIn poolOut : Pubkey) (amountIn : Nat) :
    Prop where
  supplied : ledger.Supplied
  input : OwnedAccount ledger (transient user mintIn) mintIn (buyAuthority user)
  amount : ledger.balance (transient user mintIn) = amountIn
  fee : OfMint ledger (wallet feeOwner mintIn) mintIn
  dest : OfMint ledger (wallet user mintOut) mintOut
  inPool : OwnedAccount ledger poolIn mintIn daemon.mockSwap.poolAuthority
  outPool : OwnedAccount ledger poolOut mintOut daemon.mockSwap.poolAuthority
  feeApart : wallet feeOwner mintIn ≠ transient user mintIn
  poolApart : poolOut ≠ wallet user mintOut
  authorityApart : buyAuthority user ≠ daemon.mockSwap.poolAuthority

def Daemon.leg (user mintIn mintOut feeOwner : Pubkey) : Leg Pubkey :=
  { swapProgram := daemon.mockSwap.programId
    buyAuthority := buyAuthority user
    transient := transient user mintIn
    destination := wallet user mintOut
    feeAta := wallet feeOwner mintIn }

section Legs

variable (user mintIn mintOut feeOwner poolIn poolOut : Pubkey)

def Daemon.swapInstruction (net : Nat) : Instruction Pubkey :=
  { programId := daemon.mockSwap.programId
    accounts := forwardedMetas (daemon.mockSwapAccounts (transient user mintIn) (buyAuthority user) poolIn poolOut
      (wallet user mintOut)) (buyAuthority user)
    data := daemon.mockSwapData net net }

theorem swapInstruction_signed (net : Nat) :
    daemon.mockSwap.venue.signed (daemon.swapInstruction user mintIn mintOut poolIn poolOut net)
      (buyAuthority user) = true := by
  simp [Venue.signed, Instruction.hasSigner, Daemon.swapInstruction, forwardedMetas, Daemon.mockSwapAccounts,
    Daemon.acc]

theorem swapInstruction_issues (ledger : Ledger Pubkey) (net : Nat) (small : net < 2 ^ 64)
    (source : OfMint ledger (transient user mintIn) mintIn) (dest : OfMint ledger (wallet user mintOut) mintOut)
    (input : OfMint ledger poolIn mintIn) (output : OfMint ledger poolOut mintOut) :
    daemon.mockSwap.venue.behaviour (daemon.swapInstruction user mintIn mintOut poolIn poolOut net) ledger =
      some
        [.transfer (transient user mintIn) poolIn (buyAuthority user) (UInt64.ofNat net),
          .transfer poolOut (wallet user mintOut) daemon.mockSwap.poolAuthority (UInt64.ofNat net)] := by
  obtain ⟨_, sourcePresent, -⟩ := source
  obtain ⟨_, destPresent, -⟩ := dest
  obtain ⟨_, inputPresent, -⟩ := input
  obtain ⟨_, outputPresent, -⟩ := output
  have arguments := mockSwap_arguments daemon net net small small
  simp [MockSwap.venue, MockSwap.swap, Daemon.swapInstruction, forwardedMetas, Daemon.mockSwapAccounts, Daemon.acc,
    arguments, MockSwap.mutTokenAccount, sourcePresent, destPresent, inputPresent, outputPresent]

theorem skim_accepted (ledger : Ledger Pubkey) (amountIn : Nat) (fee : UInt64)
    (funded : Funded daemon ledger user mintIn mintOut feeOwner poolIn poolOut amountIn)
    (small : fee.toNat ≤ amountIn) :
    ∃ skimmed, skimFee ledger (daemon.leg user mintIn mintOut feeOwner) fee = .ok skimmed ∧
      Moves ledger skimmed (transient user mintIn) (wallet feeOwner mintIn) fee.toNat := by
  unfold skimFee
  split
  next =>
    obtain ⟨skimmed, accepted, moves⟩ := transfer_accepted
      (fun key => decide (key = (daemon.leg user mintIn mintOut feeOwner).buyAuthority)) ledger
      (transient user mintIn) (wallet feeOwner mintIn) mintIn (buyAuthority user) fee funded.supplied funded.input
      funded.fee (decide_eq_true rfl) (by rwa [funded.amount])
    exact ⟨skimmed, (tokenCall_ok _ _).mpr accepted, moves⟩
  next nothing =>
    have zero : fee.toNat = 0 := by
      rw [UInt64.lt_iff_toNat_lt] at nothing
      exact Nat.eq_zero_of_not_pos nothing
    rw [zero]
    exact ⟨ledger, rfl, moves_zero ledger _ _ mintIn (ownedAccount_ofMint _ _ _ _ funded.input) funded.fee⟩

theorem funded_settles (ledger : Ledger Pubkey) (amountIn : Nat) (fee net destBefore minOut : UInt64)
    (funded : Funded daemon ledger user mintIn mintOut feeOwner poolIn poolOut amountIn)
    (split : net.toNat + fee.toNat = amountIn) (liquid : net.toNat ≤ ledger.balance poolOut)
    (before : destBefore.toNat = ledger.balance (wallet user mintOut)) (floor : minOut.toNat ≤ net.toNat) :
    ∃ skimmed settled out, Settlement ledger skimmed settled [daemon.keeper]
        (daemon.mockSwapAccounts (transient user mintIn) (buyAuthority user) poolIn poolOut (wallet user mintOut))
        (daemon.leg user mintIn mintOut feeOwner) fee destBefore minOut out
        (daemon.mockSwapData net.toNat net.toNat) daemon.mockSwap.venue ∧
      settled.balance (transient user mintIn) = 0 := by
  let instruction := daemon.swapInstruction user mintIn mintOut poolIn poolOut net.toNat
  have inputMint := ownedAccount_ofMint _ _ _ _ funded.input
  have inPoolMint := ownedAccount_ofMint _ _ _ _ funded.inPool
  have outPoolMint := ownedAccount_ofMint _ _ _ _ funded.outPool
  have inApart : transient user mintIn ≠ poolIn :=
    ownedAccount_ne _ _ _ _ _ _ _ funded.input funded.inPool funded.authorityApart
  have outApart : transient user mintIn ≠ poolOut :=
    ownedAccount_ne _ _ _ _ _ _ _ funded.input funded.outPool funded.authorityApart
  have destApart : transient user mintIn ≠ wallet user mintOut := transient_ne_wallet user mintIn mintOut
  -- The fee, then the venue's two transfers.
  obtain ⟨skimmed, skim, first⟩ := skim_accepted daemon user mintIn mintOut feeOwner poolIn poolOut ledger amountIn fee
    funded (by omega)
  have supplied := moves_supplied _ _ _ _ _ first funded.supplied
  have kept := moves_owned _ _ _ _ _ first
  have keptMint := moves_ofMint _ _ _ _ _ first
  have rest := moves_source _ _ _ _ _ first funded.feeApart.symm
  have pool := moves_grows _ _ _ _ _ first poolOut outApart
  rw [funded.amount] at rest
  obtain ⟨taken, accepted, second⟩ := transfer_accepted (daemon.mockSwap.venue.signed instruction) skimmed
    (transient user mintIn) poolIn mintIn (buyAuthority user) net supplied (kept _ _ _ funded.input)
    (keptMint _ _ inPoolMint) (swapInstruction_signed daemon user mintIn mintOut poolIn poolOut net.toNat) (by omega)
  have supplied' := moves_supplied _ _ _ _ _ second supplied
  have kept' := moves_owned _ _ _ _ _ second
  have keptMint' := moves_ofMint _ _ _ _ _ second
  have rest' := moves_source _ _ _ _ _ second inApart
  have pool' := moves_grows _ _ _ _ _ second poolOut outApart
  obtain ⟨settled, accepted', third⟩ := transfer_accepted (daemon.mockSwap.venue.signed instruction) taken
    poolOut (wallet user mintOut) mintOut daemon.mockSwap.poolAuthority net supplied'
    (kept' _ _ _ (kept _ _ _ funded.outPool)) (keptMint' _ _ (keptMint _ _ funded.dest))
    (by simp [Venue.signed, MockSwap.venue]) (by omega)
  have drained : settled.balance (transient user mintIn) = 0 := by
    rw [moves_kept _ _ _ _ _ third _ outApart.symm destApart.symm]
    omega
  have paid : ledger.balance (wallet user mintOut) + net.toNat ≤ settled.balance (wallet user mintOut) := by
    rw [moves_destination _ _ _ _ _ third funded.poolApart]
    have grown := moves_grows _ _ _ _ _ first (wallet user mintOut) destApart
    have grown' := moves_grows _ _ _ _ _ second (wallet user mintOut) destApart
    omega
  let out := UInt64.ofNat (settled.balance (wallet user mintOut) - destBefore.toNat)
  have outValue : out.toNat + destBefore.toNat = settled.balance (wallet user mintOut) := by
    have bound := Ledger.balance_lt settled (wallet user mintOut)
    simp only [out, UInt64.toNat_ofNat']
    rw [Nat.mod_eq_of_lt (by omega)]
    omega
  have issued := swapInstruction_issues daemon user mintIn mintOut poolIn poolOut skimmed net.toNat net.toNat_lt
    (keptMint _ _ inputMint) (keptMint _ _ funded.dest) (keptMint _ _ inPoolMint) (keptMint _ _ outPoolMint)
  rw [UInt64.ofNat_toNat] at issued
  refine ⟨skimmed, settled, out, ⟨skim, ?_, ?_, ?_, by omega⟩, drained⟩
  next =>
    have allowed := forwardedMetas_allowed
      (daemon.mockSwapAccounts (transient user mintIn) (buyAuthority user) poolIn poolOut (wallet user mintOut))
      (buyAuthority user) [daemon.keeper] (daemon.mockSwapAccounts_genuine _ _ _ _ _)
    have ran : run (daemon.mockSwap.venue.signed instruction) skimmed
        [.transfer (transient user mintIn) poolIn (buyAuthority user) net,
          .transfer poolOut (wallet user mintOut) daemon.mockSwap.poolAuthority net] = .ok settled :=
      run_cons _ _ taken _ _ _ accepted (run_cons _ _ settled _ _ [] accepted' rfl)
    simp only [invokeSigned, bind_ok, require_ok, exists_const, okOr_ok, tokenCall_ok]
    exact ⟨allowed, _, issued, ran⟩
  next =>
    obtain ⟨account, present, -⟩ := moves_owned _ _ _ _ _ third _ _ _ (kept' _ _ _ (kept _ _ _ funded.input))
    exact ⟨account, present, Ledger.amount_of_balance _ _ _ 0 present drained⟩
  next =>
    obtain ⟨account, present, -⟩ := moves_ofMint _ _ _ _ _ third _ _ (keptMint' _ _ (keptMint _ _ funded.dest))
    exact ⟨account, present, by rw [outValue, Ledger.balance_some _ _ _ present]⟩

end Legs

end RecurringBuy
