import RecurringBuy.Properties.SwapFacts
import RecurringBuy.Token.Transfer

set_option autoImplicit false

namespace RecurringBuy

open Checked SplToken ProgramAddress Rounding

variable {Pubkey : Type}

section Rebate

variable [DecidableEq Pubkey] [ProgramAddress Pubkey] (user mintIn mintOut feeOwner : Pubkey) (fee : Nat)

-- The part of the fee that lands at the destination: all of it where the two accounts are one.
def rebate : Nat := if wallet user mintOut = wallet feeOwner mintIn then fee else 0

theorem rebate_le : rebate user mintIn mintOut feeOwner fee ≤ fee := by
  unfold rebate
  split <;> omega

end Rebate

/-- A keeper's route that meets every check: it drains the input transient into an account of the keeper's and leaves the
destination with exactly what it is to have. -/
structure Rogue (Pubkey : Type) where
  user : Pubkey
  mintIn : Pubkey
  mintOut : Pubkey
  feeOwner : Pubkey
  -- The keeper's key pairs are those from here on.
  first : Nat
  -- Whether the user has handed the destination account over to the keeper.
  handed : Bool

namespace Rogue

variable [DecidableEq Pubkey] [ProgramAddress Pubkey]

def keeper (rogue : Rogue Pubkey) : Pubkey := keypair rogue.first

def bank (rogue : Rogue Pubkey) : Pubkey := keypair (rogue.first + 1)

def sink (rogue : Rogue Pubkey) : Pubkey := keypair (rogue.first + 2)

def reserve (rogue : Rogue Pubkey) : Pubkey := keypair (rogue.first + 3)

def holder (rogue : Rogue Pubkey) : Pubkey := if rogue.handed then rogue.keeper else rogue.user

def leg (rogue : Rogue Pubkey) (swapProgram : Pubkey) : Leg Pubkey :=
  { swapProgram := swapProgram
    buyAuthority := buyAuthority rogue.user
    transient := transient rogue.user rogue.mintIn
    destination := wallet rogue.user rogue.mintOut
    feeAta := wallet rogue.feeOwner rogue.mintIn }

def ledger (rogue : Rogue Pubkey) (base : Ledger Pubkey) (input output : UInt64) : Ledger Pubkey :=
  base
  |>.setAccount (wallet rogue.feeOwner rogue.mintIn)
      (some { mint := rogue.mintIn, owner := rogue.feeOwner, amount := 0 })
  |>.setAccount (wallet rogue.user rogue.mintIn)
      (some { mint := rogue.mintIn, owner := rogue.user, amount := 0 })
  |>.setAccount (wallet rogue.user rogue.mintOut)
      (some { mint := rogue.mintOut, owner := rogue.holder, amount := 0 })
  |>.setAccount (transient rogue.user rogue.mintOut)
      (some { mint := rogue.mintOut, owner := buyAuthority rogue.user, amount := output })
  |>.setAccount (transient rogue.user rogue.mintIn)
      (some { mint := rogue.mintIn, owner := buyAuthority rogue.user, amount := input })
  |>.setAccount rogue.bank (some { mint := rogue.mintOut, owner := rogue.keeper, amount := UInt64.ofNat (2 ^ 64 - 1) })
  |>.setAccount rogue.sink (some { mint := rogue.mintIn, owner := rogue.keeper, amount := 0 })
  |>.setAccount rogue.reserve (some { mint := rogue.mintOut, owner := rogue.keeper, amount := 1 })

def instructions (rogue : Rogue Pubkey) (taken deposit goal : Nat) (ledger : Ledger Pubkey) :
    List (TokenInstruction Pubkey) :=
  [.transfer (transient rogue.user rogue.mintOut) (wallet rogue.user rogue.mintOut) (buyAuthority rogue.user)
      (UInt64.ofNat taken),
    .transfer rogue.reserve (transient rogue.user rogue.mintOut) rogue.keeper (UInt64.ofNat deposit),
    .transfer rogue.bank (wallet rogue.user rogue.mintOut) rogue.keeper
      (UInt64.ofNat (goal - (ledger.balance (wallet rogue.user rogue.mintOut) + taken))),
    .transfer (transient rogue.user rogue.mintIn) rogue.sink (buyAuthority rogue.user)
      (UInt64.ofNat (ledger.balance (transient rogue.user rogue.mintIn)))] ++
    -- What the fee brought to the destination can be too much already.
    if goal < ledger.balance (wallet rogue.user rogue.mintOut) + taken then
      [.transfer (wallet rogue.user rogue.mintOut) rogue.reserve rogue.keeper
        (UInt64.ofNat (ledger.balance (wallet rogue.user rogue.mintOut) + taken - goal))]
    else []

def venue (rogue : Rogue Pubkey) (taken deposit goal : Nat) : Venue Pubkey :=
  { controls := fun _ => false
    unassociated := fun _ _ => rfl
    behaviour := fun _ ledger => some (rogue.instructions taken deposit goal ledger) }

def route (rogue : Rogue Pubkey) : List (AccountInfo Pubkey) :=
  { key := rogue.keeper, isSigner := true, isWritable := false } ::
  { key := buyAuthority rogue.user, isSigner := false, isWritable := false } ::
  [transient rogue.user rogue.mintIn, transient rogue.user rogue.mintOut, wallet rogue.user rogue.mintOut,
    rogue.bank, rogue.sink, rogue.reserve].map
    fun key => { key := key, isSigner := false, isWritable := true }

structure Stage (rogue : Rogue Pubkey) (ledger : Ledger Pubkey) (input output paid : Nat) : Prop where
  inHeld : Held ledger (transient rogue.user rogue.mintIn) rogue.mintIn (buyAuthority rogue.user) input
  outHeld : Held ledger (transient rogue.user rogue.mintOut) rogue.mintOut (buyAuthority rogue.user) output
  destHeld : Held ledger (wallet rogue.user rogue.mintOut) rogue.mintOut rogue.holder paid
  bankHeld : Held ledger rogue.bank rogue.mintOut rogue.keeper (2 ^ 64 - 1)
  sinkHeld : Held ledger rogue.sink rogue.mintIn rogue.keeper 0
  reserveHeld : Held ledger rogue.reserve rogue.mintOut rogue.keeper 1

theorem stage_ledger (rogue : Rogue Pubkey) (base : Ledger Pubkey) (input output : UInt64)
    (twin : rogue.mintIn = rogue.mintOut → input = output) :
    rogue.Stage (rogue.ledger base input output) input.toNat output.toNat 0 := by
  constructor
  next =>
    refine Held.other _ _ _ _ _ _ _ ?_ (Held.other _ _ _ _ _ _ _ ?_ (Held.other _ _ _ _ _ _ _ ?_ (Held.set _ _ _ _ _)))
    all_goals exact (keypair_ne_transient _ _ _).symm
  next =>
    refine Held.other _ _ _ _ _ _ _ ?_ (Held.other _ _ _ _ _ _ _ ?_ (Held.other _ _ _ _ _ _ _ ?_ ?_))
    iterate 3 exact (keypair_ne_transient _ _ _).symm
    by_cases same : rogue.mintIn = rogue.mintOut
    next =>
      rw [same, twin same]
      exact Held.set _ _ _ _ _
    next =>
      refine Held.other _ _ _ _ _ _ _ ?_ (Held.set _ _ _ _ _)
      intro keys
      exact same (transient_mint _ _ _ keys).symm
  next =>
    refine Held.other _ _ _ _ _ _ _ ?_ (Held.other _ _ _ _ _ _ _ ?_ (Held.other _ _ _ _ _ _ _ ?_
      (Held.other _ _ _ _ _ _ _ ?_ (Held.other _ _ _ _ _ _ _ ?_ (Held.set _ _ _ _ 0)))))
    iterate 3 exact (keypair_ne_wallet _ _ _).symm
    iterate 2 exact (transient_ne_wallet _ _ _).symm
  next =>
    refine Held.other _ _ _ _ _ _ _ ?_ (Held.other _ _ _ _ _ _ _ ?_ (Held.set _ _ _ _ _))
    iterate 2 exact keypair_ne _ _ (by omega)
  next => exact Held.other _ _ _ _ _ _ _ (keypair_ne _ _ (by omega)) (Held.set _ _ _ _ 0)
  next => exact Held.set _ _ _ _ 1

theorem fee_ledger (rogue : Rogue Pubkey) (base : Ledger Pubkey) (input output : UInt64)
    (other : rogue.feeOwner ≠ buyAuthority rogue.user) :
    ∃ owner, Held (rogue.ledger base input output) (wallet rogue.feeOwner rogue.mintIn) rogue.mintIn owner 0 := by
  -- The user may be the fee's owner, and the two mints may be one: the account is then written again.
  have again (mint holder : Pubkey) (ledger : Ledger Pubkey)
      (held : ∃ owner, Held ledger (wallet rogue.feeOwner rogue.mintIn) rogue.mintIn owner 0) :
      ∃ owner, Held (ledger.setAccount (wallet rogue.user mint) (some { mint := mint, owner := holder, amount := 0 }))
        (wallet rogue.feeOwner rogue.mintIn) rogue.mintIn owner 0 := by
    by_cases same : wallet rogue.feeOwner rogue.mintIn = wallet rogue.user mint
    next =>
      rw [(AssociatedAddress.associated_inj _ _ _ _ same).2, ← (AssociatedAddress.associated_inj _ _ _ _ same).1]
      exact ⟨holder, Held.set _ _ _ _ 0⟩
    next =>
      obtain ⟨owner, held⟩ := held
      exact ⟨owner, Held.other _ _ _ _ _ _ _ same held⟩
  obtain ⟨owner, held⟩ := again rogue.mintOut rogue.holder _ (again rogue.mintIn rogue.user _
    ⟨rogue.feeOwner, Held.set base (wallet rogue.feeOwner rogue.mintIn) rogue.mintIn rogue.feeOwner 0⟩)
  refine ⟨owner, Held.other _ _ _ _ _ _ _ ?_ (Held.other _ _ _ _ _ _ _ ?_ (Held.other _ _ _ _ _ _ _ ?_
    (Held.other _ _ _ _ _ _ _ ?_ (Held.other _ _ _ _ _ _ _ ?_ held))))⟩
  iterate 3 exact (keypair_ne_wallet _ _ _).symm
  iterate 2 exact fun same => other (AssociatedAddress.associated_inj _ _ _ _ same).1

theorem stage_skim (rogue : Rogue Pubkey) (ledger : Ledger Pubkey) (swapProgram : Pubkey) (fee : UInt64)
    (input output : Nat) (stage : rogue.Stage ledger input output 0)
    (feeHeld : rogue.feeOwner ≠ buyAuthority rogue.user →
      ∃ owner, Held ledger (wallet rogue.feeOwner rogue.mintIn) rogue.mintIn owner 0)
    (enough : fee.toNat ≤ input) :
    ∃ skimmed left rest paid, skimFee ledger (rogue.leg swapProgram) fee = .ok skimmed ∧
      rogue.Stage skimmed left rest paid ∧
      paid ≤ rebate rogue.user rogue.mintIn rogue.mintOut rogue.feeOwner fee.toNat ∧
      (rogue.mintIn ≠ rogue.mintOut → rest = output) := by
  by_cases charged : 0 < fee
  case neg =>
    refine ⟨ledger, input, output, 0, ?_, stage, Nat.zero_le _, fun _ => rfl⟩
    simp [skimFee, charged]
  simp only [skimFee, charged, if_true, tokenCall_ok]
  by_cases own : rogue.feeOwner = buyAuthority rogue.user
  case pos =>
    refine ⟨ledger, input, output, 0, ?_, stage, Nat.zero_le _, fun _ => rfl⟩
    simp only [process, leg, own]
    exact processTransfer_self _ _ _ _ _ _ _ stage.inHeld (by simp) enough
  have apart (mint : Pubkey) : transient rogue.user mint ≠ wallet rogue.feeOwner rogue.mintIn :=
    fun same => own (AssociatedAddress.associated_inj _ _ _ _ same).1.symm
  obtain ⟨owner, feeHeld⟩ := feeHeld own
  obtain ⟨skimmed, accepted, source, target, frame⟩ := processTransfer_held
    (fun key => decide (key = buyAuthority rogue.user)) ledger _ _ _ _ _ fee input 0 (apart _) stage.inHeld
    feeHeld (by simp) enough (by have := fee.toNat_lt; omega)
  have kept (i : Nat) (mint owner : Pubkey) (amount : Nat) (held : Held ledger (keypair i) mint owner amount) :
      Held skimmed (keypair i) mint owner amount :=
    held.congr (frame _ (keypair_ne_transient _ _ _) (keypair_ne_wallet _ _ _))
  obtain ⟨rest, outHeld, same⟩ : ∃ rest,
      Held skimmed (transient rogue.user rogue.mintOut) rogue.mintOut (buyAuthority rogue.user) rest ∧
      (rogue.mintIn ≠ rogue.mintOut → rest = output) := by
    by_cases same : rogue.mintIn = rogue.mintOut
    next => exact ⟨input - fee.toNat, by rwa [← same], fun different => absurd same different⟩
    next =>
      refine ⟨output, stage.outHeld.congr (frame _ ?_ (apart _)), fun _ => rfl⟩
      exact fun keys => same (transient_mint _ _ _ keys).symm
  obtain ⟨paid, destHeld, little⟩ : ∃ paid,
      Held skimmed (wallet rogue.user rogue.mintOut) rogue.mintOut rogue.holder paid ∧
      paid ≤ rebate rogue.user rogue.mintIn rogue.mintOut rogue.feeOwner fee.toNat := by
    by_cases same : wallet rogue.user rogue.mintOut = wallet rogue.feeOwner rogue.mintIn
    next =>
      obtain ⟨users, mints⟩ := AssociatedAddress.associated_inj _ _ _ _ same
      rw [← users, ← mints] at feeHeld target
      refine ⟨0 + fee.toNat, by rwa [feeHeld.owner_eq stage.destHeld] at target, ?_⟩
      rw [rebate, if_pos same, Nat.zero_add]
    next => exact ⟨0, stage.destHeld.congr (frame _ (transient_ne_wallet _ _ _).symm same), Nat.zero_le _⟩
  exact ⟨skimmed, input - fee.toNat, rest, paid, accepted,
    ⟨source, outHeld, destHeld, kept _ _ _ _ stage.bankHeld, kept _ _ _ _ stage.sinkHeld,
      kept _ _ _ _ stage.reserveHeld⟩, little, same⟩

theorem stage_run (rogue : Rogue Pubkey) (signed : Pubkey → Bool) (ledger : Ledger Pubkey)
    (left rest paid taken deposit goal : Nat) (stage : rogue.Stage ledger left rest paid)
    (authority : signed (buyAuthority rogue.user) = true) (keeper : signed rogue.keeper = true)
    (available : taken ≤ rest) (least : deposit ≤ 1) (room : rest + deposit < 2 ^ 64)
    (enough : paid + taken ≤ goal ∨ rogue.handed = true ∧ paid + taken + 1 < 2 ^ 64) (small : goal < 2 ^ 64)
    (twin : rogue.mintIn = rogue.mintOut → taken = 0 ∧ deposit = 0) :
    ∃ settled, run signed ledger (rogue.instructions taken deposit goal ledger) = .ok settled ∧
      Held settled (transient rogue.user rogue.mintIn) rogue.mintIn (buyAuthority rogue.user) 0 ∧
      Held settled (wallet rogue.user rogue.mintOut) rogue.mintOut rogue.holder goal ∧
      (rogue.mintIn ≠ rogue.mintOut → Held settled (transient rogue.user rogue.mintOut) rogue.mintOut
        (buyAuthority rogue.user) (rest - taken + deposit)) := by
  obtain ⟨inHeld, outHeld, destHeld, bankHeld, sinkHeld, reserveHeld⟩ := stage
  have leftSmall := inHeld.lt
  -- Where the mints are one, the first two transfers move nothing.
  have inKept (before after : Ledger Pubkey) (amount : Nat)
      (held : Held before (transient rogue.user rogue.mintIn) rogue.mintIn (buyAuthority rogue.user) left)
      (out : Held after (transient rogue.user rogue.mintOut) rogue.mintOut (buyAuthority rogue.user) amount)
      (still : rogue.mintIn = rogue.mintOut → amount = left)
      (frame : transient rogue.user rogue.mintIn ≠ transient rogue.user rogue.mintOut →
        after.accounts (transient rogue.user rogue.mintIn) = before.accounts (transient rogue.user rogue.mintIn)) :
      Held after (transient rogue.user rogue.mintIn) rogue.mintIn (buyAuthority rogue.user) left := by
    by_cases same : rogue.mintIn = rogue.mintOut
    next =>
      rw [same, ← still same]
      exact out
    next => exact held.congr (frame fun keys => same (transient_mint _ _ _ keys))
  have twinAmount (same : rogue.mintIn = rogue.mintOut) : rest = left := by
    rw [← outHeld.balance, ← inHeld.balance, same]
  have takenValue := ofNat_toNat taken (by omega)
  have depositValue := ofNat_toNat deposit (by omega)
  have payValue := ofNat_toNat (goal - (paid + taken)) (by omega)
  have leftValue := ofNat_toNat left leftSmall
  obtain ⟨first, firstRun, out₁, dest₁, frame₁⟩ := processTransfer_held signed ledger _ _ _ _ _
    (UInt64.ofNat taken) rest paid (transient_ne_wallet _ _ _) outHeld destHeld authority (by omega) (by omega)
  rw [takenValue] at out₁ dest₁
  have in₁ := inKept ledger first _ inHeld out₁ (fun same => by have := twin same; have := twinAmount same; omega)
    fun keys => frame₁ _ keys (transient_ne_wallet _ _ _)
  have reserve₁ := reserveHeld.congr (frame₁ _ (keypair_ne_transient _ _ _) (keypair_ne_wallet _ _ _))
  have bank₁ := bankHeld.congr (frame₁ _ (keypair_ne_transient _ _ _) (keypair_ne_wallet _ _ _))
  have sink₁ := sinkHeld.congr (frame₁ _ (keypair_ne_transient _ _ _) (keypair_ne_wallet _ _ _))
  obtain ⟨second, secondRun, reserve₂, out₂, frame₂⟩ := processTransfer_held signed first _ _ _ _ _
    (UInt64.ofNat deposit) 1 (rest - taken) (keypair_ne_transient _ _ _) reserve₁ out₁ keeper (by omega) (by omega)
  rw [depositValue] at out₂ reserve₂
  have in₂ := inKept first second _ in₁ out₂ (fun same => by have := twin same; have := twinAmount same; omega)
    fun keys => frame₂ _ (keypair_ne_transient _ _ _).symm keys
  have dest₂ := dest₁.congr (frame₂ _ (keypair_ne_wallet _ _ _).symm (transient_ne_wallet _ _ _).symm)
  have bank₂ := bank₁.congr (frame₂ _ (keypair_ne _ _ (by omega)) (keypair_ne_transient _ _ _))
  have sink₂ := sink₁.congr (frame₂ _ (keypair_ne _ _ (by omega)) (keypair_ne_transient _ _ _))
  obtain ⟨third, thirdRun, -, dest₃, frame₃⟩ := processTransfer_held signed second _ _ _ _ _
    (UInt64.ofNat (goal - (paid + taken))) (2 ^ 64 - 1) (paid + taken) (keypair_ne_wallet _ _ _) bank₂ dest₂
    keeper (by omega) (by omega)
  have in₃ := in₂.congr (frame₃ _ (keypair_ne_transient _ _ _).symm (transient_ne_wallet _ _ _))
  have out₃ := out₂.congr (frame₃ _ (keypair_ne_transient _ _ _).symm (transient_ne_wallet _ _ _))
  have sink₃ := sink₂.congr (frame₃ _ (keypair_ne _ _ (by omega)) (keypair_ne_wallet _ _ _))
  have reserve₃ := reserve₂.congr (frame₃ _ (keypair_ne _ _ (by omega)) (keypair_ne_wallet _ _ _))
  obtain ⟨fourth, fourthRun, in₄, -, frame₄⟩ := processTransfer_held signed third _ _ _ _ _
    (UInt64.ofNat left) left 0 (keypair_ne_transient _ _ _).symm in₃ sink₃ authority (by omega) (by omega)
  rw [leftValue, Nat.sub_self] at in₄
  have dest₄ := dest₃.congr (frame₄ _ (transient_ne_wallet _ _ _).symm (keypair_ne_wallet _ _ _).symm)
  have reserve₄ := reserve₃.congr (frame₄ _ (keypair_ne_transient _ _ _) (keypair_ne _ _ (by omega)))
  have out₄ (different : rogue.mintIn ≠ rogue.mintOut) := out₃.congr
    (frame₄ _ (fun keys => different (transient_mint _ _ _ keys).symm) (keypair_ne_transient _ _ _).symm)
  rw [payValue] at dest₄
  simp only [instructions, destHeld.balance, inHeld.balance]
  by_cases short : goal < paid + taken
  case neg =>
    rw [Nat.add_sub_of_le (by omega)] at dest₄
    rw [if_neg short, List.append_nil]
    refine ⟨fourth, ?_, in₄, dest₄, out₄⟩
    exact run_cons _ _ _ _ _ _ firstRun (run_cons _ _ _ _ _ _ secondRun (run_cons _ _ _ _ _ _ thirdRun
      (run_cons _ _ _ _ _ _ fourthRun rfl)))
  case pos =>
    obtain ⟨handed, spare⟩ := enough.resolve_left (by omega)
    have backValue := ofNat_toNat (paid + taken - goal) (by omega)
    rw [Nat.sub_eq_zero_of_le (by omega), Nat.add_zero, holder, handed, if_pos rfl] at dest₄
    obtain ⟨settled, lastRun, dest₅, -, frame₅⟩ := processTransfer_held signed fourth _ _ _ _ _
      (UInt64.ofNat (paid + taken - goal)) (paid + taken) (1 - deposit) (keypair_ne_wallet _ _ _).symm dest₄ reserve₄
      keeper (by omega) (by omega)
    rw [backValue, Nat.sub_sub_self (by omega)] at dest₅
    rw [if_pos short]
    simp only [List.cons_append, List.nil_append]
    refine ⟨settled, ?_, ?_, ?_, ?_⟩
    next =>
      exact run_cons _ _ _ _ _ _ firstRun (run_cons _ _ _ _ _ _ secondRun (run_cons _ _ _ _ _ _ thirdRun
        (run_cons _ _ _ _ _ _ fourthRun (run_cons _ _ _ _ _ _ lastRun rfl))))
    next => exact in₄.congr (frame₅ _ (transient_ne_wallet _ _ _) (keypair_ne_transient _ _ _).symm)
    next =>
      rw [holder, handed, if_pos rfl]
      exact dest₅
    next =>
      intro different
      exact (out₄ different).congr (frame₅ _ (transient_ne_wallet _ _ _) (keypair_ne_transient _ _ _).symm)

omit [DecidableEq Pubkey] in
theorem route_genuine (rogue : Rogue Pubkey) (info : AccountInfo Pubkey) (member : info ∈ rogue.route)
    (signer : info.isSigner = true) : info.key ∈ [rogue.keeper] := by
  simp only [route, List.mem_cons, List.mem_map] at member
  rcases member with rfl | rfl | ⟨_, _, rfl⟩
  next => exact List.mem_singleton_self _
  next => cases signer
  next => cases signer

def context {Accounts : Type} (rogue : Rogue Pubkey) (accounts : Accounts) : Context Pubkey Accounts :=
  { accounts := accounts
    signers := [rogue.keeper]
    remainingAccounts := rogue.route
    genuine := rogue.route_genuine
    underived := fun user member => keypair_ne_buyAuthority _ user (List.mem_singleton.mp member).symm
    unassociated := fun owner mint member => keypair_ne_associated _ owner mint (List.mem_singleton.mp member).symm }

theorem rogue_settlement (rogue : Rogue Pubkey) (base : Ledger Pubkey) (swapProgram : Pubkey)
    (input output fee minOut : UInt64) (taken deposit : Nat)
    (twin : rogue.mintIn = rogue.mintOut → input = output ∧ taken = 0 ∧ deposit = 0)
    (charge : fee.toNat ≤ input.toNat) (available : taken ≤ output.toNat) (least : deposit ≤ 1)
    (room : output.toNat + deposit < 2 ^ 64)
    (enough : rebate rogue.user rogue.mintIn rogue.mintOut rogue.feeOwner fee.toNat + taken ≤ minOut.toNat ∨
      rogue.handed = true ∧
        rebate rogue.user rogue.mintIn rogue.mintOut rogue.feeOwner fee.toNat + taken + 1 < 2 ^ 64) :
    ∃ skimmed settled, Settlement (rogue.ledger base input output) skimmed settled [rogue.keeper] rogue.route
        (rogue.leg swapProgram) fee 0 minOut minOut [] (rogue.venue taken deposit minOut.toNat) ∧
      settled.balance (transient rogue.user rogue.mintIn) = 0 ∧
      settled.balance (wallet rogue.user rogue.mintOut) = minOut.toNat ∧
      (rogue.mintIn ≠ rogue.mintOut →
        settled.balance (transient rogue.user rogue.mintOut) = output.toNat - taken + deposit) := by
  have opening := rogue.stage_ledger base input output fun same => (twin same).1
  obtain ⟨skimmed, left, rest, paid, skim, stage, little, same⟩ :=
    rogue.stage_skim _ swapProgram fee _ _ opening (rogue.fee_ledger base input output) charge
  let instruction : Instruction Pubkey :=
    { programId := swapProgram
      accounts := forwardedMetas rogue.route (buyAuthority rogue.user)
      data := [] }
  let signed := (rogue.venue taken deposit minOut.toNat).signed instruction
  have authority : signed (buyAuthority rogue.user) = true := by
    simp [signed, instruction, Venue.signed, Instruction.hasSigner, forwardedMetas, route]
  have keeper : signed rogue.keeper = true := by
    simp [signed, instruction, Venue.signed, Instruction.hasSigner, forwardedMetas, route]
  have restSmall := stage.outHeld.lt
  have rest_ok : taken ≤ rest ∧ rest + deposit < 2 ^ 64 := by
    by_cases one : rogue.mintIn = rogue.mintOut
    next =>
      have := twin one
      omega
    next => rw [same one]; exact ⟨available, room⟩
  have enough' : paid + taken ≤ minOut.toNat ∨ rogue.handed = true ∧ paid + taken + 1 < 2 ^ 64 :=
    enough.imp (fun below => by omega) (And.imp_right fun spare => by omega)
  obtain ⟨settled, ran, inHeld, destHeld, outHeld⟩ := rogue.stage_run signed skimmed left rest paid taken deposit
    minOut.toNat stage authority keeper rest_ok.1 least rest_ok.2 enough' minOut.toNat_lt fun one => (twin one).2
  refine ⟨skimmed, settled, ⟨skim, ?_, ?_, ?_, Nat.le_refl _⟩, inHeld.balance, destHeld.balance, ?_⟩
  next =>
    simp only [invokeSigned, bind_ok, require_ok, exists_const, okOr_ok, tokenCall_ok]
    exact ⟨forwardedMetas_allowed _ _ _ rogue.route_genuine, _, rfl, ran⟩
  next =>
    obtain ⟨account, present, -, -, -, amount⟩ := inHeld
    exact ⟨account, present, UInt64.toNat_inj.mp amount⟩
  next =>
    obtain ⟨account, present, -, -, -, amount⟩ := destHeld
    exact ⟨account, present, amount.symm⟩
  next =>
    intro different
    rw [(outHeld different).balance, same different]

end Rogue

end RecurringBuy
