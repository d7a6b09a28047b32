import RecurringBuy.Token.Movement

set_option autoImplicit false

namespace SplToken

open Checked

variable {Key : Type}

structure Payment (Key : Type) where
  source : Key
  destination : Key
  amount : Nat

variable [DecidableEq Key]

def paidOut (key : Key) : List (Payment Key) → Nat
  | [] => 0
  | payment :: rest =>
      (if payment.source = key ∧ payment.destination ≠ key then payment.amount else 0) + paidOut key rest

def paidIn (key : Key) : List (Payment Key) → Nat
  | [] => 0
  | payment :: rest =>
      (if payment.destination = key ∧ payment.source ≠ key then payment.amount else 0) + paidIn key rest

variable [AssociatedAddress Key]

/-- The payments were made in this order, and some associated accounts opened. -/
inductive Posting : Ledger Key → List (Payment Key) → Ledger Key → Prop where
  | nil (ledger : Ledger Key) : Posting ledger [] ledger
  | opens (ledger middle ledger' : Ledger Key) (wallet mint : Key) (payments : List (Payment Key))
      (opened : Opens ledger middle (AssociatedAddress.associated wallet mint) mint wallet)
      (rest : Posting middle payments ledger') : Posting ledger payments ledger'
  | moves (ledger middle ledger' : Ledger Key) (payment : Payment Key) (payments : List (Payment Key))
      (moved : Moves ledger middle payment.source payment.destination payment.amount)
      (mints : ledger.KeepsMints middle) (rest : Posting middle payments ledger') :
      Posting ledger (payment :: payments) ledger'

/-- What payments leave of an account beside its amount. A delegate may have used up its allowance. -/
structure Lasts (before after : TokenAccount Key) : Prop where
  mint : after.mint = before.mint
  owner : after.owner = before.owner
  delegate : after.delegate = before.delegate ∨ after.delegate = none

omit [DecidableEq Key] [AssociatedAddress Key] in
theorem lasts_trans (before between after : TokenAccount Key) (first : Lasts before between)
    (second : Lasts between after) : Lasts before after where
  mint := second.mint.trans first.mint
  owner := second.owner.trans first.owner
  delegate := by
    rcases second.delegate with same | cleared
    next =>
      rw [same]
      exact first.delegate
    next => exact .inr cleared

section Posting

variable (ledger ledger' : Ledger Key) (payments : List (Payment Key))

theorem posting_append (middle : Ledger Key) (later : List (Payment Key)) (first : Posting ledger payments middle)
    (next : Posting middle later ledger') : Posting ledger (payments ++ later) ledger' := by
  induction first with
  | nil ledger => exact next
  | opens ledger between middle wallet mint payments opened rest ih => exact .opens _ _ _ wallet mint _ opened (ih next)
  | moves ledger between middle payment payments moved mints rest ih => exact .moves _ _ _ payment _ moved mints (ih next)

variable (posting : Posting ledger payments ledger')

include posting

theorem posting_balance (key : Key) :
    ledger'.balance key + paidOut key payments = ledger.balance key + paidIn key payments := by
  induction posting with
  | nil ledger => rfl
  | opens ledger middle ledger' wallet mint payments opened rest ih =>
    rw [ih, opens_balance _ _ _ _ _ opened]
  | moves ledger middle ledger' payment payments moved mints rest ih =>
    have flow := moved.flow key
    rw [paidOut, paidIn]
    omega

theorem posting_supplied (supplied : ledger.Supplied) : ledger'.Supplied := by
  induction posting with
  | nil ledger => exact supplied
  | opens ledger middle ledger' wallet mint payments opened rest ih =>
    exact ih (opens_supplied _ _ _ _ _ opened supplied)
  | moves ledger middle ledger' payment payments moved mints rest ih =>
    exact ih (moves_supplied _ _ _ _ _ moved supplied)

theorem posting_mints : ledger.KeepsMints ledger' := by
  induction posting with
  | nil ledger => exact keepsMints_same _ _ rfl
  | opens ledger middle ledger' wallet mint payments opened rest ih =>
    exact keepsMints_trans _ _ middle (keepsMints_same _ _ opened.mints) ih
  | moves ledger middle ledger' payment payments moved mints rest ih => exact keepsMints_trans _ _ middle mints ih

theorem posting_account (key : Key) (before : TokenAccount Key) (present : ledger.accounts key = some before) :
    ∃ after, ledger'.accounts key = some after ∧ Lasts before after := by
  induction posting generalizing before with
  | nil ledger => exact ⟨before, present, rfl, rfl, .inl rfl⟩
  | opens ledger middle ledger' wallet mint payments opened rest ih => exact ih before (opened.kept key before present)
  | moves ledger middle ledger' payment payments moved mints rest ih =>
    obtain ⟨between, present', mint, owner, delegate⟩ := moved.account key before present
    obtain ⟨after, last, lasts⟩ := ih between present'
    exact ⟨after, last, lasts_trans before between after ⟨mint, owner, delegate⟩ lasts⟩

theorem posting_origin (key : Key) (after : TokenAccount Key) (present : ledger'.accounts key = some after) :
    (∃ before, ledger.accounts key = some before ∧ Lasts before after) ∨
    (key = AssociatedAddress.associated after.owner after.mint ∧ after.delegate = none) := by
  induction posting with
  | nil ledger => exact .inl ⟨after, present, rfl, rfl, .inl rfl⟩
  | opens ledger middle ledger' wallet mint payments opened rest ih =>
    rcases ih present with ⟨between, found, lasts⟩ | fresh
    next =>
      cases known : ledger.accounts key with
      | some before =>
        obtain rfl := Option.some.inj ((opened.kept key before known).symm.trans found)
        exact .inl ⟨before, rfl, lasts⟩
      | none =>
        have here : key = AssociatedAddress.associated wallet mint := by
          by_contra elsewhere
          rw [opened.elsewhere key elsewhere, known] at found
          cases found
        subst here
        obtain rfl := Option.some.inj ((opened.fresh known).symm.trans found)
        refine .inr ⟨by rw [lasts.mint, lasts.owner], ?_⟩
        rcases lasts.delegate with same | cleared
        next => exact same
        next => exact cleared
    next => exact .inr fresh
  | moves ledger middle ledger' payment payments moved mints rest ih =>
    rcases ih present with ⟨between, found, lasts⟩ | fresh
    next =>
      cases known : ledger.accounts key with
      | some before =>
        obtain ⟨between', found', mint, owner, delegate⟩ := moved.account key before known
        obtain rfl := Option.some.inj (found.symm.trans found')
        exact .inl ⟨before, rfl, lasts_trans before between after ⟨mint, owner, delegate⟩ lasts⟩
      | none =>
        rw [moved.absent key known] at found
        cases found
    next => exact .inr fresh

theorem posting_ofMint (key mint : Key) (before : OfMint ledger key mint) : OfMint ledger' key mint := by
  obtain ⟨account, present, sameMint⟩ := before
  obtain ⟨after, present', lasts⟩ := posting_account ledger ledger' payments posting key account present
  exact ⟨after, present', lasts.mint.trans sameMint⟩

theorem posting_owned (key mint owner : Key) (before : OwnedAccount ledger key mint owner) :
    OwnedAccount ledger' key mint owner := by
  obtain ⟨account, present, sameMint, holder, undelegated⟩ := before
  obtain ⟨after, present', lasts⟩ := posting_account ledger ledger' payments posting key account present
  refine ⟨after, present', lasts.mint.trans sameMint, lasts.owner.trans holder, ?_⟩
  rcases lasts.delegate with same | cleared
  next => rwa [same]
  next => simp [cleared]

end Posting

section Footprint

variable (among : Key → Prop)

-- The payments stay among these accounts.
def Within (payments : List (Payment Key)) : Prop :=
  ∀ payment ∈ payments, among payment.source ∧ among payment.destination

omit [DecidableEq Key] [AssociatedAddress Key] in
theorem within_append (first later : List (Payment Key)) :
    Within among (first ++ later) ↔ Within among first ∧ Within among later := by
  simp only [Within, List.mem_append, or_imp, forall_and]
  exact and_and_and_comm

omit [DecidableEq Key] [AssociatedAddress Key] in
theorem within_mono (wider : Key → Prop) (more : ∀ key, among key → wider key) (payments : List (Payment Key))
    (within : Within among payments) : Within wider payments :=
  fun payment member => ⟨more _ (within payment member).1, more _ (within payment member).2⟩

omit [AssociatedAddress Key] in
theorem paid_outside (payments : List (Payment Key)) (within : Within among payments) (key : Key) (outside : ¬ among key) :
    paidOut key payments = 0 ∧ paidIn key payments = 0 := by
  induction payments with
  | nil => exact ⟨rfl, rfl⟩
  | cons payment rest ih =>
    obtain ⟨source, destination⟩ := within payment List.mem_cons_self
    obtain ⟨out, gained⟩ := ih fun other member => within other (List.mem_cons_of_mem _ member)
    have unpaying : payment.source ≠ key := fun same => outside (same ▸ source)
    have unpaid : payment.destination ≠ key := fun same => outside (same ▸ destination)
    simp [paidOut, paidIn, unpaying, unpaid, out, gained]

theorem posting_outside (ledger ledger' : Ledger Key) (payments : List (Payment Key))
    (posting : Posting ledger payments ledger') (within : Within among payments) (key : Key) (outside : ¬ among key) :
    ledger'.balance key = ledger.balance key := by
  have balance := posting_balance ledger ledger' payments posting key
  obtain ⟨out, gained⟩ := paid_outside among payments within key outside
  rwa [out, gained] at balance

end Footprint

section Transfers

variable (signed : Key → Bool)

theorem transfer_posting (ledger ledger' : Ledger Key) (source destination authority : Key) (amount : UInt64)
    (accepted : process signed ledger (.transfer source destination authority amount) = .ok ledger') :
    Posting ledger [⟨source, destination, amount.toNat⟩] ledger' :=
  .moves _ _ _ ⟨source, destination, amount.toNat⟩ []
    (processTransfer_moves signed ledger ledger' source destination authority amount accepted)
    (process_keepsMints signed _ _ _ accepted) (.nil ledger')

theorem createIdempotent_posting (ledger ledger' : Ledger Key) (wallet mint : Key)
    (created : createIdempotent ledger wallet mint = .ok ledger') : Posting ledger [] ledger' := by
  unfold createIdempotent at created
  split at created
  next =>
    simp only [bind_ok, pure_ok] at created
    obtain ⟨_, -, _, -, rfl⟩ := created
    exact .nil ledger
  next absent =>
    simp only [processInitializeAccount, bind_ok, pure_ok] at created
    obtain ⟨_, -, _, -, rfl⟩ := created
    refine .opens ledger _ _ wallet mint [] ⟨?_, fun _ => Ledger.setAccount_same _ _ _, ?_, rfl⟩ (.nil _)
    next =>
      intro other account held
      have elsewhere : other ≠ AssociatedAddress.associated wallet mint := by
        intro here
        rw [here, absent] at held
        cases held
      rw [Ledger.setAccount_other _ _ _ _ elsewhere, held]
    next => exact fun other elsewhere => Ledger.setAccount_other _ _ _ _ elsewhere

end Transfers

end SplToken
