import RecurringBuy.Keeper.Round

set_option autoImplicit false

namespace RecurringBuy

open Checked SplToken ProgramAddress

variable {Pubkey : Type} [DecidableEq Pubkey] [ProgramAddress Pubkey] (daemon : Daemon Pubkey)

section Wallets

variable (user mintIn mintOut feeOwner poolIn poolOut : Pubkey) (pulled fee net : Nat)

theorem bookings_wallet (mints : mintIn ≠ mintOut) (feeApart : feeOwner ≠ user)
    (inApart : ∀ mint, mint = mintIn ∨ mint = mintOut → poolIn ≠ wallet user mint)
    (outApart : ∀ mint, mint = mintIn ∨ mint = mintOut → poolOut ≠ wallet user mint) :
    let payments := bookings user mintIn mintOut feeOwner poolIn poolOut pulled fee net
    (paidOut (wallet user mintIn) payments = pulled ∧ paidIn (wallet user mintIn) payments = 0) ∧
      paidOut (wallet user mintOut) payments = 0 ∧ paidIn (wallet user mintOut) payments = net := by
  have through (mint : Pubkey) : transient user mintIn ≠ wallet user mint := transient_ne_wallet user mintIn mint
  have other : wallet user mintIn ≠ wallet user mintOut :=
    fun same => mints (AssociatedAddress.associated_inj _ _ _ _ same).2
  have charged (mint : Pubkey) : wallet feeOwner mintIn ≠ wallet user mint :=
    fun same => feeApart (AssociatedAddress.associated_inj _ _ _ _ same).1
  have input := inApart mintIn (.inl rfl)
  have input' := inApart mintOut (.inr rfl)
  have output := outApart mintIn (.inl rfl)
  have output' := outApart mintOut (.inr rfl)
  refine ⟨⟨?_, ?_⟩, ?_, ?_⟩
  next => simp [bookings, outlays, paidOut, through, output]
  next => simp [bookings, outlays, paidIn, through, charged, input, other.symm]
  next => simp [bookings, outlays, paidOut, through, output', other]
  next => simp [bookings, outlays, paidIn, through, charged, input', output']

omit [DecidableEq Pubkey] in
theorem fundable_wallet (ledger : Ledger Pubkey)
    (fundable : Fundable daemon user mintIn mintOut feeOwner poolIn poolOut ledger) (mint : Pubkey)
    (traded : mint = mintIn ∨ mint = mintOut) : poolIn ≠ wallet user mint ∧ poolOut ≠ wallet user mint := by
  have apart (pool held : Pubkey) (owned : OwnedAccount ledger pool held daemon.mockSwap.poolAuthority) :
      pool ≠ wallet user mint := by
    intro same
    obtain ⟨account, present, -, holder, -⟩ := owned
    rw [same] at present
    rcases traded with rfl | rfl
    next =>
      obtain ⟨account', present', -, owner⟩ := fundable.source
      obtain rfl : account' = account := Option.some.inj (present'.symm.trans present)
      exact fundable.userApart (owner.symm.trans holder)
    next => exact fundable.userApart ((fundable.dest account present).1.symm.trans holder)
  exact ⟨apart poolIn mintIn fundable.inPool, apart poolOut mintOut fundable.outPool⟩

end Wallets

section Turns

variable (feeConfig : FeeConfig Pubkey) (world : World Pubkey) (d : RecurringDelegation Pubkey) (ledger' : Ledger Pubkey)
  (posting : Posting world.ledger (daemon.books feeConfig world d) ledger')

include posting

theorem books_own (mints : d.mint ≠ daemon.mintOut d) (unpaid : feeConfig.destination ≠ d.delegator)
    (pools : ∀ mint, mint = d.mint ∨ mint = daemon.mintOut d →
      daemon.poolIn d ≠ wallet d.delegator mint ∧ daemon.poolOut d ≠ wallet d.delegator mint) :
    ledger'.balance (wallet d.delegator d.mint) + daemon.pulls world d =
        world.ledger.balance (wallet d.delegator d.mint) ∧
      ledger'.balance (wallet d.delegator (daemon.mintOut d)) =
        world.ledger.balance (wallet d.delegator (daemon.mintOut d)) + feeConfig.netOf (daemon.pulls world d) := by
  have paid := bookings_wallet d.delegator d.mint (daemon.mintOut d) feeConfig.destination (daemon.poolIn d)
    (daemon.poolOut d) (daemon.pulls world d) (feeConfig.feeOf (daemon.pulls world d))
    (feeConfig.netOf (daemon.pulls world d)) mints unpaid (fun mint traded => (pools mint traded).1)
    (fun mint traded => (pools mint traded).2)
  have spent := books_balance daemon feeConfig world d ledger' posting (wallet d.delegator d.mint)
  have received := books_balance daemon feeConfig world d ledger' posting (wallet d.delegator (daemon.mintOut d))
  constructor <;> omega

theorem books_fee (mint : Pubkey) (unserved : feeConfig.destination ≠ d.delegator)
    (apart : feeConfig.destination ≠ buyAuthority d.delegator)
    (usdcPool : daemon.poolUsdc ≠ wallet feeConfig.destination mint)
    (targetPool : daemon.poolTarget ≠ wallet feeConfig.destination mint) :
    ledger'.balance (wallet feeConfig.destination mint) = world.ledger.balance (wallet feeConfig.destination mint) +
      if d.mint = mint then feeConfig.feeOf (daemon.pulls world d) else 0 := by
  obtain ⟨poolIn, poolOut⟩ := pools_ne daemon d _ usdcPool targetPool
  have balance := books_balance daemon feeConfig world d ledger' posting (wallet feeConfig.destination mint)
  have elsewhere (owner held : Pubkey) (stranger : feeConfig.destination ≠ owner) :
      AssociatedAddress.associated owner held ≠ wallet feeConfig.destination mint :=
    fun same => stranger (AssociatedAddress.associated_inj _ _ _ _ same).1.symm
  have own (held : Pubkey) : wallet d.delegator held ≠ wallet feeConfig.destination mint := elsewhere _ held unserved
  have through : transient d.delegator d.mint ≠ wallet feeConfig.destination mint := elsewhere _ _ apart
  have charged : wallet feeConfig.destination d.mint = wallet feeConfig.destination mint ↔ d.mint = mint :=
    ⟨fun same => (AssociatedAddress.associated_inj _ _ _ _ same).2, fun same => by rw [same]⟩
  simp only [bookings, outlays, paidOut, paidIn, own, through, poolIn, poolOut, charged, ne_eq, not_false_eq_true,
    and_true, false_and, if_false, Nat.zero_add, Nat.add_zero] at balance
  exact balance

end Turns

end RecurringBuy
