import Mathlib.Algebra.BigOperators.Group.Finset.Piecewise
import Mathlib.Algebra.Order.BigOperators.Group.Finset
import RecurringBuy.Token.Flow

set_option autoImplicit false

namespace SplToken

open Checked

variable {Key : Type}

def OfMint (ledger : Ledger Key) (key mint : Key) : Prop :=
  ∃ account, ledger.accounts key = some account ∧ account.mint = mint

-- The owner has not made itself its own delegate, so it spends without an allowance.
def OwnedAccount (ledger : Ledger Key) (key mint owner : Key) : Prop :=
  ∃ account, ledger.accounts key = some account ∧ account.mint = mint ∧ account.owner = owner ∧
    account.delegate ≠ some owner

-- The supply of a mint is a `u64`.
def Ledger.Supplied (ledger : Ledger Key) : Prop :=
  ∀ mint (keys : Finset Key), (∀ key ∈ keys, OfMint ledger key mint) → keys.sum ledger.balance < 2 ^ 64

variable [DecidableEq Key]

def Ledger.ofList (entries : List (Key × TokenAccount Key)) (mints : Key → Option (Mint Key)) : Ledger Key :=
  { accounts := fun key => entries.lookup key, mints := mints }

theorem ofList_sum (entries : List (Key × TokenAccount Key)) (mints : Key → Option (Mint Key)) (keys : Finset Key) :
    keys.sum (Ledger.ofList entries mints).balance ≤ (entries.map fun entry => entry.2.amount.toNat).sum := by
  induction entries with
  | nil =>
    have empty : (Ledger.ofList ([] : List (Key × TokenAccount Key)) mints).balance = fun _ => 0 := rfl
    rw [empty, Finset.sum_const_zero]
    exact Nat.zero_le _
  | cons entry rest ih =>
    obtain ⟨held, account⟩ := entry
    have split (key : Key) : (Ledger.ofList ((held, account) :: rest) mints).balance key ≤
        (if held = key then account.amount.toNat else 0) + (Ledger.ofList rest mints).balance key := by
      by_cases first : held = key
      next =>
        rw [if_pos first, Ledger.balance_some _ key account (by simp [Ledger.ofList, first])]
        exact Nat.le_add_right _ _
      next =>
        have later : (key == held) = false := beq_eq_false_iff_ne.mpr (Ne.symm first)
        rw [if_neg first, Nat.zero_add,
          Ledger.balance_congr (Ledger.ofList rest mints) _ key (by simp [Ledger.ofList, List.lookup_cons, later])]
    calc keys.sum (Ledger.ofList ((held, account) :: rest) mints).balance
        ≤ keys.sum (fun key => (if held = key then account.amount.toNat else 0) +
            (Ledger.ofList rest mints).balance key) := Finset.sum_le_sum fun key _ => split key
      _ = (if held ∈ keys then account.amount.toNat else 0) + keys.sum (Ledger.ofList rest mints).balance := by
        rw [Finset.sum_add_distrib, Finset.sum_ite_eq]
      _ ≤ (((held, account) :: rest).map fun entry => entry.2.amount.toNat).sum := by
        simp only [List.map_cons, List.sum_cons]
        split_ifs <;> omega

theorem ofList_supplied (entries : List (Key × TokenAccount Key)) (mints : Key → Option (Mint Key))
    (total : (entries.map fun entry => entry.2.amount.toNat).sum < 2 ^ 64) :
    (Ledger.ofList entries mints).Supplied :=
  fun _ keys _ => (ofList_sum entries mints keys).trans_lt total

structure Moves (ledger ledger' : Ledger Key) (source destination : Key) (amount : Nat) : Prop where
  sameMint : ∃ mint, OfMint ledger source mint ∧ OfMint ledger destination mint
  account : ∀ key before, ledger.accounts key = some before →
    ∃ after, ledger'.accounts key = some after ∧ after.mint = before.mint ∧ after.owner = before.owner ∧
      (after.delegate = before.delegate ∨ after.delegate = none)
  absent : ∀ key, ledger.accounts key = none → ledger'.accounts key = none
  flow : ∀ key, ledger'.balance key + (if source = key ∧ destination ≠ key then amount else 0) =
    ledger.balance key + (if destination = key ∧ source ≠ key then amount else 0)

section Moves

omit [DecidableEq Key] in
theorem ownedAccount_ofMint (ledger : Ledger Key) (key mint owner : Key)
    (owned : OwnedAccount ledger key mint owner) : OfMint ledger key mint := by
  obtain ⟨account, present, sameMint, -⟩ := owned
  exact ⟨account, present, sameMint⟩

omit [DecidableEq Key] in
theorem ownedAccount_ne (ledger : Ledger Key) (key key' mint mint' owner owner' : Key)
    (owned : OwnedAccount ledger key mint owner) (owned' : OwnedAccount ledger key' mint' owner')
    (different : owner ≠ owner') : key ≠ key' := by
  intro same
  obtain ⟨account, present, -, holder, -⟩ := owned
  obtain ⟨account', present', -, holder', -⟩ := owned'
  rw [same, present', Option.some.injEq] at present
  rw [← holder, ← holder', present] at different
  exact different rfl

variable (ledger ledger' : Ledger Key) (source destination : Key) (amount : Nat)
  (moves : Moves ledger ledger' source destination amount)

include moves

theorem moves_ofMint (key mint : Key) (before : OfMint ledger key mint) : OfMint ledger' key mint := by
  obtain ⟨account, present, sameMint⟩ := before
  obtain ⟨after, present', mint', -⟩ := moves.account key account present
  exact ⟨after, present', mint'.trans sameMint⟩

theorem moves_ofMint_back (key mint : Key) (after : OfMint ledger' key mint) : OfMint ledger key mint := by
  obtain ⟨account, present, sameMint⟩ := after
  cases before : ledger.accounts key with
  | none =>
    rw [moves.absent key before] at present
    cases present
  | some old =>
    obtain ⟨new, present', mint', -⟩ := moves.account key old before
    obtain rfl : new = account := Option.some.inj (present'.symm.trans present)
    exact ⟨old, before, mint'.symm.trans sameMint⟩

theorem moves_owned (key mint owner : Key) (before : OwnedAccount ledger key mint owner) :
    OwnedAccount ledger' key mint owner := by
  obtain ⟨account, present, sameMint, holder, undelegated⟩ := before
  obtain ⟨after, present', mint', owner', delegate⟩ := moves.account key account present
  refine ⟨after, present', mint'.trans sameMint, owner'.trans holder, ?_⟩
  rcases delegate with same | cleared
  next => rwa [same]
  next => simp [cleared]

theorem moves_source (distinct : source ≠ destination) :
    ledger'.balance source + amount = ledger.balance source := by
  have flow := moves.flow source
  simpa [distinct, distinct.symm] using flow

theorem moves_destination (distinct : source ≠ destination) :
    ledger'.balance destination = ledger.balance destination + amount := by
  have flow := moves.flow destination
  simpa [distinct, distinct.symm] using flow

-- Only the source loses anything.
theorem moves_grows (key : Key) (elsewhere : source ≠ key) : ledger.balance key ≤ ledger'.balance key := by
  have flow := moves.flow key
  rw [if_neg fun taken => elsewhere taken.1] at flow
  omega

theorem moves_kept (key : Key) (notSource : source ≠ key) (notDestination : destination ≠ key) :
    ledger'.balance key = ledger.balance key := by
  have flow := moves.flow key
  simpa [notSource, notDestination] using flow

theorem moves_total (keys : Finset Key) (distinct : source ≠ destination) (paid : source ∈ keys)
    (received : destination ∈ keys) : keys.sum ledger'.balance = keys.sum ledger.balance := by
  have taken (key : Key) : (if source = key ∧ destination ≠ key then amount else 0) =
      if source = key then amount else 0 := by
    by_cases here : source = key
    next =>
      have elsewhere : destination ≠ key := here ▸ distinct.symm
      simp [here, elsewhere]
    next => simp [here]
  have given (key : Key) : (if destination = key ∧ source ≠ key then amount else 0) =
      if destination = key then amount else 0 := by
    by_cases here : destination = key
    next =>
      have elsewhere : source ≠ key := here ▸ distinct
      simp [here, elsewhere]
    next => simp [here]
  have flows : keys.sum (fun key => ledger'.balance key + if source = key then amount else 0) =
      keys.sum fun key => ledger.balance key + if destination = key then amount else 0 := by
    apply Finset.sum_congr rfl
    intro key _
    rw [← taken, ← given]
    exact moves.flow key
  rw [Finset.sum_add_distrib, Finset.sum_add_distrib, Finset.sum_ite_eq, Finset.sum_ite_eq, if_pos paid,
    if_pos received] at flows
  exact Nat.add_right_cancel flows

-- A set of one mint that the destination is in may be enlarged by the source.
theorem moves_supplied (supplied : ledger.Supplied) : ledger'.Supplied := by
  intro mint keys ofMint
  have before (key : Key) (member : key ∈ keys) : OfMint ledger key mint :=
    moves_ofMint_back ledger ledger' source destination amount moves key mint (ofMint key member)
  by_cases grows : source ≠ destination ∧ destination ∈ keys
  next =>
    obtain ⟨distinct, received⟩ := grows
    obtain ⟨mint', sourceMint, destinationMint⟩ := moves.sameMint
    have total := moves_total ledger ledger' source destination amount moves (insert source keys) distinct
      (Finset.mem_insert_self _ _) (Finset.mem_insert_of_mem received)
    have bound := supplied mint (insert source keys) (by
      intro key member
      rcases Finset.mem_insert.mp member with rfl | inside
      next =>
        obtain ⟨account, present, same⟩ := before destination received
        obtain ⟨account', present', same'⟩ := destinationMint
        obtain rfl : account = account' := Option.some.inj (present.symm.trans present')
        rwa [← same, same']
      next => exact before key inside)
    calc keys.sum ledger'.balance ≤ (insert source keys).sum ledger'.balance :=
          Finset.sum_le_sum_of_subset (Finset.subset_insert _ _)
      _ = (insert source keys).sum ledger.balance := total
      _ < 2 ^ 64 := bound
  next =>
    have shrinks : keys.sum ledger'.balance ≤ keys.sum ledger.balance := by
      apply Finset.sum_le_sum
      intro key member
      have flow := moves.flow key
      have ungiven : ¬ (destination = key ∧ source ≠ key) := by
        intro given
        obtain ⟨rfl, distinct⟩ := given
        exact grows ⟨distinct, member⟩
      rw [if_neg ungiven] at flow
      omega
    exact shrinks.trans_lt (supplied mint keys before)

end Moves

section Transfers

variable (signed : Key → Bool)

theorem processTransfer_moves (ledger ledger' : Ledger Key) (source destination authority : Key) (amount : UInt64)
    (accepted : processTransfer signed ledger source destination authority amount = .ok ledger') :
    Moves ledger ledger' source destination amount.toNat := by
  have flow (key : Key) := processTransfer_flow signed ledger ledger' source destination authority key amount accepted
  obtain ⟨sender, receiver, sender', left, total, atSource, atDestination, -, same, spent, outcome⟩ :=
    processTransfer_ok signed _ _ _ _ _ _ accepted
  obtain ⟨-, owner, mint, delegate, -⟩ := spend_ok signed _ _ _ _ spent
  constructor
  case sameMint => exact ⟨receiver.mint, ⟨sender, atSource, same⟩, receiver, atDestination, rfl⟩
  case flow => exact flow
  case absent =>
    intro key missing
    rcases outcome with ⟨-, rfl⟩ | ⟨-, -, rfl⟩
    next => exact missing
    next =>
      have notSource : key ≠ source := by
        intro here
        rw [here, atSource] at missing
        cases missing
      have notDestination : key ≠ destination := by
        intro here
        rw [here, atDestination] at missing
        cases missing
      rw [Ledger.setAccount_other _ _ _ _ notDestination, Ledger.setAccount_other _ _ _ _ notSource, missing]
  case account =>
    intro key before present
    rcases outcome with ⟨-, rfl⟩ | ⟨distinct, -, rfl⟩
    next => exact ⟨before, present, rfl, rfl, .inl rfl⟩
    next =>
      by_cases atReceiver : key = destination
      next =>
        obtain rfl : receiver = before := Option.some.inj (atDestination.symm.trans (atReceiver ▸ present))
        exact ⟨{ receiver with amount := total }, by rw [atReceiver, Ledger.setAccount_same], rfl, rfl, .inl rfl⟩
      next =>
        rw [Ledger.setAccount_other _ _ _ _ atReceiver]
        by_cases atSender : key = source
        next =>
          obtain rfl : sender = before := Option.some.inj (atSource.symm.trans (atSender ▸ present))
          exact ⟨{ sender' with amount := left }, by rw [atSender, Ledger.setAccount_same], mint, owner, delegate⟩
        next => exact ⟨before, by rw [Ledger.setAccount_other _ _ _ _ atSender, present], rfl, rfl, .inl rfl⟩

theorem transfer_spent (ledger : Ledger Key) (source destination authority : Key) (amount : UInt64)
    (payer payer' : TokenAccount Key) (supplied : ledger.Supplied) (atSource : ledger.accounts source = some payer)
    (spent : spend signed payer authority amount = .ok payer') (receiver : OfMint ledger destination payer.mint)
    (enough : amount.toNat ≤ payer.amount.toNat) :
    ∃ ledger', processTransfer signed ledger source destination authority amount = .ok ledger' ∧
      Moves ledger ledger' source destination amount.toNat := by
  obtain ⟨payee, atDestination, sameMint⟩ := receiver
  have held := Ledger.balance_some _ _ _ atSource
  have stored := Ledger.balance_some _ _ _ atDestination
  let left := UInt64.ofNat (payer.amount.toNat - amount.toNat)
  have leftValue : left.toNat + amount.toNat = payer.amount.toNat := by
    have small := payer.amount.toNat_lt
    simp only [left, UInt64.toNat_ofNat', Nat.mod_eq_of_lt (show payer.amount.toNat - amount.toNat < 2 ^ 64 by omega)]
    omega
  have accepted : ∃ ledger', processTransfer signed ledger source destination authority amount = .ok ledger' := by
    simp only [processTransfer, bind_ok, account_ok, okOr_ok, require_ok, exists_const, decide_eq_true_eq,
      U64.checkedSub_some]
    by_cases self : source = destination
    next =>
      exact ⟨ledger, payer, atSource, payee, atDestination, left, leftValue, sameMint.symm, payer', spent,
        by simp [self, pure_ok]⟩
    next =>
      -- The two accounts together stay below the supply.
      have bound := supplied payer.mint {source, destination} (by
        intro key member
        rcases Finset.mem_insert.mp member with rfl | inside
        next => exact ⟨payer, atSource, rfl⟩
        next =>
          rw [Finset.mem_singleton.mp inside]
          exact ⟨payee, atDestination, sameMint⟩)
      rw [Finset.sum_pair self] at bound
      let total := UInt64.ofNat (payee.amount.toNat + amount.toNat)
      have totalValue : total.toNat = payee.amount.toNat + amount.toNat := by
        simp only [total, UInt64.toNat_ofNat']
        exact Nat.mod_eq_of_lt (by omega)
      refine ⟨(ledger.setAccount source (some { payer' with amount := left })).setAccount destination
        (some { payee with amount := total }), payer, atSource, payee, atDestination, left, leftValue,
        sameMint.symm, payer', spent, ?_⟩
      simp only [self, if_false, bind_ok, okOr_ok, U64.checkedAdd_some, pure_ok]
      exact ⟨total, totalValue, rfl⟩
  obtain ⟨ledger', accepted⟩ := accepted
  exact ⟨ledger', accepted, processTransfer_moves signed ledger ledger' source destination authority amount accepted⟩

theorem transfer_accepted (ledger : Ledger Key) (source destination mint owner : Key) (amount : UInt64)
    (supplied : ledger.Supplied) (sender : OwnedAccount ledger source mint owner)
    (receiver : OfMint ledger destination mint) (signature : signed owner = true)
    (enough : amount.toNat ≤ ledger.balance source) :
    ∃ ledger', processTransfer signed ledger source destination owner amount = .ok ledger' ∧
      Moves ledger ledger' source destination amount.toNat := by
  obtain ⟨payer, atSource, rfl, payerOwner, undelegated⟩ := sender
  have spent : spend signed payer owner amount = .ok payer := by
    have allowed : validateOwner signed payer.owner owner = .ok () :=
      (validateOwner_ok signed _ _ _).mpr ⟨payerOwner, signature⟩
    simp only [spend, undelegated, if_false, allowed]
    rfl
  rw [Ledger.balance_some _ _ _ atSource] at enough
  exact transfer_spent signed ledger source destination owner amount payer payer supplied atSource spent receiver enough

theorem transfer_allowed (ledger : Ledger Key) (source destination delegate : Key) (amount : UInt64)
    (payer : TokenAccount Key) (supplied : ledger.Supplied) (atSource : ledger.accounts source = some payer)
    (delegated : payer.delegate = some delegate) (receiver : OfMint ledger destination payer.mint)
    (signature : signed delegate = true) (allowance : amount.toNat ≤ payer.delegatedAmount.toNat)
    (enough : amount.toNat ≤ payer.amount.toNat) :
    ∃ ledger', processTransfer signed ledger source destination delegate amount = .ok ledger' ∧
      Moves ledger ledger' source destination amount.toNat := by
  let left := UInt64.ofNat (payer.delegatedAmount.toNat - amount.toNat)
  have leftValue : left.toNat + amount.toNat = payer.delegatedAmount.toNat := by
    have small := payer.delegatedAmount.toNat_lt
    simp only [left, UInt64.toNat_ofNat',
      Nat.mod_eq_of_lt (show payer.delegatedAmount.toNat - amount.toNat < 2 ^ 64 by omega)]
    omega
  have spent : ∃ payer', spend signed payer delegate amount = .ok payer' := by
    simp only [spend, delegated, if_true, bind_ok, require_ok, exists_const, okOr_ok, U64.checkedSub_some, pure_ok]
    exact ⟨_, signature, left, leftValue, rfl⟩
  obtain ⟨payer', spent⟩ := spent
  exact transfer_spent signed ledger source destination delegate amount payer payer' supplied atSource spent receiver
    enough

theorem moves_zero (ledger : Ledger Key) (source destination mint : Key) (sender : OfMint ledger source mint)
    (receiver : OfMint ledger destination mint) : Moves ledger ledger source destination 0 where
  sameMint := ⟨mint, sender, receiver⟩
  account := fun _ before present => ⟨before, present, rfl, rfl, .inl rfl⟩
  absent := fun _ missing => missing
  flow := fun _ => by simp

end Transfers

section Associated

variable [AssociatedAddress Key]

-- `CreateIdempotent` of the associated token program leaves an account that is there alone.
def createIdempotent (ledger : Ledger Key) (wallet mint : Key) : Except TokenError (Ledger Key) :=
  match ledger.accounts (AssociatedAddress.associated wallet mint) with
  | some account => do
      require (account.owner = wallet) .ownerMismatch
      require (account.mint = mint) .mintMismatch
      pure ledger
  | none => processInitializeAccount ledger (AssociatedAddress.associated wallet mint) mint wallet

/-- Every account is as before, and the one at `key` is there, empty if it is new. -/
structure Opens (ledger ledger' : Ledger Key) (key mint owner : Key) : Prop where
  kept : ∀ other account, ledger.accounts other = some account → ledger'.accounts other = some account
  fresh : ledger.accounts key = none →
    ledger'.accounts key = some { mint := mint, owner := owner, amount := 0 }
  elsewhere : ∀ other, other ≠ key → ledger'.accounts other = ledger.accounts other
  mints : ledger'.mints = ledger.mints

theorem createIdempotent_opens (ledger : Ledger Key) (wallet mint : Key) (minted : (ledger.mints mint).isSome)
    (owned : ∀ account, ledger.accounts (AssociatedAddress.associated wallet mint) = some account →
      account.owner = wallet ∧ account.mint = mint) :
    ∃ ledger', createIdempotent ledger wallet mint = .ok ledger' ∧
      Opens ledger ledger' (AssociatedAddress.associated wallet mint) mint wallet := by
  unfold createIdempotent
  cases present : ledger.accounts (AssociatedAddress.associated wallet mint) with
  | some account =>
    obtain ⟨owner, sameMint⟩ := owned account present
    refine ⟨ledger, by simp [owner, sameMint, require]; rfl, fun _ _ => id, ?_, fun _ _ => rfl, rfl⟩
    intro absent
    rw [present] at absent
    cases absent
  | none =>
    obtain ⟨source, atMint⟩ := Option.isSome_iff_exists.mp minted
    refine ⟨ledger.setAccount (AssociatedAddress.associated wallet mint)
      (some { mint := mint, owner := wallet, amount := 0 }), ?_, ?_, ?_, ?_, rfl⟩
    next =>
      simp only [processInitializeAccount, present, bind_ok, require_ok, exists_const, mint_ok, pure_ok,
        Option.isNone_none, true_and]
      exact ⟨source, atMint, trivial⟩
    next =>
      intro other account held
      have elsewhere : other ≠ AssociatedAddress.associated wallet mint := by
        intro here
        rw [here, present] at held
        cases held
      rw [Ledger.setAccount_other _ _ _ _ elsewhere, held]
    next => exact fun _ => Ledger.setAccount_same _ _ _
    next => exact fun other elsewhere => Ledger.setAccount_other _ _ _ _ elsewhere

section Opens

variable (ledger ledger' : Ledger Key) (key mint owner : Key) (opens : Opens ledger ledger' key mint owner)

include opens

omit [DecidableEq Key] [AssociatedAddress Key] in
theorem opens_balance (other : Key) : ledger'.balance other = ledger.balance other := by
  cases present : ledger.accounts other with
  | some account =>
    rw [Ledger.balance_some _ _ _ present, Ledger.balance_some _ _ _ (opens.kept other account present)]
  | none =>
    by_cases here : other = key
    next =>
      subst here
      have empty : ledger.balance other = 0 := by simp [Ledger.balance, present]
      rw [Ledger.balance_some _ _ _ (opens.fresh present), empty]
      rfl
    next => exact Ledger.balance_congr _ _ _ (opens.elsewhere other here)

omit [DecidableEq Key] [AssociatedAddress Key] in
theorem opens_owned (other mint' owner' : Key) (before : OwnedAccount ledger other mint' owner') :
    OwnedAccount ledger' other mint' owner' := by
  obtain ⟨account, present, rest⟩ := before
  exact ⟨account, opens.kept other account present, rest⟩

-- A new account adds nothing to a sum.
omit [DecidableEq Key] [AssociatedAddress Key] in
theorem opens_supplied (supplied : ledger.Supplied) : ledger'.Supplied := by
  intro mint' keys ofMint
  have total : keys.sum ledger'.balance = (keys.filter fun other => (ledger.accounts other).isSome).sum ledger.balance := by
    rw [Finset.sum_filter]
    apply Finset.sum_congr rfl
    intro other _
    rw [opens_balance ledger ledger' key mint owner opens other]
    cases present : ledger.accounts other with
    | some account => simp
    | none => simp [Ledger.balance, present]
  rw [total]
  apply supplied mint'
  intro other member
  obtain ⟨inside, there⟩ := Finset.mem_filter.mp member
  obtain ⟨account, present⟩ := Option.isSome_iff_exists.mp there
  obtain ⟨account', present', sameMint⟩ := ofMint other inside
  obtain rfl : account = account' := Option.some.inj ((opens.kept other account present).symm.trans present')
  exact ⟨account, present, sameMint⟩

end Opens

end Associated

end SplToken
