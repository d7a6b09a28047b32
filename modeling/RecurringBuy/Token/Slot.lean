import RecurringBuy.Token.Ledger

set_option autoImplicit false

namespace SplToken

open Checked

variable {Key : Type}

/-- Somebody who signs may take tokens out of the account: its owner, its delegate, or who may close it with the lamports
in it. -/
def TokenAccount.Spendable [AssociatedAddress Key] (signed : Key → Bool) (account : TokenAccount Key) : Prop :=
  signed account.owner = true ∨ (∃ delegate, account.delegate = some delegate ∧ signed delegate = true) ∨
    account.IsNative ∧ ∃ closer, account.closeAuthority = some closer ∧ signed closer = true

/-- Every change that an accepted instruction can make to the account at a fixed key. -/
inductive SlotStep [AssociatedAddress Key] (signed : Key → Bool) (instruction : TokenInstruction Key)
    (key : Key) : Option (TokenAccount Key) → Option (TokenAccount Key) → Prop where
  | unchanged (slot : Option (TokenAccount Key)) : SlotStep signed instruction key slot slot
  | credited (account : TokenAccount Key) (amount : UInt64) (more : account.amount.toNat ≤ amount.toNat) :
      SlotStep signed instruction key (some account) (some { account with amount := amount })
  | debited (account account' : TokenAccount Key) (authorised : account.Spendable signed)
      (owner : account'.owner = account.owner) (mint : account'.mint = account.mint)
      (delegate : account'.delegate = account.delegate ∨ account'.delegate = none)
      (closer : account'.closeAuthority = account.closeAuthority)
      (less : account'.amount.toNat ≤ account.amount.toNat) :
      SlotStep signed instruction key (some account) (some account')
  | delegated (account account' : TokenAccount Key) (authorised : signed account.owner = true)
      (owner : account'.owner = account.owner) (mint : account'.mint = account.mint)
      (amount : account'.amount = account.amount) (closer : account'.closeAuthority = account.closeAuthority) :
      SlotStep signed instruction key (some account) (some account')
  | reowned (account account' : TokenAccount Key) (authority : Key)
      (is : instruction = .setAccountOwner key authority account'.owner)
      (authorised : signed account.owner = true)
      (mint : account'.mint = account.mint) (amount : account'.amount = account.amount) :
      SlotStep signed instruction key (some account) (some account')
  | closeAuthority (account : TokenAccount Key) (closeAuthority : Option Key)
      (authorised : signed (account.closeAuthority.getD account.owner) = true) :
      SlotStep signed instruction key (some account) (some { account with closeAuthority := closeAuthority })
  | closed (account : TokenAccount Key) (authorised : account.amount ≠ 0 → account.Spendable signed) :
      SlotStep signed instruction key (some account) none
  | opened (mint owner : Key)
      (address : signed key = true ∨ key = AssociatedAddress.associated owner mint) :
      SlotStep signed instruction key none (some { mint := mint, owner := owner, amount := 0 })

section Inversion

variable (signed : Key → Bool)

theorem spendable_closer [AssociatedAddress Key] (account : TokenAccount Key) (native : account.IsNative)
    (signature : signed (account.closeAuthority.getD account.owner) = true) : account.Spendable signed := by
  cases named : account.closeAuthority with
  | none =>
    rw [named] at signature
    exact .inl signature
  | some closer =>
    rw [named] at signature
    exact .inr (.inr ⟨native, closer, named, signature⟩)

theorem account_ok (ledger : Ledger Key) (key : Key) (account : TokenAccount Key) :
    ledger.account key = .ok account ↔ ledger.accounts key = some account := by
  simp [Ledger.account]

theorem mint_ok (ledger : Ledger Key) (key : Key) (mint : Mint Key) :
    ledger.mint key = .ok mint ↔ ledger.mints key = some mint := by
  simp [Ledger.mint]

variable [DecidableEq Key]

theorem validateOwner_ok (expected authority : Key) (result : Unit) :
    validateOwner signed expected authority = .ok result ↔ expected = authority ∧ signed authority = true := by
  simp only [validateOwner, bind_ok, require_ok, exists_const, decide_eq_true_eq]

theorem spend_ok (account account' : TokenAccount Key) (authority : Key) (amount : UInt64)
    (spent : spend signed account authority amount = .ok account') :
    (signed account.owner = true ∨ ∃ delegate, account.delegate = some delegate ∧ signed delegate = true) ∧
      account'.owner = account.owner ∧ account'.mint = account.mint ∧
      (account'.delegate = account.delegate ∨ account'.delegate = none) ∧
      account'.closeAuthority = account.closeAuthority := by
  unfold spend at spent
  split at spent
  next delegated =>
    simp only [bind_ok, require_ok, exists_const, okOr_ok, pure_ok] at spent
    obtain ⟨signature, allowance, -, rfl⟩ := spent
    refine ⟨.inr ⟨authority, delegated, signature⟩, rfl, rfl, ?_, rfl⟩
    by_cases exhausted : allowance = 0 <;> simp [exhausted]
  next =>
    simp only [bind_ok, validateOwner_ok, pure_ok] at spent
    obtain ⟨-, ⟨rfl, signature⟩, rfl⟩ := spent
    exact ⟨.inl signature, rfl, rfl, .inl rfl, rfl⟩

theorem processTransfer_ok (ledger ledger' : Ledger Key) (source destination authority : Key) (amount : UInt64)
    (accepted : processTransfer signed ledger source destination authority amount = .ok ledger') :
    ∃ sender receiver sender' left total,
      ledger.accounts source = some sender ∧ ledger.accounts destination = some receiver ∧
      left.toNat + amount.toNat = sender.amount.toNat ∧ sender.mint = receiver.mint ∧
      spend signed sender authority amount = .ok sender' ∧
      ((source = destination ∧ ledger' = ledger) ∨
        (source ≠ destination ∧ total.toNat = receiver.amount.toNat + amount.toNat ∧
          ledger' = (ledger.setAccount source (some { sender' with amount := left })).setAccount
            destination (some { receiver with amount := total }))) := by
  simp only [processTransfer, bind_ok, account_ok, okOr_ok, require_ok, exists_const, decide_eq_true_eq,
    U64.checkedSub_some] at accepted
  obtain ⟨sender, atSource, receiver, atDestination, left, rest, sameMint, sender', spent, accepted⟩ := accepted
  split at accepted
  next self =>
    rw [pure_ok] at accepted
    exact ⟨sender, receiver, sender', left, 0, atSource, atDestination, rest, sameMint, spent,
      .inl ⟨self, accepted.symm⟩⟩
  next distinct =>
    simp only [bind_ok, okOr_ok, U64.checkedAdd_some, pure_ok] at accepted
    obtain ⟨total, sum, rfl⟩ := accepted
    exact ⟨sender, receiver, sender', left, total, atSource, atDestination, rest, sameMint, spent,
      .inr ⟨distinct, sum, rfl⟩⟩

variable [AssociatedAddress Key]

theorem slotStep_set (instruction : TokenInstruction Key) (ledger : Ledger Key) (changed key : Key)
    (before after : Option (TokenAccount Key)) (present : ledger.accounts changed = before)
    (step : SlotStep signed instruction changed before after) :
    SlotStep signed instruction key (ledger.accounts key) ((ledger.setAccount changed after).accounts key) := by
  by_cases same : key = changed
  · subst same
    rw [Ledger.setAccount_same, present]
    exact step
  · rw [Ledger.setAccount_other _ _ _ _ same]
    exact .unchanged _

theorem processTransfer_slot (instruction : TokenInstruction Key) (ledger ledger' : Ledger Key)
    (source destination authority key : Key) (amount : UInt64)
    (accepted : processTransfer signed ledger source destination authority amount = .ok ledger') :
    SlotStep signed instruction key (ledger.accounts key) (ledger'.accounts key) := by
  obtain ⟨sender, receiver, sender', left, total, atSource, atDestination, rest, -, spent, outcome⟩ :=
    processTransfer_ok signed _ _ _ _ _ _ accepted
  obtain ⟨authorised, owner, mint, delegate, closer⟩ := spend_ok signed _ _ _ _ spent
  rcases outcome with ⟨-, rfl⟩ | ⟨distinct, sum, rfl⟩
  · exact .unchanged _
  · have debit : SlotStep signed instruction source (some sender) (some { sender' with amount := left }) :=
      .debited _ _ (authorised.imp_right .inl) owner mint delegate closer (by simp only; omega)
    have credit : SlotStep signed instruction destination (some receiver)
        (some { receiver with amount := total }) := .credited _ _ (by omega)
    by_cases last : key = destination
    · subst last
      rw [Ledger.setAccount_same, atDestination]
      exact credit
    · rw [Ledger.setAccount_other _ _ _ _ last]
      exact slotStep_set signed instruction ledger source key _ _ atSource debit

theorem processMintTo_slot (instruction : TokenInstruction Key) (ledger ledger' : Ledger Key)
    (mint account authority key : Key) (amount : UInt64)
    (accepted : processMintTo signed ledger mint account authority amount = .ok ledger') :
    SlotStep signed instruction key (ledger.accounts key) (ledger'.accounts key) := by
  simp only [processMintTo, bind_ok, account_ok, mint_ok, okOr_ok, bind_ok, require_ok, exists_const,
    U64.checkedAdd_some, pure_ok] at accepted
  obtain ⟨receiver, present, -, -, source, -, _, -, _, -, _, -, total, sum, rfl⟩ := accepted
  exact slotStep_set signed instruction (ledger.setMint mint _) account key _ _ present
    (.credited _ _ (by omega))

theorem processBurn_slot (instruction : TokenInstruction Key) (ledger ledger' : Ledger Key)
    (account mint authority key : Key) (amount : UInt64)
    (accepted : processBurn signed ledger account mint authority amount = .ok ledger') :
    SlotStep signed instruction key (ledger.accounts key) (ledger'.accounts key) := by
  simp only [processBurn, bind_ok, account_ok, mint_ok, okOr_ok, bind_ok, require_ok, exists_const,
    U64.checkedSub_some, pure_ok] at accepted
  obtain ⟨sender, present, source, -, -, left, rest, -, sender', spent, _, -, rfl⟩ := accepted
  obtain ⟨authorised, owner, sameMint, delegate, closer⟩ := spend_ok signed _ _ _ _ spent
  exact slotStep_set signed instruction (ledger.setMint mint _) account key _ _ present
    (.debited _ _ (authorised.imp_right .inl) owner sameMint delegate closer (by simp only; omega))

theorem processInitializeAccount_slot (instruction : TokenInstruction Key) (ledger ledger' : Ledger Key)
    (account mint owner key : Key)
    (address : signed account = true ∨ account = AssociatedAddress.associated owner mint)
    (accepted : processInitializeAccount ledger account mint owner = .ok ledger') :
    SlotStep signed instruction key (ledger.accounts key) (ledger'.accounts key) := by
  simp only [processInitializeAccount, bind_ok, require_ok, exists_const, pure_ok, Option.isNone_iff_eq_none] at accepted
  obtain ⟨absent, -, -, rfl⟩ := accepted
  exact slotStep_set signed instruction ledger account key _ _ absent (.opened _ _ address)

theorem process_slot (ledger ledger' : Ledger Key) (instruction : TokenInstruction Key) (key : Key)
    (accepted : process signed ledger instruction = .ok ledger') :
    SlotStep signed instruction key (ledger.accounts key) (ledger'.accounts key) := by
  cases instruction with
  | transfer source destination authority amount =>
    exact processTransfer_slot signed _ _ _ _ _ _ _ _ accepted
  | approve source delegate owner amount =>
    simp only [process, bind_ok, account_ok, validateOwner_ok, pure_ok] at accepted
    obtain ⟨target, present, -, ⟨rfl, signature⟩, rfl⟩ := accepted
    exact slotStep_set signed _ ledger source key _ _ present (.delegated _ _ signature rfl rfl rfl rfl)
  | revoke source owner =>
    simp only [process, bind_ok, account_ok, validateOwner_ok, pure_ok] at accepted
    obtain ⟨target, present, -, ⟨rfl, signature⟩, rfl⟩ := accepted
    exact slotStep_set signed _ ledger source key _ _ present (.delegated _ _ signature rfl rfl rfl rfl)
  | setAccountOwner account authority owner =>
    simp only [process, processSetAccountOwner, bind_ok, account_ok, validateOwner_ok, pure_ok] at accepted
    obtain ⟨target, present, -, ⟨rfl, signature⟩, rfl⟩ := accepted
    exact slotStep_set signed _ ledger account key _ _ present (.reowned _ _ _ rfl signature rfl rfl)
  | setCloseAuthority account authority closeAuthority =>
    simp only [process, processSetCloseAuthority, bind_ok, account_ok, validateOwner_ok, pure_ok] at accepted
    obtain ⟨target, present, -, ⟨rfl, signature⟩, rfl⟩ := accepted
    exact slotStep_set signed _ ledger account key _ _ present (.closeAuthority _ _ signature)
  | mintTo mint account authority amount => exact processMintTo_slot signed _ _ _ _ _ _ _ _ accepted
  | burn account mint authority amount => exact processBurn_slot signed _ _ _ _ _ _ _ _ accepted
  | closeAccount account authority =>
    simp only [process, processCloseAccount, bind_ok, account_ok, require_ok, exists_const, decide_eq_true_eq,
      validateOwner_ok, pure_ok] at accepted
    obtain ⟨target, present, empty, ⟨rfl, signature⟩, rfl⟩ := accepted
    refine slotStep_set signed _ ledger account key _ _ present (.closed _ fun holds => ?_)
    exact spendable_closer signed target (empty.resolve_right holds) signature
  | syncNative account deposit =>
    simp only [process, processSyncNative, bind_ok, account_ok, require_ok, exists_const, okOr_ok, U64.checkedAdd_some,
      pure_ok] at accepted
    obtain ⟨target, present, -, total, sum, rfl⟩ := accepted
    exact slotStep_set signed _ ledger account key _ _ present (.credited _ _ (by omega))
  | initializeMint mint decimals authority =>
    simp only [process, bind_ok, require_ok, exists_const, pure_ok] at accepted
    obtain ⟨-, rfl⟩ := accepted
    exact .unchanged _
  | initializeAccount account mint owner =>
    simp only [process, bind_ok, require_ok, exists_const] at accepted
    exact processInitializeAccount_slot signed _ _ _ _ _ _ _ (.inl accepted.1) accepted.2
  | createAssociated wallet mint =>
    exact processInitializeAccount_slot signed _ _ _ _ _ _ _ (.inr rfl) accepted

theorem run_slot (holds : Option (TokenAccount Key) → Prop) (key : Key)
    (instructions : List (TokenInstruction Key)) (ledger ledger' : Ledger Key)
    (step : ∀ instruction ∈ instructions, ∀ before after,
      SlotStep signed instruction key before after → holds before → holds after)
    (accepted : run signed ledger instructions = .ok ledger') (start : holds (ledger.accounts key)) :
    holds (ledger'.accounts key) := by
  induction instructions generalizing ledger with
  | nil =>
    cases accepted
    exact start
  | cons instruction rest ih =>
    simp only [run, bind_ok] at accepted
    obtain ⟨middle, first, accepted⟩ := accepted
    have next := step instruction List.mem_cons_self _ _ (process_slot signed _ _ _ key first) start
    exact ih middle (fun later member => step later (List.mem_cons_of_mem _ member)) accepted next

end Inversion

section Mints

variable (signed : Key → Bool) (ledger ledger' : Ledger Key)

def Ledger.KeepsMints : Prop :=
  ∀ key mint, ledger.mints key = some mint → ∃ mint', ledger'.mints key = some mint' ∧ mint'.decimals = mint.decimals

theorem keepsMints_same (same : ledger'.mints = ledger.mints) : ledger.KeepsMints ledger' := by
  intro key mint present
  exact ⟨mint, by rw [same, present], rfl⟩

theorem keepsMints_trans (middle : Ledger Key) (first : ledger.KeepsMints middle)
    (second : middle.KeepsMints ledger') : ledger.KeepsMints ledger' := by
  intro key mint present
  obtain ⟨mint', present', same⟩ := first key mint present
  obtain ⟨mint'', present'', same'⟩ := second key mint' present'
  exact ⟨mint'', present'', same'.trans same⟩

variable [DecidableEq Key]

-- Minting and burning change the supply alone.
theorem keepsMints_supply (key : Key) (mint : Mint Key) (supply : UInt64) (present : ledger.mints key = some mint) :
    ledger.KeepsMints (ledger.setMint key { mint with supply := supply }) := by
  intro other found atOther
  by_cases same : other = key
  next =>
    subst same
    obtain rfl := Option.some.inj (present.symm.trans atOther)
    exact ⟨{ mint with supply := supply }, by simp [Ledger.setMint], rfl⟩
  next => exact ⟨found, by simp [Ledger.setMint, same, atOther], rfl⟩

theorem keepsMints_new (key : Key) (mint : Mint Key) (absent : ledger.mints key = none) :
    ledger.KeepsMints (ledger.setMint key mint) := by
  intro other found atOther
  have different : other ≠ key := by
    intro same
    rw [same, absent] at atOther
    cases atOther
  exact ⟨found, by simp [Ledger.setMint, different, atOther], rfl⟩

variable [AssociatedAddress Key]

theorem process_keepsMints (instruction : TokenInstruction Key)
    (accepted : process signed ledger instruction = .ok ledger') : ledger.KeepsMints ledger' := by
  cases instruction with
  | transfer source destination authority amount =>
    obtain ⟨_, _, _, _, _, -, -, -, -, -, outcome⟩ := processTransfer_ok signed _ _ _ _ _ _ accepted
    rcases outcome with ⟨-, rfl⟩ | ⟨-, -, rfl⟩
    next => exact keepsMints_same _ _ rfl
    next => exact keepsMints_same _ _ rfl
  | approve source delegate owner amount =>
    simp only [process, bind_ok, pure_ok] at accepted
    obtain ⟨_, -, -, -, rfl⟩ := accepted
    exact keepsMints_same _ _ rfl
  | revoke source owner =>
    simp only [process, bind_ok, pure_ok] at accepted
    obtain ⟨_, -, -, -, rfl⟩ := accepted
    exact keepsMints_same _ _ rfl
  | setAccountOwner account authority owner =>
    simp only [process, processSetAccountOwner, bind_ok, pure_ok] at accepted
    obtain ⟨_, -, -, -, rfl⟩ := accepted
    exact keepsMints_same _ _ rfl
  | setCloseAuthority account authority closeAuthority =>
    simp only [process, processSetCloseAuthority, bind_ok, pure_ok] at accepted
    obtain ⟨_, -, -, -, rfl⟩ := accepted
    exact keepsMints_same _ _ rfl
  | mintTo mint account authority amount =>
    simp only [process, processMintTo, bind_ok, mint_ok, pure_ok] at accepted
    obtain ⟨_, -, -, -, -, -, source, present, -, -, -, -, _, -, _, -, rfl⟩ := accepted
    exact keepsMints_supply ledger mint source _ present
  | burn account mint authority amount =>
    simp only [process, processBurn, bind_ok, mint_ok, pure_ok] at accepted
    obtain ⟨_, -, source, present, -, -, _, -, -, -, _, -, _, -, rfl⟩ := accepted
    exact keepsMints_supply ledger mint source _ present
  | closeAccount account authority =>
    simp only [process, processCloseAccount, bind_ok, pure_ok] at accepted
    obtain ⟨_, -, -, -, -, -, rfl⟩ := accepted
    exact keepsMints_same _ _ rfl
  | syncNative account deposit =>
    simp only [process, processSyncNative, bind_ok, pure_ok] at accepted
    obtain ⟨_, -, -, -, _, -, rfl⟩ := accepted
    exact keepsMints_same _ _ rfl
  | initializeMint mint decimals authority =>
    simp only [process, bind_ok, require_ok, exists_const, pure_ok, Option.isNone_iff_eq_none] at accepted
    obtain ⟨absent, rfl⟩ := accepted
    exact keepsMints_new ledger mint _ absent
  | initializeAccount account mint owner =>
    simp only [process, processInitializeAccount, bind_ok, pure_ok] at accepted
    obtain ⟨-, -, -, -, -, -, rfl⟩ := accepted
    exact keepsMints_same _ _ rfl
  | createAssociated wallet mint =>
    simp only [process, processInitializeAccount, bind_ok, pure_ok] at accepted
    obtain ⟨-, -, -, -, rfl⟩ := accepted
    exact keepsMints_same _ _ rfl

theorem run_keepsMints (instructions : List (TokenInstruction Key))
    (accepted : run signed ledger instructions = .ok ledger') : ledger.KeepsMints ledger' := by
  induction instructions generalizing ledger with
  | nil =>
    cases accepted
    exact keepsMints_same _ _ rfl
  | cons instruction rest ih =>
    simp only [run, bind_ok] at accepted
    obtain ⟨middle, first, later⟩ := accepted
    exact keepsMints_trans _ _ middle (process_keepsMints signed _ _ _ first) (ih middle later)

end Mints

section Guarded

variable [AssociatedAddress Key] (signed granted : Key → Bool)

-- Nobody who is granted a signature may spend from the account, and it holds at least `floor`.
def Guarded (floor : Nat) (slot : Option (TokenAccount Key)) : Prop :=
  floor = 0 ∨ ∃ account, slot = some account ∧ ¬ account.Spendable granted ∧ floor ≤ account.amount.toNat

theorem guarded_balance (floor : Nat) (ledger : Ledger Key) (key : Key)
    (guarded : Guarded granted floor (ledger.accounts key)) : floor ≤ ledger.balance key := by
  rcases guarded with zero | ⟨account, present, -, enough⟩
  · omega
  · rwa [Ledger.balance_some _ _ _ present]

theorem guarded_start (ledger : Ledger Key) (key : Key)
    (unspendable : ∀ account, ledger.accounts key = some account → ¬ account.Spendable granted) :
    Guarded granted (ledger.balance key) (ledger.accounts key) := by
  cases present : ledger.accounts key with
  | none => exact .inl (by simp [Ledger.balance, present])
  | some account =>
    exact .inr ⟨account, rfl, unspendable account present, Nat.le_of_eq (Ledger.balance_some _ _ _ present)⟩

variable (within : ∀ key, signed key = true → granted key = true)

include within

theorem spendable_mono (account : TokenAccount Key) (spendable : account.Spendable signed) : account.Spendable granted := by
  rcases spendable with owner | ⟨delegate, approved, signature⟩ | ⟨native, closer, named, signature⟩
  next => exact .inl (within _ owner)
  next => exact .inr (.inl ⟨delegate, approved, within _ signature⟩)
  next => exact .inr (.inr ⟨native, closer, named, within _ signature⟩)

theorem guarded_step (instruction : TokenInstruction Key) (key : Key) (floor : Nat)
    (before after : Option (TokenAccount Key)) (step : SlotStep signed instruction key before after)
    (guarded : Guarded granted floor before) : Guarded granted floor after := by
  rcases guarded with zero | ⟨held, present, unspendable, enough⟩
  · exact .inl zero
  have unsigned : signed held.owner ≠ true := fun signature => unspendable (.inl (within _ signature))
  cases step with
  | unchanged => exact .inr ⟨held, present, unspendable, enough⟩
  | credited account amount more =>
    cases present
    exact .inr ⟨_, rfl, unspendable, Nat.le_trans enough more⟩
  | debited account account' authorised =>
    cases present
    exact absurd (spendable_mono signed granted within held authorised) unspendable
  | delegated account account' authorised =>
    cases present
    exact absurd authorised unsigned
  | reowned account account' authority is authorised =>
    cases present
    exact absurd authorised unsigned
  | closeAuthority account closer authorised =>
    cases present
    refine .inr ⟨_, rfl, ?_, enough⟩
    -- Whoever names another close authority of a native account could have closed it.
    rintro (owner | approved | ⟨native, -⟩)
    next => exact unspendable (.inl owner)
    next => exact unspendable (.inr (.inl approved))
    next => exact unspendable (spendable_mono signed granted within held (spendable_closer signed held native authorised))
  | closed account authorised =>
    cases present
    by_cases empty : held.amount = 0
    next => exact .inl (by simpa [empty] using enough)
    next => exact absurd (spendable_mono signed granted within held (authorised empty)) unspendable
  | opened => cases present

theorem run_guarded [DecidableEq Key] (key : Key) (instructions : List (TokenInstruction Key))
    (ledger ledger' : Ledger Key) (accepted : run signed ledger instructions = .ok ledger') (floor : Nat)
    (guarded : Guarded granted floor (ledger.accounts key)) : Guarded granted floor (ledger'.accounts key) := by
  apply run_slot signed (Guarded granted floor) key instructions ledger ledger' _ accepted guarded
  intro instruction _ before after step
  exact guarded_step signed granted within instruction key floor before after step

end Guarded

section Ownership

variable [AssociatedAddress Key] (signed : Key → Bool)

-- The instruction hands the account at `key` to somebody other than `owner`.
def TokenInstruction.Disowns (key owner : Key) (instruction : TokenInstruction Key) : Prop :=
  ∃ authority owner', instruction = .setAccountOwner key authority owner' ∧ owner' ≠ owner

def OwnedBy (owner : Key) (slot : Option (TokenAccount Key)) : Prop :=
  ∀ account, slot = some account → account.owner = owner

theorem ownedBy_step (instruction : TokenInstruction Key) (wallet mint : Key)
    (unsigned : signed (AssociatedAddress.associated wallet mint) = false)
    (kept : signed wallet = true → ¬ instruction.Disowns (AssociatedAddress.associated wallet mint) wallet)
    (before after : Option (TokenAccount Key))
    (step : SlotStep signed instruction (AssociatedAddress.associated wallet mint) before after)
    (owned : OwnedBy wallet before) : OwnedBy wallet after := by
  intro result present
  cases step with
  | unchanged => exact owned result present
  | credited account amount =>
    cases present
    exact owned account rfl
  | debited account account' authorised owner =>
    cases present
    exact owner.trans (owned account rfl)
  | delegated account account' authorised owner =>
    cases present
    exact owner.trans (owned account rfl)
  | reowned account account' authority is authorised =>
    cases present
    by_contra other
    rw [owned account rfl] at authorised
    exact kept authorised ⟨authority, _, is, other⟩
  | closeAuthority account closer =>
    cases present
    exact owned account rfl
  | closed => cases present
  | opened mint' owner address =>
    cases present
    rcases address with signature | same
    · simp [unsigned] at signature
    · exact (AssociatedAddress.associated_inj _ _ _ _ same).1.symm

end Ownership

end SplToken
