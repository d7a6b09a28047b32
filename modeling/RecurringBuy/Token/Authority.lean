import RecurringBuy.Token.Slot

set_option autoImplicit false

namespace SplToken

open Checked

structure Authority (Key : Type) where
  mint : Key
  owner : Key
  delegate : Option Key
  allowance : Nat
  closeAuthority : Option Key
deriving DecidableEq

variable {Key : Type}

def Authority.fresh (mint owner : Key) : Authority Key :=
  { mint := mint, owner := owner, delegate := none, allowance := 0, closeAuthority := none }

def TokenAccount.authority (account : TokenAccount Key) : Authority Key :=
  { mint := account.mint
    owner := account.owner
    delegate := account.delegate
    allowance := account.delegatedAmount.toNat
    closeAuthority := account.closeAuthority }

def Ledger.authority (ledger : Ledger Key) (key : Key) : Option (Authority Key) :=
  (ledger.accounts key).map TokenAccount.authority

-- On an account of wrapped SOL, who may close it may take what it holds.
structure Authority.Confined [AssociatedAddress Key] (owner mint : Key) (held : Authority Key) : Prop where
  minted : held.mint = mint
  owned : held.owner = owner
  undelegated : held.delegate = none
  closable : mint = AssociatedAddress.nativeMint → ∀ closer, held.closeAuthority = some closer → closer = owner

theorem fresh_confined [AssociatedAddress Key] (owner mint : Key) : (Authority.fresh mint owner).Confined owner mint :=
  ⟨rfl, rfl, rfl, fun _ _ named => nomatch named⟩

/-- Only `owner` may take tokens out of the account. A closed account gives nobody authority. -/
def Entrusted [AssociatedAddress Key] (owner mint : Key) (slot : Option (Authority Key)) : Prop :=
  ∀ held, slot = some held → held.Confined owner mint

variable [DecidableEq Key]

def Authority.spend (held : Authority Key) (spender : Key) (amount : Nat) : Authority Key :=
  if held.delegate = some spender then
    { held with
      delegate := if held.allowance - amount = 0 then none else held.delegate
      allowance := held.allowance - amount }
  else held

namespace TokenInstruction

variable [AssociatedAddress Key]

/-- What an accepted instruction makes of the authority over the account at `key`. -/
def regrant (key : Key) (slot : Option (Authority Key)) : TokenInstruction Key → Option (Authority Key)
  | transfer source destination spender amount =>
      if source = key ∧ destination ≠ key then slot.map fun held => held.spend spender amount.toNat else slot
  | approve source delegate _ amount =>
      if source = key then slot.map fun held => { held with delegate := some delegate, allowance := amount.toNat } else slot
  | revoke source _ =>
      if source = key then slot.map fun held => { held with delegate := none, allowance := 0 } else slot
  | setAccountOwner account _ owner =>
      if account = key then slot.map fun held => { held with
        owner := owner
        delegate := none
        allowance := 0
        closeAuthority := if held.mint = AssociatedAddress.nativeMint then none else held.closeAuthority }
      else slot
  | setCloseAuthority account _ closeAuthority =>
      if account = key then slot.map fun held => { held with closeAuthority := closeAuthority } else slot
  | burn account _ spender amount =>
      if account = key then slot.map fun held => held.spend spender amount.toNat else slot
  | closeAccount account _ => if account = key then none else slot
  | initializeAccount account mint owner => if account = key then some (.fresh mint owner) else slot
  | createAssociated wallet mint =>
      if AssociatedAddress.associated wallet mint = key then some (.fresh mint wallet) else slot
  | mintTo _ _ _ _ => slot
  | syncNative _ _ => slot
  | initializeMint _ _ _ => slot

end TokenInstruction

section Effect

theorem authority_setAccount (ledger : Ledger Key) (changed key : Key) (account : TokenAccount Key) :
    (ledger.setAccount changed (some account)).authority key =
      if changed = key then some account.authority else ledger.authority key := by
  rw [Ledger.authority, Ledger.setAccount_accounts]
  by_cases here : key = changed
  next => simp [here]
  next =>
    simp only [here, Ne.symm here, if_false]
    rfl

omit [DecidableEq Key] in
theorem authority_some (ledger : Ledger Key) (key : Key) (account : TokenAccount Key)
    (present : ledger.accounts key = some account) : ledger.authority key = some account.authority := by
  simp [Ledger.authority, present]

omit [DecidableEq Key] in
theorem authority_minted (ledger : Ledger Key) (key mint : Key)
    (minted : ∀ account, ledger.accounts key = some account → account.mint = mint) (held : Authority Key)
    (present : ledger.authority key = some held) : held.mint = mint := by
  obtain ⟨account, found, rfl⟩ := Option.map_eq_some_iff.mp present
  exact minted account found

-- A change of the amount alone.
theorem authority_kept (ledger : Ledger Key) (changed key : Key) (account account' : TokenAccount Key)
    (present : ledger.accounts changed = some account) (same : account'.authority = account.authority) :
    (ledger.setAccount changed (some account')).authority key = ledger.authority key := by
  rw [authority_setAccount]
  split
  next here => rw [same, ← here, authority_some _ _ _ present]
  next => rfl

theorem authority_changed (ledger : Ledger Key) (changed key : Key) (before after : TokenAccount Key)
    (effect : Authority Key → Authority Key) (present : ledger.accounts changed = some before)
    (does : after.authority = effect before.authority) :
    (ledger.setAccount changed (some after)).authority key =
      if changed = key then (ledger.authority key).map effect else ledger.authority key := by
  rw [authority_setAccount, does]
  split
  next here => rw [← here, authority_some _ _ _ present, Option.map_some]
  next => rfl

variable (signed : Key → Bool)

theorem spend_authority (account account' : TokenAccount Key) (spender : Key) (amount : UInt64)
    (spent : spend signed account spender amount = .ok account') :
    account'.authority = account.authority.spend spender amount.toNat := by
  unfold spend at spent
  split at spent
  next delegated =>
    simp only [bind_ok, require_ok, exists_const, okOr_ok, U64.checkedSub_some, pure_ok] at spent
    obtain ⟨-, allowance, rest, rfl⟩ := spent
    have left : account.delegatedAmount.toNat - amount.toNat = allowance.toNat := by omega
    have none : allowance = 0 ↔ allowance.toNat = 0 := UInt64.toNat_inj.symm
    simp [TokenAccount.authority, Authority.spend, delegated, left, none]
  next stranger =>
    simp only [bind_ok, pure_ok] at spent
    obtain ⟨-, -, rfl⟩ := spent
    simp [TokenAccount.authority, Authority.spend, stranger]

theorem processTransfer_authority (ledger ledger' : Ledger Key) (source destination spender key : Key)
    (amount : UInt64) (accepted : processTransfer signed ledger source destination spender amount = .ok ledger') :
    ledger'.authority key = if source = key ∧ destination ≠ key then
      (ledger.authority key).map fun held => held.spend spender amount.toNat else ledger.authority key := by
  obtain ⟨sender, receiver, sender', left, total, atSource, atDestination, -, -, spent, outcome⟩ :=
    processTransfer_ok signed _ _ _ _ _ _ accepted
  have spending := spend_authority signed _ _ _ _ spent
  rcases outcome with ⟨rfl, rfl⟩ | ⟨distinct, -, rfl⟩
  next =>
    split
    next moved => exact absurd moved.1 moved.2
    next => rfl
  next =>
    have paid : (ledger.setAccount source (some { sender' with amount := left })).accounts destination =
        some receiver := by
      rw [Ledger.setAccount_other _ _ _ _ distinct.symm, atDestination]
    rw [authority_kept _ destination key receiver { receiver with amount := total } paid rfl, authority_setAccount]
    by_cases here : source = key
    next =>
      subst here
      simp only [distinct.symm, ne_eq, not_false_eq_true, and_self, if_true, authority_some _ _ _ atSource,
        Option.map_some, Option.some.injEq]
      exact spending
    next => simp [here]

theorem processInitializeAccount_authority (ledger ledger' : Ledger Key) (account mint owner key : Key)
    (accepted : processInitializeAccount ledger account mint owner = .ok ledger') :
    ledger.accounts account = none ∧
      ledger'.authority key = if account = key then some (.fresh mint owner) else ledger.authority key := by
  simp only [processInitializeAccount, bind_ok, require_ok, exists_const, Option.isNone_iff_eq_none, pure_ok] at accepted
  obtain ⟨absent, -, -, rfl⟩ := accepted
  exact ⟨absent, authority_setAccount _ _ _ _⟩

variable [AssociatedAddress Key]

theorem process_authority (ledger ledger' : Ledger Key) (instruction : TokenInstruction Key) (key : Key)
    (accepted : process signed ledger instruction = .ok ledger') :
    ledger'.authority key = instruction.regrant key (ledger.authority key) := by
  cases instruction with
  | transfer source destination spender amount => exact processTransfer_authority signed _ _ _ _ _ _ _ accepted
  | approve source delegate owner amount =>
    simp only [process, bind_ok, account_ok, pure_ok] at accepted
    obtain ⟨target, present, -, -, rfl⟩ := accepted
    exact authority_changed ledger source _ _ _ _ present rfl
  | revoke source owner =>
    simp only [process, bind_ok, account_ok, pure_ok] at accepted
    obtain ⟨target, present, -, -, rfl⟩ := accepted
    exact authority_changed ledger source _ _ _ _ present rfl
  | setAccountOwner account authority owner =>
    simp only [process, processSetAccountOwner, bind_ok, account_ok, pure_ok] at accepted
    obtain ⟨target, present, -, -, rfl⟩ := accepted
    exact authority_changed ledger account _ _ _ _ present rfl
  | setCloseAuthority account authority closeAuthority =>
    simp only [process, processSetCloseAuthority, bind_ok, account_ok, pure_ok] at accepted
    obtain ⟨target, present, -, -, rfl⟩ := accepted
    exact authority_changed ledger account _ _ _ _ present rfl
  | mintTo mint account authority amount =>
    simp only [process, processMintTo, bind_ok, account_ok, pure_ok] at accepted
    obtain ⟨receiver, present, -, -, -, -, source, -, -, -, -, -, supply, -, total, -, rfl⟩ := accepted
    exact authority_kept (ledger.setMint mint _) account key receiver _ present rfl
  | burn account mint spender amount =>
    simp only [process, processBurn, bind_ok, account_ok, pure_ok] at accepted
    obtain ⟨sender, present, source, -, -, -, left, -, -, -, sender', spent, supply, -, rfl⟩ := accepted
    have spending := spend_authority signed _ _ _ _ spent
    exact authority_changed (ledger.setMint mint _) account key _ _ _ present spending
  | closeAccount account authority =>
    simp only [process, processCloseAccount, bind_ok, pure_ok] at accepted
    obtain ⟨target, -, -, -, -, -, rfl⟩ := accepted
    rw [Ledger.authority, Ledger.setAccount_accounts]
    by_cases here : key = account
    next => simp [TokenInstruction.regrant, here]
    next => simp [TokenInstruction.regrant, here, Ne.symm here, Ledger.authority]
  | syncNative account deposit =>
    simp only [process, processSyncNative, bind_ok, account_ok, pure_ok] at accepted
    obtain ⟨target, present, -, -, total, -, rfl⟩ := accepted
    exact authority_kept ledger account key target _ present rfl
  | initializeMint mint decimals authority =>
    simp only [process, bind_ok, pure_ok] at accepted
    obtain ⟨-, -, rfl⟩ := accepted
    rfl
  | initializeAccount account mint owner =>
    simp only [process, bind_ok] at accepted
    obtain ⟨-, -, opened⟩ := accepted
    exact (processInitializeAccount_authority _ _ _ _ _ key opened).2
  | createAssociated wallet mint => exact (processInitializeAccount_authority _ _ _ _ _ key accepted).2

end Effect

section Presence

variable [AssociatedAddress Key] (signed : Key → Bool)

theorem process_present (ledger ledger' : Ledger Key) (instruction : TokenInstruction Key) (key : Key)
    (accepted : process signed ledger instruction = .ok ledger')
    (kept : ∀ authority, instruction ≠ .closeAccount key authority)
    (present : (ledger.authority key).isSome) : (ledger'.authority key).isSome := by
  rw [process_authority signed _ _ _ key accepted]
  cases instruction with
  | closeAccount account authority =>
    have elsewhere : account ≠ key := by
      rintro rfl
      exact kept authority rfl
    simpa [TokenInstruction.regrant, elsewhere] using present
  | mintTo | syncNative | initializeMint => exact present
  | _ =>
    simp only [TokenInstruction.regrant]
    split <;> simp [present]

theorem run_present (ledger ledger' : Ledger Key) (instructions : List (TokenInstruction Key)) (key : Key)
    (accepted : run signed ledger instructions = .ok ledger')
    (kept : ∀ authority, .closeAccount key authority ∉ instructions) (present : (ledger.authority key).isSome) :
    (ledger'.authority key).isSome := by
  induction instructions generalizing ledger with
  | nil =>
    cases accepted
    exact present
  | cons instruction rest ih =>
    simp only [run, bind_ok] at accepted
    obtain ⟨middle, first, later⟩ := accepted
    have here : (middle.authority key).isSome := by
      apply process_present signed ledger middle instruction key first _ present
      rintro authority rfl
      exact kept authority List.mem_cons_self
    exact ih middle later (fun authority member => kept authority (List.mem_cons_of_mem _ member)) here

end Presence

section Entrusted

omit [DecidableEq Key] in
theorem entrusted_slot [AssociatedAddress Key] (owner mint : Key) (slot : Option (TokenAccount Key)) :
    Entrusted owner mint (slot.map TokenAccount.authority) ↔
      ∀ account, slot = some account → account.authority.Confined owner mint := by
  constructor
  next => exact fun entrusted account present => entrusted account.authority (by rw [present, Option.map_some])
  next =>
    intro confined held present
    obtain ⟨account, found, rfl⟩ := Option.map_eq_some_iff.mp present
    exact confined account found

-- An owner who may not spend as a delegate spends without a trace.
theorem entrusted_spend [AssociatedAddress Key] (owner mint : Key) (slot : Option (Authority Key)) (spender : Key)
    (amount : Nat) (entrusted : Entrusted owner mint slot) :
    (slot.map fun held => held.spend spender amount) = slot := by
  cases slot with
  | none => rfl
  | some held => simp [Authority.spend, (entrusted held rfl).undelegated]

variable [AssociatedAddress Key] (signed : Key → Bool) (wallet mint : Key) (unsigned : signed wallet = false)

include unsigned

omit [DecidableEq Key] in
theorem confined_unspendable (account : TokenAccount Key) (confined : account.authority.Confined wallet mint) :
    ¬ account.Spendable signed := by
  have owned : account.owner = wallet := confined.owned
  have undelegated : account.delegate = none := confined.undelegated
  rintro (signature | ⟨delegate, approved, -⟩ | ⟨native, closer, named, signature⟩)
  next => simp [owned, unsigned] at signature
  next => simp [undelegated] at approved
  next =>
    have minted : account.mint = mint := confined.minted
    rw [confined.closable (minted.symm.trans native) closer named, unsigned] at signature
    cases signature

variable (unassociated : signed (AssociatedAddress.associated wallet mint) = false)

include unassociated

omit [DecidableEq Key] in
theorem entrusted_step (instruction : TokenInstruction Key) (before after : Option (TokenAccount Key))
    (step : SlotStep signed instruction (AssociatedAddress.associated wallet mint) before after)
    (entrusted : Entrusted wallet mint (before.map TokenAccount.authority)) :
    Entrusted wallet mint (after.map TokenAccount.authority) := by
  rw [entrusted_slot] at entrusted ⊢
  intro result present
  cases step with
  | unchanged => exact entrusted result present
  | credited account amount more =>
    cases present
    exact entrusted account rfl
  | debited account account' authorised =>
    cases present
    exact absurd authorised (confined_unspendable signed wallet mint unsigned account (entrusted account rfl))
  | delegated account account' authorised | reowned account account' authority is authorised =>
    cases present
    exact absurd (.inl authorised) (confined_unspendable signed wallet mint unsigned account (entrusted account rfl))
  | closeAuthority account closeAuthority authorised =>
    cases present
    have confined := entrusted account rfl
    refine ⟨confined.minted, confined.owned, confined.undelegated, fun native => ?_⟩
    have spendable := spendable_closer signed account (Eq.trans confined.minted native) authorised
    exact absurd spendable (confined_unspendable signed wallet mint unsigned account confined)
  | closed => cases present
  | opened mint' owner address =>
    cases present
    rcases address with signature | same
    · simp [unassociated] at signature
    · obtain ⟨rfl, rfl⟩ := AssociatedAddress.associated_inj _ _ _ _ same
      exact fresh_confined wallet mint

theorem run_entrusted (ledger ledger' : Ledger Key) (instructions : List (TokenInstruction Key))
    (accepted : run signed ledger instructions = .ok ledger')
    (entrusted : Entrusted wallet mint (ledger.authority (AssociatedAddress.associated wallet mint))) :
    Entrusted wallet mint (ledger'.authority (AssociatedAddress.associated wallet mint)) := by
  apply run_slot signed (fun slot => Entrusted wallet mint (slot.map TokenAccount.authority)) _ instructions ledger ledger'
    _ accepted entrusted
  intro instruction _ before after step
  exact entrusted_step signed wallet mint unsigned unassociated instruction before after step

-- Nobody who signs may spend from the account.
omit unassociated in
theorem run_entrusted_balance (ledger ledger' : Ledger Key) (instructions : List (TokenInstruction Key))
    (accepted : run signed ledger instructions = .ok ledger')
    (entrusted : Entrusted wallet mint (ledger.authority (AssociatedAddress.associated wallet mint))) :
    ledger.balance (AssociatedAddress.associated wallet mint) ≤
      ledger'.balance (AssociatedAddress.associated wallet mint) := by
  apply guarded_balance signed
  apply run_guarded signed signed (fun _ => id) _ instructions _ _ accepted
  apply guarded_start
  intro account present
  exact confined_unspendable signed wallet mint unsigned account ((entrusted_slot _ _ _).mp entrusted account present)

end Entrusted

end SplToken
