import RecurringBuy.Token.Slot

set_option autoImplicit false

namespace SplToken

open Checked

variable {Key : Type} [DecidableEq Key]

namespace TokenInstruction

/-- What the instruction takes out of an account that holds `held`. A transfer to the same account moves nothing. -/
def takes (key : Key) (held : Nat) : TokenInstruction Key → Nat
  | transfer source destination _ amount => if source = key ∧ destination ≠ key then amount.toNat else 0
  | burn account _ _ amount => if account = key then amount.toNat else 0
  | closeAccount account _ => if account = key then held else 0
  | _ => 0

def gives (key : Key) : TokenInstruction Key → Nat
  | transfer source destination _ amount => if destination = key ∧ source ≠ key then amount.toNat else 0
  | mintTo _ account _ amount => if account = key then amount.toNat else 0
  | syncNative account deposit => if account = key then deposit.toNat else 0
  | _ => 0

end TokenInstruction

def slotBalance (slot : Option (TokenAccount Key)) : Nat :=
  match slot with
  | some account => account.amount.toNat
  | none => 0

omit [DecidableEq Key] in
theorem balance_slot (ledger : Ledger Key) (key : Key) : ledger.balance key = slotBalance (ledger.accounts key) := rfl

theorem balance_setAccount (ledger : Ledger Key) (changed key : Key) (slot : Option (TokenAccount Key)) :
    (ledger.setAccount changed slot).balance key = if key = changed then slotBalance slot else ledger.balance key := by
  rw [balance_slot, Ledger.setAccount_accounts]
  split
  next => rfl
  next => rfl

-- A change that keeps the amount keeps every balance.
theorem balance_kept (ledger : Ledger Key) (changed key : Key) (before after : Option (TokenAccount Key))
    (present : ledger.accounts changed = before) (same : slotBalance after = slotBalance before) :
    (ledger.setAccount changed after).balance key = ledger.balance key := by
  rw [balance_setAccount]
  split
  next here => rw [same, ← present, here, balance_slot]
  next => rfl

-- One account is written, with what it held and is given, less what is taken.
theorem balance_moved (ledger ledger' : Ledger Key) (instruction : TokenInstruction Key) (changed key : Key)
    (slot : Option (TokenAccount Key)) (taken given : Nat)
    (written : ledger'.accounts = (ledger.setAccount changed slot).accounts)
    (takes : instruction.takes key (ledger.balance key) = if changed = key then taken else 0)
    (gives : instruction.gives key = if changed = key then given else 0)
    (moved : slotBalance slot + taken = ledger.balance changed + given) :
    ledger'.balance key + instruction.takes key (ledger.balance key) = ledger.balance key + instruction.gives key := by
  rw [takes, gives, balance_slot ledger', written, ← balance_slot, balance_setAccount]
  by_cases here : changed = key
  next =>
    subst here
    simpa only [if_true] using moved
  next => simp only [here, Ne.symm here, if_false]

variable (signed : Key → Bool)

theorem processTransfer_flow (ledger ledger' : Ledger Key) (source destination authority key : Key) (amount : UInt64)
    (accepted : processTransfer signed ledger source destination authority amount = .ok ledger') :
    ledger'.balance key + (TokenInstruction.transfer source destination authority amount).takes key (ledger.balance key) =
      ledger.balance key + (TokenInstruction.transfer source destination authority amount).gives key := by
  obtain ⟨sender, receiver, sender', left, total, atSource, atDestination, rest, -, -, outcome⟩ :=
    processTransfer_ok signed _ _ _ _ _ _ accepted
  have before := Ledger.balance_some _ _ _ atSource
  have before' := Ledger.balance_some _ _ _ atDestination
  simp only [TokenInstruction.takes, TokenInstruction.gives]
  rcases outcome with ⟨rfl, rfl⟩ | ⟨distinct, sum, rfl⟩
  next =>
    by_cases here : source = key
    next => simp [here]
    next => simp [here]
  next =>
    rw [balance_setAccount, balance_setAccount]
    by_cases atReceiver : key = destination
    next =>
      subst atReceiver
      simp only [if_true, distinct, ne_eq, not_false_eq_true, and_true, not_true_eq_false, and_false, if_false,
        slotBalance]
      omega
    next =>
      by_cases atSender : key = source
      next =>
        subst atSender
        simp only [if_true, distinct, distinct.symm, if_false, ne_eq, not_false_eq_true, and_true,
          not_true_eq_false, and_false, slotBalance]
        omega
      next => simp [atReceiver, atSender, Ne.symm atReceiver, Ne.symm atSender]

variable [AssociatedAddress Key]

omit [AssociatedAddress Key] in
theorem processInitializeAccount_flow (ledger ledger' : Ledger Key) (account mint owner key : Key)
    (accepted : processInitializeAccount ledger account mint owner = .ok ledger') :
    ledger'.balance key = ledger.balance key := by
  simp only [processInitializeAccount, bind_ok, require_ok, exists_const, pure_ok, Option.isNone_iff_eq_none]
    at accepted
  obtain ⟨absent, -, -, rfl⟩ := accepted
  exact balance_kept ledger account key _ _ absent rfl

theorem process_flow (ledger ledger' : Ledger Key) (instruction : TokenInstruction Key) (key : Key)
    (accepted : process signed ledger instruction = .ok ledger') :
    ledger'.balance key + instruction.takes key (ledger.balance key) = ledger.balance key + instruction.gives key := by
  cases instruction with
  | transfer source destination authority amount => exact processTransfer_flow signed _ _ _ _ _ _ _ accepted
  | approve source delegate owner amount =>
    simp only [process, bind_ok, account_ok, pure_ok] at accepted
    obtain ⟨target, present, -, -, rfl⟩ := accepted
    exact balance_kept ledger source key _ _ present rfl
  | revoke source owner =>
    simp only [process, bind_ok, account_ok, pure_ok] at accepted
    obtain ⟨target, present, -, -, rfl⟩ := accepted
    exact balance_kept ledger source key _ _ present rfl
  | setAccountOwner account authority owner =>
    simp only [process, processSetAccountOwner, bind_ok, account_ok, pure_ok] at accepted
    obtain ⟨target, present, -, -, rfl⟩ := accepted
    exact balance_kept ledger account key _ _ present rfl
  | setCloseAuthority account authority closeAuthority =>
    simp only [process, processSetCloseAuthority, bind_ok, account_ok, pure_ok] at accepted
    obtain ⟨target, present, -, -, rfl⟩ := accepted
    exact balance_kept ledger account key _ _ present rfl
  | mintTo mint account authority amount =>
    simp only [process, processMintTo, bind_ok, account_ok, mint_ok, okOr_ok, U64.checkedAdd_some, pure_ok] at accepted
    obtain ⟨receiver, present, -, -, -, -, source, -, -, -, -, -, supply, -, total, sum, rfl⟩ := accepted
    have before := Ledger.balance_some _ _ _ present
    rw [← before] at sum
    exact balance_moved ledger _ _ account key _ 0 amount.toNat rfl (ite_self 0).symm rfl sum
  | burn account mint authority amount =>
    simp only [process, processBurn, bind_ok, account_ok, mint_ok, okOr_ok, U64.checkedSub_some, pure_ok] at accepted
    obtain ⟨sender, present, source, -, -, -, left, rest, -, -, sender', -, supply, -, rfl⟩ := accepted
    have before := Ledger.balance_some _ _ _ present
    rw [← before] at rest
    exact balance_moved ledger _ _ account key _ amount.toNat 0 rfl rfl (ite_self 0).symm rest
  | closeAccount account authority =>
    simp only [process, processCloseAccount, bind_ok, account_ok, pure_ok] at accepted
    obtain ⟨target, present, -, -, -, -, rfl⟩ := accepted
    refine balance_moved ledger _ _ account key none (ledger.balance account) 0 rfl ?_ (ite_self 0).symm (Nat.zero_add _)
    simp only [TokenInstruction.takes]
    split
    next here => rw [here]
    next => rfl
  | syncNative account deposit =>
    simp only [process, processSyncNative, bind_ok, account_ok, okOr_ok, U64.checkedAdd_some, pure_ok] at accepted
    obtain ⟨target, present, -, -, total, sum, rfl⟩ := accepted
    have before := Ledger.balance_some _ _ _ present
    rw [← before] at sum
    exact balance_moved ledger _ _ account key _ 0 deposit.toNat rfl (ite_self 0).symm rfl sum
  | initializeMint mint decimals authority =>
    simp only [process, bind_ok, pure_ok] at accepted
    obtain ⟨-, -, rfl⟩ := accepted
    rfl
  | initializeAccount account mint owner =>
    simp only [process, bind_ok] at accepted
    obtain ⟨-, -, opened⟩ := accepted
    exact processInitializeAccount_flow _ _ _ _ _ key opened
  | createAssociated wallet mint => exact processInitializeAccount_flow _ _ _ _ _ key accepted

-- An account that no instruction gives anything keeps its balance exactly where none takes from it.
theorem run_ungiven (ledger ledger' : Ledger Key) (instructions : List (TokenInstruction Key)) (key : Key)
    (accepted : run signed ledger instructions = .ok ledger')
    (ungiven : ∀ instruction ∈ instructions, instruction.gives key = 0) :
    ledger'.balance key ≤ ledger.balance key ∧ (ledger'.balance key = ledger.balance key ↔
      ∀ instruction ∈ instructions, instruction.takes key (ledger.balance key) = 0) := by
  induction instructions generalizing ledger with
  | nil =>
    cases accepted
    simp
  | cons instruction rest ih =>
    simp only [run, bind_ok] at accepted
    obtain ⟨middle, first, later⟩ := accepted
    have step := process_flow signed ledger middle instruction key first
    rw [ungiven instruction List.mem_cons_self, Nat.add_zero] at step
    obtain ⟨less, same⟩ := ih middle later fun other member => ungiven other (List.mem_cons_of_mem _ member)
    rw [List.forall_mem_cons]
    by_cases nothing : instruction.takes key (ledger.balance key) = 0
    next =>
      have unchanged : middle.balance key = ledger.balance key := by omega
      rw [unchanged] at less same
      exact ⟨less, same.trans ⟨fun rest => ⟨nothing, rest⟩, And.right⟩⟩
    next =>
      exact ⟨by omega, fun kept => absurd kept (by omega), fun none => absurd none.1 nothing⟩

end SplToken
