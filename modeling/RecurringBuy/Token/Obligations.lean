import RecurringBuy.Shared.Simulation
import RecurringBuy.Token.Authority

set_option autoImplicit false

namespace SplToken

open Checked Simulation

variable {Key : Type} [DecidableEq Key]

namespace TokenInstruction

variable (key owner mint : Key)

-- The account is back in the hands of `owner`, or gone.
def Restores : TokenInstruction Key → Prop
  | setAccountOwner account _ owner' => account = key ∧ owner' = owner
  | closeAccount account _ => account = key
  | _ => False

-- What an earlier delegate was allowed is void.
def Resets : TokenInstruction Key → Prop
  | approve source _ _ _ => source = key
  | revoke source _ => source = key
  | setAccountOwner account _ _ => account = key
  | closeAccount account _ => account = key
  | _ => False

-- An earlier close authority of an account of wrapped SOL is void.
def Recloses : TokenInstruction Key → Prop
  | setCloseAuthority account _ _ => account = key
  | setAccountOwner account _ _ => account = key
  | closeAccount account _ => account = key
  | _ => False

def spentBy (spender : Key) : TokenInstruction Key → Option Nat
  | transfer source destination authority amount =>
      if source = key ∧ destination ≠ key ∧ authority = spender then some amount.toNat else none
  | burn account _ authority amount => if account = key ∧ authority = spender then some amount.toNat else none
  | _ => none

/-- The delegate spends its whole allowance; an allowance of nothing lapses when it is used. -/
def UsedUp (delegate : Key) (allowance : Nat) (later : List (TokenInstruction Key)) : Prop :=
  later.filterMap (spentBy key delegate) ≠ [] ∧ allowance ≤ (later.filterMap (spentBy key delegate)).sum

def Grants : TokenInstruction Key → Prop
  | approve source _ _ _ => source = key
  | setAccountOwner account _ _ => account = key
  | setCloseAuthority account _ _ => account = key
  | _ => False

variable [AssociatedAddress Key]

/-- What the instruction gives away of the account at `key` is taken back later in the list. -/
def TakenBack (instruction : TokenInstruction Key) (later : List (TokenInstruction Key)) : Prop :=
  match instruction with
  | setAccountOwner account _ owner' =>
      account = key → owner' ≠ owner → ∃ other ∈ later, other.Restores key owner
  | approve source delegate _ amount =>
      source = key → (∃ other ∈ later, other.Resets key) ∨ UsedUp key delegate amount.toNat later
  | setCloseAuthority account _ closeAuthority =>
      account = key → mint = AssociatedAddress.nativeMint → ∀ closer, closeAuthority = some closer → closer ≠ owner →
        ∃ other ∈ later, other.Recloses key
  | _ => True

end TokenInstruction

/-- Every change of owner, every approval and, of wrapped SOL, every close authority is taken back in the list. -/
def GivesBack [AssociatedAddress Key] (owner mint : Key) (issued : List (TokenInstruction Key)) : Prop :=
  EachThen (TokenInstruction.TakenBack (AssociatedAddress.associated owner mint) owner mint) issued

section Obligations

variable [AssociatedAddress Key] (key owner mint : Key)

-- The instructions that follow take back what has been given away of the account.
structure Settles (later : List (TokenInstruction Key)) (held : Authority Key) : Prop where
  owned : held.owner ≠ owner → ∃ other ∈ later, other.Restores key owner
  undelegated : ∀ delegate, held.delegate = some delegate →
    (∃ other ∈ later, other.Resets key) ∨ TokenInstruction.UsedUp key delegate held.allowance later
  closable : mint = AssociatedAddress.nativeMint → ∀ closer, held.closeAuthority = some closer → closer ≠ owner →
    ∃ other ∈ later, other.Recloses key

def Settled (later : List (TokenInstruction Key)) (slot : Option (Authority Key)) : Prop :=
  ∀ held, slot = some held → Settles key owner mint later held

theorem settles_confined (later : List (TokenInstruction Key)) (held : Authority Key)
    (confined : held.Confined owner mint) : Settles key owner mint later held := by
  refine ⟨fun other => absurd confined.owned other, ?_, ?_⟩
  next =>
    intro delegate approved
    rw [confined.undelegated] at approved
    cases approved
  next => exact fun native closer named other => absurd (confined.closable native closer named) other

theorem settled_nil (slot : Option (Authority Key)) (minted : ∀ held, slot = some held → held.mint = mint) :
    Settled key owner mint [] slot ↔ Entrusted owner mint slot := by
  refine forall_congr' fun held => forall_congr' fun present => ?_
  constructor
  next =>
    intro settles
    refine ⟨minted held present, ?_, ?_, ?_⟩
    next =>
      by_contra other
      simpa using settles.owned other
    next =>
      by_contra delegated
      obtain ⟨delegate, approved⟩ := Option.ne_none_iff_exists'.mp delegated
      simpa [TokenInstruction.UsedUp] using settles.undelegated delegate approved
    next =>
      intro native closer named
      by_contra other
      simpa using settles.closable native closer named other
  next => exact settles_confined key owner mint [] held

theorem settled_none (later : List (TokenInstruction Key)) : Settled key owner mint later none :=
  fun _ nothing => absurd nothing.symm (Option.some_ne_none _)

theorem settled_entrusted (later : List (TokenInstruction Key)) (slot : Option (Authority Key))
    (entrusted : Entrusted owner mint slot) : Settled key owner mint later slot :=
  fun held present => settles_confined key owner mint later held (entrusted held present)

omit [AssociatedAddress Key] in
theorem usedUp_other (delegate : Key) (allowance : Nat) (instruction : TokenInstruction Key)
    (later : List (TokenInstruction Key)) (nothing : instruction.spentBy key delegate = none) :
    TokenInstruction.UsedUp key delegate allowance (instruction :: later) ↔
      TokenInstruction.UsedUp key delegate allowance later := by
  simp [TokenInstruction.UsedUp, nothing]

omit [AssociatedAddress Key] in
theorem usedUp_spent (delegate : Key) (allowance amount : Nat) (instruction : TokenInstruction Key)
    (later : List (TokenInstruction Key)) (spent : instruction.spentBy key delegate = some amount) :
    TokenInstruction.UsedUp key delegate allowance (instruction :: later) ↔
      (allowance - amount ≠ 0 → TokenInstruction.UsedUp key delegate (allowance - amount) later) := by
  simp only [TokenInstruction.UsedUp, List.filterMap_cons_some spent, ne_eq, reduceCtorEq, not_false_eq_true, true_and,
    List.sum_cons]
  constructor
  next =>
    intro enough short
    constructor
    next =>
      intro nothing
      simp only [nothing, List.sum_nil] at enough
      omega
    next => omega
  next =>
    intro rest
    by_cases exhausted : allowance - amount = 0
    next => omega
    next =>
      have enough := (rest exhausted).2
      omega

theorem settles_congr (later later' : List (TokenInstruction Key)) (held held' : Authority Key)
    (owned : (held.owner ≠ owner → ∃ other ∈ later, other.Restores key owner) ↔
      (held'.owner ≠ owner → ∃ other ∈ later', other.Restores key owner))
    (undelegated : (∀ delegate, held.delegate = some delegate →
        (∃ other ∈ later, other.Resets key) ∨ TokenInstruction.UsedUp key delegate held.allowance later) ↔
      (∀ delegate, held'.delegate = some delegate →
        (∃ other ∈ later', other.Resets key) ∨ TokenInstruction.UsedUp key delegate held'.allowance later'))
    (closable : (∀ closer, held.closeAuthority = some closer → closer ≠ owner → ∃ other ∈ later, other.Recloses key) ↔
      (∀ closer, held'.closeAuthority = some closer → closer ≠ owner → ∃ other ∈ later', other.Recloses key)) :
    Settles key owner mint later held ↔ Settles key owner mint later' held' :=
  ⟨fun settles => ⟨owned.mp settles.owned, undelegated.mp settles.undelegated,
      fun native => closable.mp (settles.closable native)⟩,
    fun settles => ⟨owned.mpr settles.owned, undelegated.mpr settles.undelegated,
      fun native => closable.mpr (settles.closable native)⟩⟩

theorem settled_idle (instruction : TokenInstruction Key) (later : List (TokenInstruction Key))
    (slot : Option (Authority Key)) (restores : ¬ instruction.Restores key owner)
    (resets : ¬ instruction.Resets key) (recloses : ¬ instruction.Recloses key)
    (spends : ∀ spender, instruction.spentBy key spender = none) :
    Settled key owner mint later slot ↔ Settled key owner mint (instruction :: later) slot := by
  refine forall_congr' fun held => forall_congr' fun present => ?_
  apply settles_congr
  next => simp [restores]
  next => simp [resets, usedUp_other, spends]
  next => simp [recloses]

theorem settles_spend (instruction : TokenInstruction Key) (later : List (TokenInstruction Key)) (spender : Key)
    (amount : Nat) (held : Authority Key) (restores : ¬ instruction.Restores key owner)
    (resets : ¬ instruction.Resets key) (recloses : ¬ instruction.Recloses key)
    (spends : ∀ delegate, instruction.spentBy key delegate = if spender = delegate then some amount else none) :
    Settles key owner mint later (held.spend spender amount) ↔ Settles key owner mint (instruction :: later) held := by
  unfold Authority.spend
  split
  next delegated =>
    have spent := usedUp_spent key spender held.allowance amount instruction later (by rw [spends, if_pos rfl])
    apply settles_congr
    next => simp [restores]
    next =>
      -- Until the allowance is exhausted the delegate stays.
      by_cases exhausted : held.allowance - amount = 0
      next => simp [delegated, spent, exhausted]
      next => simp [delegated, spent, exhausted, resets]
    next => simp [recloses]
  next stranger =>
    apply settles_congr
    next => simp [restores]
    next =>
      refine forall_congr' fun delegate => forall_congr' fun approved => ?_
      have unused : instruction.spentBy key delegate = none := by
        rw [spends, if_neg]
        intro same
        exact stranger (same ▸ approved)
      simp [usedUp_other, unused, resets]
    next => simp [recloses]

theorem settled_spend (instruction : TokenInstruction Key) (later : List (TokenInstruction Key)) (spender : Key)
    (amount : Nat) (slot : Option (Authority Key)) (restores : ¬ instruction.Restores key owner)
    (resets : ¬ instruction.Resets key) (recloses : ¬ instruction.Recloses key)
    (spends : ∀ delegate, instruction.spentBy key delegate = if spender = delegate then some amount else none) :
    Settled key owner mint later (slot.map fun held => held.spend spender amount) ↔
      Settled key owner mint (instruction :: later) slot := by
  cases slot with
  | none => simp [Settled]
  | some held =>
    simp only [Settled, Option.map_some, Option.some.injEq, forall_eq']
    exact settles_spend key owner mint instruction later spender amount held restores resets recloses spends

-- Before an instruction there is to take back what there is after it, but for what the instruction itself gives
-- away.
theorem settled_step (instruction : TokenInstruction Key) (later : List (TokenInstruction Key))
    (slot : Option (Authority Key)) (minted : ∀ held, slot = some held → held.mint = mint)
    (present : instruction.Grants key → slot.isSome)
    (opened : ∀ wallet mint', instruction = .createAssociated wallet mint' →
      AssociatedAddress.associated wallet mint' = key → slot = none ∧ wallet = owner)
    (derived : ∀ mint' wallet, instruction ≠ .initializeAccount key mint' wallet) :
    Settled key owner mint later (instruction.regrant key slot) ↔
      Settled key owner mint (instruction :: later) slot ∧ instruction.TakenBack key owner mint later := by
  cases instruction with
  | transfer source destination spender amount =>
    simp only [TokenInstruction.TakenBack, and_true, TokenInstruction.regrant]
    split
    next moved =>
      apply settled_spend
      next => exact id
      next => exact id
      next => exact id
      next => simp [TokenInstruction.spentBy, moved]
    next still =>
      apply settled_idle
      next => exact id
      next => exact id
      next => exact id
      next =>
        intro delegate
        exact if_neg fun moved => still ⟨moved.1, moved.2.1⟩
  | burn account mint' spender amount =>
    simp only [TokenInstruction.TakenBack, and_true, TokenInstruction.regrant]
    split
    next here =>
      apply settled_spend
      next => exact id
      next => exact id
      next => exact id
      next => simp [TokenInstruction.spentBy, here]
    next elsewhere =>
      apply settled_idle
      next => exact id
      next => exact id
      next => exact id
      next =>
        intro delegate
        exact if_neg fun moved => elsewhere moved.1
  | approve source delegate authority amount =>
    by_cases here : source = key
    next =>
      obtain ⟨held, rfl⟩ := Option.isSome_iff_exists.mp (present here)
      simp only [TokenInstruction.regrant, TokenInstruction.TakenBack, here, if_true, true_implies, Option.map_some,
        Settled, Option.some.injEq, forall_eq']
      constructor
      next =>
        intro settles
        refine ⟨⟨?_, ?_, ?_⟩, settles.undelegated delegate rfl⟩
        next => simpa [TokenInstruction.Restores] using settles.owned
        next => exact fun _ _ => .inl ⟨_, List.mem_cons_self, rfl⟩
        next => simpa [TokenInstruction.Recloses] using settles.closable
      next =>
        rintro ⟨settles, back⟩
        refine ⟨?_, ?_, ?_⟩
        next => simpa [TokenInstruction.Restores] using settles.owned
        next =>
          intro delegate' approved
          obtain rfl := Option.some.inj approved
          exact back
        next => simpa [TokenInstruction.Recloses] using settles.closable
    next =>
      simp only [TokenInstruction.regrant, TokenInstruction.TakenBack, here, if_false, false_implies, and_true]
      exact settled_idle key owner mint _ later slot id here id fun _ => rfl
  | setAccountOwner account authority owner' =>
    by_cases here : account = key
    next =>
      obtain ⟨held, rfl⟩ := Option.isSome_iff_exists.mp (present here)
      simp only [TokenInstruction.regrant, TokenInstruction.TakenBack, here, if_true, true_implies, Option.map_some,
        Settled, Option.some.injEq, forall_eq']
      constructor
      next =>
        intro settles
        refine ⟨⟨?_, ?_, ?_⟩, settles.owned⟩
        next =>
          intro
          by_cases back : owner' = owner
          next => exact ⟨_, List.mem_cons_self, rfl, back⟩
          next =>
            obtain ⟨other, member, restores⟩ := settles.owned back
            exact ⟨other, List.mem_cons_of_mem _ member, restores⟩
        next => exact fun _ _ => .inl ⟨_, List.mem_cons_self, rfl⟩
        next => exact fun _ _ _ _ => ⟨_, List.mem_cons_self, rfl⟩
      next =>
        rintro ⟨settles, back⟩
        refine ⟨back, ?_, ?_⟩
        next => rintro - ⟨⟩
        next =>
          intro native
          rw [minted held rfl, if_pos native]
          rintro - ⟨⟩
    next =>
      simp only [TokenInstruction.regrant, TokenInstruction.TakenBack, here, if_false, false_implies, and_true]
      exact settled_idle key owner mint _ later slot (fun back => here back.1) here here fun _ => rfl
  | setCloseAuthority account authority closeAuthority =>
    by_cases here : account = key
    next =>
      obtain ⟨held, rfl⟩ := Option.isSome_iff_exists.mp (present here)
      simp only [TokenInstruction.regrant, TokenInstruction.TakenBack, here, if_true, true_implies, Option.map_some,
        Settled, Option.some.injEq, forall_eq']
      have kept : ¬ (TokenInstruction.setCloseAuthority key authority closeAuthority).Resets key := id
      have unused (delegate : Key) (allowance : Nat) := usedUp_other key delegate allowance
        (.setCloseAuthority key authority closeAuthority) later rfl
      constructor
      next =>
        intro settles
        refine ⟨⟨?_, ?_, ?_⟩, settles.closable⟩
        next => simpa [TokenInstruction.Restores] using settles.owned
        next => simpa [kept, unused] using settles.undelegated
        next => exact fun _ _ _ _ => ⟨_, List.mem_cons_self, rfl⟩
      next =>
        rintro ⟨settles, back⟩
        refine ⟨?_, ?_, back⟩
        next => simpa [TokenInstruction.Restores] using settles.owned
        next => simpa [kept, unused] using settles.undelegated
    next =>
      simp only [TokenInstruction.regrant, TokenInstruction.TakenBack, here, if_false, false_implies, and_true]
      exact settled_idle key owner mint _ later slot id id here fun _ => rfl
  | revoke source authority =>
    simp only [TokenInstruction.TakenBack, and_true, TokenInstruction.regrant]
    split
    next here =>
      cases slot with
      | none => simp [Settled]
      | some held =>
        simp only [Settled, Option.map_some, Option.some.injEq, forall_eq']
        apply settles_congr
        next => simp [TokenInstruction.Restores]
        next => simp [TokenInstruction.Resets, here]
        next => simp [TokenInstruction.Recloses]
    next elsewhere => exact settled_idle key owner mint _ later slot id elsewhere id fun _ => rfl
  | closeAccount account authority =>
    simp only [TokenInstruction.TakenBack, and_true, TokenInstruction.regrant]
    split
    next here =>
      refine iff_of_true (settled_none key owner mint later) fun held present => ⟨?_, ?_, ?_⟩
      next => exact fun _ => ⟨_, List.mem_cons_self, here⟩
      next => exact fun _ _ => .inl ⟨_, List.mem_cons_self, here⟩
      next => exact fun _ _ _ _ => ⟨_, List.mem_cons_self, here⟩
    next elsewhere => exact settled_idle key owner mint _ later slot elsewhere elsewhere elsewhere fun _ => rfl
  | createAssociated wallet mint' =>
    simp only [TokenInstruction.TakenBack, and_true, TokenInstruction.regrant]
    split
    next here =>
      obtain ⟨rfl, rfl⟩ := opened wallet mint' rfl here
      refine iff_of_true ?_ (settled_none _ _ mint _)
      rintro - ⟨⟩
      refine ⟨fun other => absurd rfl other, ?_, ?_⟩
      next => rintro - ⟨⟩
      next => rintro - - ⟨⟩
    next elsewhere => exact settled_idle key owner mint _ later slot id id id fun _ => rfl
  | initializeAccount account mint' wallet =>
    have elsewhere : account ≠ key := by
      rintro rfl
      exact derived mint' wallet rfl
    simp only [TokenInstruction.TakenBack, and_true, TokenInstruction.regrant, elsewhere, if_false]
    exact settled_idle key owner mint _ later slot id id id fun _ => rfl
  | mintTo | syncNative | initializeMint =>
    simp only [TokenInstruction.TakenBack, and_true, TokenInstruction.regrant]
    exact settled_idle key owner mint _ later slot id id id fun _ => rfl

end Obligations

section Runs

variable [AssociatedAddress Key] (signed : Key → Bool)

theorem process_grants (ledger ledger' : Ledger Key) (instruction : TokenInstruction Key) (key : Key)
    (accepted : process signed ledger instruction = .ok ledger') (grants : instruction.Grants key) :
    (ledger.authority key).isSome := by
  cases instruction with
  | approve source delegate owner amount =>
    obtain rfl : source = key := grants
    simp only [process, bind_ok, account_ok] at accepted
    obtain ⟨target, present, -⟩ := accepted
    simp [authority_some _ _ _ present]
  | setAccountOwner account authority owner =>
    obtain rfl : account = key := grants
    simp only [process, processSetAccountOwner, bind_ok, account_ok] at accepted
    obtain ⟨target, present, -⟩ := accepted
    simp [authority_some _ _ _ present]
  | setCloseAuthority account authority closeAuthority =>
    obtain rfl : account = key := grants
    simp only [process, processSetCloseAuthority, bind_ok, account_ok] at accepted
    obtain ⟨target, present, -⟩ := accepted
    simp [authority_some _ _ _ present]
  | _ => exact grants.elim

variable (owner mint : Key) (unassociated : signed (AssociatedAddress.associated owner mint) = false)

include unassociated

omit [DecidableEq Key] in
theorem minted_step (instruction : TokenInstruction Key) (before after : Option (TokenAccount Key))
    (step : SlotStep signed instruction (AssociatedAddress.associated owner mint) before after)
    (minted : ∀ account, before = some account → account.mint = mint) (account : TokenAccount Key)
    (present : after = some account) : account.mint = mint := by
  cases step with
  | unchanged => exact minted account present
  | credited account' amount | closeAuthority account' closer =>
    cases present
    exact minted account' rfl
  | debited account' account'' authorised owner sameMint
  | delegated account' account'' authorised owner sameMint
  | reowned account' account'' authority is authorised sameMint =>
    cases present
    exact sameMint.trans (minted account' rfl)
  | closed => cases present
  | opened mint' wallet address =>
    cases present
    rcases address with signature | same
    next => simp [unassociated] at signature
    next => exact (AssociatedAddress.associated_inj _ _ _ _ same).2.symm

/-- The account ends with its owner alone exactly where the instructions take back all that has been given away
of it, by them or before. -/
theorem run_settled (ledger ledger' : Ledger Key) (instructions : List (TokenInstruction Key))
    (accepted : run signed ledger instructions = .ok ledger')
    (minted : ∀ account, ledger.accounts (AssociatedAddress.associated owner mint) = some account → account.mint = mint) :
    Entrusted owner mint (ledger'.authority (AssociatedAddress.associated owner mint)) ↔
      Settled (AssociatedAddress.associated owner mint) owner mint instructions
        (ledger.authority (AssociatedAddress.associated owner mint)) ∧ GivesBack owner mint instructions := by
  induction instructions generalizing ledger with
  | nil =>
    cases accepted
    rw [settled_nil _ _ _ _ (authority_minted _ _ mint minted)]
    exact ⟨fun entrusted => ⟨entrusted, trivial⟩, And.left⟩
  | cons instruction rest ih =>
    simp only [run, bind_ok] at accepted
    obtain ⟨middle, first, later⟩ := accepted
    have slot := process_slot signed ledger middle instruction (AssociatedAddress.associated owner mint) first
    rw [ih middle later (minted_step signed owner mint unassociated instruction _ _ slot minted),
      process_authority signed _ _ _ _ first, settled_step _ _ _ _ _ _ (authority_minted _ _ mint minted)
        (process_grants signed _ _ _ _ first) ?opened ?derived, and_assoc]
    case opened =>
      rintro wallet mint' rfl here
      obtain ⟨rfl, rfl⟩ := AssociatedAddress.associated_inj _ _ _ _ here
      have absent := (processInitializeAccount_authority _ _ _ _ _ (AssociatedAddress.associated wallet mint') first).1
      simp [Ledger.authority, absent]
    case derived =>
      rintro mint' wallet rfl
      simp only [process, bind_ok, require_ok, exists_const, unassociated] at first
      cases first.1
    rfl

theorem run_entrusted_iff (ledger ledger' : Ledger Key) (instructions : List (TokenInstruction Key))
    (accepted : run signed ledger instructions = .ok ledger')
    (entrusted : Entrusted owner mint (ledger.authority (AssociatedAddress.associated owner mint))) :
    Entrusted owner mint (ledger'.authority (AssociatedAddress.associated owner mint)) ↔
      GivesBack owner mint instructions := by
  rw [run_settled signed owner mint unassociated ledger ledger' instructions accepted]
  next => exact and_iff_right (settled_entrusted _ owner mint instructions _ entrusted)
  next =>
    intro account present
    exact (entrusted account.authority (authority_some _ _ _ present)).minted

end Runs

end SplToken
