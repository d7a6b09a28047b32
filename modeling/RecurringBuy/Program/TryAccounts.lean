import RecurringBuy.Program.ExecuteSell
import Mathlib.Data.List.Forall2

set_option autoImplicit false

namespace RecurringBuy

variable {Pubkey : Type} [DecidableEq Pubkey] (tokenProgram : Pubkey)

def ExecuteBuy.tryAccounts : List (AccountInfo Pubkey) → Option (ExecuteBuy Pubkey × List (AccountInfo Pubkey))
  | keeper :: config :: user :: buyAuthority :: transientUsdc :: destAta :: swapProgram :: token :: feeConfig :: feeAta ::
      remainingAccounts => do
    guard (keeper.isSigner ∧ token.key = tokenProgram)
    -- the `mut` accounts
    guard (transientUsdc.isWritable ∧ destAta.isWritable ∧ feeAta.isWritable)
    pure
      ({ keeper := keeper.key, config := config.key, user := user.key, buyAuthority := buyAuthority.key
         transientUsdc := transientUsdc.key, destAta := destAta.key, swapProgram := swapProgram.key
         feeConfig := feeConfig.key, feeAta := feeAta.key },
        remainingAccounts)
  | _ => none

def ExecuteSell.tryAccounts : List (AccountInfo Pubkey) → Option (ExecuteSell Pubkey × List (AccountInfo Pubkey))
  | keeper :: config :: user :: sellPlan :: buyAuthority :: transientTarget :: userTargetAta :: destUsdc :: swapProgram ::
      token :: feeConfig :: feeAta :: remainingAccounts => do
    guard (keeper.isSigner ∧ token.key = tokenProgram)
    guard (sellPlan.isWritable ∧ transientTarget.isWritable ∧ destUsdc.isWritable ∧ feeAta.isWritable)
    pure
      ({ keeper := keeper.key, config := config.key, user := user.key, sellPlan := sellPlan.key
         buyAuthority := buyAuthority.key, transientTarget := transientTarget.key
         userTargetAta := userTargetAta.key, destUsdc := destUsdc.key, swapProgram := swapProgram.key
         feeConfig := feeConfig.key, feeAta := feeAta.key },
        remainingAccounts)
  | _ => none

-- What a client of the interface description puts into its places.
def ExecuteBuy.metas (accounts : ExecuteBuy Pubkey) : List (AccountInfo Pubkey) :=
  [⟨accounts.keeper, true, false⟩, ⟨accounts.config, false, false⟩, ⟨accounts.user, false, false⟩,
    ⟨accounts.buyAuthority, false, false⟩, ⟨accounts.transientUsdc, false, true⟩, ⟨accounts.destAta, false, true⟩,
    ⟨accounts.swapProgram, false, false⟩, ⟨tokenProgram, false, false⟩, ⟨accounts.feeConfig, false, false⟩,
    ⟨accounts.feeAta, false, true⟩]

def ExecuteSell.metas (accounts : ExecuteSell Pubkey) : List (AccountInfo Pubkey) :=
  [⟨accounts.keeper, true, false⟩, ⟨accounts.config, false, false⟩, ⟨accounts.user, false, false⟩,
    ⟨accounts.sellPlan, false, true⟩, ⟨accounts.buyAuthority, false, false⟩, ⟨accounts.transientTarget, false, true⟩,
    ⟨accounts.userTargetAta, false, false⟩, ⟨accounts.destUsdc, false, true⟩, ⟨accounts.swapProgram, false, false⟩,
    ⟨tokenProgram, false, false⟩, ⟨accounts.feeConfig, false, false⟩, ⟨accounts.feeAta, false, true⟩]

-- `info` may do what `needed` asks for.
structure AccountInfo.Grants (needed info : AccountInfo Pubkey) : Prop where
  key : info.key = needed.key
  signer : needed.isSigner = true → info.isSigner = true
  writable : needed.isWritable = true → info.isWritable = true

omit [DecidableEq Pubkey] in
theorem grants_iff (key : Pubkey) (isSigner isWritable : Bool) (info : AccountInfo Pubkey) :
    AccountInfo.Grants ⟨key, isSigner, isWritable⟩ info ↔
      key = info.key ∧ (isSigner = true → info.isSigner = true) ∧ (isWritable = true → info.isWritable = true) :=
  ⟨fun grants => ⟨grants.key.symm, grants.signer, grants.writable⟩, fun grants => ⟨grants.1.symm, grants.2.1, grants.2.2⟩⟩

/-- The program takes a list exactly if it grants, place by place, what the description asks for. -/
theorem tryAccounts_buy (infos remainingAccounts : List (AccountInfo Pubkey)) (accounts : ExecuteBuy Pubkey) :
    ExecuteBuy.tryAccounts tokenProgram infos = some (accounts, remainingAccounts) ↔
      ∃ front, infos = front ++ remainingAccounts ∧
        List.Forall₂ AccountInfo.Grants (accounts.metas tokenProgram) front := by
  constructor
  next =>
    intro taken
    unfold ExecuteBuy.tryAccounts at taken
    split at taken
    next keeper config user buyAuthority transientUsdc destAta swapProgram token feeConfig feeAta rest =>
      simp only [Option.bind_eq_bind, Option.bind_eq_some_iff, Option.guard_eq_some', exists_const, Option.pure_def,
        Option.some.injEq, Prod.mk.injEq] at taken
      obtain ⟨⟨signer, program⟩, ⟨source, dest, fee⟩, rfl, rfl⟩ := taken
      refine ⟨[keeper, config, user, buyAuthority, transientUsdc, destAta, swapProgram, token, feeConfig, feeAta], rfl, ?_⟩
      simp [ExecuteBuy.metas, grants_iff, signer, program, source, dest, fee]
    next => cases taken
  next =>
    rintro ⟨front, rfl, granted⟩
    rcases granted with _ | ⟨keeper, _ | ⟨config, _ | ⟨user, _ | ⟨authority, _ | ⟨source, _ | ⟨dest, _ | ⟨program,
      _ | ⟨token, _ | ⟨feeConfig, _ | ⟨fee, ⟨⟩⟩⟩⟩⟩⟩⟩⟩⟩⟩⟩
    simp only [List.cons_append, List.nil_append, ExecuteBuy.tryAccounts, keeper.signer rfl, token.key, source.writable rfl,
      dest.writable rfl, fee.writable rfl, keeper.key, config.key, user.key, authority.key, source.key, dest.key,
      program.key, feeConfig.key, fee.key]
    rfl

theorem tryAccounts_sell (infos remainingAccounts : List (AccountInfo Pubkey)) (accounts : ExecuteSell Pubkey) :
    ExecuteSell.tryAccounts tokenProgram infos = some (accounts, remainingAccounts) ↔
      ∃ front, infos = front ++ remainingAccounts ∧
        List.Forall₂ AccountInfo.Grants (accounts.metas tokenProgram) front := by
  constructor
  next =>
    intro taken
    unfold ExecuteSell.tryAccounts at taken
    split at taken
    next keeper config user sellPlan buyAuthority transientTarget userTargetAta destUsdc swapProgram token feeConfig feeAta
        rest =>
      simp only [Option.bind_eq_bind, Option.bind_eq_some_iff, Option.guard_eq_some', exists_const, Option.pure_def,
        Option.some.injEq, Prod.mk.injEq] at taken
      obtain ⟨⟨signer, program⟩, ⟨plan, source, dest, fee⟩, rfl, rfl⟩ := taken
      refine ⟨[keeper, config, user, sellPlan, buyAuthority, transientTarget, userTargetAta, destUsdc, swapProgram, token,
        feeConfig, feeAta], rfl, ?_⟩
      simp [ExecuteSell.metas, grants_iff, signer, program, plan, source, dest, fee]
    next => cases taken
  next =>
    rintro ⟨front, rfl, granted⟩
    rcases granted with _ | ⟨keeper, _ | ⟨config, _ | ⟨user, _ | ⟨plan, _ | ⟨authority, _ | ⟨source, _ | ⟨pot, _ | ⟨dest,
      _ | ⟨program, _ | ⟨token, _ | ⟨feeConfig, _ | ⟨fee, ⟨⟩⟩⟩⟩⟩⟩⟩⟩⟩⟩⟩⟩⟩
    simp only [List.cons_append, List.nil_append, ExecuteSell.tryAccounts, keeper.signer rfl, token.key, plan.writable rfl,
      source.writable rfl, dest.writable rfl, fee.writable rfl, keeper.key, config.key, user.key, plan.key,
      authority.key, source.key, pot.key, dest.key, program.key, feeConfig.key, fee.key]
    rfl

end RecurringBuy
