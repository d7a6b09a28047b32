import RecurringBuy.Program.Deployment
import RecurringBuy.Program.History
import RecurringBuy.Properties.SwapFacts

set_option autoImplicit false

namespace RecurringBuy

open Checked SplToken ProgramAddress

variable {Pubkey : Type} [DecidableEq Pubkey] [ProgramAddress Pubkey]

def Call.signers : Call Pubkey → List Pubkey
  | .initConfig ctx _ _ _ => ctx.signers
  | .setPause ctx _ => ctx.signers
  | .setParams ctx _ _ => ctx.signers
  | .setWhitelist ctx _ => ctx.signers
  | .initFeeConfig ctx _ _ => ctx.signers
  | .setFee ctx _ _ => ctx.signers
  | .executeBuy ctx _ _ _ => ctx.signers
  | .openSellPlan ctx _ _ => ctx.signers
  | .closeSellPlan ctx => ctx.signers
  | .executeSell ctx _ _ _ => ctx.signers

-- The list of venues that the call installs.
def Call.venues : Call Pubkey → Option (List Pubkey)
  | .initConfig _ swapPrograms _ _ => some swapPrograms
  | .setWhitelist _ swapPrograms => some swapPrograms
  | _ => none

def Call.init : Call Pubkey → Option (InitConfig Pubkey)
  | .initConfig ctx _ _ _ => some ctx.accounts
  | _ => none

def accepted {A : Type} (observe : Call Pubkey → Option A) (world : World Pubkey) : Event Pubkey → List A
  | .call call => if (world.execute call).isOk then (observe call).toList else []
  | _ => []

-- What `observe` sees in the accepted calls of a run, oldest first.
def observed {A : Type} (observe : Call Pubkey → Option A) : World Pubkey → List (Event Pubkey) → List A
  | _, [] => []
  | world, event :: rest => accepted observe world event ++ observed observe (world.step event) rest

def initCalls (world : World Pubkey) (events : List (Event Pubkey)) : List (InitConfig Pubkey) :=
  observed Call.init world events

def venueLists (world : World Pubkey) (events : List (Event Pubkey)) : List (List Pubkey) :=
  observed Call.venues world events

section Array

variable {A : Type}

omit [DecidableEq Pubkey] [ProgramAddress Pubkey] in
theorem getElem_foldl_set (size : Nat) (values : List A) (start : Nat) (array : Vector A size) (i : Nat)
    (inside : i < size) :
    ((values.zipIdx start).foldl (fun array entry => array.setIfInBounds entry.2 entry.1) array)[i] =
      if written : start ≤ i ∧ i - start < values.length then values[i - start] else array[i] := by
  induction values generalizing start array with
  | nil => simp
  | cons value rest ih =>
    rw [List.zipIdx_cons, List.foldl_cons, ih]
    by_cases first : i = start
    next => simp [first]
    next =>
      by_cases later : start + 1 ≤ i
      next =>
        have shifted : i - start = i - (start + 1) + 1 := by omega
        have reached : start ≤ i := by omega
        have kept : ¬ start = i := Ne.symm first
        simp [later, reached, shifted, kept]
      next =>
        have unreached : ¬ start ≤ i := by omega
        simp [later, unreached, Ne.symm first]

omit [DecidableEq Pubkey] in
theorem venueArray_take (swapPrograms : List Pubkey) (few : swapPrograms.length ≤ maxSwapPrograms) :
    (venueArray swapPrograms).toList.take swapPrograms.length = swapPrograms := by
  apply List.ext_getElem
  next => simpa using few
  next =>
    intro i _ inside
    have within : i < maxSwapPrograms := inside.trans_le few
    have written := getElem_foldl_set maxSwapPrograms swapPrograms 0
      (Vector.replicate maxSwapPrograms ProgramAddress.default) i within
    simp only [Nat.zero_le, Nat.sub_zero, inside, and_self, dite_true] at written
    rw [List.getElem_take, Vector.getElem_toList]
    exact written

end Array

section Steps

structure Config.SameTerms (cfg cfg' : Config Pubkey) : Prop where
  admin : cfg'.admin = cfg.admin
  targetMint : cfg'.targetMint = cfg.targetMint
  usdcMint : cfg'.usdcMint = cfg.usdcMint
  targetDecimals : cfg'.targetDecimals = cfg.targetDecimals

def Config.Lists (cfg : Config Pubkey) (swapPrograms : List Pubkey) : Prop :=
  swapPrograms.length ≤ maxSwapPrograms ∧ cfg.swapPrograms = venueArray swapPrograms ∧
    cfg.swapProgramCount = UInt8.ofNat swapPrograms.length

structure Config.Initialised (cfg : Config Pubkey) (accounts : InitConfig Pubkey) (ledger : Ledger Pubkey) : Prop where
  admin : cfg.admin = accounts.admin
  targetMint : cfg.targetMint = accounts.targetMint
  usdcMint : cfg.usdcMint = accounts.usdcMint
  target : ∃ mint, ledger.mints cfg.targetMint = some mint ∧ mint.decimals = cfg.targetDecimals
  usdc : ∃ mint, ledger.mints cfg.usdcMint = some mint ∧ mint.decimals = 6

-- Everything that an accepted call does to the two configuration accounts.
inductive ConfigStep (world world' : World Pubkey) (call : Call Pubkey) : Prop where
  | quiet (config : world'.config = world.config) (feeConfig : world'.feeConfig = world.feeConfig)
      (init : call.init = none) (venues : call.venues = none)
      (mints : world.ledger.KeepsMints world'.ledger)
  | initialised (accounts : InitConfig Pubkey) (swapPrograms : List Pubkey) (cfg : Config Pubkey)
      (init : call.init = some accounts) (venues : call.venues = some swapPrograms) (signed : cfg.admin ∈ call.signers)
      (fresh : world.config = none) (config : world'.config = some cfg)
      (feeConfig : world'.feeConfig = world.feeConfig) (written : cfg.Initialised accounts world'.ledger)
      (lists : cfg.Lists swapPrograms)
  | adjusted (cfg cfg' : Config Pubkey) (init : call.init = none) (signed : cfg.admin ∈ call.signers)
      (present : world.config = some cfg) (config : world'.config = some cfg')
      (feeConfig : world'.feeConfig = world.feeConfig) (ledger : world'.ledger = world.ledger)
      (terms : cfg.SameTerms cfg')
      (lists : match call.venues with
        | some swapPrograms => cfg'.Lists swapPrograms
        | none => cfg'.swapPrograms = cfg.swapPrograms ∧ cfg'.swapProgramCount = cfg.swapProgramCount)
  | charged (cfg : Config Pubkey) (init : call.init = none) (venues : call.venues = none)
      (signed : cfg.admin ∈ call.signers) (present : world.config = some cfg) (config : world'.config = some cfg)
      (ledger : world'.ledger = world.ledger)

omit [ProgramAddress Pubkey] in
theorem settlement_keepsMints [AssociatedAddress Pubkey] (ledger skimmed settled : Ledger Pubkey)
    (signers : List Pubkey) (remainingAccounts : List (AccountInfo Pubkey)) (leg : Leg Pubkey)
    (fee destBefore minOut out : UInt64) (swapData : List UInt8) (venue : Venue Pubkey)
    (settlement : Settlement ledger skimmed settled signers remainingAccounts leg fee destBefore minOut out swapData
      venue) : ledger.KeepsMints settled := by
  obtain ⟨issued, -, ran⟩ := invokeSigned_ok _ _ _ _ _ _ settlement.invoke
  apply keepsMints_trans _ _ skimmed _ (run_keepsMints _ _ _ issued ran)
  have skim := settlement.skim
  unfold skimFee at skim
  split at skim
  next =>
    rw [tokenCall_ok] at skim
    exact process_keepsMints _ _ _ _ skim
  next =>
    cases skim
    exact keepsMints_same _ _ rfl

theorem execute_config (world world' : World Pubkey) (call : Call Pubkey) (done : world.execute call = .ok world') :
    ConfigStep world world' call := by
  cases call with
  | initConfig ctx swapPrograms priceRefMicros maxSlippageBps =>
    obtain ⟨signed, -, fresh, target, usdc, atTarget, atUsdc, few, -, -, six, rfl⟩ := (initConfig_ok _ _ _ _ _ _).mp done
    exact .initialised ctx.accounts swapPrograms _ rfl rfl signed fresh rfl rfl
      ⟨rfl, rfl, rfl, ⟨target, atTarget, rfl⟩, ⟨usdc, atUsdc, six⟩⟩ ⟨few, rfl, rfl⟩
  | setPause ctx paused =>
    obtain ⟨cfg, authorised, rfl⟩ := (setPause_ok _ _ _ _).mp done
    exact .adjusted cfg _ rfl (authorised.owner ▸ authorised.signed) authorised.present rfl rfl rfl
      ⟨rfl, rfl, rfl, rfl⟩ ⟨rfl, rfl⟩
  | setParams ctx priceRefMicros maxSlippageBps =>
    obtain ⟨cfg, authorised, -, rfl⟩ := (setParams_ok _ _ _ _ _).mp done
    exact .adjusted cfg _ rfl (authorised.owner ▸ authorised.signed) authorised.present rfl rfl rfl
      ⟨rfl, rfl, rfl, rfl⟩ ⟨rfl, rfl⟩
  | setWhitelist ctx swapPrograms =>
    obtain ⟨cfg, authorised, few, rfl⟩ := (setWhitelist_ok _ _ _ _).mp done
    exact .adjusted cfg _ rfl (authorised.owner ▸ authorised.signed) authorised.present rfl rfl rfl
      ⟨rfl, rfl, rfl, rfl⟩ ⟨few, rfl, rfl⟩
  | initFeeConfig ctx feeBps destination =>
    obtain ⟨⟨cfg, authorised⟩, -, -, -, rfl⟩ := (initFeeConfig_ok _ _ _ _ _).mp done
    exact .charged cfg rfl rfl (authorised.owner ▸ authorised.signed) authorised.present authorised.present rfl
  | setFee ctx feeBps destination =>
    obtain ⟨⟨cfg, authorised⟩, _, -, -, -, rfl⟩ := (setFee_ok _ _ _ _ _).mp done
    exact .charged cfg rfl rfl (authorised.owner ▸ authorised.signed) authorised.present authorised.present rfl
  | executeBuy ctx minOut swapData venue =>
    simp only [World.execute, map_ok, Prod.exists, executeBuy_ok] at done
    obtain ⟨_, _, ⟨_, _, _, _, _, _, _, _, _, course, -⟩, rfl⟩ := done
    refine .quiet ?_ ?_ rfl rfl (settlement_keepsMints _ _ _ _ _ _ _ _ _ _ _ _ course.settlement)
    next => rw [course.unchanged]
    next => rw [course.unchanged]
  | openSellPlan ctx endTs periodSecs =>
    obtain ⟨-, -, -, -, -, rfl⟩ := (openSellPlan_ok _ _ _ _ _).mp done
    exact .quiet rfl rfl rfl rfl (keepsMints_same _ _ rfl)
  | closeSellPlan ctx =>
    obtain ⟨-, -, rfl⟩ := closeSellPlan_ok _ _ _ done
    exact .quiet rfl rfl rfl rfl (keepsMints_same _ _ rfl)
  | executeSell ctx minOut swapData venue =>
    simp only [World.execute, map_ok, Prod.exists, executeSell_ok] at done
    obtain ⟨_, _, ⟨_, _, _, _, _, _, _, _, _, _, _, _, course, -⟩, rfl⟩ := done
    refine .quiet ?_ ?_ rfl rfl (settlement_keepsMints _ _ _ _ _ _ _ _ _ _ _ _ course.settlement)
    next =>
      rw [course.changed]
      rfl
    next =>
      rw [course.changed]
      rfl

end Steps

section Runs

omit [DecidableEq Pubkey] [ProgramAddress Pubkey] in
theorem initialised_kept (cfg cfg' : Config Pubkey) (accounts : InitConfig Pubkey) (ledger ledger' : Ledger Pubkey)
    (written : cfg.Initialised accounts ledger) (terms : cfg.SameTerms cfg') (mints : ledger.KeepsMints ledger') :
    cfg'.Initialised accounts ledger' := by
  obtain ⟨target, atTarget, decimals⟩ := written.target
  obtain ⟨usdc, atUsdc, six⟩ := written.usdc
  obtain ⟨target', atTarget', same⟩ := mints _ _ atTarget
  obtain ⟨usdc', atUsdc', same'⟩ := mints _ _ atUsdc
  constructor
  case admin => exact terms.admin.trans written.admin
  case targetMint => exact terms.targetMint.trans written.targetMint
  case usdcMint => exact terms.usdcMint.trans written.usdcMint
  case target =>
    rw [terms.targetMint, terms.targetDecimals]
    exact ⟨target', atTarget', same.trans decimals⟩
  case usdc =>
    rw [terms.usdcMint]
    exact ⟨usdc', atUsdc', same'.trans six⟩

theorem lists_whitelisted (cfg : Config Pubkey) (swapPrograms : List Pubkey)
    (lists : cfg.Lists swapPrograms) (programId : Pubkey) :
    cfg.isWhitelisted programId = .ok (decide (programId ∈ swapPrograms)) := by
  obtain ⟨few, array, count⟩ := lists
  have three : swapPrograms.length ≤ 3 := few
  have length : cfg.swapProgramCount.toNat = swapPrograms.length := by
    rw [count, UInt8.toNat_ofNat', Nat.mod_eq_of_lt (by omega)]
  simp only [Config.isWhitelisted, bind_ok, require_ok, exists_const, pure_ok, decide_eq_true_eq, length, array,
    venueArray_take swapPrograms few, few, true_and, List.contains_eq_mem]

structure ConfigTracks (world : World Pubkey) (inits : List (InitConfig Pubkey)) (lists : List (List Pubkey)) :
    Prop where
  unset : world.config = none → inits = []
  set : ∀ cfg, world.config = some cfg → ∃ accounts swapPrograms, inits = [accounts] ∧
    lists.getLast? = some swapPrograms ∧ cfg.Initialised accounts world.ledger ∧ cfg.Lists swapPrograms

omit [DecidableEq Pubkey] in
theorem configTracks_call (world world' : World Pubkey) (call : Call Pubkey) (inits : List (InitConfig Pubkey))
    (lists : List (List Pubkey)) (tracks : ConfigTracks world inits lists) (step : ConfigStep world world' call) :
    ConfigTracks world' (inits ++ call.init.toList) (lists ++ call.venues.toList) := by
  cases step with
  | quiet config feeConfig init venues mints =>
    simp only [init, venues, Option.toList_none, List.append_nil]
    constructor
    case unset =>
      rw [config]
      exact tracks.unset
    case set =>
      intro cfg present
      rw [config] at present
      obtain ⟨accounts, swapPrograms, one, last, written, listed⟩ := tracks.set cfg present
      exact ⟨accounts, swapPrograms, one, last,
        initialised_kept _ _ _ _ _ written ⟨rfl, rfl, rfl, rfl⟩ mints, listed⟩
  | initialised accounts swapPrograms cfg init venues signed fresh config feeConfig written listed =>
    rw [init, venues, tracks.unset fresh]
    constructor
    case unset => simp [config]
    case set =>
      intro cfg' present
      obtain rfl := Option.some.inj (config.symm.trans present)
      exact ⟨accounts, swapPrograms, rfl, by simp, written, listed⟩
  | adjusted cfg cfg' init signed present config feeConfig ledger terms listed =>
    obtain ⟨accounts, swapPrograms, one, last, written, before⟩ := tracks.set cfg present
    have written' : cfg'.Initialised accounts world'.ledger :=
      initialised_kept _ _ _ _ _ written terms (keepsMints_same _ _ (by rw [ledger]))
    rw [init, Option.toList_none, List.append_nil]
    constructor
    case unset => simp [config]
    case set =>
      intro cfg'' present'
      obtain rfl := Option.some.inj (config.symm.trans present')
      cases venues : call.venues with
      | none =>
        simp only [venues] at listed
        refine ⟨accounts, swapPrograms, one, by simpa using last, written', before.1, ?_, ?_⟩
        next => rw [listed.1, before.2.1]
        next => rw [listed.2, before.2.2]
      | some latest =>
        simp only [venues] at listed
        exact ⟨accounts, latest, one, by simp, written', listed⟩
  | charged cfg init venues signed present config ledger =>
    simp only [init, venues, Option.toList_none, List.append_nil]
    obtain ⟨accounts, swapPrograms, one, last, written, before⟩ := tracks.set cfg present
    constructor
    case unset => simp [config]
    case set =>
      intro cfg' present'
      obtain rfl := Option.some.inj (config.symm.trans present')
      rw [ledger]
      exact ⟨accounts, swapPrograms, one, last, written, before⟩

theorem configTracks_step (world : World Pubkey) (event : Event Pubkey) (inits : List (InitConfig Pubkey))
    (lists : List (List Pubkey)) (tracks : ConfigTracks world inits lists) :
    ConfigTracks (world.step event) (inits ++ accepted Call.init world event)
      (lists ++ accepted Call.venues world event) := by
  cases event with
  | call call =>
    cases outcome : world.execute call with
    | error error =>
      rw [step_error world call error outcome]
      simpa [accepted, outcome, Except.isOk, Except.toBool] using tracks
    | ok world' =>
      have moved := configTracks_call world world' call inits lists tracks (execute_config world world' call outcome)
      rw [step_ok world world' call outcome]
      simpa [accepted, outcome, Except.isOk, Except.toBool] using moved
  | tokens signed underived unassociated instructions =>
    simp only [accepted, List.append_nil, World.step]
    split
    next ledger ran =>
      refine ⟨tracks.unset, ?_⟩
      intro cfg present
      obtain ⟨accounts, swapPrograms, one, last, written, listed⟩ := tracks.set cfg present
      exact ⟨accounts, swapPrograms, one, last,
        initialised_kept _ _ _ _ _ written ⟨rfl, rfl, rfl, rfl⟩ (run_keepsMints _ _ _ _ ran), listed⟩
    next => exact tracks
  | tick clock =>
    simp only [accepted, List.append_nil]
    exact ⟨tracks.unset, tracks.set⟩

theorem configTracks_run (world : World Pubkey) (events : List (Event Pubkey)) (inits : List (InitConfig Pubkey))
    (lists : List (List Pubkey)) (tracks : ConfigTracks world inits lists) :
    ConfigTracks (world.run events) (inits ++ initCalls world events) (lists ++ venueLists world events) := by
  induction events generalizing world inits lists with
  | nil => simpa [initCalls, venueLists, observed, World.run] using tracks
  | cons event rest ih =>
    have next := ih (world.step event) _ _ (configTracks_step world event inits lists tracks)
    rw [List.append_assoc, List.append_assoc] at next
    exact next

theorem configured_signed (world : World Pubkey) (event : Event Pubkey)
    (changed : (world.step event).config ≠ world.config ∨ (world.step event).feeConfig ≠ world.feeConfig) :
    ∃ call cfg, event = .call call ∧ (world.step event).config = some cfg ∧ cfg.admin ∈ call.signers := by
  cases event with
  | call call =>
    cases outcome : world.execute call with
    | error error =>
      rw [step_error world call error outcome] at changed
      simp at changed
    | ok world' =>
      rw [step_ok world world' call outcome] at changed ⊢
      cases execute_config world world' call outcome with
      | quiet config feeConfig => simp [config, feeConfig] at changed
      | initialised accounts swapPrograms cfg init venues signed fresh config =>
        exact ⟨call, cfg, rfl, config, signed⟩
      | adjusted cfg cfg' init signed present config feeConfig ledger terms =>
        exact ⟨call, cfg', rfl, config, terms.admin ▸ signed⟩
      | charged cfg init venues signed present config => exact ⟨call, cfg, rfl, config, signed⟩
  | tokens signed underived unassociated instructions =>
    simp only [World.step] at changed
    split at changed
    next => simp at changed
    next => simp at changed
  | tick clock => simp [World.step] at changed

end Runs

-- The venues of an accepted swap come from the last accepted list.
def Latest (initial : World Pubkey) (events : List (Event Pubkey)) (swapProgram : Pubkey) : Prop :=
  ∃ swapPrograms, (venueLists initial events).getLast? = some swapPrograms ∧ swapProgram ∈ swapPrograms

theorem configuration_invariant (initial : World Pubkey) (events : List (Event Pubkey)) (fresh : initial.Initial) :
    (∀ cfg, (initial.run events).config = some cfg →
      ∃ accounts swapPrograms, initCalls initial events = [accounts] ∧
        (venueLists initial events).getLast? = some swapPrograms ∧
        cfg.Initialised accounts (initial.run events).ledger ∧ cfg.targetDecimals.toNat ≤ 12 ∧
        cfg.maxSlippageBps.toNat ≤ 10000 ∧ cfg.swapProgramCount.toNat ≤ 3 ∧
        ∀ programId, cfg.isWhitelisted programId = .ok (decide (programId ∈ swapPrograms))) ∧
    (∀ feeConfig, (initial.run events).feeConfig = some feeConfig → feeConfig.feeBps.toNat ≤ 100) ∧
    (∀ event, ((initial.run events).step event).config ≠ (initial.run events).config ∨
        ((initial.run events).step event).feeConfig ≠ (initial.run events).feeConfig →
      ∃ call cfg, event = .call call ∧ ((initial.run events).step event).config = some cfg ∧
        cfg.admin ∈ call.signers) ∧
    (∀ ctx minOut swapData venue result, executeBuy (initial.run events) ctx minOut swapData venue = .ok result →
      Latest initial events ctx.accounts.swapProgram) ∧
    ∀ ctx minOut swapData venue result, executeSell (initial.run events) ctx minOut swapData venue = .ok result →
      Latest initial events ctx.accounts.swapProgram := by
  have start : ConfigTracks initial [] [] := ⟨fun _ => rfl, by simp [fresh.1]⟩
  have tracks := configTracks_run initial events [] [] start
  have formed := reachable_wellFormed _ ⟨initial, events, fresh, rfl⟩
  have latest (cfg : Config Pubkey) (present : (initial.run events).config = some cfg) (swapProgram : Pubkey)
      (whitelisted : cfg.isWhitelisted swapProgram = .ok true) : Latest initial events swapProgram := by
    obtain ⟨accounts, swapPrograms, -, last, -, listed⟩ := tracks.set cfg present
    rw [lists_whitelisted cfg swapPrograms listed swapProgram] at whitelisted
    exact ⟨swapPrograms, last, of_decide_eq_true (Except.ok.inj whitelisted)⟩
  refine ⟨?_, ?_, ?_, ?_, ?_⟩
  next =>
    intro cfg present
    obtain ⟨accounts, swapPrograms, one, last, written, listed⟩ := tracks.set cfg present
    obtain ⟨decimals, slippage, count, -⟩ := formed.config cfg present
    exact ⟨accounts, swapPrograms, one, last, written, decimals, slippage, count,
      lists_whitelisted cfg swapPrograms listed⟩
  next => exact fun feeConfig present => (formed.feeConfig feeConfig present).capped
  next => exact fun event => configured_signed (initial.run events) event
  next =>
    intro ctx minOut swapData venue result bought
    obtain ⟨cfg, _, _, _, _, _, _, _, _, course, -⟩ := (executeBuy_ok _ _ _ _ _ _ _).mp bought
    exact latest cfg course.configLoaded _ course.whitelisted
  next =>
    intro ctx minOut swapData venue result sold
    obtain ⟨cfg, _, _, _, _, _, _, _, _, _, _, _, course, -⟩ := (executeSell_ok _ _ _ _ _ _ _).mp sold
    exact latest cfg course.configLoaded _ course.whitelisted

section Sample

-- After the list is shortened to nothing, the venue of the deployment is gone, and the padding is no venue.
def delisting : List (Event Address) :=
  Terms.dollar.setup ++ [.call (.setWhitelist (Address.context ⟨Terms.admin, .config⟩ [20]) [])]

theorem configuration_invariant_delisting :
    ∃ cfg, ((Terms.dollar.genesis fun _ => none).run delisting).config = some cfg ∧
      cfg.isWhitelisted Terms.swapProgram = .ok false ∧ cfg.isWhitelisted ProgramAddress.default = .ok false := by
  have lists : venueLists (Terms.dollar.genesis fun _ => none) delisting = [[Terms.swapProgram], []] := by decide
  obtain ⟨cfg, present⟩ : ∃ cfg, ((Terms.dollar.genesis fun _ => none).run delisting).config = some cfg :=
    Option.isSome_iff_exists.mp (by decide)
  obtain ⟨_, swapPrograms, -, last, -, -, -, -, listed⟩ :=
    (configuration_invariant (Terms.dollar.genesis fun _ => none) delisting ⟨rfl, rfl, rfl⟩).1 cfg present
  rw [lists] at last
  obtain rfl : [] = swapPrograms := Option.some.inj last
  exact ⟨cfg, present, listed Terms.swapProgram, listed ProgramAddress.default⟩

end Sample

end RecurringBuy
