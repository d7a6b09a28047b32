import RecurringBuy.Keeper.Accounts
import RecurringBuy.Keeper.Encoding
import RecurringBuy.Program.Wire

set_option autoImplicit false

namespace RecurringBuy

open ProgramAddress LittleEndian

section Accounts

variable {Pubkey : Type} (format : AnchorFormat Pubkey)

/-- The program accepts `data` as this account. -/
def AnchorFormat.Reads (data : List UInt8) : StoredAccount Pubkey → Prop
  | .config cfg => format.readConfig data = some cfg
  | .feeConfig feeConfig => format.readFeeConfig data = some feeConfig
  | .sellPlan plan => format.readSellPlan data = some plan

theorem decoded_exact {α : Type} (codec : Codec α) (data : List UInt8) (value : α) :
    (codec.decode data).map Prod.fst = some value ↔ ∃ rest, data = codec.encode value ++ rest := by
  simp only [Option.map_eq_some_iff, Prod.exists, exists_and_right, exists_eq_right, codec.exact]

theorem reads_iff (data : List UInt8) (account : StoredAccount Pubkey) :
    format.Reads data account ↔ ∃ rest, data = format.write account ++ rest := by
  cases account with
  | config cfg => exact decoded_exact format.configCodec data cfg
  | feeConfig feeConfig => exact decoded_exact format.feeConfigCodec data feeConfig
  | sellPlan plan => exact decoded_exact format.sellPlanCodec data plan

def AnchorFormat.discriminator : StoredAccount Pubkey → Vector UInt8 8
  | .config _ => format.config
  | .feeConfig _ => format.feeConfig
  | .sellPlan _ => format.sellPlan

theorem write_discriminator (account : StoredAccount Pubkey) (rest : List UInt8) :
    (format.write account ++ rest).take 8 = (format.discriminator account).toList := by
  have front (tag : Vector UInt8 8) {α : Type} (codec : Codec α) (value : α) :
      ((codec.tagged tag.toList).encode value ++ rest).take 8 = tag.toList := by
    rw [Codec.tagged, List.append_assoc]
    exact List.take_left' Vector.length_toList
  cases account with
  | config cfg => exact front format.config _ cfg
  | feeConfig feeConfig => exact front format.feeConfig _ feeConfig
  | sellPlan plan => exact front format.sellPlan _ plan

theorem write_inj (first second : StoredAccount Pubkey) (rest rest' : List UInt8)
    (same : format.write first ++ rest = format.write second ++ rest') : first = second := by
  have tags : format.discriminator first = format.discriminator second := by
    apply Vector.toList_inj.mp
    rw [← write_discriminator format first rest, same, write_discriminator]
  have config_ne_feeConfig := format.config_ne_feeConfig
  have config_ne_sellPlan := format.config_ne_sellPlan
  have feeConfig_ne_sellPlan := format.feeConfig_ne_sellPlan
  cases first with
  | config cfg =>
    cases second with
    | config cfg' => rw [(format.configCodec.encode_inj cfg cfg' rest rest' same).1]
    | feeConfig _ => exact absurd tags config_ne_feeConfig
    | sellPlan _ => exact absurd tags config_ne_sellPlan
  | feeConfig feeConfig =>
    cases second with
    | config _ => exact absurd tags.symm config_ne_feeConfig
    | feeConfig feeConfig' => rw [(format.feeConfigCodec.encode_inj feeConfig feeConfig' rest rest' same).1]
    | sellPlan _ => exact absurd tags feeConfig_ne_sellPlan
  | sellPlan plan =>
    cases second with
    | config _ => exact absurd tags.symm config_ne_sellPlan
    | feeConfig _ => exact absurd tags.symm feeConfig_ne_sellPlan
    | sellPlan plan' => rw [(format.sellPlanCodec.encode_inj plan plan' rest rest' same).1]

/-- What is accepted was written, whatever follows it, and nothing is accepted as two accounts. -/
theorem accounts_exact (data : List UInt8) :
    (∀ account, format.Reads data account ↔ ∃ rest, data = format.write account ++ rest) ∧
      ∃ stored : Option (StoredAccount Pubkey), ∀ account, format.Reads data account ↔ stored = some account := by
  refine ⟨reads_iff format data, ?_⟩
  by_cases accepted : ∃ account, format.Reads data account
  next =>
    obtain ⟨account, reads⟩ := accepted
    obtain ⟨rest, written⟩ := (reads_iff format data account).mp reads
    refine ⟨some account, fun other => ⟨?_, ?_⟩⟩
    next =>
      intro reads'
      obtain ⟨rest', written'⟩ := (reads_iff format data other).mp reads'
      rw [write_inj format account other rest rest' (written.symm.trans written')]
    next =>
      intro same
      obtain rfl := Option.some.inj same
      exact reads
  next =>
    refine ⟨none, fun other => ⟨fun reads => absurd ⟨other, reads⟩ accepted, ?_⟩⟩
    intro same
    cases same

def ownConfig : Config (Vector UInt8 32) :=
  { admin := Vector.replicate 32 1
    targetMint := Vector.replicate 32 2
    usdcMint := Vector.replicate 32 3
    swapPrograms := Vector.replicate maxSwapPrograms (Vector.replicate 32 4)
    swapProgramCount := 1
    priceRefMicros := 1000000
    targetDecimals := 6
    maxSlippageBps := 100
    paused := false
    bump := 255 }

def spare : List UInt8 := AnchorFormat.solana.write (.config ownConfig) ++ [7, 7]

theorem accounts_exact_spare :
    (spare.take 8 = [155, 12, 170, 224, 30, 250, 204, 130] ∧ spare.length = 216) ∧
      AnchorFormat.solana.Reads spare (.config ownConfig) ∧
      ∀ account, AnchorFormat.solana.Reads spare account → account = .config ownConfig := by
  obtain ⟨exact, stored, only⟩ := accounts_exact AnchorFormat.solana spare
  have reads := (exact (.config ownConfig)).mpr ⟨[7, 7], rfl⟩
  refine ⟨⟨by decide +kernel, by decide +kernel⟩, reads, ?_⟩
  intro account reads'
  have here := (only _).mp reads
  rw [(only account).mp reads'] at here
  exact Option.some.inj here

def AnchorFormat.layout : AccountFormat Pubkey where
  keyBytes := format.key.symm
  feeConfigDiscriminator := format.feeConfig
  sellPlanDiscriminator := format.sellPlan

theorem encode_key (key : Pubkey) : format.keyCodec.encode key = (format.key.symm key).toList := by
  show (format.key.symm key).toList.flatMap Codec.byte.encode = _
  generalize (format.key.symm key).toList = bytes
  induction bytes with
  | nil => rfl
  | cons byte rest ih =>
    rw [List.flatMap_cons, ih]
    rfl

theorem write_feeConfig (feeConfig : FeeConfig Pubkey) :
    format.write (.feeConfig feeConfig) = format.layout.feeConfigData feeConfig := by
  have key := encode_key format feeConfig.destination
  simp only [AccountFormat.feeConfigData, AccountFormat.feeConfigFields, AnchorFormat.layout, List.flatten_cons,
    List.flatten_nil, List.append_nil, ← key]
  rfl

theorem write_sellPlan (plan : SellPlan Pubkey) :
    format.write (.sellPlan plan) = format.layout.sellPlanData plan := by
  have key := encode_key format plan.user
  simp only [AccountFormat.sellPlanData, AccountFormat.sellPlanFields, AnchorFormat.layout, List.flatten_cons,
    List.flatten_nil, List.append_nil, ← key, ← Codec.encode_i64]
  rfl

end Accounts

section Daemon

variable {Key Pubkey : Type} [ProgramAddress Key] (format : AnchorFormat Pubkey)

omit [ProgramAddress Key] in
theorem readBigInt64LE_prefix (data rest : List UInt8) (offset : Nat) (n : Int)
    (found : Buffer.readBigInt64LE data offset = some n) : Buffer.readBigInt64LE (data ++ rest) offset = some n := by
  simp only [Buffer.readBigInt64LE, Option.map_eq_some_iff] at found ⊢
  obtain ⟨field, stored, value⟩ := found
  exact ⟨field, PackedRecord.slice_prefix _ rest _ _ field stored, value⟩

/-- What the daemon reads of a plan or of the fee, from any bytes that the program accepts as one. `Key` is the daemon's
type of addresses. -/
theorem daemon_reads (getAccountInfo : Key → Option (List UInt8)) (data : List UInt8) :
    (∀ (user : Key) (plan : SellPlan Pubkey), getAccountInfo (sellPlanPda user) = some data →
      format.readSellPlan data = some plan →
      Rpc.fetchSellPlan getAccountInfo user = some (some
        { pda := sellPlanPda user
          endTs := .ofBigInt plan.endTs.toInt
          periodSecs := .ofBigInt plan.periodSecs.toInt
          nextDueTs := .ofBigInt plan.nextDueTs.toInt })) ∧
    (∀ (feeConfig : FeeConfig Pubkey) (base58 : List UInt8 → Key), format.readFeeConfig data = some feeConfig →
      Rpc.loadFeeConfig base58 (some data) =
        some { bps := feeConfig.feeBps.toNat
               destination := some (base58 (format.key.symm feeConfig.destination).toList) }) := by
  constructor
  next =>
    intro user plan present accepted
    obtain ⟨rest, written⟩ := (reads_iff format data (.sellPlan plan)).mp accepted
    rw [write_sellPlan] at written
    have endTs := readBigInt64LE_plan format.layout plan 2 40 plan.endTs rfl rfl rfl
    have periodSecs := readBigInt64LE_plan format.layout plan 3 48 plan.periodSecs rfl rfl rfl
    have nextDueTs := readBigInt64LE_plan format.layout plan 4 56 plan.nextDueTs rfl rfl rfl
    have readAt (offset : Nat) (n : Int) := readBigInt64LE_prefix (format.layout.sellPlanData plan) rest offset n
    rw [← written] at readAt
    simp only [Rpc.fetchSellPlan, present, readAt _ _ endTs, readAt _ _ periodSecs, readAt _ _ nextDueTs,
      Option.bind_eq_bind, Option.bind_some, Option.pure_def]
  next =>
    intro feeConfig base58 accepted
    obtain ⟨rest, written⟩ := (reads_iff format data (.feeConfig feeConfig)).mp accepted
    rw [write_feeConfig] at written
    have sized := format.layout.feeConfig_widths feeConfig
    have stored (index start width : Nat) (field : List UInt8) (found) (before) (wide) :=
      PackedRecord.slice_prefix _ rest _ _ _
        (PackedRecord.slice_field _ _ sized index field found start width before wide)
    have bps : Buffer.readUInt16LE data 8 = some feeConfig.feeBps.toNat := by
      rw [written]
      exact Buffer.readUInt16LE_slice _ _ _ (stored 1 8 2 _ rfl rfl rfl)
    have destination : Buffer.subarray data 10 42 = (format.key.symm feeConfig.destination).toList := by
      rw [written]
      exact Buffer.subarray_slice _ 10 32 42 _ rfl (stored 2 10 32 _ rfl rfl rfl)
    simp only [Rpc.loadFeeConfig, bps, destination, Option.bind_eq_bind, Option.bind_some, Option.pure_def]

end Daemon

section Instructions

variable (discriminator : Vector UInt8 8)

-- What a 64-bit field holds of a BigInt.
def low64 (v : Int) : UInt64 := UInt64.ofNat (v % 2 ^ 64).toNat

theorem low64_exact (v : Int) : ((low64 v).toNat : Int) = v ↔ 0 ≤ v ∧ v < 2 ^ 64 := by
  have value : (low64 v).toNat = (v % 2 ^ 64).toNat := UInt64.toNat_ofNat_of_lt' (show (v % 2 ^ 64).toNat < 2 ^ 64 by omega)
  rw [value]
  omega

theorem decode_u64 (v : Int) (rest : List UInt8) :
    LittleEndian.decode 8 (u64Bytes v ++ rest) = some ((v % 2 ^ 64).toNat, rest) :=
  LittleEndian.decode_encode 8 _ rest (by omega)

theorem decode_u32 (length : Nat) (rest : List UInt8) :
    LittleEndian.decode 4 (u32Bytes length ++ rest) = some (length % 2 ^ 32, rest) := by
  have width : ((256 ^ 4 : Nat) : Int) = 2 ^ 32 := by norm_num
  have value : ((length : Int) % 2 ^ 32).toNat = length % 2 ^ 32 := by omega
  rw [u32Bytes, ← encodeInt_nat, encodeInt, width, value]
  exact decode_encode 4 _ rest (by omega)

theorem execData_arrives (minOut : Int) (swapData : List UInt8) :
    executeArguments discriminator (Daemon.execData discriminator minOut swapData) =
      some (low64 minOut, swapData.take (swapData.length % 2 ^ 32)) := by
  have short := Nat.mod_le swapData.length (2 ^ 32)
  generalize remainder : swapData.length % 2 ^ 32 = length at short
  have counted := decode_u32 swapData.length swapData
  rw [remainder] at counted
  rw [Daemon.execData, List.append_assoc, List.append_assoc, executeArguments, dispatch_append, Option.bind_eq_bind,
    Option.bind_some, decode_u64, Option.bind_eq_bind, Option.bind_some]
  simp only [counted, Option.bind_eq_bind, Option.bind_some, guard, if_pos short, Option.pure_def, low64]

theorem cat_execData (minOut : Int) (swapData : List UInt8) :
    cat [discriminator.toList, u64 minOut, u32 swapData.length, swapData] =
      some (Daemon.execData discriminator minOut swapData) := by
  rw [cat_flatten, u64_bytes, u32_bytes]
  simp [Daemon.execData]

variable {Pubkey : Type} [ProgramAddress Pubkey] (daemon : Daemon Pubkey)

theorem cat_mockSwapData (amountIn out : Int) :
    cat [daemon.mockSwap.discriminator.toList, u64 amountIn, u64 out] = some (daemon.mockSwapData amountIn out) := by
  rw [cat_flatten, u64_bytes, u64_bytes]
  simp [Daemon.mockSwapData]

theorem mockSwapData_arrives (amountIn out : Int) :
    daemon.mockSwap.arguments (daemon.mockSwapData amountIn out) = some (low64 amountIn, low64 out) := by
  have ended := decode_u64 out []
  rw [List.append_nil] at ended
  simp only [MockSwap.arguments, Daemon.mockSwapData, List.append_assoc, dispatch_append, decode_u64, ended,
    Option.bind_eq_bind, Option.bind_some, Option.pure_def, low64]

/-- The daemon's bytes for an execute call and for the mock venue inside it, and what arrives on chain. -/
theorem instruction_bytes (minOut amountIn out : Int) (swapData : List UInt8) :
    (∃ data, cat [discriminator.toList, u64 minOut, u32 swapData.length, swapData] = some data ∧
      executeArguments discriminator data = some (low64 minOut, swapData.take (swapData.length % 2 ^ 32)) ∧
      ((∃ received, executeArguments discriminator data = some (received, swapData) ∧ (received.toNat : Int) = minOut) ↔
        (0 ≤ minOut ∧ minOut < 2 ^ 64) ∧ swapData.length < 2 ^ 32)) ∧
    ∃ data, cat [daemon.mockSwap.discriminator.toList, u64 amountIn, u64 out] = some data ∧
      daemon.mockSwap.arguments data = some (low64 amountIn, low64 out) ∧
      ((∃ taken paid, daemon.mockSwap.arguments data = some (taken, paid) ∧ (taken.toNat : Int) = amountIn ∧
          (paid.toNat : Int) = out) ↔
        (0 ≤ amountIn ∧ amountIn < 2 ^ 64) ∧ 0 ≤ out ∧ out < 2 ^ 64) := by
  constructor
  next =>
    have arrives := execData_arrives discriminator minOut swapData
    refine ⟨_, cat_execData discriminator minOut swapData, arrives, ?_⟩
    simp only [arrives, Option.some.injEq, Prod.mk.injEq, ← low64_exact minOut]
    constructor
    next =>
      rintro ⟨_, ⟨rfl, whole⟩, exactly⟩
      refine ⟨exactly, ?_⟩
      have length := congrArg List.length whole
      rw [List.length_take_of_le (Nat.mod_le _ _)] at length
      omega
    next =>
      rintro ⟨exactly, short⟩
      refine ⟨_, ⟨rfl, ?_⟩, exactly⟩
      rw [Nat.mod_eq_of_lt short, List.take_length]
  next =>
    have arrives := mockSwapData_arrives daemon amountIn out
    refine ⟨_, cat_mockSwapData daemon amountIn out, arrives, ?_⟩
    simp only [arrives, Option.some.injEq, Prod.mk.injEq, ← low64_exact]
    constructor
    next =>
      rintro ⟨_, _, ⟨rfl, rfl⟩, exactly⟩
      exact exactly
    next =>
      rintro exactly
      exact ⟨_, _, ⟨rfl, rfl⟩, exactly⟩

end Instructions

end RecurringBuy
