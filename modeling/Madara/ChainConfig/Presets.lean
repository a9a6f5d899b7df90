import Madara.Primitives.Felt
import Mathlib.Tactic.NormNum

/-! Chain presets and the block-production timing they carry (`chain_config.rs`). A config
comes either from one of the four presets or from `ChainConfig::from_yaml`, whose
deserializer accepts any `Duration` for the two timing fields. The division in
`n_pending_ticks_per_block` panics on a zero divisor: `none`. -/
namespace Madara.Chain

/-- `std::time::Duration`. -/
structure Duration where
  secs : UInt64
  nanos : UInt32
  nanos_lt : nanos.toNat < 1000000000

/-- `Duration::from_secs`. -/
def Duration.fromSecs (secs : UInt64) : Duration := ⟨secs, 0, by decide⟩

/-- `Duration::as_millis`, a `u128`. -/
def Duration.asMillis (d : Duration) : Nat := d.secs.toNat * 1000 + d.nanos.toNat / 1000000

/-- `starknet_api::core::ChainId`. -/
inductive ChainId
  | mainnet
  | sepolia
  | integrationSepolia
  | other (name : String)
  deriving DecidableEq

/-- The fields of `ChainConfig` that the modelled functions read or the presets set apart. -/
structure ChainConfig where
  chainName : String
  chainId : ChainId
  blockTime : Duration
  pendingBlockUpdateTime : Duration
  sequencerAddress : Felt

def starknetMainnet : ChainConfig where
  chainName := "Starknet Mainnet"
  chainId := .mainnet
  blockTime := .fromSecs (6 * 60)
  pendingBlockUpdateTime := .fromSecs 2
  sequencerAddress := Felt.zero

def starknetSepolia : ChainConfig :=
  { starknetMainnet with chainName := "Starknet Sepolia", chainId := .sepolia }

def starknetIntegration : ChainConfig :=
  { starknetMainnet with chainName := "Starknet Sepolia Integration", chainId := .integrationSepolia }

def madaraDevnet : ChainConfig :=
  { starknetSepolia with
    chainName := "MADARA"
    chainId := .other "MADARA_DEVNET"
    sequencerAddress := ⟨0x211b748338b39fe8fa353819d457681aa50ac598a3db84cacdd6ece0a17e1f3,
      by norm_num [feltPrime]⟩ }

/-- `u128` division, which panics on a zero divisor. -/
def u128Div (a b : Nat) : Option Nat := if b = 0 then none else some (a / b)

/-- `as usize` on a 64-bit target. -/
def asUsize (n : Nat) : Nat := n % 2 ^ 64

def ChainConfig.nPendingTicksPerBlock (config : ChainConfig) : Option Nat :=
  (u128Div config.blockTime.asMillis config.pendingBlockUpdateTime.asMillis).map asUsize

inductive ChainPreset
  | mainnet
  | sepolia
  | integrationSepolia
  | devnet
  deriving DecidableEq

def ChainPreset.getConfig : ChainPreset → ChainConfig
  | .mainnet => starknetMainnet
  | .sepolia => starknetSepolia
  | .integrationSepolia => starknetIntegration
  | .devnet => madaraDevnet

def ChainPreset.getPresetName : ChainPreset → String
  | .mainnet => "Mainnet"
  | .sepolia => "Sepolia"
  | .integrationSepolia => "Integration"
  | .devnet => "Devnet"

def ChainPreset.fromStr (presetName : String) : Except String ChainPreset :=
  match presetName with
  | "mainnet" => .ok .mainnet
  | "sepolia" => .ok .sepolia
  | "integration-sepolia" => .ok .integrationSepolia
  | "devnet" => .ok .devnet
  | _ => .error ("Failed to get preset " ++ presetName)

def ChainConfig.fromPresetName (presetName : String) : Except String ChainConfig :=
  (ChainPreset.fromStr presetName).map ChainPreset.getConfig

theorem nPendingTicksPerBlock_eq_some {config : ChainConfig}
    (nonzero : 1 ≤ config.pendingBlockUpdateTime.asMillis) :
    config.nPendingTicksPerBlock = some (config.blockTime.asMillis /
      config.pendingBlockUpdateTime.asMillis % 2 ^ 64) := by
  simp only [ChainConfig.nPendingTicksPerBlock, u128Div, if_neg (Nat.one_le_iff_ne_zero.mp nonzero),
    Option.map_some', asUsize]

theorem nPendingTicksPerBlock_isSome_iff (config : ChainConfig) :
    config.nPendingTicksPerBlock.isSome ↔ 1 ≤ config.pendingBlockUpdateTime.asMillis := by
  by_cases zero : config.pendingBlockUpdateTime.asMillis = 0
  · simp [ChainConfig.nPendingTicksPerBlock, u128Div, zero]
  · have nonzero := Nat.one_le_iff_ne_zero.mpr zero
    simp only [nPendingTicksPerBlock_eq_some nonzero, Option.isSome_some, nonzero]

theorem nPendingTicksPerBlock_safe_iff :
    (∀ config : ChainConfig,
      config.nPendingTicksPerBlock.isSome ↔ 1 ≤ config.pendingBlockUpdateTime.asMillis) ∧
    ∀ preset : ChainPreset, preset.getConfig.nPendingTicksPerBlock = some 180 :=
  ⟨nPendingTicksPerBlock_isSome_iff, fun preset => by cases preset <;> rfl⟩

/-- `from_yaml` accepts a zero pending update time, and the division then panics. -/
theorem nPendingTicksPerBlock_zero_update_time :
    { starknetMainnet with pendingBlockUpdateTime := .fromSecs 0 }.nPendingTicksPerBlock = none :=
  rfl

end Madara.Chain
