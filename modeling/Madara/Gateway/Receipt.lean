import Madara.Primitives.Felt

/-! Receipts as the feeder gateway serves them and as the node stores them
(`crates/primitives/gateway/src/receipt.rs`). The stored form (`mp_receipt`, outside
`src/`) is modelled from the fields this file reads and writes. The gateway keeps
builtin counters as plain `u64` and the execution result as a status beside an
optional revert reason; the stored form keeps optional counters, `None` for zero. -/
namespace Madara.Gateway

structure L1Gas where
  l1Gas : Nat
  l1DataGas : Nat
  deriving DecidableEq

instance : Inhabited L1Gas := ⟨⟨0, 0⟩⟩

/-- `mp_receipt::MsgToL1`, carried through unchanged. -/
structure MsgToL1 where
  fromAddress : Felt
  toAddress : Felt
  payload : List Felt
  deriving DecidableEq

/-- `mp_receipt::Event`, carried through unchanged. -/
structure Event where
  fromAddress : Felt
  keys : List Felt
  data : List Felt
  deriving DecidableEq

inductive PriceUnit
  | wei
  | fri
  deriving DecidableEq

structure FeePayment where
  amount : Felt
  unit : PriceUnit
  deriving DecidableEq

inductive ExecutionResult
  | succeeded
  | reverted (reason : String)
  deriving DecidableEq

structure MpExecutionResources where
  steps : UInt64
  memoryHoles : Option UInt64
  rangeCheckBuiltinApplications : Option UInt64
  pedersenBuiltinApplications : Option UInt64
  poseidonBuiltinApplications : Option UInt64
  ecOpBuiltinApplications : Option UInt64
  ecdsaBuiltinApplications : Option UInt64
  bitwiseBuiltinApplications : Option UInt64
  keccakBuiltinApplications : Option UInt64
  segmentArenaBuiltin : Option UInt64
  dataAvailability : L1Gas
  totalGasConsumed : L1Gas
  deriving DecidableEq

/-- The fields every kind of `mp_receipt` receipt has. -/
structure CommonReceipt where
  transactionHash : Felt
  actualFee : FeePayment
  messagesSent : List MsgToL1
  events : List Event
  executionResources : MpExecutionResources
  executionResult : ExecutionResult
  deriving DecidableEq

structure InvokeTransactionReceipt extends CommonReceipt
  deriving DecidableEq

structure L1HandlerTransactionReceipt extends CommonReceipt where
  messageHash : Felt
  deriving DecidableEq

structure DeclareTransactionReceipt extends CommonReceipt
  deriving DecidableEq

structure DeployTransactionReceipt extends CommonReceipt where
  contractAddress : Felt
  deriving DecidableEq

structure DeployAccountTransactionReceipt extends CommonReceipt where
  contractAddress : Felt
  deriving DecidableEq

inductive TransactionReceipt
  | invoke (r : InvokeTransactionReceipt)
  | l1Handler (r : L1HandlerTransactionReceipt)
  | declare (r : DeclareTransactionReceipt)
  | deploy (r : DeployTransactionReceipt)
  | deployAccount (r : DeployAccountTransactionReceipt)
  deriving DecidableEq

inductive Kind
  | invoke
  | l1Handler
  | declare
  | deploy
  | deployAccount
  deriving DecidableEq

namespace TransactionReceipt

def kind : TransactionReceipt → Kind
  | .invoke _ => .invoke
  | .l1Handler _ => .l1Handler
  | .declare _ => .declare
  | .deploy _ => .deploy
  | .deployAccount _ => .deployAccount

/-- What the accessors `transaction_hash()`, `actual_fee()`, `messages_sent()`,
`events()`, `execution_resources()` and `execution_result()` read. -/
def common : TransactionReceipt → CommonReceipt
  | .invoke r => r.toCommonReceipt
  | .l1Handler r => r.toCommonReceipt
  | .declare r => r.toCommonReceipt
  | .deploy r => r.toCommonReceipt
  | .deployAccount r => r.toCommonReceipt

end TransactionReceipt

/-- The gateway's `MsgToL2`, with the sender as a 160-bit address. -/
structure MsgToL2 where
  fromAddress : BitVec 160
  toAddress : Felt
  selector : Felt
  payload : List Felt
  nonce : Option Felt
  deriving DecidableEq

/-- The transaction fields the receipt conversion reads. -/
structure L1HandlerTransaction where
  contractAddress : Felt
  entryPointSelector : Felt
  nonce : Felt
  calldata : List Felt

structure DeployTransaction where
  contractAddress : Felt

inductive DeployAccountTransaction
  | v1 (contractAddress : Felt)
  | v3

/-- The gateway `Transaction`; the payloads of invoke and declare are never read here. -/
inductive Transaction
  | invoke
  | l1Handler (tx : L1HandlerTransaction)
  | declare
  | deploy (tx : DeployTransaction)
  | deployAccount (tx : DeployAccountTransaction)

def Transaction.kind : Transaction → Kind
  | .invoke => .invoke
  | .l1Handler _ => .l1Handler
  | .declare => .declare
  | .deploy _ => .deploy
  | .deployAccount _ => .deployAccount

structure BuiltinCounters where
  outputBuiltin : UInt64
  pedersenBuiltin : UInt64
  rangeCheckBuiltin : UInt64
  ecdsaBuiltin : UInt64
  bitwiseBuiltin : UInt64
  ecOpBuiltin : UInt64
  keccakBuiltin : UInt64
  poseidonBuiltin : UInt64
  segmentArenaBuiltin : UInt64
  addModBuiltin : UInt64
  mulModBuiltin : UInt64
  deriving DecidableEq

structure ExecutionResources where
  builtinInstanceCounter : BuiltinCounters
  nSteps : UInt64
  nMemoryHoles : UInt64
  dataAvailability : Option L1Gas
  totalGasConsumed : Option L1Gas
  deriving DecidableEq

inductive ExecutionStatus
  | succeeded
  | reverted
  deriving DecidableEq

structure ConfirmedReceipt where
  transactionHash : Felt
  transactionIndex : UInt64
  actualFee : Felt
  executionResources : ExecutionResources
  l2ToL1Messages : List MsgToL1
  l1ToL2ConsumedMessage : Option MsgToL2
  events : List Event
  executionStatus : ExecutionStatus
  revertError : Option String
  deriving DecidableEq

/-- `From<mp_receipt::ExecutionResources> for ExecutionResources`. -/
def ExecutionResources.ofMp (resources : MpExecutionResources) : ExecutionResources where
  builtinInstanceCounter :=
    { outputBuiltin := 0
      pedersenBuiltin := resources.pedersenBuiltinApplications.getD 0
      rangeCheckBuiltin := resources.rangeCheckBuiltinApplications.getD 0
      ecdsaBuiltin := resources.ecdsaBuiltinApplications.getD 0
      bitwiseBuiltin := resources.bitwiseBuiltinApplications.getD 0
      ecOpBuiltin := resources.ecOpBuiltinApplications.getD 0
      keccakBuiltin := resources.keccakBuiltinApplications.getD 0
      poseidonBuiltin := resources.poseidonBuiltinApplications.getD 0
      segmentArenaBuiltin := resources.segmentArenaBuiltin.getD 0
      addModBuiltin := 0
      mulModBuiltin := 0 }
  nSteps := resources.steps
  nMemoryHoles := resources.memoryHoles.getD 0
  dataAvailability := some resources.dataAvailability
  totalGasConsumed := some resources.totalGasConsumed

def noneIfZero (n : UInt64) : Option UInt64 := if n = 0 then none else some n

/-- `From<ExecutionResources> for mp_receipt::ExecutionResources`. -/
def ExecutionResources.toMp (resources : ExecutionResources) : MpExecutionResources :=
  let counters := resources.builtinInstanceCounter
  { steps := resources.nSteps
    memoryHoles := noneIfZero resources.nMemoryHoles
    rangeCheckBuiltinApplications := noneIfZero counters.rangeCheckBuiltin
    pedersenBuiltinApplications := noneIfZero counters.pedersenBuiltin
    poseidonBuiltinApplications := noneIfZero counters.poseidonBuiltin
    ecOpBuiltinApplications := noneIfZero counters.ecOpBuiltin
    ecdsaBuiltinApplications := noneIfZero counters.ecdsaBuiltin
    bitwiseBuiltinApplications := noneIfZero counters.bitwiseBuiltin
    keccakBuiltinApplications := noneIfZero counters.keccakBuiltin
    segmentArenaBuiltin := noneIfZero counters.segmentArenaBuiltin
    dataAvailability := resources.dataAvailability.getD default
    totalGasConsumed := resources.totalGasConsumed.getD default }

def executionResult (status : ExecutionStatus) (reason : Option String) : ExecutionResult :=
  match status with
  | .succeeded => .succeeded
  | .reverted => .reverted (reason.getD "")

/-- The status and revert reason `ConfirmedReceipt::new` splits an execution result into. -/
def splitExecutionResult : ExecutionResult → ExecutionStatus × Option String
  | .succeeded => (.succeeded, none)
  | .reverted reason => (.reverted, some reason)

def ConfirmedReceipt.new (transactionReceipt : TransactionReceipt)
    (l1ToL2ConsumedMessage : Option MsgToL2) (index : UInt64) : ConfirmedReceipt :=
  let r := transactionReceipt.common
  { transactionHash := r.transactionHash
    transactionIndex := index
    actualFee := r.actualFee.amount
    executionResources := .ofMp r.executionResources
    l2ToL1Messages := r.messagesSent
    l1ToL2ConsumedMessage
    events := r.events
    executionStatus := (splitExecutionResult r.executionResult).1
    revertError := (splitExecutionResult r.executionResult).2 }

/-- `starknet_core::types::MsgToL2`, the message an L1 handler transaction consumed. -/
structure CoreMsgToL2 where
  fromAddress : Felt
  toAddress : Felt
  selector : Felt
  payload : List Felt
  nonce : UInt64

/-- Functions of crates outside `src/` that the conversion calls: `mp_receipt`'s
`From<Felt> for FeePayment`, `mp_convert::felt_to_u64`, and `MsgToL2::hash` followed by
`try_into().unwrap_or_default()`. -/
structure Conversions where
  feeOfFelt : Felt → FeePayment
  feltToU64 : Felt → Option UInt64
  messageHash : CoreMsgToL2 → Felt

/-- `Felt::try_into::<EthAddress>().unwrap_or(Felt::ZERO.try_into().unwrap())`. -/
def ethAddressOrZero (felt : Felt) : Felt := if felt.val < 2 ^ 160 then felt else Felt.zero

namespace ConfirmedReceipt
variable (conv : Conversions)

/-- The fields every `into_mp_*` fills in the same way. -/
def intoMpCommon (c : ConfirmedReceipt) : CommonReceipt where
  transactionHash := c.transactionHash
  actualFee := conv.feeOfFelt c.actualFee
  messagesSent := c.l2ToL1Messages
  events := c.events
  executionResources := c.executionResources.toMp
  executionResult := executionResult c.executionStatus c.revertError

def intoMpInvoke (c : ConfirmedReceipt) : InvokeTransactionReceipt := ⟨c.intoMpCommon conv⟩

def intoMpL1Handler (c : ConfirmedReceipt) (tx : L1HandlerTransaction) :
    L1HandlerTransactionReceipt :=
  let (fromAddress, payload) := match tx.calldata with
    | [] => (Felt.zero, [])
    | a :: b => (a, b)
  let messageToL2 : CoreMsgToL2 :=
    { fromAddress := ethAddressOrZero fromAddress
      toAddress := tx.contractAddress
      selector := tx.entryPointSelector
      payload
      nonce := (conv.feltToU64 tx.nonce).getD 0 }
  { toCommonReceipt := c.intoMpCommon conv, messageHash := conv.messageHash messageToL2 }

def intoMpDeclare (c : ConfirmedReceipt) : DeclareTransactionReceipt := ⟨c.intoMpCommon conv⟩

def intoMpDeploy (c : ConfirmedReceipt) (tx : DeployTransaction) : DeployTransactionReceipt :=
  { toCommonReceipt := c.intoMpCommon conv, contractAddress := tx.contractAddress }

def intoMpDeployAccount (c : ConfirmedReceipt) (tx : DeployAccountTransaction) :
    DeployAccountTransactionReceipt :=
  { toCommonReceipt := c.intoMpCommon conv
    contractAddress := match tx with
      | .v1 contractAddress => contractAddress
      | .v3 => Felt.zero }

def intoMp (c : ConfirmedReceipt) : Transaction → TransactionReceipt
  | .invoke => .invoke (c.intoMpInvoke conv)
  | .l1Handler tx => .l1Handler (c.intoMpL1Handler conv tx)
  | .declare => .declare (c.intoMpDeclare conv)
  | .deploy tx => .deploy (c.intoMpDeploy conv tx)
  | .deployAccount tx => .deployAccount (c.intoMpDeployAccount conv tx)

@[simp] theorem intoMp_common (c : ConfirmedReceipt) (tx : Transaction) :
    (c.intoMp conv tx).common = c.intoMpCommon conv := by
  cases tx <;> rfl

@[simp] theorem intoMp_kind (c : ConfirmedReceipt) (tx : Transaction) :
    (c.intoMp conv tx).kind = tx.kind := by
  cases tx <;> rfl

end ConfirmedReceipt

end Madara.Gateway
