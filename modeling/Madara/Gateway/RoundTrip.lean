import Madara.Gateway.Receipt

/-! Both round trips between the stored and the gateway receipt. From the stored side
every field comes back, the resources whenever no optional counter holds `Some(0)`
(a zero comes back as `None`). From the gateway side every field but the fee comes back
once the receipt is in the form the stored side can express: a revert reason exactly
for reverted receipts, no output or modular builtins, and both gas fields present. Both
conditions are exact: whatever breaks one is lost on the way. -/
namespace Madara.Gateway

@[simp] theorem getD_noneIfZero (n : UInt64) : (noneIfZero n).getD 0 = n := by
  unfold noneIfZero
  split <;> simp_all

theorem noneIfZero_ne_some_zero (n : UInt64) : noneIfZero n ≠ some 0 := by
  unfold noneIfZero
  split <;> simp_all

theorem noneIfZero_getD {counter : Option UInt64} (nonzero : counter ≠ some 0) :
    noneIfZero (counter.getD 0) = counter := by
  cases counter <;> simp_all [noneIfZero]

@[simp] theorem executionResult_split (result : ExecutionResult) :
    executionResult (splitExecutionResult result).1 (splitExecutionResult result).2 = result := by
  cases result <;> rfl

theorem split_executionResult {status : ExecutionStatus} {reason : Option String}
    (agree : reason.isSome ↔ status = .reverted) :
    splitExecutionResult (executionResult status reason) = (status, reason) := by
  cases status <;> cases reason <;> simp_all [executionResult, splitExecutionResult]

theorem split_executionResult_iff {status : ExecutionStatus} {reason : Option String} :
    splitExecutionResult (executionResult status reason) = (status, reason) ↔
      (reason.isSome ↔ status = .reverted) := by
  cases status <;> cases reason <;> simp [executionResult, splitExecutionResult]

/-- None of the optional counters is `Some(0)`, the form `none_if_zero` produces. -/
structure MpExecutionResources.NoZeroCounter (resources : MpExecutionResources) : Prop where
  memoryHoles : resources.memoryHoles ≠ some 0
  rangeCheck : resources.rangeCheckBuiltinApplications ≠ some 0
  pedersen : resources.pedersenBuiltinApplications ≠ some 0
  poseidon : resources.poseidonBuiltinApplications ≠ some 0
  ecOp : resources.ecOpBuiltinApplications ≠ some 0
  ecdsa : resources.ecdsaBuiltinApplications ≠ some 0
  bitwise : resources.bitwiseBuiltinApplications ≠ some 0
  keccak : resources.keccakBuiltinApplications ≠ some 0
  segmentArena : resources.segmentArenaBuiltin ≠ some 0

theorem toMp_ofMp {resources : MpExecutionResources} (nonzero : resources.NoZeroCounter) :
    (ExecutionResources.ofMp resources).toMp = resources := by
  obtain ⟨h₁, h₂, h₃, h₄, h₅, h₆, h₇, h₈, h₉⟩ := nonzero
  simp only [ExecutionResources.ofMp, ExecutionResources.toMp, noneIfZero_getD, h₁, h₂, h₃, h₄,
    h₅, h₆, h₇, h₈, h₉, ne_eq, not_false_eq_true, Option.getD_some]

theorem toMp_ofMp_iff (resources : MpExecutionResources) :
    (ExecutionResources.ofMp resources).toMp = resources ↔ resources.NoZeroCounter := by
  refine ⟨fun back => ?_, toMp_ofMp⟩
  rw [← back]
  constructor <;> exact noneIfZero_ne_some_zero _

/-- The gateway resources the stored form can express. -/
structure ExecutionResources.Expressible (resources : ExecutionResources) : Prop where
  outputBuiltin : resources.builtinInstanceCounter.outputBuiltin = 0
  addModBuiltin : resources.builtinInstanceCounter.addModBuiltin = 0
  mulModBuiltin : resources.builtinInstanceCounter.mulModBuiltin = 0
  dataAvailability : resources.dataAvailability.isSome
  totalGasConsumed : resources.totalGasConsumed.isSome

theorem ofMp_toMp {resources : ExecutionResources} (expressible : resources.Expressible) :
    ExecutionResources.ofMp resources.toMp = resources := by
  obtain ⟨⟨_, _, _, _, _, _, _, _, _, _, _⟩, _, _, _ | _, _ | _⟩ := resources <;>
    obtain ⟨output, addMod, mulMod, available, consumed⟩ := expressible <;>
    simp_all [ExecutionResources.ofMp, ExecutionResources.toMp]

theorem expressible_of_ofMp_toMp {resources : ExecutionResources}
    (back : ExecutionResources.ofMp resources.toMp = resources) : resources.Expressible := by
  rw [← back]
  exact ⟨rfl, rfl, rfl, rfl, rfl⟩

theorem ofMp_toMp_iff (resources : ExecutionResources) :
    ExecutionResources.ofMp resources.toMp = resources ↔ resources.Expressible :=
  ⟨expressible_of_ofMp_toMp, ofMp_toMp⟩

theorem new_intoMp_agrees (conv : Conversions) (r : TransactionReceipt) (message : Option MsgToL2)
    (index : UInt64) (tx : Transaction) (same : tx.kind = r.kind) :
    let back := (ConfirmedReceipt.new r message index).intoMp conv tx
    back.kind = r.kind ∧ back.common.transactionHash = r.common.transactionHash ∧
      back.common.messagesSent = r.common.messagesSent ∧ back.common.events = r.common.events ∧
      back.common.executionResult = r.common.executionResult ∧
      (r.common.executionResources.NoZeroCounter →
        back.common.executionResources = r.common.executionResources) := by
  simp only [ConfirmedReceipt.intoMp_kind, ConfirmedReceipt.intoMp_common,
    ConfirmedReceipt.intoMpCommon, ConfirmedReceipt.new, executionResult_split]
  exact ⟨same, trivial, trivial, trivial, trivial, toMp_ofMp⟩

/-- Every fee in wei, no felt read as a `u64`, every message hashed to zero. -/
def sampleConversions : Conversions :=
  ⟨fun amount => ⟨amount, .wei⟩, fun _ => none, fun _ => Felt.zero⟩

/-- A reverted invoke receipt with some counters present. -/
def sampleReceipt : TransactionReceipt :=
  .invoke ⟨{ transactionHash := Felt.zero
             actualFee := ⟨Felt.zero, .wei⟩
             messagesSent := []
             events := []
             executionResources := ⟨100, some 3, some 7, none, none, none, none, none, none, none,
               ⟨0, 0⟩, ⟨0, 0⟩⟩
             executionResult := .reverted "out of gas" }⟩

theorem new_intoMp_agrees_sample :
    Transaction.invoke.kind = sampleReceipt.kind ∧
      let back := (ConfirmedReceipt.new sampleReceipt none 0).intoMp sampleConversions .invoke
      back.kind = sampleReceipt.kind ∧
        back.common.transactionHash = sampleReceipt.common.transactionHash ∧
        back.common.messagesSent = sampleReceipt.common.messagesSent ∧
        back.common.events = sampleReceipt.common.events ∧
        back.common.executionResult = sampleReceipt.common.executionResult ∧
        (sampleReceipt.common.executionResources.NoZeroCounter →
          back.common.executionResources = sampleReceipt.common.executionResources) :=
  ⟨rfl, new_intoMp_agrees sampleConversions sampleReceipt none 0 .invoke rfl⟩

/-- The gateway receipts the stored form can express. -/
structure ConfirmedReceipt.Admitted (c : ConfirmedReceipt) : Prop where
  revertError_iff : c.revertError.isSome ↔ c.executionStatus = .reverted
  resources : c.executionResources.Expressible

theorem intoMp_new_roundTrip (conv : Conversions) (c : ConfirmedReceipt) (tx : Transaction)
    (admitted : c.Admitted) :
    ConfirmedReceipt.new (c.intoMp conv tx) c.l1ToL2ConsumedMessage c.transactionIndex =
      { c with actualFee := (conv.feeOfFelt c.actualFee).amount } := by
  simp only [ConfirmedReceipt.new, ConfirmedReceipt.intoMp_common, ConfirmedReceipt.intoMpCommon,
    split_executionResult admitted.revertError_iff, ofMp_toMp admitted.resources]

/-- A reverted gateway receipt in the form the stored side can express. -/
def sampleGatewayReceipt : ConfirmedReceipt where
  transactionHash := Felt.zero
  transactionIndex := 4
  actualFee := Felt.zero
  executionResources :=
    ⟨⟨0, 5, 0, 0, 0, 0, 0, 0, 0, 0, 0⟩, 100, 0, some ⟨0, 0⟩, some ⟨1, 2⟩⟩
  l2ToL1Messages := []
  l1ToL2ConsumedMessage := none
  events := []
  executionStatus := .reverted
  revertError := some "out of gas"

theorem intoMp_new_roundTrip_sample :
    sampleGatewayReceipt.Admitted ∧
      ConfirmedReceipt.new (sampleGatewayReceipt.intoMp sampleConversions .declare)
          sampleGatewayReceipt.l1ToL2ConsumedMessage sampleGatewayReceipt.transactionIndex =
        { sampleGatewayReceipt with
          actualFee := (sampleConversions.feeOfFelt sampleGatewayReceipt.actualFee).amount } :=
  have admitted : sampleGatewayReceipt.Admitted :=
    ⟨by decide, rfl, rfl, rfl, rfl, rfl⟩
  ⟨admitted, intoMp_new_roundTrip sampleConversions sampleGatewayReceipt .declare admitted⟩

theorem intoMp_new_roundTrip_admitted (conv : Conversions) (c : ConfirmedReceipt)
    (tx : Transaction)
    (back : ConfirmedReceipt.new (c.intoMp conv tx) c.l1ToL2ConsumedMessage c.transactionIndex =
      { c with actualFee := (conv.feeOfFelt c.actualFee).amount }) : c.Admitted := by
  have result := congrArg (fun r => (r.executionStatus, r.revertError)) back
  have resources := congrArg ConfirmedReceipt.executionResources back
  simp only [ConfirmedReceipt.new, ConfirmedReceipt.intoMp_common,
    ConfirmedReceipt.intoMpCommon] at result resources
  exact ⟨split_executionResult_iff.mp result, expressible_of_ofMp_toMp resources⟩

theorem intoMp_new_roundTrip_admitted_sample :
    ConfirmedReceipt.new (sampleGatewayReceipt.intoMp sampleConversions .declare)
        sampleGatewayReceipt.l1ToL2ConsumedMessage sampleGatewayReceipt.transactionIndex =
      { sampleGatewayReceipt with
        actualFee := (sampleConversions.feeOfFelt sampleGatewayReceipt.actualFee).amount } ∧
      sampleGatewayReceipt.Admitted :=
  have back : ConfirmedReceipt.new (sampleGatewayReceipt.intoMp sampleConversions .declare)
        sampleGatewayReceipt.l1ToL2ConsumedMessage sampleGatewayReceipt.transactionIndex =
      { sampleGatewayReceipt with
        actualFee := (sampleConversions.feeOfFelt sampleGatewayReceipt.actualFee).amount } := rfl
  ⟨back, intoMp_new_roundTrip_admitted sampleConversions sampleGatewayReceipt .declare back⟩

end Madara.Gateway
