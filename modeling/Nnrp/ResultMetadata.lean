import Nnrp.FrameSubmit

/-!
# Metadata of results

The fixed-layout metadata of `RESULT_PUSH` with its rules on stale and partial results, and the
metadata of `RESULT_HINT`.
-/

namespace Nnrp.Data
open Protocol ByteOrder Packet Fallible

def resultPushMetadataLen : ℕ := 64
def resultHintMetadataLen : ℕ := 16
def resultFlagsKnownMask : UInt16 := 0x0007

inductive ResultClass
  | complete | partialTiles | staleReuse | degraded
  deriving DecidableEq

def ResultClass.code : ResultClass → UInt8
  | .complete => 0 | .partialTiles => 1 | .staleReuse => 2 | .degraded => 3

def ResultClass.tryFromU8 (value : UInt8) : Except NnrpError ResultClass :=
  decodeTable [(0, .complete), (1, .partialTiles), (2, .staleReuse), (3, .degraded)]
    (.unknownEnumValue "result_class" value.toUInt64) value

@[simp] theorem ResultClass.tryFromU8_eq_ok {v : UInt8} {k : ResultClass} :
    tryFromU8 v = .ok k ↔ v = k.code :=
  decodeTable_eq_ok (by decide) fun k => by cases k <;> rfl

structure ResultPushMetadata where
  (statusCode resultFlags sectionCount tileCount activeProfileId inferenceMs queueMs
    serverTotalMs : UInt16)
  (tileBaseId tileIndexBytes : UInt32)
  resultClass : ResultClass
  appliedBudgetPolicy : UInt8
  reusedFrameId : UInt32
  (coveredTileCount droppedTileCount : UInt16)
  payloadKindBitmap : UInt32
  payloadFrameCount : UInt16
  deriving DecidableEq

namespace ResultPushMetadata

variable (m : ResultPushMetadata)

def validateCoverage : Except NnrpError Unit :=
  if (m.resultClass = .partialTiles ∨ m.resultFlags &&& 0x4 ≠ 0) ∧ m.droppedTileCount = 0 then
    .error (.invalidProtocolCombination "partial RESULT_PUSH must report dropped tiles")
  else if m.coveredTileCount > m.tileCount ∨ m.droppedTileCount > m.tileCount ∨
      m.coveredTileCount.toNat + m.droppedTileCount.toNat ≠ m.tileCount.toNat then
    .error (.invalidProtocolCombination "RESULT_PUSH coverage must equal tile_count")
  else .ok ()

def validatePayloadShape : Except NnrpError Unit :=
  let isStale := m.resultClass = .staleReuse ∨ m.resultFlags &&& 0x1 ≠ 0
  if ¬(isStale ↔ m.reusedFrameId ≠ 0) then
    .error (.invalidProtocolCombination
      "RESULT_PUSH stale semantics and reused_frame_id must agree")
  else if m.payloadKindBitmap &&& payloadKindTensor ≠ 0 then m.validateCoverage
  else if m.sectionCount ≠ 0 ∨ m.tileCount ≠ 0 ∨ m.tileBaseId ≠ 0 ∨ m.tileIndexBytes ≠ 0 ∨
      m.coveredTileCount ≠ 0 ∨ m.droppedTileCount ≠ 0 then
    .error (.invalidProtocolCombination "non-tensor RESULT_PUSH must clear tensor coverage fields")
  else .ok ()

def read (source : Bytes) (resultClass : ResultClass) : ResultPushMetadata where
  statusCode := readU16 source 0
  resultFlags := readU16 source 2
  sectionCount := readU16 source 4
  tileCount := readU16 source 6
  activeProfileId := readU16 source 8
  inferenceMs := readU16 source 12
  queueMs := readU16 source 14
  serverTotalMs := readU16 source 16
  tileBaseId := readU32 source 20
  tileIndexBytes := readU32 source 24
  resultClass := resultClass
  appliedBudgetPolicy := readU8 source 45
  reusedFrameId := readU32 source 48
  coveredTileCount := readU16 source 52
  droppedTileCount := readU16 source 54
  payloadKindBitmap := readU32 source 56
  payloadFrameCount := readU16 source 60

def parse (source : Bytes) : Except NnrpError ResultPushMetadata := do
  requireLen source resultPushMetadataLen
  validateZeroU16 "result_push.reserved0" (readU16 source 10)
  validateZeroU16 "result_push.reserved1" (readU16 source 18)
  validateZeroU64 "result_push.reserved2" (readU64 source 28)
  validateZeroU64 "result_push.reserved3" (readU64 source 36)
  validateZeroU16 "result_push.reserved4" (readU16 source 46)
  validateZeroU16 "result_push.reserved5" (readU16 source 62)
  validateMaskU16 (readU16 source 2) resultFlagsKnownMask
  validateMaskU8 (readU8 source 45) budgetPolicyKnownMask
  validateMaskU32 (readU32 source 56) payloadKindKnownMask
  let resultClass ← ResultClass.tryFromU8 (readU8 source 44)
  let metadata := read source resultClass
  metadata.validatePayloadShape
  pure metadata

def write : Writer :=
  writeFields resultPushMetadataLen (do
      validateMaskU16 m.resultFlags resultFlagsKnownMask
      validateMaskU8 m.appliedBudgetPolicy budgetPolicyKnownMask
      validateMaskU32 m.payloadKindBitmap payloadKindKnownMask
      m.validatePayloadShape)
    [fillZero resultPushMetadataLen, putU16 0 m.statusCode, putU16 2 m.resultFlags,
      putU16 4 m.sectionCount, putU16 6 m.tileCount, putU16 8 m.activeProfileId,
      putU16 12 m.inferenceMs, putU16 14 m.queueMs, putU16 16 m.serverTotalMs,
      putU32 20 m.tileBaseId, putU32 24 m.tileIndexBytes, putU8 44 m.resultClass.code,
      putU8 45 m.appliedBudgetPolicy, putU32 48 m.reusedFrameId, putU16 52 m.coveredTileCount,
      putU16 54 m.droppedTileCount, putU32 56 m.payloadKindBitmap, putU16 60 m.payloadFrameCount]

def toBytes : Except NnrpError Bytes :=
  bytesOf resultPushMetadataLen m.write

theorem codec : Canonical resultPushMetadataLen parse write := by
  refine .of_zeroed fun src m => ?_
  cases m
  simp [parse, read, bind_eq_ok, resultPushMetadataLen]
  grind

end ResultPushMetadata

def validateResultDropHeader (header : CommonHeader) : Except NnrpError Unit :=
  if header.messageType ≠ .resultDrop ∨ header.metaLen ≠ 0 ∨ header.bodyLen ≠ 0 then
    .error (.invalidProtocolCombination
      "RESULT_DROP is header-only and requires meta_len=0 and body_len=0")
  else .ok ()

inductive ResultHintBudgetPolicy
  | none | full | partialTiles | staleReuse | drop
  deriving DecidableEq

def ResultHintBudgetPolicy.code (k : ResultHintBudgetPolicy) : UInt32 := UInt32.ofNat k.ctorIdx

def ResultHintBudgetPolicy.tryFromU32 (value : UInt32) : Except NnrpError ResultHintBudgetPolicy :=
  decodeTable [(0, .none), (1, .full), (2, .partialTiles), (3, .staleReuse), (4, .drop)]
    (.unknownEnumValue "result_hint_budget_policy" value.toUInt64) value

variable {v : UInt32}

@[simp] theorem ResultHintBudgetPolicy.tryFromU32_eq_ok {k : ResultHintBudgetPolicy} :
    tryFromU32 v = .ok k ↔ v = k.code :=
  decodeTable_eq_ok (by decide) fun k => by cases k <;> rfl

inductive ResultHintCongestionState
  | none | steady | elevated | saturated
  deriving DecidableEq

namespace ResultHintCongestionState

def code (k : ResultHintCongestionState) : UInt32 := UInt32.ofNat k.ctorIdx

def tryFromU32 (value : UInt32) : Except NnrpError ResultHintCongestionState :=
  decodeTable [(0, .none), (1, .steady), (2, .elevated), (3, .saturated)]
    (.unknownEnumValue "result_hint_congestion_state" value.toUInt64) value

@[simp] theorem tryFromU32_eq_ok {k : ResultHintCongestionState} :
    tryFromU32 v = .ok k ↔ v = k.code :=
  decodeTable_eq_ok (by decide) fun k => by cases k <;> rfl

end ResultHintCongestionState

inductive ResultHintReason
  | none | queueFull | serverBusy | budgetExceeded | superseded
  deriving DecidableEq

def ResultHintReason.code (k : ResultHintReason) : UInt32 := UInt32.ofNat k.ctorIdx

def ResultHintReason.tryFromU32 (value : UInt32) : Except NnrpError ResultHintReason :=
  decodeTable
    [(0, .none), (1, .queueFull), (2, .serverBusy), (3, .budgetExceeded), (4, .superseded)]
    (.unknownEnumValue "result_hint_reason" value.toUInt64) value

@[simp] theorem ResultHintReason.tryFromU32_eq_ok {k : ResultHintReason} :
    tryFromU32 v = .ok k ↔ v = k.code :=
  decodeTable_eq_ok (by decide) fun k => by cases k <;> rfl

structure ResultHintMetadata where
  appliedBudgetPolicy : ResultHintBudgetPolicy
  congestionState : ResultHintCongestionState
  reason : ResultHintReason
  retryAfterMs : UInt32
  deriving DecidableEq

def ResultHintMetadata.parse (source : Bytes) : Except NnrpError ResultHintMetadata := do
  requireLen source resultHintMetadataLen
  let appliedBudgetPolicy ← ResultHintBudgetPolicy.tryFromU32 (readU32 source 0)
  let congestionState ← ResultHintCongestionState.tryFromU32 (readU32 source 4)
  let reason ← ResultHintReason.tryFromU32 (readU32 source 8)
  pure { appliedBudgetPolicy, congestionState, reason, retryAfterMs := readU32 source 12 }

def ResultHintMetadata.write (m : ResultHintMetadata) : Writer :=
  writeFields resultHintMetadataLen (.ok ())
    [putU32 0 m.appliedBudgetPolicy.code, putU32 4 m.congestionState.code, putU32 8 m.reason.code,
      putU32 12 m.retryAfterMs]

theorem ResultHintMetadata.codec : Canonical resultHintMetadataLen parse write := by
  refine .of_fields fun src m => ?_
  cases m
  simp [parse, bind_eq_ok, resultHintMetadataLen]

end Nnrp.Data
