import Nnrp.MetadataCodec
import Nnrp.PreSubmit

/-!
# Metadata of the messages about an operation

Cancel and abort requests, scheduling, supersede and budget updates, progress, partial results and
the reason of a drop: their fixed layouts and the checks on their values.
-/

namespace Nnrp.Control
open Protocol ByteOrder PreSubmit Fallible

def controlRequestMetadataLen : ℕ := 32
def schedulingMetadataLen : ℕ := 32
def supersedeMetadataLen : ℕ := 32
def budgetMetadataLen : ℕ := 40
def progressMetadataLen : ℕ := 32
def partialResultMetadataLen : ℕ := 40
def resultDropReasonMetadataLen : ℕ := 32

def controlRequestFlagsKnownMask : UInt8 := 0x03
def schedulingFlagsKnownMask : UInt32 := 0x3
def supersedeFlagsKnownMask : UInt16 := 0x1
def budgetFlagsKnownMask : UInt32 := 0x3
def partialResultFlagsKnownMask : UInt32 := 0x3
def resultDropFlagsKnownMask : UInt8 := 0x03

structure ControlRequestMetadata where
  (operationId controlSequence : UInt64)
  reasonCode : UInt16
  (sourceRole flags : UInt8)
  diagnosticBytes : UInt32
  deriving DecidableEq

structure SupersedeMetadata where
  (oldOperationId newOperationId controlSequence : UInt64)
  (dropReasonCode flags : UInt16)
  diagnosticBytes : UInt32
  deriving DecidableEq

structure BudgetMetadata where
  (operationId computeBudgetUnits memoryBudgetBytes bandwidthBudgetBytes : UInt64)
  (tokenBudget flags : UInt32)
  deriving DecidableEq

structure ProgressMetadata where
  (operationId progressSequence : UInt64)
  (stageCode percentX100 : UInt16)
  objectId : UInt64
  bodyBytes : UInt32
  deriving DecidableEq

structure PartialResultMetadata where
  (operationId resultSequence objectId deltaSequence : UInt64)
  (bodyBytes flags : UInt32)
  deriving DecidableEq

structure ResultDropReasonMetadata where
  (operationId resultSequence : UInt64)
  dropReasonCode : UInt16
  (sourceRole flags : UInt8)
  diagnosticBytes : UInt32
  deriving DecidableEq

def validatePercentX100 (value : UInt16) : Except NnrpError Unit :=
  if value ≤ 10000 ∨ value = 0xffff then .ok ()
  else .error (.invalidProtocolCombination "progress.percent_x100 must be 0..10000 or 0xffff")

def validateStandardRole (value : UInt8) : Except NnrpError Unit :=
  if value ≤ 0x07 ∨ 0x80 ≤ value then .ok ()
  else .error (.unknownEnumValue "runtime_role" value.toUInt64)

def validateControlRequestSemantics (messageType : MessageType)
    (m : ControlRequestMetadata) : Except NnrpError Unit :=
  match messageType with
  | .cancel | .abort => validateStandardRole m.sourceRole
  | _ =>
    .error (.invalidProtocolCombination "control request metadata requires CANCEL or ABORT")

def validateSchedulingSemantics (messageType : MessageType) (m : SchedulingMetadata) :
    Except NnrpError Unit :=
  match messageType with
  | .priorityUpdate => .ok ()
  | .deadline | .expireAt =>
    if m.deadlineUnixMs = 0 then
      .error (.invalidProtocolCombination "DEADLINE and EXPIRE_AT require deadline_unix_ms")
    else .ok ()
  | _ =>
    .error (.invalidProtocolCombination
      "scheduling metadata requires PRIORITY_UPDATE, DEADLINE, or EXPIRE_AT")

def validateProgressSemantics (m : ProgressMetadata) : Except NnrpError Unit :=
  if m.operationId = 0 then
    .error (.invalidProtocolCombination "PROGRESS requires a non-zero operation_id")
  else .ok ()

def validatePartialResultSemantics (m : PartialResultMetadata) : Except NnrpError Unit :=
  if m.operationId = 0 then
    .error (.invalidProtocolCombination "PARTIAL_RESULT requires a non-zero operation_id")
  else if m.flags &&& 0x2 ≠ 0 ∧ m.objectId = 0 then
    .error (.invalidProtocolCombination "PARTIAL_RESULT object-ref flag requires object_id")
  else if m.bodyBytes = 0 ∧ m.objectId = 0 then
    .error (.invalidProtocolCombination "PARTIAL_RESULT requires inline body bytes or object_id")
  else .ok ()

def validateResultDropReasonSemantics (m : ResultDropReasonMetadata) : Except NnrpError Unit :=
  if m.operationId = 0 then
    .error (.invalidProtocolCombination "RESULT_DROP_REASON requires a non-zero operation_id")
  else if m.dropReasonCode = 0 then
    .error (.invalidProtocolCombination
      "RESULT_DROP_REASON requires a non-zero drop_reason_code")
  else validateStandardRole m.sourceRole

variable (source : Bytes)

namespace ControlRequestMetadata

def parse : Except NnrpError ControlRequestMetadata := do
  requireLen source controlRequestMetadataLen
  let flags := readU8 source 19
  validateMaskU8 flags controlRequestFlagsKnownMask
  validateZeroU64 "control_request.reserved" (readU64 source 24)
  pure
    { operationId := readU64 source 0
      controlSequence := readU64 source 8
      reasonCode := readU16 source 16
      sourceRole := readU8 source 18
      flags
      diagnosticBytes := readU32 source 20 }

def write (m : ControlRequestMetadata) : Writer :=
  writeFields controlRequestMetadataLen (validateMaskU8 m.flags controlRequestFlagsKnownMask)
    [fillZero controlRequestMetadataLen, putU64 0 m.operationId, putU64 8 m.controlSequence,
      putU16 16 m.reasonCode, putU8 18 m.sourceRole, putU8 19 m.flags, putU32 20 m.diagnosticBytes]

def toBytes (m : ControlRequestMetadata) : Except NnrpError Bytes :=
  bytesOf controlRequestMetadataLen m.write

theorem codec : Canonical controlRequestMetadataLen parse write := by
  refine .of_zeroed fun src m => ?_
  cases m
  simp [parse, bind_eq_ok, controlRequestMetadataLen]
  grind

end ControlRequestMetadata

def parseScheduling : Except NnrpError SchedulingMetadata := do
  requireLen source schedulingMetadataLen
  let flags := readU32 source 28
  validateMaskU32 flags schedulingFlagsKnownMask
  pure
    { operationId := readU64 source 0
      controlSequence := readU64 source 8
      priorityClass := readU16 source 16
      priorityDelta := readI16 source 18
      deadlineUnixMs := readU64 source 20
      flags }

def writeScheduling (m : SchedulingMetadata) : Writer :=
  writeFields schedulingMetadataLen (validateMaskU32 m.flags schedulingFlagsKnownMask)
    [putU64 0 m.operationId, putU64 8 m.controlSequence, putU16 16 m.priorityClass,
      putI16 18 m.priorityDelta, putU64 20 m.deadlineUnixMs, putU32 28 m.flags]

theorem scheduling_codec : Canonical schedulingMetadataLen parseScheduling writeScheduling := by
  refine .of_fields fun src m => ?_
  cases m
  simp [parseScheduling, bind_eq_ok, schedulingMetadataLen]
  grind

namespace SupersedeMetadata

def parse : Except NnrpError SupersedeMetadata := do
  requireLen source supersedeMetadataLen
  let flags := readU16 source 26
  validateMaskU16 flags supersedeFlagsKnownMask
  pure
    { oldOperationId := readU64 source 0
      newOperationId := readU64 source 8
      controlSequence := readU64 source 16
      dropReasonCode := readU16 source 24
      flags
      diagnosticBytes := readU32 source 28 }

def write (m : SupersedeMetadata) : Writer :=
  writeFields supersedeMetadataLen (validateMaskU16 m.flags supersedeFlagsKnownMask)
    [putU64 0 m.oldOperationId, putU64 8 m.newOperationId, putU64 16 m.controlSequence,
      putU16 24 m.dropReasonCode, putU16 26 m.flags, putU32 28 m.diagnosticBytes]

def toBytes (m : SupersedeMetadata) : Except NnrpError Bytes :=
  bytesOf supersedeMetadataLen m.write

theorem codec : Canonical supersedeMetadataLen parse write := by
  refine .of_fields fun src m => ?_
  cases m
  simp [parse, bind_eq_ok, supersedeMetadataLen]
  grind

end SupersedeMetadata

namespace BudgetMetadata

def parse : Except NnrpError BudgetMetadata := do
  requireLen source budgetMetadataLen
  let flags := readU32 source 36
  validateMaskU32 flags budgetFlagsKnownMask
  pure
    { operationId := readU64 source 0
      computeBudgetUnits := readU64 source 8
      memoryBudgetBytes := readU64 source 16
      bandwidthBudgetBytes := readU64 source 24
      tokenBudget := readU32 source 32
      flags }

def write (m : BudgetMetadata) : Writer :=
  writeFields budgetMetadataLen (validateMaskU32 m.flags budgetFlagsKnownMask)
    [putU64 0 m.operationId, putU64 8 m.computeBudgetUnits, putU64 16 m.memoryBudgetBytes,
      putU64 24 m.bandwidthBudgetBytes, putU32 32 m.tokenBudget, putU32 36 m.flags]

theorem codec : Canonical budgetMetadataLen parse write := by
  refine .of_fields fun src m => ?_
  cases m
  simp [parse, bind_eq_ok, budgetMetadataLen]
  grind

end BudgetMetadata

namespace ProgressMetadata

def parse : Except NnrpError ProgressMetadata := do
  requireLen source progressMetadataLen
  let percentX100 := readU16 source 18
  validatePercentX100 percentX100
  pure
    { operationId := readU64 source 0
      progressSequence := readU64 source 8
      stageCode := readU16 source 16
      percentX100
      objectId := readU64 source 20
      bodyBytes := readU32 source 28 }

def write (m : ProgressMetadata) : Writer :=
  writeFields progressMetadataLen (validatePercentX100 m.percentX100)
    [putU64 0 m.operationId, putU64 8 m.progressSequence, putU16 16 m.stageCode,
      putU16 18 m.percentX100, putU64 20 m.objectId, putU32 28 m.bodyBytes]

def toBytes (m : ProgressMetadata) : Except NnrpError Bytes :=
  bytesOf progressMetadataLen m.write

theorem codec : Canonical progressMetadataLen parse write := by
  refine .of_fields fun src m => ?_
  cases m
  simp [parse, bind_eq_ok, progressMetadataLen]
  grind

end ProgressMetadata

namespace PartialResultMetadata

def parse : Except NnrpError PartialResultMetadata := do
  requireLen source partialResultMetadataLen
  let flags := readU32 source 36
  validateMaskU32 flags partialResultFlagsKnownMask
  pure
    { operationId := readU64 source 0
      resultSequence := readU64 source 8
      objectId := readU64 source 16
      deltaSequence := readU64 source 24
      bodyBytes := readU32 source 32
      flags }

def write (m : PartialResultMetadata) : Writer :=
  writeFields partialResultMetadataLen (validateMaskU32 m.flags partialResultFlagsKnownMask)
    [putU64 0 m.operationId, putU64 8 m.resultSequence, putU64 16 m.objectId,
      putU64 24 m.deltaSequence, putU32 32 m.bodyBytes, putU32 36 m.flags]

def toBytes (m : PartialResultMetadata) : Except NnrpError Bytes :=
  bytesOf partialResultMetadataLen m.write

theorem codec : Canonical partialResultMetadataLen parse write := by
  refine .of_fields fun src m => ?_
  cases m
  simp [parse, bind_eq_ok, partialResultMetadataLen]
  grind

end PartialResultMetadata

namespace ResultDropReasonMetadata

def parse : Except NnrpError ResultDropReasonMetadata := do
  requireLen source resultDropReasonMetadataLen
  let flags := readU8 source 19
  validateMaskU8 flags resultDropFlagsKnownMask
  validateZeroU64 "result_drop_reason.reserved" (readU64 source 24)
  pure
    { operationId := readU64 source 0
      resultSequence := readU64 source 8
      dropReasonCode := readU16 source 16
      sourceRole := readU8 source 18
      flags
      diagnosticBytes := readU32 source 20 }

def write (m : ResultDropReasonMetadata) : Writer :=
  writeFields resultDropReasonMetadataLen (validateMaskU8 m.flags resultDropFlagsKnownMask)
    [fillZero resultDropReasonMetadataLen, putU64 0 m.operationId, putU64 8 m.resultSequence,
      putU16 16 m.dropReasonCode, putU8 18 m.sourceRole, putU8 19 m.flags,
      putU32 20 m.diagnosticBytes]

def toBytes (m : ResultDropReasonMetadata) : Except NnrpError Bytes :=
  bytesOf resultDropReasonMetadataLen m.write

theorem codec : Canonical resultDropReasonMetadataLen parse write := by
  refine .of_zeroed fun src m => ?_
  cases m
  simp [parse, bind_eq_ok, resultDropReasonMetadataLen]
  grind

end ResultDropReasonMetadata

def ControlRequestMetadata.parseWithDiagnostics :
    Bytes → Except NnrpError (ControlRequestMetadata × Bytes) :=
  parseWithTail controlRequestMetadataLen parse diagnosticBytes "control_request.diagnostic_bytes"

def SupersedeMetadata.parseWithDiagnostics : Bytes → Except NnrpError (SupersedeMetadata × Bytes) :=
  parseWithTail supersedeMetadataLen parse diagnosticBytes "supersede.diagnostic_bytes"

def ProgressMetadata.parseWithBody : Bytes → Except NnrpError (ProgressMetadata × Bytes) :=
  parseWithTail progressMetadataLen parse bodyBytes "progress.body_bytes"

def PartialResultMetadata.parseWithBody :
    Bytes → Except NnrpError (PartialResultMetadata × Bytes) :=
  parseWithTail partialResultMetadataLen parse bodyBytes "partial_result.body_bytes"

def ResultDropReasonMetadata.parseWithDiagnostics :
    Bytes → Except NnrpError (ResultDropReasonMetadata × Bytes) :=
  parseWithTail resultDropReasonMetadataLen parse diagnosticBytes
    "result_drop_reason.diagnostic_bytes"

end Nnrp.Control
