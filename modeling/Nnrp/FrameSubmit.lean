import Nnrp.MetadataCodec
import Nnrp.Packet

/-!
# Metadata of a submitted frame

The fixed-layout metadata of `FRAME_SUBMIT` and the rule on its tensor fields. What is written is
read back, so a packet on the wire names the operation that its submit named.
-/

namespace Nnrp.Data
open Protocol ByteOrder Fallible

def frameSubmitMetadataLen : ℕ := 72
def budgetPolicyKnownMask : UInt8 := 0x0f
def payloadKindKnownMask : UInt32 := 0x7f

inductive LossTolerancePolicy
  | strict | bestEffort | lowLatency | fireAndForget | inheritSession
  deriving DecidableEq

def LossTolerancePolicy.code : LossTolerancePolicy → UInt8
  | .strict => 0 | .bestEffort => 1 | .lowLatency => 2 | .fireAndForget => 3
  | .inheritSession => 0xff

def LossTolerancePolicy.tryFromU8 (value : UInt8) : Except NnrpError LossTolerancePolicy :=
  decodeTable
    [(0, .strict), (1, .bestEffort), (2, .lowLatency), (3, .fireAndForget), (0xff, .inheritSession)]
    (.unknownEnumValue "loss_tolerance_policy" value.toUInt64) value

variable {v : UInt8}

@[simp] theorem LossTolerancePolicy.tryFromU8_eq_ok {k : LossTolerancePolicy} :
    tryFromU8 v = .ok k ↔ v = k.code :=
  decodeTable_eq_ok (by decide) fun k => by cases k <;> rfl

inductive InputProfile
  | unspecified | changedTilesLuma | denseLumaFrame
  deriving DecidableEq

def InputProfile.code : InputProfile → UInt8
  | .unspecified => 0 | .changedTilesLuma => 1 | .denseLumaFrame => 2

def InputProfile.tryFromU8 (value : UInt8) : Except NnrpError InputProfile :=
  decodeTable [(0, .unspecified), (1, .changedTilesLuma), (2, .denseLumaFrame)]
    (.unknownEnumValue "input_profile" value.toUInt64) value

@[simp] theorem InputProfile.tryFromU8_eq_ok {k : InputProfile} :
    tryFromU8 v = .ok k ↔ v = k.code :=
  decodeTable_eq_ok (by decide) fun k => by cases k <;> rfl

inductive TileIndexMode
  | denseRange | rawU16 | deltaU16 | bitset
  deriving DecidableEq

def TileIndexMode.code : TileIndexMode → UInt8
  | .denseRange => 0 | .rawU16 => 1 | .deltaU16 => 2 | .bitset => 3

def TileIndexMode.tryFromU8 (value : UInt8) : Except NnrpError TileIndexMode :=
  decodeTable [(0, .denseRange), (1, .rawU16), (2, .deltaU16), (3, .bitset)]
    (.unknownEnumValue "tile_index_mode" value.toUInt64) value

@[simp] theorem TileIndexMode.tryFromU8_eq_ok {k : TileIndexMode} :
    tryFromU8 v = .ok k ↔ v = k.code :=
  decodeTable_eq_ok (by decide) fun k => by cases k <;> rfl

inductive SubmitMode
  | inline | reference | mixed
  deriving DecidableEq

def SubmitMode.code : SubmitMode → UInt8
  | .inline => 0 | .reference => 1 | .mixed => 2

def SubmitMode.tryFromU8 (value : UInt8) : Except NnrpError SubmitMode :=
  decodeTable [(0, .inline), (1, .reference), (2, .mixed)]
    (.unknownEnumValue "submit_mode" value.toUInt64) value

@[simp] theorem SubmitMode.tryFromU8_eq_ok {k : SubmitMode} : tryFromU8 v = .ok k ↔ v = k.code :=
  decodeTable_eq_ok (by decide) fun k => by cases k <;> rfl

def payloadKindTensor : UInt32 := 0x1

/-- The budget policy and the bitmap of payload kinds are kept as their bits. -/
structure FrameSubmitMetadata where
  (srcWidth srcHeight tileWidth tileHeight tileCount sectionCount : UInt16)
  frameClass : UInt8
  inputProfile : InputProfile
  tileIndexMode : TileIndexMode
  (latencyBudgetMs targetFpsX100 : UInt16)
  (retryOfFrame tileBaseId cameraBytes tileIndexBytes : UInt32)
  operationId : UInt64
  submitMode : SubmitMode
  budgetPolicy : UInt8
  lossTolerancePolicy : LossTolerancePolicy
  (objectRefMask dependencyFrameId payloadKindBitmap : UInt32)
  payloadFrameCount : UInt16
  deriving DecidableEq

namespace FrameSubmitMetadata

variable (m : FrameSubmitMetadata)

def validatePayloadShape : Except NnrpError Unit :=
  if m.operationId = 0 then
    .error (.invalidProtocolCombination "FRAME_SUBMIT operation_id must not be zero")
  else if m.payloadKindBitmap &&& payloadKindTensor ≠ 0 then .ok ()
  else if m.srcWidth ≠ 0 ∨ m.srcHeight ≠ 0 ∨ m.tileWidth ≠ 0 ∨ m.tileHeight ≠ 0 ∨
      m.tileCount ≠ 0 ∨ m.sectionCount ≠ 0 ∨ m.tileBaseId ≠ 0 ∨ m.cameraBytes ≠ 0 ∨
      m.tileIndexBytes ≠ 0 ∨ m.inputProfile ≠ .unspecified then
    .error (.invalidProtocolCombination "non-tensor FRAME_SUBMIT must clear tensor tile fields")
  else .ok ()

def read (source : Bytes) (inputProfile : InputProfile) (tileIndexMode : TileIndexMode)
    (submitMode : SubmitMode) (lossTolerancePolicy : LossTolerancePolicy) :
    FrameSubmitMetadata where
  srcWidth := readU16 source 0
  srcHeight := readU16 source 2
  tileWidth := readU16 source 4
  tileHeight := readU16 source 6
  tileCount := readU16 source 8
  sectionCount := readU16 source 10
  frameClass := readU8 source 12
  inputProfile := inputProfile
  tileIndexMode := tileIndexMode
  latencyBudgetMs := readU16 source 16
  targetFpsX100 := readU16 source 18
  retryOfFrame := readU32 source 20
  tileBaseId := readU32 source 24
  cameraBytes := readU32 source 28
  tileIndexBytes := readU32 source 32
  operationId := readU64 source 40
  submitMode := submitMode
  budgetPolicy := readU8 source 53
  lossTolerancePolicy := lossTolerancePolicy
  objectRefMask := readU32 source 56
  dependencyFrameId := readU32 source 60
  payloadKindBitmap := readU32 source 64
  payloadFrameCount := readU16 source 68

def parse (source : Bytes) : Except NnrpError FrameSubmitMetadata := do
  requireLen source frameSubmitMetadataLen
  validateZeroU8 "frame_submit.reserved0" (readU8 source 15)
  validateZeroU32 "frame_submit.reserved1" (readU32 source 36)
  validateZeroU32 "frame_submit.reserved2" (readU32 source 48)
  validateZeroU8 "frame_submit.reserved3" (readU8 source 55)
  validateZeroU16 "frame_submit.reserved4" (readU16 source 70)
  validateMaskU8 (readU8 source 53) budgetPolicyKnownMask
  validateMaskU32 (readU32 source 64) payloadKindKnownMask
  let inputProfile ← InputProfile.tryFromU8 (readU8 source 13)
  let tileIndexMode ← TileIndexMode.tryFromU8 (readU8 source 14)
  let submitMode ← SubmitMode.tryFromU8 (readU8 source 52)
  let lossTolerancePolicy ← LossTolerancePolicy.tryFromU8 (readU8 source 54)
  let metadata := read source inputProfile tileIndexMode submitMode lossTolerancePolicy
  metadata.validatePayloadShape
  pure metadata

def write : Writer :=
  writeFields frameSubmitMetadataLen (do
      validateMaskU8 m.budgetPolicy budgetPolicyKnownMask
      validateMaskU32 m.payloadKindBitmap payloadKindKnownMask
      m.validatePayloadShape)
    [fillZero frameSubmitMetadataLen, putU16 0 m.srcWidth, putU16 2 m.srcHeight,
      putU16 4 m.tileWidth, putU16 6 m.tileHeight, putU16 8 m.tileCount, putU16 10 m.sectionCount,
      putU8 12 m.frameClass, putU8 13 m.inputProfile.code, putU8 14 m.tileIndexMode.code,
      putU16 16 m.latencyBudgetMs, putU16 18 m.targetFpsX100, putU32 20 m.retryOfFrame,
      putU32 24 m.tileBaseId, putU32 28 m.cameraBytes, putU32 32 m.tileIndexBytes,
      putU64 40 m.operationId, putU8 52 m.submitMode.code, putU8 53 m.budgetPolicy,
      putU8 54 m.lossTolerancePolicy.code, putU32 56 m.objectRefMask, putU32 60 m.dependencyFrameId,
      putU32 64 m.payloadKindBitmap, putU16 68 m.payloadFrameCount]

def toBytes : Except NnrpError Bytes :=
  bytesOf frameSubmitMetadataLen m.write

theorem codec : Canonical frameSubmitMetadataLen parse write := by
  refine .of_zeroed fun src m => ?_
  cases m
  simp [parse, read, bind_eq_ok, frameSubmitMetadataLen]
  grind

end FrameSubmitMetadata

end Nnrp.Data
