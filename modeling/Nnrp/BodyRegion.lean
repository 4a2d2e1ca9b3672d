import Nnrp.ObjectMetadata
import Nnrp.ResultMetadata

/-!
# Regions of a body

The prelude that divides the body of a submit or a result into regions, and the fixed headers that
stand in these regions. Like the metadata of the two messages they are checked by one rule on both
sides.
-/

namespace Nnrp.Data
open Protocol ByteOrder Object Fallible

def bodyRegionPreludeLen : ℕ := 32
def inlineObjectBlockHeaderLen : ℕ := 16
def objectReferenceBlockLen : ℕ := 24
def extensionFrameDescriptorLen : ℕ := 16
def tensorSectionDescriptorLen : ℕ := 32
def typedPayloadDescriptorLen : ℕ := 24

structure BodyRegionPrelude where
  (inlineObjectBytes objectReferenceBytes typedPayloadDescriptorBytes typedPayloadFrameBytes
    extensionDescriptorBytes extensionPayloadBytes : UInt32)
  deriving DecidableEq

namespace BodyRegionPrelude

def validateAlignment (m : BodyRegionPrelude) : Except NnrpError Unit :=
  if m.objectReferenceBytes.toNat % objectReferenceBlockLen ≠ 0 then
    .error (.invalidProtocolCombination
      "object_reference_bytes must be a multiple of object reference block length")
  else if m.typedPayloadDescriptorBytes.toNat % typedPayloadDescriptorLen ≠ 0 then
    .error (.invalidProtocolCombination
      "typed_payload_descriptor_bytes must be a multiple of typed payload descriptor length")
  else if m.extensionDescriptorBytes.toNat % extensionFrameDescriptorLen ≠ 0 then
    .error (.invalidProtocolCombination
      "extension_descriptor_bytes must be a multiple of extension frame descriptor length")
  else .ok ()

def parse (source : Bytes) : Except NnrpError BodyRegionPrelude := do
  requireLen source bodyRegionPreludeLen
  validateZeroU32 "body_region_prelude.body_flags" (readU32 source 24)
  validateZeroU32 "body_region_prelude.reserved" (readU32 source 28)
  let prelude : BodyRegionPrelude :=
    { inlineObjectBytes := readU32 source 0
      objectReferenceBytes := readU32 source 4
      typedPayloadDescriptorBytes := readU32 source 8
      typedPayloadFrameBytes := readU32 source 12
      extensionDescriptorBytes := readU32 source 16
      extensionPayloadBytes := readU32 source 20 }
  prelude.validateAlignment
  pure prelude

def write (m : BodyRegionPrelude) : Writer :=
  writeFields bodyRegionPreludeLen m.validateAlignment
    [fillZero bodyRegionPreludeLen, putU32 0 m.inlineObjectBytes, putU32 4 m.objectReferenceBytes,
      putU32 8 m.typedPayloadDescriptorBytes, putU32 12 m.typedPayloadFrameBytes,
      putU32 16 m.extensionDescriptorBytes, putU32 20 m.extensionPayloadBytes]

theorem codec : Canonical bodyRegionPreludeLen parse write := by
  refine .of_zeroed fun src m => ?_
  cases m
  simp [parse, bind_eq_ok, readU64_eq_zero, bodyRegionPreludeLen]
  grind

end BodyRegionPrelude

structure InlineObjectBlockHeader where
  objectKind : CacheObjectKind
  (objectFlags profileId : UInt16)
  objectBytes : UInt32
  deriving DecidableEq

namespace InlineObjectBlockHeader

def parse (source : Bytes) : Except NnrpError InlineObjectBlockHeader := do
  requireLen source inlineObjectBlockHeaderLen
  let objectFlags := readU16 source 2
  validateZeroU16 "inline_object.object_flags" objectFlags
  validateZeroU16 "inline_object.reserved0" (readU16 source 6)
  validateZeroU32 "inline_object.reserved1" (readU32 source 12)
  let objectKind ← CacheObjectKind.tryFromU32 (readU16 source 0).toUInt32
  pure { objectKind, objectFlags, profileId := readU16 source 4, objectBytes := readU32 source 8 }

def write (m : InlineObjectBlockHeader) : Writer :=
  writeFields inlineObjectBlockHeaderLen
    (validateZeroU16 "inline_object.object_flags" m.objectFlags)
    [fillZero inlineObjectBlockHeaderLen, putU16 0 (CacheObjectKind.code m.objectKind).toUInt16,
      putU16 2 m.objectFlags, putU16 4 m.profileId, putU32 8 m.objectBytes]

theorem codec : Canonical inlineObjectBlockHeaderLen parse write := by
  refine .of_zeroed fun src m => ?_
  cases m
  simp [parse, bind_eq_ok, inlineObjectBlockHeaderLen]
  grind

end InlineObjectBlockHeader

structure TensorSectionDescriptor where
  roleId : UInt16
  (codecId dtypeId layoutId scalePolicy : UInt8)
  sectionFlags : UInt16
  (elementCountPerTile codecTableBytes lengthTableBytes payloadBytes payloadStrideBytes : UInt32)
  deriving DecidableEq

namespace TensorSectionDescriptor

def mixedCodec : UInt16 := 0x0001
def fixedStride : UInt16 := 0x0002
def knownFlags : UInt16 := mixedCodec ||| fixedStride

def validate (m : TensorSectionDescriptor) : Except NnrpError Unit :=
  if m.sectionFlags &&& ~~~knownFlags ≠ 0 then
    .error (.invalidProtocolCombination "tensor section flags contain unknown bits")
  else if ¬(m.codecTableBytes = 0 ↔ m.sectionFlags &&& mixedCodec = 0) then
    .error (.invalidProtocolCombination "tensor codec table presence must match MIXED_CODEC")
  else if ¬(m.payloadStrideBytes = 0 ↔ m.sectionFlags &&& fixedStride = 0) then
    .error (.invalidProtocolCombination "tensor payload stride presence must match FIXED_STRIDE")
  else if m.lengthTableBytes % 4 ≠ 0 then
    .error (.invalidProtocolCombination "tensor length table bytes must be a multiple of four")
  else .ok ()

def parse (source : Bytes) : Except NnrpError TensorSectionDescriptor := do
  requireLen source tensorSectionDescriptorLen
  validateZeroU32 "tensor_section.reserved" (readU32 source 28)
  let descriptor : TensorSectionDescriptor :=
    { roleId := readU16 source 0
      codecId := readU8 source 2
      dtypeId := readU8 source 3
      layoutId := readU8 source 4
      scalePolicy := readU8 source 5
      sectionFlags := readU16 source 6
      elementCountPerTile := readU32 source 8
      codecTableBytes := readU32 source 12
      lengthTableBytes := readU32 source 16
      payloadBytes := readU32 source 20
      payloadStrideBytes := readU32 source 24 }
  descriptor.validate
  pure descriptor

def write (m : TensorSectionDescriptor) : Writer :=
  writeFields tensorSectionDescriptorLen m.validate
    [fillZero tensorSectionDescriptorLen, putU16 0 m.roleId, putU8 2 m.codecId, putU8 3 m.dtypeId,
      putU8 4 m.layoutId, putU8 5 m.scalePolicy, putU16 6 m.sectionFlags,
      putU32 8 m.elementCountPerTile, putU32 12 m.codecTableBytes, putU32 16 m.lengthTableBytes,
      putU32 20 m.payloadBytes, putU32 24 m.payloadStrideBytes]

theorem codec : Canonical tensorSectionDescriptorLen parse write := by
  refine .of_zeroed fun src m => ?_
  cases m
  simp [parse, bind_eq_ok, tensorSectionDescriptorLen]
  grind

end TensorSectionDescriptor

structure ObjectReferenceBlock where
  objectKind : CacheObjectKind
  refFlags : UInt16
  cacheNamespace : UInt32
  (cacheKeyHi cacheKeyLo : UInt64)
  deriving DecidableEq

namespace ObjectReferenceBlock

def parse (source : Bytes) : Except NnrpError ObjectReferenceBlock := do
  requireLen source objectReferenceBlockLen
  let refFlags := readU16 source 2
  validateZeroU16 "object_reference.ref_flags" refFlags
  let objectKind ← CacheObjectKind.tryFromU32 (readU16 source 0).toUInt32
  pure
    { objectKind, refFlags
      cacheNamespace := readU32 source 4
      cacheKeyHi := readU64 source 8
      cacheKeyLo := readU64 source 16 }

/-- The flags are zero and not written. -/
def write (m : ObjectReferenceBlock) : Writer :=
  writeFields objectReferenceBlockLen (validateZeroU16 "object_reference.ref_flags" m.refFlags)
    [fillZero objectReferenceBlockLen, putU16 0 (CacheObjectKind.code m.objectKind).toUInt16,
      putU32 4 m.cacheNamespace, putU64 8 m.cacheKeyHi, putU64 16 m.cacheKeyLo]

theorem codec : Canonical objectReferenceBlockLen parse write := by
  refine .of_zeroed fun src m => ?_
  cases m
  simp [parse, bind_eq_ok, objectReferenceBlockLen]
  grind

end ObjectReferenceBlock

theorem submit_and_result_codecs_canonical :
    Canonical frameSubmitMetadataLen FrameSubmitMetadata.parse FrameSubmitMetadata.write ∧
    Canonical resultPushMetadataLen ResultPushMetadata.parse ResultPushMetadata.write ∧
    Canonical bodyRegionPreludeLen BodyRegionPrelude.parse BodyRegionPrelude.write ∧
    Canonical inlineObjectBlockHeaderLen InlineObjectBlockHeader.parse
      InlineObjectBlockHeader.write ∧
    Canonical tensorSectionDescriptorLen TensorSectionDescriptor.parse
      TensorSectionDescriptor.write ∧
    Canonical objectReferenceBlockLen ObjectReferenceBlock.parse ObjectReferenceBlock.write :=
  ⟨FrameSubmitMetadata.codec, ResultPushMetadata.codec, BodyRegionPrelude.codec,
    InlineObjectBlockHeader.codec, TensorSectionDescriptor.codec, ObjectReferenceBlock.codec⟩

end Nnrp.Data
