import Nnrp.MetadataCodec
import Nnrp.Packet

/-!
# Metadata of object and cache messages

The fixed layouts of the messages that announce, reference, release and change runtime objects, and
of those about cached objects.
-/

namespace Nnrp.Object
open Protocol ByteOrder Fallible

def objectDescriptorMetadataLen : ℕ := 48
def objectReferenceMetadataLen : ℕ := 48
def objectReleaseMetadataLen : ℕ := 32
def objectDeltaMetadataLen : ℕ := 40
def cacheReferenceMetadataLen : ℕ := 56
def cacheMissMetadataLen : ℕ := 32
def cacheInvalidateMetadataLen : ℕ := 32
def cachePutMetadataLen : ℕ := 40
def cacheAckMetadataLen : ℕ := 40

def objectReferenceFlagsKnownMask : UInt32 := 0x7
def objectReleaseFlagsKnownMask : UInt8 := 0x03
def objectDeltaFlagsKnownMask : UInt32 := 0x7
def cacheReferenceFlagsKnownMask : UInt32 := 0x3
def cachePutFlagsKnownMask : UInt32 := 0x3

inductive RuntimeObjectKind
  | unspecified | tensor | tokenBlock | imageTile | featureMap | toolResult | traceSegment
  | opaqueBytes | documentChunk | audioChunk | videoChunk | routePlan | cacheManifest
  deriving DecidableEq

def RuntimeObjectKind.code (k : RuntimeObjectKind) : UInt16 := UInt16.ofNat k.ctorIdx

def RuntimeObjectKind.tryFromU16 (value : UInt16) : Except NnrpError RuntimeObjectKind :=
  decodeTable
    [(0x0, .unspecified), (0x1, .tensor), (0x2, .tokenBlock), (0x3, .imageTile), (0x4, .featureMap),
      (0x5, .toolResult), (0x6, .traceSegment), (0x7, .opaqueBytes), (0x8, .documentChunk),
      (0x9, .audioChunk), (0xa, .videoChunk), (0xb, .routePlan), (0xc, .cacheManifest)]
    (.unknownEnumValue "runtime_object_kind" value.toUInt64) value

variable {v : UInt16}

@[simp] theorem RuntimeObjectKind.tryFromU16_eq_ok {k : RuntimeObjectKind} :
    tryFromU16 v = .ok k ↔ v = k.code :=
  decodeTable_eq_ok (by decide) fun k => by cases k <;> rfl

inductive RuntimeRole
  | unspecified | client | server | runtime | subagent | tool | scheduler | conformanceRunner
  deriving DecidableEq

def RuntimeRole.code (k : RuntimeRole) : UInt8 := UInt8.ofNat k.ctorIdx

def RuntimeRole.tryFromU8 (value : UInt8) : Except NnrpError RuntimeRole :=
  decodeTable
    [(0, .unspecified), (1, .client), (2, .server), (3, .runtime), (4, .subagent), (5, .tool),
      (6, .scheduler), (7, .conformanceRunner)]
    (.unknownEnumValue "runtime_role" value.toUInt64) value

@[simp] theorem RuntimeRole.tryFromU8_eq_ok {v : UInt8} {k : RuntimeRole} :
    tryFromU8 v = .ok k ↔ v = k.code :=
  decodeTable_eq_ok (by decide) fun k => by cases k <;> rfl

inductive MemoryLocationHint
  | unspecified | hostMemory | deviceMemory | sharedMemory | remoteMemory | mmapFile | objectStore
  deriving DecidableEq

def MemoryLocationHint.code (k : MemoryLocationHint) : UInt16 := UInt16.ofNat k.ctorIdx

def MemoryLocationHint.tryFromU16 (value : UInt16) : Except NnrpError MemoryLocationHint :=
  decodeTable
    [(0, .unspecified), (1, .hostMemory), (2, .deviceMemory), (3, .sharedMemory),
      (4, .remoteMemory), (5, .mmapFile), (6, .objectStore)]
    (.unknownEnumValue "memory_location_hint" value.toUInt64) value

@[simp] theorem MemoryLocationHint.tryFromU16_eq_ok {k : MemoryLocationHint} :
    tryFromU16 v = .ok k ↔ v = k.code :=
  decodeTable_eq_ok (by decide) fun k => by cases k <;> rfl

inductive OwnershipHint
  | unspecified | producerOwned | consumerOwned | sessionOwned | borrowed | transferOnRef
  | releaseOnDrop
  deriving DecidableEq

def OwnershipHint.code (k : OwnershipHint) : UInt16 := UInt16.ofNat k.ctorIdx

def OwnershipHint.tryFromU16 (value : UInt16) : Except NnrpError OwnershipHint :=
  decodeTable
    [(0, .unspecified), (1, .producerOwned), (2, .consumerOwned), (3, .sessionOwned),
      (4, .borrowed), (5, .transferOnRef), (6, .releaseOnDrop)]
    (.unknownEnumValue "ownership_hint" value.toUInt64) value

@[simp] theorem OwnershipHint.tryFromU16_eq_ok {k : OwnershipHint} :
    tryFromU16 v = .ok k ↔ v = k.code :=
  decodeTable_eq_ok (by decide) fun k => by cases k <;> rfl

inductive ObjectReleaseReason
  | completed | cancelled | expired | replaced | invalidated | ownerClosed | leaseExpired
  | conformanceInjection
  deriving DecidableEq

def ObjectReleaseReason.code (k : ObjectReleaseReason) : UInt16 := UInt16.ofNat k.ctorIdx

def ObjectReleaseReason.tryFromU16 (value : UInt16) : Except NnrpError ObjectReleaseReason :=
  decodeTable
    [(0, .completed), (1, .cancelled), (2, .expired), (3, .replaced), (4, .invalidated),
      (5, .ownerClosed), (6, .leaseExpired), (7, .conformanceInjection)]
    (.unknownEnumValue "object_release_reason" value.toUInt64) value

@[simp] theorem ObjectReleaseReason.tryFromU16_eq_ok {k : ObjectReleaseReason} :
    tryFromU16 v = .ok k ↔ v = k.code :=
  decodeTable_eq_ok (by decide) fun k => by cases k <;> rfl

inductive CacheReuseScope
  | operation | session | connection | global | tenant | profile
  deriving DecidableEq

def CacheReuseScope.code (k : CacheReuseScope) : UInt16 := UInt16.ofNat k.ctorIdx

def CacheReuseScope.tryFromU16 (value : UInt16) : Except NnrpError CacheReuseScope :=
  decodeTable
    [(0, .operation), (1, .session), (2, .connection), (3, .global), (4, .tenant), (5, .profile)]
    (.unknownEnumValue "cache_reuse_scope" value.toUInt64) value

@[simp] theorem CacheReuseScope.tryFromU16_eq_ok {k : CacheReuseScope} :
    tryFromU16 v = .ok k ↔ v = k.code :=
  decodeTable_eq_ok (by decide) fun k => by cases k <;> rfl

inductive CacheMissReason
  | unknown | notFound | expired | invalidated | schemaMismatch | producerUnavailable
  | leaseRequired | permissionDenied
  deriving DecidableEq

def CacheMissReason.code (k : CacheMissReason) : UInt16 := UInt16.ofNat k.ctorIdx

def CacheMissReason.tryFromU16 (value : UInt16) : Except NnrpError CacheMissReason :=
  decodeTable
    [(0, .unknown), (1, .notFound), (2, .expired), (3, .invalidated), (4, .schemaMismatch),
      (5, .producerUnavailable), (6, .leaseRequired), (7, .permissionDenied)]
    (.unknownEnumValue "cache_miss_reason" value.toUInt64) value

@[simp] theorem CacheMissReason.tryFromU16_eq_ok {k : CacheMissReason} :
    tryFromU16 v = .ok k ↔ v = k.code :=
  decodeTable_eq_ok (by decide) fun k => by cases k <;> rfl

inductive CacheInvalidateScope
  | wholeSession | byNamespace | objectKind | objectKey
  deriving DecidableEq

def CacheInvalidateScope.code (k : CacheInvalidateScope) : UInt32 := UInt32.ofNat k.ctorIdx

def CacheInvalidateScope.tryFromU32 (value : UInt32) : Except NnrpError CacheInvalidateScope :=
  decodeTable [(0, .wholeSession), (1, .byNamespace), (2, .objectKind), (3, .objectKey)]
    (.unknownEnumValue "cache_invalidate_scope" value.toUInt64) value

@[simp] theorem CacheInvalidateScope.tryFromU32_eq_ok {v : UInt32} {k : CacheInvalidateScope} :
    tryFromU32 v = .ok k ↔ v = k.code :=
  decodeTable_eq_ok (by decide) fun k => by cases k <;> rfl

namespace CacheObjectKind

def code : CacheObjectKind → UInt32
  | .cameraBlock => 1 | .tileIndexBlock => 2 | .tensorSectionTable => 3 | .codecTable => 4
  | .reusableResultObject => 5 | .payloadLayoutTemplate => 6 | .promptSegment => 7
  | .toolSchema => 8 | .structuredEventSchema => 9

def tryFromU32 (value : UInt32) : Except NnrpError CacheObjectKind :=
  decodeTable
    [(0x1, .cameraBlock), (0x2, .tileIndexBlock), (0x3, .tensorSectionTable), (0x4, .codecTable),
      (0x5, .reusableResultObject), (0x6, .payloadLayoutTemplate), (0x7, .promptSegment),
      (0x8, .toolSchema), (0x9, .structuredEventSchema)]
    (.unknownEnumValue "cache_object_kind" value.toUInt64) value

variable {k : CacheObjectKind}

@[simp] theorem tryFromU32_eq_ok {v : UInt32} : tryFromU32 v = .ok k ↔ v = code k :=
  decodeTable_eq_ok (by decide) fun k => by cases k <;> rfl

@[simp high] theorem tryFromU32_toUInt32_eq_ok :
    tryFromU32 v.toUInt32 = .ok k ↔ v = (code k).toUInt16 := by
  rw [tryFromU32_eq_ok, ← UInt32.toNat_inj, ← UInt16.toNat_inj]
  cases k <;> rfl

end CacheObjectKind

inductive CacheAckStatus
  | accepted | rejected | replaced
  deriving DecidableEq

def CacheAckStatus.code (k : CacheAckStatus) : UInt32 := UInt32.ofNat k.ctorIdx

def CacheAckStatus.tryFromU32 (value : UInt32) : Except NnrpError CacheAckStatus :=
  decodeTable [(0, .accepted), (1, .rejected), (2, .replaced)]
    (.unknownEnumValue "cache_ack_status" value.toUInt64) value

@[simp] theorem CacheAckStatus.tryFromU32_eq_ok {v : UInt32} {k : CacheAckStatus} :
    tryFromU32 v = .ok k ↔ v = k.code :=
  decodeTable_eq_ok (by decide) fun k => by cases k <;> rfl

structure ObjectDescriptorMetadata where
  objectId : UInt64
  objectKind : RuntimeObjectKind
  (producerRole consumerRole : RuntimeRole)
  sessionId : UInt32
  byteSize : UInt64
  computeCostUnits : UInt32
  memoryLocationHint : MemoryLocationHint
  ownershipHint : OwnershipHint
  (lifetimeHintMs metadataBytes : UInt32)
  deriving DecidableEq

variable (source : Bytes)

namespace ObjectDescriptorMetadata

def parse :
    Except NnrpError ObjectDescriptorMetadata := do
  requireLen source objectDescriptorMetadataLen
  validateZeroU64 "object_descriptor.reserved" (readU64 source 40)
  let objectKind ← RuntimeObjectKind.tryFromU16 (readU16 source 8)
  let producerRole ← RuntimeRole.tryFromU8 (readU8 source 10)
  let consumerRole ← RuntimeRole.tryFromU8 (readU8 source 11)
  let memoryLocationHint ← MemoryLocationHint.tryFromU16 (readU16 source 28)
  let ownershipHint ← OwnershipHint.tryFromU16 (readU16 source 30)
  pure
    { objectId := readU64 source 0
      objectKind, producerRole, consumerRole
      sessionId := readU32 source 12
      byteSize := readU64 source 16
      computeCostUnits := readU32 source 24
      memoryLocationHint, ownershipHint
      lifetimeHintMs := readU32 source 32
      metadataBytes := readU32 source 36 }

def write (m : ObjectDescriptorMetadata) : Writer :=
  writeFields objectDescriptorMetadataLen (.ok ())
    [fillZero objectDescriptorMetadataLen, putU64 0 m.objectId, putU16 8 m.objectKind.code,
      putU8 10 m.producerRole.code, putU8 11 m.consumerRole.code, putU32 12 m.sessionId,
      putU64 16 m.byteSize, putU32 24 m.computeCostUnits, putU16 28 m.memoryLocationHint.code,
      putU16 30 m.ownershipHint.code, putU32 32 m.lifetimeHintMs, putU32 36 m.metadataBytes]

theorem codec : Canonical objectDescriptorMetadataLen parse write := by
  refine .of_zeroed fun src m => ?_
  cases m
  simp [parse, bind_eq_ok, objectDescriptorMetadataLen]
  grind

end ObjectDescriptorMetadata

structure ObjectReferenceMetadata where
  (objectId operationId objectVersion offset length : UInt64)
  (flags metadataBytes : UInt32)
  deriving DecidableEq

def ObjectReferenceMetadata.parse : Except NnrpError ObjectReferenceMetadata := do
  requireLen source objectReferenceMetadataLen
  let flags := readU32 source 40
  validateMaskU32 flags objectReferenceFlagsKnownMask
  pure
    { objectId := readU64 source 0
      operationId := readU64 source 8
      objectVersion := readU64 source 16
      offset := readU64 source 24
      length := readU64 source 32
      flags
      metadataBytes := readU32 source 44 }

def ObjectReferenceMetadata.write (m : ObjectReferenceMetadata) : Writer :=
  writeFields objectReferenceMetadataLen (validateMaskU32 m.flags objectReferenceFlagsKnownMask)
    [putU64 0 m.objectId, putU64 8 m.operationId, putU64 16 m.objectVersion, putU64 24 m.offset,
      putU64 32 m.length, putU32 40 m.flags, putU32 44 m.metadataBytes]

theorem ObjectReferenceMetadata.codec : Canonical objectReferenceMetadataLen parse write := by
  refine .of_fields fun src m => ?_
  cases m
  simp [parse, bind_eq_ok, objectReferenceMetadataLen]
  grind

structure ObjectReleaseMetadata where
  (objectId operationId : UInt64)
  releaseReason : ObjectReleaseReason
  sourceRole : RuntimeRole
  flags : UInt8
  diagnosticBytes : UInt32
  deriving DecidableEq

def ObjectReleaseMetadata.parse : Except NnrpError ObjectReleaseMetadata := do
  requireLen source objectReleaseMetadataLen
  let flags := readU8 source 19
  validateMaskU8 flags objectReleaseFlagsKnownMask
  validateZeroU64 "object_release.reserved" (readU64 source 24)
  let releaseReason ← ObjectReleaseReason.tryFromU16 (readU16 source 16)
  let sourceRole ← RuntimeRole.tryFromU8 (readU8 source 18)
  pure
    { objectId := readU64 source 0
      operationId := readU64 source 8
      releaseReason, sourceRole, flags
      diagnosticBytes := readU32 source 20 }

def ObjectReleaseMetadata.write (m : ObjectReleaseMetadata) : Writer :=
  writeFields objectReleaseMetadataLen (validateMaskU8 m.flags objectReleaseFlagsKnownMask)
    [fillZero objectReleaseMetadataLen, putU64 0 m.objectId, putU64 8 m.operationId,
      putU16 16 m.releaseReason.code, putU8 18 m.sourceRole.code, putU8 19 m.flags,
      putU32 20 m.diagnosticBytes]

theorem ObjectReleaseMetadata.codec : Canonical objectReleaseMetadataLen parse write := by
  refine .of_zeroed fun src m => ?_
  cases m
  simp [parse, bind_eq_ok, objectReleaseMetadataLen]
  grind

structure ObjectDeltaMetadata where
  (objectId deltaSequence regionOffset : UInt64)
  (regionBytes deltaBytes flags metadataBytes : UInt32)
  deriving DecidableEq

def ObjectDeltaMetadata.parse : Except NnrpError ObjectDeltaMetadata := do
  requireLen source objectDeltaMetadataLen
  let flags := readU32 source 32
  validateMaskU32 flags objectDeltaFlagsKnownMask
  pure
    { objectId := readU64 source 0
      deltaSequence := readU64 source 8
      regionOffset := readU64 source 16
      regionBytes := readU32 source 24
      deltaBytes := readU32 source 28
      flags
      metadataBytes := readU32 source 36 }

def ObjectDeltaMetadata.write (m : ObjectDeltaMetadata) : Writer :=
  writeFields objectDeltaMetadataLen (validateMaskU32 m.flags objectDeltaFlagsKnownMask)
    [putU64 0 m.objectId, putU64 8 m.deltaSequence, putU64 16 m.regionOffset,
      putU32 24 m.regionBytes, putU32 28 m.deltaBytes, putU32 32 m.flags, putU32 36 m.metadataBytes]

theorem ObjectDeltaMetadata.codec : Canonical objectDeltaMetadataLen parse write := by
  refine .of_fields fun src m => ?_
  cases m
  simp [parse, bind_eq_ok, objectDeltaMetadataLen]
  grind

structure CacheReferenceMetadata where
  cacheNamespace : UInt32
  (cacheKeyHi cacheKeyLo : UInt64)
  profileId : UInt16
  reuseScope : CacheReuseScope
  (leaseId producerTraceId : UInt64)
  (expirationHintMs metadataBytes flags : UInt32)
  deriving DecidableEq

def CacheReferenceMetadata.parse : Except NnrpError CacheReferenceMetadata := do
  requireLen source cacheReferenceMetadataLen
  let flags := readU32 source 48
  validateMaskU32 flags cacheReferenceFlagsKnownMask
  validateZeroU32 "cache_reference.reserved" (readU32 source 52)
  let reuseScope ← CacheReuseScope.tryFromU16 (readU16 source 6)
  pure
    { cacheNamespace := readU32 source 0
      profileId := readU16 source 4
      reuseScope
      cacheKeyHi := readU64 source 8
      cacheKeyLo := readU64 source 16
      leaseId := readU64 source 24
      producerTraceId := readU64 source 32
      expirationHintMs := readU32 source 40
      metadataBytes := readU32 source 44
      flags }

def CacheReferenceMetadata.write (m : CacheReferenceMetadata) : Writer :=
  writeFields cacheReferenceMetadataLen (validateMaskU32 m.flags cacheReferenceFlagsKnownMask)
    [fillZero cacheReferenceMetadataLen, putU32 0 m.cacheNamespace, putU16 4 m.profileId,
      putU16 6 m.reuseScope.code, putU64 8 m.cacheKeyHi, putU64 16 m.cacheKeyLo,
      putU64 24 m.leaseId, putU64 32 m.producerTraceId, putU32 40 m.expirationHintMs,
      putU32 44 m.metadataBytes, putU32 48 m.flags]

theorem CacheReferenceMetadata.codec : Canonical cacheReferenceMetadataLen parse write := by
  refine .of_zeroed fun src m => ?_
  cases m
  simp [parse, bind_eq_ok, cacheReferenceMetadataLen]
  grind

structure CacheMissMetadata where
  cacheNamespace : UInt32
  (cacheKeyHi cacheKeyLo : UInt64)
  missReason : CacheMissReason
  profileId : UInt16
  diagnosticBytes : UInt32
  deriving DecidableEq

def CacheMissMetadata.parse : Except NnrpError CacheMissMetadata := do
  requireLen source cacheMissMetadataLen
  validateZeroU32 "cache_miss.reserved" (readU32 source 28)
  let missReason ← CacheMissReason.tryFromU16 (readU16 source 6)
  pure
    { cacheNamespace := readU32 source 0
      profileId := readU16 source 4
      missReason
      cacheKeyHi := readU64 source 8
      cacheKeyLo := readU64 source 16
      diagnosticBytes := readU32 source 24 }

def CacheMissMetadata.write (m : CacheMissMetadata) : Writer :=
  writeFields cacheMissMetadataLen (.ok ())
    [fillZero cacheMissMetadataLen, putU32 0 m.cacheNamespace, putU16 4 m.profileId,
      putU16 6 m.missReason.code, putU64 8 m.cacheKeyHi, putU64 16 m.cacheKeyLo,
      putU32 24 m.diagnosticBytes]

theorem CacheMissMetadata.codec : Canonical cacheMissMetadataLen parse write := by
  refine .of_zeroed fun src m => ?_
  cases m
  simp [parse, bind_eq_ok, cacheMissMetadataLen]
  grind

structure CacheInvalidateMetadata where
  invalidateScope : CacheInvalidateScope
  cacheNamespace : UInt32
  (cacheKeyHi cacheKeyLo : UInt64)
  reasonCode : UInt32
  deriving DecidableEq

namespace CacheInvalidateMetadata

def validateScopeFields (m : CacheInvalidateMetadata) : Except NnrpError Unit :=
  let valid : Bool :=
    match m.invalidateScope with
    | .wholeSession => m.cacheNamespace = 0 ∧ m.cacheKeyHi = 0 ∧ m.cacheKeyLo = 0
    | .byNamespace => m.cacheKeyHi = 0 ∧ m.cacheKeyLo = 0
    | .objectKind => m.cacheKeyHi ≤ 0xffffffff ∧ m.cacheKeyLo = 0
    | .objectKey => true
  if !valid then
    .error (.invalidProtocolCombination
      "cache invalidate identity fields must match invalidate_scope")
  else .ok ()

def parse : Except NnrpError CacheInvalidateMetadata := do
  requireLen source cacheInvalidateMetadataLen
  validateZeroU32 "cache_invalidate.reserved" (readU32 source 28)
  let invalidateScope ← CacheInvalidateScope.tryFromU32 (readU32 source 0)
  let metadata : CacheInvalidateMetadata :=
    { invalidateScope
      cacheNamespace := readU32 source 4
      cacheKeyHi := readU64 source 8
      cacheKeyLo := readU64 source 16
      reasonCode := readU32 source 24 }
  metadata.validateScopeFields
  pure metadata

def write (m : CacheInvalidateMetadata) : Writer :=
  writeFields cacheInvalidateMetadataLen m.validateScopeFields
    [fillZero cacheInvalidateMetadataLen, putU32 0 m.invalidateScope.code,
      putU32 4 m.cacheNamespace, putU64 8 m.cacheKeyHi, putU64 16 m.cacheKeyLo,
      putU32 24 m.reasonCode]

theorem codec : Canonical cacheInvalidateMetadataLen parse write := by
  refine .of_zeroed fun src m => ?_
  cases m
  simp [parse, bind_eq_ok, cacheInvalidateMetadataLen]
  grind

end CacheInvalidateMetadata

structure CachePutMetadata where
  cacheNamespace : UInt32
  (cacheKeyHi cacheKeyLo : UInt64)
  objectKind : CacheObjectKind
  (ttlMs objectBytes codecBitmap flags : UInt32)
  deriving DecidableEq

namespace CachePutMetadata

def parse : Except NnrpError CachePutMetadata := do
  requireLen source cachePutMetadataLen
  let flags := readU32 source 36
  validateMaskU32 flags cachePutFlagsKnownMask
  let objectKind ← CacheObjectKind.tryFromU32 (readU32 source 4)
  pure
    { cacheNamespace := readU32 source 0
      cacheKeyHi := readU64 source 8
      cacheKeyLo := readU64 source 16
      objectKind
      ttlMs := readU32 source 24
      objectBytes := readU32 source 28
      codecBitmap := readU32 source 32
      flags }

def write (m : CachePutMetadata) : Writer :=
  writeFields cachePutMetadataLen (validateMaskU32 m.flags cachePutFlagsKnownMask)
    [putU32 0 m.cacheNamespace, putU32 4 (CacheObjectKind.code m.objectKind), putU64 8 m.cacheKeyHi,
      putU64 16 m.cacheKeyLo, putU32 24 m.ttlMs, putU32 28 m.objectBytes, putU32 32 m.codecBitmap,
      putU32 36 m.flags]

def toBytes (m : CachePutMetadata) : Except NnrpError Bytes :=
  bytesOf cachePutMetadataLen m.write

theorem codec : Canonical cachePutMetadataLen parse write := by
  refine .of_fields fun src m => ?_
  cases m
  simp [parse, bind_eq_ok, cachePutMetadataLen]
  grind

end CachePutMetadata

structure CacheAckMetadata where
  cacheNamespace : UInt32
  (cacheKeyHi cacheKeyLo : UInt64)
  status : CacheAckStatus
  (acceptedTtlMs maxObjectBytes detailCode : UInt32)
  deriving DecidableEq

def CacheAckMetadata.parse : Except NnrpError CacheAckMetadata := do
  requireLen source cacheAckMetadataLen
  validateZeroU32 "cache_ack.reserved" (readU32 source 36)
  let status ← CacheAckStatus.tryFromU32 (readU32 source 4)
  pure
    { cacheNamespace := readU32 source 0
      cacheKeyHi := readU64 source 8
      cacheKeyLo := readU64 source 16
      status
      acceptedTtlMs := readU32 source 24
      maxObjectBytes := readU32 source 28
      detailCode := readU32 source 32 }

def CacheAckMetadata.write (m : CacheAckMetadata) : Writer :=
  writeFields cacheAckMetadataLen (.ok ())
    [fillZero cacheAckMetadataLen, putU32 0 m.cacheNamespace, putU32 4 m.status.code,
      putU64 8 m.cacheKeyHi, putU64 16 m.cacheKeyLo, putU32 24 m.acceptedTtlMs,
      putU32 28 m.maxObjectBytes, putU32 32 m.detailCode]

theorem CacheAckMetadata.codec : Canonical cacheAckMetadataLen parse write := by
  refine .of_zeroed fun src m => ?_
  cases m
  simp [parse, bind_eq_ok, cacheAckMetadataLen]
  grind

def ObjectDescriptorMetadata.parseWithExtension :
    Bytes → Except NnrpError (ObjectDescriptorMetadata × Bytes) :=
  parseWithTail objectDescriptorMetadataLen parse metadataBytes "object_descriptor.metadata_bytes"

def ObjectReferenceMetadata.parseWithExtension :
    Bytes → Except NnrpError (ObjectReferenceMetadata × Bytes) :=
  parseWithTail objectReferenceMetadataLen parse metadataBytes "object_reference.metadata_bytes"

def ObjectReleaseMetadata.parseWithDiagnostics :
    Bytes → Except NnrpError (ObjectReleaseMetadata × Bytes) :=
  parseWithTail objectReleaseMetadataLen parse diagnosticBytes "object_release.diagnostic_bytes"

def ObjectDeltaMetadata.parseWithExtension :
    Bytes → Except NnrpError (ObjectDeltaMetadata × Bytes) :=
  parseWithTail objectDeltaMetadataLen parse metadataBytes "object_delta.metadata_bytes"

def CacheReferenceMetadata.parseWithExtension :
    Bytes → Except NnrpError (CacheReferenceMetadata × Bytes) :=
  parseWithTail cacheReferenceMetadataLen parse metadataBytes "cache_reference.metadata_bytes"

def CacheMissMetadata.parseWithDiagnostics : Bytes → Except NnrpError (CacheMissMetadata × Bytes) :=
  parseWithTail cacheMissMetadataLen parse diagnosticBytes "cache_miss.diagnostic_bytes"

theorem object_and_cache_codecs_canonical :
    Canonical objectDescriptorMetadataLen ObjectDescriptorMetadata.parse
      ObjectDescriptorMetadata.write ∧
    Canonical objectReferenceMetadataLen ObjectReferenceMetadata.parse
      ObjectReferenceMetadata.write ∧
    Canonical objectReleaseMetadataLen ObjectReleaseMetadata.parse ObjectReleaseMetadata.write ∧
    Canonical objectDeltaMetadataLen ObjectDeltaMetadata.parse ObjectDeltaMetadata.write ∧
    Canonical cacheReferenceMetadataLen CacheReferenceMetadata.parse CacheReferenceMetadata.write ∧
    Canonical cacheMissMetadataLen CacheMissMetadata.parse CacheMissMetadata.write ∧
    Canonical cachePutMetadataLen CachePutMetadata.parse CachePutMetadata.write ∧
    Canonical cacheAckMetadataLen CacheAckMetadata.parse CacheAckMetadata.write ∧
    Canonical cacheInvalidateMetadataLen CacheInvalidateMetadata.parse
      CacheInvalidateMetadata.write ∧
    ExactTail objectDescriptorMetadataLen ObjectDescriptorMetadata.parse
      ObjectDescriptorMetadata.metadataBytes
      ObjectDescriptorMetadata.parseWithExtension ∧
    ExactTail objectReferenceMetadataLen ObjectReferenceMetadata.parse
      ObjectReferenceMetadata.metadataBytes
      ObjectReferenceMetadata.parseWithExtension ∧
    ExactTail objectReleaseMetadataLen ObjectReleaseMetadata.parse
      ObjectReleaseMetadata.diagnosticBytes
      ObjectReleaseMetadata.parseWithDiagnostics ∧
    ExactTail objectDeltaMetadataLen ObjectDeltaMetadata.parse ObjectDeltaMetadata.metadataBytes
      ObjectDeltaMetadata.parseWithExtension ∧
    ExactTail cacheReferenceMetadataLen CacheReferenceMetadata.parse
      CacheReferenceMetadata.metadataBytes
      CacheReferenceMetadata.parseWithExtension ∧
    ExactTail cacheMissMetadataLen CacheMissMetadata.parse CacheMissMetadata.diagnosticBytes
      CacheMissMetadata.parseWithDiagnostics := by
  refine ⟨ObjectDescriptorMetadata.codec, ObjectReferenceMetadata.codec,
    ObjectReleaseMetadata.codec, ObjectDeltaMetadata.codec, CacheReferenceMetadata.codec,
    CacheMissMetadata.codec, CachePutMetadata.codec, CacheAckMetadata.codec,
    CacheInvalidateMetadata.codec, ?_⟩
  exact ⟨ObjectDescriptorMetadata.codec.exactTail _ _, ObjectReferenceMetadata.codec.exactTail _ _,
    ObjectReleaseMetadata.codec.exactTail _ _, ObjectDeltaMetadata.codec.exactTail _ _,
    CacheReferenceMetadata.codec.exactTail _ _, CacheMissMetadata.codec.exactTail _ _⟩

structure CacheObjectId where
  cacheNamespace : UInt32
  (cacheKeyHi cacheKeyLo : UInt64)
  objectKind : CacheObjectKind
  deriving DecidableEq

def CacheObjectId.fromPut (metadata : CachePutMetadata) : CacheObjectId where
  cacheNamespace := metadata.cacheNamespace
  cacheKeyHi := metadata.cacheKeyHi
  cacheKeyLo := metadata.cacheKeyLo
  objectKind := metadata.objectKind

end Nnrp.Object
