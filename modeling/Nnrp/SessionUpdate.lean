import Nnrp.SessionMetadata
import Nnrp.TransportSelection

/-!
# Metadata of session patches, migrations and closes

The request that a client session writes for `patch_session`, `migrate_transport` and `close_with`,
and the acknowledgement that it then waits for.
-/

namespace Nnrp.Session
open Protocol ByteOrder Fallible
open Selection (TransportId)

def sessionPatchMetadataLen : ℕ := 36
def sessionPatchAckMetadataLen : ℕ := 48
def sessionCloseMetadataLen : ℕ := 24
def sessionCloseAckMetadataLen : ℕ := 16
def sessionMigrateMetadataLen : ℕ := 24
def sessionMigrateAckMetadataLen : ℕ := 24

def sessionPatchFieldKnownMask : UInt32 := 0x7f

structure SessionPatchMetadata where
  profileId : UInt16
  (patchMask targetCadenceX100 : UInt32)
  (qualityTier degradePolicy : UInt16)
  activeLaneMask : UInt64
  (preferredCodecBitmap preferredCompressionBitmap profilePatchBytes : UInt32)
  deriving DecidableEq

variable (source : Bytes)

namespace SessionPatchMetadata

def parse : Except NnrpError SessionPatchMetadata := do
  requireLen source sessionPatchMetadataLen
  validateZeroU16 "session_patch.reserved0" (readU16 source 2)
  let patchMask := readU32 source 4
  validateMaskU32 patchMask sessionPatchFieldKnownMask
  pure
    { profileId := readU16 source 0
      patchMask
      targetCadenceX100 := readU32 source 8
      qualityTier := readU16 source 12
      degradePolicy := readU16 source 14
      activeLaneMask := readU64 source 16
      preferredCodecBitmap := readU32 source 24
      preferredCompressionBitmap := readU32 source 28
      profilePatchBytes := readU32 source 32 }

def write (m : SessionPatchMetadata) : Writer :=
  writeFields sessionPatchMetadataLen (validateMaskU32 m.patchMask sessionPatchFieldKnownMask)
    [fillZero sessionPatchMetadataLen, putU16 0 m.profileId, putU32 4 m.patchMask,
      putU32 8 m.targetCadenceX100, putU16 12 m.qualityTier, putU16 14 m.degradePolicy,
      putU64 16 m.activeLaneMask, putU32 24 m.preferredCodecBitmap,
      putU32 28 m.preferredCompressionBitmap, putU32 32 m.profilePatchBytes]

def toBytes (m : SessionPatchMetadata) : Except NnrpError Bytes :=
  bytesOf sessionPatchMetadataLen m.write

theorem codec : Canonical sessionPatchMetadataLen parse write := by
  refine .of_zeroed fun src m => ?_
  cases m
  simp [parse, bind_eq_ok, sessionPatchMetadataLen]
  grind

end SessionPatchMetadata

inductive SessionPatchAckStatus
  | accepted | partiallyApplied | rejected
  deriving DecidableEq

def SessionPatchAckStatus.code (k : SessionPatchAckStatus) : UInt16 := UInt16.ofNat k.ctorIdx

def SessionPatchAckStatus.tryFromU16 (value : UInt16) : Except NnrpError SessionPatchAckStatus :=
  decodeTable [(0, .accepted), (1, .partiallyApplied), (2, .rejected)]
    (.unknownEnumValue "session_patch_ack_status" value.toUInt64) value

variable {v : UInt16}

@[simp] theorem SessionPatchAckStatus.tryFromU16_eq_ok {k : SessionPatchAckStatus} :
    tryFromU16 v = .ok k ↔ v = k.code :=
  decodeTable_eq_ok (by decide) fun k => by cases k <;> rfl

inductive SessionPatchRejectReason
  | none | unsupportedField | invalidRange | unsupportedStrategy | invalidLaneMask | rateLimited
  deriving DecidableEq

namespace SessionPatchRejectReason

def code (k : SessionPatchRejectReason) : UInt16 := UInt16.ofNat k.ctorIdx

def tryFromU16 (value : UInt16) : Except NnrpError SessionPatchRejectReason :=
  decodeTable
    [(0, .none), (1, .unsupportedField), (2, .invalidRange), (3, .unsupportedStrategy),
      (4, .invalidLaneMask), (5, .rateLimited)]
    (.unknownEnumValue "session_patch_reject_reason" value.toUInt64) value

@[simp] theorem tryFromU16_eq_ok {k : SessionPatchRejectReason} :
    tryFromU16 v = .ok k ↔ v = k.code :=
  decodeTable_eq_ok (by decide) fun k => by cases k <;> rfl

end SessionPatchRejectReason

structure SessionPatchAckMetadata where
  ackStatus : SessionPatchAckStatus
  rejectReason : SessionPatchRejectReason
  (appliedPatchMask rejectedPatchMask retryAfterMs : UInt32)
  effectiveProfileId : UInt16
  effectiveTargetCadenceX100 : UInt32
  (effectiveQualityTier effectiveDegradePolicy : UInt16)
  effectiveLaneMask : UInt64
  (effectiveCodecBitmap effectiveCompressionBitmap profilePatchAckBytes : UInt32)
  deriving DecidableEq

def SessionPatchAckMetadata.parse : Except NnrpError SessionPatchAckMetadata := do
  requireLen source sessionPatchAckMetadataLen
  validateZeroU16 "session_patch_ack.reserved0" (readU16 source 18)
  let appliedPatchMask := readU32 source 4
  let rejectedPatchMask := readU32 source 8
  validateMaskU32 appliedPatchMask sessionPatchFieldKnownMask
  validateMaskU32 rejectedPatchMask sessionPatchFieldKnownMask
  let ackStatus ← SessionPatchAckStatus.tryFromU16 (readU16 source 0)
  let rejectReason ← SessionPatchRejectReason.tryFromU16 (readU16 source 2)
  pure
    { ackStatus, rejectReason, appliedPatchMask, rejectedPatchMask
      retryAfterMs := readU32 source 12
      effectiveProfileId := readU16 source 16
      effectiveTargetCadenceX100 := readU32 source 20
      effectiveQualityTier := readU16 source 24
      effectiveDegradePolicy := readU16 source 26
      effectiveLaneMask := readU64 source 28
      effectiveCodecBitmap := readU32 source 36
      effectiveCompressionBitmap := readU32 source 40
      profilePatchAckBytes := readU32 source 44 }

def SessionPatchAckMetadata.write (m : SessionPatchAckMetadata) : Writer :=
  writeFields sessionPatchAckMetadataLen (do
      validateMaskU32 m.appliedPatchMask sessionPatchFieldKnownMask
      validateMaskU32 m.rejectedPatchMask sessionPatchFieldKnownMask)
    [fillZero sessionPatchAckMetadataLen, putU16 0 m.ackStatus.code, putU16 2 m.rejectReason.code,
      putU32 4 m.appliedPatchMask, putU32 8 m.rejectedPatchMask, putU32 12 m.retryAfterMs,
      putU16 16 m.effectiveProfileId, putU32 20 m.effectiveTargetCadenceX100,
      putU16 24 m.effectiveQualityTier, putU16 26 m.effectiveDegradePolicy,
      putU64 28 m.effectiveLaneMask, putU32 36 m.effectiveCodecBitmap,
      putU32 40 m.effectiveCompressionBitmap, putU32 44 m.profilePatchAckBytes]

theorem SessionPatchAckMetadata.codec : Canonical sessionPatchAckMetadataLen parse write := by
  refine .of_zeroed fun src m => ?_
  cases m
  simp [parse, bind_eq_ok, sessionPatchAckMetadataLen]
  grind

def closeReasonCode : SessionCloseReason → UInt16
  | .normal => 0 | .clientShutdown => 1 | .serverShutdown => 2 | .idleTimeout => 3
  | .protocolError => 4 | .authRevoked => 5

def inFlightPolicyCode : InFlightPolicy → UInt8
  | .drain => 0 | .abort => 1

def closeReasonTryFromU16 (value : UInt16) : Except NnrpError SessionCloseReason :=
  decodeTable
    [(0, .normal), (1, .clientShutdown), (2, .serverShutdown), (3, .idleTimeout),
      (4, .protocolError), (5, .authRevoked)]
    (.unknownEnumValue "close_reason" value.toUInt64) value

def inFlightPolicyTryFromU8 (value : UInt8) : Except NnrpError InFlightPolicy :=
  decodeTable [(0, .drain), (1, .abort)]
    (.unknownEnumValue "in_flight_policy" value.toUInt64) value

@[simp] theorem closeReasonTryFromU16_eq_ok {k : SessionCloseReason} :
    closeReasonTryFromU16 v = .ok k ↔ v = closeReasonCode k :=
  decodeTable_eq_ok (by decide) fun k => by cases k <;> rfl

@[simp] theorem inFlightPolicyTryFromU8_eq_ok {v : UInt8} {k : InFlightPolicy} :
    inFlightPolicyTryFromU8 v = .ok k ↔ v = inFlightPolicyCode k :=
  decodeTable_eq_ok (by decide) fun k => by cases k <;> rfl

namespace SessionCloseMetadata

def parse : Except NnrpError SessionCloseMetadata := do
  requireLen source sessionCloseMetadataLen
  validateZeroU8 "session_close.reserved0" (readU8 source 3)
  let closeReason ← closeReasonTryFromU16 (readU16 source 0)
  let inFlightPolicy ← inFlightPolicyTryFromU8 (readU8 source 2)
  pure
    { closeReason, inFlightPolicy
      drainTimeoutMs := readU32 source 4
      lastOperationId := readU64 source 8
      sessionErrorCode := readU32 source 16
      sessionCloseTag := readU32 source 20 }

def write (m : SessionCloseMetadata) : Writer :=
  writeFields sessionCloseMetadataLen (.ok ())
    [fillZero sessionCloseMetadataLen, putU16 0 (closeReasonCode m.closeReason),
      putU8 2 (inFlightPolicyCode m.inFlightPolicy), putU32 4 m.drainTimeoutMs,
      putU64 8 m.lastOperationId, putU32 16 m.sessionErrorCode, putU32 20 m.sessionCloseTag]

def toBytes (m : SessionCloseMetadata) : Except NnrpError Bytes :=
  bytesOf sessionCloseMetadataLen m.write

theorem codec : Canonical sessionCloseMetadataLen parse write := by
  refine .of_zeroed fun src m => ?_
  cases m
  simp [parse, bind_eq_ok, sessionCloseMetadataLen]
  grind

end SessionCloseMetadata

def closeStatusTryFromU8 (value : UInt8) : Except NnrpError SessionCloseStatus :=
  decodeTable [(0, .acknowledged), (1, .draining), (2, .closed), (3, .rejected)]
    (.unknownEnumValue "close_status" value.toUInt64) value

def closeStatusCode : SessionCloseStatus → UInt8
  | .acknowledged => 0 | .draining => 1 | .closed => 2 | .rejected => 3

@[simp] theorem closeStatusTryFromU8_eq_ok {v : UInt8} {k : SessionCloseStatus} :
    closeStatusTryFromU8 v = .ok k ↔ v = closeStatusCode k :=
  decodeTable_eq_ok (by decide) fun k => by cases k <;> rfl

namespace SessionCloseAckMetadata

def parse : Except NnrpError SessionCloseAckMetadata := do
  requireLen source sessionCloseAckMetadataLen
  validateZeroU8 "session_close_ack.reserved0" (readU8 source 1)
  validateZeroU16 "session_close_ack.reserved1" (readU16 source 2)
  let closeStatus ← closeStatusTryFromU8 (readU8 source 0)
  pure
    { closeStatus
      lastOperationId := readU64 source 4
      sessionErrorCode := readU32 source 12 }

def write (m : SessionCloseAckMetadata) : Writer :=
  writeFields sessionCloseAckMetadataLen (.ok ())
    [fillZero sessionCloseAckMetadataLen, putU8 0 (closeStatusCode m.closeStatus),
      putU64 4 m.lastOperationId, putU32 12 m.sessionErrorCode]

def toBytes (m : SessionCloseAckMetadata) : Except NnrpError Bytes :=
  bytesOf sessionCloseAckMetadataLen m.write

theorem codec : Canonical sessionCloseAckMetadataLen parse write := by
  refine .of_zeroed fun src m => ?_
  cases m
  simp [parse, bind_eq_ok, sessionCloseAckMetadataLen]
  grind

end SessionCloseAckMetadata

def transportTryFromU32 (value : UInt32) : Except NnrpError TransportId :=
  decodeTable [(0, .unspecified), (1, .quic), (2, .tcp), (3, .ipc), (4, .webSocket)]
    (.unknownEnumValue "transport_id" value.toUInt64) value

@[simp] theorem transportTryFromU32_eq_ok {v : UInt32} {k : TransportId} :
    transportTryFromU32 v = .ok k ↔ v = TransportId.code k :=
  decodeTable_eq_ok (by decide) fun k => by cases k <;> rfl

def validateSpecifiedTransport (transportId : TransportId) (rule : String) :
    Except NnrpError Unit :=
  if transportId = .unspecified then .error (.invalidProtocolCombination rule) else .ok ()

structure SessionMigrateMetadata where
  (oldTransportId newTransportId : TransportId)
  (lastResultFrameId clientMigrateTsUs : UInt64)
  deriving DecidableEq

namespace SessionMigrateMetadata

def parse : Except NnrpError SessionMigrateMetadata := do
  requireLen source sessionMigrateMetadataLen
  let oldTransportId ← transportTryFromU32 (readU32 source 0)
  let newTransportId ← transportTryFromU32 (readU32 source 4)
  validateSpecifiedTransport oldTransportId "session_migrate.old_transport_id"
  validateSpecifiedTransport newTransportId "session_migrate.new_transport_id"
  pure
    { oldTransportId, newTransportId
      lastResultFrameId := readU64 source 8
      clientMigrateTsUs := readU64 source 16 }

def write (m : SessionMigrateMetadata) : Writer :=
  writeFields sessionMigrateMetadataLen (do
      validateSpecifiedTransport m.oldTransportId "session_migrate.old_transport_id"
      validateSpecifiedTransport m.newTransportId "session_migrate.new_transport_id")
    [putU32 0 m.oldTransportId.code, putU32 4 m.newTransportId.code, putU64 8 m.lastResultFrameId,
      putU64 16 m.clientMigrateTsUs]

def toBytes (m : SessionMigrateMetadata) : Except NnrpError Bytes :=
  bytesOf sessionMigrateMetadataLen m.write

theorem codec : Canonical sessionMigrateMetadataLen parse write := by
  refine .of_fields fun src m => ?_
  cases m
  simp [parse, bind_eq_ok, sessionMigrateMetadataLen]
  grind

end SessionMigrateMetadata

structure SessionMigrateAckMetadata where
  acceptCode : UInt32
  resumeFromFrameId : UInt64
  graceWindowMs : UInt32
  serverMigrateTsUs : UInt64
  deriving DecidableEq

namespace SessionMigrateAckMetadata

def parse : Except NnrpError SessionMigrateAckMetadata := do
  requireLen source sessionMigrateAckMetadataLen
  pure
    { acceptCode := readU32 source 0
      resumeFromFrameId := readU64 source 4
      graceWindowMs := readU32 source 12
      serverMigrateTsUs := readU64 source 16 }

def write (m : SessionMigrateAckMetadata) : Writer :=
  writeFields sessionMigrateAckMetadataLen (.ok ())
    [putU32 0 m.acceptCode, putU64 4 m.resumeFromFrameId, putU32 12 m.graceWindowMs,
      putU64 16 m.serverMigrateTsUs]

def toBytes (m : SessionMigrateAckMetadata) : Except NnrpError Bytes :=
  bytesOf sessionMigrateAckMetadataLen m.write

theorem codec : Canonical sessionMigrateAckMetadataLen parse write := by
  refine .of_fields fun src m => ?_
  cases m
  simp [parse, sessionMigrateAckMetadataLen]

end SessionMigrateAckMetadata

def validateMigrationRecovery (request : SessionMigrateMetadata) (ack : SessionMigrateAckMetadata) :
    Except NnrpError Unit :=
  if request.oldTransportId = request.newTransportId then
    .error (.invalidProtocolCombination "session migration must bind a different transport")
  else if ack.resumeFromFrameId < request.lastResultFrameId then
    .error (.invalidProtocolCombination
      "migration resume cursor cannot move behind the last result frame")
  else .ok ()

end Nnrp.Session
