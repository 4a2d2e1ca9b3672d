import Nnrp.MetadataCodec
import Nnrp.Packet

/-!
# Metadata of session control messages

The fixed-layout metadata of `SESSION_OPEN` and `SESSION_OPEN_ACK`, the close pair as far as the
lifecycle reads it, and the recovery rules that tie an acknowledgement to its request.
-/

namespace Nnrp.Session
open Protocol ByteOrder Fallible

def sessionOpenMetadataLen : ℕ := 48
def sessionOpenAckMetadataLen : ℕ := 56

def sessionFlagsKnownMask : UInt8 := 0x0f
def sessionFlagsAckKnownMask : UInt32 := 0x1f
def sessionFlagAllowResume : UInt8 := 0x01
def sessionAckFlagResumeEnabled : UInt32 := 0x01

def sessionErrorNone : UInt32 := 0
def sessionErrorProfileUnsupported : UInt32 := 0x00010002
def sessionErrorSchemaUnsupported : UInt32 := 0x00010003
def sessionErrorResumeRejected : UInt32 := 0x00010006
def sessionErrorLimitReached : UInt32 := 0x00010007

structure SessionOpenMetadata where
  requestedSessionId : UInt32
  profileId : UInt16
  priorityClass : SessionPriorityClass
  sessionFlags : UInt8
  (schemaId schemaVersion defaultDeadlineMs : UInt32)
  maxInFlightOperations : UInt16
  (leaseTtlHintMs resumeTokenBytes authBytes sessionExtensionBytes : UInt32)
  clientSessionTag : UInt64
  deriving DecidableEq

def SessionOpenMetadata.parse (source : Bytes) : Except NnrpError SessionOpenMetadata := do
  requireLen source sessionOpenMetadataLen
  validateZeroU16 "session_open.reserved0" (readU16 source 22)
  let sessionFlags := readU8 source 7
  validateMaskU8 sessionFlags sessionFlagsKnownMask
  let priorityClass ← SessionPriorityClass.tryFromU8 (readU8 source 6)
  pure
    { requestedSessionId := readU32 source 0
      profileId := readU16 source 4
      priorityClass, sessionFlags
      schemaId := readU32 source 8
      schemaVersion := readU32 source 12
      defaultDeadlineMs := readU32 source 16
      maxInFlightOperations := readU16 source 20
      leaseTtlHintMs := readU32 source 24
      resumeTokenBytes := readU32 source 28
      authBytes := readU32 source 32
      sessionExtensionBytes := readU32 source 36
      clientSessionTag := readU64 source 40 }

variable (m : SessionOpenMetadata)

def SessionOpenMetadata.write : Writer :=
  writeFields sessionOpenMetadataLen (validateMaskU8 m.sessionFlags sessionFlagsKnownMask)
    [fillZero sessionOpenMetadataLen, putU32 0 m.requestedSessionId, putU16 4 m.profileId,
      putU8 6 m.priorityClass.code, putU8 7 m.sessionFlags, putU32 8 m.schemaId,
      putU32 12 m.schemaVersion, putU32 16 m.defaultDeadlineMs, putU16 20 m.maxInFlightOperations,
      putU32 24 m.leaseTtlHintMs, putU32 28 m.resumeTokenBytes, putU32 32 m.authBytes,
      putU32 36 m.sessionExtensionBytes, putU64 40 m.clientSessionTag]

structure SessionOpenAckMetadata where
  sessionId : UInt32
  acceptedProfileId : UInt16
  acceptedPriorityClass : SessionPriorityClass
  sessionStatus : SessionStatus
  (schemaId schemaVersion : UInt32)
  (grantedOperationCredit maxInFlightOperations : UInt16)
  (leaseTtlMs resumeWindowMs resumeTokenBytes sessionExtensionBytes : UInt32)
  serverSessionTag : UInt64
  (routeScopeId sessionErrorCode sessionFlagsAck : UInt32)
  deriving DecidableEq

def SessionOpenAckMetadata.parse (source : Bytes) : Except NnrpError SessionOpenAckMetadata := do
  requireLen source sessionOpenAckMetadataLen
  let sessionFlagsAck := readU32 source 52
  validateMaskU32 sessionFlagsAck sessionFlagsAckKnownMask
  let acceptedPriorityClass ← SessionPriorityClass.tryFromU8 (readU8 source 6)
  let sessionStatus ← SessionStatus.tryFromU8 (readU8 source 7)
  pure
    { sessionId := readU32 source 0
      acceptedProfileId := readU16 source 4
      acceptedPriorityClass, sessionStatus
      schemaId := readU32 source 8
      schemaVersion := readU32 source 12
      grantedOperationCredit := readU16 source 16
      maxInFlightOperations := readU16 source 18
      leaseTtlMs := readU32 source 20
      resumeWindowMs := readU32 source 24
      resumeTokenBytes := readU32 source 28
      sessionExtensionBytes := readU32 source 32
      serverSessionTag := readU64 source 36
      routeScopeId := readU32 source 44
      sessionErrorCode := readU32 source 48
      sessionFlagsAck }

def SessionOpenAckMetadata.write (m : SessionOpenAckMetadata) : Writer :=
  writeFields sessionOpenAckMetadataLen (validateMaskU32 m.sessionFlagsAck sessionFlagsAckKnownMask)
    [fillZero sessionOpenAckMetadataLen, putU32 0 m.sessionId, putU16 4 m.acceptedProfileId,
      putU8 6 m.acceptedPriorityClass.code, putU8 7 m.sessionStatus.code, putU32 8 m.schemaId,
      putU32 12 m.schemaVersion, putU16 16 m.grantedOperationCredit,
      putU16 18 m.maxInFlightOperations, putU32 20 m.leaseTtlMs, putU32 24 m.resumeWindowMs,
      putU32 28 m.resumeTokenBytes, putU32 32 m.sessionExtensionBytes, putU64 36 m.serverSessionTag,
      putU32 44 m.routeScopeId, putU32 48 m.sessionErrorCode, putU32 52 m.sessionFlagsAck]

def SessionOpenMetadata.toBytes : Except NnrpError Bytes :=
  bytesOf sessionOpenMetadataLen m.write

theorem SessionOpenMetadata.codec : Canonical sessionOpenMetadataLen parse write := by
  refine .of_zeroed fun src m => ?_
  cases m
  simp [parse, bind_eq_ok, sessionOpenMetadataLen]
  grind

def SessionOpenAckMetadata.toBytes (m : SessionOpenAckMetadata) : Except NnrpError Bytes :=
  bytesOf sessionOpenAckMetadataLen m.write

theorem SessionOpenAckMetadata.codec : Canonical sessionOpenAckMetadataLen parse write := by
  refine .of_zeroed fun src m => ?_
  cases m
  simp [parse, bind_eq_ok, sessionOpenAckMetadataLen]
  grind

structure SessionCloseMetadata where
  closeReason : SessionCloseReason
  inFlightPolicy : InFlightPolicy
  drainTimeoutMs : UInt32
  lastOperationId : UInt64
  (sessionErrorCode sessionCloseTag : UInt32)
  deriving DecidableEq

structure SessionCloseAckMetadata where
  closeStatus : SessionCloseStatus
  lastOperationId : UInt64
  sessionErrorCode : UInt32
  deriving DecidableEq

inductive SessionRecoveryOutcome
  | fresh
  | resumeEnabled (resumeWindowMs : UInt32)
  | resumed (resumeWindowMs : UInt32)
  | resumeRejected
  deriving DecidableEq

def validateSessionRecoveryRequest : Except NnrpError Unit :=
  if 0 < m.resumeTokenBytes then
    if m.sessionFlags &&& sessionFlagAllowResume = 0 then
      .error (.invalidProtocolCombination "resume token requires allow_resume session flag")
    else if m.requestedSessionId = 0 then
      .error (.invalidProtocolCombination "resume token must be bound to a requested session id")
    else .ok ()
  else .ok ()

def validateSessionRecoveryAck (request : SessionOpenMetadata) (ack : SessionOpenAckMetadata) :
    Except NnrpError SessionRecoveryOutcome := do
  let resumeEnabled : Bool := ack.sessionFlagsAck &&& sessionAckFlagResumeEnabled ≠ 0
  if resumeEnabled ∧ (ack.resumeWindowMs = 0 ∨ ack.resumeTokenBytes = 0) then
    throw (.invalidProtocolCombination
      "resume_enabled ack requires non-zero resume window and token bytes")
  match ack.sessionStatus with
  | .opened =>
    if resumeEnabled then pure (.resumeEnabled ack.resumeWindowMs) else pure .fresh
  | .resumed =>
    if request.resumeTokenBytes = 0 then
      throw (.invalidProtocolCombination "resumed ack requires a resume token in the request")
    if ack.sessionErrorCode ≠ sessionErrorNone then
      throw (.invalidProtocolCombination "resumed ack must not carry a session error")
    if ¬resumeEnabled then
      throw (.invalidProtocolCombination "resumed ack must keep resume_enabled set")
    pure (.resumed ack.resumeWindowMs)
  | .rejected =>
    if ack.sessionErrorCode = sessionErrorResumeRejected then pure .resumeRejected
    else pure .fresh
  | .retryLater => pure .fresh

theorem validateSessionRecoveryRequest_ok {m : SessionOpenMetadata}
    (h : validateSessionRecoveryRequest m = .ok ()) (ht : 0 < m.resumeTokenBytes) :
    m.sessionFlags &&& sessionFlagAllowResume ≠ 0 ∧ m.requestedSessionId ≠ 0 := by
  unfold validateSessionRecoveryRequest at h
  split_ifs at h with hflag hid
  exact ⟨hflag, hid⟩

end Nnrp.Session
