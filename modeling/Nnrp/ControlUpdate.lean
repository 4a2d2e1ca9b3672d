import Nnrp.Lifecycle

/-!
# Updates that a session takes at connection scope

Most messages are for the session that their header names. A flow update of connection scope has
to carry session id zero, and a session also takes pressure, capability, hint, trace and recovery
messages that carry it. Their metadata, the rules they have to meet and the part of the session
decoder that reads them.
-/

namespace Nnrp.ControlUpdate
open Protocol ByteOrder Packet OrderedMap Lifecycle Fallible

def flowUpdateMetadataLen : ℕ := 32
def flowUpdateFlagsKnownMask : UInt32 := 0xf
def flowUpdateFlagRetryAfterValid : UInt32 := 0x2

structure FlowUpdateMetadata where
  scopeKind : FlowScopeKind
  updateReason : FlowUpdateReason
  backpressureLevel : BackpressureLevel
  (connectionCredit sessionCredit operationCredit : UInt16)
  operationId : UInt64
  (retryAfterMs creditEpoch flowFlags : UInt32)
  deriving DecidableEq

variable (source : Bytes)

namespace FlowUpdateMetadata

def parse : Except NnrpError FlowUpdateMetadata := do
  requireLen source flowUpdateMetadataLen
  validateZeroU8 "flow_update.reserved0" (readU8 source 3)
  validateZeroU16 "flow_update.reserved1" (readU16 source 10)
  let flowFlags := readU32 source 28
  validateMaskU32 flowFlags flowUpdateFlagsKnownMask
  let scopeKind ← FlowScopeKind.tryFromU8 (readU8 source 0)
  let updateReason ← FlowUpdateReason.tryFromU8 (readU8 source 1)
  let backpressureLevel ← BackpressureLevel.tryFromU8 (readU8 source 2)
  pure
    { scopeKind, updateReason, backpressureLevel
      connectionCredit := readU16 source 4
      sessionCredit := readU16 source 6
      operationCredit := readU16 source 8
      operationId := readU64 source 12
      retryAfterMs := readU32 source 20
      creditEpoch := readU32 source 24
      flowFlags }

variable (m : FlowUpdateMetadata)

def write : Writer :=
  writeFields flowUpdateMetadataLen (validateMaskU32 m.flowFlags flowUpdateFlagsKnownMask)
    [fillZero flowUpdateMetadataLen, putU8 0 m.scopeKind.code, putU8 1 m.updateReason.code,
      putU8 2 m.backpressureLevel.code, putU16 4 m.connectionCredit, putU16 6 m.sessionCredit,
      putU16 8 m.operationCredit, putU64 12 m.operationId, putU32 20 m.retryAfterMs,
      putU32 24 m.creditEpoch, putU32 28 m.flowFlags]

def toBytes : Except NnrpError Bytes :=
  bytesOf flowUpdateMetadataLen m.write

theorem codec : Canonical flowUpdateMetadataLen parse write := by
  refine .of_zeroed fun src m => ?_
  cases m
  simp [parse, bind_eq_ok, flowUpdateMetadataLen]
  grind

def validateScope (header : CommonHeader) : Except NnrpError Unit :=
  match m.scopeKind with
  | .connection =>
    if header.sessionId ≠ 0 ∨ m.sessionCredit ≠ 0 ∨ m.operationCredit ≠ 0 ∨ m.operationId ≠ 0 then
      .error (.invalidProtocolCombination
      "connection-scope FLOW_UPDATE requires header.session_id=0 and non-connection fields cleared")
    else .ok ()
  | .session =>
    if header.sessionId = 0 ∨ m.connectionCredit ≠ 0 ∨ m.operationCredit ≠ 0 ∨
        m.operationId ≠ 0 then
      .error (.invalidProtocolCombination
        "session-scope FLOW_UPDATE requires header.session_id!=0 and non-session fields cleared")
    else .ok ()
  | .operation =>
    if header.sessionId = 0 ∨ m.operationId = 0 then
      .error (.invalidProtocolCombination
        "operation-scope FLOW_UPDATE requires header.session_id!=0 and operation_id!=0")
    else .ok ()

def validateRouting (header : CommonHeader) : Except NnrpError Unit := do
  if header.messageType ≠ .flowUpdate then
    throw (.invalidProtocolCombination
      "FLOW_UPDATE routing validation requires a FLOW_UPDATE header")
  m.validateScope header
  if m.retryAfterMs ≠ 0 ∧ m.flowFlags &&& flowUpdateFlagRetryAfterValid = 0 then
    throw (.invalidProtocolCombination
      "FLOW_UPDATE retry_after_ms requires retry_after_valid flag")

end FlowUpdateMetadata

def sendFlowUpdate (sessionId : UInt32) (m : FlowUpdateMetadata) :
    Except RuntimeError RuntimePacket := do
  let header := CommonHeader.new .flowUpdate (UInt32.ofNat flowUpdateMetadataLen) 0
  let header := if m.scopeKind = .connection then header else { header with sessionId }
  liftNnrp (m.validateRouting header)
  let metadata ← liftNnrp m.toBytes
  liftNnrp (RuntimePacket.new header metadata [])

def validateFlowUpdate (l : ConnectionLifecycle) (header : CommonHeader) (m : FlowUpdateMetadata) :
    Except NnrpError Unit := do
  l.requireConnectionOpen
  m.validateRouting header
  match m.scopeKind with
  | .connection => pure ()
  | .session | .operation =>
    match l.sessions[header.sessionId]? with
    | some session =>
      if session.state.acceptsSessionScopedMessages then pure ()
      else throw (.unknownSession header.sessionId)
    | none => throw (.unknownSession header.sessionId)

def pressureMetadataLen : ℕ := 32
def capabilityMetadataLen : ℕ := 32
def routeHintMetadataLen : ℕ := 32
def traceContextMetadataLen : ℕ := 32
def recoverableErrorMetadataLen : ℕ := 32
def retryAfterMetadataLen : ℕ := 32

def pressureFlagsKnownMask : UInt32 := 0x3
def capabilityFlagsKnownMask : UInt32 := 0x3
def routeHintFlagsKnownMask : UInt32 := 0x3
def traceContextFlagsKnownMask : UInt16 := 0x3
def recoverableErrorFlagsKnownMask : UInt8 := 0x3
def retryAfterFlagsKnownMask : UInt8 := 0x3

structure PressureMetadata where
  (scopeId creditWindow : UInt64)
  (pressureLevel pressureReason : UInt16)
  (retryAfterMs flags : UInt32)
  deriving DecidableEq

namespace PressureMetadata

def parse : Except NnrpError PressureMetadata := do
  requireLen source pressureMetadataLen
  let flags := readU32 source 24
  validateMaskU32 flags pressureFlagsKnownMask
  validateZeroU32 "pressure.reserved" (readU32 source 28)
  pure
    { scopeId := readU64 source 0
      creditWindow := readU64 source 8
      pressureLevel := readU16 source 16
      pressureReason := readU16 source 18
      retryAfterMs := readU32 source 20
      flags }

def write (m : PressureMetadata) : Writer :=
  writeFields pressureMetadataLen (validateMaskU32 m.flags pressureFlagsKnownMask)
    [fillZero pressureMetadataLen, putU64 0 m.scopeId, putU64 8 m.creditWindow,
      putU16 16 m.pressureLevel, putU16 18 m.pressureReason, putU32 20 m.retryAfterMs,
      putU32 24 m.flags]

def toBytes (m : PressureMetadata) : Except NnrpError Bytes :=
  bytesOf pressureMetadataLen m.write

theorem codec : Canonical pressureMetadataLen parse write := by
  refine .of_zeroed fun src m => ?_
  cases m
  simp [parse, bind_eq_ok, pressureMetadataLen]
  grind

end PressureMetadata

def validatePressureLevel (value : UInt16) : Except NnrpError Unit :=
  if value ≤ 3 then .ok () else .error (.unknownEnumValue "pressure_level" value.toUInt64)

def validatePressureSemantics (messageType : MessageType) (m : PressureMetadata) :
    Except NnrpError Unit :=
  match messageType with
  | .backpressure =>
    if m.pressureLevel = 0 then
      .error (.invalidProtocolCombination "BACKPRESSURE requires non-zero pressure_level")
    else validatePressureLevel m.pressureLevel
  | .creditUpdate => .ok ()
  | _ =>
    .error (.invalidProtocolCombination
      "pressure metadata requires BACKPRESSURE or CREDIT_UPDATE")

structure CapabilityMetadata where
  (profileId capabilityCount costModelId preferenceRank : UInt16)
  (limitBytes limitUnits : UInt64)
  (bodyBytes flags : UInt32)
  deriving DecidableEq

def CapabilityMetadata.parse : Except NnrpError CapabilityMetadata := do
  requireLen source capabilityMetadataLen
  let flags := readU32 source 28
  validateMaskU32 flags capabilityFlagsKnownMask
  pure
    { profileId := readU16 source 0
      capabilityCount := readU16 source 2
      costModelId := readU16 source 4
      preferenceRank := readU16 source 6
      limitBytes := readU64 source 8
      limitUnits := readU64 source 16
      bodyBytes := readU32 source 24
      flags }

def CapabilityMetadata.write (m : CapabilityMetadata) : Writer :=
  writeFields capabilityMetadataLen (validateMaskU32 m.flags capabilityFlagsKnownMask)
    [putU16 0 m.profileId, putU16 2 m.capabilityCount, putU16 4 m.costModelId,
      putU16 6 m.preferenceRank, putU64 8 m.limitBytes, putU64 16 m.limitUnits,
      putU32 24 m.bodyBytes, putU32 28 m.flags]

theorem CapabilityMetadata.codec : Canonical capabilityMetadataLen parse write := by
  refine .of_fields fun src m => ?_
  cases m
  simp [parse, bind_eq_ok, capabilityMetadataLen]
  grind

structure RouteHintMetadata where
  operationId : UInt64
  routeId : UInt32
  (executorClass affinityClass : UInt16)
  deadlineUnixMs : UInt64
  (bodyBytes flags : UInt32)
  deriving DecidableEq

def RouteHintMetadata.parse : Except NnrpError RouteHintMetadata := do
  requireLen source routeHintMetadataLen
  let flags := readU32 source 28
  validateMaskU32 flags routeHintFlagsKnownMask
  pure
    { operationId := readU64 source 0
      routeId := readU32 source 8
      executorClass := readU16 source 12
      affinityClass := readU16 source 14
      deadlineUnixMs := readU64 source 16
      bodyBytes := readU32 source 24
      flags }

def RouteHintMetadata.write (m : RouteHintMetadata) : Writer :=
  writeFields routeHintMetadataLen (validateMaskU32 m.flags routeHintFlagsKnownMask)
    [putU64 0 m.operationId, putU32 8 m.routeId, putU16 12 m.executorClass,
      putU16 14 m.affinityClass, putU64 16 m.deadlineUnixMs, putU32 24 m.bodyBytes,
      putU32 28 m.flags]

theorem RouteHintMetadata.codec : Canonical routeHintMetadataLen parse write := by
  refine .of_fields fun src m => ?_
  cases m
  simp [parse, bind_eq_ok, routeHintMetadataLen]
  grind

structure TraceContextMetadata where
  (traceId spanId parentSpanId : UInt64)
  (stageCode flags : UInt16)
  bodyBytes : UInt32
  deriving DecidableEq

def TraceContextMetadata.parse : Except NnrpError TraceContextMetadata := do
  requireLen source traceContextMetadataLen
  let flags := readU16 source 26
  validateMaskU16 flags traceContextFlagsKnownMask
  pure
    { traceId := readU64 source 0
      spanId := readU64 source 8
      parentSpanId := readU64 source 16
      stageCode := readU16 source 24
      flags
      bodyBytes := readU32 source 28 }

def TraceContextMetadata.write (m : TraceContextMetadata) : Writer :=
  writeFields traceContextMetadataLen (validateMaskU16 m.flags traceContextFlagsKnownMask)
    [putU64 0 m.traceId, putU64 8 m.spanId, putU64 16 m.parentSpanId, putU16 24 m.stageCode,
      putU16 26 m.flags, putU32 28 m.bodyBytes]

theorem TraceContextMetadata.codec : Canonical traceContextMetadataLen parse write := by
  refine .of_fields fun src m => ?_
  cases m
  simp [parse, bind_eq_ok, traceContextMetadataLen]
  grind

def validateTraceContextSemantics (m : TraceContextMetadata) : Except NnrpError Unit :=
  if m.traceId = 0 ∨ m.spanId = 0 then
    .error (.invalidProtocolCombination "TRACE_CONTEXT requires non-zero trace_id and span_id")
  else .ok ()

structure RecoverableErrorMetadata where
  errorCode : UInt32
  errorScope : ErrorScope
  recoveryAction : UInt16
  (sourceRole flags : UInt8)
  (retryAfterMs relatedSessionId relatedFrameId relatedViewId diagnosticBytes : UInt32)
  deriving DecidableEq

namespace RecoverableErrorMetadata

def parse :
    Except NnrpError RecoverableErrorMetadata := do
  requireLen source recoverableErrorMetadataLen
  let flags := readU8 source 11
  validateMaskU8 flags recoverableErrorFlagsKnownMask
  let errorScope ← ErrorScope.tryFromU32 (readU32 source 4)
  pure
    { errorCode := readU32 source 0
      errorScope
      recoveryAction := readU16 source 8
      sourceRole := readU8 source 10
      flags
      retryAfterMs := readU32 source 12
      relatedSessionId := readU32 source 16
      relatedFrameId := readU32 source 20
      relatedViewId := readU32 source 24
      diagnosticBytes := readU32 source 28 }

def write (m : RecoverableErrorMetadata) : Writer :=
  writeFields recoverableErrorMetadataLen (validateMaskU8 m.flags recoverableErrorFlagsKnownMask)
    [putU32 0 m.errorCode, putU32 4 m.errorScope.code, putU16 8 m.recoveryAction,
      putU8 10 m.sourceRole, putU8 11 m.flags, putU32 12 m.retryAfterMs,
      putU32 16 m.relatedSessionId, putU32 20 m.relatedFrameId, putU32 24 m.relatedViewId,
      putU32 28 m.diagnosticBytes]

theorem codec : Canonical recoverableErrorMetadataLen parse write := by
  refine .of_fields fun src m => ?_
  cases m
  simp [parse, bind_eq_ok, recoverableErrorMetadataLen]
  grind

end RecoverableErrorMetadata

structure RetryAfterMetadata where
  (scopeId controlSequence : UInt64)
  (retryAfterMs jitterMs : UInt32)
  reasonCode : UInt16
  (sourceRole flags : UInt8)
  diagnosticBytes : UInt32
  deriving DecidableEq

def RetryAfterMetadata.parse : Except NnrpError RetryAfterMetadata := do
  requireLen source retryAfterMetadataLen
  let flags := readU8 source 27
  validateMaskU8 flags retryAfterFlagsKnownMask
  pure
    { scopeId := readU64 source 0
      controlSequence := readU64 source 8
      retryAfterMs := readU32 source 16
      jitterMs := readU32 source 20
      reasonCode := readU16 source 24
      sourceRole := readU8 source 26
      flags
      diagnosticBytes := readU32 source 28 }

def RetryAfterMetadata.write (m : RetryAfterMetadata) : Writer :=
  writeFields retryAfterMetadataLen (validateMaskU8 m.flags retryAfterFlagsKnownMask)
    [putU64 0 m.scopeId, putU64 8 m.controlSequence, putU32 16 m.retryAfterMs, putU32 20 m.jitterMs,
      putU16 24 m.reasonCode, putU8 26 m.sourceRole, putU8 27 m.flags, putU32 28 m.diagnosticBytes]

theorem RetryAfterMetadata.codec : Canonical retryAfterMetadataLen parse write := by
  refine .of_fields fun src m => ?_
  cases m
  simp [parse, bind_eq_ok, retryAfterMetadataLen]
  grind

def preview4ControlCapabilityTokens : List String :=
  ["control.cancel_abort", "control.supersede", "control.priority_update",
    "control.deadline_expire", "control.progress_partial", "control.credit_backpressure",
    "control.capability_costs", "control.route_execution_hint", "control.trace_context",
    "control.result_drop_reason", "control.degrade_profile", "control.budget_update",
    "control.recoverable_error"]

def preview4ObjectCapabilityTokens : List String :=
  ["object.lifecycle", "object.delta", "object.cost", "object.ownership", "cache.reference"]

def isPreview4CapabilityToken (token : String) : Bool :=
  preview4ControlCapabilityTokens.contains token || preview4ObjectCapabilityTokens.contains token

def tokenBytes (token : String) : Bytes := token.toUTF8.toList

def isTokenByte (b : UInt8) : Bool :=
  (0x61 ≤ b && b ≤ 0x7a) || (0x30 ≤ b && b ≤ 0x39) || b == 0x2e || b == 0x5f || b == 0x2d

def validateCapabilityToken (token : String) : Except NnrpError Unit :=
  if tokenBytes token ≠ [] ∧ (tokenBytes token).all isTokenByte then .ok ()
  else .error (.invalidCapabilityToken token)

def validateTokenOrder (tokens : List String) (token : String) : Except NnrpError Unit :=
  match tokens.getLast? with
  | none => .ok ()
  | some previous =>
    if tokenBytes previous < tokenBytes token then .ok ()
    else if tokenBytes previous = tokenBytes token then
      .error (.invalidCapabilityTokenBody "capability tokens must be unique")
    else .error (.invalidCapabilityTokenBody "capability tokens must use canonical byte order")

def decodeTokenEntries (body : Bytes) (tokens : List String) : Except NnrpError (List String) :=
  if body.length = 0 then .ok tokens
  else if body.length < 2 then
    .error (.invalidCapabilityTokenBody "capability entry is missing its token length")
  else
    let tokenLen := (readU16 body 0).toNat
    if tokenLen = 0 then
      .error (.invalidCapabilityTokenBody "capability token length must be non-zero")
    else if body.length < 2 + tokenLen then
      .error (.invalidCapabilityTokenBody "capability token exceeds the declared body")
    else
      match String.fromUTF8? ⟨(slice body 2 tokenLen).toArray⟩ with
      | none => .error (.invalidCapabilityTokenBody "capability token must be ASCII")
      | some token => do
        validateCapabilityToken token
        validateTokenOrder tokens token
        decodeTokenEntries (body.drop (2 + tokenLen)) (tokens ++ [token])
  termination_by body.length
  decreasing_by
    rw [List.length_drop]
    omega

def decodeCapabilityTokens (body : Bytes) (expectedCount : UInt16) :
    Except NnrpError (List String) :=
  if expectedCount = 0 then
    if body = [] then .ok []
    else .error (.invalidCapabilityTokenBody "zero capability count requires an empty body")
  else if body = [] then
    .error (.invalidCapabilityTokenBody "non-zero capability count requires a non-empty body")
  else do
    let tokens ← decodeTokenEntries body []
    if tokens.length ≠ expectedCount.toNat then
      throw (.declaredLengthMismatch "capability_count" expectedCount.toNat tokens.length)
    pure tokens

/-- Without negotiated extensions every token has to be one of the catalogue. -/
def decodeRegisteredCapabilityTokens (body : Bytes) (expectedCount : UInt16) :
    Except NnrpError (List String) := do
  let tokens ← decodeCapabilityTokens body expectedCount
  match tokens.find? fun token => !isPreview4CapabilityToken token with
  | some token => throw (.unknownCapabilityToken token)
  | none => pure tokens

/-- What the decoder of a server session reads of the session for these messages. -/
structure DecoderSession where
  sessionId : UInt32
  lifecycle : ConnectionLifecycle
  operationFrames : BTreeMap UInt64 UInt32
  frameOperations : BTreeMap UInt32 UInt64
  operationState : UInt64 → Option OperationState

inductive DecodedUpdate
  | flowUpdate (metadata : FlowUpdateMetadata)
  | pressure (messageType : MessageType) (metadata : PressureMetadata)
  | capability (messageType : MessageType) (metadata : CapabilityMetadata) (body : Bytes)
  | routeHint (messageType : MessageType) (metadata : RouteHintMetadata) (body : Bytes)
  | traceContext (frameId : UInt32) (metadata : TraceContextMetadata) (body : Bytes)
  | recoverableError (metadata : RecoverableErrorMetadata) (body : Bytes)
  | retryAfter (metadata : RetryAfterMetadata) (body : Bytes)
  deriving DecidableEq

def requireLenOf (actual : ℕ) (expected : UInt32) (message : String) : Except RuntimeError Unit :=
  if actual ≠ expected.toNat then .error (.unexpectedMessage message) else .ok ()

theorem requireLenOf_iff {actual : ℕ} {want : UInt32} {message : String} :
    requireLenOf actual want message = .ok () ↔ actual = want.toNat := by
  simp [requireLenOf]

namespace DecoderSession

variable (session : DecoderSession) (packet : RuntimePacket)

def requireOptionalSessionPacket (message : String) : Except RuntimeError Unit :=
  if packet.sessionId ≠ 0 ∧ packet.sessionId ≠ session.sessionId then
    .error (.unexpectedMessage message)
  else .ok ()

def requireMetadataLen (expected : ℕ) (message : String) : Except RuntimeError Unit :=
  if packet.metadata.length ≠ expected then .error (.unexpectedMessage message) else .ok ()

def requireBodyLen (expected : UInt32) (message : String) : Except RuntimeError Unit :=
  requireLenOf packet.body.length expected message

def correlatedFrameId (operationId : UInt64) : Except RuntimeError UInt32 :=
  if operationId = 0 then .ok 0
  else
    match session.operationFrames[operationId]? with
    | some frameId => .ok frameId
    | none => .error (.protocol (.unknownOperation operationId))

def requireOperationFrame (operationId : UInt64) (frameId : UInt32) : Except RuntimeError Unit := do
  let expected ← session.correlatedFrameId operationId
  if expected ≠ frameId then
    throw (.unexpectedMessage "server runtime event frame id does not match its operation")

def requireTraceContextFrame (frameId : UInt32) : Except RuntimeError Unit :=
  if frameId = 0 then .ok ()
  else
    match session.frameOperations[frameId]? with
    | none =>
      .error (.unexpectedMessage "server TRACE_CONTEXT references an unknown operation frame")
    | some operationId =>
      match session.operationState operationId with
      | none => .error (.unexpectedMessage "server TRACE_CONTEXT references an unknown operation")
      | some state =>
        if state.isTerminal then
          .error (.unexpectedMessage "server TRACE_CONTEXT references a terminal operation")
        else .ok ()

def decodeFlowUpdate : Except RuntimeError DecodedUpdate := do
  if packet.metadata.length ≠ flowUpdateMetadataLen ∨ packet.body ≠ [] then
    throw (.unexpectedMessage "server received malformed FLOW_UPDATE lengths")
  let metadata ← liftNnrp (FlowUpdateMetadata.parse packet.metadata)
  liftNnrp (validateFlowUpdate session.lifecycle packet.header metadata)
  pure (.flowUpdate metadata)

def decodePressure : Except RuntimeError DecodedUpdate := do
  session.requireOptionalSessionPacket packet "server received pressure update for another session"
  if packet.metadata.length ≠ pressureMetadataLen ∨ packet.body ≠ [] then
    throw (.unexpectedMessage "server received malformed pressure metadata length")
  let metadata ← liftNnrp (PressureMetadata.parse packet.metadata)
  liftNnrp (validatePressureSemantics packet.messageType metadata)
  pure (.pressure packet.messageType metadata)

def decodeCapability : Except RuntimeError DecodedUpdate := do
  session.requireOptionalSessionPacket packet
    "server received capability update for another session"
  requireMetadataLen packet capabilityMetadataLen
    "server received malformed capability metadata length"
  let metadata ← liftNnrp (CapabilityMetadata.parse packet.metadata)
  requireBodyLen packet metadata.bodyBytes "server received capability body length mismatch"
  let _ ← liftNnrp (decodeRegisteredCapabilityTokens packet.body metadata.capabilityCount)
  pure (.capability packet.messageType metadata packet.body)

def decodeRouteHint : Except RuntimeError DecodedUpdate := do
  session.requireOptionalSessionPacket packet "server received route hint for another session"
  requireMetadataLen packet routeHintMetadataLen
    "server received malformed route hint metadata length"
  let metadata ← liftNnrp (RouteHintMetadata.parse packet.metadata)
  requireBodyLen packet metadata.bodyBytes "server received route hint body length mismatch"
  session.requireOperationFrame metadata.operationId packet.header.frameId
  pure (.routeHint packet.messageType metadata packet.body)

def decodeTraceContext : Except RuntimeError DecodedUpdate := do
  session.requireOptionalSessionPacket packet "server received trace context for another session"
  requireMetadataLen packet traceContextMetadataLen
    "server received malformed TRACE_CONTEXT metadata length"
  let metadata ← liftNnrp (TraceContextMetadata.parse packet.metadata)
  liftNnrp (validateTraceContextSemantics metadata)
  session.requireTraceContextFrame packet.header.frameId
  if packet.header.traceId ≠ 0 ∧ packet.header.traceId ≠ metadata.traceId then
    throw (.unexpectedMessage "server TRACE_CONTEXT header trace id does not match metadata")
  requireBodyLen packet metadata.bodyBytes "server received TRACE_CONTEXT body length mismatch"
  pure (.traceContext packet.header.frameId metadata packet.body)

def decodeRecoverableError : Except RuntimeError DecodedUpdate := do
  session.requireOptionalSessionPacket packet
    "server received recoverable error for another session"
  requireMetadataLen packet recoverableErrorMetadataLen
    "server received malformed ERROR_RECOVERABLE metadata length"
  let metadata ← liftNnrp (RecoverableErrorMetadata.parse packet.metadata)
  requireBodyLen packet metadata.diagnosticBytes
    "server received ERROR_RECOVERABLE diagnostic body length mismatch"
  pure (.recoverableError metadata packet.body)

def decodeRetryAfter : Except RuntimeError DecodedUpdate := do
  session.requireOptionalSessionPacket packet "server received retry-after for another session"
  requireMetadataLen packet retryAfterMetadataLen
    "server received malformed RETRY_AFTER metadata length"
  let metadata ← liftNnrp (RetryAfterMetadata.parse packet.metadata)
  requireBodyLen packet metadata.diagnosticBytes
    "server received RETRY_AFTER diagnostic body length mismatch"
  pure (.retryAfter metadata packet.body)

/-- The arms of `decode_server_event` that do not demand the id of the session; `none` for a
message type that is decoded by another arm. -/
def decodeUpdate : Option (Except RuntimeError DecodedUpdate) :=
  match packet.messageType with
  | .flowUpdate => some (session.decodeFlowUpdate packet)
  | .backpressure | .creditUpdate => some (session.decodePressure packet)
  | .capabilityNegotiation | .degradeProfile => some (session.decodeCapability packet)
  | .routeHint | .executionHint => some (session.decodeRouteHint packet)
  | .traceContext => some (session.decodeTraceContext packet)
  | .errorRecoverable => some (session.decodeRecoverableError packet)
  | .retryAfter => some (session.decodeRetryAfter packet)
  | _ => none

end DecoderSession

end Nnrp.ControlUpdate
