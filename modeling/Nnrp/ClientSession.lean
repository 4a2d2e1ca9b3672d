import Nnrp.RuntimeEvent
import Nnrp.SessionUpdate
import Nnrp.SubmitCall

/-!
# The client session

The session remembers which frame carries which operation. An operation ends in two ways: the
server sends its result, which also releases the frame, or the session marks it as terminal, which
queues a lifecycle event and keeps the frame until the result arrives. Events that arrive while a
control request waits for its acknowledgement are kept in a second queue.

What the transport answers to a read or a write is an argument of the call; `sent` holds the
packets that it has taken and not delivered yet.
-/

namespace Nnrp.Client
open OrderedMap Protocol ByteOrder Packet Data Control Object ControlUpdate Session
open Stateful RuntimeEvent
open ControlUpdate.DecoderSession (requireMetadataLen requireBodyLen)
open Submit (NnrpSubmitRequest)
open Lifecycle (ConnectionLifecycle)

def maxPendingClientEvents : ℕ := 1024

/-- The queue of role events holds lifecycle events only. -/
structure NnrpClientSession extends Submit.NnrpClientSession where
  localOperationStates : BTreeMap UInt64 OperationState := ∅
  pendingTerminalControls : BTreeMap UInt64 OperationState := ∅
  pendingRoleEvents : List OperationLifecycleEvent := []
  pendingEvents : List (NnrpClientEvent × RuntimePacket) := []
  lifecycle : ConnectionLifecycle
  pressure : RuntimePressureState := {}
  sent : List RuntimePacket := []

/-- The session that `open_session_with` returns for an accepted acknowledgement. -/
def NnrpClientSession.opened (sessionId : UInt32) (maxInFlightOperations : UInt16)
    (lifecycle : ConnectionLifecycle) : NnrpClientSession where
  sessionId := sessionId
  preSubmitDeadlines := .new maxInFlightOperations
  lifecycle := lifecycle

namespace NnrpClientSession

variable (s : NnrpClientSession) (packet : RuntimePacket)

def requireSessionPacket (message : String) : Except RuntimeError Unit :=
  if packet.sessionId ≠ s.sessionId then .error (.unexpectedMessage message) else .ok ()

def requireOptionalSessionPacket (message : String) : Except RuntimeError Unit :=
  if packet.sessionId ≠ 0 ∧ packet.sessionId ≠ s.sessionId then
    .error (.unexpectedMessage message)
  else .ok ()

variable (operationId : UInt64)

def correlatedFrameId : Except RuntimeError UInt32 :=
  if operationId = 0 then .ok 0
  else
    match s.operationFrames[operationId]? with
    | some frameId => .ok frameId
    | none => .error (.unexpectedMessage "client runtime event references an unknown operation")

def requireOperationFrame (frameId : UInt32) : Except RuntimeError Unit := do
  let expected ← s.correlatedFrameId operationId
  Fallible.ensure (expected = frameId)
    (.unexpectedMessage "client runtime event frame id does not match its operation")

def requireNonterminalOperation (terminalMessage : String) : Except RuntimeError Unit :=
  match s.localOperationStates[operationId]? with
  | some state =>
    if state.isTerminal then .error (.unexpectedMessage terminalMessage) else .ok ()
  | none => .ok ()

def requireTraceContextFrame (frameId : UInt32) : Except RuntimeError Unit :=
  if frameId = 0 then .ok ()
  else
    match s.frameOperations[frameId]? with
    | none =>
      .error (.unexpectedMessage "client TRACE_CONTEXT references an unknown operation frame")
    | some operationId =>
      s.requireNonterminalOperation operationId
        "client TRACE_CONTEXT references a terminal operation"

def ensurePendingRoleCapacity : Except RuntimeError Unit :=
  if maxPendingClientEvents ≤ s.pendingRoleEvents.length then
    .error (.unexpectedMessage "client local lifecycle event queue exceeded its limit")
  else .ok ()

def requireControllable (operationId : UInt64) (pendingState : OperationState) :
    Except RuntimeError Unit :=
  if operationId = 0 then .ok ()
  else do
    let _ ← s.correlatedFrameId operationId
    if maxPendingClientEvents ≤ s.pendingTerminalControls.size ∧
        operationId ∉ s.pendingTerminalControls then
      throw (.unexpectedMessage "client pending terminal control queue exceeded its limit")
    match s.pendingTerminalControls[operationId]? <|> s.localOperationStates[operationId]? with
    | some current => throw (.protocol (.invalidOperationTransition current pendingState))
    | none => pure ()

def runtimePacket (messageType : MessageType) (frameId : UInt32) (metadata body : Bytes) :
    Except RuntimeError RuntimePacket :=
  liftNnrp (RuntimePacket.new
    { CommonHeader.new messageType (UInt32.ofNat metadata.length) (UInt32.ofNat body.length) with
      sessionId := s.sessionId
      frameId } metadata body)

end NnrpClientSession

abbrev SessionM := Method NnrpClientSession RuntimeError

namespace NnrpClientSession

variable (s : NnrpClientSession)

def finish (operationId : UInt64) (frameId : UInt32) : NnrpClientSession :=
  { s with
    frameOperations := s.frameOperations.erase frameId
    operationFrames := s.operationFrames.erase operationId
    localOperationStates := s.localOperationStates.erase operationId
    pendingTerminalControls := s.pendingTerminalControls.erase operationId }

def mark (operationId : UInt64) (state : OperationState) : NnrpClientSession :=
  { s with localOperationStates := s.localOperationStates.insert operationId state }

def queueLifecycle (event : OperationLifecycleEvent) : NnrpClientSession :=
  { s with pendingRoleEvents := s.pendingRoleEvents ++ [event] }

def retain (entry : NnrpClientEvent × RuntimePacket) : NnrpClientSession :=
  { s with pendingEvents := s.pendingEvents ++ [entry] }

def send (packet : RuntimePacket) : NnrpClientSession := { s with sent := s.sent ++ [packet] }

end NnrpClientSession

def completeOperationByFrame (frameId : UInt32) : SessionM UInt64 := do
  let operationId ← check fun s =>
    match s.frameOperations[frameId]? with
    | some operationId => .ok operationId
    | none => .error (.unexpectedMessage "client terminal event references an unknown frame")
  write (·.finish operationId frameId)
  pure operationId

def completeOperation (operationId : UInt64) (frameId : UInt32) : SessionM Unit := do
  check (·.requireOperationFrame operationId frameId)
  write (·.finish operationId frameId)

/-- The mark is set before the lifecycle event is built, which fails for the operation zero. -/
def completeLocalOperation (operationId : UInt64) (state : OperationState) : SessionM Unit := do
  let _ ← check (·.correlatedFrameId operationId)
  check fun s =>
    match s.localOperationStates[operationId]? with
    | some current => .error (.protocol (.invalidOperationTransition current state))
    | none => .ok ()
  write (·.mark operationId state)
  let event ← lift (liftNnrp (OperationLifecycleEvent.new operationId state))
  write (·.queueLifecycle event)

section
variable (packet : RuntimePacket)

def decodeResultPush : SessionM NnrpClientEvent := do
  check (·.requireSessionPacket packet "client received result for another session")
  lift (requireMetadataLen packet resultPushMetadataLen
    "client received malformed RESULT_PUSH metadata length")
  let metadata ← lift (liftNnrp (ResultPushMetadata.parse packet.metadata))
  let operationId ← completeOperationByFrame packet.frameId
  let result ← lift (NnrpResult.fromRuntime operationId (.ofCommon packet.header)
    (.resultPush metadata packet.body))
  pure (.result result)

def decodeResultDrop : SessionM NnrpClientEvent := do
  check (·.requireSessionPacket packet "client received drop for another session")
  lift (liftNnrp (validateResultDropHeader packet.header))
  let operationId ← completeOperationByFrame packet.frameId
  let result ← lift (NnrpResult.fromRuntime operationId (.ofCommon packet.header) .resultDrop)
  pure (.result result)

def decodeResultDropReason : SessionM NnrpClientEvent := do
  check (·.requireSessionPacket packet "client received drop reason for another session")
  lift (requireMetadataLen packet resultDropReasonMetadataLen
    "client received malformed RESULT_DROP_REASON metadata length")
  let metadata ← lift (liftNnrp (ResultDropReasonMetadata.parse packet.metadata))
  lift (liftNnrp (validateResultDropReasonSemantics metadata))
  lift (requireBodyLen packet metadata.diagnosticBytes
    "client received RESULT_DROP_REASON body length mismatch")
  completeOperation metadata.operationId packet.frameId
  let result ← lift (NnrpResult.fromRuntime metadata.operationId (.ofCommon packet.header)
    (.resultDropReason metadata packet.body))
  pure (.result result)

def decodePartialResult : SessionM NnrpClientEvent := do
  check (·.requireSessionPacket packet "client received partial result for another session")
  lift (requireMetadataLen packet partialResultMetadataLen
    "client received malformed PARTIAL_RESULT metadata length")
  let metadata ← lift (liftNnrp (PartialResultMetadata.parse packet.metadata))
  lift (liftNnrp (validatePartialResultSemantics metadata))
  lift (requireBodyLen packet metadata.bodyBytes
    "client received PARTIAL_RESULT body length mismatch")
  check (·.requireOperationFrame metadata.operationId packet.frameId)
  check (·.requireNonterminalOperation metadata.operationId
    "client received PARTIAL_RESULT for a terminal operation")
  pure (.partialResult metadata packet.body)

def decodeProgress : SessionM NnrpClientEvent := do
  check (·.requireSessionPacket packet "client received progress for another session")
  lift (requireMetadataLen packet progressMetadataLen
    "client received malformed PROGRESS metadata length")
  let metadata ← lift (liftNnrp (ProgressMetadata.parse packet.metadata))
  lift (liftNnrp (validateProgressSemantics metadata))
  lift (requireBodyLen packet metadata.bodyBytes "client received PROGRESS body length mismatch")
  check (·.requireOperationFrame metadata.operationId packet.frameId)
  check (·.requireNonterminalOperation metadata.operationId
    "client received PROGRESS for a terminal operation")
  pure (.progress metadata packet.body)

def decodeControl : SessionM NnrpClientEvent := do
  check (·.requireSessionPacket packet "client received control for another session")
  lift (requireMetadataLen packet controlRequestMetadataLen
    "client received malformed runtime control metadata length")
  let metadata ← lift (liftNnrp (ControlRequestMetadata.parse packet.metadata))
  lift (liftNnrp (validateControlRequestSemantics packet.messageType metadata))
  lift (requireBodyLen packet metadata.diagnosticBytes
    "client received runtime control diagnostic body length mismatch")
  check (·.requireOperationFrame metadata.operationId packet.frameId)
  if metadata.operationId = 0 then pure (.control packet.messageType metadata packet.body)
  else
    check (·.ensurePendingRoleCapacity)
    completeLocalOperation metadata.operationId (controlState packet.messageType)
    pure (.control packet.messageType metadata packet.body)

def decodeSupersede : SessionM NnrpClientEvent := do
  check (·.requireSessionPacket packet "client received supersede for another session")
  lift (requireMetadataLen packet supersedeMetadataLen
    "client received malformed SUPERSEDE metadata length")
  let metadata ← lift (liftNnrp (SupersedeMetadata.parse packet.metadata))
  lift (requireBodyLen packet metadata.diagnosticBytes
    "client received SUPERSEDE diagnostic body length mismatch")
  check (·.requireOperationFrame metadata.oldOperationId packet.frameId)
  check (·.ensurePendingRoleCapacity)
  completeLocalOperation metadata.oldOperationId .superseded
  pure (.supersede metadata packet.body)

def decodePressure : SessionM NnrpClientEvent := do
  check (·.requireOptionalSessionPacket packet
    "client received pressure update for another session")
  lift (requireMetadataLen packet pressureMetadataLen
    "client received malformed pressure metadata length")
  let metadata ← lift (liftNnrp (PressureMetadata.parse packet.metadata))
  lift (liftNnrp (validatePressureSemantics packet.messageType metadata))
  let pressure ← check fun s => liftNnrp (s.pressure.applyInbound packet.messageType metadata)
  write fun s => { s with pressure }
  if packet.messageType = .backpressure then pure (.update (.backpressure metadata))
  else pure (.update (.creditUpdate metadata))

end

namespace NnrpClientSession

variable (s : NnrpClientSession) (packet : RuntimePacket)

def decodeScheduling : Except RuntimeError NnrpClientUpdate := do
  s.requireSessionPacket packet "client received scheduling update for another session"
  if packet.metadata.length ≠ schedulingMetadataLen ∨ packet.body ≠ [] then
    throw (.unexpectedMessage "client received malformed scheduling metadata length")
  let metadata ← liftNnrp (parseScheduling packet.metadata)
  liftNnrp (validateSchedulingSemantics packet.messageType metadata)
  s.requireOperationFrame metadata.operationId packet.frameId
  pure (.scheduling packet.messageType metadata)

def decodeBudgetUpdate : Except RuntimeError NnrpClientUpdate := do
  s.requireSessionPacket packet "client received budget update for another session"
  if packet.metadata.length ≠ budgetMetadataLen ∨ packet.body ≠ [] then
    throw (.unexpectedMessage "client received malformed BUDGET_UPDATE lengths")
  let metadata ← liftNnrp (BudgetMetadata.parse packet.metadata)
  s.requireOperationFrame metadata.operationId packet.frameId
  pure (.budget metadata)

def decodeFlowUpdate : Except RuntimeError NnrpClientUpdate := do
  if packet.metadata.length ≠ flowUpdateMetadataLen ∨ packet.body ≠ [] then
    throw (.unexpectedMessage "client received malformed FLOW_UPDATE lengths")
  let metadata ← liftNnrp (FlowUpdateMetadata.parse packet.metadata)
  liftNnrp (validateFlowUpdate s.lifecycle packet.header metadata)
  pure (.flowUpdate metadata)

def decodeCapability : Except RuntimeError NnrpClientUpdate := do
  s.requireOptionalSessionPacket packet "client received capability update for another session"
  requireMetadataLen packet capabilityMetadataLen
    "client received malformed capability metadata length"
  let metadata ← liftNnrp (CapabilityMetadata.parse packet.metadata)
  requireBodyLen packet metadata.bodyBytes "client received capability body length mismatch"
  let _ ← liftNnrp (decodeRegisteredCapabilityTokens packet.body metadata.capabilityCount)
  pure (.capability packet.messageType metadata packet.body)

def decodeRouteHint : Except RuntimeError NnrpClientUpdate := do
  s.requireOptionalSessionPacket packet "client received route hint for another session"
  requireMetadataLen packet routeHintMetadataLen
    "client received malformed route hint metadata length"
  let metadata ← liftNnrp (RouteHintMetadata.parse packet.metadata)
  requireBodyLen packet metadata.bodyBytes "client received route hint body length mismatch"
  s.requireOperationFrame metadata.operationId packet.frameId
  pure (.routeHint packet.messageType metadata packet.body)

def decodeObjectDeclare : Except RuntimeError NnrpClientUpdate := do
  s.requireSessionPacket packet "client received object declaration for another session"
  requireMetadataLen packet objectDescriptorMetadataLen
    "client received malformed OBJECT_DECLARE metadata length"
  let metadata ← liftNnrp (ObjectDescriptorMetadata.parse packet.metadata)
  requireBodyLen packet metadata.metadataBytes
    "client received OBJECT_DECLARE body length mismatch"
  pure (.objectDeclare metadata packet.body)

def decodeObjectRef : Except RuntimeError NnrpClientUpdate := do
  s.requireSessionPacket packet "client received object reference for another session"
  requireMetadataLen packet objectReferenceMetadataLen
    "client received malformed OBJECT_REF metadata length"
  let metadata ← liftNnrp (ObjectReferenceMetadata.parse packet.metadata)
  requireBodyLen packet metadata.metadataBytes "client received OBJECT_REF body length mismatch"
  s.requireOperationFrame metadata.operationId packet.frameId
  pure (.objectRef metadata packet.body)

def decodeObjectRelease : Except RuntimeError NnrpClientUpdate := do
  s.requireSessionPacket packet "client received object release for another session"
  requireMetadataLen packet objectReleaseMetadataLen
    "client received malformed OBJECT_RELEASE metadata length"
  let metadata ← liftNnrp (ObjectReleaseMetadata.parse packet.metadata)
  requireBodyLen packet metadata.diagnosticBytes
    "client received OBJECT_RELEASE body length mismatch"
  s.requireOperationFrame metadata.operationId packet.frameId
  pure (.objectRelease metadata packet.body)

def decodeObjectDelta : Except RuntimeError NnrpClientUpdate := do
  s.requireSessionPacket packet "client received object delta for another session"
  requireMetadataLen packet objectDeltaMetadataLen
    "client received malformed object delta metadata length"
  let metadata ← liftNnrp (ObjectDeltaMetadata.parse packet.metadata)
  let expectedBodyLen := (checkedAddU32 metadata.metadataBytes metadata.deltaBytes).getD 0xffffffff
  requireBodyLen packet expectedBodyLen "client received object delta body length mismatch"
  pure (.objectDelta packet.messageType metadata packet.body)

def decodeCacheReference : Except RuntimeError NnrpClientUpdate := do
  s.requireSessionPacket packet "client received cache reference for another session"
  requireMetadataLen packet cacheReferenceMetadataLen
    "client received malformed CACHE_REFERENCE metadata length"
  let metadata ← liftNnrp (CacheReferenceMetadata.parse packet.metadata)
  requireBodyLen packet metadata.metadataBytes
    "client received CACHE_REFERENCE body length mismatch"
  pure (.cacheReference metadata packet.body)

def decodeCacheMiss : Except RuntimeError NnrpClientUpdate := do
  s.requireSessionPacket packet "client received cache miss for another session"
  requireMetadataLen packet cacheMissMetadataLen
    "client received malformed CACHE_MISS metadata length"
  let metadata ← liftNnrp (CacheMissMetadata.parse packet.metadata)
  requireBodyLen packet metadata.diagnosticBytes "client received CACHE_MISS body length mismatch"
  pure (.cacheMiss metadata packet.body)

def decodeCacheInvalidate : Except RuntimeError NnrpClientUpdate := do
  s.requireSessionPacket packet "client received cache invalidate for another session"
  if packet.metadata.length ≠ cacheInvalidateMetadataLen ∨ packet.body ≠ [] then
    throw (.unexpectedMessage "client received malformed CACHE_INVALIDATE lengths")
  let metadata ← liftNnrp (CacheInvalidateMetadata.parse packet.metadata)
  pure (.cacheInvalidate metadata)

def decodeTraceContext : Except RuntimeError NnrpClientUpdate := do
  s.requireOptionalSessionPacket packet "client received trace context for another session"
  requireMetadataLen packet traceContextMetadataLen
    "client received malformed TRACE_CONTEXT metadata length"
  let metadata ← liftNnrp (TraceContextMetadata.parse packet.metadata)
  liftNnrp (validateTraceContextSemantics metadata)
  s.requireTraceContextFrame packet.frameId
  if packet.header.traceId ≠ 0 ∧ packet.header.traceId ≠ metadata.traceId then
    throw (.unexpectedMessage "client TRACE_CONTEXT header trace id does not match metadata")
  requireBodyLen packet metadata.bodyBytes "client received TRACE_CONTEXT body length mismatch"
  pure (.traceContext packet.frameId metadata packet.body)

def decodeRecoverableError : Except RuntimeError NnrpClientUpdate := do
  s.requireOptionalSessionPacket packet "client received recoverable error for another session"
  requireMetadataLen packet recoverableErrorMetadataLen
    "client received malformed ERROR_RECOVERABLE metadata length"
  let metadata ← liftNnrp (RecoverableErrorMetadata.parse packet.metadata)
  requireBodyLen packet metadata.diagnosticBytes
    "client received ERROR_RECOVERABLE diagnostic body length mismatch"
  pure (.recoverableError metadata packet.body)

def decodeRetryAfter : Except RuntimeError NnrpClientUpdate := do
  s.requireOptionalSessionPacket packet "client received retry-after for another session"
  requireMetadataLen packet retryAfterMetadataLen
    "client received malformed RETRY_AFTER metadata length"
  let metadata ← liftNnrp (RetryAfterMetadata.parse packet.metadata)
  requireBodyLen packet metadata.diagnosticBytes
    "client received RETRY_AFTER diagnostic body length mismatch"
  pure (.retryAfter metadata packet.body)

def decodeResultHint : Except RuntimeError NnrpClientUpdate := do
  s.requireSessionPacket packet "client received result hint for another session"
  if packet.metadata.length ≠ resultHintMetadataLen ∨ packet.body ≠ [] then
    throw (.unexpectedMessage "client received malformed RESULT_HINT payload")
  let metadata ← liftNnrp (ResultHintMetadata.parse packet.metadata)
  pure (.resultHint metadata)

def decodeUpdate : Except RuntimeError NnrpClientUpdate :=
  match packet.messageType with
  | .priorityUpdate | .deadline | .expireAt => s.decodeScheduling packet
  | .budgetUpdate => s.decodeBudgetUpdate packet
  | .flowUpdate => s.decodeFlowUpdate packet
  | .capabilityNegotiation | .degradeProfile => s.decodeCapability packet
  | .routeHint | .executionHint => s.decodeRouteHint packet
  | .objectDeclare => s.decodeObjectDeclare packet
  | .objectRef => s.decodeObjectRef packet
  | .objectRelease => s.decodeObjectRelease packet
  | .objectPatch | .objectDelta => s.decodeObjectDelta packet
  | .cacheReference => s.decodeCacheReference packet
  | .cacheMiss => s.decodeCacheMiss packet
  | .cacheInvalidate => s.decodeCacheInvalidate packet
  | .traceContext => s.decodeTraceContext packet
  | .errorRecoverable => s.decodeRecoverableError packet
  | .retryAfter => s.decodeRetryAfter packet
  | .resultHint => s.decodeResultHint packet
  | _ => .error (.unexpectedMessage "client expected a runtime result or control event")

end NnrpClientSession

def decodeEvent (packet : RuntimePacket) : SessionM NnrpClientEvent :=
  match packet.messageType with
  | .resultPush => decodeResultPush packet
  | .resultDrop => decodeResultDrop packet
  | .resultDropReason => decodeResultDropReason packet
  | .partialResult => decodePartialResult packet
  | .progress => decodeProgress packet
  | .cancel | .abort => decodeControl packet
  | .supersede => decodeSupersede packet
  | .backpressure | .creditUpdate => decodePressure packet
  | _ => do
    let update ← check (·.decodeUpdate packet)
    pure (.update update)

def decodeEventPacket (packet : RuntimePacket) : SessionM (NnrpClientEvent × RuntimePacket) := do
  let event ← decodeEvent packet
  pure (event, packet)

def writePacket (written : Except RuntimeError Unit) (packet : RuntimePacket) : SessionM Unit := do
  lift written
  write (·.send packet)

/-- The submit takes its deadline reservation before anything is written. -/
def prepareSubmit (request : NnrpSubmitRequest) (nowUnixMs : UInt64) : SessionM RuntimePacket :=
  fun s =>
    let (session, packet) := s.toNnrpClientSession.prepare request nowUnixMs
    (packet, { s with toNnrpClientSession := session })

def submitNowait (request : NnrpSubmitRequest) (nowUnixMs : UInt64)
    (written : Except RuntimeError Unit) : SessionM UInt32 := do
  let packet ← prepareSubmit request nowUnixMs
  writePacket written packet
  write fun s => { s with toNnrpClientSession := s.toNnrpClientSession.record request }
  pure request.frameId

def sendControlRequestWithDiagnostics (messageType : MessageType)
    (metadata : ControlRequestMetadata) (diagnostics : Bytes)
    (written : Except RuntimeError Unit) : SessionM Unit := do
  lift (liftNnrp (validateControlRequestSemantics messageType metadata))
  lift (requireLenOf diagnostics.length metadata.diagnosticBytes
    "client runtime control diagnostic body length mismatch")
  check (·.requireControllable metadata.operationId (controlState messageType))
  let frameId ← check (·.correlatedFrameId metadata.operationId)
  let bytes ← lift (liftNnrp metadata.toBytes)
  let packet ← check (·.runtimePacket messageType frameId bytes diagnostics)
  writePacket written packet
  if metadata.operationId = 0 then pure ()
  else
    write fun s => { s with
      pendingTerminalControls :=
        s.pendingTerminalControls.insert metadata.operationId (controlState messageType) }

def supersedeOperation (metadata : SupersedeMetadata) (diagnostics : Bytes)
    (written : Except RuntimeError Unit) : SessionM Unit := do
  lift (requireLenOf diagnostics.length metadata.diagnosticBytes
    "client supersede diagnostic body length mismatch")
  check (·.ensurePendingRoleCapacity)
  let frameId ← check (·.correlatedFrameId metadata.oldOperationId)
  let bytes ← lift (liftNnrp metadata.toBytes)
  let packet ← check (·.runtimePacket .supersede frameId bytes diagnostics)
  writePacket written packet
  completeLocalOperation metadata.oldOperationId .superseded

def cancelFrame (frameId : UInt32) (written : Except RuntimeError Unit) : SessionM Unit := do
  check (·.ensurePendingRoleCapacity)
  let operationId ← check fun s =>
    match s.frameOperations[frameId]? with
    | some operationId => .ok operationId
    | none => .error (.unexpectedMessage "client frame cancel references an unknown frame")
  let packet ← check (·.runtimePacket .frameCancel frameId [] [])
  writePacket written packet
  completeLocalOperation operationId .cancelled

inductive Received
  | event (event : NnrpClientEvent)
  | lifecycle (event : OperationLifecycleEvent)
  | result (result : NnrpResult)
  deriving DecidableEq

def popRoleEvent : SessionM (Option OperationLifecycleEvent) :=
  popFront (·.pendingRoleEvents) fun rest s => { s with pendingRoleEvents := rest }

def popEvent : SessionM (Option (NnrpClientEvent × RuntimePacket)) :=
  popFront (·.pendingEvents) fun rest s => { s with pendingEvents := rest }

variable (input : Except RuntimeError RuntimePacket)

/-- `input` is what `read_packet` returns if it is called. -/
def awaitClientEventPacket :
    SessionM (NnrpClientEvent × RuntimePacket) := do
  match ← popEvent with
  | some entry => pure entry
  | none =>
    let packet ← lift input
    decodeEventPacket packet

def awaitEvent : SessionM Received := do
  match ← popRoleEvent with
  | some event => pure (.lifecycle event)
  | none =>
    let entry ← awaitClientEventPacket input
    pure (.event entry.1)

def awaitResult : SessionM Received := do
  match ← popRoleEvent with
  | some event =>
    let result ← lift (NnrpResult.fromLifecycle event)
    pure (.result result)
  | none =>
    let entry ← awaitClientEventPacket input
    match entry.1 with
    | .result result => pure (.result result)
    | _ =>
      lift (.error (.unexpectedMessage
        "client expected a terminal result but received another runtime event"))

variable (input : Except RuntimeError (Option RuntimePacket))

/-- `poll_event_packet_batch` for one event; `input` is the answer of `try_read_packet`. -/
def pollEventPacket :
    SessionM (Option (NnrpClientEvent × RuntimePacket)) := do
  match ← popEvent with
  | some entry => pure (some entry)
  | none =>
    match ← lift input with
    | none => pure none
    | some packet =>
      let entry ← decodeEventPacket packet
      pure (some entry)

def pollEvent :
    SessionM (Option Received) := do
  match ← popRoleEvent with
  | some event => pure (some (.lifecycle event))
  | none =>
    let entry ← pollEventPacket input
    pure (entry.map fun entry => .event entry.1)

def patchSession (patch : SessionPatchMetadata) (written : Except RuntimeError Unit) :
    SessionM Unit := do
  refuse (fun _ => patch.profilePatchBytes ≠ 0) (.unexpectedMessage
    "client session patch metadata declares an unsupported profile-specific body")
  let bytes ← lift (liftNnrp patch.toBytes)
  let packet ← check (·.runtimePacket .sessionPatch 0 bytes [])
  writePacket written packet

def closeWith (close : SessionCloseMetadata) (written : Except RuntimeError Unit) :
    SessionM Unit := do
  let lifecycle ← check fun s => liftNnrp (s.lifecycle.beginSessionClose
    { CommonHeader.new .sessionClose 24 0 with sessionId := s.sessionId } close)
  write fun s => { s with lifecycle }
  let bytes ← lift (liftNnrp close.toBytes)
  let packet ← check (·.runtimePacket .sessionClose 0 bytes [])
  writePacket written packet

def migrateTransport (request : SessionMigrateMetadata) (written : Except RuntimeError Unit) :
    SessionM Unit := do
  let bytes ← lift (liftNnrp request.toBytes)
  let packet ← check (·.runtimePacket .sessionMigrate 0 bytes [])
  writePacket written packet

def retainEvent (packet : RuntimePacket) (limitMessage : String) : SessionM Unit := do
  let entry ← decodeEventPacket packet
  refuse (fun s => maxPendingClientEvents ≤ s.pendingEvents.length)
    (.unexpectedMessage limitMessage)
  write (·.retain entry)

variable (input : Except RuntimeError RuntimePacket)

/-- One round of the loop of `patch_session`; the value says whether the loop is left. -/
def patchRound : SessionM Bool := do
  let packet ← lift input
  if packet.messageType ≠ .sessionPatchAck then
    retainEvent packet
      "client session patch exceeded the pending event limit before acknowledgement"
    pure false
  else
    check (·.requireSessionPacket packet "client received patch ack for another session")
    lift (requireMetadataLen packet sessionPatchAckMetadataLen
      "client received malformed SESSION_PATCH_ACK metadata length")
    let _ ← lift (liftNnrp (SessionPatchAckMetadata.parse packet.metadata))
    pure true

def closeRound : SessionM Bool := do
  let packet ← lift input
  if packet.messageType ≠ .sessionCloseAck then
    retainEvent packet
      "client session close exceeded the pending event limit before acknowledgement"
    pure false
  else
    lift (requireMetadataLen packet sessionCloseAckMetadataLen
      "client received malformed SESSION_CLOSE_ACK metadata length")
    check (·.requireSessionPacket packet "client received SESSION_CLOSE_ACK for another session")
    let ack ← lift (liftNnrp (SessionCloseAckMetadata.parse packet.metadata))
    let lifecycle ← check fun s => liftNnrp (s.lifecycle.applySessionCloseAck packet.header ack)
    write fun s => { s with lifecycle }
    match ack.closeStatus with
    | .closed => pure true
    | .rejected => lift (.error (.unexpectedMessage "server rejected SESSION_CLOSE"))
    | .acknowledged | .draining => pure false

/-- The one read of `migrate_transport`: it has no loop and retains nothing. -/
def migrateRound (request : SessionMigrateMetadata) (input : Except RuntimeError RuntimePacket) :
    SessionM Bool := do
  let packet ← lift input
  refuse (fun _ => packet.messageType ≠ .sessionMigrateAck)
    (.unexpectedMessage "client expected SESSION_MIGRATE_ACK")
  check (·.requireSessionPacket packet "client received migrate ack for another session")
  lift (requireMetadataLen packet sessionMigrateAckMetadataLen
    "client received malformed SESSION_MIGRATE_ACK metadata length")
  let ack ← lift (liftNnrp (SessionMigrateAckMetadata.parse packet.metadata))
  lift (liftNnrp (validateMigrationRecovery request ack))
  pure true

abbrev Entry := NnrpClientEvent × RuntimePacket

abbrev Arrival := Except RuntimeError RuntimePacket

structure Reader where
  session : NnrpClientSession
  inbound : List Arrival

abbrev ReaderM := Method Reader RuntimeError

def onSession {α : Type} (m : SessionM α) : ReaderM α :=
  fun r => ((call m r.session).1, { r with session := (call m r.session).2 })

/-- `try_read_packet`; a `read_packet` that finds nothing waits instead. -/
def tryReadPacket : ReaderM (Option RuntimePacket) := fun r =>
  match r.inbound with
  | [] => (.ok none, r)
  | .ok packet :: rest => (.ok (some packet), { r with inbound := rest })
  | .error e :: rest => (.error e, { r with inbound := rest })

def readEntry : ReaderM (Option Entry) := do
  match ← tryReadPacket with
  | none => pure none
  | some packet =>
    let entry ← onSession (decodeEventPacket packet)
    pure (some entry)

def takePending : ℕ → ReaderM (List Entry)
  | 0 => pure []
  | n + 1 => do
    match ← onSession popEvent with
    | none => pure []
    | some entry =>
      let entries ← takePending n
      pure (entry :: entries)

def readBuffered : ℕ → ReaderM (List Entry)
  | 0 => pure []
  | n + 1 => do
    match ← readEntry with
    | none => pure []
    | some entry =>
      let entries ← readBuffered n
      pure (entry :: entries)

def pollEventPacketBatch (maxEvents : ℕ) : ReaderM (List Entry) := do
  let events ← takePending maxEvents
  let more ← readBuffered (maxEvents - events.length)
  pure (events ++ more)

/-- `await_event_packet`; without a value it still waits for a packet. -/
def awaitEventPacket : ReaderM (Option Entry) := do
  match ← onSession popEvent with
  | some entry => pure (some entry)
  | none => readEntry

def validateEventBatchLimit (maxEvents : ℕ) : Except RuntimeError Unit :=
  if maxEvents = 0 then
    .error (.unexpectedMessage "client event batch limit must be greater than zero")
  else .ok ()

def awaitEventPacketBatch (maxEvents : ℕ) : ReaderM (Option (List Entry)) := do
  lift (validateEventBatchLimit maxEvents)
  match ← awaitEventPacket with
  | none => pure none
  | some first =>
    let events ← pollEventPacketBatch (maxEvents - 1)
    pure (some (first :: events))

end Nnrp.Client
