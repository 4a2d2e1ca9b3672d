import Nnrp.ControlUpdate
import Nnrp.ObjectMetadata
import Nnrp.OperationMetadata
import Nnrp.ResultMetadata

/-!
# Events of a session

What a client session hands to its application: decoded packets, results of operations, and
lifecycle events that record a local change of an operation.
-/

namespace Nnrp.RuntimeEvent
open Protocol ByteOrder Packet Data Control Object ControlUpdate PreSubmit

/-- The header without the lengths, which follow from metadata and body. -/
structure RuntimeFrameHeader where
  (versionMajor wireFormat : UInt8)
  messageType : MessageType
  (flags sessionId frameId : UInt32)
  (viewId routeId : UInt16)
  traceId : UInt64
  deriving DecidableEq

def RuntimeFrameHeader.ofCommon (header : CommonHeader) : RuntimeFrameHeader :=
  { header with }

structure OperationLifecycleEvent where
  operationId : UInt64
  state : OperationState
  deriving DecidableEq

def OperationLifecycleEvent.new (operationId : UInt64) (state : OperationState) :
    Except NnrpError OperationLifecycleEvent :=
  if operationId = 0 then
    .error (.invalidOperationRelationship
      "operation lifecycle event requires a non-zero operation_id")
  else .ok ⟨operationId, state⟩

/-- The state that a control leads to; it is validated to be a cancel or an abort. -/
def controlState : MessageType → OperationState
  | .cancel => .cancelled
  | _ => .failed

theorem controlState_terminal (messageType : MessageType) :
    (controlState messageType).isTerminal = true := by
  cases messageType <;> rfl

inductive ResultTerminalState
  | success | cancelled | dropped | error
  deriving DecidableEq

def ResultTerminalState.fromOperationState : OperationState → Option ResultTerminalState
  | .completed => some .success
  | .cancelled => some .cancelled
  | .superseded => some .dropped
  | .failed => some .error
  | .accepted | .running | .partialOutput | .waitingTool => none

inductive ResultMessage
  | resultPush (metadata : ResultPushMetadata) (body : Bytes)
  | resultDrop
  | resultDropReason (metadata : ResultDropReasonMetadata) (diagnostic : Bytes)
  deriving DecidableEq

def ResultMessage.terminalState : ResultMessage → ResultTerminalState
  | .resultPush _ _ => .success
  | .resultDrop | .resultDropReason _ _ => .dropped

inductive NnrpTerminalEvent
  | runtime (header : RuntimeFrameHeader) (message : ResultMessage)
  | lifecycle (event : OperationLifecycleEvent)
  deriving DecidableEq

structure NnrpResult where
  operationId : UInt64
  terminalState : ResultTerminalState
  event : NnrpTerminalEvent
  deriving DecidableEq

namespace NnrpResult

def fromRuntime (operationId : UInt64) (header : RuntimeFrameHeader) (message : ResultMessage) :
    Except RuntimeError NnrpResult :=
  if operationId = 0 then
    .error (.unexpectedMessage "terminal result requires a non-zero operation id")
  else .ok { operationId, terminalState := message.terminalState, event := .runtime header message }

def fromLifecycle (event : OperationLifecycleEvent) : Except RuntimeError NnrpResult :=
  if event.operationId = 0 then
    .error (.unexpectedMessage "terminal result requires a non-zero operation id")
  else
    match ResultTerminalState.fromOperationState event.state with
    | none =>
      .error (.unexpectedMessage "operation lifecycle event does not establish a terminal result")
    | some terminalState =>
      .ok { operationId := event.operationId, terminalState, event := .lifecycle event }

variable {result : NnrpResult}

theorem fromRuntime_ok {id : UInt64} {header : RuntimeFrameHeader}
    {message : ResultMessage} (h : fromRuntime id header message = .ok result) :
    result.operationId = id ∧ result.event = .runtime header message := by
  rw [fromRuntime] at h
  split_ifs at h
  cases h
  exact ⟨rfl, rfl⟩

theorem fromLifecycle_ok {ev : OperationLifecycleEvent} (h : fromLifecycle ev = .ok result) :
    result.operationId = ev.operationId ∧ result.event = .lifecycle ev := by
  rw [fromLifecycle] at h
  split_ifs at h
  split at h <;> cases h
  exact ⟨rfl, rfl⟩

end NnrpResult

/-- Events that carry neither output nor the end of an operation. -/
inductive NnrpClientUpdate
  | scheduling (messageType : MessageType) (metadata : SchedulingMetadata)
  | budget (metadata : BudgetMetadata)
  | flowUpdate (metadata : FlowUpdateMetadata)
  | backpressure (metadata : PressureMetadata)
  | creditUpdate (metadata : PressureMetadata)
  | objectDeclare (metadata : ObjectDescriptorMetadata) (body : Bytes)
  | objectRef (metadata : ObjectReferenceMetadata) (body : Bytes)
  | objectRelease (metadata : ObjectReleaseMetadata) (body : Bytes)
  | objectDelta (messageType : MessageType) (metadata : ObjectDeltaMetadata) (body : Bytes)
  | cacheReference (metadata : CacheReferenceMetadata) (body : Bytes)
  | cacheMiss (metadata : CacheMissMetadata) (body : Bytes)
  | cacheInvalidate (metadata : CacheInvalidateMetadata)
  | capability (messageType : MessageType) (metadata : CapabilityMetadata) (body : Bytes)
  | routeHint (messageType : MessageType) (metadata : RouteHintMetadata) (body : Bytes)
  | traceContext (frameId : UInt32) (metadata : TraceContextMetadata) (body : Bytes)
  | recoverableError (metadata : RecoverableErrorMetadata) (body : Bytes)
  | retryAfter (metadata : RetryAfterMetadata) (body : Bytes)
  | resultHint (metadata : ResultHintMetadata)
  deriving DecidableEq

inductive NnrpClientEvent
  | result (result : NnrpResult)
  | partialResult (metadata : PartialResultMetadata) (body : Bytes)
  | progress (metadata : ProgressMetadata) (body : Bytes)
  | control (messageType : MessageType) (metadata : ControlRequestMetadata) (body : Bytes)
  | supersede (metadata : SupersedeMetadata) (body : Bytes)
  | update (update : NnrpClientUpdate)
  deriving DecidableEq

def NnrpClientEvent.outcome : NnrpClientEvent → Option UInt64
  | .result r => some r.operationId
  | .partialResult _ _ | .progress _ _ | .control _ _ _ | .supersede _ _ | .update _ => none

def NnrpClientEvent.output : NnrpClientEvent → Option UInt64
  | .partialResult metadata _ => some metadata.operationId
  | .progress metadata _ => some metadata.operationId
  | .result _ | .control _ _ _ | .supersede _ _ | .update _ => none

structure RuntimePressureState where
  outboundCreditWindow : UInt64 := 0
  inboundCreditWindow : UInt64 := 0
  remoteBackpressureLevel : UInt16 := 0
  remoteBackpressureReason : UInt16 := 0
  remoteRetryAfterMs : UInt32 := 0
  remotePressureFlags : UInt32 := 0
  localBackpressureLevel : UInt16 := 0
  localBackpressureReason : UInt16 := 0
  localRetryAfterMs : UInt32 := 0
  localPressureFlags : UInt32 := 0
  deriving DecidableEq

def RuntimePressureState.applyInbound (p : RuntimePressureState) (messageType : MessageType)
    (metadata : PressureMetadata) : Except NnrpError RuntimePressureState :=
  match messageType with
  | .creditUpdate => .ok { p with outboundCreditWindow := metadata.creditWindow }
  | .backpressure =>
    .ok { p with
      outboundCreditWindow := metadata.creditWindow
      remoteBackpressureLevel := metadata.pressureLevel
      remoteBackpressureReason := metadata.pressureReason
      remoteRetryAfterMs := metadata.retryAfterMs
      remotePressureFlags := metadata.flags }
  | _ =>
    .error (.invalidProtocolCombination
      "pressure state inbound update requires BACKPRESSURE or CREDIT_UPDATE")

def RuntimePressureState.applyOutbound (p : RuntimePressureState) (messageType : MessageType)
    (metadata : PressureMetadata) : Except NnrpError RuntimePressureState :=
  match messageType with
  | .creditUpdate => .ok { p with inboundCreditWindow := metadata.creditWindow }
  | .backpressure =>
    .ok { p with
      inboundCreditWindow := metadata.creditWindow
      localBackpressureLevel := metadata.pressureLevel
      localBackpressureReason := metadata.pressureReason
      localRetryAfterMs := metadata.retryAfterMs
      localPressureFlags := metadata.flags }
  | _ =>
    .error (.invalidProtocolCombination
      "pressure state outbound update requires BACKPRESSURE or CREDIT_UPDATE")

end Nnrp.RuntimeEvent
