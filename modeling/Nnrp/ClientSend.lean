import Nnrp.ClientSession

/-!
# Sending on the client session

The sends of the client session besides its controls and submits. The pressure of the client and
the close change the session before they write.
-/

namespace Nnrp.Client
open Protocol ByteOrder Packet Control Object ControlUpdate Session Stateful
open Submit (NnrpSubmitRequest)

def NnrpClientSession.requireOutboundNonterminalOperation (s : NnrpClientSession)
    (operationId : UInt64) (terminalMessage : String) : Except RuntimeError Unit := do
  s.requireNonterminalOperation operationId terminalMessage
  if operationId ∈ s.pendingTerminalControls then throw (.unexpectedMessage terminalMessage)

section
variable (written : Except RuntimeError Unit)

def writeRuntimePacket (messageType : MessageType) (frameId : UInt32) (metadata body : Bytes) :
    SessionM Unit := do
  let packet ← check (·.runtimePacket messageType frameId metadata body)
  writePacket written packet

def sendProgress (metadata : ProgressMetadata) (body : Bytes) : SessionM Unit := do
  lift (liftNnrp (validateProgressSemantics metadata))
  lift (requireLenOf body.length metadata.bodyBytes "client PROGRESS body length mismatch")
  let frameId ← check (·.correlatedFrameId metadata.operationId)
  check (·.requireOutboundNonterminalOperation metadata.operationId
    "client PROGRESS references a terminal operation")
  let bytes ← lift (liftNnrp metadata.toBytes)
  writeRuntimePacket written .progress frameId bytes body

def sendPartialResult (metadata : PartialResultMetadata) (body : Bytes) : SessionM Unit := do
  lift (liftNnrp (validatePartialResultSemantics metadata))
  lift (requireLenOf body.length metadata.bodyBytes "client PARTIAL_RESULT body length mismatch")
  let frameId ← check (·.correlatedFrameId metadata.operationId)
  check (·.requireOutboundNonterminalOperation metadata.operationId
    "client PARTIAL_RESULT references a terminal operation")
  let bytes ← lift (liftNnrp metadata.toBytes)
  writeRuntimePacket written .partialResult frameId bytes body

def sendResultDropReason (metadata : ResultDropReasonMetadata) (diagnostics : Bytes) :
    SessionM Unit := do
  lift (liftNnrp (validateResultDropReasonSemantics metadata))
  lift (requireLenOf diagnostics.length metadata.diagnosticBytes
    "client RESULT_DROP_REASON diagnostic body length mismatch")
  let frameId ← check (·.correlatedFrameId metadata.operationId)
  let bytes ← lift (liftNnrp metadata.toBytes)
  writeRuntimePacket written .resultDropReason frameId bytes diagnostics

def sendPressure (messageType : MessageType) (metadata : PressureMetadata) : SessionM Unit := do
  lift (liftNnrp (validatePressureSemantics messageType metadata))
  let pressure ← check fun s => liftNnrp (s.pressure.applyOutbound messageType metadata)
  write fun s => { s with pressure }
  let bytes ← lift (liftNnrp metadata.toBytes)
  writeRuntimePacket written messageType 0 bytes []

def sendBackpressure (metadata : PressureMetadata) : SessionM Unit :=
  sendPressure written .backpressure metadata

def sendCreditUpdate (metadata : PressureMetadata) : SessionM Unit :=
  sendPressure written .creditUpdate metadata

def sendCachePut (metadata : CachePutMetadata) (body : Bytes) : SessionM Unit := do
  lift (requireLenOf body.length metadata.objectBytes "client CACHE_PUT body length mismatch")
  let bytes ← lift (liftNnrp metadata.toBytes)
  writeRuntimePacket written .cachePut 0 bytes body

def NnrpClientSession.shutdown (s : NnrpClientSession) : SessionCloseMetadata where
  closeReason := .clientShutdown
  inFlightPolicy := .drain
  drainTimeoutMs := 0
  lastOperationId := s.lastOperationId
  sessionErrorCode := sessionErrorNone
  sessionCloseTag := s.sessionId

/-- `close_in_place` up to the first packet that it reads. -/
def closeInPlace : SessionM Unit := do
  let close ← check fun s => .ok s.shutdown
  closeWith close written

/-- The sends of budgets, flow updates, capabilities, hints, objects, cache references, misses,
invalidations and acknowledgements, pings, trace contexts and errors: they read the session to make
their packet, write it and change nothing. -/
def sendPrepared (prepare : NnrpClientSession → Except RuntimeError RuntimePacket) :
    SessionM Unit := do
  let packet ← check prepare
  writePacket written packet

end

inductive Send
  | submit (request : NnrpSubmitRequest) (nowUnixMs : UInt64)
  | controlRequest (messageType : MessageType) (metadata : ControlRequestMetadata)
      (diagnostics : Bytes)
  | supersede (metadata : SupersedeMetadata) (diagnostics : Bytes)
  | cancelFrame (frameId : UInt32)
  | progress (metadata : ProgressMetadata) (body : Bytes)
  | partialResult (metadata : PartialResultMetadata) (body : Bytes)
  | resultDropReason (metadata : ResultDropReasonMetadata) (diagnostics : Bytes)
  | backpressure (metadata : PressureMetadata)
  | creditUpdate (metadata : PressureMetadata)
  | cachePut (metadata : CachePutMetadata) (body : Bytes)
  | closeWith (close : SessionCloseMetadata)
  | closeInPlace
  | prepared (prepare : NnrpClientSession → Except RuntimeError RuntimePacket)

def Send.perform (written : Except RuntimeError Unit) : Send → SessionM Unit
  | .submit request nowUnixMs => do
    let _ ← submitNowait request nowUnixMs written
  | .controlRequest messageType metadata diagnostics =>
    sendControlRequestWithDiagnostics messageType metadata diagnostics written
  | .supersede metadata diagnostics => supersedeOperation metadata diagnostics written
  | .cancelFrame frameId => Client.cancelFrame frameId written
  | .progress metadata body => sendProgress written metadata body
  | .partialResult metadata body => sendPartialResult written metadata body
  | .resultDropReason metadata diagnostics => sendResultDropReason written metadata diagnostics
  | .backpressure metadata => sendBackpressure written metadata
  | .creditUpdate metadata => sendCreditUpdate written metadata
  | .cachePut metadata body => sendCachePut written metadata body
  | .closeWith close => Client.closeWith close written
  | .closeInPlace => Client.closeInPlace written
  | .prepared prepare => sendPrepared written prepare

end Nnrp.Client
