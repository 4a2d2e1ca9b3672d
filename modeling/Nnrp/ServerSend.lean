import Nnrp.ServerReceive

/-!
# Sending on the server session

Controls and supersedes of the server check the operation, write their packet and then move the
operation. A cache put, the pressure of the server and the acknowledgement of a close change the
session before they write.
-/

namespace Nnrp.Server
open Protocol ByteOrder Packet Control Object ControlUpdate Session Stateful RuntimeEvent

def NnrpServerSession.requireOperationTransition (s : NnrpServerSession) (operationId : UInt64)
    (state : OperationState) : Except RuntimeError Unit := do
  if ← s.operationTransitionRequired operationId state then pure ()
  else
    -- The operation is in a terminal state.
    match s.operations.operations[operationId]? with
    | some operation => throw (.protocol (.invalidOperationTransition operation.state state))
    | none => pure ()

variable (written : Except RuntimeError Unit)

def writeRuntimePacket (messageType : MessageType) (frameId : UInt32) (metadata body : Bytes) :
    ServerM Unit := do
  let packet ← check (·.runtimePacket messageType frameId metadata body)
  writePacket written packet

def writeEnding (operationId : UInt64) (state : OperationState) (messageType : MessageType)
    (frameId : UInt32) (metadata : Except NnrpError Bytes) (body : Bytes) : ServerM Unit := do
  check (·.requireOperationTransition operationId state)
  check (·.ensurePendingCapacity)
  let bytes ← lift (liftNnrp metadata)
  writeRuntimePacket written messageType frameId bytes body
  onRegistry (·.transition operationId state)
  queueLifecycle operationId state

def sendControlRequest (messageType : MessageType) (metadata : ControlRequestMetadata)
    (diagnostics : Bytes) : ServerM Unit := do
  lift (liftNnrp (validateControlRequestSemantics messageType metadata))
  lift (requireLenOf diagnostics.length metadata.diagnosticBytes
    "server runtime control diagnostic body length mismatch")
  let frameId ← check (·.correlatedFrameId metadata.operationId)
  if metadata.operationId = 0 then
    let bytes ← lift (liftNnrp metadata.toBytes)
    writeRuntimePacket written messageType frameId bytes diagnostics
  else
    writeEnding written metadata.operationId (controlState messageType) messageType frameId
      metadata.toBytes diagnostics

def supersedeOperation (metadata : SupersedeMetadata) (diagnostics : Bytes) : ServerM Unit := do
  lift (requireLenOf diagnostics.length metadata.diagnosticBytes
    "server SUPERSEDE diagnostic body length mismatch")
  let frameId ← check (·.correlatedFrameId metadata.oldOperationId)
  writeEnding written metadata.oldOperationId .superseded .supersede frameId metadata.toBytes
    diagnostics

def sendCachePut (metadata : CachePutMetadata) (body : Bytes) : ServerM Unit := do
  check (·.validateCachePut metadata)
  trackCacheObject (.fromPut metadata)
  lift (requireLenOf body.length metadata.objectBytes "server CACHE_PUT body length mismatch")
  let bytes ← lift (liftNnrp metadata.toBytes)
  writeRuntimePacket written .cachePut 0 bytes body

def sendPressure (messageType : MessageType) (metadata : PressureMetadata) : ServerM Unit := do
  lift (liftNnrp (validatePressureSemantics messageType metadata))
  let pressure ← check fun s => liftNnrp (s.pressure.applyOutbound messageType metadata)
  write fun s => { s with pressure }
  let bytes ← lift (liftNnrp metadata.toBytes)
  writeRuntimePacket written messageType 0 bytes []

def sendBackpressure (metadata : PressureMetadata) : ServerM Unit :=
  sendPressure written .backpressure metadata

def sendCreditUpdate (metadata : PressureMetadata) : ServerM Unit :=
  sendPressure written .creditUpdate metadata

/-- `send_scheduling_update`, `update_budget` and the sends of capabilities, hints, objects, cache
references, misses and invalidations, acknowledgements, pings, trace contexts and errors: they read
the session to make their packet, write it and change nothing. -/
def sendPrepared (prepare : NnrpServerSession → Except RuntimeError RuntimePacket) :
    ServerM Unit := do
  let packet ← check prepare
  writePacket written packet

def closedAck (close : SessionCloseMetadata) : SessionCloseAckMetadata where
  closeStatus := .closed
  lastOperationId := close.lastOperationId
  sessionErrorCode := sessionErrorNone

def NnrpServerSession.acknowledged (s : NnrpServerSession) (close : SessionCloseMetadata) :
    Except NnrpError Lifecycle.ConnectionLifecycle :=
  s.lifecycle.applySessionCloseAck
    { CommonHeader.new .sessionCloseAck 16 0 with sessionId := s.sessionId } (closedAck close)

def ackClose (close : SessionCloseMetadata) : ServerM Unit := do
  let lifecycle ← check fun s => liftNnrp (s.acknowledged close)
  write fun s => { s with lifecycle }
  let bytes ← lift (liftNnrp (closedAck close).toBytes)
  writeRuntimePacket written .sessionCloseAck 0 bytes []
  write fun s =>
    if s.pendingClose = some close then { s with pendingClose := none } else s

/-- `closed` is what closing the transport returns; the record of the session is its own. -/
def closeInPlace (closed : Except RuntimeError Unit) : ServerM Unit := do
  match ← check fun s => .ok s.pendingClose with
  | none => pure ()
  | some close =>
    write fun s => { s with pendingClose := none }
    ackClose written close
  write fun s => { s with lastOperationId := none }
  lift closed

end Nnrp.Server
