import Nnrp.ServerSession

/-!
# Receiving on the server session

The event pump takes the pending inputs in order. `receive_submit` searches them for a submit and
then reads packets, which it retains until a submit arrives. A specialised receive takes the first
pending input that is no lifecycle event, or reads a packet if there is none; an input of another
kind is put in front of the queue.
-/

namespace Nnrp.Server
open Protocol ByteOrder Packet Object Control ControlUpdate Session PreSubmit Stateful
open PendingServerInput
open ControlUpdate.DecoderSession (requireMetadataLen requireBodyLen)

structure Answer where
  input : Except RuntimeError RuntimePacket
  nowUnixMs : UInt64

def closedWhileWaiting : RuntimeError :=
  .unexpectedMessage "server session closed while waiting for FRAME_SUBMIT"

def PendingServerInput.submit :
    PendingServerInput → Option (Except RuntimeError NnrpServerOperation)
  | .event (.submit operation) => some (.ok operation)
  | .event (.close _) => some (.error closedWhileWaiting)
  | _ => none

def searchSubmit : ServerM (Option NnrpServerOperation) := do
  match ← check fun s => .ok (s.pendingInputs.findSome? submit) with
  | none => pure none
  | some (.error e) => lift (.error e)
  | some (.ok operation) =>
    write fun s => { s with pendingInputs := s.pendingInputs.eraseP (·.submit.isSome) }
    pure (some operation)

def submitRound (answer : Answer) : ServerM (Option NnrpServerOperation) := do
  match ← readNextInput answer.input answer.nowUnixMs with
  | .event (.submit operation) => pure (some operation)
  | .event (.close close) =>
    retainPendingInput (.event (.close close))
    lift (.error closedWhileWaiting)
  | input =>
    retainPendingInput input
    pure none

/-- The rounds over what the transport answers; without a value the call still waits. -/
def awaitSubmit : List Answer → ServerM (Option NnrpServerOperation)
  | [] => pure none
  | answer :: answers => do
    match ← submitRound answer with
    | some operation => pure (some operation)
    | none => awaitSubmit answers

def receiveSubmit (answers : List Answer) : ServerM (Option NnrpServerOperation) := do
  match ← searchSubmit with
  | some operation => pure (some operation)
  | none => awaitSubmit answers

def PendingServerInput.isLifecycle : PendingServerInput → Bool
  | .event (.lifecycle _) => true
  | _ => false

def takePendingSpecializedInput : ServerM (Option PendingServerInput) := do
  match ← check fun s => .ok (s.pendingInputs.find? (!·.isLifecycle)) with
  | none => pure none
  | some input =>
    write fun s => { s with pendingInputs := s.pendingInputs.eraseP (!·.isLifecycle) }
    pure (some input)

def NnrpServerSession.pushFront (s : NnrpServerSession) (input : PendingServerInput) :
    NnrpServerSession :=
  { s with pendingInputs := input :: s.pendingInputs }

def nextSpecializedInput (answer : Answer) : ServerM PendingServerInput := do
  match ← takePendingSpecializedInput with
  | some input => pure input
  | none => readNextInput answer.input answer.nowUnixMs

/-- The shape of the specialised receives; `select` is the pattern of the input they expect. -/
def receiveSpecialized {α : Type} (select : PendingServerInput → Option α) (error : String)
    (answer : Answer) : ServerM α := do
  let input ← nextSpecializedInput answer
  match select input with
  | some value => pure value
  | none =>
    write (·.pushFront input)
    lift (.error (.unexpectedMessage error))

namespace PendingServerInput

def cancel : PendingServerInput → Option UInt32
  | .event (.frameCancel frameId) => some frameId
  | _ => none

def runtimeControl : PendingServerInput → Option (MessageType × ControlRequestMetadata × Bytes)
  | .event (.control messageType metadata body) => some (messageType, metadata, body)
  | _ => none

def schedulingUpdate : PendingServerInput → Option (MessageType × SchedulingMetadata)
  | .event (.scheduling messageType metadata) => some (messageType, metadata)
  | _ => none

def pressureUpdate : PendingServerInput → Option (MessageType × PressureMetadata)
  | .event (.update (.pressure messageType metadata)) => some (messageType, metadata)
  | _ => none

def close : PendingServerInput → Option SessionCloseMetadata
  | .event (.close close) => some close
  | _ => none

def packet (expected : MessageType) : PendingServerInput → Option RuntimePacket
  | .rolePacket packet => if packet.messageType = expected then some packet else none
  | .event _ => none

end PendingServerInput

section
variable (answer : Answer)

def receiveCancel : ServerM UInt32 :=
  receiveSpecialized cancel "server expected FRAME_CANCEL" answer

def receiveRuntimeControl : ServerM (MessageType × ControlRequestMetadata × Bytes) :=
  receiveSpecialized runtimeControl "server expected CANCEL or ABORT" answer

def receiveSchedulingUpdate : ServerM (MessageType × SchedulingMetadata) :=
  receiveSpecialized schedulingUpdate
    "server expected PRIORITY_UPDATE, DEADLINE, or EXPIRE_AT" answer

def receivePressureUpdate : ServerM (MessageType × PressureMetadata) :=
  receiveSpecialized pressureUpdate
    "server expected BACKPRESSURE or CREDIT_UPDATE" answer

def receiveClose : ServerM SessionCloseMetadata :=
  receiveSpecialized close "server expected SESSION_CLOSE" answer

def receiveRolePacket (expected : MessageType) (error : String) : ServerM RuntimePacket :=
  receiveSpecialized (packet expected) error answer

def receiveEmptyRoleMessage (expected : MessageType) (error : String) : ServerM Unit := do
  let packet ← receiveRolePacket answer expected error
  check (·.requireSessionPacket packet error)
  refuse (fun _ => packet.metadata ≠ [] ∨ packet.body ≠ []) (.unexpectedMessage error)

def receivePing : ServerM Unit := receiveEmptyRoleMessage answer .ping "server expected PING"

def receivePong : ServerM Unit := receiveEmptyRoleMessage answer .pong "server expected PONG"

def receivePatch : ServerM SessionPatchMetadata := do
  let packet ← receiveRolePacket answer .sessionPatch "server expected SESSION_PATCH"
  check (·.requireSessionPacket packet "server received patch for another session")
  lift (requireMetadataLen packet sessionPatchMetadataLen
    "server received malformed SESSION_PATCH metadata length")
  lift (liftNnrp (SessionPatchMetadata.parse packet.metadata))

def receiveMigrate : ServerM SessionMigrateMetadata := do
  let packet ← receiveRolePacket answer .sessionMigrate "server expected SESSION_MIGRATE"
  check (·.requireSessionPacket packet "server received migrate for another session")
  lift (requireMetadataLen packet sessionMigrateMetadataLen
    "server received malformed SESSION_MIGRATE metadata length")
  lift (liftNnrp (SessionMigrateMetadata.parse packet.metadata))

end

namespace NnrpServerSession

variable (s : NnrpServerSession)

def validateCachePut (metadata : CachePutMetadata) : Except RuntimeError Unit :=
  if metadata.objectKind ∉ s.supportedCacheObjects then
    .error (.unexpectedMessage "CACHE_PUT object kind was not negotiated in CLIENT_HELLO")
  else if s.maxCacheObjectBytes ≠ 0 ∧ s.maxCacheObjectBytes < metadata.objectBytes then
    .error (.unexpectedMessage "CACHE_PUT object exceeds the negotiated byte limit")
  else .ok ()

def tracked (objectId : CacheObjectId) : Except RuntimeError (List CacheObjectId) :=
  if objectId ∈ s.cacheObjects then .ok s.cacheObjects
  else if s.maxCacheObjects ≠ 0 ∧ s.maxCacheObjects.toNat ≤ s.cacheObjects.length then
    .error (.unexpectedMessage "server cache object limit reached")
  else .ok (s.cacheObjects ++ [objectId])

end NnrpServerSession

def trackCacheObject (objectId : CacheObjectId) : ServerM Unit := do
  let cacheObjects ← check (·.tracked objectId)
  write fun s => { s with cacheObjects }

def receiveCachePut (answer : Answer) : ServerM (CachePutMetadata × Bytes) := do
  let packet ← receiveRolePacket answer .cachePut "server expected CACHE_PUT"
  check (·.requireSessionPacket packet "server received cache put for another session")
  lift (requireMetadataLen packet cachePutMetadataLen "server expected a well-formed CACHE_PUT")
  let metadata ← lift (liftNnrp (CachePutMetadata.parse packet.metadata))
  check (·.validateCachePut metadata)
  lift (requireBodyLen packet metadata.objectBytes
    "server received CACHE_PUT body length mismatch")
  trackCacheObject (.fromPut metadata)
  pure (metadata, packet.body)

def receiveCacheAck (answer : Answer) : ServerM CacheAckMetadata := do
  let packet ← receiveRolePacket answer .cacheAck "server expected CACHE_ACK"
  check (·.requireSessionPacket packet "server received cache ack for another session")
  refuse (fun _ => packet.metadata.length ≠ cacheAckMetadataLen ∨ packet.body ≠ [])
    (.unexpectedMessage "server expected a well-formed CACHE_ACK")
  lift (liftNnrp (CacheAckMetadata.parse packet.metadata))

inductive Receive
  | ping | pong | cancel | runtimeControl | schedulingUpdate | pressureUpdate | close
  | patch | migrate | cachePut | cacheAck
  deriving DecidableEq

namespace Receive

variable (receive : Receive)

def perform (answer : Answer) : ServerM Unit :=
  match receive with
  | .ping => receivePing answer
  | .pong => receivePong answer
  | .cancel => do let _ ← receiveCancel answer
  | .runtimeControl => do let _ ← receiveRuntimeControl answer
  | .schedulingUpdate => do let _ ← receiveSchedulingUpdate answer
  | .pressureUpdate => do let _ ← receivePressureUpdate answer
  | .close => do let _ ← receiveClose answer
  | .patch => do let _ ← receivePatch answer
  | .migrate => do let _ ← receiveMigrate answer
  | .cachePut => do let _ ← receiveCachePut answer
  | .cacheAck => do let _ ← receiveCacheAck answer

def error : String :=
  match receive with
  | .ping => "server expected PING"
  | .pong => "server expected PONG"
  | .cancel => "server expected FRAME_CANCEL"
  | .runtimeControl => "server expected CANCEL or ABORT"
  | .schedulingUpdate => "server expected PRIORITY_UPDATE, DEADLINE, or EXPIRE_AT"
  | .pressureUpdate => "server expected BACKPRESSURE or CREDIT_UPDATE"
  | .close => "server expected SESSION_CLOSE"
  | .patch => "server expected SESSION_PATCH"
  | .migrate => "server expected SESSION_MIGRATE"
  | .cachePut => "server expected CACHE_PUT"
  | .cacheAck => "server expected CACHE_ACK"

def expects (input : PendingServerInput) : Bool :=
  match receive with
  | .ping => (input.packet .ping).isSome
  | .pong => (input.packet .pong).isSome
  | .cancel => input.cancel.isSome
  | .runtimeControl => input.runtimeControl.isSome
  | .schedulingUpdate => input.schedulingUpdate.isSome
  | .pressureUpdate => input.pressureUpdate.isSome
  | .close => input.close.isSome
  | .patch => (input.packet .sessionPatch).isSome
  | .migrate => (input.packet .sessionMigrate).isSome
  | .cachePut => (input.packet .cachePut).isSome
  | .cacheAck => (input.packet .cacheAck).isSome

def accepts : MessageType → Bool :=
  match receive with
  | .ping => (· = .ping)
  | .pong => (· = .pong)
  | .cancel => (· = .frameCancel)
  | .runtimeControl => fun messageType => messageType = .cancel ∨ messageType = .abort
  | .schedulingUpdate => fun messageType =>
    messageType = .priorityUpdate ∨ messageType = .deadline ∨ messageType = .expireAt
  | .pressureUpdate => fun messageType => messageType = .backpressure ∨ messageType = .creditUpdate
  | .close => (· = .sessionClose)
  | .patch => (· = .sessionPatch)
  | .migrate => (· = .sessionMigrate)
  | .cachePut => (· = .cachePut)
  | .cacheAck => (· = .cacheAck)

def forRole : Bool :=
  match receive with
  | .ping | .pong | .patch | .migrate | .cachePut | .cacheAck => true
  | .cancel | .runtimeControl | .schedulingUpdate | .pressureUpdate | .close => false

theorem forRole_of_accepts {receive : Receive} {messageType : MessageType}
    (h : receive.accepts messageType = true) :
    isDedicatedRoleMessage messageType = receive.forRole := by
  cases receive with
  | runtimeControl | pressureUpdate => rcases of_decide_eq_true h with rfl | rfl <;> rfl
  | schedulingUpdate => rcases of_decide_eq_true h with rfl | rfl | rfl <;> rfl
  | _ =>
    rw [of_decide_eq_true h]
    rfl

end Receive

end Nnrp.Server
