import Nnrp.OperationRegistry
import Nnrp.RuntimeEvent
import Nnrp.SessionUpdate

/-!
# The server session

A submit registers its operation and binds its frame; the two maps are never cleared. Results,
drops and the controls of the client move the operation to a terminal state, and each of these
moves queues a lifecycle event in front of what is read next.

As for the client, the answers of the transport and the clock are arguments, and `sent` holds the
packets that the transport has taken and not delivered yet.
-/

namespace Nnrp.Server
open OrderedMap Protocol ByteOrder Packet Data Control Object ControlUpdate Session PreSubmit
open Stateful RuntimeEvent Operation
open ControlUpdate.DecoderSession (requireMetadataLen requireBodyLen)
open Lifecycle (ConnectionLifecycle)

def maxPendingServerInputs : ℕ := 1024

def isDedicatedRoleMessage : MessageType → Bool
  | .sessionPatch | .cachePut | .cacheAck | .sessionMigrate | .ping | .pong => true
  | _ => false

/-- The handle of a submitted operation; its fields are public. -/
structure NnrpServerOperation where
  operationId : UInt64
  frameId : UInt32
  header : RuntimeFrameHeader
  metadata : FrameSubmitMetadata
  body : Bytes
  deriving DecidableEq

inductive NnrpServerEvent
  | submit (operation : NnrpServerOperation)
  | lifecycle (event : OperationLifecycleEvent)
  | frameCancel (frameId : UInt32)
  | partialResult (metadata : PartialResultMetadata) (body : Bytes)
  | progress (metadata : ProgressMetadata) (body : Bytes)
  | resultDropReason (metadata : ResultDropReasonMetadata) (body : Bytes)
  | control (messageType : MessageType) (metadata : ControlRequestMetadata) (body : Bytes)
  | scheduling (messageType : MessageType) (metadata : SchedulingMetadata)
  | supersede (metadata : SupersedeMetadata) (body : Bytes)
  | budget (metadata : BudgetMetadata)
  | update (update : DecodedUpdate)
  | objectDeclare (metadata : ObjectDescriptorMetadata) (body : Bytes)
  | objectRef (metadata : ObjectReferenceMetadata) (body : Bytes)
  | objectRelease (metadata : ObjectReleaseMetadata) (body : Bytes)
  | objectDelta (messageType : MessageType) (metadata : ObjectDeltaMetadata) (body : Bytes)
  | cacheReference (metadata : CacheReferenceMetadata) (body : Bytes)
  | cacheMiss (metadata : CacheMissMetadata) (body : Bytes)
  | cacheInvalidate (metadata : CacheInvalidateMetadata)
  | close (metadata : SessionCloseMetadata)
  deriving DecidableEq

inductive PendingServerInput
  | event (event : NnrpServerEvent)
  | rolePacket (packet : RuntimePacket)
  deriving DecidableEq

/-- Of the record of the session in the registry of its server only the last operation is kept here;
there is none once the record is gone. -/
structure NnrpServerSession where
  sessionId : UInt32
  lifecycle : ConnectionLifecycle
  operations : OperationRegistry := {}
  frameOperations : BTreeMap UInt32 UInt64 := ∅
  operationFrames : BTreeMap UInt64 UInt32 := ∅
  preSubmitDeadlines : PreSubmitDeadlineReservations
  pressure : RuntimePressureState := {}
  cacheObjects : List CacheObjectId := []
  supportedCacheObjects : List CacheObjectKind := []
  maxCacheObjects : UInt64 := 0
  maxCacheObjectBytes : UInt32 := 0
  lastOperationId : Option UInt64 := some 0
  pendingClose : Option SessionCloseMetadata := none
  pendingInputs : List PendingServerInput := []
  sent : List RuntimePacket := []

def NnrpServerSession.accepted (sessionId : UInt32) (maxInFlightOperations : UInt16)
    (lifecycle : ConnectionLifecycle) : NnrpServerSession where
  sessionId := sessionId
  lifecycle := lifecycle
  preSubmitDeadlines := .new maxInFlightOperations

namespace NnrpServerSession

variable (s : NnrpServerSession) (packet : RuntimePacket)

def requireSessionPacket (message : String) : Except RuntimeError Unit :=
  if packet.sessionId ≠ s.sessionId then .error (.unexpectedMessage message) else .ok ()

def decoder : DecoderSession where
  sessionId := s.sessionId
  lifecycle := s.lifecycle
  operationFrames := s.operationFrames
  frameOperations := s.frameOperations
  operationState operationId := s.operations.operations[operationId]?.map (·.state)

variable (operationId : UInt64)

def correlatedFrameId : Except RuntimeError UInt32 :=
  s.decoder.correlatedFrameId operationId

def requireOperationFrame (frameId : UInt32) : Except RuntimeError Unit :=
  s.decoder.requireOperationFrame operationId frameId

def requireNonterminalOperation (unknownMessage terminalMessage : String) :
    Except RuntimeError Unit :=
  match s.operations.operations[operationId]? with
  | none => .error (.unexpectedMessage unknownMessage)
  | some operation =>
    if operation.state.isTerminal then .error (.unexpectedMessage terminalMessage) else .ok ()

def operationIdForFrame (frameId : UInt32) : Except RuntimeError UInt64 :=
  match s.frameOperations[frameId]? with
  | some operationId => .ok operationId
  | none => .error (.unexpectedMessage "server frame id is not bound to an operation")

def ensurePendingCapacity : Except RuntimeError Unit :=
  if maxPendingServerInputs ≤ s.pendingInputs.length then
    .error (.unexpectedMessage "server session exceeded the pending input limit")
  else .ok ()

/-- Whether a terminal state is still to be set; an operation that has one keeps it. -/
def operationTransitionRequired (operationId : UInt64) (state : OperationState) :
    Except RuntimeError Bool :=
  match s.operations.operations[operationId]? with
  | none => .error (.protocol (.unknownOperation operationId))
  | some operation =>
    if operation.state.isTerminal then .ok false
    else if operation.state.canTransitionTo state then .ok true
    else .error (.protocol (.invalidOperationTransition operation.state state))

def requireOperationCompletion (operationId : UInt64) : Except RuntimeError Unit :=
  match s.operations.operations[operationId]? with
  | none => .error (.protocol (.unknownOperation operationId))
  | some operation =>
    if operation.state.isTerminal ∨
        (operation.state ≠ .accepted ∧ ¬operation.state.canTransitionTo .completed) then
      .error (.protocol (.invalidOperationTransition operation.state .completed))
    else .ok ()

def runtimePacket (messageType : MessageType) (frameId : UInt32) (metadata body : Bytes) :
    Except RuntimeError RuntimePacket :=
  liftNnrp (RuntimePacket.new
    { CommonHeader.new messageType (UInt32.ofNat metadata.length) (UInt32.ofNat body.length) with
      sessionId := s.sessionId
      frameId } metadata body)

end NnrpServerSession

theorem operationIdForFrame_bound {s : NnrpServerSession} {fid : UInt32} {id : UInt64}
    (h : s.operationIdForFrame fid = .ok id) : s.frameOperations[fid]? = some id := by
  rw [NnrpServerSession.operationIdForFrame] at h
  split at h
  · rename_i bound hbound
    cases h
    exact hbound
  · cases h

abbrev ServerM := Method NnrpServerSession RuntimeError

namespace NnrpServerSession

variable (s : NnrpServerSession)

def bind (operationId : UInt64) (frameId : UInt32) : NnrpServerSession :=
  { s with
    frameOperations := s.frameOperations.insert frameId operationId
    operationFrames := s.operationFrames.insert operationId frameId
    lastOperationId := s.lastOperationId.map (max · operationId) }

def pushInput (input : PendingServerInput) : NnrpServerSession :=
  { s with pendingInputs := s.pendingInputs ++ [input] }

def send (packet : RuntimePacket) : NnrpServerSession := { s with sent := s.sent ++ [packet] }

end NnrpServerSession

def onRegistry {α : Type} (f : OperationRegistry → OperationRegistry × Except NnrpError α) :
    ServerM α :=
  fun s => (liftNnrp (f s.operations).2, { s with operations := (f s.operations).1 })

def takeForSubmit (operationId : UInt64) (frameId : UInt32) (nowUnixMs : UInt64) :
    ServerM (Option SchedulingMetadata) :=
  fun s =>
    let (deadlines, reserved) := s.preSubmitDeadlines.takeForSubmit operationId frameId nowUnixMs
    (reserved, { s with preSubmitDeadlines := deadlines })

def queueLifecycle (operationId : UInt64) (state : OperationState) : ServerM Unit := do
  check (·.ensurePendingCapacity)
  let event ← lift (liftNnrp (OperationLifecycleEvent.new operationId state))
  write (·.pushInput (.event (.lifecycle event)))

def queueEach (state : OperationState) : List UInt64 → ServerM Unit
  | [] => pure ()
  | operationId :: rest => do
    queueLifecycle operationId state
    queueEach state rest

section
variable (packet : RuntimePacket) (nowUnixMs : UInt64)

def handleFrameSubmitPacket : ServerM NnrpServerEvent := do
  refuse (fun _ => packet.messageType ≠ .frameSubmit)
    (.unexpectedMessage "server expected FRAME_SUBMIT")
  check (·.requireSessionPacket packet "server received submit for another session")
  lift (requireMetadataLen packet frameSubmitMetadataLen
    "server received malformed FRAME_SUBMIT metadata length")
  let metadata ← lift (liftNnrp (FrameSubmitMetadata.parse packet.metadata))
  refuse (fun s => packet.frameId ∈ s.frameOperations)
    (.unexpectedMessage "server received duplicate FRAME_SUBMIT frame id")
  let reserved ← takeForSubmit metadata.operationId packet.frameId nowUnixMs
  let sessionId ← check fun s => .ok s.sessionId
  onRegistry (·.register { sessionId, operationId := metadata.operationId })
  match reserved with
  | none => pure ()
  | some deadline =>
    let _ ← onRegistry (·.applySchedulingUpdate sessionId .deadline deadline)
  write (·.bind metadata.operationId packet.frameId)
  pure (.submit
    { operationId := metadata.operationId
      frameId := packet.frameId
      header := .ofCommon packet.header
      metadata
      body := packet.body })

def decodeFrameCancel : ServerM NnrpServerEvent := do
  check (·.requireSessionPacket packet "server received cancel for another session")
  refuse (fun _ => packet.metadata ≠ [] ∨ packet.body ≠ [])
    (.unexpectedMessage "server received malformed FRAME_CANCEL lengths")
  let operationId ← check (·.operationIdForFrame packet.frameId)
  check (·.ensurePendingCapacity)
  let sessionId ← check fun s => .ok s.sessionId
  let cancelled ← onRegistry (·.cancel { sessionId, operationId, cancelScope := .operation })
  queueEach .cancelled cancelled
  pure (.frameCancel packet.frameId)

def decodePartialResult : ServerM NnrpServerEvent := do
  check (·.requireSessionPacket packet "server received partial result for another session")
  lift (requireMetadataLen packet partialResultMetadataLen
    "server received malformed PARTIAL_RESULT metadata length")
  let metadata ← lift (liftNnrp (PartialResultMetadata.parse packet.metadata))
  lift (liftNnrp (validatePartialResultSemantics metadata))
  lift (requireBodyLen packet metadata.bodyBytes
    "server received PARTIAL_RESULT body length mismatch")
  check (·.requireOperationFrame metadata.operationId packet.frameId)
  check (·.requireNonterminalOperation metadata.operationId
    "server received PARTIAL_RESULT for an unknown operation"
    "server received PARTIAL_RESULT for a terminal operation")
  pure (.partialResult metadata packet.body)

def decodeProgress : ServerM NnrpServerEvent := do
  check (·.requireSessionPacket packet "server received progress for another session")
  lift (requireMetadataLen packet progressMetadataLen
    "server received malformed PROGRESS metadata length")
  let metadata ← lift (liftNnrp (ProgressMetadata.parse packet.metadata))
  lift (liftNnrp (validateProgressSemantics metadata))
  lift (requireBodyLen packet metadata.bodyBytes "server received PROGRESS body length mismatch")
  check (·.requireOperationFrame metadata.operationId packet.frameId)
  check (·.requireNonterminalOperation metadata.operationId
    "server received PROGRESS for an unknown operation"
    "server received PROGRESS for a terminal operation")
  pure (.progress metadata packet.body)

def decodeResultDropReason : ServerM NnrpServerEvent := do
  check (·.requireSessionPacket packet "server received drop reason for another session")
  lift (requireMetadataLen packet resultDropReasonMetadataLen
    "server received malformed RESULT_DROP_REASON metadata length")
  let metadata ← lift (liftNnrp (ResultDropReasonMetadata.parse packet.metadata))
  lift (liftNnrp (validateResultDropReasonSemantics metadata))
  lift (requireBodyLen packet metadata.diagnosticBytes
    "server received RESULT_DROP_REASON body length mismatch")
  check (·.requireOperationFrame metadata.operationId packet.frameId)
  pure (.resultDropReason metadata packet.body)

/-- A cancel that moves no operation is refused; an abort is refused by the registry. -/
def applyControl (messageType : MessageType) (operationId : UInt64) : ServerM OperationState :=
  match messageType with
  | .cancel => do
    let sessionId ← check fun s => .ok s.sessionId
    let cancelled ← onRegistry (·.cancel { sessionId, operationId, cancelScope := .operation })
    refuse (fun _ => cancelled = [])
      (.unexpectedMessage "server cancel did not transition an active operation")
    pure .cancelled
  | _ => do
    onRegistry (·.abort operationId)
    pure .failed

def decodeControl : ServerM NnrpServerEvent := do
  check (·.requireSessionPacket packet "server received control for another session")
  lift (requireMetadataLen packet controlRequestMetadataLen
    "server received malformed runtime control lengths")
  let metadata ← lift (liftNnrp (ControlRequestMetadata.parse packet.metadata))
  lift (liftNnrp (validateControlRequestSemantics packet.messageType metadata))
  lift (requireBodyLen packet metadata.diagnosticBytes
    "server received runtime control diagnostic body length mismatch")
  check (·.requireOperationFrame metadata.operationId packet.frameId)
  if metadata.operationId = 0 then pure (.control packet.messageType metadata packet.body)
  else
    check (·.ensurePendingCapacity)
    let state ← applyControl packet.messageType metadata.operationId
    queueLifecycle metadata.operationId state
    pure (.control packet.messageType metadata packet.body)

def decodeScheduling : ServerM NnrpServerEvent := do
  check (·.requireSessionPacket packet "server received scheduling update for another session")
  refuse (fun _ => packet.metadata.length ≠ schedulingMetadataLen ∨ packet.body ≠ [])
    (.unexpectedMessage "server received malformed scheduling metadata length")
  let metadata ← lift (liftNnrp (parseScheduling packet.metadata))
  lift (liftNnrp (validateSchedulingSemantics packet.messageType metadata))
  let bound ← check fun s => .ok s.operationFrames[metadata.operationId]?
  match bound with
  | some expectedFrameId =>
    refuse (fun _ => expectedFrameId ≠ packet.frameId)
      (.unexpectedMessage "server runtime event frame id does not match its operation")
    let sessionId ← check fun s => .ok s.sessionId
    let _ ← onRegistry (·.applySchedulingUpdate sessionId packet.messageType metadata)
  | none =>
    if packet.messageType = .deadline then
      refuse (fun s => packet.frameId ∈ s.frameOperations)
        (.unexpectedMessage "server received pre-submit DEADLINE for a reused frame id")
      let deadlines ← check (·.preSubmitDeadlines.reserve packet.frameId metadata nowUnixMs)
      write fun s => { s with preSubmitDeadlines := deadlines }
    else lift (.error (.protocol (.unknownOperation metadata.operationId)))
  pure (.scheduling packet.messageType metadata)

def decodeSupersede : ServerM NnrpServerEvent := do
  check (·.requireSessionPacket packet "server received supersede for another session")
  lift (requireMetadataLen packet supersedeMetadataLen
    "server received malformed SUPERSEDE metadata length")
  let metadata ← lift (liftNnrp (SupersedeMetadata.parse packet.metadata))
  lift (requireBodyLen packet metadata.diagnosticBytes
    "server received SUPERSEDE diagnostic body length mismatch")
  check (·.requireOperationFrame metadata.oldOperationId packet.frameId)
  check (·.ensurePendingCapacity)
  onRegistry (·.transition metadata.oldOperationId .superseded)
  queueLifecycle metadata.oldOperationId .superseded
  pure (.supersede metadata packet.body)

def decodeUpdate (update : Except RuntimeError DecodedUpdate) : ServerM NnrpServerEvent := do
  let update ← lift update
  match update with
  | .pressure messageType metadata =>
    let pressure ← check fun s => liftNnrp (s.pressure.applyInbound messageType metadata)
    write fun s => { s with pressure }
  | _ => pure ()
  pure (.update update)

def decodeClose : ServerM NnrpServerEvent := do
  check (·.requireSessionPacket packet "server received close for another session")
  let metadata ← lift (liftNnrp (SessionCloseMetadata.parse packet.metadata))
  let lifecycle ← check fun s => liftNnrp (s.lifecycle.beginSessionClose packet.header metadata)
  write fun s => { s with lifecycle, pendingClose := some metadata }
  pure (.close metadata)

end

namespace NnrpServerSession

variable (s : NnrpServerSession) (packet : RuntimePacket)

def decodeBudgetUpdate : Except RuntimeError NnrpServerEvent := do
  s.requireSessionPacket packet "server received budget update for another session"
  if packet.metadata.length ≠ budgetMetadataLen ∨ packet.body ≠ [] then
    throw (.unexpectedMessage "server received malformed BUDGET_UPDATE lengths")
  let metadata ← liftNnrp (BudgetMetadata.parse packet.metadata)
  s.requireOperationFrame metadata.operationId packet.frameId
  pure (.budget metadata)

def decodeTailed {M : Type} (sessionMessage lengthMessage bodyMessage : String) (metadataLen : ℕ)
    (parse : Bytes → Except NnrpError M) (tail : M → UInt32) : Except RuntimeError M := do
  s.requireSessionPacket packet sessionMessage
  requireMetadataLen packet metadataLen lengthMessage
  let metadata ← liftNnrp (parse packet.metadata)
  requireBodyLen packet (tail metadata) bodyMessage
  pure metadata

def decodeObjectDeclare : Except RuntimeError NnrpServerEvent := do
  let metadata ← s.decodeTailed packet "server received object declaration for another session"
    "server received malformed OBJECT_DECLARE metadata length"
    "server received OBJECT_DECLARE body length mismatch" objectDescriptorMetadataLen
    ObjectDescriptorMetadata.parse (·.metadataBytes)
  pure (.objectDeclare metadata packet.body)

def decodeObjectRef : Except RuntimeError NnrpServerEvent := do
  let metadata ← s.decodeTailed packet "server received object reference for another session"
    "server received malformed OBJECT_REF metadata length"
    "server received OBJECT_REF body length mismatch" objectReferenceMetadataLen
    ObjectReferenceMetadata.parse (·.metadataBytes)
  s.requireOperationFrame metadata.operationId packet.frameId
  pure (.objectRef metadata packet.body)

def decodeObjectRelease : Except RuntimeError NnrpServerEvent := do
  let metadata ← s.decodeTailed packet "server received object release for another session"
    "server received malformed OBJECT_RELEASE metadata length"
    "server received OBJECT_RELEASE body length mismatch" objectReleaseMetadataLen
    ObjectReleaseMetadata.parse (·.diagnosticBytes)
  s.requireOperationFrame metadata.operationId packet.frameId
  pure (.objectRelease metadata packet.body)

def decodeObjectDelta : Except RuntimeError NnrpServerEvent := do
  let metadata ← s.decodeTailed packet "server received object delta for another session"
    "server received malformed object delta metadata length"
    "server received object delta body length mismatch" objectDeltaMetadataLen
    ObjectDeltaMetadata.parse
    fun m => (checkedAddU32 m.metadataBytes m.deltaBytes).getD 0xffffffff
  pure (.objectDelta packet.messageType metadata packet.body)

def decodeCacheReference : Except RuntimeError NnrpServerEvent := do
  let metadata ← s.decodeTailed packet "server received cache reference for another session"
    "server received malformed CACHE_REFERENCE metadata length"
    "server received CACHE_REFERENCE body length mismatch" cacheReferenceMetadataLen
    CacheReferenceMetadata.parse (·.metadataBytes)
  pure (.cacheReference metadata packet.body)

def decodeCacheMiss : Except RuntimeError NnrpServerEvent := do
  let metadata ← s.decodeTailed packet "server received cache miss for another session"
    "server received malformed CACHE_MISS metadata length"
    "server received CACHE_MISS diagnostic body length mismatch" cacheMissMetadataLen
    CacheMissMetadata.parse (·.diagnosticBytes)
  pure (.cacheMiss metadata packet.body)

def decodeCacheInvalidate : Except RuntimeError NnrpServerEvent := do
  s.requireSessionPacket packet "server received cache invalidate for another session"
  if packet.metadata.length ≠ cacheInvalidateMetadataLen ∨ packet.body ≠ [] then
    throw (.unexpectedMessage "server received malformed CACHE_INVALIDATE lengths")
  let metadata ← liftNnrp (CacheInvalidateMetadata.parse packet.metadata)
  pure (.cacheInvalidate metadata)

def decodeReference : Except RuntimeError NnrpServerEvent :=
  match packet.messageType with
  | .budgetUpdate => s.decodeBudgetUpdate packet
  | .objectDeclare => s.decodeObjectDeclare packet
  | .objectRef => s.decodeObjectRef packet
  | .objectRelease => s.decodeObjectRelease packet
  | .objectPatch | .objectDelta => s.decodeObjectDelta packet
  | .cacheReference => s.decodeCacheReference packet
  | .cacheMiss => s.decodeCacheMiss packet
  | .cacheInvalidate => s.decodeCacheInvalidate packet
  | _ =>
    .error (.unexpectedMessage "server expected a submit, control, object, cache, or close event")

end NnrpServerSession

def decodeServerEvent (packet : RuntimePacket) (nowUnixMs : UInt64) : ServerM NnrpServerEvent :=
  match packet.messageType with
  | .frameSubmit => handleFrameSubmitPacket packet nowUnixMs
  | .frameCancel => decodeFrameCancel packet
  | .partialResult => decodePartialResult packet
  | .progress => decodeProgress packet
  | .resultDropReason => decodeResultDropReason packet
  | .cancel | .abort => decodeControl packet
  | .priorityUpdate | .deadline | .expireAt => decodeScheduling packet nowUnixMs
  | .supersede => decodeSupersede packet
  | .sessionClose => decodeClose packet
  | _ => do
    match ← check fun s => .ok (s.decoder.decodeUpdate packet) with
    | some update => decodeUpdate update
    | none => check (·.decodeReference packet)

/-- `read_next_input`; `input` is what `read_packet` returns. -/
def readNextInput (input : Except RuntimeError RuntimePacket) (nowUnixMs : UInt64) :
    ServerM PendingServerInput := do
  let packet ← lift input
  check (·.preSubmitDeadlines.rejectExpired nowUnixMs)
  if isDedicatedRoleMessage packet.messageType then pure (.rolePacket packet)
  else
    let event ← decodeServerEvent packet nowUnixMs
    pure (.event event)

def retainPendingInput (input : PendingServerInput) : ServerM Unit := do
  check (·.ensurePendingCapacity)
  write (·.pushInput input)

def awaitEvent (input : Except RuntimeError RuntimePacket) (nowUnixMs : UInt64) :
    ServerM NnrpServerEvent := do
  match ← check fun s => .ok s.pendingInputs with
  | .event event :: rest =>
    write fun s => { s with pendingInputs := rest }
    pure event
  | .rolePacket _ :: _ =>
    lift (.error (.unexpectedMessage "server event pump is blocked by a dedicated role message"))
  | [] =>
    match ← readNextInput input nowUnixMs with
    | .event event => pure event
    | .rolePacket packet =>
      retainPendingInput (.rolePacket packet)
      lift (.error (.unexpectedMessage "server event pump received a dedicated role message"))

def writePacket (written : Except RuntimeError Unit) (packet : RuntimePacket) : ServerM Unit := do
  lift written
  write (·.send packet)

def schedulingFlagEmitDropReason : UInt32 := 2
def resultDropReasonDeadlineExpired : UInt16 := 1
def runtimeRoleServer : UInt8 := 2

section
variable (written : Except RuntimeError Unit)

def writeResultDropReason (metadata : ResultDropReasonMetadata) (diagnostics : Bytes) :
    ServerM Unit := do
  let frameId ← check (·.correlatedFrameId metadata.operationId)
  let bytes ← lift (liftNnrp metadata.toBytes)
  let packet ← check (·.runtimePacket .resultDropReason frameId bytes diagnostics)
  writePacket written packet

/-- An operation whose schedule has expired is superseded instead, and the call fails. -/
def refuseStale (operationId : UInt64) (schedule : OperationSchedule) : ServerM Unit := do
  check (·.ensurePendingCapacity)
  if schedule.flags &&& schedulingFlagEmitDropReason ≠ 0 then
    writeResultDropReason written
      { operationId
        resultSequence := schedule.updateSequence
        dropReasonCode := resultDropReasonDeadlineExpired
        sourceRole := runtimeRoleServer
        flags := 0
        diagnosticBytes := 0 } []
  queueLifecycle operationId .superseded
  lift (.error (.protocol (.invalidOperationTransition .superseded .completed)))

def sendOperationResult (frameId : UInt32) (metadata : ResultPushMetadata) (body : Bytes)
    (nowUnixMs : UInt64) : ServerM Unit := do
  let operationId ← check (·.operationIdForFrame frameId)
  match ← onRegistry (·.expireIfStale operationId nowUnixMs) with
  | some schedule => refuseStale written operationId schedule
  | none =>
    check (·.ensurePendingCapacity)
    check (·.requireOperationCompletion operationId)
    let bytes ← lift (liftNnrp metadata.toBytes)
    let packet ← check (·.runtimePacket .resultPush frameId bytes body)
    writePacket written packet
    onRegistry (·.complete operationId)
    let event ← lift (liftNnrp (OperationLifecycleEvent.new operationId .completed))
    write (·.pushInput (.event (.lifecycle event)))

def sendOperationPartialResult (metadata : PartialResultMetadata) (body : Bytes) :
    ServerM Unit := do
  lift (liftNnrp (validatePartialResultSemantics metadata))
  lift (requireLenOf body.length metadata.bodyBytes "server PARTIAL_RESULT body length mismatch")
  check (·.requireNonterminalOperation metadata.operationId
    "server PARTIAL_RESULT references an unknown operation"
    "server PARTIAL_RESULT references a terminal operation")
  let frameId ← check (·.correlatedFrameId metadata.operationId)
  let bytes ← lift (liftNnrp metadata.toBytes)
  let packet ← check (·.runtimePacket .partialResult frameId bytes body)
  writePacket written packet

def sendOperationProgress (metadata : ProgressMetadata) (body : Bytes) : ServerM Unit := do
  lift (liftNnrp (validateProgressSemantics metadata))
  lift (requireLenOf body.length metadata.bodyBytes "server PROGRESS body length mismatch")
  check (·.requireNonterminalOperation metadata.operationId
    "server PROGRESS references an unknown operation"
    "server PROGRESS references a terminal operation")
  let frameId ← check (·.correlatedFrameId metadata.operationId)
  let bytes ← lift (liftNnrp metadata.toBytes)
  let packet ← check (·.runtimePacket .progress frameId bytes body)
  writePacket written packet

def sendOperationResultDrop (metadata : ResultDropReasonMetadata) (diagnostics : Bytes) :
    ServerM Unit := do
  lift (liftNnrp (validateResultDropReasonSemantics metadata))
  lift (requireLenOf diagnostics.length metadata.diagnosticBytes
    "server RESULT_DROP_REASON diagnostic body length mismatch")
  let transition ← check (·.operationTransitionRequired metadata.operationId .superseded)
  if transition then check (·.ensurePendingCapacity)
  writeResultDropReason written metadata diagnostics
  if transition then
    onRegistry (·.transition metadata.operationId .superseded)
    queueLifecycle metadata.operationId .superseded

end

namespace NnrpServerOperation

variable (operation : NnrpServerOperation) (written : Except RuntimeError Unit)

def requireSession (s : NnrpServerSession) : Except RuntimeError Unit :=
  if operation.header.sessionId ≠ s.sessionId then
    .error (.unexpectedMessage "server operation does not belong to this session")
  else do
    let bound ← s.operationIdForFrame operation.frameId
    Fallible.ensure (bound = operation.operationId)
      (.unexpectedMessage "server operation does not belong to this session")

def requireOperationId (operationId : UInt64) : Except RuntimeError Unit :=
  Fallible.ensure (operationId = operation.operationId)
    (.unexpectedMessage "server operation metadata operation id mismatch")

def sendResult (metadata : ResultPushMetadata) (body : Bytes) (nowUnixMs : UInt64) :
    ServerM Unit := do
  check operation.requireSession
  sendOperationResult written operation.frameId metadata body nowUnixMs

def sendResultDrop (metadata : ResultDropReasonMetadata) (diagnostic : Bytes) : ServerM Unit := do
  check operation.requireSession
  lift (operation.requireOperationId metadata.operationId)
  sendOperationResultDrop written metadata diagnostic

def sendProgress (metadata : ProgressMetadata) (body : Bytes) : ServerM Unit := do
  check operation.requireSession
  lift (operation.requireOperationId metadata.operationId)
  sendOperationProgress written metadata body

def sendPartialResult (metadata : PartialResultMetadata) (body : Bytes) : ServerM Unit := do
  check operation.requireSession
  lift (operation.requireOperationId metadata.operationId)
  sendOperationPartialResult written metadata body

end NnrpServerOperation

end Nnrp.Server
