import Nnrp.ByteOrder
import Nnrp.Fallible

/-!
# Message types, enumerations and errors of the wire protocol

Each enumeration is given with the code it has on the wire (`code`) and the partial inverse
that the parsers use (`tryFromU8`, `tryFromU16`). `NnrpError` carries the same data as the
error values of the core crate, the texts of its rules included.
-/

namespace Nnrp.Protocol
open Fallible

inductive MessageType
  | clientHello | serverHelloAck | sessionPatch | sessionPatchAck | close | error
  | sessionOpen | sessionOpenAck | sessionClose | sessionCloseAck
  | frameSubmit | frameCancel | resultPush | resultDrop
  | cachePut | cacheAck | cacheInvalidate | flowUpdate | resultHint
  | transportProbe | transportProbeAck | sessionMigrate | sessionMigrateAck
  | ping | pong
  | cancel | abort | priorityUpdate | deadline | expireAt | supersede | budgetUpdate
  | progress | partialResult | backpressure | creditUpdate
  | capabilityNegotiation | degradeProfile | routeHint | executionHint | traceContext
  | resultDropReason | objectDeclare | objectRef | objectRelease | objectPatch | objectDelta
  | cacheReference | cacheMiss | errorRecoverable | retryAfter
  deriving DecidableEq

inductive OperationState
  | accepted | running | partialOutput | waitingTool | superseded | cancelled | failed | completed
  deriving DecidableEq

def OperationState.isTerminal : OperationState → Bool
  | .superseded | .cancelled | .failed | .completed => true
  | .accepted | .running | .partialOutput | .waitingTool => false

def OperationState.canTransitionTo (state next : OperationState) : Bool :=
  if state.isTerminal then false
  else
    match state, next with
    | .accepted, .running | .accepted, .cancelled | .accepted, .failed | .accepted, .superseded
    | .running, .partialOutput | .running, .waitingTool | .running, .cancelled
    | .running, .failed | .running, .completed | .running, .superseded
    | .partialOutput, .partialOutput | .partialOutput, .waitingTool | .partialOutput, .cancelled
    | .partialOutput, .failed | .partialOutput, .completed | .partialOutput, .superseded
    | .waitingTool, .running | .waitingTool, .cancelled | .waitingTool, .failed
    | .waitingTool, .superseded => true
    | _, _ => false

variable {state next : OperationState}

theorem OperationState.not_canTransitionTo_of_terminal
    (h : state.isTerminal = true) : state.canTransitionTo next = false := if_pos h

theorem OperationState.active_of_canTransitionTo
    (h : state.canTransitionTo next = true) : state.isTerminal = false := by
  by_contra hterm
  rw [not_canTransitionTo_of_terminal (Bool.eq_true_of_not_eq_false hterm)] at h
  cases h

inductive NnrpError
  | unsupportedWireFormat (value : UInt8)
  | sourceTooShort (expected actual : ℕ)
  | destinationTooShort (expected actual : ℕ)
  | invalidMagic
  | invalidHeaderLength (value : UInt8)
  | unsupportedVersionMajor (value : UInt8)
  | unknownMessageType (value : UInt8)
  | unknownEnumValue (enumName : String) (value : UInt64)
  | reservedBitsSet (value allowed : UInt64)
  | invalidProtocolCombination (rule : String)
  | connectionNotOpen
  | connectionAlreadyClosed
  | sessionAlreadyExists (sessionId : UInt32)
  | unknownSession (sessionId : UInt32)
  | sessionNotOpen (sessionId : UInt32)
  | operationAlreadyExists (operationId : UInt64)
  | unknownOperation (operationId : UInt64)
  | invalidOperationRelationship (rule : String)
  | invalidOperationTransition (source target : OperationState)
  | nonZeroReservedField (field : String)
  | packetLengthMismatch (declared actual : ℕ)
  | declaredLengthMismatch (field : String) (declared actual : ℕ)
  | messageLengthOverflow
  | invalidCapabilityTokenBody (reason : String)
  | invalidCapabilityToken (token : String)
  | unknownCapabilityToken (token : String)
  deriving DecidableEq

def MessageType.code : MessageType → UInt8
  | .clientHello => 0x01 | .serverHelloAck => 0x02 | .sessionPatch => 0x03
  | .sessionPatchAck => 0x04 | .close => 0x05 | .error => 0x06
  | .sessionOpen => 0x07 | .sessionOpenAck => 0x08 | .sessionClose => 0x09
  | .sessionCloseAck => 0x0a
  | .frameSubmit => 0x10 | .frameCancel => 0x11 | .resultPush => 0x12 | .resultDrop => 0x13
  | .cachePut => 0x14 | .cacheAck => 0x15 | .cacheInvalidate => 0x16 | .flowUpdate => 0x17
  | .resultHint => 0x18 | .transportProbe => 0x19 | .transportProbeAck => 0x1a
  | .sessionMigrate => 0x1b | .sessionMigrateAck => 0x1c
  | .ping => 0x20 | .pong => 0x21
  | .cancel => 0x30 | .abort => 0x31 | .priorityUpdate => 0x32 | .deadline => 0x33
  | .expireAt => 0x34 | .supersede => 0x35 | .budgetUpdate => 0x36 | .progress => 0x37
  | .partialResult => 0x38 | .backpressure => 0x39 | .creditUpdate => 0x3a
  | .capabilityNegotiation => 0x3b | .degradeProfile => 0x3c | .routeHint => 0x3d
  | .executionHint => 0x3e | .traceContext => 0x3f | .resultDropReason => 0x40
  | .objectDeclare => 0x41 | .objectRef => 0x42 | .objectRelease => 0x43
  | .objectPatch => 0x44 | .objectDelta => 0x45 | .cacheReference => 0x46
  | .cacheMiss => 0x47 | .errorRecoverable => 0x48 | .retryAfter => 0x49

def MessageType.tryFromU8 (value : UInt8) : Except NnrpError MessageType :=
  decodeTable
    [(0x01, .clientHello), (0x02, .serverHelloAck), (0x03, .sessionPatch), (0x04, .sessionPatchAck),
      (0x05, .close), (0x06, .error), (0x07, .sessionOpen), (0x08, .sessionOpenAck),
      (0x09, .sessionClose), (0x0a, .sessionCloseAck), (0x10, .frameSubmit), (0x11, .frameCancel),
      (0x12, .resultPush), (0x13, .resultDrop), (0x14, .cachePut), (0x15, .cacheAck),
      (0x16, .cacheInvalidate), (0x17, .flowUpdate), (0x18, .resultHint), (0x19, .transportProbe),
      (0x1a, .transportProbeAck), (0x1b, .sessionMigrate), (0x1c, .sessionMigrateAck),
      (0x20, .ping), (0x21, .pong), (0x30, .cancel), (0x31, .abort), (0x32, .priorityUpdate),
      (0x33, .deadline), (0x34, .expireAt), (0x35, .supersede), (0x36, .budgetUpdate),
      (0x37, .progress), (0x38, .partialResult), (0x39, .backpressure), (0x3a, .creditUpdate),
      (0x3b, .capabilityNegotiation), (0x3c, .degradeProfile), (0x3d, .routeHint),
      (0x3e, .executionHint), (0x3f, .traceContext), (0x40, .resultDropReason),
      (0x41, .objectDeclare), (0x42, .objectRef), (0x43, .objectRelease), (0x44, .objectPatch),
      (0x45, .objectDelta), (0x46, .cacheReference), (0x47, .cacheMiss), (0x48, .errorRecoverable),
      (0x49, .retryAfter)]
    (.unknownMessageType value) value

theorem MessageType.tryFromU8_code (m : MessageType) : tryFromU8 m.code = .ok m := by
  cases m <;> rfl

inductive SessionPriorityClass
  | interactive | balanced | background
  deriving DecidableEq

def SessionPriorityClass.code : SessionPriorityClass → UInt8
  | .interactive => 0 | .balanced => 1 | .background => 2

def SessionPriorityClass.tryFromU8 (value : UInt8) : Except NnrpError SessionPriorityClass :=
  decodeTable [(0, .interactive), (1, .balanced), (2, .background)]
    (.unknownEnumValue "session_priority_class" value.toUInt64) value

variable {v : UInt8}

@[simp] theorem SessionPriorityClass.tryFromU8_eq_ok {k : SessionPriorityClass} :
    tryFromU8 v = .ok k ↔ v = k.code :=
  decodeTable_eq_ok (by decide) fun k => by cases k <;> rfl

inductive SessionStatus
  | opened | rejected | retryLater | resumed
  deriving DecidableEq

def SessionStatus.code : SessionStatus → UInt8
  | .opened => 0 | .rejected => 1 | .retryLater => 2 | .resumed => 3

def SessionStatus.tryFromU8 (value : UInt8) : Except NnrpError SessionStatus :=
  decodeTable [(0, .opened), (1, .rejected), (2, .retryLater), (3, .resumed)]
    (.unknownEnumValue "session_status" value.toUInt64) value

@[simp] theorem SessionStatus.tryFromU8_eq_ok {k : SessionStatus} :
    tryFromU8 v = .ok k ↔ v = k.code :=
  decodeTable_eq_ok (by decide) fun k => by cases k <;> rfl

inductive CacheObjectKind
  | cameraBlock | tileIndexBlock | tensorSectionTable | codecTable | reusableResultObject
  | payloadLayoutTemplate | promptSegment | toolSchema | structuredEventSchema
  deriving DecidableEq

inductive SessionCloseReason
  | normal | clientShutdown | serverShutdown | idleTimeout | protocolError | authRevoked
  deriving DecidableEq

inductive InFlightPolicy
  | drain | abort
  deriving DecidableEq

inductive SessionCloseStatus
  | acknowledged | draining | closed | rejected
  deriving DecidableEq

inductive FlowScopeKind
  | connection | session | operation
  deriving DecidableEq

def FlowScopeKind.code : FlowScopeKind → UInt8
  | .connection => 0 | .session => 1 | .operation => 2

def FlowScopeKind.tryFromU8 (value : UInt8) : Except NnrpError FlowScopeKind :=
  decodeTable [(0, .connection), (1, .session), (2, .operation)]
    (.unknownEnumValue "scope_kind" value.toUInt64) value

@[simp] theorem FlowScopeKind.tryFromU8_eq_ok {k : FlowScopeKind} :
    tryFromU8 v = .ok k ↔ v = k.code :=
  decodeTable_eq_ok (by decide) fun k => by cases k <;> rfl

inductive FlowUpdateReason
  | grant | reduce | pause | resume | congestion
  deriving DecidableEq

def FlowUpdateReason.code : FlowUpdateReason → UInt8
  | .grant => 0 | .reduce => 1 | .pause => 2 | .resume => 3 | .congestion => 4

def FlowUpdateReason.tryFromU8 (value : UInt8) : Except NnrpError FlowUpdateReason :=
  decodeTable [(0, .grant), (1, .reduce), (2, .pause), (3, .resume), (4, .congestion)]
    (.unknownEnumValue "update_reason" value.toUInt64) value

@[simp] theorem FlowUpdateReason.tryFromU8_eq_ok {k : FlowUpdateReason} :
    tryFromU8 v = .ok k ↔ v = k.code :=
  decodeTable_eq_ok (by decide) fun k => by cases k <;> rfl

inductive BackpressureLevel
  | none | soft | hard | paused
  deriving DecidableEq

def BackpressureLevel.code : BackpressureLevel → UInt8
  | .none => 0 | .soft => 1 | .hard => 2 | .paused => 3

def BackpressureLevel.tryFromU8 (value : UInt8) : Except NnrpError BackpressureLevel :=
  decodeTable [(0, .none), (1, .soft), (2, .hard), (3, .paused)]
    (.unknownEnumValue "backpressure_level" value.toUInt64) value

@[simp] theorem BackpressureLevel.tryFromU8_eq_ok {k : BackpressureLevel} :
    tryFromU8 v = .ok k ↔ v = k.code :=
  decodeTable_eq_ok (by decide) fun k => by cases k <;> rfl

inductive ErrorScope
  | connection | session | frame
  deriving DecidableEq

def ErrorScope.code (k : ErrorScope) : UInt32 := UInt32.ofNat k.ctorIdx

def ErrorScope.tryFromU32 (value : UInt32) : Except NnrpError ErrorScope :=
  decodeTable [(0, .connection), (1, .session), (2, .frame)]
    (.unknownEnumValue "error_scope" value.toUInt64) value

@[simp] theorem ErrorScope.tryFromU32_eq_ok {v : UInt32} {k : ErrorScope} :
    tryFromU32 v = .ok k ↔ v = k.code :=
  decodeTable_eq_ok (by decide) fun k => by cases k <;> rfl

open ByteOrder

def requireLen (source : Bytes) (expected : ℕ) : Except NnrpError Unit :=
  if source.length < expected then .error (.sourceTooShort expected source.length) else .ok ()

def requireDestinationLen (destination : Bytes) (expected : ℕ) : Except NnrpError Unit :=
  if destination.length < expected then
    .error (.destinationTooShort expected destination.length)
  else .ok ()

variable (field : String)

def validateZeroU8 (value : UInt8) : Except NnrpError Unit :=
  if value ≠ 0 then .error (.nonZeroReservedField field) else .ok ()

def validateZeroU16 (value : UInt16) : Except NnrpError Unit :=
  if value ≠ 0 then .error (.nonZeroReservedField field) else .ok ()

def validateZeroU32 (value : UInt32) : Except NnrpError Unit :=
  if value ≠ 0 then .error (.nonZeroReservedField field) else .ok ()

def validateZeroU64 (value : UInt64) : Except NnrpError Unit :=
  if value ≠ 0 then .error (.nonZeroReservedField field) else .ok ()

def validateMaskU8 (value allowed : UInt8) : Except NnrpError Unit :=
  if value &&& ~~~allowed ≠ 0 then .error (.reservedBitsSet value.toUInt64 allowed.toUInt64)
  else .ok ()

def validateMaskU16 (value allowed : UInt16) : Except NnrpError Unit :=
  if value &&& ~~~allowed ≠ 0 then .error (.reservedBitsSet value.toUInt64 allowed.toUInt64)
  else .ok ()

def validateMaskU32 (value allowed : UInt32) : Except NnrpError Unit :=
  if value &&& ~~~allowed ≠ 0 then .error (.reservedBitsSet value.toUInt64 allowed.toUInt64)
  else .ok ()

end Nnrp.Protocol
