import Nnrp.ControlUpdate
import Nnrp.HelloMetadata
import Nnrp.OperationMetadata
import Nnrp.ResultMetadata
import Nnrp.SessionUpdate
import Nnrp.TransportProbe

/-!
# The codecs of the control messages

The metadata of an `ERROR`, the parsers that return a declared tail, and what all codecs of the
control messages have in common. Two of the parsers look into what they return: a capability body
has to be a list of tokens, and a trace context that is parsed for its error context has to name a
trace and a span.
-/

namespace Nnrp.ControlUpdate
open Protocol ByteOrder Fallible Hello Session Data Control TransportProbe

def errorMetadataLen : ℕ := 32

structure ErrorMetadata where
  errorCode : UInt32
  errorScope : ErrorScope
  isFatal : Bool
  (retryAfterMs relatedSessionId relatedFrameId relatedViewId diagnosticBytes : UInt32)
  deriving DecidableEq

namespace ErrorMetadata

def parse (source : Bytes) : Except NnrpError ErrorMetadata := do
  requireLen source errorMetadataLen
  let fatalFlag := readU32 source 8
  ensure (fatalFlag ≤ 1) (.invalidProtocolCombination "ERROR is_fatal must be 0 or 1")
  let errorScope ← ErrorScope.tryFromU32 (readU32 source 4)
  pure
    { errorCode := readU32 source 0
      errorScope
      isFatal := fatalFlag ≠ 0
      retryAfterMs := readU32 source 12
      relatedSessionId := readU32 source 16
      relatedFrameId := readU32 source 20
      relatedViewId := readU32 source 24
      diagnosticBytes := readU32 source 28 }

def write (m : ErrorMetadata) : Writer :=
  writeFields errorMetadataLen (.ok ())
    [putU32 0 m.errorCode, putU32 4 m.errorScope.code, putU32 8 (if m.isFatal then 1 else 0),
      putU32 12 m.retryAfterMs, putU32 16 m.relatedSessionId, putU32 20 m.relatedFrameId,
      putU32 24 m.relatedViewId, putU32 28 m.diagnosticBytes]

theorem codec : Canonical errorMetadataLen parse write := by
  refine .of_fields fun src m => ?_
  have hflag : ∀ v : UInt32, v ≤ 1 ↔ v = 0 ∨ v = 1 := by
    intro v
    rw [UInt32.le_iff_toNat_le, ← UInt32.toNat_inj, ← UInt32.toNat_inj]
    exact Nat.le_one_iff_eq_zero_or_eq_one
  cases m
  simp [parse, bind_eq_ok, hflag, errorMetadataLen]
  grind

end ErrorMetadata

def RouteHintMetadata.parseWithBody : Bytes → Except NnrpError (RouteHintMetadata × Bytes) :=
  parseWithTail routeHintMetadataLen parse bodyBytes "route_hint.body_bytes"

def TraceContextMetadata.parseWithBody : Bytes → Except NnrpError (TraceContextMetadata × Bytes) :=
  parseWithTail traceContextMetadataLen parse bodyBytes "trace_context.body_bytes"

def RecoverableErrorMetadata.parseWithDiagnostics :
    Bytes → Except NnrpError (RecoverableErrorMetadata × Bytes) :=
  parseWithTail recoverableErrorMetadataLen parse diagnosticBytes
    "recoverable_error.diagnostic_bytes"

def RetryAfterMetadata.parseWithDiagnostics :
    Bytes → Except NnrpError (RetryAfterMetadata × Bytes) :=
  parseWithTail retryAfterMetadataLen parse diagnosticBytes "retry_after.diagnostic_bytes"

def CapabilityMetadata.parseWithBody (source : Bytes) :
    Except NnrpError (CapabilityMetadata × Bytes) := do
  let (metadata, body) ← parseWithTail capabilityMetadataLen parse bodyBytes
    "capability.body_bytes" source
  let _ ← decodeCapabilityTokens body metadata.capabilityCount
  pure (metadata, body)

structure TraceContextIds where
  (traceId spanId parentSpanId : UInt64)
  deriving DecidableEq

def traceContextIdsFromSource (source : Bytes) : Option TraceContextIds :=
  if source.length < 24 then none
  else some ⟨readU64 source 0, readU64 source 8, readU64 source 16⟩

structure TraceContextDecodeError where
  trace : Option TraceContextIds
  error : NnrpError
  deriving DecidableEq

def TraceContextMetadata.parseWithBodyAndErrorContext (source : Bytes) :
    Except TraceContextDecodeError (TraceContextMetadata × Bytes) :=
  let parsed := do
    let (metadata, body) ← parseWithBody source
    validateTraceContextSemantics metadata
    pure (metadata, body)
  parsed.mapError fun error => ⟨traceContextIdsFromSource source, error⟩

theorem control_codecs_canonical :
    Canonical clientHelloMetadataLen ClientHelloMetadata.parse ClientHelloMetadata.write ∧
    Canonical serverHelloAckMetadataLen ServerHelloAckMetadata.parse ServerHelloAckMetadata.write ∧
    Canonical sessionPatchMetadataLen SessionPatchMetadata.parse SessionPatchMetadata.write ∧
    Canonical sessionPatchAckMetadataLen SessionPatchAckMetadata.parse
      SessionPatchAckMetadata.write ∧
    Canonical resultHintMetadataLen ResultHintMetadata.parse ResultHintMetadata.write ∧
    Canonical controlRequestMetadataLen ControlRequestMetadata.parse ControlRequestMetadata.write ∧
    Canonical schedulingMetadataLen parseScheduling writeScheduling ∧
    Canonical supersedeMetadataLen SupersedeMetadata.parse SupersedeMetadata.write ∧
    Canonical budgetMetadataLen BudgetMetadata.parse BudgetMetadata.write ∧
    Canonical progressMetadataLen ProgressMetadata.parse ProgressMetadata.write ∧
    Canonical partialResultMetadataLen PartialResultMetadata.parse PartialResultMetadata.write ∧
    Canonical pressureMetadataLen PressureMetadata.parse PressureMetadata.write ∧
    Canonical capabilityMetadataLen CapabilityMetadata.parse CapabilityMetadata.write ∧
    Canonical routeHintMetadataLen RouteHintMetadata.parse RouteHintMetadata.write ∧
    Canonical traceContextMetadataLen TraceContextMetadata.parse TraceContextMetadata.write ∧
    Canonical resultDropReasonMetadataLen ResultDropReasonMetadata.parse
      ResultDropReasonMetadata.write ∧
    Canonical recoverableErrorMetadataLen RecoverableErrorMetadata.parse
      RecoverableErrorMetadata.write ∧
    Canonical retryAfterMetadataLen RetryAfterMetadata.parse RetryAfterMetadata.write ∧
    Canonical transportProbeMetadataLen TransportProbeMetadata.parse TransportProbeMetadata.write ∧
    Canonical transportProbeAckMetadataLen TransportProbeAckMetadata.parse
      TransportProbeAckMetadata.write ∧
    Canonical sessionMigrateMetadataLen SessionMigrateMetadata.parse SessionMigrateMetadata.write ∧
    Canonical sessionMigrateAckMetadataLen SessionMigrateAckMetadata.parse
      SessionMigrateAckMetadata.write ∧
    Canonical errorMetadataLen ErrorMetadata.parse ErrorMetadata.write ∧
    ExactTail controlRequestMetadataLen ControlRequestMetadata.parse
      ControlRequestMetadata.diagnosticBytes
      ControlRequestMetadata.parseWithDiagnostics ∧
    ExactTail supersedeMetadataLen SupersedeMetadata.parse SupersedeMetadata.diagnosticBytes
      SupersedeMetadata.parseWithDiagnostics ∧
    ExactTail progressMetadataLen ProgressMetadata.parse ProgressMetadata.bodyBytes
      ProgressMetadata.parseWithBody ∧
    ExactTail partialResultMetadataLen PartialResultMetadata.parse PartialResultMetadata.bodyBytes
      PartialResultMetadata.parseWithBody ∧
    ExactTail resultDropReasonMetadataLen ResultDropReasonMetadata.parse
      ResultDropReasonMetadata.diagnosticBytes
      ResultDropReasonMetadata.parseWithDiagnostics ∧
    ExactTail routeHintMetadataLen RouteHintMetadata.parse RouteHintMetadata.bodyBytes
      RouteHintMetadata.parseWithBody ∧
    ExactTail traceContextMetadataLen TraceContextMetadata.parse TraceContextMetadata.bodyBytes
      TraceContextMetadata.parseWithBody ∧
    ExactTail recoverableErrorMetadataLen RecoverableErrorMetadata.parse
      RecoverableErrorMetadata.diagnosticBytes
      RecoverableErrorMetadata.parseWithDiagnostics ∧
    ExactTail retryAfterMetadataLen RetryAfterMetadata.parse RetryAfterMetadata.diagnosticBytes
      RetryAfterMetadata.parseWithDiagnostics ∧
    (∀ source m tail, CapabilityMetadata.parseWithBody source = .ok (m, tail) ↔
      CapabilityMetadata.parse source = .ok m ∧ source.drop capabilityMetadataLen = tail ∧
        tail.length = m.bodyBytes.toNat ∧
        ∃ tokens, decodeCapabilityTokens tail m.capabilityCount = .ok tokens) ∧
    ∀ source m tail, TraceContextMetadata.parseWithBodyAndErrorContext source = .ok (m, tail) ↔
      TraceContextMetadata.parse source = .ok m ∧ source.drop traceContextMetadataLen = tail ∧
        tail.length = m.bodyBytes.toNat ∧ validateTraceContextSemantics m = .ok () := by
  refine ⟨ClientHelloMetadata.codec, ServerHelloAckMetadata.codec, SessionPatchMetadata.codec,
    SessionPatchAckMetadata.codec, ResultHintMetadata.codec, ControlRequestMetadata.codec,
    scheduling_codec, SupersedeMetadata.codec, BudgetMetadata.codec, ProgressMetadata.codec,
    PartialResultMetadata.codec, PressureMetadata.codec, CapabilityMetadata.codec,
    RouteHintMetadata.codec, TraceContextMetadata.codec, ResultDropReasonMetadata.codec,
    RecoverableErrorMetadata.codec, RetryAfterMetadata.codec, TransportProbeMetadata.codec,
    TransportProbeAckMetadata.codec, SessionMigrateMetadata.codec, SessionMigrateAckMetadata.codec,
    ErrorMetadata.codec, ?_⟩
  refine ⟨ControlRequestMetadata.codec.exactTail _ _, SupersedeMetadata.codec.exactTail _ _,
    ProgressMetadata.codec.exactTail _ _, PartialResultMetadata.codec.exactTail _ _,
    ResultDropReasonMetadata.codec.exactTail _ _, RouteHintMetadata.codec.exactTail _ _,
    TraceContextMetadata.codec.exactTail _ _, RecoverableErrorMetadata.codec.exactTail _ _,
    RetryAfterMetadata.codec.exactTail _ _, ?_⟩
  refine ⟨fun source m tail => ?_, fun source m tail => ?_⟩
  · have hsplit := CapabilityMetadata.codec.exactTail (·.bodyBytes) "capability.body_bytes" source
    simp [CapabilityMetadata.parseWithBody, bind_eq_ok, hsplit]
    grind
  · have hsplit := TraceContextMetadata.codec.exactTail (·.bodyBytes) "trace_context.body_bytes"
      source
    rw [← TraceContextMetadata.parseWithBody] at hsplit
    simp [TraceContextMetadata.parseWithBodyAndErrorContext, mapError_eq_ok, bind_eq_ok, hsplit]
    grind

def untokenized : Bytes := List.replicate 24 0 ++ [1, 0, 0, 0, 0, 0, 0, 0, 7]

theorem capability_tail_not_exact :
    ¬ExactTail capabilityMetadataLen CapabilityMetadata.parse CapabilityMetadata.bodyBytes
      CapabilityMetadata.parseWithBody := by
  intro h
  have hparsed := (h untokenized ⟨0, 0, 0, 0, 0, 0, 1, 0⟩ [7]).mpr (by decide)
  exact absurd hparsed (by decide)

end Nnrp.ControlUpdate
