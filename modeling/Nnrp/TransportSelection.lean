import Nnrp.Fallible
import Nnrp.StableSort
import Mathlib.Data.UInt
import Mathlib.Tactic.Cases

/-!
# Transport selection

The choice of one transport provider among those that an application installed. Each candidate
is rejected for the first reason that applies. A single candidate that is left over is taken
directly, several are ranked by what a probe measured for them. Evidence that does not fit the
providers is refused before anything is evaluated.
-/

namespace Nnrp.Selection
open Fallible StableSort

inductive TransportId
  | unspecified | quic | tcp | ipc | webSocket
  deriving DecidableEq

namespace TransportId

def code : TransportId → UInt32
  | .unspecified => 0 | .quic => 1 | .tcp => 2 | .ipc => 3 | .webSocket => 4

def debug : TransportId → String
  | .unspecified => "Unspecified" | .quic => "Quic" | .tcp => "Tcp" | .ipc => "Ipc"
  | .webSocket => "WebSocket"

def isSelectable : TransportId → Bool
  | .quic | .tcp | .ipc | .webSocket => true
  | .unspecified => false

theorem code_injective : Function.Injective code := by
  intro a b h
  cases a <;> cases b <;> first | rfl | exact absurd h (by decide)

instance : Ord TransportId := ⟨fun a b => compare a.code b.code⟩

instance : Std.TransOrd TransportId where
  eq_swap := Std.OrientedOrd.eq_swap (α := UInt32)
  isLE_trans := Std.TransOrd.isLE_trans (α := UInt32)

end TransportId

inductive TransportPolicy
  | auto | preferQuic | preferTcp | preferIpc | preferWebSocket
  | forceQuic | forceTcp | forceIpc | forceWebSocket
  deriving DecidableEq

namespace TransportPolicy

def allows : TransportPolicy → TransportId → Bool
  | .auto, t | .preferQuic, t | .preferTcp, t | .preferIpc, t | .preferWebSocket, t =>
    t.isSelectable
  | .forceQuic, t => t = .quic
  | .forceTcp, t => t = .tcp
  | .forceIpc, t => t = .ipc
  | .forceWebSocket, t => t = .webSocket

def preferredTransport : TransportPolicy → Option TransportId
  | .preferQuic | .forceQuic => some .quic
  | .preferTcp | .forceTcp => some .tcp
  | .preferIpc | .forceIpc => some .ipc
  | .preferWebSocket | .forceWebSocket => some .webSocket
  | .auto => none

def forcedTransport : TransportPolicy → Option TransportId
  | .forceQuic => some .quic
  | .forceTcp => some .tcp
  | .forceIpc => some .ipc
  | .forceWebSocket => some .webSocket
  | .auto | .preferQuic | .preferTcp | .preferIpc | .preferWebSocket => none

end TransportPolicy

inductive TransportProviderKind
  | pureRust | nativeDynamic | wasm
  deriving DecidableEq

structure ProviderCost where
  modelId : UInt16 := 0
  units : UInt64 := 0
  deriving DecidableEq

inductive ProviderLimitation
  | requiresUdp | requiresTcp | localHostOnly | nativeHostOnly | browserHostOnly
  | unixDomainSocket | windowsNamedPipe
  deriving DecidableEq

def defaultProviderMaxFrameBytes : UInt64 := 64 * 1024 * 1024

structure TransportProviderMetadata where
  id : String
  cost : ProviderCost := {}
  preferenceRank : UInt16
  maxFrameBytes : UInt64 := defaultProviderMaxFrameBytes
  limitations : List ProviderLimitation
  deriving DecidableEq

/-- The host is not a Windows one, so a local socket is a Unix domain socket. -/
def TransportProviderMetadata.official :
    TransportId → TransportProviderKind → TransportProviderMetadata
  | .webSocket, .wasm =>
    { id := "nnrp.transport.websocket.browser-wasm", preferenceRank := 3
      limitations := [.requiresTcp, .browserHostOnly] }
  | _, .wasm =>
    { id := "nnrp.transport.unspecified.browser-wasm", preferenceRank := 65535
      limitations := [.browserHostOnly] }
  | .quic, _ =>
    { id := "nnrp.transport.quic.native", preferenceRank := 1
      limitations := [.requiresUdp, .nativeHostOnly] }
  | .tcp, _ =>
    { id := "nnrp.transport.tcp.native", preferenceRank := 2
      limitations := [.requiresTcp, .nativeHostOnly] }
  | .ipc, _ =>
    { id := "nnrp.transport.ipc.native", preferenceRank := 0
      limitations := [.localHostOnly, .nativeHostOnly, .unixDomainSocket] }
  | .webSocket, _ =>
    { id := "nnrp.transport.websocket.native", preferenceRank := 3
      limitations := [.requiresTcp, .nativeHostOnly] }
  | .unspecified, _ =>
    { id := "nnrp.transport.unspecified.native", preferenceRank := 65535, limitations := [] }

structure TransportProviderDescriptor where
  (name version : String)
  transportId : TransportId
  kind : TransportProviderKind
  available : Bool
  metadata : TransportProviderMetadata
  diagnostic : Option String
  deriving DecidableEq

def TransportProviderDescriptor.installed (name version : String) (transportId : TransportId)
    (kind : TransportProviderKind) : TransportProviderDescriptor where
  name := name
  version := version
  transportId := transportId
  kind := kind
  available := true
  metadata := .official transportId kind
  diagnostic := none

def TransportProviderDescriptor.missing (name version : String) (transportId : TransportId)
    (kind : TransportProviderKind) (diagnostic : String) : TransportProviderDescriptor where
  name := name
  version := version
  transportId := transportId
  kind := kind
  available := false
  metadata := .official transportId kind
  diagnostic := some diagnostic

inductive ProbeState
  | notRun | succeeded | failed | missing
  deriving DecidableEq

structure ProbeMetrics where
  (sampleCount successCount : UInt32)
  (medianThroughputBytesPerSec medianRttUs : UInt64)
  deriving DecidableEq

structure TransportCandidateReadiness where
  transportId : TransportId
  providerId : String
  (routeResolved securitySatisfied : Bool)
  diagnostic : Option String
  deriving DecidableEq

namespace TransportCandidateReadiness

variable (transportId : TransportId)

def ready (providerId : String) : TransportCandidateReadiness :=
  ⟨transportId, providerId, true, true, none⟩

def routeUnresolved (providerId diagnostic : String) : TransportCandidateReadiness :=
  ⟨transportId, providerId, false, true, some diagnostic⟩

def securityUnsatisfied (providerId diagnostic : String) : TransportCandidateReadiness :=
  ⟨transportId, providerId, true, false, some diagnostic⟩

end TransportCandidateReadiness

structure TransportProbeObservation where
  transportId : TransportId
  providerId : String
  state : ProbeState
  metrics : Option ProbeMetrics
  diagnostic : Option String
  deriving DecidableEq

namespace TransportProbeObservation

def succeeded (transportId : TransportId) (providerId : String) (metrics : ProbeMetrics) :
    TransportProbeObservation :=
  ⟨transportId, providerId, .succeeded, some metrics, none⟩

def failed (transportId : TransportId) (providerId diagnostic : String) :
    TransportProbeObservation :=
  ⟨transportId, providerId, .failed, none, some diagnostic⟩

end TransportProbeObservation

structure TransportSelectionOptions where
  peerSupportedTransports : List TransportId
  policy : TransportPolicy
  requestedMaxFrameBytes : Option UInt64
  candidateReadiness : List TransportCandidateReadiness
  probeObservations : List TransportProbeObservation

def remoteTransportSupport (transports : List TransportId) : List TransportId :=
  (sortBy (fun a b => compare a.code b.code) (transports.filter TransportId.isSelectable)).dedup

inductive TransportRejectionReason
  | policyDisallowed | localUnavailable | peerUnsupported | limitExceeded | routeUnresolved
  | securityUnsatisfied | probeMissing | probeFailed
  deriving DecidableEq

structure TransportCandidateDiagnostic where
  transportId : TransportId
  provider : TransportProviderMetadata
  (localAvailable peerSupported withinLimits : Bool)
  probeState : ProbeState
  probe : Option ProbeMetrics
  selectionRank : Option UInt32
  rejectionReason : Option TransportRejectionReason
  diagnostic : Option String
  deriving DecidableEq

structure TransportSelection where
  selectedProvider : TransportProviderDescriptor
  candidates : List TransportCandidateDiagnostic
  policy : TransportPolicy
  diagnostic : Option String
  deriving DecidableEq

inductive TransportSelectionError
  | invalidEvidence (policy : Option TransportPolicy)
      (candidates : List TransportCandidateDiagnostic) (diagnostic : String)
  | forcedTransportUnavailable (policy : TransportPolicy) (transportId : TransportId)
      (candidates : List TransportCandidateDiagnostic) (diagnostic : Option String)
  | noViableTransport (policy : TransportPolicy)
      (candidates : List TransportCandidateDiagnostic) (diagnostic : Option String)
  deriving DecidableEq

def invalidEvidence (diagnostic : String) : TransportSelectionError :=
  .invalidEvidence none [] diagnostic

def isAscii (s : String) : Bool := s.toList.all fun c => c.toNat < 128

def validateProviderMetadata (metadata : TransportProviderMetadata) : Except String Unit := do
  ensure (¬(metadata.id = "" ∨ ¬isAscii metadata.id = true))
    "provider id must be a non-empty ASCII string"
  ensure (¬(metadata.cost.modelId = 0 ∧ metadata.cost.units ≠ 0))
    "provider cost units must be zero when model id is zero"
  ensure (metadata.maxFrameBytes ≠ 0) "provider max frame bytes must be positive"
  ensure (metadata.limitations.dedup.length = metadata.limitations.length)
    "provider limitations must not contain duplicates"

def validateProbeMetrics (metrics : ProbeMetrics) : Except String Unit := do
  ensure (metrics.sampleCount ≠ 0) "sample count must be positive"
  ensure (¬(metrics.successCount = 0 ∨ metrics.sampleCount < metrics.successCount))
    "success count must be in 1..=sample count"

/-- The providers before `ps` were accepted. -/
def validateProviders (accepted : List TransportProviderDescriptor) :
    List TransportProviderDescriptor → Except TransportSelectionError Unit
  | [] => .ok ()
  | p :: ps => do
    (validateProviderMetadata p.metadata).mapError fun diagnostic => invalidEvidence
      ("provider " ++ p.metadata.id ++ " has invalid metadata: " ++ diagnostic)
    ensure (p.transportId.isSelectable = true) (invalidEvidence
      ("provider uses non-selectable transport " ++ p.transportId.debug))
    ensure (∀ q ∈ accepted, q.transportId ≠ p.transportId) (invalidEvidence
      ("duplicate provider for transport " ++ p.transportId.debug))
    ensure (∀ q ∈ accepted, q.metadata.id ≠ p.metadata.id) (invalidEvidence
      ("duplicate provider id " ++ p.metadata.id))
    validateProviders (accepted ++ [p]) ps

abbrev ProviderKey := TransportId × String

def TransportProviderDescriptor.key (p : TransportProviderDescriptor) : ProviderKey :=
  (p.transportId, p.metadata.id)

def TransportCandidateReadiness.key (r : TransportCandidateReadiness) : ProviderKey :=
  (r.transportId, r.providerId)

def TransportProbeObservation.key (o : TransportProbeObservation) : ProviderKey :=
  (o.transportId, o.providerId)

def validateReadiness (keys accepted : List ProviderKey) :
    List TransportCandidateReadiness → Except TransportSelectionError Unit
  -- every accepted record is of a provider, so only a provider without one makes a difference
  | [] => ensure (∀ key ∈ keys, key ∈ accepted) (invalidEvidence
      "readiness must contain exactly one record for every provider")
  | r :: rs => do
    ensure (¬(r.providerId = "" ∨ ¬isAscii r.providerId = true)) (invalidEvidence
      "candidate readiness provider id must be a non-empty ASCII string")
    ensure (r.key ∈ keys) (invalidEvidence
      ("unmatched readiness for " ++ r.transportId.debug ++ "/" ++ r.providerId))
    ensure (r.key ∉ accepted) (invalidEvidence
      ("duplicate readiness for " ++ r.transportId.debug ++ "/" ++ r.providerId))
    validateReadiness keys (accepted ++ [r.key]) rs

def validateObservation (o : TransportProbeObservation) : Except TransportSelectionError Unit :=
  let name := o.transportId.debug ++ "/" ++ o.providerId
  match o.state, o.metrics with
  | .succeeded, some metrics => (validateProbeMetrics metrics).mapError fun diagnostic =>
      invalidEvidence ("invalid probe metrics for " ++ name ++ ": " ++ diagnostic)
  | .failed, none => .ok ()
  | .succeeded, none =>
    .error (invalidEvidence ("successful probe observation requires metrics for " ++ name))
  | .failed, some _ =>
    .error (invalidEvidence ("failed probe observation forbids metrics for " ++ name))
  | .notRun, _ | .missing, _ => .error (invalidEvidence
      ("probe observation state must be succeeded or failed for " ++ name))

def validateObservations (keys accepted : List ProviderKey) :
    List TransportProbeObservation → Except TransportSelectionError Unit
  | [] => .ok ()
  | o :: os => do
    ensure (¬(o.providerId = "" ∨ ¬isAscii o.providerId = true)) (invalidEvidence
      "probe observation provider id must be a non-empty ASCII string")
    ensure (o.key ∈ keys) (invalidEvidence
      ("unmatched probe observation for " ++ o.transportId.debug ++ "/" ++ o.providerId))
    ensure (o.key ∉ accepted) (invalidEvidence
      ("duplicate probe observation for " ++ o.transportId.debug ++ "/" ++ o.providerId))
    validateObservation o
    validateObservations keys (accepted ++ [o.key]) os

def validateSelectionEvidence (providers : List TransportProviderDescriptor)
    (readiness : List TransportCandidateReadiness)
    (observations : List TransportProbeObservation) : Except TransportSelectionError Unit := do
  validateProviders [] providers
  validateReadiness (providers.map TransportProviderDescriptor.key) [] readiness
  validateObservations (providers.map TransportProviderDescriptor.key) [] observations

structure EvaluatedCandidate where
  descriptor : TransportProviderDescriptor
  diagnostic : TransportCandidateDiagnostic
  deriving DecidableEq

def evaluateCandidate (remote : List TransportId) (policy : TransportPolicy)
    (requestedMaxFrameBytes : Option UInt64) (readiness : List TransportCandidateReadiness)
    (provider : TransportProviderDescriptor) : EvaluatedCandidate :=
  let readiness := readiness.find? fun r =>
    r.transportId = provider.transportId ∧ r.providerId = provider.metadata.id
  let peerSupported : Bool := remote.contains provider.transportId
  let withinLimits : Bool := match requestedMaxFrameBytes with
    | some requested => requested ≤ provider.metadata.maxFrameBytes
    | none => true
  let rejectionReason : Option TransportRejectionReason :=
    if ¬policy.allows provider.transportId = true then some .policyDisallowed
    else if ¬provider.available = true then some .localUnavailable
    else if ¬peerSupported = true then some .peerUnsupported
    else if ¬withinLimits = true then some .limitExceeded
    else if readiness.any (fun r => !r.routeResolved) = true then some .routeUnresolved
    else if readiness.any (fun r => !r.securitySatisfied) = true then some .securityUnsatisfied
    else none
  { descriptor := provider
    diagnostic :=
      { transportId := provider.transportId
        provider := provider.metadata
        localAvailable := provider.available
        peerSupported := peerSupported
        withinLimits := withinLimits
        probeState := .notRun
        probe := none
        selectionRank := none
        rejectionReason := rejectionReason
        diagnostic := (readiness.bind (·.diagnostic)).orElse fun () => provider.diagnostic } }

def evaluateCandidates (providers : List TransportProviderDescriptor) (remote : List TransportId)
    (policy : TransportPolicy) (requestedMaxFrameBytes : Option UInt64)
    (readiness : List TransportCandidateReadiness) : List EvaluatedCandidate :=
  (providers.filter fun p => p.transportId.isSelectable).map
    (evaluateCandidate remote policy requestedMaxFrameBytes readiness)

def EvaluatedCandidate.eligible (c : EvaluatedCandidate) : Bool :=
  c.diagnostic.rejectionReason.isNone

def EvaluatedCandidate.ranked (c : EvaluatedCandidate) (rank : ℕ) : EvaluatedCandidate :=
  { c with diagnostic := { c.diagnostic with selectionRank := some (UInt32.ofNat rank) } }

def compareDiagnostics (left right : EvaluatedCandidate) : Ordering :=
  match left.diagnostic.selectionRank, right.diagnostic.selectionRank with
  | some leftRank, some rightRank => compare leftRank rightRank
  | some _, none => .lt
  | none, some _ => .gt
  | none, none =>
    (compare left.descriptor.transportId.code right.descriptor.transportId.code).then
      (compare left.descriptor.metadata.id right.descriptor.metadata.id)

def orderedDiagnostics (candidates : List EvaluatedCandidate) : List TransportCandidateDiagnostic :=
  (sortBy compareDiagnostics candidates).map EvaluatedCandidate.diagnostic

def selectionError (policy : TransportPolicy) (candidates : List TransportCandidateDiagnostic) :
    TransportSelectionError :=
  match policy.forcedTransport with
  | some transportId => .forcedTransportUnavailable policy transportId candidates none
  | none => .noViableTransport policy candidates none

def directSelection (candidates : List EvaluatedCandidate) (selected : EvaluatedCandidate)
    (policy : TransportPolicy) : TransportSelection where
  selectedProvider := selected.descriptor
  candidates := orderedDiagnostics (candidates.map fun c => if c.eligible then c.ranked 0 else c)
  policy := policy
  diagnostic := none

def EvaluatedCandidate.withoutProbe (c : EvaluatedCandidate) : EvaluatedCandidate :=
  { c with
    diagnostic := { c.diagnostic with
      probeState := .missing, rejectionReason := some .probeMissing } }

variable (providers : List TransportProviderDescriptor) (options : TransportSelectionOptions)

def candidatesOf : List EvaluatedCandidate :=
  evaluateCandidates providers (remoteTransportSupport options.peerSupportedTransports)
    options.policy options.requestedMaxFrameBytes options.candidateReadiness

def selectTransport :
    Except TransportSelectionError TransportSelection := do
  validateSelectionEvidence providers options.candidateReadiness []
  let candidates := candidatesOf providers options
  match candidates.filter EvaluatedCandidate.eligible with
  | [selected] => .ok (directSelection candidates selected options.policy)
  | _ =>
    let candidates := candidates.map fun c => if c.eligible then c.withoutProbe else c
    .error (selectionError options.policy (orderedDiagnostics candidates))

def EvaluatedCandidate.observed (observations : List TransportProbeObservation)
    (c : EvaluatedCandidate) : EvaluatedCandidate :=
  let observation := observations.find? fun o =>
    o.transportId = c.descriptor.transportId ∧ o.providerId = c.descriptor.metadata.id
  match observation with
  | some o =>
    if o.state = .succeeded then
      { c with
        diagnostic := { c.diagnostic with
          probeState := .succeeded, probe := o.metrics, diagnostic := o.diagnostic } }
    else
      { c with
        diagnostic := { c.diagnostic with
          probeState := .failed, rejectionReason := some .probeFailed
          diagnostic := o.diagnostic } }
  | none => c.withoutProbe

/-- Costs of different models, or of no model, are not compared. -/
def compareCost (left right : ProviderCost) : Ordering :=
  if left.modelId ≠ 0 ∧ left.modelId = right.modelId then compare left.units right.units else .eq

def compareCandidates (policy : TransportPolicy) (left right : EvaluatedCandidate) : Ordering :=
  match left.diagnostic.probe, right.diagnostic.probe with
  | some leftProbe, some rightProbe =>
    (compare rightProbe.successCount leftProbe.successCount).then <|
    (compare rightProbe.medianThroughputBytesPerSec leftProbe.medianThroughputBytesPerSec).then <|
    (compare leftProbe.medianRttUs rightProbe.medianRttUs).then <|
    (compareCost left.descriptor.metadata.cost right.descriptor.metadata.cost).then <|
    (compare (policy.preferredTransport == some right.descriptor.transportId)
      (policy.preferredTransport == some left.descriptor.transportId)).then <|
    (compare left.descriptor.metadata.preferenceRank
      right.descriptor.metadata.preferenceRank).then <|
    (compare left.descriptor.transportId.code right.descriptor.transportId.code).then <|
    compare left.descriptor.metadata.id right.descriptor.metadata.id
  -- a successful observation carries metrics
  | _, _ => .eq

def selectTransportWithProbe (providers : List TransportProviderDescriptor)
    (options : TransportSelectionOptions) :
    Except TransportSelectionError TransportSelection := do
  validateSelectionEvidence providers options.candidateReadiness options.probeObservations
  let candidates := candidatesOf providers options
  match candidates.filter EvaluatedCandidate.eligible with
  | [selected] => .ok (directSelection candidates selected options.policy)
  | _ =>
    let candidates := candidates.map fun c =>
      if c.eligible then c.observed options.probeObservations else c
    let successful := sortBy (fun left right => compareCandidates options.policy left.1 right.1)
      (candidates.zipIdx.filter fun c => c.1.diagnostic.probeState = .succeeded)
    let ranked := candidates.zipIdx.map fun c =>
      match successful.findIdx? (fun other => other.2 = c.2) with
      | some rank => c.1.ranked rank
      | none => c.1
    match successful with
    | selected :: _ =>
      .ok
        { selectedProvider := selected.1.descriptor
          candidates := orderedDiagnostics ranked
          policy := options.policy
          diagnostic := none }
    | [] => .error (selectionError options.policy (orderedDiagnostics ranked))

structure ProbeSample where
  transportId : TransportId
  providerId : String
  elapsedUs : UInt64
  rttUs : Option UInt64
  (bytesSent bytesReceived : UInt64)
  (timedOut failed : Bool)
  deriving DecidableEq

namespace ProbeSample

def success (transportId : TransportId) (providerId : String)
    (elapsedUs rttUs bytesSent bytesReceived : UInt64) : ProbeSample :=
  ⟨transportId, providerId, elapsedUs, some rttUs, bytesSent, bytesReceived, false, false⟩

def failure (transportId : TransportId) (providerId : String) (elapsedUs : UInt64)
    (timedOut : Bool) : ProbeSample :=
  ⟨transportId, providerId, elapsedUs, none, 0, 0, timedOut, true⟩

def isSuccessful (s : ProbeSample) : Bool :=
  !s.failed && !s.timedOut && s.rttUs.isSome && (0 < s.elapsedUs : Bool)

end ProbeSample

def saturatingU64 (value : ℕ) : UInt64 := UInt64.ofNat (min value (2 ^ 64 - 1))

def saturatingU32 (value : ℕ) : UInt32 := UInt32.ofNat (min value (2 ^ 32 - 1))

def throughput (s : ProbeSample) : UInt64 :=
  let bytes := saturatingU64 (s.bytesSent.toNat + s.bytesReceived.toNat)
  saturatingU64 (bytes.toNat * 1000000) / s.elapsedUs

def median (values : List UInt64) : UInt64 :=
  let values := sortBy compare values
  let upper := values.length / 2
  if values.length % 2 = 1 then values.getD upper 0
  else
    let lowerValue := values.getD (upper - 1) 0
    lowerValue + (values.getD upper 0 - lowerValue) / 2

def summarizeProviderProbe (provider : TransportProviderDescriptor) (samples : List ProbeSample) :
    Option ProbeMetrics :=
  let providerSamples := samples.filter fun s =>
    s.transportId = provider.transportId ∧ s.providerId = provider.metadata.id
  let successful := providerSamples.filter ProbeSample.isSuccessful
  if successful = [] then none
  else some
    { sampleCount := saturatingU32 providerSamples.length
      successCount := saturatingU32 successful.length
      medianThroughputBytesPerSec := median (successful.map throughput)
      medianRttUs := median (successful.filterMap ProbeSample.rttUs) }

end Nnrp.Selection
