import Nnrp.ProviderRoute
import Nnrp.TransportProbe

/-!
# Connecting a client and binding a server

`connectClient` and `bindServer` return the calls they made to the providers next to their result.
The descriptor of a provider is constant. What its transport does is part of the provider: how the
connection of a probe and its exchanges end, and how the final connection or the listener does.
-/

namespace Nnrp.Route
open OrderedMap Selection Fallible Packet TransportProbe StableSort

def defaultMaxPacketBytes : ℕ := 64 * 1024 * 1024

inductive ProviderError
  | duplicateTransportProvider (transportId : TransportId)
  | duplicateClientProviderId (id : String)
  | duplicateServerTransportProvider (transportId : TransportId)
  | duplicateServerProviderId (id : String)
  | selection (error : TransportSelectionError)
  | selectedProviderUnavailable (id : String)
  | serverRouteRejected (transportId : TransportId) (reason : TransportRejectionReason)
      (diagnostic : String)
  | route (error : RouteConfigurationError)
  | runtime (error : RuntimeError)

def rejectDuplicates (duplicateTransport : TransportId → ProviderError)
    (duplicateId : String → ProviderError) (accepted : List TransportProviderDescriptor) :
    List TransportProviderDescriptor → Except ProviderError Unit
  | [] => .ok ()
  | d :: ds => do
    ensure (∀ q ∈ accepted, q.transportId ≠ d.transportId) (duplicateTransport d.transportId)
    ensure (∀ q ∈ accepted, q.metadata.id ≠ d.metadata.id) (duplicateId d.metadata.id)
    rejectDuplicates duplicateTransport duplicateId (accepted ++ [d]) ds

structure NnrpClientOptions (κ : Type) where
  endpoint : NnrpEndpoint
  providerRoutes : ClientProviderRoutes
  transportPolicy : TransportPolicy
  sessionDefaults : κ

structure ProbeExchange where
  elapsedUs : UInt64
  reply : Except RuntimeError RuntimePacket

structure ClientProvider (τ : Type) where
  descriptor : TransportProviderDescriptor
  /-- How long the connection of a probe took if it failed. -/
  probeRefused : Option UInt64
  exchange : ℕ → ProbeExchange
  connect : Except RuntimeError τ

structure ResolvedClientRoute where
  endpoint : ProviderEndpoint
  security : Option ClientTransportSecurity
  deriving DecidableEq

structure ConnectCall where
  provider : TransportProviderDescriptor
  endpoint : ProviderEndpoint
  security : Option ClientTransportSecurity
  maxPacketBytes : ℕ
  deriving DecidableEq

section

variable {κ τ : Type} (parseUri : String → Option Uri)

def addUninstalledRouteDescriptors (descriptors : List TransportProviderDescriptor)
    (routes : ClientProviderRoutes) : List TransportProviderDescriptor :=
  routes.keys.foldl (fun descriptors transportId =>
    if descriptors.any (fun d => d.transportId = transportId) then descriptors
    else descriptors ++ [.missing "uninstalled-client-provider" "1.0.0-preview.4.26" transportId
      .pureRust "configured route has no installed provider"]) descriptors

variable (application : NnrpEndpoint) (transportId : TransportId)

def deriveProviderEndpoint : Except RouteConfigurationError ProviderEndpoint :=
  if application.authority.port = none then .error .emptyProviderLocator
  else
    match transportId with
    | .tcp => ProviderEndpoint.parse parseUri ("tcp://" ++ application.authority.text)
    | .quic => ProviderEndpoint.parse parseUri ("quic://" ++ application.authority.text)
    | .ipc | .webSocket => .error .emptyProviderLocator
    | .unspecified => .error .unsupportedProviderScheme

def candidateEndpoint
    (route : ClientProviderRoute) : Except RouteConfigurationError ProviderEndpoint :=
  match route.providerEndpoint with
  | some endpoint => .ok endpoint
  | none => deriveProviderEndpoint parseUri application transportId

def validateSecurity (endpoint : ProviderEndpoint)
    (security : Option ClientTransportSecurity) (descriptor : TransportProviderDescriptor) :
    Except String Unit :=
  match descriptor.transportId with
  | .quic =>
    ensure (¬security = none) "QUIC requires route-local peer verification credentials"
  | .tcp =>
    ensure (¬(application.isSecure = true ∧ security = none))
      "nnrps TCP requires route-local peer verification credentials"
  | .ipc => do
    ensure (security = none) "IPC does not accept transport security credentials"
    ensure (¬application.isSecure = true) "IPC does not satisfy nnrps in Preview4"
  | .webSocket => do
    ensure (¬(¬endpoint.isSecure = true ∧ security ≠ none))
      "plain WebSocket does not accept transport security credentials"
    ensure (¬(application.isSecure = true ∧ ¬endpoint.isSecure = true))
      "nnrps WebSocket requires a wss provider endpoint"
    ensure (¬(descriptor.kind = .wasm ∧ endpoint.isSecure = true ∧ security ≠ none))
      "browser WSS uses platform trust and rejects native certificate material"
    ensure (¬(descriptor.kind ≠ .wasm ∧ endpoint.isSecure = true ∧ security = none))
      "native WSS requires route-local peer verification credentials"
  | .unspecified => .ok ()

def resolveCandidate (route : Option ClientProviderRoute)
    (descriptor : TransportProviderDescriptor) :
    Except TransportCandidateReadiness ResolvedClientRoute := do
  let transportId := descriptor.transportId
  let id := descriptor.metadata.id
  -- a provider that is not available is rejected by the selection, not by its route
  ensure (descriptor.available = true) (TransportCandidateReadiness.ready transportId id)
  let route := route.getD {}
  ensure (∀ endpoint ∈ route.providerEndpoint, endpoint.matchesTransport transportId = true)
    (TransportCandidateReadiness.routeUnresolved transportId id
      "provider endpoint scheme does not match the provider transport")
  (validateIfGiven ClientTransportSecurity.validate route.security).mapError fun e =>
    TransportCandidateReadiness.securityUnsatisfied transportId id e.text
  let endpoint ← (candidateEndpoint parseUri application transportId route).mapError fun e =>
    TransportCandidateReadiness.routeUnresolved transportId id e.text
  (validateSecurity application endpoint route.security descriptor).mapError fun diagnostic =>
    TransportCandidateReadiness.securityUnsatisfied transportId id diagnostic
  pure ⟨endpoint, route.security⟩

def resolvedRoutes (options : NnrpClientOptions κ)
    (descriptors : List TransportProviderDescriptor) : BTreeMap String ResolvedClientRoute :=
  descriptors.foldl (fun resolved d =>
    match resolveCandidate parseUri options.endpoint options.providerRoutes[d.transportId]? d with
    | .ok route => resolved.insert d.metadata.id route
    | .error _ => resolved) ∅

def candidateReadiness (options : NnrpClientOptions κ) (d : TransportProviderDescriptor) :
    TransportCandidateReadiness :=
  match resolveCandidate parseUri options.endpoint options.providerRoutes[d.transportId]? d with
  | .ok _ => .ready d.transportId d.metadata.id
  | .error failure => failure

def requiresProbe : TransportSelectionError → Bool
  | .invalidEvidence _ _ _ => false
  | .forcedTransportUnavailable _ _ candidates _ | .noViableTransport _ candidates _ =>
    1 < (candidates.filter fun c => c.rejectionReason = some .probeMissing).length

def elapsedUs (elapsed : UInt64) : UInt64 := max elapsed 1

def probeAcknowledged (probeId : ℕ) (reply : Except RuntimeError RuntimePacket) :
    Except RuntimeError Unit := do
  let ackPacket ← reply
  ensure (¬(ackPacket.messageType ≠ .transportProbeAck ∨
      ackPacket.metadata.length ≠ transportProbeAckMetadataLen))
    (RuntimeError.unexpectedMessage "transport probe expected TRANSPORT_PROBE_ACK")
  let ack ← liftNnrp (TransportProbeAckMetadata.parse ackPacket.metadata)
  ensure (ack.probeId = UInt32.ofNat probeId)
    (RuntimeError.unexpectedMessage "transport probe acknowledgement id mismatch")

def probePayloadBytes : ℕ := 32 * 1024

/-- The samples from a probe on; the first that fails is the last. -/
def probeSamples (p : ClientProvider τ) : (remaining probeId : ℕ) → List ProbeSample
  | 0, _ => []
  | remaining + 1, probeId =>
    let elapsed := elapsedUs (p.exchange probeId).elapsedUs
    match probeAcknowledged probeId (p.exchange probeId).reply with
    | .ok () =>
      .success p.descriptor.transportId p.descriptor.metadata.id elapsed elapsed
        (UInt64.ofNat probePayloadBytes) (UInt64.ofNat transportProbeAckMetadataLen) ::
        probeSamples p remaining (probeId + 1)
    | .error _ => [.failure p.descriptor.transportId p.descriptor.metadata.id elapsed false]

def probeProvider (p : ClientProvider τ) : List ProbeSample :=
  match p.probeRefused with
  | some elapsed =>
    [.failure p.descriptor.transportId p.descriptor.metadata.id (elapsedUs elapsed) false]
  | none => probeSamples p 3 1

def probeObservation (p : ClientProvider τ) : TransportProbeObservation :=
  match summarizeProviderProbe p.descriptor (probeProvider p) with
  | some metrics => .succeeded p.descriptor.transportId p.descriptor.metadata.id metrics
  | none => .failed p.descriptor.transportId p.descriptor.metadata.id "transport probe failed"

def ResolvedClientRoute.call (route : ResolvedClientRoute) (p : ClientProvider τ) : ConnectCall :=
  ⟨p.descriptor, route.endpoint, route.security, defaultMaxPacketBytes⟩

def providerRoute (providers : List (ClientProvider τ))
    (routes : BTreeMap String ResolvedClientRoute) (id : String) :
    Option (ClientProvider τ × ResolvedClientRoute) := do
  let provider ← providers.find? fun p => p.descriptor.metadata.id = id
  let route ← routes[id]?
  some (provider, route)

def rejectedCandidates : TransportSelectionError → List TransportCandidateDiagnostic
  | .invalidEvidence _ _ _ => []
  | .forcedTransportUnavailable _ _ candidates _ | .noViableTransport _ candidates _ => candidates

variable (providers : List (ClientProvider τ)) (routes : BTreeMap String ResolvedClientRoute)
  (error : TransportSelectionError)

def probedProviders : List (ClientProvider τ × ResolvedClientRoute) :=
  ((rejectedCandidates error).filter fun c => c.probeState = .missing).filterMap
    fun c => providerRoute providers routes c.provider.id

def probeCandidates : List ConnectCall × List TransportProbeObservation :=
  let probed := probedProviders providers routes error
  (probed.map fun x => x.2.call x.1, probed.map fun x => probeObservation x.1)

variable (options : NnrpClientOptions κ)

def connectSelected (providers : List (ClientProvider τ))
    (routes : BTreeMap String ResolvedClientRoute) (selection : TransportSelection) :
    List ConnectCall × Except ProviderError (τ × κ × TransportSelection) :=
  let id := selection.selectedProvider.metadata.id
  match providerRoute providers routes id with
  | none => ([], .error (.selectedProviderUnavailable id))
  | some (provider, route) =>
    ([route.call provider],
      match provider.connect with
      | .ok transport => .ok (transport, options.sessionDefaults, selection)
      | .error e => .error (.runtime e))

def selectionOptions
    (descriptors : List TransportProviderDescriptor)
    (observations : List TransportProbeObservation) : TransportSelectionOptions where
  peerSupportedTransports := descriptors.map TransportProviderDescriptor.transportId
  policy := options.transportPolicy
  requestedMaxFrameBytes := some (UInt64.ofNat defaultMaxPacketBytes)
  candidateReadiness := descriptors.map (candidateReadiness parseUri options)
  probeObservations := observations

def connectClient (providers : List (ClientProvider τ)) :
    List ConnectCall × Except ProviderError (τ × κ × TransportSelection) :=
  match rejectDuplicates .duplicateTransportProvider .duplicateClientProviderId []
      (providers.map ClientProvider.descriptor) with
  | .error e => ([], .error e)
  | .ok () =>
    let descriptors := addUninstalledRouteDescriptors (providers.map ClientProvider.descriptor)
      options.providerRoutes
    let routes := resolvedRoutes parseUri options descriptors
    match selectTransport descriptors (selectionOptions parseUri options descriptors []) with
    | .ok selection => connectSelected options providers routes selection
    | .error e =>
      if requiresProbe e then
        let (calls, observations) := probeCandidates providers routes e
        match selectTransportWithProbe descriptors
            (selectionOptions parseUri options descriptors observations) with
        | .ok selection =>
          let (last, result) := connectSelected options providers routes selection
          (calls ++ last, result)
        | .error e => (calls, .error (.selection e))
      else ([], .error (.selection e))

end

structure NnrpServerOptions where
  endpoint : NnrpEndpoint
  providerRoutes : ServerProviderRoutes
  transportPolicy : TransportPolicy

structure BoundServerProvider (β : Type) where
  transportId : TransportId
  listener : β

structure ServerProvider (β : Type) where
  descriptor : TransportProviderDescriptor
  bind : Except RuntimeError (BoundServerProvider β)

structure BindCall where
  provider : TransportProviderDescriptor
  endpoint : ProviderEndpoint
  security : Option ServerTransportSecurity
  maxPacketBytes : ℕ
  deriving DecidableEq

variable {β : Type} (parseUri : String → Option Uri)

def rejectUninstalledRoutes (options : NnrpServerOptions)
    (descriptors : List TransportProviderDescriptor) : List TransportId → Except ProviderError Unit
  | [] => .ok ()
  | transportId :: rest => do
    ensure (options.transportPolicy.allows transportId = true →
        descriptors.any (fun d => d.transportId = transportId) = true)
      (ProviderError.serverRouteRejected transportId .localUnavailable
        "configured server route has no installed provider")
    rejectUninstalledRoutes options descriptors rest

def compareProviderOrder (policy : TransportPolicy) (left right : TransportProviderDescriptor) :
    Ordering :=
  (compare (policy.preferredTransport != some left.transportId)
    (policy.preferredTransport != some right.transportId)).then <|
  (compare left.metadata.preferenceRank right.metadata.preferenceRank).then <|
  (compare left.transportId.code right.transportId.code).then <|
  compare left.metadata.id right.metadata.id

def deriveServerEndpoint (application : NnrpEndpoint) (transportId : TransportId) :
    Except ProviderError ProviderEndpoint :=
  if application.authority.port = none then
    .error (.serverRouteRejected transportId .routeUnresolved
      "provider endpoint cannot be derived without an application port")
  else
    match transportId with
    | .tcp =>
      (ProviderEndpoint.parse parseUri ("tcp://" ++ application.authority.text)).mapError .route
    | .quic =>
      (ProviderEndpoint.parse parseUri ("quic://" ++ application.authority.text)).mapError .route
    | .ipc | .webSocket | .unspecified =>
      .error (.serverRouteRejected transportId .routeUnresolved
        "IPC and WebSocket server providers require an explicit locator")

def resolveServerEndpoint (application : NnrpEndpoint) (transportId : TransportId)
    (route : ServerProviderRoute) : Except ProviderError ProviderEndpoint := do
  (route.validateFor transportId).mapError fun e =>
    ProviderError.serverRouteRejected transportId .routeUnresolved e.text
  match route.providerEndpoint with
  | some endpoint => .ok endpoint
  | none => deriveServerEndpoint parseUri application transportId

inductive ServerSecurityEligibility
  | eligible
  | ineligible (diagnostic : String)
  deriving DecidableEq

def serverEligibility (application : NnrpEndpoint) (endpoint : ProviderEndpoint)
    (security : Option ServerTransportSecurity) : TransportId → ServerSecurityEligibility
  | .quic =>
    if security = none then .ineligible "QUIC requires route-local server credentials"
    else .eligible
  | .tcp =>
    if application.isSecure = true ∧ security = none then
      .ineligible "nnrps TCP requires route-local server credentials"
    else .eligible
  | .ipc =>
    if application.isSecure = true then .ineligible "IPC does not satisfy nnrps in Preview4"
    else .eligible
  | .webSocket =>
    if application.isSecure = true ∧ ¬endpoint.isSecure = true then
      .ineligible "nnrps WebSocket requires a wss provider endpoint"
    else if endpoint.isSecure = true ∧ security = none then
      .ineligible "native WSS requires route-local server credentials"
    else .eligible
  | .unspecified => .eligible

def validateServerSecurity (application : NnrpEndpoint) (endpoint : ProviderEndpoint)
    (security : Option ServerTransportSecurity) (transportId : TransportId) :
    Except ProviderError ServerSecurityEligibility := do
  (validateIfGiven ServerTransportSecurity.validate security).mapError fun e =>
    ProviderError.serverRouteRejected transportId .securityUnsatisfied e.text
  ensure (¬(transportId = .ipc ∧ security ≠ none))
    (ProviderError.serverRouteRejected transportId .securityUnsatisfied
      "IPC does not accept transport security credentials")
  ensure (¬(transportId = .webSocket ∧ ¬endpoint.isSecure = true ∧ security ≠ none))
    (ProviderError.serverRouteRejected transportId .securityUnsatisfied
      "plain WebSocket does not accept transport security credentials")
  pure (serverEligibility application endpoint security transportId)

/-- What the loop does with one provider: it is passed over, refused, or called. -/
inductive ServerPlan
  | skip
  | call (call : BindCall)

def planProvider (options : NnrpServerOptions) (d : TransportProviderDescriptor) :
    Except ProviderError ServerPlan :=
  let forced : Bool := options.transportPolicy.forcedTransport = some d.transportId
  if d.available = false then
    if forced then
      .error (.serverRouteRejected d.transportId .localUnavailable
        (d.diagnostic.getD "forced provider is locally unavailable"))
    else .ok .skip
  else do
    let route := (options.providerRoutes[d.transportId]?).getD {}
    let endpoint ← resolveServerEndpoint parseUri options.endpoint d.transportId route
    let security ← validateServerSecurity options.endpoint endpoint route.security d.transportId
    match security with
    | .ineligible diagnostic =>
      if forced then
        .error (.serverRouteRejected d.transportId .securityUnsatisfied diagnostic)
      else .ok .skip
    | .eligible => .ok (.call ⟨d, endpoint, route.security, defaultMaxPacketBytes⟩)

def bindProviders (options : NnrpServerOptions) (calls : List BindCall)
    (listeners : List (BoundServerProvider β)) :
    List (ServerProvider β) → List BindCall × Except ProviderError (List (BoundServerProvider β))
  | [] => (calls, .ok listeners)
  | p :: ps =>
    match planProvider parseUri options p.descriptor with
    | .error e => (calls, .error e)
    | .ok .skip => bindProviders options calls listeners ps
    | .ok (.call call) =>
      match p.bind with
      | .error e => (calls ++ [call], .error (.runtime e))
      | .ok bound =>
        if bound.transportId ≠ p.descriptor.transportId then
          (calls ++ [call], .error (.serverRouteRejected p.descriptor.transportId .routeUnresolved
            "provider returned a listener for a different transport"))
        else bindProviders options (calls ++ [call]) (listeners ++ [bound]) ps

def bindServer (options : NnrpServerOptions) (providers : List (ServerProvider β)) :
    List BindCall × Except ProviderError (List (BoundServerProvider β)) :=
  let descriptors := providers.map ServerProvider.descriptor
  match rejectDuplicates .duplicateServerTransportProvider .duplicateServerProviderId []
      descriptors with
  | .error e => ([], .error e)
  | .ok () =>
    match rejectUninstalledRoutes options descriptors options.providerRoutes.keys with
    | .error e => ([], .error e)
    | .ok () =>
      let allowed := providers.filter fun p =>
        options.transportPolicy.allows p.descriptor.transportId
      let sorted := sortBy (fun left right =>
        compareProviderOrder options.transportPolicy left.descriptor right.descriptor) allowed
      match bindProviders parseUri options [] [] sorted with
      | (calls, .ok []) => (calls, .error (.serverRouteRejected
          (options.transportPolicy.forcedTransport.getD .unspecified) .localUnavailable
          "no policy-eligible server provider is locally available"))
      | result => result

end Nnrp.Route
