import Nnrp.ByteOrder
import Nnrp.OrderedMap
import Nnrp.TransportSelection

/-!
# Endpoints and provider routes

The application endpoint, the endpoint of a provider, and the credentials of a route with the
checks that both sides make on them. URIs are taken apart by a parser outside of the repository;
it is a parameter of the endpoint parsers.
-/

namespace Nnrp.Route
open ByteOrder OrderedMap Selection Fallible

inductive RouteConfigurationError
  | invalidEndpoint
  | unsupportedApplicationScheme (scheme : String)
  | applicationCredentialsNotAllowed
  | fragmentNotAllowed
  | unsupportedProviderScheme
  | emptyProviderLocator
  | emptyServerName
  | emptyTrustedCertificate
  | emptyCertificate
  | emptyPrivateKey
  deriving DecidableEq

def RouteConfigurationError.text : RouteConfigurationError → String
  | .invalidEndpoint => "endpoint is not a valid absolute URI"
  | .unsupportedApplicationScheme scheme =>
    "application endpoint must use nnrp:// or nnrps://, not " ++ scheme ++ "://"
  | .applicationCredentialsNotAllowed => "application endpoint credentials are not allowed"
  | .fragmentNotAllowed => "endpoint fragments are not allowed"
  | .unsupportedProviderScheme =>
    "provider endpoint must use tcp://, quic://, unix://, npipe://, ws://, or wss://"
  | .emptyProviderLocator => "provider endpoint locator is empty"
  | .emptyServerName => "client transport security server_name must not be empty"
  | .emptyTrustedCertificate =>
    "client transport security trusted_certificate_der must not be empty"
  | .emptyCertificate => "server transport security certificate_der must not be empty"
  | .emptyPrivateKey => "server transport security private_key_pkcs8_der must not be empty"

structure Authority where
  text : String
  port : Option UInt16
  deriving DecidableEq

structure Uri where
  scheme : Option String
  authority : Option Authority
  deriving DecidableEq

inductive ApplicationScheme
  | nnrp | nnrps
  deriving DecidableEq

def ApplicationScheme.ofName : Option String → Except RouteConfigurationError ApplicationScheme
  | none => .error .invalidEndpoint
  | some "nnrp" => .ok .nnrp
  | some "nnrps" => .ok .nnrps
  | some other => .error (.unsupportedApplicationScheme other)

theorem ApplicationScheme.ofName_nnrps {name : Option String} {scheme : ApplicationScheme}
    (h : ofName name = .ok scheme) : scheme = .nnrps ↔ name = some "nnrps" := by
  unfold ofName at h
  split at h <;> cases h <;> simp

structure NnrpEndpoint where
  value : String
  scheme : ApplicationScheme
  authority : Authority
  fragmentFree : '#' ∉ value.toList
  credentialFree : '@' ∉ authority.text.toList
  deriving DecidableEq

namespace NnrpEndpoint

def parse (parseUri : String → Option Uri) (value : String) :
    Except RouteConfigurationError NnrpEndpoint :=
  if hfragment : '#' ∈ value.toList then .error .fragmentNotAllowed
  else
    match parseUri value with
    | none => .error .invalidEndpoint
    | some uri => do
      let scheme ← ApplicationScheme.ofName uri.scheme
      match uri.authority with
      | none => .error .invalidEndpoint
      | some authority =>
        if hcredentials : '@' ∈ authority.text.toList then .error .applicationCredentialsNotAllowed
        else .ok ⟨value, scheme, authority, hfragment, hcredentials⟩

def isSecure (e : NnrpEndpoint) : Bool := e.scheme = .nnrps

/-- The source reads the scheme off the URI that the endpoint keeps. -/
theorem isSecure_of_parse {parseUri : String → Option Uri} {value : String} {e : NnrpEndpoint}
    {uri : Uri} (huri : parseUri value = some uri) (h : parse parseUri value = .ok e) :
    e.isSecure = true ↔ uri.scheme = some "nnrps" := by
  rw [parse, huri] at h
  split_ifs at h
  obtain ⟨scheme, hscheme, h⟩ := bind_eq_ok.mp h
  split at h
  · cases h
  · split_ifs at h
    cases h
    rw [isSecure, decide_eq_true_iff, ApplicationScheme.ofName_nnrps hscheme]

end NnrpEndpoint

inductive ProviderScheme
  | tcp | quic | unix | npipe | ws | wss
  deriving DecidableEq

def ProviderScheme.ofName : List Char → Option ProviderScheme
  | ['t', 'c', 'p'] => some .tcp
  | ['q', 'u', 'i', 'c'] => some .quic
  | ['u', 'n', 'i', 'x'] => some .unix
  | ['n', 'p', 'i', 'p', 'e'] => some .npipe
  | ['w', 's'] => some .ws
  | ['w', 's', 's'] => some .wss
  | _ => none

def splitScheme : List Char → Option (List Char × List Char)
  | ':' :: '/' :: '/' :: rest => some ([], rest)
  | c :: rest => (splitScheme rest).map fun parts => (c :: parts.1, parts.2)
  | [] => none

structure ProviderEndpoint where
  scheme : ProviderScheme
  locator : List Char
  deriving DecidableEq

namespace ProviderEndpoint

def validateLocator (parseUri : String → Option Uri) (value : String) (locator : List Char) :
    ProviderScheme → Except RouteConfigurationError Unit
  | .unix => ensure (¬(locator.head? ≠ some '/' ∨ locator = ['/'] ∨ '?' ∈ locator))
      RouteConfigurationError.invalidEndpoint
  | .npipe => ensure (¬('?' ∈ locator ∨ '@' ∈ locator)) RouteConfigurationError.invalidEndpoint
  | .tcp | .quic | .ws | .wss =>
    match parseUri value with
    | none => .error .invalidEndpoint
    | some uri =>
      match uri.authority with
      | none => .error .emptyProviderLocator
      | some authority =>
        ensure ('@' ∉ authority.text.toList) RouteConfigurationError.invalidEndpoint

def parse (parseUri : String → Option Uri) (value : String) :
    Except RouteConfigurationError ProviderEndpoint :=
  match splitScheme value.toList with
  | none => .error .invalidEndpoint
  | some (name, locator) =>
    match ProviderScheme.ofName name with
    | none => .error .unsupportedProviderScheme
    | some scheme => do
      ensure (locator ≠ []) RouteConfigurationError.emptyProviderLocator
      ensure ('#' ∉ value.toList) RouteConfigurationError.fragmentNotAllowed
      validateLocator parseUri value locator scheme
      pure ⟨scheme, locator⟩

def isSecure (e : ProviderEndpoint) : Bool := e.scheme = .wss

def matchesTransport (e : ProviderEndpoint) : TransportId → Bool
  | .tcp => e.scheme = .tcp
  | .quic => e.scheme = .quic
  | .ipc => e.scheme = .unix ∨ e.scheme = .npipe
  | .webSocket => e.scheme = .ws ∨ e.scheme = .wss
  | .unspecified => false

variable {parseUri : String → Option Uri} {e : ProviderEndpoint}

theorem parse_scheme {value : String} {name locator : List Char} (h : parse parseUri value = .ok e)
    (hsplit : splitScheme value.toList = some (name, locator)) :
    ProviderScheme.ofName name = some e.scheme := by
  simp only [parse, hsplit] at h
  cases hname : ProviderScheme.ofName name with
  | none =>
    rw [hname] at h
    cases h
  | some scheme =>
    rw [hname] at h
    obtain ⟨_, -, h⟩ := bind_eq_ok.mp h
    obtain ⟨_, -, h⟩ := bind_eq_ok.mp h
    obtain ⟨_, -, h⟩ := bind_eq_ok.mp h
    cases h
    rfl

variable {authority : String}

theorem matches_of_parse_tcp (h : parse parseUri ("tcp://" ++ authority) = .ok e) :
    e.matchesTransport .tcp = true := by
  have hsplit : splitScheme ("tcp://" ++ authority).toList =
      some (['t', 'c', 'p'], authority.toList) := by
    rw [String.toList_append]
    rfl
  exact decide_eq_true (Option.some.inj (parse_scheme h hsplit)).symm

theorem matches_of_parse_quic (h : parse parseUri ("quic://" ++ authority) = .ok e) :
    e.matchesTransport .quic = true := by
  have hsplit : splitScheme ("quic://" ++ authority).toList =
      some (['q', 'u', 'i', 'c'], authority.toList) := by
    rw [String.toList_append]
    rfl
  exact decide_eq_true (Option.some.inj (parse_scheme h hsplit)).symm

end ProviderEndpoint

def isWhiteSpace (c : Char) : Bool :=
  let n := c.toNat
  (9 ≤ n ∧ n ≤ 13) ∨ n = 0x20 ∨ n = 0x85 ∨ n = 0xa0 ∨ n = 0x1680 ∨ (0x2000 ≤ n ∧ n ≤ 0x200a) ∨
    n = 0x2028 ∨ n = 0x2029 ∨ n = 0x202f ∨ n = 0x205f ∨ n = 0x3000

structure ClientTransportSecurity where
  serverName : String
  trustedCertificateDer : Bytes
  deriving DecidableEq

def ClientTransportSecurity.validate (s : ClientTransportSecurity) :
    Except RouteConfigurationError Unit := do
  ensure (¬s.serverName.toList.all isWhiteSpace = true) RouteConfigurationError.emptyServerName
  ensure (s.trustedCertificateDer ≠ []) RouteConfigurationError.emptyTrustedCertificate

structure ServerTransportSecurity where
  (certificateDer privateKeyPkcs8Der : Bytes)
  deriving DecidableEq

def ServerTransportSecurity.validate (s : ServerTransportSecurity) :
    Except RouteConfigurationError Unit := do
  ensure (s.certificateDer ≠ []) RouteConfigurationError.emptyCertificate
  ensure (s.privateKeyPkcs8Der ≠ []) RouteConfigurationError.emptyPrivateKey

structure ClientProviderRoute where
  providerEndpoint : Option ProviderEndpoint := none
  security : Option ClientTransportSecurity := none
  deriving DecidableEq

structure ServerProviderRoute where
  providerEndpoint : Option ProviderEndpoint := none
  security : Option ServerTransportSecurity := none
  deriving DecidableEq

def validateIfGiven {σ : Type} (validate : σ → Except RouteConfigurationError Unit) :
    Option σ → Except RouteConfigurationError Unit
  | some security => validate security
  | none => .ok ()

def ServerProviderRoute.validateFor (r : ServerProviderRoute) (transportId : TransportId) :
    Except RouteConfigurationError Unit := do
  ensure (∀ endpoint ∈ r.providerEndpoint, endpoint.matchesTransport transportId = true)
    RouteConfigurationError.unsupportedProviderScheme
  validateIfGiven ServerTransportSecurity.validate r.security

abbrev ClientProviderRoutes := BTreeMap TransportId ClientProviderRoute
abbrev ServerProviderRoutes := BTreeMap TransportId ServerProviderRoute

end Nnrp.Route
