import Nnrp.ProviderConnect

/-!
# Secure endpoints are not downgraded

Every call that connects a client or binds a server goes to a provider whose transport the policy
allows, with an endpoint of that transport. Under an `nnrps` application endpoint it carries the
credentials that the transport needs, and it is never made for a local socket.
-/

namespace Nnrp.Route
open OrderedMap Selection Fallible StableSort Packet List EvaluatedCandidate

variable {ds : List TransportProviderDescriptor} {d : TransportProviderDescriptor}
  {application : NnrpEndpoint} {e : TransportSelectionError}

section
variable {ps : List TransportProviderDescriptor} {opts : TransportSelectionOptions}
  {c : EvaluatedCandidate}

structure Admitted (providers : List TransportProviderDescriptor) (policy : TransportPolicy)
    (d : TransportProviderDescriptor) : Prop where
  mem : d ∈ providers
  allowed : policy.allows d.transportId = true
  available : d.available = true

theorem admitted_of_eligible (hc : c ∈ candidatesOf ps opts)
    (he : c.eligible = true) : Admitted ps opts.policy c.descriptor := by
  obtain ⟨d, hd, rfl⟩ := mem_map.mp hc
  have hmem := (mem_filter.mp hd).1
  simp only [eligible, evaluateCandidate, Option.isNone_iff_eq_none] at he
  split_ifs at he with hallowed havail
  exact ⟨hmem, hallowed, havail⟩

theorem candidatesOf_diagnostic (hc : c ∈ candidatesOf ps opts) :
    c.diagnostic.provider = c.descriptor.metadata ∧ c.diagnostic.probeState = .notRun := by
  obtain ⟨d, hd, rfl⟩ := mem_map.mp hc
  exact ⟨rfl, rfl⟩

theorem admitted_of_filter_eq (h : (candidatesOf ps opts).filter eligible = [c]) :
    Admitted ps opts.policy c.descriptor := by
  have hmem : c ∈ (candidatesOf ps opts).filter eligible := by
    rw [h]
    exact mem_singleton_self c
  obtain ⟨hc, he⟩ := mem_filter.mp hmem
  exact admitted_of_eligible hc he

variable {sel : TransportSelection}

theorem selectTransport_admitted (h : selectTransport ps opts = .ok sel) :
    Admitted ps opts.policy sel.selectedProvider := by
  simp only [selectTransport] at h
  obtain ⟨_, -, h⟩ := bind_eq_ok.mp h
  split at h
  · rename_i selected hsel
    cases h
    exact admitted_of_filter_eq hsel
  · cases h

theorem eligible_of_succeeded {c' : EvaluatedCandidate} {os : List TransportProbeObservation}
    (hc : c ∈ candidatesOf ps opts) (h : (if c.eligible then c.observed os else c) = c')
    (hstate : c'.diagnostic.probeState = .succeeded) :
    c'.descriptor = c.descriptor ∧ c.eligible = true := by
  split_ifs at h with he
  · refine ⟨?_, he⟩
    rw [← h, observed]
    split
    · split_ifs <;> rfl
    · rfl
  · rw [← h, (candidatesOf_diagnostic hc).2] at hstate
    cases hstate

theorem selectTransportWithProbe_admitted (h : selectTransportWithProbe ps opts = .ok sel) :
    Admitted ps opts.policy sel.selectedProvider := by
  simp only [selectTransportWithProbe] at h
  obtain ⟨_, -, h⟩ := bind_eq_ok.mp h
  split at h
  · rename_i selected hsel
    cases h
    exact admitted_of_filter_eq hsel
  · split at h
    · rename_i selected rest hsorted
      cases h
      have hmem := mem_cons_self (a := selected) (l := rest)
      rw [← hsorted, mem_sortBy, mem_filter] at hmem
      obtain ⟨hzip, hstate⟩ := hmem
      obtain ⟨c, hc, hobserved⟩ := mem_map.mp (fst_mem_of_mem_zipIdx hzip)
      obtain ⟨hdesc, he⟩ := eligible_of_succeeded hc hobserved (of_decide_eq_true hstate)
      rw [hdesc]
      exact admitted_of_eligible hc he
    · cases h

def NothingRejected (e : TransportSelectionError) : Prop := rejectedCandidates e = []

theorem validateProviders_fails (accepted ps : List TransportProviderDescriptor) :
    FailsWith NothingRejected (validateProviders accepted ps) := by
  induction ps generalizing accepted with
  | nil => exact .ok _
  | cons p ps ih =>
    rw [validateProviders]
    refine .bind (.mapError fun _ => rfl) fun _ => ?_
    refine .bind (.ensure rfl) fun _ => ?_
    refine .bind (.ensure rfl) fun _ => ?_
    exact .bind (.ensure rfl) fun _ => ih _

theorem validateReadiness_fails (keys accepted : List ProviderKey)
    (rs : List TransportCandidateReadiness) :
    FailsWith NothingRejected (validateReadiness keys accepted rs) := by
  induction rs generalizing accepted with
  | nil => exact .ensure rfl
  | cons r rs ih =>
    rw [validateReadiness]
    refine .bind (.ensure rfl) fun _ => ?_
    refine .bind (.ensure rfl) fun _ => ?_
    exact .bind (.ensure rfl) fun _ => ih _

theorem validateSelectionEvidence_fails (rs : List TransportCandidateReadiness) :
    FailsWith NothingRejected (validateSelectionEvidence ps rs []) := by
  refine .bind (validateProviders_fails _ _) fun _ => ?_
  exact .bind (validateReadiness_fails _ _ _) fun _ => .ok _

theorem rejectedCandidates_selectionError (policy : TransportPolicy)
    (cands : List TransportCandidateDiagnostic) :
    rejectedCandidates (selectionError policy cands) = cands := by
  unfold selectionError
  cases policy.forcedTransport <;> rfl

theorem selectTransport_probed
    (h : selectTransport ps opts = .error e) {d : TransportCandidateDiagnostic}
    (hd : d ∈ rejectedCandidates e) (hstate : d.probeState = .missing) :
    ∃ p, Admitted ps opts.policy p ∧ p.metadata.id = d.provider.id := by
  simp only [selectTransport] at h
  rcases bind_eq_error.mp h with h | ⟨_, -, h⟩
  · rw [validateSelectionEvidence_fails _ e h] at hd
    cases hd
  · split at h
    · cases h
    · cases h
      rw [rejectedCandidates_selectionError, orderedDiagnostics, mem_map] at hd
      obtain ⟨c', hc', rfl⟩ := hd
      obtain ⟨c, hc, rfl⟩ := mem_map.mp (mem_sortBy.mp hc')
      split_ifs at hstate ⊢ with he
      · refine ⟨c.descriptor, admitted_of_eligible hc he, ?_⟩
        rw [← (candidatesOf_diagnostic hc).1]
        rfl
      · rw [(candidatesOf_diagnostic hc).2] at hstate
        cases hstate

end

variable {κ τ β : Type} {parseUri : String → Option Uri}
  {duplicateTransport : TransportId → ProviderError} {duplicateId : String → ProviderError}

theorem rejectDuplicates_nodup {accepted : List TransportProviderDescriptor}
    (h : rejectDuplicates duplicateTransport duplicateId accepted ds = .ok ())
    (hacc : (accepted.map (·.metadata.id)).Nodup) :
    ((accepted ++ ds).map (·.metadata.id)).Nodup := by
  induction ds generalizing accepted with
  | nil => simpa using hacc
  | cons d ds ih =>
    rw [rejectDuplicates] at h
    obtain ⟨_, -, h⟩ := bind_eq_ok.mp h
    obtain ⟨_, hid, h⟩ := bind_eq_ok.mp h
    rw [ensure_eq_ok] at hid
    have hnext : ((accepted ++ [d]).map (·.metadata.id)).Nodup := by
      rw [map_append, map_singleton, nodup_append]
      refine ⟨hacc, nodup_singleton _, forall_mem_map.mpr fun q hq => ?_⟩
      exact forall_mem_singleton.mpr (hid q hq)
    rw [append_cons]
    exact ih h hnext

theorem mem_addUninstalled {routes : ClientProviderRoutes}
    (h : d ∈ addUninstalledRouteDescriptors ds routes) : d ∈ ds ∨ d.available = false := by
  rw [addUninstalledRouteDescriptors] at h
  generalize routes.keys = keys at h
  induction keys generalizing ds with
  | nil => exact .inl h
  | cons t ts ih =>
    rw [foldl_cons] at h
    rcases ih h with h | h
    · split_ifs at h
      · exact .inl h
      · rcases mem_append.mp h with h | h
        · exact .inl h
        · rw [mem_singleton] at h
          exact .inr (h ▸ rfl)
    · exact .inr h

variable {route : ResolvedClientRoute}

theorem resolvedRoutes_get {os : NnrpClientOptions κ} {id : String}
    (h : (resolvedRoutes parseUri os ds)[id]? = some route) :
    ∃ d ∈ ds, d.metadata.id = id ∧ resolveCandidate parseUri os.endpoint
      os.providerRoutes[d.transportId]? d = .ok route := by
  rw [resolvedRoutes] at h
  induction ds using reverseRecOn with
  | nil => simp at h
  | append_singleton ds last ih =>
    rw [foldl_append, foldl_cons, foldl_nil] at h
    have hearlier : ∀ {P : TransportProviderDescriptor → Prop}, (∃ d ∈ ds, P d) →
        ∃ d ∈ ds ++ [last], P d := fun ⟨d, hd, hP⟩ => ⟨d, mem_append_left _ hd, hP⟩
    split at h
    · rename_i resolved hresolved
      rw [get_insert] at h
      split_ifs at h with hid
      · cases h
        exact ⟨last, mem_append_right _ (mem_singleton_self _), hid, hresolved⟩
      · exact hearlier (ih h)
    · exact hearlier (ih h)

/-- The security that an `nnrps` application endpoint asks of a call to a provider. -/
def Protected {σ : Type} (valid : σ → Prop) (d : TransportProviderDescriptor)
    (endpoint : ProviderEndpoint) (security : Option σ) : Prop :=
  match d.transportId with
  | .tcp | .quic => ∃ s, security = some s ∧ valid s
  | .webSocket =>
    endpoint.isSecure = true ∧ (d.kind ≠ .wasm → ∃ s, security = some s ∧ valid s)
  | .ipc | .unspecified => False

theorem exists_valid {σ δ : Type} {validate : σ → Except RouteConfigurationError Unit}
    {f : RouteConfigurationError → δ} {security : Option σ} {u : Unit}
    (h : (validateIfGiven validate security).mapError f = .ok u) (hne : security ≠ none) :
    ∃ s, security = some s ∧ validate s = .ok () := by
  obtain ⟨s, rfl⟩ := Option.ne_none_iff_exists'.mp hne
  exact ⟨s, rfl, mapError_eq_ok.mp h⟩

variable {endpoint : ProviderEndpoint} {t : TransportId}

theorem deriveProviderEndpoint_matches
    (h : deriveProviderEndpoint parseUri application t = .ok endpoint) :
    endpoint.matchesTransport t = true := by
  simp only [deriveProviderEndpoint] at h
  split_ifs at h
  cases t with
  | tcp => exact ProviderEndpoint.matches_of_parse_tcp h
  | quic => exact ProviderEndpoint.matches_of_parse_quic h
  | ipc | webSocket | unspecified => cases h

theorem validateSecurity_protected {security : Option ClientTransportSecurity}
    (h : validateSecurity application endpoint security d = .ok ())
    (hsome : security ≠ none → ∃ s, security = some s ∧ s.validate = .ok ())
    (hsecure : application.isSecure = true)
    (hmatches : endpoint.matchesTransport d.transportId = true) :
    Protected (fun s => s.validate = .ok ()) d endpoint security := by
  rw [validateSecurity] at h
  rw [Protected]
  cases ht : d.transportId with
  | quic =>
    rw [ht] at h
    exact hsome (ensure_eq_ok.mp h)
  | tcp =>
    rw [ht] at h
    exact hsome fun hnone => ensure_eq_ok.mp h ⟨hsecure, hnone⟩
  | ipc =>
    rw [ht] at h
    obtain ⟨_, -, h⟩ := bind_eq_ok.mp h
    exact ensure_eq_ok.mp h hsecure
  | webSocket =>
    rw [ht] at h
    obtain ⟨_, -, h⟩ := bind_eq_ok.mp h
    obtain ⟨_, hwss, h⟩ := bind_eq_ok.mp h
    obtain ⟨_, -, h⟩ := bind_eq_ok.mp h
    have hendpoint : endpoint.isSecure = true := by
      by_contra hplain
      exact ensure_eq_ok.mp hwss ⟨hsecure, hplain⟩
    refine ⟨hendpoint, fun hkind => hsome fun hnone => ?_⟩
    exact ensure_eq_ok.mp h ⟨hkind, hendpoint, hnone⟩
  | unspecified =>
    rw [ht] at hmatches
    cases hmatches

structure RouteChecked (application : NnrpEndpoint) (d : TransportProviderDescriptor)
    (route : ResolvedClientRoute) : Prop where
  available : d.available = true
  matched : route.endpoint.matchesTransport d.transportId = true
  secured : application.isSecure = true →
    Protected (fun s => s.validate = .ok ()) d route.endpoint route.security

theorem resolveCandidate_checked {configured : Option ClientProviderRoute}
    (h : resolveCandidate parseUri application configured d = .ok route) :
    RouteChecked application d route := by
  simp only [resolveCandidate] at h
  obtain ⟨_, havail, h⟩ := bind_eq_ok.mp h
  obtain ⟨_, hmatches, h⟩ := bind_eq_ok.mp h
  obtain ⟨_, hval, h⟩ := bind_eq_ok.mp h
  obtain ⟨endpoint, hendpoint, h⟩ := bind_eq_ok.mp h
  obtain ⟨_, hsec, h⟩ := bind_eq_ok.mp h
  cases h
  have hmatched : endpoint.matchesTransport d.transportId = true := by
    have hendpoint := mapError_eq_ok.mp hendpoint
    rw [candidateEndpoint] at hendpoint
    cases hp : (configured.getD {}).providerEndpoint with
    | some explicit =>
      rw [hp] at hendpoint
      cases hendpoint
      exact ensure_eq_ok.mp hmatches _ hp
    | none =>
      rw [hp] at hendpoint
      exact deriveProviderEndpoint_matches hendpoint
  refine ⟨ensure_eq_ok.mp havail, hmatched, fun hsecure => ?_⟩
  exact validateSecurity_protected (mapError_eq_ok.mp hsec) (exists_valid hval) hsecure hmatched

/-- A call goes to an installed provider that the policy allows, with an endpoint of its transport,
and is secured if the application endpoint is. -/
structure CallChecked {σ : Type} (valid : σ → Prop) (installed : List TransportProviderDescriptor)
    (policy : TransportPolicy) (application : NnrpEndpoint) (d : TransportProviderDescriptor)
    (endpoint : ProviderEndpoint) (security : Option σ) : Prop where
  mem : d ∈ installed
  allowed : policy.allows d.transportId = true
  matched : endpoint.matchesTransport d.transportId = true
  secured : application.isSecure = true → Protected valid d endpoint security

section
variable {os : NnrpClientOptions κ} {providers : List (ClientProvider τ)}
  {p : ClientProvider τ}
variable {call : ConnectCall}

abbrev ConnectCall.Checked (call : ConnectCall) (options : NnrpClientOptions κ)
    (providers : List (ClientProvider τ)) : Prop :=
  CallChecked (fun s => s.validate = .ok ()) (providers.map ClientProvider.descriptor)
    options.transportPolicy options.endpoint call.provider call.endpoint call.security

section
variable {descs : List TransportProviderDescriptor}
  (hdescriptors : descs = addUninstalledRouteDescriptors
    (providers.map ClientProvider.descriptor) os.providerRoutes)
  (hnodup : ((providers.map ClientProvider.descriptor).map (·.metadata.id)).Nodup)
include hdescriptors hnodup

theorem providerRoute_checked (hd : Admitted descs os.transportPolicy d)
    (h : providerRoute providers (resolvedRoutes parseUri os descs) d.metadata.id =
      some (p, route)) : (route.call p).Checked os providers := by
  have hinstalled : ∀ q ∈ descs, q.available = true →
      q ∈ providers.map ClientProvider.descriptor := by
    intro q hq havail
    rw [hdescriptors] at hq
    refine (mem_addUninstalled hq).resolve_right ?_
    rw [havail]
    exact Bool.noConfusion
  obtain ⟨_, hfound, h⟩ := Option.bind_eq_some_iff.mp h
  obtain ⟨_, hroute, h⟩ := Option.bind_eq_some_iff.mp h
  cases h
  have hp := mem_of_find?_eq_some hfound
  have hid : p.descriptor.metadata.id = d.metadata.id := by simpa using find?_some hfound
  obtain ⟨q, hq, hqid, hresolved⟩ := resolvedRoutes_get hroute
  have hchecked := resolveCandidate_checked hresolved
  have hmem : p.descriptor ∈ providers.map ClientProvider.descriptor := mem_map_of_mem hp
  -- the ids are unique, so all three descriptors are one
  have hinj := inj_on_of_nodup_map hnodup
  have hpd : p.descriptor = d := hinj hmem (hinstalled d hd.mem hd.available) hid
  have hpq : p.descriptor = q :=
    hinj hmem (hinstalled q hq hchecked.available) (hid.trans hqid.symm)
  have hallowed := hd.allowed
  rw [← hpd] at hallowed
  rw [← hpq] at hchecked
  exact ⟨hmem, hallowed, hchecked.matched, hchecked.secured⟩

theorem connectSelected_checked {sel : TransportSelection}
    (hsel : Admitted descs os.transportPolicy sel.selectedProvider)
    (h : call ∈ (connectSelected os providers (resolvedRoutes parseUri os descs)
      sel).1) : call.Checked os providers := by
  simp only [connectSelected] at h
  split at h
  · cases h
  · rename_i hroute
    rw [mem_singleton] at h
    rw [h]
    exact providerRoute_checked hdescriptors hnodup hsel hroute

theorem probeCandidates_checked
    (he : selectTransport descs (selectionOptions parseUri os descs []) = .error e)
    (h : call ∈ (probeCandidates providers (resolvedRoutes parseUri os descs) e).1) :
    call.Checked os providers := by
  obtain ⟨x, hx, rfl⟩ := mem_map.mp h
  obtain ⟨c, hc, hroute⟩ := mem_filterMap.mp hx
  obtain ⟨hmem, hstate⟩ := mem_filter.mp hc
  obtain ⟨d, hd, hid⟩ := selectTransport_probed he hmem (of_decide_eq_true hstate)
  rw [← hid] at hroute
  exact providerRoute_checked hdescriptors hnodup hd hroute

end

theorem connectClient_checked (h : call ∈ (connectClient parseUri os providers).1) :
    call.Checked os providers := by
  simp only [connectClient] at h
  split at h
  · cases h
  · rename_i hunique
    have hnodup := rejectDuplicates_nodup hunique nodup_nil
    split at h
    · rename_i hselect
      exact connectSelected_checked rfl hnodup (selectTransport_admitted hselect) h
    · rename_i e hselect
      split_ifs at h
      · split at h
        · rename_i hprobed
          rcases mem_append.mp h with h | h
          · exact probeCandidates_checked rfl hnodup hselect h
          · exact connectSelected_checked rfl hnodup (selectTransportWithProbe_admitted hprobed) h
        · exact probeCandidates_checked rfl hnodup hselect h
      · cases h

end

section
variable {options : NnrpServerOptions} {providers : List (ServerProvider β)}
variable {call : BindCall}

abbrev BindCall.Checked (call : BindCall) (options : NnrpServerOptions)
    (installed : List TransportProviderDescriptor) : Prop :=
  CallChecked (fun s => s.validate = .ok ()) installed options.transportPolicy options.endpoint
    call.provider call.endpoint call.security

theorem resolveServerEndpoint_matches {route : ServerProviderRoute}
    (h : resolveServerEndpoint parseUri application t route = .ok endpoint) :
    endpoint.matchesTransport t = true := by
  simp only [resolveServerEndpoint] at h
  obtain ⟨_, hval, h⟩ := bind_eq_ok.mp h
  cases hp : route.providerEndpoint with
  | some explicit =>
    rw [hp] at h
    cases h
    have hval := mapError_eq_ok.mp hval
    rw [ServerProviderRoute.validateFor] at hval
    obtain ⟨_, hmatches, -⟩ := bind_eq_ok.mp hval
    exact ensure_eq_ok.mp hmatches _ hp
  | none =>
    rw [hp] at h
    simp only [deriveServerEndpoint] at h
    split_ifs at h
    cases t with
    | tcp => exact ProviderEndpoint.matches_of_parse_tcp (mapError_eq_ok.mp h)
    | quic => exact ProviderEndpoint.matches_of_parse_quic (mapError_eq_ok.mp h)
    | ipc | webSocket | unspecified => cases h

theorem validateServerSecurity_protected {security : Option ServerTransportSecurity}
    (h : validateServerSecurity application endpoint security d.transportId = .ok .eligible)
    (hsecure : application.isSecure = true)
    (hmatches : endpoint.matchesTransport d.transportId = true) :
    Protected (fun s => s.validate = .ok ()) d endpoint security := by
  rw [validateServerSecurity] at h
  obtain ⟨_, hval, h⟩ := bind_eq_ok.mp h
  obtain ⟨_, -, h⟩ := bind_eq_ok.mp h
  obtain ⟨_, -, h⟩ := bind_eq_ok.mp h
  have helig := Except.ok.inj h
  have hsome := exists_valid hval
  rw [Protected]
  cases ht : d.transportId with
  | quic =>
    rw [ht, serverEligibility] at helig
    split_ifs at helig with hnone
    exact hsome hnone
  | tcp =>
    rw [ht, serverEligibility] at helig
    split_ifs at helig with hnone
    exact hsome fun h => hnone ⟨hsecure, h⟩
  | ipc =>
    rw [ht, serverEligibility, if_pos hsecure] at helig
    cases helig
  | webSocket =>
    rw [ht, serverEligibility] at helig
    split_ifs at helig with hplain hnone
    have hendpoint : endpoint.isSecure = true := by
      by_contra hinsecure
      exact hplain ⟨hsecure, hinsecure⟩
    exact ⟨hendpoint, fun _ => hsome fun h => hnone ⟨hendpoint, h⟩⟩
  | unspecified =>
    rw [ht] at hmatches
    cases hmatches

variable {installed : List TransportProviderDescriptor}

theorem planProvider_checked (h : planProvider parseUri options d = .ok (.call call))
    (hd : d ∈ installed) (hallowed : options.transportPolicy.allows d.transportId = true) :
    call.Checked options installed := by
  simp only [planProvider] at h
  split_ifs at h
  all_goals try cases h
  all_goals
    obtain ⟨endpoint, hendpoint, h⟩ := bind_eq_ok.mp h
    obtain ⟨security, hsec, h⟩ := bind_eq_ok.mp h
    have hmatches := resolveServerEndpoint_matches hendpoint
    cases security with
    | ineligible diag => cases h
    | eligible =>
      cases h
      exact ⟨hd, hallowed, hmatches, fun hsecure =>
        validateServerSecurity_protected hsec hsecure hmatches⟩

theorem bindProviders_checked {calls : List BindCall} {listeners : List (BoundServerProvider β)}
    (hprovs : ∀ p ∈ providers, p.descriptor ∈ installed ∧
      options.transportPolicy.allows p.descriptor.transportId = true)
    (hcalls : ∀ call ∈ calls, call.Checked options installed)
    (h : call ∈ (bindProviders parseUri options calls listeners providers).1) :
    call.Checked options installed := by
  induction providers generalizing calls listeners with
  | nil => exact hcalls call h
  | cons p ps ih =>
    obtain ⟨⟨hmem, hallowed⟩, hrest⟩ := forall_mem_cons.mp hprovs
    rw [bindProviders] at h
    cases hplan : planProvider parseUri options p.descriptor with
    | error e =>
      rw [hplan] at h
      exact hcalls call h
    | ok plan =>
      rw [hplan] at h
      cases plan with
      | skip => exact ih hrest hcalls h
      | call next =>
        have hnext : ∀ call ∈ calls ++ [next], call.Checked options installed := by
          refine forall_mem_append.mpr ⟨hcalls, forall_mem_singleton.mpr ?_⟩
          exact planProvider_checked hplan hmem hallowed
        cases hbind : p.bind with
        | error e =>
          rw [hbind] at h
          exact hnext call h
        | ok bound =>
          simp only [hbind] at h
          split_ifs at h
          · exact hnext call h
          · exact ih hrest hnext h

theorem bindServer_checked (h : call ∈ (bindServer parseUri options providers).1) :
    call.Checked options (providers.map ServerProvider.descriptor) := by
  have hprovs : ∀ p ∈ sortBy (fun left right : ServerProvider β => compareProviderOrder
      options.transportPolicy left.descriptor right.descriptor) (providers.filter fun p =>
        options.transportPolicy.allows p.descriptor.transportId),
      p.descriptor ∈ providers.map ServerProvider.descriptor ∧
        options.transportPolicy.allows p.descriptor.transportId = true := by
    intro p hp
    rw [mem_sortBy, mem_filter] at hp
    exact ⟨mem_map_of_mem hp.1, hp.2⟩
  have hnone : ∀ call ∈ ([] : List BindCall),
      call.Checked options (providers.map ServerProvider.descriptor) :=
    fun _ hcall => absurd hcall not_mem_nil
  simp only [bindServer] at h
  split at h
  · cases h
  · split at h
    · cases h
    · split at h
      · rename_i calls hbind
        have hcalls := congrArg Prod.fst hbind
        exact bindProviders_checked hprovs hnone (hcalls ▸ h)
      · exact bindProviders_checked hprovs hnone h

end

/-- No call of either side is made with less security than the application endpoint asks for. -/
theorem calls_never_downgraded (parseUri : String → Option Uri) :
    (∀ (options : NnrpClientOptions κ) (providers : List (ClientProvider τ)),
      ∀ call ∈ (connectClient parseUri options providers).1,
        CallChecked (fun s => s.validate = .ok ()) (providers.map ClientProvider.descriptor)
          options.transportPolicy options.endpoint call.provider call.endpoint call.security) ∧
    (∀ (options : NnrpServerOptions) (providers : List (ServerProvider β)),
      ∀ call ∈ (bindServer parseUri options providers).1,
        CallChecked (fun s => s.validate = .ok ()) (providers.map ServerProvider.descriptor)
          options.transportPolicy options.endpoint call.provider call.endpoint call.security) :=
  ⟨fun _ _ _ h => connectClient_checked h, fun _ _ _ h => bindServer_checked h⟩

def sampleUri (value : String) : Option Uri :=
  some ⟨if value = "nnrps://runtime.example:4433/session" then some "nnrps" else some "tcp",
    some ⟨"runtime.example:4433", some 4433⟩⟩

def sampleEndpoint : NnrpEndpoint where
  value := "nnrps://runtime.example:4433/session"
  scheme := .nnrps
  authority := ⟨"runtime.example:4433", some 4433⟩
  fragmentFree := by decide +kernel
  credentialFree := by decide +kernel

def sampleProvider (transportId : TransportId) : ClientProvider Unit where
  descriptor := .installed "sample" "1" transportId .pureRust
  probeRefused := none
  exchange probeId :=
    ⟨40, .ok ⟨CommonHeader.new .transportProbeAck 16 0,
      ByteOrder.leBytes 4 probeId ++ replicate 12 0, []⟩⟩
  connect := .ok ()

def sampleClientOptions : NnrpClientOptions Unit where
  endpoint := sampleEndpoint
  providerRoutes :=
    ((∅ : ClientProviderRoutes).insert .tcp ⟨none, some ⟨"runtime.example", [1]⟩⟩).insert .quic
      ⟨none, some ⟨"runtime.example", [1]⟩⟩
  transportPolicy := .auto
  sessionDefaults := ()

def sampleServerOptions : NnrpServerOptions where
  endpoint := sampleEndpoint
  providerRoutes := (∅ : ServerProviderRoutes).insert .tcp ⟨none, some ⟨[1], [2]⟩⟩
  transportPolicy := .preferTcp

def sampleListener : ServerProvider Unit where
  descriptor := .installed "sample" "1" .tcp .pureRust
  bind := .ok ⟨.tcp, ()⟩

theorem calls_never_downgraded_probed :
    NnrpEndpoint.parse sampleUri "nnrps://runtime.example:4433/session" = .ok sampleEndpoint ∧
    ((connectClient sampleUri sampleClientOptions
        [sampleProvider .tcp, sampleProvider .quic]).1.map fun call => call.provider.transportId) =
      [.quic, .tcp, .quic] ∧ (∀ call ∈ (connectClient sampleUri sampleClientOptions
        [sampleProvider .tcp, sampleProvider .quic]).1,
      Protected (fun s => s.validate = .ok ()) call.provider call.endpoint call.security) ∧
    ∃ call ∈ (bindServer sampleUri sampleServerOptions [sampleListener]).1,
      Protected (fun s => s.validate = .ok ()) call.provider call.endpoint call.security := by
  obtain ⟨hclient, hserver⟩ := calls_never_downgraded (κ := Unit) (τ := Unit) (β := Unit) sampleUri
  refine ⟨by decide +kernel, by decide +kernel,
    fun call hcall => (hclient _ _ call hcall).secured rfl, ?_⟩
  have hbound : (bindServer sampleUri sampleServerOptions [sampleListener]).1 =
      [⟨sampleListener.descriptor, ⟨.tcp, "runtime.example:4433".toList⟩, some ⟨[1], [2]⟩,
        defaultMaxPacketBytes⟩] := by decide +kernel
  refine ⟨_, hbound ▸ mem_singleton_self _, ?_⟩
  refine (hserver sampleServerOptions [sampleListener] _ ?_).secured rfl
  rw [hbound]
  exact mem_singleton_self _

end Nnrp.Route
