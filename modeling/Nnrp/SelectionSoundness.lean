import Nnrp.TransportSelection

/-!
# What the transport selection chooses

Evidence is valid if the providers have transports and names of their own, every provider has
exactly one record of its readiness, and every observation is of one provider and carries metrics
exactly if the probe succeeded. With such evidence a selection finds a provider that qualifies
whenever there is one that needs no probe or has passed one.
-/

namespace Nnrp.Selection
open Fallible StableSort List EvaluatedCandidate

structure ValidEvidence (providers : List TransportProviderDescriptor)
    (readiness : List TransportCandidateReadiness)
    (observations : List TransportProbeObservation) : Prop where
  metadata : ∀ p ∈ providers, validateProviderMetadata p.metadata = .ok ()
  selectable : ∀ p ∈ providers, p.transportId.isSelectable = true
  transports : (providers.map (·.transportId)).Nodup
  ids : (providers.map (·.metadata.id)).Nodup
  readinessOf : ∀ r ∈ readiness, ∃ p ∈ providers, p.key = r.key
  readinessKeys : (readiness.map TransportCandidateReadiness.key).Nodup
  ready : ∀ p ∈ providers, ∃ r ∈ readiness, r.key = p.key
  observationOf : ∀ o ∈ observations, ∃ p ∈ providers, p.key = o.key
  observationKeys : (observations.map TransportProbeObservation.key).Nodup
  observed : ∀ o ∈ observations, validateObservation o = .ok ()

section
variable {α : Type} {accepted keys : List α} {key : α}

def Fresh (accepted keys : List α) : Prop := keys.Nodup ∧ ∀ key ∈ keys, key ∉ accepted

theorem fresh_nil : Fresh accepted [] := ⟨nodup_nil, fun _ h => absurd h not_mem_nil⟩

theorem fresh_first : Fresh [] keys ↔ keys.Nodup :=
  and_iff_left fun _ _ => not_mem_nil

theorem fresh_cons :
    Fresh accepted (key :: keys) ↔ key ∉ accepted ∧ Fresh (accepted ++ [key]) keys := by
  simp only [Fresh, nodup_cons, forall_mem_cons, mem_append, mem_singleton,
    not_or]
  constructor
  · rintro ⟨⟨hkey, hnodup⟩, hacc, hkeys⟩
    exact ⟨hacc, hnodup, fun k hk => ⟨hkeys k hk, fun h => hkey (h ▸ hk)⟩⟩
  · rintro ⟨hacc, hnodup, hkeys⟩
    exact ⟨⟨fun h => (hkeys key h).2 rfl, hnodup⟩, hacc, fun k hk => (hkeys k hk).1⟩

end

theorem validateProviders_iff (accepted ps : List TransportProviderDescriptor) :
    validateProviders accepted ps = .ok () ↔
      (∀ p ∈ ps, validateProviderMetadata p.metadata = .ok () ∧ p.transportId.isSelectable = true) ∧
        Fresh (accepted.map (·.transportId)) (ps.map (·.transportId)) ∧
        Fresh (accepted.map (·.metadata.id)) (ps.map (·.metadata.id)) := by
  induction ps generalizing accepted with
  | nil => simp [validateProviders, fresh_nil]
  | cons p ps ih =>
    simp only [validateProviders, bind_unit_eq_ok, mapError_eq_ok, ensure_eq_ok, ih, map_cons,
      fresh_cons, map_append, map_nil, forall_mem_cons, mem_map, not_exists,
      not_and]
    constructor
    · rintro ⟨hmeta, hselectable, htr, hid, hall, htrs, hids⟩
      exact ⟨⟨⟨hmeta, hselectable⟩, hall⟩, ⟨htr, htrs⟩, ⟨hid, hids⟩⟩
    · rintro ⟨⟨⟨hmeta, hselectable⟩, hall⟩, ⟨htr, htrs⟩, ⟨hid, hids⟩⟩
      exact ⟨hmeta, hselectable, htr, hid, hall, htrs, hids⟩

def ValidId (id : String) : Prop := ¬(id = "" ∨ ¬isAscii id = true)

theorem validateReadiness_iff (keys accepted : List ProviderKey)
    (rs : List TransportCandidateReadiness) : validateReadiness keys accepted rs = .ok () ↔
      (∀ r ∈ rs, ValidId r.providerId ∧ r.key ∈ keys) ∧
        Fresh accepted (rs.map TransportCandidateReadiness.key) ∧
        ∀ key ∈ keys, key ∈ accepted ++ rs.map TransportCandidateReadiness.key := by
  induction rs generalizing accepted with
  | nil => simp [validateReadiness, fresh_nil]
  | cons r rs ih =>
    simp only [validateReadiness, bind_unit_eq_ok, ensure_eq_ok, ih, map_cons, fresh_cons,
      forall_mem_cons, append_assoc, singleton_append, ValidId]
    constructor
    · rintro ⟨hid, hmem, hnew, hall, hfresh, hkeys⟩
      exact ⟨⟨⟨hid, hmem⟩, hall⟩, ⟨hnew, hfresh⟩, hkeys⟩
    · rintro ⟨⟨⟨hid, hmem⟩, hall⟩, ⟨hnew, hfresh⟩, hkeys⟩
      exact ⟨hid, hmem, hnew, hall, hfresh, hkeys⟩

theorem validateObservations_iff (keys accepted : List ProviderKey)
    (os : List TransportProbeObservation) : validateObservations keys accepted os = .ok () ↔
      (∀ o ∈ os, ValidId o.providerId ∧ o.key ∈ keys ∧ validateObservation o = .ok ()) ∧
        Fresh accepted (os.map TransportProbeObservation.key) := by
  induction os generalizing accepted with
  | nil => simp [validateObservations, fresh_nil]
  | cons o os ih =>
    simp only [validateObservations, bind_unit_eq_ok, ensure_eq_ok, ih, map_cons, fresh_cons,
      forall_mem_cons, ValidId]
    constructor
    · rintro ⟨hid, hmem, hnew, hvalid, hall, hfresh⟩
      exact ⟨⟨⟨hid, hmem, hvalid⟩, hall⟩, hnew, hfresh⟩
    · rintro ⟨⟨⟨hid, hmem, hvalid⟩, hall⟩, hnew, hfresh⟩
      exact ⟨hid, hmem, hnew, hvalid, hall, hfresh⟩

variable {transportId : TransportId}

theorem find_key {β : Type} {key : β → ProviderKey} {records : List β} {r : β}
    {id : String} (hkeys : (records.map key).Nodup)
    (hmem : r ∈ records) (hkey : key r = (transportId, id)) :
    records.find? (fun r => (key r).1 = transportId ∧ (key r).2 = id) = some r := by
  cases hfound : records.find? (fun r =>
      (key r).1 = transportId ∧ (key r).2 = id) with
  | none =>
    have hnone := find?_eq_none.mp hfound r hmem
    rw [hkey] at hnone
    simp at hnone
  | some found =>
    have htest := find?_some hfound
    rw [decide_eq_true_iff] at htest
    have hsame : key found = key r := by
      rw [hkey]
      exact Prod.ext htest.1 htest.2
    rw [inj_on_of_nodup_map hkeys (mem_of_find?_eq_some hfound) hmem hsame]

variable {providers : List TransportProviderDescriptor} {options : TransportSelectionOptions}
  {readiness : List TransportCandidateReadiness} {observations : List TransportProbeObservation}
  {p q : TransportProviderDescriptor}

theorem validateSelectionEvidence_iff :
    validateSelectionEvidence providers readiness observations = .ok () ↔
      ValidEvidence providers readiness observations := by
  have hkey {key : ProviderKey} :
      key ∈ providers.map TransportProviderDescriptor.key ↔ ∃ p ∈ providers, p.key = key :=
    mem_map
  simp only [validateSelectionEvidence, bind_unit_eq_ok, validateProviders_iff,
    validateReadiness_iff, validateObservations_iff, map_nil, fresh_first, nil_append]
  constructor
  · rintro ⟨⟨hprovs, htrs, hids⟩, ⟨hrecords, hreadiness, hready⟩, hobs,
      hobserved⟩
    exact
      { metadata p hp := (hprovs p hp).1
        selectable p hp := (hprovs p hp).2
        transports := htrs
        ids := hids
        readinessOf r hr := hkey.mp (hrecords r hr).2
        readinessKeys := hreadiness
        ready p hp := mem_map.mp (hready p.key (mem_map_of_mem hp))
        observationOf o ho := hkey.mp (hobs o ho).2.1
        observationKeys := hobserved
        observed o ho := (hobs o ho).2.2 }
  · intro h
    have hid {key : ProviderKey} (hmem : ∃ p ∈ providers, p.key = key) : ValidId key.2 := by
      obtain ⟨p, hp, rfl⟩ := hmem
      have hvalid := (bind_unit_eq_ok.mp (h.metadata p hp)).1
      rw [ensure_eq_ok] at hvalid
      exact hvalid
    refine ⟨⟨fun p hp => ⟨h.metadata p hp, h.selectable p hp⟩, h.transports, h.ids⟩,
      ⟨fun r hr => ⟨hid (h.readinessOf r hr), hkey.mpr (h.readinessOf r hr)⟩, h.readinessKeys, ?_⟩,
      fun o ho => ⟨hid (h.observationOf o ho), hkey.mpr (h.observationOf o ho), h.observed o ho⟩,
      h.observationKeys⟩
    intro key hmem
    obtain ⟨p, hp, rfl⟩ := hkey.mp hmem
    exact mem_map.mpr (h.ready p hp)

namespace ValidEvidence

variable (hv : ValidEvidence providers readiness observations)
include hv

theorem without_observations : ValidEvidence providers readiness [] :=
  { hv with
    observationOf := fun _ h => absurd h not_mem_nil
    observationKeys := nodup_nil
    observed := fun _ h => absurd h not_mem_nil }

theorem nodup : providers.Nodup := hv.transports.of_map _

theorem find_readiness {r : TransportCandidateReadiness} (hr : r ∈ readiness)
    (hkey : r.key = p.key) :
    readiness.find? (fun r => r.transportId = p.transportId ∧ r.providerId = p.metadata.id) =
      some r :=
  find_key hv.readinessKeys hr hkey

end ValidEvidence

/-- Nothing but a missing probe can keep the provider from being selected. -/
structure Qualifies (options : TransportSelectionOptions) (p : TransportProviderDescriptor) :
    Prop where
  allowed : options.policy.allows p.transportId = true
  available : p.available = true
  supported : p.transportId ∈ options.peerSupportedTransports
  fits : ∀ requested ∈ options.requestedMaxFrameBytes, requested ≤ p.metadata.maxFrameBytes
  ready : ∃ r ∈ options.candidateReadiness, r.key = p.key ∧ r.routeResolved = true ∧
    r.securitySatisfied = true

/-- A provider that may be selected: it qualifies and, if others do too, its probe succeeded. -/
structure Choice (providers : List TransportProviderDescriptor)
    (options : TransportSelectionOptions) (observations : List TransportProbeObservation)
    (p : TransportProviderDescriptor) : Prop where
  mem : p ∈ providers
  qualifies : Qualifies options p
  probed : (∃ q ∈ providers, q ≠ p ∧ Qualifies options q) →
    ∃ o ∈ observations, o.key = p.key ∧ o.state = .succeeded

def TransportSelectionOptions.candidate (options : TransportSelectionOptions)
    (p : TransportProviderDescriptor) : EvaluatedCandidate :=
  evaluateCandidate (remoteTransportSupport options.peerSupportedTransports) options.policy
    options.requestedMaxFrameBytes options.candidateReadiness p

theorem mem_remoteTransportSupport (transports : List TransportId)
    (h : transportId.isSelectable = true) :
    transportId ∈ remoteTransportSupport transports ↔ transportId ∈ transports := by
  rw [remoteTransportSupport, mem_dedup, mem_sortBy, mem_filter, and_iff_left h]

theorem withinLimits_iff (requestedMaxFrameBytes : Option UInt64) (bound : UInt64) :
    (match requestedMaxFrameBytes with
      | some requested => decide (requested ≤ bound)
      | none => true) = true ↔ ∀ requested ∈ requestedMaxFrameBytes, requested ≤ bound := by
  cases requestedMaxFrameBytes with
  | none | some requested => simp

def eligibleOf (providers : List TransportProviderDescriptor)
    (options : TransportSelectionOptions) : List EvaluatedCandidate :=
  (candidatesOf providers options).filter eligible

theorem single_or_many (providers : List TransportProviderDescriptor)
    (options : TransportSelectionOptions) :
    (∃ c, eligibleOf providers options = [c]) ∨ ∀ c, eligibleOf providers options ≠ [c] := by
  rw [← not_exists]
  exact em _

section
variable (hv : ValidEvidence providers options.candidateReadiness observations)
include hv

theorem eligible_iff (hp : p ∈ providers) :
    (options.candidate p).eligible = true ↔ Qualifies options p := by
  obtain ⟨r, hr, hkey⟩ := hv.ready p hp
  have hfind := hv.find_readiness hr hkey
  have hsupported := mem_remoteTransportSupport options.peerSupportedTransports (hv.selectable p hp)
  have hfits := withinLimits_iff options.requestedMaxFrameBytes p.metadata.maxFrameBytes
  simp only [TransportSelectionOptions.candidate, eligible, evaluateCandidate,
    Option.isNone_iff_eq_none, hfind, Option.any_some, contains_iff_mem, hsupported]
  constructor
  · intro h
    split_ifs at h with hallowed havail hpeer hlimit hroute hsec
    refine ⟨hallowed, havail, hpeer, hfits.mp hlimit, r, hr, hkey, ?_, ?_⟩
    · simpa using hroute
    · simpa using hsec
  · intro h
    obtain ⟨r', hr', hkey', hroute, hsec⟩ := h.ready
    have hsame : r' = r :=
      inj_on_of_nodup_map hv.readinessKeys hr' hr (hkey'.trans hkey.symm)
    subst hsame
    rw [if_neg (not_not.mpr h.allowed), if_neg (not_not.mpr h.available),
      if_neg (not_not.mpr h.supported), hroute, hsec]
    exact if_neg fun hlimit => hlimit (hfits.mpr h.fits)

theorem candidatesOf_eq : candidatesOf providers options = providers.map options.candidate := by
  rw [candidatesOf, evaluateCandidates, filter_eq_self.mpr hv.selectable]
  rfl

variable {c : EvaluatedCandidate}

theorem mem_eligible : c ∈ eligibleOf providers options ↔
      ∃ p ∈ providers, Qualifies options p ∧ options.candidate p = c := by
  rw [eligibleOf, mem_filter, candidatesOf_eq hv, mem_map]
  constructor
  · rintro ⟨⟨p, hp, rfl⟩, he⟩
    exact ⟨p, hp, (eligible_iff hv hp).mp he, rfl⟩
  · rintro ⟨p, hp, hq, rfl⟩
    exact ⟨⟨p, hp, rfl⟩, (eligible_iff hv hp).mpr hq⟩

theorem eligible_nodup : (eligibleOf providers options).Nodup := by
  rw [eligibleOf, candidatesOf_eq hv]
  refine List.Nodup.filter _ (List.Nodup.map (fun p q h => ?_) hv.nodup)
  exact congrArg descriptor h

theorem choice_of_single (hc : eligibleOf providers options = [c])
    (os : List TransportProbeObservation) : Choice providers options os c.descriptor := by
  have hmem {c' : EvaluatedCandidate} : c' = c ↔
      ∃ p ∈ providers, Qualifies options p ∧ options.candidate p = c' := by
    rw [← mem_eligible hv, hc, mem_singleton]
  obtain ⟨p, hp, hq, rfl⟩ := hmem.mp rfl
  refine ⟨hp, hq, ?_⟩
  rintro ⟨q, hqmem, hne, hqualifies⟩
  have hsame : options.candidate q = options.candidate p := hmem.mpr ⟨q, hqmem, hqualifies, rfl⟩
  exact absurd (congrArg descriptor hsame) hne

theorem other_of_not_single (hmany : ∀ c, eligibleOf providers options ≠ [c])
    (hp : p ∈ providers) (hq : Qualifies options p) :
    ∃ q ∈ providers, q ≠ p ∧ Qualifies options q := by
  by_contra hnone
  have hall : ∀ c ∈ eligibleOf providers options,
      c = options.candidate p := by
    intro c hc
    obtain ⟨q, hqmem, hqualifies, rfl⟩ := (mem_eligible hv).mp hc
    by_contra hne
    refine hnone ⟨q, hqmem, fun h => hne ?_, hqualifies⟩
    rw [h]
  have hmem := (mem_eligible hv).mpr ⟨p, hp, hq, rfl⟩
  refine hmany (options.candidate p) (perm_singleton.mp ?_)
  refine (perm_ext_iff_of_nodup (eligible_nodup hv) (nodup_singleton _)).mpr fun c => ?_
  rw [mem_singleton]
  refine ⟨hall c, fun h => ?_⟩
  rw [h]
  exact hmem

end

section
variable (providers : List TransportProviderDescriptor) (options : TransportSelectionOptions)

def observedCandidates : List EvaluatedCandidate :=
  (candidatesOf providers options).map fun c =>
    if c.eligible then c.observed options.probeObservations else c

def successfulCandidates : List (EvaluatedCandidate × ℕ) :=
  sortBy (fun left right => compareCandidates options.policy left.1 right.1)
    ((observedCandidates providers options).zipIdx.filter fun c =>
      c.1.diagnostic.probeState = .succeeded)

def rankedCandidates : List EvaluatedCandidate :=
  (observedCandidates providers options).zipIdx.map fun c =>
    match (successfulCandidates providers options).findIdx? (fun other => other.2 = c.2) with
    | some rank => c.1.ranked rank
    | none => c.1

def probedSelection (selected : EvaluatedCandidate × ℕ) : TransportSelection where
  selectedProvider := selected.1.descriptor
  candidates := orderedDiagnostics (rankedCandidates providers options)
  policy := options.policy
  diagnostic := none

end

def TransportSelectionOptions.observedCandidate (options : TransportSelectionOptions)
    (p : TransportProviderDescriptor) : EvaluatedCandidate :=
  if (options.candidate p).eligible then (options.candidate p).observed options.probeObservations
  else options.candidate p

theorem observed_descriptor (c : EvaluatedCandidate) (os : List TransportProbeObservation) :
    (c.observed os).descriptor = c.descriptor := by
  rw [observed]
  split
  · split_ifs <;> rfl
  · rfl

theorem observedCandidate_descriptor (options : TransportSelectionOptions)
    (p : TransportProviderDescriptor) : (options.observedCandidate p).descriptor = p := by
  rw [TransportSelectionOptions.observedCandidate]
  split_ifs
  · exact observed_descriptor _ _
  · rfl

section
variable (hv : ValidEvidence providers options.candidateReadiness options.probeObservations)
include hv

theorem observedCandidates_eq :
    observedCandidates providers options = providers.map options.observedCandidate := by
  rw [observedCandidates, candidatesOf_eq hv, map_map]
  rfl

theorem observedCandidate_of (hp : p ∈ providers) (hq : Qualifies options p)
    {o : TransportProbeObservation} (ho : o ∈ options.probeObservations) (hkey : o.key = p.key)
    (hstate : o.state = .succeeded) : options.observedCandidate p = { options.candidate p with
        diagnostic := { (options.candidate p).diagnostic with
          probeState := .succeeded, probe := o.metrics, diagnostic := o.diagnostic } } := by
  have hfind : options.probeObservations.find? (fun o =>
      o.transportId = (options.candidate p).descriptor.transportId ∧
        o.providerId = (options.candidate p).descriptor.metadata.id) = some o :=
    find_key hv.observationKeys ho hkey
  rw [TransportSelectionOptions.observedCandidate, if_pos ((eligible_iff hv hp).mpr hq),
    observed]
  simp only [hfind]
  rw [if_pos hstate]

theorem succeeded_iff (hp : p ∈ providers) :
    (options.observedCandidate p).diagnostic.probeState = .succeeded ↔ Qualifies options p ∧
        ∃ o ∈ options.probeObservations, o.key = p.key ∧ o.state = .succeeded := by
  constructor
  · intro h
    rw [TransportSelectionOptions.observedCandidate] at h
    split_ifs at h with he
    · refine ⟨(eligible_iff hv hp).mp he, ?_⟩
      rw [observed] at h
      split at h
      · rename_i o hfound
        have htest := find?_some hfound
        rw [decide_eq_true_iff] at htest
        split_ifs at h with hstate
        exact ⟨o, mem_of_find?_eq_some hfound, Prod.ext htest.1 htest.2, hstate⟩
      · cases h
    · cases h
  · rintro ⟨hq, o, ho, hkey, hstate⟩
    rw [observedCandidate_of hv hp hq ho hkey hstate]

theorem mem_successful {c : EvaluatedCandidate} :
    (∃ i, (c, i) ∈ successfulCandidates providers options) ↔ ∃ p ∈ providers, (Qualifies options p ∧
        ∃ o ∈ options.probeObservations, o.key = p.key ∧ o.state = .succeeded) ∧
          options.observedCandidate p = c := by
  have hmem {i : ℕ} : (c, i) ∈ successfulCandidates providers options ↔
      (c, i) ∈ (observedCandidates providers options).zipIdx ∧
        c.diagnostic.probeState = .succeeded := by
    rw [successfulCandidates, mem_sortBy, mem_filter, decide_eq_true_iff]
  have hindex : (∃ i, (c, i) ∈ (observedCandidates providers options).zipIdx) ↔
      c ∈ observedCandidates providers options := by
    simp [mem_iff_getElem?]
  simp only [hmem, exists_and_right, hindex]
  rw [observedCandidates_eq hv, mem_map]
  constructor
  · rintro ⟨⟨p, hp, rfl⟩, hstate⟩
    exact ⟨p, hp, (succeeded_iff hv hp).mp hstate, rfl⟩
  · rintro ⟨p, hp, hsucceeded, rfl⟩
    exact ⟨⟨p, hp, rfl⟩, (succeeded_iff hv hp).mpr hsucceeded⟩

end

section
variable {sel : TransportSelection} {c : EvaluatedCandidate}

section
variable (hv : ValidEvidence providers options.candidateReadiness [])
include hv

theorem selectTransport_eq :
    selectTransport providers options =
      match eligibleOf providers options with
      | [selected] =>
        .ok (directSelection (candidatesOf providers options) selected options.policy)
      | _ => .error (selectionError options.policy (orderedDiagnostics
          ((candidatesOf providers options).map fun c =>
            if c.eligible then c.withoutProbe else c))) := by
  rw [selectTransport, validateSelectionEvidence_iff.mpr hv]
  rfl

theorem selectTransport_single (hc : eligibleOf providers options = [c]) :
    selectTransport providers options =
      .ok (directSelection (candidatesOf providers options) c options.policy) := by
  rw [selectTransport_eq hv, hc]

theorem selectTransport_many (hmany : ∀ c, eligibleOf providers options ≠ [c]) :
    selectTransport providers options = .error (selectionError options.policy (orderedDiagnostics
        ((candidatesOf providers options).map fun c =>
          if c.eligible then c.withoutProbe else c))) := by
  rw [selectTransport_eq hv]
  split
  · rename_i c hc
    exact absurd hc (hmany c)
  · rfl

theorem selectTransport_cases : (∃ sel, selectTransport providers options = .ok sel ∧
        Choice providers options [] sel.selectedProvider) ∨
      (∃ e, selectTransport providers options = .error e) ∧
        ∀ p, ¬Choice providers options [] p := by
  rw [selectTransport_eq hv]
  split
  · rename_i selected hsel
    exact .inl ⟨_, rfl, choice_of_single hv hsel []⟩
  · rename_i hmany
    refine .inr ⟨⟨_, rfl⟩, fun p hchoice => ?_⟩
    obtain ⟨o, ho, -⟩ := hchoice.probed
      (other_of_not_single hv hmany hchoice.mem hchoice.qualifies)
    exact absurd ho not_mem_nil

end

section
variable (hv : ValidEvidence providers options.candidateReadiness options.probeObservations)
include hv

theorem selectTransportWithProbe_eq :
    selectTransportWithProbe providers options =
      match eligibleOf providers options with
      | [selected] =>
        .ok (directSelection (candidatesOf providers options) selected options.policy)
      | _ =>
        match successfulCandidates providers options with
        | selected :: _ => .ok (probedSelection providers options selected)
        | [] => .error (selectionError options.policy
            (orderedDiagnostics (rankedCandidates providers options))) := by
  rw [selectTransportWithProbe, validateSelectionEvidence_iff.mpr hv]
  rfl

theorem selectTransportWithProbe_single
    (hc : eligibleOf providers options = [c]) : selectTransportWithProbe providers options =
      .ok (directSelection (candidatesOf providers options) c options.policy) := by
  rw [selectTransportWithProbe_eq hv, hc]

theorem selectTransportWithProbe_many (hmany : ∀ c, eligibleOf providers options ≠ [c]) :
    selectTransportWithProbe providers options =
      match successfulCandidates providers options with
      | selected :: _ => .ok (probedSelection providers options selected)
      | [] => .error (selectionError options.policy
          (orderedDiagnostics (rankedCandidates providers options))) := by
  rw [selectTransportWithProbe_eq hv]
  split
  · rename_i c hc
    exact absurd hc (hmany c)
  · rfl

theorem selectTransportWithProbe_cases :
    (∃ sel, selectTransportWithProbe providers options = .ok sel ∧
        Choice providers options options.probeObservations sel.selectedProvider) ∨
      (∃ e, selectTransportWithProbe providers options = .error e) ∧
        ∀ p, ¬Choice providers options options.probeObservations p := by
  rw [selectTransportWithProbe_eq hv]
  split
  · rename_i selected hsel
    exact .inl ⟨_, rfl, choice_of_single hv hsel _⟩
  · rename_i hmany
    split
    · rename_i selected rest hsuccessful
      have hmem : selected ∈ successfulCandidates providers options := by
        rw [hsuccessful]
        exact mem_cons_self
      obtain ⟨p, hp, ⟨hq, hprobed⟩, hcand⟩ := (mem_successful hv).mp ⟨selected.2, hmem⟩
      have hdesc : selected.1.descriptor = p := by
        rw [← hcand]
        exact observedCandidate_descriptor options p
      refine .inl ⟨_, rfl, ?_⟩
      rw [probedSelection, hdesc]
      exact ⟨hp, hq, fun _ => hprobed⟩
    · rename_i hnone
      refine .inr ⟨⟨_, rfl⟩, fun p hchoice => ?_⟩
      have hprobed := hchoice.probed
        (other_of_not_single hv hmany hchoice.mem hchoice.qualifies)
      obtain ⟨i, hmem⟩ := (mem_successful hv).mpr
        ⟨p, hchoice.mem, ⟨hchoice.qualifies, hprobed⟩, rfl⟩
      rw [hnone] at hmem
      exact absurd hmem not_mem_nil

end

theorem selectTransportWithProbe_of_selectTransport
    (h : selectTransport providers options = .ok sel)
    (hv : ValidEvidence providers options.candidateReadiness observations) :
    selectTransportWithProbe providers { options with probeObservations := observations } =
      .ok sel := by
  rw [selectTransport_eq hv.without_observations] at h
  split at h
  · rename_i selected hsel
    rw [selectTransportWithProbe_eq hv]
    have hsame : eligibleOf providers { options with probeObservations := observations } =
        [selected] := hsel
    rw [hsame]
    exact h
  · cases h

theorem forced_of_allows {policy : TransportPolicy} {forced transportId : TransportId}
    (hforced : policy.forcedTransport = some forced) (h : policy.allows transportId = true) :
    transportId = forced := by
  cases policy <;> cases hforced <;> exact of_decide_eq_true h

variable {x : Except TransportSelectionError TransportSelection}
  {P : TransportProviderDescriptor → Prop}

theorem choice_of_ok (hx : (∃ sel, x = .ok sel ∧ P sel.selectedProvider) ∨
      (∃ e, x = .error e) ∧ ∀ p, ¬P p) (h : x = .ok sel) : P sel.selectedProvider := by
  rcases hx with ⟨sel', hok, hp⟩ | ⟨⟨e, he⟩, -⟩
  · rw [h] at hok
    cases hok
    exact hp
  · rw [h] at he
    cases he

theorem error_iff (hx : (∃ sel, x = .ok sel ∧ P sel.selectedProvider) ∨
      (∃ e, x = .error e) ∧ ∀ p, ¬P p) : (∃ e, x = .error e) ↔ ∀ p, ¬P p := by
  rcases hx with ⟨sel, rfl, hp⟩ | ⟨herror, hnone⟩
  · refine iff_of_false (fun herror => ?_) fun h => h _ hp
    obtain ⟨e, he⟩ := herror
    cases he
  · exact iff_of_true herror hnone

end

theorem selection_sound_and_complete (providers : List TransportProviderDescriptor)
    (options : TransportSelectionOptions) :
    (∀ selection, selectTransport providers options = .ok selection →
      Choice providers options [] selection.selectedProvider) ∧
    (∀ selection, selectTransportWithProbe providers options = .ok selection →
      Choice providers options options.probeObservations selection.selectedProvider) ∧
    (ValidEvidence providers options.candidateReadiness [] →
      ((∃ e, selectTransport providers options = .error e) ↔ ∀ p, ¬Choice providers options [] p)) ∧
    (ValidEvidence providers options.candidateReadiness options.probeObservations →
      ((∃ e, selectTransportWithProbe providers options = .error e) ↔
        ∀ p, ¬Choice providers options options.probeObservations p)) ∧
    (∀ selection forced, options.policy.forcedTransport = some forced →
      selectTransport providers options = .ok selection ∨
        selectTransportWithProbe providers options = .ok selection →
      selection.selectedProvider.transportId = forced) ∧
    ∀ selection observations, selectTransport providers options = .ok selection →
      ValidEvidence providers options.candidateReadiness observations →
      ∃ probed, selectTransportWithProbe providers
          { options with probeObservations := observations } = .ok probed ∧
        probed.selectedProvider = selection.selectedProvider := by
  have hsound (selection : TransportSelection)
      (h : selectTransport providers options = .ok selection) :
      Choice providers options [] selection.selectedProvider :=
    choice_of_ok (selectTransport_cases
      (validateSelectionEvidence_iff.mp (bind_unit_eq_ok.mp h).1)) h
  have hprobed (selection : TransportSelection)
      (h : selectTransportWithProbe providers options = .ok selection) :
      Choice providers options options.probeObservations selection.selectedProvider :=
    choice_of_ok (selectTransportWithProbe_cases
      (validateSelectionEvidence_iff.mp (bind_unit_eq_ok.mp h).1)) h
  refine ⟨hsound, hprobed, fun hv => error_iff (selectTransport_cases hv),
    fun hv => error_iff (selectTransportWithProbe_cases hv), ?_, ?_⟩
  · intro selection forced hforced h
    rcases h with h | h
    · exact forced_of_allows hforced (hsound selection h).qualifies.allowed
    · exact forced_of_allows hforced (hprobed selection h).qualifies.allowed
  · intro selection observations h hv
    exact ⟨selection, selectTransportWithProbe_of_selectTransport h hv, rfl⟩

def quicProvider : TransportProviderDescriptor := .installed "quic" "1" .quic .pureRust

def tcpProvider : TransportProviderDescriptor := .installed "tcp" "1" .tcp .pureRust

def probedOptions : TransportSelectionOptions where
  peerSupportedTransports := [.tcp, .quic]
  policy := .preferQuic
  requestedMaxFrameBytes := some 4096
  candidateReadiness := [.ready .quic "nnrp.transport.quic.native",
    .ready .tcp "nnrp.transport.tcp.native"]
  probeObservations := [.failed .quic "nnrp.transport.quic.native" "timeout",
    .succeeded .tcp "nnrp.transport.tcp.native" ⟨3, 3, 1000, 50⟩]

theorem probed_provider_selected : (∀ p, ¬Choice [quicProvider, tcpProvider] probedOptions [] p) ∧
    Choice [quicProvider, tcpProvider] probedOptions probedOptions.probeObservations
      tcpProvider := by
  have hvalid : ValidEvidence [quicProvider, tcpProvider] probedOptions.candidateReadiness [] :=
    validateSelectionEvidence_iff.mp (by decide +kernel)
  have hfails : (selectTransport [quicProvider, tcpProvider] probedOptions).toOption = none := by
    decide +kernel
  have hselects : (selectTransportWithProbe [quicProvider, tcpProvider] probedOptions).toOption.map
      (·.selectedProvider) = some tcpProvider := by decide +kernel
  obtain ⟨-, hprobed, hcomplete, -⟩ :=
    selection_sound_and_complete [quicProvider, tcpProvider] probedOptions
  constructor
  · apply (hcomplete hvalid).mp
    cases hx : selectTransport [quicProvider, tcpProvider] probedOptions with
    | ok sel =>
      rw [hx] at hfails
      cases hfails
    | error e => exact ⟨e, rfl⟩
  · cases hx : selectTransportWithProbe [quicProvider, tcpProvider] probedOptions with
    | ok sel =>
      rw [hx] at hselects
      have hsel : sel.selectedProvider = tcpProvider := Option.some.inj hselects
      have hchoice := hprobed sel hx
      rw [hsel] at hchoice
      exact hchoice
    | error e =>
      rw [hx] at hselects
      cases hselects

end Nnrp.Selection
