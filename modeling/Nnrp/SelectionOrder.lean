import Nnrp.SelectionSoundness

/-!
# Transport selection and the order of its inputs

Candidates that were probed are ranked by their metrics, then by their costs if these are of one
model, then by preference. Costs of different models are skipped, so the comparison can go round: a
candidate is cheaper than one of its model that is preferred to a third one, which in turn is
preferred to it. Without such a round the inputs can be listed in any order.
-/

namespace Nnrp.Selection
open StableSort List Function EvaluatedCandidate Std

/-- More successes come first, then more throughput, then shorter round trips. -/
def compareMetrics (left right : ProbeMetrics) : Ordering :=
  (compare right.successCount left.successCount).then <|
  (compare right.medianThroughputBytesPerSec left.medianThroughputBytesPerSec).then <|
  compare left.medianRttUs right.medianRttUs

def comparePreference (policy : TransportPolicy) (left right : TransportProviderDescriptor) :
    Ordering :=
  (compare (policy.preferredTransport == some right.transportId)
    (policy.preferredTransport == some left.transportId)).then <|
  (compare left.metadata.preferenceRank right.metadata.preferenceRank).then <|
  (compare left.transportId.code right.transportId.code).then <|
  compare left.metadata.id right.metadata.id

instance : TransCmp compareMetrics :=
  have : TransCmp fun a b => compareOn ProbeMetrics.successCount b a := .opposite
  have : TransCmp fun a b => compareOn ProbeMetrics.medianThroughputBytesPerSec b a := .opposite
  inferInstanceAs (TransCmp (compareLex (fun a b => compareOn ProbeMetrics.successCount b a)
    (compareLex (fun a b => compareOn ProbeMetrics.medianThroughputBytesPerSec b a)
      (compareOn ProbeMetrics.medianRttUs))))

instance (policy : TransportPolicy) : TransCmp (comparePreference policy) :=
  let preferred (d : TransportProviderDescriptor) : Bool :=
    policy.preferredTransport == some d.transportId
  have : TransCmp fun a b => compareOn preferred b a := .opposite
  inferInstanceAs (TransCmp (compareLex (fun a b => compareOn preferred b a)
    (compareLex (compareOn fun d => d.metadata.preferenceRank)
      (compareLex (compareOn fun d => d.transportId.code) (compareOn fun d => d.metadata.id)))))

structure Contender where
  provider : TransportProviderDescriptor
  metrics : ProbeMetrics

def Contender.cost (a : Contender) : ProviderCost := a.provider.metadata.cost

def compareContenders (policy : TransportPolicy) (left right : Contender) : Ordering :=
  (compareMetrics left.metrics right.metrics).then <|
  (compareCost left.cost right.cost).then <|
  comparePreference policy left.provider right.provider

/-- The comparison goes round: `a` and `c` have costs of one model, by which `c` is the better one,
while `a` is preferred to `b` and `b` is preferred to `c`. -/
structure CostCycle (policy : TransportPolicy) (a b c : Contender) : Prop where
  tied : compareMetrics a.metrics b.metrics = .eq
  tied' : compareMetrics b.metrics c.metrics = .eq
  model : a.cost.modelId ≠ 0
  same : c.cost.modelId = a.cost.modelId
  other : b.cost.modelId ≠ a.cost.modelId
  cheaper : c.cost.units < a.cost.units
  preferred : comparePreference policy a.provider b.provider = .lt
  preferred' : comparePreference policy b.provider c.provider = .lt

section
variable {policy : TransportPolicy} {a b c : Contender}

theorem compareCost_swap (left right : ProviderCost) :
    compareCost left right = (compareCost right left).swap := by
  unfold compareCost
  by_cases h : left.modelId ≠ 0 ∧ left.modelId = right.modelId
  · have h' : right.modelId ≠ 0 ∧ right.modelId = left.modelId := ⟨h.2 ▸ h.1, h.2.symm⟩
    rw [if_pos h, if_pos h']
    exact OrientedCmp.eq_swap
  · have h' : ¬(right.modelId ≠ 0 ∧ right.modelId = left.modelId) :=
      fun h' => h ⟨h'.2 ▸ h'.1, h'.2.symm⟩
    rw [if_neg h, if_neg h']
    rfl

instance (policy : TransportPolicy) : OrientedCmp (compareContenders policy) where
  eq_swap {a b} := by
    have hmetrics : compareMetrics a.metrics b.metrics =
        (compareMetrics b.metrics a.metrics).swap :=
      OrientedCmp.eq_swap
    have hpreference : comparePreference policy a.provider b.provider =
        (comparePreference policy b.provider a.provider).swap := OrientedCmp.eq_swap
    rw [compareContenders, compareContenders, hmetrics, compareCost_swap, hpreference,
      Ordering.swap_then, Ordering.swap_then]

theorem transport_of_compare_eq (h : compareContenders policy a b = .eq) :
    a.provider.transportId = b.provider.transportId := by
  rw [compareContenders, Ordering.then_eq_eq, Ordering.then_eq_eq, comparePreference,
    Ordering.then_eq_eq, Ordering.then_eq_eq, Ordering.then_eq_eq] at h
  exact TransportId.code_injective (LawfulEqOrd.eq_of_compare h.2.2.2.2.1)

theorem isLE_of_then {o o' : Ordering} (h : o.then o' = .lt) : o.isLE = true := by
  cases o with
  | lt | eq => rfl
  | gt => cases h

theorem costCycle_of_cheaper (htied : compareMetrics a.metrics b.metrics = .eq)
    (htied' : compareMetrics b.metrics c.metrics = .eq) (hcheaper : compareCost c.cost a.cost = .lt)
    (hab : (compareCost a.cost b.cost).then (comparePreference policy a.provider b.provider) = .lt)
    (hbc :
      (compareCost b.cost c.cost).then (comparePreference policy b.provider c.provider) = .lt) :
    CostCycle policy a b c := by
  rw [compareCost] at hcheaper
  split_ifs at hcheaper with hmodels
  obtain ⟨hmodel, hsame⟩ := hmodels
  have hunits := compare_eq_lt.mp hcheaper
  have hother : b.cost.modelId ≠ a.cost.modelId := by
    intro hb
    have hle := isLE_of_then hab
    have hle' := isLE_of_then hbc
    rw [compareCost, if_pos ⟨hsame ▸ hmodel, hb.symm⟩] at hle
    rw [compareCost, if_pos ⟨hb ▸ hsame ▸ hmodel, hb.trans hsame.symm⟩] at hle'
    have hround : compare c.cost.units c.cost.units = .lt :=
      TransCmp.lt_of_lt_of_isLE (compare_eq_lt.mpr hunits)
        (TransCmp.isLE_trans hle hle')
    rw [ReflOrd.compare_self] at hround
    cases hround
  have hskip : compareCost a.cost b.cost = .eq := if_neg fun h => hother h.2.symm
  have hskip' : compareCost b.cost c.cost = .eq := if_neg fun h => hother (h.2.trans hsame)
  rw [hskip] at hab
  rw [hskip'] at hbc
  exact ⟨htied, htied', hsame ▸ hmodel, hsame, hother, hunits, hab, hbc⟩

theorem costCycle_of_round (hab : compareContenders policy a b = .lt)
    (hbc : compareContenders policy b c = .lt) (hca : compareContenders policy c a = .lt) :
    CostCycle policy a b c ∨ CostCycle policy b c a ∨ CostCycle policy c a b := by
  have hle := isLE_of_then hab
  have hle' := isLE_of_then hbc
  have hle'' := isLE_of_then hca
  have htied := OrientedCmp.isLE_antisymm hle (TransCmp.isLE_trans hle' hle'')
  have htied' := OrientedCmp.isLE_antisymm hle' (TransCmp.isLE_trans hle'' hle)
  have htied'' := OrientedCmp.isLE_antisymm hle'' (TransCmp.isLE_trans hle hle')
  rw [compareContenders, htied] at hab
  rw [compareContenders, htied'] at hbc
  rw [compareContenders, htied''] at hca
  change (compareCost a.cost b.cost).then _ = .lt at hab
  change (compareCost b.cost c.cost).then _ = .lt at hbc
  change (compareCost c.cost a.cost).then _ = .lt at hca
  rcases Ordering.then_eq_lt.mp hca with hcheaper | ⟨-, hpca⟩
  · exact .inl (costCycle_of_cheaper htied htied' hcheaper hab hbc)
  rcases Ordering.then_eq_lt.mp hab with hcheaper | ⟨-, hpab⟩
  · exact .inr (.inl (costCycle_of_cheaper htied' htied'' hcheaper hbc hca))
  rcases Ordering.then_eq_lt.mp hbc with hcheaper | ⟨-, hpbc⟩
  · exact .inr (.inr (costCycle_of_cheaper htied'' htied hcheaper hca hab))
  have hround : comparePreference policy a.provider a.provider = .lt :=
    TransCmp.lt_trans (TransCmp.lt_trans hpab hpbc) hpca
  have hself : comparePreference policy a.provider a.provider = .eq := ReflCmp.compare_self
  rw [hself] at hround
  cases hround

theorem CostCycle.round (h : CostCycle policy a b c) : compareContenders policy a b = .lt ∧
    compareContenders policy b c = .lt ∧ compareContenders policy c a = .lt := by
  have hskip : compareCost a.cost b.cost = .eq := if_neg fun hsame => h.other hsame.2.symm
  have hskip' : compareCost b.cost c.cost = .eq :=
    if_neg fun hsame => h.other (hsame.2.trans h.same)
  have hcheaper : compareCost c.cost a.cost = .lt := by
    rw [compareCost, if_pos ⟨h.same.symm ▸ h.model, h.same⟩]
    exact compare_eq_lt.mpr h.cheaper
  have htied := OrientedCmp.eq_symm (TransCmp.eq_trans h.tied h.tied')
  rw [compareContenders, compareContenders, compareContenders, h.tied, h.tied', htied,
    hskip, hskip', hcheaper, h.preferred, h.preferred']
  exact ⟨rfl, rfl, rfl⟩

end

variable {ps ps' : List TransportProviderDescriptor}
  {os : TransportSelectionOptions} {p q : TransportProviderDescriptor} {a b c : Contender}
  {os' : TransportSelectionOptions} {x y : EvaluatedCandidate}

structure Contends (providers : List TransportProviderDescriptor)
    (options : TransportSelectionOptions) (a : Contender) : Prop where
  mem : a.provider ∈ providers
  qualifies : Qualifies options a.provider
  probed : ∃ o ∈ options.probeObservations, o.key = a.provider.key ∧ o.state = .succeeded ∧
    o.metrics = some a.metrics

def probedCandidates (providers : List TransportProviderDescriptor)
    (options : TransportSelectionOptions) : List EvaluatedCandidate :=
  (observedCandidates providers options).filter fun c => c.diagnostic.probeState = .succeeded

def standings (providers : List TransportProviderDescriptor)
    (options : TransportSelectionOptions) : List EvaluatedCandidate :=
  sortBy (compareCandidates options.policy) (probedCandidates providers options)

def EvaluatedCandidate.rankedIn (standings : List EvaluatedCandidate) (c : EvaluatedCandidate) :
    EvaluatedCandidate :=
  match standings.findIdx? (· = c) with
  | some rank => c.ranked rank
  | none => c

theorem successfulCandidates_fst (ps : List TransportProviderDescriptor)
    (os : TransportSelectionOptions) :
    (successfulCandidates ps os).map Prod.fst = standings ps os := by
  have hfilter (l : List (EvaluatedCandidate × ℕ)) :
      (l.filter fun c => c.1.diagnostic.probeState = .succeeded).map Prod.fst =
        (l.map Prod.fst).filter fun c => c.diagnostic.probeState = .succeeded := by
    rw [filter_map]
    rfl
  rw [successfulCandidates, sortBy_map, hfilter, zipIdx_map_fst]
  rfl

theorem findIdx?_congr {α : Type} {l : List α} {test test' : α → Bool}
    (h : ∀ a ∈ l, test a = test' a) : l.findIdx? test = l.findIdx? test' := by
  induction l with
  | nil => rfl
  | cons a l ih =>
    rw [findIdx?_cons, findIdx?_cons, h a mem_cons_self, ih fun b hb => h b (mem_cons_of_mem a hb)]

theorem rankedCandidates_eq (hnodup : (observedCandidates ps os).Nodup) :
    rankedCandidates ps os = (observedCandidates ps os).map (rankedIn (standings ps os)) := by
  have hrank {c : EvaluatedCandidate × ℕ} (hc : c ∈ (observedCandidates ps os).zipIdx) :
      (successfulCandidates ps os).findIdx? (fun other => other.2 = c.2) =
        (standings ps os).findIdx? (· = c.1) := by
    rw [← successfulCandidates_fst, List.findIdx?_map]
    refine findIdx?_congr fun other hother => ?_
    have hother' := (List.mem_filter.mp (mem_sortBy.mp hother)).1
    rw [List.mem_zipIdx_iff_getElem?] at hc hother'
    refine decide_eq_decide.mpr ⟨fun h => ?_, fun h => ?_⟩
    · rw [h, hc] at hother'
      exact (Option.some.inj hother').symm
    · rw [h, ← hc] at hother'
      exact (List.getElem?_inj (List.getElem?_eq_some_iff.mp hc).1 hnodup).mp hother'.symm |>.symm
  calc rankedCandidates ps os
      = (observedCandidates ps os).zipIdx.map
          (rankedIn (standings ps os) ∘ Prod.fst) := by
        refine List.map_congr_left fun c hc => ?_
        rw [hrank hc]
        rfl
    _ = (observedCandidates ps os).map
          (rankedIn (standings ps os)) := by
        rw [← List.map_map, List.zipIdx_map_fst]

theorem validateObservation_metrics {o : TransportProbeObservation}
    (h : validateObservation o = .ok ()) (hstate : o.state = .succeeded) :
    ∃ metrics, o.metrics = some metrics := by
  rw [validateObservation, hstate] at h
  cases hmetrics : o.metrics with
  | some metrics => exact ⟨metrics, rfl⟩
  | none =>
    rw [hmetrics] at h
    cases h

def NoRound (providers : List TransportProviderDescriptor) (options : TransportSelectionOptions) :
    Prop :=
  ∀ a b c, Contends providers options a → Contends providers options b →
    Contends providers options c → ¬CostCycle options.policy a b c

theorem observedCandidate_injective : Injective os.observedCandidate := by
  intro p q h
  rw [← observedCandidate_descriptor os p, h, observedCandidate_descriptor]

section
variable (hv : ValidEvidence ps os.candidateReadiness os.probeObservations)
include hv

theorem Contends.observed (h : Contends ps os a) :
    (os.observedCandidate a.provider).diagnostic.probeState = .succeeded ∧
      (os.observedCandidate a.provider).diagnostic.probe = some a.metrics := by
  obtain ⟨o, ho, hkey, hstate, hmetrics⟩ := h.probed
  rw [observedCandidate_of hv h.mem h.qualifies ho hkey hstate]
  exact ⟨rfl, hmetrics⟩

theorem mem_probedCandidates {cand : EvaluatedCandidate} : cand ∈ probedCandidates ps os ↔
      ∃ a, Contends ps os a ∧ os.observedCandidate a.provider = cand := by
  rw [probedCandidates, mem_filter, decide_eq_true_iff, observedCandidates_eq hv, mem_map]
  constructor
  · rintro ⟨⟨p, hp, rfl⟩, hstate⟩
    obtain ⟨hq, o, ho, hkey, hsucceeded⟩ := (succeeded_iff hv hp).mp hstate
    obtain ⟨metrics, hmetrics⟩ := validateObservation_metrics (hv.observed o ho) hsucceeded
    exact ⟨⟨p, metrics⟩, ⟨hp, hq, o, ho, hkey, hsucceeded, hmetrics⟩, rfl⟩
  · rintro ⟨a, ha, rfl⟩
    exact ⟨⟨a.provider, ha.mem, rfl⟩, (ha.observed hv).1⟩

theorem compareCandidates_eq (ha : Contends ps os a) (hb : Contends ps os b) :
    compareCandidates os.policy (os.observedCandidate a.provider)
      (os.observedCandidate b.provider) = compareContenders os.policy a b := by
  rw [compareCandidates, (ha.observed hv).2, (hb.observed hv).2]
  rw [observedCandidate_descriptor, observedCandidate_descriptor, compareContenders, compareMetrics,
    comparePreference, Ordering.then_assoc, Ordering.then_assoc]
  rfl

theorem same_or_better (ha : Contends ps os a) (hb : Contends ps os b)
    (h : compareContenders os.policy b a ≠ .lt) :
    a.provider = b.provider ∨ compareContenders os.policy a b = .lt := by
  cases hab : compareContenders os.policy a b with
  | lt => exact .inr rfl
  | eq => exact .inl (inj_on_of_nodup_map hv.transports ha.mem hb.mem (transport_of_compare_eq hab))
  | gt => exact absurd (OrientedCmp.gt_iff_lt.mp hab) h

theorem probedCandidates_orders (hround : NoRound ps os) :
    Orders (compareCandidates os.policy) (probedCandidates ps os) := by
  constructor
  · intro x hx y hy h
    obtain ⟨a, ha, rfl⟩ := (mem_probedCandidates hv).mp hx
    obtain ⟨b, hb, rfl⟩ := (mem_probedCandidates hv).mp hy
    rw [compareCandidates_eq hv ha hb] at h
    rw [compareCandidates_eq hv hb ha]
    exact OrientedCmp.not_lt_of_lt h
  · intro x hx y hy z hz hxy hyz
    obtain ⟨a, ha, rfl⟩ := (mem_probedCandidates hv).mp hx
    obtain ⟨b, hb, rfl⟩ := (mem_probedCandidates hv).mp hy
    obtain ⟨c, hc, rfl⟩ := (mem_probedCandidates hv).mp hz
    rw [compareCandidates_eq hv hb ha] at hxy
    rw [compareCandidates_eq hv hc hb] at hyz
    rcases same_or_better hv ha hb hxy with hsame | hab
    · rw [hsame, compareCandidates_eq hv hc hb]
      exact hyz
    rcases same_or_better hv hb hc hyz with hsame | hbc
    · rw [← hsame, compareCandidates_eq hv hb ha]
      exact hxy
    rw [compareCandidates_eq hv hc ha]
    intro hca
    rcases costCycle_of_round hab hbc hca with h | h | h
    · exact hround a b c ha hb hc h
    · exact hround b c a hb hc ha h
    · exact hround c a b hc ha hb h

theorem probedCandidates_distinct
    (hx : x ∈ probedCandidates ps os) (hy : y ∈ probedCandidates ps os)
    (hxy : compareCandidates os.policy x y ≠ .lt)
    (hyx : compareCandidates os.policy y x ≠ .lt) : x = y := by
  obtain ⟨a, ha, rfl⟩ := (mem_probedCandidates hv).mp hx
  obtain ⟨b, hb, rfl⟩ := (mem_probedCandidates hv).mp hy
  rw [compareCandidates_eq hv ha hb] at hxy
  rw [compareCandidates_eq hv hb ha] at hyx
  rcases same_or_better hv ha hb hyx with hsame | hab
  · rw [hsame]
  · exact absurd hab hxy

theorem observedCandidates_nodup : (observedCandidates ps os).Nodup := by
  rw [observedCandidates_eq hv]
  exact hv.nodup.map observedCandidate_injective

end

theorem compareDiagnostics_eq : compareDiagnostics =
    compareLex (compareOn fun c => c.diagnostic.selectionRank.isNone)
      (compareLex (compareOn fun c => c.diagnostic.selectionRank.getD 0)
        (compareLex
          (compareOn fun c => if c.diagnostic.selectionRank.isSome then 0
            else c.descriptor.transportId.code)
          (compareOn fun c => if c.diagnostic.selectionRank.isSome then ""
            else c.descriptor.metadata.id))) := by
  funext x y
  rw [compareDiagnostics]
  cases hx : x.diagnostic.selectionRank with
  | none =>
    cases hy : y.diagnostic.selectionRank with
    | none => simp [compareLex, compareOn, hx, hy]
    | some rank => simp [compareLex, compareOn, hx, hy]; rfl
  | some rank =>
    cases hy : y.diagnostic.selectionRank with
    | none => simp [compareLex, compareOn, hx, hy]; rfl
    | some rank' => simp [compareLex, compareOn, hx, hy]

instance : TransCmp compareDiagnostics := by
  rw [compareDiagnostics_eq]
  infer_instance

def Distinguished (candidates : List EvaluatedCandidate) : Prop :=
  ∀ x ∈ candidates, ∀ y ∈ candidates, compareDiagnostics x y = .eq → x = y

theorem orderedDiagnostics_eq_of_perm {cands cands' : List EvaluatedCandidate}
    (h : Distinguished cands) (hperm : cands'.Perm cands) :
    orderedDiagnostics cands' = orderedDiagnostics cands := by
  rw [orderedDiagnostics, orderedDiagnostics, sortBy_eq_of_perm (.of_transCmp cands) ?_ hperm]
  intro x hx y hy hxy hyx
  refine h x hx y hy ?_
  cases hcompare : compareDiagnostics x y with
  | eq => rfl
  | lt => exact absurd hcompare hxy
  | gt => exact absurd (OrientedCmp.gt_iff_lt.mp hcompare) hyx

theorem distinguished_map {readiness : List TransportCandidateReadiness}
    {obs : List TransportProbeObservation} (hv : ValidEvidence ps readiness obs)
    {g : TransportProviderDescriptor → EvaluatedCandidate} (hg : ∀ p, (g p).descriptor = p)
    (hranks : ∀ p ∈ ps, ∀ q ∈ ps, ∀ rank,
      (g p).diagnostic.selectionRank = some rank → (g q).diagnostic.selectionRank = some rank →
        p = q) : Distinguished (ps.map g) := by
  intro x hx y hy h
  obtain ⟨p, hp, rfl⟩ := mem_map.mp hx
  obtain ⟨q, hq, rfl⟩ := mem_map.mp hy
  rw [compareDiagnostics] at h
  split at h
  · rename_i left right hleft hright
    rw [LawfulEqOrd.eq_of_compare h] at hleft
    rw [hranks p hp q hq right hleft hright]
  · cases h
  · cases h
  · rw [hg, hg, Ordering.then_eq_eq] at h
    have htr := TransportId.code_injective (LawfulEqOrd.eq_of_compare h.1)
    rw [inj_on_of_nodup_map hv.transports hp hq htr]

def TransportSelectionOptions.withEvidence (options : TransportSelectionOptions)
    (readiness : List TransportCandidateReadiness)
    (observations : List TransportProbeObservation) : TransportSelectionOptions :=
  { options with candidateReadiness := readiness, probeObservations := observations }

theorem find_eq_of_perm {β : Type} {key : β → ProviderKey} {l l' : List β}
    (hkeys : (l.map key).Nodup) (hperm : l'.Perm l) (transportId : TransportId) (id : String) :
    l'.find? (fun r => (key r).1 = transportId ∧ (key r).2 = id) =
      l.find? (fun r => (key r).1 = transportId ∧ (key r).2 = id) := by
  cases hfound : l.find? (fun r => (key r).1 = transportId ∧ (key r).2 = id) with
  | none =>
    rw [find?_eq_none] at hfound ⊢
    exact fun r hrec => hfound r (hperm.mem_iff.mp hrec)
  | some r =>
    have htest := find?_some hfound
    rw [decide_eq_true_iff] at htest
    exact find_key ((hperm.map key).nodup_iff.mpr hkeys)
      (hperm.mem_iff.mpr (mem_of_find?_eq_some hfound)) (Prod.ext htest.1 htest.2)

theorem ValidEvidence.of_perm {readiness readiness' : List TransportCandidateReadiness}
    {obs obs' : List TransportProbeObservation}
    (hv : ValidEvidence ps readiness obs) (hprovs : ps'.Perm ps)
    (hready : readiness'.Perm readiness) (hobs : obs'.Perm obs) :
    ValidEvidence ps' readiness' obs' where
  metadata p hp := hv.metadata p (hprovs.mem_iff.mp hp)
  selectable p hp := hv.selectable p (hprovs.mem_iff.mp hp)
  transports := (hprovs.map _).nodup_iff.mpr hv.transports
  ids := (hprovs.map _).nodup_iff.mpr hv.ids
  readinessOf r hr := by
    obtain ⟨p, hp, hkey⟩ := hv.readinessOf r (hready.mem_iff.mp hr)
    exact ⟨p, hprovs.mem_iff.mpr hp, hkey⟩
  readinessKeys := (hready.map _).nodup_iff.mpr hv.readinessKeys
  ready p hp := by
    obtain ⟨r, hr, hkey⟩ := hv.ready p (hprovs.mem_iff.mp hp)
    exact ⟨r, hready.mem_iff.mpr hr, hkey⟩
  observationOf o ho := by
    obtain ⟨p, hp, hkey⟩ := hv.observationOf o (hobs.mem_iff.mp ho)
    exact ⟨p, hprovs.mem_iff.mpr hp, hkey⟩
  observationKeys := (hobs.map _).nodup_iff.mpr hv.observationKeys
  observed o ho := hv.observed o (hobs.mem_iff.mp ho)

structure Reordered (providers' providers : List TransportProviderDescriptor)
    (options' options : TransportSelectionOptions) : Prop where
  providers : providers'.Perm providers
  readiness : options'.candidateReadiness.Perm options.candidateReadiness
  observations : options'.probeObservations.Perm options.probeObservations
  others : options' = options.withEvidence options'.candidateReadiness options'.probeObservations

theorem Reordered.listed (h : ps'.Perm ps) : Reordered ps' ps os os :=
  ⟨h, .refl _, .refl _, rfl⟩

theorem Reordered.policy (h : Reordered ps' ps os' os) :
    os'.policy = os.policy := congrArg (·.policy) h.others

section
variable
  (hv : ValidEvidence ps os.candidateReadiness os.probeObservations)
  (hr : Reordered ps' ps os' os)
include hv hr

theorem valid_reordered : ValidEvidence ps' os'.candidateReadiness os'.probeObservations :=
  hv.of_perm hr.providers hr.readiness hr.observations

theorem candidate_reordered : os'.candidate = os.candidate := by
  funext p
  have hfind : os'.candidateReadiness.find? (fun r =>
      r.transportId = p.transportId ∧ r.providerId = p.metadata.id) =
        os.candidateReadiness.find? fun r =>
          r.transportId = p.transportId ∧ r.providerId = p.metadata.id :=
    find_eq_of_perm hv.readinessKeys hr.readiness p.transportId p.metadata.id
  rw [hr.others]
  simp only [TransportSelectionOptions.candidate, TransportSelectionOptions.withEvidence,
    evaluateCandidate, hfind]

theorem observedCandidate_reordered : os'.observedCandidate = os.observedCandidate := by
  funext p
  have hfind : os'.probeObservations.find? (fun o =>
      o.transportId = (os.candidate p).descriptor.transportId ∧
        o.providerId = (os.candidate p).descriptor.metadata.id) =
        os.probeObservations.find? fun o =>
          o.transportId = (os.candidate p).descriptor.transportId ∧
            o.providerId = (os.candidate p).descriptor.metadata.id :=
    find_eq_of_perm hv.observationKeys hr.observations _ _
  rw [TransportSelectionOptions.observedCandidate, TransportSelectionOptions.observedCandidate,
    candidate_reordered hv hr]
  simp only [observed, hfind]

theorem candidatesOf_reordered : (candidatesOf ps' os').Perm (candidatesOf ps os) := by
  rw [candidatesOf_eq hv, candidatesOf_eq (valid_reordered hv hr), candidate_reordered hv hr]
  exact hr.providers.map _

theorem observedCandidates_reordered :
    (observedCandidates ps' os').Perm (observedCandidates ps os) := by
  rw [observedCandidates_eq hv, observedCandidates_eq (valid_reordered hv hr),
    observedCandidate_reordered hv hr]
  exact hr.providers.map _

theorem eligible_reordered : (eligibleOf ps' os').Perm (eligibleOf ps os) :=
  (candidatesOf_reordered hv hr).filter _

theorem many_reordered (hmany : ∀ c, eligibleOf ps os ≠ [c]) (c : EvaluatedCandidate) :
    eligibleOf ps' os' ≠ [c] := by
  intro hc
  have helig := eligible_reordered hv hr
  rw [hc, singleton_perm] at helig
  exact hmany c helig.symm

theorem directSelection_reordered {c : EvaluatedCandidate} (hc : eligibleOf ps os = [c]) :
    directSelection (candidatesOf ps' os') c os'.policy =
      directSelection (candidatesOf ps os) c os.policy := by
  have hperm := candidatesOf_reordered hv hr
  have hdist : Distinguished ((candidatesOf ps os).map fun c =>
      if c.eligible then c.ranked 0 else c) := by
    rw [candidatesOf_eq hv, map_map]
    have helig {p : TransportProviderDescriptor} {rank : UInt32} (hp : p ∈ ps)
        (h : (((fun c : EvaluatedCandidate => if c.eligible then c.ranked 0 else c) ∘
          os.candidate) p).diagnostic.selectionRank = some rank) : os.candidate p = c := by
      rw [comp_apply] at h
      split_ifs at h with he
      · rw [← mem_singleton, ← hc, mem_eligible hv]
        exact ⟨p, hp, (eligible_iff hv hp).mp he, rfl⟩
      · cases h
    refine distinguished_map hv (fun p => ?_) fun p hp q hq rank hrank hrank' => ?_
    · rw [comp_apply]
      split_ifs <;> rfl
    · have hsame := (helig hp hrank).trans (helig hq hrank').symm
      exact congrArg descriptor hsame
  rw [directSelection, directSelection, hr.policy,
    orderedDiagnostics_eq_of_perm hdist (hperm.map _)]

theorem selectTransport_reordered : selectTransport ps' os' = selectTransport ps os := by
  have hv' := valid_reordered hv hr
  rcases single_or_many ps os with ⟨c, hc⟩ | hmany
  · have hc' := eligible_reordered hv hr
    rw [hc, perm_singleton] at hc'
    rw [selectTransport_single hv.without_observations hc,
      selectTransport_single hv'.without_observations hc']
    exact congrArg _ (directSelection_reordered hv hr hc)
  · have hmany' := many_reordered hv hr hmany
    have hdist : Distinguished ((candidatesOf ps os).map fun c =>
        if c.eligible then c.withoutProbe else c) := by
      rw [candidatesOf_eq hv, map_map]
      refine distinguished_map hv (fun p => ?_) fun p hp q hq rank hrank hrank' => ?_
      · rw [comp_apply]
        split_ifs <;> rfl
      · rw [comp_apply] at hrank
        split_ifs at hrank <;> cases hrank
    have hperm := candidatesOf_reordered hv hr
    rw [selectTransport_many hv.without_observations hmany,
      selectTransport_many hv'.without_observations hmany', hr.policy,
      orderedDiagnostics_eq_of_perm hdist (hperm.map _)]

theorem standings_reordered (hround : NoRound ps os) : standings ps' os' = standings ps os := by
  rw [standings, standings, hr.policy]
  exact sortBy_eq_of_perm (probedCandidates_orders hv hround)
    (fun _ hx _ hy hxy hyx => probedCandidates_distinct hv hx hy hxy hyx)
    ((observedCandidates_reordered hv hr).filter _)

end

section
variable {l : List EvaluatedCandidate} {cand : EvaluatedCandidate}

theorem rankedIn_descriptor (l : List EvaluatedCandidate) (cand : EvaluatedCandidate) :
    (cand.rankedIn l).descriptor = cand.descriptor := by
  rw [rankedIn]
  split <;> rfl

theorem rankedIn_transport (l : List EvaluatedCandidate) (cand : EvaluatedCandidate) :
    (cand.rankedIn l).diagnostic.transportId = cand.diagnostic.transportId := by
  rw [rankedIn]
  split <;> rfl

theorem observedCandidate_diagnostic (os : TransportSelectionOptions)
    (p : TransportProviderDescriptor) : (os.observedCandidate p).diagnostic.selectionRank = none ∧
      (os.observedCandidate p).diagnostic.transportId = p.transportId := by
  rw [TransportSelectionOptions.observedCandidate]
  split_ifs
  · rw [observed]
    split
    · split_ifs <;> exact ⟨rfl, rfl⟩
    · exact ⟨rfl, rfl⟩
  · exact ⟨rfl, rfl⟩

theorem rank_iff (hnone : cand.diagnostic.selectionRank = none) {rank : UInt32} :
    (cand.rankedIn l).diagnostic.selectionRank = some rank ↔
      cand ∈ l ∧ UInt32.ofNat (l.idxOf cand) = rank := by
  rw [rankedIn]
  cases hfound : l.findIdx? (· = cand) with
  | none =>
    rw [findIdx?_eq_none_iff] at hfound
    refine iff_of_false (fun h => ?_) fun h => ?_
    · rw [hnone] at h
      cases h
    · have hself := hfound cand h.1
      rw [decide_eq_false_iff_not] at hself
      exact hself rfl
  | some place =>
    have hplace : place < l.length ∧ l.idxOf cand = place :=
      findIdx?_eq_some_iff_findIdx_eq.mp hfound
    have hmem : cand ∈ l := by
      rw [← idxOf_lt_length_iff, hplace.2]
      exact hplace.1
    rw [hplace.2, and_iff_right hmem]
    exact Option.some_inj

theorem idxOf_lt_of_sublist (hnodup : l.Nodup) (h : [x, y].Sublist l) : l.idxOf x < l.idxOf y := by
  obtain ⟨front, back, rfl, hx, hy⟩ := cons_sublist_iff.mp h
  have hyback : y ∈ back := singleton_sublist.mp hy
  have hyfront : y ∉ front := fun hyfront => disjoint_of_nodup_append hnodup hyfront hyback
  rw [idxOf_append_of_mem hx, idxOf_append_of_notMem hyfront]
  have hlt := idxOf_lt_length_iff.mpr hx
  omega

def settledBy (policy : TransportPolicy) (report : List TransportCandidateDiagnostic) :
    List EvaluatedCandidate → Except TransportSelectionError TransportSelection
  | selected :: _ =>
    .ok
      { selectedProvider := selected.descriptor, candidates := report, policy, diagnostic := none }
  | [] => .error (selectionError policy report)

def report (providers : List TransportProviderDescriptor) (options : TransportSelectionOptions) :
    List TransportCandidateDiagnostic :=
  orderedDiagnostics ((observedCandidates providers options).map
    (rankedIn (standings providers options)))

end

section
variable (hv : ValidEvidence ps os.candidateReadiness os.probeObservations)
include hv

theorem selectTransportWithProbe_settled (hmany : ∀ c, eligibleOf ps os ≠ [c]) :
    selectTransportWithProbe ps os = settledBy os.policy (report ps os) (standings ps os) := by
  rw [selectTransportWithProbe_many hv hmany, report,
    ← rankedCandidates_eq (observedCandidates_nodup hv), ← successfulCandidates_fst]
  cases successfulCandidates ps os with
  | nil | cons sel rest => rfl

theorem providers_length : ps.length ≤ 4 := by
  have hsub : ps.map (·.transportId) ⊆ [.quic, .tcp, .ipc, .webSocket] := by
    intro transportId h
    obtain ⟨p, hp, rfl⟩ := mem_map.mp h
    have hselectable := hv.selectable p hp
    revert hselectable
    cases p.transportId <;> decide
  have hlen := (subperm_of_subset hv.transports hsub).length_le
  rw [length_map] at hlen
  exact hlen

theorem standings_nodup : (standings ps os).Nodup :=
  (sortBy_perm _ _).nodup_iff.mpr ((observedCandidates_nodup hv).filter _)

variable {os' : TransportSelectionOptions}

theorem place_inj (hv' : ValidEvidence ps' os'.candidateReadiness os'.probeObservations)
    (hx : x ∈ standings ps os) (hy : y ∈ standings ps' os')
    (h : UInt32.ofNat ((standings ps os).idxOf x) = UInt32.ofNat ((standings ps' os').idxOf y)) :
    (standings ps os).idxOf x = (standings ps' os').idxOf y := by
  have hlen {ps : List TransportProviderDescriptor} {os : TransportSelectionOptions}
      (hos : ValidEvidence ps os.candidateReadiness os.probeObservations) :
      (standings ps os).length ≤ 4 := by
    rw [standings, (sortBy_perm _ _).length_eq, probedCandidates, observedCandidates_eq hos]
    refine (length_filter_le _ _).trans ?_
    rw [length_map]
    exact providers_length hos
  have hxlt := (idxOf_lt_length_iff.mpr hx).trans_le (hlen hv)
  have hylt := (idxOf_lt_length_iff.mpr hy).trans_le (hlen hv')
  have hnat := congrArg UInt32.toNat h
  have hsize : 4 < UInt32.size := by decide
  rw [UInt32.toNat_ofNat_of_lt' (hxlt.trans hsize), UInt32.toNat_ofNat_of_lt' (hylt.trans hsize)]
    at hnat
  exact hnat

theorem report_distinguished : Distinguished ((observedCandidates ps os).map
    (rankedIn (standings ps os))) := by
  rw [observedCandidates_eq hv, map_map]
  refine distinguished_map hv (fun p => ?_) fun p hp q hq rank hrank hrank' => ?_
  · rw [comp_apply, rankedIn_descriptor, observedCandidate_descriptor]
  · rw [comp_apply, rank_iff (observedCandidate_diagnostic os _).1] at hrank hrank'
    have hplace := place_inj hv hv hrank.1 hrank'.1 (hrank.2.trans hrank'.2.symm)
    exact observedCandidate_injective ((idxOf_inj hrank.1).mp hplace)

theorem rank_of_report (hr : Reordered ps' ps os' os)
    (hreport : report ps' os' = report ps os) (hp : p ∈ ps)
    (hmem : os.observedCandidate p ∈ standings ps os) :
    (standings ps' os').idxOf (os.observedCandidate p) =
      (standings ps os).idxOf (os.observedCandidate p) := by
  have hv' := valid_reordered hv hr
  have hreported : ((os.observedCandidate p).rankedIn (standings ps os)).diagnostic ∈
      report ps' os' := by
    rw [hreport, report, orderedDiagnostics, observedCandidates_eq hv, map_map]
    exact mem_map_of_mem (mem_sortBy.mpr (mem_map_of_mem hp))
  rw [report, orderedDiagnostics, observedCandidates_eq hv', map_map, mem_map] at hreported
  obtain ⟨x, hx, hdiagnostic⟩ := hreported
  obtain ⟨q, hq, rfl⟩ := mem_map.mp (mem_sortBy.mp hx)
  rw [comp_apply, observedCandidate_reordered hv hr] at hdiagnostic
  have htr := congrArg TransportCandidateDiagnostic.transportId hdiagnostic
  rw [rankedIn_transport, rankedIn_transport, (observedCandidate_diagnostic os _).2,
    (observedCandidate_diagnostic os _).2] at htr
  have hqp : q = p :=
    inj_on_of_nodup_map hv.transports (hr.providers.mem_iff.mp hq) hp htr
  subst hqp
  have hrank := (rank_iff (observedCandidate_diagnostic os q).1).mpr ⟨hmem, rfl⟩
  rw [← hdiagnostic, rank_iff (observedCandidate_diagnostic os q).1] at hrank
  exact place_inj hv' hv hrank.1 hmem hrank.2

theorem selectTransportWithProbe_reordered (hr : Reordered ps' ps os' os) (hround : NoRound ps os) :
    selectTransportWithProbe ps' os' = selectTransportWithProbe ps os := by
  have hv' := valid_reordered hv hr
  rcases single_or_many ps os with ⟨c, hc⟩ | hmany
  · have hc' := eligible_reordered hv hr
    rw [hc, perm_singleton] at hc'
    rw [selectTransportWithProbe_single hv hc, selectTransportWithProbe_single hv' hc']
    exact congrArg _ (directSelection_reordered hv hr hc)
  · have hmany' := many_reordered hv hr hmany
    have hperm := observedCandidates_reordered hv hr
    rw [selectTransportWithProbe_settled hv hmany, selectTransportWithProbe_settled hv' hmany',
      report, report, standings_reordered hv hr hround, hr.policy,
      orderedDiagnostics_eq_of_perm (report_distinguished hv) (hperm.map _)]

end

/-- Listing the providers, the records or the observations in another order changes nothing. -/
def OrderFree (providers : List TransportProviderDescriptor)
    (options : TransportSelectionOptions) : Prop :=
  ∀ providers' readiness' observations', providers'.Perm providers →
    readiness'.Perm options.candidateReadiness → observations'.Perm options.probeObservations →
    selectTransport providers' (options.withEvidence readiness' observations') =
        selectTransport providers options ∧
      selectTransportWithProbe providers' (options.withEvidence readiness' observations') =
        selectTransportWithProbe providers options

/-- No candidate whose probe succeeded compares better than the selected one. -/
def Unbeaten (providers : List TransportProviderDescriptor)
    (options : TransportSelectionOptions) : Prop :=
  ∀ selection, selectTransportWithProbe providers options = .ok selection →
    ∀ candidate ∈ probedCandidates providers options,
      compareCandidates options.policy candidate
        (options.observedCandidate selection.selectedProvider) ≠ .lt

section
variable (hv : ValidEvidence ps os.candidateReadiness os.probeObservations)
include hv

theorem unbeaten_of_no_round (hround : NoRound ps os) : Unbeaten ps os := by
  intro selection hselec candidate hcand
  have horders := probedCandidates_orders hv hround
  have hself (h : compareCandidates os.policy candidate candidate = .lt) : False :=
    horders.asymm candidate hcand candidate hcand h h
  rcases single_or_many ps os with ⟨c, hc⟩ | hmany
  · rw [selectTransportWithProbe_single hv hc] at hselec
    cases hselec
    obtain ⟨a, ha, rfl⟩ := (mem_probedCandidates hv).mp hcand
    have hmem := (mem_eligible hv).mpr ⟨a.provider, ha.mem, ha.qualifies, rfl⟩
    rw [hc, mem_singleton] at hmem
    have hsel : c.descriptor = a.provider := congrArg descriptor hmem.symm
    rw [directSelection, hsel]
    exact hself
  · rw [selectTransportWithProbe_settled hv hmany] at hselec
    have hsorted := sortBy_pairwise horders
    have hstanding : candidate ∈ standings ps os := mem_sortBy.mpr hcand
    have hmem {x : EvaluatedCandidate} : x ∈ standings ps os ↔
        x ∈ probedCandidates ps os := mem_sortBy
    change (standings ps os).Pairwise _ at hsorted
    cases hstandings : standings ps os with
    | nil =>
      rw [hstandings] at hstanding
      exact absurd hstanding not_mem_nil
    | cons sel rest =>
      rw [hstandings] at hselec hsorted hstanding hmem
      cases hselec
      obtain ⟨a, ha, rfl⟩ := (mem_probedCandidates hv).mp (hmem.mp mem_cons_self)
      rw [observedCandidate_descriptor]
      rcases mem_cons.mp hstanding with rfl | hrest
      · exact hself
      · exact (pairwise_cons.mp hsorted).1 candidate hrest

variable (ha : Contends ps os a)
include ha

theorem provider_ne_of_better (hb : Contends ps os b) (h : compareContenders os.policy a b = .lt) :
    a.provider ≠ b.provider := by
  intro hsame
  rw [← compareCandidates_eq hv ha hb, ← hsame, compareCandidates_eq hv ha ha] at h
  exact OrientedCmp.not_lt_of_lt h h

theorem listed_first {rest : List TransportProviderDescriptor}
    (hprovs : ([a.provider, b.provider, c.provider] ++ rest).Perm ps)
    (hb : Contends ps os b) (hc : Contends ps os c) (hab : compareContenders os.policy a b = .lt)
    (hbc : compareContenders os.policy b c = .lt) :
    [os.observedCandidate a.provider, os.observedCandidate b.provider,
      os.observedCandidate c.provider].Sublist
        (standings ([a.provider, b.provider, c.provider] ++ rest) os) := by
  have hv' := valid_reordered hv (.listed hprovs)
  have hback {a b : Contender} (ha : Contends ps os a)
      (hb : Contends ps os b) (hab : compareContenders os.policy a b = .lt) :
      compareCandidates os.policy (os.observedCandidate b.provider)
        (os.observedCandidate a.provider) ≠ .lt := by
    rw [compareCandidates_eq hv hb ha]
    exact OrientedCmp.not_lt_of_lt hab
  have hprobed : probedCandidates ([a.provider, b.provider, c.provider] ++ rest) os =
      [os.observedCandidate a.provider, os.observedCandidate b.provider,
        os.observedCandidate c.provider] ++ (rest.map os.observedCandidate).filter fun cand =>
            cand.diagnostic.probeState = .succeeded := by
    rw [probedCandidates, observedCandidates_eq hv']
    simp [(ha.observed hv).1, (hb.observed hv).1, (hc.observed hv).1]
  rw [standings, hprobed]
  exact sublist_sortBy_append (hback ha hb hab) (hback hb hc hbc) _

theorem mem_standings_of_perm (hprovs : ps'.Perm ps) :
    os.observedCandidate a.provider ∈ standings ps' os := by
  have hperm := observedCandidates_reordered hv (.listed hprovs)
  exact mem_sortBy.mpr ((hperm.filter _).mem_iff.mpr ((mem_probedCandidates hv).mpr ⟨a, ha, rfl⟩))

theorem many_of_two (hb : Contends ps os b)
    (hne : a.provider ≠ b.provider) (candidate : EvaluatedCandidate) :
    eligibleOf ps os ≠ [candidate] := by
  intro hsingle
  have helig {a : Contender} (ha : Contends ps os a) :
      os.candidate a.provider = candidate := by
    have hmem := (mem_eligible hv).mpr ⟨a.provider, ha.mem, ha.qualifies, rfl⟩
    rw [hsingle, mem_singleton] at hmem
    exact hmem
  have hsame := (helig ha).trans (helig hb).symm
  exact hne (congrArg descriptor hsame)

theorem place_of_orderFree (hfree : OrderFree ps os) (hprovs : ps'.Perm ps)
    (hb : Contends ps os b) (hne : a.provider ≠ b.provider) :
    (standings ps' os).idxOf (os.observedCandidate a.provider) =
      (standings ps os).idxOf (os.observedCandidate a.provider) := by
  have hr : Reordered ps' ps os os := .listed hprovs
  have hmany := many_of_two hv ha hb hne
  have hmany' := many_reordered hv hr hmany
  have hmem := mem_standings_of_perm hv ha (.refl _)
  have hmem' := mem_standings_of_perm hv ha hprovs
  have hres : selectTransportWithProbe ps' os = selectTransportWithProbe ps os :=
    (hfree ps' _ _ hprovs (.refl _) (.refl _)).2
  rw [selectTransportWithProbe_settled hv hmany,
    selectTransportWithProbe_settled (valid_reordered hv hr) hmany'] at hres
  refine rank_of_report hv hr ?_ ha.mem hmem
  cases hstandings : standings ps os with
  | nil =>
    rw [hstandings] at hmem
    exact absurd hmem not_mem_nil
  | cons x rest =>
    cases hstandings' : standings ps' os with
    | nil =>
      rw [hstandings'] at hmem'
      exact absurd hmem' not_mem_nil
    | cons y rest' =>
      rw [hstandings, hstandings'] at hres
      exact congrArg TransportSelection.candidates (Except.ok.inj hres)

theorem no_round_of_orderFree (hfree : OrderFree ps os) (hb : Contends ps os b)
    (hc : Contends ps os c) : ¬CostCycle os.policy a b c := by
  intro hcycle
  obtain ⟨hab, hbc, hca⟩ := hcycle.round
  have hneab := provider_ne_of_better hv ha hb hab
  have hnebc := provider_ne_of_better hv hb hc hbc
  have hneca := provider_ne_of_better hv hc ha hca
  have hnodup : [a.provider, b.provider, c.provider].Nodup := by
    simp [hneab, hnebc, hneca.symm]
  have hsub : [a.provider, b.provider, c.provider] ⊆ ps := by
    simp [ha.mem, hb.mem, hc.mem]
  obtain ⟨listed, hlisted, hsublist⟩ := subperm_of_subset hnodup hsub
  obtain ⟨rest, hrest⟩ := hsublist.exists_perm_append
  have hfirst : ([a.provider, b.provider, c.provider] ++ rest).Perm ps :=
    (hlisted.symm.append_right rest).trans hrest.symm
  have hturned : ([b.provider, c.provider, a.provider] ++ rest).Perm ps :=
    ((perm_append_singleton a.provider [b.provider, c.provider]).append_right rest).trans hfirst
  have hlt := idxOf_lt_of_sublist (standings_nodup (valid_reordered hv (.listed hfirst)))
    ((sublist_cons_self _ _).cons_cons _ |>.trans (listed_first hv ha hfirst hb hc hab hbc))
  have hlt' := idxOf_lt_of_sublist (standings_nodup (valid_reordered hv (.listed hturned)))
    ((sublist_cons_self _ _).trans (listed_first hv hb hturned hc ha hbc hca))
  rw [place_of_orderFree hv ha hfree hfirst hb hneab,
    place_of_orderFree hv hc hfree hfirst ha hneca] at hlt
  rw [place_of_orderFree hv ha hfree hturned hb hneab,
    place_of_orderFree hv hc hfree hturned ha hneca] at hlt'
  omega

end

variable {providers : List TransportProviderDescriptor} {options : TransportSelectionOptions}

theorem selection_order_free_iff
    (hv : ValidEvidence providers options.candidateReadiness options.probeObservations) :
    OrderFree providers options ∧ Unbeaten providers options ↔
      ∀ a b c, Contends providers options a → Contends providers options b →
        Contends providers options c → ¬CostCycle options.policy a b c := by
  constructor
  · rintro ⟨hfree, -⟩ a b c ha hb hc
    exact no_round_of_orderFree hv ha hfree hb hc
  · intro hround
    refine ⟨?_, unbeaten_of_no_round hv hround⟩
    intro providers' readiness' obs' hprovs hready hobs
    have hr : Reordered providers' providers (options.withEvidence readiness' obs') options :=
      ⟨hprovs, hready, hobs, rfl⟩
    exact ⟨selectTransport_reordered hv hr, selectTransportWithProbe_reordered hv hr hround⟩

def ipcProvider : TransportProviderDescriptor := .installed "ipc" "1" .ipc .pureRust

def tiedOptions : TransportSelectionOptions where
  peerSupportedTransports := [.ipc, .quic, .tcp]
  policy := .auto
  requestedMaxFrameBytes := none
  candidateReadiness := [.ready .ipc "nnrp.transport.ipc.native",
    .ready .quic "nnrp.transport.quic.native", .ready .tcp "nnrp.transport.tcp.native"]
  probeObservations := [.succeeded .ipc "nnrp.transport.ipc.native" ⟨3, 3, 1000, 50⟩,
    .succeeded .quic "nnrp.transport.quic.native" ⟨3, 3, 1000, 50⟩,
    .succeeded .tcp "nnrp.transport.tcp.native" ⟨3, 3, 1000, 50⟩]

theorem costless_selection_order_free :
    OrderFree [ipcProvider, quicProvider, tcpProvider] tiedOptions ∧
      Unbeaten [ipcProvider, quicProvider, tcpProvider] tiedOptions := by
  have hvalid : ValidEvidence [ipcProvider, quicProvider, tcpProvider]
      tiedOptions.candidateReadiness tiedOptions.probeObservations :=
    validateSelectionEvidence_iff.mp (by decide +kernel)
  apply (selection_order_free_iff hvalid).mpr
  intro a b c ha hb hc hcycle
  have hmodel : ∀ p ∈ [ipcProvider, quicProvider, tcpProvider], p.metadata.cost.modelId = 0 := by
    decide
  exact hcycle.model (hmodel a.provider ha.mem)

def pricedIpcProvider : TransportProviderDescriptor :=
  { ipcProvider with metadata := { ipcProvider.metadata with cost := ⟨1, 5⟩ } }

def pricedTcpProvider : TransportProviderDescriptor :=
  { tcpProvider with metadata := { tcpProvider.metadata with cost := ⟨1, 3⟩ } }

def selectedTransport (providers : List TransportProviderDescriptor)
    (options : TransportSelectionOptions) : Option TransportId :=
  (selectTransportWithProbe providers options).toOption.map (·.selectedProvider.transportId)

theorem listing_changes_selection :
    ValidEvidence [pricedIpcProvider, quicProvider, pricedTcpProvider]
        tiedOptions.candidateReadiness tiedOptions.probeObservations ∧
      selectedTransport [pricedIpcProvider, quicProvider, pricedTcpProvider] tiedOptions =
        some .ipc ∧
      selectedTransport [quicProvider, pricedTcpProvider, pricedIpcProvider] tiedOptions =
        some .quic ∧ compareCandidates .auto (tiedOptions.observedCandidate pricedTcpProvider)
        (tiedOptions.observedCandidate pricedIpcProvider) = .lt ∧
      compareCandidates .auto (tiedOptions.observedCandidate pricedIpcProvider)
        (tiedOptions.observedCandidate quicProvider) = .lt :=
  ⟨validateSelectionEvidence_iff.mp (by decide +kernel), by decide +kernel, by decide +kernel,
    by decide +kernel, by decide +kernel⟩

end Nnrp.Selection
