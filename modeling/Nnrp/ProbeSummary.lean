import Nnrp.TransportSelection

/-!
# Summaries of probe samples

A summary has the medians of the successful samples of its provider. The foreign interface reports
medians of its own: the entry at half the length of the sorted list, where a summary takes the
midpoint of the two middle values of a list of even length.
-/

namespace Nnrp.Selection
open List StableSort ProbeSample

/-- A division by zero, an index out of bounds and an overflow are `none`. -/
def checkedMedian (values : List UInt64) : Option UInt64 :=
  let values := sortBy compare values
  let upper := values.length / 2
  if values.length % 2 = 1 then values[upper]?
  else do
    guard (0 < upper)
    let lowerValue ← values[upper - 1]?
    let upperValue ← values[upper]?
    guard (lowerValue ≤ upperValue)
    guard (lowerValue.toNat + ((upperValue - lowerValue) / 2).toNat < 2 ^ 64)
    pure (lowerValue + (upperValue - lowerValue) / 2)

section
variable (p : TransportProviderDescriptor) (samples : List ProbeSample)

def matchingProbeSamples : List ProbeSample :=
  samples.filter fun s => s.transportId = p.transportId ∧ s.providerId = p.metadata.id

def successful : List ProbeSample := (matchingProbeSamples p samples).filter isSuccessful

def checkedSummary : Option (Option ProbeMetrics) :=
  if successful p samples = [] then some none
  else do
    guard (∀ s ∈ successful p samples, s.elapsedUs ≠ 0)
    let medianThroughputBytesPerSec ← checkedMedian ((successful p samples).map throughput)
    let medianRttUs ← checkedMedian ((successful p samples).filterMap rttUs)
    pure (some
      { sampleCount := saturatingU32 (matchingProbeSamples p samples).length
        successCount := saturatingU32 (successful p samples).length
        medianThroughputBytesPerSec, medianRttUs })

end

/-- What the foreign interface reports for the round-trip times, and for the throughputs. -/
def reportedMedian (values : List UInt64) : Option UInt64 :=
  let values := sortBy compare values
  values[values.length / 2]?

structure Central (m : UInt64) (values : List UInt64) : Prop where
  between : ∃ low ∈ values, ∃ high ∈ values, low ≤ m ∧ m ≤ high
  below : values.length ≤ 2 * values.countP (· ≤ m)
  above : values.length ≤ 2 * values.countP (m ≤ ·)

/-- Less than half of the values are smaller than one of them, and less than half are larger. -/
def HasMiddle (values : List UInt64) : Prop :=
  ∃ v ∈ values, 2 * values.countP (· < v) < values.length ∧
    2 * values.countP (v < ·) < values.length

variable {values : List UInt64} {a b : UInt64} {i : ℕ}

theorem sortBy_length (values : List UInt64) : (sortBy compare values).length = values.length :=
  (sortBy_perm compare values).length_eq

theorem le_countP (ha : (sortBy compare values)[i]? = some a) (q : UInt64 → Bool) :
    ((∀ v ≤ a, q v = true) → i < values.countP q) ∧
      ((∀ v, a ≤ v → q v = true) → values.length ≤ i + values.countP q) := by
  obtain ⟨hi, rfl⟩ := List.getElem?_eq_some_iff.mp ha
  have hsorted : (sortBy compare values).Pairwise fun v w => compare w v ≠ .lt :=
    sortBy_pairwise (.of_transCmp values)
  have hcount := (sortBy_perm compare values).countP_eq q
  have hsplit := take_append_drop i (sortBy compare values)
  rw [drop_eq_getElem_cons hi] at hsplit
  simp only [ne_eq, Std.compare_eq_lt, UInt64.not_lt] at hsorted
  rw [← hsplit, pairwise_append, pairwise_cons] at hsorted
  obtain ⟨-, ⟨hafter, -⟩, hbefore⟩ := hsorted
  rw [← hsplit, countP_append, countP_cons] at hcount
  constructor
  · intro hq
    have htake : countP q (take i (sortBy compare values)) = i := by
      rw [countP_eq_length.mpr, length_take_of_le hi.le]
      exact fun v hv => hq v (hbefore v hv _ mem_cons_self)
    rw [htake, if_pos (hq _ (UInt64.le_refl _))] at hcount
    omega
  · intro hq
    have hdrop : countP q (drop (i + 1) (sortBy compare values)) = values.length - (i + 1) := by
      rw [countP_eq_length.mpr, length_drop, sortBy_length]
      exact fun v hv => hq v (hafter v hv)
    rw [hdrop, if_pos (hq _ (UInt64.le_refl _))] at hcount
    omega

structure Middle (values : List UInt64) (a b : UInt64) : Prop where
  lower : (sortBy compare values)[(values.length - 1) / 2]? = some a
  upper : (sortBy compare values)[values.length / 2]? = some b

theorem exists_middle (h : values ≠ []) : ∃ a b, Middle values a b := by
  have hpos := length_pos_iff.mpr h
  have hlen := sortBy_length values
  exact ⟨_, _, getElem?_eq_getElem (by omega), getElem?_eq_getElem (by omega)⟩

namespace Middle
variable (h : Middle values a b)
include h

theorem mem : a ∈ values ∧ b ∈ values :=
  ⟨mem_sortBy.mp (mem_of_getElem? h.lower), mem_sortBy.mp (mem_of_getElem? h.upper)⟩

theorem le : a ≤ b := by
  by_contra hlt
  have hbelow := (le_countP h.upper (· < a)).1 fun v hv =>
    decide_eq_true (UInt64.lt_of_le_of_lt hv (UInt64.not_le.mp hlt))
  have habove := (le_countP h.lower (fun v => decide ¬decide (v < a) = true)).2 fun v hv => by
    simpa using hv
  have hsplit := length_eq_countP_add_countP (· < a) (l := values)
  omega

theorem medians : checkedMedian values = some (median values) ∧
    (median values).toNat = a.toNat + (b.toNat - a.toNat) / 2 := by
  have hle := UInt64.le_iff_toNat_le.mp h.le
  have hb := b.toNat_lt
  have hupper := h.upper
  have hlower := h.lower
  simp only [median, checkedMedian, sortBy_length, getD_eq_getElem?_getD]
  by_cases hodd : values.length % 2 = 1
  · have hsame : (values.length - 1) / 2 = values.length / 2 := by omega
    rw [hsame, hupper] at hlower
    cases hlower
    simp [hodd, hupper]
  · have hpos := length_pos_of_mem h.mem.1
    have hbefore : (values.length - 1) / 2 = values.length / 2 - 1 := by omega
    rw [hbefore] at hlower
    have hupperPos : 0 < values.length / 2 := by omega
    have hfits : a.toNat + (b.toNat - a.toNat) / 2 < 18446744073709551616 := by omega
    simp [hodd, hlower, hupper, hupperPos, h.le, hfits, Nat.mod_eq_of_lt]

theorem central : Central (median values) values := by
  have hle := UInt64.le_iff_toNat_le.mp h.le
  have hmid := h.medians.2
  have hlow : a ≤ median values := UInt64.le_iff_toNat_le.mpr (by omega)
  have hhigh : median values ≤ b := UInt64.le_iff_toNat_le.mpr (by omega)
  have hbelow := (le_countP h.lower (· ≤ median values)).1 fun v hv =>
    decide_eq_true (UInt64.le_trans hv hlow)
  have habove := (le_countP h.upper (median values ≤ ·)).2 fun v hv =>
    decide_eq_true (UInt64.le_trans hhigh hv)
  exact ⟨⟨a, h.mem.1, b, h.mem.2, hlow, hhigh⟩, by omega, by omega⟩

theorem eq_iff : a = b ↔ HasMiddle values := by
  have hpos := length_pos_of_mem h.mem.1
  constructor
  · rintro rfl
    have hbelow := (le_countP h.lower (fun v => decide ¬decide (v < a) = true)).2 fun v hv => by
      simpa using hv
    have habove := (le_countP h.upper (fun v => decide ¬decide (a < v) = true)).1 fun v hv => by
      simpa using hv
    have hless := length_eq_countP_add_countP (· < a) (l := values)
    have hmore := length_eq_countP_add_countP (a < ·) (l := values)
    exact ⟨a, h.mem.1, by omega, by omega⟩
  · rintro ⟨v, -, hless, hmore⟩
    have hva : v ≤ a := by
      by_contra hlt
      have hcount := (le_countP h.lower (· < v)).1 fun u hu =>
        decide_eq_true (UInt64.lt_of_le_of_lt hu (UInt64.not_le.mp hlt))
      omega
    have hbv : b ≤ v := by
      by_contra hlt
      have hcount := (le_countP h.upper (v < ·)).2 fun u hu =>
        decide_eq_true (UInt64.lt_of_lt_of_le (UInt64.not_le.mp hlt) hu)
      omega
    exact UInt64.le_antisymm h.le (UInt64.le_trans hbv hva)

end Middle

theorem reportedMedian_iff (h : values ≠ []) :
    reportedMedian values = some (median values) ↔ HasMiddle values := by
  obtain ⟨a, b, hmid⟩ := exists_middle h
  have hle := UInt64.le_iff_toNat_le.mp hmid.le
  rw [← hmid.eq_iff, reportedMedian, sortBy_length, hmid.upper, Option.some.injEq,
    ← UInt64.toNat_inj, ← UInt64.toNat_inj, hmid.medians.2]
  omega

theorem median_perm {others : List UInt64} (h : others.Perm values) :
    median others = median values := by
  have hsorted : sortBy compare others = sortBy compare values := by
    refine sortBy_eq_of_perm (.of_transCmp values) (fun a _ b _ hab hba => ?_) h
    rw [ne_eq, Std.compare_eq_lt] at hab hba
    exact UInt64.le_antisymm (UInt64.not_lt.mp hba) (UInt64.not_lt.mp hab)
  simp only [median, hsorted]

section
variable {p : TransportProviderDescriptor} {samples : List ProbeSample} {s : ProbeSample}

theorem summarizeProviderProbe_eq : summarizeProviderProbe p samples =
    if successful p samples = [] then none
    else some
      { sampleCount := saturatingU32 (matchingProbeSamples p samples).length
        successCount := saturatingU32 (successful p samples).length
        medianThroughputBytesPerSec := median ((successful p samples).map throughput)
        medianRttUs := median ((successful p samples).filterMap rttUs) } :=
  rfl

theorem mem_succeeding : s ∈ successful p samples ↔ s ∈ samples ∧
    (s.transportId = p.transportId ∧ s.providerId = p.metadata.id) ∧ s.isSuccessful = true := by
  simp only [successful, matchingProbeSamples, mem_filter, decide_eq_true_iff, and_assoc]

theorem measures (h : s ∈ successful p samples) :
    (∃ rtt, s.rttUs = some rtt) ∧ s.elapsedUs ≠ 0 := by
  have hok := (mem_succeeding.mp h).2.2
  simp only [isSuccessful, Bool.and_eq_true, decide_eq_true_iff] at hok
  exact ⟨Option.isSome_iff_exists.mp hok.1.2, UInt64.pos_iff_ne_zero.mp hok.2⟩

theorem exists_middles (h : successful p samples ≠ []) :
    (∃ a b, Middle ((successful p samples).map throughput) a b) ∧
      ∃ a b, Middle ((successful p samples).filterMap rttUs) a b := by
  obtain ⟨s, hs⟩ := exists_mem_of_ne_nil _ h
  obtain ⟨rtt, hrtt⟩ := (measures hs).1
  exact ⟨exists_middle (map_eq_nil_iff.not.mpr h),
    exists_middle (ne_nil_of_mem (mem_filterMap.mpr ⟨s, hs, hrtt⟩))⟩

theorem checkedSummary_eq (p : TransportProviderDescriptor) (samples : List ProbeSample) :
    checkedSummary p samples = some (summarizeProviderProbe p samples) := by
  rw [checkedSummary, summarizeProviderProbe_eq]
  by_cases h : successful p samples = []
  · rw [if_pos h, if_pos h]
  · have helapsed : guard (∀ s ∈ successful p samples, s.elapsedUs ≠ 0) = some () :=
      if_pos fun s hs => (measures hs).2
    obtain ⟨⟨_, _, hthroughputs⟩, _, _, hrtts⟩ := exists_middles h
    rw [if_neg h, if_neg h, helapsed, hthroughputs.medians.1, hrtts.medians.1]
    rfl

theorem saturatingU32_toNat (n : ℕ) : (saturatingU32 n).toNat = min n (2 ^ 32 - 1) :=
  UInt32.toNat_ofNat_of_lt' (by change _ < 2 ^ 32; omega)

theorem validateProbeMetrics_of_counts {metrics : ProbeMetrics} {n total : ℕ} (hn : 0 < n)
    (hle : n ≤ total) (htotal : metrics.sampleCount = saturatingU32 total)
    (hcount : metrics.successCount = saturatingU32 n) : validateProbeMetrics metrics = .ok () := by
  have hzero : (0 : UInt32).toNat = 0 := rfl
  simp only [validateProbeMetrics, Fallible.bind_unit_eq_ok, Fallible.ensure_eq_ok, htotal, hcount,
    ne_eq, not_or, UInt32.not_lt, ← UInt32.toNat_inj, UInt32.le_iff_toNat_le, saturatingU32_toNat,
    hzero]
  omega

theorem summarizeProviderProbe_perm {others : List ProbeSample} (h : others.Perm samples) :
    summarizeProviderProbe p others = summarizeProviderProbe p samples := by
  have hmatch : (matchingProbeSamples p others).Perm (matchingProbeSamples p samples) := h.filter _
  have hok : (successful p others).Perm (successful p samples) := hmatch.filter _
  have hnil : successful p others = [] ↔ successful p samples = [] := by
    rw [← length_eq_zero_iff, hok.length_eq, length_eq_zero_iff]
  simp only [summarizeProviderProbe_eq, hmatch.length_eq, hok.length_eq, hnil,
    median_perm (hok.map throughput), median_perm (hok.filterMap rttUs)]

end

/-- Summaries are sound. The medians that the foreign interface reports are the same if less than
half of the values are smaller than one of them and less than half are larger, and only then. -/
theorem probe_medians_agree_iff (p : TransportProviderDescriptor) (samples : List ProbeSample)
    {values : List UInt64} (hvalues : values ≠ []) :
    checkedSummary p samples = some (summarizeProviderProbe p samples) ∧
    ((∃ metrics, summarizeProviderProbe p samples = some metrics) ↔ ∃ s, s ∈ samples ∧
      (s.transportId = p.transportId ∧ s.providerId = p.metadata.id) ∧ s.isSuccessful = true) ∧
    (∀ metrics, summarizeProviderProbe p samples = some metrics →
      validateProbeMetrics metrics = .ok () ∧
      Central metrics.medianThroughputBytesPerSec ((successful p samples).map throughput) ∧
      Central metrics.medianRttUs ((successful p samples).filterMap rttUs)) ∧
    (∀ others : List ProbeSample, others.Perm samples →
      summarizeProviderProbe p others = summarizeProviderProbe p samples) ∧
    (reportedMedian values = some (median values) ↔ HasMiddle values) := by
  refine ⟨checkedSummary_eq p samples, ?_, ?_, fun others => summarizeProviderProbe_perm,
    reportedMedian_iff hvalues⟩
  · simp only [← mem_succeeding, summarizeProviderProbe_eq]
    by_cases h : successful p samples = []
    · simp [h]
    · simpa [h] using exists_mem_of_ne_nil _ h
  · intro metrics h
    rw [summarizeProviderProbe_eq] at h
    split_ifs at h with hnil
    cases h
    have hle := (matchingProbeSamples p samples).length_filter_le isSuccessful
    obtain ⟨⟨_, _, hthroughputs⟩, _, _, hrtts⟩ := exists_middles hnil
    exact ⟨validateProbeMetrics_of_counts (length_pos_iff.mpr hnil) hle rfl rfl,
      hthroughputs.central, hrtts.central⟩

def tcpSample : ProbeSample := .success .tcp "nnrp.transport.tcp.native" 5 7 1 1

theorem three_medians_agree : reportedMedian [30, 10, 20] = some (median [30, 10, 20]) ∧
    ∃ metrics, summarizeProviderProbe (.installed "tcp" "1" .tcp .pureRust) [tcpSample] =
      some metrics ∧ validateProbeMetrics metrics = .ok () := by
  have h := probe_medians_agree_iff (.installed "tcp" "1" .tcp .pureRust) [tcpSample]
    (cons_ne_nil 30 [10, 20])
  obtain ⟨metrics, hmetrics⟩ := h.2.1.mpr ⟨_, mem_singleton_self _, by decide +kernel⟩
  exact ⟨h.2.2.2.2.mpr ⟨20, by decide, by decide +kernel⟩, metrics, hmetrics,
    (h.2.2.1 metrics hmetrics).1⟩

/-- The interface reports the larger of two values, the summary their midpoint. -/
theorem two_medians_differ : reportedMedian [10, 20] = some 20 ∧ median [10, 20] = 15 := by
  decide +kernel

end Nnrp.Selection
