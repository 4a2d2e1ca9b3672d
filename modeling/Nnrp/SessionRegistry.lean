import Nnrp.Lifecycle

/-!
# The server's session registry

The registry maps a session id to the record of the session that was last acknowledged under
it. An open reads it in one critical section (`retain`, then `allocate`) and inserts its record
in another; closes and teardowns remove or retire records of
their own connection.
-/

namespace Nnrp.Server
open Protocol ByteOrder Packet Session OrderedMap List Option Std.ExtTreeMap

structure NnrpServerConfig where
  supportedProfiles : List UInt16
  supportedCacheObjects : List CacheObjectKind := []
  maxCacheObjects : UInt64 := 0
  maxCacheObjectBytes : UInt32 := 0
  /-- The `(schema id, schema version)` keys of the schema registry. -/
  schemas : List (UInt32 × UInt32)
  resumeTokenBytes : UInt32
  (maxInFlightOperations grantedOperationCredit : UInt16)
  (leaseTtlMs resumeWindowMs : UInt32)
  deriving DecidableEq

structure NnrpServerPolicyDecision where
  accepted : Bool
  sessionErrorCode : UInt32
  diagnostic : Option String
  deriving DecidableEq

def NnrpServerPolicyDecision.accept : NnrpServerPolicyDecision := ⟨true, sessionErrorNone, none⟩

def NnrpServerPolicyDecision.reject (code : UInt32) (diagnostic : String) :
    NnrpServerPolicyDecision := ⟨false, code, some diagnostic⟩

def profileUnspecified : UInt16 := 0
def profileTensor : UInt16 := 1
def profileToken : UInt16 := 2

def profileAssigned (profileId : UInt16) : Bool :=
  profileId = profileUnspecified ∨ profileId = profileTensor ∨ profileId = profileToken

def NnrpServerConfig.validateClientOpen (config : NnrpServerConfig) (request : SessionOpenMetadata)
    (decision : NnrpServerPolicyDecision) : Except NnrpServerPolicyDecision Unit :=
  if request.profileId ∉ config.supportedProfiles ∨ profileAssigned request.profileId = false then
    .error (.reject sessionErrorProfileUnsupported "requested profile is unsupported")
  else if (request.schemaId, request.schemaVersion) ∉ config.schemas then
    .error (.reject sessionErrorSchemaUnsupported "requested schema is unsupported")
  else if config.maxInFlightOperations < request.maxInFlightOperations then
    .error (.reject sessionErrorLimitReached "requested in-flight limit exceeds the server limit")
  else if decision.accepted = false then .error decision
  else .ok ()

structure RuntimeSessionRecord where
  sessionId : UInt32
  profileId : UInt16
  (schemaId schemaVersion : UInt32)
  resumeEnabled : Bool
  resumeTokenBytes : UInt32
  resumeToken : Bytes
  (resumeExpiresAtMs lastOperationId : UInt64)
  active : Bool
  connectionNonce : ℕ
  deriving DecidableEq

abbrev Registry := BTreeMap UInt32 RuntimeSessionRecord

variable {reg : Registry} {s t : UInt32} {nonce : ℕ} {ids : List UInt32}

def constantTimeEq (left right : Bytes) : Bool :=
  if left.length ≠ right.length then false
  else (left.zip right).foldl (fun difference p => difference ||| (p.1 ^^^ p.2)) 0 = 0

def firstAvailableFrom (candidate : UInt32) : List UInt32 → Option UInt32
  | [] => some candidate
  | allocated :: rest =>
    if allocated < candidate then firstAvailableFrom candidate rest
    else if candidate < allocated then some candidate
    else (checkedAddU32 candidate 1).bind fun next => firstAvailableFrom next rest

def firstAvailableSessionId (allocatedIds : List UInt32) : Option UInt32 :=
  firstAvailableFrom 1 allocatedIds

def retain (nowMs : UInt64) (registry : Registry) : Registry :=
  registry.filter fun _ record => record.active || nowMs ≤ record.resumeExpiresAtMs

structure Allocation where
  sessionId : UInt32
  recoveryError : Option UInt32
  priorLastOperationId : UInt64
  deriving DecidableEq

def resumable (record : RuntimeSessionRecord) (nowMs : UInt64) (presented : Bytes) : Bool :=
  record.resumeEnabled && !record.active && nowMs ≤ record.resumeExpiresAtMs &&
    constantTimeEq record.resumeToken presented

/-- The first critical section of an open, after expired records were dropped. -/
def allocate (request : SessionOpenMetadata) (presented : Bytes) (nowMs : UInt64)
    (registry : Registry) : Allocation :=
  if 0 < request.resumeTokenBytes then
    match registry[request.requestedSessionId]? with
    | some record =>
      if resumable record nowMs presented then
        ⟨request.requestedSessionId, none, record.lastOperationId⟩
      else ⟨0, some sessionErrorResumeRejected, 0⟩
    | none => ⟨0, some sessionErrorResumeRejected, 0⟩
  else if request.requestedSessionId ≠ 0 then
    if request.requestedSessionId ∈ registry then ⟨0, some sessionErrorLimitReached, 0⟩
    else ⟨request.requestedSessionId, none, 0⟩
  else
    match firstAvailableSessionId registry.keys with
    | some sessionId => ⟨sessionId, none, 0⟩
    | none => ⟨0, none, 0⟩

/-- An id of zero without another error means that no id is left. -/
def Allocation.error (allocation : Allocation) : Option UInt32 :=
  if allocation.sessionId = 0 ∧ allocation.recoveryError = none then some sessionErrorLimitReached
  else allocation.recoveryError

def retire (connectionNonce : ℕ) (record : RuntimeSessionRecord) : Option RuntimeSessionRecord :=
  if record.connectionNonce = connectionNonce then
    if record.resumeEnabled then some { record with active := false } else none
  else some record

variable (registry : Registry) {cand : UInt32}

def markSessionInactive (sessionId : UInt32) (connectionNonce : ℕ) : Registry :=
  registry.alter sessionId fun record => record.bind (retire connectionNonce)

def markConnectionSessionsInactive (connectionNonce : ℕ)
    (sessionIds : BTreeSet UInt32) : Registry :=
  sessionIds.toList.foldl (fun registry sessionId =>
    markSessionInactive registry sessionId connectionNonce) registry

def removeFromRegistry (sessionId : UInt32) (connectionNonce : ℕ) : Registry :=
  match registry[sessionId]? with
  | some record =>
    if record.connectionNonce = connectionNonce then registry.erase sessionId else registry
  | none => registry

/-- The record under the id is updated whichever connection it belongs to. -/
def updateRegistryLastOperation (sessionId : UInt32) (operationId : UInt64) : Registry :=
  match registry[sessionId]? with
  | some record =>
    registry.insert sessionId
      { record with lastOperationId := max record.lastOperationId operationId }
  | none => registry

theorem foldl_difference_eq_zero (pairs : List (UInt8 × UInt8)) (start : UInt8) :
    pairs.foldl (fun difference p => difference ||| (p.1 ^^^ p.2)) start = 0 ↔
      start = 0 ∧ ∀ p ∈ pairs, p.1 = p.2 := by
  induction pairs generalizing start with
  | nil => simp
  | cons p pairs ih =>
    rw [foldl_cons, ih, UInt8.or_eq_zero_iff, UInt8.xor_eq_zero_iff]
    simp [and_assoc]

theorem constantTimeEq_iff {left right : Bytes} :
    constantTimeEq left right = true ↔ left = right := by
  unfold constantTimeEq
  by_cases hlen : left.length = right.length
  · rw [if_neg (not_not.mpr hlen), decide_eq_true_iff, foldl_difference_eq_zero]
    constructor
    · intro h
      refine ext_getElem hlen fun i hl hr => ?_
      have hi : i < (left.zip right).length := by
        rw [length_zip]
        omega
      have hp := h.2 _ (getElem_mem hi)
      simpa using hp
    · intro h
      subst h
      refine ⟨rfl, fun p hp => ?_⟩
      obtain ⟨i, hi, rfl⟩ := getElem_of_mem hp
      simp
  · rw [if_pos hlen]
    constructor
    · intro h
      exact absurd h (by simp)
    · intro h
      exact absurd (congrArg length h) hlen

theorem retain_get {nowMs : UInt64} : (retain nowMs reg)[s]? = reg[s]?.filter fun r =>
      r.active || nowMs ≤ r.resumeExpiresAtMs := by
  cases h : reg[s]? with
  | none | some r => simp [retain, Std.ExtTreeMap.getElem?_filter, h]

theorem markSessionInactive_get : (markSessionInactive reg s nonce)[t]? =
      if s = t then reg[t]?.bind (retire nonce) else reg[t]? := by
  by_cases hst : s = t
  · subst hst
    simp [markSessionInactive]
  · simp [markSessionInactive, getElem?_alter, hst]

theorem retire_idem (nonce : ℕ) (r : RuntimeSessionRecord) :
    (retire nonce r).bind (retire nonce) = retire nonce r := by
  unfold retire
  by_cases hn : r.connectionNonce = nonce
  · by_cases hr : r.resumeEnabled = true
    all_goals simp [hn, hr]
  · simp [hn]

theorem foldl_markSessionInactive_get :
    (ids.foldl (fun reg s => markSessionInactive reg s nonce) reg)[t]? =
      if t ∈ ids then reg[t]?.bind (retire nonce) else reg[t]? := by
  induction ids generalizing reg with
  | nil => simp
  | cons s ids ih =>
    rw [foldl_cons, ih, markSessionInactive_get]
    by_cases hst : s = t
    · subst hst
      by_cases hmem : s ∈ ids
      · simp [hmem, bind_assoc, retire_idem]
      · simp [hmem]
    · simp [hst, Ne.symm hst]

theorem markConnectionSessionsInactive_get {ids : BTreeSet UInt32} :
    (markConnectionSessionsInactive reg nonce ids)[t]? =
      if t ∈ ids then reg[t]?.bind (retire nonce) else reg[t]? := by
  rw [markConnectionSessionsInactive, foldl_markSessionInactive_get]
  simp

theorem removeFromRegistry_get : (removeFromRegistry reg s nonce)[t]? =
      if s = t then reg[t]?.filter (fun r => r.connectionNonce ≠ nonce) else reg[t]? := by
  unfold removeFromRegistry
  by_cases hst : s = t
  · subst hst
    rw [if_pos rfl]
    cases hs : reg[s]? with
    | none => simp [hs]
    | some r =>
      by_cases hn : r.connectionNonce = nonce
      · simp [hn, Option.filter]
      · simp [hn, hs, Option.filter]
  · rw [if_neg hst]
    cases hs : reg[s]? with
    | none => rfl
    | some r =>
      dsimp only
      split
      · simp [get_erase, hst]
      · rfl

theorem updateRegistryLastOperation_get {op : UInt64} :
    (updateRegistryLastOperation reg s op)[t]? = if s = t then reg[t]?.map (fun r =>
        { r with lastOperationId := max r.lastOperationId op }) else reg[t]? := by
  unfold updateRegistryLastOperation
  by_cases hst : s = t
  · subst hst
    cases hs : reg[s]? with
    | none => simp [hs]
    | some r => simp
  · cases hs : reg[s]? with
    | none => simp [hst]
    | some r => simp [get_insert, hst]

def LowestFree (s : UInt32) : Prop :=
  0 < s ∧ s ∉ registry ∧ ∀ t, 0 < t → t < s → t ∈ registry

theorem checkedAddU32_one {id next : UInt32} (h : checkedAddU32 id 1 = some next) :
    next.toNat = id.toNat + 1 := by
  unfold checkedAddU32 at h
  split_ifs at h with hbound
  rw [some.injEq] at h
  rw [← h, UInt32.toNat_add, Nat.mod_eq_of_lt hbound]
  rfl

theorem firstAvailableFrom_spec (hids : ids.Pairwise (· < ·))
    (h : firstAvailableFrom cand ids = some s) : cand.toNat ≤ s.toNat ∧ s ∉ ids ∧
      ∀ t : UInt32, cand.toNat ≤ t.toNat → t.toNat < s.toNat → t ∈ ids := by
  induction ids generalizing cand with
  | nil =>
    rw [firstAvailableFrom, some.injEq] at h
    subst h
    refine ⟨le_rfl, by simp, fun t ht hts => ?_⟩
    omega
  | cons id ids ih =>
    obtain ⟨hid, hids⟩ := pairwise_cons.mp hids
    rw [firstAvailableFrom] at h
    split_ifs at h with hlt hgt
    · obtain ⟨hle, hnot, hall⟩ := ih hids h
      rw [UInt32.lt_iff_toNat_lt] at hlt
      have hne : s ≠ id := by
        intro hs
        rw [hs] at hle
        omega
      refine ⟨hle, ?_, fun t ht hts => mem_cons_of_mem _ (hall t ht hts)⟩
      rw [mem_cons, not_or]
      exact ⟨hne, hnot⟩
    · rw [some.injEq] at h
      subst h
      rw [UInt32.lt_iff_toNat_lt] at hgt
      refine ⟨le_rfl, fun hmem => ?_, fun t ht hts => ?_⟩
      · rcases mem_cons.mp hmem with heq | hmem
        · rw [heq] at hgt
          omega
        · have hlater := hid _ hmem
          rw [UInt32.lt_iff_toNat_lt] at hlater
          omega
      · omega
    · -- the candidate is taken
      rw [UInt32.lt_iff_toNat_lt] at hlt hgt
      have heq : id = cand := UInt32.toNat_inj.mp (by omega)
      subst heq
      obtain ⟨next, hnext, h⟩ := bind_eq_some_iff.mp h
      have hsucc := checkedAddU32_one hnext
      obtain ⟨hle, hnot, hall⟩ := ih hids h
      refine ⟨by omega, ?_, fun t ht hts => ?_⟩
      · rw [mem_cons, not_or]
        refine ⟨fun hs => ?_, hnot⟩
        rw [hs] at hle
        omega
      · by_cases hteq : t = id
        · exact hteq ▸ mem_cons_self
        · have hne : t.toNat ≠ id.toNat := fun h => hteq (UInt32.toNat_inj.mp h)
          refine mem_cons_of_mem _ (hall t ?_ hts)
          omega

theorem firstAvailableFrom_none (h : firstAvailableFrom cand ids = none)
    (ht : cand.toNat ≤ t.toNat) : t ∈ ids := by
  induction ids generalizing cand with
  | nil => cases h
  | cons id ids ih =>
    rw [firstAvailableFrom] at h
    split_ifs at h with hlt hgt
    · exact mem_cons_of_mem _ (ih h ht)
    · rw [UInt32.lt_iff_toNat_lt] at hlt hgt
      have heq : id = cand := UInt32.toNat_inj.mp (by omega)
      by_cases hteq : t = cand
      · rw [hteq, heq]
        exact mem_cons_self
      have hne : t.toNat ≠ cand.toNat := fun h => hteq (UInt32.toNat_inj.mp h)
      cases hnext : checkedAddU32 cand 1 with
      | none =>
        -- the candidate is the last id
        unfold checkedAddU32 at hnext
        split_ifs at hnext with hbound
        have hmax := t.toNat_lt
        have hone : (1 : UInt32).toNat = 1 := rfl
        omega
      | some next =>
        rw [hnext] at h
        have hsucc := checkedAddU32_one hnext
        exact mem_cons_of_mem _ (ih h (by omega))

theorem firstAvailableSessionId_some (hids : ids.Pairwise (· < ·))
    (h : firstAvailableSessionId ids = some s) :
    0 < s ∧ s ∉ ids ∧ ∀ t, 0 < t → t < s → t ∈ ids := by
  obtain ⟨hle, hnot, hall⟩ := firstAvailableFrom_spec hids h
  have hone : (1 : UInt32).toNat = 1 := rfl
  have hzero : (0 : UInt32).toNat = 0 := rfl
  rw [hone] at hle
  refine ⟨?_, hnot, fun t ht hts => ?_⟩
  · rw [UInt32.lt_iff_toNat_lt]
    omega
  · rw [UInt32.lt_iff_toNat_lt] at ht hts
    apply hall t _ hts
    omega

theorem registry_keys_pairwise (reg : Registry) : reg.keys.Pairwise (· < ·) :=
  reg.ordered_keys.imp fun h => compareOfLessAndEq_eq_lt.mp h

theorem firstAvailableSessionId_lowestFree (h : firstAvailableSessionId reg.keys = some s) :
    LowestFree reg s := by
  obtain ⟨hpos, hnot, hall⟩ := firstAvailableSessionId_some (registry_keys_pairwise reg) h
  exact ⟨hpos, fun hmem => hnot (mem_keys.mpr hmem), fun t ht hts => mem_keys.mp (hall t ht hts)⟩

theorem lowest_free_session_id (allocatedIds : List UInt32)
    (hascending : allocatedIds.Pairwise (· < ·)) :
    (∀ s, firstAvailableSessionId allocatedIds = some s ↔
      0 < s ∧ s ∉ allocatedIds ∧ ∀ t, 0 < t → t < s → t ∈ allocatedIds) ∧
    (firstAvailableSessionId allocatedIds = none ↔ ∀ t, 0 < t → t ∈ allocatedIds) := by
  have hnone (h : firstAvailableSessionId allocatedIds = none) (t : UInt32) (ht : 0 < t) :
      t ∈ allocatedIds := firstAvailableFrom_none h (UInt32.lt_iff_toNat_lt.mp ht)
  constructor
  · intro s
    refine ⟨firstAvailableSessionId_some hascending, fun ⟨hpos, hnot, hall⟩ => ?_⟩
    cases hfirst : firstAvailableSessionId allocatedIds with
    | none => exact absurd (hnone hfirst s hpos) hnot
    | some first =>
      obtain ⟨hpos', hnot', hall'⟩ := firstAvailableSessionId_some hascending hfirst
      have hle : first ≤ s := UInt32.not_lt.mp fun hlt => hnot (hall' s hpos hlt)
      have hge : s ≤ first := UInt32.not_lt.mp fun hlt => hnot' (hall first hpos' hlt)
      rw [UInt32.le_antisymm hle hge]
  · refine ⟨hnone, fun hall => ?_⟩
    cases hfirst : firstAvailableSessionId allocatedIds with
    | none => rfl
    | some first =>
      obtain ⟨hpos, hnot, -⟩ := firstAvailableSessionId_some hascending hfirst
      exact absurd (hall first hpos) hnot

theorem gap_is_lowest_free :
    firstAvailableSessionId [0, 1, 2, 4] = some 3 ∧ 3 ∉ [0, 1, 2, (4 : UInt32)] := by
  have hfirst : firstAvailableSessionId [0, 1, 2, 4] = some 3 := by decide
  exact ⟨hfirst, (((lowest_free_session_id [0, 1, 2, 4] (by decide)).1 3).mp hfirst).2.1⟩

/-- The session the request names, or the lowest free one. -/
def MayGrant (request : SessionOpenMetadata) (registry : Registry) (s : UInt32) : Prop :=
  (request.requestedSessionId ≠ 0 ∧ s = request.requestedSessionId) ∨
    (request.requestedSessionId = 0 ∧ LowestFree registry s)

variable {req : SessionOpenMetadata} {pres : Bytes} {nowMs : UInt64}
  {reg : Registry}

theorem allocate_cases (h : (allocate req pres nowMs reg).error = none) :
    (0 < req.resumeTokenBytes ∧ ∃ r, reg[req.requestedSessionId]? = some r ∧
        resumable r nowMs pres = true ∧ allocate req pres nowMs reg =
          ⟨req.requestedSessionId, none, r.lastOperationId⟩) ∨
    (¬0 < req.resumeTokenBytes ∧ req.requestedSessionId ≠ 0 ∧ req.requestedSessionId ∉ reg ∧
      allocate req pres nowMs reg = ⟨req.requestedSessionId, none, 0⟩) ∨
    (¬0 < req.resumeTokenBytes ∧ req.requestedSessionId = 0 ∧
      ∃ s, firstAvailableSessionId reg.keys = some s ∧
        allocate req pres nowMs reg = ⟨s, none, 0⟩) := by
  unfold allocate at h ⊢
  by_cases hresume : 0 < req.resumeTokenBytes
  · rw [if_pos hresume] at h ⊢
    cases hrec : reg[req.requestedSessionId]? with
    | none => simp [hrec, Allocation.error] at h
    | some r =>
      by_cases hres : resumable r nowMs pres = true
      · exact .inl ⟨hresume, r, rfl, hres, by simp [hres]⟩
      · simp [hrec, hres, Allocation.error] at h
  · rw [if_neg hresume] at h ⊢
    by_cases hid : req.requestedSessionId = 0
    · rw [if_neg (not_not.mpr hid)] at h ⊢
      cases hfirst : firstAvailableSessionId reg.keys with
      | none => simp [hfirst, Allocation.error] at h
      | some s => exact .inr (.inr ⟨hresume, hid, s, rfl, rfl⟩)
    · rw [if_pos hid] at h ⊢
      by_cases hmem : req.requestedSessionId ∈ reg
      · simp [hmem, Allocation.error] at h
      · exact .inr (.inl ⟨hresume, hid, hmem, if_neg hmem⟩)

variable {r : RuntimeSessionRecord}

theorem not_active_of_not_mem (h : s ∉ reg) (hrec : reg[s]? = some r) : r.active = false := by
  have hmem : s ∈ reg := mem_iff_isSome_getElem?.mpr (by simp [hrec])
  exact absurd hmem h

theorem resumable_iff : resumable r nowMs pres = true ↔ r.resumeEnabled = true ∧
      r.active = false ∧ nowMs ≤ r.resumeExpiresAtMs ∧ r.resumeToken = pres := by
  simp only [resumable, Bool.and_eq_true, Bool.not_eq_true', decide_eq_true_eq, constantTimeEq_iff,
    and_assoc]

theorem Allocation.sessionId_ne_zero {allocation : Allocation} (h : allocation.error = none) :
    allocation.sessionId ≠ 0 := by
  intro hzero
  simp only [Allocation.error, hzero, true_and] at h
  split_ifs at h with hnone
  exact hnone h

theorem allocate_granted (h : (allocate req pres nowMs reg).error = none) :
    MayGrant req reg (allocate req pres nowMs reg).sessionId ∧
      ∀ r, reg[(allocate req pres nowMs reg).sessionId]? = some r → r.active = false := by
  have hne := Allocation.sessionId_ne_zero h
  rcases allocate_cases h with ⟨hresume, r, hrec, hres, heq⟩ | ⟨-, hid, hmem, heq⟩ |
    ⟨-, hid, s, hfirst, heq⟩
  · rw [heq] at hne ⊢
    refine ⟨.inl ⟨hne, rfl⟩, fun other hother => ?_⟩
    obtain rfl : r = other := some.inj (hrec.symm.trans hother)
    exact (resumable_iff.mp hres).2.1
  · rw [heq]
    exact ⟨.inl ⟨hid, rfl⟩, fun r hrec => not_active_of_not_mem hmem hrec⟩
  · rw [heq]
    have hfree := firstAvailableSessionId_lowestFree hfirst
    exact ⟨.inr ⟨hid, hfree⟩, fun r hrec => not_active_of_not_mem hfree.2.1 hrec⟩

end Nnrp.Server
