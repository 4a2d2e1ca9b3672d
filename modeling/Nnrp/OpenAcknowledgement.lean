import Nnrp.OpenInFlight
import Nnrp.PacketRoundTrip

/-!
# What a client makes of an open acknowledgement

A client parses the `SESSION_OPEN_ACK`, holds it against the recovery rules and its own request,
compares the body with the declared lengths and installs an accepted session. The server promises
a later resumption whenever the request allows it and tokens are configured, also if its resume
window is empty; and it resumes a session whose record allows it even if no tokens are configured
any more. The client refuses both.
-/

namespace Nnrp.Server
open Protocol ByteOrder Packet Session Lifecycle OrderedMap Fallible RuntimePacket

/-- The bytes of the packet can be read back, and the acknowledgement in it passes the checks of
the client that has sent the request. -/
def Acceptable (request : SessionOpenMetadata) (packet : RuntimePacket) : Prop :=
  packet.Survives ∧ ∃ ack, SessionOpenAckMetadata.parse packet.metadata = .ok ack ∧
    (∃ outcome, validateSessionRecoveryAck request ack = .ok outcome) ∧
    packet.body.length = ack.resumeTokenBytes.toNat + ack.sessionExtensionBytes.toNat ∧
    (ack.sessionStatus = .opened ∨ ack.sessionStatus = .resumed →
      ∃ lifecycle, ({} : ConnectionLifecycle).applySessionOpenAck ack = .ok lifecycle ∧
        ack.sessionId ∈ lifecycle.sessions)

def Free (registry : Registry) (nowMs : UInt64) (s : UInt32) : Prop :=
  ∀ record, registry[s]? = some record → record.active = false ∧ record.resumeExpiresAtMs < nowMs

def Available (request : SessionOpenMetadata) (presented : Bytes) (nowMs : UInt64)
    (registry : Registry) : Prop :=
  if 0 < request.resumeTokenBytes then
    request.requestedSessionId ≠ 0 ∧ ∃ record, registry[request.requestedSessionId]? = some record ∧
      record.resumeEnabled = true ∧ record.active = false ∧ nowMs ≤ record.resumeExpiresAtMs ∧
      record.resumeToken = presented
  else if request.requestedSessionId ≠ 0 then Free registry nowMs request.requestedSessionId
  else ∃ s, s ≠ 0 ∧ Free registry nowMs s

/-- The server grants the open. -/
structure Granted (config : NnrpServerConfig) (request : SessionOpenMetadata) (presented : Bytes)
    (decision : NnrpServerPolicyDecision) (nowMs : UInt64) (registry : Registry) : Prop where
  profile : request.profileId ∈ config.supportedProfiles
  assigned : profileAssigned request.profileId = true
  schema : (request.schemaId, request.schemaVersion) ∈ config.schemas
  limit : request.maxInFlightOperations ≤ config.maxInFlightOperations
  policy : decision.accepted = true
  id : Available request presented nowMs registry

/-- The resumption that the server promises has no window, or it has no token for a session that it
resumes. -/
def Mismatched (config : NnrpServerConfig) (request : SessionOpenMetadata) : Prop :=
  (request.sessionFlags &&& sessionFlagAllowResume ≠ 0 ∧ 0 < config.resumeTokenBytes ∧
    config.resumeWindowMs = 0) ∨
  (0 < request.resumeTokenBytes ∧ config.resumeTokenBytes = 0)

section
variable {config : NnrpServerConfig} {request : SessionOpenMetadata} {pres : Bytes}
  {decision : NnrpServerPolicyDecision} {nowMs : UInt64} {random : Option (ℕ → UInt8)}
  {registry : Registry} {a : Attempt}
variable {packet : RuntimePacket} {s : UInt32}

theorem validateClientOpen_ok_iff : config.validateClientOpen request decision = .ok () ↔
    request.profileId ∈ config.supportedProfiles ∧ profileAssigned request.profileId = true ∧
      (request.schemaId, request.schemaVersion) ∈ config.schemas ∧
      request.maxInFlightOperations ≤ config.maxInFlightOperations ∧ decision.accepted = true := by
  simp only [NnrpServerConfig.validateClientOpen, refused_eq_ok_iff, not_or, not_not,
    Bool.not_eq_false, UInt16.not_lt, and_assoc, and_true]

theorem not_mem_retain_iff : s ∉ retain nowMs registry ↔ Free registry nowMs s := by
  rw [← get_eq_none, retain_get, Option.filter_eq_none_iff]
  refine forall_congr' fun r => forall_congr' fun _ => ?_
  rw [Bool.or_eq_true, decide_eq_true_iff, not_or, Bool.not_eq_true, UInt64.not_le]

theorem firstAvailableSessionId_isSome_iff : (∃ s,
      firstAvailableSessionId (retain nowMs registry).keys = some s) ↔
    ∃ s, s ≠ 0 ∧ Free registry nowMs s := by
  constructor
  · intro h
    obtain ⟨s, hs⟩ := h
    obtain ⟨hpos, hfree, -⟩ := firstAvailableSessionId_lowestFree hs
    exact ⟨s, UInt32.pos_iff_ne_zero.mp hpos, not_mem_retain_iff.mp hfree⟩
  · intro h
    obtain ⟨s, hne, hfree⟩ := h
    cases hfirst : firstAvailableSessionId (retain nowMs registry).keys with
    | some t => exact ⟨t, rfl⟩
    | none =>
      have hone : (1 : UInt32).toNat = 1 := rfl
      have hpos : 0 < s.toNat := UInt32.lt_iff_toNat_lt.mp (UInt32.pos_iff_ne_zero.mpr hne)
      have hmem := firstAvailableFrom_none hfirst (t := s) (by omega)
      exact absurd (Std.ExtTreeMap.mem_keys.mp hmem) (not_mem_retain_iff.mpr hfree)

theorem error_eq_none {allocation : Allocation} (hid : allocation.sessionId ≠ 0)
    (hrecov : allocation.recoveryError = none) : allocation.error = none := by
  rw [Allocation.error, if_neg (fun h => hid h.1), hrecov]

theorem retain_get_eq_some {r : RuntimeSessionRecord} :
    (retain nowMs registry)[s]? = some r ↔ registry[s]? = some r ∧
      (r.active = true ∨ nowMs ≤ r.resumeExpiresAtMs) := by
  rw [retain_get, Option.filter_eq_some_iff, Bool.or_eq_true, decide_eq_true_iff]

theorem allocate_error_iff (hreq : validateSessionRecoveryRequest request = .ok ()) :
    (allocate request pres nowMs (retain nowMs registry)).error = none ↔
      Available request pres nowMs registry := by
  rw [Available]
  constructor
  · intro h
    rcases allocate_cases h with ⟨hresume, r, hrec, hres, -⟩ | ⟨hnew, hid, hfree, -⟩ |
      ⟨hnew, hid, s, hfirst, -⟩
    · rw [if_pos hresume]
      exact ⟨(validateSessionRecoveryRequest_ok hreq hresume).2, r,
        (retain_get_eq_some.mp hrec).1, resumable_iff.mp hres⟩
    · rw [if_neg hnew, if_pos hid]
      exact not_mem_retain_iff.mp hfree
    · rw [if_neg hnew, if_neg (not_not.mpr hid)]
      exact firstAvailableSessionId_isSome_iff.mp ⟨s, hfirst⟩
  · intro h
    rw [allocate]
    split_ifs at h ⊢ with hresume hid hmem
    · obtain ⟨hid, r, hrec, hres⟩ := h
      have hkept := retain_get_eq_some.mpr ⟨hrec, .inr hres.2.2.1⟩
      rw [hkept]
      dsimp only
      rw [if_pos (resumable_iff.mpr hres)]
      exact error_eq_none hid rfl
    · exact absurd hmem (not_mem_retain_iff.mpr h)
    · exact error_eq_none hid rfl
    · obtain ⟨s, hs⟩ := firstAvailableSessionId_isSome_iff.mpr h
      rw [hs]
      have hpos := (firstAvailableSessionId_lowestFree hs).1
      exact error_eq_none (UInt32.pos_iff_ne_zero.mp hpos) rfl

theorem prepare_accepted_iff (hreq : validateSessionRecoveryRequest request = .ok ())
    (h : prepare config request pres decision nowMs random (retain nowMs registry) = .ok a) :
    a.accepted = true ↔ Granted config request pres decision nowMs registry := by
  obtain ⟨-, -, -, -, hacc⟩ := prepare_ok h
  rw [hacc, validateClientOpen_ok_iff, allocate_error_iff hreq]
  constructor
  · intro hall
    obtain ⟨⟨hprof, hassigned, hschema, hlimit, hpolicy⟩, hid⟩ := hall
    exact ⟨hprof, hassigned, hschema, hlimit, hpolicy, hid⟩
  · intro hgranted
    exact ⟨⟨hgranted.profile, hgranted.assigned, hgranted.schema, hgranted.limit, hgranted.policy⟩,
      hgranted.id⟩

section
variable (h : Declares config request a)
include h

theorem Declares.body_length (hpkt : a.ackPacket = .ok packet) :
    packet.body.length = a.ack.resumeTokenBytes.toNat + a.ack.sessionExtensionBytes.toNat := by
  obtain ⟨-, -, hbody⟩ := Attempt.ackPacket_ok hpkt
  have hext := h.extension
  rw [hbody, h.tokenLength]
  cases hacc : a.accepted with
  | true =>
    rw [ackExtensionBytes, hacc, if_pos rfl, Except.ok.injEq] at hext
    rw [if_pos rfl, ← hext]
    rfl
  | false =>
    have hdisabled : a.resumeEnabled = false := by
      by_contra henabled
      rw [Bool.not_eq_false, h.enabled, hacc] at henabled
      cases henabled.1
    have htoken := h.tokenLength
    rw [h.token, hdisabled] at htoken
    rw [ackExtensionBytes, hacc, if_neg (by decide)] at hext
    split_ifs at hext with hlen
    rw [Except.ok.injEq] at hext
    rw [if_neg (by decide), ← hext, UInt32.toNat_ofNat_of_lt' hlen, ← htoken]
    exact (Nat.zero_add _).symm

theorem Declares.flag :
    decide (a.ack.sessionFlagsAck &&& sessionAckFlagResumeEnabled ≠ 0) = a.resumeEnabled := by
  rw [h.flags]
  cases a.resumeEnabled
  · decide
  · decide

theorem Declares.promise_iff :
    (a.resumeEnabled = true ∧ (a.ack.resumeWindowMs = 0 ∨ a.ack.resumeTokenBytes = 0)) ↔
      a.resumeEnabled = true ∧ config.resumeWindowMs = 0 := by
  refine and_congr_right fun henabled => ?_
  have htoken : a.ack.resumeTokenBytes ≠ 0 := by
    rw [h.token, if_pos henabled]
    exact UInt32.pos_iff_ne_zero.mp (h.enabled.mp henabled).2.2
  rw [h.window, or_iff_left htoken]

theorem Declares.recovery_iff (hreq : a.request = request)
    (hrecov : validateSessionRecoveryRequest request = .ok ()) :
    (∃ outcome, validateSessionRecoveryAck request a.ack = .ok outcome) ↔
      ¬(a.accepted = true ∧ Mismatched config request) := by
  have hstatus := a.sessionStatus_eq
  rw [hreq] at hstatus
  simp only [validateSessionRecoveryAck, h.flag, h.promise_iff]
  by_cases hacc : a.accepted = true
  swap
  · have hdisabled : ¬(a.resumeEnabled = true ∧ config.resumeWindowMs = 0) :=
      fun henabled => hacc (h.enabled.mp henabled.1).1
    rw [Bool.not_eq_true] at hacc
    rw [if_pos hacc] at hstatus
    rw [if_neg hdisabled, hstatus, hacc]
    refine iff_of_true ?_ (by simp)
    dsimp only
    split_ifs
    all_goals exact ⟨_, rfl⟩
  rw [if_neg (by rw [hacc]; decide)] at hstatus
  rw [and_iff_right hacc, Mismatched]
  have henabled := h.enabled
  rw [and_iff_right hacc] at henabled
  by_cases hbroken : a.resumeEnabled = true ∧ config.resumeWindowMs = 0
  · rw [if_pos hbroken]
    obtain ⟨hflag, htoken⟩ := henabled.mp hbroken.1
    exact iff_of_false (fun ⟨_, hok⟩ => nomatch hok)
      fun hfine => hfine (.inl ⟨hflag, htoken, hbroken.2⟩)
  rw [if_neg hbroken]
  have hkept : ¬(request.sessionFlags &&& sessionFlagAllowResume ≠ 0 ∧
      0 < config.resumeTokenBytes ∧ config.resumeWindowMs = 0) :=
    fun hleft => hbroken ⟨henabled.mpr ⟨hleft.1, hleft.2.1⟩, hleft.2.2⟩
  rw [or_iff_right hkept]
  by_cases hresume : 0 < request.resumeTokenBytes
  · have hflag := (validateSessionRecoveryRequest_ok hrecov hresume).1
    rw [and_iff_right hflag] at henabled
    have hne := UInt32.pos_iff_ne_zero.mp hresume
    rw [if_pos hresume] at hstatus
    rw [hstatus, and_iff_right hresume]
    dsimp only
    rw [if_neg hne, if_neg (not_not.mpr (h.error hacc))]
    by_cases htoken : 0 < config.resumeTokenBytes
    · rw [if_neg (not_not.mpr (henabled.mpr htoken))]
      exact iff_of_true ⟨_, rfl⟩ (UInt32.pos_iff_ne_zero.mp htoken)
    · rw [if_pos fun hon => htoken (henabled.mp hon)]
      exact iff_of_false (fun ⟨_, hok⟩ => nomatch hok)
        fun hne => htoken (UInt32.pos_iff_ne_zero.mpr hne)
  · rw [if_neg hresume] at hstatus
    rw [hstatus]
    refine iff_of_true ?_ fun hright => hresume hright.1
    dsimp only
    split_ifs
    all_goals exact ⟨_, rfl⟩

end

theorem Attempt.ackPacket_survives (h : a.ackPacket = .ok packet) : packet.Survives := by
  rw [Attempt.ackPacket] at h
  obtain ⟨bytes, -, h⟩ := bind_eq_ok.mp h
  rw [liftNnrp_eq_ok] at h
  obtain ⟨hhdr, hmeta, -, hlen⟩ := new_lengths h
  have hflags : validateKnownFlags 0 = .ok () := by decide
  have hcur : packet.header.Current := by
    rw [hhdr]
    exact ⟨rfl, rfl, hflags⟩
  rw [survives_iff hcur hlen]
  refine ⟨?_, hmeta⟩
  rw [hhdr]
  rfl

theorem applySessionOpenAck_of_status
    (h : a.ack.sessionStatus = .opened ∨ a.ack.sessionStatus = .resumed) :
    ∃ life, ({} : ConnectionLifecycle).applySessionOpenAck a.ack = .ok life ∧
      a.ack.sessionId ∈ life.sessions := by
  have hacc := accepted_of_status h
  cases happly : ({} : ConnectionLifecycle).applySessionOpenAck a.ack with
  | error error => exact absurd happly (applySessionOpenAck_ne_error hacc)
  | ok life =>
    obtain ⟨-, -, state, rfl⟩ := ConnectionLifecycle.applySessionOpenAck_ok happly h
    exact ⟨_, rfl, mem_map_insert.mpr (.inl rfl)⟩

theorem Declares.ackPacket_of_fits (h : Declares config request a)
    (hfits : 56 + (if a.accepted then a.resumeToken else diagnosticBytes a.diagnostic).length <
      2 ^ 32) : ∃ packet, a.ackPacket = .ok packet := by
  have hmask : validateMaskU32 a.ack.sessionFlagsAck sessionFlagsAckKnownMask = .ok () := by
    rw [h.flags, validateMaskU32]
    cases a.resumeEnabled
    all_goals exact if_neg (by decide)
  obtain ⟨bytes, hbytes⟩ : ∃ bytes, a.ack.toBytes = .ok bytes := bytesOf_of_valid hmask
  have hsmall : bytes.length +
      (if a.accepted then a.resumeToken else diagnosticBytes a.diagnostic).length < 2 ^ 32 := by
    rw [SessionOpenAckMetadata.codec.length hbytes]
    exact hfits
  rw [Attempt.ackPacket, hbytes]
  dsimp only
  obtain ⟨packet, hpkt⟩ := new_of_fits { CommonHeader.new .sessionOpenAck 56 (UInt32.ofNat
        (if a.accepted then a.resumeToken else diagnosticBytes a.diagnostic).length) with
      sessionId := a.ack.sessionId } hsmall
  exact ⟨packet, liftNnrp_eq_ok.mpr hpkt⟩

theorem acceptable_iff {ackPkt : RuntimePacket}
    (hrecov : validateSessionRecoveryRequest request = .ok ())
    (hprep : prepare config request pres decision nowMs random registry = .ok a)
    (hack : a.ackPacket = .ok ackPkt) :
    Acceptable request ackPkt ↔ ¬(a.accepted = true ∧ Mismatched config request) := by
  have hdeclares := prepare_declares hprep
  obtain ⟨-, hparse, -⟩ := Attempt.ackPacket_ok hack
  rw [← hdeclares.recovery_iff (prepare_ok hprep).1 hrecov]
  constructor
  · intro h
    obtain ⟨-, ack, hack', hvalid, -⟩ := h
    rw [hparse] at hack'
    cases hack'
    exact hvalid
  · intro hvalid
    exact ⟨Attempt.ackPacket_survives hack, a.ack, hparse, hvalid, hdeclares.body_length hack,
      applySessionOpenAck_of_status⟩

theorem openRequest_recovery (h : openRequest packet = .ok request) :
    validateSessionRecoveryRequest request = .ok () := by
  obtain ⟨m, -, h⟩ := bind_eq_ok.mp h
  obtain ⟨_, hrecov, h⟩ := bind_eq_ok.mp h
  obtain ⟨-, h⟩ := of_refused_eq_ok rfl h
  cases h
  exact liftNnrp_eq_ok.mp hrecov

theorem open_ack_acceptable_iff {packet ackPacket : RuntimePacket}
    (hopen : openRequest packet = .ok request)
    (hprepare : prepare config request packet.body decision nowMs random (retain nowMs registry) =
      .ok a)
    (hack : a.ackPacket = .ok ackPacket) :
    Acceptable request ackPacket ↔
      ¬(Granted config request packet.body decision nowMs registry ∧
        Mismatched config request) := by
  have hrecov := openRequest_recovery hopen
  rw [acceptable_iff hrecov hprepare hack, prepare_accepted_iff hrecov hprepare]

end

instance (config : NnrpServerConfig) (request : SessionOpenMetadata) :
    Decidable (Mismatched config request) := inferInstanceAs (Decidable (_ ∨ _))

def tensorRequest : SessionOpenMetadata :=
  ⟨0, profileTensor, .interactive, sessionFlagAllowResume, 0, 0, 0, 0, 0, 0, 0, 0, 0⟩

variable (resumeWindowMs : UInt32)

def tokenConfig : NnrpServerConfig := { tensorConfig with resumeWindowMs }

def tensorAttempt : Except RuntimeError Attempt :=
  prepare (tokenConfig resumeWindowMs) tensorRequest [] .accept 0 (some UInt8.ofNat) (retain 0 ∅)

theorem tensorAttempt_written : ∃ a ackPkt,
    tensorAttempt resumeWindowMs = .ok a ∧ a.accepted = true ∧ a.ackPacket = .ok ackPkt := by
  obtain ⟨a, hprep, hacc⟩ : ∃ a, tensorAttempt resumeWindowMs = .ok a ∧ a.accepted = true :=
    ⟨_, rfl, rfl⟩
  have hdeclares := prepare_declares hprep
  have htoken : a.resumeToken.length ≤ 4 := by
    rw [← hdeclares.tokenLength, hdeclares.token]
    split_ifs
    · exact le_rfl
    · exact Nat.zero_le 4
  obtain ⟨ackPkt, hack⟩ := hdeclares.ackPacket_of_fits (by rw [if_pos hacc]; omega)
  exact ⟨a, ackPkt, hprep, hacc, hack⟩

theorem tensor_open_acceptable : ∃ a ackPacket, tensorAttempt 1000 = .ok a ∧ a.accepted = true ∧
    a.ackPacket = .ok ackPacket ∧ Acceptable tensorRequest ackPacket := by
  have hopen : openRequest (sessionOpenPacket 0 1 []) = .ok tensorRequest := by decide +kernel
  obtain ⟨a, ackPacket, hprep, hacc, hack⟩ := tensorAttempt_written 1000
  refine ⟨a, ackPacket, hprep, hacc, hack, ?_⟩
  exact (open_ack_acceptable_iff hopen hprep hack).mpr fun h => absurd h.2 (by decide)

/-- The server promises a resumption within no time. -/
theorem empty_window_refused : openRequest (sessionOpenPacket 0 1 []) = .ok tensorRequest ∧
    ∃ a ackPacket, tensorAttempt 0 = .ok a ∧ a.ackPacket = .ok ackPacket ∧
      ¬Acceptable tensorRequest ackPacket := by
  have hopen : openRequest (sessionOpenPacket 0 1 []) = .ok tensorRequest := by decide +kernel
  obtain ⟨a, ackPacket, hprep, hacc, hack⟩ := tensorAttempt_written 0
  refine ⟨hopen, a, ackPacket, hprep, hack, ?_⟩
  rw [acceptable_iff (openRequest_recovery hopen) hprep hack, not_not]
  exact ⟨hacc, by decide⟩

end Nnrp.Server
