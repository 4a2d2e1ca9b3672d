import Nnrp.Lifecycle

/-!
# Opening a session on the client

The request that an open writes and the checks that it makes on the acknowledgement. The
lifecycle is the one of the whole client connection; a session object gets a copy of it.
-/

namespace Nnrp.Client
open Protocol ByteOrder Packet Session Lifecycle Fallible

structure NnrpClientConfig where
  requestedSessionId : UInt32
  profileId : UInt16
  (schemaId schemaVersion : UInt32)
  priorityClass : SessionPriorityClass
  defaultDeadlineMs : UInt32
  maxInFlightOperations : UInt16
  leaseTtlHintMs : UInt32
  allowResume : Bool
  resumeTokenBytes : UInt32
  cacheHints : List CacheObjectKind
  deriving DecidableEq

structure NnrpSessionRecoveryTicket where
  sessionId : UInt32
  resumeToken : Bytes
  resumeFromOperationId : Option UInt64
  resumeWindowMs : UInt32
  deriving DecidableEq

variable (config : NnrpClientConfig)

def sessionOpenMetadata (resumeTokenBytes : ℕ) : Except RuntimeError SessionOpenMetadata :=
  if resumeTokenBytes < 2 ^ 32 then
    .ok
      { requestedSessionId := config.requestedSessionId
        profileId := config.profileId
        priorityClass := config.priorityClass
        sessionFlags := if config.allowResume then sessionFlagAllowResume else 0
        schemaId := config.schemaId
        schemaVersion := config.schemaVersion
        defaultDeadlineMs := config.defaultDeadlineMs
        maxInFlightOperations := config.maxInFlightOperations
        leaseTtlHintMs := config.leaseTtlHintMs
        resumeTokenBytes := UInt32.ofNat resumeTokenBytes
        authBytes := 0
        sessionExtensionBytes := 0
        clientSessionTag := config.requestedSessionId.toUInt64 }
  else .error (.unexpectedMessage "session resume token exceeds wire length")

def ticketToken (ticket : Option NnrpSessionRecoveryTicket) : Bytes :=
  (ticket.map NnrpSessionRecoveryTicket.resumeToken).getD []

def openPacket (metadata : SessionOpenMetadata) (resumeToken : Bytes) :
    Except RuntimeError RuntimePacket := do
  let metadataBytes ← liftNnrp metadata.toBytes
  liftNnrp (RuntimePacket.new (CommonHeader.new .sessionOpen 48 0) metadataBytes resumeToken)

structure Opened where
  ack : SessionOpenAckMetadata
  lifecycle : ConnectionLifecycle
  recoveryTicket : Option NnrpSessionRecoveryTicket

def expectedBodyLen (ack : SessionOpenAckMetadata) : Except RuntimeError ℕ :=
  match checkedAddUsize ack.resumeTokenBytes.toNat ack.sessionExtensionBytes.toNat with
  | some len => .ok len
  | none => .error (.unexpectedMessage "SESSION_OPEN_ACK body length overflows")

def validateOpenAck (metadata : SessionOpenMetadata)
    (ack : SessionOpenAckMetadata) (body : Bytes) : Except RuntimeError Unit := do
  let _ ← liftNnrp (validateSessionRecoveryAck metadata ack)
  let expected ← expectedBodyLen ack
  if body.length ≠ expected then
    throw (.unexpectedMessage
      "SESSION_OPEN_ACK body length does not match token and extension lengths")
  if ack.sessionStatus ≠ .opened ∧ ack.sessionStatus ≠ .resumed then
    throw (.sessionRejected ack.sessionErrorCode body)
  if ack.sessionExtensionBytes ≠ 0 then
    throw (.unexpectedMessage "accepted SESSION_OPEN_ACK has an unsupported extension body")
  if 0 < ack.resumeTokenBytes ∧ 0 < config.resumeTokenBytes ∧
      config.resumeTokenBytes < ack.resumeTokenBytes then
    throw (.unexpectedMessage "SESSION_OPEN_ACK resume token exceeds client capacity")

/-- What an open does with the control packet that it reads after its request. -/
def acceptOpenAck (metadata : SessionOpenMetadata)
    (ticket : Option NnrpSessionRecoveryTicket) (lifecycle : ConnectionLifecycle)
    (packet : RuntimePacket) : Except RuntimeError Opened := do
  if packet.messageType ≠ .sessionOpenAck then
    throw (.unexpectedMessage "client expected SESSION_OPEN_ACK")
  let ack ← liftNnrp (SessionOpenAckMetadata.parse packet.metadata)
  validateOpenAck config metadata ack packet.body
  let lifecycle ← liftNnrp (lifecycle.applySessionOpenAck ack)
  pure
    { ack, lifecycle
      recoveryTicket :=
        if 0 < ack.resumeTokenBytes then
          some ⟨ack.sessionId, packet.body, ticket.bind (·.resumeFromOperationId),
            ack.resumeWindowMs⟩
        else none }

variable {cfg : NnrpClientConfig} {m : SessionOpenMetadata} {ack : SessionOpenAckMetadata}
  {body : Bytes} {opened : Opened}

theorem validateOpenAck_ok (h : validateOpenAck cfg m ack body = .ok ()) :
    ack.sessionStatus = .opened ∨ ack.sessionStatus = .resumed := by
  rw [validateOpenAck] at h
  obtain ⟨_, -, h⟩ := bind_eq_ok.mp h
  obtain ⟨_, -, h⟩ := bind_eq_ok.mp h
  by_contra hstatus
  rw [not_or] at hstatus
  split_ifs at h <;> cases h

theorem validateSessionRecoveryAck_opened (hs : ack.sessionStatus = .opened) :
    (∃ outcome, validateSessionRecoveryAck m ack = .ok outcome) ∨
      ∃ rule, validateSessionRecoveryAck m ack = .error (.invalidProtocolCombination rule) := by
  simp only [validateSessionRecoveryAck, hs]
  split_ifs
  · exact .inr ⟨_, rfl⟩
  · exact .inr ⟨_, rfl⟩
  all_goals exact .inl ⟨_, rfl⟩

theorem validateOpenAck_ne_exists (hs : ack.sessionStatus = .opened) {s : UInt32} :
    validateOpenAck cfg m ack body ≠ .error (.protocol (.sessionAlreadyExists s)) := by
  intro h
  rw [validateOpenAck] at h
  rcases bind_eq_error.mp h with h | ⟨_, -, h⟩
  · rcases validateSessionRecoveryAck_opened hs with ⟨_, hrecov⟩ | ⟨_, hrecov⟩
    all_goals
      rw [hrecov] at h
      cases h
  · rcases bind_eq_error.mp h with h | ⟨_, -, h⟩
    · unfold expectedBodyLen at h
      split at h <;> cases h
    · split_ifs at h <;> cases h

theorem validateOpenAck_opened (hs : ack.sessionStatus = .opened)
    (hext : ack.sessionExtensionBytes = 0) (hbody : body.length = ack.resumeTokenBytes.toNat)
    (hresume : ack.sessionFlagsAck &&& sessionAckFlagResumeEnabled ≠ 0 →
      ack.resumeWindowMs ≠ 0 ∧ ack.resumeTokenBytes ≠ 0)
    (hcap : 0 < ack.resumeTokenBytes → 0 < cfg.resumeTokenBytes →
      ack.resumeTokenBytes ≤ cfg.resumeTokenBytes) :
    validateOpenAck cfg m ack body = .ok () := by
  have hrecov : ∃ outcome, validateSessionRecoveryAck m ack = .ok outcome := by
    have hbad : ¬(decide (ack.sessionFlagsAck &&& sessionAckFlagResumeEnabled ≠ 0) = true ∧
        (ack.resumeWindowMs = 0 ∨ ack.resumeTokenBytes = 0)) := by
      rintro ⟨hflag, hzero⟩
      obtain ⟨hwindow, htoken⟩ := hresume (of_decide_eq_true hflag)
      exact hzero.elim hwindow htoken
    simp only [validateSessionRecoveryAck, hs, if_neg hbad]
    split_ifs
    all_goals exact ⟨_, rfl⟩
  have hlen : expectedBodyLen ack = .ok body.length := by
    have hzero : ack.sessionExtensionBytes.toNat = 0 := by rw [hext]; rfl
    have hlt := ack.resumeTokenBytes.toNat_lt
    have hfits : ack.resumeTokenBytes.toNat + 0 < 2 ^ 64 := by omega
    rw [expectedBodyLen, hzero, checkedAddUsize, if_pos hfits, hbody]
    rfl
  have hfit : ¬(0 < ack.resumeTokenBytes ∧ 0 < cfg.resumeTokenBytes ∧
      cfg.resumeTokenBytes < ack.resumeTokenBytes) := by
    rintro ⟨hpos, hclient, hlt⟩
    exact absurd hlt (UInt32.not_lt.mpr (hcap hpos hclient))
  obtain ⟨outcome, hrecov⟩ := hrecov
  simp [validateOpenAck, hrecov, liftNnrp, hlen, hs, hext, if_neg hfit]

end Nnrp.Client
