import Nnrp.OrderedMap
import Nnrp.SessionMetadata

/-!
# Lifecycle of the sessions of a connection

`ConnectionLifecycle` records every session that an acknowledgement has established on a
connection, with its state. Sessions that are closed stay in it.
-/

namespace Nnrp.Lifecycle
open Protocol Packet Session OrderedMap

inductive ConnectionLifecycleState
  | «open» | closing | closed
  deriving DecidableEq

inductive SessionLifecycleState
  | «open» | resumed | closing | draining | closed
  deriving DecidableEq

def SessionLifecycleState.acceptsSessionScopedMessages : SessionLifecycleState → Bool
  | .open | .resumed | .closing | .draining => true
  | .closed => false

def SessionLifecycleState.acceptsNewOperations : SessionLifecycleState → Bool
  | .open | .resumed => true
  | .closing | .draining | .closed => false

structure SessionLifecycle where
  sessionId : UInt32
  state : SessionLifecycleState
  profileId : UInt16
  priorityClass : SessionPriorityClass
  (schemaId schemaVersion : UInt32)
  maxInFlightOperations : UInt16
  routeScopeId : UInt32
  lastOperationId : UInt64
  sessionErrorCode : UInt32
  deriving DecidableEq

structure ConnectionLifecycle where
  state : ConnectionLifecycleState := .open
  sessions : BTreeMap UInt32 SessionLifecycle := ∅
  establishedSessionStates : BTreeMap UInt32 SessionLifecycleState := ∅

namespace ConnectionLifecycle

variable (l : ConnectionLifecycle)

def requireConnectionOpen : Except NnrpError Unit :=
  match l.state with
  | .open => .ok ()
  | .closing | .closed => .error .connectionNotOpen

def established (state : SessionLifecycleState) (ack : SessionOpenAckMetadata) :
    ConnectionLifecycle :=
  { l with
    establishedSessionStates := l.establishedSessionStates.insert ack.sessionId state
    sessions := l.sessions.insert ack.sessionId
      { sessionId := ack.sessionId
        state := state
        profileId := ack.acceptedProfileId
        priorityClass := ack.acceptedPriorityClass
        schemaId := ack.schemaId
        schemaVersion := ack.schemaVersion
        maxInFlightOperations := ack.maxInFlightOperations
        routeScopeId := ack.routeScopeId
        lastOperationId := 0
        sessionErrorCode := ack.sessionErrorCode } }

def establish (state : SessionLifecycleState) (ack : SessionOpenAckMetadata) :
    Except NnrpError ConnectionLifecycle :=
  if ack.sessionId = 0 then
    .error (.invalidProtocolCombination
      "successful SESSION_OPEN_ACK requires a non-zero session_id")
  else if ack.sessionId ∈ l.sessions then .error (.sessionAlreadyExists ack.sessionId)
  else .ok (l.established state ack)

def applySessionOpenAck (ack : SessionOpenAckMetadata) : Except NnrpError ConnectionLifecycle := do
  l.requireConnectionOpen
  match ack.sessionStatus with
  | .opened => l.establish .open ack
  | .resumed => l.establish .resumed ack
  | .rejected | .retryLater =>
    if ack.sessionId ≠ 0 then
      throw (.invalidProtocolCombination
        "rejected SESSION_OPEN_ACK must not install a session_id")
    pure l

def beginSessionClose (header : CommonHeader) (close : SessionCloseMetadata) :
    Except NnrpError ConnectionLifecycle := do
  l.requireConnectionOpen
  if header.messageType ≠ .sessionClose then
    throw (.invalidProtocolCombination
      "SESSION_CLOSE lifecycle transition requires a SESSION_CLOSE header")
  if header.sessionId = 0 then
    throw (.invalidProtocolCombination "SESSION_CLOSE requires header.session_id!=0")
  match l.sessions[header.sessionId]? with
  | none => throw (.unknownSession header.sessionId)
  | some session =>
    if ¬session.state.acceptsNewOperations then throw (.sessionNotOpen header.sessionId)
    pure { l with
      sessions := l.sessions.insert header.sessionId
        { session with
          state := .closing
          lastOperationId := close.lastOperationId
          sessionErrorCode := close.sessionErrorCode } }

def closeAckState (sessionId : UInt32) : SessionCloseStatus → Except NnrpError SessionLifecycleState
  | .acknowledged => .ok .closing
  | .draining => .ok .draining
  | .closed => .ok .closed
  | .rejected =>
    match l.establishedSessionStates[sessionId]? with
    | some state => .ok state
    | none => .error (.unknownSession sessionId)

def applySessionCloseAck (header : CommonHeader) (ack : SessionCloseAckMetadata) :
    Except NnrpError ConnectionLifecycle := do
  l.requireConnectionOpen
  if header.messageType ≠ .sessionCloseAck then
    throw (.invalidProtocolCombination
      "SESSION_CLOSE_ACK lifecycle transition requires a SESSION_CLOSE_ACK header")
  if header.sessionId = 0 then
    throw (.invalidProtocolCombination "SESSION_CLOSE_ACK requires header.session_id!=0")
  match l.sessions[header.sessionId]? with
  | none => throw (.unknownSession header.sessionId)
  | some session =>
    if session.state = .closed then throw (.sessionNotOpen header.sessionId)
    let state ← l.closeAckState header.sessionId ack.closeStatus
    pure { l with
      sessions := l.sessions.insert header.sessionId
        { session with
          state := state
          lastOperationId := ack.lastOperationId
          sessionErrorCode := ack.sessionErrorCode } }

variable {l} {l' : ConnectionLifecycle} {ack : SessionOpenAckMetadata}
  {state : SessionLifecycleState}

theorem establish_ok_iff : l.establish state ack = .ok l' ↔
    ack.sessionId ≠ 0 ∧ ack.sessionId ∉ l.sessions ∧ l' = l.established state ack := by
  simp only [establish, Fallible.refused_eq_ok_iff, Except.ok.injEq, @eq_comm _ l']

theorem requireConnectionOpen_ok (h : l.requireConnectionOpen = .ok ()) : l.state = .open := by
  rw [requireConnectionOpen] at h
  split at h
  · assumption
  · cases h
  · cases h

theorem applySessionOpenAck_eq (hopen : l.state = .open)
    (hstatus : ack.sessionStatus = .opened ∨ ack.sessionStatus = .resumed) :
    ∃ state, l.applySessionOpenAck ack = l.establish state ack := by
  rcases hstatus with hstatus | hstatus
  all_goals
    simp only [applySessionOpenAck, requireConnectionOpen, hopen, hstatus]
    exact ⟨_, rfl⟩

theorem applySessionOpenAck_ok (h : l.applySessionOpenAck ack = .ok l')
    (hstatus : ack.sessionStatus = .opened ∨ ack.sessionStatus = .resumed) :
    l.state = .open ∧ ack.sessionId ∉ l.sessions ∧ ∃ state, l' = l.established state ack := by
  have hopen : l.state = .open := by
    rw [applySessionOpenAck] at h
    obtain ⟨_, hrequire, -⟩ := Fallible.bind_eq_ok.mp h
    exact requireConnectionOpen_ok hrequire
  obtain ⟨state, heq⟩ := applySessionOpenAck_eq hopen hstatus
  obtain ⟨-, hnew, hlife⟩ := establish_ok_iff.mp (heq ▸ h)
  exact ⟨hopen, hnew, state, hlife⟩

def withSession (sessionId : UInt32) : ConnectionLifecycle :=
  established {} .open
    { sessionId, acceptedProfileId := 0, acceptedPriorityClass := .interactive
      sessionStatus := .opened, schemaId := 0, schemaVersion := 0, grantedOperationCredit := 1
      maxInFlightOperations := 1, leaseTtlMs := 0, resumeWindowMs := 0, resumeTokenBytes := 0
      sessionExtensionBytes := 0, serverSessionTag := 0, routeScopeId := 0, sessionErrorCode := 0
      sessionFlagsAck := 0 }

theorem mem_established {s : UInt32} :
    s ∈ (l.established state ack).sessions ↔ s = ack.sessionId ∨ s ∈ l.sessions := by
  rw [established, mem_map_insert, eq_comm]

end ConnectionLifecycle

end Nnrp.Lifecycle
