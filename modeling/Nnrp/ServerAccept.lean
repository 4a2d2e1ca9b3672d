import Nnrp.LabelledRun
import Nnrp.SessionRegistry
import Nnrp.TransportProbe

/-!
# Accepting sessions on many connections

Each connection is served by its own task: after the hello it reads control packets one by one,
answers probes and handles a `SESSION_OPEN` to its end before it reads on. The open awaits the
application policy, the registration with the connection driver and the write of its
acknowledgement, and it touches the shared registry twice, after the first of them and after the
last. `Phase` is
where the task of a connection stands between two atomic steps, and a label of `step` is one
atomic step of one task, of a session object or of the environment, with the answers of the
policy, the random source, the driver and the transport.
-/

namespace Nnrp.Server
open Protocol ByteOrder Packet Session OrderedMap TransportProbe Lifecycle Option Fallible Function
open ConnectionLifecycle LabelledRun

def saturatingAdd (a b : UInt64) : UInt64 :=
  if a.toNat + b.toNat < 2 ^ 64 then a + b else 0xffffffffffffffff

def openRequest (packet : RuntimePacket) : Except RuntimeError SessionOpenMetadata := do
  let request ← liftNnrp (SessionOpenMetadata.parse packet.metadata)
  liftNnrp (validateSessionRecoveryRequest request)
  if packet.body.length ≠ request.resumeTokenBytes.toNat then
    throw (.unexpectedMessage "SESSION_OPEN resume token length does not match body")
  pure request

/-- An open after its registry lookup, with the acknowledgement that it is going to write. -/
structure Attempt where
  request : SessionOpenMetadata
  presented : Bytes
  nowMs : UInt64
  accepted : Bool
  sessionId : UInt32
  priorLastOperationId : UInt64
  resumeEnabled : Bool
  resumeToken : Bytes
  diagnostic : String
  ack : SessionOpenAckMetadata
  sessionStatus_eq : ack.sessionStatus =
    if accepted = false then .rejected
    else if 0 < request.resumeTokenBytes then .resumed
    else .opened
  ack_sessionId_ne_zero : accepted = true → ack.sessionId ≠ 0
  deriving DecidableEq

def Attempt.resumeAttempt (a : Attempt) : Prop := 0 < a.request.resumeTokenBytes

def fill (random : ℕ → UInt8) (len : ℕ) : Bytes := (List.range len).map random

variable (config : NnrpServerConfig)

def issueToken (resumeEnabled : Bool) (random : Option (ℕ → UInt8)) : Except RuntimeError Bytes :=
  if resumeEnabled then
    if 4096 < config.resumeTokenBytes.toNat then
      .error (.unexpectedMessage "configured resume token length exceeds runtime limit")
    else
      match random with
      | some random => .ok (fill random config.resumeTokenBytes.toNat)
      | none => .error (.internal "operating system random source failed")
  else .ok []

def diagnosticBytes (diagnostic : String) : Bytes := diagnostic.toUTF8.toList

def ackExtensionBytes (accepted : Bool) (diagnostic : String) : Except RuntimeError UInt32 :=
  if accepted then .ok 0
  else if (diagnosticBytes diagnostic).length < 2 ^ 32 then
    .ok (UInt32.ofNat (diagnosticBytes diagnostic).length)
  else .error (.unexpectedMessage "server policy diagnostic exceeds wire length")

def openAck (request : SessionOpenMetadata) (allocation : Allocation)
    (validationError : Option UInt32) (accepted resumeEnabled : Bool) (resumeToken : Bytes)
    (sessionExtensionBytes : UInt32) : SessionOpenAckMetadata where
  sessionId := if accepted then allocation.sessionId else 0
  acceptedProfileId := request.profileId
  acceptedPriorityClass := request.priorityClass
  sessionStatus :=
    if accepted = false then .rejected
    else if 0 < request.resumeTokenBytes then .resumed
    else .opened
  schemaId := request.schemaId
  schemaVersion := request.schemaVersion
  grantedOperationCredit := config.grantedOperationCredit
  maxInFlightOperations := config.maxInFlightOperations
  leaseTtlMs := config.leaseTtlMs
  resumeWindowMs := config.resumeWindowMs
  resumeTokenBytes := UInt32.ofNat resumeToken.length
  sessionExtensionBytes := sessionExtensionBytes
  serverSessionTag := if accepted then allocation.sessionId.toUInt64 else 0
  routeScopeId := 0
  sessionErrorCode := (validationError.or allocation.error).getD sessionErrorNone
  sessionFlagsAck := if resumeEnabled then sessionAckFlagResumeEnabled else 0

section
variable {cfg : NnrpServerConfig} {req : SessionOpenMetadata} {allocation : Allocation}
  {validationError : Option UInt32} {accepted resumeEnabled : Bool} {resumeToken : Bytes}
  {sessionExtensionBytes : UInt32}

theorem openAck_sessionId_ne_zero (h : accepted = true → allocation.error = none)
    (hacc : accepted = true) :
    (openAck cfg req allocation validationError accepted resumeEnabled resumeToken
      sessionExtensionBytes).sessionId ≠ 0 := by
  have hid : (openAck cfg req allocation validationError accepted resumeEnabled resumeToken
      sessionExtensionBytes).sessionId = allocation.sessionId := if_pos hacc
  rw [hid]
  exact Allocation.sessionId_ne_zero (h hacc)

end

def prepare (request : SessionOpenMetadata) (presented : Bytes)
    (decision : NnrpServerPolicyDecision) (nowMs : UInt64) (random : Option (ℕ → UInt8))
    (registry : Registry) : Except RuntimeError Attempt := do
  let validation := config.validateClientOpen request decision
  let validationError := match validation with
    | .ok () => none
    | .error decision => some decision.sessionErrorCode
  let diagnostic := match validation with
    | .ok () => ""
    | .error decision => decision.diagnostic.getD ""
  let allocation := allocate request presented nowMs registry
  let accepted : Bool := validationError = none ∧ allocation.error = none
  let resumeEnabled : Bool := accepted ∧ request.sessionFlags &&& sessionFlagAllowResume ≠ 0 ∧
    0 < config.resumeTokenBytes
  let resumeToken ← issueToken config resumeEnabled random
  let sessionExtensionBytes ← ackExtensionBytes accepted diagnostic
  pure
    { request, presented, nowMs, accepted, resumeEnabled, resumeToken, diagnostic
      sessionId := allocation.sessionId
      priorLastOperationId := allocation.priorLastOperationId
      ack := openAck config request allocation validationError accepted resumeEnabled resumeToken
        sessionExtensionBytes
      sessionStatus_eq := rfl
      ack_sessionId_ne_zero := openAck_sessionId_ne_zero fun h => (of_decide_eq_true h).2 }

def Attempt.ackPacket (a : Attempt) : Except RuntimeError RuntimePacket := do
  let body := if a.accepted then a.resumeToken else diagnosticBytes a.diagnostic
  let header := { CommonHeader.new .sessionOpenAck 56 (UInt32.ofNat body.length) with
    sessionId := a.ack.sessionId }
  let metadata ← liftNnrp a.ack.toBytes
  liftNnrp (RuntimePacket.new header metadata body)

def Attempt.record (a : Attempt) (config : NnrpServerConfig) (connectionNonce : ℕ) :
    RuntimeSessionRecord where
  sessionId := a.sessionId
  profileId := a.ack.acceptedProfileId
  schemaId := a.ack.schemaId
  schemaVersion := a.ack.schemaVersion
  resumeEnabled := a.resumeEnabled
  resumeTokenBytes := a.ack.resumeTokenBytes
  resumeToken := a.resumeToken
  resumeExpiresAtMs := saturatingAdd a.nowMs config.resumeWindowMs.toUInt64
  lastOperationId := a.priorLastOperationId
  active := true
  connectionNonce := connectionNonce

/-- `accept_connection_session` run to its end with nothing in between: the attempt, the
acknowledgement and the registry that it leaves. -/
def acceptConnectionSession (connectionNonce : ℕ)
    (packet : RuntimePacket) (decision : NnrpServerPolicyDecision) (nowMs : UInt64)
    (random : Option (ℕ → UInt8)) (registry : Registry) :
    Except RuntimeError (Attempt × RuntimePacket × Registry) := do
  let request ← openRequest packet
  let a ← prepare config request packet.body decision nowMs random (retain nowMs registry)
  let ackPacket ← a.ackPacket
  if a.accepted then
    let _ ← liftNnrp (({} : ConnectionLifecycle).applySessionOpenAck a.ack)
    pure (a, ackPacket,
      (retain nowMs registry).insert a.sessionId (a.record config connectionNonce))
  else pure (a, ackPacket, retain nowMs registry)

/-- Where the task of a connection stands. `broken` has left the read loop and has not yet
retired the sessions of the connection. -/
inductive Phase
  | hello
  | idle
  | evaluating (request : SessionOpenMetadata) (presented : Bytes)
  | locking (request : SessionOpenMetadata) (presented : Bytes)
      (decision : NnrpServerPolicyDecision) (nowMs : UInt64)
  | registering (attempt : Attempt)
  | acking (attempt : Attempt)
  | acked (attempt : Attempt)
  | inserted (attempt : Attempt)
  | broken
  | down
  deriving DecidableEq

structure ServerConnection where
  phase : Phase := .down
  sessionIds : BTreeSet UInt32 := ∅

structure SessionObject where
  sessionId : UInt32
  connectionNonce : ℕ
  closed : Bool
  deriving DecidableEq

/-- The shared registry, the tasks of the connections by their nonce and the session objects
that were handed to the application. `acks` and `issued` are the acknowledgements that were
written and the resume tokens that were drawn, each with its session. -/
structure ServerState where
  config : NnrpServerConfig
  registry : Registry := ∅
  clock : UInt64 := 0
  connections : ℕ → ServerConnection := fun _ => {}
  -- An `AtomicU64` of the source: `2 ^ 64` connections are out of reach, so it does not wrap.
  nextConnectionNonce : ℕ := 1
  sessions : ℕ → SessionObject := fun _ => ⟨0, 0, true⟩
  sessionCount : ℕ := 0
  listenerAlive : Bool := true
  acks : List Attempt := []
  issued : List (UInt32 × Bytes) := []

def ServerState.start (config : NnrpServerConfig) : ServerState := { config }

namespace ServerState

variable (w : ServerState)

abbrev phase (n : ℕ) : Phase := (w.connections n).phase

@[simps]
def setPhase (n : ℕ) (phase : Phase) : ServerState :=
  { w with connections := update w.connections n { w.connections n with phase := phase } }

@[simps]
def setRegistry (registry : Registry) : ServerState := { w with registry := registry }

@[simps]
def connect : ServerState :=
  { w with
    nextConnectionNonce := w.nextConnectionNonce + 1
    connections := update w.connections w.nextConnectionNonce { phase := .hello } }

@[simps]
def issue (a : Attempt) : ServerState :=
  { w with issued :=
      if a.resumeEnabled then w.issued ++ [(a.sessionId, a.resumeToken)] else w.issued }

@[simps]
def recordAck (a : Attempt) : ServerState := { w with acks := w.acks ++ [a] }

@[simps]
def addSession (n : ℕ) (a : Attempt) : ServerState :=
  { w with
    sessions := update w.sessions w.sessionCount ⟨a.sessionId, n, false⟩
    sessionCount := w.sessionCount + 1
    connections := update w.connections n
      ⟨.idle, (w.connections n).sessionIds.insert a.sessionId⟩ }

@[simps]
def closeSession (k : ℕ) : ServerState :=
  { w with
    sessions := update w.sessions k { w.sessions k with closed := true }
    registry := removeFromRegistry w.registry (w.sessions k).sessionId
      (w.sessions k).connectionNonce }

/-- One control packet in the read loop; the last two arguments are the time at which a probe
is answered and whether the answer could be written. -/
def receivePhase (packet : RuntimePacket) (unixTimeUs : UInt64) (written : Bool) : Phase :=
  match packet.messageType with
  | .transportProbe =>
    match probeAck packet unixTimeUs with
    | .ok _ => if written then .idle else .broken
    | .error _ => .broken
  | .sessionOpen =>
    match openRequest packet with
    | .ok request => .evaluating request packet.body
    | .error _ => .broken
  | _ => .broken

variable (n : ℕ)

def lookup (request : SessionOpenMetadata) (presented : Bytes)
    (decision : NnrpServerPolicyDecision) (nowMs : UInt64) (random : Option (ℕ → UInt8)) :
    ServerState :=
  let registry := retain nowMs w.registry
  let w := w.setRegistry registry
  match prepare w.config request presented decision nowMs random registry with
  | .error _ => w.setPhase n .broken
  | .ok a =>
    if a.accepted then (w.issue a).setPhase n (.registering a) else w.setPhase n (.acking a)

def writeAck (a : Attempt) (written : Bool) : ServerState :=
  match a.ackPacket with
  | .error _ => w.setPhase n .broken
  | .ok _ =>
    if written then (w.recordAck a).setPhase n (if a.accepted then .acked a else .idle)
    else w.setPhase n .broken

def insert (a : Attempt) : ServerState :=
  match ({} : ConnectionLifecycle).applySessionOpenAck a.ack with
  | .error _ => w.setPhase n .broken
  | .ok _ =>
    (w.setRegistry (w.registry.insert a.sessionId (a.record w.config n))).setPhase n (.inserted a)

def deliver (a : Attempt) : ServerState :=
  if w.listenerAlive then w.addSession n a
  else (w.setRegistry (markSessionInactive w.registry a.sessionId n)).setPhase n .broken

def teardown : ServerState :=
  setPhase (w.setRegistry
    (markConnectionSessionsInactive w.registry n (w.connections n).sessionIds)) n .down

end ServerState

inductive Event
  | connect
  | hello (n : ℕ) (accepted : Bool)
  | receive (n : ℕ) (packet : RuntimePacket) (unixTimeUs : UInt64) (written : Bool)
  | readFailed (n : ℕ)
  | evaluate (n : ℕ) (decision : NnrpServerPolicyDecision)
  | lookup (n : ℕ) (random : Option (ℕ → UInt8))
  | register (n : ℕ) (registered : Bool)
  | writeAck (n : ℕ) (written : Bool)
  | insert (n : ℕ)
  | deliver (n : ℕ)
  | teardown (n : ℕ)
  | closeSession (k : ℕ)
  | operation (k : ℕ) (operationId : UInt64)
  | dropListener
  | tick (nowMs : UInt64)

/-- One atomic step; `none` where the task is elsewhere. -/
def step (w : ServerState) : Event → Option ServerState
  | .connect => some w.connect
  | .hello n accepted =>
    match w.phase n with
    | .hello => some (w.setPhase n (if accepted then .idle else .down))
    | _ => none
  | .receive n packet unixTimeUs written =>
    match w.phase n with
    | .idle => some (w.setPhase n (ServerState.receivePhase packet unixTimeUs written))
    | _ => none
  | .readFailed n =>
    match w.phase n with
    | .idle => some (w.setPhase n .broken)
    | _ => none
  | .evaluate n decision =>
    match w.phase n with
    | .evaluating request presented =>
      some (w.setPhase n (.locking request presented decision w.clock))
    | _ => none
  | .lookup n random =>
    match w.phase n with
    | .locking request presented decision nowMs =>
      some (w.lookup n request presented decision nowMs random)
    | _ => none
  | .register n registered =>
    match w.phase n with
    | .registering a => some (w.setPhase n (if registered then .acking a else .broken))
    | _ => none
  | .writeAck n written =>
    match w.phase n with
    | .acking a => some (w.writeAck n a written)
    | _ => none
  | .insert n =>
    match w.phase n with
    | .acked a => some (w.insert n a)
    | _ => none
  | .deliver n =>
    match w.phase n with
    | .inserted a => some (w.deliver n a)
    | _ => none
  | .teardown n =>
    match w.phase n with
    | .broken => some (w.teardown n)
    | _ => none
  | .closeSession k => if k < w.sessionCount then some (w.closeSession k) else none
  | .operation k operationId =>
    if k < w.sessionCount then
      some (w.setRegistry
        (updateRegistryLastOperation w.registry (w.sessions k).sessionId operationId))
    else none
  | .dropListener => some { w with listenerAlive := false }
  | .tick nowMs => if w.clock ≤ nowMs then some { w with clock := nowMs } else none

inductive Transition (w : ServerState) : Event → ServerState → Prop
  | connect : Transition w .connect w.connect
  | hello {n accepted} (hp : w.phase n = .hello) :
      Transition w (.hello n accepted) (w.setPhase n (if accepted then .idle else .down))
  | receive {n packet unixTimeUs written} (hp : w.phase n = .idle) :
      Transition w (.receive n packet unixTimeUs written)
        (w.setPhase n (ServerState.receivePhase packet unixTimeUs written))
  | readFailed {n} (hp : w.phase n = .idle) :
      Transition w (.readFailed n) (w.setPhase n .broken)
  | evaluate {n decision request presented} (hp : w.phase n = .evaluating request presented) :
      Transition w (.evaluate n decision)
        (w.setPhase n (.locking request presented decision w.clock))
  | failed {n random request presented decision nowMs}
      (hp : w.phase n = .locking request presented decision nowMs) :
      Transition w (.lookup n random)
        ((w.setRegistry (retain nowMs w.registry)).setPhase n .broken)
  | refused {n random request presented decision nowMs a}
      (hp : w.phase n = .locking request presented decision nowMs) (ha : a.accepted = false) :
      Transition w (.lookup n random)
        ((w.setRegistry (retain nowMs w.registry)).setPhase n (.acking a))
  | granted {n random request presented decision nowMs a}
      (hp : w.phase n = .locking request presented decision nowMs)
      (ha : prepare w.config request presented decision nowMs random (retain nowMs w.registry) =
        .ok a)
      (hacc : a.accepted = true) :
      Transition w (.lookup n random)
        (((w.setRegistry (retain nowMs w.registry)).issue a).setPhase n (.registering a))
  | register {n registered a} (hp : w.phase n = .registering a) :
      Transition w (.register n registered)
        (w.setPhase n (if registered then .acking a else .broken))
  | ackFailed {n written a} (hp : w.phase n = .acking a) :
      Transition w (.writeAck n written) (w.setPhase n .broken)
  | acked {n a} (hp : w.phase n = .acking a) (ha : a.accepted = true) :
      Transition w (.writeAck n true) ((w.recordAck a).setPhase n (.acked a))
  | ackedRefusal {n a} (hp : w.phase n = .acking a) (ha : a.accepted = false) :
      Transition w (.writeAck n true) ((w.recordAck a).setPhase n .idle)
  | insertFailed {n a error} (hp : w.phase n = .acked a)
      (ha : ({} : ConnectionLifecycle).applySessionOpenAck a.ack = .error error) :
      Transition w (.insert n) (w.setPhase n .broken)
  | insert {n a} (hp : w.phase n = .acked a) :
      Transition w (.insert n)
        ((w.setRegistry (w.registry.insert a.sessionId (a.record w.config n))).setPhase n
          (.inserted a))
  | deliver {n a} (hp : w.phase n = .inserted a) :
      Transition w (.deliver n) (w.addSession n a)
  | undelivered {n a} (hp : w.phase n = .inserted a) :
      Transition w (.deliver n)
        ((w.setRegistry (markSessionInactive w.registry a.sessionId n)).setPhase n .broken)
  | teardown {n} (hp : w.phase n = .broken) : Transition w (.teardown n) (w.teardown n)
  | closeSession {k} (hk : k < w.sessionCount) :
      Transition w (.closeSession k) (w.closeSession k)
  | operation {k operationId} (hk : k < w.sessionCount) :
      Transition w (.operation k operationId) (w.setRegistry
        (updateRegistryLastOperation w.registry (w.sessions k).sessionId operationId))
  | dropListener : Transition w .dropListener { w with listenerAlive := false }
  | tick {nowMs} : Transition w (.tick nowMs) { w with clock := nowMs }

section
variable {w w' : ServerState} {n : ℕ} {a : Attempt} {p : Phase} {m : ℕ}

theorem insert_transition (hp : w.phase n = .acked a) :
    Transition w (.insert n) (w.insert n a) := by
  unfold ServerState.insert
  split
  · exact .insertFailed hp ‹_›
  · exact .insert hp

theorem deliver_transition (hp : w.phase n = .inserted a) :
    Transition w (.deliver n) (w.deliver n a) := by
  unfold ServerState.deliver
  split
  · exact .deliver hp
  · exact .undelivered hp

theorem step_transition {e : Event} (h : step w e = some w') : Transition w e w' := by
  cases e with
  | connect =>
    cases h
    exact .connect
  | dropListener =>
    cases h
    exact .dropListener
  | tick nowMs =>
    simp only [step, ite_none_right_eq_some, some.injEq] at h
    obtain ⟨-, rfl⟩ := h
    exact .tick
  | closeSession | operation =>
    simp only [step, ite_none_right_eq_some, some.injEq] at h
    obtain ⟨hk, rfl⟩ := h
    constructor
    exact hk
  | hello | receive | readFailed | evaluate | register | teardown =>
    rw [step] at h
    split at h <;> cases h
    constructor
    assumption
  | lookup n random =>
    rw [step] at h
    split at h <;> cases h
    rename_i hp
    unfold ServerState.lookup
    dsimp only
    split
    · exact .failed hp
    · rename_i a ha
      split
      · exact .granted hp ha ‹_›
      · exact .refused hp (by simpa using ‹¬a.accepted = true›)
  | writeAck n written =>
    rw [step] at h
    split at h <;> cases h
    rename_i a hp
    unfold ServerState.writeAck
    split
    · exact .ackFailed hp
    · cases written with
      | true =>
        cases ha : a.accepted with
        | true => exact .acked hp ha
        | false => exact .ackedRefusal hp ha
      | false => exact .ackFailed hp
  | insert n =>
    rw [step] at h
    split at h <;> cases h
    exact insert_transition ‹_›
  | deliver n =>
    rw [step] at h
    split at h <;> cases h
    exact deliver_transition ‹_›

theorem setPhase_phase : (w.setPhase n p).phase m = if m = n then p else w.phase m := by
  by_cases hm : m = n
  all_goals simp [ServerState.phase, hm]

@[simp] theorem setPhase_phase_self : (w.setPhase n p).phase n = p := by
  rw [setPhase_phase, if_pos rfl]

theorem setPhase_phase_of_ne (hm : m ≠ n) : (w.setPhase n p).phase m = w.phase m := by
  rw [setPhase_phase, if_neg hm]

theorem ServerState.addSession_phase_of_ne (hm : m ≠ n) :
    (w.addSession n a).phase m = w.phase m := by
  simp [ServerState.phase, update_of_ne hm]

@[simp] theorem ServerState.addSession_phase_self : (w.addSession n a).phase n = .idle := by
  simp [ServerState.phase]

end

section
variable {config : NnrpServerConfig} {request : SessionOpenMetadata} {pres : Bytes}
  {dec : NnrpServerPolicyDecision} {nowMs : UInt64} {random : Option (ℕ → UInt8)}
  {reg : Registry} {a : Attempt}

theorem prepare_ok (h : prepare config request pres dec nowMs random reg = .ok a) :
    a.request = request ∧ a.presented = pres ∧
      a.sessionId = (allocate request pres nowMs reg).sessionId ∧
      (a.accepted = true → a.ack.sessionId = a.sessionId) ∧
      (a.accepted = true ↔ config.validateClientOpen request dec = .ok () ∧
        (allocate request pres nowMs reg).error = none) := by
  simp only [prepare] at h
  obtain ⟨token, -, h⟩ := bind_eq_ok.mp h
  obtain ⟨ext, -, h⟩ := bind_eq_ok.mp h
  cases h
  refine ⟨rfl, rfl, rfl, fun hacc => if_pos hacc, ?_⟩
  rw [decide_eq_true_iff]
  refine and_congr_left fun _ => ?_
  cases config.validateClientOpen request dec with
  | ok _ | error decision => simp

theorem issueToken_bytes {enabled : Bool} {token : Bytes}
    (h : issueToken config enabled random = .ok token) :
    UInt32.ofNat token.length = (if enabled then config.resumeTokenBytes else 0) ∧
      (UInt32.ofNat token.length).toNat = token.length := by
  unfold issueToken at h
  split_ifs at h with henabled
  · split at h
    · cases h
      simp [fill, henabled]
    · cases h
  · cases h
    simp [henabled]

structure Declares (config : NnrpServerConfig) (request : SessionOpenMetadata) (a : Attempt) :
    Prop where
  enabled : a.resumeEnabled = true ↔ a.accepted = true ∧
    request.sessionFlags &&& sessionFlagAllowResume ≠ 0 ∧ 0 < config.resumeTokenBytes
  flags : a.ack.sessionFlagsAck = if a.resumeEnabled then sessionAckFlagResumeEnabled else 0
  window : a.ack.resumeWindowMs = config.resumeWindowMs
  token : a.ack.resumeTokenBytes = if a.resumeEnabled then config.resumeTokenBytes else 0
  tokenLength : a.ack.resumeTokenBytes.toNat = a.resumeToken.length
  extension : ackExtensionBytes a.accepted a.diagnostic = .ok a.ack.sessionExtensionBytes
  error : a.accepted = true → a.ack.sessionErrorCode = sessionErrorNone

theorem prepare_declares (h : prepare config request pres dec nowMs random reg = .ok a) :
    Declares config request a := by
  simp only [prepare] at h
  obtain ⟨token, htoken, h⟩ := bind_eq_ok.mp h
  obtain ⟨ext, hext, h⟩ := bind_eq_ok.mp h
  cases h
  obtain ⟨hbytes, hlen⟩ := issueToken_bytes htoken
  refine ⟨decide_eq_true_iff, rfl, rfl, hbytes, hlen, hext, fun hacc => ?_⟩
  obtain ⟨hvalid, herror⟩ := of_decide_eq_true hacc
  dsimp only [openAck]
  rw [hvalid, herror]
  rfl

theorem accepted_of_status (h : a.ack.sessionStatus = .opened ∨ a.ack.sessionStatus = .resumed) :
    a.accepted = true := by
  rw [a.sessionStatus_eq] at h
  cases hacc : a.accepted with
  | true => rfl
  | false => simp [hacc] at h

theorem applySessionOpenAck_ne_error (ha : a.accepted = true) {error : NnrpError} :
    ({} : ConnectionLifecycle).applySessionOpenAck a.ack ≠ .error error := by
  have hstatus : a.ack.sessionStatus = .opened ∨ a.ack.sessionStatus = .resumed := by
    rw [a.sessionStatus_eq, ha, if_neg (by simp)]
    split_ifs
    · exact .inr rfl
    · exact .inl rfl
  obtain ⟨state, heq⟩ := applySessionOpenAck_eq (l := {}) rfl hstatus
  rw [heq, establish_ok_iff.mpr ⟨a.ack_sessionId_ne_zero ha, by simp, rfl⟩]
  exact fun h => by cases h

variable {pkt : RuntimePacket}

theorem openRequest_ok (h : openRequest pkt = .ok request) :
    SessionOpenMetadata.parse pkt.metadata = .ok request := by
  rw [openRequest] at h
  obtain ⟨parsed, hparsed, h⟩ := bind_eq_ok.mp h
  obtain ⟨_, -, h⟩ := bind_eq_ok.mp h
  split_ifs at h
  · cases h
  · cases h
    exact liftNnrp_eq_ok.mp hparsed

theorem Attempt.ackPacket_ok (h : a.ackPacket = .ok pkt) : pkt.messageType = .sessionOpenAck ∧
      SessionOpenAckMetadata.parse pkt.metadata = .ok a.ack ∧
      pkt.body = if a.accepted then a.resumeToken else diagnosticBytes a.diagnostic := by
  rw [Attempt.ackPacket] at h
  obtain ⟨bytes, hbytes, h⟩ := bind_eq_ok.mp h
  rw [liftNnrp_eq_ok] at hbytes h
  obtain ⟨hmeta, hbody, htype, -⟩ := RuntimePacket.new_ok h
  rw [hmeta, hbody]
  exact ⟨htype, SessionOpenAckMetadata.codec.parses hbytes, rfl⟩

end

variable {decision : NnrpServerPolicyDecision} {packet ackPkt : RuntimePacket}
  {random : Option (ℕ → UInt8)} {a : Attempt} {n : ℕ}

theorem acceptConnectionSession_ok {cfg : NnrpServerConfig} {nowMs : UInt64} {reg reg' : Registry}
    (h : acceptConnectionSession cfg n packet decision nowMs random reg =
      .ok (a, ackPkt, reg')) : ∃ req, openRequest packet = .ok req ∧
      prepare cfg req packet.body decision nowMs random (retain nowMs reg) = .ok a ∧
      a.ackPacket = .ok ackPkt ∧ reg' = if a.accepted then
        (retain nowMs reg).insert a.sessionId (a.record cfg n) else retain nowMs reg := by
  rw [acceptConnectionSession] at h
  obtain ⟨req, hreq, h⟩ := bind_eq_ok.mp h
  obtain ⟨attempt, hprep, h⟩ := bind_eq_ok.mp h
  obtain ⟨ack, hack, h⟩ := bind_eq_ok.mp h
  split_ifs at h with hacc
  · obtain ⟨life, -, h⟩ := bind_eq_ok.mp h
    cases h
    exact ⟨req, hreq, hprep, hack, (if_pos hacc).symm⟩
  · cases h
    exact ⟨req, hreq, hprep, hack, (if_neg hacc).symm⟩

end Nnrp.Server
