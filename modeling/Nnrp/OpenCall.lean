import Nnrp.CallQueue
import Nnrp.ClientOpen
import Nnrp.HelloMetadata

/-!
# Open calls on one client connection

`open_session` and `resume_session` take the open lock, say hello if nobody has done so, queue
their `SESSION_OPEN` with the connection driver and take the next control packet as its answer.
`Phase` is the await at which a call is suspended, and a call may be dropped at each of them, as
a timeout does. The driver is the one of the multiplexed connection; the server answers the
requests that were written one after the other, and its answers reach the driver in order.
-/

namespace Nnrp.OpenCall
open Protocol Packet Session Lifecycle Hello Client
open Multiplex (CallId ChannelId DriverEvent DriverFailure CallResult)

def cacheObjectKindCode : CacheObjectKind → ℕ
  | .cameraBlock => 1 | .tileIndexBlock => 2 | .tensorSectionTable => 3 | .codecTable => 4
  | .reusableResultObject => 5 | .payloadLayoutTemplate => 6 | .promptSegment => 7
  | .toolSchema => 8 | .structuredEventSchema => 9

def addCacheObject (bitmap : UInt16) (kind : CacheObjectKind) : Except RuntimeError UInt16 :=
  match cacheObjectKindCode kind with
  | 0 => .error (.unexpectedMessage "cache object kind cannot map to CLIENT_HELLO bitmap")
  | bit + 1 =>
    if bit < 16 then .ok (bitmap ||| 1 <<< UInt16.ofNat bit)
    else .error (.unexpectedMessage "cache object kind exceeds CLIENT_HELLO bitmap")

def cacheObjectBitmap (hints : List CacheObjectKind) : Except RuntimeError UInt16 :=
  hints.foldlM addCacheObject 0

def clientPayloadKinds : UInt32 := 0x01 ||| 0x02 ||| 0x10 ||| 0x20 ||| 0x40

def clientHello (config : NnrpClientConfig) (cacheObjectBitmap : UInt16) : ClientHelloMetadata where
  minVersionMajor := currentVersionMajor
  maxVersionMajor := currentVersionMajor
  supportedWireFormatBitmap := 1 <<< currentWireFormat.toUInt16
  supportedProfileBitmap := 0x3
  supportedPayloadKindBitmap := clientPayloadKinds
  supportedCodecBitmap := 0
  supportedCompressionBitmap := 0
  supportedDtypeBitmap := 0
  supportedLayoutBitmap := 0
  cacheDigestBitmap := 0
  cacheObjectBitmap := cacheObjectBitmap
  cacheNamespaceCount := 0
  maxLaneCount := 1
  maxCacheEntries := 0
  maxCacheBytes := 0
  targetCadenceX100 := 0
  latencyBudgetMs := UInt16.ofNat (min config.defaultDeadlineMs.toNat 0xffff)
  qualityTier := 0
  degradePolicy := 0
  requestedSessionId := config.requestedSessionId
  authBytes := 0
  controlExtensionBytes := 0

def helloPacket (m : ClientHelloMetadata) : Except RuntimeError RuntimePacket := do
  let metadata ← liftNnrp m.toBytes
  liftNnrp (RuntimePacket.new (CommonHeader.new .clientHello 64 0) metadata [])

def acceptHelloAck (m : ClientHelloMetadata) (packet : RuntimePacket) :
    Except RuntimeError Unit := do
  if packet.messageType ≠ .serverHelloAck then
    throw (.unexpectedMessage "client expected SERVER_HELLO_ACK")
  if packet.body ≠ [] then
    throw (.unexpectedMessage "SERVER_HELLO_ACK body must be empty without extensions")
  let ack ← liftNnrp (ServerHelloAckMetadata.parse packet.metadata)
  liftNnrp (ack.validateAgainstClientHello m)

abbrev OpenId := ℕ

/-- Where a call is suspended: for the open lock, before its hello, for the write and for the
answer of the hello, before its request, for the write and for the answer of the request, for the
lifecycle lock, and for the registration of its session. -/
inductive Phase
  | waiting
  | locked
  | greeting (id : CallId) (hello : ClientHelloMetadata)
  | greeted (hello : ClientHelloMetadata)
  | ready
  | requesting (id : CallId) (request : SessionOpenMetadata)
  | requested (request : SessionOpenMetadata)
  | acknowledged (request : SessionOpenMetadata) (packet : RuntimePacket)
  | registering (channel : ChannelId) (opened : Opened)
  | finished (result : Except RuntimeError Opened)
  | dropped

structure Call where
  config : NnrpClientConfig
  ticket : Option NnrpSessionRecoveryTicket
  phase : Phase

def Phase.Holds : Phase → Prop
  | .waiting | .finished _ | .dropped => False
  | .locked | .greeting .. | .greeted _ | .ready | .requesting .. | .requested _
  | .acknowledged .. | .registering .. => True

def Phase.Exposed : Phase → Prop
  | .greeting .. | .greeted _ | .requesting .. | .requested _ => True
  | .waiting | .locked | .ready | .acknowledged .. | .registering .. | .finished _
  | .dropped => False

/-- A client connection with its driver and its server. `requests` are the hellos and opens that
calls have queued, `answers` what the server has sent for them, `network` the answers that the
driver has not read yet. -/
structure State where
  driver : Multiplex.Connection
  controlRead : ℕ := 0
  hello : Option ClientHelloMetadata := none
  lifecycle : ConnectionLifecycle := {}
  openLock : Option OpenId := none
  calls : OpenId → Call
  callCount : ℕ := 0
  network : List RuntimePacket := []
  requests : List (OpenId × RuntimePacket) := []
  answers : List RuntimePacket := []
  abandoned : Bool := false

def State.start (kind : RuntimeTransportKind) (config : NnrpClientConfig) : State where
  driver := .start kind
  calls := fun _ => ⟨config, none, .dropped⟩

def IsRequest (p : RuntimePacket) : Prop :=
  p.messageType = .clientHello ∨ p.messageType = .sessionOpen

instance (p : RuntimePacket) : Decidable (IsRequest p) :=
  inferInstanceAs (Decidable (_ ∨ _))

/-- The types and the routing of an answer; what it says is up to the server. -/
def Answers (request answer : RuntimePacket) : Prop :=
  (request.messageType = .clientHello ∧ answer.messageType = .serverHelloAck ∧
    answer.sessionId = 0) ∨
  (request.messageType = .sessionOpen ∧ answer.messageType = .sessionOpenAck)

instance (request answer : RuntimePacket) : Decidable (Answers request answer) :=
  inferInstanceAs (Decidable (_ ∨ _))

def driverError (failure : DriverFailure) : RuntimeError :=
  .transportClosed failure.transport failure.detail

namespace State

variable (w : State)

variable (k : OpenId)

abbrev phase : Phase := (w.calls k).phase

@[simps]
def setPhase (phase : Phase) : State :=
  { w with calls := Function.update w.calls k { w.calls k with phase := phase } }

@[simps]
def setDriver (driver : Multiplex.Connection) : State := { w with driver := driver }

@[simps]
def release : State := { w with openLock := none }

@[simps!]
def finish (result : Except RuntimeError Opened) : State :=
  (w.setPhase k (.finished result)).release

@[simps]
def addCall (config : NnrpClientConfig) (ticket : Option NnrpSessionRecoveryTicket) : State :=
  { w with
    callCount := w.callCount + 1
    calls := Function.update w.calls w.callCount ⟨config, ticket, .waiting⟩ }

@[simps]
def acquire : State := { w.setPhase k .locked with openLock := some k }

def closedError (detail : String) : RuntimeError := .transportClosed w.driver.transportKind detail

def written : List RuntimePacket := w.driver.written.filter IsRequest

@[simps]
def queueRequest (packet : RuntimePacket) (phase : CallId → Phase) : State :=
  { w.setPhase k (phase w.driver.callCount) with
    driver := w.driver.request (.write packet)
    requests := w.requests ++ [(k, packet)] }

def write (packet : RuntimePacket) (phase : CallId → Phase) : State :=
  if w.driver.running then w.queueRequest k packet phase
  else w.finish k (.error (w.closedError "connection driver command channel closed"))

def greet : State :=
  match cacheObjectBitmap (w.calls k).config.cacheHints with
  | .error e => w.finish k (.error e)
  | .ok bitmap =>
    match w.hello with
    | some existing =>
      if bitmap &&& ~~~existing.cacheObjectBitmap ≠ 0 then
        w.finish k (.error (.unexpectedMessage
          "session cache hints exceed the established CLIENT_HELLO capability"))
      else w.setPhase k .ready
    | none =>
      let hello := clientHello (w.calls k).config bitmap
      match helloPacket hello with
      | .error e => w.finish k (.error e)
      | .ok packet => w.write k packet fun id => .greeting id hello

def openRequest (call : Call) : Except RuntimeError (SessionOpenMetadata × RuntimePacket) := do
  let resumeToken := ticketToken call.ticket
  let metadata ← sessionOpenMetadata call.config resumeToken.length
  let packet ← openPacket metadata resumeToken
  pure (metadata, packet)

def request : State :=
  match openRequest (w.calls k) with
  | .error e => w.finish k (.error e)
  | .ok (metadata, packet) => w.write k packet fun id => .requesting id metadata

def confirm (next : Phase) : CallResult → Option State
  | .waiting => none
  | .resolved (.ok ()) => some (w.setPhase k next)
  | .resolved (.error failure) => some (w.finish k (.error (driverError failure)))
  | .closed =>
    some (w.finish k (.error (w.closedError "connection driver dropped write completion")))

@[simps]
def takeControl : State := { w with controlRead := w.controlRead + 1 }

variable (k : OpenId)

def readHello (hello : ClientHelloMetadata) (packet : RuntimePacket) : State :=
  match acceptHelloAck hello packet with
  | .error e => w.finish k (.error e)
  | .ok () => { w.setPhase k .ready with hello := some hello }

def read (next : State → RuntimePacket → State) : Option State :=
  match w.driver.control.sent[w.controlRead]? with
  | some (.packet packet) => some (next w.takeControl packet)
  | some (.failed failure) => some (w.takeControl.finish k (.error (driverError failure)))
  | none =>
    if w.driver.running then none
    else some (w.finish k (.error (w.closedError "connection driver control channel closed")))

@[simps]
def register (opened : Opened) : State :=
  { w.setPhase k (.registering w.driver.channelCount opened) with
    driver := w.driver.registerSession opened.ack.sessionId
    lifecycle := opened.lifecycle }

/-- The checks on the acknowledgement do not suspend, so they are made together with the update
of the lifecycle and the queueing of the registration. -/
def install (request : SessionOpenMetadata) (packet : RuntimePacket) : State :=
  match acceptOpenAck (w.calls k).config request (w.calls k).ticket w.lifecycle packet with
  | .error e => w.finish k (.error e)
  | .ok opened =>
    if opened.ack.sessionId = 0 then
      { w with lifecycle := opened.lifecycle }.finish k
        (.error (.unexpectedMessage "multiplexed session id must be non-zero"))
    else if w.driver.running then w.register k opened
    else { w with lifecycle := opened.lifecycle }.finish k
      (.error (w.closedError "connection driver command channel closed"))

def finishRegister (c : ChannelId) (opened : Opened) : Option State :=
  (Multiplex.step w.driver (.finishRegister c)).map fun driver =>
    (w.setDriver driver).finish k <|
      match (w.driver.handles c).status with
      | .registering (.resolved (.ok ())) => .ok opened
      | .registering (.resolved (.error failure)) => .error (driverError failure)
      | _ => .error (w.closedError "connection driver dropped register completion")

@[simps!]
def dropCall : State := (w.setPhase k .dropped).release

@[simps]
def abandon : State := { w with abandoned := true }

def drop : Option State :=
  match w.phase k with
  | .waiting => some (w.setPhase k .dropped)
  | .locked | .ready | .acknowledged .. => some (w.dropCall k)
  | .greeting .. | .greeted _ | .requesting .. | .requested _ => some (w.dropCall k).abandon
  | .registering c _ =>
    (Multiplex.step w.driver (.dropRegister c)).map fun driver => (w.setDriver driver).dropCall k
  | .finished _ | .dropped => none

end State

/-- What the driver, the sessions and the server do besides: the commands of the queue, traffic of
the sessions, packets that answer nothing, closed sessions and failures of the transport. -/
def Background : Multiplex.Action → Prop
  | .command _ | .callClose | .closeTransport _ | .dropTransport _ | .incoming _ => True
  | .sessionWrite _ packet => ¬IsRequest packet
  | .callWrite _ | .callRegister _ | .finishRegister _ | .dropRegister _ | .dropConnection
  | .hangup => False

instance instDecidableBackground : ∀ a, Decidable (Background a)
  | .command _ | .callClose | .closeTransport _ | .dropTransport _ | .incoming _ => .isTrue trivial
  | .sessionWrite _ packet => inferInstanceAs (Decidable (¬IsRequest packet))
  | .callWrite _ | .callRegister _ | .finishRegister _ | .dropRegister _ | .dropConnection
  | .hangup => .isFalse id

inductive Event
  | openSession (config : NnrpClientConfig)
  | resumeSession (ticket : NnrpSessionRecoveryTicket) (config : NnrpClientConfig)
  | acquire (k : OpenId)
  | greet (k : OpenId)
  | request (k : OpenId)
  | confirm (k : OpenId)
  | read (k : OpenId)
  | install (k : OpenId)
  | finishRegister (k : OpenId)
  | drop (k : OpenId)
  | answer (packet : RuntimePacket)
  | deliver
  | background (action : Multiplex.Action)

/-- One atomic step; `none` where it is not enabled. -/
def step (w : State) : Event → Option State
  | .openSession config => some (w.addCall config none)
  | .resumeSession ticket config =>
    some (w.addCall { config with requestedSessionId := ticket.sessionId, allowResume := true }
      (some ticket))
  | .acquire k =>
    match w.phase k with
    | .waiting => if w.openLock = none then some (w.acquire k) else none
    | _ => none
  | .greet k =>
    match w.phase k with
    | .locked => some (w.greet k)
    | _ => none
  | .request k =>
    match w.phase k with
    | .ready => some (w.request k)
    | _ => none
  | .confirm k =>
    match w.phase k with
    | .greeting id hello => w.confirm k (.greeted hello) (w.driver.calls id)
    | .requesting id request => w.confirm k (.requested request) (w.driver.calls id)
    | _ => none
  | .read k =>
    match w.phase k with
    | .greeted hello => w.read k fun w packet => w.readHello k hello packet
    | .requested request => w.read k fun w packet => w.setPhase k (.acknowledged request packet)
    | _ => none
  | .install k =>
    match w.phase k with
    | .acknowledged request packet => some (w.install k request packet)
    | _ => none
  | .finishRegister k =>
    match w.phase k with
    | .registering c opened => w.finishRegister k c opened
    | _ => none
  | .drop k => w.drop k
  | .answer packet =>
    match w.written[w.answers.length]? with
    | some request =>
      if Answers request packet then
        some { w with answers := w.answers ++ [packet], network := w.network ++ [packet] }
      else none
    | none => none
  | .deliver =>
    match w.network with
    | packet :: rest =>
      (Multiplex.step w.driver (.incoming (.ok packet))).map fun driver =>
        { w with driver := driver, network := rest }
    | [] => none
  | .background action =>
    if Background action then
      (Multiplex.step w.driver action).map fun driver => w.setDriver driver
    else none

/-- The steps with the guards under which they are taken. The error of a call that fails is left
open. -/
inductive Transition (w : State) : Event → State → Prop
  | addCall {e config ticket} : Transition w e (w.addCall config ticket)
  | acquire {k} (hp : w.phase k = .waiting) (hl : w.openLock = none) :
      Transition w (.acquire k) (w.acquire k)
  | fail {e k lifecycle error} (hp : (w.phase k).Holds) (hx : ¬(w.phase k).Exposed) :
      Transition w e ({ w with lifecycle := lifecycle }.finish k (.error error))
  | known {k hello} (hp : w.phase k = .locked) (hh : w.hello = some hello) :
      Transition w (.greet k) (w.setPhase k .ready)
  | greet {k hello packet} (hp : w.phase k = .locked) (hh : w.hello = none)
      (hpacket : helloPacket hello = .ok packet) (hrun : w.driver.running = true) :
      Transition w (.greet k) (w.queueRequest k packet fun id => .greeting id hello)
  | request {k metadata packet} (hp : w.phase k = .ready)
      (hpacket : State.openRequest (w.calls k) = .ok (metadata, packet))
      (hrun : w.driver.running = true) :
      Transition w (.request k) (w.queueRequest k packet fun id => .requesting id metadata)
  | greeted {k id hello} (hp : w.phase k = .greeting id hello)
      (hc : w.driver.calls id = .resolved (.ok ())) :
      Transition w (.confirm k) (w.setPhase k (.greeted hello))
  | requested {k id request} (hp : w.phase k = .requesting id request)
      (hc : w.driver.calls id = .resolved (.ok ())) :
      Transition w (.confirm k) (w.setPhase k (.requested request))
  | writeFailed {k id error}
      (hp : (∃ hello, w.phase k = .greeting id hello) ∨
        ∃ request, w.phase k = .requesting id request)
      (hw : w.driver.calls id ≠ .waiting) (hc : w.driver.calls id ≠ .resolved (.ok ())) :
      Transition w (.confirm k) (w.finish k (.error error))
  | readHello {k hello packet} (hp : w.phase k = .greeted hello)
      (hs : w.driver.control.sent[w.controlRead]? = some (.packet packet))
      (hack : acceptHelloAck hello packet = .ok ()) :
      Transition w (.read k) { w.takeControl.setPhase k .ready with hello := some hello }
  | refusedHello {k hello packet error} (hp : w.phase k = .greeted hello)
      (hs : w.driver.control.sent[w.controlRead]? = some (.packet packet))
      (hack : acceptHelloAck hello packet = .error error) :
      Transition w (.read k) (w.takeControl.finish k (.error error))
  | readAck {k request packet} (hp : w.phase k = .requested request)
      (hs : w.driver.control.sent[w.controlRead]? = some (.packet packet)) :
      Transition w (.read k) (w.takeControl.setPhase k (.acknowledged request packet))
  | readFailed {k failure error}
      (hp : (∃ hello, w.phase k = .greeted hello) ∨ ∃ request, w.phase k = .requested request)
      (hs : w.driver.control.sent[w.controlRead]? = some (.failed failure)) :
      Transition w (.read k) (w.takeControl.finish k (.error error))
  | readClosed {k error}
      (hp : (∃ hello, w.phase k = .greeted hello) ∨ ∃ request, w.phase k = .requested request)
      (hrun : w.driver.running = false) :
      Transition w (.read k) (w.finish k (.error error))
  | install {k request packet opened} (hp : w.phase k = .acknowledged request packet)
      (hack : acceptOpenAck (w.calls k).config request (w.calls k).ticket w.lifecycle packet =
        .ok opened) (hid : opened.ack.sessionId ≠ 0) :
      Transition w (.install k) (w.register k opened)
  | finishRegister {k c opened driver result} (hp : w.phase k = .registering c opened)
      (hs : Multiplex.step w.driver (.finishRegister c) = some driver)
      (hok : ∀ o, result = .ok o → o = opened) :
      Transition w (.finishRegister k) ((w.setDriver driver).finish k result)
  | dropWaiting {k} (hp : w.phase k = .waiting) :
      Transition w (.drop k) (w.setPhase k .dropped)
  | drop {k} (hp : (w.phase k).Holds) (hx : ¬(w.phase k).Exposed) :
      Transition w (.drop k) (w.dropCall k)
  | abandon {k} (hp : (w.phase k).Holds) : Transition w (.drop k) (w.dropCall k).abandon
  | dropRegister {k c opened driver} (hp : w.phase k = .registering c opened)
      (hs : Multiplex.step w.driver (.dropRegister c) = some driver) :
      Transition w (.drop k) ((w.setDriver driver).dropCall k)
  | answer {packet request} (hr : w.written[w.answers.length]? = some request)
      (ha : Answers request packet) :
      Transition w (.answer packet)
        { w with answers := w.answers ++ [packet], network := w.network ++ [packet] }
  | deliver {packet rest driver} (hn : w.network = packet :: rest)
      (hs : Multiplex.step w.driver (.incoming (.ok packet)) = some driver) :
      Transition w .deliver { w with driver := driver, network := rest }
  | background {action driver} (hb : Background action)
      (hs : Multiplex.step w.driver action = some driver) :
      Transition w (.background action) (w.setDriver driver)

variable {w w' : State} {k : OpenId} {e : Event}

theorem fail_transition {error : RuntimeError} (hp : (w.phase k).Holds)
    (hx : ¬(w.phase k).Exposed) : Transition w e (w.finish k (.error error)) :=
  @Transition.fail w e k w.lifecycle error hp hx

theorem greet_transition (hp : w.phase k = .locked) : Transition w (.greet k) (w.greet k) := by
  have hholds : (w.phase k).Holds := by rw [hp]; trivial
  have hsafe : ¬(w.phase k).Exposed := by rw [hp]; exact id
  unfold State.greet
  split
  · exact fail_transition hholds hsafe
  · split
    · split_ifs
      · exact fail_transition hholds hsafe
      · exact .known hp ‹_›
    · dsimp only
      split
      · exact fail_transition hholds hsafe
      · unfold State.write
        split
        · exact .greet hp ‹_› ‹_› ‹_›
        · exact fail_transition hholds hsafe

theorem request_transition (hp : w.phase k = .ready) : Transition w (.request k) (w.request k) := by
  have hholds : (w.phase k).Holds := by rw [hp]; trivial
  have hsafe : ¬(w.phase k).Exposed := by rw [hp]; exact id
  unfold State.request
  split
  · exact fail_transition hholds hsafe
  · unfold State.write
    split
    · exact .request hp ‹_› ‹_›
    · exact fail_transition hholds hsafe

variable {p : RuntimePacket}

theorem install_transition {req : SessionOpenMetadata} (hp : w.phase k = .acknowledged req p) :
    Transition w (.install k) (w.install k req p) := by
  have hholds : (w.phase k).Holds := by rw [hp]; trivial
  have hsafe : ¬(w.phase k).Exposed := by rw [hp]; exact id
  unfold State.install
  split
  · exact fail_transition hholds hsafe
  · split_ifs
    · exact .fail hholds hsafe
    · exact .install hp ‹_› ‹_›
    · exact .fail hholds hsafe

theorem confirm_transition {id : CallId} {next : Phase}
    (hp : (∃ hello, w.phase k = .greeting id hello) ∨ ∃ req, w.phase k = .requesting id req)
    (hnext : w.driver.calls id = .resolved (.ok ()) → Transition w (.confirm k) (w.setPhase k next))
    (h : w.confirm k next (w.driver.calls id) = some w') : Transition w (.confirm k) w' := by
  unfold State.confirm at h
  split at h
  · cases h
  · rename_i hc
    cases h
    exact hnext hc
  all_goals
    rename_i hc
    cases h
    exact .writeFailed hp (by simp [hc]) (by simp [hc])

theorem read_transition {next : State → RuntimePacket → State}
    (hp : (∃ hello, w.phase k = .greeted hello) ∨ ∃ req, w.phase k = .requested req)
    (hnext : ∀ p, w.driver.control.sent[w.controlRead]? = some (.packet p) →
      Transition w (.read k) (next w.takeControl p))
    (h : w.read k next = some w') : Transition w (.read k) w' := by
  unfold State.read at h
  split at h
  · cases h
    exact hnext _ ‹_›
  · cases h
    exact .readFailed hp ‹_›
  · split_ifs at h with hrun
    cases h
    exact .readClosed hp (by simpa using hrun)

theorem drop_transition (h : w.drop k = some w') : Transition w (.drop k) w' := by
  unfold State.drop at h
  have hdrop : (w.phase k).Holds → ¬(w.phase k).Exposed → some (w.dropCall k) = some w' →
      Transition w (.drop k) w' := by
    intro hp hx h
    cases h
    exact .drop hp hx
  have habandon : (w.phase k).Holds → some (w.dropCall k).abandon = some w' →
      Transition w (.drop k) w' := by
    intro hp h
    cases h
    exact .abandon hp
  cases hp : w.phase k with
  | waiting =>
    rw [hp] at h
    cases h
    exact .dropWaiting hp
  | locked | ready | acknowledged =>
    rw [hp] at h hdrop
    exact hdrop trivial id h
  | greeting | greeted | requesting | requested =>
    rw [hp] at h habandon
    exact habandon trivial h
  | registering c opened =>
    rw [hp] at h
    obtain ⟨driver, hs, rfl⟩ := Option.map_eq_some_iff.mp h
    exact .dropRegister hp hs
  | finished | dropped =>
    rw [hp] at h
    cases h

theorem step_transition (h : step w e = some w') : Transition w e w' := by
  cases e with
  | openSession cfg | resumeSession ticket cfg =>
    cases h
    exact .addCall
  | acquire k =>
    rw [step] at h
    split at h
    · split_ifs at h with hl
      cases h
      exact .acquire ‹_› hl
    · cases h
  | greet k =>
    rw [step] at h
    split at h <;> cases h
    exact greet_transition ‹_›
  | request k =>
    rw [step] at h
    split at h <;> cases h
    exact request_transition ‹_›
  | confirm k =>
    rw [step] at h
    split at h
    · exact confirm_transition (.inl ⟨_, ‹_›⟩) (.greeted ‹_›) h
    · exact confirm_transition (.inr ⟨_, ‹_›⟩) (.requested ‹_›) h
    · cases h
  | read k =>
    rw [step] at h
    split at h
    · refine read_transition (.inl ⟨_, ‹_›⟩) (fun _ hs => ?_) h
      unfold State.readHello
      split
      · exact .refusedHello ‹_› hs ‹_›
      · exact .readHello ‹_› hs ‹_›
    · exact read_transition (.inr ⟨_, ‹_›⟩) (fun _ hs => .readAck ‹_› hs) h
    · cases h
  | install k =>
    rw [step] at h
    split at h <;> cases h
    exact install_transition ‹_›
  | finishRegister k =>
    rw [step] at h
    split at h
    · unfold State.finishRegister at h
      obtain ⟨driver, hs, rfl⟩ := Option.map_eq_some_iff.mp h
      refine .finishRegister ‹_› hs fun o ho => ?_
      split at ho
      · exact (Except.ok.inj ho).symm
      · cases ho
      · cases ho
    · cases h
  | drop k => exact drop_transition h
  | answer p =>
    rw [step] at h
    split at h
    · split_ifs at h with ha
      cases h
      exact .answer ‹_› ha
    · cases h
  | deliver =>
    rw [step] at h
    split at h
    · obtain ⟨driver, hs, rfl⟩ := Option.map_eq_some_iff.mp h
      exact .deliver ‹_› hs
    · cases h
  | background action =>
    rw [step] at h
    split_ifs at h with hb
    obtain ⟨driver, hs, rfl⟩ := Option.map_eq_some_iff.mp h
    exact .background hb hs

end Nnrp.OpenCall
