import Nnrp.LabelledRun
import Nnrp.OrderedMap
import Nnrp.Packet

/-!
# The multiplexed connection

One driver task owns the transport of a connection. It serves a queue of commands and routes
each incoming packet to the receiver of its session or to the control receiver. The state
below holds the driver's local variables, the command queue, every event channel, the calls
that wait for a completion and the handles through which sessions use the connection.

A label of `step` is one atomic action of a party: a call queues its command, a suspended
`register_session` call resumes or is dropped, a session transport is closed or dropped, and
the driver takes one command or one incoming packet. The answers of the transport are part of
the label. The driver alone reads its local variables, so a command that awaits the transport
is one step.
-/

namespace Nnrp.Multiplex
open OrderedMap Packet Function

def maxPreRegistrationPackets : ℕ := 4096
def maxPreRegistrationBytes : ℕ := 8 * 1024 * 1024

structure PendingSessionPackets where
  packets : List RuntimePacket := []
  bytes : ℕ := 0
  deriving DecidableEq

def PendingSessionPackets.push (pending : PendingSessionPackets) (packet : RuntimePacket) :
    Except String PendingSessionPackets :=
  let packetBytes := (checkedAddUsize packet.metadata.length packet.body.length).bind
    fun size => checkedAddUsize size commonHeaderLen
  match packetBytes.bind fun size => checkedAddUsize pending.bytes size with
  | none => .error "pre-registration packet byte count overflowed"
  | some totalBytes =>
    if maxPreRegistrationPackets ≤ pending.packets.length ∨
        maxPreRegistrationBytes < totalBytes then
      .error "pre-registration packet buffer limit exceeded"
    else .ok ⟨pending.packets ++ [packet], totalBytes⟩

structure DriverFailure where
  transport : RuntimeTransportKind
  detail : String
  deriving DecidableEq

inductive DriverEvent
  | packet (packet : RuntimePacket)
  | failed (failure : DriverFailure)
  deriving DecidableEq

abbrev ChannelId := ℕ
abbrev CallId := ℕ

/-- A registration names its event channel, and its completion belongs to the handle of that
channel; the other commands that are answered name the waiting call. -/
inductive DriverCommand
  | write (packet : RuntimePacket) (completion : CallId)
  | register (sessionId : UInt32) (events : ChannelId)
  | unregister (sessionId : UInt32)
  | close (completion : CallId)
  deriving DecidableEq

def DriverCommand.completion? : DriverCommand → Option CallId
  | .write _ id | .close id => some id
  | .register _ _ | .unregister _ => none

def DriverCommand.channel? : DriverCommand → Option ChannelId
  | .register _ c => some c
  | .write _ _ | .unregister _ | .close _ => none

/-- An unbounded channel: what was accepted, in order, and what was refused because the
receiver had been dropped. -/
structure Channel where
  sent : List DriverEvent := []
  refused : List DriverEvent := []
  receiverAlive : Bool := true
  deriving DecidableEq

def Channel.unboundedSend (c : Channel) (e : DriverEvent) : Channel :=
  if c.receiverAlive then { c with sent := c.sent ++ [e] }
  else { c with refused := c.refused ++ [e] }

def Channel.dropReceiver (c : Channel) : Channel := { c with receiverAlive := false }

/-- The hand-over of buffered packets stops at the first refused one. -/
def Channel.deliverPending (c : Channel) : List RuntimePacket → Channel
  | [] => c
  | p :: ps =>
    if c.receiverAlive then (c.unboundedSend (.packet p)).deliverPending ps
    else c.unboundedSend (.packet p)

/-- A call waits for its completion, has its answer, or fails because the driver is gone. -/
inductive CallResult
  | waiting
  | resolved (result : Except DriverFailure Unit)
  | closed
  deriving DecidableEq

/-- The receiving end of a registration: a suspended `register_session` call, the session
transport it returned, or what is left after either was dropped. -/
inductive HandleStatus
  | registering (answer : CallResult)
  | opened
  | closed
  | dropped
  | abandoned
  deriving DecidableEq

def HandleStatus.answered (result : CallResult) : HandleStatus → HandleStatus
  | .registering _ => .registering result
  | status => status

structure Handle where
  sessionId : UInt32
  status : HandleStatus
  deriving DecidableEq

structure Connection where
  transportKind : RuntimeTransportKind
  sessions : BTreeMap UInt32 ChannelId := ∅
  awaitingRegistration : BTreeSet UInt32 := ∅
  pendingSessions : BTreeMap UInt32 PendingSessionPackets := ∅
  terminalFailure : Option DriverFailure := none
  running : Bool := true
  commands : List DriverCommand := []
  control : Channel := {}
  events : ChannelId → Channel := fun _ => {}
  handles : ChannelId → Handle := fun _ => ⟨0, .abandoned⟩
  channelCount : ℕ := 0
  calls : CallId → CallResult := fun _ => .waiting
  callCount : ℕ := 0
  written : List RuntimePacket := []
  transportClosed : Bool := false
  connectionAlive : Bool := true

def Connection.start (transportKind : RuntimeTransportKind) : Connection := { transportKind }

variable (w : Connection)

def sendAll (events : ChannelId → Channel) (e : DriverEvent) (cs : List ChannelId) :
    ChannelId → Channel :=
  cs.foldl (fun events c => update events c ((events c).unboundedSend e)) events

namespace Connection

variable (c : ChannelId)

@[simps]
def setStatus (status : HandleStatus) : Connection :=
  { w with handles := update w.handles c { w.handles c with status := status } }

@[simps]
def dropReceiver : Connection :=
  { w with events := update w.events c (w.events c).dropReceiver }

@[simps]
def complete (id : CallId) (result : CallResult) : Connection :=
  { w with calls := update w.calls id result }

@[simps!]
def answer (result : CallResult) : Connection :=
  w.setStatus c ((w.handles c).status.answered result)

@[simps]
def request (command : CallId → DriverCommand) : Connection :=
  { w with
    callCount := w.callCount + 1
    calls := update w.calls w.callCount (if w.running then .waiting else .closed)
    commands := if w.running then w.commands ++ [command w.callCount] else w.commands }

@[simps]
def unregister (sessionId : UInt32) : Connection :=
  { w with commands := if w.running then w.commands ++ [.unregister sessionId] else w.commands }

/-- The driver leaves its loop: the queued commands are dropped with their completions. -/
@[simps]
def stop : Connection :=
  { w with
    running := false
    commands := []
    calls := fun id =>
      if id ∈ w.commands.filterMap DriverCommand.completion? then .closed else w.calls id
    handles := fun c =>
      if c ∈ w.commands.filterMap DriverCommand.channel? then
        { w.handles c with status := (w.handles c).status.answered .closed }
      else w.handles c }

@[simps]
def closeTransport : Connection := { w with transportClosed := true }

@[simps]
def sendControl (e : DriverEvent) : Connection := { w with control := w.control.unboundedSend e }

@[simps]
def sendSession (e : DriverEvent) : Connection :=
  { w with events := update w.events c ((w.events c).unboundedSend e) }

@[simps]
def broadcastFailure (f : DriverFailure) : Connection :=
  { w with
    control := w.control.unboundedSend (.failed f)
    events := sendAll w.events (.failed f) (values w.sessions) }

@[simps]
def removeSession (sessionId : UInt32) : Connection :=
  { w with
    sessions := w.sessions.erase sessionId
    awaitingRegistration := w.awaitingRegistration.erase sessionId
    pendingSessions := w.pendingSessions.erase sessionId }

variable (packet : RuntimePacket)

@[simps]
def noteOpenAck : Connection :=
  { w with
    awaitingRegistration :=
      if packet.IsOpenAck ∧ packet.sessionId ≠ 0 then
        w.awaitingRegistration.insert packet.sessionId
      else w.awaitingRegistration }

@[simps]
def recordWrite : Connection := { w with written := w.written ++ [packet] }

def onWrite (id : CallId) (answer : Except String Unit) : Connection :=
  match w.terminalFailure with
  | some failure => w.complete id (.resolved (.error failure))
  | none =>
    let w := (w.noteOpenAck packet).recordWrite packet
    match answer with
    | .ok () => w.complete id (.resolved (.ok ()))
    | .error detail =>
      let failure := ⟨w.transportKind, detail⟩
      ((w.complete id (.resolved (.error failure))).broadcastFailure failure).stop

variable (sessionId : UInt32)

/-- The receiver gets what was buffered for its session, after a failure also the failure. -/
def handOver (channel : Channel) : Channel :=
  let pending := (w.pendingSessions[sessionId]?).getD {}
  let channel := channel.deliverPending pending.packets
  match w.terminalFailure with
  | some failure => channel.unboundedSend (.failed failure)
  | none => channel

@[simps]
def install (c : ChannelId) : Connection :=
  { w with
    awaitingRegistration := w.awaitingRegistration.erase sessionId
    pendingSessions := w.pendingSessions.erase sessionId
    events := update w.events c (w.handOver sessionId (w.events c))
    sessions := w.sessions.insert sessionId c }

def onRegister (c : ChannelId) : Connection :=
  match w.sessions[sessionId]? with
  | some _ =>
    w.answer c (.resolved (.error
      ⟨w.transportKind, "session " ++ toString sessionId ++ " is already registered"⟩))
  | none => (w.install sessionId c).answer c (.resolved (.ok ()))

def onClose (id : CallId) (answer : Except String Unit) : Connection :=
  match w.terminalFailure with
  | some failure => (w.complete id (.resolved (.error failure))).stop
  | none =>
    let result := match answer with
      | .ok () => .ok ()
      | .error detail => .error ⟨w.transportKind, detail⟩
    (w.closeTransport.complete id (.resolved result)).stop

def onCommand (answer : Except String Unit) : DriverCommand → Connection
  | .write packet id => w.onWrite packet id answer
  | .register sessionId c => w.onRegister sessionId c
  | .unregister sessionId => w.removeSession sessionId
  | .close id => w.onClose id answer

@[simps]
def fail (failure : DriverFailure) : Connection :=
  { w.broadcastFailure failure with terminalFailure := some failure }

def toControl (packet : RuntimePacket) : Connection :=
  let w' := w.sendControl (.packet packet)
  if w.control.receiverAlive = false ∧ w.sessions.isEmpty then w'.closeTransport.stop else w'

@[simps]
def buffer (sessionId : UInt32) (pending : PendingSessionPackets) : Connection :=
  { w with pendingSessions := w.pendingSessions.insert sessionId pending }

def unknownSession (sessionId : UInt32) : DriverFailure :=
  ⟨w.transportKind, "received packet for unknown session " ++ toString sessionId⟩

def onPacket (packet : RuntimePacket) : Connection :=
  let w := w.noteOpenAck packet
  let sessionId := packet.sessionId
  if sessionId = 0 then w.toControl packet
  else
    match w.sessions[sessionId]? with
    | some c =>
      let w' := w.sendSession c (.packet packet)
      if (w.events c).receiverAlive then w' else w'.removeSession sessionId
    | none =>
      if packet.IsOpenAck then w.toControl packet
      else if sessionId ∈ w.awaitingRegistration then
        match ((w.pendingSessions[sessionId]?).getD {}).push packet with
        | .ok pending => w.buffer sessionId pending
        | .error detail => (w.broadcastFailure ⟨w.transportKind, detail⟩).stop
      else w.fail (w.unknownSession sessionId)

def onIncoming : Except String RuntimePacket → Connection
  | .ok packet => w.onPacket packet
  | .error detail => w.fail ⟨w.transportKind, detail⟩

@[simps]
def registerSession (sessionId : UInt32) : Connection :=
  { w with
    channelCount := w.channelCount + 1
    events := update w.events w.channelCount {}
    handles := update w.handles w.channelCount
      ⟨sessionId, .registering (if w.running then .waiting else .closed)⟩
    commands :=
      if w.running then w.commands ++ [.register sessionId w.channelCount] else w.commands }

@[simps]
def dropConnection : Connection :=
  { w with connectionAlive := false, control := w.control.dropReceiver }

@[simps]
def popCommand : Connection := { w with commands := w.commands.tail }

def finishRegister (c : ChannelId) : CallResult → Option Connection
  | .waiting => none
  | .resolved (.ok ()) => some (w.setStatus c .opened)
  | _ => some ((w.setStatus c .abandoned).dropReceiver c)

end Connection

inductive Action
  | callWrite (packet : RuntimePacket)
  | callRegister (sessionId : UInt32)
  | callClose
  | finishRegister (c : ChannelId)
  | dropRegister (c : ChannelId)
  | sessionWrite (c : ChannelId) (packet : RuntimePacket)
  | closeTransport (c : ChannelId)
  | dropTransport (c : ChannelId)
  | dropConnection
  | command (answer : Except String Unit)
  | incoming (result : Except String RuntimePacket)
  | hangup

/-- One action of one party; `none` where the action is not enabled. -/
def step (w : Connection) : Action → Option Connection
  | .callWrite packet =>
    if w.connectionAlive then some (w.request (.write packet)) else none
  | .callRegister sessionId =>
    if w.connectionAlive then
      -- session id zero is refused before anything is queued
      if sessionId = 0 then some w else some (w.registerSession sessionId)
    else none
  | .callClose => if w.connectionAlive then some (w.request .close) else none
  | .finishRegister c =>
    match (w.handles c).status with
    | .registering result => w.finishRegister c result
    | _ => none
  | .dropRegister c =>
    match (w.handles c).status with
    | .registering _ => some ((w.setStatus c .abandoned).dropReceiver c)
    | _ => none
  | .sessionWrite c packet =>
    match (w.handles c).status with
    | .opened => some (w.request (.write packet))
    | _ => none
  | .closeTransport c =>
    match (w.handles c).status with
    | .opened => some ((w.setStatus c .closed).unregister (w.handles c).sessionId)
    | _ => none
  | .dropTransport c =>
    match (w.handles c).status with
    | .opened =>
      some (((w.setStatus c .dropped).unregister (w.handles c).sessionId).dropReceiver c)
    | .closed => some ((w.setStatus c .dropped).dropReceiver c)
    | _ => none
  | .dropConnection =>
    if w.connectionAlive then
      some w.dropConnection
    else none
  | .command answer =>
    if w.running then
      match w.commands with
      | [] => none
      | command :: _ => some (w.popCommand.onCommand answer command)
    else none
  | .incoming result =>
    if w.running ∧ w.terminalFailure = none then some (w.onIncoming result) else none
  | .hangup =>
    -- every sender of the command queue is gone and the queue is drained
    if w.running ∧ w.commands = [] ∧ w.connectionAlive = false ∧
        ∀ c < w.channelCount, (w.handles c).status = .dropped ∨ (w.handles c).status = .abandoned
    then some w.closeTransport.stop
    else none

end Nnrp.Multiplex
