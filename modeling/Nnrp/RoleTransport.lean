import Nnrp.DriverQueue
import Nnrp.HeaderCodec
import Nnrp.TransportProbe

/-!
# The driver of a connection over a role transport

The connection driver waits for a command and for `read_packet` at once. On a foreign-function
transport `read_packet` hands out the packets that were buffered earlier, and then reads from the
inner transport, where it answers every `TRANSPORT_PROBE` itself before it reads on. A command
that arrives first drops the read.

The inner transport hands out one packet in one step and writes in pieces. What it wrote of a
packet stays on the wire when the write fails or is dropped.
-/

namespace Nnrp.RoleTransport
open Packet ByteOrder TransportProbe Option Multiplex
open Multiplex (Connection Action DriverCommand)

/-- Where the driver waits: for a command or a packet, inside `read_packet` for the reply to a
probe, or for the write of a command. After a failed write nothing is written any more. -/
inductive Phase
  | selecting
  | replying (probe ack : RuntimePacket) (rest : Bytes)
  | writing (packet : RuntimePacket) (rest : Bytes)
  | broken (unanswered : Option RuntimePacket)
  deriving DecidableEq

def Phase.dropRead : Phase → Phase
  | .replying _ _ _ => .selecting
  | phase => phase

inductive Source
  | reply | command
  deriving DecidableEq

/-- `arrived` and `taken` are the packets that the peer sent and those that were read from the inner
transport; `delivered` is what `read_packet` returned, and `sent` what was written to its end. -/
structure State where
  driver : Connection
  pending : List RuntimePacket
  inbound : List RuntimePacket := []
  phase : Phase := .selecting
  wire : Bytes := []
  sent : List (Source × RuntimePacket) := []
  arrived : List RuntimePacket := []
  taken : List RuntimePacket := []
  delivered : List RuntimePacket := []

def State.start (kind : RuntimeTransportKind) (pending : List RuntimePacket) : State where
  driver := .start kind
  pending := pending

namespace State

variable (w : State)

def items : List RuntimePacket := w.sent.map Prod.snd

def replies : List RuntimePacket :=
  w.sent.filterMap fun item => if item.1 = .reply then some item.2 else none

def deliver (packet : RuntimePacket) : Option State :=
  (step w.driver (.incoming (.ok packet))).map fun driver =>
    { w with driver, delivered := w.delivered ++ [packet] }

def failRead (detail : String) : Option State :=
  (step w.driver (.incoming (.error detail))).map fun driver => { w with driver }

def onRead (packet : RuntimePacket) (unixTimeUs : UInt64) (detail : String) : Option State :=
  let w := { w with taken := w.taken ++ [packet] }
  if packet.messageType ≠ .transportProbe then w.deliver packet
  else
    match probeAck packet unixTimeUs with
    | .error _ => w.failRead detail
    | .ok ack => some { w with phase := .replying packet ack ack.serialized }

def readPacket (unixTimeUs : UInt64) (detail : String) : Option State :=
  match w.pending, w.inbound with
  | packet :: pending, _ => { w with pending }.deliver packet
  | [], packet :: inbound => { w with inbound }.onRead packet unixTimeUs detail
  | [], [] => none

def serve (answer : Except String Unit) : Option State :=
  match w.driver.commands with
  | .write packet _ :: _ =>
    if w.driver.Alive then some { w with phase := .writing packet packet.serialized }
    else (step w.driver (.command answer)).map fun driver =>
      { w with driver, phase := w.phase.dropRead }
  | _ => (step w.driver (.command answer)).map fun driver =>
      { w with driver, phase := w.phase.dropRead }

def progress (n : ℕ) : Option State :=
  match w.phase with
  | .replying probe ack rest =>
    some { w with wire := w.wire ++ rest.take n, phase := .replying probe ack (rest.drop n) }
  | .writing packet rest =>
    some { w with wire := w.wire ++ rest.take n, phase := .writing packet (rest.drop n) }
  | .selecting | .broken _ => none

def finish : Option State :=
  match w.phase with
  | .replying _ ack [] => some { w with phase := .selecting, sent := w.sent ++ [(.reply, ack)] }
  | .writing packet [] =>
    -- a packet that cannot be serialised is not written
    if packet.toBytes.isOk then
      (step w.driver (.command (.ok ()))).map fun driver =>
        { w with driver, phase := .selecting, sent := w.sent ++ [(.command, packet)] }
    else none
  | _ => none

def failWrite (detail : String) : Option State :=
  match w.phase with
  | .replying probe _ _ =>
    (step w.driver (.incoming (.error detail))).map fun driver =>
      { w with driver, phase := .broken (some probe) }
  | .writing _ _ =>
    (step w.driver (.command (.error detail))).map fun driver =>
      { w with driver, phase := .broken none }
  | .selecting | .broken _ => none

end State

inductive Event
  | arrive (packet : RuntimePacket)
  | poll (unixTimeUs : UInt64) (detail : String)
  | readFailed (detail : String)
  | progress (n : ℕ)
  | finish
  | writeFailed (detail : String)
  | command (answer : Except String Unit)
  | hangup
  | call (action : Action)

def step (w : State) : Event → Option State
  | .arrive packet =>
    some { w with inbound := w.inbound ++ [packet], arrived := w.arrived ++ [packet] }
  | .poll unixTimeUs detail =>
    if w.phase = .selecting ∧ w.driver.Alive then w.readPacket unixTimeUs detail else none
  | .readFailed detail =>
    if w.phase = .selecting ∧ w.pending = [] then w.failRead detail else none
  | .progress n => w.progress n
  | .finish => w.finish
  | .writeFailed detail => w.failWrite detail
  | .command answer =>
    match w.phase with
    | .writing _ _ => none
    | _ => w.serve answer
  | .hangup =>
    match w.phase with
    | .writing _ _ => none
    | _ => (Multiplex.step w.driver .hangup).map fun driver =>
        { w with driver, phase := w.phase.dropRead }
  | .call action =>
    if action.isCall then
      (Multiplex.step w.driver action).map fun driver => { w with driver }
    else none

inductive Transition (w : State) : Event → State → Prop
  | arrived (p : RuntimePacket) : Transition w (.arrive p)
      { w with inbound := w.inbound ++ [p], arrived := w.arrived ++ [p] }
  | popped {t : UInt64} {detail : String} {p : RuntimePacket} {pending : List RuntimePacket}
      {driver : Connection} (hphase : w.phase = .selecting) (hp : w.pending = p :: pending) :
      Transition w (.poll t detail)
        { w with pending, driver, delivered := w.delivered ++ [p] }
  | returned {t : UInt64} {detail : String} {p : RuntimePacket} {inbound : List RuntimePacket}
      {driver : Connection} (hphase : w.phase = .selecting) (hpending : w.pending = [])
      (hin : w.inbound = p :: inbound) (hp : p.messageType ≠ .transportProbe) :
      Transition w (.poll t detail)
        { w with
          inbound, driver, taken := w.taken ++ [p], delivered := w.delivered ++ [p] }
  | malformed {t : UInt64} {detail : String} {p : RuntimePacket} {inbound : List RuntimePacket}
      {driver : Connection} {e : RuntimeError} (hphase : w.phase = .selecting)
      (hpending : w.pending = []) (hin : w.inbound = p :: inbound)
      (hp : p.messageType = .transportProbe) (hack : probeAck p t = .error e) :
      Transition w (.poll t detail) { w with inbound, driver, taken := w.taken ++ [p] }
  | probed {t : UInt64} {detail : String} {p ack : RuntimePacket} {inbound : List RuntimePacket}
      (hphase : w.phase = .selecting) (halive : w.driver.Alive) (hpending : w.pending = [])
      (hin : w.inbound = p :: inbound) (hp : p.messageType = .transportProbe)
      (hack : probeAck p t = .ok ack) :
      Transition w (.poll t detail)
        { w with inbound, taken := w.taken ++ [p], phase := .replying p ack ack.serialized }
  | readFailed {detail : String} {driver : Connection} (hphase : w.phase = .selecting) :
      Transition w (.readFailed detail) { w with driver }
  | replied {n : ℕ} {probe ack : RuntimePacket} {rest : Bytes}
      (hphase : w.phase = .replying probe ack rest) : Transition w (.progress n)
        { w with wire := w.wire ++ rest.take n, phase := .replying probe ack (rest.drop n) }
  | wrote {n : ℕ} {p : RuntimePacket} {rest : Bytes} (hphase : w.phase = .writing p rest) :
      Transition w (.progress n)
        { w with wire := w.wire ++ rest.take n, phase := .writing p (rest.drop n) }
  | replyDone {probe ack : RuntimePacket} (hphase : w.phase = .replying probe ack []) :
      Transition w .finish { w with phase := .selecting, sent := w.sent ++ [(.reply, ack)] }
  | writeDone {p : RuntimePacket} {driver : Connection} (hphase : w.phase = .writing p []) :
      Transition w .finish
        { w with driver, phase := .selecting, sent := w.sent ++ [(.command, p)] }
  | replyFailed {detail : String} {probe ack : RuntimePacket} {rest : Bytes} {driver : Connection}
      (hphase : w.phase = .replying probe ack rest)
      (hd : Multiplex.step w.driver (.incoming (.error detail)) = some driver) :
      Transition w (.writeFailed detail) { w with driver, phase := .broken (some probe) }
  | writeFailed {detail : String} {p : RuntimePacket} {rest : Bytes} {driver : Connection}
      (hphase : w.phase = .writing p rest)
      (hd : Multiplex.step w.driver (.command (.error detail)) = some driver) :
      Transition w (.writeFailed detail) { w with driver, phase := .broken none }
  | writeStarted {answer : Except String Unit} {p : RuntimePacket} {id : Multiplex.CallId}
      {rest : List DriverCommand} (hphase : ∀ p rest, w.phase ≠ .writing p rest)
      (halive : w.driver.Alive) (hc : w.driver.commands = .write p id :: rest) :
      Transition w (.command answer) { w with phase := .writing p p.serialized }
  | served {answer : Except String Unit} {driver : Connection}
      (hphase : ∀ p rest, w.phase ≠ .writing p rest)
      (hd : Multiplex.step w.driver (.command answer) = some driver) :
      Transition w (.command answer) { w with driver, phase := w.phase.dropRead }
  | hungUp {driver : Connection} (hphase : ∀ p rest, w.phase ≠ .writing p rest)
      (hd : Multiplex.step w.driver .hangup = some driver) :
      Transition w .hangup { w with driver, phase := w.phase.dropRead }
  | called {action : Action} {driver : Connection} (ha : action.isCall = true)
      (hd : Multiplex.step w.driver action = some driver) :
      Transition w (.call action) { w with driver }

variable {w w' : State} {e : Event}

theorem State.readPacket_transition {t : UInt64} {detail : String} (hphase : w.phase = .selecting)
    (halive : w.driver.Alive) (h : w.readPacket t detail = some w') :
    Transition w (.poll t detail) w' := by
  simp only [readPacket] at h
  split at h
  · rename_i hp
    obtain ⟨driver, -, rfl⟩ := map_eq_some_iff.mp h
    exact .popped hphase hp
  · rename_i p inbound hpend hin
    simp only [onRead] at h
    split_ifs at h with hprobe
    · obtain ⟨driver, -, rfl⟩ := map_eq_some_iff.mp h
      exact .returned hphase hpend hin hprobe
    · rw [not_not] at hprobe
      cases hack : probeAck p t with
      | error e =>
        rw [hack] at h
        obtain ⟨driver, -, rfl⟩ := map_eq_some_iff.mp h
        exact .malformed hphase hpend hin hprobe hack
      | ok ack =>
        rw [hack] at h
        cases h
        exact .probed hphase halive hpend hin hprobe hack
  · cases h

theorem State.serve_transition {ans : Except String Unit}
    (hphase : ∀ p rest, w.phase ≠ .writing p rest) (h : w.serve ans = some w') :
    Transition w (.command ans) w' := by
  simp only [serve] at h
  split at h
  · rename_i p id rest hc
    split_ifs at h with halive
    · cases h
      exact .writeStarted hphase halive hc
    · obtain ⟨driver, hd, rfl⟩ := map_eq_some_iff.mp h
      exact .served hphase hd
  · obtain ⟨driver, hd, rfl⟩ := map_eq_some_iff.mp h
    exact .served hphase hd

theorem State.finish_transition (h : w.finish = some w') : Transition w .finish w' := by
  simp only [finish] at h
  split at h
  · rename_i hphase
    cases h
    exact .replyDone hphase
  · rename_i hphase
    split_ifs at h
    obtain ⟨driver, -, rfl⟩ := map_eq_some_iff.mp h
    exact .writeDone hphase
  · cases h

theorem step_transition (h : step w e = some w') : Transition w e w' := by
  cases e with
  | arrive p =>
    cases h
    exact .arrived p
  | poll t detail =>
    simp only [step] at h
    split_ifs at h with hphase
    exact State.readPacket_transition hphase.1 hphase.2 h
  | readFailed detail =>
    simp only [step] at h
    split_ifs at h with hphase
    obtain ⟨driver, -, rfl⟩ := map_eq_some_iff.mp h
    exact .readFailed hphase.1
  | progress n =>
    simp only [step, State.progress] at h
    split at h
    · rename_i hphase
      cases h
      exact .replied hphase
    · rename_i hphase
      cases h
      exact .wrote hphase
    · cases h
    · cases h
  | finish => exact State.finish_transition h
  | writeFailed detail =>
    simp only [step, State.failWrite] at h
    split at h
    · rename_i hphase
      obtain ⟨driver, hd, rfl⟩ := map_eq_some_iff.mp h
      exact .replyFailed hphase hd
    · rename_i hphase
      obtain ⟨driver, hd, rfl⟩ := map_eq_some_iff.mp h
      exact .writeFailed hphase hd
    · cases h
    · cases h
  | command ans =>
    simp only [step] at h
    split at h
    · cases h
    · rename_i hphase
      exact State.serve_transition hphase h
  | hangup =>
    simp only [step] at h
    split at h
    · cases h
    · rename_i hphase
      obtain ⟨driver, hd, rfl⟩ := map_eq_some_iff.mp h
      exact .hungUp hphase hd
  | call action =>
    simp only [step] at h
    split_ifs at h with ha
    obtain ⟨driver, hd, rfl⟩ := map_eq_some_iff.mp h
    exact .called ha hd

end Nnrp.RoleTransport
