import Nnrp.Multiplex

/-!
# What one action of a multiplexed connection can do

`Transition` lists every effect of `step` once, each with the guard under which it happens;
the invariants of the connection are proved by cases on it.
-/

namespace Nnrp.Multiplex
open Packet Option Connection

variable {w : Connection} {p : RuntimePacket}

namespace Channel

variable (c : Channel) (e : DriverEvent)

@[simp] theorem unboundedSend_receiverAlive :
    (c.unboundedSend e).receiverAlive = c.receiverAlive := by
  unfold unboundedSend
  split <;> rfl

variable {c : Channel}

theorem unboundedSend_alive (h : c.receiverAlive = true) :
    c.unboundedSend e = { c with sent := c.sent ++ [e] } := by simp [unboundedSend, h]

theorem unboundedSend_dead (h : c.receiverAlive = false) :
    c.unboundedSend e = { c with refused := c.refused ++ [e] } := by simp [unboundedSend, h]

@[simp] theorem deliverPending_receiverAlive (ps : List RuntimePacket) :
    (c.deliverPending ps).receiverAlive = c.receiverAlive := by
  induction ps generalizing c with
  | nil => rfl
  | cons p ps ih =>
    unfold deliverPending
    split
    · simp [ih]
    · simp

theorem deliverPending_alive (h : c.receiverAlive = true) (ps : List RuntimePacket) :
    c.deliverPending ps = { c with sent := c.sent ++ ps.map .packet } := by
  induction ps generalizing c with
  | nil => simp [deliverPending]
  | cons p ps ih =>
    rw [deliverPending, if_pos h, ih (by simpa using h), unboundedSend_alive _ h]
    simp

theorem deliverPending_dead (h : c.receiverAlive = false) (ps : List RuntimePacket) :
    c.deliverPending ps = { c with refused := c.refused ++ (ps.head?.map .packet).toList } := by
  cases ps with
  | nil => simp [deliverPending]
  | cons p ps => simp [deliverPending, h, unboundedSend_dead]

end Channel

theorem sendAll_apply (events : ChannelId → Channel) (e : DriverEvent) (cs : List ChannelId)
    (hcs : cs.Nodup) (c : ChannelId) :
    sendAll events e cs c = if c ∈ cs then (events c).unboundedSend e else events c := by
  induction cs generalizing events with
  | nil => rfl
  | cons d cs ih =>
    obtain ⟨hd, hcs⟩ := List.nodup_cons.mp hcs
    have h := ih (Function.update events d ((events d).unboundedSend e)) hcs
    rw [sendAll, List.foldl_cons, ← sendAll, h]
    by_cases hc : c = d
    · subst hc
      simp [hd]
    · simp [hc]

namespace Connection

@[simp] theorem noteOpenAck_of_not {p : RuntimePacket} (h : ¬p.IsOpenAck) :
    w.noteOpenAck p = w := by
  simp [noteOpenAck, h]

end Connection

/-- The effects of one action. Guards that only say whether a handle exists are kept where a
later argument needs them. -/
inductive Transition (w : Connection) : Action → Connection → Prop
  | callWrite (p : RuntimePacket) : Transition w (.callWrite p) (w.request (.write p))
  | sessionWrite (c : ChannelId) (p : RuntimePacket) (hc : (w.handles c).status = .opened) :
      Transition w (.sessionWrite c p) (w.request (.write p))
  | callClose : Transition w .callClose (w.request .close)
  | registerZero : Transition w (.callRegister 0) w
  | registerSession (s : UInt32) (hs : s ≠ 0) :
      Transition w (.callRegister s) (w.registerSession s)
  | finishOk (c : ChannelId)
      (hc : (w.handles c).status = .registering (.resolved (.ok ()))) :
      Transition w (.finishRegister c) (w.setStatus c .opened)
  | finishFailed (c : ChannelId) (result : CallResult)
      (hc : (w.handles c).status = .registering result) (hr : result ≠ .resolved (.ok ())) :
      Transition w (.finishRegister c) ((w.setStatus c .abandoned).dropReceiver c)
  | dropRegister (c : ChannelId) (result : CallResult)
      (hc : (w.handles c).status = .registering result) :
      Transition w (.dropRegister c) ((w.setStatus c .abandoned).dropReceiver c)
  | closeTransport (c : ChannelId) (hc : (w.handles c).status = .opened) :
      Transition w (.closeTransport c)
        ((w.setStatus c .closed).unregister (w.handles c).sessionId)
  | dropOpened (c : ChannelId) (hc : (w.handles c).status = .opened) :
      Transition w (.dropTransport c)
        (((w.setStatus c .dropped).unregister (w.handles c).sessionId).dropReceiver c)
  | dropClosed (c : ChannelId) (hc : (w.handles c).status = .closed) :
      Transition w (.dropTransport c) ((w.setStatus c .dropped).dropReceiver c)
  | dropConnection : Transition w .dropConnection w.dropConnection
  | writeRefused {p : RuntimePacket} {id : CallId} {rest : List DriverCommand}
      {f : DriverFailure} {answer : Except String Unit} (hrun : w.running = true)
      (hc : w.commands = .write p id :: rest) (hf : w.terminalFailure = some f) :
      Transition w (.command answer) (w.popCommand.complete id (.resolved (.error f)))
  | writeDone {p : RuntimePacket} {id : CallId} {rest : List DriverCommand}
      (hrun : w.running = true) (hc : w.commands = .write p id :: rest)
      (hf : w.terminalFailure = none) :
      Transition w (.command (.ok ()))
        (((w.popCommand.noteOpenAck p).recordWrite p).complete id (.resolved (.ok ())))
  | writeFailed {p : RuntimePacket} {id : CallId} {rest : List DriverCommand} {detail : String}
      (hrun : w.running = true) (hc : w.commands = .write p id :: rest)
      (hf : w.terminalFailure = none) :
      Transition w (.command (.error detail))
        ((((w.popCommand.noteOpenAck p).recordWrite p).complete id
          (.resolved (.error ⟨w.transportKind, detail⟩))).broadcastFailure
            ⟨w.transportKind, detail⟩).stop
  | registerOccupied {s : UInt32} {c c' : ChannelId} {rest : List DriverCommand}
      {answer : Except String Unit} (hrun : w.running = true)
      (hc : w.commands = .register s c :: rest) (hs : w.sessions[s]? = some c') :
      Transition w (.command answer) (w.popCommand.answer c (.resolved (.error
        ⟨w.transportKind, "session " ++ toString s ++ " is already registered"⟩)))
  | registerVacant {s : UInt32} {c : ChannelId} {rest : List DriverCommand}
      {answer : Except String Unit} (hrun : w.running = true)
      (hc : w.commands = .register s c :: rest) (hs : w.sessions[s]? = none) :
      Transition w (.command answer)
        ((w.popCommand.install s c).answer c (.resolved (.ok ())))
  | unregistered {s : UInt32} {rest : List DriverCommand} {answer : Except String Unit}
      (hrun : w.running = true) (hc : w.commands = .unregister s :: rest) :
      Transition w (.command answer) (w.popCommand.removeSession s)
  | closeRefused {id : CallId} {rest : List DriverCommand} {f : DriverFailure}
      {answer : Except String Unit} (hrun : w.running = true)
      (hc : w.commands = .close id :: rest) (hf : w.terminalFailure = some f) :
      Transition w (.command answer) (w.popCommand.complete id (.resolved (.error f))).stop
  | closeServed {id : CallId} {rest : List DriverCommand} {answer : Except String Unit}
      (result : Except DriverFailure Unit) (hrun : w.running = true)
      (hc : w.commands = .close id :: rest) (hf : w.terminalFailure = none) :
      Transition w (.command answer)
        (w.popCommand.closeTransport.complete id (.resolved result)).stop
  | readFailed (detail : String) (hrun : w.running = true) (hf : w.terminalFailure = none) :
      Transition w (.incoming (.error detail)) (w.fail ⟨w.transportKind, detail⟩)
  | control (p : RuntimePacket) (hrun : w.running = true) (hf : w.terminalFailure = none)
      (hp : p.sessionId = 0 ∨ p.IsOpenAck ∧ w.sessions[p.sessionId]? = none) :
      Transition w (.incoming (.ok p)) ((w.noteOpenAck p).sendControl (.packet p))
  | controlGone (p : RuntimePacket) (hrun : w.running = true) (hf : w.terminalFailure = none)
      (hp : p.sessionId = 0 ∨ p.IsOpenAck ∧ w.sessions[p.sessionId]? = none)
      (hd : w.control.receiverAlive = false) :
      Transition w (.incoming (.ok p))
        ((w.noteOpenAck p).sendControl (.packet p)).closeTransport.stop
  | delivered (p : RuntimePacket) (c : ChannelId) (hrun : w.running = true)
      (hf : w.terminalFailure = none) (hp : p.sessionId ≠ 0)
      (hs : w.sessions[p.sessionId]? = some c) (ha : (w.events c).receiverAlive = true) :
      Transition w (.incoming (.ok p)) ((w.noteOpenAck p).sendSession c (.packet p))
  | deadReceiver (p : RuntimePacket) (c : ChannelId) (hrun : w.running = true)
      (hf : w.terminalFailure = none) (hp : p.sessionId ≠ 0)
      (hs : w.sessions[p.sessionId]? = some c) (ha : (w.events c).receiverAlive = false) :
      Transition w (.incoming (.ok p))
        (((w.noteOpenAck p).sendSession c (.packet p)).removeSession p.sessionId)
  | buffered (p : RuntimePacket) (pending : PendingSessionPackets) (hrun : w.running = true)
      (hf : w.terminalFailure = none) (hp : p.sessionId ≠ 0) (hack : ¬p.IsOpenAck)
      (hs : w.sessions[p.sessionId]? = none) (hw : p.sessionId ∈ w.awaitingRegistration)
      (hq : ((w.pendingSessions[p.sessionId]?).getD {}).push p = .ok pending) :
      Transition w (.incoming (.ok p)) (w.buffer p.sessionId pending)
  | bufferFull (p : RuntimePacket) (detail : String) (hrun : w.running = true)
      (hf : w.terminalFailure = none) (hp : p.sessionId ≠ 0) (hack : ¬p.IsOpenAck)
      (hs : w.sessions[p.sessionId]? = none) (hw : p.sessionId ∈ w.awaitingRegistration)
      (hq : ((w.pendingSessions[p.sessionId]?).getD {}).push p = .error detail) :
      Transition w (.incoming (.ok p)) (w.broadcastFailure ⟨w.transportKind, detail⟩).stop
  | unknown (p : RuntimePacket) (hrun : w.running = true) (hf : w.terminalFailure = none)
      (hp : p.sessionId ≠ 0) (hack : ¬p.IsOpenAck) (hs : w.sessions[p.sessionId]? = none)
      (hw : p.sessionId ∉ w.awaitingRegistration) :
      Transition w (.incoming (.ok p)) (w.fail (w.unknownSession p.sessionId))
  | hangup (hrun : w.running = true) : Transition w .hangup w.closeTransport.stop

theorem Connection.onCommand_transition {ans : Except String Unit} {cmd : DriverCommand}
    {rest : List DriverCommand} (hrun : w.running = true) (hc : w.commands = cmd :: rest) :
    Transition w (.command ans) (w.popCommand.onCommand ans cmd) := by
  cases cmd with
  | write p id =>
    simp only [onCommand, onWrite, popCommand_terminalFailure]
    cases hf : w.terminalFailure with
    | some f => exact .writeRefused hrun hc hf
    | none =>
      cases ans with
      | ok u => exact .writeDone hrun hc hf
      | error detail => exact .writeFailed hrun hc hf
  | register s c =>
    simp only [onCommand, onRegister, popCommand_sessions]
    cases hs : w.sessions[s]? with
    | some c' => exact .registerOccupied hrun hc hs
    | none => exact .registerVacant hrun hc hs
  | unregister s => exact .unregistered hrun hc
  | close id =>
    simp only [onCommand, onClose, popCommand_terminalFailure]
    cases hf : w.terminalFailure with
    | some f => exact .closeRefused hrun hc hf
    | none => exact .closeServed _ hrun hc hf

theorem Connection.toControl_transition (hrun : w.running = true) (hf : w.terminalFailure = none)
    (hp : p.sessionId = 0 ∨ p.IsOpenAck ∧ w.sessions[p.sessionId]? = none) :
    Transition w (.incoming (.ok p)) ((w.noteOpenAck p).toControl p) := by
  unfold toControl
  dsimp only
  split
  · rename_i h
    exact .controlGone p hrun hf hp h.1
  · exact .control p hrun hf hp

theorem Connection.onPacket_transition (hrun : w.running = true)
    (hf : w.terminalFailure = none) : Transition w (.incoming (.ok p)) (w.onPacket p) := by
  unfold onPacket
  dsimp only
  by_cases hp : p.sessionId = 0
  · rw [if_pos hp]
    exact toControl_transition hrun hf (.inl hp)
  rw [if_neg hp, noteOpenAck_sessions]
  cases hs : w.sessions[p.sessionId]? with
  | some c =>
    change Transition w _ (if (w.events c).receiverAlive = true then _ else _)
    by_cases ha : (w.events c).receiverAlive = true
    · rw [if_pos ha]
      exact .delivered p c hrun hf hp hs ha
    · rw [if_neg ha]
      exact .deadReceiver p c hrun hf hp hs (by simpa using ha)
  | none =>
    dsimp only
    by_cases hack : p.IsOpenAck
    · rw [if_pos hack]
      exact toControl_transition hrun hf (.inr ⟨hack, hs⟩)
    rw [if_neg hack, noteOpenAck_of_not hack]
    by_cases hw : p.sessionId ∈ w.awaitingRegistration
    · rw [if_pos hw]
      cases hq : ((w.pendingSessions[p.sessionId]?).getD {}).push p with
      | ok pending => exact .buffered p pending hrun hf hp hack hs hw hq
      | error detail => exact .bufferFull p detail hrun hf hp hack hs hw hq
    · rw [if_neg hw]
      exact .unknown p hrun hf hp hack hs hw

theorem step_transition {w' : Connection} {a : Action} (h : step w a = some w') :
    Transition w a w' := by
  cases a with
  | callWrite p =>
    simp only [step, ite_none_right_eq_some, some.injEq] at h
    exact h.2 ▸ .callWrite p
  | callRegister s =>
    simp only [step, ite_none_right_eq_some] at h
    obtain ⟨-, h⟩ := h
    split_ifs at h with hs
    · cases h
      subst hs
      exact .registerZero
    · cases h
      exact .registerSession s hs
  | callClose =>
    simp only [step, ite_none_right_eq_some, some.injEq] at h
    exact h.2 ▸ .callClose
  | finishRegister c =>
    simp only [step] at h
    split at h
    · rename_i result hc
      unfold finishRegister at h
      split at h
      · cases h
      · cases h
        exact .finishOk c hc
      · rename_i hr
        cases h
        exact .finishFailed c _ hc hr
    · cases h
  | dropRegister c =>
    simp only [step] at h
    split at h <;> cases h
    exact .dropRegister c _ ‹_›
  | sessionWrite c p | closeTransport c =>
    simp only [step] at h
    split at h <;> cases h
    constructor
    assumption
  | dropTransport c =>
    simp only [step] at h
    split at h <;> cases h
    · exact .dropOpened c ‹_›
    · exact .dropClosed c ‹_›
  | dropConnection =>
    simp only [step, ite_none_right_eq_some, some.injEq] at h
    exact h.2 ▸ .dropConnection
  | command ans =>
    simp only [step, ite_none_right_eq_some] at h
    obtain ⟨hrun, h⟩ := h
    cases hc : w.commands with
    | nil => simp [hc] at h
    | cons cmd rest =>
      simp only [hc, some.injEq] at h
      exact h ▸ onCommand_transition hrun hc
  | incoming result =>
    simp only [step, ite_none_right_eq_some, some.injEq] at h
    obtain ⟨⟨hrun, hf⟩, h⟩ := h
    cases result with
    | ok p => exact h ▸ onPacket_transition hrun hf
    | error detail => exact h ▸ .readFailed detail hrun hf
  | hangup =>
    simp only [step, ite_none_right_eq_some, some.injEq] at h
    exact h.2 ▸ .hangup h.1.1

end Nnrp.Multiplex
