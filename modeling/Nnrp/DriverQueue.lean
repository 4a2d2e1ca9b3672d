import Nnrp.CallQueue
import Nnrp.DrainedQueue

/-!
# Packets on their way to the wire and to the control receiver

What one action does to the packets that wait in the command queue, to those that were written,
to the call that waits for a write, and to the events of the control receiver.
-/

namespace Nnrp.Multiplex
open Packet LabelledRun List Connection

def DriverCommand.packet? : DriverCommand → Option RuntimePacket
  | .write p _ => some p
  | .register _ _ | .unregister _ | .close _ => none

def Action.packet? : Action → Option RuntimePacket
  | .callWrite p | .sessionWrite _ p => some p
  | .callRegister _ | .callClose | .finishRegister _ | .dropRegister _ | .closeTransport _
  | .dropTransport _ | .dropConnection | .command _ | .incoming _ | .hangup => none

def Connection.queuedWrites (w : Connection) : List RuntimePacket :=
  w.commands.filterMap DriverCommand.packet?

/-- The effects of an action on the queued and the written packets. -/
inductive WriteFlow (w : Connection) : Action → Connection → Prop
  | call {p : RuntimePacket} {w' : Connection} (hq : w'.queuedWrites =
        if w.running then w.queuedWrites ++ [p] else w.queuedWrites)
      (hw : w'.written = w.written) : WriteFlow w (.callWrite p) w'
  | session {c : ChannelId} {p : RuntimePacket} {w' : Connection} (hq : w'.queuedWrites =
        if w.running then w.queuedWrites ++ [p] else w.queuedWrites)
      (hw : w'.written = w.written) : WriteFlow w (.sessionWrite c p) w'
  | wrote {answer : Except String Unit} {p : RuntimePacket} {w' : Connection} (halive : w.Alive)
      (hq : w.queuedWrites = p :: w'.queuedWrites) (hw : w'.written = w.written ++ [p]) :
      WriteFlow w (.command answer) w'
  | wroteLast {answer : Except String Unit} {p : RuntimePacket} {rest : List RuntimePacket}
      {w' : Connection} (halive : w.Alive) (hdead : ¬w'.Alive) (hq : w.queuedWrites = p :: rest)
      (hq' : w'.queuedWrites = []) (hw : w'.written = w.written ++ [p]) :
      WriteFlow w (.command answer) w'
  | refused {answer : Except String Unit} {p : RuntimePacket} {w' : Connection}
      (hdead : ¬w'.Alive) (hq : w.queuedWrites = p :: w'.queuedWrites)
      (hw : w'.written = w.written) : WriteFlow w (.command answer) w'
  | ended {a : Action} {w' : Connection} (hdead : ¬w'.Alive) (hq : w'.queuedWrites = [])
      (hw : w'.written = w.written) : WriteFlow w a w'
  | kept {a : Action} {w' : Connection} (ha : a.packet? = none)
      (hq : w'.queuedWrites = w.queuedWrites) (hw : w'.written = w.written) : WriteFlow w a w'

variable {w w' : Connection} {a : Action} {es : List Action} {p : RuntimePacket} {id : CallId}
  {kind : RuntimeTransportKind}

theorem queuedWrites_push (cmd : DriverCommand) :
    (if w.running then w.commands ++ [cmd] else w.commands).filterMap DriverCommand.packet? =
      if w.running then w.queuedWrites ++ cmd.packet?.toList else w.queuedWrites := by
  cases w.running <;> cases cmd <;> simp [queuedWrites, DriverCommand.packet?]

theorem not_alive_of_stopped (h : w.running = false) : ¬w.Alive := by
  simp [Connection.Alive, h]

theorem not_alive_of_failed {f : DriverFailure} (h : w.terminalFailure = some f) : ¬w.Alive := by
  simp [Connection.Alive, h]

theorem Transition.writeFlow (ht : Transition w a w') : WriteFlow w a w' := by
  have hkept : ∀ {w'' : Connection} (cmd : DriverCommand), cmd.packet? = none →
      a.packet? = none → w''.commands = (if w.running then w.commands ++ [cmd] else w.commands) →
      w''.written = w.written → WriteFlow w a w'' := by
    intro w'' cmd hnone ha hc hw
    refine .kept ha ?_ hw
    rw [queuedWrites, hc, queuedWrites_push, hnone]
    cases w.running <;> simp
  have hpop : ∀ {w'' : Connection} {cmd : DriverCommand} {rest : List DriverCommand},
      cmd.packet? = none → a.packet? = none → w.commands = cmd :: rest →
      w''.commands = w.commands.tail → w''.written = w.written → WriteFlow w a w'' := by
    intro w'' cmd rest hnone ha hc hc' hw
    refine .kept ha ?_ hw
    rw [queuedWrites, hc', queuedWrites, hc, filterMap_cons_none hnone, tail_cons]
  have hwrite : ∀ {w'' : Connection} {p : RuntimePacket} {id : CallId} {rest : List DriverCommand},
      w.commands = .write p id :: rest → w''.commands = w.commands.tail →
      w.queuedWrites = p :: w''.queuedWrites := by
    intro w'' p id rest hc hc'
    rw [queuedWrites, hc, queuedWrites, hc', hc, tail_cons]
    rfl
  cases ht with
  | callWrite p => exact .call (queuedWrites_push (.write p w.callCount)) rfl
  | sessionWrite c p hc => exact .session (queuedWrites_push (.write p w.callCount)) rfl
  | callClose => exact hkept (.close w.callCount) rfl rfl rfl rfl
  | registerSession s hs => exact hkept (.register s w.channelCount) rfl rfl rfl rfl
  | closeTransport c hc | dropOpened c hc =>
    exact hkept (.unregister (w.handles c).sessionId) rfl rfl rfl rfl
  | writeRefused hrun hc hf => exact .refused (not_alive_of_failed hf) (hwrite hc rfl) rfl
  | writeDone hrun hc hf => exact .wrote ⟨hrun, hf⟩ (hwrite hc rfl) rfl
  | writeFailed hrun hc hf =>
    have hq : w.queuedWrites = _ :: w.popCommand.queuedWrites := hwrite hc rfl
    exact .wroteLast ⟨hrun, hf⟩ (not_alive_of_stopped rfl) hq rfl rfl
  | registerOccupied hrun hc hs | registerVacant hrun hc hs | unregistered hrun hc =>
    exact hpop rfl rfl hc rfl rfl
  | closeRefused | closeServed | controlGone | bufferFull | hangup =>
    exact .ended (not_alive_of_stopped rfl) rfl rfl
  | _ => exact .kept rfl rfl rfl

theorem Transition.written_queued (ht : Transition w a w') (halive : w'.Alive) :
    w'.written ++ w'.queuedWrites = w.written ++ w.queuedWrites ++ a.packet?.toList := by
  have hrun : w.running = true := (ht.alive halive).1
  cases ht.writeFlow with
  | call hq hw | session hq hw => simp [hq, hw, hrun, Action.packet?]
  | wrote _ hq hw => simp [hq, hw, Action.packet?]
  | wroteLast _ hdead | refused hdead | ended hdead => exact absurd halive hdead
  | kept ha hq hw => simp [ha, hq, hw]

theorem Transition.written_prefix (ht : Transition w a w') :
    w'.written = w.written ∨ w.Alive ∧ w'.written <+: w.written ++ w.queuedWrites := by
  cases ht.writeFlow with
  | wrote halive hq hw | wroteLast halive _ hq _ hw => exact .inr ⟨halive, by simp [hq, hw]⟩
  | call _ hw | session _ hw | refused _ _ hw | ended _ _ hw | kept _ _ hw => exact .inl hw

/-- The transport is handed the packets of the write calls once each and in the order of the calls,
and while the driver is alive the remaining ones stand in its queue. -/
theorem writes_in_call_order (hr : run step (.start kind) es = some w) :
    w.written <+: es.filterMap Action.packet? ∧
      (w.Alive → w.written ++ w.queuedWrites = es.filterMap Action.packet?) := by
  induction es using reverseRecOn generalizing w with
  | nil =>
    rw [run_nil, Option.some.injEq] at hr
    simp [← hr, start, queuedWrites]
  | append_singleton es b ih =>
    obtain ⟨u, hru, hlast⟩ := run_append_eq_some.mp hr
    obtain ⟨v, hs, hv⟩ := run_cons_eq_some.mp hlast
    obtain rfl : v = w := Option.some.inj hv
    have ht := step_transition hs
    obtain ⟨hpre, hall⟩ := ih hru
    rw [filterMap_append]
    constructor
    · rcases ht.written_prefix with h | ⟨hu, h⟩
      · exact h ▸ hpre.trans (prefix_append _ _)
      · exact (hall hu ▸ h).trans (prefix_append _ _)
    · intro hv
      rw [ht.written_queued hv, hall (ht.alive hv)]
      cases b <;> rfl

theorem second_write_queued :
    ∃ w, run step (.start .tcp) [.callWrite (.bare .ping 0 0), .callWrite (.bare .ping 0 1),
        .command (.ok ())] = some w ∧
      w.written ++ w.queuedWrites = [.bare .ping 0 0, .bare .ping 0 1] :=
  ⟨_, rfl, (writes_in_call_order (rfl : run step (.start .tcp) [.callWrite (.bare .ping 0 0),
    .callWrite (.bare .ping 0 1), .command (.ok ())] = some _)).2 (by decide)⟩

def Action.isCall : Action → Bool
  | .callWrite _ | .callRegister _ | .callClose | .finishRegister _ | .dropRegister _
  | .sessionWrite _ _ | .closeTransport _ | .dropTransport _ | .dropConnection => true
  | .command _ | .incoming _ | .hangup => false

theorem Transition.call (ht : Transition w a w') (ha : a.isCall = true) :
    w'.running = w.running ∧ w'.terminalFailure = w.terminalFailure ∧
      w.commands <+: w'.commands := by
  cases ht with
  | callWrite | sessionWrite | callClose | registerSession | closeTransport | dropOpened =>
    exact ⟨rfl, rfl, commands_prefix_push _ _ _⟩
  | registerZero | finishOk | finishFailed | dropRegister | dropClosed | dropConnection =>
    exact ⟨rfl, rfl, prefix_rfl⟩
  | _ => cases ha

abbrev Action.Queues (P : RuntimePacket → Prop) (a : Action) : Prop := ∃ p ∈ a.packet?, P p

theorem WriteFlow.flow {P : RuntimePacket → Prop} [DecidablePred P] (h : WriteFlow w a w')
    (ha : ¬a.Queues P) : DrainedQueue.Flow w.Alive w'.Alive (w.queuedWrites.filter P)
      (w'.queuedWrites.filter P) (w.written.filter P) (w'.written.filter P) := by
  have hpush : ∀ {p : RuntimePacket}, ¬P p → w'.queuedWrites =
      (if w.running then w.queuedWrites ++ [p] else w.queuedWrites) →
      w'.queuedWrites.filter P = w.queuedWrites.filter P := by
    intro p hp hq
    rw [hq]
    split
    · simp [filter_append, hp]
    · rfl
  cases h with
  | call hq hw | session hq hw =>
    exact .kept (hpush (fun hp => ha ⟨_, rfl, hp⟩) hq) (by rw [hw])
  | @wrote ans p _ halive hq hw =>
    by_cases hp : P p
    · have hhead : w.queuedWrites.filter P = p :: w'.queuedWrites.filter P := by simp [hq, hp]
      exact .wrote halive hhead (by simp [hw, hp])
    · refine .kept ?_ ?_
      · simp [hq, hp]
      · simp [hw, hp]
  | @wroteLast ans p rest _ halive hdead hq hq' hw =>
    by_cases hp : P p
    · have hhead : w.queuedWrites.filter P = p :: rest.filter P := by simp [hq, hp]
      exact .wroteLast halive hdead hhead (by simp [hw, hp])
    · refine .ended hdead ?_
      simp [hw, hp]
  | refused hdead hq hw | ended hdead hq hw => exact .ended hdead (by rw [hw])
  | kept _ hq hw => exact .kept (by rw [hq]) (by rw [hw])

/-- What a live control receiver sees of an action. -/
inductive ControlFlow (w : Connection) : Action → Connection → Prop
  | silent {a : Action} {w' : Connection} (hc : w'.control = w.control) : ControlFlow w a w'
  | packet {p : RuntimePacket} {w' : Connection} (hp : p.sessionId = 0 ∨ p.IsOpenAck)
      (hc : w'.control.sent = w.control.sent ++ [.packet p])
      (halive : w'.control.receiverAlive = true) : ControlFlow w (.incoming (.ok p)) w'
  | failed {a : Action} {f : DriverFailure} {w' : Connection} (hdead : ¬w'.Alive)
      (hc : w'.control.sent = w.control.sent ++ [.failed f])
      (halive : w'.control.receiverAlive = true) : ControlFlow w a w'

theorem Transition.controlFlow (ht : Transition w a w') (ha : a ≠ .dropConnection)
    (halive : w.control.receiverAlive = true) : ControlFlow w a w' := by
  have hsend : ∀ e : DriverEvent, (w.control.unboundedSend e).sent = w.control.sent ++ [e] :=
    fun e => by rw [Channel.unboundedSend_alive e halive]
  have hrecv : ∀ e : DriverEvent, (w.control.unboundedSend e).receiverAlive = true :=
    fun e => by rw [Channel.unboundedSend_receiverAlive, halive]
  cases ht with
  | dropConnection => exact absurd rfl ha
  | writeFailed | bufferFull => exact .failed (not_alive_of_stopped rfl) (hsend _) (hrecv _)
  | readFailed | unknown => exact .failed (not_alive_of_failed rfl) (hsend _) (hrecv _)
  | control p _ _ hp => exact .packet (hp.imp_right And.left) (hsend _) (hrecv _)
  | controlGone p _ _ hp hd =>
    rw [halive] at hd
    cases hd
  | _ => exact .silent rfl

theorem Transition.write_cases (ht : Transition w a w') (hwf : CallsWellFormed w)
    (hmem : .write p id ∈ w.commands) : .write p id ∈ w'.commands ∨
    (w.Alive ∧ w'.calls id = .resolved (.ok ()) ∧ w.queuedWrites = p :: w'.queuedWrites ∧
      w'.written = w.written ++ [p]) ∨
    (¬w'.Alive ∧ w'.calls id ≠ .waiting ∧ w'.calls id ≠ .resolved (.ok ())) := by
  have hpush : ∀ cmd : DriverCommand, DriverCommand.write p id ∈
      if w.running then w.commands ++ [cmd] else w.commands := by
    intro cmd
    split
    · exact mem_append_left _ hmem
    · exact hmem
  have htail : ∀ {cmd : DriverCommand} {rest : List DriverCommand},
      w.commands = cmd :: rest → cmd ≠ .write p id → .write p id ∈ w.commands.tail := by
    intro cmd rest hc hne
    rw [hc] at hmem ⊢
    exact (mem_cons.mp hmem).resolve_left fun h => hne h.symm
  -- a driver that stops with the command in its queue drops the completion
  have hstop : ∀ u : Connection, DriverCommand.write p id ∈ u.commands →
      ¬u.stop.Alive ∧ u.stop.calls id ≠ .waiting ∧ u.stop.calls id ≠ .resolved (.ok ()) := by
    intro u hu
    have hpend : id ∈ u.commands.filterMap DriverCommand.completion? :=
      mem_filterMap.mpr ⟨_, hu, rfl⟩
    have hclosed : u.stop.calls id = .closed := if_pos hpend
    rw [hclosed]
    exact ⟨not_alive_of_stopped rfl, by rintro ⟨⟩, by rintro ⟨⟩⟩
  cases ht with
  | callWrite | sessionWrite | callClose | registerSession | closeTransport | dropOpened =>
    exact .inl (hpush _)
  | registerOccupied hrun hc hs | registerVacant hrun hc hs | unregistered hrun hc =>
    exact .inl (htail hc (by rintro ⟨⟩))
  | @writeRefused p' id' rest f ans hrun hc hf =>
    by_cases hhead : DriverCommand.write p' id' = .write p id
    · cases hhead
      refine .inr (.inr ⟨not_alive_of_failed hf, ?_, ?_⟩)
      · simp
      · simp
    · exact .inl (htail hc hhead)
  | @writeDone p' id' rest hrun hc hf =>
    by_cases hhead : DriverCommand.write p' id' = .write p id
    · cases hhead
      refine .inr (.inl ⟨⟨hrun, hf⟩, ?_, ?_, rfl⟩)
      · simp
      · rw [queuedWrites, hc]
        simp [queuedWrites, hc, DriverCommand.packet?]
    · exact .inl (htail hc hhead)
  | @writeFailed p' id' rest detail hrun hc hf =>
    by_cases hhead : DriverCommand.write p' id' = .write p id
    · cases hhead
      have hnot : id ∉ rest.filterMap DriverCommand.completion? := by
        have hnodup := hwf.nodup
        rw [pendingCalls, hc] at hnodup
        exact (nodup_cons.mp hnodup).1
      refine .inr (.inr ⟨not_alive_of_stopped rfl, ?_, ?_⟩)
      all_goals simp [hc, hnot]
    · exact .inr (.inr (hstop _ (htail hc hhead)))
  | closeRefused hrun hc hf | closeServed result hrun hc hf =>
    exact .inr (.inr (hstop _ (htail hc (by rintro ⟨⟩))))
  | controlGone | bufferFull | hangup => exact .inr (.inr (hstop _ hmem))
  | _ => exact .inl hmem

/-- A write of the given kind is queued, was made and left `done` true, or failed together with
the driver. -/
def Connection.WriteTracked (w : Connection) (P : RuntimePacket → Prop) (done : Prop)
    (id : CallId) : Prop := id < w.callCount ∧ (
  (∃ p, P p ∧ .write p id ∈ w.commands) ∨
  (w.calls id = .resolved (.ok ()) ∧ done) ∨
  (¬w.Alive ∧ w.calls id ≠ .waiting ∧ w.calls id ≠ .resolved (.ok ())))

variable {P : RuntimePacket → Prop} {done done' : Prop}

namespace Connection.WriteTracked

theorem step (h : w.WriteTracked P done id) (hwf : CallsWellFormed w)
    (ht : Transition w a w') (hdone : done → done')
    (hwrote : ∀ p, P p → w.Alive → w.queuedWrites = p :: w'.queuedWrites →
      w'.written = w.written ++ [p] → done') : w'.WriteTracked P done' id := by
  obtain ⟨hid, h⟩ := h
  have hkeep : w.calls id ≠ .waiting → w'.calls id = w.calls id :=
    fun hne => ht.calls_eq hid fun hmem => hne (hwf.queued id hmem).2
  refine ⟨hid.trans_le ht.callCount_le, ?_⟩
  rcases h with ⟨p, hp, hmem⟩ | ⟨hok, hd⟩ | ⟨hdead, hwait, hok⟩
  · rcases ht.write_cases hwf hmem with hmem' | ⟨halive, hok, hq, hw⟩ | hfailed
    · exact .inl ⟨p, hp, hmem'⟩
    · exact .inr (.inl ⟨hok, hwrote p hp halive hq hw⟩)
    · exact .inr (.inr hfailed)
  · refine .inr (.inl ⟨?_, hdone hd⟩)
    rw [hkeep (by simp [hok]), hok]
  · refine .inr (.inr ⟨fun ha => hdead (ht.alive ha), ?_⟩)
    rw [hkeep hwait]
    exact ⟨hwait, hok⟩

theorem waiting (hwf : CallsWellFormed w)
    (hmem : .write p id ∈ w.commands) : w.calls id = .waiting :=
  (hwf.queued id (mem_filterMap.mpr ⟨_, hmem, rfl⟩)).2

theorem of_ok (h : w.WriteTracked P done id) (hwf : CallsWellFormed w)
    (hok : w.calls id = .resolved (.ok ())) : done := by
  obtain ⟨-, ⟨p, -, hmem⟩ | ⟨-, hd⟩ | ⟨-, -, hne⟩⟩ := h
  · rw [waiting hwf hmem] at hok
    cases hok
  · exact hd
  · exact absurd hok hne

theorem dead (h : w.WriteTracked P done id) (hwf : CallsWellFormed w)
    (hwait : w.calls id ≠ .waiting) (hne : w.calls id ≠ .resolved (.ok ())) : ¬w.Alive := by
  obtain ⟨-, ⟨p, -, hmem⟩ | ⟨hok, -⟩ | ⟨hdead, -, -⟩⟩ := h
  · exact absurd (waiting hwf hmem) hwait
  · exact absurd hok hne
  · exact hdead

theorem request (hrun : w.running = true) (hp : P p) :
    (w.request (.write p)).WriteTracked P done w.callCount := by
  refine ⟨Nat.lt_succ_self _, .inl ⟨p, hp, ?_⟩⟩
  simp [hrun]

end Connection.WriteTracked

end Nnrp.Multiplex
