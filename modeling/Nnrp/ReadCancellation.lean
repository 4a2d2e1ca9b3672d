import Nnrp.RoleTransport
import Nnrp.StreamWriter

/-!
# Reads that the driver abandons

A read that waits for a packet may be dropped at any time: no packet is lost or reordered. A read
that is writing the reply to a probe may not: the reply stays unfinished in the middle of the
stream, and the probe is not answered. In a run where the driver takes no command in that phase,
the stream consists of whole packets with at most one unfinished packet at its end, and every
well-formed probe has its reply.
-/

namespace Nnrp.RoleTransport
open LabelledRun Packet ByteOrder TransportProbe StreamWriter List Fallible RuntimePacket
open Multiplex (Connection Action DriverCommand)

variable {driver : Connection}

def NonProbe (p : RuntimePacket) : Prop := p.messageType ≠ .transportProbe

instance (p : RuntimePacket) : Decidable (NonProbe p) :=
  inferInstanceAs (Decidable (p.messageType ≠ .transportProbe))

def probeBodyMatches (p : RuntimePacket) : Bool :=
  match TransportProbeMetadata.parse p.metadata with
  | .ok probe => p.body.length = probe.probePayloadBytes.toNat
  | .error _ => false

def WellFormedProbe (p : RuntimePacket) : Prop :=
  p.messageType = .transportProbe ∧ probeBodyMatches p = true

instance (p : RuntimePacket) : Decidable (WellFormedProbe p) := inferInstanceAs (Decidable (_ ∧ _))

def Acknowledges (probe ack : RuntimePacket) : Prop :=
  ack.messageType = .transportProbeAck ∧ ∃ unixTimeUs, probeAck probe unixTimeUs = .ok ack

variable {p ack : RuntimePacket} {t : UInt64} {e : RuntimeError}

theorem bodyMatches_of_probeAck (h : probeAck p t = .ok ack) : probeBodyMatches p = true := by
  simp only [probeAck] at h
  obtain ⟨probe, hprobe, h⟩ := bind_eq_ok.mp h
  split_ifs at h with hlen
  · cases h
  rw [probeBodyMatches, liftNnrp_eq_ok.mp hprobe]
  exact decide_eq_true (not_not.mp hlen)

theorem not_bodyMatches_of_probeAck (h : probeAck p t = .error e) : ¬probeBodyMatches p = true := by
  intro hmatch
  rw [probeBodyMatches] at hmatch
  cases hprobe : TransportProbeMetadata.parse p.metadata with
  | error e' =>
    rw [hprobe] at hmatch
    cases hmatch
  | ok probe =>
    rw [hprobe] at hmatch
    have hlen := of_decide_eq_true hmatch
    -- the metadata of the reply has sixteen bytes, so no length check can fail
    simp only [probeAck, hprobe, liftNnrp, ok_bind, hlen, ne_eq, not_true_eq_false, if_false] at h
    cases h

theorem acknowledges_of_probeAck (h : probeAck p t = .ok ack) : Acknowledges p ack := by
  refine ⟨?_, t, h⟩
  simp only [probeAck] at h
  obtain ⟨probe, -, h⟩ := bind_eq_ok.mp h
  split_ifs at h
  · cases h
  obtain ⟨bytes, -, h⟩ := bind_eq_ok.mp h
  exact (new_ok (liftNnrp_eq_ok.mp h)).2.2.1

variable {w w' : State} {ev : Event} {es : List Event} {kind : RuntimeTransportKind}
  {buffered : List RuntimePacket} {rest : Bytes}

structure Ordered (buffered : List RuntimePacket) (w : State) : Prop where
  arrived : w.arrived = w.taken ++ w.inbound
  delivered : w.delivered ++ w.pending = buffered ++ w.taken.filter NonProbe

theorem Transition.ordered (ht : Transition w ev w') (h : Ordered buffered w) :
    Ordered buffered w' := by
  obtain ⟨harrived, hdeliv⟩ := h
  cases ht with
  | arrived p => exact ⟨by rw [harrived, append_assoc], hdeliv⟩
  | popped hphase hp =>
    refine ⟨harrived, ?_⟩
    rw [← hdeliv, hp, append_assoc, singleton_append]
  | @returned _ _ p _ _ hphase hpend hin hp =>
    have hprobe : NonProbe p := hp
    rw [hpend, append_nil] at hdeliv
    refine ⟨?_, ?_⟩
    · rw [harrived, hin, append_assoc, singleton_append]
    · simp [hpend, hdeliv, filter_append, hprobe]
  | @malformed _ _ p _ _ _ hphase hpend hin hp hack
  | @probed _ _ p _ _ hphase _ hpend hin hp hack =>
    have hprobe : ¬NonProbe p := not_not.mpr hp
    refine ⟨?_, ?_⟩
    · rw [harrived, hin, append_assoc, singleton_append]
    · simp [hdeliv, filter_append, hprobe]
  | readFailed | replied | wrote | replyDone | writeDone | replyFailed | writeFailed
  | writeStarted | served | hungUp | called => exact ⟨harrived, hdeliv⟩

def Phase.outstanding : Phase → List RuntimePacket
  | .replying probe _ _ => [probe]
  | .broken unanswered => unanswered.toList
  | .selecting | .writing _ _ => []

def Answered (w : State) : Prop :=
  ∃ answered, w.taken.filter WellFormedProbe = answered ++ w.phase.outstanding ∧
    List.Forall₂ Acknowledges answered w.replies

def Phase.isReplying : Phase → Bool
  | .replying _ _ _ => true
  | .selecting | .writing _ _ | .broken _ => false

def Event.dropsRead : Event → Bool
  | .command _ | .hangup => true
  | .arrive _ | .poll _ _ | .readFailed _ | .progress _ | .finish | .writeFailed _
  | .call _ => false

/-- The driver takes no command while the read is writing the reply to a probe. -/
def Undisturbed (w : State) (event : Event) : Prop :=
  ¬(event.dropsRead = true ∧ w.phase.isReplying = true)

instance (w : State) (event : Event) : Decidable (Undisturbed w event) :=
  inferInstanceAs (Decidable ¬_)

theorem Undisturbed.reading (he : Undisturbed w ev) (hdrop : ev.dropsRead = true) :
    w.phase.isReplying = false :=
  Bool.eq_false_iff.mpr fun hreply => he ⟨hdrop, hreply⟩

def Sound (w : State) : Prop :=
  match w.phase with
  | .selecting => w.wire = w.items.flatMap serialized
  | .replying probe ack rest =>
    Unfinished serialized w.wire w.items ack rest ∧ Acknowledges probe ack
  | .writing packet rest =>
    Unfinished serialized w.wire w.items packet rest ∧ w.driver.Alive ∧
      ∃ id later, w.driver.commands = .write packet id :: later
  | .broken _ => Whole serialized w.items w.wire ∧ ¬w.driver.Alive

theorem items_append (src : Source) (pkt : RuntimePacket) :
    { w with sent := w.sent ++ [(src, pkt)] }.items = w.items ++ [pkt] := by
  simp [State.items]

theorem Phase.dropRead_eq {phase : Phase} (h : phase.isReplying = false) :
    phase.dropRead = phase := by
  cases phase with
  | replying => cases h
  | selecting | writing | broken => rfl

theorem Sound.of_driver (h : Sound w) (halive : driver.Alive → w.driver.Alive)
    (hwriting : ∀ p rest, w.phase = .writing p rest →
      driver.Alive ∧ ∃ id later, driver.commands = .write p id :: later) :
    Sound { w with driver } := by
  unfold Sound at h ⊢
  cases hp : w.phase with
  | selecting | replying =>
    rw [hp] at h
    exact h
  | writing p rest =>
    rw [hp] at h
    exact ⟨h.1, hwriting p rest hp⟩
  | broken unanswered =>
    rw [hp] at h
    exact ⟨h.1, fun ha => h.2 (halive ha)⟩

theorem Sound.of_selecting (h : Sound w) (hphase : w.phase = .selecting) :
    w.wire = w.items.flatMap serialized := by
  rw [Sound, hphase] at h
  exact h

theorem Sound.of_replying {probe : RuntimePacket} (h : Sound w)
    (hphase : w.phase = .replying probe ack rest) :
    Unfinished serialized w.wire w.items ack rest ∧ Acknowledges probe ack := by
  rw [Sound, hphase] at h
  exact h

theorem Sound.of_writing (h : Sound w) (hphase : w.phase = .writing p rest) :
    Unfinished serialized w.wire w.items p rest ∧ w.driver.Alive ∧
      ∃ id later, w.driver.commands = .write p id :: later := by
  rw [Sound, hphase] at h
  exact h

theorem selecting_of_alive (h : Sound w) (halive : w.driver.Alive)
    (hphase : ∀ p rest, w.phase ≠ .writing p rest) (hreply : w.phase.isReplying = false) :
    w.phase = .selecting := by
  cases hp : w.phase with
  | selecting => rfl
  | writing p rest => exact absurd hp (hphase p rest)
  | replying =>
    rw [hp] at hreply
    cases hreply
  | broken unanswered =>
    rw [Sound, hp] at h
    exact absurd halive h.2

theorem Transition.sound (ht : Transition w ev w') (he : Undisturbed w ev) (h : Sound w) :
    Sound w' := by
  have hsame : ∀ {u : State}, w.phase = .selecting → u.phase = .selecting → u.wire = w.wire →
      u.sent = w.sent → Sound u := by
    intro u hphase hphase' hwire hsent
    rw [Sound, hphase', hwire, State.items, hsent]
    exact h.of_selecting hphase
  cases ht with
  | arrived => exact h
  | popped hphase _ | returned hphase _ _ _ | malformed hphase _ _ _ _ | readFailed hphase =>
    exact hsame hphase hphase rfl rfl
  | probed hphase halive hpend hin hp hack =>
    exact ⟨Unfinished.start (h.of_selecting hphase) _, acknowledges_of_probeAck hack⟩
  | replied hphase =>
    obtain ⟨hwire, hack⟩ := h.of_replying hphase
    exact ⟨hwire.progress _, hack⟩
  | wrote hphase =>
    obtain ⟨hwire, hqueued⟩ := h.of_writing hphase
    exact ⟨hwire.progress _, hqueued⟩
  | replyDone hphase =>
    obtain ⟨hwire, -⟩ := h.of_replying hphase
    have hfinished := hwire.finish
    rw [← items_append .reply] at hfinished
    exact hfinished
  | writeDone hphase =>
    obtain ⟨hwire, -⟩ := h.of_writing hphase
    have hfinished := hwire.finish
    rw [← items_append .command] at hfinished
    exact hfinished
  | replyFailed hphase hd =>
    obtain ⟨hwire, -⟩ := h.of_replying hphase
    refine ⟨hwire.whole, ?_⟩
    cases Multiplex.step_transition hd
    exact Multiplex.not_alive_of_failed rfl
  | writeFailed hphase hd =>
    obtain ⟨hwire, halive, id, later, hc⟩ := h.of_writing hphase
    rw [Multiplex.step, if_pos halive.1, hc] at hd
    have hstopped := Option.some.inj hd
    simp only [Connection.onCommand, Connection.onWrite, Connection.popCommand,
      halive.2] at hstopped
    exact ⟨hwire.whole, Multiplex.not_alive_of_stopped (hstopped ▸ rfl)⟩
  | writeStarted hphase halive hc =>
    have hselecting := selecting_of_alive h halive hphase (he.reading rfl)
    exact ⟨Unfinished.start (h.of_selecting hselecting) _, halive, _, _, hc⟩
  | served hphase hd | hungUp hphase hd =>
    rw [Phase.dropRead_eq (he.reading rfl)]
    exact h.of_driver (Multiplex.step_transition hd).alive fun p rest hp =>
      absurd hp (hphase p rest)
  | @called _ driver ha hd =>
    obtain ⟨hrun, hfail, added, hadded⟩ := (Multiplex.step_transition hd).call ha
    have halive : driver.Alive ↔ w.driver.Alive := by
      rw [Connection.Alive, hrun, hfail]
      rfl
    refine h.of_driver halive.mp fun p rest hp => ?_
    obtain ⟨-, ha, id, later, hhead⟩ := h.of_writing hp
    refine ⟨halive.mpr ha, id, later ++ added, ?_⟩
    rw [← hadded, hhead, cons_append]

theorem Transition.answered (ht : Transition w ev w') (he : Undisturbed w ev)
    (hsound : Sound w) (h : Answered w) : Answered w' := by
  obtain ⟨answered, htaken, hreplies⟩ := h
  cases ht with
  | arrived | popped | readFailed | called => exact ⟨answered, htaken, hreplies⟩
  | @returned _ _ p _ _ hphase hpend hin hp =>
    have hprobe : ¬WellFormedProbe p := fun hwf => hp hwf.1
    refine ⟨answered, ?_, hreplies⟩
    simp [filter_append, hprobe, htaken]
  | @malformed _ _ p _ _ _ hphase hpend hin hp hack =>
    have hprobe : ¬WellFormedProbe p := fun hwf => not_bodyMatches_of_probeAck hack hwf.2
    refine ⟨answered, ?_, hreplies⟩
    simp [filter_append, hprobe, htaken]
  | @probed _ _ p ack _ hphase halive hpend hin hp hack =>
    have hprobe : WellFormedProbe p := ⟨hp, bodyMatches_of_probeAck hack⟩
    refine ⟨answered, ?_, hreplies⟩
    simp [filter_append, hprobe, htaken, hphase, Phase.outstanding]
  | replied hphase | wrote hphase | replyFailed hphase hd | writeFailed hphase hd =>
    rw [hphase] at htaken
    exact ⟨answered, htaken, hreplies⟩
  | @replyDone probe ack hphase =>
    -- the reply of the outstanding probe is complete
    rw [hphase] at htaken
    refine ⟨answered ++ [probe], by simpa [Phase.outstanding] using htaken, ?_⟩
    have hlast : State.replies { w with phase := .selecting, sent := w.sent ++ [(.reply, ack)] } =
        w.replies ++ [ack] := by simp [State.replies]
    rw [hlast]
    exact rel_append hreplies (.cons (hsound.of_replying hphase).2 .nil)
  | @writeDone p driver hphase =>
    rw [hphase] at htaken
    refine ⟨answered, htaken, ?_⟩
    simpa [State.replies] using hreplies
  | writeStarted hphase halive hc =>
    rw [selecting_of_alive hsound halive hphase (he.reading rfl)] at htaken
    exact ⟨answered, htaken, hreplies⟩
  | served hphase hd | hungUp hphase hd =>
    refine ⟨answered, ?_, hreplies⟩
    rw [Phase.dropRead_eq (he.reading rfl)]
    exact htaken

theorem Sound.whole (h : Sound w) : Whole serialized w.items w.wire := by
  unfold Sound at h
  split at h
  · exact whole_of_items h
  · exact h.1.whole
  · exact h.1.whole
  · exact h.1

/-- Reads are abandoned without harm unless the driver takes a command while the reply to a probe is
being written. -/
theorem abandoned_reads_harmless (hr : run step (.start kind buffered) es = some w)
    (hes : Along step Undisturbed (.start kind buffered) es) :
    Ordered buffered w ∧ Answered w ∧ Whole serialized w.items w.wire := by
  have hord : Ordered buffered w := by
    refine run_induction (Ordered buffered) (fun _ _ _ h hs => (step_transition hs).ordered h) ?_ hr
    exact ⟨rfl, by simp [State.start]⟩
  have hsound : Sound w ∧ Answered w := by
    have hstart : Sound (.start kind buffered) := rfl
    refine run_invariant (fun w => Sound w ∧ Answered w) ?_ ⟨hstart, [], rfl, .nil⟩ hes hr
    intro u ev u' h he hs
    exact ⟨(step_transition hs).sound he h.1, (step_transition hs).answered he h.1 h.2⟩
  exact ⟨hord, hsound.2, hsound.1.whole⟩

def sampleProbe : RuntimePacket :=
  ⟨CommonHeader.new .transportProbe 16 0, replicate 16 0, []⟩

def answeredRun : List Event :=
  [.arrive sampleProbe, .arrive (.bare .pong 0 0), .poll 5 "", .progress 20,
    .call (.callWrite (.bare .ping 0 0)), .progress 36, .finish, .command (.ok ()), .progress 40,
    .finish, .poll 6 ""]

theorem abandoned_reads_harmless_answered : ∃ w, run step (.start .tcp []) answeredRun = some w ∧
    (w.items.map messageType = [.transportProbeAck, .ping] ∧ w.delivered = [.bare .pong 0 0]) ∧
    (Ordered [] w ∧ Answered w ∧ Whole serialized w.items w.wire) := by
  have hrun : (run step (.start .tcp []) answeredRun).map (fun w =>
      (w.items.map messageType, w.delivered)) =
        some ([.transportProbeAck, .ping], [.bare .pong 0 0]) := by decide +kernel
  obtain ⟨w, hr, hw⟩ := Option.map_eq_some_iff.mp hrun
  have hes : Along step Undisturbed (.start .tcp []) answeredRun := by decide +kernel
  exact ⟨w, hr, Prod.mk.inj hw, abandoned_reads_harmless hr hes⟩

def disturbedRun : List Event :=
  [.arrive sampleProbe, .poll 5 "", .progress 1, .call (.callWrite (.bare .ping 0 0)),
    .command (.ok ()), .progress 40, .finish]

theorem abandoned_reply_corrupts : ∃ w, run step (.start .tcp []) disturbedRun = some w ∧
    w.phase = .selecting ∧ ¬Answered w ∧ ∀ items, ¬Whole serialized items w.wire := by
  have hrun : (run step (.start .tcp []) disturbedRun).map (fun w =>
      (w.phase, w.taken, w.replies, w.wire)) = some (.selecting, [sampleProbe], [],
          0x4e :: (bare .ping 0 0).serialized) := by
    decide +kernel
  obtain ⟨w, hr, hw⟩ := Option.map_eq_some_iff.mp hrun
  simp only [Prod.mk.injEq] at hw
  obtain ⟨hphase, htaken, hreplies, hwire⟩ := hw
  refine ⟨w, hr, hphase, ?_, ?_⟩
  · rintro ⟨answered, hanswered, hall⟩
    rw [hreplies, forall₂_nil_right_iff] at hall
    rw [hphase, htaken, hall] at hanswered
    revert hanswered
    decide
  · intro items hwhole
    have hstarts := hwhole.starts serialized_starts
    rw [hwire] at hstarts
    revert hstarts
    decide +kernel

end Nnrp.RoleTransport
