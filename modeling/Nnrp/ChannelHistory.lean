import Nnrp.ConnectionInvariant

/-!
# What a channel and a connection never take back

Events that were accepted or refused by a channel stay so, a dropped receiver stays dropped, a
handle keeps its session id, and a driver that failed or ended does not recover. A property of
the end of a run therefore says something about every earlier state of it.
-/

namespace Nnrp.Multiplex
open Packet LabelledRun List Connection

variable {es : List Action} {w : Connection} {w' : Connection} {s : UInt32}

def DriverEvent.packet? : DriverEvent → Option RuntimePacket
  | .packet p => some p
  | .failed _ => none

structure Channel.Extends (c d : Channel) : Prop where
  sent : c.sent <+: d.sent
  refused : c.refused <+: d.refused
  receiver : d.receiverAlive = true → c.receiverAlive = true

namespace Channel.Extends

variable {c d e : Channel}

theorem refl (c : Channel) : c.Extends c := ⟨prefix_rfl, prefix_rfl, id⟩

theorem trans (h : c.Extends d) (h' : d.Extends e) : c.Extends e :=
  ⟨h.sent.trans h'.sent, h.refused.trans h'.refused, fun ha => h.receiver (h'.receiver ha)⟩

theorem unboundedSend (c : Channel) (ev : DriverEvent) : c.Extends (c.unboundedSend ev) := by
  refine ⟨?_, ?_, fun ha => by simpa using ha⟩
  · unfold Channel.unboundedSend
    split
    · exact prefix_append _ _
    · exact prefix_rfl
  · unfold Channel.unboundedSend
    split
    · exact prefix_rfl
    · exact prefix_append _ _

theorem dropReceiver (c : Channel) : c.Extends c.dropReceiver :=
  ⟨prefix_rfl, prefix_rfl, fun ha => absurd ha (by simp [Channel.dropReceiver])⟩

theorem deliverPending (c : Channel) (ps : List RuntimePacket) :
    c.Extends (c.deliverPending ps) := by
  induction ps generalizing c with
  | nil => exact refl c
  | cons p ps ih =>
    unfold Channel.deliverPending
    split
    · exact (unboundedSend c _).trans (ih _)
    · exact unboundedSend c _

theorem sendAll (events : ChannelId → Channel) (ev : DriverEvent) (cs : List ChannelId)
    (c : ChannelId) : (events c).Extends (sendAll events ev cs c) := by
  induction cs generalizing events with
  | nil => exact refl _
  | cons d cs ih =>
    rw [Multiplex.sendAll, foldl_cons, ← Multiplex.sendAll]
    refine Extends.trans ?_ (ih _)
    by_cases hc : c = d
    · subst hc
      simpa using unboundedSend _ _
    · simpa [hc] using refl _

theorem update {events : ChannelId → Channel} {d : ChannelId} {channel : Channel}
    (h : (events d).Extends channel) (c : ChannelId) :
    (events c).Extends (Function.update events d channel c) := by
  by_cases hc : c = d
  · subst hc
    simpa using h
  · simpa [hc] using refl _

end Channel.Extends

theorem Connection.handOver_extends (w : Connection) (s : UInt32) (channel : Channel) :
    channel.Extends (w.handOver s channel) := by
  unfold handOver
  dsimp only
  split
  · exact (Channel.Extends.deliverPending _ _).trans (.unboundedSend _ _)
  · exact .deliverPending _ _

namespace Transition

variable {w' : Connection} {a : Action}

variable (ht : Transition w a w') {c : ChannelId}
include ht

theorem control_extends : w.control.Extends w'.control := by
  cases ht with
  | dropConnection => exact .dropReceiver _
  | writeFailed | readFailed | control | controlGone | bufferFull | unknown =>
    exact .unboundedSend _ _
  | _ => exact .refl _

theorem events_extends (hc : c < w.channelCount) : (w.events c).Extends (w'.events c) := by
  cases ht with
  | registerSession s hs =>
    simpa [hc.ne] using Channel.Extends.refl _
  | finishFailed | dropRegister | dropOpened | dropClosed =>
    exact Channel.Extends.update (.dropReceiver _) c
  | writeFailed | readFailed | bufferFull | unknown => exact .sendAll _ _ _ c
  | registerVacant => exact Channel.Extends.update (handOver_extends _ _ _) c
  | delivered | deadReceiver => exact Channel.Extends.update (.unboundedSend _ _) c
  | _ => exact .refl _

theorem channelCount_le : w.channelCount ≤ w'.channelCount := by
  cases ht with
  | registerSession s hs => exact Nat.le_succ _
  | _ => exact le_rfl

theorem handle_cases (c : ChannelId) : ((w'.handles c).sessionId = (w.handles c).sessionId ∧
      ((w.handles c).status = .abandoned → (w'.handles c).status = .abandoned)) ∨
    c = w.channelCount ∧ (w'.handles c).sessionId ≠ 0 := by
  have hset : ∀ (u : Connection) (d : ChannelId) (status : HandleStatus),
      ((u.handles d).status = .abandoned → status = .abandoned) →
      ((u.setStatus d status).handles c).sessionId = (u.handles c).sessionId ∧
        ((u.handles c).status = .abandoned →
          ((u.setStatus d status).handles c).status = .abandoned) := by
    intro u d status hstatus
    by_cases hd : c = d
    · subst hd
      simpa using hstatus
    · simp [hd]
  have hanswered : ∀ (status : HandleStatus) (result : CallResult),
      status = .abandoned → status.answered result = .abandoned := by
    rintro status result rfl
    rfl
  have hstop : ∀ u : Connection, (u.stop.handles c).sessionId = (u.handles c).sessionId ∧
      ((u.handles c).status = .abandoned → (u.stop.handles c).status = .abandoned) := by
    intro u
    rw [stop_handles]
    split
    · exact ⟨rfl, hanswered _ _⟩
    · exact ⟨rfl, id⟩
  cases ht with
  | registerSession s hs =>
    by_cases hc : c = w.channelCount
    · subst hc
      exact .inr ⟨rfl, by simpa using hs⟩
    · simp [hc]
  | finishOk d hd | closeTransport d hd | dropOpened d hd | dropClosed d hd =>
    exact .inl (hset w d _ fun h => by simp [hd] at h)
  | finishFailed d | dropRegister d => exact .inl (hset w d _ fun _ => rfl)
  | registerOccupied | registerVacant => exact .inl (hset _ _ _ (hanswered _ _))
  | writeFailed | closeRefused | closeServed | controlGone | bufferFull | hangup =>
    exact .inl (hstop _)
  | _ => exact .inl ⟨rfl, id⟩

theorem sessionId_eq (hc : c < w.channelCount) :
    (w'.handles c).sessionId = (w.handles c).sessionId := by
  rcases ht.handle_cases c with h | h
  · exact h.1
  · exact absurd h.1 hc.ne

end Transition

def Connection.Alive (w : Connection) : Prop := w.running = true ∧ w.terminalFailure = none

/-- The channels of a session were reliable: no send to them was refused. -/
def Connection.Reliable (s : UInt32) (w : Connection) : Prop :=
  ∀ c < w.channelCount, (w.handles c).sessionId = s → (w.events c).refused = []

instance (w : Connection) : Decidable w.Alive := inferInstanceAs (Decidable (_ ∧ _))
instance (s : UInt32) (w : Connection) : Decidable (w.Reliable s) :=
  inferInstanceAs (Decidable (∀ c < w.channelCount, _))

namespace Transition

variable {w' : Connection} {a : Action}

theorem alive (ht : Transition w a w') (h : w'.Alive) : w.Alive := by
  obtain ⟨hrun', hfail'⟩ := h
  cases ht with
  | writeFailed | closeRefused | closeServed | controlGone | bufferFull | hangup =>
    exact absurd hrun' (by simp)
  | readFailed | unknown => exact absurd hfail' (by simp)
  | _ => exact ⟨hrun', hfail'⟩

theorem reliable (ht : Transition w a w') (h : w'.Reliable s) : w.Reliable s := by
  intro c hc hs
  have hc' := h c (hc.trans_le ht.channelCount_le) ((ht.sessionId_eq hc).trans hs)
  exact prefix_nil.mp (hc' ▸ (ht.events_extends hc).refused)

end Transition

theorem run_sessionId_ne_zero {kind : RuntimeTransportKind}
    (hr : run step (.start kind) es = some w) (c : ChannelId)
    (hc : (w.handles c).status ≠ .abandoned) : (w.handles c).sessionId ≠ 0 := by
  refine run_induction (fun u => ∀ c, (u.handles c).status ≠ .abandoned →
    (u.handles c).sessionId ≠ 0) ?_ (fun c hc => absurd rfl hc) hr c hc
  intro u a u' h hs c hc
  rcases (step_transition hs).handle_cases c with ⟨hsid, habandoned⟩ | ⟨-, hne⟩
  · rw [hsid]
    exact h c fun hu => hc (habandoned hu)
  · exact hne

theorem run_alive (hr : run step w es = some w') (h : w'.Alive) : w.Alive :=
  run_backward Connection.Alive (fun _ _ _ h hs => (step_transition hs).alive h) h hr

theorem run_reliable (hr : run step w es = some w') (h : w'.Reliable s) : w.Reliable s :=
  run_backward (Connection.Reliable s) (fun _ _ _ h hs => (step_transition hs).reliable h) h hr

end Nnrp.Multiplex
