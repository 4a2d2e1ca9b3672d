import Nnrp.RoutingOrder

/-!
# A late packet for a finished session

A session transport was closed or dropped, and then a packet for its session arrives. The
driver may still have the registration, may have a new one, may await one, or may know nothing
of the session any more. Only in the last case, and when the buffer of an awaited session is
full, does the packet harm the connection.
-/

namespace Nnrp.Multiplex
open Packet LabelledRun

def DriverEvent.failure? : DriverEvent → Option DriverFailure
  | .packet _ => none
  | .failed f => some f

def Channel.failures (c : Channel) : List DriverFailure := c.sent.filterMap DriverEvent.failure?

/-- A step after which the driver goes on and no receiver observes a new failure. -/
structure Harmless (w w' : Connection) : Prop where
  running : w'.running = true
  unfailed : w'.terminalFailure = none
  control : w'.control.failures = w.control.failures
  events : ∀ c, (w'.events c).failures = (w.events c).failures

def PendingSessionPackets.Room (pending : PendingSessionPackets) (p : RuntimePacket) : Prop :=
  pending.packets.length < maxPreRegistrationPackets ∧
    pending.bytes + (p.metadata.length + p.body.length + commonHeaderLen) ≤ maxPreRegistrationBytes

/-- The session of the packet is registered, or it is awaited and its buffer has room. -/
def Connection.Tolerates (w : Connection) (p : RuntimePacket) : Prop :=
  w.sessions[p.sessionId]? ≠ none ∨
    p.sessionId ∈ w.awaitingRegistration ∧ ((w.pendingSessions[p.sessionId]?).getD {}).Room p

variable {p : RuntimePacket}

theorem PendingSessionPackets.room_of_push {pending result : PendingSessionPackets}
    (h : pending.push p = .ok result) : pending.Room p := by
  unfold PendingSessionPackets.push at h
  dsimp only at h
  split at h
  · simp at h
  · rename_i total htotal
    split at h
    · simp at h
    · rename_i hlimits
      simp only [checkedAddUsize, Option.bind_eq_some_iff, Option.ite_none_right_eq_some,
        Option.some.injEq] at htotal
      obtain ⟨size, ⟨payload, ⟨-, rfl⟩, -, rfl⟩, -, rfl⟩ := htotal
      rw [not_or, not_le, not_lt] at hlimits
      exact hlimits

theorem PendingSessionPackets.not_room_of_push {pending : PendingSessionPackets} {detail : String}
    (h : pending.push p = .error detail) :
    ¬pending.Room p := by
  rintro ⟨hcount, hbytes⟩
  have hmax : maxPreRegistrationBytes < 2 ^ 64 := by decide
  have htotal : ((checkedAddUsize p.metadata.length p.body.length).bind fun size =>
      checkedAddUsize size commonHeaderLen).bind (fun size => checkedAddUsize pending.bytes size) =
      some (pending.bytes + (p.metadata.length + p.body.length + commonHeaderLen)) := by
    have hpay : p.metadata.length + p.body.length < 2 ^ 64 := by omega
    have hsize : p.metadata.length + p.body.length + commonHeaderLen < 2 ^ 64 := by omega
    simp only [checkedAddUsize, if_pos hpay, if_pos hsize, Option.bind_some,
      if_pos (hbytes.trans_lt hmax)]
  unfold PendingSessionPackets.push at h
  dsimp only at h
  rw [htotal] at h
  simp [not_le.mpr hcount, not_lt.mpr hbytes] at h

@[simp] theorem Channel.failures_send_packet (c : Channel) (p : RuntimePacket) :
    (c.unboundedSend (.packet p)).failures = c.failures := by
  cases ha : c.receiverAlive with
  | true => simp [unboundedSend_alive, ha, failures, DriverEvent.failure?]
  | false => simp [unboundedSend_dead, ha, failures]

/-- In every reachable state, a packet for a session whose transport was closed or dropped is
harmless exactly when the session is registered, or awaited with room in its buffer. -/
theorem late_packet_harmless_iff (kind : RuntimeTransportKind) (es : List Action)
    {w w' : Connection} {c : ChannelId} {p : RuntimePacket}
    (hr : run step (.start kind) es = some w)
    (hfinished : (w.handles c).status = .closed ∨ (w.handles c).status = .dropped)
    (hp : p.sessionId = (w.handles c).sessionId) (hack : ¬p.IsOpenAck)
    (hs : step w (.incoming (.ok p)) = some w') : Harmless w w' ↔ w.Tolerates p := by
  have hne : p.sessionId ≠ 0 := by
    rw [hp]
    refine run_sessionId_ne_zero hr c ?_
    rcases hfinished with h | h <;> simp [h]
  cases step_transition hs with
  | control p hrun hf hctl | controlGone p hrun hf hctl =>
    rcases hctl with h | h
    · exact absurd h hne
    · exact absurd h.1 hack
  | delivered p d hrun hf hp hsess ha | deadReceiver p d hrun hf hp hsess ha =>
    refine ⟨fun _ => .inl (by simp [hsess]), fun _ => ⟨hrun, hf, rfl, fun e => ?_⟩⟩
    by_cases he : e = d
    · subst he
      simp
    · simp [he]
  | buffered p pending hrun hf hp hack hvacant hw hq =>
    exact ⟨fun _ => .inr ⟨hw, PendingSessionPackets.room_of_push hq⟩,
      fun _ => ⟨hrun, hf, rfl, fun _ => rfl⟩⟩
  | bufferFull p detail hrun hf hp hack hvacant hw hq =>
    refine ⟨fun h => absurd h.running (by simp), ?_⟩
    rintro (h | h)
    · exact absurd hvacant h
    · exact absurd h.2 (PendingSessionPackets.not_room_of_push hq)
  | unknown p hrun hf hp hack hvacant hw =>
    refine ⟨fun h => absurd h.unfailed (by simp), ?_⟩
    rintro (h | h)
    · exact absurd hvacant h
    · exact absurd h.1 hw

def closingRun : List Action :=
  [.callRegister 7, .command (.ok ()), .finishRegister 0, .closeTransport 0]

theorem late_packet_harmless_iff_closing : ∃ w w', run step (.start .tcp) closingRun = some w ∧
      step w (.incoming (.ok (.bare .resultPush 7 1))) = some w' ∧ Harmless w w' := by
  refine ⟨_, _, rfl, rfl, ?_⟩
  refine (late_packet_harmless_iff .tcp closingRun (c := 0) rfl (.inl rfl)
    (by decide) (by decide) rfl).mpr (.inl ?_)
  decide

/-- Once the unregistration is served, the next packet for the session fails the connection. -/
theorem late_packet_fails_connection :
    ∃ w w', run step (.start .tcp) (closingRun ++ [.command (.ok ())]) = some w ∧
      w.handles 0 = ⟨7, .closed⟩ ∧
      step w (.incoming (.ok (.bare .resultPush 7 1))) = some w' ∧
      w'.terminalFailure = some ⟨.tcp, "received packet for unknown session 7"⟩ ∧
      w'.control.failures = [⟨.tcp, "received packet for unknown session 7"⟩] := by
  exact ⟨_, _, rfl, rfl, rfl, by decide, by decide⟩

end Nnrp.Multiplex
