import Nnrp.DriverTransition

/-!
# Invariants of every run of a connection

`WellFormed` is what the driver's maps and the command queue agree on whatever the parties do:
a registered channel carries the id it is registered under, a queued registration names a
channel that nothing was sent to, and packets are buffered only for a session that is awaited
and not registered, under the session they name. Each operation keeps it, hence each action and
each run does.
-/

namespace Nnrp.Multiplex
open OrderedMap Packet LabelledRun List Option Function Connection

structure WellFormed (w : Connection) : Prop where
  sessionHandle : ∀ (s : UInt32) (c : ChannelId), w.sessions[s]? = some c →
    c < w.channelCount ∧ (w.handles c).sessionId = s
  queuedHandle : ∀ s c, .register s c ∈ w.commands →
    c < w.channelCount ∧ (w.handles c).sessionId = s ∧ w.sessions[s]? ≠ some c ∧
      (w.events c).sent = []
  queuedNodup : (w.commands.filterMap DriverCommand.channel?).Nodup
  freshChannel : ∀ c, w.channelCount ≤ c → (w.events c).sent = []
  pendingSession : ∀ (s : UInt32) (pending : PendingSessionPackets),
    w.pendingSessions[s]? = some pending → w.sessions[s]? = none ∧ s ∈ w.awaitingRegistration
  pendingPackets : ∀ (s : UInt32) (pending : PendingSessionPackets),
    w.pendingSessions[s]? = some pending →
      ∀ p ∈ pending.packets, p.sessionId = s ∧ s ≠ 0 ∧ ¬p.IsOpenAck

theorem PendingSessionPackets.push_ok {pending result : PendingSessionPackets} {p : RuntimePacket}
    (h : pending.push p = .ok result) : result.packets = pending.packets ++ [p] := by
  unfold PendingSessionPackets.push at h
  dsimp only at h
  split at h
  · simp at h
  · split at h
    · simp at h
    · cases h
      rfl

theorem sendAll_of_notMem (events : ChannelId → Channel) (e : DriverEvent) {cs : List ChannelId}
    {c : ChannelId} (h : c ∉ cs) : sendAll events e cs c = events c := by
  induction cs generalizing events with
  | nil => rfl
  | cons d cs ih =>
    rw [mem_cons, not_or] at h
    rw [sendAll, foldl_cons, ← sendAll, ih _ h.2]
    exact update_of_ne h.1 _ _

namespace WellFormed

variable {w : Connection} {s t : UInt32} {c : ChannelId}

theorem queued_unregistered (h : WellFormed w) (hq : .register s c ∈ w.commands) :
    w.sessions[t]? ≠ some c := by
  intro ht
  obtain ⟨-, hs, hne, -⟩ := h.queuedHandle s c hq
  obtain ⟨-, ht'⟩ := h.sessionHandle t c ht
  rw [hs] at ht'
  exact hne (ht' ▸ ht)

variable {rest : List DriverCommand}

variable (h : WellFormed w)
include h

theorem register_once (hc : w.commands = .register s c :: rest) : .register t c ∉ rest := by
  intro hmem
  have hnodup := h.queuedNodup
  simp only [hc, filterMap_cons, DriverCommand.channel?, nodup_cons] at hnodup
  exact hnodup.1 (mem_filterMap.mpr ⟨_, hmem, rfl⟩)

theorem sessions_injective (hs : w.sessions[s]? = some c) (ht : w.sessions[t]? = some c) : s = t :=
  (h.sessionHandle s c hs).2.symm.trans (h.sessionHandle t c ht).2

theorem nodup_registered : (values w.sessions).Nodup :=
  nodup_values fun _ _ _ => h.sessions_injective

theorem of_commands {cmds : List DriverCommand}
    (hsub : (cmds.filterMap DriverCommand.channel?).Sublist
      (w.commands.filterMap DriverCommand.channel?))
    (hmem : ∀ s c, .register s c ∈ cmds → .register s c ∈ w.commands) :
    WellFormed { w with commands := cmds } :=
  { h with
    queuedHandle s c hq := h.queuedHandle s c (hmem s c hq)
    queuedNodup := h.queuedNodup.sublist hsub }

theorem popCommand : WellFormed w.popCommand :=
  h.of_commands ((tail_sublist _).filterMap _) fun _ _ hq => mem_of_mem_tail hq

theorem push {cmd : DriverCommand} (hc : cmd.channel? = none) :
    WellFormed { w with commands := if w.running then w.commands ++ [cmd] else w.commands } := by
  refine h.of_commands ?_ ?_
  · split <;> simp [filterMap_append, hc]
  · intro s c hq
    split at hq
    · rcases mem_append.mp hq with hq | hq
      · exact hq
      · rw [mem_singleton] at hq
        simp [← hq, DriverCommand.channel?] at hc
    · exact hq

theorem request {cmd : CallId → DriverCommand}
    (hc : (cmd w.callCount).channel? = none) : WellFormed (w.request cmd) :=
  { h.push hc with }

theorem unregister (s : UInt32) : WellFormed (w.unregister s) :=
  h.push rfl

theorem stop : WellFormed w.stop :=
  { h with
    sessionHandle s c hs := by
      have hc := h.sessionHandle s c hs
      simp only [stop_channelCount, stop_handles]
      split <;> exact hc
    queuedHandle s c hq := absurd hq (by simp)
    queuedNodup := by simp }

theorem of_handles {handles : ChannelId → Handle}
    (hh : ∀ c, (handles c).sessionId = (w.handles c).sessionId) :
    WellFormed { w with handles := handles } :=
  { h with
    sessionHandle s c hs := ⟨(h.sessionHandle s c hs).1, (hh c).trans (h.sessionHandle s c hs).2⟩
    queuedHandle s c hq := by
      obtain ⟨hc, hs, hrest⟩ := h.queuedHandle s c hq
      exact ⟨hc, (hh c).trans hs, hrest⟩ }

theorem setStatus (c : ChannelId) (status : HandleStatus) : WellFormed (w.setStatus c status) := by
  refine h.of_handles fun d => ?_
  by_cases hd : d = c
  · subst hd
    simp
  · simp [hd]

theorem of_events (events : ChannelId → Channel)
    (he : ∀ c, (∀ t : UInt32, w.sessions[t]? ≠ some c) → (events c).sent = (w.events c).sent) :
    WellFormed { w with events := events } :=
  { h with
    queuedHandle s c hq := by
      obtain ⟨hc, hs, hne, hsent⟩ := h.queuedHandle s c hq
      exact ⟨hc, hs, hne, (he c fun t => h.queued_unregistered hq).trans hsent⟩
    freshChannel c hc := by
      refine (he c fun t ht => ?_).trans (h.freshChannel c hc)
      exact absurd (h.sessionHandle t c ht).1 (by simpa using hc) }

theorem dropReceiver (c : ChannelId) : WellFormed (w.dropReceiver c) := by
  refine h.of_events _ fun d _ => ?_
  by_cases hdc : d = c
  · subst hdc
    simp [Channel.dropReceiver]
  · simp [hdc]

theorem sendSession (hs : w.sessions[s]? = some c) (e : DriverEvent) :
    WellFormed (w.sendSession c e) := by
  refine h.of_events _ fun d hd => ?_
  have hdc : d ≠ c := by
    rintro rfl
    exact hd s hs
  simp [hdc]

theorem broadcastFailure (f : DriverFailure) : WellFormed (w.broadcastFailure f) := by
  have h' := h.of_events (sendAll w.events (.failed f) (values w.sessions)) fun c hc => by
    rw [sendAll_of_notMem]
    intro hmem
    obtain ⟨t, ht⟩ := mem_values.mp hmem
    exact hc t ht
  exact { h' with }

theorem fail (f : DriverFailure) : WellFormed (w.fail f) :=
  { h.broadcastFailure f with }

theorem noteOpenAck (p : RuntimePacket) : WellFormed (w.noteOpenAck p) :=
  { h with
    pendingSession s pending hp := by
      obtain ⟨hs, hw⟩ := h.pendingSession s pending hp
      refine ⟨hs, ?_⟩
      rw [noteOpenAck_awaitingRegistration]
      split
      · exact mem_set_insert.mpr (.inr hw)
      · exact hw }

theorem removeSession (s : UInt32) : WellFormed (w.removeSession s) where
  sessionHandle t c ht := by
    simp only [removeSession_sessions, get_erase, ite_none_left_eq_some] at ht
    exact h.sessionHandle t c ht.2
  queuedHandle t c hq := by
    obtain ⟨hc, hs, hne, hsent⟩ := h.queuedHandle t c hq
    refine ⟨hc, hs, ?_, hsent⟩
    simp only [removeSession_sessions, get_erase]
    split
    · simp
    · exact hne
  queuedNodup := h.queuedNodup
  freshChannel := h.freshChannel
  pendingPackets t pending hp := by
    simp only [removeSession_pendingSessions, get_erase, ite_none_left_eq_some] at hp
    exact h.pendingPackets t pending hp.2
  pendingSession t pending hp := by
    simp only [removeSession_pendingSessions, get_erase, ite_none_left_eq_some] at hp
    obtain ⟨hs, hw⟩ := h.pendingSession t pending hp.2
    simp only [removeSession_sessions, removeSession_awaitingRegistration,
      get_erase, hs, ite_self, mem_set_erase]
    exact ⟨trivial, hp.1, hw⟩

theorem buffer {p : RuntimePacket} {pending : PendingSessionPackets}
    (hp : p.sessionId ≠ 0) (hack : ¬p.IsOpenAck) (hs : w.sessions[p.sessionId]? = none)
    (hw : p.sessionId ∈ w.awaitingRegistration)
    (hq : ((w.pendingSessions[p.sessionId]?).getD {}).push p = .ok pending) :
    WellFormed (w.buffer p.sessionId pending) :=
  { h with
    pendingSession t other ht := by
      simp only [buffer_pendingSessions, get_insert] at ht
      split at ht
      · rename_i hst
        exact hst ▸ ⟨hs, hw⟩
      · exact h.pendingSession t other ht
    pendingPackets t other ht := by
      simp only [buffer_pendingSessions, get_insert] at ht
      split at ht
      · rename_i hst
        simp only [some.injEq] at ht
        subst hst ht
        intro q hmem
        rw [PendingSessionPackets.push_ok hq, mem_append, mem_singleton] at hmem
        rcases hmem with hmem | rfl
        · cases hold : w.pendingSessions[p.sessionId]? with
          | none => simp [hold] at hmem
          | some old => exact h.pendingPackets _ old hold q (by simpa [hold] using hmem)
        · exact ⟨rfl, hp, hack⟩
      · exact h.pendingPackets t other ht }

theorem install
    (hc : w.commands = .register s c :: rest) : WellFormed (w.popCommand.install s c) := by
  have hq : .register s c ∈ w.commands := by simp [hc]
  obtain ⟨hlt, hs, hne, hsent⟩ := h.queuedHandle s c hq
  have hnodup := h.queuedNodup
  simp only [hc, filterMap_cons, DriverCommand.channel?, nodup_cons] at hnodup
  have hother : ∀ t d, .register t d ∈ rest → d ≠ c := by
    intro t d hd hdc
    exact h.register_once hc (hdc ▸ hd)
  constructor
  · intro t d ht
    simp only [install_sessions, popCommand_sessions, get_insert] at ht
    split at ht
    · rename_i hst
      simp only [some.injEq] at ht
      subst ht hst
      exact ⟨hlt, hs⟩
    · exact h.sessionHandle t d ht
  · intro t d hd
    simp only [install_commands, popCommand_commands, hc, tail_cons] at hd
    have hdc := hother t d hd
    obtain ⟨hdlt, hdt, hdne, hdsent⟩ := h.queuedHandle t d (by simp [hc, hd])
    refine ⟨hdlt, hdt, ?_, ?_⟩
    · simp only [install_sessions, popCommand_sessions, get_insert]
      split
      · simpa using hdc.symm
      · exact hdne
    · simpa [hdc] using hdsent
  · simpa [hc] using hnodup.2
  · intro d hd
    have hdc : d ≠ c := fun hdc => absurd hlt (by simpa [← hdc] using hd)
    simpa [hdc] using h.freshChannel d hd
  · intro t pending ht
    simp only [install_pendingSessions, popCommand_pendingSessions,
      get_erase, ite_none_left_eq_some] at ht
    obtain ⟨hst, ht⟩ := ht
    obtain ⟨hnone, hw⟩ := h.pendingSession t pending ht
    simp only [install_sessions, install_awaitingRegistration,
      popCommand_sessions, popCommand_awaitingRegistration, get_insert,
      if_neg hst, mem_set_erase]
    exact ⟨hnone, hst, hw⟩
  · intro t pending ht
    simp only [install_pendingSessions, popCommand_pendingSessions,
      get_erase, ite_none_left_eq_some] at ht
    exact h.pendingPackets t pending ht.2

theorem registerSession (s : UInt32) : WellFormed (w.registerSession s) := by
  have hlt : ∀ t c, .register t c ∈ w.commands → c ≠ w.channelCount := fun t c hq =>
    (h.queuedHandle t c hq).1.ne
  constructor
  · intro t c ht
    obtain ⟨hc, hs⟩ := h.sessionHandle t c ht
    simp only [registerSession_channelCount, registerSession_handles, update_of_ne hc.ne]
    exact ⟨hc.trans (Nat.lt_succ_self _), hs⟩
  · intro t c hq
    simp only [registerSession_commands] at hq
    have hcase : .register t c ∈ w.commands ∨ t = s ∧ c = w.channelCount := by
      split at hq
      · simpa using hq
      · exact .inl hq
    rcases hcase with hq | ⟨rfl, rfl⟩
    · obtain ⟨hc, hrest⟩ := h.queuedHandle t c hq
      simp only [registerSession_channelCount, registerSession_handles,
        registerSession_sessions, registerSession_events,
        update_of_ne hc.ne]
      exact ⟨hc.trans (Nat.lt_succ_self _), hrest⟩
    · simp only [registerSession_channelCount, registerSession_handles,
        registerSession_sessions, registerSession_events,
        update_self, true_and, and_true]
      exact ⟨Nat.lt_succ_self _, fun ht => (h.sessionHandle t _ ht).1.ne rfl⟩
  · simp only [registerSession_commands]
    split
    · rw [filterMap_append]
      refine nodup_append.mpr ⟨h.queuedNodup, by simp [DriverCommand.channel?], ?_⟩
      intro c hc d hd
      obtain ⟨cmd, hmem, hcommand⟩ := mem_filterMap.mp hc
      simp only [filterMap_cons, DriverCommand.channel?, filterMap_nil, mem_singleton] at hd
      subst hd
      cases cmd with
      | register t d =>
        simp only [DriverCommand.channel?, some.injEq] at hcommand
        exact hcommand ▸ hlt t d hmem
      | write p id | unregister t | close id => simp [DriverCommand.channel?] at hcommand
    · exact h.queuedNodup
  · intro c hc
    have hne : c ≠ w.channelCount := (Nat.lt_of_succ_le hc).ne'
    simpa [hne] using h.freshChannel c (Nat.le_of_succ_le hc)
  · exact h.pendingSession
  · exact h.pendingPackets

end WellFormed

theorem WellFormed.start (kind : RuntimeTransportKind) : WellFormed (.start kind) where
  sessionHandle s c hs := by simp [Connection.start] at hs
  queuedHandle s c hq := by simp [Connection.start] at hq
  queuedNodup := by simp [Connection.start]
  freshChannel _ _ := rfl
  pendingSession s pending hs := by simp [Connection.start] at hs
  pendingPackets s pending hs := by simp [Connection.start] at hs

theorem Transition.wellFormed {w w' : Connection} {a : Action} (ht : Transition w a w')
    (h : WellFormed w) : WellFormed w' := by
  cases ht with
  | callWrite p | sessionWrite c p hc | callClose => exact h.request rfl
  | registerZero => exact h
  | registerSession s hs => exact h.registerSession s
  | finishOk c hc => exact h.setStatus c _
  | finishFailed c result hc hr | dropRegister c result hc | dropClosed c hc =>
    exact (h.setStatus c _).dropReceiver c
  | closeTransport c hc => exact (h.setStatus c _).unregister _
  | dropOpened c hc => exact ((h.setStatus c _).unregister _).dropReceiver c
  | dropConnection => exact { h with }
  | writeRefused hrun hc hf => exact { h.popCommand with }
  | @writeDone p id rest hrun hc hf => exact { h.popCommand.noteOpenAck p with }
  | @writeFailed p id rest detail hrun hc hf =>
    refine (WellFormed.broadcastFailure ?_ _).stop
    exact { h.popCommand.noteOpenAck p with }
  | registerOccupied hrun hc hs => exact h.popCommand.setStatus _ _
  | registerVacant hrun hc hs => exact (h.install hc).setStatus _ _
  | unregistered hrun hc => exact h.popCommand.removeSession _
  | closeRefused hrun hc hf | closeServed result hrun hc hf =>
    refine WellFormed.stop ?_
    exact { h.popCommand with }
  | readFailed detail hrun hf | unknown p hrun hf hp hack hs hw => exact h.fail _
  | control p hrun hf hp => exact { h.noteOpenAck p with }
  | controlGone p hrun hf hp hd =>
    refine WellFormed.stop ?_
    exact { h.noteOpenAck p with }
  | delivered p c hrun hf hp hs ha => exact (h.noteOpenAck p).sendSession hs _
  | deadReceiver p c hrun hf hp hs ha =>
    exact ((h.noteOpenAck p).sendSession hs _).removeSession _
  | buffered p pending hrun hf hp hack hs hw hq => exact h.buffer hp hack hs hw hq
  | bufferFull p detail hrun hf hp hack hs hw hq => exact (h.broadcastFailure _).stop
  | hangup hrun =>
    refine WellFormed.stop ?_
    exact { h with }

theorem run_wellFormed {kind : RuntimeTransportKind} {es : List Action} {w : Connection}
    (hr : run step (.start kind) es = some w) : WellFormed w :=
  run_induction WellFormed (fun _ _ _ h hs => (step_transition hs).wellFormed h) (.start kind) hr

end Nnrp.Multiplex
