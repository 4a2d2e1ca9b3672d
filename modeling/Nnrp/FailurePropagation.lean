import Nnrp.CallQueue
import Nnrp.LatePacket

/-! # What follows the terminal failure of a driver

The driver enters its terminal-failure state with the step that broadcasts the failure, and
from then on reads nothing. It still serves commands: it refuses writes and closes with the
failure, and it hands the failure to each session that is registered later. -/

namespace Nnrp.Multiplex
open OrderedMap Packet LabelledRun List Option Function Connection Channel

section
variable {w w' : Connection} {a : Action} {f : DriverFailure}

def NoFailureSeen (w : Connection) : Prop :=
  w.Alive → w.control.failures = [] ∧ ∀ c, (w.events c).failures = []

theorem failures_deliverPending (c : Channel) (ps : List RuntimePacket) :
    (c.deliverPending ps).failures = c.failures := by
  induction ps generalizing c with
  | nil => rfl
  | cons p ps ih =>
    unfold deliverPending
    split
    · rw [ih, failures_send_packet]
    · exact failures_send_packet c p

theorem failures_update {events : ChannelId → Channel} {d : ChannelId} {channel : Channel}
    (h : channel.failures = (events d).failures) (c : ChannelId) :
    (update events d channel c).failures = (events c).failures := by
  by_cases hc : c = d
  · subst hc
    simpa using h
  · simp [hc]

theorem Transition.noFailureSeen (ht : Transition w a w') (h : NoFailureSeen w) :
    NoFailureSeen w' := by
  intro halive
  have hw := h (ht.alive halive)
  have hnew : ∀ {events : ChannelId → Channel},
      (∀ c, (events c).failures = (w.events c).failures) → ∀ c, (events c).failures = [] :=
    fun he c => (he c).trans (hw.2 c)
  cases ht with
  | registerSession s hs =>
    refine ⟨hw.1, fun c => ?_⟩
    by_cases hc : c = w.channelCount
    · subst hc
      simp [failures]
    · simpa [hc] using hw.2 c
  | finishFailed | dropRegister | dropOpened | dropClosed =>
    exact ⟨hw.1, hnew (failures_update rfl)⟩
  | @registerVacant s c rest ans hrun hc hs =>
    have hf : w.terminalFailure = none := halive.2
    refine ⟨hw.1, hnew (failures_update ?_)⟩
    simp [handOver, hf, failures_deliverPending]
  | control p => exact ⟨(failures_send_packet _ p).trans hw.1, hw.2⟩
  | delivered p c | deadReceiver p c =>
    exact ⟨hw.1, hnew (failures_update (failures_send_packet _ p))⟩
  | writeFailed | closeRefused | closeServed | controlGone | bufferFull | hangup =>
    exact absurd halive (not_alive_stop _)
  | readFailed | unknown => exact absurd halive.2 (by simp)
  | _ => exact hw

theorem Transition.failing (ht : Transition w a w') (hw : w.terminalFailure = none)
    (hf : w'.terminalFailure = some f) : w.running = true ∧ w' = w.fail f := by
  cases ht with
  | readFailed detail hrun =>
    have he : ⟨w.transportKind, detail⟩ = f := some.inj hf
    exact ⟨hrun, by rw [he]⟩
  | unknown p hrun =>
    have he : w.unknownSession p.sessionId = f := some.inj hf
    exact ⟨hrun, by rw [he]⟩
  | _ => exact absurd (hw.symm.trans hf) (by simp)

end

section
variable {w w' : Connection} {a : Action} {f : DriverFailure} {c : ChannelId} {es : List Action}
  {id : CallId}

theorem Transition.still_failed (ht : Transition w a w') (hf : w.terminalFailure = some f) :
    w'.terminalFailure = some f := by
  cases ht with
  | readFailed detail hrun hn | unknown p hrun hn => exact absurd (hn.symm.trans hf) (by simp)
  | _ => exact hf

theorem Transition.silent (ht : Transition w a w') (hf : w.terminalFailure = some f) :
    w'.control.sent = w.control.sent ∧ w'.written = w.written ∧ ∀ r, a ≠ .incoming r := by
  cases ht with
  | callWrite | sessionWrite | callClose | registerZero | registerSession | finishOk
  | finishFailed | dropRegister | closeTransport | dropOpened | dropClosed | dropConnection
  | writeRefused | registerOccupied | registerVacant | unregistered | closeRefused | hangup =>
    exact ⟨rfl, rfl, by simp⟩
  | _ => exact absurd (‹w.terminalFailure = none›.symm.trans hf) (by simp)

def Settled (c : ChannelId) (w : Connection) : Prop :=
  c < w.channelCount ∧ ∀ s, .register s c ∉ w.commands

theorem Settled.push (h : Settled c w) (cmd : DriverCommand)
    (hne : ∀ s, .register s c ≠ cmd) (hn : w.channelCount ≤ w'.channelCount)
    (hc : w'.commands = if w.running then w.commands ++ [cmd] else w.commands) :
    Settled c w' := by
  refine ⟨h.1.trans_le hn, fun s hs => ?_⟩
  rw [hc] at hs
  split at hs
  · rcases mem_append.mp hs with hs | hs
    · exact h.2 s hs
    · exact hne s (mem_singleton.mp hs)
  · exact h.2 s hs

theorem Settled.sub (h : Settled c w) (hn : w'.channelCount = w.channelCount)
    (hc : ∀ cmd ∈ w'.commands, cmd ∈ w.commands) : Settled c w' :=
  ⟨hn ▸ h.1, fun s hs => h.2 s (hc _ hs)⟩

variable (hf : w.terminalFailure = some f)
include hf

theorem Transition.settled (ht : Transition w a w') (h : Settled c w) :
    Settled c w' ∧ (w'.events c).sent = (w.events c).sent := by
  have hdrop : ∀ d, (update w.events d (w.events d).dropReceiver c).sent =
      (w.events c).sent := by
    intro d
    by_cases hd : c = d
    · subst hd
      simp [Channel.dropReceiver]
    · simp [hd]
  cases ht with
  | callWrite | sessionWrite | callClose | closeTransport =>
    exact ⟨h.push _ (by simp) le_rfl rfl, rfl⟩
  | dropOpened d => exact ⟨h.push _ (by simp) le_rfl rfl, hdrop d⟩
  | registerZero | finishOk | dropConnection => exact ⟨h.sub rfl fun _ => id, rfl⟩
  | finishFailed d | dropRegister d | dropClosed d => exact ⟨h.sub rfl fun _ => id, hdrop d⟩
  | registerSession s hs =>
    refine ⟨h.push (.register s w.channelCount) ?_ (Nat.le_succ _) rfl, ?_⟩
    · intro t ht
      exact h.1.ne (DriverCommand.register.inj ht).2
    · simp [h.1.ne]
  | writeRefused | registerOccupied | unregistered =>
    exact ⟨h.sub rfl fun _ => mem_of_mem_tail, rfl⟩
  | @registerVacant s d rest ans hrun hc hs =>
    have hd : c ≠ d := by
      intro hd
      exact h.2 s (by simp [hc, hd])
    exact ⟨h.sub rfl fun _ => mem_of_mem_tail, by simp [hd]⟩
  | closeRefused | hangup => exact ⟨h.sub rfl (by simp), rfl⟩
  | _ => exact absurd (‹w.terminalFailure = none›.symm.trans hf) (by simp)

theorem run_silent (hr : run step w es = some w') :
    w'.terminalFailure = some f ∧ w'.control.sent = w.control.sent ∧ w'.written = w.written := by
  refine run_induction (fun u => u.terminalFailure = some f ∧ u.control.sent = w.control.sent ∧
    u.written = w.written) ?_ ⟨hf, rfl, rfl⟩ hr
  intro u b u' ⟨hu, hsent, hwritten⟩ hs
  have ht := step_transition hs
  obtain ⟨hsent', hwritten', -⟩ := ht.silent hu
  exact ⟨ht.still_failed hu, hsent'.trans hsent, hwritten'.trans hwritten⟩

theorem run_no_read (hr : run step w es = some w') (r : Except String RuntimePacket) :
    .incoming r ∉ es := by
  induction es generalizing w with
  | nil => simp
  | cons b es ih =>
    obtain ⟨u, hs, hr⟩ := run_cons_eq_some.mp hr
    have ht := step_transition hs
    have hb := (ht.silent hf).2.2 r
    have hes := ih (ht.still_failed hf) hr
    simp [hb.symm, hes]

theorem run_settled (hr : run step w es = some w') (h : Settled c w) :
    (w'.events c).sent = (w.events c).sent := by
  have hrun := run_induction (fun u => u.terminalFailure = some f ∧ Settled c u ∧
    (u.events c).sent = (w.events c).sent) (t := w') ?_ ⟨hf, h, rfl⟩ hr
  · exact hrun.2.2
  · intro u b u' ⟨hu, hc, hsent⟩ hs
    have ht := step_transition hs
    obtain ⟨hc', hsent'⟩ := ht.settled hu hc
    exact ⟨ht.still_failed hu, hc', hsent'.trans hsent⟩

def Connection.CallFailed (w : Connection) (f : DriverFailure) (id : CallId) : Prop :=
  w.calls id = .resolved (.error f) ∨ w.calls id = .closed

def Unserved (f : DriverFailure) (id : CallId) (w : Connection) : Prop :=
  id < w.callCount → w.calls id = .waiting ∨ w.CallFailed f id

omit hf in
theorem Unserved.complete {other : CallId} (h : Unserved f id w) (result : CallResult)
    (hr : result = .resolved (.error f) ∨ result = .closed) (hn : w'.callCount = w.callCount)
    (hc : w'.calls = update w.calls other result) : Unserved f id w' := by
  intro hid
  rw [Connection.CallFailed, hc]
  by_cases he : id = other
  · subst he
    rw [update_self]
    exact .inr hr
  · rw [update_of_ne he]
    exact h (hn ▸ hid)

omit hf in
theorem Unserved.request {cmd : CallId → DriverCommand} (h : Unserved f id w) :
    Unserved f id (w.request cmd) := by
  intro hid
  by_cases he : id = w.callCount
  · cases hr : w.running with
    | true => exact .inl (by simp [he, hr])
    | false => exact .inr (.inr (by simp [he, hr]))
  · have hlt : id < w.callCount := lt_of_le_of_ne (Nat.le_of_lt_succ hid) he
    simpa [Connection.CallFailed, he] using h hlt

omit hf in
theorem Unserved.stop (h : Unserved f id w) : Unserved f id w.stop := by
  intro hid
  by_cases hmem : id ∈ w.commands.filterMap DriverCommand.completion?
  · exact .inr (.inr (if_pos hmem))
  · have hcall : w.stop.calls id = w.calls id := if_neg hmem
    rw [Connection.CallFailed, hcall]
    exact h hid

theorem Transition.unserved (ht : Transition w a w') (h : Unserved f id w) : Unserved f id w' := by
  cases ht with
  | callWrite | sessionWrite | callClose => exact h.request
  | registerZero | registerSession | finishOk | finishFailed | dropRegister | closeTransport
  | dropOpened | dropClosed | dropConnection | registerOccupied | registerVacant
  | unregistered => exact h
  | @writeRefused p other rest f' ans hrun hc hf' =>
    have he : f' = f := some.inj (hf'.symm.trans hf)
    exact h.complete _ (.inl (by rw [he])) rfl rfl
  | @closeRefused other rest f' ans hrun hc hf' =>
    have he : f' = f := some.inj (hf'.symm.trans hf)
    refine Unserved.stop ?_
    exact h.complete (.resolved (.error f')) (.inl (by rw [he])) rfl rfl
  | hangup =>
    refine Unserved.stop ?_
    exact h
  | _ => exact absurd (‹w.terminalFailure = none›.symm.trans hf) (by simp)

theorem run_unserved (hr : run step w es = some w') (h : Unserved f id w) : Unserved f id w' := by
  have hrun := run_induction (fun u => u.terminalFailure = some f ∧ Unserved f id u) (t := w')
    ?_ ⟨hf, h⟩ hr
  · exact hrun.2
  · intro u b u' ⟨hu, hid⟩ hs
    have ht := step_transition hs
    exact ⟨ht.still_failed hu, ht.unserved hu hid⟩

theorem run_completes {k : ℕ} {cmd : DriverCommand} (hr : run step w es = some w')
    (hwf : CallsWellFormed w) (hk : w.commands[k]? = some cmd) (hid : cmd.completion? = some id)
    (hserved : k < served es) : w'.CallFailed f id := by
  induction es generalizing w k with
  | nil => simp [served] at hserved
  | cons b es ih =>
    obtain ⟨u, hs, hr⟩ := run_cons_eq_some.mp hr
    have ht := step_transition hs
    have hmem : id ∈ w.pendingCalls :=
      mem_filterMap.mpr ⟨cmd, mem_of_getElem? hk, hid⟩
    obtain ⟨hlt, hwait⟩ := hwf.queued id hmem
    have hwf' := ht.callsWellFormed hwf
    have hf' := ht.still_failed hf
    have hlt' : id < u.callCount := hlt.trans_le ht.callCount_le
    rcases ht.unserved hf (fun _ => .inl hwait) hlt' with hwait' | hfailed
    · obtain ⟨j, hj, hkj⟩ := ht.queueStep.position hwf hk hid (hwf'.waiting id hlt' hwait')
      refine ih hf' hr hwf' hj ?_
      have hsum : served (b :: es) = served [b] + served es := by
        simp [served, countP_cons, Nat.add_comm]
      omega
    · have hres : u.calls id ≠ .waiting := by
        rcases hfailed with h | h <;> simp [h]
      rw [Connection.CallFailed, run_calls_eq hr hwf' hlt' hres]
      exact hfailed

end

/-- The packets of a session that arrived in a run, other than acknowledgements of opens. -/
def sessionArrivals (s : UInt32) (es : List Action) : List RuntimePacket :=
  (es.filterMap arrival?).filter fun p => p.sessionId = s ∧ ¬p.IsOpenAck

theorem sessionArrivals_append (s : UInt32) (es fs : List Action) :
    sessionArrivals s (es ++ fs) = sessionArrivals s es ++ sessionArrivals s fs := by
  simp [sessionArrivals]

section
variable {w w' : Connection} {a : Action} {s : UInt32}

theorem WellFormed.pendingPackets_of_not_awaited (h : WellFormed w)
    (hs : s ∉ w.awaitingRegistration) : w.pendingPackets s = [] := by
  cases hp : w.pendingSessions[s]? with
  | none => simp [Connection.pendingPackets, hp]
  | some pending => exact absurd (h.pendingSession s pending hp).2 hs

theorem Transition.pendingPackets_cases (ht : Transition w a w') (hwf : WellFormed w)
    (hrun : w'.running = true) :
    w'.pendingPackets s = [] ∨
      w'.pendingPackets s = w.pendingPackets s ++ sessionArrivals s [a] := by
  have herase : ∀ t : UInt32, ((w.pendingSessions.erase t)[s]?.getD {}).packets = [] ∨
      ((w.pendingSessions.erase t)[s]?.getD {}).packets = w.pendingPackets s ++ [] := by
    intro t
    by_cases ht : t = s
    · simp [ht]
    · simp [get_erase, ht, pendingPackets]
  cases ht with
  | @registerVacant t | @unregistered t => exact herase t
  | control p hr hf hp =>
    have hnone : sessionArrivals s [.incoming (.ok p)] = [] ∨ s = 0 := by
      by_cases hs : p.sessionId = s
      · rcases hp with hp | hp
        · exact .inr (hs ▸ hp)
        · exact .inl (by simp [sessionArrivals, arrival?, hp.1])
      · exact .inl (by simp [sessionArrivals, arrival?, hs])
    rcases hnone with hnone | hzero
    · exact .inr (by rw [hnone, append_nil]; rfl)
    · refine .inl (eq_nil_iff_forall_not_mem.mpr fun q hq => ?_)
      exact (hwf.mem_pendingPackets (w := w) hq).2.1 hzero
  | delivered p c hr hf hp hs =>
    by_cases hps : p.sessionId = s
    · subst hps
      exact .inl (hwf.pendingPackets_of_registered (by simp [hs]))
    · exact .inr (by simp [sessionArrivals, arrival?, hps, pendingPackets])
  | deadReceiver p c hr hf hp hs =>
    by_cases hps : p.sessionId = s
    · subst hps
      exact .inl (by simp [pendingPackets])
    · exact .inr (by simp [sessionArrivals, arrival?, hps, pendingPackets, get_erase])
  | buffered p pending hr hf hp hack hs hw hq =>
    by_cases hps : p.sessionId = s
    · subst hps
      exact .inr (by simp [sessionArrivals, arrival?, hack, pendingPackets,
        PendingSessionPackets.push_ok hq])
    · exact .inr (by simp [sessionArrivals, arrival?, hps, pendingPackets, get_insert])
  | unknown p hr hf hp hack hs hw =>
    by_cases hps : p.sessionId = s
    · subst hps
      exact .inl (hwf.pendingPackets_of_not_awaited (w := w) hw)
    · exact .inr (by simp [sessionArrivals, arrival?, hps, pendingPackets])
  | writeFailed | closeRefused | closeServed | controlGone | bufferFull | hangup =>
    simp at hrun
  | _ => exact .inr (append_nil _).symm

theorem Transition.running (ht : Transition w a w') (h : w'.running = true) : w.running = true := by
  cases ht with
  | callWrite | sessionWrite | callClose | registerZero | registerSession | finishOk
  | finishFailed | dropRegister | closeTransport | dropOpened | dropClosed | dropConnection =>
    exact h
  | _ => exact ‹w.running = true›

theorem run_pendingPackets_suffix {kind : RuntimeTransportKind} {es : List Action}
    (hr : run step (.start kind) es = some w) (hrun : w.running = true) :
    w.pendingPackets s <:+ sessionArrivals s es := by
  induction es using reverseRecOn generalizing w with
  | nil =>
    rw [run_nil, some.injEq] at hr
    simp [← hr, start, pendingPackets]
  | append_singleton es b ih =>
    obtain ⟨u, hru, hlast⟩ := run_append_eq_some.mp hr
    obtain ⟨v, hs, hv⟩ := run_cons_eq_some.mp hlast
    obtain rfl : v = w := some.inj hv
    have ht := step_transition hs
    have hsuffix := ih hru (ht.running hrun)
    rw [sessionArrivals_append]
    rcases ht.pendingPackets_cases (s := s) (run_wellFormed hru) hrun with h | h
    · rw [h]
      exact nil_suffix
    · rw [h]
      obtain ⟨earlier, hearlier⟩ := hsuffix
      exact ⟨earlier, by rw [← hearlier, append_assoc]⟩

end

theorem Channel.sent_unboundedSend (c : Channel) (e : DriverEvent) :
    (c.unboundedSend e).sent = c.sent ++ if c.receiverAlive then [e] else [] := by
  cases ha : c.receiverAlive with
  | true => simp [unboundedSend_alive, ha]
  | false => simp [unboundedSend_dead, ha]

theorem Connection.handOver_sent {w : Connection} {f : DriverFailure}
    (hf : w.terminalFailure = some f) (s : UInt32) (c : Channel) : (w.handOver s c).sent = c.sent ++
      if c.receiverAlive then (w.pendingPackets s).map .packet ++ [.failed f] else [] := by
  simp only [handOver, hf, sent_unboundedSend, deliverPending_receiverAlive]
  cases ha : c.receiverAlive with
  | true => simp [deliverPending_alive, ha, pendingPackets]
  | false => simp [deliverPending_dead, ha]

section
variable {kind : RuntimeTransportKind} {pre post : List Action} {e : Action}
  {w₀ w₁ w₂ : Connection} {f : DriverFailure} {c : ChannelId} {s : UInt32}

theorem registered_after_failure (hwf : WellFormed w₀) (hpost : run step (w₀.fail f) post = some w₂)
    (hs : w₀.sessions[s]? = some c) :
    (w₂.events c).sent = (w₀.events c).sent ++
      if (w₀.events c).receiverAlive then [.failed f] else [] := by
  have hsettled : Settled c (w₀.fail f) :=
    ⟨(hwf.sessionHandle s c hs).1, fun t ht => hwf.queued_unregistered ht hs⟩
  have hmem : c ∈ values w₀.sessions := mem_values.mpr ⟨s, hs⟩
  rw [run_settled rfl hpost hsettled, fail_events, broadcastFailure_events,
    sendAll_apply _ _ _ hwf.nodup_registered, if_pos hmem, sent_unboundedSend]

theorem registering_after_failure {u v : Connection} {later : List Action}
    {rest : List DriverCommand} {ans : Except String Unit} (hwf : WellFormed u)
    (hf : u.terminalFailure = some f) (hc : u.commands = .register s c :: rest)
    (hs : u.sessions[s]? = none) (hstep : step u (.command ans) = some v)
    (hlater : run step v later = some w₂) : (w₂.events c).sent =
      if (u.events c).receiverAlive then (u.pendingPackets s).map .packet ++ [.failed f]
      else [] := by
  obtain ⟨hlt, -, -, hsent⟩ := hwf.queuedHandle s c (by simp [hc])
  have hv : v = (u.popCommand.install s c).answer c (.resolved (.ok ())) := by
    have hrun : u.running = true := by
      by_contra hrun
      simp [step, hrun] at hstep
    simpa [step, hrun, hc, onCommand, onRegister, hs] using hstep.symm
  have hsettled : Settled c v := by
    refine ⟨by simpa [hv] using hlt, fun t ht => hwf.register_once (t := t) hc ?_⟩
    simpa [hv, hc] using ht
  have hfv : v.terminalFailure = some f := by simpa [hv] using hf
  have hevent : (v.events c).sent = ((u.popCommand).handOver s (u.events c)).sent := by
    simp [hv]
  rw [run_settled hfv hlater hsettled, hevent, handOver_sent (w := u.popCommand) (f := f) hf, hsent]
  rfl

theorem waiting_after_failure (hwf : CallsWellFormed w₂) (hf : w₂.terminalFailure = some f)
    {id : CallId} (hid : id < w₂.callCount) (hwait : w₂.calls id = .waiting) :
    w₂.running = true ∧ ∃ k < w₂.commands.length,
      (∀ ans, (step w₂ (.command ans)).isSome = true) ∧
      ∀ later w₃, run step w₂ later = some w₃ → k < served later → w₃.CallFailed f id := by
  obtain ⟨cmd, hmem, hcid⟩ := List.mem_filterMap.mp (hwf.waiting id hid hwait)
  obtain ⟨k, hk⟩ := List.getElem?_of_mem hmem
  have hne : w₂.commands ≠ [] := List.ne_nil_of_mem hmem
  have hrun : w₂.running = true := by
    by_contra hrun
    exact hne (hwf.stopped (by simpa using hrun))
  refine ⟨hrun, k, (List.getElem?_eq_some_iff.mp hk).1, step_command_isSome hrun hne, ?_⟩
  intro later w₃ hlater hserved
  exact run_completes hf hlater hwf hk hcid hserved

/-- For every run in which the driver enters its terminal-failure state: the control receiver
and each registered session get one failure, after everything they got before and before
nothing; a session registered later gets its buffered packets, in arrival order, and then one
failure; writes and closes that wait or come later end with an error; and the transport is
neither written nor read again. -/
theorem failure_propagation (kind : RuntimeTransportKind) (pre post : List Action)
    (hpre : run step (.start kind) pre = some w₀)
    (hnone : w₀.terminalFailure = none) (hfail : step w₀ e = some w₁)
    (hf : w₁.terminalFailure = some f) (hpost : run step w₁ post = some w₂) :
    (w₀.control.failures = [] ∧ w₂.control.sent = w₀.control.sent ++
      if w₀.control.receiverAlive then [.failed f] else []) ∧
    (∀ (s : UInt32) (c : ChannelId), w₀.sessions[s]? = some c →
      (w₀.events c).failures = [] ∧ (w₂.events c).sent = (w₀.events c).sent ++
        if (w₀.events c).receiverAlive then [.failed f] else []) ∧
    (∀ (post₁ post₂ : List Action) (answer : Except String Unit) (u : Connection) (s : UInt32)
      (c : ChannelId) (rest : List DriverCommand), post = post₁ ++ .command answer :: post₂ →
      run step w₁ post₁ = some u → u.commands = .register s c :: rest → u.sessions[s]? = none →
      (w₂.events c).sent = (if (u.events c).receiverAlive then
        (u.pendingPackets s).map .packet ++ [.failed f] else []) ∧
      u.pendingPackets s <:+ sessionArrivals s (pre ++ e :: post₁)) ∧
    (∀ id < w₂.callCount, w₁.calls id = .waiting ∨ w₁.callCount ≤ id → w₂.CallFailed f id ∨
      w₂.calls id = .waiting ∧ w₂.running = true ∧ ∃ k < w₂.commands.length,
        (∀ answer, (step w₂ (.command answer)).isSome = true) ∧
        ∀ later w₃, run step w₂ later = some w₃ → k < served later → w₃.CallFailed f id) ∧
    w₂.written = w₀.written ∧ ∀ r, .incoming r ∉ post := by
  have hwf := run_wellFormed hpre
  obtain ⟨hrun, hw₁⟩ := (step_transition hfail).failing hnone hf
  obtain ⟨hctl, hevents⟩ := run_induction NoFailureSeen
    (fun _ _ _ h hs => (step_transition hs).noFailureSeen h) (fun _ => ⟨rfl, fun _ => rfl⟩) hpre
    ⟨hrun, hnone⟩
  have hpre₁ : run step (.start kind) (pre ++ [e]) = some w₁ :=
    run_append_eq_some.mpr ⟨w₀, hpre, run_cons_eq_some.mpr ⟨w₁, hfail, rfl⟩⟩
  have hpre₂ : run step (.start kind) (pre ++ [e] ++ post) = some w₂ :=
    run_append_eq_some.mpr ⟨w₁, hpre₁, hpost⟩
  obtain ⟨hf₂, hsent, hwritten⟩ := run_silent hf hpost
  refine ⟨⟨hctl, ?_⟩, fun s c hs => ⟨hevents c, ?_⟩, ?_, ?_, ?_, run_no_read hf hpost⟩
  · rw [hsent, hw₁, fail_control, broadcastFailure_control, sent_unboundedSend]
  · exact registered_after_failure hwf (hw₁ ▸ hpost) hs
  · intro post₁ post₂ answer u s c rest hsplit hu hc hs
    have hpreu : run step (.start kind) (pre ++ e :: post₁) = some u := by
      rw [append_cons]
      exact run_append_eq_some.mpr ⟨w₁, hpre₁, hu⟩
    obtain ⟨u', hu', htail⟩ := run_append_eq_some.mp (hsplit ▸ hpost)
    obtain rfl : u' = u := some.inj (hu'.symm.trans hu)
    obtain ⟨v, hv, hlater⟩ := run_cons_eq_some.mp htail
    have hfu := (run_silent hf hu).1
    refine ⟨registering_after_failure (run_wellFormed hpreu) hfu hc hs hv hlater, ?_⟩
    refine run_pendingPackets_suffix hpreu ?_
    by_contra hrunu
    simp [step, hrunu] at hv
  · intro id hid hlate
    have hstart : Unserved f id w₁ := by
      intro hlt
      rcases hlate with hwait | hle
      · exact .inl hwait
      · exact absurd hlt (not_lt.mpr hle)
    rcases run_unserved hf hpost hstart hid with hwait | hfailed
    · exact .inr ⟨hwait, waiting_after_failure (run_callsWellFormed hpre₂) hf₂ hid hwait⟩
    · exact .inl hfailed
  · rw [hwritten, hw₁]
    rfl

end

/-- One session is registered before the failure and another one, with a buffered packet,
after it; then a write is refused. -/
theorem failure_propagation_two_sessions :
    ∃ w₀ w₁ w₂, run step (.start .tcp)
        [.callRegister 7, .command (.ok ()), .incoming (.ok (.bare .sessionOpenAck 8 0)),
          .incoming (.ok (.bare .resultPush 8 1)), .callRegister 8] = some w₀ ∧
      step w₀ (.incoming (.error "reset")) = some w₁ ∧
      run step w₁ [.command (.ok ()), .callWrite (.bare .resultPush 7 2), .command (.ok ())] =
        some w₂ ∧
      (w₂.events 0).sent = [.failed ⟨.tcp, "reset"⟩] ∧
      (w₂.events 1).sent = [.packet (.bare .resultPush 8 1), .failed ⟨.tcp, "reset"⟩] ∧
      w₂.CallFailed ⟨.tcp, "reset"⟩ 0 := by
  refine ⟨_, _, _, rfl, rfl, rfl, ?_⟩
  have h := failure_propagation .tcp
    [.callRegister 7, .command (.ok ()), .incoming (.ok (.bare .sessionOpenAck 8 0)),
      .incoming (.ok (.bare .resultPush 8 1)), .callRegister 8]
    [.command (.ok ()), .callWrite (.bare .resultPush 7 2), .command (.ok ())]
    (e := .incoming (.error "reset")) (f := ⟨.tcp, "reset"⟩) rfl rfl rfl rfl rfl
  obtain ⟨-, hregistered, hlater, -⟩ := h
  refine ⟨(hregistered 7 0 (by decide)).2.trans (by decide), ?_, .inl (by decide)⟩
  exact (hlater [] _ (.ok ()) _ 8 1 [] rfl rfl rfl (by decide)).1.trans (by decide)

end Nnrp.Multiplex
