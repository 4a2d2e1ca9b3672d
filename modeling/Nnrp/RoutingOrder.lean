import Nnrp.ChannelHistory

/-!
# Routing is exact and ordered

Each session sees its own part of a connection: whether it is registered, the packets buffered
for it and the packets in its receivers. While the driver is alive and no send to a receiver of
the session was refused, a step changes this part in one of the ways that `SessionStep` lists.

The packets a receiver holds at the end of such a run are then the packets that arrived for it,
in arrival order. Which receiver an arrival is meant for is read off the rest of the run: it is
the receiver registered for the session, or the first one registered later.
-/

namespace Nnrp.Multiplex
open OrderedMap Packet LabelledRun List Function Connection Channel

variable {s : UInt32}

/-- A transport of the session that can still be used is registered, and an unregistration is
queued only while the session is registered, once. A refused send breaks the second fact: the
driver then removes the session itself while the unregistration is queued. -/
structure Owned (s : UInt32) (w : Connection) : Prop where
  live : ∀ c, (w.handles c).sessionId = s →
    (w.handles c).status = .opened ∨
      (w.handles c).status = .registering (.resolved (.ok ())) →
    w.sessions[s]? = some c ∧ .unregister s ∉ w.commands
  leaving : .unregister s ∈ w.commands → w.sessions[s]? ≠ none
  once : w.commands.count (.unregister s) ≤ 1

variable {cmd : DriverCommand} {status : HandleStatus}

theorem count_unregister_append {cmds : List DriverCommand}
    (hc : cmd ≠ .unregister s) (running : Bool) :
    (if running then cmds ++ [cmd] else cmds).count (.unregister s) =
      cmds.count (.unregister s) := by
  split
  · simp [hc]
  · rfl

theorem count_unregister_tail {cmds rest : List DriverCommand}
    (hc : cmds = cmd :: rest) (hne : cmd ≠ .unregister s) :
    cmds.tail.count (.unregister s) = cmds.count (.unregister s) := by
  simp [hc, hne]

theorem HandleStatus.live_of_answered {result : CallResult}
    (hr : result ≠ .resolved (.ok ())) (h : status.answered result = .opened ∨
      status.answered result = .registering (.resolved (.ok ()))) :
    status = .opened ∨ status = .registering (.resolved (.ok ())) := by
  cases status with
  | registering ans =>
    simp only [HandleStatus.answered, reduceCtorEq, HandleStatus.registering.injEq, false_or] at h
    exact absurd h hr
  | opened | closed | dropped | abandoned => exact h

namespace Owned

variable {w w' : Connection} {c : ChannelId}

theorem start (s : UInt32) (kind : RuntimeTransportKind) : Owned s (.start kind) where
  live c _ hc := by simp [Connection.start] at hc
  leaving hs := by simp [Connection.start] at hs
  once := by simp [Connection.start]

theorem congr (h : Owned s w) (hs : w'.sessions[s]? = w.sessions[s]?) (hh : w'.handles = w.handles)
    (hc : w'.commands.count (.unregister s) = w.commands.count (.unregister s)) : Owned s w' := by
  have hmem : .unregister s ∈ w'.commands ↔ .unregister s ∈ w.commands := by
    rw [← count_pos_iff, ← count_pos_iff, hc]
  refine ⟨fun c hsid hlive => ?_, fun hin => ?_, hc ▸ h.once⟩
  · rw [hh] at hsid hlive
    rw [hs, hmem]
    exact h.live c hsid hlive
  · rw [hs]
    exact h.leaving (hmem.mp hin)

theorem setStatus (h : Owned s w) (c : ChannelId)
    (hstatus : status = .opened ∨ status = .registering (.resolved (.ok ())) →
      (w.handles c).status = .opened ∨ (w.handles c).status = .registering (.resolved (.ok ()))) :
    Owned s (w.setStatus c status) where
  live d hsid hd := by
    by_cases hdc : d = c
    · subst hdc
      simp only [setStatus_handles, update_self] at hsid hd
      exact h.live d hsid (hstatus hd)
    · simp only [setStatus_handles, update_of_ne hdc] at hsid hd
      exact h.live d hsid hd
  leaving := h.leaving
  once := h.once

theorem leave (h : Owned s w) (status : HandleStatus)
    (hc : (w.handles c).status = .opened) (hopen : status ≠ .opened)
    (hreg : status ≠ .registering (.resolved (.ok ()))) :
    Owned s ((w.setStatus c status).unregister (w.handles c).sessionId) := by
  have hset : Owned s (w.setStatus c status) := h.setStatus c (by simp [hopen, hreg])
  by_cases hs : (w.handles c).sessionId = s
  · obtain ⟨hsess, hnot⟩ := h.live c hs (.inl hc)
    refine ⟨fun d hsid hd => ?_, fun _ => by simp [hsess], ?_⟩
    · have hdc : d ≠ c := by
        rintro rfl
        simp [hopen, hreg] at hd
      have hd' := (hset.live d hsid hd).1
      rw [setStatus_sessions, hsess, Option.some.injEq] at hd'
      exact absurd hd'.symm hdc
    · simp only [unregister_commands, setStatus_running, setStatus_commands, hs]
      split
      · simp [count_eq_zero.mpr hnot]
      · exact h.once
  · refine hset.congr rfl rfl (count_unregister_append (fun he => hs ?_) _)
    exact DriverCommand.unregister.inj he

theorem registerSession (h : Owned s w) (t : UInt32) : Owned s (w.registerSession t) := by
  have hcount : (w.registerSession t).commands.count (.unregister s) =
      w.commands.count (.unregister s) := count_unregister_append (by simp) _
  have hmem : .unregister s ∈ (w.registerSession t).commands ↔ .unregister s ∈ w.commands := by
    rw [← count_pos_iff, ← count_pos_iff, hcount]
  refine ⟨fun c hsid hc => ?_, fun hin => h.leaving (hmem.mp hin), hcount ▸ h.once⟩
  have hne : c ≠ w.channelCount := by
    rintro rfl
    simp only [registerSession_handles, update_self] at hc
    split at hc <;> simp at hc
  simp only [registerSession_handles, update_of_ne hne] at hsid hc
  rw [hmem]
  exact h.live c hsid hc

variable {rest : List DriverCommand} {t : UInt32}

theorem install (h : Owned s w) (hwf : WellFormed w) (hc : w.commands = .register t c :: rest)
    (ht : w.sessions[t]? = none) :
    Owned s ((w.popCommand.install t c).answer c (.resolved (.ok ()))) := by
  obtain ⟨-, hhandle, -, -⟩ := hwf.queuedHandle t c (by simp [hc])
  have hcount := count_unregister_tail (s := s) hc (by simp)
  by_cases hst : t = s
  · subst hst
    have hnot : .unregister t ∉ w.commands.tail := fun hin =>
      h.leaving (mem_of_mem_tail hin) ht
    refine ⟨fun d hsid hd => ?_, fun hin => absurd hin hnot, hcount.trans_le h.once⟩
    by_cases hdc : d = c
    · subst hdc
      exact ⟨by simp, hnot⟩
    · simp only [answer_handles, install_handles, popCommand_handles, update_of_ne hdc] at hsid hd
      have hd' := (h.live d hsid hd).1
      simp [ht] at hd'
  · refine ⟨fun d hsid hd => ?_, fun hin => ?_, hcount.trans_le h.once⟩
    · have hdc : d ≠ c := by
        rintro rfl
        simp only [answer_handles, install_handles, popCommand_handles, update_self] at hsid
        exact hst (hhandle.symm.trans hsid)
      simp only [answer_handles, install_handles, popCommand_handles, update_of_ne hdc] at hsid hd
      obtain ⟨hds, hdnot⟩ := h.live d hsid hd
      refine ⟨?_, fun hin => hdnot (mem_of_mem_tail hin)⟩
      simpa [get_insert, hst] using hds
    · have hold := h.leaving (mem_of_mem_tail hin)
      simpa [get_insert, hst] using hold

theorem removeSession (h : Owned s w)
    (hc : w.commands = .unregister t :: rest) : Owned s (w.popCommand.removeSession t) := by
  by_cases hst : t = s
  · subst hst
    have hcount := h.once
    rw [hc, count_cons_self] at hcount
    have hrest : rest.count (.unregister t) = 0 := by omega
    have hnot : .unregister t ∉ w.commands.tail := by
      rw [hc]
      exact count_eq_zero.mp hrest
    refine ⟨fun d hsid hd => ?_, fun hin => absurd hin hnot, ?_⟩
    · exact absurd (h.live d hsid hd).2 (by simp [hc])
    · rw [removeSession_commands, popCommand_commands, hc, tail_cons, hrest]
      exact Nat.zero_le 1
  · refine h.congr ?_ rfl (count_unregister_tail hc fun he => hst (DriverCommand.unregister.inj he))
    simp [get_erase, hst]

end Owned

theorem WellFormed.deadReceiver_unreliable {w : Connection} (hwf : WellFormed w) {c : ChannelId}
    {p : RuntimePacket} (hs : w.sessions[s]? = some c) (ha : (w.events c).receiverAlive = false) :
    ¬(((w.noteOpenAck p).sendSession c (.packet p)).removeSession s).Reliable s := by
  intro hrel
  obtain ⟨hlt, hsid⟩ := hwf.sessionHandle s c hs
  have href := hrel c hlt hsid
  simp [unboundedSend_dead, ha] at href

theorem Connection.not_alive_stop (w : Connection) : ¬w.stop.Alive := fun h =>
  absurd h.1 (by simp)

theorem Transition.owned {w w' : Connection} {a : Action} (ht : Transition w a w')
    (hwf : WellFormed w) (halive : w'.Alive) (hrel : w'.Reliable s) (h : Owned s w) :
    Owned s w' := by
  cases ht with
  | callWrite | sessionWrite | callClose =>
    exact h.congr rfl rfl (count_unregister_append (by simp) _)
  | registerZero | dropConnection | control | buffered | delivered => exact h.congr rfl rfl rfl
  | registerSession t ht => exact h.registerSession t
  | finishOk c hc => exact h.setStatus c fun _ => .inr hc
  | finishFailed c | dropRegister c | dropClosed c =>
    exact (h.setStatus c (by simp)).congr rfl rfl rfl
  | closeTransport c hc => exact h.leave _ hc (by simp) (by simp)
  | dropOpened c hc =>
    exact (h.leave .dropped hc (by simp) (by simp)).congr rfl rfl rfl
  | writeRefused hrun hc hf | writeDone hrun hc hf =>
    exact h.congr rfl rfl (count_unregister_tail hc (by simp))
  | registerOccupied hrun hc hs =>
    have hpop : Owned s w.popCommand := h.congr rfl rfl (count_unregister_tail hc (by simp))
    exact hpop.setStatus _ (HandleStatus.live_of_answered (by simp))
  | registerVacant hrun hc hs => exact h.install hwf hc hs
  | unregistered hrun hc => exact h.removeSession hc
  | deadReceiver p c hrun hf hp hs ha =>
    by_cases hps : p.sessionId = s
    · subst hps
      exact absurd hrel (hwf.deadReceiver_unreliable hs ha)
    · refine h.congr ?_ rfl rfl
      simp [get_erase, hps]
  | readFailed | unknown => exact absurd halive.2 (by simp)
  | _ => exact absurd halive (not_alive_stop _)

def Channel.packets (c : Channel) : List RuntimePacket := c.sent.filterMap DriverEvent.packet?

def Channel.packetsFor (s : UInt32) (c : Channel) : List RuntimePacket :=
  c.packets.filter fun p => p.sessionId = s ∧ ¬p.IsOpenAck

def Connection.pendingPackets (w : Connection) (s : UInt32) : List RuntimePacket :=
  ((w.pendingSessions[s]?).getD {}).packets

def arrival? : Action → Option RuntimePacket
  | .incoming (.ok p) => some p
  | _ => none

def Connection.Routable (w : Connection) (p : RuntimePacket) : Prop :=
  p.sessionId ≠ 0 ∧ ¬p.IsOpenAck ∧
    (w.sessions[p.sessionId]? ≠ none ∨ p.sessionId ∈ w.awaitingRegistration)

instance (w : Connection) (p : RuntimePacket) : Decidable (w.Routable p) :=
  inferInstanceAs (Decidable (_ ∧ _))

namespace Channel

variable {c : Channel} {p : RuntimePacket}

theorem packets_unboundedSend (c : Channel) (p : RuntimePacket) :
    (c.unboundedSend (.packet p)).packets = c.packets ++ if c.receiverAlive then [p] else [] := by
  cases ha : c.receiverAlive with
  | true => simp [unboundedSend_alive, ha, packets, DriverEvent.packet?]
  | false => simp [unboundedSend_dead, ha, packets]

theorem packets_deliverPending (c : Channel) (ps : List RuntimePacket) :
    (c.deliverPending ps).packets = c.packets ++ if c.receiverAlive then ps else [] := by
  cases ha : c.receiverAlive with
  | true =>
    have hmap : ps.filterMap (fun p => DriverEvent.packet? (.packet p)) = ps := by
      simp [DriverEvent.packet?]
    simp [deliverPending_alive, ha, packets, filterMap_map, hmap]
  | false => simp [deliverPending_dead, ha, packets]

theorem mem_packets_unboundedSend {q : RuntimePacket}
    (h : p ∈ (c.unboundedSend (.packet q)).packets) : p ∈ c.packets ∨ p = q := by
  rw [packets_unboundedSend, mem_append] at h
  refine h.imp_right fun h => ?_
  cases ha : c.receiverAlive with
  | true => simpa [ha] using h
  | false => simp [ha] at h

@[simp] theorem packets_dropReceiver (c : Channel) : c.dropReceiver.packets = c.packets := rfl

variable {ps : List RuntimePacket}

theorem packetsFor_append {d : Channel} (h : d.packets = c.packets ++ ps) :
    d.packetsFor s = c.packetsFor s ++ ps.filter fun p => p.sessionId = s ∧ ¬p.IsOpenAck := by
  simp [packetsFor, h]

theorem deliverPending_eq_nil (ha : c.receiverAlive = false)
    (h : (c.deliverPending ps).refused = []) : ps = [] := by
  cases ps with
  | nil => rfl
  | cons p ps => simp [deliverPending_dead, ha] at h

end Channel

namespace WellFormed

variable {w : Connection}

theorem pendingPackets_of_registered (h : WellFormed w) (hs : w.sessions[s]? ≠ none) :
    w.pendingPackets s = [] := by
  cases hp : w.pendingSessions[s]? with
  | none => simp [Connection.pendingPackets, hp]
  | some pending => exact absurd (h.pendingSession s pending hp).1 hs

theorem mem_pendingPackets (h : WellFormed w) {p : RuntimePacket}
    (hp : p ∈ w.pendingPackets s) : p.sessionId = s ∧ s ≠ 0 ∧ ¬p.IsOpenAck := by
  cases hs : w.pendingSessions[s]? with
  | none => simp [Connection.pendingPackets, hs] at hp
  | some pending =>
    simp only [Connection.pendingPackets, hs, Option.getD_some] at hp
    exact h.pendingPackets s pending hs p hp

theorem filter_pendingPackets (h : WellFormed w) (t : UInt32) :
    (w.pendingPackets t).filter (fun p => p.sessionId = s ∧ ¬p.IsOpenAck) =
      if t = s then w.pendingPackets t else [] := by
  by_cases hst : t = s
  · subst hst
    rw [if_pos rfl, filter_eq_self]
    intro p hp
    obtain ⟨hsid, -, hack⟩ := h.mem_pendingPackets hp
    simp [hsid, hack]
  · rw [if_neg hst, filter_eq_nil_iff]
    intro p hp
    have hpt := (h.mem_pendingPackets hp).1
    simp [hpt, hst]

end WellFormed

inductive SessionStep (s : UInt32) (w : Connection) (a : Action) (w' : Connection) : Prop
  | other (ha : ∀ p, arrival? a = some p → w.Routable p → p.sessionId ≠ s)
      (sessions : w'.sessions[s]? = w.sessions[s]?)
      (pending : w'.pendingPackets s = w.pendingPackets s)
      (events : ∀ c, (w'.events c).packetsFor s = (w.events c).packetsFor s)
  | registered (c : ChannelId) (ha : arrival? a = none) (vacant : w.sessions[s]? = none)
      (sessions : w'.sessions[s]? = some c)
      (gains : (w'.events c).packetsFor s = (w.events c).packetsFor s ++ w.pendingPackets s)
      (events : ∀ d ≠ c, (w'.events d).packetsFor s = (w.events d).packetsFor s)
  | unregistered (ha : arrival? a = none) (registered : w.sessions[s]? ≠ none)
      (pending : w'.pendingPackets s = [])
      (events : ∀ c, (w'.events c).packetsFor s = (w.events c).packetsFor s)
  | delivered (p : RuntimePacket) (c : ChannelId) (ha : arrival? a = some p)
      (hp : p.sessionId = s) (routable : w.Routable p) (registered : w.sessions[s]? = some c)
      (sessions : w'.sessions[s]? = some c)
      (gains : (w'.events c).packetsFor s = (w.events c).packetsFor s ++ [p])
      (events : ∀ d ≠ c, (w'.events d).packetsFor s = (w.events d).packetsFor s)
  | buffered (p : RuntimePacket) (ha : arrival? a = some p) (hp : p.sessionId = s)
      (routable : w.Routable p) (vacant : w.sessions[s]? = none)
      (gains : w'.pendingPackets s = w.pendingPackets s ++ [p])
      (events : ∀ c, (w'.events c).packetsFor s = (w.events c).packetsFor s)

section
variable {w : Connection} {c : ChannelId}

theorem sessionStep_registered (hwf : WellFormed w) (hf : w.terminalFailure = none) {t : UInt32}
    {rest : List DriverCommand} {ans : Except String Unit}
    (hc : w.commands = .register t c :: rest) (ht : w.sessions[t]? = none)
    (hrel : ((w.popCommand.install t c).answer c (.resolved (.ok ()))).Reliable s) :
    SessionStep s w (.command ans)
      ((w.popCommand.install t c).answer c (.resolved (.ok ()))) := by
  obtain ⟨hlt, hsid, -, -⟩ := hwf.queuedHandle t c (by simp [hc])
  have hevent : ((w.popCommand.install t c).answer c (.resolved (.ok ()))).events c =
      (w.events c).deliverPending (w.pendingPackets t) := by
    simp [handOver, hf, pendingPackets]
  have hother : ∀ d ≠ c,
      (((w.popCommand.install t c).answer c (.resolved (.ok ()))).events d).packetsFor s =
        (w.events d).packetsFor s := by
    intro d hd
    simp [hd]
  have hgain := packetsFor_append (s := s)
    (packets_deliverPending (w.events c) (w.pendingPackets t))
  by_cases hst : t = s
  · subst hst
    have href := hrel c hlt (by simpa using hsid)
    rw [hevent] at href
    refine .registered c rfl ht (by simp) ?_ hother
    rw [hevent, hgain]
    cases ha : (w.events c).receiverAlive with
    | true => rw [if_pos rfl, hwf.filter_pendingPackets, if_pos rfl]
    | false => simp [deliverPending_eq_nil ha href]
  · refine .other (by simp [arrival?]) (by simp [get_insert, hst]) ?_ fun d => ?_
    · simp [pendingPackets, get_erase, hst]
    · by_cases hd : d = c
      · subst hd
        rw [hevent, hgain]
        cases (w.events d).receiverAlive with
        | true => rw [if_pos rfl, hwf.filter_pendingPackets, if_neg hst, append_nil]
        | false => simp
      · exact hother d hd

theorem sessionStep_delivered {p : RuntimePacket} (hp : p.sessionId ≠ 0)
    (hs : w.sessions[p.sessionId]? = some c) (ha : (w.events c).receiverAlive = true) :
    SessionStep s w (.incoming (.ok p)) ((w.noteOpenAck p).sendSession c (.packet p)) := by
  have hother : ∀ d ≠ c, (((w.noteOpenAck p).sendSession c (.packet p)).events d).packetsFor s =
      (w.events d).packetsFor s := by
    intro d hd
    simp [hd]
  have hgain : (((w.noteOpenAck p).sendSession c (.packet p)).events c).packetsFor s =
      (w.events c).packetsFor s ++ [p].filter fun p => p.sessionId = s ∧ ¬p.IsOpenAck := by
    refine packetsFor_append ?_
    simp [packets_unboundedSend, ha]
  by_cases hr : p.sessionId = s ∧ ¬p.IsOpenAck
  · obtain ⟨rfl, hack⟩ := hr
    refine .delivered p c rfl rfl ⟨hp, hack, .inl (by simp [hs])⟩ hs hs ?_ hother
    rw [hgain]
    simp [hack]
  · refine .other ?_ rfl rfl fun d => ?_
    · rintro q hq hrout rfl
      cases hq
      exact hr ⟨rfl, hrout.2.1⟩
    · by_cases hd : d = c
      · subst hd
        rw [hgain, filter_cons_of_neg (by simpa using hr)]
        exact append_nil _
      · exact hother d hd

theorem Transition.sessionStep {w' : Connection} {a : Action} (ht : Transition w a w')
    (hwf : WellFormed w) (halive : w'.Alive) (hrel : w'.Reliable s) (h : Owned s w) :
    SessionStep s w a w' := by
  have halive₀ : w.Alive := ht.alive halive
  cases ht with
  | registerSession t ht =>
    refine .other (by simp [arrival?]) rfl rfl fun c => ?_
    by_cases hc : c = w.channelCount
    · subst hc
      simp [packetsFor, packets, hwf.freshChannel _ le_rfl]
    · simp [hc]
  | finishFailed c | dropRegister c | dropOpened c | dropClosed c =>
    refine .other (by simp [arrival?]) rfl rfl fun d => ?_
    by_cases hd : d = c
    · subst hd
      simp [packetsFor]
    · simp [hd]
  | registerVacant hrun hc hs => exact sessionStep_registered hwf halive₀.2 hc hs hrel
  | @unregistered t rest answer hrun hc =>
    by_cases hst : t = s
    · subst hst
      refine .unregistered rfl (h.leaving (by simp [hc])) ?_ fun _ => rfl
      simp [pendingPackets]
    · refine .other (by simp [arrival?]) ?_ ?_ fun _ => rfl
      · simp [get_erase, hst]
      · simp [pendingPackets, get_erase, hst]
  | control p hrun hf hp =>
    refine .other ?_ rfl rfl fun _ => rfl
    intro q hq hrout
    cases hq
    rcases hp with hp | hp
    · exact absurd hp hrout.1
    · exact absurd hp.1 hrout.2.1
  | delivered p c hrun hf hp hs ha => exact sessionStep_delivered hp hs ha
  | deadReceiver p c hrun hf hp hs ha =>
    by_cases hps : p.sessionId = s
    · subst hps
      exact absurd hrel (hwf.deadReceiver_unreliable hs ha)
    · refine .other ?_ ?_ ?_ fun d => ?_
      · intro q hq _
        cases hq
        exact hps
      · simp [get_erase, hps]
      · simp [pendingPackets, get_erase, hps]
      · by_cases hd : d = c
        · subst hd
          simp [packetsFor, packets_unboundedSend, ha]
        · simp [hd]
  | buffered p pending hrun hf hp hack hs hw hq =>
    by_cases hps : p.sessionId = s
    · subst hps
      refine .buffered p rfl rfl ⟨hp, hack, .inr hw⟩ hs ?_ fun _ => rfl
      simp [pendingPackets, PendingSessionPackets.push_ok hq]
    · refine .other ?_ rfl ?_ fun _ => rfl
      · intro q hq _
        cases hq
        exact hps
      · simp [pendingPackets, get_insert, hps]
  | writeFailed | closeRefused | closeServed | controlGone | bufferFull | hangup =>
    exact absurd halive (not_alive_stop _)
  | readFailed | unknown => exact absurd halive.2 (by simp)
  | _ => exact .other (by simp [arrival?]) rfl rfl fun _ => rfl

end

/-- The receiver registered for a session, or the first one registered for it later. -/
def receiverFor (s : UInt32) : Connection → List Action → Option ChannelId
  | w, [] => w.sessions[s]?
  | w, a :: es => w.sessions[s]?.or ((step w a).bind fun w' => receiverFor s w' es)

def arrivals : Connection → List Action → List (RuntimePacket × Option ChannelId)
  | _, [] => []
  | w, a :: es =>
    ((arrival? a).toList.filter fun p => w.Routable p).map
        (fun p => (p, receiverFor p.sessionId w (a :: es))) ++
      (step w a).elim [] fun w' => arrivals w' es

def arrivalsAt (target : Option ChannelId) (s : UInt32) (w : Connection) (es : List Action) :
    List RuntimePacket :=
  ((arrivals w es).filter fun d => d.1.sessionId = s ∧ d.2 = target).map Prod.fst

def controlArrivals (es : List Action) : List RuntimePacket :=
  (es.filterMap arrival?).filter fun p => p.sessionId = 0

variable (target : Option ChannelId)

def held (s : UInt32) (w : Connection) (es : List Action) : List RuntimePacket :=
  if receiverFor s w es = target then w.pendingPackets s else []

def received (s : UInt32) (w : Connection) : List RuntimePacket :=
  target.elim [] fun c => (w.events c).packetsFor s

/-- What a receiver has got, is owed from the buffer and is to get in the rest of a run. -/
def due (s : UInt32) (w : Connection) (es : List Action) : List RuntimePacket :=
  received target s w ++ held target s w es ++ arrivalsAt target s w es

section
variable {w w' : Connection} {a : Action} {es : List Action} {c : ChannelId}
  {target : Option ChannelId}

theorem receiverFor_of_registered (h : w.sessions[s]? = some c) : receiverFor s w es = some c := by
  cases es with
  | nil => exact h
  | cons a es => simp [receiverFor, h]

section
variable (hs : step w a = some w')
include hs

theorem receiverFor_of_vacant (h : w.sessions[s]? = none) :
    receiverFor s w (a :: es) = receiverFor s w' es := by
  simp [receiverFor, h, hs]

theorem receiverFor_of_kept (h : w'.sessions[s]? = w.sessions[s]?) :
    receiverFor s w (a :: es) = receiverFor s w' es := by
  cases hc : w.sessions[s]? with
  | none => exact receiverFor_of_vacant hs hc
  | some c => rw [receiverFor_of_registered hc, receiverFor_of_registered (h.trans hc)]

theorem arrivalsAt_cons_of_not (ha : ∀ p, arrival? a = some p → w.Routable p → p.sessionId ≠ s) :
    arrivalsAt target s w (a :: es) = arrivalsAt target s w' es := by
  cases hp : arrival? a with
  | none => simp [arrivalsAt, arrivals, hp, hs]
  | some p =>
    by_cases hr : w.Routable p
    · simp [arrivalsAt, arrivals, hp, hs, hr, ha p hp hr]
    · simp [arrivalsAt, arrivals, hp, hs, hr]

theorem arrivalsAt_cons_of_none (ha : arrival? a = none) :
    arrivalsAt target s w (a :: es) = arrivalsAt target s w' es :=
  arrivalsAt_cons_of_not hs (by simp [ha])

theorem arrivalsAt_cons {p : RuntimePacket}
    (ha : arrival? a = some p) (hp : p.sessionId = s) (hr : w.Routable p) :
    arrivalsAt target s w (a :: es) =
      (if receiverFor s w (a :: es) = target then [p] else []) ++ arrivalsAt target s w' es := by
  subst hp
  by_cases ht : receiverFor p.sessionId w (a :: es) = target
  all_goals simp [arrivalsAt, arrivals, ha, hs, hr, ht]

end

theorem received_congr (h : ∀ c, (w'.events c).packetsFor s = (w.events c).packetsFor s) :
    received target s w' = received target s w := by
  cases target with
  | none => rfl
  | some c => exact h c

theorem received_of_gains {ps : List RuntimePacket}
    (gains : (w'.events c).packetsFor s = (w.events c).packetsFor s ++ ps)
    (events : ∀ d ≠ c, (w'.events d).packetsFor s = (w.events d).packetsFor s) :
    received target s w' = received target s w ++ if some c = target then ps else [] := by
  cases target with
  | none => simp [received]
  | some d =>
    by_cases hd : c = d
    · subst hd
      simp [received, gains]
    · simp [received, events d (Ne.symm hd), hd]

theorem held_of_empty (h : w.pendingPackets s = []) : held target s w es = [] := by
  simp [held, h]

theorem SessionStep.due_eq (h : SessionStep s w a w') (hwf : WellFormed w)
    (hs : step w a = some w') (es : List Action) :
    due target s w (a :: es) = due target s w' es := by
  have hwf' : WellFormed w' := (step_transition hs).wellFormed hwf
  cases h with
  | other ha sessions pending events =>
    rw [due, due, arrivalsAt_cons_of_not hs ha, received_congr events, held, held,
      receiverFor_of_kept hs sessions, pending]
  | registered c ha vacant sessions gains events =>
    -- the buffer moves to the receiver
    have hempty := hwf'.pendingPackets_of_registered (s := s) (by simp [sessions])
    rw [due, due, arrivalsAt_cons_of_none hs ha, received_of_gains gains events,
      held_of_empty hempty, held, receiverFor_of_vacant hs vacant,
      receiverFor_of_registered sessions, append_nil]
  | unregistered ha registered pending events =>
    rw [due, due, arrivalsAt_cons_of_none hs ha, received_congr events, held_of_empty pending,
      held_of_empty (hwf.pendingPackets_of_registered registered)]
  | delivered p c ha hp routable registered sessions gains events =>
    have hempty := hwf.pendingPackets_of_registered (s := s) (by simp [registered])
    have hempty' := hwf'.pendingPackets_of_registered (s := s) (by simp [sessions])
    rw [due, due, arrivalsAt_cons hs ha hp routable, received_of_gains gains events,
      held_of_empty hempty, held_of_empty hempty', receiverFor_of_registered registered]
    simp only [append_nil, append_assoc]
  | buffered p ha hp routable vacant gains events =>
    rw [due, due, arrivalsAt_cons hs ha hp routable, received_congr events, held, held, gains,
      receiverFor_of_vacant hs vacant]
    by_cases htgt : receiverFor s w' es = target
    · simp [htgt]
    · simp [htgt]

end

section
variable {kind : RuntimeTransportKind} {es : List Action} {w : Connection} {w' : Connection}
  {a : Action} {p : RuntimePacket} {u : Connection}

theorem run_due_eq (hwf : WellFormed u) (how : Owned s u)
    (hr : run step u es = some w) (halive : w.Alive) (hrel : w.Reliable s)
    (target : Option ChannelId) : due target s u es = due target s w [] := by
  induction es generalizing u with
  | nil =>
    rw [run_nil, Option.some.injEq] at hr
    rw [hr]
  | cons a es ih =>
    obtain ⟨v, hs, hr⟩ := run_cons_eq_some.mp hr
    have ht := step_transition hs
    have halive' := run_alive hr halive
    have hrel' := run_reliable hr hrel
    rw [(ht.sessionStep hwf halive' hrel' how).due_eq hwf hs]
    exact ih (ht.wellFormed hwf) (ht.owned hwf halive' hrel' how) hr

theorem run_received (hr : run step (.start kind) es = some w) (halive : w.Alive)
    (hrel : w.Reliable s) (target : Option ChannelId) :
    received target s w ++ held target s w [] = arrivalsAt target s (.start kind) es := by
  have hdue := run_due_eq (.start kind) (.start s kind) hr halive hrel target
  have hheld : held target s (.start kind) es = [] :=
    held_of_empty (by simp [start, pendingPackets])
  have hreceived : received target s (.start kind) = [] := by
    cases target with
    | none => rfl
    | some c => simp [received, start, packetsFor, packets]
  have hend : arrivalsAt target s w [] = [] := rfl
  rw [due, due, hheld, hreceived, hend] at hdue
  simpa using hdue.symm

theorem Transition.control_packets (ht : Transition w a w') (halive : w'.Alive)
    (hrel : w'.control.refused = []) : w'.control.packets.filter (fun p => p.sessionId = 0) =
      w.control.packets.filter (fun p => p.sessionId = 0) ++ controlArrivals [a] := by
  cases ht with
  | control p hrun hf hp =>
    cases ha : w.control.receiverAlive with
    | true => simp [packets_unboundedSend, ha, controlArrivals, arrival?]
    | false => simp [unboundedSend_dead, ha] at hrel
  | delivered p c hrun hf hp hs ha | deadReceiver p c hrun hf hp hs ha =>
    simp [controlArrivals, arrival?, hp]
  | buffered p pending hrun hf hp => simp [controlArrivals, arrival?, hp]
  | writeFailed | closeRefused | closeServed | controlGone | bufferFull | hangup =>
    exact absurd halive (not_alive_stop _)
  | readFailed | unknown => exact absurd halive.2 (by simp)
  | _ => simp [controlArrivals, arrival?]

theorem run_control_packets (hr : run step u es = some w) (halive : w.Alive)
    (hrel : w.control.refused = []) : w.control.packets.filter (fun p => p.sessionId = 0) =
      u.control.packets.filter (fun p => p.sessionId = 0) ++ controlArrivals es := by
  induction es generalizing u with
  | nil =>
    rw [run_nil, Option.some.injEq] at hr
    simp [hr, controlArrivals]
  | cons a es ih =>
    obtain ⟨v, hs, hr⟩ := run_cons_eq_some.mp hr
    have hback : v.control.refused = [] := by
      refine run_backward (fun v => v.control.refused = []) ?_ hrel hr
      intro v b v' hv hstep
      exact prefix_nil.mp (hv ▸ (step_transition hstep).control_extends.refused)
    have hcons : controlArrivals (a :: es) = controlArrivals [a] ++ controlArrivals es := by
      cases ha : arrival? a with
      | none => simp [controlArrivals, ha]
      | some p => simp [controlArrivals, ha, ← filter_append]
    rw [ih hr, (step_transition hs).control_packets (run_alive hr halive) hback, hcons,
      append_assoc]

@[simp] theorem Channel.packets_send_failed (c : Channel) (f : DriverFailure) :
    (c.unboundedSend (.failed f)).packets = c.packets := by
  cases ha : c.receiverAlive with
  | true => simp [unboundedSend_alive, ha, packets, DriverEvent.packet?]
  | false => simp [unboundedSend_dead, ha, packets]

@[simp] theorem sendAll_failed_packets (events : ChannelId → Channel) (f : DriverFailure)
    (cs : List ChannelId) (c : ChannelId) :
    (sendAll events (.failed f) cs c).packets = (events c).packets := by
  induction cs generalizing events with
  | nil => rfl
  | cons d cs ih =>
    rw [sendAll, foldl_cons, ← sendAll, ih]
    by_cases hc : c = d
    · subst hc
      simp
    · simp [hc]

theorem Connection.handOver_packets (w : Connection) (s : UInt32) (channel : Channel) :
    (w.handOver s channel).packets =
      channel.packets ++ if channel.receiverAlive then w.pendingPackets s else [] := by
  unfold handOver
  split
  · rw [packets_send_failed, packets_deliverPending]
    rfl
  · rw [packets_deliverPending]
    rfl

structure Addressed (w : Connection) : Prop where
  control : ∀ p ∈ w.control.packets, p.sessionId = 0 ∨ p.IsOpenAck
  events : ∀ c, ∀ p ∈ (w.events c).packets,
    p.sessionId = (w.handles c).sessionId ∧ p.sessionId ≠ 0

theorem Transition.mem_control_packets (ht : Transition w a w')
    (hp : p ∈ w'.control.packets) : p ∈ w.control.packets ∨ p.sessionId = 0 ∨ p.IsOpenAck := by
  cases ht with
  | control q hrun hf hq | controlGone q hrun hf hq =>
    rcases mem_packets_unboundedSend hp with hp | rfl
    · exact .inl hp
    · exact .inr (hq.imp_right And.left)
  | writeFailed | readFailed | bufferFull | unknown => exact .inl (by simpa using hp)
  | _ => exact .inl hp

theorem Transition.mem_packets (ht : Transition w a w') (hwf : WellFormed w) {c : ChannelId}
    (hp : p ∈ (w'.events c).packets) : p ∈ (w.events c).packets ∨
      c < w.channelCount ∧ p.sessionId = (w.handles c).sessionId ∧ p.sessionId ≠ 0 := by
  cases ht with
  | writeFailed | readFailed | bufferFull | unknown => exact .inl (by simpa using hp)
  | registerSession s hs =>
    by_cases hc : c = w.channelCount
    · subst hc
      simp [packets] at hp
    · exact .inl (by simpa [hc] using hp)
  | finishFailed d | dropRegister d | dropOpened d | dropClosed d =>
    by_cases hc : c = d
    · subst hc
      exact .inl (by simpa using hp)
    · exact .inl (by simpa [hc] using hp)
  | @registerVacant s d rest answer hrun hcmd hs =>
    by_cases hc : c = d
    · subst hc
      obtain ⟨hlt, hsid, -, -⟩ := hwf.queuedHandle s c (by simp [hcmd])
      simp only [answer_events, install_events, update_self, handOver_packets, mem_append] at hp
      rcases hp with hp | hp
      · exact .inl hp
      · split at hp
        · obtain ⟨hps, hne, -⟩ := hwf.mem_pendingPackets (w := w) hp
          exact .inr ⟨hlt, hps.trans hsid.symm, hps ▸ hne⟩
        · exact absurd hp (by simp)
    · exact .inl (by simpa [hc] using hp)
  | delivered q d hrun hf hq hs ha | deadReceiver q d hrun hf hq hs ha =>
    by_cases hc : c = d
    · subst hc
      obtain ⟨hlt, hsid⟩ := hwf.sessionHandle _ c hs
      simp only [removeSession_events, sendSession_events, noteOpenAck_events, update_self] at hp
      rcases mem_packets_unboundedSend hp with hp | rfl
      · exact .inl hp
      · exact .inr ⟨hlt, hsid.symm, hq⟩
    · exact .inl (by simpa [hc] using hp)
  | _ => exact .inl hp

theorem Transition.addressed (ht : Transition w a w') (hwf : WellFormed w) (h : Addressed w) :
    Addressed w' := by
  refine ⟨fun p hp => ?_, fun c p hp => ?_⟩
  · rcases ht.mem_control_packets hp with hp | hp
    · exact h.control p hp
    · exact hp
  · have hold : c < w.channelCount ∧ p.sessionId = (w.handles c).sessionId ∧ p.sessionId ≠ 0 := by
      rcases ht.mem_packets hwf hp with hp | hp
      · refine ⟨?_, h.events c p hp⟩
        by_contra hc
        simp [packets, hwf.freshChannel c (not_lt.mp hc)] at hp
      · exact hp
    rw [ht.sessionId_eq hold.1]
    exact hold.2

theorem run_addressed (hr : run step (.start kind) es = some w) : Addressed w := by
  have hstart : WellFormed (.start kind) ∧ Addressed (.start kind) := by
    refine ⟨.start kind, fun p hp => ?_, fun c p hp => ?_⟩
    all_goals simp [start, packets] at hp
  refine (run_induction (fun u => WellFormed u ∧ Addressed u) ?_ hstart hr).2
  rintro u a u' ⟨hwf, hu⟩ hs
  have ht := step_transition hs
  exact ⟨ht.wellFormed hwf, ht.addressed hwf hu⟩

/-- In every run that neither fails nor closes: the arrivals of a session whose channels refused
nothing are, in arrival order, in the receivers they are meant for, or in the buffer while they
have no receiver; no receiver holds a packet of another session; and the control receiver holds
the packets of session zero, in arrival order, and otherwise only acknowledgements of opens. -/
theorem routing_exact_and_ordered (kind : RuntimeTransportKind) (es : List Action)
    (hr : run step (.start kind) es = some w) (halive : w.Alive) : (∀ s, w.Reliable s →
      (∀ c, (w.events c).packetsFor s = arrivalsAt (some c) s (.start kind) es) ∧
      w.pendingPackets s = arrivalsAt none s (.start kind) es) ∧ (∀ c, ∀ p ∈ (w.events c).packets,
      p.sessionId = (w.handles c).sessionId ∧ p.sessionId ≠ 0) ∧ (w.control.refused = [] →
      w.control.packets.filter (fun p => p.sessionId = 0) = controlArrivals es) ∧
    ∀ p ∈ w.control.packets, p.sessionId = 0 ∨ p.IsOpenAck := by
  have hwf := run_wellFormed hr
  have haddr := run_addressed hr
  refine ⟨fun s hrel => ⟨fun c => ?_, ?_⟩, haddr.events, fun hrel => ?_, haddr.control⟩
  · have hheld : held (some c) s w [] = [] := by
      by_cases hc : w.sessions[s]? = some c
      · exact held_of_empty (hwf.pendingPackets_of_registered (by simp [hc]))
      · exact if_neg hc
    have hc := run_received hr halive hrel (some c)
    rwa [hheld, append_nil] at hc
  · have hheld : held none s w [] = w.pendingPackets s := by
      by_cases hc : w.sessions[s]? = none
      · exact if_pos hc
      · rw [hwf.pendingPackets_of_registered hc]
        exact if_neg hc
    have hs := run_received hr halive hrel none
    rwa [hheld] at hs
  · have hctl := run_control_packets hr halive hrel
    simpa [start, packets] using hctl

end

def openingRun : List Action :=
  [.incoming (.ok (.bare .sessionOpenAck 7 0)), .incoming (.ok (.bare .resultPush 7 1)),
    .callRegister 7, .incoming (.ok (.bare .transportProbe 0 0)), .command (.ok ()),
    .incoming (.ok (.bare .resultPush 7 2)), .finishRegister 0]

theorem routing_exact_and_ordered_opening :
    ∃ w, run step (.start .tcp) openingRun = some w ∧ w.Alive ∧ w.Reliable 7 ∧
      (w.events 0).packetsFor 7 = [.bare .resultPush 7 1, .bare .resultPush 7 2] := by
  refine ⟨_, rfl, by decide, by decide, ?_⟩
  have h := routing_exact_and_ordered .tcp openingRun rfl (by decide)
  exact ((h.1 7 (by decide)).1 0).trans (by decide)

end Nnrp.Multiplex
