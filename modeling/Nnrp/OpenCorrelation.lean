import Nnrp.OpenWire

/-!
# An open call and the answer to its own request

A call takes the next control packet for the answer to its request. If no call gets the open lock
after another one was dropped between its request and the answer to it, there is never more than
one request on its way (`Wire.single`), so the next control packet is the right one.
-/

namespace Nnrp.OpenCall
open Protocol ByteOrder Packet Session Lifecycle Hello Client LabelledRun List Option Fallible
open Multiplex (CallId DriverEvent DriverCommand)

variable {packet : RuntimePacket} {ticket : Option NnrpSessionRecoveryTicket}
  {cfg : NnrpClientConfig} {opened : Opened}

def helloCount (packets : List RuntimePacket) : ℕ :=
  packets.countP fun packet => packet.messageType = .clientHello

def HelloAccepted (request answer : RuntimePacket) : Prop :=
  ∀ hello, ClientHelloMetadata.parse request.metadata = .ok hello →
    request.messageType = .clientHello → acceptHelloAck hello answer = .ok ()

instance (request answer : RuntimePacket) : Decidable (HelloAccepted request answer) :=
  match h : ClientHelloMetadata.parse request.metadata with
  | .error _ => .isTrue fun hello hparse => by rw [h] at hparse; cases hparse
  | .ok hello =>
    decidable_of_iff (request.messageType = .clientHello → acceptHelloAck hello answer = .ok ())
      ⟨fun hack hello' hparse => by rw [h] at hparse; cases hparse; exact hack,
        fun hack => hack hello h⟩

def NoControl : Multiplex.Action → Prop
  | .incoming (.ok packet) => packet.sessionId ≠ 0 ∧ ¬packet.IsOpenAck
  | .incoming (.error _) | .callWrite _ | .callRegister _ | .callClose | .finishRegister _
  | .dropRegister _ | .sessionWrite .. | .closeTransport _ | .dropTransport _ | .dropConnection
  | .command _ | .hangup => True

instance instDecidableNoControl : ∀ a, Decidable (NoControl a)
  | .incoming (.ok _) => inferInstanceAs (Decidable (_ ∧ _))
  | .incoming (.error _) | .callWrite _ | .callRegister _ | .callClose | .finishRegister _
  | .dropRegister _ | .sessionWrite .. | .closeTransport _ | .dropTransport _ | .dropConnection
  | .command _ | .hangup => .isTrue trivial

namespace State

variable {w w' : State} {k m : OpenId}

variable (w)

def OwnAnswer (k : OpenId) (packet : RuntimePacket) : Prop :=
  ∃ (i : ℕ) (request : RuntimePacket), w.requests[i]? = some (k, request) ∧
    request.messageType = .sessionOpen ∧ w.written[i]? = some request ∧
    w.answers[i]? = some packet

def OwnSession (k : OpenId) (opened : Opened) : Prop :=
  ∃ packet, w.OwnAnswer k packet ∧ SessionOpenAckMetadata.parse packet.metadata = .ok opened.ack

def Quiet : Prop :=
  w.Settled ∧ (w.driver.Alive → w.hello = none → helloCount w.packets = 0)

def Greets (k : OpenId) (hello : ClientHelloMetadata) : Prop :=
  ∃ packet, w.requests.getLast? = some (k, packet) ∧ helloPacket hello = .ok packet

def Requests (k : OpenId) : Prop :=
  w.hello ≠ none ∧ ∃ packet, w.requests.getLast? = some (k, packet) ∧
    packet.messageType = .sessionOpen

/-- What is known about a call at each of its awaits. -/
def Tracked (k : OpenId) : Phase → Prop
  | .waiting | .dropped | .finished (.error _) => True
  | .locked => w.Quiet
  | .greeting id hello => w.Greets k hello ∧ w.PendingWrite id
  | .greeted hello => w.Greets k hello ∧ w.AllWritten
  | .ready => w.Settled ∧ w.hello ≠ none
  | .requesting id _ => w.Requests k ∧ w.PendingWrite id
  | .requested _ => w.Requests k ∧ w.AllWritten
  | .acknowledged _ packet => w.Settled ∧ w.hello ≠ none ∧ w.OwnAnswer k packet
  | .registering _ opened => w.Settled ∧ w.hello ≠ none ∧ w.OwnSession k opened
  | .finished (.ok opened) => w.OwnSession k opened

structure Correlated : Prop where
  wire : Wire w
  fresh : ∀ k, w.callCount ≤ k → w.phase k = .dropped
  lock : ∀ k, (w.phase k).Holds ↔ w.openLock = some k
  abandoned : w.abandoned = true → w.openLock = none
  idle : w.openLock = none → w.abandoned = false → w.Quiet
  tracked : ∀ k, w.Tracked k (w.phase k)
  helloWritten : helloCount w.written ≤ 1
  helloQueued : w.driver.Alive → helloCount w.packets ≤ 1
  helloAnswered : ∀ (i : ℕ) (request answer : RuntimePacket), w.written[i]? = some request →
    w.answers[i]? = some answer → HelloAccepted request answer

variable {w} {p : Phase}

theorem lookup_of_prefix {α : Type} {l l' : List α} (h : l <+: l') {i : ℕ} {a : α}
    (hi : l[i]? = some a) : l'[i]? = some a := by
  obtain ⟨hlt, rfl⟩ := List.getElem?_eq_some_iff.mp hi
  exact List.prefix_iff_getElem?.mp h i hlt

theorem OwnAnswer.mono (h : w.OwnAnswer k packet)
    (hreqs : w.requests <+: w'.requests) (hwritten : w.written <+: w'.written)
    (hanswers : w.answers <+: w'.answers) : w'.OwnAnswer k packet := by
  obtain ⟨i, req, hi, htype, hwi, hai⟩ := h
  exact ⟨i, req, lookup_of_prefix hreqs hi, htype, lookup_of_prefix hwritten hwi,
    lookup_of_prefix hanswers hai⟩

theorem quiet_of_dead (h : ¬w.driver.Alive) : w.Quiet :=
  ⟨fun ha => absurd ha h, fun ha => absurd ha h⟩

theorem quiet_of_tracked (h : w.Tracked k (w.phase k)) (hp : (w.phase k).Holds)
    (hx : ¬(w.phase k).Exposed) : w.Quiet := by
  cases hphase : w.phase k with
  | waiting | finished | dropped =>
    rw [hphase] at hp
    exact hp.elim
  | greeting | greeted | requesting | requested =>
    rw [hphase] at hx
    exact absurd trivial hx
  | locked =>
    rw [hphase] at h
    exact h
  | ready =>
    rw [hphase] at h
    exact ⟨h.1, fun _ hnone => absurd hnone h.2⟩
  | acknowledged | registering =>
    rw [hphase] at h
    exact ⟨h.1, fun _ hnone => absurd hnone h.2.1⟩

theorem Tracked.of_not_holds (h : w.Tracked k p) (hp : ¬p.Holds)
    (hreqs : w.requests <+: w'.requests) (hwritten : w.written <+: w'.written)
    (hanswers : w.answers <+: w'.answers) : w'.Tracked k p := by
  cases p with
  | waiting | dropped => trivial
  | finished result =>
    cases result with
    | error => trivial
    | ok opened =>
      obtain ⟨packet, hown, hparse⟩ := h
      exact ⟨packet, hown.mono hreqs hwritten hanswers, hparse⟩
  | locked | greeting | greeted | ready | requesting | requested | acknowledged | registering =>
    exact absurd trivial hp

structure SameWire (w w' : State) : Prop where
  driver : w'.driver = w.driver
  controlRead : w'.controlRead = w.controlRead
  hello : w'.hello = w.hello
  network : w'.network = w.network
  requests : w'.requests = w.requests
  answers : w'.answers = w.answers

namespace SameWire

variable (s : SameWire w w')
include s

theorem eq : w' = { w with
    lifecycle := w'.lifecycle, openLock := w'.openLock, calls := w'.calls
    callCount := w'.callCount, abandoned := w'.abandoned } := by
  rw [← s.driver, ← s.controlRead, ← s.hello, ← s.network, ← s.requests, ← s.answers]

theorem written : w'.written = w.written := by
  rw [State.written, s.driver, State.written]

theorem wire (h : Wire w) : Wire w' := by
  rw [s.eq]
  exact { h with }

theorem quiet (h : w.Quiet) : w'.Quiet := by
  rw [s.eq]
  exact h

theorem tracked {p : Phase} (h : w.Tracked k p) : w'.Tracked k p := by
  rw [s.eq]
  exact h

end SameWire

theorem setPhase_phase : (w.setPhase k p).phase m = if m = k then p else w.phase m := by
  by_cases hm : m = k <;> simp [phase, hm]

theorem takeControl_phase : w.takeControl.phase k = w.phase k := rfl

theorem setDriver_phase {driver : Multiplex.Connection} :
    (w.setDriver driver).phase k = w.phase k := rfl

structure Progress (w w' : State) : Prop where
  requests : w'.requests = w.requests
  hello : w'.hello = w.hello
  answers : w.answers <+: w'.answers
  written : w.written <+: w'.written
  alive : w'.driver.Alive → w.driver.Alive
  settled : w.Settled → w'.Settled
  allWritten : w.AllWritten → w'.AllWritten
  pending : ∀ {id}, w.PendingWrite id → w'.PendingWrite id

namespace Progress

variable (hp : Progress w w')
include hp

theorem quiet (h : w.Quiet) : w'.Quiet := by
  refine ⟨hp.settled h.1, fun ha hnone => ?_⟩
  rw [packets, hp.requests]
  exact h.2 (hp.alive ha) (hp.hello ▸ hnone)

theorem ownAnswer (h : w.OwnAnswer k packet) : w'.OwnAnswer k packet :=
  h.mono (hp.requests ▸ prefix_rfl) hp.written hp.answers

theorem ownSession (h : w.OwnSession k opened) : w'.OwnSession k opened := by
  obtain ⟨packet, hown, hparse⟩ := h
  exact ⟨packet, hp.ownAnswer hown, hparse⟩

theorem tracked {p : Phase} (h : w.Tracked k p) : w'.Tracked k p := by
  have hgreets : ∀ {hello}, w.Greets k hello → w'.Greets k hello := by
    intro hello hg
    rw [Greets, hp.requests]
    exact hg
  have hreqs : w.Requests k → w'.Requests k := by
    intro hr
    rw [Requests, hp.requests, hp.hello]
    exact hr
  have hknown : w.hello ≠ none → w'.hello ≠ none := fun hne => hp.hello ▸ hne
  cases p with
  | waiting | dropped => trivial
  | locked => exact hp.quiet h
  | greeting id hello => exact ⟨hgreets h.1, hp.pending h.2⟩
  | greeted hello => exact ⟨hgreets h.1, hp.allWritten h.2⟩
  | ready => exact ⟨hp.settled h.1, hknown h.2⟩
  | requesting id req => exact ⟨hreqs h.1, hp.pending h.2⟩
  | requested req => exact ⟨hreqs h.1, hp.allWritten h.2⟩
  | acknowledged req packet => exact ⟨hp.settled h.1, hknown h.2.1, hp.ownAnswer h.2.2⟩
  | registering c opened => exact ⟨hp.settled h.1, hknown h.2.1, hp.ownSession h.2.2⟩
  | finished result =>
    cases result with
    | error e => trivial
    | ok opened => exact hp.ownSession h

end Progress

namespace Correlated

variable {p : Phase} {driver : Multiplex.Connection} {ev : DriverEvent}

section
variable (h : Correlated w)
include h

theorem not_holds (hk : (w.phase k).Holds) (hm : m ≠ k) : ¬(w.phase m).Holds := by
  intro hholds
  have hlock := (h.lock m).mp hholds
  rw [(h.lock k).mp hk] at hlock
  exact hm (some.inj hlock).symm

theorem lt_callCount (hk : w.phase k ≠ .dropped) : k < w.callCount := by
  by_contra hle
  exact hk (h.fresh k (Nat.le_of_not_lt hle))

theorem of_sameWire (s : SameWire w w') (hfresh : ∀ k, w'.callCount ≤ k → w'.phase k = .dropped)
    (hlock : ∀ k, (w'.phase k).Holds ↔ w'.openLock = some k)
    (habandoned : w'.abandoned = true → w'.openLock = none)
    (hidle : w'.openLock = none → w'.abandoned = false → w.Quiet)
    (htracked : ∀ k, w.Tracked k (w'.phase k)) : Correlated w' where
  wire := s.wire h.wire
  fresh := hfresh
  lock := hlock
  abandoned := habandoned
  idle hl ha := s.quiet (hidle hl ha)
  tracked k := s.tracked (htracked k)
  helloWritten := s.written ▸ h.helloWritten
  helloQueued ha := by
    rw [packets, s.requests]
    exact h.helloQueued (s.driver ▸ ha)
  helloAnswered i req answer hw ha :=
    h.helloAnswered i req answer (s.written ▸ hw) (s.answers ▸ ha)

theorem of_phase (s : SameWire w w')
    (hphase : ∀ m, w'.phase m = (w.setPhase k p).phase m) (hcount : w'.callCount = w.callCount)
    (hk : k < w.callCount) (hself : p.Holds ↔ w'.openLock = some k)
    (hother : ∀ m, m ≠ k → ((w.phase m).Holds ↔ w'.openLock = some m))
    (habandoned : w'.abandoned = true → w'.openLock = none)
    (hidle : w'.openLock = none → w'.abandoned = false → w.Quiet) (ht : w.Tracked k p) :
    Correlated w' := by
  refine h.of_sameWire s ?_ ?_ habandoned hidle ?_
  · intro m hm
    rw [hcount] at hm
    have hne : m ≠ k := (hk.trans_le hm).ne'
    rw [hphase, setPhase_phase, if_neg hne]
    exact h.fresh m hm
  · intro m
    rw [hphase, setPhase_phase]
    split_ifs with hm
    · exact hm ▸ hself
    · exact hother m hm
  · intro m
    rw [hphase, setPhase_phase]
    split_ifs with hm
    · exact hm ▸ ht
    · exact h.tracked m

theorem lt_of_holds (hp : (w.phase k).Holds) : k < w.callCount := by
  apply h.lt_callCount
  intro hdropped
  rw [hdropped] at hp
  exact hp

theorem move (hp : (w.phase k).Holds) (hp' : p.Holds) (ht : w.Tracked k p) :
    Correlated (w.setPhase k p) :=
  h.of_phase ⟨rfl, rfl, rfl, rfl, rfl, rfl⟩ (fun _ => rfl) rfl (h.lt_of_holds hp)
    ⟨fun _ => (h.lock k).mp hp, fun _ => hp'⟩ (fun m _ => h.lock m) h.abandoned h.idle ht

theorem leave (hp : (w.phase k).Holds) (hp' : ¬p.Holds) (hquiet : w.Quiet)
    (ht : w.Tracked k p) : Correlated (w.setPhase k p).release :=
  h.of_phase ⟨rfl, rfl, rfl, rfl, rfl, rfl⟩ (fun _ => rfl) rfl (h.lt_of_holds hp)
    ⟨fun hholds => absurd hholds hp', nofun⟩
    (fun _ hm => ⟨fun hholds => absurd hholds (h.not_holds hp hm), nofun⟩) (fun _ => rfl)
    (fun _ _ => hquiet) ht

theorem abandon (hp : (w.phase k).Holds) : Correlated (w.dropCall k).abandon :=
  h.of_phase ⟨rfl, rfl, rfl, rfl, rfl, rfl⟩ (fun _ => rfl) rfl (h.lt_of_holds hp)
    ⟨fun hholds => hholds.elim, nofun⟩
    (fun _ hm => ⟨fun hholds => absurd hholds (h.not_holds hp hm), nofun⟩) (fun _ => rfl)
    (fun _ ha => nomatch ha) trivial

theorem acquire (hp : w.phase k = .waiting) (hl : w.openLock = none)
    (ha : w.abandoned = false) : Correlated (w.acquire k) := by
  refine h.of_phase ⟨rfl, rfl, rfl, rfl, rfl, rfl⟩ (fun _ => rfl) rfl
    (h.lt_callCount (by simp [hp])) ⟨fun _ => rfl, fun _ => trivial⟩ ?_ ?_ nofun (h.idle hl ha)
  · intro m hm
    have hlock := h.lock m
    rw [hl] at hlock
    exact ⟨fun hholds => (nomatch hlock.mp hholds), fun hs => absurd (some.inj hs).symm hm⟩
  · intro hab
    rw [acquire_abandoned, setPhase_abandoned, ha] at hab
    cases hab

theorem dropWaiting (hp : w.phase k = .waiting) : Correlated (w.setPhase k .dropped) := by
  have hlock := h.lock k
  rw [hp] at hlock
  exact h.of_phase ⟨rfl, rfl, rfl, rfl, rfl, rfl⟩ (fun _ => rfl) rfl
    (h.lt_callCount (by simp [hp])) hlock (fun m _ => h.lock m) h.abandoned h.idle trivial

theorem addCall
    : Correlated (w.addCall cfg ticket) := by
  have hphase : ∀ m, (w.addCall cfg ticket).phase m =
      if m = w.callCount then .waiting else w.phase m := by
    intro m
    by_cases hm : m = w.callCount <;> simp [phase, hm]
  have hnew : w.phase w.callCount = .dropped := h.fresh _ le_rfl
  refine h.of_sameWire ⟨rfl, rfl, rfl, rfl, rfl, rfl⟩ ?_ ?_ h.abandoned h.idle ?_
  · intro m hm
    rw [addCall_callCount] at hm
    have hlt : w.callCount < m := Nat.lt_of_succ_le hm
    rw [hphase, if_neg hlt.ne']
    exact h.fresh m hlt.le
  · intro m
    rw [hphase]
    split_ifs with hm
    · subst hm
      have hlock := h.lock w.callCount
      rw [hnew] at hlock
      exact ⟨fun hholds => hholds.elim, fun hl => (hlock.mpr hl).elim⟩
    · exact h.lock m
  · intro m
    rw [hphase]
    split_ifs
    · trivial
    · exact h.tracked m

end

theorem of_progress (h : Correlated w) (hp : Progress w w') (hwire : Wire w')
    (hcalls : w'.calls = w.calls) (hcount : w'.callCount = w.callCount)
    (hlock : w'.openLock = w.openLock) (habandoned : w'.abandoned = w.abandoned)
    (hhello : helloCount w'.written ≤ 1)
    (hanswered : ∀ (i : ℕ) (req ans : RuntimePacket), w'.written[i]? = some req →
      w'.answers[i]? = some ans → HelloAccepted req ans) : Correlated w' := by
  have hphase : ∀ k, w'.phase k = w.phase k := fun k => by rw [phase, hcalls]
  refine ⟨hwire, ?_, ?_, ?_, ?_, ?_, hhello, ?_, hanswered⟩
  · intro k hk
    rw [hphase]
    exact h.fresh k (hcount ▸ hk)
  · intro k
    rw [hphase, hlock]
    exact h.lock k
  · rw [habandoned, hlock]
    exact h.abandoned
  · rw [habandoned, hlock]
    exact fun hl ha => hp.quiet (h.idle hl ha)
  · intro k
    rw [hphase]
    exact hp.tracked (h.tracked k)
  · intro ha
    rw [packets, hp.requests]
    exact h.helloQueued (hp.alive ha)

variable {a : Multiplex.Action}

theorem driver_step (h : Correlated w) (network : List RuntimePacket)
    (ht : Multiplex.Transition w.driver a driver) (hneutral : Neutral a)
    (hbacklog : { w with driver := driver, network := network }.backlog <:+ w.backlog) :
    Correlated { w with driver := driver, network := network } := by
  let w' : State := { w with driver := driver, network := network }
  have halive : w'.driver.Alive → w.driver.Alive := ht.alive
  have hflow : RequestFlow w w' := ht.writeFlow.flow hneutral.not_queues
  have hctl := ht.controlFlow hneutral.ne_dropConnection h.wire.receiver
  have hwire : Wire w' := by
    refine h.wire.of_flow hflow halive rfl rfl hbacklog (ht.callsWellFormed h.wire.driver) ?_ ?_ ?_
    · cases hctl with
      | silent hc => exact hc ▸ h.wire.receiver
      | packet _ _ ha | failed _ _ ha => exact ha
    · intro ha f
      have hhealthy := h.wire.healthy (halive ha) f
      cases hctl with
      | silent hc => exact hc ▸ hhealthy
      | packet _ hc _ =>
        rw [hc]
        simpa using hhealthy
      | failed hdead _ _ => exact absurd ha hdead
    · have hle := h.wire.controlRead_le
      cases hctl with
      | silent hc => exact hc ▸ hle
      | packet _ hc _ | failed _ hc _ =>
        rw [hc, List.length_append]
        exact hle.trans (Nat.le_add_right _ _)
  have hprog : Progress w w' :=
    { requests := rfl
      hello := rfl
      answers := List.prefix_rfl
      written := hflow.written_extends
      alive := halive
      settled := fun hs => hs.of_flow hflow halive rfl hbacklog
      allWritten := fun hall => hall.mono hflow.written_extends hwire rfl
      pending := fun hpend => hpend.step h.wire hwire ht hflow rfl }
  refine h.of_progress hprog hwire rfl rfl rfl rfl ?_ ?_
  · -- a hello can only be written while the driver is alive, and then only one was queued
    have hsent : w.driver.Alive → helloCount w'.written ≤ 1 := fun ha =>
      hwire.written_packets.countP_le.trans (h.helloQueued ha)
    cases hflow with
    | wrote ha _ _ | wroteLast ha _ _ _ => exact hsent ha
    | ended _ hw | kept _ hw => exact hw ▸ h.helloWritten
  · intro i req ans hw ha
    refine h.helloAnswered i req ans ?_ ha
    have hi : i < w.written.length :=
      (List.getElem?_eq_some_iff.mp ha).1.trans_le h.wire.answered
    have hold := lookup_of_prefix hflow.written_extends (List.getElem?_eq_getElem hi)
    rw [hold] at hw
    rw [List.getElem?_eq_getElem hi]
    exact hw

variable {req : RuntimePacket}

theorem answer (h : Correlated w)
    (hr : w.written[w.answers.length]? = some req) (hvalid : HelloAccepted req packet) :
    Correlated { w with answers := w.answers ++ [packet], network := w.network ++ [packet] } := by
  let w' : State := { w with answers := w.answers ++ [packet], network := w.network ++ [packet] }
  obtain ⟨hlt, hget⟩ := List.getElem?_eq_some_iff.mp hr
  have hbacklog : w'.backlog = w.backlog ++ [packet] := by
    rw [backlog, backlog, List.append_assoc]
    rfl
  have hwire : Wire w' := by
    have hsingle := h.wire.single
    refine ⟨h.wire.driver, h.wire.receiver, h.wire.healthy, h.wire.controlRead_le,
      h.wire.written_packets, h.wire.alive_packets, ?_, ?_, ?_, fun ha => ?_⟩
    · rw [List.length_append, List.length_singleton]
      exact hlt
    · rw [hbacklog]
      obtain ⟨before, hbefore⟩ := h.wire.backlog_answers
      exact ⟨before, by rw [← List.append_assoc, hbefore]⟩
    · rw [hbacklog, List.length_append, List.length_append, List.length_singleton]
      exact Nat.add_le_add_right hsingle 1
    · have halive := h.wire.alive_single ha
      rw [hbacklog, List.length_append, List.length_append, List.length_singleton]
      exact Nat.add_le_add_right halive 1
  have hprog : Progress w w' :=
    { requests := rfl
      hello := rfl
      answers := List.prefix_append _ _
      written := List.prefix_rfl
      alive := id
      settled := fun hs ha => by
        have hle := hs ha
        omega
      allWritten := id
      pending := id }
  refine h.of_progress hprog hwire rfl rfl rfl rfl h.helloWritten ?_
  intro i req' ans hw ha
  rw [List.getElem?_append] at ha
  split_ifs at ha with hi
  · exact h.helloAnswered i req' ans hw ha
  · obtain ⟨hzero, rfl⟩ : i - w.answers.length = 0 ∧ packet = ans := by
      simpa [List.getElem?_singleton] using ha
    have hieq : i = w.answers.length := by omega
    subst hieq
    have hsame : req' = req := some.inj (hw.symm.trans hr)
    exact hsame ▸ hvalid

theorem unread_append (w' : State) (hle : w.controlRead ≤ w.driver.control.sent.length)
    (hread : w'.controlRead = w.controlRead)
    (hc : w'.driver.control.sent = w.driver.control.sent ++ [ev]) :
    w'.unread = w.unread ++ ev.packet?.toList := by
  rw [unread, unread, hc, hread, drop_append_of_le_length hle, filterMap_append]
  cases ev <;> rfl

theorem unread_takeControl (hs : w.driver.control.sent[w.controlRead]? = some ev) :
    w.unread = ev.packet?.toList ++ w.takeControl.unread := by
  obtain ⟨hlt, hget⟩ := List.getElem?_eq_some_iff.mp hs
  rw [unread, List.drop_eq_getElem_cons hlt, hget]
  cases ev <;> rfl

section
variable (h : Correlated w)
include h

theorem driver_quiet
    (ht : Multiplex.Transition w.driver a driver) (hneutral : Neutral a) (hctl : NoControl a) :
    Correlated (w.setDriver driver) := by
  have hunread : (w.setDriver driver).unread = w.unread := by
    cases ht.controlFlow hneutral.ne_dropConnection h.wire.receiver with
    | silent hc => rw [unread, setDriver_driver, hc, setDriver_controlRead, unread]
    | packet hp _ _ => exact absurd hp (not_or.mpr hctl)
    | failed _ hc _ =>
      rw [unread_append (w.setDriver driver) h.wire.controlRead_le rfl hc]
      exact append_nil _
  refine h.driver_step w.network ht hneutral ?_
  have hbacklog : (w.setDriver driver).backlog = w.backlog := by
    rw [backlog, hunread, backlog, setDriver_network]
  exact hbacklog ▸ suffix_rfl

theorem deliver {rest : List RuntimePacket} (hn : w.network = packet :: rest)
    (ht : Multiplex.Transition w.driver (.incoming (.ok packet)) driver) :
    Correlated { w with driver := driver, network := rest } := by
  refine h.driver_step rest ht trivial ?_
  have hone := h.wire.backlog_le_one
  rw [backlog, hn, length_append, length_cons] at hone
  have hunread : w.unread = [] := length_eq_zero_iff.mp (by omega)
  have hrest : rest = [] := length_eq_zero_iff.mp (by omega)
  cases ht.controlFlow (Neutral.ne_dropConnection trivial) h.wire.receiver with
  | silent hc =>
    have hlost : { w with driver := driver, network := rest }.unread = w.unread := by
      rw [unread, hc, unread]
    rw [backlog, hlost, hunread, hrest]
    exact nil_suffix
  | packet _ hc _ =>
    have hgot := unread_append { w with driver := driver, network := rest }
      h.wire.controlRead_le rfl hc
    rw [backlog, hgot, backlog, hn, append_assoc]
    exact suffix_rfl
  | failed _ hc _ =>
    have hlost := unread_append { w with driver := driver, network := rest }
      h.wire.controlRead_le rfl hc
    rw [backlog, hlost, hunread, hrest]
    exact nil_suffix

theorem takeControl (hs : w.driver.control.sent[w.controlRead]? = some ev) :
    Correlated w.takeControl := by
  have hbacklog : w.takeControl.backlog <:+ w.backlog := by
    rw [backlog, backlog, unread_takeControl hs, List.append_assoc]
    exact List.suffix_append _ _
  have hread : w.takeControl.controlRead ≤ w.takeControl.driver.control.sent.length :=
    (List.getElem?_eq_some_iff.mp hs).1
  have hflow : RequestFlow w w.takeControl := .kept rfl rfl
  have hprog : Progress w w.takeControl :=
    { requests := rfl
      hello := rfl
      answers := List.prefix_rfl
      written := List.prefix_rfl
      alive := id
      settled := fun hsettled => hsettled.of_flow hflow id rfl hbacklog
      allWritten := id
      pending := id }
  exact h.of_progress hprog (h.wire.of_flow hflow id rfl rfl hbacklog h.wire.driver
    h.wire.receiver h.wire.healthy hread) rfl rfl rfl rfl h.helloWritten h.helloAnswered

variable (hs : w.driver.control.sent[w.controlRead]? = some (.packet packet))
include hs

theorem backlog_of_packet : w.backlog = [packet] ∧ w.takeControl.backlog = [] := by
  have hone := h.wire.backlog_le_one
  have hcons : w.backlog = packet :: w.takeControl.backlog := by
    rw [backlog, unread_takeControl hs]
    rfl
  rw [hcons, length_cons] at hone
  have hnil : w.takeControl.backlog = [] := length_eq_zero_iff.mp (by omega)
  exact ⟨by rw [hcons, hnil], hnil⟩

theorem takeControl_settled : w.takeControl.Settled := by
  intro ha
  obtain ⟨hone, hnil⟩ := h.backlog_of_packet hs
  have hsingle := h.wire.alive_single ha
  rw [hone, length_singleton] at hsingle
  rw [hnil, length_nil]
  exact Nat.le_of_add_le_add_right hsingle

theorem answer_of_packet (hlast : w.requests.getLast? = some (k, req)) (hall : w.AllWritten) :
    w.requests[w.requests.length - 1]? = some (k, req) ∧
      w.written[w.requests.length - 1]? = some req ∧
      w.answers[w.requests.length - 1]? = some packet := by
  have hone := (h.backlog_of_packet hs).1
  have hsingle := h.wire.single
  have hanswered := h.wire.answered
  have hsuffix := h.wire.backlog_answers
  rw [hone] at hsingle hsuffix
  rw [length_singleton] at hsingle
  have hlen : w.answers.length = w.requests.length := by
    rw [AllWritten] at hall
    omega
  have hwritten : w.written = w.packets := by
    apply h.wire.written_packets.eq_of_length
    rw [packets, length_map]
    exact hall
  rw [getLast?_eq_getElem?] at hlast
  refine ⟨hlast, ?_, ?_⟩
  · rw [hwritten, packets, getElem?_map, hlast]
    rfl
  · obtain ⟨before, hbefore⟩ := hsuffix
    rw [← hlen, ← getLast?_eq_getElem?, ← hbefore]
    exact getLast?_concat

end

theorem advance (h : Correlated w) (hp : (w.phase k).Holds) (hp' : p.Holds)
    (hphase : ∀ m, w'.phase m = (w.setPhase k p).phase m) (hcount : w'.callCount = w.callCount)
    (hlock : w'.openLock = w.openLock) (habandoned : w'.abandoned = w.abandoned)
    (hreqs : w.requests <+: w'.requests) (hwritten : w'.written = w.written)
    (hanswers : w'.answers = w.answers) (hwire : Wire w') (ht : w'.Tracked k p)
    (hhello : w'.driver.Alive → helloCount w'.packets ≤ 1) : Correlated w' := by
  have hk := (h.lock k).mp hp
  refine ⟨hwire, ?_, ?_, ?_, ?_, ?_, hwritten ▸ h.helloWritten, hhello, ?_⟩
  · intro m hm
    rw [hcount] at hm
    rw [hphase, setPhase_phase, if_neg ((h.lt_of_holds hp).trans_le hm).ne']
    exact h.fresh m hm
  · intro m
    rw [hphase, setPhase_phase, hlock]
    split_ifs with hm
    · exact ⟨fun _ => hm ▸ hk, fun _ => hp'⟩
    · exact h.lock m
  · rw [habandoned, hlock]
    exact h.abandoned
  · intro hl
    rw [hlock, hk] at hl
    cases hl
  · intro m
    rw [hphase, setPhase_phase]
    split_ifs with hm
    · exact hm ▸ ht
    · exact (h.tracked m).of_not_holds (h.not_holds hp hm) hreqs
        (hwritten ▸ prefix_rfl) (hanswers ▸ prefix_rfl)
  · intro i req ans hw ha
    exact h.helloAnswered i req ans (hwritten ▸ hw) (hanswers ▸ ha)

variable {phase : CallId → Phase}

theorem queueRequest_wire (h : Wire w) (hrun : w.driver.running = true)
    (hpkt : IsRequest packet) (hsettled : w.Settled) : Wire (w.queueRequest k packet phase) := by
  have hqueued : (w.queueRequest k packet phase).queued = w.queued ++ [packet] := by
    have hq := Multiplex.queuedWrites_push (w := w.driver) (.write packet w.driver.callCount)
    rw [queued, queueRequest_driver, Multiplex.Connection.queuedWrites,
      Multiplex.Connection.request_commands, hq, if_pos hrun, filter_append, queued]
    simp [DriverCommand.packet?, hpkt]
  have hpkts : (w.queueRequest k packet phase).packets = w.packets ++ [packet] := by
    simp [packets]
  refine ⟨(Multiplex.Transition.callWrite packet).callsWellFormed h.driver, h.receiver,
    h.healthy, h.controlRead_le, ?_, fun ha => ?_, h.answered, h.backlog_answers, h.single,
    fun ha => ?_⟩
  · rw [hpkts]
    exact h.written_packets.trans (prefix_append _ _)
  · rw [hpkts, hqueued, ← append_assoc]
    exact congrArg (· ++ [packet]) (h.alive_packets ha)
  · have hle := hsettled ha
    rw [hqueued, length_append, length_singleton]
    change w.queued.length + 1 + w.written.length + w.backlog.length ≤ w.answers.length + 1
    omega

theorem queueRequest (h : Correlated w)
    (hp : (w.phase k).Holds) (hp' : ∀ id, (phase id).Holds) (hrun : w.driver.running = true)
    (hpkt : IsRequest packet) (hsettled : w.Settled)
    (hhello : w.driver.Alive → helloCount (w.packets ++ [packet]) ≤ 1)
    (ht : (w.queueRequest k packet phase).PendingWrite w.driver.callCount →
      (w.queueRequest k packet phase).Tracked k (phase w.driver.callCount)) :
    Correlated (w.queueRequest k packet phase) := by
  refine h.advance hp (hp' _) (fun _ => rfl) rfl rfl rfl (prefix_append _ _) rfl rfl
    (queueRequest_wire h.wire hrun hpkt hsettled) (ht (.request hrun hpkt))
    fun ha => ?_
  have hpkts : (w.queueRequest k packet phase).packets = w.packets ++ [packet] := by
    simp [packets]
  rw [hpkts]
  exact hhello ha

end Correlated

end State

theorem helloPacket_ok {hello : ClientHelloMetadata} (h : helloPacket hello = .ok packet) :
    packet.messageType = .clientHello ∧ ClientHelloMetadata.parse packet.metadata = .ok hello := by
  simp only [helloPacket] at h
  obtain ⟨m, hbytes, h⟩ := bind_eq_ok.mp h
  obtain ⟨hmeta, -, htype, -⟩ := RuntimePacket.new_ok (liftNnrp_eq_ok.mp h)
  refine ⟨htype, ?_⟩
  rw [hmeta]
  exact ClientHelloMetadata.codec.parses (liftNnrp_eq_ok.mp hbytes)

variable {md : SessionOpenMetadata}

theorem openRequest_ok {call : Call}
    (h : State.openRequest call = .ok (md, packet)) : packet.messageType = .sessionOpen := by
  simp only [State.openRequest] at h
  obtain ⟨_, -, h⟩ := bind_eq_ok.mp h
  obtain ⟨p', hpkt, h⟩ := bind_eq_ok.mp h
  cases h
  simp only [openPacket] at hpkt
  obtain ⟨_, -, hpkt⟩ := bind_eq_ok.mp hpkt
  exact (RuntimePacket.new_ok (liftNnrp_eq_ok.mp hpkt)).2.2.1

theorem acceptOpenAck_ok {life : ConnectionLifecycle}
    (h : acceptOpenAck cfg md ticket life packet = .ok opened) :
    SessionOpenAckMetadata.parse packet.metadata = .ok opened.ack := by
  simp only [acceptOpenAck] at h
  split_ifs at h
  · cases h
  · obtain ⟨ack, hparse, h⟩ := bind_eq_ok.mp h
    obtain ⟨_, -, h⟩ := bind_eq_ok.mp h
    obtain ⟨_, -, h⟩ := bind_eq_ok.mp h
    cases h
    exact liftNnrp_eq_ok.mp hparse

/-- No call gets the lock after another was dropped between its request and the answer, the server
accepts the hello in terms the client accepts, and it sends no control packet but its answers. -/
def Attended (w : State) : Event → Prop
  | .acquire _ => w.abandoned = false
  | .answer packet => ∀ request ∈ w.written[w.answers.length]?, HelloAccepted request packet
  | .background action => NoControl action
  | .openSession _ | .resumeSession .. | .greet _ | .request _ | .confirm _ | .read _ | .install _
  | .finishRegister _ | .drop _ | .deliver => True

open State in
theorem Transition.correlated {w w' : State} {e : Event} (ht : Transition w e w')
    (hgood : Attended w e)
    (h : Correlated w) : Correlated w' := by
  have hlife : ∀ life, Correlated { w with lifecycle := life } := fun life =>
    h.of_sameWire ⟨rfl, rfl, rfl, rfl, rfl, rfl⟩ h.fresh h.lock h.abandoned h.idle h.tracked
  have htracked : ∀ {k p}, w.phase k = p → w.Tracked k p := fun hp => hp ▸ h.tracked _
  cases ht with
  | addCall => exact h.addCall
  | acquire hp hl => exact h.acquire hp hl hgood
  | fail hp hx =>
    have hquiet := quiet_of_tracked (h.tracked _) hp hx
    exact (hlife _).leave hp id hquiet trivial
  | known hp hh =>
    have hquiet : w.Quiet := htracked hp
    exact h.move (by rw [hp]; trivial) trivial ⟨hquiet.1, by simp [hh]⟩
  | @greet k hello packet hp hh hpkt hrun =>
    have hquiet : w.Quiet := htracked hp
    have htype := (helloPacket_ok hpkt).1
    refine h.queueRequest (by rw [hp]; trivial) (fun _ => trivial) hrun (.inl htype) hquiet.1 ?_ ?_
    · intro ha
      rw [helloCount, countP_append, ← helloCount, hquiet.2 ha hh]
      simp [htype]
    · intro hpend
      exact ⟨⟨packet, by simp, hpkt⟩, hpend⟩
  | @request k md packet hp hpkt hrun =>
    obtain ⟨hsettled, hhello⟩ : w.Settled ∧ w.hello ≠ none := htracked hp
    have htype := openRequest_ok hpkt
    refine h.queueRequest (by rw [hp]; trivial) (fun _ => trivial) hrun (.inr htype) hsettled ?_ ?_
    · intro ha
      have hle := h.helloQueued ha
      rw [helloCount, countP_append, ← helloCount]
      simpa [htype] using hle
    · intro hpend
      exact ⟨⟨hhello, packet, by simp, htype⟩, hpend⟩
  | @greeted k id hello hp hc =>
    obtain ⟨hgreets, hpend⟩ : w.Greets k hello ∧ w.PendingWrite id := htracked hp
    exact h.move (by rw [hp]; trivial) trivial ⟨hgreets, hpend.of_ok h.wire.driver hc⟩
  | @requested k id req hp hc =>
    obtain ⟨hreqs, hpend⟩ : w.Requests k ∧ w.PendingWrite id := htracked hp
    exact h.move (by rw [hp]; trivial) trivial ⟨hreqs, hpend.of_ok h.wire.driver hc⟩
  | @writeFailed k id error hp hw hc =>
    have hpend : w.PendingWrite id := by
      rcases hp with ⟨hello, hp⟩ | ⟨req, hp⟩
      all_goals exact (htracked hp).2
    refine h.leave ?_ not_false (quiet_of_dead (hpend.dead h.wire.driver hw hc)) trivial
    rcases hp with ⟨hello, hp⟩ | ⟨req, hp⟩ <;> rw [hp] <;> trivial
  | @readHello k hello packet hp hs hack =>
    have h' := h.takeControl hs
    exact h'.advance (p := .ready) (by rw [takeControl_phase, hp]; trivial) trivial (fun _ => rfl)
      rfl rfl rfl prefix_rfl rfl rfl
      ⟨h'.wire.driver, h'.wire.receiver, h'.wire.healthy, h'.wire.controlRead_le,
        h'.wire.written_packets, h'.wire.alive_packets, h'.wire.answered,
        h'.wire.backlog_answers, h'.wire.single, h'.wire.alive_single⟩
      ⟨h.takeControl_settled hs, nofun⟩ h'.helloQueued
  | @refusedHello k hello packet error hp hs hack =>
    obtain ⟨⟨req, hlast, hpkt⟩, hall⟩ : w.Greets k hello ∧ w.AllWritten := htracked hp
    obtain ⟨-, hwritten, hanswer⟩ := h.answer_of_packet hs hlast hall
    obtain ⟨htype, hparse⟩ := helloPacket_ok hpkt
    rw [h.helloAnswered _ req packet hwritten hanswer hello hparse htype] at hack
    cases hack
  | @readAck k req packet hp hs =>
    obtain ⟨⟨hhello, sent, hlast, htype⟩, hall⟩ : w.Requests k ∧ w.AllWritten := htracked hp
    obtain ⟨hreq, hwritten, hanswer⟩ := h.answer_of_packet hs hlast hall
    exact (h.takeControl hs).move (by rw [takeControl_phase, hp]; trivial) trivial
      ⟨h.takeControl_settled hs, hhello, _, sent, hreq, htype, hwritten, hanswer⟩
  | @readFailed k failure error hp hs =>
    have hdead : ¬w.driver.Alive :=
      fun ha => h.wire.healthy ha failure (mem_of_getElem? hs)
    refine (h.takeControl hs).leave ?_ id (quiet_of_dead hdead) trivial
    rcases hp with ⟨hello, hp⟩ | ⟨req, hp⟩ <;> rw [takeControl_phase, hp] <;> trivial
  | readClosed hp hrun =>
    refine h.leave ?_ id (quiet_of_dead (Multiplex.not_alive_of_stopped hrun)) trivial
    rcases hp with ⟨hello, hp⟩ | ⟨req, hp⟩ <;> rw [hp] <;> trivial
  | @install k req packet opened hp hack hid =>
    have h' := h.driver_quiet (Multiplex.Transition.registerSession _ hid) trivial trivial
    obtain ⟨hsettled, hhello, hown⟩ : (w.setDriver _).Tracked k (.acknowledged req packet) :=
      hp ▸ h'.tracked k
    have hsame : Correlated { w.setDriver (w.driver.registerSession opened.ack.sessionId) with
        lifecycle := opened.lifecycle } :=
      h'.of_sameWire ⟨rfl, rfl, rfl, rfl, rfl, rfl⟩ h'.fresh h'.lock h'.abandoned h'.idle
        h'.tracked
    have hholds : (w.phase k).Holds := by rw [hp]; trivial
    exact hsame.move (p := .registering _ opened) hholds trivial
      ⟨hsettled, hhello, packet, hown, acceptOpenAck_ok hack⟩
  | @finishRegister k c opened driver result hp hs hok =>
    have h' := h.driver_quiet (Multiplex.step_transition hs) trivial trivial
    obtain ⟨hsettled, hhello, hown⟩ : (w.setDriver driver).Tracked k (.registering c opened) :=
      hp ▸ h'.tracked k
    refine h'.leave (by rw [setDriver_phase, hp]; trivial) id
      ⟨hsettled, fun _ hnone => absurd hnone hhello⟩ ?_
    cases result with
    | error => trivial
    | ok o => exact hok o rfl ▸ hown
  | dropWaiting hp => exact h.dropWaiting hp
  | drop hp hx => exact h.leave hp id (quiet_of_tracked (h.tracked _) hp hx) trivial
  | abandon hp => exact h.abandon hp
  | @dropRegister k c opened driver hp hs =>
    have h' := h.driver_quiet (Multiplex.step_transition hs) trivial trivial
    obtain ⟨hsettled, hhello, -⟩ : (w.setDriver driver).Tracked k (.registering c opened) :=
      hp ▸ h'.tracked k
    exact h'.leave (by rw [setDriver_phase, hp]; trivial) id
      ⟨hsettled, fun _ hnone => absurd hnone hhello⟩ trivial
  | answer hr ha => exact h.answer hr (hgood _ hr)
  | deliver hn hs => exact h.deliver hn (Multiplex.step_transition hs)
  | background hb hs =>
    exact h.driver_quiet (Multiplex.step_transition hs) (.of_background hb) hgood

open State in
theorem start_correlated (kind : RuntimeTransportKind) (cfg : NnrpClientConfig) :
    Correlated (State.start kind cfg) := by
  have hwire : Wire (State.start kind cfg) := by
    refine ⟨.start kind, rfl, nofun, le_rfl, prefix_rfl, fun _ => rfl, le_rfl,
      suffix_rfl, Nat.zero_le _, fun _ => Nat.zero_le _⟩
  refine ⟨hwire, fun _ _ => rfl, fun _ => ⟨fun hholds => hholds.elim, nofun⟩, nofun,
    fun _ _ => ⟨fun _ => le_rfl, fun _ _ => rfl⟩, fun _ => trivial, Nat.zero_le _,
    fun _ => Nat.zero_le _, fun _ _ _ hw => ?_⟩
  cases hw

variable {kind : RuntimeTransportKind} {config : NnrpClientConfig} {es : List Event} {w : State}

/-- In a run in which every abandoned call is the last one, a call that succeeds returns the
session that the server acknowledged for the call's own open, and at most one hello is written. -/
theorem open_calls_correlated (hgood : Along step Attended (State.start kind config) es)
    (hr : run step (State.start kind config) es = some w) :
    (∀ k opened, w.phase k = .finished (.ok opened) → w.OwnSession k opened) ∧
      helloCount w.driver.written ≤ 1 := by
  have h := run_invariant State.Correlated
    (fun _ _ _ h hg hs => (step_transition hs).correlated hg h)
    (start_correlated kind config) hgood hr
  constructor
  · intro k opened hp
    have htracked := h.tracked k
    rw [hp] at htracked
    exact htracked
  · have hcount : helloCount w.written = helloCount w.driver.written := by
      rw [helloCount, State.written, countP_filter, helloCount]
      apply countP_congr
      intro packet _
      rw [Bool.and_eq_true, decide_eq_true_iff, decide_eq_true_iff, and_iff_left_iff_imp]
      exact Or.inl
    exact hcount ▸ h.helloWritten

instance instDecidableAttended (w : State) : ∀ e, Decidable (Attended w e)
  | .acquire _ => inferInstanceAs (Decidable (_ = _))
  | .answer _ => inferInstanceAs (Decidable (∀ request ∈ _, HelloAccepted request _))
  | .background action => inferInstanceAs (Decidable (NoControl action))
  | .openSession _ | .resumeSession .. | .greet _ | .request _ | .confirm _ | .read _ | .install _
  | .finishRegister _ | .drop _ | .deliver => .isTrue trivial

def sampleConfig : NnrpClientConfig where
  requestedSessionId := 0
  profileId := 1
  schemaId := 0
  schemaVersion := 0
  priorityClass := .balanced
  defaultDeadlineMs := 500
  maxInFlightOperations := 4
  leaseTtlHintMs := 30000
  allowResume := false
  resumeTokenBytes := 0
  cacheHints := []

def helloAckPacket : RuntimePacket :=
  ⟨CommonHeader.new .serverHelloAck 80 0,
    writeU8 (writeU8 (replicate 80 0) 0 currentVersionMajor) 1 currentWireFormat, []⟩

def openAckPacket (sessionId : UInt32) : RuntimePacket :=
  ⟨{ CommonHeader.new .sessionOpenAck 56 0 with sessionId },
    writeU8 (writeU16 (writeU32 (replicate 56 0) 0 sessionId) 4 1) 7
      SessionStatus.opened.code, []⟩

def serveCommand : Event := .background (.command (.ok ()))

def sayHello (k : OpenId) : List Event :=
  [.openSession sampleConfig, .acquire k, .greet k, serveCommand, .confirm k,
    .answer helloAckPacket, .deliver, .read k]

def finishOpen (k : OpenId) (sessionId : UInt32) : List Event :=
  [.request k, serveCommand, .confirm k, .answer (openAckPacket sessionId), .deliver, .read k,
    .install k, serveCommand, .finishRegister k]

def State.openedSession (w : State) (k : OpenId) : Option UInt32 :=
  match w.phase k with
  | .finished (.ok opened) => some opened.ack.sessionId
  | _ => none

theorem State.openedSession_eq_some {w : State} {k : OpenId} {s : UInt32}
    (h : w.openedSession k = some s) :
    ∃ opened, w.phase k = .finished (.ok opened) ∧ opened.ack.sessionId = s := by
  unfold State.openedSession at h
  split at h
  · rename_i opened hp
    exact ⟨opened, hp, some.inj h⟩
  · cases h

def twoOpens : List Event :=
  sayHello 0 ++ finishOpen 0 1 ++ [.openSession sampleConfig, .acquire 1, .greet 1] ++
    finishOpen 1 2

theorem open_calls_correlated_two :
    ∃ w first second, run step (State.start .tcp sampleConfig) twoOpens = some w ∧
      w.phase 0 = .finished (.ok first) ∧ w.OwnSession 0 first ∧
      w.phase 1 = .finished (.ok second) ∧ w.OwnSession 1 second ∧
      helloCount w.driver.written ≤ 1 := by
  have h : (run step (State.start .tcp sampleConfig) twoOpens).map
      (fun w => (w.openedSession 0, w.openedSession 1)) = some (some 1, some 2) := by
    decide +kernel
  obtain ⟨w, hr, h⟩ := map_eq_some_iff.mp h
  obtain ⟨h0, h1⟩ := Prod.mk.inj h
  obtain ⟨first, hfirst, -⟩ := State.openedSession_eq_some h0
  obtain ⟨second, hsecond, -⟩ := State.openedSession_eq_some h1
  have hgood : Along step Attended (State.start .tcp sampleConfig) twoOpens := by
    decide +kernel
  obtain ⟨hown, hhello⟩ := open_calls_correlated hgood hr
  exact ⟨w, first, second, hr, hfirst, hown 0 first hfirst, hsecond, hown 1 second hsecond,
    hhello⟩

def droppedOpen : List Event :=
  sayHello 0 ++
    [.request 0, serveCommand, .drop 0, .answer (openAckPacket 1),
      .openSession sampleConfig, .acquire 1, .greet 1, .request 1, serveCommand, .confirm 1,
      .answer (openAckPacket 2), .deliver, .read 1, .install 1, serveCommand, .finishRegister 1]

def droppedHello : List Event :=
  [.openSession sampleConfig, .acquire 0, .greet 0, serveCommand, .drop 0,
    .openSession sampleConfig, .acquire 1, .greet 1, serveCommand]

/-- The second call returns session 1, which was acknowledged for the first one; its own open was
acknowledged with session 2. A call dropped in its hello makes the next one say hello again. -/
theorem dropped_open_misattributed :
    (∃ w opened, run step (State.start .tcp sampleConfig) droppedOpen = some w ∧
      w.phase 1 = .finished (.ok opened) ∧ ¬w.OwnSession 1 opened) ∧
    ∃ w, run step (State.start .tcp sampleConfig) droppedHello = some w ∧
      helloCount w.driver.written = 2 := by
  have hopen : (run step (State.start .tcp sampleConfig) droppedOpen).map
      (fun w => (w.openedSession 1, w.requests.map Prod.fst, w.answers)) =
      some (some 1, [0, 0, 1], [helloAckPacket, openAckPacket 1, openAckPacket 2]) := by
    decide +kernel
  have hhello : (run step (State.start .tcp sampleConfig) droppedHello).map
      (fun w => helloCount w.driver.written) = some 2 := by
    decide +kernel
  constructor
  · obtain ⟨w, hr, h⟩ := map_eq_some_iff.mp hopen
    obtain ⟨hid, h⟩ := Prod.mk.inj h
    obtain ⟨hreqs, hanswers⟩ := Prod.mk.inj h
    obtain ⟨opened, hp, hopened⟩ := State.openedSession_eq_some hid
    refine ⟨w, opened, hr, hp, ?_⟩
    rintro ⟨packet, ⟨i, req, hi, -, -, ha⟩, hparse⟩
    have hcaller : (w.requests.map Prod.fst)[i]? = some 1 := by
      rw [getElem?_map, hi]
      rfl
    rw [hreqs] at hcaller
    rw [hanswers] at ha
    have hi : i = 2 := by
      match i with
      | 0 | 1 => cases hcaller
      | 2 => rfl
      | i + 3 => cases hcaller
    subst hi
    cases ha
    have hack : (SessionOpenAckMetadata.parse (openAckPacket 2).metadata).map (·.sessionId) =
        .ok 2 := by
      decide +kernel
    rw [hparse, Except.map, hopened] at hack
    cases hack
  · obtain ⟨w, hr, h⟩ := map_eq_some_iff.mp hhello
    exact ⟨w, hr, h⟩

end Nnrp.OpenCall
