import Nnrp.ClientBatch

/-!
# Events around a control request

A patch and a close wait for their acknowledgement in a loop that retains the events which arrive
before it. A migration looks at one packet only, and fails if it is an event.
-/

namespace Nnrp.Client
open Protocol Packet Session Stateful List

inductive ControlRequest
  | patch (metadata : SessionPatchMetadata)
  | migrate (metadata : SessionMigrateMetadata)
  | close (metadata : SessionCloseMetadata)

namespace ControlRequest

variable (request : ControlRequest)

def send (written : Except RuntimeError Unit) : SessionM Unit :=
  match request with
  | .patch metadata => patchSession metadata written
  | .migrate metadata => migrateTransport metadata written
  | .close metadata => closeWith metadata written

def round (input : Arrival) : SessionM Bool :=
  match request with
  | .patch _ => patchRound input
  | .migrate metadata => migrateRound metadata input
  | .close _ => closeRound input

def ackType : MessageType :=
  match request with
  | .patch _ => .sessionPatchAck
  | .migrate _ => .sessionMigrateAck
  | .close _ => .sessionCloseAck

def Loops : Prop :=
  match request with
  | .patch _ | .close _ => True
  | .migrate _ => False

instance : Decidable request.Loops :=
  match request with
  | .patch _ | .close _ => .isTrue trivial
  | .migrate _ => .isFalse id

/-- The rounds of a request over what the transport answers. The value says whether the request has
been acknowledged; otherwise it still waits. -/
def awaitAck : List Arrival → SessionM Bool
  | [] => pure false
  | answer :: answers => do
    if ← request.round answer then pure true
    else awaitAck answers

def perform (answers : List Arrival) : SessionM Bool := do
  request.send (.ok ())
  request.awaitAck answers

/-- What the session makes of packets that arrive before the acknowledgement: the events, and the
session that has taken them in. A close may also be acknowledged provisionally. -/
def observe : NnrpClientSession → List RuntimePacket → List Entry × NnrpClientSession
  | s, [] => ([], s)
  | s, packet :: packets =>
    if packet.messageType = request.ackType then
      observe (call (request.round (.ok packet)) s).2 packets
    else
      match call (decodeEventPacket packet) s with
      | (.ok entry, s') => (entry :: (observe s' packets).1, (observe s' packets).2)
      | (.error _, s') => observe s' packets

def Precedes : NnrpClientSession → List RuntimePacket → Prop
  | _, [] => True
  | s, packet :: packets =>
    if packet.messageType = request.ackType then
      (call (request.round (.ok packet)) s).1 = .ok false ∧
        Precedes (call (request.round (.ok packet)) s).2 packets
    else
      (call (decodeEventPacket packet) s).1.isOk ∧
        Precedes (call (decodeEventPacket packet) s).2 packets

instance instDecidablePrecedes :
    ∀ (s : NnrpClientSession) (packets : List RuntimePacket), Decidable (request.Precedes s packets)
  | _, [] => .isTrue trivial
  | s, packet :: packets =>
    if h : packet.messageType = request.ackType then
      have := instDecidablePrecedes (call (request.round (.ok packet)) s).2 packets
      decidable_of_iff ((call (request.round (.ok packet)) s).1 = .ok false ∧
        request.Precedes (call (request.round (.ok packet)) s).2 packets)
        (by rw [Precedes, if_pos h])
    else
      have := instDecidablePrecedes (call (decodeEventPacket packet) s).2 packets
      decidable_of_iff ((call (decodeEventPacket packet) s).1.isOk ∧
        request.Precedes (call (decodeEventPacket packet) s).2 packets)
        (by rw [Precedes, if_neg h])

def events (packets : List RuntimePacket) : List RuntimePacket :=
  packets.filter fun packet => packet.messageType ≠ request.ackType

end ControlRequest

namespace ControlRequest

variable {request : ControlRequest} {p : RuntimePacket} {entries : List Entry}
  {s' : NnrpClientSession} {metadata : SessionMigrateMetadata} {entry : Entry}

theorem round_ack_commutes (h : p.messageType = request.ackType) :
    Commutes (·.withPending entries) (request.round (.ok p)) := by
  cases request with
  | patch metadata =>
    change p.messageType = .sessionPatchAck at h
    change Commutes _ (patchRound (.ok p))
    rw [patchRound, lift_ok_bind, if_neg (not_not.mpr h)]
    exact .bind (.check fun _ => rfl) fun _ => .bind .lift fun _ => .bind .lift fun _ => .pure
  | migrate metadata =>
    change Commutes _ (migrateRound metadata (.ok p))
    rw [migrateRound, lift_ok_bind]
    refine .bind (.check fun _ => rfl) fun _ => .bind (.check fun _ => rfl) fun _ => ?_
    exact .bind .lift fun _ => .bind .lift fun _ => .bind .lift fun _ => .pure
  | close metadata =>
    change p.messageType = .sessionCloseAck at h
    change Commutes _ (closeRound (.ok p))
    rw [closeRound, lift_ok_bind, if_neg (not_not.mpr h)]
    refine .bind .lift fun _ => .bind (.check fun _ => rfl) fun _ => .bind .lift fun ack => ?_
    refine .bind (.check fun _ => rfl) fun _ => .bind (.write fun _ => rfl) fun _ => ?_
    cases ack.closeStatus with
    | closed | acknowledged | draining => exact .pure
    | rejected => exact .lift

theorem retainEvent_call {s : NnrpClientSession} {limitMessage : String}
    (hdec : call (decodeEventPacket p) s = (.ok entry, s')) : call (retainEvent p limitMessage) s =
      if maxPendingClientEvents ≤ s.pendingEvents.length then
        (.error (.unexpectedMessage limitMessage), s')
      else (.ok (), s'.withPending (s.pendingEvents ++ [entry])) := by
  have hpend : s'.pendingEvents = s.pendingEvents := by
    have h : (call (decodeEventPacket p) s).2.pendingEvents = s.pendingEvents :=
      pendingEvents_of_commutes decodeEventPacket_commutes
    rw [hdec] at h
    exact h
  rw [retainEvent, call_bind_ok hdec, ← hpend]
  split_ifs with hfull
  · exact call_bind_error (call_refuse_of hfull)
  · exact call_bind_ok (call_refuse_of_not hfull)

theorem round_event (hloops : request.Loops) (htype : p.messageType ≠ request.ackType) :
    ∃ limitMessage, request.round (.ok p) =
      (retainEvent p limitMessage >>= fun _ => pure false) := by
  cases request with
  | patch metadata =>
    refine ⟨"client session patch exceeded the pending event limit before acknowledgement", ?_⟩
    change p.messageType ≠ .sessionPatchAck at htype
    change patchRound (.ok p) = _
    rw [patchRound, lift_ok_bind, if_pos htype]
  | migrate metadata => exact absurd hloops id
  | close metadata =>
    refine ⟨"client session close exceeded the pending event limit before acknowledgement", ?_⟩
    change p.messageType ≠ .sessionCloseAck at htype
    change closeRound (.ok p) = _
    rw [closeRound, lift_ok_bind, if_pos htype]

theorem migrateRound_ne_false (s : NnrpClientSession) :
    (call (migrateRound metadata (.ok p)) s).1 ≠ .ok false := by
  have h : Ensures (migrateRound metadata (.ok p)) s (fun done _ => done = true)
      (fun _ => True) := by
    refine .guard trivial fun _ _ => .refuse_bind (fun _ => trivial) fun _ => ?_
    refine .guard trivial fun _ _ => .guard trivial fun _ _ => ?_
    exact .guard trivial fun _ _ => .guard trivial fun _ _ =>
      .pure rfl
  rcases h.cases with ⟨done, s', hcall, rfl⟩ | ⟨e, s', hcall, -⟩ <;> rw [hcall] <;> simp

variable {s : NnrpClientSession} {packets : List RuntimePacket} {rest : List Arrival}

theorem events_cons_ack (htype : p.messageType = request.ackType) :
    request.events (p :: packets) = request.events packets := by
  simp [events, htype]

theorem events_cons_event (htype : p.messageType ≠ request.ackType) :
    request.events (p :: packets) = p :: request.events packets := by
  simp [events, htype]

theorem decoded (h : (call (decodeEventPacket p) s).1.isOk) :
    ∃ entry s', call (decodeEventPacket p) s = (.ok entry, s') := by
  rcases hdec : call (decodeEventPacket p) s with ⟨x, s'⟩
  rw [hdec] at h
  cases x with
  | ok entry => exact ⟨entry, s', rfl⟩
  | error e => cases h

variable {anss : List Arrival} {ans : Arrival}

theorem awaitAck_cons_false (h : call (request.round ans) s = (.ok false, s')) :
    call (request.awaitAck (ans :: anss)) s = call (request.awaitAck anss) s' := by
  rw [awaitAck, call_bind_ok h]
  rfl

theorem awaitAck_cons_error {e : RuntimeError} (h : call (request.round ans) s = (.error e, s')) :
    call (request.awaitAck (ans :: anss)) s = (.error e, s') := by
  rw [awaitAck, call_bind_error h]

theorem round_ack_withPending (htype : p.messageType = request.ackType)
    (h : (call (request.round (.ok p)) s).1 = .ok false) :
    call (request.round (.ok p)) (s.withPending entries) =
      (.ok false, (call (request.round (.ok p)) s).2.withPending entries) := by
  have hcommutes : Commutes (·.withPending entries) (request.round (.ok p)) :=
    round_ack_commutes htype
  rw [hcommutes.call_eq, h]

theorem round_event_call (entries : List Entry) (hloops : request.Loops)
    (htype : p.messageType ≠ request.ackType)
    (hdec : call (decodeEventPacket p) s = (.ok entry, s')) :
    (entries.length < maxPendingClientEvents → call (request.round (.ok p))
        (s.withPending entries) = (.ok false, s'.withPending (entries ++ [entry]))) ∧
      (maxPendingClientEvents ≤ entries.length → ∃ e s'',
        call (request.round (.ok p)) (s.withPending entries) = (.error e, s'')) := by
  have hcommutes : Commutes (·.withPending entries) (decodeEventPacket p) :=
    decodeEventPacket_commutes
  have hretained : call (decodeEventPacket p) (s.withPending entries) =
      (.ok entry, s'.withPending entries) := by
    rw [hcommutes.call_eq, hdec]
  obtain ⟨limitMessage, hround⟩ := round_event hloops htype
  have hcall : call (retainEvent p limitMessage) (s.withPending entries) =
      if maxPendingClientEvents ≤ entries.length then _ else _ := retainEvent_call hretained
  rw [hround]
  constructor
  · intro hroom
    rw [if_neg (Nat.not_le.mpr hroom)] at hcall
    exact call_bind_ok hcall
  · intro hfull
    rw [if_pos hfull] at hcall
    exact ⟨_, _, call_bind_error hcall⟩

theorem awaitAck_retains (entries : List Entry) (rest : List Arrival)
    (hvalid : request.Precedes s packets) (hroom : request.events packets = [] ∨ request.Loops ∧
      entries.length + (request.events packets).length ≤ maxPendingClientEvents) :
    call (request.awaitAck (packets.map .ok ++ rest)) (s.withPending entries) =
      call (request.awaitAck rest)
        ((request.observe s packets).2.withPending (entries ++ (request.observe s packets).1)) := by
  induction packets generalizing s entries with
  | nil =>
    rw [observe, append_nil]
    rfl
  | cons p packets ih =>
    rw [Precedes] at hvalid
    rw [observe, map_cons, cons_append]
    by_cases htype : p.messageType = request.ackType
    · rw [if_pos htype] at hvalid ⊢
      obtain ⟨hwaits, hvalid⟩ := hvalid
      rw [events_cons_ack htype] at hroom
      rw [awaitAck_cons_false (round_ack_withPending htype hwaits)]
      exact ih entries hvalid hroom
    · rw [if_neg htype] at hvalid ⊢
      obtain ⟨hentry, hvalid⟩ := hvalid
      obtain ⟨entry, s', hdec⟩ := decoded hentry
      rw [hdec] at hvalid ⊢
      rw [events_cons_event htype] at hroom
      rcases hroom with hnone | ⟨hloops, hroom⟩
      · cases hnone
      rw [length_cons] at hroom
      have hround := (round_event_call entries hloops htype hdec).1 (by omega)
      rw [awaitAck_cons_false hround, ih _ hvalid (.inr ⟨hloops, ?_⟩)]
      · rw [append_assoc]
        rfl
      · rw [length_append, length_singleton]
        omega

theorem awaitAck_overflows (entries : List Entry) (hloops : request.Loops)
    (hvalid : request.Precedes s packets) (hevents : request.events packets ≠ [])
    (hfull : maxPendingClientEvents < entries.length + (request.events packets).length) :
    ∃ e s', call (request.awaitAck (packets.map .ok ++ rest)) (s.withPending entries) =
      (.error e, s') := by
  induction packets generalizing s entries with
  | nil => exact absurd rfl hevents
  | cons p packets ih =>
    rw [Precedes] at hvalid
    rw [map_cons, cons_append]
    by_cases htype : p.messageType = request.ackType
    · rw [if_pos htype] at hvalid
      obtain ⟨hwaits, hvalid⟩ := hvalid
      rw [events_cons_ack htype] at hevents hfull
      rw [awaitAck_cons_false (round_ack_withPending htype hwaits)]
      exact ih entries hvalid hevents hfull
    · rw [if_neg htype] at hvalid
      obtain ⟨hentry, hvalid⟩ := hvalid
      obtain ⟨entry, s', hdec⟩ := decoded hentry
      rw [hdec] at hvalid
      rw [events_cons_event htype, length_cons] at hfull
      obtain ⟨hroom, href⟩ := round_event_call entries hloops htype hdec
      by_cases hlast : maxPendingClientEvents ≤ entries.length
      · obtain ⟨e, s'', hround⟩ := href hlast
        exact ⟨e, s'', awaitAck_cons_error hround⟩
      · have hsnoc : (entries ++ [entry]).length = entries.length + 1 := by
          rw [length_append, length_singleton]
        rw [awaitAck_cons_false (hroom (by omega))]
        apply ih _ hvalid
        · intro hnone
          rw [hnone, length_nil] at hfull
          omega
        · omega

theorem migrate_awaitAck_error (hvalid : (migrate metadata).Precedes s packets)
    (hpkts : packets ≠ []) :
    ∃ e s', call ((migrate metadata).awaitAck (packets.map .ok ++ rest)) s = (.error e, s') := by
  cases packets with
  | nil => exact absurd rfl hpkts
  | cons p packets =>
    rw [Precedes] at hvalid
    split_ifs at hvalid with htype
    · exact absurd hvalid.1 (migrateRound_ne_false s)
    · have hround : call (migrateRound metadata (.ok p)) s =
          (.error (.unexpectedMessage "client expected SESSION_MIGRATE_ACK"), s) := by
        rw [migrateRound, lift_ok_bind]
        exact call_bind_error (call_refuse_of htype)
      exact ⟨_, _, awaitAck_cons_error hround⟩

theorem send_commutes {written : Except RuntimeError Unit} :
    Commutes (·.withPending entries) (request.send written) := by
  have hwrite {p : RuntimePacket} : Commutes (·.withPending entries)
      (writePacket written p) := .bind .lift fun _ => .write fun _ => rfl
  cases request with
  | patch metadata =>
    exact .bind (.check fun _ => rfl) fun _ => .bind .lift fun _ =>
      .bind (.check fun _ => rfl) fun _ => hwrite
  | migrate metadata =>
    exact .bind .lift fun _ => .bind (.check fun _ => rfl) fun _ => hwrite
  | close metadata =>
    exact .bind (.check fun _ => rfl) fun _ => .bind (.write fun _ => rfl) fun _ =>
      .bind .lift fun _ => .bind (.check fun _ => rfl) fun _ => hwrite

theorem await_retained (s : NnrpClientSession) (later : List Arrival)
    (hlen : later.length = s.pendingEvents.length) :
    call (later.mapM awaitClientEventPacket) s = (.ok s.pendingEvents, s.withPending []) := by
  induction later generalizing s with
  | nil =>
    have hnone : s.pendingEvents = [] := length_eq_zero_iff.mp hlen.symm
    have hself : s.withPending [] = s := by
      rw [← hnone]
      rfl
    rw [mapM_nil, hnone, hself]
    rfl
  | cons input later ih =>
    cases hpend : s.pendingEvents with
    | nil =>
      rw [hpend] at hlen
      cases hlen
    | cons entry entries =>
      rw [hpend] at hlen
      have hpop : call popEvent s = (.ok (some entry), s.withPending entries) :=
        call_popFront_cons hpend
      have hfirst : call (awaitClientEventPacket input) s = (.ok entry, s.withPending entries) :=
        call_bind_ok hpop
      rw [mapM_cons, call_bind_ok hfirst, call_bind_ok (ih _ (Nat.succ.inj hlen))]
      rfl

/-- The request is acknowledged, and what arrived before the acknowledgement is read next, whatever
the transport answers later. -/
def Preserved (s : NnrpClientSession) (answers : List Arrival) (events : List Entry) : Prop :=
  ∃ s', call (request.perform answers) s = (.ok true, s') ∧
    s'.pendingEvents = s.pendingEvents ++ events ∧
    ∀ later : List Arrival, later.length = s'.pendingEvents.length →
      call (later.mapM awaitClientEventPacket) s' =
        (.ok (s.pendingEvents ++ events), s'.withPending [])

theorem awaitAck_fails (rest : List Arrival) (hvalid : request.Precedes s packets)
    (h : ¬(request.events packets = [] ∨ request.Loops ∧
      s.pendingEvents.length + (request.events packets).length ≤ maxPendingClientEvents)) :
    ∃ e s', call (request.awaitAck (packets.map .ok ++ rest)) s = (.error e, s') := by
  rw [not_or, not_and] at h
  by_cases hloops : request.Loops
  · exact awaitAck_overflows s.pendingEvents hloops hvalid h.1 (Nat.lt_of_not_le (h.2 hloops))
  · cases request with
    | patch metadata | close metadata => exact absurd trivial hloops
    | migrate metadata =>
      apply migrate_awaitAck_error hvalid
      intro hnone
      rw [hnone] at h
      exact h.1 rfl

/-- The events before the acknowledgement are preserved exactly when there are none, or the request
waits in a loop and there is room for them behind the events retained before. -/
theorem events_preserved_iff (request : ControlRequest) (s s₁ : NnrpClientSession)
    (packets : List RuntimePacket) (ack : RuntimePacket)
    (hsent : call (request.send (.ok ())) s = (.ok (), s₁))
    (hvalid : request.Precedes s₁ packets) (htype : ack.messageType = request.ackType)
    (hack : (call (request.round (.ok ack)) (request.observe s₁ packets).2).1 = .ok true) :
    request.Preserved s (packets.map .ok ++ [.ok ack]) (request.observe s₁ packets).1 ↔
      request.events packets = [] ∨ request.Loops ∧
        s.pendingEvents.length + (request.events packets).length ≤ maxPendingClientEvents := by
  have hpend : s₁.pendingEvents = s.pendingEvents := by
    have h : (call (request.send (.ok ())) s).2.pendingEvents = s.pendingEvents :=
      pendingEvents_of_commutes send_commutes
    rw [hsent] at h
    exact h
  have hperform : ∀ anss, call (request.perform anss) s =
      call (request.awaitAck anss) s₁ := fun anss => call_bind_ok hsent
  rw [← hpend]
  constructor
  · rintro ⟨s', hcall, -⟩
    by_contra hlost
    obtain ⟨e, s'', hfails⟩ := awaitAck_fails [.ok ack] hvalid hlost
    rw [hperform, hfails] at hcall
    cases hcall
  · intro hroom
    have hcommutes : Commutes (·.withPending (s₁.pendingEvents ++ (request.observe s₁ packets).1))
        (request.round (.ok ack)) := round_ack_commutes htype
    have hround := hcommutes.call_eq (request.observe s₁ packets).2
    rw [hack] at hround
    have hretains := awaitAck_retains s₁.pendingEvents [.ok ack] hvalid hroom
    rw [awaitAck, call_bind_ok hround] at hretains
    refine ⟨_, (hperform _).trans hretains, ?_, fun later hlen => ?_⟩
    · rw [← hpend]
      rfl
    · rw [await_retained _ later hlen, ← hpend]
      rfl

def closeRequest : ControlRequest :=
  .close
    { closeReason := .normal, inFlightPolicy := .drain, drainTimeoutMs := 0, lastOperationId := 11
      sessionErrorCode := 0, sessionCloseTag := 0 }

def closeAckPacket (closeStatus : SessionCloseStatus) : RuntimePacket where
  header := { CommonHeader.new .sessionCloseAck 16 0 with sessionId := 7 }
  metadata := (SessionCloseAckMetadata.toBytes
    { closeStatus, lastOperationId := 11, sessionErrorCode := 0 }).toOption.getD []
  body := []

def openSession : NnrpClientSession :=
  { BatchRun.submittedSession with lifecycle := .withSession 7 }

def closingSession : NnrpClientSession := (call (closeRequest.send (.ok ())) openSession).2

def beforeClosed : List RuntimePacket :=
  [progressPacket 11 1, closeAckPacket .draining, dropReasonPacket 11 1]

theorem drained_close_preserved :
    call (closeRequest.send (.ok ())) openSession = (.ok (), closingSession) ∧
      (closeRequest.observe closingSession beforeClosed).1.length = 2 ∧
      closeRequest.Preserved openSession (beforeClosed.map .ok ++ [.ok (closeAckPacket .closed)])
        (closeRequest.observe closingSession beforeClosed).1 := by
  have hsent : call (closeRequest.send (.ok ())) openSession = (.ok (), closingSession) :=
    Prod.ext (by decide +kernel) (by rw [closingSession])
  refine ⟨hsent, by decide +kernel, ?_⟩
  apply (events_preserved_iff closeRequest openSession closingSession beforeClosed
    (closeAckPacket .closed) hsent ?_ rfl ?_).mpr
  all_goals decide +kernel

def migrateRequest : ControlRequest :=
  .migrate
    { oldTransportId := .tcp, newTransportId := .quic, lastResultFrameId := 0
      clientMigrateTsUs := 0 }

def migrateAckPacket : RuntimePacket where
  header := { CommonHeader.new .sessionMigrateAck 24 0 with sessionId := 7 }
  metadata := (SessionMigrateAckMetadata.toBytes
    { acceptCode := 0, resumeFromFrameId := 0, graceWindowMs := 0
      serverMigrateTsUs := 0 }).toOption.getD []
  body := []

def migratingSession : NnrpClientSession :=
  (call (migrateRequest.send (.ok ())) openSession).2

/-- Progress that arrives before the acknowledgement makes the migration fail, and is gone. -/
theorem migration_loses_event :
    (call (migrateRequest.send (.ok ())) openSession).1 = .ok () ∧
      migrateRequest.Precedes migratingSession [progressPacket 11 1] ∧
      (call (migrateRequest.round (.ok migrateAckPacket))
        (migrateRequest.observe migratingSession [progressPacket 11 1]).2).1 = .ok true ∧
      (call (migrateRequest.perform [.ok (progressPacket 11 1), .ok migrateAckPacket])
        openSession).1 =
          .error (.unexpectedMessage "client expected SESSION_MIGRATE_ACK") ∧
      (call (migrateRequest.perform [.ok (progressPacket 11 1), .ok migrateAckPacket])
        openSession).2.pendingEvents = [] ∧
      ¬migrateRequest.Preserved openSession
        [.ok (progressPacket 11 1), .ok migrateAckPacket]
        (migrateRequest.observe migratingSession [progressPacket 11 1]).1 := by
  have hfails : (call (migrateRequest.perform [.ok (progressPacket 11 1), .ok migrateAckPacket])
      openSession).1 =
        .error (.unexpectedMessage "client expected SESSION_MIGRATE_ACK") := by
    decide +kernel
  refine ⟨by decide +kernel, by decide +kernel, by decide +kernel, hfails, by decide +kernel, ?_⟩
  rintro ⟨s', hcall, -⟩
  rw [hcall] at hfails
  cases hfails

end ControlRequest

end Nnrp.Client
