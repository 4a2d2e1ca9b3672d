import Nnrp.RegistryOutcome
import Nnrp.ServerSession

/-!
# What decoding does to the server session

The bindings of a server session, its operation registry and its reservations agree at all times.
In such a session a packet that is refused changes nothing, except that a submit may cost the
reservation that it contradicts. A packet that is accepted has one of a few effects.
-/

namespace Nnrp.Server
open OrderedMap Protocol Packet Data Control ControlUpdate Session PreSubmit NnrpServerSession
open Stateful RuntimeEvent Operation Fallible
open Lifecycle (ConnectionLifecycle)

variable (s : NnrpServerSession)

/-- The maps between frames and operations are inverse to each other, the bound operations are the
registered ones, they are this session's, and nothing that is reserved is bound. -/
structure Correlated : Prop where
  session : s.sessionId ≠ 0
  inverse : Inverse s.frameOperations s.operationFrames
  registered : ∀ operationId : UInt64,
    operationId ∈ s.operationFrames ↔ operationId ∈ s.operations.operations
  record : ∀ (operationId : UInt64) record, s.operations.operations[operationId]? = some record →
    operationId ≠ 0 ∧ record.descriptor = { sessionId := s.sessionId, operationId }
  reservations : s.preSubmitDeadlines.Valid
  free : ∀ (operationId : UInt64) reservation,
    s.preSubmitDeadlines.byOperation[operationId]? = some reservation →
      s.operationFrames[operationId]? = none ∧ s.frameOperations[reservation.frameId]? = none

namespace Correlated

variable {s : NnrpServerSession} {id : UInt64} {fid : UInt32}

theorem record_of_bound (hs : Correlated s) (h : s.operationFrames[id]? = some fid) :
    ∃ r, s.operations.operations[id]? = some r ∧ id ≠ 0 ∧
      r.descriptor = { sessionId := s.sessionId, operationId := id } := by
  obtain ⟨r, hrec⟩ := mem_iff_get.mp ((hs.registered id).mp (mem_iff_get.mpr ⟨fid, h⟩))
  exact ⟨r, hrec, hs.record id r hrec⟩

theorem unbound_of_unregistered (hs : Correlated s)
    (h : s.operations.operations[id]? = none) : s.operationFrames[id]? = none := by
  rw [get_eq_none, hs.registered, ← get_eq_none]
  exact h

theorem unregistered_of_unbound (hs : Correlated s) (h : s.operationFrames[id]? = none) :
    s.operations.operations[id]? = none := by
  rw [get_eq_none, ← hs.registered, ← get_eq_none]
  exact h

end Correlated

def NnrpServerEvent.Plain : NnrpServerEvent → Prop
  | .submit _ | .lifecycle _ | .close _ => False
  | _ => True

def endsOperation : MessageType → Bool
  | .frameCancel | .cancel | .abort | .supersede => true
  | _ => false

def endTarget (packet : RuntimePacket) : Option UInt64 :=
  match packet.messageType with
  | .frameCancel => s.frameOperations[packet.frameId]?
  | .cancel | .abort =>
    (ControlRequestMetadata.parse packet.metadata).toOption.map (·.operationId)
  | .supersede => (SupersedeMetadata.parse packet.metadata).toOption.map (·.oldOperationId)
  | _ => none

def queuedFor (packet : RuntimePacket) : ℕ :=
  match (endTarget s packet).bind fun operationId => s.operations.operations[operationId]? with
  | some record => if record.state.isTerminal then 0 else 1
  | none => 0

namespace NnrpServerSession

variable (s : NnrpServerSession) (operationId : UInt64)

def submitted (frameId : UInt32) (schedule : OperationSchedule)
    (deadlines : PreSubmitDeadlineReservations) : NnrpServerSession :=
  { s with
    operations := s.operations.set operationId
      { descriptor := { sessionId := s.sessionId, operationId }, schedule }
    preSubmitDeadlines := deadlines }.bind operationId frameId

def withRecord (record : OperationRecord) : NnrpServerSession :=
  { s with operations := s.operations.set operationId record }

def ended (record : OperationRecord) (state : OperationState) : NnrpServerSession :=
  (s.withRecord operationId { record with state }).pushInput
    (.event (.lifecycle ⟨operationId, state⟩))

end NnrpServerSession

structure Ending (s : NnrpServerSession) (operationId : UInt64) (record : OperationRecord)
    (state : OperationState) : Prop where
  held : s.operations.operations[operationId]? = some record
  active : record.state.isTerminal = false
  terminal : state.isTerminal = true
  room : s.pendingInputs.length < maxPendingServerInputs

inductive Decoded (s : NnrpServerSession) (packet : RuntimePacket) :
    NnrpServerEvent → NnrpServerSession → Prop
  | read {event : NnrpServerEvent} (hevent : event.Plain) : Decoded s packet event s
  | submitted {operation : NnrpServerOperation} {schedule : OperationSchedule}
      {deadlines : PreSubmitDeadlineReservations} {reserved : Option SchedulingMetadata}
      (htype : packet.messageType = .frameSubmit) (hframe : operation.frameId = packet.frameId)
      (hnonzero : operation.operationId ≠ 0)
      (hnew : s.operations.operations[operation.operationId]? = none)
      (hunbound : s.frameOperations[packet.frameId]? = none)
      (htaken : s.preSubmitDeadlines.Taken operation.operationId packet.frameId
        (deadlines, .ok reserved)) :
      Decoded s packet (.submit operation)
        (s.submitted operation.operationId packet.frameId schedule deadlines)
  | ended {event : NnrpServerEvent} {operationId : UInt64} {record : OperationRecord}
      {state : OperationState} (hevent : event.Plain) (htype : endsOperation packet.messageType)
      (hending : Ending s operationId record state) :
      Decoded s packet event (s.ended operationId record state)
  | scheduled {event : NnrpServerEvent} {operationId : UInt64} {record : OperationRecord}
      {schedule : OperationSchedule} (hevent : event.Plain)
      (hrecord : s.operations.operations[operationId]? = some record) :
      Decoded s packet event (s.withRecord operationId { record with schedule })
  | reserved {event : NnrpServerEvent} {metadata : SchedulingMetadata} {nowUnixMs : UInt64}
      {deadlines : PreSubmitDeadlineReservations} (hevent : event.Plain)
      (hoperation : s.operationFrames[metadata.operationId]? = none)
      (hframe : s.frameOperations[packet.frameId]? = none)
      (hreserve : s.preSubmitDeadlines.reserve packet.frameId metadata nowUnixMs = .ok deadlines) :
      Decoded s packet event { s with preSubmitDeadlines := deadlines }
  | pressured {event : NnrpServerEvent} {pressure : RuntimePressureState} (hevent : event.Plain) :
      Decoded s packet event { s with pressure }
  | closing {metadata : SessionCloseMetadata} {lifecycle : ConnectionLifecycle}
      (hclose : s.lifecycle.beginSessionClose packet.header metadata = .ok lifecycle) :
      Decoded s packet (.close metadata) { s with lifecycle, pendingClose := some metadata }

inductive Finished (s : NnrpServerSession) (packet : RuntimePacket) :
    NnrpServerEvent → NnrpServerSession → Prop
  | kept {event : NnrpServerEvent} (hevent : event.Plain) (hqueued : queuedFor s packet = 0) :
      Finished s packet event s
  | ended {event : NnrpServerEvent} {operationId : UInt64} {record : OperationRecord}
      {state : OperationState} (hevent : event.Plain) (hqueued : queuedFor s packet = 1)
      (hending : Ending s operationId record state) :
      Finished s packet event (s.ended operationId record state)

inductive Refused (s : NnrpServerSession) (packet : RuntimePacket) : NnrpServerSession → Prop
  | same : Refused s packet s
  | released {metadata : FrameSubmitMetadata} {reserved : UInt64} {reservation : Reservation}
      (htype : packet.messageType = .frameSubmit)
      (hparse : FrameSubmitMetadata.parse packet.metadata = .ok metadata)
      (hheld : s.preSubmitDeadlines.byOperation[reserved]? = some reservation)
      (hdiffers : reserved = metadata.operationId ∧ reservation.frameId ≠ packet.frameId ∨
        reserved ≠ metadata.operationId ∧ reservation.frameId = packet.frameId) :
      Refused s packet
        { s with preSubmitDeadlines := s.preSubmitDeadlines.without reserved reservation }

section
variable {s : NnrpServerSession} {α β : Type} {done : β → NnrpServerSession → Prop}
  {failed : NnrpServerSession → Prop} {id : UInt64} {frameId : UInt32} {r : OperationRecord}
  {state : OperationState} {p : RuntimePacket}
  {f : OperationRegistry → OperationRegistry × Except NnrpError α}

theorem onRegistry_ok {r : OperationRegistry} {a : α} (h : f s.operations = (r, .ok a)) :
    call (onRegistry f) s = (.ok a, { s with operations := r }) := by
  change (liftNnrp (f s.operations).2, { s with operations := (f s.operations).1 }) = _
  rw [h]
  rfl

theorem onRegistry_error {e : NnrpError} (h : f s.operations = (s.operations, .error e)) :
    call (onRegistry f) s = (.error (.protocol e), s) := by
  change (liftNnrp (f s.operations).2, { s with operations := (f s.operations).1 }) = _
  rw [h]
  rfl

theorem ensurePendingCapacity_of (h : s.pendingInputs.length < maxPendingServerInputs) :
    s.ensurePendingCapacity = .ok () :=
  if_neg (Nat.not_le.mpr h)

theorem ensurePendingCapacity_room (h : s.ensurePendingCapacity = .ok ()) :
    s.pendingInputs.length < maxPendingServerInputs := by
  rw [ensurePendingCapacity] at h
  split_ifs at h with hfull
  exact Nat.lt_of_not_le hfull

theorem queueLifecycle_ok (hnz : id ≠ 0) (hroom : s.pendingInputs.length < maxPendingServerInputs) :
    call (queueLifecycle id state) s = (.ok (), s.pushInput (.event (.lifecycle ⟨id, state⟩))) := by
  have hnew : OperationLifecycleEvent.new id state = .ok ⟨id, state⟩ :=
    if_neg hnz
  rw [queueLifecycle, call_bind_check s (ensurePendingCapacity_of hroom), hnew]
  rfl

theorem queuedFor_of (htgt : endTarget s p = some id)
    (held : s.operations.operations[id]? = some r) :
    queuedFor s p = if r.state.isTerminal then 0 else 1 := by
  rw [queuedFor, htgt, Option.bind_some, held]

theorem queuedFor_active (htgt : endTarget s p = some id)
    (held : s.operations.operations[id]? = some r)
    (hact : r.state.isTerminal = false) : queuedFor s p = 1 := by
  rw [queuedFor_of htgt held, hact]
  rfl

theorem queuedFor_unknown (htgt : endTarget s p = some id)
    (hunknown : s.operations.operations[id]? = none) : queuedFor s p = 0 := by
  rw [queuedFor, htgt, Option.bind_some, hunknown]

theorem queuedFor_of_not_ends (h : endsOperation p.messageType = false) : queuedFor s p = 0 := by
  have htgt : endTarget s p = none := by
    unfold endsOperation at h
    unfold endTarget
    split
    all_goals simp_all
  rw [queuedFor, htgt]
  rfl

variable {ev : NnrpServerEvent} {s' : NnrpServerSession}

theorem Finished.decoded (h : Finished s p ev s') (htype : endsOperation p.messageType = true) :
    Decoded s p ev s' := by
  cases h with
  | kept hevent hqueued => exact .read hevent
  | ended hevent hqueued hending => exact .ended hevent htype hending

theorem Finished.queued (h : Finished s p ev s') :
    s'.pendingInputs.length = s.pendingInputs.length + queuedFor s p := by
  cases h with
  | kept hevent hqueued => rw [hqueued, Nat.add_zero]
  | ended hevent hqueued hending =>
    rw [hqueued]
    exact List.length_append

theorem takeForSubmit_cases {g : Option SchedulingMetadata → ServerM β} {now : UInt64}
    (hv : s.preSubmitDeadlines.Valid)
    (hexpired : ¬s.preSubmitDeadlines.Lets id frameId now → failed s)
    (hcontradicted : ¬s.preSubmitDeadlines.Lets id frameId now →
      ∀ resd resv, s.preSubmitDeadlines.byOperation[resd]? = some resv →
      (resd = id ∧ resv.frameId ≠ frameId ∨ resd ≠ id ∧ resv.frameId = frameId) →
      failed { s with preSubmitDeadlines := s.preSubmitDeadlines.without resd resv })
    (hok : s.preSubmitDeadlines.Lets id frameId now → ∀ dls resd,
      s.preSubmitDeadlines.Taken id frameId (dls, .ok resd) →
      Ensures (g resd) { s with preSubmitDeadlines := dls } done failed) :
    Ensures (takeForSubmit id frameId now >>= g) s done failed := by
  have htaken : s.preSubmitDeadlines.Taken id frameId
      (s.preSubmitDeadlines.takeForSubmit id frameId now) :=
    PreSubmitDeadlineReservations.takeForSubmit_taken hv
  have hlets := s.preSubmitDeadlines.takeForSubmit_ok_iff id frameId now
  have hcall : call (takeForSubmit id frameId now) s =
      ((s.preSubmitDeadlines.takeForSubmit id frameId now).2, { s with preSubmitDeadlines :=
          (s.preSubmitDeadlines.takeForSubmit id frameId now).1 }) := rfl
  generalize s.preSubmitDeadlines.takeForSubmit id frameId now = taken at htaken hcall hlets
  obtain ⟨dls, x⟩ := taken
  cases x with
  | error e =>
    have hnot : ¬s.preSubmitDeadlines.Lets id frameId now := by
      intro h
      obtain ⟨resd, hresv⟩ := hlets.mpr h
      cases hresv
    apply Ensures.call_error_bind hcall
    cases htaken with
    | expired => exact hexpired hnot
    | contradicted hheld hdiffers => exact hcontradicted hnot _ _ hheld hdiffers
  | ok resd =>
    exact .call_ok_bind hcall (hok (hlets.mp ⟨resd, rfl⟩) dls resd htaken)

end

/-- The packet is a submit that the session accepts. The state of the session in its connection is
not among the checks. -/
structure Admits (s : NnrpServerSession) (packet : RuntimePacket) (nowUnixMs : UInt64)
    (metadata : FrameSubmitMetadata) : Prop where
  type : packet.messageType = .frameSubmit
  session : packet.sessionId = s.sessionId
  length : packet.metadata.length = frameSubmitMetadataLen
  parse : FrameSubmitMetadata.parse packet.metadata = .ok metadata
  unbound : packet.frameId ∉ s.frameOperations
  lets : s.preSubmitDeadlines.Lets metadata.operationId packet.frameId nowUnixMs
  nonzero : metadata.operationId ≠ 0
  new : s.operations.operations[metadata.operationId]? = none

variable {s : NnrpServerSession} {pkt : RuntimePacket} {now : UInt64} {opId : UInt64}
  {message : String}

theorem requireSessionPacket_iff :
    s.requireSessionPacket pkt message = .ok () ↔ pkt.sessionId = s.sessionId := by
  simp [requireSessionPacket]

theorem requireMetadataLen_iff {want : ℕ} :
    DecoderSession.requireMetadataLen pkt want message = .ok () ↔
      pkt.metadata.length = want := by
  simp [DecoderSession.requireMetadataLen]

inductive Submitted (s : NnrpServerSession) (packet : RuntimePacket) (nowUnixMs : UInt64) :
    NnrpServerEvent → NnrpServerSession → Prop
  | mk {metadata : FrameSubmitMetadata} {schedule : OperationSchedule}
      {deadlines : PreSubmitDeadlineReservations} {reserved : Option SchedulingMetadata}
      (hadmits : Admits s packet nowUnixMs metadata)
      (htaken : s.preSubmitDeadlines.Taken metadata.operationId packet.frameId
        (deadlines, .ok reserved)) :
      Submitted s packet nowUnixMs
        (.submit ⟨metadata.operationId, packet.frameId, .ofCommon packet.header, metadata,
          packet.body⟩)
        (s.submitted metadata.operationId packet.frameId schedule deadlines)

theorem Submitted.decoded {ev : NnrpServerEvent} {s' : NnrpServerSession}
    (h : Submitted s pkt now ev s') : Decoded s pkt ev s' := by
  obtain ⟨hadmits, htaken⟩ := h
  exact .submitted hadmits.type rfl hadmits.nonzero hadmits.new
    (get_eq_none.mpr hadmits.unbound) htaken

theorem handleFrameSubmitPacket_ensures (hs : Correlated s) :
    Ensures (handleFrameSubmitPacket pkt now) s (Submitted s pkt now)
      (fun s' => Refused s pkt s' ∧ ∀ md, ¬Admits s pkt now md) := by
  refine .refuse_bind (fun htype => ⟨.same, fun m h => htype h.type⟩) fun htype => ?_
  refine .check_bind (fun e he => ⟨.same, fun m h => ?_⟩) fun _ hsess => ?_
  · rw [requireSessionPacket_iff.mpr h.session] at he
    cases he
  refine .lift_bind (fun e he => ⟨.same, fun m h => ?_⟩) fun _ hlen => ?_
  · rw [requireMetadataLen_iff.mpr h.length] at he
    cases he
  refine .lift_bind (fun e he => ⟨.same, fun m h => ?_⟩) fun md hm => ?_
  · rw [liftNnrp_eq_ok.mpr h.parse] at he
    cases he
  refine .refuse_bind (fun hbound => ⟨.same, fun m h => h.unbound hbound⟩) fun hunbound => ?_
  have htype := not_not.mp htype
  have hparse : FrameSubmitMetadata.parse pkt.metadata = .ok md := liftNnrp_eq_ok.mp hm
  have hself {m : FrameSubmitMetadata} (h : Admits s pkt now m) : m = md :=
    Except.ok.inj (h.parse.symm.trans hparse)
  apply takeForSubmit_cases hs.reservations
  · exact fun hnot => ⟨.same, fun m h => hnot (hself h ▸ h.lets)⟩
  · intro hnot resd resv hheld hdiffers
    exact ⟨.released htype hparse hheld hdiffers, fun m h => hnot (hself h ▸ h.lets)⟩
  · intro hlets dls resd htaken
    refine .check_ok_bind rfl ?_
    have hregister := s.operations.register_cases md.operationId hs.session
    rcases hregister with ⟨hnz, hnew, hregister⟩ | ⟨href, e, hregister⟩
    · refine .call_ok_bind (onRegistry_ok hregister) ?_
      have hadmits : Admits s pkt now md :=
        ⟨htype, requireSessionPacket_iff.mp hsess, requireMetadataLen_iff.mp hlen, hparse,
          hunbound, hlets, hnz, hnew⟩
      cases htaken with
      | free hop hframe =>
        exact .write_bind (.pure (.mk hadmits (.free hop hframe)))
      | matched hheld hframe =>
        obtain ⟨-, -, hid⟩ := hs.reservations.nonzero _ _ hheld
        have hrec := s.operations.set_get_self md.operationId
          { descriptor := { sessionId := s.sessionId, operationId := md.operationId } }
        rw [← hid] at hrec
        rcases OperationRegistry.applySchedulingUpdate_cases hrec (.inr (.inl rfl)) with
          ⟨-, -, sched, happly⟩ | ⟨href, -⟩
        · rw [← hid]
          refine .call_ok_bind (onRegistry_ok happly) ?_
          rw [OperationRegistry.set_set, hid]
          exact .write_bind (.pure (.mk hadmits (.matched hheld hframe)))
        · exact absurd ⟨rfl, rfl⟩ href
    · -- A reservation of the operation would have kept it out of the registry.
      cases htaken with
      | free hop hframe =>
        refine .call_error_bind (onRegistry_error hregister) ⟨.same, fun m h => href ?_⟩
        rw [← hself h]
        exact ⟨h.nonzero, h.new⟩
      | matched hheld hframe =>
        refine absurd ⟨(hs.reservations.nonzero _ _ hheld).1, ?_⟩ href
        exact hs.unregistered_of_unbound (hs.free _ _ hheld).1

theorem requireOperationFrame_bound {fid : UInt32}
    (h : s.requireOperationFrame opId fid = .ok ()) (hnz : opId ≠ 0) :
    s.operationFrames[opId]? = some fid := by
  rw [requireOperationFrame, DecoderSession.requireOperationFrame] at h
  obtain ⟨want, hexp, h⟩ := bind_eq_ok.mp h
  rw [DecoderSession.correlatedFrameId, if_neg hnz] at hexp
  split at hexp
  · rename_i bound hbound
    cases hexp
    obtain ⟨hsame, -⟩ := of_refused_eq_ok rfl h
    rw [← not_not.mp hsame]
    exact hbound
  · cases hexp

theorem decodeFrameCancel_ensures (hs : Correlated s) (htype : pkt.messageType = .frameCancel) :
    Ensures (decodeFrameCancel pkt) s (Finished s pkt) (Refused s pkt) := by
  refine .guard .same fun _ _ => .refuse_bind (fun _ => .same) fun _ => ?_
  refine .guard .same fun opId hop => ?_
  refine .guard .same fun _ hcap => .check_ok_bind rfl ?_
  have hframe := operationIdForFrame_bound hop
  have hbound := (hs.inverse _ _).mp hframe
  have htgt : endTarget s pkt = some opId := by
    rw [endTarget, htype]
    exact hframe
  have hroom := ensurePendingCapacity_room hcap
  obtain ⟨r, hrec, hnz, hdesc⟩ := hs.record_of_bound hbound
  have hcancel := OperationRegistry.cancel_of hrec (congrArg (·.sessionId) hdesc)
  by_cases hterm : r.state.isTerminal = true
  · rw [if_pos hterm] at hcancel
    refine .call_ok_bind (onRegistry_ok hcancel) (.pure (.kept trivial ?_))
    rw [queuedFor_of htgt hrec, if_pos hterm]
  · rw [if_neg hterm] at hcancel
    have hqueue : call (queueEach .cancelled [opId])
        (s.withRecord opId { r with state := .cancelled }) = (.ok (), s.ended opId r .cancelled) :=
      call_bind_ok (queueLifecycle_ok hnz hroom)
    have hact := Bool.eq_false_of_not_eq_true hterm
    refine .call_ok_bind (onRegistry_ok hcancel) (.call_ok_bind hqueue (.pure ?_))
    exact .ended trivial (queuedFor_active htgt hrec hact) ⟨hrec, hact, rfl, hroom⟩

variable {rec : OperationRecord}

theorem decodeFrameCancel_of (hsess : pkt.sessionId = s.sessionId)
    (hempty : pkt.metadata = [] ∧ pkt.body = [])
    (hbound : s.frameOperations[pkt.frameId]? = some opId) (hnz : opId ≠ 0)
    (held : s.operations.operations[opId]? = some rec)
    (hdesc : rec.descriptor.sessionId = s.sessionId)
    (hroom : s.pendingInputs.length < maxPendingServerInputs) :
    call (decodeFrameCancel pkt) s = (.ok (.frameCancel pkt.frameId),
      if rec.state.isTerminal then s else s.ended opId rec .cancelled) := by
  have hfull : ¬(pkt.metadata ≠ [] ∨ pkt.body ≠ []) := by simp [hempty]
  have hop : s.operationIdForFrame pkt.frameId = .ok opId := by
    rw [operationIdForFrame, hbound]
  have hcancel := OperationRegistry.cancel_of held hdesc
  have hreg {r : OperationRegistry} {ids : List UInt64}
      (h : s.operations.cancel ⟨s.sessionId, opId, .operation⟩ = (r, .ok ids)) :
      call (onRegistry (·.cancel ⟨s.sessionId, opId, .operation⟩)) s =
        (.ok ids, { s with operations := r }) := onRegistry_ok h
  rw [decodeFrameCancel, refuse, call_bind_check s (requireSessionPacket_iff.mpr hsess),
    call_bind_check s (if_neg hfull), call_bind_check s hop,
    call_bind_check s (ensurePendingCapacity_of hroom)]
  split_ifs at hcancel ⊢ with hterm
  · exact (call_bind_ok rfl).trans (call_bind_ok (hreg hcancel))
  · have hqueue : call (queueEach .cancelled [opId])
        (s.withRecord opId { rec with state := .cancelled }) =
          (.ok (), s.ended opId rec .cancelled) :=
      call_bind_ok (queueLifecycle_ok hnz hroom)
    exact (call_bind_ok rfl).trans ((call_bind_ok (hreg hcancel)).trans (call_bind_ok hqueue))

theorem applyControl_abort {ty : MessageType} (h : ty ≠ .cancel)
    (opId : UInt64) : applyControl ty opId =
      (onRegistry (·.abort opId) >>= fun _ => pure .failed) := by
  rw [applyControl]
  intro hcancel
  exact absurd hcancel h

theorem applyControl_call (ty : MessageType) (hrec : s.operations.operations[opId]? = some rec)
    (hsess : rec.descriptor.sessionId = s.sessionId) :
    (rec.state.isTerminal = false ∧ ∃ state : OperationState, state.isTerminal = true ∧
      call (applyControl ty opId) s = (.ok state, s.withRecord opId { rec with state })) ∨
      rec.state.isTerminal = true ∧ ∃ e, call (applyControl ty opId) s = (.error e, s) := by
  have hcancel := OperationRegistry.cancel_of hrec hsess
  by_cases htype : ty = .cancel
  · subst htype
    by_cases hterm : rec.state.isTerminal = true
    · rw [if_pos hterm] at hcancel
      have hcall : call (onRegistry (·.cancel ⟨s.sessionId, opId, .operation⟩)) s =
          (.ok [], s) := onRegistry_ok hcancel
      exact .inr ⟨hterm, _, (call_bind_ok rfl).trans ((call_bind_ok hcall).trans rfl)⟩
    · rw [if_neg hterm] at hcancel
      have hcall : call (onRegistry (·.cancel ⟨s.sessionId, opId, .operation⟩)) s =
          (.ok [opId], _) := onRegistry_ok hcancel
      refine .inl ⟨Bool.eq_false_of_not_eq_true hterm, .cancelled, rfl, ?_⟩
      exact (call_bind_ok rfl).trans (call_bind_ok hcall)
  · rw [applyControl_abort htype]
    rcases OperationRegistry.transition_active_cases hrec (.inl rfl) with
      ⟨hact, habort⟩ | ⟨hterm, e, habort⟩
    · exact .inl ⟨hact, .failed, rfl, call_bind_ok (onRegistry_ok habort)⟩
    · exact .inr ⟨hterm, _, call_bind_error (onRegistry_error habort)⟩

theorem decodeControl_ensures (hs : Correlated s)
    (htype : pkt.messageType = .cancel ∨ pkt.messageType = .abort) :
    Ensures (decodeControl pkt) s (Finished s pkt) (Refused s pkt) := by
  refine .guard .same fun _ _ => .guard .same fun _ _ => ?_
  refine .guard .same fun m hm => .guard .same fun _ _ => ?_
  refine .guard .same fun _ _ => .guard .same fun _ hframe => ?_
  have htgt : endTarget s pkt = some m.operationId := by
    have hparse : ControlRequestMetadata.parse pkt.metadata = .ok m :=
      liftNnrp_eq_ok.mp hm
    rcases htype with h | h <;> rw [endTarget, h, hparse] <;> rfl
  by_cases hzero : m.operationId = 0
  · rw [if_pos hzero]
    refine .pure (.kept trivial (queuedFor_unknown htgt ?_))
    by_contra hknown
    obtain ⟨rec, hrec⟩ := Option.ne_none_iff_exists'.mp hknown
    exact (hs.record _ rec hrec).1 hzero
  rw [if_neg hzero]
  refine .guard .same fun _ hcap => ?_
  have hroom := ensurePendingCapacity_room hcap
  have hbound := requireOperationFrame_bound hframe hzero
  obtain ⟨rec, hrec, -, hdesc⟩ := hs.record_of_bound hbound
  rcases applyControl_call pkt.messageType hrec (congrArg (·.sessionId) hdesc) with
    ⟨hact, state, hterm, hcall⟩ | ⟨-, e, hcall⟩
  · refine .call_ok_bind hcall (.call_ok_bind (queueLifecycle_ok hzero hroom) (.pure ?_))
    exact .ended trivial (queuedFor_active htgt hrec hact) ⟨hrec, hact, hterm, hroom⟩
  · exact .call_error_bind hcall .same

theorem decodeScheduling_ensures (hs : Correlated s)
    (htype : pkt.messageType = .priorityUpdate ∨ pkt.messageType = .deadline ∨
      pkt.messageType = .expireAt) :
    Ensures (decodeScheduling pkt now) s (Decoded s pkt) (Refused s pkt) := by
  refine .guard .same fun _ _ => .refuse_bind (fun _ => .same) fun _ => ?_
  refine .guard .same fun m _ => .guard .same fun _ _ => ?_
  refine .check_ok_bind rfl ?_
  cases hbound : s.operationFrames[m.operationId]? with
  | some expectedFrameId =>
    refine .refuse_bind (fun _ => .same) fun _ => .check_ok_bind rfl ?_
    obtain ⟨rec, hrec, -, hdesc⟩ := hs.record_of_bound hbound
    rcases OperationRegistry.applySchedulingUpdate_cases hrec htype with
      ⟨-, -, sched, happly⟩ | ⟨-, e, happly⟩
    · exact .call_ok_bind (onRegistry_ok happly) (.pure (.scheduled trivial hrec))
    · exact .call_error_bind (onRegistry_error happly) .same
  | none =>
    dsimp only
    by_cases hdeadline : pkt.messageType = .deadline
    · rw [if_pos hdeadline]
      refine .refuse_bind (fun _ => .same) fun hframe => ?_
      refine .guard .same fun dls hreserve => .write_bind (.pure ?_)
      exact .reserved trivial hbound (get_eq_none.mpr hframe) hreserve
    · rw [if_neg hdeadline]
      exact .guard .same fun _ h => by cases h

theorem decodeSupersede_ensures (hs : Correlated s) (htype : pkt.messageType = .supersede) :
    Ensures (decodeSupersede pkt) s (Finished s pkt) (Refused s pkt) := by
  refine .guard .same fun _ _ => .guard .same fun _ _ => ?_
  refine .guard .same fun m hm => .guard .same fun _ _ => ?_
  refine .guard .same fun _ _ => .guard .same fun _ hcap => ?_
  have hroom := ensurePendingCapacity_room hcap
  have htgt : endTarget s pkt = some m.oldOperationId := by
    have hparse : SupersedeMetadata.parse pkt.metadata = .ok m := liftNnrp_eq_ok.mp hm
    rw [endTarget, htype, hparse]
    rfl
  rcases s.operations.transition_cases m.oldOperationId .superseded with
    ⟨rec, hrec, hcan, htrans⟩ | ⟨e, htrans⟩
  · have hnz := (hs.record _ _ hrec).1
    have hact := OperationState.active_of_canTransitionTo hcan
    refine .call_ok_bind (onRegistry_ok htrans) ?_
    refine .call_ok_bind (queueLifecycle_ok hnz hroom) (.pure ?_)
    exact .ended trivial (queuedFor_active htgt hrec hact) ⟨hrec, hact, rfl, hroom⟩
  · exact .call_error_bind (onRegistry_error htrans) .same

theorem decodeUpdate_ensures (update : Except RuntimeError DecodedUpdate) :
    Ensures (decodeUpdate update) s (Decoded s pkt) (Refused s pkt) := by
  refine .guard .same fun update _ => ?_
  cases update with
  | pressure ty m =>
    exact .guard .same fun pressure _ => .write_bind (.pure (.pressured trivial))
  | flowUpdate | capability | routeHint | traceContext | recoverableError | retryAfter =>
    exact .pure (.read trivial)

theorem decodeClose_ensures : Ensures (decodeClose pkt) s (Decoded s pkt) (Refused s pkt) := by
  refine .guard .same fun _ _ => .guard .same fun m _ => ?_
  refine .guard .same fun life hclose => .write_bind (.pure ?_)
  exact .closing (liftNnrp_eq_ok.mp hclose)

theorem decodePartialResult_ensures :
    Ensures (decodePartialResult pkt) s (Decoded s pkt) (Refused s pkt) := by
  refine .guard .same fun _ _ => .guard .same fun _ _ => ?_
  refine .guard .same fun _ _ => .guard .same fun _ _ => ?_
  refine .guard .same fun _ _ => .guard .same fun _ _ => ?_
  exact .guard .same fun _ _ => .pure (.read trivial)

theorem decodeProgress_ensures :
    Ensures (decodeProgress pkt) s (Decoded s pkt) (Refused s pkt) := by
  refine .guard .same fun _ _ => .guard .same fun _ _ => ?_
  refine .guard .same fun _ _ => .guard .same fun _ _ => ?_
  refine .guard .same fun _ _ => .guard .same fun _ _ => ?_
  exact .guard .same fun _ _ => .pure (.read trivial)

theorem decodeResultDropReason_ensures :
    Ensures (decodeResultDropReason pkt) s (Decoded s pkt) (Refused s pkt) := by
  refine .guard .same fun _ _ => .guard .same fun _ _ => ?_
  refine .guard .same fun _ _ => .guard .same fun _ _ => ?_
  refine .guard .same fun _ _ => .guard .same fun _ _ => ?_
  exact .pure (.read trivial)

theorem decodeReference_plain (s : NnrpServerSession) (pkt : RuntimePacket) :
    Yields NnrpServerEvent.Plain (s.decodeReference pkt) := by
  have hok {ev : NnrpServerEvent} (h : ev.Plain) :
      Yields NnrpServerEvent.Plain (.ok ev : Except RuntimeError NnrpServerEvent) := .ok h
  rw [decodeReference]
  split
  · exact .bind fun _ => .ite .error (.bind fun _ => .bind fun _ => hok trivial)
  · exact .bind fun _ => hok trivial
  · exact .bind fun _ => .bind fun _ => hok trivial
  · exact .bind fun _ => .bind fun _ => hok trivial
  · exact .bind fun _ => hok trivial
  · exact .bind fun _ => hok trivial
  · exact .bind fun _ => hok trivial
  · exact .bind fun _ => hok trivial
  · exact .bind fun _ => .ite .error (.bind fun _ => hok trivial)
  · exact .error

theorem decodeServerEvent_finishes (hs : Correlated s)
    (hends : endsOperation pkt.messageType = true) :
    Ensures (decodeServerEvent pkt now) s (Finished s pkt) (Refused s pkt) := by
  cases htype : pkt.messageType with
  | frameCancel =>
    rw [decodeServerEvent, htype]
    exact decodeFrameCancel_ensures hs htype
  | cancel =>
    rw [decodeServerEvent, htype]
    exact decodeControl_ensures hs (.inl htype)
  | abort =>
    rw [decodeServerEvent, htype]
    exact decodeControl_ensures hs (.inr htype)
  | supersede =>
    rw [decodeServerEvent, htype]
    exact decodeSupersede_ensures hs htype
  | _ =>
    rw [htype] at hends
    cases hends

theorem decodeServerEvent_ensures (hs : Correlated s) :
    Ensures (decodeServerEvent pkt now) s (Decoded s pkt) (Refused s pkt) := by
  by_cases hends : endsOperation pkt.messageType = true
  · exact (decodeServerEvent_finishes hs hends).imp (fun _ _ h => h.decoded hends) fun _ h => h
  rw [decodeServerEvent]
  split
  · exact (handleFrameSubmitPacket_ensures hs).imp (fun _ _ h => h.decoded) fun _ h => h.1
  · exact absurd (congrArg endsOperation ‹_›) hends
  · exact decodePartialResult_ensures
  · exact decodeProgress_ensures
  · exact decodeResultDropReason_ensures
  · exact absurd (congrArg endsOperation ‹_›) hends
  · exact absurd (congrArg endsOperation ‹_›) hends
  · exact decodeScheduling_ensures hs (.inl ‹_›)
  · exact decodeScheduling_ensures hs (.inr (.inl ‹_›))
  · exact decodeScheduling_ensures hs (.inr (.inr ‹_›))
  · exact absurd (congrArg endsOperation ‹_›) hends
  · exact decodeClose_ensures
  · refine .check_ok_bind rfl ?_
    cases s.decoder.decodeUpdate pkt with
    | some update => exact decodeUpdate_ensures update
    | none =>
      refine .check (fun ev hevent => .read ?_) fun _ _ => .same
      exact (decodeReference_plain s pkt).of_ok ev hevent

theorem decodeServerEvent_queues (hs : Correlated s) : Ensures (decodeServerEvent pkt now) s
      (fun _ s' => s'.pendingInputs.length = s.pendingInputs.length + queuedFor s pkt)
      fun _ => True := by
  by_cases hends : endsOperation pkt.messageType = true
  · exact (decodeServerEvent_finishes hs hends).imp (fun _ _ h => h.queued) fun _ _ => trivial
  · refine (decodeServerEvent_ensures hs).imp (fun _ s' h => ?_) fun _ _ => trivial
    rw [queuedFor_of_not_ends (Bool.eq_false_of_not_eq_true hends), Nat.add_zero]
    cases h with
    | ended hevent htype => exact absurd htype hends
    | read | submitted | scheduled | reserved | pressured | closing => rfl

theorem decodeServerEvent_submits (hs : Correlated s) : Ensures (decodeServerEvent pkt now) s
      (fun event _ => (∃ op, event = .submit op) ↔ pkt.messageType = .frameSubmit)
      fun _ => True := by
  by_cases htype : pkt.messageType = .frameSubmit
  · rw [decodeServerEvent, htype]
    refine (handleFrameSubmitPacket_ensures hs).imp (fun event _ h => ?_) fun _ _ => trivial
    cases h
    exact iff_of_true ⟨_, rfl⟩ rfl
  · refine (decodeServerEvent_ensures hs).imp (fun event _ h => ?_) fun _ _ => trivial
    refine iff_of_false (fun hsubmit => ?_) htype
    obtain ⟨op, rfl⟩ := hsubmit
    cases h with
    | submitted hsubmit => exact htype hsubmit
    | read hevent | ended hevent | scheduled hevent | reserved hevent | pressured hevent =>
      exact hevent

end Nnrp.Server
