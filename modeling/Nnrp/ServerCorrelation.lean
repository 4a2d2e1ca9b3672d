import Nnrp.ServerRun
import Nnrp.SubmitCall

/-!
# Correlation of frames and operations in the server session

Every call keeps the maps, the registry and the reservations in agreement, so they agree in every
state of every run. The frame of a submit is taken as it comes.
-/

namespace Nnrp.Server
open OrderedMap Protocol Packet Data PreSubmit PreSubmitDeadlineReservations
open Stateful Operation LabelledRun
open Lifecycle (ConnectionLifecycle)

namespace Correlated

variable {s s' : NnrpServerSession} {p : RuntimePacket} {id : UInt64}
  {r : OperationRecord}

theorem of_bindings (hs : Correlated s) (h : s'.bindings = s.bindings) : Correlated s' := by
  have hsess : s'.sessionId = s.sessionId := congrArg Bindings.sessionId h
  have hops : s'.operations = s.operations := congrArg Bindings.operations h
  have hframes : s'.frameOperations = s.frameOperations := congrArg Bindings.frameOperations h
  have hinverse : s'.operationFrames = s.operationFrames := congrArg Bindings.operationFrames h
  have hdls : s'.preSubmitDeadlines = s.preSubmitDeadlines :=
    congrArg Bindings.preSubmitDeadlines h
  constructor
  · rw [hsess]
    exact hs.session
  · rw [hframes, hinverse]
    exact hs.inverse
  · rw [hinverse, hops]
    exact hs.registered
  · rw [hops, hsess]
    exact hs.record
  · rw [hdls]
    exact hs.reservations
  · rw [hdls, hframes, hinverse]
    exact hs.free

theorem opened (h : Opened s) : Correlated s := by
  obtain ⟨maxInFlightOperations, hdls⟩ := h.preSubmitDeadlines
  constructor
  · exact h.session
  · rw [h.frameOperations, h.operationFrames]
    exact inverse_empty
  · rw [h.operationFrames, h.operations]
    intro id
    simp
  · rw [h.operations]
    intro id r hrec
    simp at hrec
  · rw [hdls]
    exact .new maxInFlightOperations
  · rw [hdls]
    intro id resv hresvn
    simp [new] at hresvn

theorem withRecord (hs : Correlated s) (held : s.operations.operations[id]? = some r)
    {r' : OperationRecord} (hdesc : r'.descriptor = r.descriptor) :
    Correlated (s.withRecord id r') where
  session := hs.session
  inverse := hs.inverse
  registered a := by
    rw [NnrpServerSession.withRecord, OperationRegistry.set, mem_map_insert, hs.registered]
    refine ⟨.inr, ?_⟩
    rintro (rfl | h)
    · exact mem_iff_get.mpr ⟨r, held⟩
    · exact h
  record a recordA ha := by
    rw [NnrpServerSession.withRecord, OperationRegistry.set_get] at ha
    split_ifs at ha with hself
    · cases ha
      rw [hdesc, ← hself]
      exact hs.record id r held
    · exact hs.record a recordA ha
  reservations := hs.reservations
  free := hs.free

theorem ended {state : OperationState} (hs : Correlated s)
    (held : s.operations.operations[id]? = some r) : Correlated (s.ended id r state) := by
  have hrec : Correlated (s.withRecord id { r with state }) :=
    hs.withRecord held rfl
  exact hrec.of_bindings rfl

variable {dls : PreSubmitDeadlineReservations}

variable (hs : Correlated s) {fid : UInt32}
include hs

theorem submitted {sched : OperationSchedule} {resd : Option SchedulingMetadata}
    (hnz : id ≠ 0) (hnew : s.operations.operations[id]? = none)
    (hunbound : s.frameOperations[fid]? = none)
    (htaken : s.preSubmitDeadlines.Taken id fid (dls, .ok resd)) :
    Correlated (s.submitted id fid sched dls) := by
  obtain ⟨hvalid, hleft⟩ := htaken.ok hs.reservations
  constructor
  · exact hs.session
  · exact hs.inverse.insert hunbound (hs.unbound_of_unregistered hnew)
  · intro a
    change a ∈ s.operationFrames.insert id fid ↔
      a ∈ s.operations.operations.insert id _
    rw [mem_map_insert, mem_map_insert, hs.registered]
  · intro a recordA ha
    rw [NnrpServerSession.submitted, NnrpServerSession.bind, OperationRegistry.set_get] at ha
    split_ifs at ha with hself
    · cases ha
      rw [← hself]
      exact ⟨hnz, rfl⟩
    · exact hs.record a recordA ha
  · exact hvalid
  · intro a resv ha
    obtain ⟨ha, hop, hframe⟩ := hleft a resv ha
    obtain ⟨hfreeOperation, hfreeFrame⟩ := hs.free a resv ha
    change (s.operationFrames.insert id fid)[a]? = none ∧
      (s.frameOperations.insert fid id)[resv.frameId]? = none
    rw [get_insert, get_insert, if_neg (Ne.symm hop), if_neg (Ne.symm hframe)]
    exact ⟨hfreeOperation, hfreeFrame⟩

theorem without {resd : UInt64} {resv : Reservation}
    (held : s.preSubmitDeadlines.byOperation[resd]? = some resv) : Correlated
      { s with preSubmitDeadlines := s.preSubmitDeadlines.without resd resv } where
  session := hs.session
  inverse := hs.inverse
  registered := hs.registered
  record := hs.record
  reservations := hs.reservations.without held
  free a other ha := hs.free a other (without_get ha).2

theorem reserved {m : SchedulingMetadata}
    {now : UInt64} (hop : s.operationFrames[m.operationId]? = none)
    (hframe : s.frameOperations[fid]? = none)
    (hreserve : s.preSubmitDeadlines.reserve fid m now = .ok dls) :
    Correlated { s with preSubmitDeadlines := dls } where
  session := hs.session
  inverse := hs.inverse
  registered := hs.registered
  record := hs.record
  reservations := hs.reservations.reserve hreserve
  free a other ha := by
    obtain ⟨-, -, -, -, -, rfl⟩ := reserve_ok hreserve
    rw [get_insert] at ha
    split_ifs at ha with hself
    · cases ha
      rw [← hself]
      exact ⟨hop, hframe⟩
    · exact hs.free a other ha

theorem decoded {ev : NnrpServerEvent} (h : Decoded s p ev s') : Correlated s' := by
  cases h with
  | read => exact hs
  | submitted htype hframe hnz hnew hunbound htaken =>
    exact hs.submitted hnz hnew hunbound htaken
  | ended hevent htype hending => exact hs.ended hending.held
  | scheduled hevent hrec => exact hs.withRecord hrec rfl
  | reserved hevent hop hframe hreserve => exact hs.reserved hop hframe hreserve
  | pressured | closing => exact hs.of_bindings rfl

theorem read {input : PendingServerInput} (h : Read s p input s') : Correlated s' := by
  cases h with
  | role => exact hs
  | event hdecd => exact hs.decoded hdecd

theorem refused (h : Refused s p s') : Correlated s' := by
  cases h with
  | same => exact hs
  | released htype hparse held hdiffers => exact hs.without held

theorem sent {loses : Prop} (h : Sent s loses s') : Correlated s' := by
  cases h with
  | same hkept hcore => exact hs.of_bindings (bindings_of_core hcore)
  | ended hkept hending hcore => exact (hs.ended hending.held).of_bindings (bindings_of_core hcore)
  | lost hlost held hact hcore =>
    refine of_bindings ?_ (bindings_of_core hcore)
    exact hs.withRecord held rfl

theorem moved {c : Call} {out : Option NnrpServerEvent} (h : Moved s c out s') : Correlated s' := by
  cases h with
  | sent hc hout hsent => exact hs.sent hsent
  | queued hsend hbinds hqueued => exact hs.of_bindings hbinds
  | refused hpkt hout href hcore =>
    exact (hs.refused href).of_bindings (bindings_of_core hcore)
  | read hpkt hread hbinds hplaced => exact (hs.read hread).of_bindings hbinds

end Correlated

section
variable {s s' start : NnrpServerSession} {c : Call} {calls : List Call}

def Call.out (s : NnrpServerSession) (c : Call) : Option NnrpServerEvent :=
  (call c.perform s).1.toOption.join

theorem Call.moved (hs : Correlated s) (c : Call) : Moved s c (c.out s) (call c.perform s).2 := by
  rw [Call.out]
  rcases (c.perform_ensures hs).cases with ⟨out, s', hcall, hmoved⟩ | ⟨e, s', hcall, hmoved⟩
  all_goals
    rw [hcall]
    exact hmoved

theorem step_moved (hs : Correlated s) (h : s.step c = some s') : Moved s c (c.out s) s' := by
  cases h
  exact c.moved hs

theorem correlated_of_step (hs : Correlated s) (h : s.step c = some s') : Correlated s' :=
  hs.moved (step_moved hs h)

theorem correlated_after (hs : Correlated start) (calls : List Call) :
    Correlated (start.after calls) :=
  run_induction Correlated (fun _ _ _ hs h => correlated_of_step hs h) hs (run_after start calls)

theorem Reachable.correlated (h : Reachable s) : Correlated s := by
  obtain ⟨start, calls, hopened, rfl⟩ := h
  exact correlated_after (.opened hopened) calls

end

def Call.NamesFrame (c : Call) : Prop :=
  ∀ packet ∈ c.packet, packet.messageType = .frameSubmit → packet.frameId ≠ 0

instance (c : Call) : Decidable c.NamesFrame :=
  inferInstanceAs (Decidable (∀ packet ∈ c.packet, _))

def NonzeroFrames (s : NnrpServerSession) : Prop :=
  ∀ (frameId : UInt32) operationId, s.frameOperations[frameId]? = some operationId → frameId ≠ 0

section
variable {s s' : NnrpServerSession} {pkt : RuntimePacket}

theorem NonzeroFrames.of_eq (hs : NonzeroFrames s) (h : s'.frameOperations = s.frameOperations) :
    NonzeroFrames s' := by
  rw [NonzeroFrames, h]
  exact hs

theorem NonzeroFrames.read (hs : NonzeroFrames s) {input : PendingServerInput}
    (h : Read s pkt input s') (hframe : pkt.messageType = .frameSubmit → pkt.frameId ≠ 0) :
    NonzeroFrames s' := by
  cases h with
  | role => exact hs
  | event hdecd =>
    cases hdecd with
    | submitted htype =>
      intro fid id hbound
      change (s.frameOperations.insert pkt.frameId _)[fid]? = some id at hbound
      rw [get_insert] at hbound
      split_ifs at hbound with hself
      · exact hself ▸ hframe htype
      · exact hs fid id hbound
    | read | ended | scheduled | reserved | pressured | closing => exact hs

theorem NonzeroFrames.moved (hs : NonzeroFrames s) {c : Call} {out : Option NnrpServerEvent}
    (h : Moved s c out s') (hc : c.NamesFrame) : NonzeroFrames s' := by
  cases h with
  | sent _ hout hsent =>
    cases hsent with
    | same hkept hcore =>
      exact hs.of_eq (congrArg Bindings.frameOperations (bindings_of_core hcore))
    | ended hkept hending hcore | lost hlost held hact hcore =>
      exact hs.of_eq (congrArg Bindings.frameOperations (bindings_of_core hcore))
  | queued hsend hbinds hqueued => exact hs.of_eq (congrArg Bindings.frameOperations hbinds)
  | refused hpkt hout href hcore =>
    have hframes := congrArg Bindings.frameOperations (bindings_of_core hcore)
    cases href with
    | same | released => exact hs.of_eq hframes
  | read hpkt hread hbinds hplaced =>
    have ht := hs.read hread (hc _ hpkt)
    exact ht.of_eq (congrArg Bindings.frameOperations hbinds)

end

/-- The maps between frames and operations are mutually inverse, bind exactly the operations of the
registry, which are this session's, to frames other than 0, and bind nothing that is reserved. -/
structure Agrees (s : NnrpServerSession) : Prop where
  inverse : Inverse s.frameOperations s.operationFrames
  registered : ∀ operationId : UInt64,
    operationId ∈ s.operationFrames ↔ operationId ∈ s.operations.operations
  session : ∀ (operationId : UInt64) record, s.operations.operations[operationId]? = some record →
    record.descriptor = { sessionId := s.sessionId, operationId }
  frames : NonzeroFrames s
  operationUnreserved : ∀ operationId : UInt64,
    operationId ∈ s.preSubmitDeadlines.byOperation → operationId ∉ s.operationFrames
  frameUnreserved : ∀ frameId : UInt32,
    frameId ∈ s.preSubmitDeadlines.byFrame → frameId ∉ s.frameOperations

theorem Correlated.agrees {s : NnrpServerSession} (hs : Correlated s) (hframes : NonzeroFrames s) :
    Agrees s where
  inverse := hs.inverse
  registered := hs.registered
  session id r hrec := (hs.record id r hrec).2
  frames := hframes
  operationUnreserved id h := by
    obtain ⟨resv, hresv⟩ := mem_iff_get.mp h
    exact get_eq_none.mp (hs.free id resv hresv).1
  frameUnreserved fid h := by
    obtain ⟨id, hresv⟩ := mem_iff_get.mp h
    obtain ⟨resv, hheld, rfl⟩ := hs.reservations.operation fid id hresv
    exact get_eq_none.mp (hs.free id resv hheld).2

/-- The correlation holds in every state of a run as long as no submit is in the frame 0. -/
theorem agrees_of_named_frames {start : NnrpServerSession} {calls : List Call}
    (hopened : Opened start) (hcalls : ∀ c ∈ calls, c.NamesFrame) : Agrees (start.after calls) := by
  have hstart : NonzeroFrames start := by
    intro fid id hbound
    rw [hopened.frameOperations] at hbound
    simp at hbound
  have hkept := run_invariant (fun s => Correlated s ∧ NonzeroFrames s) ?_
    ⟨.opened hopened, hstart⟩ (along_of_mem hcalls) (run_after start calls)
  · exact hkept.1.agrees hkept.2
  · intro s c s' hs hc hstep
    have hmoved := step_moved hs.1 hstep
    exact ⟨hs.1.moved hmoved, hs.2.moved hmoved hc⟩

def sampleSession : NnrpServerSession := .accepted 7 4 (.withSession 7)

theorem sampleSession_opened : Opened sampleSession where
  session := by decide
  operations := rfl
  frameOperations := rfl
  operationFrames := rfl
  preSubmitDeadlines := ⟨4, rfl⟩
  cacheObjects := rfl
  pendingClose := rfl
  pendingInputs := rfl

def submitPacket (operationId : UInt64) (frameId : UInt32) : RuntimePacket where
  header := { CommonHeader.new .frameSubmit 72 0 with sessionId := 7, frameId }
  metadata := (Submit.sampleRequest operationId frameId).metadata.toBytes.toOption.getD []
  body := []

def arrival (packet : RuntimePacket) : Answer := ⟨.ok packet, 0⟩

def afterSubmit (operationId : UInt64) (frameId : UInt32) : NnrpServerSession :=
  sampleSession.after [.submitRound (arrival (submitPacket operationId frameId))]

def emptyResult : ResultPushMetadata where
  statusCode := 0
  resultFlags := 0
  sectionCount := 0
  tileCount := 0
  activeProfileId := 0
  inferenceMs := 0
  queueMs := 0
  serverTotalMs := 0
  tileBaseId := 0
  tileIndexBytes := 0
  resultClass := .complete
  appliedBudgetPolicy := 0
  reusedFrameId := 0
  coveredTileCount := 0
  droppedTileCount := 0
  payloadKindBitmap := 0
  payloadFrameCount := 0

theorem submit_in_frame_one_agrees :
    (afterSubmit 11 1).frameOperations[(1 : UInt32)]? = some 11 ∧ Agrees (afterSubmit 11 1) := by
  refine ⟨by decide +kernel, agrees_of_named_frames sampleSession_opened ?_⟩
  decide +kernel

theorem submit_in_frame_zero_is_bound :
    Opened sampleSession ∧ (afterSubmit 11 0).frameOperations[(0 : UInt32)]? = some 11 ∧
      ¬Agrees (afterSubmit 11 0) := by
  have hbound : (afterSubmit 11 0).frameOperations[(0 : UInt32)]? = some 11 := by decide +kernel
  exact ⟨sampleSession_opened, hbound, fun h => h.frames 0 11 hbound rfl⟩

section
variable {s : NnrpServerSession} {packet : RuntimePacket} {now : UInt64}

/-- The session without the reservation that a submit contradicts: it names the operation or the
frame of the submit, but not both. -/
def Contradicted (s : NnrpServerSession) (packet : RuntimePacket) (s' : NnrpServerSession) : Prop :=
  packet.messageType = .frameSubmit ∧ ∃ metadata reserved reservation,
    FrameSubmitMetadata.parse packet.metadata = .ok metadata ∧
    s.preSubmitDeadlines.byOperation[reserved]? = some reservation ∧
    (reserved = metadata.operationId ∧ reservation.frameId ≠ packet.frameId ∨
      reserved ≠ metadata.operationId ∧ reservation.frameId = packet.frameId) ∧
    s' = { s with preSubmitDeadlines := s.preSubmitDeadlines.without reserved reservation }

theorem Refused.same_or_contradicted {s' : NnrpServerSession} (h : Refused s packet s') :
    s' = s ∨ Contradicted s packet s' := by
  cases h with
  | same => exact .inl rfl
  | released htype hparse hheld hdiffers =>
    exact .inr ⟨htype, _, _, _, hparse, hheld, hdiffers, rfl⟩

theorem receiveRolePacket_bind {β : Type} {want : MessageType} {error : String}
    (hpend : ∀ input ∈ s.pendingInputs, input.isLifecycle = true)
    (htype : packet.messageType = want)
    (hrole : isDedicatedRoleMessage packet.messageType = true) {rest : RuntimePacket → ServerM β}
    (hrest : Ensures (rest packet) s (fun _ _ => True) (· = s)) :
    Ensures (receiveRolePacket ⟨.ok packet, now⟩ want error >>= rest) s
      (fun _ _ => True) (· = s) := by
  refine .bind (fun p t => p = packet ∧ t = s) ?_ fun p t h => ?_
  · refine .bind (fun input t => input = .rolePacket packet ∧ t = s) ?_ fun input t h => ?_
    · refine .call_ok_bind (takePendingSpecializedInput_none hpend) ?_
      refine .lift_ok_bind rfl (.guard rfl fun _ _ => ?_)
      rw [if_pos hrole]
      exact .pure ⟨rfl, rfl⟩
    · obtain ⟨rfl, rfl⟩ := h
      rw [PendingServerInput.packet, if_pos htype]
      exact .pure ⟨rfl, rfl⟩
  · obtain ⟨rfl, rfl⟩ := h
    exact hrest

theorem Receive.perform_refused {kind : Receive}
    (hpend : ∀ input ∈ s.pendingInputs, input.isLifecycle = true)
    (haccepts : kind.accepts packet.messageType = true)
    (hrole : isDedicatedRoleMessage packet.messageType = true) :
    Ensures (kind.perform ⟨.ok packet, now⟩) s (fun _ _ => True) (· = s) := by
  have hreads {α : Type} {m : ServerM α} (h : Keeps id m) :
      Ensures m s (fun _ _ => True) (· = s) :=
    (h.ensures s).imp (fun _ _ _ => trivial) fun _ h => h
  have hdone {α : Type} {m : ServerM α} (h : Ensures m s (fun _ _ => True) (· = s)) :
      Ensures (m >>= fun _ => pure ()) s (fun _ _ => True) (· = s) :=
    .bind _ h fun _ _ _ => .pure trivial
  cases kind with
  | ping | pong =>
    refine receiveRolePacket_bind hpend (of_decide_eq_true haccepts) hrole (hreads ?_)
    exact .bind .check fun _ => .refuse
  | patch | migrate =>
    refine hdone (receiveRolePacket_bind hpend (of_decide_eq_true haccepts) hrole (hreads ?_))
    exact .bind .check fun _ => .bind .lift fun _ => .lift
  | cacheAck =>
    refine hdone (receiveRolePacket_bind hpend (of_decide_eq_true haccepts) hrole (hreads ?_))
    exact .bind .check fun _ => .bind .refuse fun _ => .lift
  | cachePut =>
    refine hdone (receiveRolePacket_bind hpend (of_decide_eq_true haccepts) hrole ?_)
    refine .guard rfl fun _ _ => .guard rfl fun _ _ => ?_
    refine .guard rfl fun _ _ => .guard rfl fun _ _ => ?_
    refine .guard rfl fun _ _ => ?_
    refine .bind (fun _ _ => True) ?_ fun _ _ _ => .pure trivial
    exact .guard rfl fun _ _ => .write trivial
  | cancel | runtimeControl | schedulingUpdate | pressureUpdate | close =>
    rw [Receive.forRole_of_accepts haccepts] at hrole
    cases hrole

end

/-- A packet whose decoding fails leaves the session as it was, but for the reservation that a
submit contradicts. Packets for a role are decoded by their own receives. -/
theorem refused_packet_has_no_effect {s : NnrpServerSession} (hs : Reachable s)
    (packet : RuntimePacket) (nowUnixMs : UInt64) :
    (∀ e s', call (decodeServerEvent packet nowUnixMs) s = (.error e, s') →
      s' = s ∨ Contradicted s packet s') ∧
    (isDedicatedRoleMessage packet.messageType = true → ∀ (kind : Receive) e s',
      kind.accepts packet.messageType = true →
      (∀ input ∈ s.pendingInputs, input.isLifecycle = true) →
      call (kind.perform ⟨.ok packet, nowUnixMs⟩) s = (.error e, s') → s' = s) := by
  constructor
  · intro e s' hcall
    exact ((decodeServerEvent_ensures hs.correlated).of_error hcall).same_or_contradicted
  · intro hrole kind e s' haccepts hpend hcall
    exact (Receive.perform_refused hpend haccepts hrole).of_error hcall

theorem afterSubmit_reachable (id : UInt64) (fid : UInt32) : Reachable (afterSubmit id fid) :=
  ⟨sampleSession, _, sampleSession_opened, rfl⟩

theorem unknown_cancel_has_no_effect :
    ∃ e, call (decodeServerEvent (.bare .frameCancel 7 9) 0) (afterSubmit 11 1) =
      (.error e, afterSubmit 11 1) := by
  have hfails : (call (decodeServerEvent (.bare .frameCancel 7 9) 0) (afterSubmit 11 1)).1 =
      .error (.unexpectedMessage "server frame id is not bound to an operation") := by
    decide +kernel
  rcases hcall : call (decodeServerEvent (.bare .frameCancel 7 9) 0) (afterSubmit 11 1) with ⟨x, s'⟩
  rw [hcall] at hfails
  subst hfails
  rcases (refused_packet_has_no_effect (afterSubmit_reachable 11 1) _ 0).1 _ _ hcall with
    hsame | hcontradicted
  · exact ⟨_, congrArg (Prod.mk _) hsame⟩
  · cases hcontradicted.1

end Nnrp.Server
