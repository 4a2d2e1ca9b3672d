import Nnrp.CrossingPackets

/-!
# What two sessions read about an operation

A good packet is read without an error unless the receiver has ended its operation on its own. A
server refuses a control of the client for an operation in a terminal state. A client refuses output
of an operation that it has marked as terminal, and a drop of an operation whose result it has
received.
-/

namespace Nnrp.Crossing
open OrderedMap Protocol ByteOrder Packet Data Control Stateful RuntimeEvent Operation Fallible
open Server
open OperationView
open ControlUpdate.DecoderSession (requireMetadataLen requireBodyLen)
open Client (NnrpClientSession Ledger)
open Server (NnrpServerSession)

def clientPhase (l : Ledger) (frameId : UInt32) : ClientPhase :=
  match l.operations[frameId]? with
  | none => .absent
  | some operationId => if l.marks[operationId]? = none then .open else .marked

def serverPhase (s : NnrpServerSession) (frameId : UInt32) : ServerPhase :=
  match s.frameOperations[frameId]? with
  | none => .unknown
  | some operationId =>
    match s.operations.operations[operationId]? with
    | none => .unknown
    | some record => if record.state.isTerminal then .ended else .live

def ServerCrosses (s : NnrpServerSession) (p : RuntimePacket) : Prop :=
  up p = some .control ∧ serverPhase s p.frameId = .ended

def ClientCrosses (l : Ledger) (p : RuntimePacket) : Prop :=
  (down p = some .output ∧ clientPhase l p.frameId = .marked) ∨
    (down p = some .drop ∧ clientPhase l p.frameId = .absent)

structure Proper (binding : Binding) : Prop where
  nonzero : ∀ frameId operationId, binding frameId = some operationId →
    frameId ≠ 0 ∧ operationId ≠ 0
  injective : ∀ frameId other operationId, binding frameId = some operationId →
    binding other = some operationId → frameId = other

structure ClientSound (binding : Binding) (s : NnrpClientSession) : Prop where
  valid : s.ledger.Valid
  pendingEvents : s.pendingEvents = []
  bound : ∀ (operationId : UInt64) (frameId : UInt32),
    s.ledger.frames[operationId]? = some frameId → binding frameId = some operationId
  numbered : ∀ frameId operationId, binding frameId = some operationId →
    frameId < s.ledger.next ∧ operationId ∈ s.ledger.seen
  sent : ∀ p ∈ s.sent, p.sessionId = s.sessionId ∧ UpKind binding p

structure ServerSound (binding : Binding) (s : NnrpServerSession) : Prop where
  session : s.sessionId ≠ 0
  inverse : Inverse s.operationFrames s.frameOperations
  bound : ∀ (operationId : UInt64) (frameId : UInt32),
    s.operationFrames[operationId]? = some frameId → binding frameId = some operationId
  record : ∀ (operationId : UInt64) (frameId : UInt32),
    s.operationFrames[operationId]? = some frameId →
      ∃ record, s.operations.operations[operationId]? = some record ∧
        record.descriptor.sessionId = s.sessionId
  registered : ∀ (operationId : UInt64) (record : OperationRecord),
    s.operations.operations[operationId]? = some record →
      ∃ frameId, s.operationFrames[operationId]? = some frameId
  reservations : s.preSubmitDeadlines.byOperation = ∅ ∧ s.preSubmitDeadlines.byFrame = ∅
  inputs : ∀ input ∈ s.pendingInputs, ∃ event, input = .event event
  sent : ∀ p ∈ s.sent, p.sessionId = s.sessionId ∧ DownKind binding p

section
variable {bnd : Binding} {fid : UInt32} {id : UInt64} {l : Ledger}

theorem clientPhase_bound (hv : l.Valid) (hbound : l.frames[id]? = some fid) :
    clientPhase l fid = if l.marks[id]? = none then .open else .marked := by
  rw [clientPhase, (hv.inverse id fid).mp hbound]

theorem clientPhase_held (hv : l.Valid) (hbound : l.frames[id]? = some fid) :
    clientPhase l fid ≠ .absent := by
  rw [clientPhase_bound hv hbound]
  split_ifs <;> decide

theorem ClientSound.bound_of_held {s : NnrpClientSession} (h : ClientSound bnd s)
    (hbind : bnd fid = some id) (hheld : clientPhase s.ledger fid ≠ .absent) :
    s.ledger.frames[id]? = some fid := by
  rw [clientPhase] at hheld
  split at hheld
  · exact absurd rfl hheld
  · rename_i other hother
    have hframe := (h.valid.inverse other fid).mpr hother
    rw [h.bound other fid hframe] at hbind
    cases hbind
    exact hframe

variable {s : NnrpServerSession} {r : OperationRecord}

theorem serverPhase_bound (h : ServerSound bnd s) (hbound : s.operationFrames[id]? = some fid)
    (hrec : s.operations.operations[id]? = some r) :
    serverPhase s fid = if r.state.isTerminal then .ended else .live := by
  rw [serverPhase, (h.inverse id fid).mp hbound]
  simp only [hrec]

theorem ServerSound.bound_of_known (h : ServerSound bnd s)
    (hbind : bnd fid = some id) (hknown : serverPhase s fid ≠ .unknown) :
    s.operationFrames[id]? = some fid := by
  rw [serverPhase] at hknown
  split at hknown
  · exact absurd rfl hknown
  · rename_i other hother
    have hframe := (h.inverse other fid).mpr hother
    rw [h.bound other fid hframe] at hbind
    cases hbind
    exact hframe

theorem ServerSound.unbound_of_unknown (h : ServerSound bnd s)
    (hunknown : serverPhase s fid = .unknown) : s.frameOperations[fid]? = none := by
  cases hother : s.frameOperations[fid]? with
  | none => rfl
  | some other =>
    obtain ⟨r, hrec, -⟩ := h.record other fid ((h.inverse other fid).mpr hother)
    rw [serverPhase, hother] at hunknown
    simp only [hrec] at hunknown
    split_ifs at hunknown

end

variable {p : RuntimePacket} {message : String} {input : Except RuntimeError RuntimePacket}
  {want : UInt32}

theorem Carries.read_bind {σ M α : Type} {s : σ} {metadataLen : ℕ}
    {parse : Bytes → Except NnrpError M} {m : M}
    {sess : σ → Except RuntimeError Unit} {g : M → Method σ RuntimeError α}
    {done : α → σ → Prop} {failed : σ → Prop} (hcarries : Carries p metadataLen parse m)
    (hsess : sess s = .ok ()) (hrest : Ensures (g m) s done failed) :
    Ensures (do
      check sess
      lift (requireMetadataLen p metadataLen message)
      let md ← lift (liftNnrp (parse p.metadata))
      g md) s done failed := by
  refine .check_ok_bind hsess ?_
  refine .lift_ok_bind (if_neg (not_not.mpr hcarries.length)) ?_
  exact .lift_ok_bind (liftNnrp_eq_ok.mpr hcarries.parsed) hrest

theorem requireBodyLen_ok
    (h : p.body.length = want.toNat) : requireBodyLen p want message = .ok () :=
  if_neg (not_not.mpr h)

inductive ClientRead (s s' : NnrpClientSession) (p : RuntimePacket) : Prop
  | output (hdown : down p = some .output) (hopen : clientPhase s.ledger p.frameId = .open)
      (hsame : s' = s)
  | ending {operationId : UInt64} {m : Down} (hdown : down p = some m) (hm : m ≠ .output)
      (hbound : s.ledger.frames[operationId]? = some p.frameId)
      (hfinish : s' = s.finish operationId p.frameId)

abbrev ClientReads {α : Type} (s : NnrpClientSession) (p : RuntimePacket) (m : Client.SessionM α) :
    Prop :=
  Ensures m s (fun _ s' => ClientRead s s' p) fun _ => ClientCrosses s.ledger p

section
variable {binding : Binding} {s s' : NnrpClientSession} {p : RuntimePacket} {opId : UInt64}

theorem ClientRead.not_crosses (hv : s.ledger.Valid) (h : ClientRead s s' p) :
    ¬ClientCrosses s.ledger p := by
  rintro (⟨hdown, hphase⟩ | ⟨hdown, hphase⟩)
  · cases h with
    | output _ hopen =>
      rw [hopen] at hphase
      cases hphase
    | ending hdown' hm =>
      rw [hdown] at hdown'
      exact hm (Option.some.inj hdown').symm
  · cases h with
    | output hdown' =>
      rw [hdown] at hdown'
      cases hdown'
    | ending _ _ hbound => exact clientPhase_held hv hbound hphase

theorem clientSession_ok (h : p.sessionId = s.sessionId) (message : String) :
    s.requireSessionPacket p message = .ok () :=
  if_neg (not_not.mpr h)

theorem requireOperationFrame_of_bound {fid : UInt32} (hne : opId ≠ 0)
    (hbound : s.ledger.frames[opId]? = some fid) : s.requireOperationFrame opId fid = .ok () := by
  change s.operationFrames[opId]? = some fid at hbound
  have hframe : s.correlatedFrameId opId = .ok fid := by
    rw [NnrpClientSession.correlatedFrameId, if_neg hne, hbound]
  rw [NnrpClientSession.requireOperationFrame, hframe, ok_bind, ensure_eq_ok]

theorem output_reads {lengthMessage message : String} {ev : NnrpClientEvent}
    (hv : s.ledger.Valid) (hbody : p.body.length = want.toNat)
    (hbound : s.ledger.frames[opId]? = some p.frameId) (hdown : down p = some .output) :
    ClientReads s p (do
      lift (requireBodyLen p want lengthMessage)
      check (·.requireOperationFrame opId p.frameId)
      check (·.requireNonterminalOperation opId message)
      pure ev) := by
  have hne := (hv.bound _ _ hbound).1
  refine .lift_ok_bind (requireBodyLen_ok hbody) ?_
  refine .check_ok_bind (requireOperationFrame_of_bound hne hbound) ?_
  refine .check_bind (fun e he => ?_) fun _ hok => .pure ?_
  · refine .inl ⟨hdown, ?_⟩
    rw [clientPhase_bound hv hbound, if_neg]
    intro hmark
    change s.localOperationStates[opId]? = none at hmark
    rw [NnrpClientSession.requireNonterminalOperation, hmark] at he
    cases he
  · refine .output hdown ?_ rfl
    rw [clientPhase_bound hv hbound, if_pos]
    cases hmark : s.ledger.marks[opId]? with
    | none => rfl
    | some state =>
      have hterm := (hv.marked opId state hmark hne).1
      rw [Client.requireNonterminalOperation_ok hok state hmark] at hterm
      cases hterm

theorem fromRuntime_reads {message : ResultMessage} {m : Down} (hne : opId ≠ 0)
    (hdown : down p = some m) (hm : m ≠ .output)
    (hbound : s.ledger.frames[opId]? = some p.frameId) :
    Ensures (do
      let result ← lift (NnrpResult.fromRuntime opId (.ofCommon p.header) message)
      pure (NnrpClientEvent.result result)) (s.finish opId p.frameId)
      (fun _ s' => ClientRead s s' p) (fun _ => ClientCrosses s.ledger p) := by
  refine .lift_bind (fun e he => ?_) fun _ _ => .pure (.ending hdown hm hbound rfl)
  rw [NnrpResult.fromRuntime, if_neg hne] at he
  cases he

section
variable (hs : ClientSound binding s) (hsess : p.sessionId = s.sessionId)
include hs hsess

theorem decodeResultPush_reads {m : ResultPushMetadata} (htype : p.messageType = .resultPush)
    (hcarries : Carries p resultPushMetadataLen ResultPushMetadata.parse m)
    (hbound : s.ledger.frames[opId]? = some p.frameId) :
    ClientReads s p (Client.decodeResultPush p) := by
  have hne := (hs.valid.bound _ _ hbound).1
  have hop : s.frameOperations[p.frameId]? = some opId := (hs.valid.inverse _ _).mp hbound
  refine hcarries.read_bind (clientSession_ok hsess _) ?_
  have hfinish : Ensures (Client.completeOperationByFrame p.frameId) s
      (fun a s' => a = opId ∧ s' = s.finish opId p.frameId)
      (fun _ => ClientCrosses s.ledger p) := by
    refine .check_ok_bind (b := opId) ?_ (.write_bind (.pure ⟨rfl, rfl⟩))
    rw [hop]
  refine .bind _ hfinish ?_
  rintro _ _ ⟨rfl, rfl⟩
  exact fromRuntime_reads hne (by rw [down, htype]) (by decide) hbound

theorem decodeResultDropReason_reads {m : ResultDropReasonMetadata}
    (htype : p.messageType = .resultDropReason)
    (hcarries : Carries p resultDropReasonMetadataLen ResultDropReasonMetadata.parse m)
    (hvalid : validateResultDropReasonSemantics m = .ok ())
    (hbody : p.body.length = m.diagnosticBytes.toNat)
    (hbind : binding p.frameId = some m.operationId) :
    ClientReads s p (Client.decodeResultDropReason p) := by
  have hne := Client.validateResultDropReasonSemantics_ok (liftNnrp_eq_ok.mpr hvalid)
  have hdown : down p = some .drop := by rw [down, htype]
  refine hcarries.read_bind (clientSession_ok hsess _) ?_
  refine .lift_ok_bind (liftNnrp_eq_ok.mpr hvalid) ?_
  refine .lift_ok_bind (requireBodyLen_ok hbody) ?_
  have hfinish : Ensures (Client.completeOperation m.operationId p.frameId) s
      (fun _ s' => s.ledger.frames[m.operationId]? = some p.frameId ∧
        s' = s.finish m.operationId p.frameId)
      (fun _ => ClientCrosses s.ledger p) := by
    refine .check_bind (fun e he => ?_) fun _ hok => .write ?_
    · refine .inr ⟨hdown, ?_⟩
      by_contra hheld
      have hbound := hs.bound_of_held hbind hheld
      rw [requireOperationFrame_of_bound hne hbound] at he
      cases he
    · exact ⟨Client.requireOperationFrame_ok hok hne, rfl⟩
  refine .bind _ hfinish ?_
  rintro _ _ ⟨hbound, rfl⟩
  exact fromRuntime_reads hne hdown (by decide) hbound

/-- A client that still holds the operations of output and results reads every good packet, unless
the packet crosses. -/
theorem decodeEvent_reads (hkind : DownKind binding p)
    (hheld : down p ≠ some .drop → clientPhase s.ledger p.frameId ≠ .absent) :
    ClientReads s p (Client.decodeEvent p) := by
  have hbound : ∀ {opId : UInt64}, binding p.frameId = some opId →
      down p ≠ some .drop → s.ledger.frames[opId]? = some p.frameId :=
    fun hbind hdown => hs.bound_of_held hbind (hheld hdown)
  cases hkind with
  | progress htype hcarries hvalid hbody hbind
  | partialResult htype hcarries hvalid hbody hbind =>
    have hdown : down p ≠ some .drop := by rw [down, htype]; decide
    rw [Client.decodeEvent, htype]
    refine hcarries.read_bind (clientSession_ok hsess _) ?_
    refine .lift_ok_bind (liftNnrp_eq_ok.mpr hvalid) ?_
    exact output_reads hs.valid hbody (hbound hbind hdown) (by rw [down, htype])
  | push htype hcarries hbind =>
    have hdown : down p ≠ some .drop := by rw [down, htype]; decide
    rw [Client.decodeEvent, htype]
    exact decodeResultPush_reads hs hsess htype hcarries (hbound hbind hdown)
  | drop htype hcarries hvalid hbody hbind =>
    rw [Client.decodeEvent, htype]
    exact decodeResultDropReason_reads hs hsess htype hcarries hvalid hbody hbind

theorem clientAwaitEvent_reads (hrole : s.pendingRoleEvents = []) (hkind : DownKind binding p)
    (hheld : down p ≠ some .drop → clientPhase s.ledger p.frameId ≠ .absent) :
    ClientReads s p (Client.awaitEvent (.ok p)) := by
  refine .popFront_bind (fun _ => ?_) fun ev rest hcons => ?_
  · refine .bind (fun _ s' => ClientRead s s' p) ?_ fun _ _ h => .pure h
    refine .popFront_bind (fun _ => ?_) fun entry rest hcons => ?_
    · refine .lift_ok_bind rfl ?_
      exact .bind _ (decodeEvent_reads hs hsess hkind hheld) fun _ _ h => .pure h
    · rw [hs.pendingEvents] at hcons
      cases hcons
  · rw [hrole] at hcons
    cases hcons

end

theorem clientAwaitEvent_takes {ev : OperationLifecycleEvent} {rest : List OperationLifecycleEvent}
    (hrole : s.pendingRoleEvents = ev :: rest) :
    Ensures (Client.awaitEvent input) s (fun _ s' => s' = { s with pendingRoleEvents := rest })
      (fun _ => False) := by
  refine .popFront_bind (fun hnil => ?_) fun ev rest hcons => ?_
  · rw [hrole] at hnil
    cases hnil
  · rw [hrole] at hcons
    cases hcons
    exact .pure rfl

end

def accept (s : NnrpServerSession) (operationId : UInt64) (frameId : UInt32) : NnrpServerSession :=
  { s with
    operations := ⟨s.operations.operations.insert operationId
      { descriptor := { sessionId := s.sessionId, operationId } }⟩ }.bind operationId frameId

structure ServerEnded (s s' : NnrpServerSession) (operationId : UInt64) : Prop extends
    ServerKept s s' where
  sent : s'.sent = s.sent
  ends : Ends s.operations s'.operations operationId

inductive ServerRead (binding : Binding) (s s' : NnrpServerSession) (p : RuntimePacket) : Prop
  | accepted {operationId : UInt64} (hup : up p = some .submit)
      (hbinding : binding p.frameId = some operationId)
      (hfree : s.frameOperations[p.frameId]? = none)
      (hnew : s.operations.operations[operationId]? = none)
      (hsame : s' = accept s operationId p.frameId)
  | ended {operationId : UInt64} {m : Up} (hup : up p = some m) (hm : m ≠ .submit)
      (hlive : m = .control → serverPhase s p.frameId = .live)
      (hbound : s.operationFrames[operationId]? = some p.frameId)
      (hended : ServerEnded s s' operationId)
  | sessionControl (hframe : p.frameId = 0) (hsame : s' = s)

abbrev ServerReads {α : Type} (binding : Binding) (s : NnrpServerSession) (p : RuntimePacket)
    (m : Server.ServerM α) : Prop :=
  Ensures m s (fun _ s' => ServerRead binding s s' p) fun _ => ServerCrosses s p

variable {binding : Binding} {s s' : NnrpServerSession} {p : RuntimePacket} {opId : UInt64}
  {rec : OperationRecord} {now : UInt64} {fid : UInt32}

theorem ServerRead.not_crosses (hb : Proper binding) (hs : ServerSound binding s)
    (h : ServerRead binding s s' p) : ¬ServerCrosses s p := by
  rintro ⟨hup, hphase⟩
  cases h with
  | accepted hup' =>
    rw [hup] at hup'
    cases hup'
  | ended hup' _ hlive =>
    rw [hup] at hup'
    cases hup'
    rw [hlive rfl] at hphase
    cases hphase
  | sessionControl hframe =>
    rw [hframe, serverPhase] at hphase
    split at hphase
    · cases hphase
    · rename_i opId hop
      have hzero := hs.bound opId 0 ((hs.inverse opId 0).mpr hop)
      exact (hb.nonzero _ _ hzero).1 rfl

theorem serverOperationFrame_ok (hne : opId ≠ 0)
    (hbound : s.operationFrames[opId]? = some fid) : s.requireOperationFrame opId fid = .ok () := by
  have hframe : s.decoder.correlatedFrameId opId = .ok fid :=
    correlatedFrameId_of hne hbound
  rw [NnrpServerSession.requireOperationFrame, ControlUpdate.DecoderSession.requireOperationFrame,
    hframe, ok_bind, if_neg (not_not.mpr rfl)]
  rfl

theorem ServerRead.of_ended {m : Up} {state : OperationState} (hup : up p = some m)
    (hm : m ≠ .submit) (hlive : m = .control → serverPhase s p.frameId = .live)
    (hbound : s.operationFrames[opId]? = some p.frameId)
    (hrec : s.operations.operations[opId]? = some rec) (hstate : state.isTerminal = true) :
    ServerRead binding s (s.ended opId rec state) p :=
  .ended hup hm hlive hbound ⟨⟨rfl, rfl, rfl, rfl, .inr ⟨_, rfl⟩⟩, rfl, .set hrec hstate rfl⟩

theorem takeForSubmit_none
    (hnone : s.preSubmitDeadlines.byOperation = ∅ ∧ s.preSubmitDeadlines.byFrame = ∅) :
    call (takeForSubmit opId fid now) s = (.ok none, s) := by
  have htake : s.preSubmitDeadlines.takeForSubmit opId fid now =
      (s.preSubmitDeadlines, .ok none) := by
    simp [PreSubmit.PreSubmitDeadlineReservations.takeForSubmit,
      PreSubmit.PreSubmitDeadlineReservations.rejectExpired,
      PreSubmit.PreSubmitDeadlineReservations.removeOperation, hnone.1, hnone.2, values]
  change ((s.preSubmitDeadlines.takeForSubmit opId fid now).2, { s with preSubmitDeadlines :=
      (s.preSubmitDeadlines.takeForSubmit opId fid now).1 }) = _
  rw [htake]

section
variable (hs : ServerSound binding s) (hsess : p.sessionId = s.sessionId)
include hs hsess

theorem handleFrameSubmitPacket_reads {m : FrameSubmitMetadata}
    (htype : p.messageType = .frameSubmit)
    (hcarries : Carries p frameSubmitMetadataLen FrameSubmitMetadata.parse m)
    (hbind : binding p.frameId = some m.operationId)
    (hfree : s.frameOperations[p.frameId]? = none) (hne : m.operationId ≠ 0)
    (hnew : s.operations.operations[m.operationId]? = none) :
    ServerReads binding s p (handleFrameSubmitPacket p now) := by
  refine .refuse_bind (fun hother => absurd htype hother) fun _ => ?_
  refine hcarries.read_bind (requireSessionPacket_iff.mpr hsess) ?_
  refine .refuse_bind (fun hmem => absurd hmem (get_eq_none.mp hfree)) fun _ => ?_
  refine .call_ok_bind (takeForSubmit_none hs.reservations) ?_
  refine .check_ok_bind rfl ?_
  rcases s.operations.register_cases m.operationId hs.session with
    ⟨-, -, hregister⟩ | ⟨href, -⟩
  · refine .call_ok_bind (onRegistry_ok hregister) ?_
    exact .write_bind (.pure (.accepted (by rw [up, htype]) hbind hfree hnew rfl))
  · exact absurd ⟨hne, hnew⟩ href

theorem decodeFrameCancel_reads (htype : p.messageType = .frameCancel)
    (hempty : p.metadata = [] ∧ p.body = []) (hne : opId ≠ 0)
    (hbound : s.operationFrames[opId]? = some p.frameId)
    (hroom : s.pendingInputs.length < maxPendingServerInputs) :
    ServerReads binding s p (decodeFrameCancel p) := by
  obtain ⟨rec, hrec, hdesc⟩ := hs.record _ _ hbound
  have hup : up p = some .cancelFrame := by rw [up, htype]
  have hlive : Up.cancelFrame = .control → serverPhase s p.frameId = .live := by rintro ⟨⟩
  refine .call_ok (decodeFrameCancel_of hsess hempty ((hs.inverse _ _).mp hbound) hne
    hrec hdesc hroom) ?_
  split_ifs with hterm
  · refine .ended hup (by decide) hlive hbound ?_
    exact ⟨⟨rfl, rfl, rfl, rfl, .inl rfl⟩, rfl, .of_terminal hrec hterm⟩
  · exact .of_ended hup (by decide) hlive hbound hrec rfl

theorem decodeControl_reads {m : ControlRequestMetadata}
    (htype : p.messageType = .cancel ∨ p.messageType = .abort)
    (hcarries : Carries p controlRequestMetadataLen ControlRequestMetadata.parse m)
    (hvalid : validateControlRequestSemantics p.messageType m = .ok ())
    (hbody : p.body.length = m.diagnosticBytes.toNat)
    (hbound : (m.operationId = 0 ∧ p.frameId = 0) ∨
      (m.operationId ≠ 0 ∧ s.operationFrames[m.operationId]? = some p.frameId))
    (hroom : s.pendingInputs.length < maxPendingServerInputs) :
    ServerReads binding s p (decodeControl p) := by
  have hup : up p = some .control := by
    rcases htype with htype | htype <;> rw [up, htype]
  refine hcarries.read_bind (requireSessionPacket_iff.mpr hsess) ?_
  refine .lift_ok_bind (liftNnrp_eq_ok.mpr hvalid) ?_
  refine .lift_ok_bind (requireBodyLen_ok hbody) ?_
  rcases hbound with ⟨hzero, hframe⟩ | ⟨hne, hbound⟩
  · refine .check_ok_bind (b := ()) ?_ ?_
    · rw [hzero, hframe]
      rfl
    · rw [if_pos hzero]
      exact .pure (.sessionControl hframe rfl)
  · obtain ⟨rec, hrec, hdesc⟩ := hs.record _ _ hbound
    have hphase := serverPhase_bound hs hbound hrec
    refine .check_ok_bind (serverOperationFrame_ok hne hbound) ?_
    rw [if_neg hne]
    refine .check_ok_bind (ensurePendingCapacity_of hroom) ?_
    rcases applyControl_call p.messageType hrec hdesc with
      ⟨hact, state, hstate, hcall⟩ | ⟨hterm, e, hcall⟩
    · refine .call_ok_bind hcall ?_
      refine .call_ok_bind (queueLifecycle_ok hne hroom) (.pure ?_)
      rw [hact, if_neg (by decide)] at hphase
      exact .of_ended hup (by decide) (fun _ => hphase) hbound hrec hstate
    · rw [if_pos hterm] at hphase
      exact .call_error_bind hcall ⟨hup, hphase⟩

theorem decodeSupersede_reads {m : SupersedeMetadata} (htype : p.messageType = .supersede)
    (hcarries : Carries p supersedeMetadataLen SupersedeMetadata.parse m)
    (hbody : p.body.length = m.diagnosticBytes.toNat) (hne : m.oldOperationId ≠ 0)
    (hbound : s.operationFrames[m.oldOperationId]? = some p.frameId)
    (hroom : s.pendingInputs.length < maxPendingServerInputs) :
    ServerReads binding s p (decodeSupersede p) := by
  have hup : up p = some .control := by rw [up, htype]
  obtain ⟨rec, hrec, hdesc⟩ := hs.record _ _ hbound
  have hphase := serverPhase_bound hs hbound hrec
  refine hcarries.read_bind (requireSessionPacket_iff.mpr hsess) ?_
  refine .lift_ok_bind (requireBodyLen_ok hbody) ?_
  refine .check_ok_bind (serverOperationFrame_ok hne hbound) ?_
  refine .check_ok_bind (ensurePendingCapacity_of hroom) ?_
  rcases OperationRegistry.transition_active_cases hrec (.inr rfl) with
    ⟨hact, htrans⟩ | ⟨hterm, e, htrans⟩
  · refine .call_ok_bind (onRegistry_ok htrans) ?_
    refine .call_ok_bind (queueLifecycle_ok hne hroom) (.pure ?_)
    rw [hact, if_neg (by decide)] at hphase
    exact .of_ended hup (by decide) (fun _ => hphase) hbound hrec rfl
  · rw [if_pos hterm] at hphase
    exact .call_error_bind (onRegistry_error htrans) ⟨hup, hphase⟩

/-- A server that knows the operation of a request and has not seen the frame of a submit reads
every good packet, unless the packet crosses. -/
theorem decodeServerEvent_reads (hb : Proper binding) (hkind : UpKind binding p)
    (hqueue : s.pendingInputs = [])
    (hfirst : up p = some .submit → serverPhase s p.frameId = .unknown)
    (hknown : up p ≠ some .submit → p.frameId ≠ 0 → serverPhase s p.frameId ≠ .unknown) :
    ServerReads binding s p (decodeServerEvent p now) := by
  have hroom : s.pendingInputs.length < maxPendingServerInputs := by
    rw [hqueue]
    decide
  have hne : ∀ {opId : UInt64}, binding p.frameId = some opId → opId ≠ 0 :=
    fun hbind => (hb.nonzero _ _ hbind).2
  have hbound : ∀ {opId : UInt64}, binding p.frameId = some opId →
      up p ≠ some .submit → s.operationFrames[opId]? = some p.frameId :=
    fun hbind hup => hs.bound_of_known hbind (hknown hup (hb.nonzero _ _ hbind).1)
  cases hkind with
  | submit htype hcarries hbind =>
    have hfree := hs.unbound_of_unknown (hfirst (by rw [up, htype]))
    rw [decodeServerEvent, htype]
    refine handleFrameSubmitPacket_reads hs hsess htype hcarries hbind hfree (hne hbind) ?_
    -- a record of the operation would be bound to a frame, and that frame is this one
    rename_i m
    cases hrec : s.operations.operations[m.operationId]? with
    | none => rfl
    | some rec =>
      obtain ⟨fid, hother⟩ := hs.registered _ _ hrec
      have heq := hb.injective _ _ _ (hs.bound _ _ hother) hbind
      rw [heq] at hother
      rw [(hs.inverse _ _).mp hother] at hfree
      cases hfree
  | cancelFrame htype hempty hbind =>
    have hup : up p ≠ some .submit := by rw [up, htype]; decide
    rw [decodeServerEvent, htype]
    exact decodeFrameCancel_reads hs hsess htype hempty (hne hbind) (hbound hbind hup) hroom
  | control htype hcarries hvalid hbody hbind =>
    have hup : up p ≠ some .submit := by
      rcases htype with htype | htype <;> rw [up, htype] <;> decide
    have hdec : decodeServerEvent p now = decodeControl p := by
      rcases htype with htype | htype <;> rw [decodeServerEvent, htype]
    rw [hdec]
    refine decodeControl_reads hs hsess htype hcarries hvalid hbody ?_ hroom
    exact hbind.imp id fun hbind => ⟨hne hbind, hbound hbind hup⟩
  | supersede htype hcarries hbody hbind =>
    have hup : up p ≠ some .submit := by rw [up, htype]; decide
    rw [decodeServerEvent, htype]
    exact decodeSupersede_reads hs hsess htype hcarries hbody (hne hbind) (hbound hbind hup) hroom

end

theorem rejectExpired_ok (hs : ServerSound binding s) :
    s.preSubmitDeadlines.rejectExpired now = .ok () := by
  simp [PreSubmit.PreSubmitDeadlineReservations.rejectExpired, hs.reservations.1, values]

theorem UpKind.not_dedicated (h : UpKind binding p) :
    isDedicatedRoleMessage p.messageType = false := by
  cases h with
  | submit htype | cancelFrame htype | supersede htype => rw [htype]; rfl
  | control htype => rcases htype with htype | htype <;> rw [htype] <;> rfl

theorem serverAwaitEvent_reads {done : NnrpServerSession → Prop} {failed : NnrpServerSession → Prop}
    (hs : ServerSound binding s) (hkind : UpKind binding p) (hqueue : s.pendingInputs = [])
    (h : Ensures (decodeServerEvent p now) s (fun _ => done) failed) :
    Ensures (awaitEvent (.ok p) now) s (fun _ => done) failed := by
  refine .check_ok_bind rfl ?_
  rw [hqueue]
  refine .bind (fun input s' => (∃ ev, input = .event ev) ∧ done s') ?_ ?_
  · refine .lift_ok_bind rfl ?_
    refine .check_ok_bind (rejectExpired_ok hs) ?_
    rw [hkind.not_dedicated]
    exact .bind _ h fun ev _ hdone => .pure ⟨⟨ev, rfl⟩, hdone⟩
  · rintro _ _ ⟨⟨ev, rfl⟩, hdone⟩
    exact .pure hdone

theorem serverAwaitEvent_takes
    {first : Server.PendingServerInput} {rest : List Server.PendingServerInput}
    (hs : ServerSound binding s) (hqueue : s.pendingInputs = first :: rest) :
    Ensures (awaitEvent input now) s (fun _ s' => s' = { s with pendingInputs := rest })
      (fun _ => False) := by
  obtain ⟨ev, rfl⟩ := hs.inputs first (by rw [hqueue]; exact List.mem_cons_self)
  refine .check_ok_bind rfl ?_
  rw [hqueue]
  exact .write_bind (.pure rfl)

end Nnrp.Crossing
