import Nnrp.ClientRun
import Nnrp.OperationView
import Nnrp.SendOutcome

/-!
# The packets that two sessions exchange about an operation

A packet is good for a binding of frames to operations if its receiver finds nothing wrong with it
besides the state of the operation: it carries the session id, its metadata decode to values that
pass their checks, and it names the operation that is bound to its frame. What an accepted call
sends is good.
-/

namespace Nnrp.Crossing
open Protocol ByteOrder Packet Data Control Stateful Operation Fallible Server RuntimePacket
open OperationRegistry
open OperationView
open Client (NnrpClientSession Ledger)
open Server (NnrpServerSession NnrpServerOperation)
open Submit (NnrpSubmitRequest)

abbrev Binding := UInt32 → Option UInt64

structure Carries {M : Type} (p : RuntimePacket) (metadataLen : ℕ)
    (parse : Bytes → Except NnrpError M) (m : M) : Prop where
  length : p.metadata.length = metadataLen
  parsed : parse p.metadata = .ok m

theorem Carries.of_codec {M : Type} {p : RuntimePacket} {bytes : Bytes} {len : ℕ}
    {parse : Bytes → Except NnrpError M} {write : M → Writer} {m : M}
    (hcodec : Canonical len parse write) (hmeta : p.metadata = bytes)
    (hbytes : liftNnrp (bytesOf len (write m)) = .ok bytes) : Carries p len parse m := by
  subst hmeta
  have hbytes := liftNnrp_eq_ok.mp hbytes
  exact ⟨hcodec.length hbytes, hcodec.parses hbytes⟩

inductive UpKind (binding : Binding) (p : RuntimePacket) : Prop
  | submit {m : FrameSubmitMetadata} (htype : p.messageType = .frameSubmit)
      (hcarries : Carries p frameSubmitMetadataLen FrameSubmitMetadata.parse m)
      (hbound : binding p.frameId = some m.operationId)
  | cancelFrame {operationId : UInt64} (htype : p.messageType = .frameCancel)
      (hempty : p.metadata = [] ∧ p.body = []) (hbound : binding p.frameId = some operationId)
  | control {m : ControlRequestMetadata} (htype : p.messageType = .cancel ∨ p.messageType = .abort)
      (hcarries : Carries p controlRequestMetadataLen ControlRequestMetadata.parse m)
      (hvalid : validateControlRequestSemantics p.messageType m = .ok ())
      (hbody : p.body.length = m.diagnosticBytes.toNat)
      (hbound : (m.operationId = 0 ∧ p.frameId = 0) ∨ binding p.frameId = some m.operationId)
  | supersede {m : SupersedeMetadata} (htype : p.messageType = .supersede)
      (hcarries : Carries p supersedeMetadataLen SupersedeMetadata.parse m)
      (hbody : p.body.length = m.diagnosticBytes.toNat)
      (hbound : binding p.frameId = some m.oldOperationId)

inductive DownKind (binding : Binding) (p : RuntimePacket) : Prop
  | progress {m : ProgressMetadata} (htype : p.messageType = .progress)
      (hcarries : Carries p progressMetadataLen ProgressMetadata.parse m)
      (hvalid : validateProgressSemantics m = .ok ())
      (hbody : p.body.length = m.bodyBytes.toNat) (hbound : binding p.frameId = some m.operationId)
  | partialResult {m : PartialResultMetadata} (htype : p.messageType = .partialResult)
      (hcarries : Carries p partialResultMetadataLen PartialResultMetadata.parse m)
      (hvalid : validatePartialResultSemantics m = .ok ())
      (hbody : p.body.length = m.bodyBytes.toNat) (hbound : binding p.frameId = some m.operationId)
  | push {m : ResultPushMetadata} {operationId : UInt64} (htype : p.messageType = .resultPush)
      (hcarries : Carries p resultPushMetadataLen ResultPushMetadata.parse m)
      (hbound : binding p.frameId = some operationId)
  | drop {m : ResultDropReasonMetadata} (htype : p.messageType = .resultDropReason)
      (hcarries : Carries p resultDropReasonMetadataLen ResultDropReasonMetadata.parse m)
      (hvalid : validateResultDropReasonSemantics m = .ok ())
      (hbody : p.body.length = m.diagnosticBytes.toNat)
      (hbound : binding p.frameId = some m.operationId)

def up (p : RuntimePacket) : Option Up :=
  match p.messageType with
  | .frameSubmit => some .submit
  | .frameCancel => some .cancelFrame
  | .cancel | .abort | .supersede => some .control
  | _ => none

def down (p : RuntimePacket) : Option Down :=
  match p.messageType with
  | .progress | .partialResult => some .output
  | .resultPush => some .push
  | .resultDropReason => some .drop
  | _ => none

structure ClientSent (s s' : NnrpClientSession) (p : RuntimePacket) : Prop where
  sent : s'.sent = s.sent ++ [p]
  sessionId : s'.sessionId = s.sessionId
  pendingEvents : s'.pendingEvents = s.pendingEvents
  packet : p.sessionId = s.sessionId

/-- What an accepted call of the client does. A control may name the session instead of an
operation; it then has the frame zero. -/
inductive ClientMoved (s s' : NnrpClientSession) (p : RuntimePacket) : Prop
  | submit {m : FrameSubmitMetadata} (htype : p.messageType = .frameSubmit)
      (hcarries : Carries p frameSubmitMetadataLen FrameSubmitMetadata.parse m)
      (hframe : p.frameId ≠ 0) (hnext : s.ledger.next ≤ p.frameId)
      (hlast : p.frameId < p.frameId + 1) (hzero : m.operationId ≠ 0)
      (hseen : m.operationId ∉ s.ledger.seen)
      (hledger : s'.ledger = s.ledger.submit m.operationId p.frameId)
  | sessionControl (hframe : p.frameId = 0) (hkind : ∀ binding, UpKind binding p)
      (hledger : s'.ledger = s.ledger)
  | request {operationId : UInt64} (hbound : s.ledger.frames[operationId]? = some p.frameId)
      (hkind : ∀ binding : Binding, binding p.frameId = some operationId → UpKind binding p)
      (hup : ∃ m, up p = some m ∧ m ≠ .submit)
      (hledger : s'.ledger = s.ledger ∨
        ∃ state, state.isTerminal = true ∧ s'.ledger = s.ledger.mark operationId state)

abbrev ClientSends {α : Type} (s t : NnrpClientSession) (m : Client.SessionM α) : Prop :=
  Ensures m t (fun _ s' => ∃ p, ClientSent s s' p ∧ ClientMoved s s' p) fun _ => True

section
variable {s : NnrpClientSession} {p : RuntimePacket}

theorem runtimePacket_ok {ty : MessageType} {sid fid metaLen bodyLen : UInt32} {m body : Bytes}
    (h : liftNnrp (RuntimePacket.new { CommonHeader.new ty metaLen bodyLen with
      sessionId := sid, frameId := fid } m body) = .ok p) : p.metadata = m ∧ p.body = body ∧
      p.messageType = ty ∧ p.sessionId = sid ∧ p.frameId = fid :=
  new_ok (liftNnrp_eq_ok.mp h)

theorem submitPacket_ok {req : NnrpSubmitRequest} (h : s.submitPacket req = .ok p) :
    p.messageType = .frameSubmit ∧ p.sessionId = s.sessionId ∧ p.frameId = req.frameId ∧
      Carries p frameSubmitMetadataLen FrameSubmitMetadata.parse req.metadata := by
  rw [Submit.NnrpClientSession.submitPacket] at h
  obtain ⟨bytes, hbytes, h⟩ := bind_eq_ok.mp h
  obtain ⟨hmeta, -, htype, hsess, hframe⟩ := new_ok (liftNnrp_eq_ok.mp h)
  exact ⟨htype, hsess, hframe, .of_codec FrameSubmitMetadata.codec hmeta hbytes⟩

theorem submitNowait_sends (req : NnrpSubmitRequest) (now : UInt64) :
    ClientSends s s (Client.submitNowait req now (.ok ())) := by
  refine .bind_of (Client.prepareSubmit_ensures req now) (fun _ _ => trivial) ?_
  rintro p _ ⟨⟨dls, rfl⟩, ⟨hframe, hnext, hfits, hzero, hseen⟩, hpkt⟩
  obtain ⟨htype, hsess, hid, hcarries⟩ := submitPacket_ok hpkt
  refine Client.writePacket_bind trivial (.write_bind (.pure ⟨p, ⟨rfl, rfl, rfl, hsess⟩, ?_⟩))
  rw [← hid] at hframe hnext hfits
  have hlast : p.frameId < p.frameId + 1 := by
    rw [UInt32.lt_iff_toNat_lt, UInt32.toNat_add, UInt32.toNat_one, Nat.mod_eq_of_lt hfits]
    omega
  refine .submit htype hcarries hframe hnext hlast hzero hseen ?_
  rw [hid]
  rfl

theorem control_sends (ty : MessageType) (m : ControlRequestMetadata) (diags : Bytes) :
    ClientSends s s (Client.sendControlRequestWithDiagnostics ty m diags (.ok ())) := by
  refine .guard trivial fun _ hvalid => ?_
  refine .guard trivial fun _ hbody => ?_
  refine .guard trivial fun _ _ => ?_
  refine .guard trivial fun fid hframe => ?_
  refine .guard trivial fun bytes hbytes => ?_
  refine .guard trivial fun p hpkt => ?_
  refine Client.writePacket_bind trivial ?_
  rw [liftNnrp_eq_ok] at hvalid
  obtain ⟨hmeta, hbodyEq, rfl, hsess, hid⟩ := runtimePacket_ok hpkt
  have hcarries : Carries p controlRequestMetadataLen ControlRequestMetadata.parse m :=
    .of_codec ControlRequestMetadata.codec hmeta hbytes
  have hlen : p.body.length = m.diagnosticBytes.toNat := by
    rw [hbodyEq]
    exact ControlUpdate.requireLenOf_iff.mp hbody
  have htype : p.messageType = .cancel ∨ p.messageType = .abort := by
    revert hvalid
    cases p.messageType <;> simp [validateControlRequestSemantics]
  by_cases hzero : m.operationId = 0
  · rw [if_pos hzero]
    have hframeZero : p.frameId = 0 := by
      rw [NnrpClientSession.correlatedFrameId, if_pos hzero] at hframe
      rw [hid, ← Except.ok.inj hframe]
    refine .pure ⟨p, ⟨rfl, rfl, rfl, hsess⟩, .sessionControl hframeZero ?_ rfl⟩
    intro bnd
    exact .control htype hcarries hvalid hlen (.inl ⟨hzero, hframeZero⟩)
  · rw [if_neg hzero]
    have hbound : s.ledger.frames[m.operationId]? = some p.frameId := by
      rw [hid]
      exact Client.correlatedFrameId_ok hframe hzero
    refine .write ⟨p, ⟨rfl, rfl, rfl, hsess⟩, .request hbound ?_ ?_ (.inl rfl)⟩
    · intro bnd hbind
      exact .control htype hcarries hvalid hlen (.inr hbind)
    · refine ⟨.control, ?_, by decide⟩
      rcases htype with htype | htype <;> rw [up, htype]

theorem completeLocalOperation_sends {id : UInt64} {state : OperationState}
    (hstate : state.isTerminal = true) (hsess : p.sessionId = s.sessionId)
    (hframe : id ≠ 0 → s.ledger.frames[id]? = some p.frameId)
    (hkind : ∀ bnd : Binding, bnd p.frameId = some id → UpKind bnd p)
    (hup : ∃ m, up p = some m ∧ m ≠ .submit) :
    ClientSends s (s.send p) (Client.completeLocalOperation id state) := by
  refine (Client.completeLocalOperation_ensures id state).imp ?_ fun _ _ => trivial
  rintro _ _ ⟨hzero, -, -, rfl⟩
  exact ⟨p, ⟨rfl, rfl, rfl, hsess⟩, .request (hframe hzero) hkind hup (.inr ⟨state, hstate, rfl⟩)⟩

theorem supersede_sends (m : SupersedeMetadata) (diags : Bytes) :
    ClientSends s s (Client.supersedeOperation m diags (.ok ())) := by
  refine .guard trivial fun _ hbody => ?_
  refine .guard trivial fun _ _ => ?_
  refine .guard trivial fun fid hframe => ?_
  refine .guard trivial fun bytes hbytes => ?_
  refine .guard trivial fun p hpkt => ?_
  refine Client.writePacket_bind trivial ?_
  obtain ⟨hmeta, hbodyEq, htype, hsess, hid⟩ := runtimePacket_ok hpkt
  refine completeLocalOperation_sends rfl hsess ?_ ?_ ⟨.control, by rw [up, htype], by decide⟩
  · intro hzero
    rw [hid]
    exact Client.correlatedFrameId_ok hframe hzero
  · intro bnd hbind
    refine .supersede htype (.of_codec SupersedeMetadata.codec hmeta hbytes) ?_ hbind
    rw [hbodyEq]
    exact ControlUpdate.requireLenOf_iff.mp hbody

theorem cancelFrame_sends (hv : s.ledger.Valid) (fid : UInt32) :
    ClientSends s s (Client.cancelFrame fid (.ok ())) := by
  refine .guard trivial fun _ _ => ?_
  refine .guard trivial fun id hop => ?_
  refine .guard trivial fun p hpkt => ?_
  refine Client.writePacket_bind trivial ?_
  have hbound : s.ledger.operations[fid]? = some id := by
    split at hop
    · rename_i bound hbound
      cases hop
      exact hbound
    · cases hop
  obtain ⟨hmeta, hbody, htype, hsess, hid⟩ := runtimePacket_ok hpkt
  refine completeLocalOperation_sends rfl hsess ?_ ?_ ⟨.cancelFrame, by rw [up, htype], by decide⟩
  · intro _
    rw [hid]
    exact (hv.inverse _ _).mpr hbound
  · intro bnd hbind
    exact .cancelFrame htype ⟨hmeta, hbody⟩ hbind

end

structure Ends (r r' : OperationRegistry) (operationId : UInt64) : Prop where
  other : ∀ a : UInt64, a ≠ operationId → r'.operations[a]? = r.operations[a]?
  self : ∃ record record', r.operations[operationId]? = some record ∧
    r'.operations[operationId]? = some record' ∧ record'.state.isTerminal = true ∧
    record'.descriptor = record.descriptor

structure ServerKept (s s' : NnrpServerSession) : Prop where
  sessionId : s'.sessionId = s.sessionId
  frameOperations : s'.frameOperations = s.frameOperations
  operationFrames : s'.operationFrames = s.operationFrames
  preSubmitDeadlines : s'.preSubmitDeadlines = s.preSubmitDeadlines
  inputs : s'.pendingInputs = s.pendingInputs ∨
    ∃ event, s'.pendingInputs = s.pendingInputs ++ [.event event]

structure ServerSent (s s' : NnrpServerSession) (p : RuntimePacket) : Prop extends
    ServerKept s s' where
  sent : s'.sent = s.sent ++ [p]
  packet : p.sessionId = s.sessionId

inductive ServerMoved (s s' : NnrpServerSession) (p : RuntimePacket) : Prop
  | output {operationId : UInt64} {record : OperationRecord}
      (hbound : s.operationFrames[operationId]? = some p.frameId)
      (hkind : ∀ binding : Binding, binding p.frameId = some operationId → DownKind binding p)
      (hdown : down p = some .output)
      (hrecord : s.operations.operations[operationId]? = some record)
      (hlive : record.state.isTerminal = false) (hregistry : s'.operations = s.operations)
  | push {operationId : UInt64} {record : OperationRecord}
      (hbound : s.frameOperations[p.frameId]? = some operationId)
      (hkind : ∀ binding : Binding, binding p.frameId = some operationId → DownKind binding p)
      (hdown : down p = some .push)
      (hrecord : s.operations.operations[operationId]? = some record)
      (hlive : record.state.isTerminal = false)
      (hends : Ends s.operations s'.operations operationId)
  | drop {operationId : UInt64} (hbound : s.operationFrames[operationId]? = some p.frameId)
      (hkind : ∀ binding : Binding, binding p.frameId = some operationId → DownKind binding p)
      (hdown : down p = some .drop) (hends : Ends s.operations s'.operations operationId)

abbrev ServerSends {α : Type} (s t : NnrpServerSession) (m : Server.ServerM α) : Prop :=
  Ensures m t (fun _ s' => ∃ p, ServerSent s s' p ∧ ServerMoved s s' p) fun _ => True

section
variable {r : OperationRegistry} {id : UInt64} {rec r' : OperationRecord}

theorem Ends.of_terminal (hrec : r.operations[id]? = some rec)
    (hterm : rec.state.isTerminal = true) : Ends r r id :=
  ⟨fun _ _ => rfl, rec, rec, hrec, hrec, hterm, rfl⟩

theorem Ends.set (hrec : r.operations[id]? = some rec) (hterm : r'.state.isTerminal = true)
    (hdesc : r'.descriptor = rec.descriptor) : Ends r (r.set id r') id := by
  refine ⟨fun a ha => ?_, rec, r', hrec, r.set_get_self _ _, hterm, hdesc⟩
  rw [set_get, if_neg (Ne.symm ha)]

end

variable {s : NnrpServerSession} {fid : UInt32} {id : UInt64}
  {ty : MessageType}

theorem serverFrameId_ok (h : s.correlatedFrameId id = .ok fid)
    (hne : id ≠ 0) : s.operationFrames[id]? = some fid := by
  rw [NnrpServerSession.correlatedFrameId, ControlUpdate.DecoderSession.correlatedFrameId,
    if_neg hne] at h
  split at h
  · rename_i frame hframe
    cases h
    exact hframe
  · cases h

theorem correlated_sends {m : Except NnrpError Bytes}
    {body : Bytes} (hne : id ≠ 0) : Ensures (do
      let fid ← check (·.correlatedFrameId id)
      let bytes ← lift (liftNnrp m)
      let pkt ← check (·.runtimePacket ty fid bytes body)
      writePacket (.ok ()) pkt) s
      (fun _ s' => ∃ p : RuntimePacket, s' = s.send p ∧ liftNnrp m = .ok p.metadata ∧
        p.body = body ∧ p.messageType = ty ∧ p.sessionId = s.sessionId ∧
        s.operationFrames[id]? = some p.frameId)
      (fun _ => True) := by
  refine .guard trivial fun fid hframe => ?_
  refine .guard trivial fun bytes hbytes => ?_
  refine .guard trivial fun p hpkt => ?_
  refine .guard trivial fun _ _ => .write ?_
  obtain ⟨rfl, hbody, htype, hsess, rfl⟩ := runtimePacket_ok hpkt
  exact ⟨p, rfl, hbytes, hbody, htype, hsess, serverFrameId_ok hframe hne⟩

theorem requireNonterminal_ok {unknownMessage terminalMessage : String}
    (h : s.requireNonterminalOperation id unknownMessage terminalMessage = .ok ()) :
    ∃ r, s.operations.operations[id]? = some r ∧ r.state.isTerminal = false := by
  rw [NnrpServerSession.requireNonterminalOperation] at h
  split at h
  · cases h
  · rename_i r hrec
    split_ifs at h with hterm
    exact ⟨r, hrec, Bool.eq_false_of_not_eq_true hterm⟩

theorem sendProgress_sends (m : ProgressMetadata) (body : Bytes) :
    ServerSends s s (sendOperationProgress (.ok ()) m body) := by
  refine .guard trivial fun _ hvalid => ?_
  refine .guard trivial fun _ hbody => ?_
  refine .guard trivial fun _ hlive => ?_
  obtain ⟨r, hrec, hstate⟩ := requireNonterminal_ok hlive
  have hne := Client.validateProgressSemantics_ok hvalid
  refine (correlated_sends hne).imp ?_ fun _ h => h
  rintro _ _ ⟨p, rfl, hbytes, rfl, htype, hsess, hbound⟩
  refine ⟨p, ⟨⟨rfl, rfl, rfl, rfl, .inl rfl⟩, rfl, hsess⟩,
    .output hbound (fun bnd hbind => ?_) (by rw [down, htype]) hrec hstate rfl⟩
  exact .progress htype (.of_codec ProgressMetadata.codec rfl hbytes) (liftNnrp_eq_ok.mp hvalid)
    (ControlUpdate.requireLenOf_iff.mp hbody) hbind

theorem sendPartialResult_sends (m : PartialResultMetadata) (body : Bytes) :
    ServerSends s s (sendOperationPartialResult (.ok ()) m body) := by
  refine .guard trivial fun _ hvalid => ?_
  refine .guard trivial fun _ hbody => ?_
  refine .guard trivial fun _ hlive => ?_
  obtain ⟨r, hrec, hstate⟩ := requireNonterminal_ok hlive
  have hne := Client.validatePartialResultSemantics_ok hvalid
  refine (correlated_sends hne).imp ?_ fun _ h => h
  rintro _ _ ⟨p, rfl, hbytes, rfl, htype, hsess, hbound⟩
  refine ⟨p, ⟨⟨rfl, rfl, rfl, rfl, .inl rfl⟩, rfl, hsess⟩,
    .output hbound (fun bnd hbind => ?_) (by rw [down, htype]) hrec hstate rfl⟩
  exact .partialResult htype (.of_codec PartialResultMetadata.codec rfl hbytes)
    (liftNnrp_eq_ok.mp hvalid) (ControlUpdate.requireLenOf_iff.mp hbody) hbind

theorem refuseStale_fails (id : UInt64) (sched : OperationSchedule) :
    Ensures (refuseStale (.ok ()) id sched) s (fun _ _ => False) (fun _ => True) := by
  have hrest : ∀ s', Ensures (do
      queueLifecycle id .superseded
      lift (.error (.protocol (.invalidOperationTransition .superseded .completed)))) s'
      (fun (_ : Unit) _ => False) (fun _ => True) :=
    fun s' => .bind _ .any fun _ _ _ => .lift_error trivial
  refine .guard trivial fun _ _ => ?_
  dsimp only
  split_ifs
  · exact .bind _ .any fun _ s' _ => hrest s'
  · exact hrest s

theorem sendResult_sends (fid : UInt32) (m : ResultPushMetadata) (body : Bytes) (now : UInt64) :
    ServerSends s s (sendOperationResult (.ok ()) fid m body now) := by
  refine .guard trivial fun id hop => ?_
  cases hheld : s.operations.operations[id]? with
  | none =>
    exact .call_error_bind (onRegistry_error (update_unknown hheld)) trivial
  | some r =>
    by_cases hstale : r.Stale now
    · have hexpire := expireIfStale_of hheld hstale
      refine .call_ok_bind (onRegistry_ok hexpire) ?_
      exact (refuseStale_fails id _).imp (fun _ _ h => h.elim) fun _ h => h
    have hexpire := expireIfStale_of_not hheld hstale
    refine .call_ok_bind (onRegistry_ok hexpire) ?_
    refine .guard trivial fun _ _ => ?_
    refine .guard trivial fun _ hcompletion => ?_
    refine .guard trivial fun bytes hbytes => ?_
    refine .guard trivial fun p hpkt => ?_
    refine writePacket_bind trivial fun _ => ?_
    obtain ⟨r', hrec, hcompletable⟩ := requireOperationCompletion_ok hcompletion
    have hcomplete : (s.send p).operations.complete id = _ :=
      complete_of hrec hcompletable
    refine .call_ok_bind (onRegistry_ok hcomplete) ?_
    refine .guard trivial fun ev _ => .write ?_
    obtain ⟨hmeta, -, htype, hsess, rfl⟩ := runtimePacket_ok hpkt
    refine ⟨p, ⟨⟨rfl, rfl, rfl, rfl, .inr ⟨_, rfl⟩⟩, rfl, hsess⟩,
      .push (operationIdForFrame_bound hop) (fun bnd hbind => ?_)
        (by rw [down, htype]) hrec hcompletable.1 (.set hrec rfl rfl)⟩
    exact .push htype (.of_codec ResultPushMetadata.codec hmeta hbytes) hbind

theorem sendResultDrop_sends (m : ResultDropReasonMetadata) (diags : Bytes) :
    ServerSends s s (sendOperationResultDrop (.ok ()) m diags) := by
  refine .guard trivial fun _ hvalid => ?_
  refine .guard trivial fun _ hbody => ?_
  refine .guard trivial fun required hrequired => ?_
  obtain ⟨r, hrec, hcan, hterm⟩ := operationTransitionRequired_ok hrequired
  have hne := Client.validateResultDropReasonSemantics_ok hvalid
  have hkind {p : RuntimePacket} (hbytes : liftNnrp m.toBytes = .ok p.metadata)
      (hdiags : p.body = diags) (htype : p.messageType = .resultDropReason)
      (bnd : Binding) (hbind : bnd p.frameId = some m.operationId) :
      DownKind bnd p := by
    subst hdiags
    exact .drop htype (.of_codec ResultDropReasonMetadata.codec rfl hbytes)
      (liftNnrp_eq_ok.mp hvalid) (ControlUpdate.requireLenOf_iff.mp hbody) hbind
  cases required with
  | false =>
    refine .bind _ (correlated_sends hne) ?_
    rintro _ _ ⟨p, rfl, hbytes, hdiags, htype, hsess, hbound⟩
    exact .pure ⟨p, ⟨⟨rfl, rfl, rfl, rfl, .inl rfl⟩, rfl, hsess⟩, .drop hbound
      (hkind hbytes hdiags htype) (by rw [down, htype]) (.of_terminal hrec (hterm rfl))⟩
  | true =>
    refine .guard trivial fun _ hcap => ?_
    refine .bind _ (correlated_sends hne) ?_
    rintro _ _ ⟨p, rfl, hbytes, hdiags, htype, hsess, hbound⟩
    have hroom := ensurePendingCapacity_room hcap
    have htrans : (s.send p).operations.transition m.operationId .superseded = _ :=
      transition_of hrec (hcan rfl)
    refine .call_ok_bind (onRegistry_ok htrans) ?_
    exact .call_ok (queueLifecycle_ok hne hroom)
      ⟨p, ⟨⟨rfl, rfl, rfl, rfl, .inr ⟨_, rfl⟩⟩, rfl, hsess⟩, .drop hbound
        (hkind hbytes hdiags htype) (by rw [down, htype]) (.set hrec rfl rfl)⟩

end Nnrp.Crossing
