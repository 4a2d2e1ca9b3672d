import Nnrp.ServerDecode
import Nnrp.ServerSend

/-!
# Outcomes of the sends of the server session

A send about an operation either fails and changes nothing, or its packet is written and the
operation is moved. A result for an operation whose schedule has expired supersedes it; the event
that reports this is queued only if there is room and the drop can be written.
-/

namespace Nnrp.Server
open Protocol ByteOrder Packet Data Control ControlUpdate NnrpServerSession
open Stateful RuntimeEvent Operation Fallible

/-- What a send about an operation does when it succeeds. -/
inductive Written (s : NnrpServerSession) : NnrpServerSession → Prop
  | plain (packet : RuntimePacket) : Written s (s.send packet)
  | ending (packet : RuntimePacket) {operationId : UInt64} {record : OperationRecord}
      {state : OperationState} (hending : Ending s operationId record state) :
      Written s ((s.send packet).ended operationId record state)

abbrev Writes (s : NnrpServerSession) (m : ServerM Unit) : Prop :=
  Ensures m s (fun _ => Written s) (· = s)

variable {s : NnrpServerSession} {written : Except RuntimeError Unit} {p : RuntimePacket}
  {ty : MessageType} {fid : UInt32} {m body diags : Bytes} {id : UInt64} {state : OperationState}

theorem writePacket_bind {β : Type} {done : β → NnrpServerSession → Prop}
    {failed : NnrpServerSession → Prop} {g : Unit → ServerM β} (hfailed : failed s)
    (hrest : written = .ok () → Ensures (g ()) (s.send p) done failed) :
    Ensures (writePacket written p >>= g) s done failed := by
  cases written with
  | error e => exact .call_error_bind (call_bind_error rfl) hfailed
  | ok _ => exact .call_ok_bind (call_bind_ok rfl) (hrest rfl)

theorem writePacket_ensures :
    Ensures (writePacket written p) s (fun _ s' => ∃ p, s' = s.send p) (· = s) :=
  .guard rfl fun _ _ => .write ⟨p, rfl⟩

theorem sendPrepared_ensures {prepare : NnrpServerSession → Except RuntimeError RuntimePacket} :
    Ensures (sendPrepared written prepare) s (fun _ s' => ∃ p, s' = s.send p) (· = s) :=
  .guard rfl fun _ _ => writePacket_ensures

theorem writeRuntimePacket_ensures : Ensures (writeRuntimePacket written ty fid m body) s
      (fun _ s' => ∃ p, s' = s.send p) (· = s) :=
  sendPrepared_ensures

theorem Written.of_sent {s' : NnrpServerSession} (h : ∃ p, s' = s.send p) : Written s s' := by
  obtain ⟨p, rfl⟩ := h
  exact .plain p

theorem writeRuntimePacket_written : Writes s (writeRuntimePacket written ty fid m body) :=
  writeRuntimePacket_ensures.imp (fun _ _ => .of_sent) fun _ h => h

theorem operationTransitionRequired_ok {required : Bool}
    (h : s.operationTransitionRequired id state = .ok required) :
    ∃ r, s.operations.operations[id]? = some r ∧
      (required = true → r.state.canTransitionTo state = true) ∧
      (required = false → r.state.isTerminal = true) := by
  rw [operationTransitionRequired] at h
  split at h
  · cases h
  · rename_i r hrec
    split_ifs at h with hterm hcan
    · cases h
      exact ⟨r, hrec, nofun, fun _ => hterm⟩
    · cases h
      exact ⟨r, hrec, fun _ => hcan, nofun⟩

theorem requireOperationTransition_ok (h : s.requireOperationTransition id state = .ok ()) :
    ∃ r, s.operations.operations[id]? = some r ∧ r.state.canTransitionTo state = true := by
  rw [requireOperationTransition] at h
  obtain ⟨required, hrequired, h⟩ := bind_eq_ok.mp h
  obtain ⟨r, hrec, hcan, -⟩ := operationTransitionRequired_ok hrequired
  cases required with
  | true => exact ⟨r, hrec, hcan rfl⟩
  | false =>
    rw [hrec] at h
    cases h

theorem writeEnding_ensures (hs : Correlated s) (hterm : state.isTerminal = true)
    {m : Except NnrpError Bytes} : Writes s (writeEnding written id state ty fid m body) := by
  refine .guard rfl fun _ hrequired => ?_
  refine .guard rfl fun _ hcap => .guard rfl fun bytes _ => ?_
  obtain ⟨r, hrec, hcan⟩ := requireOperationTransition_ok hrequired
  have hroom := ensurePendingCapacity_room hcap
  have hending : Ending s id r state :=
    ⟨hrec, OperationState.active_of_canTransitionTo hcan, hterm, hroom⟩
  refine .bind _ writeRuntimePacket_ensures ?_
  intro _ s' hsent
  obtain ⟨p, rfl⟩ := hsent
  have htrans : (s.send p).operations.transition id state = _ :=
    OperationRegistry.transition_of hrec hcan
  refine .call_ok_bind (onRegistry_ok htrans) ?_
  exact .call_ok (queueLifecycle_ok (hs.record _ _ hrec).1 hroom) (.ending p hending)

theorem sendOperationPartialResult_ensures {m : PartialResultMetadata} :
    Writes s (sendOperationPartialResult written m body) := by
  refine .guard rfl fun _ _ => .guard rfl fun _ _ => ?_
  refine .guard rfl fun _ _ => .guard rfl fun _ _ => ?_
  exact .guard rfl fun _ _ => writeRuntimePacket_written

theorem sendOperationProgress_ensures {m : ProgressMetadata} :
    Writes s (sendOperationProgress written m body) := by
  refine .guard rfl fun _ _ => .guard rfl fun _ _ => ?_
  refine .guard rfl fun _ _ => .guard rfl fun _ _ => ?_
  exact .guard rfl fun _ _ => writeRuntimePacket_written

theorem sendControlRequest_ensures (hs : Correlated s) {m : ControlRequestMetadata} :
    Writes s (sendControlRequest written ty m diags) := by
  refine .guard rfl fun _ _ => .guard rfl fun _ _ => ?_
  refine .guard rfl fun fid _ => ?_
  by_cases hzero : m.operationId = 0
  · rw [if_pos hzero]
    exact .guard rfl fun _ _ => writeRuntimePacket_written
  · rw [if_neg hzero]
    exact writeEnding_ensures hs (controlState_terminal ty)

theorem supersedeOperation_ensures (hs : Correlated s) {m : SupersedeMetadata} :
    Writes s (supersedeOperation written m diags) :=
  .guard rfl fun _ _ => .guard rfl fun _ _ =>
    writeEnding_ensures hs rfl

theorem writeResultDropReason_ensures {m : ResultDropReasonMetadata} :
    Ensures (writeResultDropReason written m diags) s (fun _ s' => ∃ p, s' = s.send p) (· = s) := by
  refine .guard rfl fun _ _ => .guard rfl fun _ _ => ?_
  exact .guard rfl fun p _ => writePacket_ensures

theorem sendOperationResultDrop_ensures (hs : Correlated s) {m : ResultDropReasonMetadata} :
    Writes s (sendOperationResultDrop written m diags) := by
  refine .guard rfl fun _ _ => .guard rfl fun _ _ => ?_
  refine .guard rfl fun required hrequired => ?_
  cases required with
  | false =>
    refine .bind _ writeResultDropReason_ensures ?_
    intro _ s' hsent
    obtain ⟨p, rfl⟩ := hsent
    exact .pure (.plain p)
  | true =>
    refine .guard rfl fun _ hcap => ?_
    have hroom := ensurePendingCapacity_room hcap
    obtain ⟨r, hrec, hrequired, -⟩ := operationTransitionRequired_ok hrequired
    have hcan := hrequired rfl
    refine .bind _ writeResultDropReason_ensures ?_
    intro _ s' hsent
    obtain ⟨p, rfl⟩ := hsent
    have htrans : (s.send p).operations.transition m.operationId .superseded = _ :=
      OperationRegistry.transition_of hrec hcan
    refine .call_ok_bind (onRegistry_ok htrans) ?_
    refine .call_ok (queueLifecycle_ok (hs.record _ _ hrec).1 hroom) (.ending p ?_)
    exact ⟨hrec, OperationState.active_of_canTransitionTo hcan, rfl, hroom⟩

def Reports (s : NnrpServerSession) (record : OperationRecord)
    (written : Except RuntimeError Unit) : Prop :=
  s.pendingInputs.length < maxPendingServerInputs ∧
    (record.schedule.flags &&& schedulingFlagEmitDropReason ≠ 0 → written = .ok ())

structure StaleAt (s : NnrpServerSession) (frameId : UInt32) (nowUnixMs operationId : UInt64)
    (record : OperationRecord) : Prop where
  bound : s.frameOperations[frameId]? = some operationId
  held : s.operations.operations[operationId]? = some record
  stale : record.Stale nowUnixMs

/-- What a result for a stale operation does; the call fails. -/
inductive Expired (s : NnrpServerSession) (operationId : UInt64) (record : OperationRecord)
    (written : Except RuntimeError Unit) : NnrpServerSession → Prop
  | reported (hreports : Reports s record written) :
      Expired s operationId record written (s.ended operationId record .superseded)
  | dropped (packet : RuntimePacket) (hreports : Reports s record written) :
      Expired s operationId record written
        ((s.send packet).ended operationId record .superseded)
  | silent (hsilent : ¬Reports s record written) :
      Expired s operationId record written
        (s.withRecord operationId { record with state := .superseded })

theorem runtimePacket_of_fits (s : NnrpServerSession) (ty : MessageType)
    (fid : UInt32) (h : m.length + body.length < 2 ^ 32) :
    ∃ p, s.runtimePacket ty fid m body = .ok p := by
  obtain ⟨p, hpkt⟩ := RuntimePacket.new_of_fits _ h
  exact ⟨p, liftNnrp_eq_ok.mpr hpkt⟩

theorem correlatedFrameId_of (hnz : id ≠ 0) (hframe : s.operationFrames[id]? = some fid) :
    s.correlatedFrameId id = .ok fid := by
  rw [correlatedFrameId, DecoderSession.correlatedFrameId, if_neg hnz]
  simp only [decoder, hframe]

theorem writeResultDropReason_call (written : Except RuntimeError Unit)
    (m : ResultDropReasonMetadata) (hframe : s.correlatedFrameId m.operationId = .ok fid)
    (hflags : m.flags = 0) : ∃ p, call (writeResultDropReason written m []) s =
      call (writePacket written p) s := by
  have hmask : validateMaskU8 m.flags resultDropFlagsKnownMask = .ok () := by
    rw [hflags]
    rfl
  obtain ⟨bytes, hbytes⟩ : ∃ bytes, m.toBytes = .ok bytes := bytesOf_of_valid hmask
  have hlen := ResultDropReasonMetadata.codec.length hbytes
  have hfits : bytes.length + ([] : Bytes).length < 2 ^ 32 := by
    rw [hlen]
    decide
  obtain ⟨p, hpkt⟩ := runtimePacket_of_fits s .resultDropReason fid hfits
  refine ⟨p, ?_⟩
  rw [writeResultDropReason, call_bind_check s hframe, liftNnrp_eq_ok.mpr hbytes,
    Stateful.lift_ok_bind, call_bind_check s hpkt]

theorem refuseStale_ensures {r : OperationRecord} (hnz : id ≠ 0)
    (hframe : s.operationFrames[id]? = some fid) : Ensures (refuseStale written id r.schedule)
      (s.withRecord id { r with state := .superseded }) (fun _ _ => False)
      (Expired s id r written) := by
  by_cases hroom : s.pendingInputs.length < maxPendingServerInputs
  · refine .check_ok_bind (ensurePendingCapacity_of hroom) ?_
    dsimp only
    by_cases hflag : r.schedule.flags &&& schedulingFlagEmitDropReason ≠ 0
    · rw [if_pos hflag]
      have hcorr : (s.withRecord id
          { r with state := .superseded }).correlatedFrameId id = .ok fid :=
        correlatedFrameId_of hnz hframe
      obtain ⟨p, hcall⟩ := writeResultDropReason_call written
        ⟨id, r.schedule.updateSequence, resultDropReasonDeadlineExpired,
          runtimeRoleServer, 0, 0⟩ hcorr rfl
      cases written with
      | error e =>
        refine .call_error_bind (hcall.trans (call_bind_error rfl)) (.silent fun hreports => ?_)
        cases hreports.2 hflag
      | ok _ =>
        refine .call_ok_bind (hcall.trans (call_bind_ok rfl)) ?_
        refine .call_ok_bind (queueLifecycle_ok hnz hroom) (.lift_error ?_)
        exact .dropped p ⟨hroom, fun _ => rfl⟩
    · rw [if_neg hflag]
      refine .call_ok_bind (queueLifecycle_ok hnz hroom) (.lift_error (.reported ⟨hroom, ?_⟩))
      exact fun h => absurd h hflag
  · refine .check_bind (fun _ _ => .silent ?_) ?_
    · exact fun hreports => hroom hreports.1
    · intro _ hcap
      exact absurd (ensurePendingCapacity_room hcap) hroom

theorem requireOperationCompletion_ok (h : s.requireOperationCompletion id = .ok ()) :
    ∃ r, s.operations.operations[id]? = some r ∧ r.Completable := by
  rw [requireOperationCompletion] at h
  split at h
  · cases h
  · rename_i r hrec
    split_ifs at h with href
    rw [not_or, not_and, not_not] at href
    refine ⟨r, hrec, Bool.eq_false_of_not_eq_true href.1, ?_⟩
    by_cases hacc : r.state = .accepted
    · exact .inl hacc
    · exact .inr (href.2 hacc)

theorem sendOperationResult_ensures (hs : Correlated s) {m : ResultPushMetadata}
    {now : UInt64} : Ensures (sendOperationResult written fid m body now) s
      (fun _ s' => Written s s' ∧ ∀ id r, ¬StaleAt s fid now id r)
      (fun s' => s' = s ∧ (∀ id r, ¬StaleAt s fid now id r) ∨ ∃ id r, StaleAt s fid now id r ∧
          Expired s id r written s') := by
  refine .check_bind (fun e he => .inl ⟨rfl, ?_⟩) fun id hop => ?_
  · intro id r hstale
    rw [operationIdForFrame, hstale.bound] at he
    cases he
  have hbound := operationIdForFrame_bound hop
  have hframe := (hs.inverse _ _).mp hbound
  obtain ⟨r, hrec, hnz, -⟩ := hs.record_of_bound hframe
  by_cases hstale : r.Stale now
  · refine .call_ok_bind (onRegistry_ok (OperationRegistry.expireIfStale_of hrec hstale)) ?_
    refine (refuseStale_ensures hnz hframe).imp (fun _ _ h => h.elim) fun s' hexpired => ?_
    exact .inr ⟨id, r, ⟨hbound, hrec, hstale⟩, hexpired⟩
  · have hfresh : ∀ id r, ¬StaleAt s fid now id r := by
      intro id' r' h
      have hbound' := h.bound
      rw [hbound] at hbound'
      cases hbound'
      have hrec' := h.held
      rw [hrec] at hrec'
      cases hrec'
      exact hstale h.stale
    refine .call_ok_bind (onRegistry_ok (OperationRegistry.expireIfStale_of_not hrec hstale)) ?_
    refine .guard (.inl ⟨rfl, hfresh⟩) fun _ hcap => ?_
    refine .guard (.inl ⟨rfl, hfresh⟩) fun _ hcompletion => ?_
    refine .guard (.inl ⟨rfl, hfresh⟩) fun bytes _ => ?_
    refine .guard (.inl ⟨rfl, hfresh⟩) fun p _ => ?_
    refine writePacket_bind (.inl ⟨rfl, hfresh⟩) fun _ => ?_
    have hroom := ensurePendingCapacity_room hcap
    obtain ⟨r', hrec', hcompletable⟩ := requireOperationCompletion_ok hcompletion
    rw [hrec] at hrec'
    cases hrec'
    have hcomplete : (s.send p).operations.complete id = _ :=
      OperationRegistry.complete_of hrec hcompletable
    refine .call_ok_bind (onRegistry_ok hcomplete) ?_
    refine .lift_ok_bind (b := ⟨id, .completed⟩) ?_ (.write ⟨.ending p ?_, hfresh⟩)
    · rw [OperationLifecycleEvent.new, if_neg hnz]
      rfl
    · exact ⟨hrec, hcompletable.1, rfl, hroom⟩

end Nnrp.Server
