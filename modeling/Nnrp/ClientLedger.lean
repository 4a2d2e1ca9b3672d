import Nnrp.ClientSession

/-!
# What the methods of a client session do to its operations

The ledger of a session is what it remembers of its operations and what it still owes to its
application. A packet that is decoded changes the ledger in one of a few ways; a packet that is
refused leaves it alone, apart from a mark on the operation zero.
-/

namespace Nnrp.Client
open OrderedMap Protocol Packet Control Stateful RuntimeEvent Fallible NnrpClientSession
open ControlUpdate.DecoderSession (requireMetadataLen requireBodyLen)
open Submit (NnrpSubmitRequest)

variable {operationId : UInt64}

structure Ledger where
  next : UInt32
  frames : BTreeMap UInt64 UInt32
  operations : BTreeMap UInt32 UInt64
  seen : BTreeSet UInt64
  marks : BTreeMap UInt64 OperationState

namespace Ledger

variable (l : Ledger) (operationId : UInt64)

@[simps]
def submit (frameId : UInt32) : Ledger :=
  { l with
    next := frameId + 1
    frames := l.frames.insert operationId frameId
    operations := l.operations.insert frameId operationId
    seen := l.seen.insert operationId }

@[simps]
def finish (frameId : UInt32) : Ledger :=
  { l with
    frames := l.frames.erase operationId
    operations := l.operations.erase frameId
    marks := l.marks.erase operationId }

@[simps]
def mark (state : OperationState) : Ledger :=
  { l with marks := l.marks.insert operationId state }

structure Valid : Prop where
  inverse : Inverse l.frames l.operations
  bound : ∀ (operationId : UInt64) (frameId : UInt32), l.frames[operationId]? = some frameId →
    operationId ≠ 0 ∧ operationId ∈ l.seen ∧ frameId < l.next
  marked : ∀ (operationId : UInt64) (state : OperationState),
    l.marks[operationId]? = some state → operationId ≠ 0 →
      state.isTerminal = true ∧ ∃ frameId, l.frames[operationId]? = some frameId

variable {l} {operationId : UInt64} {fid : UInt32} {state : OperationState}

theorem Valid.unbound (h : l.Valid) (hseen : operationId ∉ l.seen) :
    l.frames[operationId]? = none := by
  cases hframe : l.frames[operationId]? with
  | none => rfl
  | some frame => exact absurd (h.bound operationId frame hframe).2.1 hseen

theorem Valid.free (h : l.Valid) (hnext : l.next ≤ fid) : l.operations[fid]? = none := by
  cases hop : l.operations[fid]? with
  | none => rfl
  | some op =>
    have hlt := (h.bound op fid ((h.inverse op fid).mpr hop)).2.2
    exact absurd hnext (UInt32.not_le.mpr hlt)

theorem Valid.zero_unbound (h : l.Valid) : l.frames[(0 : UInt64)]? = none := by
  cases hframe : l.frames[(0 : UInt64)]? with
  | none => rfl
  | some frame => exact absurd rfl (h.bound 0 frame hframe).1

theorem Valid.submit (h : l.Valid) (hzero : operationId ≠ 0) (hseen : operationId ∉ l.seen)
    (hnext : l.next ≤ fid) (hlast : fid < fid + 1) : (l.submit operationId fid).Valid where
  inverse := h.inverse.insert (h.unbound hseen) (h.free hnext)
  bound op frame hframe := by
    rw [submit_frames, get_insert] at hframe
    split_ifs at hframe with hop
    · cases hframe
      exact ⟨hop ▸ hzero, mem_set_insert.mpr (.inl hop), hlast⟩
    · obtain ⟨hne, hmem, hlt⟩ := h.bound op frame hframe
      exact ⟨hne, mem_set_insert.mpr (.inr hmem),
        UInt32.lt_trans (UInt32.lt_of_lt_of_le hlt hnext) hlast⟩
  marked op state hmark hne := by
    obtain ⟨hterm, frame, hframe⟩ := h.marked op state hmark hne
    refine ⟨hterm, ?_⟩
    rw [submit_frames, get_insert]
    split_ifs with hop
    · exact ⟨fid, rfl⟩
    · exact ⟨frame, hframe⟩

theorem Valid.finish (h : l.Valid) (hbound : l.frames[operationId]? = some fid) :
    (l.finish operationId fid).Valid where
  inverse := h.inverse.erase hbound
  bound op frame hframe := by
    rw [finish_frames, get_erase] at hframe
    split_ifs at hframe
    exact h.bound op frame hframe
  marked op state hmark hne := by
    rw [finish_marks, get_erase] at hmark
    split_ifs at hmark with hop
    rw [finish_frames, get_erase, if_neg hop]
    exact h.marked op state hmark hne

theorem Valid.mark (h : l.Valid) (hop : operationId ≠ 0 →
      state.isTerminal = true ∧ ∃ fid, l.frames[operationId]? = some fid) :
    (l.mark operationId state).Valid where
  inverse := h.inverse
  bound := h.bound
  marked op state' hmark hne := by
    rw [mark_marks, get_insert] at hmark
    split_ifs at hmark with heq
    · cases hmark
      subst heq
      exact hop hne
    · exact h.marked op state' hmark hne

def opened : Ledger where
  next := 1
  frames := ∅
  operations := ∅
  seen := ∅
  marks := ∅

theorem opened_valid : opened.Valid where
  inverse := inverse_empty
  bound operationId fid h := by simp [opened] at h
  marked operationId state h := by simp [opened] at h

end Ledger

structure Account where
  ledger : Ledger
  lifecycle : List OperationLifecycleEvent
  events : List NnrpClientEvent

namespace Account

variable (a : Account)

@[simps]
def finish (operationId : UInt64) (frameId : UInt32) : Account :=
  { a with ledger := a.ledger.finish operationId frameId }

@[simps]
def mark (operationId : UInt64) (state : OperationState) : Account :=
  { a with
    ledger := a.ledger.mark operationId state
    lifecycle := a.lifecycle ++ [⟨operationId, state⟩] }

@[simps]
def retain (event : NnrpClientEvent) : Account := { a with events := a.events ++ [event] }

end Account

def NnrpClientSession.ledger (s : NnrpClientSession) : Ledger where
  next := s.nextFrameId
  frames := s.operationFrames
  operations := s.frameOperations
  seen := s.seenOperationIds
  marks := s.localOperationStates

def NnrpClientSession.account (s : NnrpClientSession) : Account where
  ledger := s.ledger
  lifecycle := s.pendingRoleEvents
  events := s.pendingEvents.map Prod.fst

def markedBy (packet : RuntimePacket) : Option UInt64 :=
  match packet.messageType with
  | .cancel | .abort =>
    (ControlRequestMetadata.parse packet.metadata).toOption.map (·.operationId)
  | .supersede => (SupersedeMetadata.parse packet.metadata).toOption.map (·.oldOperationId)
  | _ => none

inductive Decoded (a : Account) (packet : RuntimePacket) : NnrpClientEvent → Account → Prop
  | update (update : NnrpClientUpdate) : Decoded a packet (.update update) a
  | sessionControl (metadata : ControlRequestMetadata) :
      Decoded a packet (.control packet.messageType metadata packet.body) a
  | output {event : NnrpClientEvent} {operationId : UInt64} {frameId : UInt32}
      (hevent : event.output = some operationId)
      (hbound : a.ledger.frames[operationId]? = some frameId)
      (hopen : ∀ state, a.ledger.marks[operationId]? = some state → state.isTerminal = false) :
      Decoded a packet event a
  | result {result : NnrpResult} {message : ResultMessage}
      (hwire : result.event = .runtime (.ofCommon packet.header) message)
      (hbound : a.ledger.operations[packet.frameId]? = some result.operationId ∨
        a.ledger.frames[result.operationId]? = some packet.frameId) :
      Decoded a packet (.result result) (a.finish result.operationId packet.frameId)
  | marked {event : NnrpClientEvent} {operationId : UInt64} {frameId : UInt32}
      {state : OperationState} (houtput : event.output = none) (houtcome : event.outcome = none)
      (hmark : markedBy packet = some operationId)
      (hbound : a.ledger.frames[operationId]? = some frameId)
      (hopen : a.ledger.marks[operationId]? = none) (hstate : state.isTerminal = true) :
      Decoded a packet event (a.mark operationId state)

/-- What a call that fails may leave behind. A frame is never bound to the operation zero, so the
last case does not occur in a valid ledger. -/
inductive Refused (a : Account) : Account → Prop
  | same : Refused a a
  | zeroMark (state : OperationState) : Refused a { a with ledger := a.ledger.mark 0 state }
  | zeroFinish {frameId : UInt32} (h : a.ledger.operations[frameId]? = some 0) :
      Refused a (a.finish 0 frameId)

variable {s s' : NnrpClientSession} {p : RuntimePacket} {fid : UInt32}

theorem correlatedFrameId_ok
    (h : s.correlatedFrameId operationId = .ok fid) (hne : operationId ≠ 0) :
    s.operationFrames[operationId]? = some fid := by
  rw [correlatedFrameId, if_neg hne] at h
  split at h
  · rename_i frame hframe
    cases h
    exact hframe
  · cases h

theorem requireOperationFrame_ok
    (h : s.requireOperationFrame operationId fid = .ok ()) (hne : operationId ≠ 0) :
    s.operationFrames[operationId]? = some fid := by
  rw [requireOperationFrame] at h
  obtain ⟨want, hframe, h⟩ := bind_eq_ok.mp h
  rw [← ensure_eq_ok.mp h]
  exact correlatedFrameId_ok hframe hne

theorem requireNonterminalOperation_ok {message : String}
    (h : s.requireNonterminalOperation operationId message = .ok ()) :
    ∀ state, s.localOperationStates[operationId]? = some state → state.isTerminal = false := by
  intro state hstate
  rw [requireNonterminalOperation, hstate] at h
  simp only at h
  split_ifs at h with hterm
  exact Bool.eq_false_of_not_eq_true hterm

theorem validateProgressSemantics_ok {m : ProgressMetadata}
    (h : liftNnrp (validateProgressSemantics m) = .ok ()) : m.operationId ≠ 0 :=
  (of_refused_eq_ok rfl (liftNnrp_eq_ok.mp h)).1

theorem validatePartialResultSemantics_ok {m : PartialResultMetadata}
    (h : liftNnrp (validatePartialResultSemantics m) = .ok ()) : m.operationId ≠ 0 :=
  (of_refused_eq_ok rfl (liftNnrp_eq_ok.mp h)).1

theorem validateResultDropReasonSemantics_ok {m : ResultDropReasonMetadata}
    (h : liftNnrp (validateResultDropReasonSemantics m) = .ok ()) : m.operationId ≠ 0 :=
  (of_refused_eq_ok rfl (liftNnrp_eq_ok.mp h)).1

theorem completeOperationByFrame_ensures (fid : UInt32) : Ensures (completeOperationByFrame fid) s
      (fun operationId s' => s.frameOperations[fid]? = some operationId ∧
        s' = s.finish operationId fid) (· = s) := by
  refine .guard rfl fun operationId h => ?_
  refine .write_bind (.pure ⟨?_, rfl⟩)
  split at h
  · rename_i bound hbound
    cases h
    exact hbound
  · cases h

theorem completeOperation_ensures (fid : UInt32) (hne : operationId ≠ 0) :
    Ensures (completeOperation operationId fid) s
      (fun _ s' => s.operationFrames[operationId]? = some fid ∧
        s' = s.finish operationId fid) (· = s) :=
  .guard rfl fun _ h => .write ⟨requireOperationFrame_ok h hne, rfl⟩

theorem completeLocalOperation_ensures (operationId : UInt64) (state : OperationState) :
    Ensures (completeLocalOperation operationId state) s
      (fun _ s' => operationId ≠ 0 ∧ (∃ fid, s.operationFrames[operationId]? = some fid) ∧
        s.localOperationStates[operationId]? = none ∧
        s' = (s.mark operationId state).queueLifecycle ⟨operationId, state⟩)
      (fun s' => s' = s ∨ s' = s.mark 0 state) := by
  refine .guard (.inl rfl) fun fid hframe => ?_
  refine .guard (.inl rfl) fun _ hunmarked => ?_
  refine .write_bind (.lift_bind ?_ fun ev hevent => ?_)
  · intro e he
    rw [OperationLifecycleEvent.new] at he
    split_ifs at he with hzero
    · rw [hzero]
      exact .inr rfl
    · cases he
  · rw [OperationLifecycleEvent.new] at hevent
    split_ifs at hevent with hzero
    · cases hevent
    · cases hevent
      refine .write ⟨hzero, ⟨fid, correlatedFrameId_ok hframe hzero⟩, ?_, rfl⟩
      cases hmark : s.localOperationStates[operationId]? with
      | none => rfl
      | some current =>
        rw [hmark] at hunmarked
        cases hunmarked

abbrev Decodes (s : NnrpClientSession) (packet : RuntimePacket) (m : SessionM NnrpClientEvent) :
    Prop :=
  Ensures m s (fun event s' => Decoded s.account packet event s'.account)
    fun s' => Refused s.account s'.account

theorem decodeResult_ensures {message : ResultMessage}
    (hbound : s.frameOperations[p.frameId]? = some operationId) :
    Ensures (do
      let result ← lift (NnrpResult.fromRuntime operationId (.ofCommon p.header) message)
      pure (NnrpClientEvent.result result)) (s.finish operationId p.frameId)
      (fun ev s' => Decoded s.account p ev s'.account)
      (fun s' => Refused s.account s'.account) := by
  refine .lift_bind ?_ fun result hres => .pure ?_
  · intro e he
    rw [NnrpResult.fromRuntime] at he
    split_ifs at he with hzero
    subst hzero
    exact .zeroFinish hbound
  · obtain ⟨hid, hevent⟩ := NnrpResult.fromRuntime_ok hres
    subst hid
    exact .result hevent (.inl hbound)

theorem decodeResultPush_ensures : Decodes s p (decodeResultPush p) := by
  refine .guard .same fun _ _ => ?_
  refine .guard .same fun _ _ => ?_
  refine .guard .same fun m _ => ?_
  refine .bind_of (completeOperationByFrame_ensures p.frameId) ?_ ?_
  · rintro _ rfl
    exact .same
  · rintro operationId _ ⟨hbound, rfl⟩
    exact decodeResult_ensures hbound

theorem decodeResultDrop_ensures : Decodes s p (decodeResultDrop p) := by
  refine .guard .same fun _ _ => ?_
  refine .guard .same fun _ _ => ?_
  refine .bind_of (completeOperationByFrame_ensures p.frameId) ?_ ?_
  · rintro _ rfl
    exact .same
  · rintro operationId _ ⟨hbound, rfl⟩
    exact decodeResult_ensures hbound

theorem decodeResultDropReason_ensures : Decodes s p (decodeResultDropReason p) := by
  refine .guard .same fun _ _ => ?_
  refine .guard .same fun _ _ => ?_
  refine .guard .same fun m _ => ?_
  refine .guard .same fun _ hsem => ?_
  refine .guard .same fun _ _ => ?_
  have hne := validateResultDropReasonSemantics_ok hsem
  refine .bind_of (completeOperation_ensures p.frameId hne) ?_ ?_
  · rintro _ rfl
    exact .same
  rintro _ _ ⟨hbound, rfl⟩
  refine .lift_bind ?_ fun result hres => .pure ?_
  · intro e he
    rw [NnrpResult.fromRuntime, if_neg hne] at he
    cases he
  · obtain ⟨hid, hevent⟩ := NnrpResult.fromRuntime_ok hres
    rw [← hid] at hbound ⊢
    exact .result hevent (.inr hbound)

theorem decodePartialResult_ensures : Decodes s p (decodePartialResult p) := by
  refine .guard .same fun _ _ => ?_
  refine .guard .same fun _ _ => ?_
  refine .guard .same fun m _ => ?_
  refine .guard .same fun _ hsem => ?_
  refine .guard .same fun _ _ => ?_
  refine .guard .same fun _ hframe => ?_
  refine .guard .same fun _ hopen => .pure ?_
  exact .output rfl
    (requireOperationFrame_ok hframe (validatePartialResultSemantics_ok hsem))
    (requireNonterminalOperation_ok hopen)

theorem decodeProgress_ensures : Decodes s p (decodeProgress p) := by
  refine .guard .same fun _ _ => ?_
  refine .guard .same fun _ _ => ?_
  refine .guard .same fun m _ => ?_
  refine .guard .same fun _ hsem => ?_
  refine .guard .same fun _ _ => ?_
  refine .guard .same fun _ hframe => ?_
  refine .guard .same fun _ hopen => .pure ?_
  exact .output rfl (requireOperationFrame_ok hframe (validateProgressSemantics_ok hsem))
    (requireNonterminalOperation_ok hopen)

theorem completeLocal_ensures {state : OperationState} {ev : NnrpClientEvent}
    (hmark : markedBy p = some operationId) (hstate : state.isTerminal = true)
    (houtput : ev.output = none) (houtcome : ev.outcome = none) :
    Decodes s p (do
      completeLocalOperation operationId state
      pure ev) := by
  refine .bind_of (completeLocalOperation_ensures operationId state) ?_ ?_
  · rintro _ (rfl | rfl)
    · exact .same
    · exact .zeroMark state
  · rintro _ _ ⟨-, ⟨fid, hbound⟩, hopen, rfl⟩
    exact .pure (.marked houtput houtcome hmark hbound hopen hstate)

theorem liftNnrp_toOption {α : Type} {x : Except NnrpError α} {a : α}
    (h : liftNnrp x = .ok a) : x.toOption = some a := by
  rw [liftNnrp_eq_ok.mp h]
  rfl

theorem decodeControl_ensures (h : p.messageType = .cancel ∨ p.messageType = .abort) :
    Decodes s p (decodeControl p) := by
  refine .guard .same fun _ _ => ?_
  refine .guard .same fun _ _ => ?_
  refine .guard .same fun m hmeta => ?_
  refine .guard .same fun _ _ => ?_
  refine .guard .same fun _ _ => ?_
  refine .guard .same fun _ _ => ?_
  have hmark : markedBy p = some m.operationId := by
    rcases h with h | h
    all_goals
      rw [markedBy, h]
      simp [liftNnrp_toOption hmeta]
  by_cases hzero : m.operationId = 0
  · simp only [hzero, if_true]
    exact .pure (.sessionControl m)
  · simp only [hzero, if_false]
    refine .guard .same fun _ _ => ?_
    exact completeLocal_ensures hmark (controlState_terminal _) rfl rfl

theorem decodeSupersede_ensures (h : p.messageType = .supersede) :
    Decodes s p (decodeSupersede p) := by
  refine .guard .same fun _ _ => ?_
  refine .guard .same fun _ _ => ?_
  refine .guard .same fun m hmeta => ?_
  refine .guard .same fun _ _ => ?_
  refine .guard .same fun _ _ => ?_
  refine .guard .same fun _ _ => ?_
  have hmark : markedBy p = some m.oldOperationId := by
    rw [markedBy, h]
    simp [liftNnrp_toOption hmeta]
  exact completeLocal_ensures hmark rfl rfl rfl

theorem decodePressure_ensures : Decodes s p (decodePressure p) := by
  refine .guard .same fun _ _ => ?_
  refine .guard .same fun _ _ => ?_
  refine .guard .same fun m _ => ?_
  refine .guard .same fun _ _ => ?_
  refine .guard .same fun pressure _ => .write_bind ?_
  by_cases h : p.messageType = .backpressure
  · rw [if_pos h]
    exact .pure (.update _)
  · rw [if_neg h]
    exact .pure (.update _)

theorem decodeUpdate_ensures :
    Decodes s p (do
      let update ← check (·.decodeUpdate p)
      pure (NnrpClientEvent.update update)) :=
  .guard .same fun update _ => .pure (.update update)

theorem decodeEvent_ensures : Decodes s p (decodeEvent p) := by
  rw [decodeEvent]
  split
  · exact decodeResultPush_ensures
  · exact decodeResultDrop_ensures
  · exact decodeResultDropReason_ensures
  · exact decodePartialResult_ensures
  · exact decodeProgress_ensures
  · rename_i h
    exact decodeControl_ensures (.inl h)
  · rename_i h
    exact decodeControl_ensures (.inr h)
  · rename_i h
    exact decodeSupersede_ensures h
  · exact decodePressure_ensures
  · exact decodePressure_ensures
  · exact decodeUpdate_ensures

theorem decodeEventPacket_ensures : Ensures (decodeEventPacket p) s
      (fun entry s' => entry.2 = p ∧ Decoded s.account p entry.1 s'.account)
      (fun s' => Refused s.account s'.account) :=
  .bind _ decodeEvent_ensures fun _ _ h => .pure ⟨rfl, h⟩

end Nnrp.Client
