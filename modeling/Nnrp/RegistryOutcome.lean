import Nnrp.OperationRegistry

/-!
# Outcomes of the calls on an operation registry

What each call returns for an operation with a given record. A call that fails leaves the registry
as it was, and a call that succeeds replaces the record of its operation.
-/

namespace Nnrp.Operation
open Protocol OrderedMap PreSubmit

namespace OperationRecord

def Stale (record : OperationRecord) (nowUnixMs : UInt64) : Prop :=
  record.state.isTerminal = false ∧ record.schedule.flags &&& schedulingFlagDiscardStale ≠ 0 ∧
    record.schedule.expireAtUnixMs ≠ 0 ∧ record.schedule.expireAtUnixMs ≤ nowUnixMs

instance (record : OperationRecord) (nowUnixMs : UInt64) : Decidable (record.Stale nowUnixMs) :=
  inferInstanceAs (Decidable (_ ∧ _ ∧ _ ∧ _))

def Completable (record : OperationRecord) : Prop :=
  record.state.isTerminal = false ∧
    (record.state = .accepted ∨ record.state.canTransitionTo .completed = true)

instance (record : OperationRecord) : Decidable record.Completable :=
  inferInstanceAs (Decidable (_ ∧ _))

variable {r : OperationRecord} {next : OperationState} {e : NnrpError} {now : UInt64}

theorem transition_eq : r.transition next =
      if r.state.canTransitionTo next then ({ r with state := next }, .ok ())
      else (r, .error (.invalidOperationTransition r.state next)) := rfl

theorem complete_of (h : r.Completable) :
    r.complete = ({ r with state := .completed }, .ok ()) := by
  obtain ⟨hact, hcan⟩ := h
  rw [complete, if_neg (by simp [hact]), started]
  by_cases hacc : r.state = .accepted
  · rw [if_pos hacc]
    rfl
  · rw [if_neg hacc, transition_eq, if_pos (hcan.resolve_left hacc)]

theorem transition_atomic (he : (r.transition next).2 = .error e) : (r.transition next).1 = r := by
  rw [transition_eq] at he ⊢
  split_ifs at he ⊢
  rfl

theorem complete_atomic (he : r.complete.2 = .error e) : r.complete.1 = r := by
  by_cases hcan : r.Completable
  · rw [complete_of hcan] at he
    cases he
  · rw [complete, started] at he ⊢
    split_ifs at he ⊢ with hterm hacc
    · rfl
    · cases he
    · exact transition_atomic he

theorem canTransitionTo_of_active (h : r.state.isTerminal = false)
    (hnext : next = .failed ∨ next = .superseded) : r.state.canTransitionTo next = true := by
  revert h
  rcases hnext with rfl | rfl <;> cases r.state <;> decide

theorem expireIfStale_of (h : r.Stale now) : r.expireIfStale now =
      ({ r with state := .superseded }, .ok (some r.schedule)) := by
  obtain ⟨hact, hflags, hexpire, hnow⟩ := h
  have hfresh : ¬(r.schedule.flags &&& schedulingFlagDiscardStale = 0 ∨
      r.schedule.expireAtUnixMs = 0 ∨ now < r.schedule.expireAtUnixMs) := by
    simp [hflags, hexpire, hnow]
  rw [expireIfStale, hact, if_neg (by decide), if_neg hfresh, transition_eq,
    if_pos (canTransitionTo_of_active hact (.inr rfl))]

theorem expireIfStale_of_not (h : ¬r.Stale now) : r.expireIfStale now = (r, .ok none) := by
  rw [expireIfStale]
  split_ifs with hterm hfresh
  · rfl
  · rfl
  · rw [not_or, not_or] at hfresh
    exact absurd ⟨Bool.eq_false_of_not_eq_true hterm, hfresh.1, hfresh.2.1,
      UInt64.not_lt.mp hfresh.2.2⟩ h

variable (m : SchedulingMetadata) {ty : MessageType} {sid : UInt32}

theorem applySchedulingUpdate_of (hsess : r.descriptor.sessionId = sid)
    (hact : r.state.isTerminal = false)
    (htype : ty = .priorityUpdate ∨ ty = .deadline ∨ ty = .expireAt) :
    ∃ sched, r.applySchedulingUpdate sid ty m = ({ r with schedule := sched }, .ok sched) := by
  rw [applySchedulingUpdate, if_neg (not_not.mpr hsess), if_neg (by simp [hact])]
  rcases htype with rfl | rfl | rfl
  all_goals exact ⟨_, rfl⟩

theorem applySchedulingUpdate_other (hsess : r.descriptor.sessionId = sid)
    (hact : r.state.isTerminal = false) (htype : ty ∉ [.priorityUpdate, .deadline, .expireAt]) :
    ∃ e, r.applySchedulingUpdate sid ty m = ({ r with
      schedule := { r.schedule with updateSequence := m.controlSequence } },
        .error e) := by
  rw [applySchedulingUpdate, if_neg (not_not.mpr hsess), if_neg (by simp [hact])]
  cases ty
  all_goals first | exact absurd (by decide) htype | exact ⟨_, rfl⟩

end OperationRecord

namespace OperationRegistry

variable {sid : UInt32}

def set (r : OperationRegistry) (operationId : UInt64) (record : OperationRecord) :
    OperationRegistry :=
  ⟨r.operations.insert operationId record⟩

variable {r : OperationRegistry} {id a : UInt64} {rec r' : OperationRecord}
  {α : Type} {f : OperationRecord → OperationRecord × Except NnrpError α}

theorem set_get : (r.set id rec).operations[a]? = if id = a then some rec else r.operations[a]? :=
  get_insert

theorem set_get_self (r : OperationRegistry) (id : UInt64) (rec : OperationRecord) :
    (r.set id rec).operations[id]? = some rec := by
  rw [set_get, if_pos rfl]

theorem set_self (h : r.operations[id]? = some rec) : r.set id rec = r := by
  rw [set, insert_self h]

theorem set_set : (r.set id rec).set id r' = r.set id r' := by
  rw [set, set, set, insert_insert]

theorem update_unknown (h : r.operations[id]? = none) :
    r.update id f = (r, .error (.unknownOperation id)) := by
  rw [update, h]

variable {x : Except NnrpError α}

theorem update_eq (h : r.operations[id]? = some rec)
    (hf : f rec = (r', x)) : r.update id f = (r.set id r', x) := by
  rw [update, h]
  dsimp only
  rw [hf]
  rfl

theorem update_same (h : r.operations[id]? = some rec)
    (hf : f rec = (rec, x)) : r.update id f = (r, x) := by
  rw [update_eq h hf, set_self h]

variable {next : OperationState}

theorem transition_of (h : r.operations[id]? = some rec)
    (hcan : rec.state.canTransitionTo next = true) :
    r.transition id next = (r.set id { rec with state := next }, .ok ()) :=
  update_eq h (if_pos hcan)

theorem transition_cases (r : OperationRegistry) (id : UInt64) (next : OperationState) :
    (∃ rec, r.operations[id]? = some rec ∧ rec.state.canTransitionTo next = true ∧
      r.transition id next = (r.set id { rec with state := next }, .ok ())) ∨
      ∃ e, r.transition id next = (r, .error e) := by
  cases h : r.operations[id]? with
  | none => exact .inr ⟨_, update_unknown h⟩
  | some rec =>
    by_cases hcan : rec.state.canTransitionTo next = true
    · exact .inl ⟨rec, rfl, hcan, transition_of h hcan⟩
    · exact .inr ⟨_, update_same h (if_neg hcan)⟩

section
variable (h : r.operations[id]? = some rec) {now : UInt64}
include h

theorem transition_active_cases
    (hnext : next = .failed ∨ next = .superseded) : (rec.state.isTerminal = false ∧
      r.transition id next = (r.set id { rec with state := next }, .ok ())) ∨
      rec.state.isTerminal = true ∧ ∃ e, r.transition id next = (r, .error e) := by
  cases hterm : rec.state.isTerminal with
  | false => exact .inl ⟨rfl, transition_of h (rec.canTransitionTo_of_active hterm hnext)⟩
  | true =>
    refine .inr ⟨rfl, _, update_same h (if_neg ?_)⟩
    rw [OperationState.not_canTransitionTo_of_terminal hterm]
    decide

theorem complete_of (hcan : rec.Completable) :
    r.complete id = (r.set id { rec with state := .completed }, .ok ()) :=
  update_eq h (OperationRecord.complete_of hcan)

theorem expireIfStale_of (hstale : rec.Stale now) : r.expireIfStale id now =
      (r.set id { rec with state := .superseded }, .ok (some rec.schedule)) :=
  update_eq h (OperationRecord.expireIfStale_of hstale)

theorem expireIfStale_of_not (hstale : ¬rec.Stale now) : r.expireIfStale id now = (r, .ok none) :=
  update_same h (OperationRecord.expireIfStale_of_not hstale)

end

theorem applySchedulingUpdate_cases {ty : MessageType} {m : SchedulingMetadata}
    (h : r.operations[m.operationId]? = some rec)
    (htype : ty = .priorityUpdate ∨ ty = .deadline ∨ ty = .expireAt) :
    (rec.descriptor.sessionId = sid ∧ rec.state.isTerminal = false ∧
      ∃ sched, r.applySchedulingUpdate sid ty m =
        (r.set m.operationId { rec with schedule := sched }, .ok sched)) ∨
      (¬(rec.descriptor.sessionId = sid ∧ rec.state.isTerminal = false) ∧
        ∃ e, r.applySchedulingUpdate sid ty m = (r, .error e)) := by
  by_cases hsess : rec.descriptor.sessionId = sid
  · cases hterm : rec.state.isTerminal with
    | true =>
      refine .inr ⟨by simp, .invalidOperationTransition rec.state rec.state, update_same h ?_⟩
      rw [OperationRecord.applySchedulingUpdate, if_neg (not_not.mpr hsess), if_pos hterm]
    | false =>
      obtain ⟨sched, hschedule⟩ :=
        OperationRecord.applySchedulingUpdate_of m hsess hterm htype
      exact .inl ⟨hsess, rfl, sched, update_eq h hschedule⟩
  · refine .inr ⟨fun hand => hsess hand.1, .invalidOperationRelationship
      "scheduling update session_id must match the target operation", update_same h ?_⟩
    rw [OperationRecord.applySchedulingUpdate, if_pos hsess]

theorem cancel_of (h : r.operations[id]? = some rec) (hsess : rec.descriptor.sessionId = sid) :
    r.cancel ⟨sid, id, .operation⟩ = if rec.state.isTerminal then (r, .ok [])
      else (r.set id { rec with state := .cancelled }, .ok [id]) := by
  have hvalid : r.validateCancel ⟨sid, id, .operation⟩ = .ok [id] := by
    rw [validateCancel, h]
    simp only [hsess, ne_eq, not_true_eq_false, if_false]
    rfl
  have hsort : [id].insertionSort (· ≤ ·) = [id] := rfl
  rw [cancel_ok hvalid, hsort, cancelEach, h]
  dsimp only
  split_ifs with hterm
  · rfl
  · have hcanc : rec.cancelled = { rec with state := .cancelled } := if_neg hterm
    rw [hcanc]
    rfl

theorem register_cases (r : OperationRegistry) (id : UInt64) (hsess : sid ≠ 0) :
    (id ≠ 0 ∧ r.operations[id]? = none ∧ r.register { sessionId := sid, operationId := id } =
        (r.set id { descriptor := { sessionId := sid, operationId := id } }, .ok ())) ∨
      (¬(id ≠ 0 ∧ r.operations[id]? = none) ∧
        ∃ e, r.register { sessionId := sid, operationId := id } = (r, .error e)) := by
  rw [register, get_eq_none]
  by_cases hzero : id = 0
  · refine .inr ⟨fun hand => hand.1 hzero, ?_⟩
    simp [validateNew, validateDescriptorShape, hsess, hzero, Bind.bind, Except.bind]
  · by_cases hnew : id ∉ r.operations
    · refine .inl ⟨hzero, hnew, ?_⟩
      have hvalid : r.validateNew { sessionId := sid, operationId := id } = .ok () := by
        simp [validateNew, validateDescriptorShape, validateParent, Fallible.ensure, hsess,
          hzero, hnew]
      rw [hvalid]
      rfl
    · refine .inr ⟨fun hand => hnew hand.2, .operationAlreadyExists id, ?_⟩
      have hvalid : r.validateNew { sessionId := sid, operationId := id } =
          .error (.operationAlreadyExists id) := by
        simp [validateNew, validateDescriptorShape, Fallible.ensure, hsess, hzero,
          not_not.mp hnew, Bind.bind, Except.bind]
      rw [hvalid]

end OperationRegistry

end Nnrp.Operation
