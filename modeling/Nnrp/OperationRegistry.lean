import Nnrp.PreSubmit
import Nnrp.Worklist

/-!
# The operation registry

Every operation of a connection has a record with its descriptor, its state and its schedule. The
functions that change a record keep its descriptor, and leave a record in a terminal state alone.
-/

namespace Nnrp.Operation
open Protocol OrderedMap PreSubmit Fallible

structure OperationDescriptor where
  sessionId : UInt32
  operationId : UInt64
  parentOperationId : Option UInt64 := none
  operationGroupId : Option UInt64 := none
  deriving DecidableEq

structure OperationSchedule where
  priorityClass : UInt16 := 0
  priorityDelta : Int16 := 0
  deadlineUnixMs : UInt64 := 0
  expireAtUnixMs : UInt64 := 0
  updateSequence : UInt64 := 0
  flags : UInt32 := 0
  deriving DecidableEq

structure OperationRecord where
  descriptor : OperationDescriptor
  state : OperationState := .accepted
  schedule : OperationSchedule := {}
  deriving DecidableEq

inductive CancelScope
  | operation | subtree | group | session
  deriving DecidableEq

structure OperationCancelRequest where
  sessionId : UInt32
  operationId : UInt64
  cancelScope : CancelScope
  deriving DecidableEq

structure OperationRegistry where
  operations : BTreeMap UInt64 OperationRecord := ∅

def schedulingFlagDiscardStale : UInt32 := 1

namespace OperationRecord

variable (record : OperationRecord)

def transition (nextState : OperationState) : OperationRecord × Except NnrpError Unit :=
  if record.state.canTransitionTo nextState then ({ record with state := nextState }, .ok ())
  else (record, .error (.invalidOperationTransition record.state nextState))

def started : OperationRecord :=
  if record.state = .accepted then { record with state := .running } else record

def complete : OperationRecord × Except NnrpError Unit :=
  if record.state.isTerminal then
    (record, .error (.invalidOperationTransition record.state .completed))
  else record.started.transition .completed

def abort : OperationRecord × Except NnrpError Unit := record.transition .failed

def expireIfStale (nowUnixMs : UInt64) :
    OperationRecord × Except NnrpError (Option OperationSchedule) :=
  if record.state.isTerminal then (record, .ok none)
  else if record.schedule.flags &&& schedulingFlagDiscardStale = 0 ∨
      record.schedule.expireAtUnixMs = 0 ∨ nowUnixMs < record.schedule.expireAtUnixMs then
    (record, .ok none)
  else
    match record.transition .superseded with
    | (record, .ok ()) => (record, .ok (some record.schedule))
    | (record, .error e) => (record, .error e)

/-- The update sequence is stored before the kind of the update is looked at. -/
def applySchedulingUpdate (sessionId : UInt32) (messageType : MessageType)
    (metadata : SchedulingMetadata) : OperationRecord × Except NnrpError OperationSchedule :=
  if record.descriptor.sessionId ≠ sessionId then
    (record, .error (.invalidOperationRelationship
      "scheduling update session_id must match the target operation"))
  else if record.state.isTerminal then
    (record, .error (.invalidOperationTransition record.state record.state))
  else
    let schedule := { record.schedule with updateSequence := metadata.controlSequence }
    match messageType with
    | .priorityUpdate =>
      let schedule := { schedule with
        priorityClass := metadata.priorityClass, priorityDelta := metadata.priorityDelta }
      ({ record with schedule }, .ok schedule)
    | .deadline =>
      let schedule := { schedule with deadlineUnixMs := metadata.deadlineUnixMs }
      ({ record with schedule }, .ok schedule)
    | .expireAt =>
      let schedule := { schedule with
        expireAtUnixMs := metadata.deadlineUnixMs, flags := metadata.flags }
      ({ record with schedule }, .ok schedule)
    | _ =>
      ({ record with schedule }, .error (.invalidProtocolCombination
        "scheduling update requires PRIORITY_UPDATE, DEADLINE, or EXPIRE_AT"))

def cancelled : OperationRecord :=
  if record.state.isTerminal then record else { record with state := .cancelled }

end OperationRecord

def validateDescriptorShape (descriptor : OperationDescriptor) : Except NnrpError Unit :=
  if descriptor.sessionId = 0 then
    .error (.invalidOperationRelationship "operation session_id must be non-zero")
  else if descriptor.operationId = 0 then
    .error (.invalidOperationRelationship "operation_id must be non-zero")
  else if descriptor.parentOperationId = some descriptor.operationId then
    .error (.invalidOperationRelationship "operation cannot be its own parent")
  else if descriptor.operationGroupId = some 0 then
    .error (.invalidOperationRelationship "operation_group_id must be non-zero when present")
  else .ok ()

namespace OperationRegistry

variable (r : OperationRegistry)

def validateParent (descriptor : OperationDescriptor) : Except NnrpError Unit :=
  match descriptor.parentOperationId with
  | none => .ok ()
  | some parentOperationId =>
    match r.operations[parentOperationId]? with
    | none => .error (.unknownOperation parentOperationId)
    | some parent =>
      if parent.descriptor.sessionId ≠ descriptor.sessionId then
        .error (.invalidOperationRelationship "parent operation must belong to the same session")
      else .ok ()

def validateNew (descriptor : OperationDescriptor) : Except NnrpError Unit := do
  validateDescriptorShape descriptor
  ensure (descriptor.operationId ∉ r.operations)
    (.operationAlreadyExists descriptor.operationId)
  r.validateParent descriptor

def register (descriptor : OperationDescriptor) : OperationRegistry × Except NnrpError Unit :=
  match r.validateNew descriptor with
  | .error e => (r, .error e)
  | .ok () => (⟨r.operations.insert descriptor.operationId { descriptor }⟩, .ok ())

def update {α : Type} (operationId : UInt64)
    (f : OperationRecord → OperationRecord × Except NnrpError α) :
    OperationRegistry × Except NnrpError α :=
  match r.operations[operationId]? with
  | none => (r, .error (.unknownOperation operationId))
  | some record => (⟨r.operations.insert operationId (f record).1⟩, (f record).2)

def transition (operationId : UInt64) (nextState : OperationState) :
    OperationRegistry × Except NnrpError Unit :=
  r.update operationId fun record => record.transition nextState

def complete (operationId : UInt64) : OperationRegistry × Except NnrpError Unit :=
  r.update operationId OperationRecord.complete

def abort (operationId : UInt64) : OperationRegistry × Except NnrpError Unit :=
  r.update operationId OperationRecord.abort

def expireIfStale (operationId : UInt64) (nowUnixMs : UInt64) :
    OperationRegistry × Except NnrpError (Option OperationSchedule) :=
  r.update operationId fun record => record.expireIfStale nowUnixMs

def applySchedulingUpdate (sessionId : UInt32) (messageType : MessageType)
    (metadata : SchedulingMetadata) : OperationRegistry × Except NnrpError OperationSchedule :=
  r.update metadata.operationId fun record =>
    record.applySchedulingUpdate sessionId messageType metadata

def parentLinks : List (UInt64 × UInt64) :=
  (values r.operations).filterMap fun record =>
    record.descriptor.parentOperationId.map fun parent => (parent, record.descriptor.operationId)

def subtreeOperationIds (rootOperationId : UInt64) : List UInt64 :=
  (Worklist.collect r.parentLinks ∅ [rootOperationId]).toList

def idsWhere (p : OperationDescriptor → Bool) : List UInt64 :=
  ((values r.operations).filter fun record => p record.descriptor).map fun record =>
    record.descriptor.operationId

def groupOperationIds : Option UInt64 → Except NnrpError (List UInt64)
  | none => .error (.invalidOperationRelationship
      "group cancel requires the target operation to have an operation_group_id")
  | some operationGroupId =>
    .ok (r.idsWhere fun descriptor => descriptor.operationGroupId = some operationGroupId)

def sessionOperationIds (sessionId : UInt32) : List UInt64 :=
  r.idsWhere fun descriptor => descriptor.sessionId = sessionId

def cancelTargets (request : OperationCancelRequest) (target : OperationRecord) :
    Except NnrpError (List UInt64) :=
  match request.cancelScope with
  | .operation => .ok [request.operationId]
  | .subtree => .ok (r.subtreeOperationIds request.operationId)
  | .group => r.groupOperationIds target.descriptor.operationGroupId
  | .session => .ok (r.sessionOperationIds request.sessionId)

/-- The loop over the collected ids; each of them has a record (`cancelTargets_registered`). -/
def cancelEach : List UInt64 → OperationRegistry → List UInt64 → OperationRegistry × List UInt64
  | [], r, cancelled => (r, cancelled)
  | operationId :: operationIds, r, cancelled =>
    match r.operations[operationId]? with
    | none => cancelEach operationIds r cancelled
    | some record =>
      if record.state.isTerminal then cancelEach operationIds r cancelled
      else
        cancelEach operationIds ⟨r.operations.insert operationId record.cancelled⟩
          (cancelled ++ [operationId])

def validateCancel (request : OperationCancelRequest) : Except NnrpError (List UInt64) :=
  match r.operations[request.operationId]? with
  | none => .error (.unknownOperation request.operationId)
  | some target =>
    if target.descriptor.sessionId ≠ request.sessionId then
      .error (.invalidOperationRelationship
        "cancel request session_id must match the target operation")
    else r.cancelTargets request target

def cancel (request : OperationCancelRequest) :
    OperationRegistry × Except NnrpError (List UInt64) :=
  match r.validateCancel request with
  | .error e => (r, .error e)
  | .ok operationIds =>
    let (r, cancelled) := cancelEach (operationIds.insertionSort (· ≤ ·)) r []
    (r, .ok cancelled)

end OperationRegistry

structure Evolves (a b : OperationRecord) : Prop where
  descriptor : b.descriptor = a.descriptor
  terminal : a.state.isTerminal = true → b = a

namespace Evolves

variable {a b c rec : OperationRecord}

theorem refl (a : OperationRecord) : Evolves a a := ⟨rfl, fun _ => rfl⟩

theorem trans (hab : Evolves a b) (hbc : Evolves b c) : Evolves a c := by
  refine ⟨hbc.descriptor.trans hab.descriptor, ?_⟩
  intro ha
  have hb := hab.terminal ha
  subst hb
  exact hbc.terminal ha

theorem of_active (hdesc : b.descriptor = a.descriptor) (ha : a.state.isTerminal = false) :
    Evolves a b := by
  refine ⟨hdesc, ?_⟩
  intro hterm
  rw [ha] at hterm
  cases hterm

variable (rec : OperationRecord)

theorem transition (next : OperationState) : Evolves rec (rec.transition next).1 := by
  rw [OperationRecord.transition]
  split_ifs with h
  · refine of_active rfl ?_
    by_contra hterm
    rw [Bool.not_eq_false] at hterm
    rw [OperationState.not_canTransitionTo_of_terminal hterm] at h
    cases h
  · exact refl rec

theorem started : Evolves rec rec.started := by
  rw [OperationRecord.started]
  split_ifs with h
  · refine of_active rfl ?_
    rw [h]
    rfl
  · exact refl rec

theorem complete : Evolves rec rec.complete.1 := by
  rw [OperationRecord.complete]
  split_ifs
  · exact refl rec
  · exact (started rec).trans (transition rec.started .completed)

theorem expireIfStale (now : UInt64) : Evolves rec (rec.expireIfStale now).1 := by
  have h := transition rec .superseded
  rw [OperationRecord.expireIfStale]
  split_ifs
  · exact refl rec
  · exact refl rec
  · split
    all_goals
      rename_i heq
      rw [heq] at h
      exact h

theorem applySchedulingUpdate (sid : UInt32) (ty : MessageType) (m : SchedulingMetadata) :
    Evolves rec (rec.applySchedulingUpdate sid ty m).1 := by
  rw [OperationRecord.applySchedulingUpdate]
  split_ifs with hsess hterm
  · exact refl rec
  · exact refl rec
  · rw [Bool.not_eq_true] at hterm
    split
    all_goals exact of_active rfl hterm

theorem cancelled : Evolves rec rec.cancelled := by
  rw [OperationRecord.cancelled]
  split_ifs with h
  · exact refl rec
  · exact of_active rfl (Bool.eq_false_of_not_eq_true h)

end Evolves

theorem OperationRecord.cancelled_terminal (r : OperationRecord) :
    r.cancelled.state.isTerminal = true := by
  rw [cancelled]
  split_ifs with h
  · exact h
  · rfl

namespace OperationRegistry

variable {r : OperationRegistry} {a id : UInt64}

theorem update_get {α : Type} {f : OperationRecord → OperationRecord × Except NnrpError α} :
    (r.update id f).1.operations[a]? = if id = a then r.operations[a]?.map fun rec => (f rec).1
      else r.operations[a]? := by
  rw [update]
  cases h : r.operations[id]? with
  | none =>
    by_cases ha : id = a
    · subst ha
      simp [h]
    · rw [if_neg ha]
  | some rec =>
    simp only [get_insert]
    by_cases ha : id = a
    · subst ha
      simp [h]
    · rw [if_neg ha, if_neg ha]

theorem cancelEach_spec {ids cancelled : List UInt64} :
    (cancelEach ids r cancelled).1.operations[a]? =
        (if a ∈ ids then r.operations[a]?.map OperationRecord.cancelled else r.operations[a]?) ∧
      (a ∈ (cancelEach ids r cancelled).2 ↔ a ∈ cancelled ∨ a ∈ ids ∧
        ∃ rec, r.operations[a]? = some rec ∧ rec.state.isTerminal = false) := by
  induction ids generalizing r cancelled with
  | nil => simp [cancelEach]
  | cons id ids ih =>
    rw [cancelEach]
    cases h : r.operations[id]? with
    | none =>
      rw [ih.1, ih.2]
      by_cases ha : a = id
      · subst ha
        simp [h]
      · simp [ha]
    | some rec =>
      by_cases hterm : rec.state.isTerminal = true
      · simp only [hterm, if_true]
        rw [ih.1, ih.2]
        by_cases ha : a = id
        · subst ha
          have hsame : rec.cancelled = rec := if_pos hterm
          simp [h, hsame, hterm]
        · simp [ha]
      · rw [Bool.not_eq_true] at hterm
        simp only [hterm, Bool.false_eq_true, if_false]
        rw [ih.1, ih.2, get_insert]
        by_cases ha : id = a
        · subst ha
          have hsame : rec.cancelled.cancelled = rec.cancelled :=
            if_pos rec.cancelled_terminal
          simp [h, hsame, hterm]
        · simp [ha, Ne.symm ha]

variable {req : OperationCancelRequest}

theorem cancel_error {e : NnrpError}
    (h : r.validateCancel req = .error e) : r.cancel req = (r, .error e) := by
  rw [cancel, h]

theorem cancel_ok {ids : List UInt64} (h : r.validateCancel req = .ok ids) : r.cancel req =
      ((cancelEach (ids.insertionSort (· ≤ ·)) r []).1,
        .ok (cancelEach (ids.insertionSort (· ≤ ·)) r []).2) := by
  rw [cancel, h]

theorem validateNew_ok {d : OperationDescriptor} (h : r.validateNew d = .ok ()) :
    d.operationId ≠ 0 ∧ r.operations[d.operationId]? = none ∧
      ∀ parent, d.parentOperationId = some parent → ∃ rec, r.operations[parent]? = some rec ∧
          rec.descriptor.sessionId = d.sessionId := by
  rw [validateNew] at h
  obtain ⟨_, hshape, h⟩ := bind_eq_ok.mp h
  obtain ⟨_, hnew, hpar⟩ := bind_eq_ok.mp h
  refine ⟨?_, ?_, ?_⟩
  · intro hzero
    simp only [validateDescriptorShape, hzero] at hshape
    split_ifs at hshape
  · exact Std.ExtTreeMap.getElem?_eq_none (ensure_eq_ok.mp hnew)
  · intro parent hp
    simp only [validateParent, hp] at hpar
    cases hrec : r.operations[parent]? with
    | none =>
      rw [hrec] at hpar
      cases hpar
    | some rec =>
      rw [hrec] at hpar
      simp only at hpar
      split_ifs at hpar with hsess
      exact ⟨rec, rfl, not_not.mp hsess⟩

end OperationRegistry

end Nnrp.Operation
