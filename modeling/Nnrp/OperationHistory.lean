import Nnrp.LabelledRun
import Nnrp.RegistryOutcome

/-!
# Histories of the operation registry

Calls of any kind and with any arguments follow one another, whether they succeed or fail. The
order in which operations were registered is kept beside the registry: a parent always stands
before its children.
-/

namespace Nnrp.Operation
open LabelledRun Protocol OrderedMap PreSubmit OperationRegistry List

inductive Call
  | register (descriptor : OperationDescriptor)
  | transition (operationId : UInt64) (nextState : OperationState)
  | complete (operationId : UInt64)
  | abort (operationId : UInt64)
  | expireIfStale (operationId : UInt64) (nowUnixMs : UInt64)
  | applySchedulingUpdate (sessionId : UInt32) (messageType : MessageType)
      (metadata : SchedulingMetadata)
  | cancel (request : OperationCancelRequest)

def Call.apply (r : OperationRegistry) : Call → OperationRegistry
  | .register descriptor => (r.register descriptor).1
  | .transition operationId nextState => (r.transition operationId nextState).1
  | .complete operationId => (r.complete operationId).1
  | .abort operationId => (r.abort operationId).1
  | .expireIfStale operationId nowUnixMs => (r.expireIfStale operationId nowUnixMs).1
  | .applySchedulingUpdate sessionId messageType metadata =>
    (r.applySchedulingUpdate sessionId messageType metadata).1
  | .cancel request => (r.cancel request).1

def Call.registered (r : OperationRegistry) : Call → List UInt64
  | .register descriptor =>
    match (r.register descriptor).2 with
    | .ok () => [descriptor.operationId]
    | .error _ => []
  | _ => []

structure State where
  registry : OperationRegistry := {}
  order : List UInt64 := []

def step (s : State) (call : Call) : Option State :=
  some { registry := call.apply s.registry, order := s.order ++ call.registered s.registry }

def Keeps (r r' : OperationRegistry) : Prop :=
  ∀ (operationId : UInt64) (record : OperationRecord), r.operations[operationId]? = some record →
    ∃ record', r'.operations[operationId]? = some record' ∧ Evolves record record'

inductive Transition (s s' : State) : Prop
  | evolved (hkeeps : Keeps s.registry s'.registry)
      (hold : ∀ (operationId : UInt64) (record' : OperationRecord),
        s'.registry.operations[operationId]? = some record' →
          ∃ record, s.registry.operations[operationId]? = some record ∧
          record'.descriptor = record.descriptor)
      (horder : s'.order = s.order)
  | registered (descriptor : OperationDescriptor)
      (hnew : s.registry.validateNew descriptor = .ok ())
      (hregistry : s'.registry.operations =
        s.registry.operations.insert descriptor.operationId { descriptor })
      (horder : s'.order = s.order ++ [descriptor.operationId])

variable {s s' t : State} {call : Call} {calls later : List Call} {r : OperationRegistry} {α : Type}
  {e : NnrpError} {id : UInt64} {f : OperationRecord → OperationRecord × Except NnrpError α}

theorem keeps_of_map {r r' : OperationRegistry} {f : UInt64 → OperationRecord → OperationRecord}
    (hf : ∀ id rec, Evolves rec (f id rec)) (h : ∀ id, r'.operations[id]? =
      r.operations[id]?.map (f id)) : Keeps r r' ∧ ∀ (id : UInt64) (rec' : OperationRecord),
      r'.operations[id]? = some rec' → ∃ rec, r.operations[id]? = some rec ∧
          rec'.descriptor = rec.descriptor := by
  constructor
  · intro id rec hrec
    exact ⟨f id rec, by rw [h, hrec]; rfl, hf id rec⟩
  · intro id rec' hrec'
    rw [h] at hrec'
    obtain ⟨rec, hrec, rfl⟩ := Option.map_eq_some_iff.mp hrec'
    exact ⟨rec, hrec, (hf id rec).descriptor⟩

theorem update_keeps (hf : ∀ rec, Evolves rec (f rec).1) (order : List UInt64) :
    Transition ⟨r, order⟩ ⟨(r.update id f).1, order ++ []⟩ := by
  have hget : ∀ a : UInt64, (r.update id f).1.operations[a]? =
      r.operations[a]?.map fun rec => if id = a then (f rec).1 else rec := by
    intro a
    rw [update_get]
    split_ifs
    · rfl
    · rw [Option.map_id']
  obtain ⟨hkeeps, hold⟩ := keeps_of_map (fun a rec => by
    split_ifs
    · exact hf rec
    · exact .refl rec) hget
  exact .evolved hkeeps hold (append_nil _)

theorem Transition.same {order order' : List UInt64} (horder : order' = order) :
    Transition ⟨r, order⟩ ⟨r, order'⟩ :=
  .evolved (fun _ rec hrec => ⟨rec, hrec, .refl rec⟩) (fun _ rec hrec => ⟨rec, hrec, rfl⟩) horder

theorem cancel_keeps (req : OperationCancelRequest) (order : List UInt64) :
    Transition ⟨r, order⟩ ⟨(r.cancel req).1, order ++ []⟩ := by
  cases h : r.validateCancel req with
  | error e =>
    rw [cancel_error h]
    exact .same (append_nil _)
  | ok ids =>
    rw [cancel_ok h]
    have hget : ∀ a : UInt64, (cancelEach (ids.insertionSort (· ≤ ·)) r []).1.operations[a]? =
        r.operations[a]?.map fun rec =>
          if a ∈ ids.insertionSort (· ≤ ·) then rec.cancelled else rec := by
      intro a
      rw [cancelEach_spec.1]
      split_ifs
      · rfl
      · rw [Option.map_id']
    obtain ⟨hkeeps, hold⟩ := keeps_of_map (fun a rec => by
      split_ifs
      · exact .cancelled rec
      · exact .refl rec) hget
    exact .evolved hkeeps hold (append_nil _)

theorem register_transition (d : OperationDescriptor) (order : List UInt64) :
    Transition ⟨r, order⟩ ⟨(r.register d).1, order ++ (Call.register d).registered r⟩ := by
  cases h : r.validateNew d with
  | error e =>
    have hregister : r.register d = (r, .error e) := by
      rw [register, h]
    simp only [Call.registered, hregister]
    exact .same (append_nil _)
  | ok _ =>
    have hregister : r.register d =
        (⟨r.operations.insert d.operationId { descriptor := d }⟩, .ok ()) := by
      rw [register, h]
    simp only [Call.registered, hregister]
    exact .registered d h rfl rfl

theorem step_transition (hs : step s call = some s') : Transition s s' := by
  cases hs
  cases call with
  | register d => exact register_transition d s.order
  | transition id nextState => exact update_keeps (.transition · nextState) s.order
  | complete id => exact update_keeps .complete s.order
  | abort id => exact update_keeps (.transition · .failed) s.order
  | expireIfStale id now => exact update_keeps (.expireIfStale · now) s.order
  | applySchedulingUpdate sid ty m =>
    exact update_keeps (.applySchedulingUpdate · sid ty m) s.order
  | cancel req => exact cancel_keeps req s.order

structure State.Valid (s : State) : Prop where
  order : ∀ operationId : UInt64, operationId ∈ s.order ↔
    ∃ record, s.registry.operations[operationId]? = some record
  nodup : s.order.Nodup
  id : ∀ (operationId : UInt64) (record : OperationRecord),
    s.registry.operations[operationId]? = some record →
      operationId ≠ 0 ∧ record.descriptor.operationId = operationId
  parent : ∀ (operationId parent : UInt64) (record : OperationRecord),
    s.registry.operations[operationId]? = some record →
      record.descriptor.parentOperationId = some parent →
        s.order.idxOf parent < s.order.idxOf operationId ∧
        ∃ parentRecord, s.registry.operations[parent]? = some parentRecord ∧
          parentRecord.descriptor.sessionId = record.descriptor.sessionId

theorem valid_empty : State.Valid {} := by
  refine ⟨?_, nodup_nil, ?_, ?_⟩
  · intro id
    simp
  · intro id rec h
    simp at h
  · intro id parent rec h
    simp at h

theorem State.Valid.evolved (h : s.Valid) (hkeeps : Keeps s.registry s'.registry)
    (hold : ∀ (id : UInt64) (r' : OperationRecord), s'.registry.operations[id]? = some r' →
        ∃ rec, s.registry.operations[id]? = some rec ∧
          r'.descriptor = rec.descriptor) (horder : s'.order = s.order) : s'.Valid := by
  refine ⟨?_, horder ▸ h.nodup, ?_, ?_⟩
  · intro id
    rw [horder, h.order]
    constructor
    · rintro ⟨rec, hrec⟩
      obtain ⟨r', hrec', -⟩ := hkeeps id rec hrec
      exact ⟨r', hrec'⟩
    · rintro ⟨r', hrec'⟩
      obtain ⟨rec, hrec, -⟩ := hold id r' hrec'
      exact ⟨rec, hrec⟩
  · intro id r' hrec'
    obtain ⟨rec, hrec, hdesc⟩ := hold id r' hrec'
    rw [hdesc]
    exact h.id id rec hrec
  · intro id parent r' hrec' hpar
    obtain ⟨rec, hrec, hdesc⟩ := hold id r' hrec'
    rw [hdesc] at hpar ⊢
    obtain ⟨hbefore, parentRecord, hget, hsess⟩ := h.parent id parent rec hrec hpar
    obtain ⟨parentRecord', hget', hevolves⟩ := hkeeps parent parentRecord hget
    rw [horder]
    exact ⟨hbefore, parentRecord', hget', by rw [hevolves.descriptor, hsess]⟩

theorem State.Valid.registered {d : OperationDescriptor} (h : s.Valid)
    (hnew : s.registry.validateNew d = .ok ()) (hreg : s'.registry.operations =
      s.registry.operations.insert d.operationId { descriptor := d })
    (horder : s'.order = s.order ++ [d.operationId]) : s'.Valid := by
  obtain ⟨hzero, hfresh, hparentOk⟩ := validateNew_ok hnew
  have hunordered : d.operationId ∉ s.order := by
    rw [h.order, hfresh]
    rintro ⟨rec, hrec⟩
    cases hrec
  have hget : ∀ id : UInt64, s'.registry.operations[id]? =
      if d.operationId = id then some { descriptor := d }
      else s.registry.operations[id]? := by
    intro id
    rw [hreg, get_insert]
  have hidx : ∀ id ∈ s.order, s'.order.idxOf id = s.order.idxOf id := by
    intro id hmem
    rw [horder, idxOf_append_of_mem hmem]
  refine ⟨?_, ?_, ?_, ?_⟩
  · intro id
    rw [horder, hget, mem_append, mem_singleton, h.order]
    by_cases hsame : d.operationId = id
    · simp [hsame]
    · simp [hsame, Ne.symm hsame]
  · rw [horder]
    exact List.Nodup.append h.nodup (nodup_singleton _) (by simpa using hunordered)
  · intro id rec hrec
    rw [hget] at hrec
    split_ifs at hrec with hsame
    · cases hrec
      exact ⟨hsame ▸ hzero, hsame⟩
    · exact h.id id rec hrec
  · intro id parent rec hrec hpar
    -- the parent has a record in either case, so it is not the new operation
    have hold : ∃ parentRecord, s.registry.operations[parent]? = some parentRecord ∧
        parentRecord.descriptor.sessionId = rec.descriptor.sessionId := by
      rw [hget] at hrec
      split_ifs at hrec with hsame
      · cases hrec
        exact hparentOk parent hpar
      · exact (h.parent id parent rec hrec hpar).2
    obtain ⟨parentRecord, hparGet, hsess⟩ := hold
    have hmem : parent ∈ s.order := (h.order parent).mpr ⟨parentRecord, hparGet⟩
    have hne : d.operationId ≠ parent := fun heq => hunordered (heq ▸ hmem)
    refine ⟨?_, parentRecord, by rw [hget, if_neg hne, hparGet], hsess⟩
    rw [hget] at hrec
    rw [hidx parent hmem]
    split_ifs at hrec with hsame
    · subst hsame
      rw [horder, idxOf_append_of_notMem hunordered]
      exact lt_of_lt_of_le (idxOf_lt_length_of_mem hmem) (Nat.le_add_right _ _)
    · have hmemId : id ∈ s.order := (h.order id).mpr ⟨rec, hrec⟩
      rw [hidx id hmemId]
      exact (h.parent id parent rec hrec hpar).1

theorem Transition.valid (ht : Transition s s') (h : s.Valid) : s'.Valid := by
  cases ht with
  | evolved hkeeps hold horder => exact h.evolved hkeeps hold horder
  | registered d hnew hreg horder => exact h.registered hnew hreg horder

theorem run_valid (hr : run step {} calls = some s) : s.Valid :=
  run_induction State.Valid (fun _ _ _ h hs => (step_transition hs).valid h) valid_empty hr

theorem Transition.keeps (ht : Transition s s') : Keeps s.registry s'.registry := by
  cases ht with
  | evolved hkeeps => exact hkeeps
  | registered d hnew hreg =>
    intro id rec hrec
    have hne : d.operationId ≠ id := by
      rintro rfl
      rw [(validateNew_ok hnew).2.1] at hrec
      cases hrec
    refine ⟨rec, ?_, .refl rec⟩
    rw [hreg, get_insert, if_neg hne, hrec]

theorem run_keeps (hr : run step s calls = some t) : Keeps s.registry t.registry := by
  refine run_induction (fun t => Keeps s.registry t.registry) ?_ ?_ hr
  · intro t call t' h hs id rec hrec
    obtain ⟨r', hrec', hevolves⟩ := h id rec hrec
    obtain ⟨record'', hrecord'', hevolves'⟩ := (step_transition hs).keeps id r' hrec'
    exact ⟨record'', hrecord'', hevolves.trans hevolves'⟩
  · intro id rec hrec
    exact ⟨rec, hrec, .refl rec⟩

def IsParent (r : OperationRegistry) (parent operationId : UInt64) : Prop :=
  ∃ record, r.operations[operationId]? = some record ∧
    record.descriptor.parentOperationId = some parent

theorem State.Valid.ancestor_before (h : s.Valid) {a b : UInt64}
    (hab : Relation.TransGen (IsParent s.registry) a b) : s.order.idxOf a < s.order.idxOf b := by
  induction hab with
  | single hpar =>
    obtain ⟨rec, hrec, hpar⟩ := hpar
    exact (h.parent _ _ rec hrec hpar).1
  | tail _ hpar ih =>
    obtain ⟨rec, hrec, hpar⟩ := hpar
    exact ih.trans (h.parent _ _ rec hrec hpar).1

/-- In every reachable registry the ids and the parent links are sound, and what later calls do to
a record keeps its descriptor, and the whole record once it is terminal. -/
theorem operation_registry_invariant (hr : run step {} calls = some s)
    (hlater : run step s later = some t) : s.order.Nodup ∧
    (∀ operationId : UInt64, operationId ∈ s.order ↔
      ∃ record, s.registry.operations[operationId]? = some record) ∧
    (∀ (operationId : UInt64) (record : OperationRecord),
      s.registry.operations[operationId]? = some record →
        operationId ≠ 0 ∧ record.descriptor.operationId = operationId ∧
        ∀ parent, record.descriptor.parentOperationId = some parent →
          s.order.idxOf parent < s.order.idxOf operationId ∧
          ∃ parentRecord, s.registry.operations[parent]? = some parentRecord ∧
            parentRecord.descriptor.sessionId = record.descriptor.sessionId) ∧
    (∀ operationId, ¬Relation.TransGen (IsParent s.registry) operationId operationId) ∧
    (∀ (operationId : UInt64) (record : OperationRecord),
      s.registry.operations[operationId]? = some record →
        ∃ record', t.registry.operations[operationId]? = some record' ∧
          record'.descriptor = record.descriptor ∧ (record.state.isTerminal = true →
            record'.state = record.state ∧ record'.schedule = record.schedule)) := by
  have hvalid := run_valid hr
  refine ⟨hvalid.nodup, hvalid.order, ?_, ?_, ?_⟩
  · intro operationId record hrec
    obtain ⟨hzero, hid⟩ := hvalid.id operationId record hrec
    exact ⟨hzero, hid, fun parent => hvalid.parent operationId parent record hrec⟩
  · intro operationId hcycle
    exact absurd (hvalid.ancestor_before hcycle) (lt_irrefl _)
  · intro operationId record hrec
    obtain ⟨record', hrec', hevolves⟩ := run_keeps hlater operationId record hrec
    refine ⟨record', hrec', hevolves.descriptor, ?_⟩
    intro hterm
    rw [hevolves.terminal hterm]
    exact ⟨rfl, rfl⟩

def cancelledPair : List Call :=
  [.register ⟨42, 1, none, some 7⟩, .register ⟨42, 2, some 1, none⟩, .cancel ⟨42, 1, .subtree⟩]

def lateCalls : List Call :=
  [.transition 2 .running, .applySchedulingUpdate 42 .deadline ⟨2, 5, 0, 0, 9, 0⟩,
    .register ⟨42, 2, none, none⟩]

theorem operation_registry_invariant_cancelled :
    ∃ s t : State, run step {} cancelledPair = some s ∧ run step s lateCalls = some t ∧
      s.order.idxOf 1 < s.order.idxOf 2 ∧
      ∃ record, t.registry.operations[(2 : UInt64)]? = some record ∧
        record.descriptor.parentOperationId = some 1 ∧ record.state = .cancelled ∧
        record.schedule = {} := by
  have hrun : (run step {} cancelledPair).map (fun s => s.registry.operations[(2 : UInt64)]?) =
      some (some { descriptor := ⟨42, 2, some 1, none⟩, state := .cancelled }) := by
    decide +kernel
  obtain ⟨s, hs, hget⟩ := Option.map_eq_some_iff.mp hrun
  obtain ⟨t, ht⟩ : ∃ t, run step s lateCalls = some t := ⟨_, rfl⟩
  obtain ⟨-, -, hrecords, -, hkept⟩ := operation_registry_invariant hs ht
  have hbefore := ((hrecords 2 _ hget).2.2 1 rfl).1
  obtain ⟨record, hrec, hdesc, hterm⟩ := hkept 2 _ hget
  obtain ⟨hstate, hschedule⟩ := hterm rfl
  exact ⟨s, t, hs, ht, hbefore, record, hrec, by rw [hdesc], hstate, hschedule⟩

def Call.result (r : OperationRegistry) : Call → Except NnrpError Unit
  | .register descriptor => (r.register descriptor).2
  | .transition operationId nextState => (r.transition operationId nextState).2
  | .complete operationId => (r.complete operationId).2
  | .abort operationId => (r.abort operationId).2
  | .expireIfStale operationId nowUnixMs =>
    (r.expireIfStale operationId nowUnixMs).2.map fun _ => ()
  | .applySchedulingUpdate sessionId messageType metadata =>
    (r.applySchedulingUpdate sessionId messageType metadata).2.map fun _ => ()
  | .cancel request => (r.cancel request).2.map fun _ => ()

/-- A scheduling update of another kind, with a new update sequence for a running operation. -/
def Call.Bumps (r : OperationRegistry) : Call → Prop
  | .applySchedulingUpdate sessionId messageType metadata =>
    messageType ∉ [.priorityUpdate, .deadline, .expireAt] ∧
      ∃ record, r.operations[metadata.operationId]? = some record ∧
        record.descriptor.sessionId = sessionId ∧ record.state.isTerminal = false ∧
        record.schedule.updateSequence ≠ metadata.controlSequence
  | _ => False

theorem update_atomic
    (hf : ∀ rec, r.operations[id]? = some rec → (f rec).2 = .error e → (f rec).1 = rec)
    (he : (r.update id f).2 = .error e) : (r.update id f).1 = r := by
  cases h : r.operations[id]? with
  | none => rw [update_unknown h]
  | some rec =>
    rw [update_eq h rfl] at he ⊢
    rw [hf rec h he, set_self h]

theorem map_eq_error {x : Except NnrpError α} : (x.map fun _ => ()) = .error e ↔ x = .error e := by
  cases x <;> simp [Except.map]

/-- A call that fails leaves every record as it was, exactly when it is not a scheduling update of
another kind that brings a new update sequence. -/
theorem failed_call_keeps_registry_iff (r : OperationRegistry) (call : Call) :
    (∀ e, call.result r = .error e → call.apply r = r) ↔ ¬call.Bumps r := by
  cases call with
  | register d =>
    refine iff_of_true (fun e he => ?_) id
    rw [Call.result, register] at he
    rw [Call.apply, register]
    split at he
    · rfl
    · cases he
  | transition opId nextState | abort opId =>
    refine iff_of_true (fun e he => update_atomic (fun rec _ => ?_) he) id
    exact OperationRecord.transition_atomic
  | complete opId =>
    refine iff_of_true (fun e he => update_atomic (fun rec _ he => ?_) he) id
    exact OperationRecord.complete_atomic he
  | expireIfStale opId now =>
    refine iff_of_true (fun e he => update_atomic (fun rec _ he => ?_) (map_eq_error.mp he)) id
    by_cases hstale : rec.Stale now
    · rw [OperationRecord.expireIfStale_of hstale] at he
      cases he
    · rw [OperationRecord.expireIfStale_of_not hstale]
  | applySchedulingUpdate sid ty m =>
    constructor
    · rintro h ⟨htype, rec, hrec, hsess, hact, hsequence⟩
      obtain ⟨e, hupdate⟩ := rec.applySchedulingUpdate_other m hsess hact htype
      have hcall : r.applySchedulingUpdate sid ty m = _ :=
        update_eq hrec hupdate
      have hkept := h e (map_eq_error.mpr (congrArg Prod.snd hcall))
      rw [Call.apply, hcall] at hkept
      rw [← hkept, set_get_self, Option.some.injEq] at hrec
      exact hsequence (congrArg (·.schedule.updateSequence) hrec.symm)
    · intro hbumps e he
      refine update_atomic (fun rec hrec he => ?_) (map_eq_error.mp he)
      by_cases hsess : rec.descriptor.sessionId = sid
      · cases hterm : rec.state.isTerminal with
        | true =>
          rw [OperationRecord.applySchedulingUpdate, if_neg (not_not.mpr hsess), if_pos hterm]
        | false =>
          by_cases htype : ty ∈ [.priorityUpdate, .deadline, .expireAt]
          · obtain ⟨sched, hupdate⟩ := rec.applySchedulingUpdate_of m hsess
              hterm (by simpa using htype)
            rw [hupdate] at he
            cases he
          · obtain ⟨_, hupdate⟩ :=
              rec.applySchedulingUpdate_other m hsess hterm htype
            have hsame : rec.schedule.updateSequence = m.controlSequence := by
              by_contra hne
              exact hbumps ⟨htype, rec, hrec, hsess, hterm, hne⟩
            rw [hupdate, ← hsame]
      · rw [OperationRecord.applySchedulingUpdate, if_pos hsess]
  | cancel req =>
    refine iff_of_true (fun e he => ?_) id
    rw [Call.result, map_eq_error] at he
    cases hids : r.validateCancel req with
    | error _ => rw [Call.apply, cancel_error hids]
    | ok ids =>
      rw [cancel_ok hids] at he
      cases he

/-- A rejected update of the kind PING leaves its update sequence in the record. -/
theorem rejected_update_bumps_sequence : (run step {} (cancelledPair.take 1)).map (fun s =>
      let call := Call.applySchedulingUpdate 42 .ping ⟨1, 5, 0, 0, 9, 0⟩
      (s.registry.operations[(1 : UInt64)]?.map (·.schedule.updateSequence), call.result s.registry,
        (call.apply s.registry).operations[(1 : UInt64)]?.map (·.schedule.updateSequence))) =
    some (some 0, .error (.invalidProtocolCombination
      "scheduling update requires PRIORITY_UPDATE, DEADLINE, or EXPIRE_AT"), some 5) := by
  decide +kernel

end Nnrp.Operation
