import Nnrp.OperationHistory

/-!
# Cancellation and the sessions

A cancel request names a session and an operation of it. The scopes of a single operation, of a
subtree and of the session stay inside that session. The scope of a group takes every operation
with the group id of the target, whichever session it belongs to.
-/

namespace Nnrp.Operation
open LabelledRun OrderedMap OperationRegistry List

variable {s : State} {calls : List Call} {r : OperationRegistry} {operationId : UInt64}
  {request : OperationCancelRequest} {target : OperationRecord} {ids : List UInt64} {root : UInt64}

theorem State.Valid.mem_idsWhere (h : s.Valid) {p : OperationDescriptor → Bool} :
    operationId ∈ s.registry.idsWhere p ↔
      ∃ rec, s.registry.operations[operationId]? = some rec ∧ p rec.descriptor = true := by
  rw [idsWhere, mem_map]
  constructor
  · rintro ⟨rec, hmem, hid⟩
    obtain ⟨hvalue, hp⟩ := mem_filter.mp hmem
    obtain ⟨key, hkey⟩ := mem_values.mp hvalue
    have hsame := (h.id key rec hkey).2
    rw [← hid, hsame]
    exact ⟨rec, hkey, hp⟩
  · rintro ⟨rec, hrec, hp⟩
    refine ⟨rec, mem_filter.mpr ⟨mem_values.mpr ⟨operationId, hrec⟩, hp⟩, ?_⟩
    exact (h.id operationId rec hrec).2

theorem State.Valid.mem_parentLinks (h : s.Valid) {parent : UInt64} :
    (parent, operationId) ∈ s.registry.parentLinks ↔ IsParent s.registry parent operationId := by
  rw [parentLinks, mem_filterMap]
  constructor
  · rintro ⟨rec, hvalue, hlink⟩
    obtain ⟨key, hkey⟩ := mem_values.mp hvalue
    obtain ⟨_, hpar, hpair⟩ := Option.map_eq_some_iff.mp hlink
    have hsame := (h.id key rec hkey).2
    rw [Prod.mk.injEq] at hpair
    refine ⟨rec, ?_, hpair.1 ▸ hpar⟩
    rw [← hpair.2, hsame]
    exact hkey
  · rintro ⟨rec, hrec, hpar⟩
    refine ⟨rec, mem_values.mpr ⟨operationId, hrec⟩, ?_⟩
    rw [hpar, (h.id operationId rec hrec).2]
    rfl

theorem State.Valid.mem_subtree (h : s.Valid) :
    operationId ∈ s.registry.subtreeOperationIds root ↔
      Relation.ReflTransGen (IsParent s.registry) root operationId := by
  have hlinks : (fun parent child => (parent, child) ∈ s.registry.parentLinks) =
      IsParent s.registry := by
    funext parent child
    exact propext h.mem_parentLinks
  rw [subtreeOperationIds, Std.ExtTreeSet.mem_toList, Worklist.mem_collect, hlinks]

theorem State.Valid.descendant_session (h : s.Valid)
    (htgt : s.registry.operations[root]? = some target)
    (hdesc : Relation.ReflTransGen (IsParent s.registry) root operationId) :
    ∃ rec, s.registry.operations[operationId]? = some rec ∧
      rec.descriptor.sessionId = target.descriptor.sessionId := by
  induction hdesc with
  | refl => exact ⟨target, htgt, rfl⟩
  | tail _ hpar ih =>
    obtain ⟨parentRecord, hparRec, hsess⟩ := ih
    obtain ⟨rec, hrec, hlink⟩ := hpar
    obtain ⟨-, found, hfound, hsame⟩ := h.parent _ _ rec hrec hlink
    rw [hparRec, Option.some.injEq] at hfound
    subst hfound
    exact ⟨rec, hrec, hsame.symm.trans hsess⟩

theorem validateCancel_ok (h : r.validateCancel request = .ok ids) :
    ∃ target, r.operations[request.operationId]? = some target ∧
      target.descriptor.sessionId = request.sessionId ∧
        r.cancelTargets request target = .ok ids := by
  rw [validateCancel] at h
  cases htgt : r.operations[request.operationId]? with
  | none =>
    rw [htgt] at h
    cases h
  | some target =>
    rw [htgt] at h
    simp only at h
    split_ifs at h with hsess
    exact ⟨target, rfl, not_not.mp hsess, h⟩

def InScope (r : OperationRegistry) (request : OperationCancelRequest) (operationId : UInt64) :
    Prop :=
  match request.cancelScope with
  | .operation => operationId = request.operationId
  | .subtree => Relation.ReflTransGen (IsParent r) request.operationId operationId
  | .group => ∃ target record group, r.operations[request.operationId]? = some target ∧
      target.descriptor.operationGroupId = some group ∧
      r.operations[operationId]? = some record ∧ record.descriptor.operationGroupId = some group
  | .session => ∃ record, r.operations[operationId]? = some record ∧
      record.descriptor.sessionId = request.sessionId

theorem State.Valid.mem_cancelTargets (h : s.Valid)
    (htgt : s.registry.operations[request.operationId]? = some target)
    (hids : s.registry.cancelTargets request target = .ok ids) :
    operationId ∈ ids ↔ InScope s.registry request operationId := by
  rw [cancelTargets] at hids
  rw [InScope]
  cases hscope : request.cancelScope with
  | operation =>
    simp only [hscope, Except.ok.injEq] at hids
    rw [← hids, mem_singleton]
  | subtree =>
    simp only [hscope, Except.ok.injEq] at hids
    rw [← hids, h.mem_subtree]
  | group =>
    simp only [hscope] at hids
    cases hgroup : target.descriptor.operationGroupId with
    | none =>
      rw [hgroup] at hids
      cases hids
    | some group =>
      rw [hgroup, groupOperationIds, Except.ok.injEq] at hids
      rw [← hids, h.mem_idsWhere]
      simp [htgt, hgroup]
  | session =>
    simp only [hscope, Except.ok.injEq] at hids
    rw [← hids, sessionOperationIds, h.mem_idsWhere]
    simp

theorem State.Valid.cancelTargets_registered (h : s.Valid)
    (htgt : s.registry.operations[request.operationId]? = some target)
    (hsess : target.descriptor.sessionId = request.sessionId)
    (hids : s.registry.cancelTargets request target = .ok ids) (hmem : operationId ∈ ids) :
    ∃ rec, s.registry.operations[operationId]? = some rec ∧
      (rec.descriptor.sessionId = request.sessionId ∨
        request.cancelScope = .group ∧ ∃ group, target.descriptor.operationGroupId = some group ∧
          rec.descriptor.operationGroupId = some group) := by
  rw [h.mem_cancelTargets htgt hids, InScope] at hmem
  cases hscope : request.cancelScope with
  | operation =>
    simp only [hscope] at hmem
    exact ⟨target, hmem ▸ htgt, .inl hsess⟩
  | subtree =>
    simp only [hscope] at hmem
    obtain ⟨rec, hrec, hsame⟩ := h.descendant_session htgt hmem
    exact ⟨rec, hrec, .inl (hsame.trans hsess)⟩
  | group =>
    simp only [hscope, htgt, Option.some.injEq] at hmem
    obtain ⟨_, rec, group, rfl, hgroup, hrec, hsame⟩ := hmem
    exact ⟨rec, hrec, .inr ⟨rfl, group, hgroup, hsame⟩⟩
  | session =>
    simp only [hscope] at hmem
    obtain ⟨rec, hrec, hsame⟩ := hmem
    exact ⟨rec, hrec, .inl hsame⟩

/-- The request does not cancel a group that a running operation of another session shares. -/
def GroupWithinSession (r : OperationRegistry) (request : OperationCancelRequest) : Prop :=
  request.cancelScope = .group →
    ∀ (target : OperationRecord) (group operationId : UInt64) (record : OperationRecord),
      r.operations[request.operationId]? = some target →
      target.descriptor.sessionId = request.sessionId →
      target.descriptor.operationGroupId = some group →
      r.operations[operationId]? = some record →
      record.descriptor.operationGroupId = some group →
      record.descriptor.sessionId ≠ request.sessionId → record.state.isTerminal = true

theorem cancel_group {rec : OperationRecord} {group : UInt64} (h : s.Valid)
    (hscope : request.cancelScope = .group)
    (htgt : s.registry.operations[request.operationId]? = some target)
    (hsess : target.descriptor.sessionId = request.sessionId)
    (hgroup : target.descriptor.operationGroupId = some group)
    (hrec : s.registry.operations[operationId]? = some rec)
    (hsame : rec.descriptor.operationGroupId = some group) :
    (s.registry.cancel request).1.operations[operationId]? = some rec.cancelled := by
  have hids : s.registry.validateCancel request = .ok (s.registry.idsWhere fun d =>
      d.operationGroupId = some group) := by
    simp only [validateCancel, htgt, hsess, cancelTargets, hscope, hgroup, groupOperationIds]
    simp
  rw [cancel_ok hids, cancelEach_spec.1, if_pos, hrec]
  · rfl
  · rw [mem_insertionSort, h.mem_idsWhere]
    exact ⟨rec, hrec, decide_eq_true hsame⟩

/-- A request leaves the operations of the other sessions alone exactly when it does not cancel a
group that a running operation of another session shares. -/
theorem cancel_stays_in_session_iff (hr : run step {} calls = some s)
    (request : OperationCancelRequest) : (∀ (operationId : UInt64) (record : OperationRecord),
      s.registry.operations[operationId]? = some record →
      record.descriptor.sessionId ≠ request.sessionId →
        (∃ record', (s.registry.cancel request).1.operations[operationId]? = some record' ∧
          record'.state = record.state) ∧
        ∀ ids, (s.registry.cancel request).2 = .ok ids → operationId ∉ ids) ↔
    GroupWithinSession s.registry request := by
  have hvalid := run_valid hr
  constructor
  · intro h hscope target group operationId record htgt hsess hgroup hrec hsame hother
    obtain ⟨⟨record', hrec', hstate⟩, -⟩ := h operationId record hrec hother
    rw [cancel_group hvalid hscope htgt hsess hgroup hrec hsame, Option.some.injEq] at hrec'
    rw [← hstate, ← hrec']
    exact record.cancelled_terminal
  · intro hwithin operationId record hrec hother
    cases hids : s.registry.validateCancel request with
    | error e =>
      rw [cancel_error hids]
      exact ⟨⟨record, hrec, rfl⟩, nofun⟩
    | ok ids =>
      obtain ⟨target, htgt, hsess, htargets⟩ := validateCancel_ok hids
      -- a collected operation of another session shares the group, and so was terminal before
      have hterm : operationId ∈ ids → record.state.isTerminal = true := by
        intro hmem
        obtain ⟨found, hfound, hreason⟩ :=
          hvalid.cancelTargets_registered htgt hsess htargets hmem
        rw [hrec, Option.some.injEq] at hfound
        subst hfound
        rcases hreason with hsame | ⟨hscope, group, hgroup, hshared⟩
        · exact absurd hsame hother
        · exact hwithin hscope target group operationId record htgt hsess hgroup hrec hshared hother
      rw [cancel_ok hids]
      constructor
      · rw [cancelEach_spec.1, hrec]
        split_ifs with hmem
        · refine ⟨record.cancelled, rfl, ?_⟩
          rw [OperationRecord.cancelled, if_pos (hterm (mem_insertionSort _ |>.mp hmem))]
        · exact ⟨record, rfl, rfl⟩
      · rintro _ ⟨⟩ hret
        rw [cancelEach_spec.2] at hret
        rcases hret with hnil | ⟨hmem, found, hfound, hact⟩
        · cases hnil
        · rw [hrec, Option.some.injEq] at hfound
          subst hfound
          rw [hterm (mem_insertionSort _ |>.mp hmem)] at hact
          cases hact

def sharedGroup : List Call :=
  [.register ⟨42, 1, none, some 7⟩, .register ⟨43, 2, none, some 7⟩]

theorem cancel_stays_in_session_scoped : ∃ s : State, run step {} sharedGroup = some s ∧
      (∃ record, (s.registry.cancel ⟨42, 1, .session⟩).1.operations[(2 : UInt64)]? = some record ∧
        record.state = .accepted) ∧
      ∀ ids, (s.registry.cancel ⟨42, 1, .session⟩).2 = .ok ids → 2 ∉ ids := by
  have hrun : (run step {} sharedGroup).map (fun s => s.registry.operations[(2 : UInt64)]?) =
      some (some { descriptor := ⟨43, 2, none, some 7⟩ }) := by decide +kernel
  obtain ⟨s, hs, hget⟩ := Option.map_eq_some_iff.mp hrun
  have hwithin : GroupWithinSession s.registry ⟨42, 1, .session⟩ := nofun
  have hkept := (cancel_stays_in_session_iff hs ⟨42, 1, .session⟩).mpr hwithin
  exact ⟨s, hs, hkept 2 _ hget (by decide)⟩

/-- The request of session 42 cancels the operation of session 43. -/
theorem group_cancel_crosses_sessions : (run step {} sharedGroup).map (fun s =>
      (s.registry.operations[(2 : UInt64)]?.map fun record =>
        (record.descriptor.sessionId, record.state),
      (s.registry.cancel ⟨42, 1, .group⟩).1.operations[(2 : UInt64)]?.map fun record =>
        (record.descriptor.sessionId, record.state), (s.registry.cancel ⟨42, 1, .group⟩).2)) =
    some (some (43, .accepted), some (43, .cancelled), .ok [1, 2]) := by
  decide +kernel

theorem cancelEach_sorted (operationIds : List UInt64) (r : OperationRegistry)
    (cancelled : List UInt64) (hids : operationIds.Pairwise (· ≤ ·))
    (hcanc : cancelled.Pairwise (· < ·)) (hbefore : ∀ a ∈ cancelled, (∀ b ∈ operationIds, a ≤ b) ∧
      ∃ rec, r.operations[a]? = some rec ∧ rec.state.isTerminal = true) :
    (cancelEach operationIds r cancelled).2.Pairwise (· < ·) := by
  induction operationIds generalizing r cancelled with
  | nil => exact hcanc
  | cons operationId operationIds ih =>
    obtain ⟨hfirst, hrest⟩ := pairwise_cons.mp hids
    have hlater : ∀ a ∈ cancelled, (∀ b ∈ operationIds, a ≤ b) ∧
        ∃ rec, r.operations[a]? = some rec ∧ rec.state.isTerminal = true :=
      fun a ha => ⟨fun b hb => (hbefore a ha).1 b (.tail _ hb), (hbefore a ha).2⟩
    rw [cancelEach]
    cases hrec : r.operations[operationId]? with
    | none => exact ih r cancelled hrest hcanc hlater
    | some rec =>
      dsimp only
      split_ifs with hterm
      · exact ih r cancelled hrest hcanc hlater
      · have hne : ∀ a ∈ cancelled, operationId ≠ a := by
          rintro a ha rfl
          obtain ⟨-, found, hfound, hdone⟩ := hbefore operationId ha
          rw [hrec, Option.some.injEq] at hfound
          exact hterm (hfound ▸ hdone)
        apply ih _ _ hrest
        · refine pairwise_append.mpr ⟨hcanc, pairwise_singleton _ _, ?_⟩
          intro a ha b hb
          rw [mem_singleton.mp hb]
          exact UInt64.lt_of_le_of_ne ((hbefore a ha).1 operationId (.head _)) (hne a ha).symm
        · intro a ha
          rw [get_insert]
          rcases mem_append.mp ha with ha | ha
          · rw [if_neg (hne a ha)]
            exact hlater a ha
          · rw [mem_singleton.mp ha, if_pos rfl]
            exact ⟨hfirst, rec.cancelled, rfl, rec.cancelled_terminal⟩

/-- The returned ids are strictly ascending, and they are those of the operations in scope that
were not terminal. Only their records change, to cancelled. -/
theorem cancel_exact (hr : run step {} calls = some s)
    (hok : (s.registry.cancel request).2 = .ok ids) : ids.Pairwise (· < ·) ∧
    (∀ operationId : UInt64, operationId ∈ ids ↔ InScope s.registry request operationId ∧
      ∃ record, s.registry.operations[operationId]? = some record ∧
        record.state.isTerminal = false) ∧
    ∀ operationId : UInt64, (s.registry.cancel request).1.operations[operationId]? =
      if operationId ∈ ids then
        s.registry.operations[operationId]?.map fun record => { record with state := .cancelled }
      else s.registry.operations[operationId]? := by
  have hvalid := run_valid hr
  cases hcollected : s.registry.validateCancel request with
  | error e =>
    rw [cancel_error hcollected] at hok
    cases hok
  | ok collected =>
    obtain ⟨target, htgt, -, htargets⟩ := validateCancel_ok hcollected
    rw [cancel_ok hcollected] at hok ⊢
    cases hok
    have hmem : ∀ operationId, operationId ∈ (cancelEach (collected.insertionSort (· ≤ ·))
        s.registry []).2 ↔ InScope s.registry request operationId ∧
          ∃ record, s.registry.operations[operationId]? = some record ∧
            record.state.isTerminal = false := by
      intro operationId
      rw [cancelEach_spec.2, mem_insertionSort, hvalid.mem_cancelTargets htgt htargets]
      simp
    refine ⟨cancelEach_sorted _ _ _ (pairwise_insertionSort _ _) .nil nofun, hmem, ?_⟩
    intro operationId
    simp only [cancelEach_spec]
    cases hrec : s.registry.operations[operationId]? with
    | none => simp
    | some record =>
      cases hterm : record.state.isTerminal
      all_goals simp [OperationRecord.cancelled, hterm]

theorem cancel_exact_subtree : ∃ s : State, run step {} (cancelledPair.take 2) = some s ∧
    (s.registry.cancel ⟨42, 1, .subtree⟩).2 = .ok [1, 2] ∧
    Relation.ReflTransGen (IsParent s.registry) 1 2 := by
  have hrun : (run step {} (cancelledPair.take 2)).map
      (fun s => (s.registry.cancel ⟨42, 1, .subtree⟩).2) = some (.ok [1, 2]) := by decide +kernel
  obtain ⟨s, hs, hok⟩ := Option.map_eq_some_iff.mp hrun
  exact ⟨s, hs, hok, (((cancel_exact hs hok).2.1 2).mp (by decide)).1⟩

end Nnrp.Operation
