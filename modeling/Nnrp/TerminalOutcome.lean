import Nnrp.NoticeHistory

/-!
# Terminal outcomes of a client operation

An operation that the session marks as terminal stays bound to its frame, so that the result which
the server sends for it is still decoded. The application then learns twice that the operation has
ended: from the lifecycle event and from the wire, in this order unless it reads packets past the
queue of lifecycle events. It never learns it twice in the same way.
-/

namespace Nnrp.Client
open OrderedMap Protocol LabelledRun List Ledger
open Lifecycle (ConnectionLifecycle)

def Notice.evidence (operationId : UInt64) : Notice → Option Evidence
  | .ended other evidence => if other = operationId then some evidence else none
  | .output _ => none

def State.outcomes (w : State) (operationId : UInt64) : List Evidence :=
  (w.received.filterMap Received.notice).filterMap (Notice.evidence operationId)

/-- The outcomes that may have been announced for an operation. -/
def Ledger.announced (l : Ledger) (operationId : UInt64) : List Evidence :=
  if operationId ∈ l.seen then
    match l.frames[operationId]?, l.marks[operationId]? with
    | some _, none => []
    | some _, some _ => [.lifecycle]
    | none, _ => [.lifecycle, .wire]
  else []

def Announced (R : List Evidence → List Evidence → Prop) (l : Ledger) (notices : List Notice) :
    Prop :=
  ∀ operationId, R (notices.filterMap (Notice.evidence operationId)) (l.announced operationId)

/-- What the argument needs of a relation between the outcomes received and those announced. -/
structure Within (R : List Evidence → List Evidence → Prop) : Prop where
  of_sublist : ∀ {xs ys zs}, xs.Sublist ys → R ys zs → R xs zs
  widen : ∀ {xs ys zs}, R xs ys → ys.Sublist zs → R xs zs
  nil : ∀ {xs}, R xs [] → xs = []
  refl : ∀ xs, R xs xs
  append_right : ∀ {xs ys} zs, R xs ys → R (xs ++ zs) (ys ++ zs)

theorem within_sublist : Within List.Sublist where
  of_sublist := .trans
  widen := .trans
  nil := sublist_nil.mp
  refl := .refl
  append_right _ h := h.append_right _

theorem within_subperm : Within List.Subperm where
  of_sublist hsub h := hsub.subperm.trans h
  widen h hsub := h.trans hsub.subperm
  nil := subperm_nil.mp
  refl := .refl
  append_right zs h := (subperm_append_right zs).mpr h

section
variable {R : List Evidence → List Evidence → Prop} {l : Ledger} {id other : UInt64} {fid : UInt32}

theorem announced_bound (hseen : id ∈ l.seen) (hbound : l.frames[id]? = some fid) :
    l.announced id = if l.marks[id]? = none then [] else [.lifecycle] := by
  rw [announced, hbound]
  cases l.marks[id]? <;> simp [hseen]

theorem announced_mark_zero (hv : l.Valid) (state : OperationState) :
    (l.mark 0 state).announced id = l.announced id := by
  rw [announced, announced, mark_marks, get_insert]
  by_cases hzero : 0 = id
  · subst hzero
    simp [hv.zero_unbound]
  · simp [hzero]

theorem announced_mark_ne (state : OperationState) (hne : id ≠ other) :
    (l.mark id state).announced other = l.announced other := by
  rw [announced, announced, mark_marks, get_insert, if_neg hne]
  rfl

theorem announced_finish_ne (hne : id ≠ other) :
    (l.finish id fid).announced other = l.announced other := by
  rw [announced, announced, finish_marks, finish_frames, get_erase,
    get_erase, if_neg hne, if_neg hne]
  rfl

theorem announced_submit_ne (hne : id ≠ other) :
    (l.submit id fid).announced other = l.announced other := by
  have hseen : other ∈ (l.submit id fid).seen ↔ other ∈ l.seen := by
    rw [submit_seen, mem_set_insert, or_iff_right hne]
  rw [announced, announced, submit_frames, get_insert, if_neg hne]
  simp only [hseen]
  rfl

variable {evidence : Evidence}

theorem evidence_ended_ne (hne : id ≠ other) :
    Notice.evidence other (.ended id evidence) = none := if_neg hne

theorem evidence_ended : Notice.evidence id (.ended id evidence) = some evidence := if_pos rfl

theorem announced_carried (hR : Within R) : Carried (Announced R) fun _ _ => True where
  thin h hsub id := hR.of_sublist (hsub.filterMap _) (h id)
  zero state hv h id := by
    rw [announced_mark_zero hv]
    exact h id
  submit {l ns id} fid hv hseen h other := by
    by_cases hne : id = other
    · subst hne
      have hnone := h id
      rw [announced, if_neg hseen] at hnone
      exact hR.widen hnone (nil_sublist _)
    · rw [announced_submit_ne hne]
      exact h other
  mark {l earlier later id fid} state hv hbound hopen _ h other := by
    by_cases hne : id = other
    · subst hne
      have hseen := (hv.bound _ _ hbound).2.1
      have hnone := h id
      rw [announced_bound hseen hbound, if_pos hopen] at hnone
      rw [filterMap_append] at hnone
      obtain ⟨hearlier, hlater⟩ := append_eq_nil_iff.mp (hR.nil hnone)
      have hafter : (l.mark id state).announced id = [.lifecycle] := by
        rw [announced_bound (l := l.mark id state) hseen hbound, mark_marks, get_insert, if_pos rfl]
        rfl
      rw [filterMap_append, filterMap_cons_toList, hearlier, hlater, evidence_ended, hafter]
      exact hR.refl _
    · rw [announced_mark_ne state hne, filterMap_append, filterMap_cons_toList,
        evidence_ended_ne hne, Option.toList_none, nil_append, ← filterMap_append]
      exact h other
  finish {l ns id fid} hv hbound h other := by
    by_cases hne : id = other
    · subst hne
      have hseen := (hv.bound _ _ hbound).2.1
      have hbefore : R (ns.filterMap (Notice.evidence id)) [.lifecycle] := by
        have hsub := h id
        rw [announced_bound hseen hbound] at hsub
        split_ifs at hsub
        · exact hR.widen hsub (nil_sublist _)
        · exact hsub
      have hafter : (l.finish id fid).announced id =
          [.lifecycle] ++ [.wire] := by
        rw [announced, finish_frames, get_erase, if_pos rfl, finish_seen, if_pos hseen]
        rfl
      rw [filterMap_append, filterMap_cons_toList, evidence_ended, hafter]
      exact hR.append_right _ hbefore
    · rw [announced_finish_ne hne, filterMap_append, filterMap_cons_toList, evidence_ended_ne hne]
      simpa using h other
  output _ _ _ h id := by
    rw [filterMap_append, filterMap_cons_toList, Notice.evidence]
    simpa using h id
  guard_nil _ := trivial

theorem announced_advances : Advances (Announced List.Subperm) := by
  intro l earlier lifecycles later n _ h id
  have hperm : (n :: (lifecycles ++ later)).Perm (lifecycles ++ n :: later) := perm_middle.symm
  exact ((hperm.append_left earlier).filterMap _).subperm.trans (h id)

variable {sessionId : UInt32} {maxInFlightOperations : UInt16} {lifecycle : ConnectionLifecycle}
  {calls : List Call} {w : State}

theorem outcomes_within (hR : Within R)
    (hpackets : ∀ c ∈ calls, c.readsPackets = true → Advances (Announced R))
    (hr : run step (.opened sessionId maxInFlightOperations lifecycle) calls = some w)
    (operationId : UInt64) : R (w.outcomes operationId) [.lifecycle, .wire] := by
  have hannounced : Announced R w.session.ledger w.notices := by
    refine run_carries (announced_carried hR) (fun _ => hR.refl _) ?_ hr
    exact (along_of_mem hpackets).mono fun _ _ h => ⟨h, fun _ _ _ => trivial⟩
  have hreceived : (w.outcomes operationId).Sublist
      (w.notices.filterMap (Notice.evidence operationId)) :=
    (sublist_append_left _ _).filterMap _
  have hall : (w.session.ledger.announced operationId).Sublist [.lifecycle, .wire] := by
    rw [announced]
    split_ifs
    · split <;> decide
    · exact nil_sublist _
  exact hR.of_sublist hreceived (hR.widen (hannounced operationId) hall)

end

/-- Along every run the application receives at most one lifecycle event and at most one result from
the wire for an operation, and the lifecycle event comes first unless packets are read. -/
theorem outcomes_sublist {sessionId : UInt32} {maxInFlightOperations : UInt16}
    {lifecycle : ConnectionLifecycle} {calls : List Call} {w : State}
    (hr : run step (.opened sessionId maxInFlightOperations lifecycle) calls = some w)
    (operationId : UInt64) : (w.outcomes operationId).Nodup ∧
      ((∀ c ∈ calls, c.readsPackets = false) →
        (w.outcomes operationId).Sublist [.lifecycle, .wire]) := by
  constructor
  · obtain ⟨kept, hperm, hsub⟩ :=
      outcomes_within within_subperm (fun _ _ _ => announced_advances) hr operationId
    exact hperm.nodup_iff.mp (hsub.nodup (by decide))
  · intro hdrained
    refine outcomes_within within_sublist (fun c hc hreads => ?_) hr operationId
    rw [hdrained c hc] at hreads
    cases hreads

def droppedOperation : List Call :=
  [.submit (Submit.sampleRequest 11 1) 0 (.ok ()), .awaitEvent (.ok (dropReasonPacket 11 1))]

def droppedPastLifecycle : List Call :=
  [.submit (Submit.sampleRequest 11 1) 0 (.ok ()), .cancelFrame 1 (.ok ()),
    .readPackets (.awaitBatch 4) [.ok (dropReasonPacket 11 1)], .awaitEvent (.error (.internal ""))]

theorem outcomes_sublist_dropped :
    (∃ w, run step (.opened 7 4 {}) droppedOperation = some w ∧ w.outcomes 11 = [.wire] ∧
      (w.outcomes 11).Sublist [.lifecycle, .wire]) ∧
    ∃ w, run step (.opened 7 4 {}) droppedPastLifecycle = some w ∧
      w.outcomes 11 = [.wire, .lifecycle] ∧ (w.outcomes 11).Nodup := by
  have h : (run step (.opened 7 4 {}) droppedOperation).map (fun w => w.outcomes 11) =
      some [.wire] := by
    decide +kernel
  have hpast : (run step (.opened 7 4 {}) droppedPastLifecycle).map (fun w => w.outcomes 11) =
      some [.wire, .lifecycle] := by
    decide +kernel
  obtain ⟨w, hr, hwire⟩ := Option.map_eq_some_iff.mp h
  obtain ⟨w', hr', hboth⟩ := Option.map_eq_some_iff.mp hpast
  exact ⟨⟨w, hr, hwire, (outcomes_sublist hr 11).2 (by decide)⟩,
    w', hr', hboth, (outcomes_sublist hr' 11).1⟩

def cancelledThenDropped : List Call :=
  [.submit (Submit.sampleRequest 11 1) 0 (.ok ()), .cancelFrame 1 (.ok ()),
    .awaitEvent (.error (.internal "")), .awaitEvent (.ok (dropReasonPacket 11 1))]

theorem cancelled_operation_has_two_outcomes :
    ∃ w, run step (.opened 7 4 {}) cancelledThenDropped = some w ∧
      w.session.pendingRoleEvents = [] ∧ w.session.pendingEvents = [] ∧
      w.outcomes 11 = [.lifecycle, .wire] := by
  have h : (run step (.opened 7 4 {}) cancelledThenDropped).map (fun w =>
      (w.session.pendingRoleEvents.length, w.session.pendingEvents.length, w.outcomes 11)) =
      some (0, 0, [.lifecycle, .wire]) := by
    decide +kernel
  obtain ⟨w, hr, hw⟩ := Option.map_eq_some_iff.mp h
  simp only [Prod.mk.injEq, length_eq_zero_iff] at hw
  exact ⟨w, hr, hw⟩

/-- An operation that was submitted keeps its frame, or has lost it for good. -/
def Ledger.Keeps (l l' : Ledger) : Prop :=
  ∀ operationId ∈ l.seen, operationId ∈ l'.seen ∧ ∀ frameId : UInt32,
    l'.frames[operationId]? = some frameId → l.frames[operationId]? = some frameId

theorem Ledger.keeps_carried (l : Ledger) : Carried (fun l' _ => l.Keeps l') fun _ _ => True where
  thin h _ := h
  zero _ _ h := h
  submit fid _ hseen h op hop := by
    obtain ⟨hmem, hframe⟩ := h op hop
    refine ⟨mem_set_insert.mpr (.inr hmem), ?_⟩
    rwa [submit_frames, get_insert, if_neg (by rintro rfl; exact hseen hmem)]
  mark _ _ _ _ _ h := h
  finish _ _ h op hop := by
    refine ⟨(h op hop).1, fun frame hframe => (h op hop).2 frame ?_⟩
    rw [finish_frames, get_erase] at hframe
    split_ifs at hframe
    exact hframe
  output _ _ _ h := h
  guard_nil _ := trivial

theorem run_keeps {w w' : State} {calls : List Call} (hv : w.session.ledger.Valid)
    (hr : run step w calls = some w') :
    w'.session.ledger.Valid ∧ w.session.ledger.Keeps w'.session.ledger := by
  refine run_induction
    (fun u => u.session.ledger.Valid ∧ w.session.ledger.Keeps u.session.ledger) ?_
    ⟨hv, fun op hop => ⟨hop, fun _ => id⟩⟩ hr
  intro u c u' ⟨hu, h⟩ hs
  obtain ⟨new, -, hm⟩ := step_moved hs
  exact @Moved.carries _ _ _ _ [] _ _ (keeps_carried _) hm hu (fun _ _ _ => trivial)
    (fun _ _ _ _ _ _ _ h => h) h

/-- The two tables of a session are inverse to each other and bind only submitted operations, and
whatever is called later, no operation id is bound to a second frame. -/
theorem operations_bound_once {sessionId : UInt32} {maxInFlightOperations : UInt16}
    {lifecycle : ConnectionLifecycle} {calls later : List Call} {w w' : State}
    (hr : run step (.opened sessionId maxInFlightOperations lifecycle) calls = some w)
    (hlater : run step w later = some w') :
    w.session.ledger.Valid ∧ w.session.ledger.Keeps w'.session.ledger := by
  obtain ⟨hv, -⟩ := run_keeps (w := .opened ..) opened_valid hr
  exact ⟨hv, (run_keeps hv hlater).2⟩

theorem dropped_operation_bound_once :
    ∃ w w', run step (.opened 7 4 {}) (droppedOperation.take 1) = some w ∧
      run step w (droppedOperation.drop 1) = some w' ∧
      w.session.ledger.Keeps w'.session.ledger := by
  refine ⟨_, _, rfl, rfl, ?_⟩
  have h := operations_bound_once
    (rfl : run step (.opened 7 4 {}) (droppedOperation.take 1) = some _)
    (rfl : run step _ (droppedOperation.drop 1) = some _)
  exact h.2

end Nnrp.Client
