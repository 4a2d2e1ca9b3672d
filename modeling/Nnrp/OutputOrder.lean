import Nnrp.NoticeHistory

/-!
# Output after the end of an operation

Whether an operation has ended is checked when its output is decoded. A request that waits for its
acknowledgement puts decoded output aside, and the queue of lifecycle events is served before that
of the output: an operation that is marked while its output lies in the queue ends before the
application sees the output.
-/

namespace Nnrp.Client
open OrderedMap Protocol Packet RuntimeEvent LabelledRun Session List Ledger
open Lifecycle (ConnectionLifecycle)

/-- No output of an operation that the call marks as terminal is in the queue. -/
def Unbuffered (w : State) (c : Call) : Prop :=
  ∀ operationId ∈ c.marks w.session.ledger, w.session.localOperationStates[operationId]? = none →
    ∀ entry ∈ w.session.pendingEvents, entry.1.output ≠ some operationId

-- The search for an instance would try every operation id.
instance (w : State) (c : Call) : Decidable (Unbuffered w c) :=
  Option.decidableForallMem (c.marks w.session.ledger)

def Ledger.Closed (l : Ledger) (operationId : UInt64) : Prop :=
  operationId ∈ l.seen ∧
    (l.frames[operationId]? = none ∨ ∃ state, l.marks[operationId]? = some state)

def Notice.Precedes (earlier later : Notice) : Prop :=
  ∀ operationId evidence, earlier = .ended operationId evidence → later ≠ .output operationId

structure Silent (l : Ledger) (notices : List Notice) : Prop where
  order : notices.Pairwise Notice.Precedes
  closed : ∀ operationId evidence, .ended operationId evidence ∈ notices → l.Closed operationId

section
variable {l : Ledger} {id other : UInt64} {fid : UInt32} {state : OperationState}

theorem Ledger.Closed.mark (h : l.Closed other) : (l.mark id state).Closed other := by
  refine ⟨h.1, ?_⟩
  rcases h.2 with hframe | ⟨current, hmark⟩
  · exact .inl hframe
  · right
    rw [mark_marks, get_insert]
    split_ifs
    · exact ⟨state, rfl⟩
    · exact ⟨current, hmark⟩

theorem Ledger.Closed.submit (h : l.Closed other) (hseen : id ∉ l.seen) :
    (l.submit id fid).Closed other := by
  have hne : id ≠ other := fun heq => hseen (heq ▸ h.1)
  refine ⟨mem_set_insert.mpr (.inr h.1), ?_⟩
  rw [submit_frames, get_insert, if_neg hne]
  exact h.2

theorem Ledger.Closed.finish (h : l.Closed other) : (l.finish id fid).Closed other := by
  refine ⟨h.1, ?_⟩
  rw [finish_frames, finish_marks, get_erase, get_erase]
  split_ifs
  · exact .inl rfl
  · exact h.2

theorem silent_carried : Carried Silent fun id later => .output id ∉ later where
  thin h hsub := ⟨h.order.sublist hsub,
    fun op evidence hmem => h.closed op evidence (hsub.subset hmem)⟩
  zero state _ h := ⟨h.order, fun op evidence hmem => (h.closed op evidence hmem).mark⟩
  submit _ _ hseen h := ⟨h.order, fun op evidence hmem => (h.closed op evidence hmem).submit hseen⟩
  mark {l earlier later id fid} state hv hbound _ hguard h := by
    have hparts := pairwise_append.mp h.order
    refine ⟨pairwise_append.mpr ⟨hparts.1, ?_, ?_⟩, ?_⟩
    · refine pairwise_cons.mpr ⟨?_, hparts.2.1⟩
      rintro later hlater op evidence heq rfl
      cases heq
      exact hguard hlater
    · intro a ha b hb
      rcases mem_cons.mp hb with rfl | hb
      · intro op evidence _ heq
        cases heq
      · exact hparts.2.2 a ha b hb
    · intro op evidence hmem
      rcases mem_append.mp hmem with hmem | hmem
      · exact (h.closed op evidence (mem_append_left _ hmem)).mark
      · rcases mem_cons.mp hmem with heq | hmem
        · cases heq
          refine ⟨(hv.bound _ _ hbound).2.1, .inr ⟨state, ?_⟩⟩
          rw [mark_marks, get_insert, if_pos rfl]
        · exact (h.closed op evidence (mem_append_right _ hmem)).mark
  finish {l ns id fid} hv hbound h := by
    refine ⟨pairwise_append.mpr ⟨h.order, pairwise_singleton _ _, ?_⟩, ?_⟩
    · intro a _ b hb op evidence _ heq
      rw [mem_singleton.mp hb] at heq
      cases heq
    · intro op evidence hmem
      rcases mem_append.mp hmem with hmem | hmem
      · exact (h.closed op evidence hmem).finish
      · cases mem_singleton.mp hmem
        refine ⟨(hv.bound _ _ hbound).2.1, .inl ?_⟩
        rw [finish_frames, get_erase, if_pos rfl]
  output {l ns id fid} _ hbound hopen h := by
    refine ⟨pairwise_append.mpr ⟨h.order, pairwise_singleton _ _, ?_⟩, ?_⟩
    · rintro a ha b hb op evidence rfl heq
      rw [mem_singleton.mp hb] at heq
      cases heq
      -- an operation that is bound and not marked is not closed
      rcases (h.closed id evidence ha).2 with hframe | ⟨state, hmark⟩
      · rw [hbound] at hframe
        cases hframe
      · rw [hopen] at hmark
        cases hmark
    · intro op evidence hmem
      rcases mem_append.mp hmem with hmem | hmem
      · exact h.closed op evidence hmem
      · cases mem_singleton.mp hmem
  guard_nil _ := not_mem_nil

end

theorem silent_advances : Advances Silent := by
  intro l earlier lifecycles later n hlifecycles h
  have hmem {x : Notice} : x ∈ n :: (lifecycles ++ later) ↔ x ∈ lifecycles ++ n :: later :=
    perm_middle.symm.mem_iff
  have horder := h.order
  rw [pairwise_append, pairwise_append, pairwise_cons] at horder
  obtain ⟨hearlier, ⟨hlife, ⟨hn, hlater⟩, hcross⟩, hall⟩ := horder
  constructor
  · rw [pairwise_append, pairwise_cons, pairwise_append]
    refine ⟨hearlier, ⟨fun x hx => ?_, hlife, hlater, fun a ha b hb => ?_⟩, fun a ha b hb => ?_⟩
    · rcases mem_append.mp hx with hx | hx
      · -- a lifecycle event is no output
        obtain ⟨op, rfl⟩ := hlifecycles x hx
        intro _ _ _ heq
        cases heq
      · exact hn x hx
    · exact hcross a ha b (mem_cons_of_mem n hb)
    · exact hall a ha b (hmem.mp hb)
  · intro op evidence hended
    refine h.closed op evidence (mem_append.mpr ?_)
    exact (mem_append.mp hended).imp_right hmem.mp

theorem clear_of_unbuffered {w : State} {c : Call} (h : Unbuffered w c) :
    Clear Silent (fun id later => .output id ∉ later) w c := by
  refine ⟨fun _ => silent_advances, ?_⟩
  intro id hmarks hopen hmem
  obtain ⟨ev, hevent, hnotice⟩ := mem_filterMap.mp hmem
  obtain ⟨entry, hentry, rfl⟩ := mem_map.mp hevent
  refine h id hmarks hopen entry hentry ?_
  revert hnotice
  cases entry.1 <;> simp [Received.notice, NnrpClientEvent.output]

theorem no_output_after_end {sessionId : UInt32} {maxInFlightOperations : UInt16}
    {lifecycle : ConnectionLifecycle} {calls : List Call} {w : State}
    (hquiet : Along step Unbuffered (.opened sessionId maxInFlightOperations lifecycle) calls)
    (hr : run step (.opened sessionId maxInFlightOperations lifecycle) calls = some w) :
    w.received.Pairwise fun earlier later => ∀ operationId evidence,
      earlier.notice = some (.ended operationId evidence) →
        later.notice ≠ some (.output operationId) := by
  have hsilent : Silent w.session.ledger w.notices := by
    refine run_carries silent_carried ⟨List.Pairwise.nil, ?_⟩ ?_ hr
    · intro operationId evidence hmem
      cases hmem
    · exact hquiet.mono fun _ _ => clear_of_unbuffered
  have horder := (pairwise_append.mp hsilent.order).1
  rw [pairwise_filterMap] at horder
  refine horder.imp ?_
  intro earlier later h operationId evidence hended houtput
  exact h _ hended _ houtput operationId evidence rfl rfl

def progressThenCancel : List Call :=
  [.submit (Submit.sampleRequest 11 1) 0 (.ok ()), .awaitEvent (.ok (progressPacket 11 1)),
    .readPackets (.pollBatch 4) [.ok (progressPacket 11 1)], .cancelFrame 1 (.ok ()),
    .awaitEvent (.error (.internal ""))]

theorem no_output_after_end_cancelled : ∃ w, run step (.opened 7 4 {}) progressThenCancel = some w ∧
      w.received.map Received.notice =
        [some (.output 11), some (.output 11), some (.ended 11 .lifecycle)] ∧
      w.received.Pairwise fun earlier later => ∀ operationId evidence,
        earlier.notice = some (.ended operationId evidence) →
          later.notice ≠ some (.output operationId) := by
  have h : (run step (.opened 7 4 {}) progressThenCancel).map
      (fun w => w.received.map Received.notice) =
      some [some (.output 11), some (.output 11), some (.ended 11 .lifecycle)] := by
    decide +kernel
  obtain ⟨w, hr, hnotices⟩ := Option.map_eq_some_iff.mp h
  have hquiet : Along step Unbuffered (.opened 7 4 {}) progressThenCancel := by
    decide +kernel
  exact ⟨w, hr, hnotices, no_output_after_end hquiet hr⟩

def patchAckPacket : RuntimePacket where
  header := { CommonHeader.new .sessionPatchAck 48 0 with sessionId := 7 }
  metadata := replicate sessionPatchAckMetadataLen 0
  body := []

def emptyPatch : SessionPatchMetadata where
  profileId := 0
  patchMask := 0
  targetCadenceX100 := 0
  qualityTier := 0
  degradePolicy := 0
  activeLaneMask := 0
  preferredCodecBitmap := 0
  preferredCompressionBitmap := 0
  profilePatchBytes := 0

def bufferedProgress : List Call :=
  [.submit (Submit.sampleRequest 11 1) 0 (.ok ()), .patchSession emptyPatch (.ok ()),
    .readAck (.ok (progressPacket 11 1)), .readAck (.ok patchAckPacket),
    .cancelFrame 1 (.ok ()), .awaitEvent (.error (.internal "")),
    .awaitEvent (.error (.internal ""))]

theorem buffered_progress_after_end : ∃ w, run step (.opened 7 4 {}) bufferedProgress = some w ∧
      w.received.map Received.notice = [some (.ended 11 .lifecycle), some (.output 11)] := by
  have h : (run step (.opened 7 4 {}) bufferedProgress).map
      (fun w => w.received.map Received.notice) =
      some [some (.ended 11 .lifecycle), some (.output 11)] := by
    decide +kernel
  exact Option.map_eq_some_iff.mp h

end Nnrp.Client
