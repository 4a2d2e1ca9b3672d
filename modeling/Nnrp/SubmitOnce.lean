import Nnrp.SubmitCall

/-!
# A frame is submitted at most once

While the driver is alive, every `FRAME_SUBMIT` that is written or queued has ids that the session
remembers, that the waiting call holds, or that a dropped call left behind (`Known`). The checks
of `submit_nowait` keep a new request apart from the first kind only.
-/

namespace Nnrp.Submit
open OrderedMap Packet Data LabelledRun List Option

def operationId? (p : RuntimePacket) : Option UInt64 :=
  match FrameSubmitMetadata.parse p.metadata with
  | .ok m => some m.operationId
  | .error _ => none

def Carries (p : RuntimePacket) (operationId : UInt64) (frameId : UInt32) : Prop :=
  operationId? p = some operationId ∧ p.frameId = frameId

def Distinct (p q : RuntimePacket) : Prop :=
  operationId? p ≠ operationId? q ∧ p.frameId ≠ q.frameId

instance (p q : RuntimePacket) : Decidable (Distinct p q) := inferInstanceAs (Decidable (_ ∧ _))

namespace State

variable (w : State)

def written : List RuntimePacket := w.driver.written.filter (IsSubmit w.session.sessionId)

def queued : List RuntimePacket := w.driver.queuedWrites.filter (IsSubmit w.session.sessionId)

def submits : List RuntimePacket := w.written.drop w.earlier

def accepted : List RuntimePacket := (w.written ++ w.queued).drop w.earlier

inductive Known (p : RuntimePacket) : Prop
  | seen {operationId : UInt64} (hop : operationId? p = some operationId)
      (hseen : operationId ∈ w.session.seenOperationIds)
      (hframe : p.frameId < w.session.nextFrameId)
  | abandoned {operationId : UInt64} {frameId : UInt32} (hc : Carries p operationId frameId)
      (hmem : (operationId, frameId) ∈ w.abandoned)
  | pending {id : Multiplex.CallId} {request : NnrpSubmitRequest}
      (hp : w.pending = some (id, request))
      (hc : Carries p request.metadata.operationId request.frameId)

structure Once : Prop where
  driver : Multiplex.CallsWellFormed w.driver
  submits : w.submits.Pairwise Distinct
  earlier : w.driver.Alive → w.earlier ≤ (w.written ++ w.queued).length
  accepted : w.driver.Alive → w.accepted.Pairwise Distinct
  known : w.driver.Alive → ∀ p ∈ w.accepted, w.Known p
  pending : ∀ id request, w.pending = some (id, request) →
    w.driver.WriteTracked (fun _ => True) True id ∧
      w.session.nextFrameId ≤ request.frameId ∧ request.frameId.toNat + 1 < 2 ^ 32

end State

variable {w w' : State} {p q : RuntimePacket} {request : NnrpSubmitRequest}

theorem submitPacket_ok {s : NnrpClientSession} (h : s.submitPacket request = .ok p) :
    IsSubmit s.sessionId p ∧ Carries p request.metadata.operationId request.frameId := by
  simp only [NnrpClientSession.submitPacket] at h
  obtain ⟨m, hbytes, h⟩ := Fallible.bind_eq_ok.mp h
  obtain ⟨hmeta, -, htype, hsess, hframe⟩ := RuntimePacket.new_ok (liftNnrp_eq_ok.mp h)
  have hparse := FrameSubmitMetadata.codec.parses (liftNnrp_eq_ok.mp hbytes)
  refine ⟨⟨htype, hsess⟩, ?_, hframe⟩
  rw [operationId?, hmeta, hparse]

namespace State

theorem Known.distinct (h : w.Known p) (hp : w.pending = none)
    (hframe : w.session.nextFrameId ≤ request.frameId)
    (hop : request.metadata.operationId ∉ w.session.seenOperationIds) (hfresh : ∀ ids ∈ w.abandoned,
      ids.1 ≠ request.metadata.operationId ∧ ids.2 ≠ request.frameId)
    (hq : Carries q request.metadata.operationId request.frameId) : Distinct p q := by
  rw [Distinct, hq.1, hq.2]
  cases h with
  | @seen id hop' hseen hlt =>
    constructor
    · rw [hop']
      intro heq
      exact hop (some.inj heq ▸ hseen)
    · intro heq
      rw [heq] at hlt
      exact absurd hlt (UInt32.not_lt.mpr hframe)
  | abandoned hc hmem =>
    obtain ⟨hne, hneFrame⟩ := hfresh _ hmem
    rw [hc.1, hc.2]
    exact ⟨fun heq => hne (some.inj heq), hneFrame⟩
  | pending hp' =>
    rw [hp] at hp'
    cases hp'

variable {id : Multiplex.CallId}

theorem Known.confirm {result : Except RuntimeError UInt32}
    (h : w.Known p) (hp : w.pending = some (id, request))
    (hframe : w.session.nextFrameId ≤ request.frameId)
    (hfits : request.frameId.toNat + 1 < 2 ^ 32) :
    ((w.setSession (w.session.record request)).finish result).Known p := by
  have hsucc : (request.frameId + 1).toNat = request.frameId.toNat + 1 := by
    rw [UInt32.toNat_add]
    exact Nat.mod_eq_of_lt hfits
  cases h with
  | seen hop hseen hlt =>
    refine .seen hop (mem_set_insert.mpr (.inr hseen)) ?_
    have hlt' := UInt32.lt_iff_toNat_lt.mp hlt
    have hle := UInt32.le_iff_toNat_le.mp hframe
    refine UInt32.lt_iff_toNat_lt.mpr ?_
    change p.frameId.toNat < (request.frameId + 1).toNat
    omega
  | abandoned hc hmem => exact .abandoned hc hmem
  | @pending id' req' hp' hc =>
    rw [hp] at hp'
    cases hp'
    refine .seen hc.1 (mem_set_insert.mpr (.inl rfl)) ?_
    refine UInt32.lt_iff_toNat_lt.mpr ?_
    change p.frameId.toNat < (request.frameId + 1).toNat
    rw [hc.2]
    omega

theorem Known.abandon (h : w.Known p)
    (hp : w.pending = some (id, request)) : (w.abandon request).Known p := by
  cases h with
  | seen hop hseen hframe => exact .seen hop hseen hframe
  | abandoned hc hmem => exact .abandoned hc (mem_append_left _ hmem)
  | pending hp' hc =>
    rw [hp] at hp'
    cases hp'
    exact .abandoned hc (mem_append_right _ (mem_singleton_self _))

theorem Known.congr (h : w.Known p) (hnext : w'.session.nextFrameId = w.session.nextFrameId)
    (hseen : w'.session.seenOperationIds = w.session.seenOperationIds)
    (habandoned : w'.abandoned = w.abandoned)
    (hpend : ∀ x, w.pending = some x → w'.pending = some x) : w'.Known p := by
  cases h with
  | seen hop hmem hframe => exact .seen hop (hseen ▸ hmem) (hnext ▸ hframe)
  | abandoned hc hmem => exact .abandoned hc (habandoned ▸ hmem)
  | pending hp hc => exact .pending (hpend _ hp) hc

namespace Once

theorem of_session (h : Once w) (hdriver : w'.driver = w.driver)
    (hid : w'.session.sessionId = w.session.sessionId) (hearlier : w'.earlier = w.earlier)
    (hknown : w.driver.Alive → ∀ p, w.Known p → w'.Known p) (hpend : w'.pending = none ∨
      w'.pending = w.pending ∧ w'.session.nextFrameId = w.session.nextFrameId) : Once w' := by
  have hwritten : w'.written = w.written := by rw [State.written, hdriver, hid, State.written]
  have hqueued : w'.queued = w.queued := by rw [State.queued, hdriver, hid, State.queued]
  have hsubmits : w'.submits = w.submits := by
    rw [State.submits, hwritten, hearlier, State.submits]
  have hacc : w'.accepted = w.accepted := by
    rw [State.accepted, hwritten, hqueued, hearlier, State.accepted]
  refine ⟨hdriver ▸ h.driver, hsubmits ▸ h.submits, ?_, ?_, ?_, ?_⟩
  · rw [hwritten, hqueued, hearlier, hdriver]
    exact h.earlier
  · rw [hacc, hdriver]
    exact h.accepted
  · rw [hacc, hdriver]
    exact fun ha p hp => hknown ha p (h.known ha p hp)
  · intro id request hp
    rcases hpend with hnone | ⟨hsame, hnext⟩
    · rw [hnone] at hp
      cases hp
    · rw [hdriver, hnext]
      exact h.pending id request (hsame ▸ hp)

theorem queueSubmit {sess : NnrpClientSession} (h : Once w) (hp : w.pending = none)
    (hid : sess.sessionId = w.session.sessionId) (hnext : sess.nextFrameId = w.session.nextFrameId)
    (hseen : sess.seenOperationIds = w.session.seenOperationIds)
    (hframe : w.session.nextFrameId ≤ request.frameId) (hfits : request.frameId.toNat + 1 < 2 ^ 32)
    (hop : request.metadata.operationId ∉ w.session.seenOperationIds)
    (hpkt : w.session.submitPacket request = .ok p) (hrun : w.driver.running = true)
    (hfresh : ∀ ids ∈ w.abandoned, ids.1 ≠ request.metadata.operationId ∧ ids.2 ≠ request.frameId) :
    Once ((w.setSession sess).queueSubmit request p) := by
  obtain ⟨hsubmit, hcarries⟩ := submitPacket_ok hpkt
  have hwritten : ((w.setSession sess).queueSubmit request p).written = w.written := by
    simp [State.written, hid]
  have hqueued : ((w.setSession sess).queueSubmit request p).queued = w.queued ++ [p] := by
    have hpush := Multiplex.queuedWrites_push (w := w.driver) (.write p w.driver.callCount)
    rw [State.queued, queueSubmit_driver, Multiplex.Connection.queuedWrites,
      Multiplex.Connection.request_commands, setSession_driver, hpush, if_pos hrun,
      filter_append, State.queued, queueSubmit_session, setSession_session, hid]
    simp [Multiplex.DriverCommand.packet?, hsubmit]
  have hall : ((w.setSession sess).queueSubmit request p).written ++
      ((w.setSession sess).queueSubmit request p).queued = w.written ++ w.queued ++ [p] := by
    rw [hwritten, hqueued, append_assoc]
  have hacc : w.driver.Alive →
      ((w.setSession sess).queueSubmit request p).accepted = w.accepted ++ [p] := by
    intro ha
    rw [State.accepted, hall]
    exact drop_append_of_le_length (h.earlier ha)
  refine ⟨(Multiplex.Transition.callWrite p).callsWellFormed h.driver, ?_, fun ha => ?_,
    fun ha => ?_, fun ha q hq => ?_, ?_⟩
  · rw [State.submits, hwritten]
    exact h.submits
  · rw [hall, length_append]
    exact (h.earlier ha).trans (Nat.le_add_right _ _)
  · rw [hacc ha, pairwise_append]
    refine ⟨h.accepted ha, pairwise_singleton _ _, fun q hq q' hq' => ?_⟩
    rw [mem_singleton.mp hq']
    exact (h.known ha q hq).distinct hp hframe hop hfresh hcarries
  · rw [hacc ha] at hq
    rcases mem_append.mp hq with hq | hq
    · exact (h.known ha q hq).congr hnext hseen rfl (by simp [hp])
    · rw [mem_singleton.mp hq]
      exact .pending rfl hcarries
  · rintro id req' ⟨⟩
    refine ⟨.request hrun trivial, ?_, hfits⟩
    rw [queueSubmit_session, setSession_session, hnext]
    exact hframe

theorem background {a : Multiplex.Action} {driver : Multiplex.Connection} (h : Once w)
    (hqueues : ¬a.Queues (IsSubmit w.session.sessionId))
    (ht : Multiplex.Transition w.driver a driver) : Once (w.setDriver driver) := by
  have hflow : DrainedQueue.Flow w.driver.Alive driver.Alive w.queued (w.setDriver driver).queued
      w.written (w.setDriver driver).written := ht.writeFlow.flow hqueues
  have hacc : driver.Alive → (w.setDriver driver).accepted = w.accepted := by
    intro ha
    rw [State.accepted, hflow.append_eq ha]
    rfl
  refine ⟨ht.callsWellFormed h.driver, ?_, fun ha => ?_, fun ha => ?_, fun ha p hp => ?_, ?_⟩
  · rcases hflow.written_cases with hw | ⟨halive, hextends⟩
    · rw [State.submits, hw]
      exact h.submits
    · exact (h.accepted halive).sublist (hextends.drop _).sublist
  · rw [hflow.append_eq ha]
    exact h.earlier (ht.alive ha)
  · rw [hacc ha]
    exact h.accepted (ht.alive ha)
  · rw [hacc ha] at hp
    exact (h.known (ht.alive ha) p hp).congr rfl rfl rfl fun _ => id
  · intro id request hp
    obtain ⟨htracked, hbounds⟩ := h.pending id request hp
    exact ⟨htracked.step h.driver ht (fun _ => trivial) fun _ _ _ _ _ => trivial, hbounds⟩

end Once

end State

/-- No submit names the operation or the frame of a submit that was dropped. -/
def Unabandoned (w : State) : Event → Prop
  | .submit request _ => ∀ ids ∈ w.abandoned,
      ids.1 ≠ request.metadata.operationId ∧ ids.2 ≠ request.frameId
  | .confirm | .drop | .reserveDeadline .. | .discardDeadline .. | .completeOperation _
  | .background _ => True

-- The search for an instance would try every pair of ids.
instance instDecidableUnabandoned (w : State) : ∀ e, Decidable (Unabandoned w e)
  | .submit _ _ => decidableBAll _ w.abandoned
  | .confirm | .drop | .reserveDeadline .. | .discardDeadline .. | .completeOperation _
  | .background _ => .isTrue trivial

theorem Transition.once {e : Event} (ht : Transition w e w') (hgood : Unabandoned w e)
    (h : w.Once) : w'.Once := by
  cases ht with
  | keep hid hnext hseen hp =>
    exact h.of_session rfl hid rfl (fun _ p hk => hk.congr hnext hseen rfl fun _ => id)
      (.inr ⟨rfl, hnext⟩)
  | submit hp hid hnext hseen hframe hfits hop hpkt hrun =>
    exact h.queueSubmit hp hid hnext hseen hframe hfits hop hpkt hrun hgood
  | @confirmed id request hp hok =>
    obtain ⟨-, hframe, hfits⟩ := h.pending id request hp
    exact h.of_session rfl rfl rfl (fun _ p hk => hk.confirm hp hframe hfits) (.inl rfl)
  | @failed id request error hp hwait hne =>
    obtain ⟨htracked, -⟩ := h.pending id request hp
    have hdead := htracked.dead h.driver hwait hne
    exact h.of_session rfl rfl rfl (fun ha => absurd ha hdead) (.inl rfl)
  | drop hp => exact h.of_session rfl rfl rfl (fun _ p hk => hk.abandon hp) (.inl rfl)
  | background hqueues hs => exact h.background hqueues (Multiplex.step_transition hs)

section
variable {kind : RuntimeTransportKind} {before : List Multiplex.Action}
  {driver : Multiplex.Connection} {handle : Multiplex.ChannelId}
  {maxInFlightOperations : UInt16} {es : List Event}

theorem attach_once (hd : run Multiplex.step (.start kind) before = some driver) :
    (State.attach driver handle maxInFlightOperations).Once := by
  generalize hw : State.attach driver handle maxInFlightOperations = w
  have hearlier : w.earlier = (w.written ++ w.queued).length := by
    rw [← hw, State.written, State.queued, ← filter_append]
    rfl
  have hacc : w.accepted = [] := by
    rw [State.accepted, hearlier]
    exact drop_length
  have hsubmits : w.submits = [] := by
    rw [State.submits, hearlier, length_append]
    exact drop_eq_nil_of_le (Nat.le_add_right _ _)
  refine ⟨?_, ?_, fun _ => hearlier.le, fun _ => ?_, fun _ p hp => ?_, fun id request hp => ?_⟩
  · rw [← hw]
    exact Multiplex.run_callsWellFormed hd
  · rw [hsubmits]
    exact List.Pairwise.nil
  · rw [hacc]
    exact List.Pairwise.nil
  · rw [hacc] at hp
    cases hp
  · rw [← hw] at hp
    cases hp

/-- A session on any connection, and any run of it in which no submit reuses an id of a dropped
one: no two of its frames on the wire name the same operation or the same frame. -/
theorem submits_written_once (hd : run Multiplex.step (.start kind) before = some driver)
    (hgood : Along step Unabandoned (.attach driver handle maxInFlightOperations) es)
    (hr : run step (.attach driver handle maxInFlightOperations) es = some w) :
    w.submits.Pairwise Distinct := by
  have honce : w.Once := run_invariant State.Once
    (fun _ _ _ h hg hs => (step_transition hs).once hg h) (attach_once hd) hgood hr
  exact honce.submits

end

def registerSession : List Multiplex.Action :=
  [.callRegister 7, .command (.ok ()), .finishRegister 0]

def connected : Multiplex.Connection :=
  (run Multiplex.step (.start .tcp) registerSession).getD (.start .tcp)

theorem connected_run : run Multiplex.step (.start .tcp) registerSession = some connected := by
  have hsome : (run Multiplex.step (.start .tcp) registerSession).isSome = true := by
    decide +kernel
  obtain ⟨driver, hd⟩ := isSome_iff_exists.mp hsome
  rw [connected, hd]
  rfl

def serveWrite : Event := .background (.command (.ok ()))

def freshAfterDrop : List Event :=
  [.submit (sampleRequest 11 1) 0, serveWrite, .confirm, .submit (sampleRequest 12 2) 0, .drop,
    .submit (sampleRequest 13 3) 0, serveWrite, serveWrite, .confirm]

theorem submits_written_once_fresh :
    ∃ w, run step (.attach connected 0 4) freshAfterDrop = some w ∧ w.submits.length = 3 ∧
      w.submits.Pairwise Distinct := by
  have h : (run step (.attach connected 0 4) freshAfterDrop).map (fun w => w.submits.length) =
      some 3 := by
    decide +kernel
  obtain ⟨w, hr, hlen⟩ := map_eq_some_iff.mp h
  have hgood : Along step Unabandoned (.attach connected 0 4) freshAfterDrop := by
    decide +kernel
  exact ⟨w, hr, hlen, submits_written_once connected_run hgood hr⟩

def droppedSubmit : List Event :=
  [.submit (sampleRequest 11 1) 0, .drop, .submit (sampleRequest 11 1) 0, serveWrite, serveWrite]

/-- The session has forgotten the dropped submit, so it is written twice. -/
theorem dropped_submit_written_twice :
    ∃ w, run step (.attach connected 0 4) droppedSubmit = some w ∧
      w.submits.map (fun p => (operationId? p, p.frameId)) = [(some 11, 1), (some 11, 1)] ∧
      ¬w.submits.Pairwise Distinct := by
  have h : (run step (.attach connected 0 4) droppedSubmit).map (fun w =>
      (w.submits.map fun p => (operationId? p, p.frameId), decide (w.submits.Pairwise Distinct))) =
      some ([(some 11, 1), (some 11, 1)], false) := by
    decide +kernel
  obtain ⟨w, hr, h⟩ := map_eq_some_iff.mp h
  obtain ⟨hids, htwice⟩ := Prod.mk.inj h
  exact ⟨w, hr, hids, of_decide_eq_false htwice⟩

end Nnrp.Submit
