import Nnrp.ServerCorrelation
import Nnrp.SessionPair

/-!
# Cancellation that crosses completion

Every step of a session pair keeps the stages of its operations, as long as no packet crosses a
decision of its receiver. A packet that crosses makes its reception fail: a server refuses the
cancel, abort or supersede of an operation that it has just completed, while it accepts the cancel
of its frame; a client that has cancelled a frame or superseded an operation refuses the output that
was sent before the server knew, and a drop that follows a result.
-/

namespace Nnrp.Crossing
open OrderedMap Protocol Packet Data Control Operation List Option Function
open OperationView LabelledRun
open Client (NnrpClientSession Ledger sampleProgress)
open Server (NnrpServerSession NnrpServerOperation emptyResult)
open Lifecycle (ConnectionLifecycle)

section
variable {bnd : Binding} {l : Ledger} {id : UInt64} {fid other : UInt32}

theorem clientPhase_submit (hmark : l.marks[id]? = none) :
    clientPhase (l.submit id fid) fid = .open := by
  rw [clientPhase, Ledger.submit_operations, get_insert, if_pos rfl]
  simp [hmark]

theorem clientPhase_submit_ne (hne : fid ≠ other) :
    clientPhase (l.submit id fid) other = clientPhase l other := by
  rw [clientPhase, Ledger.submit_operations, get_insert, if_neg hne]
  rfl

theorem Ledger_other {op : UInt64} (hv : l.Valid) (hbound : l.frames[id]? = some fid)
    (hne : fid ≠ other) (hop : l.operations[other]? = some op) : id ≠ op := by
  rintro rfl
  have hother := (hv.inverse _ _).mpr hop
  rw [hbound] at hother
  exact hne (some.inj hother)

theorem clientPhase_mark_ne (hv : l.Valid) (hbound : l.frames[id]? = some fid)
    (hne : fid ≠ other) (state : OperationState) :
    clientPhase (l.mark id state) other = clientPhase l other := by
  rw [clientPhase, clientPhase, Ledger.mark_operations]
  cases hop : l.operations[other]? with
  | none => rfl
  | some op =>
    simp only [Ledger.mark_marks, get_insert, if_neg (Ledger_other hv hbound hne hop)]

theorem clientPhase_finish : clientPhase (l.finish id fid) fid = .absent := by
  rw [clientPhase, Ledger.finish_operations, get_erase, if_pos rfl]

theorem clientPhase_finish_ne (hv : l.Valid) (hbound : l.frames[id]? = some fid)
    (hne : fid ≠ other) : clientPhase (l.finish id fid) other = clientPhase l other := by
  rw [clientPhase, clientPhase, Ledger.finish_operations, get_erase, if_neg hne]
  cases hop : l.operations[other]? with
  | none => rfl
  | some op =>
    simp only [Ledger.finish_marks, get_erase, if_neg (Ledger_other hv hbound hne hop)]

variable {s s' : NnrpServerSession}

theorem serverPhase_congr (hframes : s'.frameOperations = s.frameOperations)
    (hreg : s'.operations = s.operations) (fid : UInt32) :
    serverPhase s' fid = serverPhase s fid := by
  rw [serverPhase, serverPhase, hframes, hreg]

theorem serverPhase_ends (hs : ServerSound bnd s)
    (hframes : s'.frameOperations = s.frameOperations) (hends : Ends s.operations s'.operations id)
    (hbound : s.operationFrames[id]? = some fid) : serverPhase s' fid = .ended := by
  obtain ⟨r, r', -, hrec', hterm, -⟩ := hends.self
  rw [serverPhase, hframes, (hs.inverse _ _).mp hbound]
  simp only [hrec', hterm, if_true]

theorem serverPhase_ends_ne (hs : ServerSound bnd s)
    (hframes : s'.frameOperations = s.frameOperations) (hends : Ends s.operations s'.operations id)
    (hbound : s.operationFrames[id]? = some fid) (hne : fid ≠ other) :
    serverPhase s' other = serverPhase s other := by
  rw [serverPhase, serverPhase, hframes]
  cases hop : s.frameOperations[other]? with
  | none => rfl
  | some op =>
    have hother : op ≠ id := by
      rintro rfl
      have hframe := (hs.inverse _ _).mpr hop
      rw [hbound] at hframe
      exact hne (some.inj hframe)
    simp only [hends.other op hother]

theorem serverPhase_accept : serverPhase (accept s id fid) fid = .live := by
  simp [serverPhase, accept, NnrpServerSession.bind, OperationState.isTerminal]

theorem serverPhase_accept_ne (hs : ServerSound bnd s)
    (hnew : s.operations.operations[id]? = none) (hne : fid ≠ other) :
    serverPhase (accept s id fid) other = serverPhase s other := by
  have hframes : (accept s id fid).frameOperations[other]? =
      s.frameOperations[other]? := by
    simp [accept, NnrpServerSession.bind, get_insert, hne]
  rw [serverPhase, serverPhase, hframes]
  cases hop : s.frameOperations[other]? with
  | none => rfl
  | some op =>
    have hother : id ≠ op := by
      rintro rfl
      obtain ⟨r, hrec, -⟩ := hs.record _ _ ((hs.inverse _ _).mpr hop)
      rw [hnew] at hrec
      cases hrec
    simp [accept, NnrpServerSession.bind, get_insert, hother]

end

section
variable {binding : Binding} {p : RuntimePacket} {s s' : NnrpClientSession}

theorem ClientSound.of_fewer (hs : ClientSound binding s)
    (hvalid : s'.ledger.Valid) (hpend : s'.pendingEvents = s.pendingEvents)
    (hframes : ∀ (id : UInt64) (fid : UInt32),
      s'.ledger.frames[id]? = some fid → s.ledger.frames[id]? = some fid)
    (hnext : s'.ledger.next = s.ledger.next) (hseen : s'.ledger.seen = s.ledger.seen)
    (hsent : ∀ p ∈ s'.sent, p.sessionId = s'.sessionId ∧ UpKind binding p) :
    ClientSound binding s' where
  valid := hvalid
  pendingEvents := hpend.trans hs.pendingEvents
  bound id fid h := hs.bound id fid (hframes id fid h)
  numbered fid id h := by
    rw [hnext, hseen]
    exact hs.numbered fid id h
  sent := hsent

theorem ClientSent.good (hs : ClientSound binding s)
    (h : ClientSent s s' p) (hkind : UpKind binding p) :
    ∀ p ∈ s'.sent, p.sessionId = s'.sessionId ∧ UpKind binding p := by
  rw [h.sent, h.sessionId]
  exact forall_mem_append.mpr ⟨hs.sent, forall_mem_singleton.mpr ⟨h.packet, hkind⟩⟩

variable {opId : UInt64}

theorem Ends.descriptors {r r' : OperationRegistry} (h : Ends r r' opId) (a : UInt64) :
    r'.operations[a]?.map (·.descriptor) = r.operations[a]?.map (·.descriptor) := by
  by_cases ha : a = opId
  · subst ha
    obtain ⟨rec, rec', hrec, hrec', -, hdesc⟩ := h.self
    rw [hrec, hrec', map_some, map_some, hdesc]
  · rw [h.other a ha]

variable {s s' : NnrpServerSession}

theorem ServerSound.of_kept (hs : ServerSound binding s) (hkept : ServerKept s s')
    (hrecords : ∀ a : UInt64, s'.operations.operations[a]?.map (·.descriptor) =
      s.operations.operations[a]?.map (·.descriptor))
    (hsent : ∀ p ∈ s'.sent, p.sessionId = s'.sessionId ∧ DownKind binding p) :
    ServerSound binding s' where
  session := hkept.sessionId ▸ hs.session
  inverse := by
    rw [hkept.operationFrames, hkept.frameOperations]
    exact hs.inverse
  bound := by
    rw [hkept.operationFrames]
    exact hs.bound
  record opId fid hbound := by
    rw [hkept.operationFrames] at hbound
    obtain ⟨r, hrec, hsess⟩ := hs.record opId fid hbound
    have hmap := hrecords opId
    rw [hrec, map_some, map_eq_some_iff] at hmap
    obtain ⟨r', hrec', hdesc⟩ := hmap
    exact ⟨r', hrec', by rw [hdesc, hsess, hkept.sessionId]⟩
  registered opId r hrec := by
    have hmap := hrecords opId
    rw [hrec, map_some, eq_comm, map_eq_some_iff] at hmap
    obtain ⟨r', hrec', -⟩ := hmap
    rw [hkept.operationFrames]
    exact hs.registered opId r' hrec'
  reservations := by
    rw [hkept.preSubmitDeadlines]
    exact hs.reservations
  inputs := by
    rcases hkept.inputs with hsame | ⟨ev, hqueued⟩
    · exact hsame ▸ hs.inputs
    · rw [hqueued]
      exact forall_mem_append.mpr ⟨hs.inputs, forall_mem_singleton.mpr ⟨ev, rfl⟩⟩
  sent := hsent

theorem ServerSent.good (hs : ServerSound binding s)
    (h : ServerSent s s' p) (hkind : DownKind binding p) :
    ∀ p ∈ s'.sent, p.sessionId = s'.sessionId ∧ DownKind binding p := by
  rw [h.sent, h.sessionId]
  exact forall_mem_append.mpr ⟨hs.sent, forall_mem_singleton.mpr ⟨h.packet, hkind⟩⟩

theorem ServerSound.accept {fid : UInt32}
    (hs : ServerSound binding s) (hbind : binding fid = some opId)
    (hfree : s.frameOperations[fid]? = none) (hnew : s.operations.operations[opId]? = none) :
    ServerSound binding (accept s opId fid) where
  session := hs.session
  inverse := by
    refine hs.inverse.insert ?_ hfree
    cases hbound : s.operationFrames[opId]? with
    | none => rfl
    | some frame =>
      obtain ⟨r, hrec, -⟩ := hs.record opId frame hbound
      rw [hnew] at hrec
      cases hrec
  bound op frame hbound := by
    change (s.operationFrames.insert opId fid)[op]? = some frame at hbound
    rw [get_insert] at hbound
    split_ifs at hbound with hop
    · cases hbound
      exact hop ▸ hbind
    · exact hs.bound op frame hbound
  record op frame hbound := by
    change (s.operationFrames.insert opId fid)[op]? = some frame at hbound
    change ∃ r, (s.operations.operations.insert opId _)[op]? = some r ∧ _
    rw [get_insert] at hbound ⊢
    split_ifs at hbound ⊢ with hop
    · exact ⟨_, rfl, rfl⟩
    · exact hs.record op frame hbound
  registered op r hrec := by
    change (s.operations.operations.insert opId _)[op]? = some r at hrec
    change ∃ frame, (s.operationFrames.insert opId fid)[op]? = some frame
    rw [get_insert] at hrec ⊢
    split_ifs at hrec ⊢ with hop
    · exact ⟨fid, rfl⟩
    · exact hs.registered op r hrec
  reservations := hs.reservations
  inputs := hs.inputs
  sent := hs.sent

end

section
variable {binding bnd' : Binding} {frameId : UInt32} {operationId : UInt64}

def extend (binding : Binding) (frameId : UInt32) (operationId : UInt64) : Binding :=
  update binding frameId (some operationId)

theorem extend_self : extend binding frameId operationId frameId = some operationId :=
  update_self ..

theorem extend_cases {other : UInt32} {op : UInt64}
    (h : extend binding frameId operationId other = some op) :
    (other = frameId ∧ op = operationId) ∨ binding other = some op := by
  by_cases heq : other = frameId
  · subst heq
    rw [extend_self] at h
    exact .inl ⟨rfl, (some.inj h).symm⟩
  · rw [extend, update_of_ne heq] at h
    exact .inr h

theorem extend_le (hnone : binding frameId = none) (other : UInt32) (op : UInt64)
    (h : binding other = some op) : extend binding frameId operationId other = some op := by
  rw [extend, update_of_ne]
  · exact h
  · rintro rfl
    rw [hnone] at h
    cases h

theorem Proper.extend (hb : Proper binding) (hframe : frameId ≠ 0) (hzero : operationId ≠ 0)
    (hnew : ∀ other, binding other ≠ some operationId) :
    Proper (extend binding frameId operationId) where
  nonzero other op h := by
    rcases extend_cases h with ⟨rfl, rfl⟩ | h
    · exact ⟨hframe, hzero⟩
    · exact hb.nonzero _ _ h
  injective first second op hfirst hsecond := by
    rcases extend_cases hfirst with ⟨rfl, rfl⟩ | hold
    · rcases extend_cases hsecond with ⟨rfl, -⟩ | hold
      · rfl
      · exact absurd hold (hnew second)
    · rcases extend_cases hsecond with ⟨rfl, rfl⟩ | hold'
      · exact absurd hold (hnew first)
      · exact hb.injective _ _ _ hold hold'

theorem ClientSound.submit {s s' : NnrpClientSession} {p : RuntimePacket} {m : FrameSubmitMetadata}
    (hs : ClientSound binding s) (hsent : ClientSent s s' p) (htype : p.messageType = .frameSubmit)
    (hcarries : Carries p frameSubmitMetadataLen FrameSubmitMetadata.parse m)
    (hnone : binding p.frameId = none) (hnext : s.ledger.next ≤ p.frameId)
    (hlast : p.frameId < p.frameId + 1) (hzero : m.operationId ≠ 0)
    (hseen : m.operationId ∉ s.ledger.seen)
    (hledger : s'.ledger = s.ledger.submit m.operationId p.frameId) :
    ClientSound (Crossing.extend binding p.frameId m.operationId) s' where
  valid := by
    rw [hledger]
    exact hs.valid.submit hzero hseen hnext hlast
  pendingEvents := hsent.pendingEvents.trans hs.pendingEvents
  bound operationId frameId hbound := by
    rw [hledger, Ledger.submit_frames, get_insert] at hbound
    split_ifs at hbound with hop
    · cases hbound
      rw [← hop]
      exact extend_self
    · exact extend_le hnone _ _ (hs.bound _ _ hbound)
  numbered frameId operationId hbind := by
    rw [hledger, Ledger.submit_next, Ledger.submit_seen, mem_set_insert]
    rcases extend_cases hbind with ⟨rfl, rfl⟩ | hbind
    · exact ⟨hlast, .inl rfl⟩
    · obtain ⟨hlt, hmem⟩ := hs.numbered _ _ hbind
      exact ⟨UInt32.lt_trans (UInt32.lt_of_lt_of_le hlt hnext) hlast, .inr hmem⟩
  sent := by
    rw [hsent.sent, hsent.sessionId]
    refine forall_mem_append.mpr ⟨fun p' hp' => ?_, forall_mem_singleton.mpr ?_⟩
    · exact ⟨(hs.sent p' hp').1, (hs.sent p' hp').2.mono (extend_le hnone)⟩
    · exact ⟨hsent.packet, .submit htype hcarries extend_self⟩

theorem ServerSound.mono {s : NnrpServerSession} (hs : ServerSound binding s)
    (hle : ∀ frameId operationId, binding frameId = some operationId →
      bnd' frameId = some operationId) : ServerSound bnd' s :=
  { hs with
    bound := fun _ _ hbound => hle _ _ (hs.bound _ _ hbound)
    sent := fun p hp => ⟨(hs.sent p hp).1, (hs.sent p hp).2.mono hle⟩ }

end

section
variable {binding : Binding} {w w' : Joint} {client : NnrpClientSession}
  {server : NnrpServerSession} {p : RuntimePacket} {rest : List RuntimePacket}

theorem ordered_of_step (h : ∀ fid, fid ≠ 0 → Ordered (w.view fid)) (fid : UInt32)
    (hself : fid ≠ 0 → Step (w.view fid) (w'.view fid))
    (hother : ∀ other, fid ≠ other → w'.view other = w.view other) :
    ∀ fid, fid ≠ 0 → Ordered (w'.view fid) := by
  intro other hne
  by_cases heq : fid = other
  · subst heq
    exact (hself hne).ordered (h _ hne)
  · rw [hother other heq]
    exact h other hne

theorem Sound.idle {fid : UInt32} (h : Sound binding w) (hframe : fid ≠ 0)
    (hnext : w.client.ledger.next ≤ fid) :
    binding fid = none ∧ w.view fid = ⟨.absent, .unknown, [], []⟩ := by
  have hnone : binding fid = none := by
    cases hbind : binding fid with
    | none => rfl
    | some id =>
      exact absurd hnext (UInt32.not_le.mpr (h.client.numbered _ _ hbind).1)
  have hserver : serverPhase w.server fid = .unknown := by
    cases hop : w.server.frameOperations[fid]? with
    | none => rw [serverPhase, hop]
    | some id =>
      rw [h.server.bound _ _ ((h.server.inverse _ _).mpr hop)] at hnone
      cases hnone
  have hsent : lane RuntimePacket.frameId up fid w.client.sent = [] := by
    refine lane_eq_nil fun p hp heq => ?_
    rcases (h.client.sent p hp).2.frame with ⟨id, hbind⟩ | ⟨hzero, -⟩
    · rw [heq, hnone] at hbind
      cases hbind
    · exact hframe (heq.symm.trans hzero)
  have hord := h.ordered fid hframe
  rw [Joint.view, hserver, hsent] at hord
  obtain ⟨hclient, hdown⟩ := hord.idle_of_nothing
  refine ⟨hnone, ?_⟩
  rw [Joint.view, hserver, hsent, hclient, hdown]

theorem Sound.submit {m : FrameSubmitMetadata} (h : Sound binding w)
    (hsent : ClientSent w.client client p) (htype : p.messageType = .frameSubmit)
    (hcarries : Carries p frameSubmitMetadataLen FrameSubmitMetadata.parse m)
    (hframe : p.frameId ≠ 0) (hnext : w.client.ledger.next ≤ p.frameId)
    (hlast : p.frameId < p.frameId + 1) (hzero : m.operationId ≠ 0)
    (hseen : m.operationId ∉ w.client.ledger.seen)
    (hledger : client.ledger = w.client.ledger.submit m.operationId p.frameId) :
    Sound (extend binding p.frameId m.operationId) { w with client } := by
  obtain ⟨hnone, hidle⟩ := h.idle hframe hnext
  have hup : up p = some .submit := by rw [up, htype]
  have hnew : ∀ fid, binding fid ≠ some m.operationId :=
    fun fid hbind => hseen (h.client.numbered _ _ hbind).2
  have hmark : w.client.ledger.marks[m.operationId]? = none := by
    cases hmark : w.client.ledger.marks[m.operationId]? with
    | none => rfl
    | some state =>
      obtain ⟨-, fid, hbound⟩ := h.client.valid.marked _ _ hmark hzero
      exact absurd (h.client.bound _ _ hbound) (hnew fid)
  refine ⟨h.proper.extend hframe hzero hnew, h.session.trans hsent.sessionId.symm,
    h.client.submit hsent htype hcarries hnone hnext hlast hzero hseen hledger,
    h.server.mono (extend_le hnone), ?_⟩
  refine ordered_of_step h.ordered p.frameId (fun _ => ?_) fun other hne => ?_
  · have hview : Joint.view { w with client } p.frameId = ⟨.open, .unknown, [.submit], []⟩ := by
      simp only [Joint.view, View.mk.injEq] at hidle ⊢
      obtain ⟨-, hserver, hnothing, hdown⟩ := hidle
      refine ⟨?_, hserver, ?_, hdown⟩
      · rw [hledger, clientPhase_submit hmark]
      · rw [hsent.sent, lane_snoc hup, hnothing]
        rfl
    rw [hidle, hview]
    exact .submit
  · simp only [Joint.view, hledger, hsent.sent, clientPhase_submit_ne hne, lane_snoc_ne hne]

variable {operationId : UInt64}

section
variable (h : Sound binding w)
include h

namespace Sound

theorem request (hsent : ClientSent w.client client p)
    (hbound : w.client.ledger.frames[operationId]? = some p.frameId)
    (hkind : ∀ binding : Binding, binding p.frameId = some operationId → UpKind binding p)
    (hup : ∃ m, up p = some m ∧ m ≠ .submit) (hledger : client.ledger = w.client.ledger ∨
      ∃ state, state.isTerminal = true ∧ client.ledger = w.client.ledger.mark operationId state) :
    Sound binding { w with client } := by
  obtain ⟨m, hup, hm⟩ := hup
  have hkind := hkind binding (h.client.bound _ _ hbound)
  have hledgers : client.ledger.Valid ∧ client.ledger.frames = w.client.ledger.frames ∧
      client.ledger.next = w.client.ledger.next ∧ client.ledger.seen = w.client.ledger.seen ∧
      ∀ other, p.frameId ≠ other →
        clientPhase client.ledger other = clientPhase w.client.ledger other := by
    rcases hledger with hsame | ⟨state, hterm, hmark⟩
    · rw [hsame]
      exact ⟨h.client.valid, rfl, rfl, rfl, fun _ _ => rfl⟩
    · rw [hmark]
      exact ⟨h.client.valid.mark fun _ => ⟨hterm, _, hbound⟩, rfl, rfl, rfl,
        fun other hne => clientPhase_mark_ne h.client.valid hbound hne state⟩
  obtain ⟨hvalid, hframes, hnext, hseen, hother⟩ := hledgers
  have hheld : clientPhase client.ledger p.frameId ≠ .absent :=
    clientPhase_held hvalid (by rw [hframes]; exact hbound)
  refine ⟨h.proper, h.session.trans hsent.sessionId.symm, ?_, h.server, ?_⟩
  · exact h.client.of_fewer hvalid hsent.pendingEvents (fun _ _ => hframes ▸ id) hnext hseen
      (hsent.good h.client hkind)
  refine ordered_of_step h.ordered p.frameId (fun _ => ?_) fun other hne => ?_
  · simp only [Joint.view, hsent.sent, lane_snoc hup]
    exact .request (clientPhase_held h.client.valid hbound) hheld hm
  · simp only [Joint.view, hsent.sent, lane_snoc_ne hne, hother other hne]

theorem sessionControl (hsent : ClientSent w.client client p)
    (hframe : p.frameId = 0) (hkind : ∀ binding, UpKind binding p)
    (hledger : client.ledger = w.client.ledger) : Sound binding { w with client } := by
  refine ⟨h.proper, h.session.trans hsent.sessionId.symm, ?_, h.server, ?_⟩
  · refine h.client.of_fewer ?_ hsent.pendingEvents ?_ ?_ ?_ (hsent.good h.client (hkind binding))
    all_goals rw [hledger]
    · exact h.client.valid
    · exact fun _ _ hbound => hbound
  · refine ordered_of_step h.ordered p.frameId (fun hne => absurd hframe hne) fun other hne => ?_
    simp only [Joint.view, hledger, hsent.sent, lane_snoc_ne hne]

theorem clientSent (hsent : ClientSent w.client client p)
    (hmoved : ClientMoved w.client client p) : ∃ bnd', Sound bnd' { w with client } := by
  cases hmoved with
  | submit htype hcarries hframe hnext hlast hzero hseen hledger =>
    exact ⟨_, h.submit hsent htype hcarries hframe hnext hlast hzero hseen hledger⟩
  | sessionControl hframe hkind hledger => exact ⟨_, h.sessionControl hsent hframe hkind hledger⟩
  | request hbound hkind hup hledger => exact ⟨_, h.request hsent hbound hkind hup hledger⟩

theorem serverEnding {m : Down} (hsent : ServerSent w.server server p)
    (hbound : w.server.operationFrames[operationId]? = some p.frameId)
    (hkind : ∀ binding : Binding, binding p.frameId = some operationId → DownKind binding p)
    (hdown : down p = some m) (hends : Ends w.server.operations server.operations operationId)
    (hstep : ∀ c ups downs, Step ⟨c, serverPhase w.server p.frameId, ups, downs⟩
      ⟨c, .ended, ups, downs ++ [m]⟩) : Sound binding { w with server } := by
  have hkind := hkind binding (h.server.bound _ _ hbound)
  refine ⟨h.proper, hsent.sessionId.trans h.session, h.client, ?_, ?_⟩
  · exact h.server.of_kept hsent.toServerKept hends.descriptors (hsent.good h.server hkind)
  refine ordered_of_step h.ordered p.frameId (fun _ => ?_) fun other hne => ?_
  · simp only [Joint.view, hsent.sent, lane_snoc hdown,
      serverPhase_ends h.server hsent.frameOperations hends hbound]
    exact hstep _ _ _
  · simp only [Joint.view, hsent.sent, lane_snoc_ne hne,
      serverPhase_ends_ne h.server hsent.frameOperations hends hbound hne]

theorem serverSent (hsent : ServerSent w.server server p)
    (hmoved : ServerMoved w.server server p) : Sound binding { w with server } := by
  cases hmoved with
  | output hbound hkind hdown hrec hlive hreg =>
    have hkind := hkind binding (h.server.bound _ _ hbound)
    have hphase := serverPhase_bound h.server hbound hrec
    rw [if_neg (by rw [hlive]; decide)] at hphase
    refine ⟨h.proper, hsent.sessionId.trans h.session, h.client, ?_, ?_⟩
    · exact h.server.of_kept hsent.toServerKept (fun _ => by rw [hreg]) (hsent.good h.server hkind)
    refine ordered_of_step h.ordered p.frameId (fun _ => ?_) fun other hne => ?_
    · simp only [Joint.view, hsent.sent, lane_snoc hdown,
        serverPhase_congr hsent.frameOperations hreg, hphase]
      exact .output
    · simp only [Joint.view, hsent.sent, lane_snoc_ne hne,
        serverPhase_congr hsent.frameOperations hreg]
  | push hop hkind hdown hrec hlive hends =>
    have hbound := (h.server.inverse _ _).mpr hop
    have hphase := serverPhase_bound h.server hbound hrec
    rw [if_neg (by rw [hlive]; decide)] at hphase
    refine h.serverEnding hsent hbound hkind hdown hends fun c ups downs => ?_
    rw [hphase]
    exact .push
  | drop hbound hkind hdown hends =>
    refine h.serverEnding hsent hbound hkind hdown hends fun c ups downs => .drop ?_
    obtain ⟨r, -, hrec, -⟩ := hends.self
    rw [serverPhase_bound h.server hbound hrec]
    split_ifs <;> decide

theorem clientRead (hsent : w.server.sent = p :: rest) (hread : ClientRead w.client client p) :
    Sound binding { w with client, server := { w.server with sent := rest } } := by
  have hserver : ServerSound binding { w.server with sent := rest } :=
    { h.server with
      sent := fun p hp => h.server.sent p (by rw [hsent]; exact mem_cons_of_mem _ hp) }
  cases hread with
  | output hdown hopen hsame =>
    subst hsame
    refine ⟨h.proper, h.session, h.client, hserver, ?_⟩
    refine ordered_of_step h.ordered p.frameId (fun _ => ?_) fun other hne => ?_
    · simp only [Joint.view, hsent, lane_cons hdown]
      exact .readOutput
    · simp only [Joint.view, hsent, lane_cons_ne hne]
      rfl
  | @ending operationId m hdown hm hbound hfinish =>
    have hledger : client.ledger = w.client.ledger.finish operationId p.frameId := by
      rw [hfinish]
      rfl
    have hvalid := h.client.valid.finish hbound
    rw [← hledger] at hvalid
    refine ⟨h.proper, by rw [hfinish]; exact h.session, ?_, hserver, ?_⟩
    · refine h.client.of_fewer hvalid (by rw [hfinish]; rfl) ?_ (by rw [hledger]; rfl)
        (by rw [hledger]; rfl) (by rw [hfinish]; exact h.client.sent)
      intro op fid hframe
      rw [hledger, Ledger.finish_frames, get_erase] at hframe
      split_ifs at hframe
      exact hframe
    refine ordered_of_step h.ordered p.frameId (fun _ => ?_) fun other hne => ?_
    · simp only [Joint.view, hsent, lane_cons hdown, hledger, clientPhase_finish]
      rw [hfinish]
      exact .readEnd hm
    · simp only [Joint.view, hsent, lane_cons_ne hne, hledger,
        clientPhase_finish_ne h.client.valid hbound hne]
      rw [hfinish]
      rfl

theorem serverRead (hsent : w.client.sent = p :: rest)
    (hread : ServerRead binding w.server server p) :
    Sound binding { w with server, client := { w.client with sent := rest } } := by
  have hclient : ClientSound binding { w.client with sent := rest } :=
    { h.client with
      sent := fun p hp => h.client.sent p (by rw [hsent]; exact mem_cons_of_mem _ hp) }
  cases hread with
  | accepted hup hbind hfree hnew hsame =>
    subst hsame
    have hphase : serverPhase w.server p.frameId = .unknown := by rw [serverPhase, hfree]
    refine ⟨h.proper, h.session, hclient, h.server.accept hbind hfree hnew, ?_⟩
    refine ordered_of_step h.ordered p.frameId (fun _ => ?_) fun other hne => ?_
    · simp only [Joint.view, hsent, lane_cons hup, serverPhase_accept, hphase]
      exact .accept
    · simp only [Joint.view, hsent, lane_cons_ne hne, serverPhase_accept_ne h.server hnew hne]
      rfl
  | ended hup hm _ hbound hended =>
    refine ⟨h.proper, hended.sessionId.trans h.session, hclient, ?_, ?_⟩
    · refine h.server.of_kept hended.toServerKept hended.ends.descriptors ?_
      rw [hended.sent, hended.sessionId]
      exact h.server.sent
    refine ordered_of_step h.ordered p.frameId (fun _ => ?_) fun other hne => ?_
    · simp only [Joint.view, hsent, lane_cons hup, hended.sent,
        serverPhase_ends h.server hended.frameOperations hended.ends hbound]
      exact .finish hm
    · simp only [Joint.view, hsent, lane_cons_ne hne, hended.sent,
        serverPhase_ends_ne h.server hended.frameOperations hended.ends hbound hne]
      rfl
  | sessionControl hframe hsame =>
    subst hsame
    refine ⟨h.proper, h.session, hclient, h.server, ?_⟩
    refine ordered_of_step h.ordered p.frameId (fun hne => absurd hframe hne) fun other hne => ?_
    simp only [Joint.view, hsent, lane_cons_ne hne]
    rfl

end Sound

theorem Moved.sound (hmoved : Moved binding w w') : ∃ bnd', Sound bnd' w' := by
  cases hmoved with
  | clientSent hsent hmoved hw =>
    subst hw
    exact h.clientSent hsent hmoved
  | serverSent hsent hmoved hw =>
    subst hw
    exact ⟨binding, h.serverSent hsent hmoved⟩
  | clientTook hw =>
    subst hw
    exact ⟨binding, h.proper, h.session, { h.client with }, h.server, h.ordered⟩
  | serverTook hqueue hw =>
    subst hw
    refine ⟨binding, h.proper, h.session, h.client, { h.server with inputs := ?_ }, h.ordered⟩
    intro input hinput
    exact h.server.inputs input (by rw [hqueue]; exact mem_cons_of_mem _ hinput)
  | clientRead hsent hread hw =>
    subst hw
    exact ⟨binding, h.clientRead hsent hread⟩
  | serverRead hsent hread hw =>
    subst hw
    exact ⟨binding, h.serverRead hsent hread⟩

end

variable {life : ConnectionLifecycle} {maxInFlightOperations : UInt16} {sid : UInt32}

theorem ClientSound.opened : ClientSound (fun _ => none)
      (NnrpClientSession.opened sid maxInFlightOperations life) where
  valid := Ledger.opened_valid
  pendingEvents := rfl
  bound operationId fid h := by
    change Ledger.opened.frames[operationId]? = some fid at h
    simp [Ledger.opened] at h
  numbered _ _ := nofun
  sent _ := nofun

theorem ServerSound.accepted (hid : sid ≠ 0) : ServerSound (fun _ => none)
      (NnrpServerSession.accepted sid maxInFlightOperations life) where
  session := hid
  inverse := inverse_empty
  bound operationId fid h := by simp [NnrpServerSession.accepted] at h
  record operationId fid h := by simp [NnrpServerSession.accepted] at h
  registered operationId r h := by simp [NnrpServerSession.accepted] at h
  reservations := ⟨rfl, rfl⟩
  inputs _ := nofun
  sent _ := nofun

variable {sid : UInt32} {clientLimit serverLimit : UInt16}
  {clientLifecycle serverLifecycle : ConnectionLifecycle}

theorem opened_sound (hid : sid ≠ 0) : Sound (fun _ => none)
    (.opened sid clientLimit serverLimit clientLifecycle serverLifecycle) where
  proper := ⟨fun _ _ => nofun, fun _ _ _ => nofun⟩
  session := rfl
  client := .opened
  server := .accepted hid
  ordered fid _ := by
    have hview : (Joint.opened sid clientLimit serverLimit clientLifecycle
        serverLifecycle).view fid = ⟨.absent, .unknown, [], []⟩ := by
      have hclient : clientPhase Ledger.opened fid = .absent := by
        simp [clientPhase, Ledger.opened]
      have hserver : serverPhase (.accepted sid serverLimit serverLifecycle) fid =
          .unknown := by
        simp [serverPhase, NnrpServerSession.accepted]
      change View.mk (clientPhase Ledger.opened fid) (serverPhase (.accepted _ _ _) fid) [] [] = _
      rw [hclient, hserver]
    rw [hview]
    exact .idle

end

theorem step_errors {w w' : Joint} {label : Label} (hstep : step w label = some w') :
    ∃ new, w'.errors = w.errors ++ new := by
  cases label with
  | submit | control | cancelFrame | supersede | sendResult | sendResultDrop | sendProgress
  | sendPartialResult =>
    simp only [step, Joint.clientCalls, Joint.serverCalls] at hstep
    split at hstep <;> cases hstep
    exact ⟨[], (append_nil _).symm⟩
  | clientReceives | serverReceives =>
    simp only [step, Joint.clientReceives, Joint.serverReceives] at hstep
    split at hstep
    · split at hstep <;> cases hstep
      exact ⟨_, rfl⟩
    · cases hstep
      exact ⟨_, rfl⟩

/-- Receptions are free of errors along a run exactly if no packet that is read crosses a decision
of its receiver. -/
theorem no_error_iff_clear {sessionId : UInt32} {clientLimit serverLimit : UInt16}
    {clientLifecycle serverLifecycle : ConnectionLifecycle} {labels : List Label} {w : Joint}
    (hid : sessionId ≠ 0)
    (hr : run step (.opened sessionId clientLimit serverLimit clientLifecycle serverLifecycle)
      labels = some w) : w.errors = [] ↔ Along step Clear
      (.opened sessionId clientLimit serverLimit clientLifecycle serverLifecycle) labels := by
  have hiff := run_avoids_iff (P := Clear) (fun w => (∃ bnd, Sound bnd w) ∧ w.errors = [])
    (fun w => w.errors ≠ []) (fun _ h => not_not.mpr h.2) ?_ ?_ ?_
    ⟨⟨_, opened_sound hid⟩, rfl⟩ hr
  · rw [← hiff, not_not]
  · rintro w label w' ⟨⟨bnd, hsound⟩, hnone⟩ hclear hstep
    rcases step_cases hsound hstep with ⟨-, hmoved⟩ | ⟨hcrosses, -⟩
    · exact ⟨hmoved.sound hsound, hmoved.errors.trans hnone⟩
    · exact absurd hclear hcrosses
  · rintro w label w' ⟨⟨bnd, hsound⟩, -⟩ hcrosses hstep
    rcases step_cases hsound hstep with ⟨hclear, -⟩ | ⟨-, herrors⟩
    · exact absurd hclear hcrosses
    · exact herrors
  · intro w label w' herrors hstep hnil
    obtain ⟨new, hnew⟩ := step_errors hstep
    rw [hnew] at hnil
    exact herrors (append_eq_nil_iff.mp hnil).1

def sampleOperation : NnrpServerOperation where
  operationId := 11
  frameId := 1
  header := .ofCommon { CommonHeader.new .frameSubmit 72 0 with sessionId := 7, frameId := 1 }
  metadata := (Submit.sampleRequest 11 1).metadata
  body := []

def sampleCancel : ControlRequestMetadata where
  operationId := 11
  controlSequence := 1
  reasonCode := 0
  sourceRole := 1
  flags := 0
  diagnosticBytes := 0

def resultCrossesCancelFrame : List Label :=
  [.submit (Submit.sampleRequest 11 1) 0, .serverReceives 0,
    .sendProgress sampleOperation (sampleProgress 11) [], .clientReceives,
    .sendResult sampleOperation emptyResult [] 0, .cancelFrame 1, .serverReceives 0,
    .serverReceives 0, .clientReceives, .clientReceives]

theorem no_error_iff_clear_result :
    ∃ w, run step (.opened 7 4 4 {} {}) resultCrossesCancelFrame = some w ∧ w.errors = [] ∧
      w.client.sent = [] ∧ w.server.sent = [] ∧
      (w.errors = [] ↔ Along step Clear (.opened 7 4 4 {} {}) resultCrossesCancelFrame) := by
  have h : (run step (.opened 7 4 4 {} {}) resultCrossesCancelFrame).map (fun w =>
      (w.errors, w.client.sent, w.server.sent)) = some ([], [], []) := by
    decide +kernel
  obtain ⟨w, hr, hw⟩ := map_eq_some_iff.mp h
  simp only [Prod.mk.injEq] at hw
  exact ⟨w, hr, hw.1, hw.2.1, hw.2.2, no_error_iff_clear (by decide) hr⟩

def cancelCrossesResult : List Label :=
  [.submit (Submit.sampleRequest 11 1) 0, .serverReceives 0, .control .cancel sampleCancel [],
    .sendResult sampleOperation emptyResult [] 0, .serverReceives 0, .serverReceives 0]

def progressCrossesCancelFrame : List Label :=
  [.submit (Submit.sampleRequest 11 1) 0, .serverReceives 0,
    .sendProgress sampleOperation (sampleProgress 11) [], .cancelFrame 1, .clientReceives,
    .clientReceives]

theorem crossing_is_an_error :
    (∃ w, run step (.opened 7 4 4 {} {}) cancelCrossesResult = some w ∧
      w.errors = [.unexpectedMessage "server cancel did not transition an active operation"]) ∧
    ∃ w, run step (.opened 7 4 4 {} {}) progressCrossesCancelFrame = some w ∧
      w.errors = [.unexpectedMessage "client received PROGRESS for a terminal operation"] := by
  have hcancel : (run step (.opened 7 4 4 {} {}) cancelCrossesResult).map Joint.errors =
      some [.unexpectedMessage "server cancel did not transition an active operation"] := by
    decide +kernel
  have hprog : (run step (.opened 7 4 4 {} {}) progressCrossesCancelFrame).map Joint.errors =
      some [.unexpectedMessage "client received PROGRESS for a terminal operation"] := by
    decide +kernel
  exact ⟨map_eq_some_iff.mp hcancel, map_eq_some_iff.mp hprog⟩

end Nnrp.Crossing
