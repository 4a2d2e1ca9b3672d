import Nnrp.ServerCorrelation

/-!
# The pending inputs under the specialised receives

A specialised receive passes over lifecycle events to the first other input. An input of another
kind goes back to the front of the queue: in front of the lifecycle events that it was behind, and
without a check that there is room for one that has just been read.
-/

namespace Nnrp.Server
open OrderedMap Protocol Packet Data PreSubmit List PreSubmitDeadlineReservations
open Stateful Operation LabelledRun Fallible

section
variable {s : NnrpServerSession} {ans : Answer} {input : PendingServerInput} {α β : Type}

def NnrpServerSession.mismatched (s : NnrpServerSession) (input : PendingServerInput) :
    NnrpServerSession :=
  { s with pendingInputs := input :: s.pendingInputs.eraseP (!·.isLifecycle) }

variable {select : PendingServerInput → Option α}

variable (hpending : s.pendingInputs.find? (!·.isLifecycle) = some input) {error : String}
include hpending

theorem receiveSpecialized_mismatch (hselect : select input = none) :
    call (receiveSpecialized select error ans) s =
      (.error (.unexpectedMessage error), s.mismatched input) := by
  have htake : call takePendingSpecializedInput s = (.ok (some input),
      { s with pendingInputs := s.pendingInputs.eraseP (!·.isLifecycle) }) :=
    (call_bind_read s hpending).trans rfl
  have hnext : call (nextSpecializedInput ans) s = (.ok input,
      { s with pendingInputs := s.pendingInputs.eraseP (!·.isLifecycle) }) :=
    (call_bind_ok htake).trans rfl
  rw [receiveSpecialized, call_bind_ok hnext, hselect]
  rfl

theorem receiveSpecialized_mismatch_bind {rest : α → ServerM β}
    (hselect : (select input).isSome = false) :
    call (receiveSpecialized select error ans >>= rest) s =
      (.error (.unexpectedMessage error), s.mismatched input) := by
  apply call_bind_error
  apply receiveSpecialized_mismatch hpending
  rw [← Option.not_isSome_iff_eq_none, hselect]
  decide

theorem Receive.perform_mismatch {kind : Receive} (hkind : kind.expects input = false) :
    call (kind.perform ans) s =
      (.error (.unexpectedMessage kind.error), s.mismatched input) := by
  cases kind with
  | ping | pong | cancel | runtimeControl | schedulingUpdate | pressureUpdate | close =>
    exact receiveSpecialized_mismatch_bind hpending hkind
  | patch | migrate | cachePut | cacheAck =>
    exact call_bind_error (receiveSpecialized_mismatch_bind hpending hkind)

theorem mismatched_pendingInputs_iff :
    (s.mismatched input).pendingInputs = s.pendingInputs ↔
      ∀ first ∈ s.pendingInputs.head?, first.isLifecycle = false := by
  change input :: s.pendingInputs.eraseP (!·.isLifecycle) = s.pendingInputs ↔ _
  have hkind : input.isLifecycle = false := by
    have hsel := find?_some hpending
    rwa [Bool.not_eq_true'] at hsel
  cases hinputs : s.pendingInputs with
  | nil =>
    rw [hinputs] at hpending
    cases hpending
  | cons first rest =>
    rw [hinputs] at hpending
    constructor
    · intro hsame first' hfirst
      cases hfirst
      rw [← (cons.inj hsame).1]
      exact hkind
    · intro hfirst
      have hspecial : (!first.isLifecycle) = true := by
        rw [hfirst first rfl]
        rfl
      rw [find?_cons, hspecial] at hpending
      cases hpending
      exact congrArg (_ :: ·) (eraseP_cons_of_pos hspecial)

end

/-- A specialised receive that finds a pending input of another kind fails with its own error and
changes nothing but the pending inputs; these stay as they are exactly if no lifecycle event is
their first. -/
theorem mismatch_keeps_inputs_iff (s : NnrpServerSession) (kind : Receive) (answer : Answer)
    (input : PendingServerInput) (hpending : s.pendingInputs.find? (!·.isLifecycle) = some input)
    (hkind : kind.expects input = false) :
    (call (kind.perform answer) s).1 = .error (.unexpectedMessage kind.error) ∧
      (call (kind.perform answer) s).2 =
        { s with pendingInputs := (call (kind.perform answer) s).2.pendingInputs } ∧
      ((call (kind.perform answer) s).2.pendingInputs = s.pendingInputs ↔
        ∀ first ∈ s.pendingInputs.head?, first.isLifecycle = false) := by
  rw [Receive.perform_mismatch hpending hkind]
  exact ⟨rfl, rfl, mismatched_pendingInputs_iff hpending⟩

def emptyPacket (messageType : MessageType) (frameId : UInt32) : RuntimePacket :=
  .bare messageType 7 frameId

def endedNotice : PendingServerInput := .event (.lifecycle ⟨11, .cancelled⟩)

def pingAmong (before after : List PendingServerInput) : NnrpServerSession :=
  { sampleSession with
    pendingInputs := before ++ .rolePacket (emptyPacket .ping 0) :: after }

theorem first_ping_keeps_inputs :
    (call (receivePong (arrival (emptyPacket .pong 0)))
        (pingAmong [] [endedNotice, .rolePacket (emptyPacket .pong 0)])).2.pendingInputs =
      [.rolePacket (emptyPacket .ping 0), endedNotice, .rolePacket (emptyPacket .pong 0)] := by
  refine (mismatch_keeps_inputs_iff (pingAmong [] [endedNotice, .rolePacket (emptyPacket .pong 0)])
    .pong _ (.rolePacket (emptyPacket .ping 0)) rfl rfl).2.2.mpr fun first hfirst => ?_
  cases hfirst
  rfl

theorem ping_overtakes_lifecycle_event :
    (call (receivePong (arrival (emptyPacket .pong 0))) (pingAmong [endedNotice] [])).1 =
        .error (.unexpectedMessage "server expected PONG") ∧
      (pingAmong [endedNotice] []).pendingInputs =
        [endedNotice, .rolePacket (emptyPacket .ping 0)] ∧
      (call (receivePong (arrival (emptyPacket .pong 0)))
          (pingAmong [endedNotice] [])).2.pendingInputs =
        [.rolePacket (emptyPacket .ping 0), endedNotice] := by
  decide +kernel

/-- A specialised receive that has to read finds room for what it reads, unless that is for it. -/
def Call.Fits (s : NnrpServerSession) : Call → Prop
  | .receive kind answer => (∃ input ∈ s.pendingInputs, input.isLifecycle = false) ∨
      ∀ packet ∈ answer.input.toOption, kind.accepts packet.messageType = true ∨
        s.pendingInputs.length + queuedFor s packet < maxPendingServerInputs
  | _ => True

section
variable {s s' t : NnrpServerSession} {p : RuntimePacket} {input : PendingServerInput}
  {out : Option NnrpServerEvent} {inputs inputs' : List PendingServerInput} {c : Call}

theorem Queued.length_le (h : Queued inputs out inputs') : inputs'.length ≤ inputs.length := by
  cases h with
  | same => exact le_refl _
  | handed event rest => exact Nat.le_succ _
  | taken => simp
  | moved =>
    simp only [length_cons, length_append]
    omega

section
variable (hs : s.pendingInputs.length ≤ maxPendingServerInputs)
include hs

theorem Sent.length_le {loses : Prop} (h : Sent s loses s') :
    s'.pendingInputs.length ≤ maxPendingServerInputs := by
  cases h with
  | same hkept hcore | lost hlost held hact hcore =>
    rw [pendingInputs_of_core hcore]
    exact hs
  | ended hkept hending hcore =>
    rw [pendingInputs_of_core hcore]
    change (s.pendingInputs ++ [_]).length ≤ _
    rw [length_append]
    exact hending.room

theorem Decoded.length_le {event : NnrpServerEvent} (h : Decoded s p event t) :
    t.pendingInputs.length ≤ maxPendingServerInputs := by
  cases h with
  | ended hevent htype hending =>
    change (s.pendingInputs ++ [_]).length ≤ _
    rw [length_append]
    exact hending.room
  | read | submitted | scheduled | reserved | pressured | closing => exact hs

theorem Read.length_le (h : Read s p input t) :
    t.pendingInputs.length ≤ maxPendingServerInputs := by
  cases h with
  | role => exact hs
  | event hdecd => exact hdecd.length_le hs

end

theorem Read.expected (h : Read s p input t) {kind : Receive}
    (haccepts : kind.accepts p.messageType = true) : kind.expects input = true := by
  cases h with
  | event hdecd hexp hqueued hsubmit => exact hexp kind haccepts
  | role hrole =>
    rw [Receive.forRole_of_accepts haccepts] at hrole
    cases kind with
    | ping | pong | patch | migrate | cachePut | cacheAck =>
      simp [Receive.expects, PendingServerInput.packet, of_decide_eq_true haccepts]
    | cancel | runtimeControl | schedulingUpdate | pressureUpdate | close => cases hrole

theorem Placed.length_le
    (h : Placed s c inputs input out inputs') (hinputs : inputs.length ≤ maxPendingServerInputs)
    (hfront : ∀ kind answer, c = .receive kind answer → kind.expects input = false →
      (∀ earlier ∈ s.pendingInputs, earlier.isLifecycle = true) →
      inputs.length < maxPendingServerInputs) : inputs'.length ≤ maxPendingServerInputs := by
  cases h with
  | handed | released => exact hinputs
  | retained _ hroom =>
    rw [length_append]
    exact hroom
  | fronted hc hexpects hpending => exact hfront _ _ hc hexpects hpending

theorem Moved.length_le (h : Moved s c out s') (hfits : c.Fits s)
    (hs : s.pendingInputs.length ≤ maxPendingServerInputs) :
    s'.pendingInputs.length ≤ maxPendingServerInputs := by
  cases h with
  | sent hc hout hsent => exact hsent.length_le hs
  | queued hsend hbinds hqueued => exact hqueued.length_le.trans hs
  | refused hpkt hout href hcore =>
    rw [pendingInputs_of_core hcore]
    cases href with
    | same | released => exact hs
  | read hpkt hread hbinds hplaced =>
    apply hplaced.length_le (hread.length_le hs)
    intro kind answer hc hexpects hpending
    subst hc
    rcases hfits with ⟨input, hinput, hspecial⟩ | hroom
    · rw [hpending input hinput] at hspecial
      cases hspecial
    · rcases hroom _ hpkt with haccepts | hroom
      · rw [hread.expected haccepts] at hexpects
        cases hexpects
      · rw [hread.queued]
        exact hroom

end

/-- The queue holds at most 1024 inputs in every state of a run in which the specialised receives
find room for what they read. -/
theorem pending_inputs_bounded {start : NnrpServerSession} {calls : List Call}
    (hopened : Opened start)
    (hcalls : Along NnrpServerSession.step (fun s c => c.Fits s) start calls) :
    (start.after calls).pendingInputs.length ≤ maxPendingServerInputs := by
  have hstart : start.pendingInputs.length ≤ maxPendingServerInputs := by
    rw [hopened.pendingInputs]
    exact Nat.zero_le _
  have hkept := run_invariant
    (fun s => Correlated s ∧ s.pendingInputs.length ≤ maxPendingServerInputs) ?_
    ⟨.opened hopened, hstart⟩ hcalls (run_after start calls)
  · exact hkept.2
  · intro s c s' hs hfits hstep
    have hmoved := step_moved hs.1 hstep
    exact ⟨hs.1.moved hmoved, hmoved.length_le hfits hs.2⟩

instance (s : NnrpServerSession) : (c : Call) → Decidable (c.Fits s)
  | .receive _ answer => inferInstanceAs (Decidable ((∃ input ∈ s.pendingInputs, _) ∨
      ∀ packet ∈ answer.input.toOption, _))
  | .awaitEvent _ | .searchSubmit | .submitRound _ | .trackCacheObject _ | .send _ _ =>
    .isTrue trivial

def round (n : ℕ) : List Call :=
  [.submitRound (arrival (submitPacket (UInt64.ofNat n) (UInt32.ofNat n))),
    .receive .cancel (arrival (emptyPacket .frameCancel (UInt32.ofNat n)))]

def rounds : ℕ → List Call
  | 0 => []
  | n + 1 => rounds n ++ round (n + 1)

theorem two_rounds_bounded : (sampleSession.after (rounds 2)).pendingInputs.length = 2 ∧
      (sampleSession.after (rounds 2)).pendingInputs.length ≤ maxPendingServerInputs := by
  refine ⟨by decide +kernel, pending_inputs_bounded sampleSession_opened ?_⟩
  decide +kernel

structure AfterRounds (n : ℕ) (s : NnrpServerSession) : Prop where
  correlated : Correlated s
  session : s.sessionId = 7
  unreserved : s.preSubmitDeadlines = .new 4
  notices : ∀ input ∈ s.pendingInputs, input.isLifecycle = true
  length : s.pendingInputs.length = n
  bound : ∀ (operationId : UInt64) frameId, s.operationFrames[operationId]? = some frameId →
    operationId.toNat ≤ n ∧ frameId.toNat ≤ n

variable {n : ℕ} {s t : NnrpServerSession} {pkt : RuntimePacket} {now : UInt64} {id : UInt64}
  {fid : UInt32}

theorem readNextInput_event {ev : NnrpServerEvent}
    (hunexpired : s.preSubmitDeadlines.rejectExpired now = .ok ())
    (hrole : isDedicatedRoleMessage pkt.messageType = false)
    (hdec : call (decodeServerEvent pkt now) s = (.ok ev, t)) :
    call (readNextInput (.ok pkt) now) s = (.ok (.event ev), t) := by
  rw [readNextInput, Stateful.lift_ok_bind, call_bind_check s hunexpired, hrole]
  exact call_bind_ok hdec

theorem rejectExpired_new {limit : UInt16} : (new limit).rejectExpired now = .ok () := by
  simp [rejectExpired, new, values]

variable {r : OperationRecord}

theorem readCancel_call (fid : UInt32) (hs : Correlated s)
    (hsess : s.sessionId = 7) (hunexpired : s.preSubmitDeadlines.rejectExpired 0 = .ok ())
    (hbound : s.frameOperations[fid]? = some id) (held : s.operations.operations[id]? = some r)
    (hact : r.state.isTerminal = false) (hroom : s.pendingInputs.length < maxPendingServerInputs) :
    call (readNextInput (.ok (emptyPacket .frameCancel fid)) 0) s =
      (.ok (.event (.frameCancel fid)), s.ended id r .cancelled) := by
  obtain ⟨hnz, hdesc⟩ := hs.record id r held
  have hdec : call (decodeFrameCancel (emptyPacket .frameCancel fid)) s = _ :=
    decodeFrameCancel_of hsess.symm ⟨rfl, rfl⟩ hbound hnz held
      (congrArg (·.sessionId) hdesc) hroom
  rw [hact, if_neg (by decide)] at hdec
  exact readNextInput_event hunexpired rfl hdec

theorem submitPacket_parse (hnz : id ≠ 0) (fid : UInt32) :
    FrameSubmitMetadata.parse (submitPacket id fid).metadata =
        .ok (Submit.sampleRequest id fid).metadata ∧
      (submitPacket id fid).metadata.length = frameSubmitMetadataLen := by
  have hshape : (Submit.sampleRequest id fid).metadata.validatePayloadShape =
      .ok () := by
    simp [FrameSubmitMetadata.validatePayloadShape, Submit.sampleRequest, hnz]
  have hbudget : validateMaskU8 0 budgetPolicyKnownMask = .ok () := by decide
  have hkinds : validateMaskU32 0 payloadKindKnownMask = .ok () := by decide
  obtain ⟨bytes, hbytes⟩ : ∃ bytes,
      (Submit.sampleRequest id fid).metadata.toBytes = .ok bytes :=
    bytesOf_of_valid (bind_eq_ok.mpr ⟨_, hbudget, bind_eq_ok.mpr ⟨_, hkinds, hshape⟩⟩)
  have hmeta : (submitPacket id fid).metadata = bytes := by
    rw [submitPacket, hbytes]
    rfl
  rw [hmeta]
  exact ⟨FrameSubmitMetadata.codec.parses hbytes, FrameSubmitMetadata.codec.length hbytes⟩

theorem AfterRounds.admits (h : AfterRounds n s) (hop : id.toNat = n + 1)
    (hframe : fid.toNat = n + 1) : Admits s (submitPacket id fid) 0
      (Submit.sampleRequest id fid).metadata := by
  have hnz : id ≠ 0 := by
    intro hzero
    rw [hzero] at hop
    exact absurd hop.symm (Nat.succ_ne_zero n)
  have hunbound : s.operationFrames[id]? = none := by
    by_contra hbound
    obtain ⟨frame, hbound⟩ := Option.ne_none_iff_exists'.mp hbound
    have hle := (h.bound id frame hbound).1
    omega
  obtain ⟨hparse, hlen⟩ := submitPacket_parse hnz fid
  constructor
  · rfl
  · exact h.session.symm
  · exact hlen
  · exact hparse
  · intro hmem
    obtain ⟨bound, hbound⟩ := mem_iff_get.mp hmem
    have hle := (h.bound bound fid ((h.correlated.inverse _ _).mp hbound)).2
    omega
  · rw [h.unreserved]
    refine ⟨rejectExpired_new, .inr ?_⟩
    simp [new]
  · exact hnz
  · exact h.correlated.unregistered_of_unbound hunbound

theorem AfterRounds.submit (h : AfterRounds n s) (hop : id.toNat = n + 1)
    (hframe : fid.toNat = n + 1) :
    ∃ sched, (call (submitRound (arrival (submitPacket id fid))) s).2 =
      s.submitted id fid sched s.preSubmitDeadlines := by
  have hadmits := h.admits hop hframe
  have hhandles : Ensures (handleFrameSubmitPacket (submitPacket id fid) 0) s _ _ :=
    handleFrameSubmitPacket_ensures h.correlated
  rcases hhandles.cases with ⟨ev, t, hcall, hsubm⟩ | ⟨e, t, hcall, href⟩
  · have hdec : call (decodeServerEvent (submitPacket id fid) 0) s =
        (.ok ev, t) := hcall
    have hread := readNextInput_event hadmits.lets.1 rfl hdec
    obtain ⟨hadmits', htaken⟩ := hsubm
    have hself := Except.ok.inj (hadmits'.parse.symm.trans hadmits.parse)
    subst hself
    have hround : call (submitRound (arrival (submitPacket id fid))) s = _ :=
      call_bind_ok hread
    rw [hround]
    cases htaken with
    | free => exact ⟨_, rfl⟩
    | matched hheld =>
      rw [h.unreserved] at hheld
      simp [new] at hheld
  · exact absurd hadmits (href.2 _)

theorem receiveCancel_call (fid : UInt32) (hs : Correlated s)
    (hsess : s.sessionId = 7) (hunexpired : s.preSubmitDeadlines.rejectExpired 0 = .ok ())
    (hnotices : ∀ input ∈ s.pendingInputs, input.isLifecycle = true)
    (hbound : s.frameOperations[fid]? = some id) (held : s.operations.operations[id]? = some r)
    (hact : r.state.isTerminal = false) (hroom : s.pendingInputs.length < maxPendingServerInputs) :
    (call (Receive.cancel.perform (arrival (emptyPacket .frameCancel fid))) s).2 =
      s.ended id r .cancelled := by
  have hread := readCancel_call fid hs hsess hunexpired hbound held hact hroom
  have hnext : call (nextSpecializedInput (arrival (emptyPacket .frameCancel fid))) s = _ :=
    (call_bind_ok (takePendingSpecializedInput_none hnotices)).trans hread
  have hreceive : call (receiveCancel (arrival (emptyPacket .frameCancel fid))) s = _ :=
    call_bind_ok hnext
  rw [Receive.perform, call_bind_ok hreceive]
  rfl

theorem AfterRounds.after_submit (h : AfterRounds n s) (hop : id.toNat = n + 1)
    (hframe : fid.toNat = n + 1) :
    ∃ sched, s.after [.submitRound (arrival (submitPacket id fid))] =
      s.submitted id fid sched s.preSubmitDeadlines := by
  obtain ⟨sched, hsubmit⟩ := h.submit hop hframe
  exact ⟨sched, (congrArg Prod.snd call_bind_pure).trans hsubmit⟩

theorem AfterRounds.next (h : AfterRounds n s) (hn : n < maxPendingServerInputs) :
    AfterRounds (n + 1) (s.after (round (n + 1))) := by
  have hlt : n + 1 < 2 ^ 32 := by
    have hmax : maxPendingServerInputs < 2 ^ 32 - 1 := by decide
    omega
  have hop : (UInt64.ofNat (n + 1)).toNat = n + 1 := by
    rw [UInt64.toNat_ofNat']
    omega
  have hframe : (UInt32.ofNat (n + 1)).toNat = n + 1 := by
    rw [UInt32.toNat_ofNat']
    omega
  obtain ⟨sched, hfirst⟩ := h.after_submit hop hframe
  have hsubm := correlated_after h.correlated
    [.submitRound (arrival (submitPacket (UInt64.ofNat (n + 1)) (UInt32.ofNat (n + 1))))]
  rw [hfirst] at hsubm
  have hcancel := receiveCancel_call (UInt32.ofNat (n + 1)) hsubm h.session
    (h.unreserved ▸ rejectExpired_new) h.notices (get_insert.trans (if_pos rfl))
    (s.operations.set_get_self _ _) rfl (h.length ▸ hn)
  have hafter : s.after (round (n + 1)) = _ :=
    (congrArg (NnrpServerSession.after · [_]) hfirst).trans
      ((congrArg Prod.snd call_bind_pure).trans hcancel)
  refine ⟨correlated_after h.correlated _, ?_, ?_, ?_, ?_, ?_⟩
  all_goals rw [hafter]
  · exact h.session
  · exact h.unreserved
  · exact forall_mem_append.mpr ⟨h.notices, forall_mem_singleton.mpr rfl⟩
  · change (s.pendingInputs ++ [_]).length = n + 1
    rw [length_append, h.length]
    rfl
  · intro id fid hbound
    change (s.operationFrames.insert _ _)[id]? = some fid at hbound
    rw [get_insert] at hbound
    split_ifs at hbound with hself
    · cases hbound
      rw [← hself, hop, hframe]
      exact ⟨le_refl _, le_refl _⟩
    · obtain ⟨hleft, hright⟩ := h.bound id fid hbound
      exact ⟨Nat.le_succ_of_le hleft, Nat.le_succ_of_le hright⟩

theorem afterRounds : ∀ n, n ≤ maxPendingServerInputs →
    AfterRounds n (sampleSession.after (rounds n)) := by
  intro n
  induction n with
  | zero =>
    intro _
    refine ⟨.opened sampleSession_opened, rfl, rfl, ?_, rfl, ?_⟩
    · intro input hinput
      cases hinput
    · intro id fid hbound
      change (∅ : BTreeMap UInt64 UInt32)[id]? = some fid at hbound
      simp at hbound
  | succ n ih =>
    intro hn
    rw [rounds, after_append]
    exact (ih (Nat.le_of_succ_le hn)).next hn

def unexpectedPong : Call := .receive .ping (arrival (emptyPacket .pong 0))

theorem AfterRounds.grows (h : AfterRounds n s) :
    (s.after [unexpectedPong]).pendingInputs.length = n + 1 := by
  have hread : call (readNextInput (.ok (emptyPacket .pong 0)) 0) s =
      (.ok (.rolePacket (emptyPacket .pong 0)), s) := by
    rw [readNextInput, Stateful.lift_ok_bind,
      call_bind_check s (h.unreserved ▸ rejectExpired_new)]
    rfl
  have hnext : call (nextSpecializedInput (arrival (emptyPacket .pong 0))) s = _ :=
    (call_bind_ok (takePendingSpecializedInput_none h.notices)).trans hread
  have hreceive : call (receivePing (arrival (emptyPacket .pong 0))) s =
      (.error (.unexpectedMessage "server expected PING"),
        s.pushFront (.rolePacket (emptyPacket .pong 0))) :=
    call_bind_error (call_bind_ok hnext)
  have hafter : s.after [unexpectedPong] = s.pushFront (.rolePacket (emptyPacket .pong 0)) :=
    congrArg Prod.snd (call_bind_error hreceive)
  rw [hafter, ← h.length]
  rfl

/-- After 1024 operations have ended, a receive reads a packet that is not for it. -/
theorem full_queue_grows : Opened sampleSession ∧
    (sampleSession.after (rounds maxPendingServerInputs ++ [unexpectedPong])).pendingInputs.length =
      maxPendingServerInputs + 1 := by
  refine ⟨sampleSession_opened, ?_⟩
  rw [after_append]
  exact (afterRounds maxPendingServerInputs (le_refl _)).grows

end Nnrp.Server
