import Nnrp.PendingQueue
import Nnrp.TerminalEvents

/-!
# What `receive_submit` reads

While it waits for a submit, `receive_submit` retains every other input that it reads. When there is
no room for an input it is gone, although the packet has been decoded and its effects stay.
-/

namespace Nnrp.Server
open OrderedMap Packet Stateful RuntimeEvent Operation LabelledRun List PendingServerInput

variable (s : NnrpServerSession) (answer : Answer) {op : NnrpServerOperation}

def waitStep : Option NnrpServerSession :=
  match call (submitRound answer) s with
  | (.ok none, s') => some s'
  | _ => none

def Decodes : Prop :=
  (call (readNextInput answer.input answer.nowUnixMs) s).1.toOption.isSome = true

/-- For a packet that is decoded, other than a submit, there is room, also for the event that it
queues. -/
def HasRoom : Prop :=
  Decodes s answer → ∀ packet ∈ answer.input.toOption, packet.messageType = .frameSubmit ∨
    s.pendingInputs.length + queuedFor s packet < maxPendingServerInputs

instance (s : NnrpServerSession) (answer : Answer) : Decidable (HasRoom s answer) :=
  inferInstanceAs (Decidable ((_ : Bool) = true → ∀ packet ∈ answer.input.toOption, _))

def roundInputs : List Answer → NnrpServerSession → List PendingServerInput
  | [], _ => []
  | answer :: answers, s =>
    (call (readNextInput answer.input answer.nowUnixMs) s).1.toOption.toList ++
      (waitStep s answer).elim [] (roundInputs answers)

/-- No submit is pending, and no close either. -/
def Waits (s : NnrpServerSession) : Prop :=
  s.pendingInputs.findSome? submit = none

instance (s : NnrpServerSession) : Decidable (Waits s) :=
  inferInstanceAs (Decidable (_ = none))

def inputsRead (s : NnrpServerSession) (answers : List Answer) : List PendingServerInput :=
  if Waits s then roundInputs answers s else []

def returned : Except RuntimeError (Option NnrpServerOperation) → List PendingServerInput
  | .ok (some operation) => [.event (.submit operation)]
  | _ => []

def others (inputs : List PendingServerInput) : List PendingServerInput :=
  inputs.filter (!·.isLifecycle)

def Kept (s : NnrpServerSession) (read : List PendingServerInput)
    (outcome : Except RuntimeError (Option NnrpServerOperation) × NnrpServerSession) : Prop :=
  (returned outcome.1 ++ others outcome.2.pendingInputs).Perm
    (others s.pendingInputs ++ read)

section
variable {s t : NnrpServerSession} {answer : Answer} {p : RuntimePacket}
  {input : PendingServerInput}

theorem others_push (h : input.isLifecycle = false) :
    others (t.pushInput input).pendingInputs = others t.pendingInputs ++ [input] := by
  change (t.pendingInputs ++ [input]).filter _ = _
  rw [filter_append, filter_singleton, h]
  rfl

theorem others_notice {inputs : List PendingServerInput} {ev : OperationLifecycleEvent} :
    others (inputs ++ [.event (.lifecycle ev)]) = others inputs := by
  rw [others, filter_append]
  exact append_nil _

theorem NnrpServerEvent.Plain.isLifecycle {ev : NnrpServerEvent} (h : ev.Plain) :
    (PendingServerInput.event ev).isLifecycle = false := by
  cases ev with
  | lifecycle => exact h.elim
  | _ => rfl

theorem Read.others (h : Read s p input t) :
    others t.pendingInputs = others s.pendingInputs ∧ input.isLifecycle = false := by
  cases h with
  | role => exact ⟨rfl, rfl⟩
  | event hdecd =>
    cases hdecd with
    | ended hevent htype hending => exact ⟨others_notice, hevent.isLifecycle⟩
    | submitted | closing => exact ⟨rfl, rfl⟩
    | read hevent | scheduled hevent | reserved hevent | pressured hevent =>
      exact ⟨rfl, hevent.isLifecycle⟩

theorem Read.submit_iff (h : Read s p input t) :
    (∃ op, input = .event (.submit op)) ↔ p.messageType = .frameSubmit := by
  cases h with
  | event hdecd hexp hqueued hsubmit => simpa using hsubmit
  | role hrole =>
    refine iff_of_false ?_ ?_
    · simp
    · intro htype
      rw [htype] at hrole
      cases hrole

inductive Round (packet : RuntimePacket) (input : PendingServerInput) (t : NnrpServerSession) :
    Except RuntimeError (Option NnrpServerOperation) × NnrpServerSession → Prop
  | taken {operation : NnrpServerOperation} (hinput : input = .event (.submit operation))
      (htype : packet.messageType = .frameSubmit) : Round packet input t (.ok (some operation), t)
  | retained (hroom : t.pendingInputs.length < maxPendingServerInputs) :
      Round packet input t (.ok none, t.pushInput input)
  | closed {e : RuntimeError} (hroom : t.pendingInputs.length < maxPendingServerInputs) :
      Round packet input t (.error e, t.pushInput input)
  | dropped {e : RuntimeError} (htype : packet.messageType ≠ .frameSubmit)
      (hfull : ¬t.pendingInputs.length < maxPendingServerInputs) :
      Round packet input t (.error e, t)

theorem retain_round {x : Except RuntimeError (Option NnrpServerOperation)}
    {m : ServerM (Option NnrpServerOperation)} (hm : ∀ s, call m s = (x, s))
    (hretained : t.pendingInputs.length < maxPendingServerInputs →
      Round p input t (x, t.pushInput input)) (htype : p.messageType ≠ .frameSubmit) :
    Round p input t (call (retainPendingInput input >>= fun _ => m) t) := by
  have hretain : Ensures (retainPendingInput input) t _ _ := retainPendingInput_ensures
  rcases hretain.cases with ⟨_, t', hcall, hroom, rfl⟩ | ⟨e, t', hcall, hfull, rfl⟩
  · rw [call_bind_ok hcall, hm]
    exact hretained hroom
  · rw [call_bind_error hcall]
    exact .dropped htype hfull

theorem submitRound_round (h : Read s p input t)
    (hread : call (readNextInput answer.input answer.nowUnixMs) s = (.ok input, t)) :
    Round p input t (call (submitRound answer) s) := by
  have hother (hinput : ∀ op, input ≠ .event (.submit op)) :
      p.messageType ≠ .frameSubmit := by
    intro htype
    obtain ⟨op, hsubmit⟩ := h.submit_iff.mpr htype
    exact hinput op hsubmit
  rw [submitRound, call_bind_ok hread]
  split
  · exact .taken rfl (h.submit_iff.mp ⟨_, rfl⟩)
  · refine retain_round (fun _ => rfl) .closed (hother fun op hinput => ?_)
    cases hinput
  · rename_i hinput _
    exact retain_round (fun _ => rfl) .retained (hother hinput)

end

section
variable {s s' t : NnrpServerSession} {answer : Answer} {anss : List Answer}
  {p : RuntimePacket} {input : PendingServerInput} {e : RuntimeError}

theorem waitStep_go (h : call (submitRound answer) s = (.ok none, s')) :
    waitStep s answer = some s' := by
  rw [waitStep, h]

theorem waitStep_error (h : call (submitRound answer) s = (.error e, s')) :
    waitStep s answer = none := by
  rw [waitStep, h]

theorem waitStep_submit
    (h : call (submitRound answer) s = (.ok (some op), s')) : waitStep s answer = none := by
  rw [waitStep, h]

variable {P : NnrpServerSession → Answer → Prop}

theorem along_last (h : waitStep s answer = none) :
    Along waitStep P s (answer :: anss) ↔ P s answer := by
  rw [Along, h]
  exact and_iff_left fun s' hs' => nomatch hs'

theorem along_go (h : waitStep s answer = some s') :
    Along waitStep P s (answer :: anss) ↔ P s answer ∧ Along waitStep P s' anss := by
  rw [Along, h]
  simp

theorem roundInputs_last {x : Except RuntimeError PendingServerInput}
    (hread : call (readNextInput answer.input answer.nowUnixMs) s = (x, t))
    (h : waitStep s answer = none) : roundInputs (answer :: anss) s = x.toOption.toList := by
  rw [roundInputs, hread, h]
  exact append_nil _

theorem roundInputs_go
    (hread : call (readNextInput answer.input answer.nowUnixMs) s = (.ok input, t))
    (h : waitStep s answer = some s') :
    roundInputs (answer :: anss) s = input :: roundInputs anss s' := by
  rw [roundInputs, hread, h]
  rfl

theorem Read.hasRoom_iff (h : Read s p input t) (hinput : answer.input = .ok p)
    (hread : call (readNextInput answer.input answer.nowUnixMs) s = (.ok input, t)) :
    HasRoom s answer ↔ p.messageType = .frameSubmit ∨
      t.pendingInputs.length < maxPendingServerInputs := by
  have hdecodes : Decodes s answer := by
    rw [Decodes, hread]
    rfl
  rw [HasRoom, hinput, h.queued]
  constructor
  · intro hroom
    exact hroom hdecodes p rfl
  · intro hroom _ p' hpkt
    cases hpkt
    exact hroom

theorem Unread.others (h : Unread s answer t) :
    Server.others t.pendingInputs = Server.others s.pendingInputs := by
  cases h with
  | same => rfl
  | refused hinput href =>
    cases href with
    | same | released => rfl

theorem not_kept_of_dropped (h : Read s p input t) : ¬Kept s [input] (.error e, t) := by
  intro hkept
  have hlen := hkept.length_eq
  rw [h.others.1] at hlen
  simp [returned] at hlen

theorem awaitSubmit_kept_iff (hs : Correlated s) (anss : List Answer) :
    Kept s (roundInputs anss s) (call (awaitSubmit anss) s) ↔
      Along waitStep HasRoom s anss := by
  induction anss generalizing s with
  | nil => exact iff_of_true (List.Perm.of_eq (append_nil _).symm) trivial
  | cons answer anss ih =>
    have hreads : Ensures (readNextInput answer.input answer.nowUnixMs) s _ _ :=
      readNextInput_reads hs
    rcases hreads.cases with
      ⟨input, t, hcall, p, hinput, hread⟩ | ⟨e, t, hcall, hunread⟩
    · have hroom := hread.hasRoom_iff hinput hcall
      have hround := submitRound_round hread hcall
      obtain ⟨hothers, hnotice⟩ := hread.others
      generalize houtcome : call (submitRound answer) s = outcome at hround
      cases hround with
      | taken hsubmit htype =>
        have hlast := waitStep_submit houtcome
        rw [along_last hlast, roundInputs_last hcall hlast, awaitSubmit, call_bind_ok houtcome]
        refine iff_of_true ?_ (hroom.mpr (.inl htype))
        subst hsubmit
        change ([_] ++ others t.pendingInputs).Perm _
        rw [hothers]
        exact perm_append_comm
      | retained hfits =>
        have hgo := waitStep_go houtcome
        have hnext : Correlated (t.pushInput input) := (hs.read hread).of_bindings rfl
        rw [along_go hgo, roundInputs_go hcall hgo, awaitSubmit, call_bind_ok houtcome,
          and_iff_right (hroom.mpr (.inr hfits)), ← ih hnext]
        rw [Kept, Kept, others_push hnotice, hothers, append_assoc]
        exact Iff.rfl
      | closed hfits =>
        have hlast := waitStep_error houtcome
        rw [along_last hlast, roundInputs_last hcall hlast, awaitSubmit, call_bind_error houtcome]
        refine iff_of_true (List.Perm.of_eq ?_) (hroom.mpr (.inr hfits))
        change others (t.pushInput input).pendingInputs = _
        rw [others_push hnotice, hothers]
        rfl
      | dropped htype hfull =>
        have hlast := waitStep_error houtcome
        rw [along_last hlast, roundInputs_last hcall hlast, awaitSubmit, call_bind_error houtcome]
        exact iff_of_false (not_kept_of_dropped hread) fun h => (hroom.mp h).elim htype hfull
    · have hround : call (submitRound answer) s = (.error e, t) := call_bind_error hcall
      have hlast := waitStep_error hround
      rw [along_last hlast, roundInputs_last hcall hlast, awaitSubmit, call_bind_error hround]
      refine iff_of_true (List.Perm.of_eq ?_) fun hdecodes => ?_
      · change others t.pendingInputs = _
        rw [hunread.others]
        exact (append_nil _).symm
      · rw [Decodes, hcall] at hdecodes
        cases hdecodes

end

section
variable {s : NnrpServerSession} {answers : List Answer}

theorem searchSubmit_waits (h : Waits s) : call searchSubmit s = (.ok none, s) := by
  have hnone : s.pendingInputs.findSome? submit = none := h
  exact (call_bind_read s hnone).trans rfl

theorem PendingServerInput.submit_eq_ok {input : PendingServerInput}
    (h : input.submit = some (.ok op)) :
    input = .event (.submit op) := by
  unfold submit at h
  split at h
  · cases h
    rfl
  · cases h
  · cases h

theorem receiveSubmit_found (h : ¬Waits s) : Kept s [] (call (receiveSubmit answers) s) := by
  obtain ⟨found, hfound⟩ : ∃ found, s.pendingInputs.findSome? submit = some found :=
    Option.ne_none_iff_exists'.mp h
  have hsame : (others s.pendingInputs).Perm (others s.pendingInputs ++ []) :=
    List.Perm.of_eq (append_nil _).symm
  cases found with
  | error e =>
    have hsearch : call searchSubmit s = (.error e, s) :=
      (call_bind_read s hfound).trans rfl
    rw [receiveSubmit, call_bind_error hsearch]
    exact hsame
  | ok op =>
    obtain ⟨before, input, after, hinputs, hinput, hbefore⟩ := findSome?_eq_some_iff.mp hfound
    have herase : s.pendingInputs.eraseP (·.submit.isSome) = before ++ after := by
      rw [hinputs]
      apply eraseP_append_cons
      · rw [hinput]
        rfl
      · intro earlier hearlier
        rw [hbefore earlier hearlier]
        rfl
    have hsearch : call searchSubmit s =
        (.ok (some op), { s with pendingInputs := before ++ after }) := by
      rw [← herase]
      exact (call_bind_read s hfound).trans rfl
    have hself := submit_eq_ok hinput
    subst hself
    rw [receiveSubmit, call_bind_ok hsearch]
    refine List.Perm.trans ?_ hsame
    change (.event (.submit op) :: others (before ++ after)).Perm _
    rw [hinputs, others, others, filter_append, filter_append]
    exact perm_middle.symm

end

/-- `receive_submit` keeps every input that it reads exactly if each one that is no submit finds
room in the queue. -/
theorem receiveSubmit_kept_iff {s : NnrpServerSession} (hs : Reachable s) (answers : List Answer) :
    Kept s (inputsRead s answers) (call (receiveSubmit answers) s) ↔
      (Waits s → Along waitStep HasRoom s answers) := by
  rw [inputsRead]
  by_cases hwaits : Waits s
  · rw [if_pos hwaits, receiveSubmit, call_bind_ok (searchSubmit_waits hwaits),
      awaitSubmit_kept_iff hs.correlated, forall_prop_of_true hwaits]
  · rw [if_neg hwaits]
    exact iff_of_true (receiveSubmit_found hwaits) fun h => absurd h hwaits

def pingThenSubmit : List Answer := [arrival (emptyPacket .ping 0), arrival (submitPacket 5 1)]

theorem ping_before_submit_kept :
    inputsRead sampleSession pingThenSubmit = [.rolePacket (emptyPacket .ping 0),
        .event (.submit ⟨5, 1, .ofCommon (submitPacket 5 1).header,
          (Submit.sampleRequest 5 1).metadata, []⟩)] ∧
      Kept sampleSession (inputsRead sampleSession pingThenSubmit)
        (call (receiveSubmit pingThenSubmit) sampleSession) := by
  have hroom : Along waitStep HasRoom sampleSession pingThenSubmit := by decide +kernel
  refine ⟨by decide +kernel, ?_⟩
  exact (receiveSubmit_kept_iff ⟨_, [], sampleSession_opened, rfl⟩ _).mpr fun _ => hroom

def cancelPacket (frameId : UInt32) : RuntimePacket := emptyPacket .frameCancel frameId

variable {n : ℕ} {s t : NnrpServerSession} {id : UInt64} {fid : UInt32}

theorem waits_of_notices (h : ∀ input ∈ s.pendingInputs, input.isLifecycle = true) : Waits s := by
  rw [Waits, findSome?_eq_none_iff]
  intro input hinput
  have hnotice := h input hinput
  unfold isLifecycle at hnotice
  split at hnotice
  · rfl
  · cases hnotice

theorem receiveSubmit_drops (hwaits : Waits s)
    (hread : call (readNextInput (.ok (cancelPacket fid)) 0) s =
      (.ok (.event (.frameCancel fid)), t))
    (hfull : ¬t.pendingInputs.length < maxPendingServerInputs) :
    call (receiveSubmit [arrival (cancelPacket fid)]) s =
      (.error (.unexpectedMessage "server session exceeded the pending input limit"), t) := by
  have hcap : call (check (·.ensurePendingCapacity) : ServerM Unit) t =
      (.error (.unexpectedMessage "server session exceeded the pending input limit"), t) := by
    rw [call_check, NnrpServerSession.ensurePendingCapacity, if_pos (Nat.le_of_not_lt hfull)]
  have hretain : call (retainPendingInput (.event (.frameCancel fid))) t = _ :=
    call_bind_error hcap
  have hround : call (submitRound (arrival (cancelPacket fid))) s = _ :=
    (call_bind_ok hread).trans (call_bind_error hretain)
  rw [receiveSubmit, call_bind_ok (searchSubmit_waits hwaits)]
  exact call_bind_error hround

structure Lost (s : NnrpServerSession) (operationId : UInt64) (frameId : UInt32) : Prop where
  decoded : (call (readNextInput (.ok (cancelPacket frameId)) 0) s).1 =
    .ok (.event (.frameCancel frameId))
  failed : (call (receiveSubmit [arrival (cancelPacket frameId)]) s).1 =
    .error (.unexpectedMessage "server session exceeded the pending input limit")
  applied : (call (receiveSubmit [arrival (cancelPacket frameId)]) s).2.stateOf operationId =
    some .cancelled
  reported : .event (.lifecycle ⟨operationId, .cancelled⟩) ∈
    (call (receiveSubmit [arrival (cancelPacket frameId)]) s).2.pendingInputs
  dropped : .event (.frameCancel frameId) ∉
    (call (receiveSubmit [arrival (cancelPacket frameId)]) s).2.pendingInputs

theorem lost_of_last_place {r : OperationRecord} (hs : Correlated s) (hsess : s.sessionId = 7)
    (hunexpired : s.preSubmitDeadlines.rejectExpired 0 = .ok ())
    (hnotices : ∀ input ∈ s.pendingInputs, input.isLifecycle = true)
    (hlen : s.pendingInputs.length + 1 = maxPendingServerInputs)
    (hbound : s.frameOperations[fid]? = some id) (held : s.operations.operations[id]? = some r)
    (hact : r.state.isTerminal = false) : Lost s id fid := by
  have hroom : s.pendingInputs.length < maxPendingServerInputs := by
    rw [← hlen]
    exact Nat.lt_succ_self _
  have hread : call (readNextInput (.ok (cancelPacket fid)) 0) s = _ :=
    readCancel_call fid hs hsess hunexpired hbound held hact hroom
  have hfull : ¬(s.ended id r .cancelled).pendingInputs.length <
      maxPendingServerInputs := by
    change ¬(s.pendingInputs ++ [_]).length < _
    rw [length_append, ← hlen]
    exact Nat.lt_irrefl _
  have hreceive := receiveSubmit_drops (waits_of_notices hnotices) hread hfull
  have hqueue : (s.ended id r .cancelled).pendingInputs =
      s.pendingInputs ++ [.event (.lifecycle ⟨id, .cancelled⟩)] := rfl
  constructor
  · rw [hread]
  · rw [hreceive]
  · rw [hreceive]
    change (s.operations.set id _).operations[id]?.map _ = _
    rw [OperationRegistry.set_get_self]
    rfl
  · rw [hreceive, hqueue]
    exact mem_append_right _ mem_cons_self
  · rw [hreceive, hqueue, mem_append, not_or]
    constructor
    · intro hmem
      have hnotice := hnotices _ hmem
      cases hnotice
    · simp

theorem AfterRounds.lost (h : AfterRounds n s) (hn : n + 1 = maxPendingServerInputs)
    (hop : id.toNat = n + 1) (hframe : fid.toNat = n + 1) :
    Lost (s.after [.submitRound (arrival (submitPacket id fid))]) id
      fid := by
  have hcorr := correlated_after h.correlated
    [.submitRound (arrival (submitPacket id fid))]
  obtain ⟨sched, hafter⟩ := h.after_submit hop hframe
  rw [hafter] at hcorr ⊢
  apply lost_of_last_place hcorr h.session (h.unreserved ▸ rejectExpired_new) h.notices
  · rw [← hn, ← h.length]
    rfl
  · exact get_insert.trans (if_pos rfl)
  · exact s.operations.set_get_self _ _
  · rfl

def upToLastPlace : List Call :=
  rounds 1023 ++ [.submitRound (arrival (submitPacket 1024 1024))]

theorem cancel_is_dropped : Reachable (sampleSession.after upToLastPlace) ∧
      Lost (sampleSession.after upToLastPlace) 1024 1024 := by
  refine ⟨⟨_, _, sampleSession_opened, rfl⟩, ?_⟩
  rw [upToLastPlace, after_append]
  exact (afterRounds 1023 (by decide)).lost rfl rfl rfl

end Nnrp.Server
