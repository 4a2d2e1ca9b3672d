import Nnrp.LabelledRun
import Nnrp.Lifecycle

/-!
# Runs of the connection lifecycle

The methods of the lifecycle as the source writes them: checks and assignments in its order. Each
settles like the computation of the next lifecycle, so a method that fails has assigned nothing.
What one method does to the table of sessions is then said once, as a transition.
-/

namespace Nnrp.Lifecycle
open LabelledRun Protocol Packet Session OrderedMap Fallible Stateful Option ConnectionLifecycle
open Std.ExtTreeMap

variable {sessionId : UInt32} {session : SessionLifecycle}

abbrev LifecycleM := Method ConnectionLifecycle NnrpError

namespace LifecycleM

def requireConnectionOpen : LifecycleM Unit := check ConnectionLifecycle.requireConnectionOpen

/-- `get_mut`, and the assignment to a field of the session that was found. -/
def assign (sessionId : UInt32) (f : SessionLifecycle → SessionLifecycle) : LifecycleM Unit :=
  write fun l => { l with sessions := l.sessions.modify sessionId f }

def lookup (sessionId : UInt32) : LifecycleM SessionLifecycle :=
  check fun l =>
    match l.sessions[sessionId]? with
    | some session => .ok session
    | none => .error (.unknownSession sessionId)

def establishedState : SessionStatus → SessionLifecycleState
  | .resumed => .resumed
  | .opened | .rejected | .retryLater => .open

def install (ack : SessionOpenAckMetadata) : LifecycleM Unit := do
  refuse (fun _ => ack.sessionId = 0)
    (.invalidProtocolCombination "successful SESSION_OPEN_ACK requires a non-zero session_id")
  refuse (fun l => ack.sessionId ∈ l.sessions) (.sessionAlreadyExists ack.sessionId)
  let state := establishedState ack.sessionStatus
  write fun l =>
    { l with establishedSessionStates := l.establishedSessionStates.insert ack.sessionId state }
  write fun l => { l with sessions := (l.established state ack).sessions }

def applySessionOpenAck (ack : SessionOpenAckMetadata) : LifecycleM Unit := do
  requireConnectionOpen
  match ack.sessionStatus with
  | .opened | .resumed => install ack
  | .rejected | .retryLater =>
    refuse (fun _ => ack.sessionId ≠ 0)
      (.invalidProtocolCombination "rejected SESSION_OPEN_ACK must not install a session_id")

def beginSessionClose (header : CommonHeader) (close : SessionCloseMetadata) : LifecycleM Unit := do
  requireConnectionOpen
  refuse (fun _ => header.messageType ≠ .sessionClose) (.invalidProtocolCombination
    "SESSION_CLOSE lifecycle transition requires a SESSION_CLOSE header")
  refuse (fun _ => header.sessionId = 0)
    (.invalidProtocolCombination "SESSION_CLOSE requires header.session_id!=0")
  let session ← lookup header.sessionId
  refuse (fun _ => ¬session.state.acceptsNewOperations) (.sessionNotOpen header.sessionId)
  assign header.sessionId fun session => { session with state := .closing }
  assign header.sessionId fun session =>
    { session with lastOperationId := close.lastOperationId }
  assign header.sessionId fun session =>
    { session with sessionErrorCode := close.sessionErrorCode }

def applySessionCloseAck (header : CommonHeader) (ack : SessionCloseAckMetadata) :
    LifecycleM Unit := do
  requireConnectionOpen
  refuse (fun _ => header.messageType ≠ .sessionCloseAck) (.invalidProtocolCombination
    "SESSION_CLOSE_ACK lifecycle transition requires a SESSION_CLOSE_ACK header")
  refuse (fun _ => header.sessionId = 0)
    (.invalidProtocolCombination "SESSION_CLOSE_ACK requires header.session_id!=0")
  let session ← lookup header.sessionId
  refuse (fun _ => session.state = .closed) (.sessionNotOpen header.sessionId)
  let state ← check fun l => l.closeAckState header.sessionId ack.closeStatus
  assign header.sessionId fun session => { session with state }
  assign header.sessionId fun session =>
    { session with lastOperationId := ack.lastOperationId }
  assign header.sessionId fun session =>
    { session with sessionErrorCode := ack.sessionErrorCode }

def closeConnection : LifecycleM Unit := do
  refuse (fun l => l.state = .closed) .connectionAlreadyClosed
  write fun l => { l with state := .closed }
  write fun l =>
    { l with sessions := l.sessions.map fun _ session => { session with state := .closed } }

end LifecycleM

variable {l l' : ConnectionLifecycle} {header : CommonHeader} {ack : SessionCloseAckMetadata}
  {close : SessionCloseMetadata} {openAck : SessionOpenAckMetadata} {e : NnrpError}

theorem call_assign {f g h : SessionLifecycle → SessionLifecycle}
    (hget : l.sessions[sessionId]? = some session) :
    call (LifecycleM.assign sessionId f >>= fun _ => LifecycleM.assign sessionId g >>= fun _ =>
      LifecycleM.assign sessionId h) l =
        (.ok (), { l with sessions := l.sessions.insert sessionId (h (g (f session))) }) := by
  have hsessions : ((l.sessions.modify sessionId f).modify sessionId g).modify sessionId h =
      l.sessions.insert sessionId (h (g (f session))) := by
    apply ext_getElem?
    intro a
    simp only [get_insert, getElem?_modify]
    by_cases ha : sessionId = a
    · subst ha
      simp [hget]
    · simp [ha]
  rw [← hsessions]
  rfl

theorem applySessionCloseAck_call : call (LifecycleM.applySessionCloseAck header ack) l =
      settle l (l.applySessionCloseAck header ack) := by
  refine call_check_bind fun _ _ => ?_
  refine call_refuse_bind rfl fun _ => ?_
  refine call_refuse_bind rfl fun _ => ?_
  rw [LifecycleM.lookup, call_bind, call_check]
  cases hsess : l.sessions[header.sessionId]? with
  | none => rfl
  | some session =>
    refine call_refuse_bind rfl fun _ => ?_
    refine call_check_bind fun state _ => ?_
    rw [call_assign hsess]
    rfl

theorem beginSessionClose_call : call (LifecycleM.beginSessionClose header close) l =
      settle l (l.beginSessionClose header close) := by
  refine call_check_bind fun _ _ => ?_
  refine call_refuse_bind rfl fun _ => ?_
  refine call_refuse_bind rfl fun _ => ?_
  rw [LifecycleM.lookup, call_bind, call_check]
  cases hsess : l.sessions[header.sessionId]? with
  | none => rfl
  | some session =>
    refine call_refuse_bind rfl fun _ => ?_
    rw [call_assign hsess]
    rfl

theorem install_call : call (LifecycleM.install openAck) l =
    settle l (l.establish (LifecycleM.establishedState openAck.sessionStatus) openAck) := by
  refine call_refuse_bind rfl fun _ => ?_
  refine call_refuse_bind rfl fun _ => ?_
  rfl

theorem refuseInstall_call :
    call (refuse (fun _ => openAck.sessionId ≠ 0) e : LifecycleM Unit) l =
      settle l (if openAck.sessionId ≠ 0 then .error e else .ok l) := by
  rw [refuse, call_check]
  by_cases hzero : openAck.sessionId = 0
  all_goals simp [hzero, settle]

theorem applySessionOpenAck_call : call (LifecycleM.applySessionOpenAck openAck) l =
      settle l (l.applySessionOpenAck openAck) := by
  refine call_check_bind fun _ _ => ?_
  cases hstatus : openAck.sessionStatus with
  | opened | resumed =>
    simp only
    rw [install_call, hstatus]
    rfl
  | rejected | retryLater => exact refuseInstall_call

inductive Call
  | applySessionOpenAck (ack : SessionOpenAckMetadata)
  | beginSessionClose (header : CommonHeader) (close : SessionCloseMetadata)
  | applySessionCloseAck (header : CommonHeader) (ack : SessionCloseAckMetadata)
  | closeConnection

variable {c : Call}

def Call.method : Call → LifecycleM Unit
  | .applySessionOpenAck ack => LifecycleM.applySessionOpenAck ack
  | .beginSessionClose header close => LifecycleM.beginSessionClose header close
  | .applySessionCloseAck header ack => LifecycleM.applySessionCloseAck header ack
  | .closeConnection => LifecycleM.closeConnection

def Call.result (c : Call) (l : ConnectionLifecycle) : Except NnrpError Unit := (call c.method l).1

def Call.after (c : Call) (l : ConnectionLifecycle) : ConnectionLifecycle := (call c.method l).2

def Call.target : Call → Option UInt32
  | .applySessionOpenAck ack => some ack.sessionId
  | .beginSessionClose header _ => some header.sessionId
  | .applySessionCloseAck header _ => some header.sessionId
  | .closeConnection => none

def step (l : ConnectionLifecycle) (c : Call) : Option ConnectionLifecycle := some (c.after l)

def ConnectionLifecycle.closed (l : ConnectionLifecycle) : ConnectionLifecycle :=
  { l with
    state := .closed
    sessions := l.sessions.map fun _ session => { session with state := .closed } }

def Call.next (l : ConnectionLifecycle) : Call → Except NnrpError ConnectionLifecycle
  | .applySessionOpenAck ack => l.applySessionOpenAck ack
  | .beginSessionClose header close => l.beginSessionClose header close
  | .applySessionCloseAck header ack => l.applySessionCloseAck header ack
  | .closeConnection => if l.state = .closed then .error .connectionAlreadyClosed else .ok l.closed

theorem Call.settles (c : Call) (l : ConnectionLifecycle) :
    call c.method l = settle l (c.next l) := by
  cases c with
  | applySessionOpenAck ack => exact applySessionOpenAck_call
  | beginSessionClose header close => exact beginSessionClose_call
  | applySessionCloseAck header ack => exact applySessionCloseAck_call
  | closeConnection => exact call_refuse_bind rfl fun _ => rfl

inductive Transition (l : ConnectionLifecycle) : Call → ConnectionLifecycle → Prop
  | unchanged (ack : SessionOpenAckMetadata) (hopen : l.state = .open)
      (hstatus : ack.sessionStatus = .rejected ∨ ack.sessionStatus = .retryLater) :
      Transition l (.applySessionOpenAck ack) l
  | established (ack : SessionOpenAckMetadata) (hopen : l.state = .open)
      (hstatus : ack.sessionStatus = .opened ∨ ack.sessionStatus = .resumed)
      (hzero : ack.sessionId ≠ 0) (hnew : ack.sessionId ∉ l.sessions) :
      Transition l (.applySessionOpenAck ack)
        (l.established (LifecycleM.establishedState ack.sessionStatus) ack)
  | closing (header : CommonHeader) (close : SessionCloseMetadata) (session : SessionLifecycle)
      (hopen : l.state = .open) (hget : l.sessions[header.sessionId]? = some session)
      (hactive : session.state.acceptsNewOperations = true) :
      Transition l (.beginSessionClose header close)
        { l with
          sessions := l.sessions.insert header.sessionId
            { session with
              state := .closing
              lastOperationId := close.lastOperationId
              sessionErrorCode := close.sessionErrorCode } }
  | acknowledged (header : CommonHeader) (ack : SessionCloseAckMetadata)
      (session : SessionLifecycle) (state : SessionLifecycleState)
      (hopen : l.state = .open) (hget : l.sessions[header.sessionId]? = some session)
      (hactive : session.state ≠ .closed)
      (hstate : l.closeAckState header.sessionId ack.closeStatus = .ok state) :
      Transition l (.applySessionCloseAck header ack)
        { l with
          sessions := l.sessions.insert header.sessionId
            { session with
              state := state
              lastOperationId := ack.lastOperationId
              sessionErrorCode := ack.sessionErrorCode } }
  | closed (hopen : l.state ≠ .closed) : Transition l .closeConnection l.closed

theorem next_transition (h : c.next l = .ok l') : Transition l c l' := by
  cases c with
  | applySessionOpenAck ack =>
    obtain ⟨_, hopen, h⟩ := bind_eq_ok.mp h
    have hopen := requireConnectionOpen_ok hopen
    cases hstatus : ack.sessionStatus with
    | opened | resumed =>
      rw [hstatus] at h
      obtain ⟨hzero, hnew, rfl⟩ := establish_ok_iff.mp h
      have ht := Transition.established ack hopen (by rw [hstatus]; decide) hzero hnew
      rw [hstatus] at ht
      exact ht
    | rejected | retryLater =>
      rw [hstatus] at h
      simp only at h
      split_ifs at h
      · cases h
      · cases h
        exact .unchanged ack hopen (by rw [hstatus]; decide)
  | beginSessionClose header close =>
    obtain ⟨_, hopen, h⟩ := bind_eq_ok.mp h
    have hopen := requireConnectionOpen_ok hopen
    obtain ⟨-, h⟩ := of_refused_eq_ok rfl h
    obtain ⟨-, h⟩ := of_refused_eq_ok rfl h
    cases hget : l.sessions[header.sessionId]? with
    | none =>
      rw [hget] at h
      cases h
    | some session =>
      rw [hget] at h
      obtain ⟨hact, h⟩ := of_refused_eq_ok rfl h
      cases h
      exact .closing header close session hopen hget (not_not.mp hact)
  | applySessionCloseAck header ack =>
    obtain ⟨_, hopen, h⟩ := bind_eq_ok.mp h
    have hopen := requireConnectionOpen_ok hopen
    obtain ⟨-, h⟩ := of_refused_eq_ok rfl h
    obtain ⟨-, h⟩ := of_refused_eq_ok rfl h
    cases hget : l.sessions[header.sessionId]? with
    | none =>
      rw [hget] at h
      cases h
    | some session =>
      rw [hget] at h
      obtain ⟨hclosed, h⟩ := of_refused_eq_ok rfl h
      obtain ⟨state, hstate, h⟩ := bind_eq_ok.mp h
      cases h
      exact .acknowledged header ack session state hopen hget hclosed hstate
  | closeConnection =>
    simp only [Call.next] at h
    split_ifs at h with hclosed
    cases h
    exact .closed hclosed

theorem after_transition (h : c.result l = .ok ()) : Transition l c (c.after l) := by
  rw [Call.result, c.settles] at h
  rw [Call.after, c.settles]
  exact next_transition (settle_eq_ok h)

theorem after_of_error (h : c.result l = .error e) : c.after l = l := by
  rw [Call.result, c.settles] at h
  rw [Call.after, c.settles]
  exact settle_error h

structure ConnectionLifecycle.Valid (l : ConnectionLifecycle) : Prop where
  tracked : ∀ sessionId, sessionId ∈ l.sessions ↔ sessionId ∈ l.establishedSessionStates
  id : ∀ (sessionId : UInt32) (session : SessionLifecycle),
    l.sessions[sessionId]? = some session → sessionId ≠ 0 ∧ session.sessionId = sessionId
  closed : l.state = .closed → ∀ (sessionId : UInt32) (session : SessionLifecycle),
    l.sessions[sessionId]? = some session → session.state = .closed

def Keeps (l l' : ConnectionLifecycle) : Prop :=
  ∀ (sessionId : UInt32) (session : SessionLifecycle), l.sessions[sessionId]? = some session →
    (∃ session', l'.sessions[sessionId]? = some session' ∧
      (session.state = .closed → session'.state = .closed)) ∧
    l'.establishedSessionStates[sessionId]? = l.establishedSessionStates[sessionId]?

theorem valid_new : ConnectionLifecycle.Valid {} := by
  refine ⟨?_, ?_, nofun⟩
  · intro sessionId
    simp
  · intro sessionId session h
    simp at h

theorem closed_get (l : ConnectionLifecycle) (sessionId : UInt32) : l.closed.sessions[sessionId]? =
      l.sessions[sessionId]?.map fun session => { session with state := .closed } := by
  simp [closed]

variable {session' : SessionLifecycle}

theorem ConnectionLifecycle.Valid.replaced (h : l.Valid)
    (hopen : l.state = .open) (hget : l.sessions[sessionId]? = some session)
    (hid : session'.sessionId = session.sessionId) :
    ConnectionLifecycle.Valid { l with sessions := l.sessions.insert sessionId session' } := by
  refine ⟨?_, ?_, ?_⟩
  · intro a
    rw [mem_map_insert, ← h.tracked]
    refine ⟨?_, .inr⟩
    rintro (rfl | ha)
    · exact mem_iff_get.mpr ⟨_, hget⟩
    · exact ha
  · intro a found hfound
    simp only [get_insert] at hfound
    split_ifs at hfound with ha
    · subst ha
      cases hfound
      rw [hid]
      exact h.id sessionId session hget
    · exact h.id a found hfound
  · intro hclosed
    rw [hopen] at hclosed
    cases hclosed

theorem Transition.valid (ht : Transition l c l') (h : l.Valid) : l'.Valid := by
  cases ht with
  | unchanged => exact h
  | established ack hopen hstatus hzero hnew =>
    refine ⟨?_, ?_, ?_⟩
    · intro a
      rw [ConnectionLifecycle.established, mem_map_insert, mem_map_insert, h.tracked]
    · intro a found hfound
      simp only [ConnectionLifecycle.established, get_insert] at hfound
      split_ifs at hfound with ha
      · subst ha
        cases hfound
        exact ⟨hzero, rfl⟩
      · exact h.id a found hfound
    · intro hclosed
      rw [ConnectionLifecycle.established, hopen] at hclosed
      cases hclosed
  | closing header close session hopen hget | acknowledged header ack session state hopen hget =>
    exact h.replaced hopen hget rfl
  | closed =>
    refine ⟨?_, ?_, ?_⟩
    · intro a
      simp [ConnectionLifecycle.closed, h.tracked]
    · intro a found hfound
      rw [closed_get] at hfound
      obtain ⟨session, hsess, rfl⟩ := map_eq_some_iff.mp hfound
      exact h.id a session hsess
    · intro _ a found hfound
      rw [closed_get] at hfound
      obtain ⟨session, -, rfl⟩ := map_eq_some_iff.mp hfound
      rfl

theorem keeps_refl (l : ConnectionLifecycle) : Keeps l l :=
  fun _ session hsess => ⟨⟨session, hsess, id⟩, rfl⟩

theorem keeps_replaced
    (hget : l.sessions[sessionId]? = some session) (hact : session.state ≠ .closed) :
    Keeps l { l with sessions := l.sessions.insert sessionId session' } := by
  intro a found hfound
  refine ⟨?_, rfl⟩
  simp only [get_insert]
  split_ifs with ha
  · subst ha
    rw [hget, some.injEq] at hfound
    subst hfound
    exact ⟨session', rfl, fun hclosed => absurd hclosed hact⟩
  · exact ⟨found, hfound, id⟩

theorem Transition.keeps (ht : Transition l c l') : Keeps l l' := by
  cases ht with
  | unchanged => exact keeps_refl l
  | established ack hopen hstatus hzero hnew =>
    intro a found hfound
    have hne : ack.sessionId ≠ a := by
      rintro rfl
      exact hnew (mem_iff_get.mpr ⟨_, hfound⟩)
    simp only [ConnectionLifecycle.established, get_insert, if_neg hne]
    exact ⟨⟨found, hfound, id⟩, trivial⟩
  | closing header close session hopen hget hact =>
    refine keeps_replaced hget ?_
    intro hclosed
    rw [hclosed] at hact
    cases hact
  | acknowledged header ack session state hopen hget hact => exact keeps_replaced hget hact
  | closed =>
    intro a found hfound
    refine ⟨⟨{ found with state := .closed }, ?_, fun _ => rfl⟩, rfl⟩
    rw [closed_get, hfound]
    rfl

theorem step_cases (hs : step l c = some l') : Transition l c l' ∨ l' = l := by
  cases hs
  cases h : c.result l with
  | ok _ => exact .inl (after_transition h)
  | error e => exact .inr (after_of_error h)

variable {calls : List Call}

theorem run_valid (hr : run step {} calls = some l) : l.Valid := by
  refine run_induction ConnectionLifecycle.Valid ?_ valid_new hr
  intro l c l' h hs
  rcases step_cases hs with ht | rfl
  · exact ht.valid h
  · exact h

theorem run_keeps (hr : run step l calls = some l') : Keeps l l' := by
  refine run_induction (Keeps l) ?_ (keeps_refl l) hr
  intro m c m' h hs
  rcases step_cases hs with ht | rfl
  · intro a found hfound
    obtain ⟨⟨found', hfound', hclosed⟩, hstate⟩ := h a found hfound
    obtain ⟨⟨found'', hfound'', hclosed'⟩, hstate'⟩ := ht.keeps a found' hfound'
    exact ⟨⟨found'', hfound'', fun h => hclosed' (hclosed h)⟩, hstate'.trans hstate⟩
  · exact h

theorem after_other {target a : UInt32} (htgt : c.target = some target) (ha : a ≠ target) :
    (c.after l).sessions[a]? = l.sessions[a]? ∧
      (c.after l).establishedSessionStates[a]? = l.establishedSessionStates[a]? := by
  cases hres : c.result l with
  | error e =>
    rw [after_of_error hres]
    exact ⟨rfl, rfl⟩
  | ok _ =>
    have ht := after_transition hres
    generalize c.after l = l' at ht
    cases ht with
    | unchanged => exact ⟨rfl, rfl⟩
    | established ack =>
      cases htgt
      simp only [established, get_insert, if_neg (Ne.symm ha)]
      exact ⟨trivial, trivial⟩
    | closing header | acknowledged header =>
      cases htgt
      simp only [get_insert, if_neg (Ne.symm ha)]
      exact ⟨trivial, trivial⟩
    | closed => cases htgt

theorem Transition.not_closed (ht : Transition l c l') : l.state ≠ .closed := by
  have hne : ConnectionLifecycleState.open ≠ .closed := nofun
  cases ht with
  | unchanged ack hopen | established ack hopen | closing header close session hopen
  | acknowledged header ack session state hopen => exact hopen ▸ hne
  | closed hopen => exact hopen

theorem result_of_closed (hclosed : l.state = .closed) (c : Call) : ∃ e, c.result l = .error e := by
  cases hres : c.result l with
  | error e => exact ⟨e, rfl⟩
  | ok _ => exact absurd hclosed (after_transition hres).not_closed

theorem openAck_transition
    (hstatus : openAck.sessionStatus = .opened ∨ openAck.sessionStatus = .resumed)
    (ht : Transition l (.applySessionOpenAck openAck) l') : openAck.sessionId ∉ l.sessions ∧
      l' = l.established (LifecycleM.establishedState openAck.sessionStatus) openAck := by
  cases ht with
  | established _ _ _ _ hnew => exact ⟨hnew, rfl⟩
  | unchanged _ _ hother =>
    rcases hstatus with hs | hs
    all_goals
      rw [hs] at hother
      exact absurd hother (by decide)

theorem after_established
    (hstatus : openAck.sessionStatus = .opened ∨ openAck.sessionStatus = .resumed)
    (hres : (Call.applySessionOpenAck openAck).result l = .ok ()) :
    (∃ session, ((Call.applySessionOpenAck openAck).after l).sessions[openAck.sessionId]? =
      some session ∧ session.state = LifecycleM.establishedState openAck.sessionStatus) ∧
    ((Call.applySessionOpenAck openAck).after l).establishedSessionStates[openAck.sessionId]? =
      some (LifecycleM.establishedState openAck.sessionStatus) := by
  obtain ⟨-, hafter⟩ := openAck_transition hstatus (after_transition hres)
  rw [hafter]
  simp only [established, get_insert, if_true]
  exact ⟨⟨_, rfl, rfl⟩, trivial⟩

theorem after_rejected (hstatus : ack.closeStatus = .rejected)
    (hres : (Call.applySessionCloseAck header ack).result l = .ok ()) :
    ∃ session, ((Call.applySessionCloseAck header ack).after l).sessions[header.sessionId]? =
      some session ∧ l.establishedSessionStates[header.sessionId]? = some session.state := by
  have ht := after_transition hres
  generalize (Call.applySessionCloseAck header ack).after l = l' at ht
  cases ht with
  | acknowledged _ _ session state hopen hget hact hstate =>
    rw [hstatus, closeAckState] at hstate
    refine ⟨{ session with
      state := state
      lastOperationId := ack.lastOperationId
      sessionErrorCode := ack.sessionErrorCode }, ?_, ?_⟩
    · simp only [get_insert, if_true]
    · cases hestab : l.establishedSessionStates[header.sessionId]? with
      | none =>
        rw [hestab] at hstate
        cases hstate
      | some found =>
        rw [hestab] at hstate
        exact congrArg some (Except.ok.inj hstate)

/-- The lifecycle after any calls: the two tables agree, closed sessions and closed connections
stay closed, a rejected close restores what the open established, calls on one session leave the
others alone, and a call that fails changes nothing. -/
theorem connection_lifecycle_invariant (hr : run step {} calls = some l) :
    (∀ sessionId, sessionId ∈ l.sessions ↔ sessionId ∈ l.establishedSessionStates) ∧
    (∀ (sessionId : UInt32) (session : SessionLifecycle),
      l.sessions[sessionId]? = some session → sessionId ≠ 0 ∧ session.sessionId = sessionId) ∧
    (∀ (sessionId : UInt32) (session : SessionLifecycle),
      l.sessions[sessionId]? = some session → session.state = .closed →
        ∀ later l', run step l later = some l' →
          (∃ session', l'.sessions[sessionId]? = some session' ∧ session'.state = .closed) ∧
          ∀ ack : SessionOpenAckMetadata, ack.sessionId = sessionId →
            ack.sessionStatus = .opened ∨ ack.sessionStatus = .resumed →
              ∃ e, (Call.applySessionOpenAck ack).result l' = .error e) ∧ (l.state = .closed →
      (∀ (sessionId : UInt32) (session : SessionLifecycle),
        l.sessions[sessionId]? = some session → session.state = .closed) ∧
      ∀ c : Call, ∃ e, c.result l = .error e) ∧
    (∀ ack : SessionOpenAckMetadata, ack.sessionStatus = .opened ∨ ack.sessionStatus = .resumed →
      (Call.applySessionOpenAck ack).result l = .ok () →
        ∀ later l', run step ((Call.applySessionOpenAck ack).after l) later = some l' →
          ∀ (header : CommonHeader) (closeAck : SessionCloseAckMetadata),
            header.sessionId = ack.sessionId → closeAck.closeStatus = .rejected →
            (Call.applySessionCloseAck header closeAck).result l' = .ok () → ∃ session,
                ((Call.applySessionCloseAck header closeAck).after l').sessions[ack.sessionId]? =
                  some session ∧
                session.state = if ack.sessionStatus = .opened then .open else .resumed) ∧
    (∀ (c : Call) (target other : UInt32), c.target = some target → other ≠ target →
      (c.after l).sessions[other]? = l.sessions[other]? ∧
      (c.after l).establishedSessionStates[other]? = l.establishedSessionStates[other]?) ∧
    (∀ (c : Call) (e : NnrpError), c.result l = .error e → c.after l = l) := by
  have hvalid := run_valid hr
  refine ⟨hvalid.tracked, hvalid.id, ?_, ?_, ?_, fun c target other => after_other,
    fun c e => after_of_error⟩
  · intro sessionId session hget hclosed later l' hlater
    obtain ⟨⟨session', hget', hclosed'⟩, -⟩ := run_keeps hlater sessionId session hget
    refine ⟨⟨session', hget', hclosed' hclosed⟩, ?_⟩
    rintro ack rfl hstatus
    cases hres : (Call.applySessionOpenAck ack).result l' with
    | error e => exact ⟨e, rfl⟩
    | ok _ =>
      have hnew := (openAck_transition hstatus (after_transition hres)).1
      exact absurd (mem_iff_get.mpr ⟨_, hget'⟩) hnew
  · intro hclosed
    exact ⟨hvalid.closed hclosed, result_of_closed hclosed⟩
  · intro ack hstatus hres later l' hlater header closeAck hid hrejected hclose
    obtain ⟨⟨session, hget, -⟩, hestab⟩ := after_established hstatus hres
    obtain ⟨-, hkept⟩ := run_keeps hlater _ session hget
    obtain ⟨restored, hrest, hstate⟩ := after_rejected hrejected hclose
    rw [hid] at hrest hstate
    rw [hkept, hestab, some.injEq] at hstate
    refine ⟨restored, hrest, ?_⟩
    rw [← hstate]
    rcases hstatus with hs | hs
    · rw [hs]
      rfl
    · rw [hs]
      rfl

def resumedAck : SessionOpenAckMetadata :=
  ⟨42, 1, .balanced, .resumed, 1, 1, 1, 1, 0, 0, 0, 0, 0, 0, 0, 0⟩

def closeOf (messageType : MessageType) : CommonHeader :=
  { CommonHeader.new messageType 0 0 with sessionId := 42 }

def beginClose : Call := .beginSessionClose (closeOf .sessionClose) ⟨.normal, .drain, 0, 7, 0, 0⟩

def closeAck (status : SessionCloseStatus) : Call :=
  .applySessionCloseAck (closeOf .sessionCloseAck) ⟨status, 7, 0⟩

theorem connection_lifecycle_invariant_resumed : (∃ l : ConnectionLifecycle,
      run step {} [.applySessionOpenAck resumedAck, beginClose, closeAck .closed] = some l ∧
      (∃ e, (Call.applySessionOpenAck resumedAck).result l = .error e) ∧
      beginClose.after l = l ∧
        l.sessions[(43 : UInt32)]? = (beginClose.after l).sessions[(43 : UInt32)]?) ∧
    (∃ l : ConnectionLifecycle, run step {} [.closeConnection] = some l ∧
      ∃ e, Call.closeConnection.result l = .error e) ∧
    (∃ l session, run step ((Call.applySessionOpenAck resumedAck).after {}) [beginClose] = some l ∧
      ((closeAck .rejected).after l).sessions[(42 : UInt32)]? = some session ∧
      session.state = .resumed) := by
  refine ⟨?_, ?_, ?_⟩
  · have hrun : (run step {} [.applySessionOpenAck resumedAck, beginClose, closeAck .closed]).map
        (fun l => (l.sessions[(42 : UInt32)]?.map SessionLifecycle.state, beginClose.result l)) =
          some (some .closed, .error (.sessionNotOpen 42)) := by decide +kernel
    obtain ⟨l, hl, hfacts⟩ := map_eq_some_iff.mp hrun
    rw [Prod.mk.injEq] at hfacts
    obtain ⟨session, hget, hclosed⟩ := map_eq_some_iff.mp hfacts.1
    obtain ⟨-, -, hstays, -, -, hother, herror⟩ := connection_lifecycle_invariant hl
    refine ⟨l, hl, (hstays 42 session hget hclosed [] l rfl).2 resumedAck rfl (.inr rfl),
      herror _ _ hfacts.2, ?_⟩
    exact (hother beginClose 42 43 rfl (by decide)).1.symm
  · have hrun : (run step {} [.closeConnection]).map ConnectionLifecycle.state = some .closed := by
      decide +kernel
    obtain ⟨l, hl, hclosed⟩ := map_eq_some_iff.mp hrun
    obtain ⟨-, -, -, href, -⟩ := connection_lifecycle_invariant hl
    exact ⟨l, hl, (href hclosed).2 .closeConnection⟩
  · have hres : (Call.applySessionOpenAck resumedAck).result {} = .ok () := by decide +kernel
    have hrun : (run step ((Call.applySessionOpenAck resumedAck).after {}) [beginClose]).map
        (closeAck .rejected).result = some (.ok ()) := by decide +kernel
    obtain ⟨l, hl, hclose⟩ := map_eq_some_iff.mp hrun
    have hnew : run step {} [] = some {} := rfl
    obtain ⟨-, -, -, -, hrest, -⟩ := connection_lifecycle_invariant hnew
    obtain ⟨session, hsess, hstate⟩ := hrest resumedAck (.inr rfl) hres _ l hl
      (closeOf .sessionCloseAck) ⟨.rejected, 7, 0⟩ rfl rfl hclose
    exact ⟨l, session, hl, hsess, hstate⟩

end Nnrp.Lifecycle
