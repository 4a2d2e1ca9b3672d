import Nnrp.LabelledRun
import Nnrp.SendOutcome

/-!
# Runs of a server session

The calls of an application on one session, with what the transport answers. `receive_submit` is
taken apart into its search and the rounds of its loop, since a caller may drop it between two
rounds. `Moved` says what a call can do to the operations and the pending inputs of the session.
-/

namespace Nnrp.Server
open OrderedMap Protocol ByteOrder Packet Data Control Object ControlUpdate Session PreSubmit List
open NnrpServerSession PendingServerInput
open Stateful Operation Fallible LabelledRun
open Lifecycle (ConnectionLifecycle)

inductive Send
  | operationResult (frameId : UInt32) (metadata : ResultPushMetadata) (body : Bytes)
      (nowUnixMs : UInt64)
  | operationPartialResult (metadata : PartialResultMetadata) (body : Bytes)
  | operationProgress (metadata : ProgressMetadata) (body : Bytes)
  | operationResultDrop (metadata : ResultDropReasonMetadata) (diagnostics : Bytes)
  | result (operation : NnrpServerOperation) (metadata : ResultPushMetadata) (body : Bytes)
      (nowUnixMs : UInt64)
  | partialResult (operation : NnrpServerOperation) (metadata : PartialResultMetadata)
      (body : Bytes)
  | progress (operation : NnrpServerOperation) (metadata : ProgressMetadata) (body : Bytes)
  | resultDrop (operation : NnrpServerOperation) (metadata : ResultDropReasonMetadata)
      (diagnostic : Bytes)
  | controlRequest (messageType : MessageType) (metadata : ControlRequestMetadata)
      (diagnostics : Bytes)
  | supersede (metadata : SupersedeMetadata) (diagnostics : Bytes)
  | cachePut (metadata : CachePutMetadata) (body : Bytes)
  | backpressure (metadata : PressureMetadata)
  | creditUpdate (metadata : PressureMetadata)
  | prepared (prepare : NnrpServerSession → Except RuntimeError RuntimePacket)
  | ackClose (close : SessionCloseMetadata)
  | closeInPlace (closed : Except RuntimeError Unit)

/-- The send, whose write the transport answers with `written`. -/
def Send.perform (written : Except RuntimeError Unit) : Send → ServerM Unit
  | .operationResult frameId metadata body nowUnixMs =>
    sendOperationResult written frameId metadata body nowUnixMs
  | .operationPartialResult metadata body => sendOperationPartialResult written metadata body
  | .operationProgress metadata body => sendOperationProgress written metadata body
  | .operationResultDrop metadata diagnostics =>
    sendOperationResultDrop written metadata diagnostics
  | .result operation metadata body nowUnixMs =>
    operation.sendResult written metadata body nowUnixMs
  | .partialResult operation metadata body => operation.sendPartialResult written metadata body
  | .progress operation metadata body => operation.sendProgress written metadata body
  | .resultDrop operation metadata diagnostic =>
    operation.sendResultDrop written metadata diagnostic
  | .controlRequest messageType metadata diagnostics =>
    sendControlRequest written messageType metadata diagnostics
  | .supersede metadata diagnostics => supersedeOperation written metadata diagnostics
  | .cachePut metadata body => sendCachePut written metadata body
  | .backpressure metadata => sendBackpressure written metadata
  | .creditUpdate metadata => sendCreditUpdate written metadata
  | .prepared prepare => sendPrepared written prepare
  | .ackClose close => Server.ackClose written close
  | .closeInPlace closed => Server.closeInPlace written closed

inductive Call
  | awaitEvent (answer : Answer)
  | searchSubmit
  | submitRound (answer : Answer)
  | receive (kind : Receive) (answer : Answer)
  | trackCacheObject (objectId : CacheObjectId)
  | send (request : Send) (written : Except RuntimeError Unit)

def Call.packet : Call → Option RuntimePacket
  | .awaitEvent answer | .submitRound answer | .receive _ answer => answer.input.toOption
  | .searchSubmit | .trackCacheObject _ | .send _ _ => none

def Call.isSend : Call → Bool
  | .send _ _ => true
  | _ => false

/-- The call; its value is the event that the event pump hands out. -/
def Call.perform : Call → ServerM (Option NnrpServerEvent)
  | .awaitEvent answer => do
    let event ← Server.awaitEvent answer.input answer.nowUnixMs
    pure (some event)
  | .searchSubmit => do
    let _ ← Server.searchSubmit
    pure none
  | .submitRound answer => do
    let _ ← Server.submitRound answer
    pure none
  | .receive kind answer => do
    kind.perform answer
    pure none
  | .trackCacheObject objectId => do
    Server.trackCacheObject objectId
    pure none
  | .send request written => do
    request.perform written
    pure none

variable (s : NnrpServerSession) {error : String}

def NnrpServerSession.step (c : Call) : Option NnrpServerSession :=
  some (call c.perform s).2

def NnrpServerSession.after (calls : List Call) : NnrpServerSession :=
  calls.foldl (fun s c => (call c.perform s).2) s

theorem after_append (calls later : List Call) :
    s.after (calls ++ later) = (s.after calls).after later :=
  foldl_append

theorem run_after (calls : List Call) :
    run NnrpServerSession.step s calls = some (s.after calls) := by
  induction calls generalizing s with
  | nil => rfl
  | cons c calls ih => exact run_cons_eq_some.mpr ⟨_, rfl, ih _⟩

/-- The session that an accept hands out, with the limits it was configured with. -/
structure Opened (s : NnrpServerSession) : Prop where
  session : s.sessionId ≠ 0
  operations : s.operations = {}
  frameOperations : s.frameOperations = ∅
  operationFrames : s.operationFrames = ∅
  preSubmitDeadlines : ∃ maxInFlightOperations, s.preSubmitDeadlines = .new maxInFlightOperations
  cacheObjects : s.cacheObjects = []
  pendingClose : s.pendingClose = none
  pendingInputs : s.pendingInputs = []

/-- The states that an opened session can reach. -/
def Reachable (s : NnrpServerSession) : Prop :=
  ∃ start calls, Opened start ∧ s = start.after calls

structure Bindings where
  sessionId : UInt32
  operations : OperationRegistry
  frameOperations : BTreeMap UInt32 UInt64
  operationFrames : BTreeMap UInt64 UInt32
  preSubmitDeadlines : PreSubmitDeadlineReservations

structure Core extends Bindings where
  pendingInputs : List PendingServerInput

namespace NnrpServerSession

variable (s : NnrpServerSession)

def bindings : Bindings where
  sessionId := s.sessionId
  operations := s.operations
  frameOperations := s.frameOperations
  operationFrames := s.operationFrames
  preSubmitDeadlines := s.preSubmitDeadlines

def core : Core := { s.bindings with pendingInputs := s.pendingInputs }

end NnrpServerSession

/-- A result supersedes a stale operation and the event that reports it is not queued. -/
def Send.Loses (written : Except RuntimeError Unit) (s : NnrpServerSession) : Send → Prop
  | .operationResult frameId _ _ nowUnixMs => ∃ operationId record,
      StaleAt s frameId nowUnixMs operationId record ∧ ¬Reports s record written
  | .result operation _ _ nowUnixMs => operation.requireSession s = .ok () ∧
      ∃ operationId record,
        StaleAt s operation.frameId nowUnixMs operationId record ∧ ¬Reports s record written
  | _ => False

inductive Sent (s : NnrpServerSession) (loses : Prop) (s' : NnrpServerSession) : Prop
  | same (hkept : ¬loses) (hcore : s'.core = s.core)
  | ended {operationId : UInt64} {record : OperationRecord} {state : OperationState}
      (hkept : ¬loses) (hending : Ending s operationId record state)
      (hcore : s'.core = (s.ended operationId record state).core)
  | lost {operationId : UInt64} {record : OperationRecord} (hlost : loses)
      (held : s.operations.operations[operationId]? = some record)
      (hactive : record.state.isTerminal = false)
      (hcore : s'.core = (s.withRecord operationId { record with state := .superseded }).core)

inductive Read (s : NnrpServerSession) (packet : RuntimePacket) :
    PendingServerInput → NnrpServerSession → Prop
  | role (hrole : isDedicatedRoleMessage packet.messageType = true) :
      Read s packet (.rolePacket packet) s
  | event {event : NnrpServerEvent} {s' : NnrpServerSession}
      (hdecoded : Decoded s packet event s')
      (hexpected : ∀ kind : Receive, kind.accepts packet.messageType = true →
        kind.expects (.event event) = true)
      (hqueued : s'.pendingInputs.length = s.pendingInputs.length + queuedFor s packet)
      (hsubmit : (∃ operation, event = .submit operation) ↔ packet.messageType = .frameSubmit) :
      Read s packet (.event event) s'

inductive Queued : List PendingServerInput → Option NnrpServerEvent →
    List PendingServerInput → Prop
  | same (inputs : List PendingServerInput) : Queued inputs none inputs
  | handed (event : NnrpServerEvent) (rest : List PendingServerInput) :
      Queued (.event event :: rest) (some event) rest
  | taken {before after : List PendingServerInput} {input : PendingServerInput}
      (hinput : input.isLifecycle = false) :
      Queued (before ++ input :: after) none (before ++ after)
  | moved {before after : List PendingServerInput} {input : PendingServerInput}
      (hbefore : ∀ earlier ∈ before, earlier.isLifecycle = true)
      (hinput : input.isLifecycle = false) :
      Queued (before ++ input :: after) none (input :: (before ++ after))

inductive Placed (s : NnrpServerSession) (c : Call) (inputs : List PendingServerInput) :
    PendingServerInput → Option NnrpServerEvent → List PendingServerInput → Prop
  | handed (event : NnrpServerEvent) : Placed s c inputs (.event event) (some event) inputs
  | released (input : PendingServerInput) : Placed s c inputs input none inputs
  | retained (input : PendingServerInput) (hroom : inputs.length < maxPendingServerInputs) :
      Placed s c inputs input none (inputs ++ [input])
  | fronted {kind : Receive} {answer : Answer} {input : PendingServerInput}
      (hc : c = .receive kind answer) (hexpects : kind.expects input = false)
      (hpending : ∀ earlier ∈ s.pendingInputs, earlier.isLifecycle = true) :
      Placed s c inputs input none (input :: inputs)

/-- What a call does, with the event that it hands out. -/
inductive Moved (s : NnrpServerSession) (c : Call) (out : Option NnrpServerEvent)
    (s' : NnrpServerSession) : Prop
  | sent {send : Send} {written : Except RuntimeError Unit} (hc : c = .send send written)
      (hout : out = none) (hsent : Sent s (send.Loses written s) s')
  | queued (hsend : c.isSend = false) (hbindings : s'.bindings = s.bindings)
      (hqueued : Queued s.pendingInputs out s'.pendingInputs)
  | refused {packet : RuntimePacket} {t : NnrpServerSession} (hpacket : c.packet = some packet)
      (hout : out = none) (hrefused : Refused s packet t) (hcore : s'.core = t.core)
  | read {packet : RuntimePacket} {input : PendingServerInput} {t : NnrpServerSession}
      (hpacket : c.packet = some packet) (hread : Read s packet input t)
      (hbindings : s'.bindings = t.bindings)
      (hplaced : Placed s c t.pendingInputs input out s'.pendingInputs)

section
variable {s s' t : NnrpServerSession} {loses : Prop}

theorem bindings_of_core (h : s'.core = s.core) : s'.bindings = s.bindings :=
  congrArg Core.toBindings h

theorem pendingInputs_of_core (h : s'.core = s.core) : s'.pendingInputs = s.pendingInputs :=
  congrArg Core.pendingInputs h

theorem Moved.of_core {c : Call} (h : Moved s c none t)
    (hsend : c.isSend = false) (hcore : s'.core = t.core) : Moved s c none s' := by
  have hbinds := bindings_of_core hcore
  have hinputs := pendingInputs_of_core hcore
  cases h with
  | sent hc =>
    rw [hc] at hsend
    cases hsend
  | queued hsend ht hqueued => exact .queued hsend (hbinds.trans ht) (hinputs ▸ hqueued)
  | refused hpkt hout href ht => exact .refused hpkt hout href (hcore.trans ht)
  | read hpkt hread ht hplaced =>
    exact .read hpkt hread (hbinds.trans ht) (hinputs ▸ hplaced)

theorem Written.sent (h : Written s s') (hkept : ¬loses) : Sent s loses s' := by
  cases h with
  | plain p => exact .same hkept rfl
  | ending p hending => exact .ended hkept hending rfl

theorem Expired.sent {id : UInt64} {r : OperationRecord}
    {written : Except RuntimeError Unit} (h : Expired s id r written s')
    (held : s.operations.operations[id]? = some r)
    (hact : r.state.isTerminal = false) (hloses : loses ↔ ¬Reports s r written) :
    Sent s loses s' := by
  have hkept (hreports : Reports s r written) : ¬loses := fun hlost => hloses.mp hlost hreports
  have hending (hreports : Reports s r written) : Ending s id r .superseded :=
    ⟨held, hact, rfl, hreports.1⟩
  cases h with
  | reported hreports | dropped p hreports => exact .ended (hkept hreports) (hending hreports) rfl
  | silent hsilent => exact .lost (hloses.mpr hsilent) held hact rfl

end

section
variable {written : Except RuntimeError Unit} {body : Bytes} {fid : UInt32}

structure Apart {τ : Type} (f : NnrpServerSession → τ) : Prop where
  sent : ∀ s packet, f (s.send packet) = f s
  pressure : ∀ s pressure, f { s with pressure } = f s
  lifecycle : ∀ s lifecycle, f { s with lifecycle } = f s
  pendingClose : ∀ s pendingClose, f { s with pendingClose } = f s
  lastOperationId : ∀ s lastOperationId, f { s with lastOperationId } = f s

theorem core_apart : Apart core :=
  ⟨fun _ _ => rfl, fun _ _ => rfl, fun _ _ => rfl, fun _ _ => rfl, fun _ _ => rfl⟩

section
variable {τ : Type} {f : NnrpServerSession → τ} (hf : Apart f)
include hf

theorem writePacket_keeps {p : RuntimePacket} : Keeps f (writePacket written p) :=
  .bind .lift fun _ => .write fun s => hf.sent s p

theorem sendPrepared_keeps {prepare : NnrpServerSession → Except RuntimeError RuntimePacket} :
    Keeps f (sendPrepared written prepare) :=
  .bind .check fun _ => writePacket_keeps hf

variable {ty : MessageType}

theorem writeRuntimePacket_keeps {m body : Bytes} :
    Keeps f (writeRuntimePacket written ty fid m body) :=
  .bind .check fun _ => writePacket_keeps hf

theorem sendPressure_keeps {m : PressureMetadata} : Keeps f (sendPressure written ty m) := by
  refine .bind .lift fun _ => .bind .check fun pressure => ?_
  refine .bind (.write fun s => hf.pressure s pressure) fun _ => ?_
  exact .bind .lift fun _ => writeRuntimePacket_keeps hf

theorem ackClose_keeps {close : SessionCloseMetadata} : Keeps f (ackClose written close) := by
  refine .bind .check fun life => .bind (.write fun s => hf.lifecycle s life) fun _ => ?_
  refine .bind .lift fun _ => .bind (writeRuntimePacket_keeps hf) fun _ => .write fun s => ?_
  split
  · exact hf.pendingClose s none
  · rfl

theorem closeInPlace_keeps {closed : Except RuntimeError Unit} :
    Keeps f (closeInPlace written closed) := by
  have hend : Keeps f (write (fun s => { s with lastOperationId := none }) >>=
      fun _ => lift closed : ServerM Unit) :=
    .bind (.write fun s => hf.lastOperationId s none) fun _ => .lift
  refine .bind .check fun pendingClose => ?_
  cases pendingClose with
  | none => exact hend
  | some close =>
    refine .bind (.write fun s => hf.pendingClose s none) fun _ => ?_
    exact .bind (ackClose_keeps hf) fun _ => hend

end

theorem trackCacheObject_keeps {objectId : CacheObjectId} :
    Keeps core (trackCacheObject objectId) :=
  .bind .check fun _ => .write fun _ => rfl

theorem sendCachePut_keeps {m : CachePutMetadata} : Keeps core (sendCachePut written m body) := by
  refine .bind .check fun _ => .bind trackCacheObject_keeps fun _ => ?_
  exact .bind .lift fun _ => .bind .lift fun _ => writeRuntimePacket_keeps core_apart

variable {s : NnrpServerSession} {m : ServerM Unit}

theorem sent_of_keeps (h : Keeps core m) : Always m s (Sent s False) :=
  (h.ensures s).imp (fun _ _ => .same not_false) fun _ => .same not_false

theorem sent_of_written (h : Writes s m) : Always m s (Sent s False) := by
  refine h.imp (fun _ _ hwritten => hwritten.sent not_false) fun s' hs' => ?_
  subst hs'
  exact .same not_false rfl

theorem sendOperationResult_sent (hs : Correlated s)
    {m : ResultPushMetadata} {now : UInt64} {loses : Prop} (hloses : loses ↔ ∃ id r,
      StaleAt s fid now id r ∧ ¬Reports s r written) :
    Always (sendOperationResult written fid m body now) s (Sent s loses) := by
  have hkept (hfresh : ∀ id r, ¬StaleAt s fid now id r) :
      ¬loses := by
    intro hlost
    obtain ⟨id, r, hstale, -⟩ := hloses.mp hlost
    exact hfresh id r hstale
  refine (sendOperationResult_ensures hs).imp ?_ ?_
  · intro _ s' h
    exact h.1.sent (hkept h.2)
  · intro s' h
    rcases h with ⟨rfl, hfresh⟩ | ⟨id, r, hstale, hexpired⟩
    · exact .same (hkept hfresh) rfl
    · refine hexpired.sent hstale.held hstale.stale.1 (hloses.trans ⟨?_, ?_⟩)
      · intro hlost
        obtain ⟨id', r', hstale', hsilent⟩ := hlost
        have hbound := hstale.bound.symm.trans hstale'.bound
        cases hbound
        have hheld := hstale.held.symm.trans hstale'.held
        cases hheld
        exact hsilent
      · intro hsilent
        exact ⟨id, r, hstale, hsilent⟩

def Send.WritesFirst : Send → Prop
  | .operationPartialResult .. | .operationProgress .. | .operationResultDrop ..
  | .partialResult .. | .progress .. | .resultDrop .. | .controlRequest .. | .supersede .. => True
  | _ => False

theorem Send.perform_written (hs : Correlated s) {send : Send} (h : send.WritesFirst) :
    Writes s (send.perform written) := by
  cases send with
  | operationPartialResult => exact sendOperationPartialResult_ensures
  | operationProgress => exact sendOperationProgress_ensures
  | operationResultDrop => exact sendOperationResultDrop_ensures hs
  | partialResult =>
    exact .guard rfl fun _ _ => .guard rfl fun _ _ => sendOperationPartialResult_ensures
  | progress => exact .guard rfl fun _ _ => .guard rfl fun _ _ => sendOperationProgress_ensures
  | resultDrop =>
    exact .guard rfl fun _ _ => .guard rfl fun _ _ => sendOperationResultDrop_ensures hs
  | controlRequest => exact sendControlRequest_ensures hs
  | supersede => exact supersedeOperation_ensures hs
  | _ => cases h

theorem Send.perform_ensures (hs : Correlated s) (send : Send) :
    Always (send.perform written) s (Sent s (send.Loses written s)) := by
  cases send with
  | operationResult => exact sendOperationResult_sent hs Iff.rfl
  | result op =>
    refine .check_bind (fun e he => .same ?_ rfl) fun _ hrequire => ?_
    · intro hlost
      rw [hlost.1] at he
      cases he
    · exact sendOperationResult_sent hs (and_iff_right hrequire)
  | operationPartialResult | operationProgress | operationResultDrop | partialResult | progress
  | resultDrop | controlRequest | supersede => exact sent_of_written (perform_written hs trivial)
  | cachePut => exact sent_of_keeps sendCachePut_keeps
  | backpressure | creditUpdate => exact sent_of_keeps (sendPressure_keeps core_apart)
  | prepared => exact sent_of_keeps (sendPrepared_keeps core_apart)
  | ackClose => exact sent_of_keeps (ackClose_keeps core_apart)
  | closeInPlace => exact sent_of_keeps (closeInPlace_keeps core_apart)

end

section
variable {s : NnrpServerSession} {c : Call} {ans : Answer} {α β : Type}
variable {input : PendingServerInput} {t : NnrpServerSession} (p : RuntimePacket)

theorem decodeFrameCancel_returns :
    Returns (fun ev => (PendingServerInput.event ev).cancel.isSome = true)
      (decodeFrameCancel p) := by
  refine .bind fun _ => .bind fun _ => .bind fun _ => .bind fun _ => .bind fun _ => ?_
  exact .bind fun _ => .bind fun _ => .pure rfl

theorem decodeControl_returns :
    Returns (fun ev => (PendingServerInput.event ev).runtimeControl.isSome = true)
      (decodeControl p) := by
  refine .bind fun _ => .bind fun _ => .bind fun _ => .bind fun _ => .bind fun _ => ?_
  refine .bind fun _ => ?_
  split
  · exact .pure rfl
  · exact .bind fun _ => .bind fun _ => .bind fun _ => .pure rfl

theorem decodeScheduling_returns (now : UInt64) :
    Returns (fun ev => (PendingServerInput.event ev).schedulingUpdate.isSome = true)
      (decodeScheduling p now) := by
  refine .bind fun _ => .bind fun _ => .bind fun _ => .bind fun _ => .bind fun bound => ?_
  cases bound with
  | some expectedFrameId => exact .bind fun _ => .bind fun _ => .bind fun _ => .pure rfl
  | none =>
    dsimp only
    split
    · exact .bind fun _ => .bind fun _ => .bind fun _ => .pure rfl
    · exact .bind fun _ => .pure rfl

theorem decodeClose_returns :
    Returns (fun ev => (PendingServerInput.event ev).close.isSome = true) (decodeClose p) :=
  .bind fun _ => .bind fun _ => .bind fun _ => .bind fun _ => .pure rfl

theorem decodePressure_yields (sess : DecoderSession) (p : RuntimePacket) :
    Yields (fun update => ∃ m, update = .pressure p.messageType m) (sess.decodePressure p) := by
  refine .bind fun _ => .ite .error ?_
  exact .bind fun _ => .bind fun _ => .ok ⟨_, rfl⟩

theorem decodePressure_returns (sess : DecoderSession) (p : RuntimePacket) :
    Returns (fun ev => (PendingServerInput.event ev).pressureUpdate.isSome = true)
      (decodeUpdate (sess.decodePressure p)) := by
  refine .lift_bind fun update hupdate => ?_
  obtain ⟨m, rfl⟩ := (decodePressure_yields sess p).of_ok update hupdate
  exact .bind fun _ => .bind fun _ => .pure rfl

variable {p : RuntimePacket}

theorem decodeServerEvent_expected (now : UInt64)
    (hrole : isDedicatedRoleMessage p.messageType = false) :
    Returns (fun ev => ∀ kind : Receive, kind.accepts p.messageType = true →
      kind.expects (.event ev) = true) (decodeServerEvent p now) := by
  refine ⟨fun s ev s' hcall kind haccepts => ?_⟩
  cases kind with
  | ping | pong | patch | migrate | cachePut | cacheAck =>
    rw [Receive.forRole_of_accepts haccepts] at hrole
    cases hrole
  | cancel =>
    rw [decodeServerEvent, of_decide_eq_true haccepts] at hcall
    exact (decodeFrameCancel_returns p).of_ok s ev s' hcall
  | close =>
    rw [decodeServerEvent, of_decide_eq_true haccepts] at hcall
    exact (decodeClose_returns p).of_ok s ev s' hcall
  | runtimeControl =>
    rcases of_decide_eq_true haccepts with htype | htype
    all_goals
      rw [decodeServerEvent, htype] at hcall
      exact (decodeControl_returns p).of_ok s ev s' hcall
  | schedulingUpdate =>
    rcases of_decide_eq_true haccepts with htype | htype | htype
    all_goals
      rw [decodeServerEvent, htype] at hcall
      exact (decodeScheduling_returns p now).of_ok s ev s' hcall
  | pressureUpdate =>
    rcases of_decide_eq_true haccepts with htype | htype
    all_goals
      have hupdate : s.decoder.decodeUpdate p = some (s.decoder.decodePressure p) := by
        rw [DecoderSession.decodeUpdate, htype]
      rw [decodeServerEvent, htype] at hcall
      dsimp only at hcall
      rw [call_bind_read s hupdate] at hcall
      exact (decodePressure_returns s.decoder p).of_ok s ev s' hcall

theorem Read.queued (h : Read s p input t) :
    t.pendingInputs.length = s.pendingInputs.length + queuedFor s p := by
  cases h with
  | event hdecd hexp hqueued hsubmit => exact hqueued
  | role hrole =>
    have hends : endsOperation p.messageType = false := by
      revert hrole
      cases p.messageType <;> decide
    rw [queuedFor_of_not_ends hends]
    rfl

inductive Unread (s : NnrpServerSession) (answer : Answer) : NnrpServerSession → Prop
  | same : Unread s answer s
  | refused {packet : RuntimePacket} {t : NnrpServerSession} (hinput : answer.input = .ok packet)
      (hrefused : Refused s packet t) : Unread s answer t

theorem readNextInput_reads (hs : Correlated s) :
    Ensures (readNextInput ans.input ans.nowUnixMs) s
      (fun input t => ∃ p, ans.input = .ok p ∧ Read s p input t) (Unread s ans) := by
  refine .guard .same fun p hinput => ?_
  refine .guard .same fun _ _ => ?_
  by_cases hrole : isDedicatedRoleMessage p.messageType = true
  · rw [if_pos hrole]
    exact .pure ⟨p, hinput, .role hrole⟩
  · rw [if_neg hrole]
    have hexp := decodeServerEvent_expected ans.nowUnixMs (Bool.eq_false_of_not_eq_true hrole)
    have hdecodes := (hexp.ensures (decodeServerEvent_ensures hs)).both
      ((decodeServerEvent_queues hs).both (decodeServerEvent_submits hs))
    refine .bind_of hdecodes (fun t href => ?_) fun ev t h => ?_
    · exact .refused hinput href.1
    · obtain ⟨⟨hdecd, hexp⟩, hqueued, hsubmit⟩ := h
      exact .pure ⟨p, hinput, .event hdecd hexp hqueued hsubmit⟩

theorem readNextInput_ensures (hs : Correlated s) (hanswer : c.packet = ans.input.toOption)
    (hsend : c.isSend = false) : Ensures (readNextInput ans.input ans.nowUnixMs) s
      (fun input t => ∃ p, c.packet = some p ∧ Read s p input t) (Moved s c none) := by
  have hpkt {p : RuntimePacket} (hinput : ans.input = .ok p) :
      c.packet = some p := by
    rw [hanswer, hinput]
    rfl
  refine (readNextInput_reads hs).imp ?_ ?_
  · intro input t h
    obtain ⟨p, hinput, hread⟩ := h
    exact ⟨p, hpkt hinput, hread⟩
  · intro t h
    cases h with
    | same => exact .queued hsend rfl (.same _)
    | refused hinput href => exact .refused (hpkt hinput) rfl href rfl

variable {done : β → NnrpServerSession → Prop}

theorem readNextInput_bind (hs : Correlated s) (hanswer : c.packet = ans.input.toOption)
    (hsend : c.isSend = false) {g : PendingServerInput → ServerM β}
    (hrest : ∀ p input t, c.packet = some p → Read s p input t →
      Ensures (g input) t done (Moved s c none)) :
    Ensures (readNextInput ans.input ans.nowUnixMs >>= g) s done (Moved s c none) := by
  refine .bind _ (readNextInput_ensures hs hanswer hsend) fun input t hread => ?_
  obtain ⟨p, hpkt, hread⟩ := hread
  exact hrest p input t hpkt hread

theorem retainPendingInput_ensures : Ensures (retainPendingInput input) t
      (fun _ t' => t.pendingInputs.length < maxPendingServerInputs ∧ t' = t.pushInput input)
      (fun t' => ¬t.pendingInputs.length < maxPendingServerInputs ∧ t' = t) := by
  refine .check_bind (fun e he => ⟨fun h => ?_, rfl⟩) fun _ hcap => .write ⟨?_, rfl⟩
  · rw [ensurePendingCapacity_of h] at he
    cases he
  · exact ensurePendingCapacity_room hcap

theorem retainPendingInput_bind {g : Unit → ServerM β} {failed : NnrpServerSession → Prop}
    (hfull : ¬t.pendingInputs.length < maxPendingServerInputs → failed t)
    (hroom : t.pendingInputs.length < maxPendingServerInputs →
      Ensures (g ()) (t.pushInput input) done failed) :
    Ensures (retainPendingInput input >>= g) t done failed := by
  refine .bind_of retainPendingInput_ensures ?_ ?_
  · intro t' h
    obtain ⟨hnone, rfl⟩ := h
    exact hfull hnone
  · intro _ t' h
    obtain ⟨h, rfl⟩ := h
    exact hroom h

theorem awaitEvent_ensures (hs : Correlated s) :
    Ensures (awaitEvent ans.input ans.nowUnixMs) s
      (fun ev s' => Moved s (.awaitEvent ans) (some ev) s')
      (Moved s (.awaitEvent ans) none) := by
  refine .check_ok_bind rfl ?_
  cases hinputs : s.pendingInputs with
  | nil =>
    refine readNextInput_bind hs rfl rfl fun p input t hpkt hread => ?_
    cases input with
    | event ev => exact .pure (.read hpkt hread rfl (.handed ev))
    | rolePacket p =>
      refine retainPendingInput_bind (fun _ => ?_) fun hroom => .lift_error ?_
      · exact .read hpkt hread rfl (.released _)
      · exact .read hpkt hread rfl (.retained _ hroom)
  | cons input rest =>
    cases input with
    | event ev =>
      refine .write_bind (.pure (.queued rfl rfl ?_))
      rw [hinputs]
      exact .handed ev rest
    | rolePacket p => exact .lift_error (.queued rfl rfl (.same _))

theorem submitRound_ensures (hs : Correlated s) :
    Always (submitRound ans) s (Moved s (.submitRound ans) none) := by
  refine readNextInput_bind hs rfl rfl fun p input t hpkt hread => ?_
  have hrel : Moved s (.submitRound ans) none t := .read hpkt hread rfl (.released input)
  have hretained (hroom : t.pendingInputs.length < maxPendingServerInputs) :
      Moved s (.submitRound ans) none (t.pushInput input) :=
    .read hpkt hread rfl (.retained input hroom)
  split
  · exact .pure hrel
  · exact retainPendingInput_bind (fun _ => hrel) fun hroom => .lift_error (hretained hroom)
  · exact retainPendingInput_bind (fun _ => hrel) fun hroom => .pure (hretained hroom)

theorem eraseP_append_cons {p : α → Bool} {before after : List α} {a : α} (ha : p a = true)
    (hbefore : ∀ b ∈ before, p b = false) : (before ++ a :: after).eraseP p = before ++ after := by
  rw [eraseP_append_right _ fun b hb => by simp [hbefore b hb], eraseP_cons_of_pos ha]

theorem PendingServerInput.isLifecycle_of_submit (h : input.submit.isSome = true) :
    input.isLifecycle = false := by
  unfold submit at h
  split at h
  · rfl
  · rfl
  · cases h

theorem searchSubmit_ensures : Always searchSubmit s (Moved s .searchSubmit none) := by
  have hkept : Moved s .searchSubmit none s := .queued rfl rfl (.same _)
  refine .check_ok_bind rfl ?_
  cases hfound : s.pendingInputs.findSome? submit with
  | none => exact .pure hkept
  | some found =>
    cases found with
    | error e => exact .lift_error hkept
    | ok op =>
      obtain ⟨before, input, after, hinputs, hinput, hbefore⟩ := findSome?_eq_some_iff.mp hfound
      have hsubmit : input.submit.isSome = true := by
        rw [hinput]
        rfl
      have herase : s.pendingInputs.eraseP (·.submit.isSome) = before ++ after := by
        rw [hinputs]
        refine eraseP_append_cons hsubmit fun earlier hearlier => ?_
        rw [hbefore earlier hearlier]
        rfl
      refine .write_bind (.pure (.queued rfl rfl ?_))
      dsimp only
      rw [herase, hinputs]
      exact .taken (isLifecycle_of_submit hsubmit)

theorem takePendingSpecializedInput_cases (s : NnrpServerSession) :
    (∀ earlier ∈ s.pendingInputs, earlier.isLifecycle = true) ∧
        call takePendingSpecializedInput s = (.ok none, s) ∨
      ∃ before input after, s.pendingInputs = before ++ input :: after ∧
        (∀ earlier ∈ before, earlier.isLifecycle = true) ∧ input.isLifecycle = false ∧
        call takePendingSpecializedInput s =
          (.ok (some input), { s with pendingInputs := before ++ after }) := by
  cases hfound : s.pendingInputs.find? (!·.isLifecycle) with
  | none =>
    refine .inl ⟨fun earlier hearlier => ?_, (call_bind_read s hfound).trans rfl⟩
    have hnone := find?_eq_none.mp hfound earlier hearlier
    rw [Bool.not_eq_true', Bool.not_eq_false] at hnone
    exact hnone
  | some input =>
    obtain ⟨hinput, before, after, hinputs, hbefore⟩ := find?_eq_some_iff_append.mp hfound
    rw [Bool.not_eq_true'] at hinput
    have hearlier : ∀ earlier ∈ before, earlier.isLifecycle = true := by
      intro earlier hmem
      have h := hbefore earlier hmem
      rw [Bool.not_not] at h
      exact h
    have herase : s.pendingInputs.eraseP (!·.isLifecycle) = before ++ after := by
      rw [hinputs]
      apply eraseP_append_cons
      · rw [hinput]
        rfl
      · intro earlier hmem
        rw [hearlier earlier hmem]
        rfl
    refine .inr ⟨before, input, after, hinputs, hearlier, hinput,
      (call_bind_read s hfound).trans ?_⟩
    change (_, { s with pendingInputs := s.pendingInputs.eraseP (!·.isLifecycle) }) = _
    rw [herase]

theorem takePendingSpecializedInput_none
    (hpend : ∀ input ∈ s.pendingInputs, input.isLifecycle = true) :
    call takePendingSpecializedInput s = (.ok none, s) := by
  have hfound : s.pendingInputs.find? (!·.isLifecycle) = none := by
    rw [find?_eq_none]
    intro input hmem
    simp [hpend input hmem]
  exact (call_bind_read s hfound).trans rfl

theorem receiveSpecialized_ensures (hs : Correlated s) {kind : Receive}
    {select : PendingServerInput → Option α}
    (hselect : ∀ input, (select input).isSome = kind.expects input) :
    Always (receiveSpecialized select error ans) s (Moved s (.receive kind ans) none) := by
  -- The input may go back to the front in any case; it is a read one only if none was pending.
  refine .bind (fun input t =>
    Moved s (.receive kind ans) none t ∧ (kind.expects input = false →
      Moved s (.receive kind ans) none (t.pushFront input))) ?_ ?_
  · rcases takePendingSpecializedInput_cases s with
      ⟨hpend, htake⟩ | ⟨before, input, after, hinputs, hbefore, hinput, htake⟩
    · refine .call_ok_bind htake ((readNextInput_ensures hs rfl rfl).imp ?_ fun _ h => h)
      intro input t hread
      obtain ⟨p, hpkt, hread⟩ := hread
      refine ⟨.read hpkt hread rfl (.released input), fun hexpects => ?_⟩
      exact .read hpkt hread rfl (.fronted rfl hexpects hpend)
    · refine .call_ok_bind htake (.pure ⟨.queued rfl rfl ?_, fun _ => .queued rfl rfl ?_⟩)
      · rw [hinputs]
        exact .taken hinput
      · rw [hinputs]
        exact .moved hbefore hinput
  · intro input t ht
    cases hvalue : select input with
    | some value => exact .pure ht.1
    | none =>
      refine .write_bind (.lift_error (ht.2 ?_))
      rw [← hselect, hvalue]
      rfl

theorem Receive.perform_after {τ : Type} {f : NnrpServerSession → τ} {Q : τ → Prop}
    (htrack : ∀ objectId (s : NnrpServerSession), Q (f s) →
      Always (trackCacheObject objectId) s fun s' => Q (f s')) (kind : Receive)
    (hfirst : ∀ {α : Type} {error : String} {select : PendingServerInput → Option α},
      (∀ input, (select input).isSome = kind.expects input) →
        Always (receiveSpecialized select error ans) s fun s' => Q (f s')) :
    Always (kind.perform ans) s fun s' => Q (f s') := by
  cases kind with
  | ping | pong =>
    exact Keeps.after (fun _ => .bind .check fun _ => .refuse) (hfirst fun _ => rfl)
  | cancel | runtimeControl | schedulingUpdate | pressureUpdate | close =>
    exact Keeps.after (fun _ => .pure) (hfirst fun _ => rfl)
  | patch | migrate =>
    refine Keeps.after (fun _ => .pure) (Keeps.after (fun _ => ?_) (hfirst fun _ => rfl))
    exact .bind .check fun _ => .bind .lift fun _ => .lift
  | cachePut =>
    refine Keeps.after (fun _ => .pure) (.bind _ (hfirst fun _ => rfl) fun p t ht => ?_)
    refine .guard ht fun _ _ => .guard ht fun _ _ => ?_
    refine .guard ht fun m _ => .guard ht fun _ _ => ?_
    refine .guard ht fun _ _ => ?_
    exact Keeps.after (fun _ => .pure) (htrack _ t ht)
  | cacheAck =>
    refine Keeps.after (fun _ => .pure) (Keeps.after (fun _ => ?_) (hfirst fun _ => rfl))
    exact .bind .check fun _ => .bind .refuse fun _ => .lift

theorem Receive.perform_ensures (hs : Correlated s) (kind : Receive) :
    Always (kind.perform ans) s (Moved s (.receive kind ans) none) := by
  let Q : Core → Prop := fun core => ∃ t : NnrpServerSession,
    t.core = core ∧ Moved s (.receive kind ans) none t
  have hafter : Ensures (kind.perform ans) s _ _ :=
    kind.perform_after (Q := Q) (fun _ _ => trackCacheObject_keeps.always) fun hselect =>
      (receiveSpecialized_ensures hs hselect).imp (fun _ t ht => ⟨t, rfl, ht⟩)
        fun t ht => ⟨t, rfl, ht⟩
  refine hafter.imp (fun _ s' h => ?_) fun s' h => ?_
  all_goals
    obtain ⟨t, hcore, ht⟩ := h
    exact ht.of_core rfl hcore.symm

theorem Call.perform_ensures (hs : Correlated s) (c : Call) :
    Ensures c.perform s (Moved s c) (Moved s c none) := by
  cases c with
  | awaitEvent ans => exact .bind _ (awaitEvent_ensures hs) fun _ _ h => .pure h
  | searchSubmit => exact .bind _ searchSubmit_ensures fun _ _ h => .pure h
  | submitRound ans => exact .bind _ (submitRound_ensures hs) fun _ _ h => .pure h
  | receive kind ans => exact .bind _ (kind.perform_ensures hs) fun _ _ h => .pure h
  | trackCacheObject objectId =>
    have hmoved {s' : NnrpServerSession} (hcore : s'.core = s.core) :
        Moved s (.trackCacheObject objectId) none s' := by
      refine .queued rfl (bindings_of_core hcore) ?_
      rw [pendingInputs_of_core hcore]
      exact .same _
    refine .bind (fun _ s' => s'.core = s.core) ?_ fun _ _ hcore => .pure (hmoved hcore)
    exact (trackCacheObject_keeps.ensures s).imp (fun _ _ h => h) fun _ => hmoved
  | send req written =>
    refine .bind (fun _ s' => Sent s (req.Loses written s) s') ?_ fun _ _ h =>
      .pure (.sent rfl rfl h)
    exact (req.perform_ensures hs).imp (fun _ _ h => h) fun _ h => .sent rfl rfl h

end

def Call.reads (s : NnrpServerSession) : Call → Option Answer
  | .awaitEvent answer => if s.pendingInputs = [] then some answer else none
  | .submitRound answer => some answer
  | .receive _ answer => if s.pendingInputs.find? (!·.isLifecycle) = none then some answer else none
  | .searchSubmit | .trackCacheObject _ | .send _ _ => none

variable {τ : Type} {f : NnrpServerSession → τ} {Q : τ → Prop} {s : NnrpServerSession}
  (hpending : ∀ (s : NnrpServerSession) inputs, f { s with pendingInputs := inputs } = f s)
include hpending

theorem retainPendingInput_keeps {input : PendingServerInput} :
    Keeps f (retainPendingInput input) :=
  .bind .check fun _ => .write fun s => hpending s _

theorem receiveSpecialized_after {α : Type} {select : PendingServerInput → Option α} {ans : Answer}
    (hself : s.pendingInputs.find? (!·.isLifecycle) ≠ none → Q (f s))
    (hread : s.pendingInputs.find? (!·.isLifecycle) = none →
      Always (readNextInput ans.input ans.nowUnixMs) s fun s' => Q (f s')) :
    Always (receiveSpecialized select error ans) s fun s' => Q (f s') := by
  refine Keeps.after (fun input => ?_) ?_
  · cases select input with
    | some value => exact .pure
    | none => exact .bind (.write fun s => hpending s _) fun _ => .lift
  · cases hfound : s.pendingInputs.find? (!·.isLifecycle) with
    | none =>
      have htake : call takePendingSpecializedInput s = (.ok none, s) :=
        (call_bind_read s hfound).trans rfl
      exact .call_ok_bind htake (hread hfound)
    | some input =>
      have htake : call takePendingSpecializedInput s = (.ok (some input), _) :=
        (call_bind_read s hfound).trans rfl
      refine .call_ok_bind htake (.pure ?_)
      rw [hpending]
      exact hself (hfound ▸ Option.some_ne_none input)

theorem searchSubmit_keeps : Keeps f searchSubmit := by
  refine .bind .check fun found => ?_
  split
  · exact .pure
  · exact .lift
  · exact .bind (.write fun s => hpending s _) fun _ => .pure

theorem Call.perform_after (c : Call) (hself : c.reads s = none → Q (f s))
    (hread : ∀ ans ∈ c.reads s,
      Always (readNextInput ans.input ans.nowUnixMs) s fun s' => Q (f s'))
    (htrack : ∀ objectId (s : NnrpServerSession), Q (f s) →
      Always (Server.trackCacheObject objectId) s fun s' => Q (f s'))
    (hsend : ∀ send written, c = .send send written →
      Always (send.perform written) s fun s' => Q (f s')) :
    Always c.perform s fun s' => Q (f s') := by
  cases c with
  | awaitEvent ans =>
    refine Keeps.after (fun _ => .pure) (.check_ok_bind rfl ?_)
    cases hinputs : s.pendingInputs with
    | nil =>
      refine Keeps.after (fun input => ?_) (hread ans (if_pos hinputs))
      cases input with
      | event ev => exact .pure
      | rolePacket p => exact .bind (retainPendingInput_keeps hpending) fun _ => .lift
    | cons input rest =>
      have hself := hself (if_neg (hinputs ▸ cons_ne_nil input rest))
      cases input with
      | event ev => exact .write_bind (.pure ((hpending s rest).symm ▸ hself))
      | rolePacket p => exact .lift_error hself
  | submitRound ans =>
    refine Keeps.after (fun _ => .pure) (Keeps.after (fun input => ?_) (hread ans rfl))
    split
    · exact .pure
    · exact .bind (retainPendingInput_keeps hpending) fun _ => .lift
    · exact .bind (retainPendingInput_keeps hpending) fun _ => .pure
  | receive kind ans =>
    refine Keeps.after (fun _ => .pure) (kind.perform_after htrack fun _ => ?_)
    exact receiveSpecialized_after hpending (fun h => hself (if_neg h)) fun h =>
      hread ans (if_pos h)
  | searchSubmit =>
    exact Keeps.always (.bind (searchSubmit_keeps hpending) fun _ => .pure) (hself rfl)
  | trackCacheObject objectId =>
    exact Keeps.after (fun _ => .pure) (htrack objectId s (hself rfl))
  | send send written => exact Keeps.after (fun _ => .pure) (hsend send written rfl)

end Nnrp.Server
