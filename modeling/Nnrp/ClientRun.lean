import Nnrp.ClientLedger

/-!
# Runs of a client session

The calls of an application on one session. A request that waits for its acknowledgement borrows
the session, so until it is answered or dropped the session only reads. The reads of packets pass
over the queue of lifecycle events, which the other reads serve first.
-/

namespace Nnrp.Client
open Protocol ByteOrder Packet Control Stateful RuntimeEvent Session NnrpClientSession
open Submit (NnrpSubmitRequest)
open PreSubmit (PreSubmitDeadlineReservations)
open Lifecycle (ConnectionLifecycle)

/-- What tells the application that an operation has ended: a lifecycle event of the session, or a
result from the wire. -/
inductive Evidence
  | lifecycle | wire
  deriving DecidableEq

def Evidence.ofTerminal : NnrpTerminalEvent → Evidence
  | .runtime _ _ => .wire
  | .lifecycle _ => .lifecycle

inductive Notice
  | ended (operationId : UInt64) (evidence : Evidence)
  | output (operationId : UInt64)
  deriving DecidableEq

def Received.notice : Received → Option Notice
  | .lifecycle e => if e.state.isTerminal then some (.ended e.operationId .lifecycle) else none
  | .result r => some (.ended r.operationId (.ofTerminal r.event))
  | .event (.result r) => some (.ended r.operationId (.ofTerminal r.event))
  | .event e => e.output.map .output

inductive Request
  | patch | close
  deriving DecidableEq

def Request.round : Request → Except RuntimeError RuntimePacket → SessionM Bool
  | .patch => patchRound
  | .close => closeRound

inductive PacketRead
  | await
  | awaitBatch (maxEvents : ℕ)
  | pollBatch (maxEvents : ℕ)
  deriving DecidableEq

def PacketRead.perform : PacketRead → ReaderM (List Entry)
  | .await => do
    let entry ← awaitEventPacket
    pure entry.toList
  | .awaitBatch maxEvents => do
    let entries ← awaitEventPacketBatch maxEvents
    pure (entries.getD [])
  | .pollBatch maxEvents => pollEventPacketBatch maxEvents

/-- The calls, with the answers of the transport. `other` stands for the calls that neither send nor
receive anything about the end or the output of an operation: they may change these fields. -/
inductive Call
  | submit (request : NnrpSubmitRequest) (nowUnixMs : UInt64) (written : Except RuntimeError Unit)
  | control (messageType : MessageType) (metadata : ControlRequestMetadata) (diagnostics : Bytes)
      (written : Except RuntimeError Unit)
  | cancelFrame (frameId : UInt32) (written : Except RuntimeError Unit)
  | supersede (metadata : SupersedeMetadata) (diagnostics : Bytes)
      (written : Except RuntimeError Unit)
  | awaitEvent (input : Except RuntimeError RuntimePacket)
  | awaitResult (input : Except RuntimeError RuntimePacket)
  | pollEvent (input : Except RuntimeError (Option RuntimePacket))
  | readPackets (read : PacketRead) (inbound : List Arrival)
  | patchSession (patch : SessionPatchMetadata) (written : Except RuntimeError Unit)
  | closeWith (close : SessionCloseMetadata) (written : Except RuntimeError Unit)
  | readAck (input : Except RuntimeError RuntimePacket)
  | dropRequest
  | other (deadlines : PreSubmitDeadlineReservations) (lifecycle : ConnectionLifecycle)
      (pressure : RuntimePressureState) (sent : List RuntimePacket)

structure State where
  session : NnrpClientSession
  waiting : Option Request := none
  received : List Received := []

namespace State

def opened (sessionId : UInt32) (maxInFlightOperations : UInt16)
    (lifecycle : ConnectionLifecycle) : State where
  session := .opened sessionId maxInFlightOperations lifecycle

variable (w : State)

def after {α : Type} (m : SessionM α) : State := { w with session := (call m w.session).2 }

def receive (m : SessionM (Option Received)) : State :=
  { w with
    session := (call m w.session).2
    received := w.received ++ (call m w.session).1.toOption.join.toList }

def receiveEntries (m : ReaderM (List Entry)) (inbound : List Arrival) : State :=
  { w with
    session := (call m ⟨w.session, inbound⟩).2.session
    received := w.received ++
      ((call m ⟨w.session, inbound⟩).1.toOption.getD []).map fun entry => .event entry.1 }

def start (request : Request) (m : SessionM Unit) : State :=
  { w with
    session := (call m w.session).2
    waiting := if (call m w.session).1.isOk then some request else none }

def round (m : SessionM Bool) : State :=
  { w with
    session := (call m w.session).2
    waiting := if (call m w.session).1.toOption = some false then w.waiting else none }

end State

def step (w : State) (c : Call) : Option State :=
  match w.waiting, c with
  | none, .submit request nowUnixMs written =>
    some (w.after (submitNowait request nowUnixMs written))
  | none, .control messageType metadata diagnostics written =>
    some (w.after (sendControlRequestWithDiagnostics messageType metadata diagnostics written))
  | none, .cancelFrame frameId written => some (w.after (cancelFrame frameId written))
  | none, .supersede metadata diagnostics written =>
    some (w.after (supersedeOperation metadata diagnostics written))
  | none, .awaitEvent input => some (w.receive (some <$> awaitEvent input))
  | none, .awaitResult input => some (w.receive (some <$> awaitResult input))
  | none, .pollEvent input => some (w.receive (pollEvent input))
  | none, .readPackets read inbound => some (w.receiveEntries read.perform inbound)
  | none, .patchSession patch written => some (w.start .patch (patchSession patch written))
  | none, .closeWith close written => some (w.start .close (closeWith close written))
  | none, .other deadlines lifecycle pressure sent =>
    some { w with session := { w.session with
      preSubmitDeadlines := deadlines, lifecycle, pressure, sent } }
  | some request, .readAck input => some (w.round (request.round input))
  | some _, .dropRequest => some { w with waiting := none }
  | _, _ => none

def Call.readsPackets : Call → Bool
  | .readPackets _ _ => true
  | _ => false

def Call.marks (l : Ledger) : Call → Option UInt64
  | .cancelFrame frameId _ => l.operations[frameId]?
  | .supersede metadata _ _ => some metadata.oldOperationId
  | .readAck (.ok packet) => markedBy packet
  | _ => none

def dropReasonPacket (operationId : UInt64) (frameId : UInt32) : RuntimePacket where
  header := { CommonHeader.new .resultDropReason 32 0 with sessionId := 7, frameId }
  metadata := (ResultDropReasonMetadata.toBytes
    { operationId, resultSequence := 1, dropReasonCode := 1, sourceRole := 2, flags := 0
      diagnosticBytes := 0 }).toOption.getD []
  body := []

def sampleProgress (operationId : UInt64) : ProgressMetadata where
  operationId := operationId
  progressSequence := 1
  stageCode := 0
  percentX100 := 0
  objectId := 0
  bodyBytes := 0

def progressPacket (operationId : UInt64) (frameId : UInt32) : RuntimePacket where
  header := { CommonHeader.new .progress 32 0 with sessionId := 7, frameId }
  metadata := (sampleProgress operationId).toBytes.toOption.getD []
  body := []

inductive Taken (a : Account) : NnrpClientEvent → Account → Prop
  | queued {event : NnrpClientEvent} {rest : List NnrpClientEvent} (h : a.events = event :: rest) :
      Taken a event { a with events := rest }
  | read {packet : RuntimePacket} {event : NnrpClientEvent} {a' : Account} (h : a.events = [])
      (hread : Decoded a packet event a') : Taken a event a'

inductive TakenAll : Account → List NnrpClientEvent → Account → Prop
  | nil {a : Account} : TakenAll a [] a
  | cons {a a' a'' : Account} {event : NnrpClientEvent} {events : List NnrpClientEvent}
      (h : Taken a event a') (hrest : TakenAll a' events a'') : TakenAll a (event :: events) a''

/-- The effects of a call, with what it hands to the application. An event may be lost on the way:
`await_result` drops what is not a result, a batch that fails drops what it has collected, and a
full queue takes no further event. -/
inductive Moved (a : Account) (c : Call) : List Notice → Account → Prop
  | refused {a' : Account} (h : Refused a a') : Moved a c [] a'
  | submitted {operationId : UInt64} {frameId : UInt32} (hzero : operationId ≠ 0)
      (hseen : operationId ∉ a.ledger.seen) (hnext : a.ledger.next ≤ frameId)
      (hlast : frameId < frameId + 1) :
      Moved a c [] { a with ledger := a.ledger.submit operationId frameId }
  | marked {operationId : UInt64} {frameId : UInt32} {state : OperationState}
      (hmark : c.marks a.ledger = some operationId)
      (hbound : a.ledger.frames[operationId]? = some frameId)
      (hopen : a.ledger.marks[operationId]? = none) (hstate : state.isTerminal = true) :
      Moved a c [] (a.mark operationId state)
  | tookLifecycle {event : OperationLifecycleEvent} {rest : List OperationLifecycleEvent}
      {new : List Notice} (h : a.lifecycle = event :: rest)
      (hnew : new.Sublist (Received.lifecycle event).notice.toList) :
      Moved a c new { a with lifecycle := rest }
  | took {event : NnrpClientEvent} {a' : Account} {new : List Notice} (hrole : a.lifecycle = [])
      (h : Taken a event a') (hnew : new.Sublist (Received.event event).notice.toList) :
      Moved a c new a'
  | tookPackets {events : List NnrpClientEvent} {a' a'' : Account} {new : List Notice}
      (hcall : c.readsPackets = true) (h : TakenAll a events a') (hlast : Refused a' a'')
      (hnew : new.Sublist (events.filterMap fun e => (Received.event e).notice)) :
      Moved a c new a''
  | kept {packet : RuntimePacket} {event : NnrpClientEvent} {a' : Account}
      (hcall : c = .readAck (.ok packet)) (h : Decoded a packet event a') :
      Moved a c [] (a'.retain event)
  | lost {packet : RuntimePacket} {event : NnrpClientEvent} {a' : Account}
      (hcall : c = .readAck (.ok packet)) (h : Decoded a packet event a') : Moved a c [] a'

variable {s : NnrpClientSession} {c : Call} {α : Type} {done : α → NnrpClientSession → Prop}
  {failed : NnrpClientSession → Prop}

abbrev Moves (s : NnrpClientSession) (c : Call) (m : SessionM α) : Prop :=
  Always m s fun s' => Moved s.account c [] s'.account

abbrev Gives (s : NnrpClientSession) (c : Call) (m : SessionM α) (notices : α → List Notice) :
    Prop :=
  Ensures m s (fun x s' => Moved s.account c (notices x) s'.account)
    fun s' => Moved s.account c [] s'.account

theorem Moved.same {a : Account} : Moved a c [] a := .refused .same

variable {p : RuntimePacket}

theorem writePacket_bind {written : Except RuntimeError Unit}
    {g : Unit → SessionM α} (hfailed : failed s) (hrest : Ensures (g ()) (s.send p) done failed) :
    Ensures (writePacket written p >>= g) s done failed := by
  refine .bind (fun _ s' => s' = s.send p) ?_ ?_
  · exact .guard hfailed fun _ _ => .write rfl
  · rintro _ _ rfl
    exact hrest

def Fresh (s : NnrpClientSession) (request : NnrpSubmitRequest) : Prop :=
  request.frameId ≠ 0 ∧ s.nextFrameId ≤ request.frameId ∧ request.frameId.toNat + 1 < 2 ^ 32 ∧
    request.metadata.operationId ≠ 0 ∧ request.metadata.operationId ∉ s.seenOperationIds

theorem prepareSubmit_call {req : NnrpSubmitRequest} {now : UInt64}
    {sess : Submit.NnrpClientSession} {result : Except RuntimeError RuntimePacket}
    (h : s.toNnrpClientSession.prepare req now = (sess, result)) : call (prepareSubmit req now) s =
      (result, { s with toNnrpClientSession := sess }) := by
  change ((s.toNnrpClientSession.prepare req now).2,
    { s with toNnrpClientSession := (s.toNnrpClientSession.prepare req now).1 }) = _
  rw [h]

theorem prepareSubmit_ensures (req : NnrpSubmitRequest) (now : UInt64) :
    Ensures (prepareSubmit req now) s
      (fun p s' => (∃ dls, s' = { s with preSubmitDeadlines := dls }) ∧
        Fresh s req ∧ s.submitPacket req = .ok p)
      (fun s' => ∃ dls, s' = { s with preSubmitDeadlines := dls }) := by
  rcases hprep : s.toNnrpClientSession.prepare req now with ⟨sess, result⟩
  rw [Ensures, prepareSubmit_call hprep]
  obtain ⟨⟨dls, rfl⟩, hpkt⟩ := Submit.prepare_cases hprep
  cases result with
  | error e => exact ⟨dls, rfl⟩
  | ok p => exact ⟨⟨dls, rfl⟩, hpkt p rfl⟩

variable (written : Except RuntimeError Unit)

theorem submitNowait_moved (req : NnrpSubmitRequest) (now : UInt64) :
    Moves s c (submitNowait req now written) := by
  refine .bind_of (prepareSubmit_ensures req now) ?_ ?_
  · rintro _ ⟨dls, rfl⟩
    exact .same
  · rintro p _ ⟨⟨dls, rfl⟩, ⟨-, hnext, hfits, hzero, hseen⟩, -⟩
    refine writePacket_bind .same (.write_bind (.pure ?_))
    have hlast : req.frameId < req.frameId + 1 := by
      rw [UInt32.lt_iff_toNat_lt, UInt32.toNat_add, UInt32.toNat_one, Nat.mod_eq_of_lt hfits]
      omega
    exact .submitted hzero hseen hnext hlast

theorem control_moved (ty : MessageType) (m : ControlRequestMetadata) (diags : Bytes) :
    Moves s c (sendControlRequestWithDiagnostics ty m diags written) := by
  refine .guard .same fun _ _ => ?_
  refine .guard .same fun _ _ => ?_
  refine .guard .same fun _ _ => ?_
  refine .guard .same fun fid _ => ?_
  refine .guard .same fun bytes _ => ?_
  refine .guard .same fun p _ => ?_
  refine writePacket_bind .same ?_
  by_cases hzero : m.operationId = 0
  · rw [if_pos hzero]
    exact .pure .same
  · rw [if_neg hzero]
    exact .write .same

theorem completeLocalOperation_moved {id : UInt64} {state : OperationState}
    (hmark : c.marks s.ledger = some id) (hstate : state.isTerminal = true) :
    Always (completeLocalOperation id state) (s.send p)
      fun s' => Moved s.account c [] s'.account := by
  refine (completeLocalOperation_ensures id state).imp ?_ ?_
  · rintro _ _ ⟨-, ⟨fid, hbound⟩, hopen, rfl⟩
    exact .marked hmark hbound hopen hstate
  · rintro _ (rfl | rfl)
    · exact .same
    · exact .refused (.zeroMark state)

theorem supersede_moved (m : SupersedeMetadata) (diags : Bytes) :
    Moves s (.supersede m diags written) (supersedeOperation m diags written) := by
  refine .guard .same fun _ _ => ?_
  refine .guard .same fun _ _ => ?_
  refine .guard .same fun fid _ => ?_
  refine .guard .same fun bytes _ => ?_
  refine .guard .same fun p _ => ?_
  exact writePacket_bind .same (completeLocalOperation_moved rfl rfl)

theorem cancelFrame_moved (fid : UInt32) :
    Moves s (.cancelFrame fid written) (cancelFrame fid written) := by
  refine .guard .same fun _ _ => ?_
  refine .guard .same fun id hop => ?_
  refine .guard .same fun p _ => ?_
  have hmark : s.frameOperations[fid]? = some id := by
    split at hop
    · rename_i bound hbound
      cases hop
      exact hbound
    · cases hop
  exact writePacket_bind .same (completeLocalOperation_moved hmark rfl)

theorem account_events_eq {entry : NnrpClientEvent × RuntimePacket}
    {rest : List (NnrpClientEvent × RuntimePacket)} (h : s.pendingEvents = entry :: rest) :
    s.account.events = entry.1 :: rest.map Prod.fst := by
  change s.pendingEvents.map Prod.fst = _
  rw [h]
  rfl

theorem account_events_eq_nil (h : s.pendingEvents = []) : s.account.events = [] := by
  change s.pendingEvents.map Prod.fst = _
  rw [h]
  rfl

theorem awaitClientEventPacket_ensures (input : Except RuntimeError RuntimePacket) :
    Ensures (awaitClientEventPacket input) s (fun entry s' => Taken s.account entry.1 s'.account)
      (fun s' => Refused s.account s'.account) := by
  refine .popFront_bind (fun hnil => ?_) fun entry rest hcons => ?_
  · refine .guard .same fun p _ => ?_
    exact decodeEventPacket_ensures.imp
      (fun entry _ h => .read (account_events_eq_nil hnil) h.2) fun _ h => h
  · exact .pure (.queued (account_events_eq hcons))

theorem pollEventPacket_ensures (input : Except RuntimeError (Option RuntimePacket)) :
    Ensures (pollEventPacket input) s (fun entry s' => (entry = none ∧ s' = s) ∨
        ∃ ev p, entry = some (ev, p) ∧ Taken s.account ev s'.account)
      (fun s' => Refused s.account s'.account) := by
  refine .popFront_bind (fun hnil => ?_) fun entry rest hcons => ?_
  · refine .guard .same fun p _ => ?_
    cases p with
    | none => exact .pure (.inl ⟨rfl, rfl⟩)
    | some p =>
      refine .bind _ decodeEventPacket_ensures fun entry _ h => .pure ?_
      exact .inr ⟨entry.1, entry.2, rfl, .read (account_events_eq_nil hnil) h.2⟩
  · exact .pure (.inr ⟨entry.1, entry.2, rfl, .queued (account_events_eq hcons)⟩)

theorem awaitEvent_moved (input : Except RuntimeError RuntimePacket) :
    Gives s c (awaitEvent input) (·.notice.toList) := by
  refine .popFront_bind (fun hnil => ?_) fun ev rest hcons => ?_
  · refine .bind_of (awaitClientEventPacket_ensures input) ?_ ?_
    · intro _ h
      exact .refused h
    · intro entry _ h
      exact .pure (.took hnil h (List.Sublist.refl _))
  · exact .pure (.tookLifecycle hcons (List.Sublist.refl _))

theorem fromLifecycle_notice {ev : OperationLifecycleEvent} {result : NnrpResult}
    (h : NnrpResult.fromLifecycle ev = .ok result) :
    (Received.result result).notice = (Received.lifecycle ev).notice := by
  have hterm : ev.state.isTerminal = true := by
    rw [NnrpResult.fromLifecycle] at h
    split_ifs at h
    split at h
    · cases h
    · rename_i state hstate
      revert hstate
      cases ev.state <;> simp [ResultTerminalState.fromOperationState, OperationState.isTerminal]
  obtain ⟨hid, hevent⟩ := NnrpResult.fromLifecycle_ok h
  simp [Received.notice, hterm, hid, hevent, Evidence.ofTerminal]

theorem awaitResult_moved (input : Except RuntimeError RuntimePacket) :
    Gives s c (awaitResult input) (·.notice.toList) := by
  refine .popFront_bind (fun hnil => ?_) fun ev rest hcons => ?_
  · refine .bind_of (awaitClientEventPacket_ensures input) ?_ ?_
    · intro _ h
      exact .refused h
    · rintro ⟨ev, p⟩ _ h
      cases ev with
      | result r => exact .pure (.took hnil h (List.Sublist.refl _))
      | partialResult | progress | control | supersede | update =>
        exact .lift_error (.took hnil h (List.nil_sublist _))
  · refine .guard (.tookLifecycle hcons (List.nil_sublist _)) fun result h => .pure ?_
    simp only [fromLifecycle_notice h]
    exact .tookLifecycle hcons (List.Sublist.refl _)

theorem pollEvent_moved (input : Except RuntimeError (Option RuntimePacket)) :
    Gives s c (pollEvent input) fun x => (x.bind Received.notice).toList := by
  refine .popFront_bind (fun hnil => ?_) fun ev rest hcons => ?_
  · refine .bind_of (pollEventPacket_ensures input) ?_ ?_
    · intro _ h
      exact .refused h
    · rintro _ _ (⟨rfl, rfl⟩ | ⟨ev, p, rfl, h⟩)
      · exact .pure .same
      · exact .pure (.took hnil h (List.Sublist.refl _))
  · exact .pure (.tookLifecycle hcons (List.Sublist.refl _))

theorem TakenAll.append {a a' a'' : Account} {events events' : List NnrpClientEvent}
    (h : TakenAll a events a') (h' : TakenAll a' events' a'') :
    TakenAll a (events ++ events') a'' := by
  induction h with
  | nil => exact h'
  | cons hfirst _ ih => exact .cons hfirst (ih h')

theorem Decoded.events_eq {a a' : Account} {ev : NnrpClientEvent} (h : Decoded a p ev a') :
    a'.events = a.events := by
  cases h <;> rfl

/-- What a read of packets has collected when it ends or fails. -/
abbrev Collects (r : Reader) (m : ReaderM α) (events : α → List NnrpClientEvent) : Prop :=
  Ensures m r (fun x r' => TakenAll r.session.account (events x) r'.session.account)
    fun r' => ∃ events a', TakenAll r.session.account events a' ∧ Refused a' r'.session.account

theorem TakenAll.collects {β : Type} {r r' : Reader} {m : ReaderM α} {f : α → β}
    {first : List NnrpClientEvent} {later : α → List NnrpClientEvent}
    {events : β → List NnrpClientEvent}
    (h : TakenAll r.session.account first r'.session.account) (hm : Collects r' m later)
    (hf : ∀ x, events (f x) = first ++ later x) :
    Ensures (m >>= fun x => pure (f x)) r'
      (fun y r'' => TakenAll r.session.account (events y) r''.session.account)
      fun r'' => ∃ events a', TakenAll r.session.account events a' ∧
        Refused a' r''.session.account := by
  refine .bind_of hm ?_ fun x r'' hrest => .pure ?_
  · rintro r'' ⟨events, a', hrest, href⟩
    exact ⟨_, a', h.append hrest, href⟩
  · rw [hf]
    exact h.append hrest

theorem onSession_ensures {m : SessionM α} {r : Reader} (h : Ensures m r.session done failed) :
    Ensures (onSession m) r (fun x r' => done x r'.session) fun r' => failed r'.session := by
  have hcall : call (onSession m) r =
      ((call m r.session).1, { r with session := (call m r.session).2 }) := rfl
  rw [Ensures, hcall]
  rw [Ensures] at h
  rcases hm : call m r.session with ⟨x, s'⟩
  rw [hm] at h
  cases x <;> exact h

theorem tryReadPacket_ensures {r : Reader} :
    Ensures tryReadPacket r (fun _ r' => r'.session = r.session)
      fun r' => r'.session = r.session := by
  obtain ⟨s, inbound⟩ := r
  cases inbound with
  | nil => exact .call_ok rfl rfl
  | cons arrival rest =>
    cases arrival with
    | ok p => exact .call_ok rfl rfl
    | error e => exact .call_error rfl rfl

theorem readEntry_ensures {r : Reader} (hempty : r.session.account.events = []) :
    Ensures readEntry r
      (fun entry r' => r'.session.account.events = [] ∧
        TakenAll r.session.account (entry.toList.map Prod.fst) r'.session.account)
      fun r' => Refused r.session.account r'.session.account := by
  refine .bind_of tryReadPacket_ensures (fun r' h => ?_) fun packet r' h => ?_
  · rw [h]
    exact .same
  · rw [← h] at hempty ⊢
    cases packet with
    | none => exact .pure ⟨hempty, .nil⟩
    | some p =>
      refine .bind_of (onSession_ensures decodeEventPacket_ensures) (fun _ h => h)
        fun entry _ h => ?_
      exact .pure ⟨h.2.events_eq.trans hempty, .cons (.read hempty h.2) .nil⟩

theorem popEvent_ensures : Ensures popEvent s
    (fun entry s' => entry = none ∧ s' = s ∧ s.account.events = [] ∨
      ∃ e, entry = some e ∧ Taken s.account e.1 s'.account) fun _ => False := by
  cases hpend : s.pendingEvents with
  | nil => exact .call_ok (call_popFront_nil hpend) (.inl ⟨rfl, rfl, account_events_eq_nil hpend⟩)
  | cons entry rest =>
    exact .call_ok (call_popFront_cons hpend) (.inr ⟨entry, rfl, .queued (account_events_eq hpend)⟩)

theorem takePending_ensures (n : ℕ) (r : Reader) :
    Ensures (takePending n) r
      (fun entries r' => (entries.length < n → r'.session.account.events = []) ∧
        TakenAll r.session.account (entries.map Prod.fst) r'.session.account)
      fun _ => False := by
  induction n generalizing r with
  | zero => exact .pure ⟨fun h => absurd h (Nat.not_lt_zero 0), .nil⟩
  | succ n ih =>
    refine .bind_of (onSession_ensures popEvent_ensures) (fun _ h => h) fun entry r' h => ?_
    rcases h with ⟨rfl, hsame, hempty⟩ | ⟨e, rfl, htaken⟩
    · rw [← hsame] at hempty ⊢
      exact .pure ⟨fun _ => hempty, .nil⟩
    · refine .bind_of (ih r') (fun _ h => h) fun entries r'' h => .pure ⟨fun hlt => ?_, ?_⟩
      · exact h.1 (Nat.lt_of_succ_lt_succ hlt)
      · exact .cons htaken h.2

theorem readBuffered_ensures (n : ℕ) (r : Reader)
    (hempty : 0 < n → r.session.account.events = []) :
    Collects r (readBuffered n) fun entries => entries.map Prod.fst := by
  induction n generalizing r with
  | zero => exact .pure .nil
  | succ n ih =>
    refine .bind_of (readEntry_ensures (hempty n.succ_pos)) (fun r' h => ⟨[], _, .nil, h⟩)
      fun entry r' h => ?_
    cases entry with
    | none => exact .pure h.2
    | some entry => exact h.2.collects (ih r' fun _ => h.1) fun _ => rfl

theorem pollEventPacketBatch_ensures (n : ℕ) (r : Reader) :
    Collects r (pollEventPacketBatch n) fun entries => entries.map Prod.fst := by
  refine .bind_of (takePending_ensures n r) (fun _ h => h.elim) fun entries r' h => ?_
  have hempty : 0 < n - entries.length → r'.session.account.events = [] :=
    fun hroom => h.1 (Nat.lt_of_sub_pos hroom)
  exact h.2.collects (readBuffered_ensures _ r' hempty) fun _ => List.map_append

theorem awaitEventPacket_ensures (r : Reader) :
    Ensures awaitEventPacket r
      (fun entry r' => TakenAll r.session.account (entry.toList.map Prod.fst) r'.session.account)
      fun r' => Refused r.session.account r'.session.account := by
  refine .bind_of (onSession_ensures popEvent_ensures) (fun _ h => h.elim) fun entry r' h => ?_
  rcases h with ⟨rfl, hsame, hempty⟩ | ⟨e, rfl, htaken⟩
  · rw [← hsame] at hempty ⊢
    exact (readEntry_ensures hempty).imp (fun _ _ h => h.2) fun _ h => h
  · exact .pure (.cons htaken .nil)

theorem awaitEventPacketBatch_ensures (n : ℕ) (r : Reader) :
    Collects r (awaitEventPacketBatch n) fun entries => (entries.getD []).map Prod.fst := by
  refine .lift_bind (fun _ _ => ⟨[], _, .nil, .same⟩) fun _ _ => ?_
  refine .bind_of (awaitEventPacket_ensures r) (fun _ h => ⟨[], _, .nil, h⟩) fun first r' h => ?_
  cases first with
  | none => exact .pure h
  | some first => exact h.collects (pollEventPacketBatch_ensures (n - 1) r') fun _ => rfl

theorem PacketRead.perform_collects (read : PacketRead) (r : Reader) :
    Collects r read.perform fun entries => entries.map Prod.fst := by
  cases read with
  | await =>
    refine .bind_of (awaitEventPacket_ensures r) (fun _ h => ⟨[], _, .nil, h⟩) fun _ _ h => ?_
    exact .pure h
  | awaitBatch n =>
    exact .bind_of (awaitEventPacketBatch_ensures n r) (fun _ h => h) fun _ _ h => .pure h
  | pollBatch n => exact pollEventPacketBatch_ensures n r

theorem patchSession_moved (patch : SessionPatchMetadata) :
    Moves s c (patchSession patch written) := by
  refine .refuse_bind (fun _ => .same) fun _ => ?_
  refine .guard .same fun bytes _ => ?_
  refine .guard .same fun p _ => ?_
  exact .guard .same fun _ _ => .write .same

theorem closeWith_moved (close : SessionCloseMetadata) : Moves s c (closeWith close written) := by
  refine .guard .same fun life _ => ?_
  refine .write_bind ?_
  refine .guard .same fun bytes _ => ?_
  refine .guard .same fun p _ => ?_
  exact .guard .same fun _ _ => .write .same

theorem retainEvent_moved (p : RuntimePacket) (limitMessage : String)
    (hcall : c = .readAck (.ok p)) : Moves s c (retainEvent p limitMessage) := by
  refine .bind_of decodeEventPacket_ensures ?_ ?_
  · intro _ h
    exact .refused h
  · rintro entry s' ⟨-, h⟩
    refine .refuse_bind (fun _ => .lost hcall h) fun _ => ?_
    have hretain : (s'.retain entry).account = s'.account.retain entry.1 := by
      simp [account, retain, ledger, Account.retain]
    refine .write ?_
    rw [hretain]
    exact .kept hcall h

variable (input : Except RuntimeError RuntimePacket)

theorem patchRound_moved : Moves s (.readAck input) (patchRound input) := by
  refine .guard .same fun p hinput => ?_
  subst hinput
  split_ifs
  · exact .bind _ (retainEvent_moved p _ rfl) fun _ _ h => .pure h
  · refine .guard .same fun _ _ => ?_
    refine .guard .same fun _ _ => ?_
    exact .guard .same fun _ _ => .pure .same

theorem closeRound_moved : Moves s (.readAck input) (closeRound input) := by
  refine .guard .same fun p hinput => ?_
  subst hinput
  split_ifs
  · exact .bind _ (retainEvent_moved p _ rfl) fun _ _ h => .pure h
  · refine .guard .same fun _ _ => ?_
    refine .guard .same fun _ _ => ?_
    refine .guard .same fun ack _ => ?_
    refine .guard .same fun life _ => .write_bind ?_
    cases ack.closeStatus with
    | closed | acknowledged | draining => exact .pure .same
    | rejected => exact .lift_error .same

theorem receive_moved {w : State} {m : SessionM (Option Received)}
    (h : Gives w.session c m fun x => (x.bind Received.notice).toList) :
    ∃ new, (w.receive m).received.filterMap Received.notice =
        w.received.filterMap Received.notice ++ new ∧
      Moved w.session.account c new (w.receive m).session.account := by
  rw [Gives, Ensures] at h
  rw [State.receive]
  rcases hm : call m w.session with ⟨x, s'⟩
  rw [hm] at h
  cases x with
  | error e => exact ⟨[], by simp [Except.toOption], h⟩
  | ok x =>
    refine ⟨_, ?_, h⟩
    cases x with
    | none => simp [Except.toOption]
    | some x => cases hx : x.notice <;> simp [Except.toOption, hx]

theorem receiveEntries_moved {w : State} {m : ReaderM (List Entry)} {inbound : List Arrival}
    (hcall : c.readsPackets = true)
    (h : Collects ⟨w.session, inbound⟩ m fun entries => entries.map Prod.fst) :
    ∃ new, (w.receiveEntries m inbound).received.filterMap Received.notice =
        w.received.filterMap Received.notice ++ new ∧
      Moved w.session.account c new (w.receiveEntries m inbound).session.account := by
  rw [Collects, Ensures] at h
  rw [State.receiveEntries]
  rcases hm : call m ⟨w.session, inbound⟩ with ⟨x, r⟩
  rw [hm] at h
  cases x with
  | error e =>
    obtain ⟨events, a', htaken, href⟩ := h
    exact ⟨[], by simp [Except.toOption], .tookPackets hcall htaken href (List.nil_sublist _)⟩
  | ok entries =>
    refine ⟨_, ?_, .tookPackets hcall h .same (List.Sublist.refl _)⟩
    simp [Except.toOption, List.filterMap_map]

theorem map_some_ensures {m : SessionM Received} (h : Gives s c m (·.notice.toList)) :
    Gives s c (some <$> m) fun x => (x.bind Received.notice).toList := by
  rw [Gives, map_eq_pure_bind]
  exact .bind _ h fun x _ hx => .pure hx

theorem step_moved {w w' : State} (h : step w c = some w') :
    ∃ new, w'.received.filterMap Received.notice = w.received.filterMap Received.notice ++ new ∧
      Moved w.session.account c new w'.session.account := by
  unfold step at h
  split at h
  · cases h
    exact ⟨[], by simp [State.after], (submitNowait_moved _ _ _).state⟩
  · cases h
    exact ⟨[], by simp [State.after], (control_moved _ _ _ _).state⟩
  · cases h
    exact ⟨[], by simp [State.after], (cancelFrame_moved _ _).state⟩
  · cases h
    exact ⟨[], by simp [State.after], (supersede_moved _ _ _).state⟩
  · cases h
    exact receive_moved (map_some_ensures (awaitEvent_moved _))
  · cases h
    exact receive_moved (map_some_ensures (awaitResult_moved _))
  · cases h
    exact receive_moved (pollEvent_moved _)
  · cases h
    exact receiveEntries_moved rfl (PacketRead.perform_collects _ _)
  · cases h
    exact ⟨[], by simp [State.start], (patchSession_moved _ _).state⟩
  · cases h
    exact ⟨[], by simp [State.start], (closeWith_moved _ _).state⟩
  · cases h
    exact ⟨[], by simp, .same⟩
  · rename_i req input _
    cases h
    refine ⟨[], by simp [State.round], ?_⟩
    cases req with
    | patch => exact (patchRound_moved input).state
    | close => exact (closeRound_moved input).state
  · cases h
    exact ⟨[], by simp, .same⟩
  · cases h

end Nnrp.Client
