import Nnrp.DriverQueue
import Nnrp.FrameSubmit
import Nnrp.PreSubmit

/-!
# Submit calls of one client session

`submit_nowait` checks its request against the session, queues the `FRAME_SUBMIT` with the
connection driver and waits until the driver has written it; only then does it record the
operation and the frame. The call may be dropped while it waits. The session is borrowed by the
call, so no other call of the session runs meanwhile, but the driver does, and so do the other
sessions of the connection.
-/

namespace Nnrp.Submit
open OrderedMap ByteOrder Packet Data PreSubmit Fallible
open Multiplex (CallId ChannelId CallResult HandleStatus)

structure NnrpSubmitHeaderContext where
  flags : UInt32 := 0
  viewId : UInt16 := 0
  routeId : UInt16 := 0
  traceId : UInt64 := 0
  deriving DecidableEq

structure NnrpSubmitRequest where
  frameId : UInt32
  header : NnrpSubmitHeaderContext := {}
  metadata : FrameSubmitMetadata
  body : Bytes
  deriving DecidableEq

def sampleRequest (operationId : UInt64) (frameId : UInt32) : NnrpSubmitRequest where
  frameId := frameId
  body := []
  metadata :=
    { srcWidth := 0, srcHeight := 0, tileWidth := 0, tileHeight := 0, tileCount := 0
      sectionCount := 0, frameClass := 0, inputProfile := .unspecified
      tileIndexMode := .denseRange, latencyBudgetMs := 0, targetFpsX100 := 0, retryOfFrame := 0
      tileBaseId := 0, cameraBytes := 0, tileIndexBytes := 0, operationId := operationId
      submitMode := .inline, budgetPolicy := 0, lossTolerancePolicy := .strict
      objectRefMask := 0, dependencyFrameId := 0, payloadKindBitmap := 0
      payloadFrameCount := 0 }

/-- The fields of a client session that its submits read or change. -/
structure NnrpClientSession where
  sessionId : UInt32
  nextFrameId : UInt32 := 1
  operationFrames : BTreeMap UInt64 UInt32 := ∅
  frameOperations : BTreeMap UInt32 UInt64 := ∅
  seenOperationIds : BTreeSet UInt64 := ∅
  preSubmitDeadlines : PreSubmitDeadlineReservations
  lastOperationId : UInt64 := 0

namespace NnrpClientSession

variable (s : NnrpClientSession) (request : NnrpSubmitRequest)

def submitPacket : Except RuntimeError RuntimePacket := do
  let metadata ← liftNnrp request.metadata.toBytes
  liftNnrp (RuntimePacket.new
    { CommonHeader.new .frameSubmit 72 (UInt32.ofNat request.body.length) with
      sessionId := s.sessionId
      frameId := request.frameId
      flags := request.header.flags
      viewId := request.header.viewId
      routeId := request.header.routeId
      traceId := request.header.traceId } metadata request.body)

/-- `submit_nowait` up to the write. A reservation is gone even if the call fails later. -/
def prepare (nowUnixMs : UInt64) : NnrpClientSession × Except RuntimeError RuntimePacket :=
  if request.frameId = 0 ∨ request.frameId < s.nextFrameId then
    (s, .error (.unexpectedMessage
      "client frame id must not be zero, reused, or moved backward"))
  else if request.metadata.operationId = 0 ∨
      request.metadata.operationId ∈ s.seenOperationIds then
    (s, .error (.unexpectedMessage "client operation id must not be zero or reused"))
  else
    match checkedAddU32 request.frameId 1 with
    | none => (s, .error .frameIdOverflow)
    | some _ =>
      match s.preSubmitDeadlines.takeForSubmit request.metadata.operationId request.frameId
          nowUnixMs with
      | (deadlines, .error e) => ({ s with preSubmitDeadlines := deadlines }, .error e)
      | (deadlines, .ok _) =>
        ({ s with preSubmitDeadlines := deadlines }, s.submitPacket request)

@[simps]
def record : NnrpClientSession :=
  { s with
    nextFrameId := request.frameId + 1
    operationFrames := s.operationFrames.insert request.metadata.operationId request.frameId
    frameOperations := s.frameOperations.insert request.frameId request.metadata.operationId
    seenOperationIds := s.seenOperationIds.insert request.metadata.operationId
    lastOperationId := max s.lastOperationId request.metadata.operationId }

def reserveDeadline (frameId : UInt32) (metadata : SchedulingMetadata) (nowUnixMs : UInt64) :
    Except RuntimeError NnrpClientSession :=
  if metadata.deadlineUnixMs = 0 then
    .error (.protocol (.invalidProtocolCombination
      "DEADLINE and EXPIRE_AT require deadline_unix_ms"))
  else
    match s.operationFrames[metadata.operationId]? with
    | some expectedFrameId =>
      if expectedFrameId ≠ frameId then
        .error (.unexpectedMessage "client scheduling frame id does not match its operation")
      else .ok s
    | none =>
      if frameId = 0 ∨ frameId < s.nextFrameId then
        .error (.unexpectedMessage
          "client frame id must not be zero, reused, or moved backward")
      else if metadata.operationId = 0 ∨ metadata.operationId ∈ s.seenOperationIds then
        .error (.unexpectedMessage "client operation id must not be zero or reused")
      else (s.preSubmitDeadlines.reserve frameId metadata nowUnixMs).map fun deadlines =>
        { s with preSubmitDeadlines := deadlines }

def discardDeadline (operationId : UInt64) (frameId : UInt32) : NnrpClientSession :=
  { s with preSubmitDeadlines := s.preSubmitDeadlines.discard operationId frameId }

def completeOperationByFrame (frameId : UInt32) : Except RuntimeError NnrpClientSession :=
  match s.frameOperations[frameId]? with
  | none => .error (.unexpectedMessage "client terminal event references an unknown frame")
  | some operationId =>
    .ok { s with
      frameOperations := s.frameOperations.erase frameId
      operationFrames := s.operationFrames.erase operationId }

end NnrpClientSession

def IsSubmit (sessionId : UInt32) (p : RuntimePacket) : Prop :=
  p.messageType = .frameSubmit ∧ p.sessionId = sessionId

instance (sessionId : UInt32) : DecidablePred (IsSubmit sessionId) :=
  fun _ => inferInstanceAs (Decidable (_ ∧ _))

/-- A session on its connection. `pending` is the submit that waits for its write, `results` what
the submits have returned, `abandoned` the ids of those that were dropped. A session that was
closed and resumed on the same connection may have left submits under the same id; `earlier` is
their number. -/
structure State where
  driver : Multiplex.Connection
  handle : ChannelId
  session : NnrpClientSession
  earlier : ℕ
  pending : Option (CallId × NnrpSubmitRequest) := none
  results : List (Except RuntimeError UInt32) := []
  abandoned : List (UInt64 × UInt32) := []

def State.attach (driver : Multiplex.Connection) (handle : ChannelId)
    (maxInFlightOperations : UInt16) : State where
  driver := driver
  handle := handle
  session :=
    { sessionId := (driver.handles handle).sessionId
      preSubmitDeadlines := .new maxInFlightOperations }
  earlier := ((driver.written ++ driver.queuedWrites).filter
    (IsSubmit (driver.handles handle).sessionId)).length

namespace State

variable (w : State)

@[simps]
def setSession (session : NnrpClientSession) : State := { w with session := session }

@[simps]
def setDriver (driver : Multiplex.Connection) : State := { w with driver := driver }

@[simps]
def finish (result : Except RuntimeError UInt32) : State :=
  { w with pending := none, results := w.results ++ [result] }

def closedError (detail : String) : RuntimeError := .transportClosed w.driver.transportKind detail

@[simps]
def queueSubmit (request : NnrpSubmitRequest) (packet : RuntimePacket) : State :=
  { w with
    driver := w.driver.request (.write packet)
    pending := some (w.driver.callCount, request) }

def write (closed : Bool) (request : NnrpSubmitRequest) (packet : RuntimePacket) : State :=
  if closed then w.finish (.error (w.closedError "session transport is closed"))
  else if w.driver.running then w.queueSubmit request packet
  else w.finish (.error (w.closedError "connection driver command channel closed"))

def submit (closed : Bool) (request : NnrpSubmitRequest) (nowUnixMs : UInt64) : State :=
  match w.session.prepare request nowUnixMs with
  | (session, .error e) => (w.setSession session).finish (.error e)
  | (session, .ok packet) => (w.setSession session).write closed request packet

def confirm (request : NnrpSubmitRequest) : CallResult → Option State
  | .waiting => none
  | .resolved (.ok ()) =>
    some ((w.setSession (w.session.record request)).finish (.ok request.frameId))
  | .resolved (.error failure) =>
    some (w.finish (.error (.transportClosed failure.transport failure.detail)))
  | .closed =>
    some (w.finish (.error (w.closedError "connection driver dropped write completion")))

@[simps]
def abandon (request : NnrpSubmitRequest) : State :=
  { w with
    pending := none
    abandoned := w.abandoned ++ [(request.metadata.operationId, request.frameId)] }

end State

/-- Besides the submits: other calls of the session on what the submits read, and whatever else
happens on the connection. -/
inductive Event
  | submit (request : NnrpSubmitRequest) (nowUnixMs : UInt64)
  | confirm
  | drop
  | reserveDeadline (frameId : UInt32) (metadata : SchedulingMetadata) (nowUnixMs : UInt64)
  | discardDeadline (operationId : UInt64) (frameId : UInt32)
  | completeOperation (frameId : UInt32)
  | background (action : Multiplex.Action)

/-- One atomic step; `none` where it is not enabled. The other sessions have other ids, so they
queue no submit under the id of this one. -/
def step (w : State) : Event → Option State
  | .submit request nowUnixMs =>
    match w.pending, (w.driver.handles w.handle).status with
    | none, .opened => some (w.submit false request nowUnixMs)
    | none, .closed => some (w.submit true request nowUnixMs)
    | _, _ => none
  | .confirm =>
    match w.pending with
    | some (id, request) => w.confirm request (w.driver.calls id)
    | none => none
  | .drop =>
    match w.pending with
    | some (_, request) => some (w.abandon request)
    | none => none
  | .reserveDeadline frameId metadata nowUnixMs =>
    match w.pending, w.session.reserveDeadline frameId metadata nowUnixMs with
    | none, .ok session => some (w.setSession session)
    | _, _ => none
  | .discardDeadline operationId frameId =>
    match w.pending with
    | none => some (w.setSession (w.session.discardDeadline operationId frameId))
    | some _ => none
  | .completeOperation frameId =>
    match w.pending, w.session.completeOperationByFrame frameId with
    | none, .ok session => some (w.setSession session)
    | _, _ => none
  | .background action =>
    if action.Queues (IsSubmit w.session.sessionId) then none
    else (Multiplex.step w.driver action).map fun driver => w.setDriver driver

inductive Transition (w : State) : Event → State → Prop
  | keep {e session results} (hid : session.sessionId = w.session.sessionId)
      (hnext : session.nextFrameId = w.session.nextFrameId)
      (hseen : session.seenOperationIds = w.session.seenOperationIds) (hp : w.pending = none) :
      Transition w e { w with session := session, results := results }
  | submit {request nowUnixMs session packet} (hp : w.pending = none)
      (hid : session.sessionId = w.session.sessionId)
      (hnext : session.nextFrameId = w.session.nextFrameId)
      (hseen : session.seenOperationIds = w.session.seenOperationIds)
      (hframe : w.session.nextFrameId ≤ request.frameId)
      (hfits : request.frameId.toNat + 1 < 2 ^ 32)
      (hop : request.metadata.operationId ∉ w.session.seenOperationIds)
      (hpacket : w.session.submitPacket request = .ok packet) (hrun : w.driver.running = true) :
      Transition w (.submit request nowUnixMs) ((w.setSession session).queueSubmit request packet)
  | confirmed {id request} (hp : w.pending = some (id, request))
      (hok : w.driver.calls id = .resolved (.ok ())) :
      Transition w .confirm
        ((w.setSession (w.session.record request)).finish (.ok request.frameId))
  | failed {id request error} (hp : w.pending = some (id, request))
      (hwait : w.driver.calls id ≠ .waiting) (hne : w.driver.calls id ≠ .resolved (.ok ())) :
      Transition w .confirm (w.finish (.error error))
  | drop {id request} (hp : w.pending = some (id, request)) :
      Transition w .drop (w.abandon request)
  | background {action driver} (hqueues : ¬action.Queues (IsSubmit w.session.sessionId))
      (hs : Multiplex.step w.driver action = some driver) :
      Transition w (.background action) (w.setDriver driver)

variable {w w' : State} {e : Event} {req : NnrpSubmitRequest} {now : UInt64}
  {s s' : NnrpClientSession} {result : Except RuntimeError RuntimePacket} {fid : UInt32}

def NnrpClientSession.Fresh (s : NnrpClientSession) (request : NnrpSubmitRequest) : Prop :=
  request.frameId ≠ 0 ∧ s.nextFrameId ≤ request.frameId ∧ request.frameId.toNat + 1 < 2 ^ 32 ∧
    request.metadata.operationId ≠ 0 ∧ request.metadata.operationId ∉ s.seenOperationIds

theorem prepare_of_fresh (h : s.Fresh req) : s.prepare req now =
    let taken := s.preSubmitDeadlines.takeForSubmit req.metadata.operationId req.frameId
      now
    ({ s with preSubmitDeadlines := taken.1 }, taken.2 >>= fun _ => s.submitPacket req) := by
  obtain ⟨hframe, hnext, hfits, hop, hunseen⟩ := h
  have hadd : checkedAddU32 req.frameId 1 = some (req.frameId + 1) := if_pos hfits
  rw [NnrpClientSession.prepare, if_neg (not_or.mpr ⟨hframe, UInt32.not_lt.mpr hnext⟩),
    if_neg (not_or.mpr ⟨hop, hunseen⟩), hadd]
  rcases s.preSubmitDeadlines.takeForSubmit _ _ now with ⟨dls, e | resd⟩
  · rfl
  · rfl

theorem prepare_of_not_fresh (h : ¬s.Fresh req) : ∃ e, s.prepare req now = (s, .error e) := by
  unfold NnrpClientSession.prepare
  split_ifs with hframe hop
  · exact ⟨_, rfl⟩
  · exact ⟨_, rfl⟩
  · rw [not_or] at hframe hop
    have hadd : checkedAddU32 req.frameId 1 = none :=
      if_neg fun hfits => h ⟨hframe.1, UInt32.not_lt.mp hframe.2, hfits, hop⟩
    rw [hadd]
    exact ⟨_, rfl⟩

theorem prepare_cases (h : s.prepare req now = (s', result)) :
    (∃ dls, s' = { s with preSubmitDeadlines := dls }) ∧ ∀ p,
      result = .ok p → s.Fresh req ∧ s.submitPacket req = .ok p := by
  by_cases hfresh : s.Fresh req
  · rw [prepare_of_fresh hfresh] at h
    cases h
    refine ⟨⟨_, rfl⟩, fun p hpkt => ?_⟩
    obtain ⟨_, -, hpkt⟩ := bind_eq_ok.mp hpkt
    exact ⟨hfresh, hpkt⟩
  · obtain ⟨e, he⟩ := prepare_of_not_fresh hfresh
    cases he.symm.trans h
    exact ⟨⟨_, rfl⟩, fun _ => nofun⟩

structure Submittable (s : NnrpClientSession) (request : NnrpSubmitRequest)
    (nowUnixMs : UInt64) : Prop where
  frame : request.frameId ≠ 0
  next : s.nextFrameId ≤ request.frameId
  fits : request.frameId.toNat + 1 < 2 ^ 32
  operation : request.metadata.operationId ≠ 0
  unseen : request.metadata.operationId ∉ s.seenOperationIds
  lets : s.preSubmitDeadlines.Lets request.metadata.operationId request.frameId nowUnixMs
  encodes : ∃ packet, s.submitPacket request = .ok packet

theorem prepare_ok_iff : (∃ p, (s.prepare req now).2 = .ok p) ↔ Submittable s req now := by
  have htake := s.preSubmitDeadlines.takeForSubmit_ok_iff req.metadata.operationId req.frameId now
  by_cases hfresh : s.Fresh req
  · rw [prepare_of_fresh hfresh]
    constructor
    · rintro ⟨p, h⟩
      obtain ⟨resd, hresv, hpkt⟩ := bind_eq_ok.mp h
      obtain ⟨hframe, hnext, hfits, hop, hunseen⟩ := hfresh
      exact ⟨hframe, hnext, hfits, hop, hunseen, htake.mp ⟨resd, hresv⟩, p, hpkt⟩
    · intro h
      obtain ⟨resd, hresv⟩ := htake.mpr h.lets
      obtain ⟨p, hpkt⟩ := h.encodes
      exact ⟨p, bind_eq_ok.mpr ⟨resd, hresv, hpkt⟩⟩
  · obtain ⟨e, he⟩ := prepare_of_not_fresh hfresh
    rw [he]
    exact iff_of_false (fun ⟨_, h⟩ => nomatch h) fun h =>
      hfresh ⟨h.frame, h.next, h.fits, h.operation, h.unseen⟩

theorem submit_transition (hp : w.pending = none) (closed : Bool) :
    Transition w (.submit req now) (w.submit closed req now) := by
  unfold State.submit
  have hfail : ∀ {sess error}, sess.sessionId = w.session.sessionId →
      sess.nextFrameId = w.session.nextFrameId →
      sess.seenOperationIds = w.session.seenOperationIds →
      Transition w (.submit req now) ((w.setSession sess).finish (.error error)) := by
    intro sess error hid hnext hseen
    have heq : (w.setSession sess).finish (.error error) =
        { w with session := sess, results := w.results ++ [.error error] } := by
      rw [State.finish, State.setSession, hp]
    rw [heq]
    exact .keep hid hnext hseen hp
  split
  · rename_i sess error hprep
    obtain ⟨⟨dls, rfl⟩, -⟩ := prepare_cases hprep
    exact hfail rfl rfl rfl
  · rename_i sess p hprep
    obtain ⟨⟨dls, rfl⟩, hpkt⟩ := prepare_cases hprep
    obtain ⟨⟨-, hframe, hfits, -, hop⟩, hpkt⟩ := hpkt p rfl
    unfold State.write
    split_ifs with hclosed hrun
    · exact hfail rfl rfl rfl
    · exact .submit hp rfl rfl rfl hframe hfits hop hpkt hrun
    · exact hfail rfl rfl rfl

theorem reserveDeadline_ok {m : SchedulingMetadata} (h : s.reserveDeadline fid m now = .ok s') :
    s'.sessionId = s.sessionId ∧ s'.nextFrameId = s.nextFrameId ∧
      s'.seenOperationIds = s.seenOperationIds := by
  unfold NnrpClientSession.reserveDeadline at h
  split at h
  · cases h
  · split at h
    · split_ifs at h
      cases h
      exact ⟨rfl, rfl, rfl⟩
    · split_ifs at h
      cases hreserve : s.preSubmitDeadlines.reserve fid m now with
      | error e =>
        rw [hreserve] at h
        cases h
      | ok dls =>
        rw [hreserve] at h
        cases h
        exact ⟨rfl, rfl, rfl⟩

theorem completeOperationByFrame_ok (h : s.completeOperationByFrame fid = .ok s') :
    s'.sessionId = s.sessionId ∧ s'.nextFrameId = s.nextFrameId ∧
      s'.seenOperationIds = s.seenOperationIds := by
  unfold NnrpClientSession.completeOperationByFrame at h
  split at h <;> cases h
  exact ⟨rfl, rfl, rfl⟩

theorem step_transition (h : step w e = some w') : Transition w e w' := by
  have hkeep : ∀ {sess}, w.pending = none → sess.sessionId = w.session.sessionId ∧
      sess.nextFrameId = w.session.nextFrameId ∧
      sess.seenOperationIds = w.session.seenOperationIds →
      Transition w e (w.setSession sess) :=
    fun hp ⟨hid, hnext, hseen⟩ => .keep hid hnext hseen hp
  cases e with
  | submit req now =>
    rw [step] at h
    split at h <;> cases h
    · exact submit_transition ‹_› false
    · exact submit_transition ‹_› true
  | confirm =>
    rw [step] at h
    split at h
    · rename_i id req hp
      unfold State.confirm at h
      split at h
      · cases h
      · rename_i hc
        cases h
        exact .confirmed hp hc
      all_goals
        rename_i hc
        cases h
        exact .failed hp (by simp [hc]) (by simp [hc])
    · cases h
  | drop =>
    rw [step] at h
    split at h <;> cases h
    exact .drop ‹_›
  | reserveDeadline fid m now =>
    rw [step] at h
    split at h <;> cases h
    exact hkeep ‹_› (reserveDeadline_ok ‹_›)
  | discardDeadline opId fid =>
    rw [step] at h
    split at h <;> cases h
    exact hkeep ‹_› ⟨rfl, rfl, rfl⟩
  | completeOperation fid =>
    rw [step] at h
    split at h <;> cases h
    exact hkeep ‹_› (completeOperationByFrame_ok ‹_›)
  | background action =>
    rw [step] at h
    split_ifs at h with hqueues
    obtain ⟨driver, hs, rfl⟩ := Option.map_eq_some_iff.mp h
    exact .background hqueues hs

end Nnrp.Submit
