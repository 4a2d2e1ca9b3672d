import Nnrp.ClientRun
import Nnrp.ClientSend
import Nnrp.LifecycleRun
import Nnrp.ServerCorrelation

/-!
# What a failed send leaves behind

Most sends check everything before they write and change the session after it, so that one that
fails can be made again. Some change the session first: the cache put of the server, the pressure of
either role, the acknowledgement of a close, the submit and the close of a client. `Spoils` says
when such a change stays although the send fails.
-/

namespace Nnrp.Packet
open Protocol ByteOrder

def Encodable (metadata : Except NnrpError Bytes) (body : Bytes) : Prop :=
  ∃ bytes, metadata = .ok bytes ∧ bytes.length + body.length < 2 ^ 32

theorem Encodable.of_length {m : Except NnrpError Bytes} {n : ℕ} (hm : ∃ bytes, m = .ok bytes)
    (hlen : ∀ {bytes}, m = .ok bytes → bytes.length = n) (hn : n < 2 ^ 32) : Encodable m [] := by
  obtain ⟨bytes, hbytes⟩ := hm
  exact ⟨bytes, hbytes, (hlen hbytes).trans_lt hn⟩

theorem RuntimePacket.new_ok_iff {header : CommonHeader} {m body : Bytes} :
    (∃ p, liftNnrp (new header m body) = .ok p) ↔ m.length + body.length < 2 ^ 32 := by
  constructor
  · intro h
    obtain ⟨p, hpkt⟩ := h
    by_contra hlong
    obtain ⟨e, he⟩ := new_of_not_fits header hlong
    have hnew := liftNnrp_eq_ok.mp hpkt
    rw [he] at hnew
    cases hnew
  · intro h
    obtain ⟨p, hpkt⟩ := new_of_fits header h
    exact ⟨p, liftNnrp_eq_ok.mpr hpkt⟩

end Nnrp.Packet

namespace Nnrp.Stateful

variable {σ ε α : Type} {s : σ}

/-- A call that succeeds does not spoil the state, and one that fails restores it unless it does. -/
def Restores (m : Method σ ε α) (s : σ) (restored : σ → Prop) (spoils : Prop) : Prop :=
  Ensures m s (fun _ _ => ¬spoils) (fun s' => restored s' ↔ ¬spoils)

namespace Restores

variable {m : Method σ ε α} {s : σ} {restored : σ → Prop} {spoils : Prop}

theorem iff (h : Restores m s restored spoils) :
    (∀ e s', call m s = (.error e, s') → restored s') ↔ ¬spoils := by
  rcases Ensures.cases h with ⟨a, t, hcall, hkept⟩ | ⟨e, t, hcall, hrest⟩
  · refine iff_of_true (fun e s' hfailed => ?_) hkept
    rw [hcall] at hfailed
    cases hfailed
  · rw [← hrest]
    constructor
    · intro hall
      exact hall e t hcall
    · intro ht e' s' hfailed
      rw [hcall] at hfailed
      cases hfailed
      exact ht

theorem fails_of (h : Restores m s restored spoils) (hspoils : spoils) :
    ∃ e s', call m s = (.error e, s') ∧ ¬restored s' := by
  rcases Ensures.cases h with ⟨a, t, hcall, hkept⟩ | ⟨e, t, hcall, hrest⟩
  · exact absurd hspoils hkept
  · exact ⟨e, t, hcall, fun ht => hrest.mp ht hspoils⟩

theorem check_bind {β : Type} {f : σ → Except ε β} {g : β → Method σ ε α} (hself : restored s)
    (hpasses : spoils → ∃ b, f s = .ok b)
    (hrest : ∀ b, f s = .ok b → Restores (g b) s restored spoils) :
    Restores (check f >>= g) s restored spoils := by
  refine Ensures.check_bind (fun e he => iff_of_true hself fun hspoils => ?_) hrest
  obtain ⟨b, hb⟩ := hpasses hspoils
  rw [hb] at he
  cases he

theorem of_failed {done : α → σ → Prop} {failed : σ → Prop} (h : Ensures m s done failed)
    (hrest : ∀ s', failed s' → restored s') (hspoils : ¬spoils) : Restores m s restored spoils :=
  Ensures.imp h (fun _ _ _ => hspoils) fun s' hs' => iff_of_true (hrest s' hs') hspoils

theorem of_changed {goes : Prop}
    (h : Ensures m s (fun _ _ => goes) fun s' => ¬goes ∧ ¬restored s') (hspoils : spoils ↔ ¬goes) :
    Restores m s restored spoils := by
  rw [Restores, hspoils, not_not]
  refine Ensures.imp h (fun _ _ hgoes => hgoes) fun s' hs' => ?_
  exact iff_of_false hs'.2 hs'.1

end Restores

open Protocol ByteOrder Packet ControlUpdate RuntimeEvent

theorem encoded_ensures {written : Except RuntimeError Unit}
    {m : Except NnrpError Bytes} {body : Bytes} {header : Bytes → σ → CommonHeader}
    {send : RuntimePacket → σ → σ} : Ensures (lift (liftNnrp m) >>= fun bytes =>
        check (fun s => liftNnrp (RuntimePacket.new (header bytes s) bytes body)) >>= fun p =>
        lift written >>= fun _ => write (send p)) s
      (fun _ s' => (Encodable m body ∧ written = .ok ()) ∧ ∃ p, s' = send p s)
      (fun s' => ¬(Encodable m body ∧ written = .ok ()) ∧ s' = s) := by
  refine .lift_bind (fun e he => ⟨fun h => ?_, rfl⟩) fun bytes hbytes => ?_
  · obtain ⟨⟨bytes, hbytes, -⟩, -⟩ := h
    rw [hbytes] at he
    cases he
  have hencodable : Encodable m body ↔
      ∃ p, liftNnrp (RuntimePacket.new (header bytes s) bytes body) = .ok p := by
    rw [RuntimePacket.new_ok_iff, Packet.Encodable, liftNnrp_eq_ok.mp hbytes]
    simp
  refine .check_bind (fun e he => ⟨fun h => ?_, rfl⟩) fun p hpkt => ?_
  · obtain ⟨p, hpkt⟩ := hencodable.mp h.1
    rw [hpkt] at he
    cases he
  refine .lift_bind (fun e he => ⟨fun h => ?_, rfl⟩) fun _ hwritten => .write ?_
  · rw [he] at h
    cases h.2
  · exact ⟨⟨hencodable.mpr ⟨p, hpkt⟩, hwritten⟩, p, rfl⟩

variable {md : PressureMetadata} {ty : MessageType}

theorem applyOutbound_of_valid
    (h : validatePressureSemantics ty md = .ok ()) (pressure : RuntimePressureState) :
    ∃ changed, pressure.applyOutbound ty md = .ok changed := by
  unfold validatePressureSemantics at h
  split at h
  · exact ⟨_, rfl⟩
  · exact ⟨_, rfl⟩
  · cases h

theorem pressure_restores {restored : σ → Prop} {spoils goes : Prop}
    {pressure : σ → RuntimePressureState} {set : RuntimePressureState → σ → σ}
    {rest : Method σ RuntimeError Unit}
    (hrestored : ∀ changed, restored (set changed s) ↔ changed = pressure s)
    (hrest : ∀ changed, Ensures rest (set changed s) (fun _ _ => goes)
      fun s' => ¬goes ∧ s' = set changed s)
    (hspoils : spoils ↔ (validatePressureSemantics ty md = .ok () ∧
      (pressure s).applyOutbound ty md ≠ .ok (pressure s)) ∧ ¬goes) (hself : restored s) :
    Restores (lift (liftNnrp (validatePressureSemantics ty md)) >>= fun _ =>
      check (fun s => liftNnrp ((pressure s).applyOutbound ty md)) >>= fun changed =>
        write (set changed) >>= fun _ => rest) s restored spoils := by
  refine .check_bind hself (fun h => ⟨_, liftNnrp_eq_ok.mpr (hspoils.mp h).1.1⟩) fun _ hvalid => ?_
  have hvalid := liftNnrp_eq_ok.mp hvalid
  obtain ⟨changed, happly⟩ := applyOutbound_of_valid hvalid (pressure s)
  refine Ensures.check_ok_bind (liftNnrp_eq_ok.mpr happly) (.write_bind ?_)
  rw [happly, and_iff_right hvalid, Ne, Except.ok.injEq, ← hrestored changed] at hspoils
  rw [hspoils]
  refine (hrest changed).imp (fun _ _ hgoes h => h.2 hgoes) fun s' h => ?_
  rw [h.2, not_and_not_right]
  constructor
  · intro hrestored hchanged
    exact absurd hrestored hchanged
  · intro himp
    by_contra hchanged
    exact h.1 (himp hchanged)

end Nnrp.Stateful

namespace Nnrp.Lifecycle
open OrderedMap

theorem insert_ne {l : ConnectionLifecycle} {id : UInt32} {old new : SessionLifecycle}
    (hget : l.sessions[id]? = some old) (hstate : new.state ≠ old.state) :
    { l with sessions := l.sessions.insert id new } ≠ l := by
  intro hsame
  have hsessions := congrArg (fun l => l.sessions[id]?) hsame
  dsimp only at hsessions
  rw [get_insert, if_pos rfl, hget, Option.some.injEq] at hsessions
  exact hstate (congrArg SessionLifecycle.state hsessions)

end Nnrp.Lifecycle

namespace Nnrp.Server
open OrderedMap Protocol ByteOrder Packet Data Object ControlUpdate Session PreSubmit
open Stateful RuntimeEvent Operation Fallible
open Lifecycle (ConnectionLifecycle SessionLifecycle)

structure Retained where
  operations : OperationRegistry
  frameOperations : BTreeMap UInt32 UInt64
  operationFrames : BTreeMap UInt64 UInt32
  preSubmitDeadlines : PreSubmitDeadlineReservations
  pressure : RuntimePressureState
  cacheObjects : List CacheObjectId
  lifecycle : ConnectionLifecycle
  pendingClose : Option SessionCloseMetadata

variable (s : NnrpServerSession)

def NnrpServerSession.retained : Retained where
  operations := s.operations
  frameOperations := s.frameOperations
  operationFrames := s.operationFrames
  preSubmitDeadlines := s.preSubmitDeadlines
  pressure := s.pressure
  cacheObjects := s.cacheObjects
  lifecycle := s.lifecycle
  pendingClose := s.pendingClose

/-- The send finds the operation expired. -/
def Send.Expires (operationId : UInt64) (record : OperationRecord) :
    Send → Prop
  | .operationResult frameId _ _ nowUnixMs => StaleAt s frameId nowUnixMs operationId record
  | .result operation _ _ nowUnixMs => operation.requireSession s = .ok () ∧
      StaleAt s operation.frameId nowUnixMs operationId record
  | _ => False

/-- The session is as before, or only an operation that the send has found expired is superseded. -/
def Send.Restored (send : Send) (s' : NnrpServerSession) : Prop :=
  s'.retained = s.retained ∨ ∃ operationId record, send.Expires s operationId record ∧
    s'.retained = (s.withRecord operationId { record with state := .superseded }).retained

def NnrpServerSession.Presses (messageType : MessageType)
    (metadata : PressureMetadata) : Prop :=
  validatePressureSemantics messageType metadata = .ok () ∧
    s.pressure.applyOutbound messageType metadata ≠ .ok s.pressure

def NnrpServerSession.Ackable : Prop :=
  s.lifecycle.state = .open ∧ s.sessionId ≠ 0 ∧
    ∃ session ∈ s.lifecycle.sessions[s.sessionId]?, session.state ≠ .closed

/-- The send changes the session and then fails. -/
def Send.Spoils (written : Except RuntimeError Unit) (s : NnrpServerSession) : Send → Prop
  | .cachePut metadata body =>
    s.validateCachePut metadata = .ok () ∧ CacheObjectId.fromPut metadata ∉ s.cacheObjects ∧
      (s.maxCacheObjects = 0 ∨ s.cacheObjects.length < s.maxCacheObjects.toNat) ∧
      ¬(body.length = metadata.objectBytes.toNat ∧ Encodable metadata.toBytes body ∧
        written = .ok ())
  | .backpressure metadata =>
    s.Presses .backpressure metadata ∧ ¬(Encodable metadata.toBytes [] ∧ written = .ok ())
  | .creditUpdate metadata =>
    s.Presses .creditUpdate metadata ∧ ¬(Encodable metadata.toBytes [] ∧ written = .ok ())
  | .ackClose _ => s.Ackable ∧ written ≠ .ok ()
  | .closeInPlace _ => s.pendingClose ≠ none ∧ ¬(s.Ackable ∧ written = .ok ())
  | _ => False

variable {s : NnrpServerSession} {written : Except RuntimeError Unit} {messageType : MessageType}
  {fid : UInt32} {body : Bytes} {send : Send} {metadata : Except NnrpError Bytes}

theorem Send.not_restored {s' : NnrpServerSession} (hexpires : ∀ id r, ¬send.Expires s id r)
    (hchanged : s'.retained ≠ s.retained) : ¬send.Restored s s' := by
  intro h
  rcases h with hsame | ⟨id, r, hexpired, -⟩
  · exact hchanged hsame
  · exact hexpires id r hexpired

theorem sendCachePut_restores {metadata : CachePutMetadata} :
    Restores (sendCachePut written metadata body) s ((Send.cachePut metadata body).Restored s)
      ((Send.cachePut metadata body).Spoils written s) := by
  have hsame : (Send.cachePut metadata body).Restored s s := .inl rfl
  refine .check_bind hsame (fun h => ⟨_, h.1⟩) fun _ hvalid => ?_
  by_cases hold : CacheObjectId.fromPut metadata ∈ s.cacheObjects
  · -- The object is tracked already.
    have htracked : s.tracked (.fromPut metadata) = .ok s.cacheObjects := if_pos hold
    have hkept : ¬(Send.cachePut metadata body).Spoils written s := fun h => h.2.1 hold
    have htrack : call (trackCacheObject (.fromPut metadata)) s = (.ok (), s) := by
      rw [trackCacheObject, call_bind, call_check, htracked]
      rfl
    refine Ensures.call_ok_bind htrack (.guard (iff_of_true hsame hkept) fun _ _ => ?_)
    refine encoded_ensures.imp (fun _ _ _ => hkept) fun s' h => iff_of_true ?_ hkept
    rw [h.2]
    exact hsame
  by_cases hroom : s.maxCacheObjects = 0 ∨ s.cacheObjects.length < s.maxCacheObjects.toNat
  · have hlimit : ¬(s.maxCacheObjects ≠ 0 ∧ s.maxCacheObjects.toNat ≤ s.cacheObjects.length) := by
      rw [not_and_or, not_not, not_le]
      exact hroom
    have htracked : s.tracked (.fromPut metadata) =
        .ok (s.cacheObjects ++ [.fromPut metadata]) := by
      rw [NnrpServerSession.tracked, if_neg hold, if_neg hlimit]
    have htrack : call (trackCacheObject (.fromPut metadata)) s =
        (.ok (), { s with cacheObjects := s.cacheObjects ++ [.fromPut metadata] }) := by
      rw [trackCacheObject, call_bind, call_check, htracked]
      rfl
    have hchanged : ({ s with cacheObjects := s.cacheObjects ++ [.fromPut metadata] } :
        NnrpServerSession).retained ≠ s.retained := by
      intro h
      have hobjects : s.cacheObjects ++ [.fromPut metadata] = s.cacheObjects :=
        congrArg Retained.cacheObjects h
      simp at hobjects
    have hspoils : (Send.cachePut metadata body).Spoils written s ↔
        ¬(body.length = metadata.objectBytes.toNat ∧ Encodable metadata.toBytes body ∧
          written = .ok ()) := by
      simp [Send.Spoils, hvalid, hold, hroom]
    refine Ensures.call_ok_bind htrack (.lift_bind (fun e he => ?_) fun _ hlen => ?_)
    · refine iff_of_false (Send.not_restored (fun _ _ h => h) hchanged) ?_
      rw [hspoils, not_not]
      intro h
      rw [requireLenOf_iff.mpr h.1] at he
      cases he
    · refine Restores.of_changed (encoded_ensures.imp (fun _ _ h => h.1) fun s' h => ⟨h.1, ?_⟩) ?_
      · rw [h.2]
        exact Send.not_restored (fun _ _ h => h) hchanged
      rw [hspoils, and_iff_right (requireLenOf_iff.mp hlen)]
  · have hlimit : s.maxCacheObjects ≠ 0 ∧ s.maxCacheObjects.toNat ≤ s.cacheObjects.length := by
      rw [not_or, not_lt] at hroom
      exact hroom
    have hfull : call (trackCacheObject (.fromPut metadata)) s =
        (.error (.unexpectedMessage "server cache object limit reached"), s) := by
      rw [trackCacheObject, call_bind, call_check, NnrpServerSession.tracked, if_neg hold,
        if_pos hlimit]
    exact Ensures.call_error_bind hfull (iff_of_true hsame fun h => hroom h.2.2.1)

theorem sendPressure_restores {metadata : PressureMetadata}
    (hexpires : ∀ id r, ¬send.Expires s id r)
    (hspoils : send.Spoils written s ↔ s.Presses messageType metadata ∧
      ¬(Encodable metadata.toBytes [] ∧ written = .ok ())) :
    Restores (sendPressure written messageType metadata) s (send.Restored s)
      (send.Spoils written s) := by
  refine pressure_restores (fun changed => ?_) (fun _ => ?_) hspoils (.inl rfl)
  · constructor
    · intro hrest
      by_contra hchanged
      refine Send.not_restored hexpires (fun h => hchanged ?_) hrest
      exact congrArg Retained.pressure h
    · rintro rfl
      exact .inl rfl
  · exact encoded_ensures.imp (fun _ _ h => h.1) fun _ h => h

theorem acknowledged_of (close : SessionCloseMetadata) (h : s.Ackable) :
    ∃ life, s.acknowledged close = .ok life ∧ life ≠ s.lifecycle := by
  obtain ⟨hopen, hnz, sess, hsess, hstate⟩ := h
  have hsess : s.lifecycle.sessions[s.sessionId]? = some sess := hsess
  refine ⟨{ s.lifecycle with
    sessions := s.lifecycle.sessions.insert s.sessionId { sess with
        state := .closed
        lastOperationId := close.lastOperationId
        sessionErrorCode := sessionErrorNone } }, ?_, ?_⟩
  · rw [NnrpServerSession.acknowledged, ConnectionLifecycle.applySessionCloseAck,
      ConnectionLifecycle.requireConnectionOpen, hopen]
    simp [CommonHeader.new, hnz, hsess, hstate, hopen, closedAck,
      ConnectionLifecycle.closeAckState, bind, Except.bind, pure, Except.pure]
  · exact Lifecycle.insert_ne hsess fun h => hstate h.symm

variable {close : SessionCloseMetadata}

theorem ackable_of {life : ConnectionLifecycle}
    (h : s.acknowledged close = .ok life) : s.Ackable := by
  obtain ⟨_, -, hchecks⟩ := bind_eq_ok.mp h
  obtain ⟨-, hchecks⟩ := of_refused_eq_ok rfl hchecks
  obtain ⟨hnz, -⟩ := of_refused_eq_ok rfl hchecks
  cases Lifecycle.next_transition (c := .applySessionCloseAck _ _) h with
  | acknowledged _ _ sess _ hopen hget hact => exact ⟨hopen, hnz, sess, hget, hact⟩

theorem ackClose_ensures (close : SessionCloseMetadata) :
    Ensures (ackClose written close) s (fun _ _ => s.Ackable ∧ written = .ok ())
      (fun s' => ¬s.Ackable ∧ s' = s ∨ s.Ackable ∧ written ≠ .ok () ∧
        ∃ life, life ≠ s.lifecycle ∧ s' = { s with lifecycle := life }) := by
  by_cases hackable : s.Ackable
  · obtain ⟨life, hacknowledged, hchanged⟩ := acknowledged_of close hackable
    refine .check_ok_bind (liftNnrp_eq_ok.mpr hacknowledged) (.write_bind ?_)
    have hencodable : Encodable (closedAck close).toBytes [] :=
      .of_length (bytesOf_of_valid rfl) SessionCloseAckMetadata.codec.length (by decide)
    rw [← bind_assoc]
    refine .bind_of encoded_ensures (fun s' h => ?_) fun _ s' h => .write ?_
    · refine .inr ⟨hackable, fun hwritten => h.1 ⟨hencodable, hwritten⟩, life, hchanged, h.2⟩
    · exact ⟨hackable, h.1.2⟩
  · refine .guard (.inl ⟨hackable, rfl⟩) fun life hlife => ?_
    exact absurd (ackable_of (liftNnrp_eq_ok.mp hlife)) hackable

theorem ackClose_restores : Restores (ackClose written close) s ((Send.ackClose close).Restored s)
      ((Send.ackClose close).Spoils written s) := by
  refine (ackClose_ensures close).imp (fun _ _ h hspoils => hspoils.2 h.2) fun s' h => ?_
  rcases h with ⟨hnot, rfl⟩ | ⟨hackable, hwritten, life, hchanged, rfl⟩
  · exact iff_of_true (.inl rfl) fun hspoils => hnot hspoils.1
  · refine iff_of_false (Send.not_restored (fun _ _ h => h) fun h => hchanged ?_) ?_
    · exact congrArg Retained.lifecycle h
    · exact not_not.mpr ⟨hackable, hwritten⟩

theorem closeInPlace_restores : Restores (closeInPlace written (.ok ())) s
    ((Send.closeInPlace (.ok ())).Restored s) ((Send.closeInPlace (.ok ())).Spoils written s) := by
  refine .check_ok_bind rfl ?_
  cases hpend : s.pendingClose with
  | none => exact .write_bind (.pure fun hspoils => hspoils.1 hpend)
  | some close =>
    refine .write_bind (.bind_of (ackClose_ensures close) ?_ ?_)
    · intro s' h
      have hchanged : s'.retained ≠ s.retained := by
        intro hsame
        have hclose : s'.pendingClose = s.pendingClose := congrArg Retained.pendingClose hsame
        rw [hpend] at hclose
        rcases h with ⟨-, rfl⟩ | ⟨-, -, life, -, rfl⟩
        all_goals cases hclose
      refine iff_of_false (Send.not_restored (fun _ _ h => h) hchanged) (not_not.mpr ⟨?_, ?_⟩)
      · rw [hpend]
        nofun
      · rintro ⟨hackable, hwritten⟩
        rcases h with ⟨hnot, -⟩ | ⟨-, hfailed, -⟩
        · exact hnot hackable
        · exact hfailed hwritten
    · intro _ s' h
      exact .write_bind (.pure fun hspoils => hspoils.2 h)

theorem sendOperationResult_restores (hs : Correlated s)
    {metadata : ResultPushMetadata} {now : UInt64}
    (hexpires : ∀ id r, StaleAt s fid now id r →
      send.Expires s id r) (hkept : ¬send.Spoils written s) :
    Restores (sendOperationResult written fid metadata body now) s (send.Restored s)
      (send.Spoils written s) := by
  refine .of_failed (sendOperationResult_ensures hs) (fun s' h => ?_) hkept
  rcases h with ⟨rfl, -⟩ | ⟨id, r, hstale, hexpired⟩
  · exact .inl rfl
  · refine .inr ⟨id, r, hexpires id r hstale, ?_⟩
    cases hexpired with
    | reported | dropped | silent => rfl

theorem restores_of_written {m : ServerM Unit} (h : Writes s m) (hkept : ¬send.Spoils written s) :
    Restores m s (send.Restored s) (send.Spoils written s) := by
  refine .of_failed h (fun s' hs' => ?_) hkept
  rw [hs']
  exact .inl rfl

theorem Send.perform_restores (hs : Correlated s) (send : Send)
    (hclosed : ∀ e, send ≠ .closeInPlace (.error e)) :
    Restores (send.perform written) s (send.Restored s) (send.Spoils written s) := by
  cases send with
  | operationResult => exact sendOperationResult_restores hs (fun _ _ h => h) not_false
  | result op =>
    refine .guard (iff_of_true (.inl rfl) not_false) fun _ hrequire => ?_
    exact sendOperationResult_restores hs (fun _ _ h => ⟨hrequire, h⟩) not_false
  | operationPartialResult | operationProgress | operationResultDrop | partialResult | progress
  | resultDrop | controlRequest | supersede =>
    exact restores_of_written (perform_written hs trivial) not_false
  | cachePut => exact sendCachePut_restores
  | backpressure | creditUpdate => exact sendPressure_restores (fun _ _ h => h) Iff.rfl
  | prepared =>
    refine restores_of_written (sendPrepared_ensures.imp (fun _ _ => .of_sent) fun _ h => h) ?_
    exact not_false
  | ackClose => exact ackClose_restores
  | closeInPlace closed =>
    cases closed with
    | error e => exact absurd rfl (hclosed e)
    | ok _ => exact closeInPlace_restores

end Nnrp.Server

namespace Nnrp.PreSubmit.PreSubmitDeadlineReservations
open OrderedMap

variable {r : PreSubmitDeadlineReservations} {id now : UInt64} {frameId : UInt32}
  (r : PreSubmitDeadlineReservations)

def Reserves (operationId : UInt64) (frameId : UInt32) : Prop :=
  operationId ∈ r.byOperation ∨ ∃ reserved ∈ r.byFrame[frameId]?, reserved ∈ r.byOperation

theorem removeOperation_same_iff (id : UInt64) :
    (r.removeOperation id).1 = r ↔ id ∉ r.byOperation := by
  cases hheld : r.byOperation[id]? with
  | none =>
    rw [removeOperation, hheld]
    exact iff_of_true rfl (get_eq_none.mp hheld)
  | some resv =>
    rw [removeOperation_of hheld]
    refine iff_of_false (fun hsame => ?_) (not_not.mpr (mem_iff_get.mpr ⟨resv, hheld⟩))
    have hgone := congrArg (fun r => r.byOperation[id]?) hsame
    dsimp only [without] at hgone
    rw [get_erase, if_pos rfl, hheld] at hgone
    cases hgone

theorem takeForSubmit_same_iff : (r.takeForSubmit id frameId now).1 = r ↔
    ¬(r.rejectExpired now = .ok () ∧ r.Reserves id frameId) := by
  rw [takeForSubmit]
  cases r.rejectExpired now with
  | error e => simp
  | ok _ =>
    have hremove := removeOperation_same_iff r id
    cases hheld : r.byOperation[id]? with
    | some resv =>
      have hmem : id ∈ r.byOperation := mem_iff_get.mpr ⟨resv, hheld⟩
      rw [removeOperation_of hheld] at hremove ⊢
      have hchanged : r.without id resv ≠ r := fun h => hremove.mp h hmem
      refine iff_of_false ?_ (not_not.mpr ⟨rfl, .inl hmem⟩)
      dsimp only
      split_ifs
      all_goals exact hchanged
    | none =>
      have hfree := get_eq_none.mp hheld
      rw [removeOperation_of_none hheld]
      dsimp only
      cases hframe : r.byFrame[frameId]? with
      | none => simp [Reserves, hfree, hframe]
      | some resd =>
        simp only [removeOperation_same_iff]
        simp [Reserves, hfree, hframe]

end Nnrp.PreSubmit.PreSubmitDeadlineReservations

namespace Nnrp.Client
open OrderedMap Protocol ByteOrder Packet Control ControlUpdate Session PreSubmit CommonHeader
open NnrpClientSession
open Stateful RuntimeEvent Fallible
open Submit (NnrpSubmitRequest Submittable)
open Lifecycle (ConnectionLifecycle SessionLifecycle)

def NnrpClientSession.unsent (s : NnrpClientSession) : NnrpClientSession := { s with sent := [] }

def Restored (s s' : NnrpClientSession) : Prop := s'.unsent = s.unsent

structure NnrpClientSession.Takes (s : NnrpClientSession) (request : NnrpSubmitRequest)
    (nowUnixMs : UInt64) : Prop where
  fresh : Fresh s request
  current : s.preSubmitDeadlines.rejectExpired nowUnixMs = .ok ()
  reserves : s.preSubmitDeadlines.Reserves request.metadata.operationId request.frameId

def NnrpClientSession.Presses (s : NnrpClientSession) (messageType : MessageType)
    (metadata : PressureMetadata) : Prop :=
  validatePressureSemantics messageType metadata = .ok () ∧
    s.pressure.applyOutbound messageType metadata ≠ .ok s.pressure

def NnrpClientSession.Closable (s : NnrpClientSession) : Prop :=
  s.lifecycle.state = .open ∧ s.sessionId ≠ 0 ∧
    ∃ session ∈ s.lifecycle.sessions[s.sessionId]?, session.state.acceptsNewOperations = true

def Send.Spoils (written : Except RuntimeError Unit) (s : NnrpClientSession) : Send → Prop
  | .submit request nowUnixMs =>
    s.Takes request nowUnixMs ∧
      ¬(Submittable s.toNnrpClientSession request nowUnixMs ∧ written = .ok ())
  | .supersede metadata diagnostics =>
    -- The operation zero is marked before it is refused.
    metadata.oldOperationId = 0 ∧ s.localOperationStates[(0 : UInt64)]? = none ∧
      s.ensurePendingRoleCapacity = .ok () ∧
      diagnostics.length = metadata.diagnosticBytes.toNat ∧
      Encodable metadata.toBytes diagnostics ∧ written = .ok ()
  | .cancelFrame frameId =>
    s.frameOperations[frameId]? = some 0 ∧ s.localOperationStates[(0 : UInt64)]? = none ∧
      s.ensurePendingRoleCapacity = .ok () ∧ written = .ok ()
  | .backpressure metadata =>
    s.Presses .backpressure metadata ∧ ¬(Encodable metadata.toBytes [] ∧ written = .ok ())
  | .creditUpdate metadata =>
    s.Presses .creditUpdate metadata ∧ ¬(Encodable metadata.toBytes [] ∧ written = .ok ())
  | .closeWith _ | .closeInPlace => s.Closable ∧ written ≠ .ok ()
  | _ => False

variable {s : NnrpClientSession} {written : Except RuntimeError Unit} {spoils : Prop}
  {messageType : MessageType} {frameId : UInt32} {body diags : Bytes}
  {metadata : Except NnrpError Bytes}

theorem encoded_bind {β : Type} {rest : Unit → SessionM β}
    {done : β → NnrpClientSession → Prop} {failed : NnrpClientSession → Prop}
    (hfailed : ¬(Encodable metadata body ∧ written = .ok ()) → failed s)
    (hrest : Encodable metadata body ∧ written = .ok () →
      ∀ p, Ensures (rest ()) (s.send p) done failed) :
    Ensures (lift (liftNnrp metadata) >>= fun bytes =>
      check (·.runtimePacket messageType frameId bytes body) >>= fun p =>
        writePacket written p >>= rest) s done failed := by
  rw [← bind_assoc, ← bind_assoc, bind_assoc (lift _)]
  have hwrite : Ensures (lift (liftNnrp metadata) >>= fun bytes =>
      writeRuntimePacket written messageType frameId bytes body) s _ _ := encoded_ensures
  refine .bind_of hwrite (fun s' h => ?_) fun _ s' h => ?_
  · rw [h.2]
    exact hfailed h.1
  · obtain ⟨hgoes, p, rfl⟩ := h
    exact hrest hgoes p

variable {p : RuntimePacket}

theorem writePacket_ensures : Ensures (writePacket written p) s
    (fun _ s' => written = .ok () ∧ s' = s.send p) fun s' => written ≠ .ok () ∧ s' = s := by
  refine .lift_bind (fun e he => ⟨?_, rfl⟩) fun _ hwritten => .write ⟨hwritten, rfl⟩
  rw [he]
  nofun

theorem restores_of_kept {m : SessionM Unit} (h : Ensures m s (fun _ _ => True) (· = s))
    (hkept : ¬spoils) : Restores m s (Restored s) spoils := by
  refine .of_failed h (fun s' hs' => ?_) hkept
  rw [hs']
  exact rfl

theorem writeRuntimePacket_kept {metadata : Bytes} :
    Ensures (writeRuntimePacket written messageType frameId metadata body) s
      (fun _ _ => True) (· = s) :=
  .guard rfl fun _ _ => .guard rfl fun _ _ => .write trivial

theorem sendControlRequest_kept {metadata : ControlRequestMetadata} :
    Ensures (sendControlRequestWithDiagnostics messageType metadata diags written) s
      (fun _ _ => True) (· = s) := by
  refine .guard rfl fun _ _ => .guard rfl fun _ _ => ?_
  refine .guard rfl fun _ _ => .guard rfl fun _ _ => ?_
  refine .guard rfl fun _ _ => .guard rfl fun _ _ => ?_
  refine writePacket_bind rfl ?_
  by_cases hzero : metadata.operationId = 0
  · rw [if_pos hzero]
    exact .pure trivial
  · rw [if_neg hzero]
    exact .write trivial

theorem sendPressure_restores {metadata : PressureMetadata}
    (hspoils : spoils ↔ s.Presses messageType metadata ∧
      ¬(Encodable metadata.toBytes [] ∧ written = .ok ())) :
    Restores (sendPressure written messageType metadata) s (Restored s) spoils := by
  refine pressure_restores (fun changed => ?_) (fun _ => ?_) hspoils rfl
  · constructor
    · intro h
      exact congrArg pressure h
    · rintro rfl
      rfl
  · exact encoded_ensures.imp (fun _ _ h => h.1) fun _ h => h

theorem beginSessionClose_of (close : SessionCloseMetadata) (h : s.Closable) :
    ∃ life, s.lifecycle.beginSessionClose
        { new .sessionClose 24 0 with sessionId := s.sessionId } close =
      .ok life ∧ life ≠ s.lifecycle := by
  obtain ⟨hopen, hnz, sess, hsess, hstate⟩ := h
  have hsess : s.lifecycle.sessions[s.sessionId]? = some sess := hsess
  refine ⟨{ s.lifecycle with
    sessions := s.lifecycle.sessions.insert s.sessionId { sess with
        state := .closing
        lastOperationId := close.lastOperationId
        sessionErrorCode := close.sessionErrorCode } }, ?_, ?_⟩
  · rw [ConnectionLifecycle.beginSessionClose, ConnectionLifecycle.requireConnectionOpen, hopen]
    simp [new, hnz, hsess, hstate, hopen, bind, Except.bind, pure, Except.pure]
  · refine Lifecycle.insert_ne hsess fun h => ?_
    rw [← h] at hstate
    cases hstate

variable {close : SessionCloseMetadata}

theorem closable_of {life : ConnectionLifecycle} (h : s.lifecycle.beginSessionClose
      { new .sessionClose 24 0 with sessionId := s.sessionId } close = .ok life) :
    s.Closable := by
  obtain ⟨_, -, hchecks⟩ := bind_eq_ok.mp h
  obtain ⟨-, hchecks⟩ := of_refused_eq_ok rfl hchecks
  obtain ⟨hnz, -⟩ := of_refused_eq_ok rfl hchecks
  cases Lifecycle.next_transition (c := .beginSessionClose _ _) h with
  | closing _ _ sess hopen hget hact => exact ⟨hopen, hnz, sess, hget, hact⟩

theorem closeWith_restores (hspoils : spoils ↔ s.Closable ∧ written ≠ .ok ()) :
    Restores (closeWith close written) s (Restored s) spoils := by
  by_cases hclosable : s.Closable
  · rw [and_iff_right hclosable] at hspoils
    obtain ⟨life, hbegun, hchanged⟩ := beginSessionClose_of close hclosable
    refine .check_ok_bind (liftNnrp_eq_ok.mpr hbegun) (.write_bind ?_)
    have hencodable : Encodable close.toBytes [] :=
      .of_length (bytesOf_of_valid rfl) SessionCloseMetadata.codec.length (by decide)
    refine Restores.of_changed (encoded_ensures.imp (fun _ _ h => h.1.2) fun s' h => ?_) hspoils
    refine ⟨fun hwritten => h.1 ⟨hencodable, hwritten⟩, fun hrest => hchanged ?_⟩
    rw [h.2] at hrest
    exact congrArg NnrpClientSession.lifecycle hrest
  · refine .check_bind rfl (fun h => absurd (hspoils.mp h).1 hclosable) fun life hbegun => ?_
    exact absurd (closable_of (liftNnrp_eq_ok.mp hbegun)) hclosable

theorem completeLocalOperation_restores {id : UInt64} {state : OperationState}
    (hspoils : spoils ↔ id = 0 ∧ s.localOperationStates[(0 : UInt64)]? = none) :
    Restores (completeLocalOperation id state) (s.send p) (Restored s) spoils := by
  rw [hspoils]
  refine .check_bind rfl (fun h => ⟨0, if_pos h.1⟩) fun frameId _ => ?_
  cases hmark : s.localOperationStates[id]? with
  | some current =>
    refine Ensures.check_error_bind (e := .protocol (.invalidOperationTransition current state))
      ?_ ?_
    · simp only [send, hmark]
    · refine iff_of_true rfl fun h => ?_
      rw [h.1, h.2] at hmark
      cases hmark
  | none =>
    refine Ensures.check_ok_bind (b := ()) ?_ (.write_bind ?_)
    · simp only [send, hmark]
    by_cases hzero : id = 0
    · subst hzero
      refine .lift_bind (fun _ _ => iff_of_false (fun hrest => ?_) (not_not.mpr ⟨rfl, hmark⟩)) ?_
      · have hstates : s.localOperationStates.insert 0 state = s.localOperationStates :=
          congrArg localOperationStates hrest
        rw [← hstates, get_insert, if_pos rfl] at hmark
        cases hmark
      · intro ev hevent
        cases hevent
    · have hevent : liftNnrp (OperationLifecycleEvent.new id state) =
          .ok ⟨id, state⟩ := by
        rw [OperationLifecycleEvent.new, if_neg hzero]
        rfl
      exact .lift_ok_bind hevent (.write fun h => hzero h.1)

theorem supersedeOperation_restores {metadata : SupersedeMetadata} :
    Restores (supersedeOperation metadata diags written) s (Restored s)
      ((Send.supersede metadata diags).Spoils written s) := by
  refine .check_bind rfl (fun h => ⟨_, requireLenOf_iff.mpr h.2.2.2.1⟩) fun _ hlen => ?_
  refine .check_bind rfl (fun h => ⟨_, h.2.2.1⟩) fun _ hcap => ?_
  refine .check_bind rfl (fun h => ⟨0, if_pos h.1⟩) fun frameId _ => ?_
  refine encoded_bind (fun hfails => iff_of_true rfl fun h => hfails h.2.2.2.2) fun hgoes p => ?_
  refine completeLocalOperation_restores ?_
  simp only [Send.Spoils, hcap, requireLenOf_iff.mp hlen, hgoes, and_true]

theorem cancelFrame_restores : Restores (cancelFrame frameId written) s (Restored s)
      ((Send.cancelFrame frameId).Spoils written s) := by
  refine .check_bind rfl (fun h => ⟨_, h.2.2.1⟩) fun _ hcap => ?_
  cases hbound : s.frameOperations[frameId]? with
  | none =>
    refine .check_bind rfl (fun h => ?_) fun id hop => ?_
    · cases hbound.symm.trans h.1
    · rw [hbound] at hop
      cases hop
  | some id =>
    refine Ensures.check_ok_bind (b := id) ?_ ?_
    · rw [hbound]
    have hbuilt : ∃ p, s.runtimePacket .frameCancel frameId [] [] = .ok p :=
      RuntimePacket.new_ok_iff.mpr (by decide)
    obtain ⟨p, hpkt⟩ := hbuilt
    refine .check_ok_bind hpkt ?_
    refine .bind_of writePacket_ensures (fun s' h => ?_) fun _ s' h => ?_
    · rw [h.2]
      exact iff_of_true rfl fun hspoils => h.1 hspoils.2.2.2
    · obtain ⟨hwritten, rfl⟩ := h
      refine completeLocalOperation_restores ?_
      simp only [Send.Spoils, hbound, hcap, hwritten, and_true, Option.some.injEq]

theorem prepareSubmit_restored_iff (s : NnrpClientSession) (req : NnrpSubmitRequest)
    (now : UInt64) : Restored s { s with
        toNnrpClientSession := (s.toNnrpClientSession.prepare req now).1 } ↔
      ¬s.Takes req now := by
  by_cases hfresh : Fresh s req
  · rw [Submit.prepare_of_fresh hfresh]
    have htakes : s.Takes req now ↔ s.preSubmitDeadlines.rejectExpired now = .ok () ∧
          s.preSubmitDeadlines.Reserves req.metadata.operationId req.frameId :=
      ⟨fun h => ⟨h.current, h.reserves⟩, fun h => ⟨hfresh, h.1, h.2⟩⟩
    rw [htakes, ← PreSubmitDeadlineReservations.takeForSubmit_same_iff]
    constructor
    · intro h
      exact congrArg (fun s => s.preSubmitDeadlines) h
    · intro h
      dsimp only
      rw [h]
      rfl
  · obtain ⟨e, he⟩ := Submit.prepare_of_not_fresh hfresh
    rw [he]
    exact iff_of_true rfl fun h => hfresh h.fresh

theorem submitNowait_restores {req : NnrpSubmitRequest} {now : UInt64} :
    Restores ((Send.submit req now).perform written) s (Restored s)
      ((Send.submit req now).Spoils written s) := by
  rcases hprep : s.toNnrpClientSession.prepare req now with ⟨sess, result⟩
  have hrest := prepareSubmit_restored_iff s req now
  have hsubmittable : (∃ p, result = .ok p) ↔
      Submittable s.toNnrpClientSession req now := by
    rw [← Submit.prepare_ok_iff, hprep]
  rw [hprep] at hrest
  have hcall := prepareSubmit_call hprep
  have hspoils (hfails : ¬(Submittable s.toNnrpClientSession req now ∧ written = .ok ())) :
      Restored s { s with toNnrpClientSession := sess } ↔
        ¬(Send.submit req now).Spoils written s := by
    rw [Send.Spoils, and_iff_left hfails]
    exact hrest
  cases result with
  | error e =>
    refine .call_error_bind (call_bind_error hcall) (hspoils fun h => ?_)
    obtain ⟨p, hpkt⟩ := hsubmittable.mpr h.1
    cases hpkt
  | ok p =>
    rw [Send.perform, submitNowait, bind_assoc]
    refine .call_ok_bind hcall ?_
    rw [bind_assoc]
    refine .bind_of writePacket_ensures (fun s' h => ?_) fun _ s' h => ?_
    · rw [h.2]
      exact hspoils fun hgoes => h.1 hgoes.2
    · refine .write_bind (.pure fun hspoiled => hspoiled.2 ⟨hsubmittable.mp ⟨p, rfl⟩, h.1⟩)

theorem Send.perform_restores (send : Send) :
    Restores (send.perform written) s (Restored s) (send.Spoils written s) := by
  cases send with
  | submit => exact submitNowait_restores
  | controlRequest => exact restores_of_kept sendControlRequest_kept not_false
  | supersede => exact supersedeOperation_restores
  | cancelFrame => exact cancelFrame_restores
  | progress | partialResult =>
    refine restores_of_kept (.guard rfl fun _ _ => .guard rfl fun _ _ => ?_) not_false
    refine .guard rfl fun _ _ => .guard rfl fun _ _ => ?_
    exact .guard rfl fun _ _ => writeRuntimePacket_kept
  | resultDropReason =>
    refine restores_of_kept (.guard rfl fun _ _ => .guard rfl fun _ _ => ?_) not_false
    exact .guard rfl fun _ _ => .guard rfl fun _ _ => writeRuntimePacket_kept
  | backpressure | creditUpdate => exact sendPressure_restores Iff.rfl
  | cachePut =>
    refine restores_of_kept (.guard rfl fun _ _ => ?_) not_false
    exact .guard rfl fun _ _ => writeRuntimePacket_kept
  | closeWith => exact closeWith_restores Iff.rfl
  | closeInPlace => exact .check_ok_bind rfl (closeWith_restores Iff.rfl)
  | prepared =>
    exact restores_of_kept (.guard rfl fun _ _ => .guard rfl fun _ _ => .write trivial) not_false

end Nnrp.Client

namespace Nnrp
open Packet Control Object Stateful Server

/-- A send that fails leaves the session as it was exactly if it does not spoil it. A close whose
acknowledgement is written may still fail when it closes the transport, which is left out. -/
theorem failed_send_restores_iff (written : Except RuntimeError Unit) :
    (∀ (s : NnrpServerSession) (send : Server.Send), Reachable s →
      (∀ e, send ≠ .closeInPlace (.error e)) →
      ((∀ e s', call (send.perform written) s = (.error e, s') → send.Restored s s') ↔
        ¬send.Spoils written s)) ∧ ∀ (s : Client.NnrpClientSession) (send : Client.Send),
      (∀ e s', call (send.perform written) s = (.error e, s') → Client.Restored s s') ↔
        ¬send.Spoils written s := by
  constructor
  · intro s send hs hclosed
    exact (send.perform_restores hs.correlated hclosed).iff
  · intro s send
    exact send.perform_restores.iff

def droppedWrite : RuntimeError := .transportClosed .tcp "connection lost"

def progressSend : Server.Send := .operationProgress (Client.sampleProgress 11) []

theorem failed_progress_keeps_session :
    ∃ e s', call (progressSend.perform (.error droppedWrite)) (afterSubmit 11 1) = (.error e, s') ∧
      progressSend.Restored (afterSubmit 11 1) s' := by
  have hfails : (call (progressSend.perform (.error droppedWrite)) (afterSubmit 11 1)).1 =
      .error droppedWrite := by decide +kernel
  rcases hcall : call (progressSend.perform (.error droppedWrite)) (afterSubmit 11 1) with ⟨x, s'⟩
  rw [hcall] at hfails
  subst hfails
  refine ⟨droppedWrite, s', rfl, ?_⟩
  have hiff := (failed_send_restores_iff (.error droppedWrite)).1 (afterSubmit 11 1) progressSend
    (afterSubmit_reachable 11 1) fun e h => by cases h
  exact hiff.mpr not_false droppedWrite s' hcall

def cachingSession : NnrpServerSession :=
  { sampleSession with supportedCacheObjects := [.promptSegment] }

def promptPut : CachePutMetadata where
  cacheNamespace := 1
  cacheKeyHi := 0
  cacheKeyLo := 1
  objectKind := .promptSegment
  ttlMs := 0
  objectBytes := 1
  codecBitmap := 0
  flags := 0

/-- A cache put whose body is too short is tracked, and a close that cannot be written leaves the
session of the client closing. -/
theorem failed_sends_change_session :
    (Opened cachingSession ∧ ∃ e s', call ((Server.Send.cachePut promptPut []).perform (.ok ()))
        cachingSession = (.error e, s') ∧
      ¬(Server.Send.cachePut promptPut []).Restored cachingSession s') ∧
    ∃ e s', call (Client.Send.closeInPlace.perform (.error droppedWrite))
        (.opened 7 4 (.withSession 7)) = (.error e, s') ∧
      ¬Client.Restored (.opened 7 4 (.withSession 7)) s' := by
  have hopened : Opened cachingSession := { sampleSession_opened with }
  refine ⟨⟨hopened, ?_⟩, ?_⟩
  · have hspoils : (Server.Send.cachePut promptPut []).Spoils (.ok ()) cachingSession := by
      refine ⟨by decide, by decide, .inl rfl, fun h => ?_⟩
      cases h.1
    have hs : Reachable cachingSession := ⟨cachingSession, [], hopened, rfl⟩
    exact (Server.Send.perform_restores hs.correlated _ fun e h => by cases h).fails_of hspoils
  · have hspoils : Client.Send.closeInPlace.Spoils (.error droppedWrite)
        (.opened 7 4 (.withSession 7)) := by
      refine ⟨⟨rfl, by decide, _, Std.ExtTreeMap.getElem?_insert_self, ?_⟩, nofun⟩
      rfl
    exact (Client.Send.perform_restores _).fails_of hspoils

end Nnrp
