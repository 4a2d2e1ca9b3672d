import Nnrp.ClientRun

/-!
# Reading events in batches

A batch takes the retained events first and then what the transport has buffered, up to a limit.
The events that it has collected are returned together at its end: when the transport fails or a
packet is refused before that, they are dropped with the error.
-/

namespace Nnrp.Client
open Packet Stateful RuntimeEvent LabelledRun List

def NnrpClientSession.withPending (s : NnrpClientSession) (entries : List Entry) :
    NnrpClientSession :=
  { s with pendingEvents := entries }

/-- The packets that arrive, decoded one after the other: the events of those that are accepted, in
the order of their arrival. -/
def decodeAll : NnrpClientSession → List Arrival → List Entry × NnrpClientSession
  | s, [] => ([], s)
  | s, .error _ :: arrivals => decodeAll s arrivals
  | s, .ok packet :: arrivals =>
    match call (decodeEventPacket packet) s with
    | (.ok entry, s') => (entry :: (decodeAll s' arrivals).1, (decodeAll s' arrivals).2)
    | (.error _, s') => decodeAll s' arrivals

def AllAccepted (s : NnrpClientSession) (arrivals : List Arrival) : Prop :=
  (decodeAll s arrivals).1.length = arrivals.length

instance (s : NnrpClientSession) (arrivals : List Arrival) : Decidable (AllAccepted s arrivals) :=
  inferInstanceAs (Decidable (_ = _))

section
variable {p : RuntimePacket} {entries : List Entry}

theorem completeOperationByFrame_commutes {fid : UInt32} :
    Commutes (·.withPending entries) (completeOperationByFrame fid) :=
  .bind (.check fun _ => rfl) fun _ => .bind (.write fun _ => rfl) fun _ => .pure

theorem completeLocalOperation_commutes {id : UInt64} {state : Protocol.OperationState} :
    Commutes (·.withPending entries) (completeLocalOperation id state) := by
  refine .bind (.check fun _ => rfl) fun _ => .bind (.check fun _ => rfl) fun _ => ?_
  exact .bind (.write fun _ => rfl) fun _ => .bind .lift fun _ => .write fun _ => rfl

theorem decodeControl_commutes : Commutes (·.withPending entries) (decodeControl p) := by
  refine .bind (.check fun _ => rfl) fun _ => .bind .lift fun _ => .bind .lift fun m => ?_
  refine .bind .lift fun _ => .bind .lift fun _ => .bind (.check fun _ => rfl) fun _ => ?_
  split_ifs
  · exact .pure
  · exact .bind (.check fun _ => rfl) fun _ => .bind completeLocalOperation_commutes fun _ => .pure

theorem decodeSupersede_commutes : Commutes (·.withPending entries) (decodeSupersede p) := by
  refine .bind (.check fun _ => rfl) fun _ => .bind .lift fun _ => .bind .lift fun m => ?_
  refine .bind .lift fun _ => .bind (.check fun _ => rfl) fun _ => ?_
  exact .bind (.check fun _ => rfl) fun _ => .bind completeLocalOperation_commutes fun _ => .pure

theorem decodePressure_commutes : Commutes (·.withPending entries) (decodePressure p) := by
  refine .bind (.check fun _ => rfl) fun _ => .bind .lift fun _ => .bind .lift fun m => ?_
  refine .bind .lift fun _ => .bind (.check fun _ => rfl) fun pressure => ?_
  refine .bind (.write fun _ => rfl) fun _ => ?_
  split_ifs
  · exact .pure
  · exact .pure

theorem decodeResultPush_commutes : Commutes (·.withPending entries) (decodeResultPush p) := by
  refine .bind (.check fun _ => rfl) fun _ => .bind .lift fun _ => .bind .lift fun _ => ?_
  exact .bind completeOperationByFrame_commutes fun _ => .bind .lift fun _ => .pure

theorem decodeResultDrop_commutes : Commutes (·.withPending entries) (decodeResultDrop p) := by
  refine .bind (.check fun _ => rfl) fun _ => .bind .lift fun _ => ?_
  exact .bind completeOperationByFrame_commutes fun _ => .bind .lift fun _ => .pure

theorem decodeResultDropReason_commutes :
    Commutes (·.withPending entries) (decodeResultDropReason p) := by
  refine .bind (.check fun _ => rfl) fun _ => .bind .lift fun _ => .bind .lift fun _ => ?_
  refine .bind .lift fun _ => .bind .lift fun _ => .bind ?_ fun _ => .bind .lift fun _ => .pure
  exact .bind (.check fun _ => rfl) fun _ => .write fun _ => rfl

theorem decodePartialResult_commutes :
    Commutes (·.withPending entries) (decodePartialResult p) := by
  refine .bind (.check fun _ => rfl) fun _ => .bind .lift fun _ => .bind .lift fun _ => ?_
  refine .bind .lift fun _ => .bind .lift fun _ => .bind (.check fun _ => rfl) fun _ => ?_
  exact .bind (.check fun _ => rfl) fun _ => .pure

theorem decodeProgress_commutes : Commutes (·.withPending entries) (decodeProgress p) := by
  refine .bind (.check fun _ => rfl) fun _ => .bind .lift fun _ => .bind .lift fun _ => ?_
  refine .bind .lift fun _ => .bind .lift fun _ => .bind (.check fun _ => rfl) fun _ => ?_
  exact .bind (.check fun _ => rfl) fun _ => .pure

theorem decodeEvent_commutes : Commutes (·.withPending entries) (decodeEvent p) := by
  rw [decodeEvent]
  split
  · exact decodeResultPush_commutes
  · exact decodeResultDrop_commutes
  · exact decodeResultDropReason_commutes
  · exact decodePartialResult_commutes
  · exact decodeProgress_commutes
  · exact decodeControl_commutes
  · exact decodeControl_commutes
  · exact decodeSupersede_commutes
  · exact decodePressure_commutes
  · exact decodePressure_commutes
  · exact .bind (.check fun _ => rfl) fun _ => .pure

theorem decodeEventPacket_commutes : Commutes (·.withPending entries) (decodeEventPacket p) :=
  .bind decodeEvent_commutes fun _ => .pure

theorem pendingEvents_of_commutes {α : Type} {m : SessionM α} {s : NnrpClientSession}
    (h : Commutes (·.withPending s.pendingEvents) m) :
    (call m s).2.pendingEvents = s.pendingEvents := by
  have hcall : call m s = _ := h.call_eq s
  rw [hcall]
  rfl

theorem decodeAll_withPending (s : NnrpClientSession) (arrs : List Arrival) :
    decodeAll (s.withPending entries) arrs =
      ((decodeAll s arrs).1, (decodeAll s arrs).2.withPending entries) := by
  induction arrs generalizing s with
  | nil => rfl
  | cons arr arrs ih =>
    cases arr with
    | error e => exact ih s
    | ok p =>
      have hcall : Commutes (·.withPending entries) (decodeEventPacket p) :=
        decodeEventPacket_commutes
      rw [decodeAll, decodeAll, hcall.call_eq]
      rcases call (decodeEventPacket p) s with ⟨x, s'⟩
      cases x with
      | ok entry =>
        dsimp only
        rw [ih s']
      | error e => exact ih s'

end

section
variable {s : NnrpClientSession} {arrs : List Arrival} {rest : List Entry} {arr : Arrival}
  {entry : Entry} {r : Reader}

theorem decodeAll_append (s : NnrpClientSession) (arrs later : List Arrival) :
    decodeAll s (arrs ++ later) = ((decodeAll s arrs).1 ++ (decodeAll (decodeAll s arrs).2 later).1,
        (decodeAll (decodeAll s arrs).2 later).2) := by
  induction arrs generalizing s with
  | nil => rfl
  | cons arr arrs ih =>
    cases arr with
    | error e => exact ih s
    | ok p =>
      rw [cons_append, decodeAll, decodeAll]
      rcases call (decodeEventPacket p) s with ⟨x, s'⟩
      cases x with
      | ok entry =>
        dsimp only
        rw [ih s']
        rfl
      | error e => exact ih s'

theorem decodeAll_length_le (s : NnrpClientSession) (arrs : List Arrival) :
    (decodeAll s arrs).1.length ≤ arrs.length := by
  induction arrs generalizing s with
  | nil => exact Nat.le_refl 0
  | cons arr arrs ih =>
    cases arr with
    | error e => exact Nat.le_succ_of_le (ih s)
    | ok p =>
      rw [decodeAll]
      rcases call (decodeEventPacket p) s with ⟨x, s'⟩
      cases x with
      | ok entry => exact Nat.succ_le_succ (ih s')
      | error e => exact Nat.le_succ_of_le (ih s')

theorem not_allAccepted_cons (h : (decodeAll s [arr]).1 = []) : ¬AllAccepted s (arr :: arrs) := by
  have happend := decodeAll_append s [arr] arrs
  have hle := decodeAll_length_le (decodeAll s [arr]).2 arrs
  rw [singleton_append] at happend
  rw [AllAccepted, happend, h]
  simp only [nil_append, length_cons]
  omega

theorem allAccepted_cons (h : (decodeAll s [arr]).1 ≠ []) :
    AllAccepted s (arr :: arrs) ↔ AllAccepted (decodeAll s [arr]).2 arrs := by
  have happend := decodeAll_append s [arr] arrs
  have hle := decodeAll_length_le s [arr]
  have hpos := length_pos_of_ne_nil h
  rw [singleton_append] at happend
  rw [length_singleton] at hle
  rw [AllAccepted, AllAccepted, happend]
  simp only [length_append, length_cons]
  omega

theorem popEvent_nil (h : r.session.pendingEvents = []) :
    call (onSession popEvent) r = (.ok none, r) := by
  have hcall : call popEvent r.session = (.ok none, r.session) := call_popFront_nil h
  change ((call popEvent r.session).1, { r with session := (call popEvent r.session).2 }) = _
  rw [hcall]

theorem popEvent_cons
    (h : r.session.pendingEvents = entry :: rest) : call (onSession popEvent) r =
      (.ok (some entry), { r with session := r.session.withPending rest }) := by
  have hcall : call popEvent r.session = (.ok (some entry), r.session.withPending rest) :=
    call_popFront_cons h
  change ((call popEvent r.session).1, { r with session := (call popEvent r.session).2 }) = _
  rw [hcall]

theorem takePending_call (n : ℕ) (r : Reader) : call (takePending n) r =
      (.ok (r.session.pendingEvents.take n),
        { r with session := r.session.withPending (r.session.pendingEvents.drop n) }) := by
  induction n generalizing r with
  | zero => rfl
  | succ n ih =>
    rw [takePending]
    cases hpend : r.session.pendingEvents with
    | nil =>
      have hself : r.session.withPending [] = r.session := by
        rw [← hpend]
        rfl
      rw [call_bind_ok (popEvent_nil hpend), drop_nil, hself]
      rfl
    | cons entry rest =>
      rw [call_bind_ok (popEvent_cons hpend), call_bind_ok (ih _)]
      rfl

theorem readEntry_call (s : NnrpClientSession) (arr : Arrival) (later : List Arrival) :
    (∃ e, (decodeAll s [arr]).1 = [] ∧
      call readEntry ⟨s, arr :: later⟩ = (.error e, ⟨(decodeAll s [arr]).2, later⟩)) ∨
    ∃ entry, (decodeAll s [arr]).1 = [entry] ∧
      call readEntry ⟨s, arr :: later⟩ = (.ok (some entry), ⟨(decodeAll s [arr]).2, later⟩) := by
  cases arr with
  | error e => exact .inl ⟨e, rfl, rfl⟩
  | ok p =>
    have hread : call tryReadPacket ⟨s, .ok p :: later⟩ = (.ok (some p), ⟨s, later⟩) := rfl
    have hdec : call (onSession (decodeEventPacket p)) ⟨s, later⟩ =
        ((call (decodeEventPacket p) s).1, ⟨(call (decodeEventPacket p) s).2, later⟩) := rfl
    rw [decodeAll, readEntry, call_bind_ok hread]
    rcases hcall : call (decodeEventPacket p) s with ⟨x, s'⟩
    rw [hcall] at hdec
    cases x with
    | error e => exact .inl ⟨e, rfl, call_bind_error hdec⟩
    | ok entry => exact .inr ⟨entry, rfl, call_bind_ok hdec⟩

theorem decodeAll_pendingEvents (s : NnrpClientSession) (arrs : List Arrival) :
    (decodeAll s arrs).2.pendingEvents = s.pendingEvents := by
  have h : decodeAll (s.withPending s.pendingEvents) arrs = _ := decodeAll_withPending s arrs
  change decodeAll s arrs = _ at h
  rw [h]
  rfl

theorem readBuffered_call (n : ℕ) (s : NnrpClientSession) (inbound : List Arrival) :
    ∃ consumed rest, inbound = consumed ++ rest ∧
      (call (readBuffered n) ⟨s, inbound⟩).2 = ⟨(decodeAll s consumed).2, rest⟩ ∧
      (AllAccepted s (inbound.take n) ∧ consumed = inbound.take n ∧
          (call (readBuffered n) ⟨s, inbound⟩).1 = .ok (decodeAll s consumed).1 ∨
        ¬AllAccepted s (inbound.take n) ∧ (∃ e, (call (readBuffered n) ⟨s, inbound⟩).1 = .error e) ∧
          ((decodeAll s consumed).1 = [] ↔ (decodeAll s (inbound.take 1)).1 = [])) := by
  induction n generalizing s inbound with
  | zero => exact ⟨[], inbound, rfl, rfl, .inl ⟨rfl, rfl, rfl⟩⟩
  | succ n ih =>
    cases inbound with
    | nil => exact ⟨[], [], rfl, rfl, .inl ⟨rfl, rfl, rfl⟩⟩
    | cons arr later =>
      rw [take_succ_cons, take_succ_cons, take_zero]
      rw [readBuffered]
      rcases readEntry_call s arr later with ⟨e, href, hcall⟩ | ⟨entry, hentry, hcall⟩
      · rw [call_bind_error hcall]
        exact ⟨[arr], later, rfl, rfl, .inr ⟨not_allAccepted_cons href, ⟨e, rfl⟩, Iff.rfl⟩⟩
      · have hne : (decodeAll s [arr]).1 ≠ [] := by
          rw [hentry]
          exact cons_ne_nil _ _
        obtain ⟨consumed, rest, rfl, hstate, hres⟩ := ih (decodeAll s [arr]).2 later
        have happend := decodeAll_append s [arr] consumed
        rw [singleton_append, hentry] at happend
        rw [call_bind_ok hcall, allAccepted_cons hne, call_bind_pure]
        refine ⟨arr :: consumed, rest, rfl, ?_, ?_⟩
        · rw [happend]
          exact hstate
        · rw [happend]
          rcases hres with ⟨hacc, hcons, hok⟩ | ⟨href, ⟨e, herror⟩, -⟩
          · rw [hok]
            exact .inl ⟨hacc, congrArg (arr :: ·) hcons, rfl⟩
          · rw [herror]
            refine .inr ⟨href, ⟨e, rfl⟩, ?_⟩
            rw [hentry]
            simp

variable (n : ℕ) (inbound : List Arrival)

theorem pollEventPacketBatch_eq {pending : List Entry} (h : s.pendingEvents = pending) :
    call (pollEventPacketBatch n) ⟨s, inbound⟩ =
      ((call (readBuffered (n - pending.length)) ⟨s.withPending (pending.drop n), inbound⟩).1.map
          (pending.take n ++ ·),
        (call (readBuffered (n - pending.length))
          ⟨s.withPending (pending.drop n), inbound⟩).2) := by
  subst h
  have hlimit : n - (s.pendingEvents.take n).length = n - s.pendingEvents.length := by
    rw [length_take]
    omega
  rw [pollEventPacketBatch, call_bind_ok (takePending_call n _), hlimit, call_bind_pure]

theorem pollEventPacketBatch_cons (h : s.pendingEvents = entry :: rest) :
    call (pollEventPacketBatch (n + 1)) ⟨s, inbound⟩ =
      ((call (pollEventPacketBatch n) ⟨s.withPending rest, inbound⟩).1.map (entry :: ·),
        (call (pollEventPacketBatch n) ⟨s.withPending rest, inbound⟩).2) := by
  have hpend : (s.withPending rest).pendingEvents = rest := rfl
  have hstate : (s.withPending rest).withPending (rest.drop n) = s.withPending (rest.drop n) := rfl
  rw [pollEventPacketBatch_eq (n + 1) inbound h, pollEventPacketBatch_eq n inbound hpend, hstate,
    length_cons, Nat.add_sub_add_right, drop_succ_cons, take_succ_cons]
  rcases call (readBuffered (n - rest.length)) ⟨s.withPending (rest.drop n), inbound⟩ with ⟨x, r⟩
  cases x <;> rfl

theorem pollEventPacketBatch_nil (h : s.pendingEvents = []) :
    call (pollEventPacketBatch n) ⟨s, inbound⟩ = call (readBuffered n) ⟨s, inbound⟩ := by
  have hself : s.withPending [] = s := by
    rw [← h]
    rfl
  rw [pollEventPacketBatch_eq n inbound h, drop_nil, take_nil, length_nil, hself]
  rcases call (readBuffered n) ⟨s, inbound⟩ with ⟨x, r⟩
  cases x <;> rfl

theorem pollEventPacketBatch_call (s : NnrpClientSession) (inbound : List Arrival) :
    ∃ cons rest, inbound = cons ++ rest ∧ (call (pollEventPacketBatch n) ⟨s, inbound⟩).2 =
        ⟨(decodeAll s cons).2.withPending (s.pendingEvents.drop n), rest⟩ ∧
      (AllAccepted s (inbound.take (n - s.pendingEvents.length)) ∧
          cons = inbound.take (n - s.pendingEvents.length) ∧
          (call (pollEventPacketBatch n) ⟨s, inbound⟩).1 =
            .ok (s.pendingEvents.take n ++ (decodeAll s cons).1) ∨
        ¬AllAccepted s (inbound.take (n - s.pendingEvents.length)) ∧
          (∃ e, (call (pollEventPacketBatch n) ⟨s, inbound⟩).1 = .error e) ∧
          ((decodeAll s cons).1 = [] ↔ (decodeAll s (inbound.take 1)).1 = [])) := by
  rw [pollEventPacketBatch_eq n inbound rfl]
  obtain ⟨cons, rest, hinbound, hstate, hres⟩ :=
    readBuffered_call (n - s.pendingEvents.length) (s.withPending (s.pendingEvents.drop n)) inbound
  simp only [AllAccepted, decodeAll_withPending] at hstate hres
  refine ⟨cons, rest, hinbound, hstate, ?_⟩
  rcases hres with ⟨hacc, hcons, hok⟩ | ⟨href, ⟨e, herror⟩, hfirst⟩
  · rw [hok]
    exact .inl ⟨hacc, hcons, rfl⟩
  · rw [herror]
    exact .inr ⟨href, ⟨e, rfl⟩, hfirst⟩

theorem awaitEventPacketBatch_call (s : NnrpClientSession) (inbound : List Arrival)
    (h : s.pendingEvents ≠ [] ∨ inbound ≠ []) : call (awaitEventPacketBatch (n + 1)) ⟨s, inbound⟩ =
      ((call (pollEventPacketBatch (n + 1)) ⟨s, inbound⟩).1.map some,
        (call (pollEventPacketBatch (n + 1)) ⟨s, inbound⟩).2) := by
  have hvalid : call (lift (validateEventBatchLimit (n + 1)) : ReaderM Unit) ⟨s, inbound⟩ =
      (.ok (), ⟨s, inbound⟩) := rfl
  rw [awaitEventPacketBatch, call_bind_ok hvalid]
  cases hpend : s.pendingEvents with
  | cons entry rest =>
    have hfirst : call awaitEventPacket ⟨s, inbound⟩ =
        (.ok (some entry), ⟨s.withPending rest, inbound⟩) :=
      call_bind_ok (popEvent_cons hpend)
    rw [call_bind_ok hfirst, pollEventPacketBatch_cons n inbound hpend]
    dsimp only
    rw [call_bind_pure, Nat.add_sub_cancel]
    rcases call (pollEventPacketBatch n) ⟨s.withPending rest, inbound⟩ with ⟨x, r⟩
    cases x <;> rfl
  | nil =>
    have hfirst : call awaitEventPacket ⟨s, inbound⟩ = call readEntry ⟨s, inbound⟩ :=
      call_bind_ok (popEvent_nil hpend)
    cases inbound with
    | nil => exact absurd rfl (h.resolve_left (absurd hpend))
    | cons arr later =>
      rw [pollEventPacketBatch_nil (n + 1) _ hpend, readBuffered]
      rcases readEntry_call s arr later with ⟨e, -, hcall⟩ | ⟨entry, -, hcall⟩
      · rw [call_bind_error (hfirst.trans hcall), call_bind_error hcall]
        rfl
      · have hempty : (decodeAll s [arr]).2.pendingEvents = [] :=
          (decodeAll_pendingEvents s [arr]).trans hpend
        rw [call_bind_ok (hfirst.trans hcall), call_bind_ok hcall, call_bind_pure]
        rw [call_bind_pure, Nat.add_sub_cancel, pollEventPacketBatch_nil n later hempty]
        rcases call (readBuffered n) ⟨(decodeAll s [arr]).2, later⟩ with ⟨x, r⟩
        cases x <;> rfl

end

structure BatchRun where
  reader : Reader
  read : List Arrival := []
  returned : List Entry := []

inductive BatchCall
  | arrive (arrival : Arrival)
  | poll (maxEvents : ℕ)
  | await (maxEvents : ℕ)

namespace BatchRun

def start (s : NnrpClientSession) : BatchRun where
  reader := ⟨s, []⟩

variable (w : BatchRun)

def session : NnrpClientSession := w.reader.session

def after (out : Except RuntimeError (List Entry) × Reader) : BatchRun where
  reader := out.2
  read := w.read ++ w.reader.inbound.take (w.reader.inbound.length - out.2.inbound.length)
  returned := w.returned ++ out.1.toOption.getD []

def step : BatchCall → Option BatchRun
  | .arrive arrival =>
    some { w with reader := { w.reader with inbound := w.reader.inbound ++ [arrival] } }
  | .poll maxEvents => some (w.after (call (pollEventPacketBatch maxEvents) w.reader))
  | .await maxEvents =>
    let out := call (awaitEventPacketBatch maxEvents) w.reader
    some (w.after (out.1.map fun events => events.getD [], out.2))

end BatchRun

/-- The arrivals that a batch reads are all accepted, or the batch has nothing to lose: no event is
retained and its first read fails. -/
def Reader.Clear (r : Reader) (maxEvents : ℕ) : Prop :=
  AllAccepted r.session (r.inbound.take (maxEvents - r.session.pendingEvents.length)) ∨
    r.session.pendingEvents = [] ∧ (decodeAll r.session (r.inbound.take 1)).1 = []

def BatchRun.Clear (w : BatchRun) : BatchCall → Prop
  | .arrive _ => True
  | .poll maxEvents | .await maxEvents => w.reader.Clear maxEvents

instance (w : BatchRun) (c : BatchCall) : Decidable (w.Clear c) :=
  match c with
  | .arrive _ => .isTrue trivial
  | .poll _ | .await _ => inferInstanceAs (Decidable (_ ∨ _))

structure Took (r : Reader) (maxEvents : ℕ) (out : Except RuntimeError (List Entry) × Reader)
    (consumed : List Arrival) : Prop where
  inbound : r.inbound = consumed ++ out.2.inbound
  session : out.2.session =
    (decodeAll r.session consumed).2.withPending out.2.session.pendingEvents
  returned : r.Clear maxEvents → out.1.toOption.getD [] ++ out.2.session.pendingEvents =
    r.session.pendingEvents ++ (decodeAll r.session consumed).1
  lost : ¬r.Clear maxEvents → (out.1.toOption.getD []).length +
      out.2.session.pendingEvents.length <
    r.session.pendingEvents.length + (decodeAll r.session consumed).1.length

theorem Took.nothing {r : Reader} {maxEvents : ℕ} {x : Except RuntimeError (List Entry)}
    (hclear : r.Clear maxEvents) (hx : x.toOption.getD [] = []) : Took r maxEvents (x, r) [] where
  inbound := rfl
  session := rfl
  returned _ := by
    rw [hx]
    exact (append_nil _).symm
  lost h := absurd hclear h

theorem pollEventPacketBatch_took (n : ℕ) (r : Reader) :
    ∃ cons, Took r n (call (pollEventPacketBatch n) r) cons := by
  rcases r with ⟨s, inbound⟩
  obtain ⟨cons, rest, hinbound, hstate, hres⟩ := pollEventPacketBatch_call n s inbound
  rcases hcall : call (pollEventPacketBatch n) ⟨s, inbound⟩ with ⟨x, r⟩
  rw [hcall] at hstate hres
  dsimp only at hstate hres
  subst hstate
  have hpend : ∀ entries, ((decodeAll s cons).2.withPending entries).pendingEvents = entries :=
    fun _ => rfl
  rcases hres with ⟨hacc, hcons, rfl⟩ | ⟨href, ⟨e, rfl⟩, hfirst⟩
  · refine ⟨cons, hinbound, rfl, fun _ => ?_, fun h => absurd (.inl hacc) h⟩
    -- Something is read only if no retained event is left.
    have horder : s.pendingEvents.drop n = [] ∨ (decodeAll s cons).1 = [] := by
      rcases Nat.le_total s.pendingEvents.length n with hle | hle
      · exact .inl (drop_eq_nil_of_le hle)
      · rw [hcons, Nat.sub_eq_zero_of_le hle, take_zero]
        exact .inr rfl
    dsimp only [Except.toOption, Option.getD]
    rw [hpend]
    rcases horder with h | h
    · rw [h, append_nil, ← append_nil (s.pendingEvents.take n), ← h, take_append_drop]
    · rw [h, append_nil, append_nil, take_append_drop]
  · refine ⟨cons, hinbound, rfl, fun h => ?_, fun h => ?_⟩
    · obtain ⟨hnone, hempty⟩ := h.resolve_left href
      dsimp only at hnone hempty
      rw [hpend, hnone, hfirst.mpr hempty, drop_nil]
      rfl
    · have hlimit : s.pendingEvents.length < n := by
        by_contra hle
        refine href ?_
        rw [Nat.sub_eq_zero_of_le (Nat.le_of_not_lt hle), take_zero]
        rfl
      have hsome : 0 < s.pendingEvents.length + (decodeAll s cons).1.length := by
        by_contra hzero
        have hnone : s.pendingEvents = [] := length_eq_zero_iff.mp (by omega)
        have hread : (decodeAll s cons).1 = [] := length_eq_zero_iff.mp (by omega)
        exact h (.inr ⟨hnone, hfirst.mp hread⟩)
      rw [hpend, drop_eq_nil_of_le (Nat.le_of_lt hlimit)]
      exact hsome

theorem awaitEventPacketBatch_took (n : ℕ) (r : Reader) : ∃ cons, Took r n
      ((call (awaitEventPacketBatch n) r).1.map fun events => events.getD [],
        (call (awaitEventPacketBatch n) r).2) cons := by
  rcases r with ⟨s, inbound⟩
  cases n with
  | zero =>
    have hclear : Reader.Clear ⟨s, inbound⟩ 0 := by
      refine .inl ?_
      rw [Nat.zero_sub, take_zero]
      rfl
    exact ⟨[], .nothing hclear rfl⟩
  | succ n =>
    by_cases h : s.pendingEvents ≠ [] ∨ inbound ≠ []
    · obtain ⟨cons, htook⟩ := pollEventPacketBatch_took (n + 1) ⟨s, inbound⟩
      rw [awaitEventPacketBatch_call n s inbound h]
      refine ⟨cons, ?_⟩
      rcases hcall : call (pollEventPacketBatch (n + 1)) ⟨s, inbound⟩ with ⟨x, r⟩
      rw [hcall] at htook
      cases x with
      | ok events | error e => exact htook
    · rw [not_or, not_not, not_not] at h
      obtain ⟨hpend, rfl⟩ := h
      have hwaiting : call (awaitEventPacketBatch (n + 1)) ⟨s, []⟩ = (.ok none, ⟨s, []⟩) := by
        have hfirst : call awaitEventPacket ⟨s, []⟩ = (.ok none, ⟨s, []⟩) :=
          call_bind_ok (popEvent_nil hpend)
        exact call_bind_ok hfirst
      have hclear : Reader.Clear ⟨s, []⟩ (n + 1) := by
        refine .inl ?_
        rw [take_nil]
        rfl
      rw [hwaiting]
      exact ⟨[], .nothing hclear rfl⟩

namespace BatchRun

variable (s : NnrpClientSession) (w : BatchRun)

def Sound : Prop :=
  w.session = (decodeAll s w.read).2.withPending w.session.pendingEvents

def Lossless : Prop :=
  w.returned ++ w.session.pendingEvents = s.pendingEvents ++ (decodeAll s w.read).1

def Lost : Prop :=
  w.returned.length + w.session.pendingEvents.length <
    s.pendingEvents.length + (decodeAll s w.read).1.length

variable {s : NnrpClientSession} {w : BatchRun} {maxEvents : ℕ}
  {out : Except RuntimeError (List Entry) × Reader} {cons : List Arrival}

theorem Lossless.not_lost (h : Lossless s w) : ¬Lost s w := by
  have hlen := congrArg length h
  rw [length_append, length_append] at hlen
  rw [Lost, hlen]
  exact Nat.lt_irrefl _

theorem after_read (htook : Took w.reader maxEvents out cons) :
    (w.after out).read = w.read ++ cons := by
  have hlen : w.reader.inbound.length - out.2.inbound.length = cons.length := by
    rw [htook.inbound, length_append]
    omega
  change w.read ++ w.reader.inbound.take _ = _
  rw [hlen, htook.inbound, take_left]

theorem Sound.decodeAll_append (h : Sound s w) : (decodeAll s (w.read ++ cons)).1 =
        (decodeAll s w.read).1 ++ (decodeAll w.session cons).1 ∧
      ∀ entries, (decodeAll s (w.read ++ cons)).2.withPending entries =
        (decodeAll w.session cons).2.withPending entries := by
  rw [Client.decodeAll_append, h, decodeAll_withPending]
  exact ⟨rfl, fun _ => rfl⟩

section
variable (htook : Took w.reader maxEvents out cons)
include htook

theorem Sound.after (h : Sound s w) : Sound s (w.after out) := by
  have hsess : (w.after out).session = out.2.session := rfl
  rw [Sound, after_read htook, h.decodeAll_append.2, hsess]
  exact htook.session

theorem Lossless.after (h : Lossless s w) (hs : Sound s w)
    (hclear : w.reader.Clear maxEvents) : Lossless s (w.after out) := by
  have hret := htook.returned hclear
  change (w.returned ++ out.1.toOption.getD []) ++ out.2.session.pendingEvents = _
  rw [after_read htook, hs.decodeAll_append.1, append_assoc, hret, ← append_assoc, ← append_assoc]
  exact congrArg (· ++ _) h

theorem Lossless.lost_after (h : Lossless s w) (hs : Sound s w)
    (hclear : ¬w.reader.Clear maxEvents) : Lost s (w.after out) := by
  have hlost : (out.1.toOption.getD []).length + out.2.session.pendingEvents.length <
      w.session.pendingEvents.length + (decodeAll w.session cons).1.length := htook.lost hclear
  have hlen := congrArg length h
  rw [length_append, length_append] at hlen
  change (w.returned ++ out.1.toOption.getD []).length + out.2.session.pendingEvents.length < _
  rw [after_read htook, hs.decodeAll_append.1, length_append, length_append]
  omega

theorem Lost.after (h : Lost s w) (hs : Sound s w) : Lost s (w.after out) := by
  have hle : (out.1.toOption.getD []).length + out.2.session.pendingEvents.length ≤
      w.session.pendingEvents.length + (decodeAll w.session cons).1.length := by
    by_cases hclear : w.reader.Clear maxEvents
    · have hlen := congrArg length (htook.returned hclear)
      rw [length_append, length_append] at hlen
      exact Nat.le_of_eq hlen
    · exact Nat.le_of_lt (htook.lost hclear)
  rw [Lost] at h
  change (w.returned ++ out.1.toOption.getD []).length + out.2.session.pendingEvents.length < _
  rw [after_read htook, hs.decodeAll_append.1, length_append, length_append]
  omega

end

theorem step_cases {w' : BatchRun} {c : BatchCall} (h : w.step c = some w') :
    (∃ arr, c = .arrive arr ∧ w' = { w with
      reader := { w.reader with inbound := w.reader.inbound ++ [arr] } }) ∨
    ∃ maxEvents out cons, (w.Clear c ↔ w.reader.Clear maxEvents) ∧
      Took w.reader maxEvents out cons ∧ w' = w.after out := by
  cases c with
  | arrive arr =>
    cases h
    exact .inl ⟨arr, rfl, rfl⟩
  | poll maxEvents =>
    cases h
    obtain ⟨cons, htook⟩ := pollEventPacketBatch_took maxEvents w.reader
    exact .inr ⟨maxEvents, _, cons, Iff.rfl, htook, rfl⟩
  | await maxEvents =>
    cases h
    obtain ⟨cons, htook⟩ := awaitEventPacketBatch_took maxEvents w.reader
    exact .inr ⟨maxEvents, _, cons, Iff.rfl, htook, rfl⟩

variable {w' : BatchRun} {c : BatchCall}

theorem step_lossless (h : Sound s w ∧ Lossless s w) (hclear : w.Clear c)
    (hstep : w.step c = some w') : Sound s w' ∧ Lossless s w' := by
  obtain ⟨hs, hl⟩ := h
  rcases step_cases hstep with ⟨arr, rfl, rfl⟩ | ⟨maxEvents, out, cons, hiff, htook, rfl⟩
  · exact ⟨hs, hl⟩
  · exact ⟨hs.after htook, hl.after htook hs (hiff.mp hclear)⟩

theorem step_loses (h : Sound s w ∧ Lossless s w) (hclear : ¬w.Clear c)
    (hstep : w.step c = some w') : Sound s w' ∧ Lost s w' := by
  obtain ⟨hs, hl⟩ := h
  rcases step_cases hstep with ⟨arr, rfl, rfl⟩ | ⟨maxEvents, out, cons, hiff, htook, rfl⟩
  · exact absurd trivial hclear
  · exact ⟨hs.after htook, hl.lost_after htook hs fun h => hclear (hiff.mpr h)⟩

theorem step_lost (h : Sound s w ∧ Lost s w) (hstep : w.step c = some w') :
    Sound s w' ∧ Lost s w' := by
  obtain ⟨hs, hl⟩ := h
  rcases step_cases hstep with ⟨arr, rfl, rfl⟩ | ⟨maxEvents, out, cons, hiff, htook, rfl⟩
  · exact ⟨hs, hl⟩
  · exact ⟨hs.after htook, hl.after htook hs⟩

/-- Batched reads lose nothing exactly if each of them either accepts all that it reads or fails
before it has collected anything. What is still retained is returned by the next batch that takes
enough. -/
theorem batches_lossless_iff {calls : List BatchCall} (hr : run step (start s) calls = some w) :
    (Lossless s w ↔ Along step Clear (start s) calls) ∧
      ∀ maxEvents, w.session.pendingEvents.length ≤ maxEvents →
        call (pollEventPacketBatch maxEvents) ⟨w.session, []⟩ =
          (.ok w.session.pendingEvents, ⟨w.session.withPending [], []⟩) := by
  have hstart : Sound s (start s) ∧ Lossless s (start s) := ⟨rfl, (append_nil _).symm⟩
  refine ⟨⟨fun hl => ?_, fun hclear => ?_⟩, fun maxEvents h => ?_⟩
  · have hiff := run_avoids_iff (fun w => Sound s w ∧ Lossless s w) (fun w => Sound s w ∧ Lost s w)
      (fun _ h hlost => h.2.not_lost hlost.2) (fun _ _ _ => step_lossless)
      (fun _ _ _ => step_loses) (fun _ _ _ => step_lost) hstart hr
    exact hiff.mp fun hlost => hl.not_lost hlost.2
  · exact (run_invariant _ (fun _ _ _ => step_lossless) hstart hclear hr).2
  · have hread : ∀ n, call (readBuffered n) ⟨w.session.withPending [], []⟩ =
        (.ok [], ⟨w.session.withPending [], []⟩) := by
      intro n
      cases n <;> rfl
    rw [pollEventPacketBatch_eq maxEvents [] rfl, drop_eq_nil_of_le h, take_of_length_le h,
      hread, Except.map, append_nil]

def submittedSession : NnrpClientSession :=
  (call (submitNowait (Submit.sampleRequest 11 1) 0 (.ok ())) (.opened 7 4 {})).2

def wholeBatch : List BatchCall :=
  [.arrive (.ok (progressPacket 11 1)), .arrive (.ok (dropReasonPacket 11 1)), .await 3]

theorem batches_lossless_whole :
    ∃ w, run step (start submittedSession) wholeBatch = some w ∧ w.returned.length = 2 ∧
      Lossless submittedSession w := by
  have h : (run step (start submittedSession) wholeBatch).map (·.returned.length) = some 2 := by
    decide +kernel
  obtain ⟨w, hr, hlen⟩ := Option.map_eq_some_iff.mp h
  exact ⟨w, hr, hlen, (batches_lossless_iff hr).1.mpr (by decide +kernel)⟩

def brokenBatch : List BatchCall :=
  [.arrive (.ok (dropReasonPacket 11 1)), .arrive (.error (.internal "connection reset")), .poll 2]

/-- The operation is released and its end is never reported. -/
theorem broken_batch_loses_event : ∃ w, run step (start submittedSession) brokenBatch = some w ∧
      (11 : UInt64) ∈ submittedSession.operationFrames ∧ (11 : UInt64) ∉ w.session.operationFrames ∧
      w.returned = [] ∧ w.session.pendingEvents = [] ∧ ¬Lossless submittedSession w := by
  have h : (run step (start submittedSession) brokenBatch).map (fun w =>
      (decide ((11 : UInt64) ∈ w.session.operationFrames), w.returned.length,
        w.session.pendingEvents.length, (decodeAll submittedSession w.read).1.length)) =
      some (false, 0, 0, 1) := by
    decide +kernel
  obtain ⟨w, hr, hw⟩ := Option.map_eq_some_iff.mp h
  simp only [Prod.mk.injEq, decide_eq_false_iff_not, length_eq_zero_iff] at hw
  obtain ⟨hrel, hret, hpend, hdecd⟩ := hw
  refine ⟨w, hr, by decide +kernel, hrel, hret, hpend, fun hl => ?_⟩
  have hlen := congrArg length hl
  rw [length_append, length_append, hret, hpend, hdecd] at hlen
  simp only [length_nil] at hlen
  omega

end BatchRun

end Nnrp.Client
