import Nnrp.LabelledRun
import Nnrp.PreSubmit

/-!
# Histories of reservations

Any sequence of calls on the reservations, with what each call returned. A reservation that is
held was stored by a call after which no call stored or took one for its operation.
-/

namespace Nnrp.PreSubmit.PreSubmitDeadlineReservations
open OrderedMap Packet LabelledRun Std.ExtTreeMap

inductive Call
  | reserve (frameId : UInt32) (metadata : SchedulingMetadata) (nowUnixMs : UInt64)
  | takeForSubmit (operationId : UInt64) (frameId : UInt32) (nowUnixMs : UInt64)
  | discard (operationId : UInt64) (frameId : UInt32)
  | rejectExpired (nowUnixMs : UInt64)

abbrev Outcome := Except RuntimeError (Option SchedulingMetadata)

abbrev Entry := Call × Outcome

def call (r : PreSubmitDeadlineReservations) : Call → PreSubmitDeadlineReservations × Outcome
  | .reserve frameId metadata nowUnixMs =>
    match r.reserve frameId metadata nowUnixMs with
    | .ok r' => (r', .ok none)
    | .error e => (r, .error e)
  | .takeForSubmit operationId frameId nowUnixMs => r.takeForSubmit operationId frameId nowUnixMs
  | .discard operationId frameId => (r.discard operationId frameId, .ok none)
  | .rejectExpired nowUnixMs => (r, (r.rejectExpired nowUnixMs).map fun _ => none)

def Uses (op : UInt64) (entry : Entry) : Prop :=
  (∃ f m now, m.operationId = op ∧ entry = (.reserve f m now, .ok none)) ∨
    ∃ f now m, entry = (.takeForSubmit op f now, .ok (some m))

def Stored (log : List Entry) (op : UInt64) (resv : Reservation) : Prop :=
  ∃ before now after, log = before ++ (.reserve resv.frameId resv.metadata now, .ok none) :: after ∧
    ∀ entry ∈ after, ¬Uses op entry

/-- A failing call changes nothing, except that a submit removes the reservation that names its
operation or its frame but not both. -/
def AfterFailure (r r' : PreSubmitDeadlineReservations) (e : RuntimeError) : Call → Prop
  | .takeForSubmit op f now => r' = r ∧ r.rejectExpired now = .error e ∨
      ∃ reserved resv, r.byOperation[reserved]? = some resv ∧
        (reserved = op ∧ resv.frameId ≠ f ∨ reserved ≠ op ∧ resv.frameId = f) ∧
        r' = r.without reserved resv
  | _ => r' = r

structure Tracked (maxInFlightOperations : UInt16) (log : List Entry)
    (r : PreSubmitDeadlineReservations) : Prop where
  valid : r.Valid
  limit : r.limit = (max maxInFlightOperations 1).toNat
  sizes : r.byFrame.size = r.byOperation.size
  bounded : r.byOperation.size ≤ r.limit
  stored : ∀ (op : UInt64) resv, r.byOperation[op]? = some resv → Stored log op resv

variable {r r' : PreSubmitDeadlineReservations} {n : UInt16} {log : List Entry}
  {op now : UInt64} {fid : UInt32} {m : SchedulingMetadata} {resv : Reservation}
  {entry : Entry} {e : RuntimeError}

theorem Stored.append (h : Stored log op resv) (hentry : ¬Uses op entry) :
    Stored (log ++ [entry]) op resv := by
  obtain ⟨before, now, after, rfl, hafter⟩ := h
  refine ⟨before, now, after ++ [entry], by simp, ?_⟩
  exact List.forall_mem_append.mpr ⟨hafter, List.forall_mem_singleton.mpr hentry⟩

theorem Tracked.unused (h : Tracked n log r) (hentry : ∀ op, ¬Uses op entry) :
    Tracked n (log ++ [entry]) r :=
  { h with stored := fun op resv hheld => (h.stored op resv hheld).append (hentry op) }

theorem Tracked.without (h : Tracked n log r) (hheld : r.byOperation[op]? = some resv)
    (hentry : ∀ a, a ≠ op → ¬Uses a entry) : Tracked n (log ++ [entry]) (r.without op resv) where
  valid := h.valid.without hheld
  limit := h.limit
  sizes := by
    have hop : op ∈ r.byOperation := mem_iff_get.mpr ⟨resv, hheld⟩
    have hframe : resv.frameId ∈ r.byFrame := mem_iff_get.mpr ⟨op, h.valid.frame op resv hheld⟩
    simp [PreSubmitDeadlineReservations.without, size_erase, hop, hframe, h.sizes]
  bounded := size_erase_le.trans h.bounded
  stored a resv' ha := by
    obtain ⟨hne, ha⟩ := without_get ha
    exact (h.stored a resv' ha).append (hentry a hne)

theorem Tracked.reserve (h : Tracked n log r) (hr : r.reserve fid m now = .ok r') :
    Tracked n (log ++ [(.reserve fid m now, .ok none)]) r' := by
  have hvalid := h.valid.reserve hr
  obtain ⟨-, -, hop, hframe, hroom, rfl⟩ := reserve_ok hr
  rw [get_eq_none] at hframe
  refine ⟨hvalid, h.limit, ?_, ?_, ?_⟩
  · simp [size_insert, hframe, get_eq_none.mp hop, h.sizes]
  · simpa [size_insert, get_eq_none.mp hop] using Nat.succ_le_of_lt hroom
  · intro a resv ha
    rw [get_insert] at ha
    split_ifs at ha with hself
    · cases ha
      exact ⟨log, now, [], rfl, by simp⟩
    · refine (h.stored a resv ha).append ?_
      simpa [Uses] using hself

structure Takes (n : UInt16) (log : List Entry) (r : PreSubmitDeadlineReservations) (op : UInt64)
    (fid : UInt32) (now : UInt64) (p : PreSubmitDeadlineReservations × Outcome) : Prop where
  tracked : Tracked n (log ++ [(.takeForSubmit op fid now, p.2)]) p.1
  metadata : ∀ m, p.2 = .ok (some m) → m.operationId = op ∧ Stored log op ⟨fid, m⟩
  failure : ∀ e, p.2 = .error e → r.AfterFailure p.1 e (.takeForSubmit op fid now)

theorem Tracked.takes (h : Tracked n log r) :
    Takes n log r op fid now (r.takeForSubmit op fid now) := by
  refine takeForSubmit_cases h.valid ?_ ?_ ?_ ?_
  · intro e hnow
    refine ⟨h.unused (by simp [Uses]), by simp, ?_⟩
    rintro _ ⟨⟩
    exact .inl ⟨rfl, hnow⟩
  · intro reserved resv e hheld hdiffers
    refine ⟨h.without hheld (by simp [Uses]), by simp, fun _ _ => ?_⟩
    exact .inr ⟨reserved, resv, hheld, hdiffers, rfl⟩
  · rintro resv hheld rfl
    refine ⟨h.without hheld fun a hne => ?_, ?_, by simp⟩
    · simpa [Uses] using hne.symm
    · rintro _ ⟨⟩
      exact ⟨(h.valid.nonzero op resv hheld).2.2, h.stored op resv hheld⟩
  · exact fun _ _ => ⟨h.unused (by simp [Uses]), by simp, by simp⟩

theorem Tracked.call (h : Tracked n log r) (c : Call) :
    Tracked n (log ++ [(c, (r.call c).2)]) (r.call c).1 := by
  cases c with
  | reserve f m now =>
    rw [PreSubmitDeadlineReservations.call]
    cases hr : r.reserve f m now with
    | error e => exact h.unused (by simp [Uses])
    | ok r' => exact h.reserve hr
  | takeForSubmit op f now => exact h.takes.tracked
  | discard op f =>
    rw [PreSubmitDeadlineReservations.call, discard]
    have hunused : ∀ a, ¬Uses a (.discard op f, .ok none) := by simp [Uses]
    cases hheld : r.byOperation[op]? with
    | none => exact h.unused hunused
    | some resv =>
      dsimp only
      split_ifs
      · rw [removeOperation_of hheld]
        exact h.without hheld fun a _ => hunused a
      · exact h.unused hunused
  | rejectExpired now => exact h.unused (by simp [Uses])

theorem tracked_of_history (h : History call (new n) log r) : Tracked n log r := by
  induction h with
  | start => exact ⟨.new n, rfl, rfl, Nat.zero_le _, by simp [PreSubmitDeadlineReservations.new]⟩
  | call _ c ih => exact ih.call c

theorem Tracked.fails (h : Tracked n log r) (c : Call) (herror : (r.call c).2 = .error e) :
    r.AfterFailure (r.call c).1 e c := by
  cases c with
  | reserve f m now =>
    rw [PreSubmitDeadlineReservations.call] at herror ⊢
    cases hr : r.reserve f m now with
    | error e' => rfl
    | ok r' => simp [hr] at herror
  | takeForSubmit op f now => exact h.takes.failure e herror
  | discard op f => cases herror
  | rejectExpired now => rfl

/-- After any history of calls the two tables are inverse to each other and hold at most the
limit, a submit that takes a reservation takes what the last use of its operation stored, and a
failing call changes nothing but the reservation that a submit contradicts. -/
theorem reservations_consistent (h : History call (new n) log r) :
    (∀ (f : UInt32) (op : UInt64), r.byFrame[f]? = some op ↔
      ∃ resv, r.byOperation[op]? = some resv ∧ resv.frameId = f) ∧
    r.byOperation.size ≤ (max n 1).toNat ∧ r.byFrame.size ≤ (max n 1).toNat ∧
    (∀ op f now m, (r.takeForSubmit op f now).2 = .ok (some m) →
      m.operationId = op ∧ Stored log op ⟨f, m⟩) ∧
    ∀ c e, (r.call c).2 = .error e → r.AfterFailure (r.call c).1 e c := by
  have hr := tracked_of_history h
  refine ⟨?_, ?_, ?_, fun _ _ _ => hr.takes.metadata, fun c _ => hr.fails c⟩
  · intro f op
    rw [← hr.valid.inverse, Option.map_eq_some_iff]
  · exact hr.limit ▸ hr.bounded
  · exact hr.sizes ▸ hr.limit ▸ hr.bounded

def deadline (op : UInt64) : SchedulingMetadata := ⟨op, 1, 0, 0, 100, 0⟩

theorem reserved_deadline_taken :
    ∃ log r, History call (new 1) log r ∧ (r.takeForSubmit 7 3 50).2 = .ok (some (deadline 7)) ∧
      Stored log 7 ⟨3, deadline 7⟩ := by
  let r := ((new 1).call (.reserve 3 (deadline 7) 50)).1
  have hr : History call (new 1) _ r := .call .start _
  have htake : (r.takeForSubmit 7 3 50).2 = .ok (some (deadline 7)) := by decide +kernel
  exact ⟨_, r, hr, htake, ((reservations_consistent hr).2.2.2.1 7 3 50 _ htake).2⟩

end Nnrp.PreSubmit.PreSubmitDeadlineReservations
