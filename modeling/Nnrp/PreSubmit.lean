import Nnrp.OrderedMap
import Nnrp.Packet

/-!
# Deadlines that are announced before their submit

A deadline may be sent for an operation that has not been submitted yet. The session reserves it
under the operation and under its frame; the submit that follows takes the reservation.
-/

namespace Nnrp.PreSubmit
open OrderedMap Packet Fallible

structure SchedulingMetadata where
  (operationId controlSequence : UInt64)
  priorityClass : UInt16
  priorityDelta : Int16
  deadlineUnixMs : UInt64
  flags : UInt32
  deriving DecidableEq

structure Reservation where
  frameId : UInt32
  metadata : SchedulingMetadata
  deriving DecidableEq

structure PreSubmitDeadlineReservations where
  limit : ℕ
  byOperation : BTreeMap UInt64 Reservation := ∅
  byFrame : BTreeMap UInt32 UInt64 := ∅

namespace PreSubmitDeadlineReservations

def new (maxInFlightOperations : UInt16) : PreSubmitDeadlineReservations where
  limit := (max maxInFlightOperations 1).toNat

variable (r : PreSubmitDeadlineReservations)

def rejectExpired (nowUnixMs : UInt64) : Except RuntimeError Unit :=
  if (values r.byOperation).any fun reservation =>
      reservation.metadata.deadlineUnixMs ≤ nowUnixMs then
    .error (.unexpectedMessage "pre-submit DEADLINE expired before FRAME_SUBMIT")
  else .ok ()

def reserve (frameId : UInt32) (metadata : SchedulingMetadata) (nowUnixMs : UInt64) :
    Except RuntimeError PreSubmitDeadlineReservations := do
  r.rejectExpired nowUnixMs
  if frameId = 0 ∨ metadata.operationId = 0 then
    throw (.unexpectedMessage "pre-submit DEADLINE requires non-zero operation and frame ids")
  if metadata.deadlineUnixMs ≤ nowUnixMs then
    throw (.unexpectedMessage "pre-submit DEADLINE is already expired")
  if metadata.operationId ∈ r.byOperation ∨ frameId ∈ r.byFrame then
    throw (.unexpectedMessage "pre-submit DEADLINE reservation is duplicated")
  if r.limit ≤ r.byOperation.size then
    throw (.unexpectedMessage "pre-submit DEADLINE reservation limit exceeded")
  pure
    { r with
      byOperation := r.byOperation.insert metadata.operationId ⟨frameId, metadata⟩
      byFrame := r.byFrame.insert frameId metadata.operationId }

variable (operationId : UInt64)

def removeOperation : PreSubmitDeadlineReservations × Option Reservation :=
  match r.byOperation[operationId]? with
  | none => (r, none)
  | some reservation =>
    ({ r with
        byOperation := r.byOperation.erase operationId
        byFrame := r.byFrame.erase reservation.frameId }, some reservation)

/-- A reservation that does not match the submit is lost. -/
def takeForSubmit (frameId : UInt32) (nowUnixMs : UInt64) :
    PreSubmitDeadlineReservations × Except RuntimeError (Option SchedulingMetadata) :=
  match r.rejectExpired nowUnixMs with
  | .error e => (r, .error e)
  | .ok () =>
    match r.removeOperation operationId with
    | (r', some reservation) =>
      if reservation.frameId ≠ frameId then
        (r', .error (.unexpectedMessage
          "FRAME_SUBMIT does not match its pre-submit DEADLINE frame id"))
      else (r', .ok (some reservation.metadata))
    | (_, none) =>
      match r.byFrame[frameId]? with
      | some reservedOperationId =>
        ((r.removeOperation reservedOperationId).1, .error (.unexpectedMessage
          "FRAME_SUBMIT does not match its pre-submit DEADLINE operation id"))
      | none => (r, .ok none)

def discard (frameId : UInt32) : PreSubmitDeadlineReservations :=
  match r.byOperation[operationId]? with
  | some reservation =>
    if reservation.frameId = frameId then (r.removeOperation operationId).1 else r
  | none => r

structure Valid : Prop where
  frame : ∀ (operationId : UInt64) reservation, r.byOperation[operationId]? = some reservation →
    r.byFrame[reservation.frameId]? = some operationId
  operation : ∀ (frameId : UInt32) operationId, r.byFrame[frameId]? = some operationId →
    ∃ reservation, r.byOperation[operationId]? = some reservation ∧ reservation.frameId = frameId
  nonzero : ∀ (operationId : UInt64) reservation, r.byOperation[operationId]? = some reservation →
    operationId ≠ 0 ∧ reservation.frameId ≠ 0 ∧ reservation.metadata.operationId = operationId

def without (operationId : UInt64) (reservation : Reservation) : PreSubmitDeadlineReservations :=
  { r with
    byOperation := r.byOperation.erase operationId
    byFrame := r.byFrame.erase reservation.frameId }

/-- What a submit makes of the reservations. A reservation that names the operation or the frame,
but not both, is lost. -/
inductive Taken (operationId : UInt64) (frameId : UInt32) :
    PreSubmitDeadlineReservations × Except RuntimeError (Option SchedulingMetadata) → Prop
  | expired {e : RuntimeError} : Taken operationId frameId (r, .error e)
  | contradicted {reserved : UInt64} {reservation : Reservation} {e : RuntimeError}
      (hheld : r.byOperation[reserved]? = some reservation)
      (hdiffers : reserved = operationId ∧ reservation.frameId ≠ frameId ∨
        reserved ≠ operationId ∧ reservation.frameId = frameId) :
      Taken operationId frameId (r.without reserved reservation, .error e)
  | matched {reservation : Reservation} (hheld : r.byOperation[operationId]? = some reservation)
      (hframe : reservation.frameId = frameId) :
      Taken operationId frameId (r.without operationId reservation, .ok (some reservation.metadata))
  | free (hoperation : r.byOperation[operationId]? = none) (hframe : r.byFrame[frameId]? = none) :
      Taken operationId frameId (r, .ok none)

def Allows (operationId : UInt64) (frameId : UInt32) : Prop :=
  (∃ reservation, r.byOperation[operationId]? = some reservation ∧ reservation.frameId = frameId) ∨
    r.byOperation[operationId]? = none ∧ r.byFrame[frameId]? = none

/-- A submit is let through: no reservation has expired and its own one agrees. -/
def Lets (operationId : UInt64) (frameId : UInt32) (nowUnixMs : UInt64) : Prop :=
  r.rejectExpired nowUnixMs = .ok () ∧ r.Allows operationId frameId

variable {r} {r' : PreSubmitDeadlineReservations} {operationId now : UInt64}
  {fid : UInt32} {m : SchedulingMetadata} {resv : Reservation}

theorem Valid.new (maxInFlightOperations : UInt16) : (new maxInFlightOperations).Valid where
  frame operationId resv h := by simp [PreSubmitDeadlineReservations.new] at h
  operation fid operationId h := by simp [PreSubmitDeadlineReservations.new] at h
  nonzero operationId resv h := by simp [PreSubmitDeadlineReservations.new] at h

theorem reserve_ok (h : r.reserve fid m now = .ok r') :
    fid ≠ 0 ∧ m.operationId ≠ 0 ∧ r.byOperation[m.operationId]? = none ∧
      r.byFrame[fid]? = none ∧ r.byOperation.size < r.limit ∧ r' = { r with
        byOperation := r.byOperation.insert m.operationId ⟨fid, m⟩
        byFrame := r.byFrame.insert fid m.operationId } := by
  rw [reserve] at h
  obtain ⟨_, -, h⟩ := bind_eq_ok.mp h
  dsimp only at h
  obtain ⟨hzero, h⟩ := of_refused_eq_ok rfl h
  obtain ⟨-, h⟩ := of_refused_eq_ok rfl h
  obtain ⟨hheld, h⟩ := of_refused_eq_ok rfl h
  obtain ⟨hroom, h⟩ := of_refused_eq_ok rfl h
  rw [not_or] at hzero hheld
  exact ⟨hzero.1, hzero.2, get_eq_none.mpr hheld.1, get_eq_none.mpr hheld.2, not_le.mp hroom,
    (Except.ok.inj h).symm⟩

theorem Valid.inverse (hr : r.Valid) (a : UInt64) (f : UInt32) :
    r.byOperation[a]?.map Reservation.frameId = some f ↔ r.byFrame[f]? = some a := by
  rw [Option.map_eq_some_iff]
  constructor
  · rintro ⟨resv, ha, rfl⟩
    exact hr.frame a resv ha
  · exact hr.operation f a

theorem Valid.of_inverse
    (h : ∀ (a : UInt64) (f : UInt32),
      r.byOperation[a]?.map Reservation.frameId = some f ↔ r.byFrame[f]? = some a)
    (hnonzero : ∀ (a : UInt64) resv, r.byOperation[a]? = some resv →
      a ≠ 0 ∧ resv.frameId ≠ 0 ∧ resv.metadata.operationId = a) : r.Valid where
  frame a resv ha := (h a resv.frameId).mp (by rw [ha]; rfl)
  operation f a hf := Option.map_eq_some_iff.mp ((h a f).mpr hf)
  nonzero := hnonzero

theorem Valid.reserve (hr : r.Valid) (h : r.reserve fid m now = .ok r') : r'.Valid := by
  obtain ⟨hframe, hop, hfreeOperation, hfreeFrame, -, rfl⟩ := reserve_ok h
  apply Valid.of_inverse
  · intro a f
    rw [get_insert, get_insert, apply_ite (Option.map Reservation.frameId)]
    exact inverse_update hr.inverse (by rw [hfreeOperation]; rfl) hfreeFrame a f
  · intro a resv ha
    rw [get_insert] at ha
    split_ifs at ha with hself
    · cases ha
      exact ⟨hself ▸ hop, hframe, hself⟩
    · exact hr.nonzero a resv ha

theorem without_get {a : UInt64} {other : Reservation}
    (h : (r.without operationId resv).byOperation[a]? = some other) :
    a ≠ operationId ∧ r.byOperation[a]? = some other := by
  rw [PreSubmitDeadlineReservations.without, get_erase] at h
  split_ifs at h with hself
  exact ⟨Ne.symm hself, h⟩

theorem Valid.without (hr : r.Valid) (hheld : r.byOperation[operationId]? = some resv) :
    (r.without operationId resv).Valid := by
  apply Valid.of_inverse
  · intro a f
    rw [PreSubmitDeadlineReservations.without, get_erase, get_erase,
      apply_ite (Option.map Reservation.frameId)]
    exact inverse_remove hr.inverse (by rw [hheld]; rfl) a f
  · exact fun a resv' ha => hr.nonzero a resv' (without_get ha).2

theorem Taken.ok (hr : r.Valid) {resd : Option SchedulingMetadata}
    (h : r.Taken operationId fid (r', .ok resd)) :
    r'.Valid ∧ ∀ (a : UInt64) other, r'.byOperation[a]? = some other →
      r.byOperation[a]? = some other ∧ a ≠ operationId ∧ other.frameId ≠ fid := by
  cases h with
  | matched hheld hframe =>
    refine ⟨hr.without hheld, fun a other ha => ?_⟩
    obtain ⟨hne, ha⟩ := without_get ha
    refine ⟨ha, hne, fun heq => hne ?_⟩
    have hself := hr.frame a other ha
    rw [heq, ← hframe, hr.frame operationId _ hheld] at hself
    exact (Option.some.inj hself).symm
  | free hop hframe =>
    refine ⟨hr, fun a other ha => ⟨ha, ?_, ?_⟩⟩
    · intro heq
      rw [heq, hop] at ha
      cases ha
    · intro heq
      rw [← heq, hr.frame a other ha] at hframe
      cases hframe

theorem removeOperation_of (hheld : r.byOperation[operationId]? = some resv) :
    r.removeOperation operationId = (r.without operationId resv, some resv) := by
  rw [removeOperation, hheld]
  rfl

theorem removeOperation_of_none (hfree : r.byOperation[operationId]? = none) :
    r.removeOperation operationId = (r, none) := by
  rw [removeOperation, hfree]

theorem takeForSubmit_cases (hr : r.Valid)
    {P : PreSubmitDeadlineReservations × Except RuntimeError (Option SchedulingMetadata) → Prop}
    (expired : ∀ e, r.rejectExpired now = .error e → P (r, .error e))
    (contradicted : ∀ reserved resv e, r.byOperation[reserved]? = some resv →
      reserved = operationId ∧ resv.frameId ≠ fid ∨ reserved ≠ operationId ∧ resv.frameId = fid →
      P (r.without reserved resv, .error e))
    (matched : ∀ resv, r.byOperation[operationId]? = some resv → resv.frameId = fid →
      P (r.without operationId resv, .ok (some resv.metadata)))
    (free : r.byOperation[operationId]? = none → r.byFrame[fid]? = none → P (r, .ok none)) :
    P (r.takeForSubmit operationId fid now) := by
  rw [takeForSubmit]
  cases hnow : r.rejectExpired now with
  | error e => exact expired e hnow
  | ok _ =>
    cases hheld : r.byOperation[operationId]? with
    | some resv =>
      rw [removeOperation_of hheld]
      dsimp only
      split_ifs with hframe
      · exact contradicted _ _ _ hheld (.inl ⟨rfl, hframe⟩)
      · exact matched _ hheld (not_not.mp hframe)
    | none =>
      rw [removeOperation_of_none hheld]
      dsimp only
      cases hframe : r.byFrame[fid]? with
      | none => exact free hheld hframe
      | some resd =>
        obtain ⟨resv, hresv, hresvn⟩ := hr.operation fid resd hframe
        dsimp only
        rw [removeOperation_of hresv]
        refine contradicted _ _ _ hresv (.inr ⟨?_, hresvn⟩)
        rintro rfl
        cases hheld.symm.trans hresv

theorem takeForSubmit_taken (hr : r.Valid) :
    r.Taken operationId fid (r.takeForSubmit operationId fid now) :=
  takeForSubmit_cases hr (fun _ _ => .expired) (fun _ _ _ => .contradicted)
    (fun _ => .matched) .free

theorem takeForSubmit_ok_iff (r : PreSubmitDeadlineReservations) (operationId : UInt64)
    (fid : UInt32) (now : UInt64) :
    (∃ resd, (r.takeForSubmit operationId fid now).2 = .ok resd) ↔
      r.Lets operationId fid now := by
  rw [takeForSubmit, Lets]
  cases r.rejectExpired now with
  | error e => simp
  | ok _ =>
    cases hheld : r.byOperation[operationId]? with
    | some resv =>
      rw [removeOperation_of hheld]
      by_cases hframe : resv.frameId = fid <;> simp [Allows, hheld, hframe]
    | none =>
      rw [removeOperation_of_none hheld]
      cases hframe : r.byFrame[fid]? <;> simp [Allows, hheld, hframe]

end PreSubmitDeadlineReservations

end Nnrp.PreSubmit
