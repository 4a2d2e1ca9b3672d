import Nnrp.ServerCorrelation

/-!
# Events for the ends of operations

A call of the server session queues one lifecycle event for each operation that it moves to a
terminal state, and none otherwise. The exception is a result for an operation whose schedule has
expired: it is superseded before there is known to be room for the event, and before the drop that
may have to be written first.
-/

namespace Nnrp.Server
open Protocol ByteOrder Packet Data Stateful RuntimeEvent Operation List NnrpServerSession
open Lifecycle (ConnectionLifecycle)

def PendingServerInput.lifecycle : PendingServerInput → Option OperationLifecycleEvent
  | .event (.lifecycle notice) => some notice
  | _ => none

def lifecycleEvents (inputs : List PendingServerInput) : List OperationLifecycleEvent :=
  inputs.filterMap PendingServerInput.lifecycle

def handedOut (out : Option NnrpServerEvent) : List OperationLifecycleEvent :=
  lifecycleEvents (out.toList.map PendingServerInput.event)

def NnrpServerSession.stateOf (s : NnrpServerSession) (operationId : UInt64) :
    Option OperationState :=
  s.operations.operations[operationId]?.map (·.state)

def endEvents (s s' : NnrpServerSession) (operationId : UInt64) : List OperationLifecycleEvent :=
  match s.stateOf operationId, s'.stateOf operationId with
  | some old, some new =>
    if old.isTerminal = false ∧ new.isTerminal = true then [⟨operationId, new⟩] else []
  | _, _ => []

/-- The lifecycle events that were pending, followed by those of the operations that ended, are the
one that is handed out followed by the pending ones. -/
def Reported (s : NnrpServerSession) (out : Option NnrpServerEvent) (s' : NnrpServerSession) :
    Prop :=
  ∃ added, handedOut out ++ lifecycleEvents s'.pendingInputs =
      lifecycleEvents s.pendingInputs ++ added ∧
    ∀ operationId, added.filter (·.operationId = operationId) = endEvents s s' operationId

section
variable {s s' t : NnrpServerSession} {id : UInt64} {r : OperationRecord} {a : UInt64}

theorem endEvents_same (h : s'.stateOf id = s.stateOf id) : endEvents s s' id = [] := by
  rw [endEvents, h]
  cases s.stateOf id with
  | none => rfl
  | some state =>
    refine if_neg fun hends => ?_
    rw [hends.2] at hends
    cases hends.1

theorem endEvents_of_operations (h : s'.operations = s.operations) : endEvents s s' id = [] := by
  apply endEvents_same
  rw [stateOf, h, stateOf]

theorem endEvents_congr (h : s'.operations = t.operations) :
    endEvents s s' id = endEvents s t id := by
  rw [endEvents, endEvents, stateOf, stateOf, stateOf, h]

theorem stateOf_set (h : s'.operations = s.operations.set id r) :
    s'.stateOf a = if id = a then some r.state else s.stateOf a := by
  rw [stateOf, h, OperationRegistry.set_get]
  split_ifs <;> rfl

theorem endEvents_set (h : s'.operations = s.operations.set id r)
    (hstate : s.stateOf id = none ∨ s.stateOf id = some r.state) : endEvents s s' a = [] := by
  by_cases ha : id = a
  · subst ha
    rcases hstate with hnew | hstays
    · rw [endEvents, hnew]
    · apply endEvents_same
      rw [stateOf_set h, if_pos rfl, hstays]
  · apply endEvents_same
    rw [stateOf_set h, if_neg ha]

theorem endEvents_ended {state : OperationState} (held : s.operations.operations[id]? = some r)
    (hact : r.state.isTerminal = false) (hterm : state.isTerminal = true)
    (h : s'.operations = s.operations.set id { r with state }) :
    [(⟨id, state⟩ : OperationLifecycleEvent)].filter (·.operationId = a) = endEvents s s' a := by
  by_cases ha : id = a
  · subst ha
    have hold : s.stateOf id = some r.state := by
      rw [stateOf, held]
      rfl
    have hnew : s'.stateOf id = some state := by
      rw [stateOf_set h, if_pos rfl]
    rw [endEvents, hold, hnew]
    simp [hact, hterm]
  · rw [endEvents_same]
    · simp [ha]
    · rw [stateOf_set h, if_neg ha]

end

section
variable {inputs inputs' : List PendingServerInput} {input : PendingServerInput}
  {out : Option NnrpServerEvent}

theorem lifecycle_of_isLifecycle (h : input.isLifecycle = false) : input.lifecycle = none := by
  unfold PendingServerInput.isLifecycle at h
  unfold PendingServerInput.lifecycle
  split
  · cases h
  · rfl

theorem lifecycleEvents_append {before after : List PendingServerInput} :
    lifecycleEvents (before ++ after) = lifecycleEvents before ++ lifecycleEvents after :=
  filterMap_append

theorem lifecycleEvents_cons (h : input.lifecycle = none) :
    lifecycleEvents (input :: inputs) = lifecycleEvents inputs :=
  filterMap_cons_none h

theorem Queued.lifecycleEvents (h : Queued inputs out inputs') :
    handedOut out ++ lifecycleEvents inputs' = lifecycleEvents inputs := by
  cases h with
  | same => rfl
  | handed ev rest => exact lifecycleEvents_append.symm
  | taken hinput =>
    have hnone := lifecycle_of_isLifecycle hinput
    rw [lifecycleEvents_append, lifecycleEvents_append, lifecycleEvents_cons hnone]
    rfl
  | moved hbefore hinput =>
    have hnone := lifecycle_of_isLifecycle hinput
    rw [lifecycleEvents_cons hnone, lifecycleEvents_append, lifecycleEvents_append,
      lifecycleEvents_cons hnone]
    rfl

theorem Placed.lifecycleEvents {s : NnrpServerSession} {c : Call} (hinput : input.lifecycle = none)
    (h : Placed s c inputs input out inputs') :
    handedOut out ++ lifecycleEvents inputs' = lifecycleEvents inputs := by
  cases h with
  | handed ev =>
    change Server.lifecycleEvents [.event ev] ++ _ = _
    rw [lifecycleEvents_cons hinput]
    rfl
  | released => rfl
  | retained =>
    rw [lifecycleEvents_append, lifecycleEvents_cons hinput]
    exact append_nil _
  | fronted => exact lifecycleEvents_cons hinput

end

section
variable {s s' t : NnrpServerSession} {out : Option NnrpServerEvent} {p : RuntimePacket}

theorem Reported.of_steady (hqueue : handedOut out ++ lifecycleEvents s'.pendingInputs =
      lifecycleEvents s.pendingInputs)
    (hends : ∀ id, endEvents s s' id = []) : Reported s out s' := by
  refine ⟨[], ?_, fun id => ?_⟩
  · rw [hqueue, append_nil]
  · rw [hends]
    rfl

variable {rec : OperationRecord} {id : UInt64}

theorem Reported.ended {state : OperationState} (hending : Ending s id rec state) :
    Reported s none (s.ended id rec state) := by
  refine ⟨[⟨id, state⟩], ?_, fun a => ?_⟩
  · exact lifecycleEvents_append
  · exact endEvents_ended hending.held hending.active hending.terminal rfl

variable {ev : NnrpServerEvent}

theorem NnrpServerEvent.Plain.lifecycle (h : ev.Plain) :
    (PendingServerInput.event ev).lifecycle = none := by
  cases ev with
  | lifecycle => exact h.elim
  | _ => rfl

theorem Decoded.reported (h : Decoded s p ev s') :
    (PendingServerInput.event ev).lifecycle = none ∧ Reported s none s' := by
  cases h with
  | read hevent | reserved hevent | pressured hevent =>
    exact ⟨hevent.lifecycle, .of_steady rfl fun _ => endEvents_of_operations rfl⟩
  | submitted htype hframe hnz hnew hunbound htaken =>
    refine ⟨rfl, .of_steady rfl fun a => endEvents_set rfl (.inl ?_)⟩
    rw [stateOf, hnew]
    rfl
  | ended hevent htype hending => exact ⟨hevent.lifecycle, .ended hending⟩
  | scheduled hevent hrec =>
    refine ⟨hevent.lifecycle, .of_steady rfl fun a => endEvents_set rfl (.inr ?_)⟩
    rw [stateOf, hrec]
    rfl
  | closing => exact ⟨rfl, .of_steady rfl fun _ => endEvents_of_operations rfl⟩

theorem Read.reported {input : PendingServerInput} (h : Read s p input t) :
    input.lifecycle = none ∧ Reported s none t := by
  cases h with
  | role => exact ⟨rfl, .of_steady rfl fun _ => endEvents_of_operations rfl⟩
  | event hdecd => exact hdecd.reported

theorem Reported.of_queue (h : Reported s none t)
    (hqueue : handedOut out ++ lifecycleEvents s'.pendingInputs = lifecycleEvents t.pendingInputs)
    (hops : s'.operations = t.operations) : Reported s out s' := by
  obtain ⟨added, hadded, hends⟩ := h
  refine ⟨added, hqueue.trans hadded, fun id => ?_⟩
  rw [hends, endEvents_congr hops]

theorem Reported.of_core (h : Reported s none t) (hcore : s'.core = t.core) :
    Reported s none s' := by
  apply h.of_queue
  · rw [pendingInputs_of_core hcore]
    rfl
  · exact congrArg Bindings.operations (bindings_of_core hcore)

theorem Reported.refl (s : NnrpServerSession) : Reported s none s :=
  .of_steady rfl fun _ => endEvents_of_operations rfl

theorem Refused.reported (h : Refused s p s') : Reported s none s' := by
  cases h with
  | same => exact .refl s
  | released => exact .of_steady rfl fun _ => endEvents_of_operations rfl

theorem not_reported_of_lost (held : s.operations.operations[id]? = some rec)
    (hact : rec.state.isTerminal = false)
    (hcore : s'.core = (s.withRecord id { rec with state := .superseded }).core) :
    ¬Reported s none s' := by
  intro h
  obtain ⟨added, hadded, hends⟩ := h
  rw [pendingInputs_of_core hcore] at hadded
  have hnil : added = [] := append_right_eq_self.mp hadded.symm
  have hops : s'.operations = _ := congrArg Bindings.operations (bindings_of_core hcore)
  have hone := hends id
  rw [hnil, ← endEvents_ended held hact rfl hops] at hone
  simp at hone

theorem Sent.reported_iff {loses : Prop} (h : Sent s loses s') : Reported s none s' ↔ ¬loses := by
  cases h with
  | same hkept hcore => exact iff_of_true ((Reported.refl s).of_core hcore) hkept
  | ended hkept hending hcore => exact iff_of_true ((Reported.ended hending).of_core hcore) hkept
  | lost hlost held hact hcore =>
    exact iff_of_false (not_reported_of_lost held hact hcore) (not_not.mpr hlost)

end

/-- The call is a result for a stale operation whose event cannot be queued, since the pending
inputs are full or the drop that is to be written first fails. -/
def Call.Loses (s : NnrpServerSession) : Call → Prop
  | .send request written => request.Loses written s
  | _ => False

theorem Moved.reported_iff {s s' : NnrpServerSession} {c : Call} {out : Option NnrpServerEvent}
    (h : Moved s c out s') : Reported s out s' ↔ ¬c.Loses s := by
  have hreads {p : RuntimePacket} (hpkt : c.packet = some p) : ¬c.Loses s := by
    cases c with
    | send => cases hpkt
    | _ => exact not_false
  cases h with
  | sent hc hout hsent =>
    subst hc hout
    exact hsent.reported_iff
  | queued hsend hbinds hqueued =>
    have hkept : ¬c.Loses s := by
      cases c with
      | send => cases hsend
      | _ => exact not_false
    refine iff_of_true (.of_steady hqueued.lifecycleEvents fun _ => ?_) hkept
    exact endEvents_of_operations (congrArg Bindings.operations hbinds)
  | refused hpkt hout href hcore =>
    subst hout
    exact iff_of_true (href.reported.of_core hcore) (hreads hpkt)
  | read hpkt hread hbinds hplaced =>
    obtain ⟨hinput, hreported⟩ := hread.reported
    refine iff_of_true (hreported.of_queue (hplaced.lifecycleEvents hinput) ?_) (hreads hpkt)
    exact congrArg Bindings.operations hbinds

/-- Each step of a run queues one event for each operation that it ends, and no other, exactly if it
is no result for a stale operation whose event cannot be queued. -/
theorem one_event_per_end_iff {s : NnrpServerSession} (hs : Reachable s) (c : Call) :
    Reported s (c.out s) (call c.perform s).2 ↔ ¬c.Loses s :=
  (c.moved hs.correlated).reported_iff

def expireAtPacket (operationId : UInt64) (frameId : UInt32) (expireAtUnixMs : UInt64)
    (flags : UInt32) : RuntimePacket where
  header := { CommonHeader.new .expireAt 32 0 with sessionId := 7, frameId }
  metadata := leBytes 8 operationId.toNat ++ leBytes 8 1 ++ leBytes 4 0 ++
    leBytes 8 expireAtUnixMs.toNat ++ leBytes 4 flags.toNat
  body := []

def resultAt (nowUnixMs : UInt64) (written : Except RuntimeError Unit) : Call :=
  .send (.operationResult 1 emptyResult [] nowUnixMs) written

theorem completed_result_reported :
    lifecycleEvents (call (resultAt 0 (.ok ())).perform (afterSubmit 11 1)).2.pendingInputs =
        [⟨11, .completed⟩] ∧
      Reported (afterSubmit 11 1) ((resultAt 0 (.ok ())).out (afterSubmit 11 1))
        (call (resultAt 0 (.ok ())).perform (afterSubmit 11 1)).2 := by
  refine ⟨by decide +kernel, (one_event_per_end_iff (afterSubmit_reachable 11 1) _).mpr ?_⟩
  intro hloses
  obtain ⟨id, r, hstale, hsilent⟩ := hloses
  exact hsilent ⟨by decide +kernel, fun _ => rfl⟩

def expiring : NnrpServerSession :=
  sampleSession.after [.submitRound (arrival (submitPacket 11 1)),
    .awaitEvent (arrival (expireAtPacket 11 1 5 3))]

def lateResult : Call := resultAt 6 (.error (.io "broken pipe"))

theorem failed_drop_is_not_reported : Reachable expiring ∧ expiring.stateOf 11 = some .accepted ∧
      (call lateResult.perform expiring).2.stateOf 11 = some .superseded ∧
      ¬Reported expiring (lateResult.out expiring) (call lateResult.perform expiring).2 := by
  have hreachable : Reachable expiring := ⟨sampleSession, _, sampleSession_opened, rfl⟩
  refine ⟨hreachable, by decide +kernel, by decide +kernel, fun h => ?_⟩
  obtain ⟨added, hadded, hends⟩ := h
  have hbefore : lifecycleEvents expiring.pendingInputs = [] := by decide +kernel
  have hafter : handedOut (lateResult.out expiring) ++
      lifecycleEvents (call lateResult.perform expiring).2.pendingInputs = [] := by
    decide +kernel
  have hend : endEvents expiring (call lateResult.perform expiring).2 11 = [⟨11, .superseded⟩] := by
    decide +kernel
  rw [hbefore, hafter, nil_append] at hadded
  have hone := hends 11
  rw [hend, ← hadded] at hone
  simp at hone

end Nnrp.Server
