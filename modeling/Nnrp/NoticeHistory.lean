import Nnrp.ClientRun

/-!
# What an application learns along a run

The application has received some notices and is owed others, in the order of the two queues. A
property of the ledger and of this list is kept by every call if it is kept by the few ways in
which they change. A read of packets hands an event over before the lifecycle events that are
queued, so the property has to allow that too.
-/

namespace Nnrp.Client
open Protocol Packet RuntimeEvent List
open Lifecycle (ConnectionLifecycle)

def Account.owedEvents (a : Account) : List Notice :=
  a.events.filterMap fun e => (Received.event e).notice

def Account.owed (a : Account) : List Notice :=
  a.lifecycle.filterMap (fun e => (Received.lifecycle e).notice) ++ a.owedEvents

def State.notices (w : State) : List Notice :=
  w.received.filterMap Received.notice ++ w.session.account.owed

/-- The guard is what has to hold of the events that are queued when an operation is marked. -/
structure Carried (P : Ledger → List Notice → Prop) (guard : UInt64 → List Notice → Prop) :
    Prop where
  thin : ∀ {l ns ns'}, P l ns → ns'.Sublist ns → P l ns'
  zero : ∀ {l ns} (state : OperationState), l.Valid → P l ns → P (l.mark 0 state) ns
  submit : ∀ {l ns} {operationId : UInt64} (frameId : UInt32), l.Valid → operationId ∉ l.seen →
    P l ns → P (l.submit operationId frameId) ns
  mark : ∀ {l} {earlier later : List Notice} {operationId : UInt64} {frameId : UInt32}
    (state : OperationState), l.Valid → l.frames[operationId]? = some frameId →
    l.marks[operationId]? = none → guard operationId later → P l (earlier ++ later) →
      P (l.mark operationId state) (earlier ++ .ended operationId .lifecycle :: later)
  finish : ∀ {l ns} {operationId : UInt64} {frameId : UInt32}, l.Valid →
    l.frames[operationId]? = some frameId → P l ns →
      P (l.finish operationId frameId) (ns ++ [.ended operationId .wire])
  output : ∀ {l ns} {operationId : UInt64} {frameId : UInt32}, l.Valid →
    l.frames[operationId]? = some frameId → l.marks[operationId]? = none → P l ns →
      P l (ns ++ [.output operationId])
  guard_nil : ∀ operationId, guard operationId []

/-- An event that is read may be handed over before the lifecycle events that are queued. -/
def Advances (P : Ledger → List Notice → Prop) : Prop :=
  ∀ {l} {earlier lifecycles later : List Notice} {notice : Notice},
    (∀ n ∈ lifecycles, ∃ operationId, n = .ended operationId .lifecycle) →
    P l (earlier ++ (lifecycles ++ notice :: later)) →
      P l (earlier ++ (notice :: (lifecycles ++ later)))

section
variable {P : Ledger → List Notice → Prop} {guard : UInt64 → List Notice → Prop} {a a' : Account}
  {p : RuntimePacket} {ev : NnrpClientEvent} {earlier new : List Notice} {opId : UInt64}
  {α β : Type}

theorem filterMap_cons_toList (f : α → Option β) (x : α) (xs : List α) :
    (x :: xs).filterMap f = (f x).toList ++ xs.filterMap f := by
  cases hx : f x <;> simp [hx]

theorem sublist_filterMap_cons {f : α → Option β} {x : α} {xs : List α}
    {taken : List β} (h : taken.Sublist (f x).toList) :
    (taken ++ xs.filterMap f).Sublist ((x :: xs).filterMap f) := by
  rw [filterMap_cons_toList]
  exact h.append_right _

theorem notice_of_output (h : ev.output = some opId) :
    (Received.event ev).notice = some (.output opId) := by
  cases ev with
  | partialResult | progress => exact congrArg (Option.map Notice.output) h
  | result | control | supersede | update => cases h

theorem notice_of_neither (houtput : ev.output = none) (houtcome : ev.outcome = none) :
    (Received.event ev).notice = none := by
  cases ev with
  | result r => cases houtcome
  | partialResult | progress | control | supersede | update =>
    exact congrArg (Option.map Notice.output) houtput

theorem owed_mark {state : OperationState} (h : state.isTerminal = true) :
    (a.mark opId state).owed = a.lifecycle.filterMap (fun e => (Received.lifecycle e).notice) ++
        .ended opId .lifecycle :: a.owedEvents := by
  simp [Account.owed, Account.owedEvents, Received.notice, h]

theorem Ledger.Valid.unmarked {l : Ledger} {fid : UInt32} (h : l.Valid)
    (hbound : l.frames[opId]? = some fid)
    (hopen : ∀ state, l.marks[opId]? = some state → state.isTerminal = false) :
    l.marks[opId]? = none := by
  cases hmark : l.marks[opId]? with
  | none => rfl
  | some state =>
    have hterm := (h.marked opId state hmark (h.bound _ _ hbound).1).1
    rw [hopen state hmark] at hterm
    cases hterm

theorem Refused.carries (hP : Carried P guard) (hr : Refused a a') (hv : a.ledger.Valid)
    (h : P a.ledger (earlier ++ a.owed)) : a'.ledger.Valid ∧ P a'.ledger (earlier ++ a'.owed) := by
  cases hr with
  | same => exact ⟨hv, h⟩
  | zeroMark state => exact ⟨hv.mark fun hne => absurd rfl hne, hP.zero state hv h⟩
  | zeroFinish hop =>
    have hzero := (hv.inverse _ _).mpr hop
    rw [hv.zero_unbound] at hzero
    cases hzero

theorem Decoded.carries (hP : Carried P guard) (hd : Decoded a p ev a')
    (hv : a.ledger.Valid) (hguard : ∀ opId, markedBy p = some opId →
      a.ledger.marks[opId]? = none → guard opId a.owedEvents)
    (h : P a.ledger (earlier ++ a.owed)) : a'.ledger.Valid ∧
      P a'.ledger (earlier ++ a'.owed ++ (Received.event ev).notice.toList) := by
  cases hd with
  | update update => exact ⟨hv, by simpa [Received.notice, NnrpClientEvent.output] using h⟩
  | sessionControl m =>
    exact ⟨hv, by simpa [Received.notice, NnrpClientEvent.output] using h⟩
  | output hevent hbound hopen =>
    rw [notice_of_output hevent]
    exact ⟨hv, hP.output hv hbound (hv.unmarked hbound hopen) h⟩
  | result hwire hbound =>
    have hframe := hbound.elim (hv.inverse _ _).mpr id
    refine ⟨hv.finish hframe, ?_⟩
    rw [Received.notice, hwire]
    exact hP.finish hv hframe h
  | marked houtput houtcome hmark hbound hopen hstate =>
    refine ⟨hv.mark fun _ => ⟨hstate, _, hbound⟩, ?_⟩
    rw [notice_of_neither houtput houtcome, owed_mark hstate, Option.toList_none, append_nil,
      ← append_assoc]
    rw [Account.owed, ← append_assoc] at h
    exact hP.mark _ hv hbound hopen (hguard _ hmark hopen) h

theorem Decoded.handed (hd : Decoded a p ev a') (hrole : a.lifecycle = [])
    (hevents : a.events = []) (hnew : new.Sublist (Received.event ev).notice.toList) :
    (new ++ a'.owed).Sublist (a'.owed ++ (Received.event ev).notice.toList) := by
  have howed : a.owed = [] := by
    rw [Account.owed, Account.owedEvents, hrole, hevents]
    rfl
  cases hd with
  | update | sessionControl | output => simpa [howed] using hnew
  | result hwire hbound =>
    change (new ++ a.owed).Sublist (a.owed ++ _)
    simpa [howed] using hnew
  | marked houtput houtcome =>
    rw [notice_of_neither houtput houtcome] at hnew ⊢
    rw [sublist_nil.mp hnew]
    simp

theorem Taken.carries (hP : Carried P guard) (ht : Taken a ev a') (hv : a.ledger.Valid)
    (hrole : a.lifecycle = []) (hnew : new.Sublist (Received.event ev).notice.toList)
    (h : P a.ledger (earlier ++ a.owed)) :
    a'.ledger.Valid ∧ P a'.ledger (earlier ++ new ++ a'.owed) := by
  cases ht with
  | queued hqueue =>
    refine ⟨hv, hP.thin h ?_⟩
    rw [append_assoc, Account.owed, Account.owed, hrole]
    refine List.Sublist.append_left ?_ earlier
    rw [Account.owedEvents, Account.owedEvents, hqueue]
    exact sublist_filterMap_cons hnew
  | read hempty hd =>
    obtain ⟨hvalid, hdecd⟩ := hd.carries hP hv
      (fun op _ _ => by simpa [Account.owedEvents, hempty] using hP.guard_nil op) h
    refine ⟨hvalid, hP.thin hdecd ?_⟩
    rw [append_assoc, append_assoc]
    exact (hd.handed hrole hempty hnew).append_left earlier

theorem lifecycle_notices {lifecycle : List OperationLifecycleEvent} :
    ∀ n ∈ lifecycle.filterMap (fun e => (Received.lifecycle e).notice),
      ∃ operationId, n = .ended operationId .lifecycle := by
  intro n hn
  obtain ⟨e, -, he⟩ := mem_filterMap.mp hn
  rw [Received.notice] at he
  split_ifs at he
  exact ⟨e.operationId, (Option.some.inj he).symm⟩

theorem Advances.toList (hadv : Advances P) {l : Ledger} {earlier lifecycles later : List Notice}
    {notice : Option Notice} (hlifecycles : ∀ n ∈ lifecycles, ∃ opId, n = .ended opId .lifecycle)
    (h : P l (earlier ++ (lifecycles ++ (notice.toList ++ later)))) :
    P l (earlier ++ notice.toList ++ (lifecycles ++ later)) := by
  cases notice with
  | none => simpa using h
  | some n => simpa using hadv hlifecycles h

theorem Taken.advances (hP : Carried P guard) (hadv : Advances P) (ht : Taken a ev a')
    (hv : a.ledger.Valid) (h : P a.ledger (earlier ++ a.owed)) : a'.ledger.Valid ∧
      P a'.ledger (earlier ++ (Received.event ev).notice.toList ++ a'.owed) := by
  cases ht with
  | queued hqueue =>
    refine ⟨hv, hadv.toList lifecycle_notices ?_⟩
    rwa [Account.owed, Account.owedEvents, hqueue, filterMap_cons_toList] at h
  | read hempty hd =>
    obtain ⟨hvalid, hdecd⟩ := hd.carries hP hv
      (fun op _ _ => by simpa [Account.owedEvents, hempty] using hP.guard_nil op) h
    have hevents : a'.owedEvents = [] := by
      rw [Account.owedEvents, hd.events_eq, hempty]
      rfl
    refine ⟨hvalid, ?_⟩
    rw [Account.owed, hevents] at hdecd ⊢
    refine hadv.toList lifecycle_notices ?_
    simpa using hdecd

theorem TakenAll.advances {events : List NnrpClientEvent} (hP : Carried P guard)
    (hadv : Advances P) (ht : TakenAll a events a') (hv : a.ledger.Valid)
    (h : P a.ledger (earlier ++ a.owed)) : a'.ledger.Valid ∧
      P a'.ledger (earlier ++ events.filterMap (fun e => (Received.event e).notice) ++
        a'.owed) := by
  induction ht generalizing earlier with
  | nil => exact ⟨hv, by simpa using h⟩
  | cons hfirst _ ih =>
    obtain ⟨hvalid, hmoved⟩ := hfirst.advances hP hadv hv h
    rw [filterMap_cons_toList, ← append_assoc]
    exact ih hvalid hmoved

theorem Moved.carries {c : Call} (hP : Carried P guard) (hm : Moved a c new a')
    (hv : a.ledger.Valid) (hguard : ∀ opId, c.marks a.ledger = some opId →
      a.ledger.marks[opId]? = none → guard opId a.owedEvents)
    (hpackets : c.readsPackets = true → Advances P) (h : P a.ledger (earlier ++ a.owed)) :
    a'.ledger.Valid ∧ P a'.ledger (earlier ++ new ++ a'.owed) := by
  cases hm with
  | refused hr =>
    rw [append_nil]
    exact hr.carries hP hv h
  | submitted hzero hseen hnext hlast =>
    rw [append_nil]
    exact ⟨hv.submit hzero hseen hnext hlast, hP.submit _ hv hseen h⟩
  | marked hmark hbound hopen hstate =>
    refine ⟨hv.mark fun _ => ⟨hstate, _, hbound⟩, ?_⟩
    rw [append_nil, owed_mark hstate, ← append_assoc]
    rw [Account.owed, ← append_assoc] at h
    exact hP.mark _ hv hbound hopen (hguard _ hmark hopen) h
  | tookLifecycle hqueue hnew =>
    refine ⟨hv, hP.thin h ?_⟩
    rw [append_assoc, Account.owed, Account.owed, hqueue, ← append_assoc new]
    refine (List.Sublist.append_right ?_ _).append_left earlier
    exact sublist_filterMap_cons hnew
  | took hrole ht hnew => exact ht.carries hP hv hrole hnew h
  | tookPackets hcall ht hlast hnew =>
    obtain ⟨hvalid, hmoved⟩ := ht.advances hP (hpackets hcall) hv h
    obtain ⟨hvalid', hlast⟩ := hlast.carries hP hvalid hmoved
    exact ⟨hvalid', hP.thin hlast ((hnew.append_left _).append_right _)⟩
  | kept hcall hd =>
    subst hcall
    obtain ⟨hvalid, hdecd⟩ := hd.carries hP hv hguard h
    refine ⟨hvalid, ?_⟩
    rw [append_nil]
    simpa [Account.owed, Account.owedEvents, filterMap_cons_toList _ _ []] using hdecd
  | lost hcall hd =>
    subst hcall
    obtain ⟨hvalid, hdecd⟩ := hd.carries hP hv hguard h
    refine ⟨hvalid, hP.thin hdecd ?_⟩
    rw [append_nil]
    exact sublist_append_left _ _

end

def Clear (P : Ledger → List Notice → Prop) (guard : UInt64 → List Notice → Prop) (w : State)
    (c : Call) : Prop :=
  (c.readsPackets = true → Advances P) ∧
    ∀ operationId, c.marks w.session.ledger = some operationId →
    w.session.ledger.marks[operationId]? = none → guard operationId w.session.account.owedEvents

theorem run_carries {P : Ledger → List Notice → Prop} {guard : UInt64 → List Notice → Prop}
    (hP : Carried P guard) (hopened : P .opened []) {sid : UInt32}
    {maxInFlightOperations : UInt16} {life : ConnectionLifecycle} {calls : List Call}
    {w : State} (hclear : LabelledRun.Along step (Clear P guard)
      (.opened sid maxInFlightOperations life) calls)
    (hr : LabelledRun.run step (.opened sid maxInFlightOperations life) calls = some w) :
    P w.session.ledger w.notices := by
  have hinv : w.session.ledger.Valid ∧ P w.session.ledger w.notices := by
    refine LabelledRun.run_invariant
      (fun w => w.session.ledger.Valid ∧ P w.session.ledger w.notices) ?_ ?_ hclear hr
    · rintro w c w' ⟨hv, h⟩ hc hs
      obtain ⟨new, hreceived, hmoved⟩ := step_moved hs
      rw [State.notices, hreceived]
      exact hmoved.carries hP hv hc.2 hc.1 h
    · exact ⟨Ledger.opened_valid, hopened⟩
  exact hinv.2

end Nnrp.Client
