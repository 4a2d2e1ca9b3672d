import Nnrp.HandleCascade
import Nnrp.LabelledRun

/-!
# When the handle of a server operation is retired

The host keeps the handle of an operation until it was told that the operation has ended and has
sent a terminal reply, in either order. A result and a drop that is sent as a runtime frame record
the reply; the drop of a stale result does not. The lifecycle event finds the operation only under
the session handle that the operation was received with.
-/

namespace Nnrp.Ffi
open OrderedMap Fallible LabelledRun List Std.ExtTreeMap NnrpHandle

inductive TerminalReply
  | result | dropFrame | staleDrop
  deriving DecidableEq

namespace NnrpFfiHandleStore

variable {δ : Type} (store : NnrpFfiHandleStore δ)

/-- The session of a server operation. The entry points refuse other handles with different
statuses, which are left out. -/
def serverOperationSession (operation : NnrpHandle) : Option NnrpHandle :=
  match store.get operation .operation with
  | .ok (.operation session _ _ true _) =>
    match store.get session .session with
    | .ok (.session connection _ _) =>
      match store.get connection .connection with
      | .ok (.connection .server _) => some session
      | _ => none
    | _ => none
  | _ => none

/-- `sent` is whether the session has sent the reply. -/
def sendTerminalReply (via : TerminalReply) (operation : NnrpHandle) (sent : Bool) :
    Option (NnrpFfiHandleStore δ) := do
  let session ← store.serverOperationSession operation
  guard sent
  match via with
  | .result | .dropFrame => (store.recordTerminalOperationReply session operation).toOption
  | .staleDrop => some store

end NnrpFfiHandleStore

/-- A server operation: the session handle it was received with, the handle that was issued for it
and its id. -/
structure ServerOperation where
  (session handle : NnrpHandle)
  operationId : UInt64

structure Tracked (δ : Type) where
  store : NnrpFfiHandleStore δ
  delivered : Bool := false
  replied : Bool := false

/-- The lifecycle event of the operation is handed to the host, a terminal reply is sent under the
handle with some flags, or another call changes the store. -/
inductive TrackedLabel (δ : Type)
  | deliver (scope : NnrpHandle)
  | reply (via : TerminalReply) (flags : UInt32) (sent : Bool)
  | other (change : StoreChange δ)

namespace ServerOperation

variable {δ : Type} (o : ServerOperation) (store store' : NnrpFfiHandleStore δ) (w : Tracked δ)

def step : TrackedLabel δ → Option (Tracked δ)
  | .deliver scope =>
    match w.store.deliverLifecycle scope o.operationId with
    | .ok (store, _) => some { w with store, delivered := true }
    | .error _ => none
  | .reply via flags sent =>
    match w.store.sendTerminalReply via { o.handle with flags } sent with
    | some store => some { w with store, replied := true }
    | none => none
  | .other change =>
    match change.apply w.store with
    | .ok store => some { w with store }
    | .error _ => none

def Is : NnrpFfiResource δ → Prop
  | .operation session operationId _ _ _ => session = o.session ∧ o.operationId = operationId
  | _ => False

def Alone : Prop :=
  ∀ (key : UInt32 × UInt64) entry, store.entries[key]? = some entry → o.Is entry.resource →
    key = o.handle.slot

structure Held : Prop where
  plain : o.handle.flags = 0
  valid : o.handle.validateKind .operation = .ok ()
  entry : ∃ frameId data, store.entries[o.handle.slot]? =
    some ⟨o.handle.generation, .operation o.session o.operationId frameId true data⟩

structure Unrecorded : Prop where
  delivered : ∀ owner, (owner, o.handle) ∉ store.lifecycleDeliveredOperations
  replies : o.handle ∉ store.terminalOperationReplies

structure Undisturbed : Prop where
  entry : store'.entries[o.handle.slot]? = store.entries[o.handle.slot]?
  alone : o.Alone store'
  delivered : ∀ owner, (owner, o.handle) ∈ store'.lifecycleDeliveredOperations →
    (owner, o.handle) ∈ store.lifecycleDeliveredOperations
  kept : (o.session.normalized, o.handle) ∈ store.lifecycleDeliveredOperations →
    (o.session.normalized, o.handle) ∈ store'.lifecycleDeliveredOperations
  replies : o.handle ∈ store'.terminalOperationReplies ↔ o.handle ∈ store.terminalOperationReplies

/-- The call is about other resources: it does not use the id of the operation again, receive the
operation a second time, name its handle, deliver its event or close what it belongs to. -/
def Unrelated : StoreChange δ → Prop
  | .insert unused _ resource => (resource.kind.toU32, unused) ≠ o.handle.slot ∧ ¬o.Is resource
  | .setData handle _ _ | .remove handle _ | .releaseAccept handle | .recordReply _ handle =>
    handle.slot ≠ o.handle.slot
  | .deliverLifecycle scope operationId => ¬(scope.Names o.session ∧ operationId = o.operationId)
  | .closeSession session => session.slot ≠ o.handle.slot ∧ ¬session.Names o.session
  | .closeConnection connection =>
    connection.slot ≠ o.handle.slot ∧ o.session.normalized ∉ store.sessionsOf connection
  | .invalidateAll => False

/-- No reply goes the way that is not recorded, the event is polled under the handle that the
operation was received with, and the other calls are about other resources. -/
def Regular : TrackedLabel δ → Prop
  | .deliver scope => scope = o.session
  | .reply via _ _ => via ≠ .staleDrop
  | .other change => o.Unrelated w.store change

structure Recorded : Prop where
  alone : o.Alone w.store
  held : ¬(w.delivered ∧ w.replied) → o.Held w.store ∧
    ((o.session.normalized, o.handle) ∈ w.store.lifecycleDeliveredOperations ↔ w.delivered) ∧
    (o.handle ∈ w.store.terminalOperationReplies ↔ w.replied)
  retired : w.delivered ∧ w.replied →
    w.store.entries[o.handle.slot]? = none ∧ o.Unrecorded w.store

variable {o store store' w} {flags : UInt32}

theorem Held.get (h : o.Held store) (flags : UInt32) : ∃ fid data,
    store.get { o.handle with flags } .operation =
      .ok (.operation o.session o.operationId fid true data) := by
  obtain ⟨fid, data, hentry⟩ := h.entry
  refine ⟨fid, data, ?_⟩
  have hvalid : validateKind { o.handle with flags } .operation = .ok () := h.valid
  have hslot : store.entries[slot { o.handle with flags }]? = _ := hentry
  simp [NnrpFfiHandleStore.get, hvalid, hslot]

theorem Held.normalized (h : o.Held store) (flags : UInt32) :
    normalized { o.handle with flags } = o.handle :=
  eq_iff.mpr ⟨rfl, rfl, h.plain.symm⟩

theorem get_fails (h : store.entries[o.handle.slot]? = none) :
    ∃ e, store.get { o.handle with flags } .operation = .error e := by
  cases hget : store.get { o.handle with flags } .operation with
  | error e => exact ⟨e, rfl⟩
  | ok res => cases (NnrpFfiHandleStore.get_ok hget).2.symm.trans h

theorem Alone.found {found : NnrpHandle} (h : o.Alone store)
    (hfound : store.findOperationHandle o.session (some o.operationId) none = .ok found) :
    ∃ entry, store.entries[o.handle.slot]? = some entry ∧ found = handleOf o.handle.slot entry := by
  rw [NnrpFfiHandleStore.findOperationHandle] at hfound
  split at hfound
  · rename_i entry hfind
    have htest := find?_some hfind
    have hget := mem_toList_iff_getElem?_eq_some.mp (mem_of_find?_eq_some hfind)
    have his : o.Is entry.2.resource := by
      cases hrsrc : entry.2.resource <;> simp_all [Is]
    cases hfound
    rw [← h _ _ hget his]
    exact ⟨entry.2, hget, rfl⟩
  · cases hfound

theorem Held.found (h : o.Held store) (halone : o.Alone store) :
    store.findOperationHandle o.session (some o.operationId) none = .ok o.handle := by
  obtain ⟨fid, data, hentry⟩ := h.entry
  cases hfound : store.findOperationHandle o.session (some o.operationId) none with
  | ok found =>
    obtain ⟨entry, hentry', rfl⟩ := halone.found hfound
    cases hentry.symm.trans hentry'
    exact congrArg Except.ok (h.normalized 0)
  | error e =>
    rw [NnrpFfiHandleStore.findOperationHandle] at hfound
    split at hfound
    · cases hfound
    · rename_i hnone
      have htest := find?_eq_none.mp hnone (_, _) (mem_toList_iff_getElem?_eq_some.mpr hentry)
      simp at htest

theorem settleLifecycle_of_deliver {found : NnrpHandle}
    (h : store.deliverLifecycle o.session o.operationId = .ok (store', found)) :
    store.settleLifecycle o.session ((store.findOperationHandle o.session (some o.operationId)
      none).toOption.getD .invalid) = .ok (store', found) := by
  obtain ⟨res, -, h⟩ := bind_eq_ok.mp h
  cases res with
  | session =>
    cases hfound : store.findOperationHandle o.session (some o.operationId) none with
    | ok op | error e =>
      rw [hfound] at h
      exact h
  | _ => cases h

theorem Held.serverOperation (h : o.Held store) : store.serverOperation o.handle = true := by
  obtain ⟨fid, data, hget⟩ := h.get o.handle.flags
  rw [NnrpFfiHandleStore.serverOperation, if_pos (NnrpFfiHandleStore.validateKind_ok h.valid)]
  exact hget ▸ rfl

theorem Recorded.of_remove (halone : o.Alone store) (hself : o.handle.normalized = o.handle)
    (h : store.remove o.handle .operation = .ok store') : o.Recorded ⟨store', true, true⟩ := by
  obtain ⟨res, -, h⟩ := bind_eq_ok.mp h
  cases h
  rw [hself]
  refine ⟨fun key entry hentry his => ?_, fun hnot => absurd ⟨rfl, rfl⟩ hnot, fun _ => ⟨?_, ?_⟩⟩
  · dsimp only at hentry
    rw [get_erase] at hentry
    split_ifs at hentry
    exact halone key entry hentry his
  · exact get_erase.trans (if_pos rfl)
  · constructor <;> simp

theorem Recorded.deliver {found : NnrpHandle} (h : o.Recorded w)
    (hstep : w.store.deliverLifecycle o.session o.operationId = .ok (store', found)) :
    o.Recorded { w with store := store', delivered := true } := by
  have hsettle := settleLifecycle_of_deliver hstep
  by_cases hboth : w.delivered ∧ w.replied
  · have hretired := h.retired hboth
    have hnew : o.Recorded { w with delivered := true } :=
      ⟨h.alone, fun hnot => absurd ⟨rfl, hboth.2⟩ hnot, fun _ => hretired⟩
    cases hfound : w.store.findOperationHandle o.session (some o.operationId) none with
    | ok found =>
      obtain ⟨entry, hentry, -⟩ := h.alone.found hfound
      cases hretired.1.symm.trans hentry
    | error e =>
      rw [hfound] at hsettle
      cases hsettle
      exact hnew
  · obtain ⟨hheld, hdeliv, hreplied⟩ := h.held hboth
    have hself : o.handle.normalized = o.handle := hheld.normalized o.handle.flags
    rw [hheld.found h.alone, Except.toOption, Option.getD_some, NnrpFfiHandleStore.settleLifecycle,
      NnrpFfiHandleStore.terminalOperationReplyRecorded, hheld.serverOperation, hself] at hsettle
    split_ifs at hsettle with hreply
    · obtain ⟨removed, hremove, hsettle⟩ := bind_eq_ok.mp hsettle
      cases hsettle
      rw [hreplied.mp (of_decide_eq_true hreply.2)]
      exact .of_remove h.alone hself hremove
    · cases hsettle
      have hopen : ¬w.replied := fun hw => hreply ⟨rfl, decide_eq_true (hreplied.mpr hw)⟩
      rw [NnrpFfiHandleStore.markOperationLifecycleDelivered, hself]
      split_ifs with hold
      · refine ⟨h.alone, fun _ => ⟨hheld, iff_of_true hold rfl, hreplied⟩, fun hafter => ?_⟩
        exact absurd hafter.2 hopen
      · refine ⟨h.alone, fun _ => ⟨{ hheld with }, iff_of_true ?_ rfl, hreplied⟩, fun hafter => ?_⟩
        · exact mem_append_right _ mem_cons_self
        · exact absurd hafter.2 hopen
    · exact absurd rfl ‹_›

theorem Held.session_eq {sess : NnrpHandle} (h : o.Held store)
    (hsess : store.serverOperationSession { o.handle with flags } = some sess) :
    sess = o.session := by
  obtain ⟨fid, data, hget⟩ := h.get flags
  rw [NnrpFfiHandleStore.serverOperationSession, hget] at hsess
  dsimp only at hsess
  repeat' split at hsess
  all_goals cases hsess
  rfl

variable {via : TerminalReply} {sent : Bool}

theorem record_of_reply {op : NnrpHandle} (hvia : via ≠ .staleDrop)
    (h : store.sendTerminalReply via op sent = some store') : ∃ sess,
    store.serverOperationSession op = some sess ∧
      store.recordTerminalOperationReply sess op = .ok store' := by
  obtain ⟨sess, hsess, h⟩ := Option.bind_eq_some_iff.mp h
  obtain ⟨_, -, h⟩ := Option.bind_eq_some_iff.mp h
  refine ⟨sess, hsess, ?_⟩
  cases via with
  | staleDrop => exact absurd rfl hvia
  | _ =>
    cases hrec : store.recordTerminalOperationReply sess op with
    | ok recorded =>
      simp only [hrec] at h
      cases h
      rfl
    | error e =>
      simp only [hrec] at h
      cases h

theorem Recorded.reply (h : o.Recorded w) (hvia : via ≠ .staleDrop)
    (hstep : w.store.sendTerminalReply via { o.handle with flags } sent = some store') :
    o.Recorded { w with store := store', replied := true } := by
  obtain ⟨sess, hsess, hrec⟩ := record_of_reply hvia hstep
  obtain ⟨res, hget, hrec⟩ := bind_eq_ok.mp hrec
  by_cases hboth : w.delivered ∧ w.replied
  · obtain ⟨e, he⟩ := get_fails (h.retired hboth).1
    cases hget.symm.trans he
  · obtain ⟨hheld, hdeliv, hreplied⟩ := h.held hboth
    rw [hheld.session_eq hsess, hheld.normalized flags] at hrec
    split_ifs at hrec with hold hnew
    · rw [hdeliv.mp hold]
      exact .of_remove h.alone (hheld.normalized o.handle.flags) hrec
    · cases hrec
      refine ⟨h.alone, fun _ => ⟨hheld, hdeliv, iff_of_true hnew rfl⟩, fun hafter => ?_⟩
      exact absurd (hdeliv.mpr hafter.1) hold
    · cases hrec
      refine ⟨h.alone, fun _ => ⟨{ hheld with }, hdeliv, iff_of_true ?_ rfl⟩, fun hafter => ?_⟩
      · exact mem_append_right _ mem_cons_self
      · exact absurd (hdeliv.mpr hafter.1) hold

section
variable {handle root : NnrpHandle} {kind : NnrpHandleKind}

theorem Alone.of_subset (h : o.Alone store) (hsub : ∀ (key : UInt32 × UInt64) entry,
    store'.entries[key]? = some entry → store.entries[key]? = some entry) : o.Alone store' :=
  fun key entry hentry => h key entry (hsub key entry hentry)

theorem Undisturbed.refl (h : o.Alone store) : o.Undisturbed store store :=
  ⟨rfl, h, fun _ => id, id, Iff.rfl⟩

theorem Undisturbed.erase (h : o.Alone store) (hne : handle.slot ≠ o.handle.slot) :
    o.Undisturbed store { store with entries := store.entries.erase handle.slot } := by
  refine ⟨get_erase.trans (if_neg hne), h.of_subset fun key entry hentry => ?_, fun _ => id, id,
    Iff.rfl⟩
  dsimp only at hentry
  rw [get_erase] at hentry
  split_ifs at hentry
  exact hentry

theorem normalized_ne (hne : handle.slot ≠ o.handle.slot) : o.handle ≠ handle.normalized :=
  fun hsame => hne (congrArg slot hsame).symm

theorem Undisturbed.remove (h : o.Alone store) (hne : handle.slot ≠ o.handle.slot)
    (hremove : store.remove handle kind = .ok store') : o.Undisturbed store store' := by
  have herase := Undisturbed.erase h hne
  obtain ⟨res, -, hremove⟩ := bind_eq_ok.mp hremove
  dsimp only at hremove
  split_ifs at hremove
  · cases hremove
    refine ⟨herase.entry, herase.alone, fun _ hmem => (mem_filter.mp hmem).1, fun hmem => ?_, ?_⟩
    · exact mem_filter.mpr ⟨hmem, decide_eq_true (normalized_ne hne)⟩
    · exact mem_filter.trans (and_iff_left (decide_eq_true (normalized_ne hne)))
  · cases hremove
    exact herase

theorem Undisturbed.insert {slot : UInt32 × UInt64} {entry : NnrpFfiResourceEntry δ}
    (h : o.Alone store) (hne : slot ≠ o.handle.slot)
    (hother : o.Is entry.resource → slot = o.handle.slot) :
    o.Undisturbed store { store with entries := store.entries.insert slot entry } := by
  refine ⟨get_insert.trans (if_neg hne), fun key found hfound his => ?_, fun _ => id, id, Iff.rfl⟩
  dsimp only at hfound
  rw [get_insert] at hfound
  split_ifs at hfound with hsame
  · cases hfound
    exact hsame.symm.trans (hother his)
  · exact h key found hfound his

theorem Undisturbed.mark {scope : NnrpHandle} (h : o.Alone store)
    (hne : handle.slot ≠ o.handle.slot) :
    o.Undisturbed store (store.markOperationLifecycleDelivered scope handle) := by
  rw [NnrpFfiHandleStore.markOperationLifecycleDelivered]
  split_ifs
  · exact .refl h
  · refine ⟨rfl, h, fun owner hmem => ?_, mem_append_left _, Iff.rfl⟩
    refine (mem_append.mp hmem).resolve_right fun hnew => normalized_ne hne ?_
    exact (Prod.mk.inj (mem_singleton.mp hnew)).2

theorem Undisturbed.recordReply {session : NnrpHandle} (h : o.Alone store)
    (hne : handle.slot ≠ o.handle.slot)
    (hrec : store.recordTerminalOperationReply session handle = .ok store') :
    o.Undisturbed store store' := by
  obtain ⟨res, -, hrec⟩ := bind_eq_ok.mp hrec
  split_ifs at hrec
  · exact .remove h hne hrec
  · cases hrec
    exact .refl h
  · cases hrec
    refine ⟨rfl, h, fun _ => id, id, mem_append.trans (or_iff_left fun hnew => ?_)⟩
    exact normalized_ne hne (mem_singleton.mp hnew)

theorem Undisturbed.settleLifecycle {scope found : NnrpHandle} (h : o.Alone store)
    (hne : handle.slot ≠ o.handle.slot)
    (hsettle : store.settleLifecycle scope handle = .ok (store', found)) :
    o.Undisturbed store store' := by
  rw [NnrpFfiHandleStore.settleLifecycle] at hsettle
  split_ifs at hsettle
  · obtain ⟨removed, hremove, hsettle⟩ := bind_eq_ok.mp hsettle
    cases hsettle
    exact .remove h hne hremove
  · cases hsettle
    exact .mark h hne
  · cases hsettle
    exact .refl h

/-- The slot of the operation holds the operation, or nothing once it is retired. -/
def Owns (o : ServerOperation) (store : NnrpFfiHandleStore δ) : Prop :=
  ∀ entry, store.entries[o.handle.slot]? = some entry → o.Is entry.resource

theorem Owns.resource_eq {entry : NnrpFfiResourceEntry δ} (h : o.Owns store)
    (hentry : store.entries[o.handle.slot]? = some entry) : ∃ frameId server data,
      entry.resource = .operation o.session o.operationId frameId server data := by
  have his := h entry hentry
  cases hres : entry.resource with
  | operation sess op fid server data =>
    rw [hres] at his
    obtain ⟨rfl, rfl⟩ := his
    exact ⟨fid, server, data, rfl⟩
  | _ =>
    rw [hres] at his
    exact his.elim

theorem found_slot_ne {scope found : NnrpHandle} {operationId : UInt64} (hown : o.Owns store)
    (hother : ¬(scope.Names o.session ∧ operationId = o.operationId))
    (hfound : store.findOperationHandle scope (some operationId) none = .ok found) :
    found.slot ≠ o.handle.slot := by
  rw [NnrpFfiHandleStore.findOperationHandle] at hfound
  split at hfound
  · rename_i entry hfind
    have htest := find?_some hfind
    have hget := mem_toList_iff_getElem?_eq_some.mp (mem_of_find?_eq_some hfind)
    cases hfound
    intro hslot
    have hkey : entry.1 = o.handle.slot := hslot
    rw [hkey] at hget
    obtain ⟨fid, server, data, hres⟩ := hown.resource_eq hget
    rw [hres] at htest
    simp only [Option.all_some, Option.all_none, and_true, decide_eq_true_eq] at htest
    exact hother ⟨congrArg normalized htest.1.symm, htest.2⟩
  · cases hfound

theorem handlesWhere_slot {test : NnrpFfiResource δ → Bool} (hown : o.Owns store)
    (hmem : handle ∈ store.handlesWhere test) (hslot : handle.slot = o.handle.slot) :
    ∃ frameId server data,
      test (.operation o.session o.operationId frameId server data) = true := by
  obtain ⟨entry, hentry, rfl⟩ := mem_map.mp hmem
  obtain ⟨hentry, htest⟩ := mem_filter.mp hentry
  have hkey : entry.1 = o.handle.slot := hslot
  have hget := mem_toList_iff_getElem?_eq_some.mp hentry
  rw [hkey] at hget
  obtain ⟨fid, server, data, hres⟩ := hown.resource_eq hget
  exact ⟨fid, server, data, hres ▸ htest⟩

theorem Undisturbed.sweep {handles owners sessions operations : List NnrpHandle}
    (hown : o.Owns store) (h : o.Alone store) (hroot : root.slot ≠ o.handle.slot)
    (hlisted : ∀ handle ∈ handles, handle.slot ≠ o.handle.slot)
    (hoperations : o.handle ∉ operations) (hsession : o.session.normalized ∉ sessions)
    (hentries : store'.entries = (NnrpFfiHandleStore.withoutLeases
      (NnrpFfiHandleStore.eraseAll store.entries handles) owners).erase root.slot)
    (hdelivered : ∀ pair, pair ∈ store'.lifecycleDeliveredOperations ↔
      pair ∈ store.lifecycleDeliveredOperations ∧ pair.1 ∉ sessions)
    (hreplies : store'.terminalOperationReplies =
      store.terminalOperationReplies.filter fun operation => operation ∉ operations) :
    o.Undisturbed store store' := by
  have hget := NnrpFfiHandleStore.swept_get hentries
  refine ⟨?_, h.of_subset fun key entry hentry => ?_, fun owner hmem => ?_, fun hmem => ?_, ?_⟩
  · rcases hget o.handle.slot with ⟨-, hself | hmem | hlease⟩ | hkept
    · exact absurd hself.symm hroot
    · obtain ⟨handle, hhandle, hslot⟩ := mem_map.mp hmem
      exact absurd hslot (hlisted handle hhandle)
    · obtain ⟨entry, owner, data, hentry, hres, -⟩ := hlease
      obtain ⟨_, _, _, hop⟩ := hown.resource_eq hentry
      cases hres.symm.trans hop
    · exact hkept.1
  · rcases hget key with hnone | hkept
    · rw [hnone.1] at hentry
      cases hentry
    · exact hkept.1.symm.trans hentry
  · exact ((hdelivered _).mp hmem).1
  · exact (hdelivered _).mpr ⟨hmem, hsession⟩
  · rw [hreplies, mem_filter, decide_eq_true_iff]
    exact and_iff_left hoperations

theorem operationsOf_slot {sessions : List NnrpHandle} (hown : o.Owns store)
    (hmem : handle ∈ store.operationsOf sessions) (hslot : handle.slot = o.handle.slot) :
    o.session ∈ sessions := by
  obtain ⟨fid, server, data, htest⟩ := handlesWhere_slot hown hmem hslot
  exact of_decide_eq_true htest

theorem Undisturbed.closeSession (hown : o.Owns store) (h : o.Alone store)
    (hroot : root.slot ≠ o.handle.slot) (hother : ¬root.Names o.session)
    (hclose : store.closeSession root = .ok store') : o.Undisturbed store store' := by
  obtain ⟨res, -, hclose⟩ := bind_eq_ok.mp hclose
  cases hclose
  have hoperations : ∀ handle ∈ store.operationsOf [root], handle.slot ≠ o.handle.slot := by
    intro handle hmem hslot
    exact hother (congrArg normalized (mem_singleton.mp (operationsOf_slot hown hmem hslot)).symm)
  have hsession : o.session.normalized ∉ [root] := by
    intro hmem
    exact hother (congrArg normalized (mem_singleton.mp hmem)).symm
  refine .sweep hown h hroot hoperations (fun hmem => hoperations _ hmem rfl) hsession rfl ?_ rfl
  intro pair
  simp

theorem Undisturbed.closeConnection (hown : o.Owns store) (h : o.Alone store)
    (hroot : root.slot ≠ o.handle.slot) (hother : o.session.normalized ∉ store.sessionsOf root)
    (hclose : store.closeConnection root = .ok store') : o.Undisturbed store store' := by
  have hentries := NnrpFfiHandleStore.closeConnection_entries hclose
  obtain ⟨res, -, hclose⟩ := bind_eq_ok.mp hclose
  cases hclose
  have hsession : o.session ∉ store.sessionsOf root := by
    intro hmem
    -- the handles of the list have no flags
    obtain ⟨entry, -, hsame⟩ := mem_map.mp hmem
    refine hother ?_
    rw [← hsame] at hmem ⊢
    exact hmem
  have hoperations : ∀ handle ∈ store.operationsOf (store.sessionsOf root),
      handle.slot ≠ o.handle.slot :=
    fun handle hmem hslot => hsession (operationsOf_slot hown hmem hslot)
  refine .sweep hown h hroot ?_ (fun hmem => hoperations _ hmem rfl) hother hentries ?_ rfl
  · intro handle hmem hslot
    rw [mem_append, mem_append] at hmem
    rcases hmem with (hmem | hmem) | hmem
    · exact hoperations handle hmem hslot
    all_goals
      obtain ⟨fid, server, data, htest⟩ := handlesWhere_slot hown hmem hslot
      cases htest
  · intro pair
    simp

theorem Unrelated.undisturbed {change : StoreChange δ} (h : o.Unrelated store change)
    (hown : o.Owns store) (halone : o.Alone store)
    (happly : change.apply store = .ok store') : o.Undisturbed store store' := by
  cases change with
  | insert id gen res =>
    rw [StoreChange.apply] at happly
    split_ifs at happly
    obtain ⟨_, -, happly⟩ := bind_eq_ok.mp happly
    obtain ⟨-, happly⟩ := of_refused_eq_ok rfl happly
    cases happly
    exact .insert halone h.1 fun his => absurd his h.2
  | setData handle kind data =>
    obtain ⟨res, hget, happly⟩ := bind_eq_ok.mp happly
    cases happly
    refine .insert halone h fun his => ?_
    refine halone _ _ (NnrpFfiHandleStore.get_ok hget).2 ?_
    cases res <;> exact his
  | remove handle kind => exact .remove halone h happly
  | releaseAccept accept =>
    rw [StoreChange.apply, NnrpFfiHandleStore.releaseAccept] at happly
    split at happly
    · cases happly
    · split_ifs at happly
      cases happly
      exact .erase halone h
  | deliverLifecycle scope opId =>
    obtain ⟨delivered, hdeliver, happly⟩ := bind_eq_ok.mp happly
    cases happly
    obtain ⟨res, -, hdeliver⟩ := bind_eq_ok.mp hdeliver
    cases res with
    | session =>
      dsimp only at hdeliver
      split at hdeliver
      · exact .settleLifecycle halone (found_slot_ne hown h ‹_›) hdeliver
      · cases hdeliver
        exact .refl halone
    | _ => cases hdeliver
  | recordReply session operation => exact .recordReply halone h happly
  | closeConnection connection => exact .closeConnection hown halone h.1 h.2 happly
  | closeSession session => exact .closeSession hown halone h.1 h.2 happly
  | invalidateAll => exact h.elim

end

theorem Recorded.owns (h : o.Recorded w) : o.Owns w.store := by
  intro entry hentry
  by_cases hboth : w.delivered ∧ w.replied
  · cases (h.retired hboth).1.symm.trans hentry
  · obtain ⟨fid, data, hheld⟩ := (h.held hboth).1.entry
    cases hheld.symm.trans hentry
    exact ⟨rfl, rfl⟩

theorem Recorded.undisturbed (h : o.Recorded w) (hother : o.Undisturbed w.store store') :
    o.Recorded { w with store := store' } := by
  refine ⟨hother.alone, fun hnot => ?_, fun hboth => ?_⟩
  · obtain ⟨hheld, hdeliv, hreplied⟩ := h.held hnot
    refine ⟨{ hheld with entry := ?_ }, ?_, hother.replies.trans hreplied⟩
    · rw [hother.entry]
      exact hheld.entry
    · exact ⟨fun hmem => hdeliv.mp (hother.delivered _ hmem), fun hw => hother.kept (hdeliv.mpr hw)⟩
  · obtain ⟨hentry, hunrecorded⟩ := h.retired hboth
    refine ⟨hother.entry.trans hentry, fun owner hmem => ?_, fun hmem => ?_⟩
    · exact hunrecorded.delivered owner (hother.delivered owner hmem)
    · exact hunrecorded.replies (hother.replies.mp hmem)

theorem Recorded.step {label : TrackedLabel δ} {w' : Tracked δ} (h : o.Recorded w)
    (hregular : o.Regular w label) (hstep : o.step w label = some w') : o.Recorded w' := by
  cases label with
  | deliver scope =>
    rw [ServerOperation.step] at hstep
    split at hstep
    · cases hregular
      cases hstep
      exact h.deliver ‹_›
    · cases hstep
  | reply via flags sent =>
    rw [ServerOperation.step] at hstep
    split at hstep <;> cases hstep
    exact h.reply hregular ‹_›
  | other change =>
    rw [ServerOperation.step] at hstep
    split at hstep <;> cases hstep
    exact h.undisturbed (hregular.undisturbed h.owns h.alone ‹_›)

end ServerOperation

/-- As long as each reply is recorded and the event is polled under the session handle of the
operation, the handle is valid until both have happened and then gone without a trace. -/
theorem operation_handle_retired_exactly {δ : Type} {o : ServerOperation}
    {store : NnrpFfiHandleStore δ} (hheld : o.Held store) (halone : o.Alone store)
    (hnew : o.Unrecorded store) {labels : List (TrackedLabel δ)} {w : Tracked δ}
    (hregular : Along o.step o.Regular { store } labels)
    (hrun : run o.step { store } labels = some w) :
    (¬(w.delivered ∧ w.replied) → ∀ flags, ∃ resource,
      w.store.get { o.handle with flags } .operation = .ok resource) ∧
    (w.delivered ∧ w.replied → o.Unrecorded w.store ∧ ∀ flags, ∃ e,
      w.store.get { o.handle with flags } .operation = .error e) := by
  have hstart : o.Recorded { store } := by
    refine ⟨halone, fun _ => ⟨hheld, ?_, ?_⟩, nofun⟩
    · exact iff_of_false (hnew.delivered _) nofun
    · exact iff_of_false hnew.replies nofun
  have hrecorded := run_invariant o.Recorded (fun _ _ _ h hregular hstep => h.step hregular hstep)
    hstart hregular hrun
  constructor
  · intro hnot flags
    obtain ⟨fid, data, hget⟩ := (hrecorded.held hnot).1.get flags
    exact ⟨_, hget⟩
  · intro hboth
    obtain ⟨hentry, hunrecorded⟩ := hrecorded.retired hboth
    exact ⟨hunrecorded, fun _ => ServerOperation.get_fails hentry⟩

def nine : ServerOperation := ⟨⟨2, 1, 1, 0⟩, ⟨3, 1, 1, 0⟩, 9⟩

def serving : NnrpFfiHandleStore Unit where
  entries := ((insert ∅ (1, 1) ⟨1, .connection .server ()⟩).insert (2, 1)
    ⟨1, .session ⟨1, 1, 1, 0⟩ 7 ()⟩).insert (3, 1) ⟨1, .operation nine.session 9 1 true ()⟩

theorem serving_received : nine.Held serving ∧ nine.Alone serving ∧ nine.Unrecorded serving := by
  refine ⟨⟨rfl, rfl, 1, (), rfl⟩, fun key entry hentry his => ?_, nofun, nofun⟩
  rw [serving, get_insert, get_insert, get_insert] at hentry
  split_ifs at hentry with hop
  · exact hop.symm
  · cases hentry
    cases his
  · cases hentry
    cases his
  · simp at hentry

def resultThenEvent : List (TrackedLabel Unit) :=
  [.reply .result 0 true, .other (.insert 2 1 (.session ⟨1, 1, 1, 0⟩ 8 ())),
    .other (.closeSession ⟨2, 2, 1, 0⟩), .deliver nine.session]

theorem result_then_event_retires :
    ∃ w, run nine.step { store := serving } resultThenEvent = some w ∧
      nine.Unrecorded w.store := by
  obtain ⟨hheld, halone, hnew⟩ := serving_received
  have hregular : Along nine.step nine.Regular { store := serving } resultThenEvent := by
    refine ⟨nofun, fun _ _ => ⟨⟨?_, id⟩,
      fun _ _ => ⟨⟨?_, ?_⟩, fun _ _ => ⟨rfl, fun _ _ => trivial⟩⟩⟩⟩
    · decide
    · decide
    · unfold Names
      decide
  have hends : (run nine.step { store := serving } resultThenEvent).any
      (fun w => w.delivered && w.replied) = true := by
    decide +kernel
  obtain ⟨w, hw, hboth⟩ := (Option.any_eq_true _ _).mp hends
  rw [Bool.and_eq_true] at hboth
  exact ⟨w, hw, ((operation_handle_retired_exactly hheld halone hnew hregular hw).2 hboth).1⟩

/-- The host has seen the event and dropped the stale result, and the handle stays. -/
theorem stale_drop_keeps_handle :
    (nine.Held serving ∧ nine.Alone serving ∧ nine.Unrecorded serving) ∧
    (run nine.step { store := serving } [.deliver nine.session, .reply .staleDrop 0 true]).map
        (fun w => (w.delivered, w.replied, (w.store.get nine.handle .operation).isOk,
          w.store.lifecycleDeliveredOperations)) =
      some (true, true, true, [(nine.session, nine.handle)]) := by
  refine ⟨serving_received, ?_⟩
  decide +kernel

end Nnrp.Ffi
