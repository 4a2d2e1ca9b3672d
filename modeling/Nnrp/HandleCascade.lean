import Nnrp.Fallible
import Nnrp.HandleStore

/-!
# What a close takes along

A connection owns its sessions and accept tickets, a session its operations, and each of them their
cache leases. The owner is the resource that the stored handle names, whatever its flags are, as
lookups ignore them. The closes compare the handles themselves, so they follow the same relation
with equality in place of `Names`.
-/

namespace Nnrp.Ffi
open OrderedMap Fallible List

def NnrpHandle.Names (a b : NnrpHandle) : Prop := a.normalized = b.normalized

variable {a b : NnrpHandle}

theorem NnrpHandle.names_iff : a.Names b ↔ a.slot = b.slot ∧ a.generation = b.generation := by
  rw [NnrpHandle.Names, NnrpHandle.eq_iff]
  exact ⟨fun h => ⟨h.1, h.2.1⟩, fun h => ⟨h.1, h.2, rfl⟩⟩

theorem NnrpHandle.Names.kind_eq (h : a.Names b) : a.kind = b.kind :=
  congrArg Prod.fst (NnrpHandle.names_iff.mp h).1

namespace NnrpFfiHandleStore

variable {δ : Type}

/-- The entry is owned by the root, directly or through other entries. -/
inductive Owned (names : NnrpHandle → NnrpHandle → Prop) (store : NnrpFfiHandleStore δ)
    (root : NnrpHandle) : UInt32 × UInt64 → Prop
  | direct {key : UInt32 × UInt64} {entry : NnrpFfiResourceEntry δ} {owner : NnrpHandle}
      (hentry : store.entries[key]? = some entry) (howner : entry.resource.owner = some owner)
      (hnames : names owner root) : Owned names store root key
  | through {key via : UInt32 × UInt64} {entry middle : NnrpFfiResourceEntry δ}
      {owner : NnrpHandle} (hentry : store.entries[key]? = some entry)
      (howner : entry.resource.owner = some owner) (hmiddle : store.entries[via]? = some middle)
      (howned : Owned names store root via) (hnames : names owner (handleOf via middle)) :
      Owned names store root key

def Lost (store store' : NnrpFfiHandleStore δ) (operation : NnrpHandle) : Prop :=
  operation.kind = NnrpHandleKind.operation.toU32 ∧
    (∃ entry, store.entries[operation.slot]? = some entry ∧
      entry.generation = operation.generation) ∧
    store'.entries[operation.slot]? = none

/-- A close takes along what the root owns, and nothing else. -/
structure Cascades (store store' : NnrpFfiHandleStore δ) (root : NnrpHandle) : Prop where
  closed : store'.entries[root.slot]? = none
  gone : ∀ key, store.Owned NnrpHandle.Names root key → store'.entries[key]? = none
  kept : ∀ key, ¬store.Owned NnrpHandle.Names root key → key ≠ root.slot →
    store'.entries[key]? = store.entries[key]?
  delivered : ∀ pair ∈ store'.lifecycleDeliveredOperations, ¬Lost store store' pair.2
  replies : ∀ operation ∈ store'.terminalOperationReplies, ¬Lost store store' operation

def Under (names : NnrpHandle → NnrpHandle → Prop) (store : NnrpFfiHandleStore δ)
    (root handle : NnrpHandle) : Prop :=
  handle = root ∨ ∃ via entry, store.entries[via]? = some entry ∧ store.Owned names root via ∧
    handle = handleOf via entry

/-- The owners below the root are stored with exactly the handle of the owner, the flags included,
and the delivered events with the handle of the session. -/
structure Exact (store : NnrpFfiHandleStore δ) (root : NnrpHandle) : Prop where
  direct : ∀ (key : UInt32 × UInt64) entry owner, store.entries[key]? = some entry →
    entry.resource.owner = some owner → owner.Names root → owner = root
  through : ∀ (key via : UInt32 × UInt64) entry middle owner, store.entries[key]? = some entry →
    entry.resource.owner = some owner → store.entries[via]? = some middle →
    store.Owned NnrpHandle.Names root via → owner.Names (handleOf via middle) →
    owner = handleOf via middle
  delivered : ∀ pair ∈ store.lifecycleDeliveredOperations, ∀ entry,
    store.entries[pair.2.slot]? = some entry → entry.generation = pair.2.generation →
    store.Owned NnrpHandle.Names root pair.2.slot → store.Under NnrpHandle.Names root pair.1

def ownerKinds : NnrpHandleKind → List NnrpHandleKind
  | .session | .serverAccept => [.connection]
  | .operation => [.session]
  | .cacheLease => [.connection, .session, .operation]
  | _ => []

end NnrpFfiHandleStore

def NnrpFfiResource.setData {δ : Type} (data : δ) : NnrpFfiResource δ → NnrpFfiResource δ
  | .connection role _ => .connection role data
  | .session parent sessionId _ => .session parent sessionId data
  | .serverAccept parent _ => .serverAccept parent data
  | .operation parent operationId frameId serverOperation _ =>
    .operation parent operationId frameId serverOperation data
  | .schemaRegistry _ => .schemaRegistry data
  | .buffer bytes => .buffer bytes
  | .objectDescriptor _ => .objectDescriptor data
  | .cacheReferenceDescriptor _ => .cacheReferenceDescriptor data
  | .cacheLease parent _ => .cacheLease parent data

/-- What the calls do while they hold the lock of the store. An owner is looked up before its
resource is inserted, possibly under an earlier lock: it has been valid, but may be gone. -/
inductive StoreChange (δ : Type)
  | insert (id : UInt64) (generation : UInt32) (resource : NnrpFfiResource δ)
  | setData (handle : NnrpHandle) (kind : NnrpHandleKind) (data : δ)
  | remove (handle : NnrpHandle) (kind : NnrpHandleKind)
  | releaseAccept (accept : NnrpHandle)
  | deliverLifecycle (scope : NnrpHandle) (operationId : UInt64)
  | recordReply (session operation : NnrpHandle)
  | closeConnection (connection : NnrpHandle)
  | closeSession (session : NnrpHandle)
  | invalidateAll

namespace StoreChange

variable {δ : Type}

def OwnerValid (resource : NnrpFfiResource δ) : Prop :=
  ∀ owner ∈ resource.owner, ∃ kind ∈ NnrpFfiHandleStore.ownerKinds resource.kind,
    owner.validateKind kind = .ok ()

instance (resource : NnrpFfiResource δ) : Decidable (OwnerValid resource) :=
  inferInstanceAs (Decidable (∀ owner ∈ resource.owner, _))

def apply (store : NnrpFfiHandleStore δ) :
    StoreChange δ → Except NnrpFfiStatus (NnrpFfiHandleStore δ)
  | .insert id generation resource =>
    if OwnerValid resource then store.insert id generation resource
    else .error (.invalidHandle resource.kind.toU32)
  | .setData handle kind data => do
    let resource ← store.get handle kind
    pure { store with
      entries := store.entries.insert handle.slot ⟨handle.generation, resource.setData data⟩ }
  | .remove handle kind => store.remove handle kind
  | .releaseAccept accept => store.releaseAccept accept
  | .deliverLifecycle scope operationId => do
    let delivered ← store.deliverLifecycle scope operationId
    pure delivered.1
  | .recordReply session operation => store.recordTerminalOperationReply session operation
  | .closeConnection connection => store.closeConnection connection
  | .closeSession session => store.closeSession session
  | .invalidateAll => .ok .invalidateAll

end StoreChange

inductive NnrpFfiHandleStore.Reachable {δ : Type} : NnrpFfiHandleStore δ → Prop
  | new : Reachable {}
  | step {store store' : NnrpFfiHandleStore δ} (h : Reachable store) (change : StoreChange δ)
      (hstep : change.apply store = .ok store') : Reachable store'

namespace NnrpFfiHandleStore

variable {δ : Type} {store store' : NnrpFfiHandleStore δ} {root : NnrpHandle}
  {handle operation : NnrpHandle} {kind : NnrpHandleKind} {key : UInt32 × UInt64}
  {entry : NnrpFfiResourceEntry δ} {res : NnrpFfiResource δ}

def rank (kind : UInt32) : ℕ :=
  if kind = NnrpHandleKind.session.toU32 ∨ kind = NnrpHandleKind.serverAccept.toU32 then 1
  else if kind = NnrpHandleKind.operation.toU32 then 2
  else if kind = NnrpHandleKind.cacheLease.toU32 then 3
  else 0

structure Valid (store : NnrpFfiHandleStore δ) : Prop where
  kind : ∀ (key : UInt32 × UInt64) entry, store.entries[key]? = some entry →
    key.1 = entry.resource.kind.toU32
  owner : ∀ (key : UInt32 × UInt64) entry owner, store.entries[key]? = some entry →
    entry.resource.owner = some owner →
    ∃ kind ∈ ownerKinds entry.resource.kind, owner.kind = kind.toU32
  delivered : ∀ pair ∈ store.lifecycleDeliveredOperations,
    pair.1.kind = NnrpHandleKind.session.toU32 ∧ pair.2.kind = NnrpHandleKind.operation.toU32
  replies : ∀ operation ∈ store.terminalOperationReplies, operation.flags = 0

theorem validateKind_ok (h : handle.validateKind kind = .ok ()) : handle.kind = kind.toU32 := by
  rw [NnrpHandle.validateKind] at h
  split_ifs at h with href
  rw [not_or, not_not] at href
  exact href.1

theorem get_ok (h : store.get handle kind = .ok res) :
    handle.kind = kind.toU32 ∧ store.entries[handle.slot]? = some ⟨handle.generation, res⟩ := by
  obtain ⟨_, hvalid, h⟩ := bind_eq_ok.mp h
  refine ⟨validateKind_ok hvalid, ?_⟩
  cases hentry : store.entries[handle.slot]? with
  | none =>
    rw [hentry] at h
    cases h
  | some entry =>
    rw [hentry] at h
    obtain ⟨hgen, h⟩ := of_refused_eq_ok rfl h
    cases h
    rw [← not_not.mp hgen]

theorem Valid.rank_lt (h : store.Valid) {owner : NnrpHandle}
    (hentry : store.entries[key]? = some entry) (howner : entry.resource.owner = some owner) :
    rank owner.kind < rank key.1 := by
  obtain ⟨kind, hkind, hsame⟩ := h.owner key entry owner hentry howner
  rw [hsame, h.kind key entry hentry]
  have hall : ∀ kind, ∀ parent ∈ ownerKinds kind, rank parent.toU32 < rank kind.toU32 := by
    intro kind
    cases kind <;> decide
  exact hall _ kind hkind

theorem Owned.mono {names names' : NnrpHandle → NnrpHandle → Prop}
    (himp : ∀ a b, names a b → names' a b) (h : store.Owned names root key) :
    store.Owned names' root key := by
  induction h with
  | direct hentry howner hnames => exact .direct hentry howner (himp _ _ hnames)
  | through hentry howner hmid _ hnames ih =>
    exact .through hentry howner hmid ih (himp _ _ hnames)

theorem Owned.rank_lt (hvalid : store.Valid) (h : store.Owned NnrpHandle.Names root key) :
    rank root.kind < rank key.1 := by
  induction h with
  | direct hentry howner hnames =>
    rw [← hnames.kind_eq]
    exact hvalid.rank_lt hentry howner
  | through hentry howner _ _ hnames ih =>
    have hlower := hvalid.rank_lt hentry howner
    rw [hnames.kind_eq] at hlower
    exact ih.trans hlower

theorem names_of_eq (a b : NnrpHandle) (h : a = b) : a.Names b := congrArg NnrpHandle.normalized h

theorem Owned.of_eq (h : store.Owned Eq root key) : store.Owned NnrpHandle.Names root key :=
  h.mono names_of_eq

variable {names : NnrpHandle → NnrpHandle → Prop}

theorem Owned.owned_entry
    (h : store.Owned names root key) : ∃ entry owner, store.entries[key]? = some entry ∧
      entry.resource.owner = some owner := by
  cases h with
  | direct hentry howner | through hentry howner => exact ⟨_, _, hentry, howner⟩

theorem Owned.owner {owner : NnrpHandle} (h : store.Owned names root key)
    (hentry : store.entries[key]? = some entry) (howner : entry.resource.owner = some owner) :
    names owner root ∨ ∃ via middle, store.entries[via]? = some middle ∧
      store.Owned names root via ∧ names owner (handleOf via middle) := by
  cases h with
  | direct hentry' howner' hnames =>
    cases hentry.symm.trans hentry'
    cases howner.symm.trans howner'
    exact .inl hnames
  | through hentry' howner' hmid howned hnames =>
    cases hentry.symm.trans hentry'
    cases howner.symm.trans howner'
    exact .inr ⟨_, _, hmid, howned, hnames⟩

theorem Exact.reaches (h : store.Exact root) (howned : store.Owned NnrpHandle.Names root key) :
    store.Owned Eq root key := by
  induction howned with
  | direct hentry howner hnames =>
    exact .direct hentry howner (h.direct _ _ _ hentry howner hnames)
  | through hentry howner hmid howned hnames ih =>
    exact .through hentry howner hmid ih (h.through _ _ _ _ _ hentry howner hmid howned hnames)

structure Sweeps (store store' : NnrpFfiHandleStore δ) (root : NnrpHandle) : Prop where
  closed : store'.entries[root.slot]? = none
  swept : ∀ key, store.Owned Eq root key → store'.entries[key]? = none
  kept : ∀ key, ¬store.Owned Eq root key → key ≠ root.slot →
    store'.entries[key]? = store.entries[key]?
  delivered : ∀ pair, pair ∈ store'.lifecycleDeliveredOperations ↔
    pair ∈ store.lifecycleDeliveredOperations ∧ ¬store.Under Eq root pair.1
  replies : ∀ operation ∈ store'.terminalOperationReplies,
    operation ∈ store.terminalOperationReplies ∧
      ∀ entry, store.entries[operation.slot]? = some entry →
        entry.generation = operation.generation →
        operation.kind = NnrpHandleKind.operation.toU32 → ¬store.Owned Eq root operation.slot

theorem Under.of_eq (h : store.Under Eq root handle) :
    store.Under NnrpHandle.Names root handle := by
  rcases h with hroot | ⟨via, entry, hentry, howned, hsame⟩
  · exact .inl hroot
  · exact .inr ⟨via, entry, hentry, howned.of_eq, hsame⟩

theorem Sweeps.gone_iff (h : store.Sweeps store' root) (hentry : store.entries[key]? = some entry)
    (hne : key ≠ root.slot) : store'.entries[key]? = none ↔ store.Owned Eq root key := by
  constructor
  · intro hnone
    by_contra hkept
    rw [h.kept key hkept hne, hentry] at hnone
    cases hnone
  · exact h.swept key

theorem Sweeps.cascades_iff (h : store.Sweeps store' root) (hvalid : store.Valid)
    (hroot : root.kind ≠ NnrpHandleKind.operation.toU32) :
    store.Cascades store' root ↔ store.Exact root := by
  constructor
  · intro hcascades
    have hreach (key : UInt32 × UInt64) (howned : store.Owned NnrpHandle.Names root key) :
        store.Owned Eq root key := by
      have hne : key ≠ root.slot := by
        intro hsame
        have hdeeper := howned.rank_lt hvalid
        rw [hsame] at hdeeper
        exact lt_irrefl _ hdeeper
      obtain ⟨entry, _, hentry, -⟩ := howned.owned_entry
      exact (h.gone_iff hentry hne).mp (hcascades.gone key howned)
    refine ⟨?_, ?_, ?_⟩
    · intro key entry owner hentry howner hnames
      rcases (hreach key (.direct hentry howner hnames)).owner hentry howner with
        hsame | ⟨via, middle, -, howned, hsame⟩
      · exact hsame
      · have hdeeper := howned.of_eq.rank_lt hvalid
        rw [hsame] at hnames
        exact absurd hdeeper (hnames.kind_eq ▸ lt_irrefl _)
    · intro key via entry middle owner hentry howner hmid howned hnames
      rcases (hreach key (.through hentry howner hmid howned hnames)).owner hentry howner with
        hsame | ⟨via', middle', hmid', -, hsame⟩
      · have hdeeper := howned.rank_lt hvalid
        rw [hsame] at hnames
        exact absurd hdeeper (hnames.kind_eq ▸ lt_irrefl _)
      · rw [NnrpHandle.names_iff] at hnames
        rw [NnrpHandle.eq_iff]
        exact ⟨hnames.1, hnames.2, by rw [hsame]; rfl⟩
    · intro pair hpair entry hentry hgen howned
      by_contra hunder
      refine hcascades.delivered pair ?_ ⟨(hvalid.delivered pair hpair).2, ?_, ?_⟩
      · exact (h.delivered pair).mpr ⟨hpair, fun heq => hunder heq.of_eq⟩
      · exact ⟨entry, hentry, hgen⟩
      · exact hcascades.gone _ howned
  · intro hexact
    -- An operation that is gone was followed to.
    have hlost (operation : NnrpHandle) (hlost : Lost store store' operation) :
        ∃ entry, store.entries[operation.slot]? = some entry ∧
          entry.generation = operation.generation ∧ store.Owned Eq root operation.slot := by
      obtain ⟨hkind, ⟨entry, hentry, hgen⟩, hnone⟩ := hlost
      have hne : operation.slot ≠ root.slot := by
        intro hsame
        rw [← hkind] at hroot
        exact hroot (congrArg Prod.fst hsame).symm
      exact ⟨entry, hentry, hgen, (h.gone_iff hentry hne).mp hnone⟩
    refine ⟨h.closed, fun key howned => h.swept key (hexact.reaches howned), ?_, ?_, ?_⟩
    · intro key hkept hne
      exact h.kept key (fun howned => hkept howned.of_eq) hne
    · intro pair hpair hgone
      obtain ⟨hold, hunder⟩ := (h.delivered pair).mp hpair
      obtain ⟨entry, hentry, hgen, howned⟩ := hlost pair.2 hgone
      rcases hexact.delivered pair hold entry hentry hgen howned.of_eq with
        hsame | ⟨via, middle, hmid, howned', hsame⟩
      · exact hunder (.inl hsame)
      · exact hunder (.inr ⟨via, middle, hmid, hexact.reaches howned', hsame⟩)
    · intro operation hop hgone
      obtain ⟨entry, hentry, hgen, howned⟩ := hlost operation hgone
      exact (h.replies operation hop).2 entry hentry hgen hgone.1 howned

theorem eraseAll_get (entries : BTreeMap (UInt32 × UInt64) (NnrpFfiResourceEntry δ))
    (handles : List NnrpHandle) (key : UInt32 × UInt64) : (eraseAll entries handles)[key]? =
      if key ∈ handles.map NnrpHandle.slot then none else entries[key]? := by
  induction handles generalizing entries with
  | nil => simp [eraseAll]
  | cons handle handles ih =>
    rw [eraseAll, foldl_cons, ← eraseAll, ih, get_erase, map_cons, ← ite_or]
    simp only [mem_cons, or_comm, eq_comm]

section
variable {owner : NnrpHandle} {owners : List NnrpHandle}

theorem kind_toU32_inj : Function.Injective NnrpHandleKind.toU32 := by
  intro a b h
  cases a <;> cases b <;> first | rfl | cases h

section
variable (hvalid : store.Valid) (hentry : store.entries[key]? = some entry)
include hvalid hentry

theorem Valid.kind_of (hkey : key.1 = kind.toU32) : entry.resource.kind = kind := by
  apply kind_toU32_inj
  rw [← hvalid.kind key entry hentry, hkey]

variable (howner : entry.resource.owner = some owner)
include howner

theorem Valid.owner_kind (hkind : ownerKinds entry.resource.kind = [kind]) :
    owner.kind = kind.toU32 := by
  obtain ⟨found, hfound, hsame⟩ := hvalid.owner key entry owner hentry howner
  rw [hkind, mem_singleton] at hfound
  rw [hsame, hfound]

theorem Owned.owner_below (h : store.Owned Eq root key) :
    owner = root ∨ ∃ via middle, store.entries[via]? = some middle ∧ store.Owned Eq root via ∧
      owner = handleOf via middle ∧
      (middle.resource.kind = .session ∨ middle.resource.kind = .operation) := by
  rcases h.owner hentry howner with hroot | ⟨via, middle, hmid, howned, hsame⟩
  · exact .inl hroot
  · refine .inr ⟨via, middle, hmid, howned, hsame, ?_⟩
    obtain ⟨kind, hkind, hvia⟩ := hvalid.owner key entry owner hentry howner
    have hkey : via.1 = kind.toU32 := by
      rw [← hvia, hsame]
      rfl
    have hdeeper := howned.of_eq.rank_lt hvalid
    rw [hvalid.kind_of hmid hkey]
    rw [hkey] at hdeeper
    have hall : ∀ child, ∀ parent ∈ ownerKinds child, 0 < rank parent.toU32 →
        parent = .session ∨ parent = .operation := by
      intro child
      cases child <;> decide
    exact hall _ kind hkind (by omega)

theorem Owned.owner_root (h : store.Owned Eq root key)
    (hkind : ownerKinds entry.resource.kind = [.connection]) : owner = root := by
  rcases h.owner_below hvalid hentry howner with hroot | ⟨via, middle, hmid, -, hsame, hcase⟩
  · exact hroot
  · have hconn := hvalid.owner_kind hentry howner hkind
    have hvia := hvalid.kind via middle hmid
    rw [hsame] at hconn
    have hclash : middle.resource.kind.toU32 = NnrpHandleKind.connection.toU32 :=
      hvia.symm.trans hconn
    rw [kind_toU32_inj hclash] at hcase
    rcases hcase with hcase | hcase
    · cases hcase
    · cases hcase

end

theorem kind_of_owner {res : NnrpFfiResource δ} (h : res.owner = some owner) :
    res.kind = .session ∨ res.kind = .serverAccept ∨ res.kind = .operation ∨
      ∃ data, res = .cacheLease owner data := by
  cases res with
  | session => exact .inl rfl
  | serverAccept => exact .inr (.inl rfl)
  | operation => exact .inr (.inr (.inl rfl))
  | cacheLease =>
    cases h
    exact .inr (.inr (.inr ⟨_, rfl⟩))
  | _ => cases h

theorem swept_get {handles : List NnrpHandle}
    {entries entries' : BTreeMap (UInt32 × UInt64) (NnrpFfiResourceEntry δ)}
    (hentries : entries' = (withoutLeases (eraseAll entries handles) owners).erase root.slot)
    (key : UInt32 × UInt64) :
    entries'[key]? = none ∧ (key = root.slot ∨ key ∈ handles.map NnrpHandle.slot ∨
        ∃ entry owner data, entries[key]? = some entry ∧
          entry.resource = .cacheLease owner data ∧ owner ∈ owners) ∨
      entries'[key]? = entries[key]? ∧ key ≠ root.slot ∧ key ∉ handles.map NnrpHandle.slot ∧
        ∀ entry owner data, entries[key]? = some entry →
          entry.resource = .cacheLease owner data → owner ∉ owners := by
  rw [hentries, get_erase, withoutLeases, Std.ExtTreeMap.getElem?_filter', eraseAll_get]
  by_cases hroot : root.slot = key
  · rw [if_pos hroot]
    exact .inl ⟨rfl, .inl hroot.symm⟩
  rw [if_neg hroot]
  by_cases hlisted : key ∈ handles.map NnrpHandle.slot
  · rw [if_pos hlisted]
    exact .inl ⟨rfl, .inr (.inl hlisted)⟩
  rw [if_neg hlisted]
  cases hentry : entries[key]? with
  | none => exact .inr ⟨rfl, Ne.symm hroot, hlisted, nofun⟩
  | some entry =>
    by_cases hlease : ∃ owner data, entry.resource = .cacheLease owner data ∧ owner ∈ owners
    · obtain ⟨owner, data, hrsrc, howner⟩ := hlease
      refine .inl ⟨?_, .inr (.inr ⟨entry, owner, data, rfl, hrsrc, howner⟩)⟩
      simp [hrsrc, howner]
    · refine .inr ⟨?_, Ne.symm hroot, hlisted, ?_⟩
      · cases hrsrc : entry.resource with
        | cacheLease owner data =>
          have howner : owner ∉ owners := fun howner => hlease ⟨owner, data, hrsrc, howner⟩
          simp [hrsrc, howner]
        | _ => simp [hrsrc]
      · intro entry' owner data hsame hrsrc howner
        cases hsame
        exact hlease ⟨owner, data, hrsrc, howner⟩

def SweptHandle (store : NnrpFfiHandleStore δ) (root : NnrpHandle) (kind : NnrpHandleKind)
    (handle : NnrpHandle) : Prop :=
  ∃ key entry, store.entries[key]? = some entry ∧ entry.resource.kind = kind ∧
    store.Owned Eq root key ∧ handle = handleOf key entry

structure Lists (store : NnrpFfiHandleStore δ) (root : NnrpHandle)
    (handles operations owners : List NnrpHandle) : Prop where
  handles : ∀ handle, handle ∈ handles ↔ store.SweptHandle root .session handle ∨
    store.SweptHandle root .serverAccept handle ∨ store.SweptHandle root .operation handle
  operations : ∀ handle, handle ∈ operations ↔ store.SweptHandle root .operation handle
  owners : ∀ handle, handle ∈ owners ↔ handle = root ∨ store.SweptHandle root .session handle ∨
    store.SweptHandle root .operation handle

theorem SweptHandle.owned (h : store.SweptHandle root kind handle) :
    store.Owned Eq root handle.slot := by
  obtain ⟨key, entry, -, -, howned, rfl⟩ := h
  exact howned

theorem Owned.of_swept (hentry : store.entries[key]? = some entry)
    (howner : entry.resource.owner = some owner) (h : store.SweptHandle root kind owner) :
    store.Owned Eq root key := by
  obtain ⟨via, middle, hmid, -, howned, hsame⟩ := h
  exact .through hentry howner hmid howned hsame

theorem Lists.sweeps {handles operations owners : List NnrpHandle} (hvalid : store.Valid)
    (h : store.Lists root handles operations owners) (hentries : store'.entries =
      (withoutLeases (eraseAll store.entries handles) owners).erase root.slot)
    (hdeliv : ∀ pair, pair ∈ store'.lifecycleDeliveredOperations ↔
      pair ∈ store.lifecycleDeliveredOperations ∧ ¬store.Under Eq root pair.1)
    (hreplies : store'.terminalOperationReplies =
      store.terminalOperationReplies.filter fun operation => operation ∉ operations) :
    store.Sweeps store' root := by
  refine ⟨?_, ?_, ?_, hdeliv, ?_⟩
  · rw [hentries, get_erase, if_pos rfl]
  · intro key howned
    obtain ⟨entry, owner, hentry, howner⟩ := howned.owned_entry
    rcases swept_get hentries key with hnone | ⟨-, -, hunlisted, hlease⟩
    · exact hnone.1
    · have hlisted (kind : NnrpHandleKind) (hkind : entry.resource.kind = kind) :
          store.SweptHandle root kind (handleOf key entry) :=
        ⟨key, entry, hentry, hkind, howned, rfl⟩
      have hmem : handleOf key entry ∉ handles := fun hmem =>
        hunlisted (mem_map_of_mem hmem)
      rw [h.handles] at hmem
      rcases kind_of_owner howner with hkind | hkind | hkind | ⟨data, hrsrc⟩
      · exact absurd (.inl (hlisted _ hkind)) hmem
      · exact absurd (.inr (.inl (hlisted _ hkind))) hmem
      · exact absurd (.inr (.inr (hlisted _ hkind))) hmem
      · refine absurd ((h.owners owner).mpr ?_) (hlease entry owner data hentry hrsrc)
        rcases howned.owner_below hvalid hentry howner with
          hroot | ⟨via, middle, hmid, hvia, hsame, hkind | hkind⟩
        · exact .inl hroot
        · exact .inr (.inl ⟨via, middle, hmid, hkind, hvia, hsame⟩)
        · exact .inr (.inr ⟨via, middle, hmid, hkind, hvia, hsame⟩)
  · intro key hunowned hne
    rcases swept_get hentries key with ⟨-, hroot | hlisted | hlease⟩ | hkept
    · exact absurd hroot hne
    · obtain ⟨handle, hhandle, rfl⟩ := mem_map.mp hlisted
      refine absurd ?_ hunowned
      rcases (h.handles handle).mp hhandle with hswept | hswept | hswept
      all_goals exact hswept.owned
    · obtain ⟨entry, owner, data, hentry, hrsrc, hmem⟩ := hlease
      have howner : entry.resource.owner = some owner := by
        rw [hrsrc]
        rfl
      refine absurd ?_ hunowned
      rcases (h.owners owner).mp hmem with hroot | hswept | hswept
      · exact .direct hentry howner hroot
      all_goals exact .of_swept hentry howner hswept
    · exact hkept.1
  · intro operation hop
    rw [hreplies, mem_filter, decide_eq_true_iff, h.operations] at hop
    refine ⟨hop.1, fun entry hentry hgen hkind howned => hop.2 ?_⟩
    refine ⟨operation.slot, entry, hentry, hvalid.kind_of hentry hkind, howned, ?_⟩
    rw [NnrpHandle.eq_iff, hvalid.replies operation hop.1]
    exact ⟨rfl, hgen.symm, rfl⟩

theorem eraseAll_append (entries : BTreeMap (UInt32 × UInt64) (NnrpFfiResourceEntry δ))
    (first second : List NnrpHandle) :
    eraseAll (eraseAll entries first) second = eraseAll entries (first ++ second) := by
  rw [eraseAll, eraseAll, eraseAll, foldl_append]

theorem closeConnection_entries (h : store.closeConnection root = .ok store') :
    store'.entries = (withoutLeases (eraseAll store.entries
      (store.operationsOf (store.sessionsOf root) ++ store.acceptsOf root ++ store.sessionsOf root))
      (root :: store.sessionsOf root ++ store.operationsOf (store.sessionsOf root))).erase
        root.slot := by
  obtain ⟨res, -, h⟩ := bind_eq_ok.mp h
  cases h
  dsimp only
  rw [eraseAll_append, eraseAll_append, append_assoc]

theorem mem_handlesWhere_iff {test : NnrpFfiResource δ → Bool} {P : NnrpHandle → Prop}
    (htest : ∀ res, test res = true ↔ res.kind = kind ∧ ∃ owner, res.owner = some owner ∧ P owner)
    (howned : ∀ {key entry owner}, store.entries[key]? = some entry →
      entry.resource.kind = kind → entry.resource.owner = some owner →
      (P owner ↔ store.Owned Eq root key)) :
    handle ∈ store.handlesWhere test ↔ store.SweptHandle root kind handle := by
  simp only [handlesWhere, mem_map, mem_filter, htest, Prod.exists,
    Std.ExtTreeMap.mem_toList_iff_getElem?_eq_some]
  constructor
  · intro h
    obtain ⟨kind, id, entry, ⟨hentry, hkind, owner, howner, hp⟩, rfl⟩ := h
    exact ⟨(kind, id), entry, hentry, hkind, (howned hentry hkind howner).mp hp, rfl⟩
  · intro h
    obtain ⟨⟨kind, id⟩, entry, hentry, hkind, hswept, rfl⟩ := h
    obtain ⟨entry', owner, hentry', howner⟩ := hswept.owned_entry
    cases hentry.symm.trans hentry'
    exact ⟨kind, id, entry,
      ⟨hentry, hkind, owner, howner, (howned hentry hkind howner).mpr hswept⟩, rfl⟩

theorem mem_operationsOf_iff {sessions : List NnrpHandle}
    (howned : ∀ {key entry owner}, store.entries[key]? = some entry →
      entry.resource.kind = .operation → entry.resource.owner = some owner →
      (owner ∈ sessions ↔ store.Owned Eq root key)) :
    handle ∈ store.operationsOf sessions ↔ store.SweptHandle root .operation handle := by
  refine mem_handlesWhere_iff (P := (· ∈ sessions)) (fun res => ?_) howned
  cases res <;> simp [NnrpFfiResource.kind, NnrpFfiResource.owner]

section
variable (hvalid : store.Valid) (hroot : root.kind = NnrpHandleKind.connection.toU32)
include hvalid

theorem Owned.iff_owner_root (hentry : store.entries[key]? = some entry)
    (howner : entry.resource.owner = some owner)
    (hkind : ownerKinds entry.resource.kind = [.connection]) :
    owner = root ↔ store.Owned Eq root key :=
  ⟨.direct hentry howner, fun h => h.owner_root hvalid hentry howner hkind⟩

theorem mem_sessionsOf_iff :
    handle ∈ store.sessionsOf root ↔ store.SweptHandle root .session handle := by
  refine mem_handlesWhere_iff (P := (· = root)) (fun res => ?_) fun hentry hkind howner => ?_
  · cases res <;> simp [NnrpFfiResource.kind, NnrpFfiResource.owner]
  · exact Owned.iff_owner_root hvalid hentry howner (by rw [hkind]; rfl)

theorem mem_acceptsOf_iff :
    handle ∈ store.acceptsOf root ↔ store.SweptHandle root .serverAccept handle := by
  refine mem_handlesWhere_iff (P := (· = root)) (fun res => ?_) fun hentry hkind howner => ?_
  · cases res <;> simp [NnrpFfiResource.kind, NnrpFfiResource.owner]
  · exact Owned.iff_owner_root hvalid hentry howner (by rw [hkind]; rfl)

theorem Under.iff_session (hsess : handle.kind = NnrpHandleKind.session.toU32) :
    store.Under Eq root handle ↔ handle = root ∨ store.SweptHandle root .session handle := by
  refine or_congr_right ⟨?_, ?_⟩
  · rintro ⟨via, middle, hmid, howned, hsame⟩
    refine ⟨via, middle, hmid, hvalid.kind_of hmid ?_, howned, hsame⟩
    rw [← hsess, hsame]
    rfl
  · rintro ⟨via, middle, hmid, -, howned, hsame⟩
    exact ⟨via, middle, hmid, howned, hsame⟩

theorem Owned.operation_owner (howned : store.Owned Eq root key)
    (hentry : store.entries[key]? = some entry) (hkind : entry.resource.kind = .operation)
    (howner : entry.resource.owner = some owner) : owner.kind = NnrpHandleKind.session.toU32 ∧
      (owner = root ∨ store.SweptHandle root .session owner) := by
  have hkinds : ownerKinds entry.resource.kind = [.session] := by rw [hkind]; rfl
  have hsess := hvalid.owner_kind hentry howner hkinds
  refine ⟨hsess, (Under.iff_session hvalid hsess).mp ?_⟩
  exact howned.owner hentry howner

include hroot

theorem mem_operationsOf_sessions : handle ∈ store.operationsOf (store.sessionsOf root) ↔
      store.SweptHandle root .operation handle := by
  refine mem_operationsOf_iff fun hentry hkind howner => ?_
  rw [mem_sessionsOf_iff hvalid]
  constructor
  · exact .of_swept hentry howner
  · intro howned
    obtain ⟨hsess, hself | hswept⟩ := howned.operation_owner hvalid hentry hkind howner
    · rw [hself, hroot] at hsess
      cases hsess
    · exact hswept

theorem closeConnection_sweeps (h : store.closeConnection root = .ok store') :
    store.Sweeps store' root := by
  have hentries := closeConnection_entries h
  obtain ⟨res, -, h⟩ := bind_eq_ok.mp h
  cases h
  have hlists : store.Lists root
      (store.operationsOf (store.sessionsOf root) ++ store.acceptsOf root ++ store.sessionsOf root)
      (store.operationsOf (store.sessionsOf root))
      (root :: store.sessionsOf root ++ store.operationsOf (store.sessionsOf root)) := by
    refine ⟨?_, fun handle => mem_operationsOf_sessions hvalid hroot, ?_⟩
    · intro handle
      rw [mem_append, mem_append, mem_operationsOf_sessions hvalid hroot,
        mem_acceptsOf_iff hvalid, mem_sessionsOf_iff hvalid]
      tauto
    · intro handle
      rw [cons_append, mem_cons, mem_append, mem_operationsOf_sessions hvalid hroot,
        mem_sessionsOf_iff hvalid]
  refine hlists.sweeps hvalid hentries ?_ rfl
  intro pair
  dsimp only
  rw [mem_filter, decide_eq_true_iff]
  refine and_congr_right fun hpair => not_congr ?_
  have hsess := (hvalid.delivered pair hpair).1
  rw [mem_sessionsOf_iff hvalid, Under.iff_session hvalid hsess]
  refine (or_iff_right fun hself => ?_).symm
  rw [hself, hroot] at hsess
  cases hsess

end

variable (hvalid : store.Valid) (hroot : root.kind = NnrpHandleKind.session.toU32)
include hvalid hroot

theorem SweptHandle.deeper (h : store.SweptHandle root kind handle) : 1 < rank kind.toU32 := by
  obtain ⟨key, entry, hentry, hkind, howned, -⟩ := h
  have hdeeper := howned.of_eq.rank_lt hvalid
  rw [hroot, hvalid.kind key entry hentry, hkind] at hdeeper
  exact hdeeper

theorem mem_operationsOf_session :
    handle ∈ store.operationsOf [root] ↔ store.SweptHandle root .operation handle := by
  refine mem_operationsOf_iff fun hentry hkind howner => ?_
  rw [mem_singleton]
  constructor
  · exact .direct hentry howner
  · intro howned
    obtain ⟨-, hself | hswept⟩ := howned.operation_owner hvalid hentry hkind howner
    · exact hself
    · exact absurd (hswept.deeper hvalid hroot) (by decide)

theorem closeSession_sweeps (h : store.closeSession root = .ok store') :
    store.Sweeps store' root := by
  obtain ⟨res, -, h⟩ := bind_eq_ok.mp h
  cases h
  have hsess (handle : NnrpHandle) : ¬store.SweptHandle root .session handle :=
    fun hswept => absurd (hswept.deeper hvalid hroot) (by decide)
  have haccept (handle : NnrpHandle) : ¬store.SweptHandle root .serverAccept handle :=
    fun hswept => absurd (hswept.deeper hvalid hroot) (by decide)
  have hlists : store.Lists root (store.operationsOf [root]) (store.operationsOf [root])
      (root :: store.operationsOf [root]) := by
    refine ⟨?_, fun handle => mem_operationsOf_session hvalid hroot, ?_⟩
    · intro handle
      rw [mem_operationsOf_session hvalid hroot]
      simp [hsess, haccept]
    · intro handle
      rw [mem_cons, mem_operationsOf_session hvalid hroot]
      simp [hsess]
  refine hlists.sweeps hvalid rfl ?_ rfl
  intro pair
  dsimp only
  rw [mem_filter, decide_eq_true_iff]
  refine and_congr_right fun hpair => not_congr ?_
  rw [Under.iff_session hvalid (hvalid.delivered pair hpair).1]
  exact (or_iff_left (hsess pair.1)).symm

end

theorem Valid.of_subset (h : store.Valid)
    (hentries : ∀ (key : UInt32 × UInt64) entry, store'.entries[key]? = some entry →
      store.entries[key]? = some entry) (hdeliv : ∀ pair ∈ store'.lifecycleDeliveredOperations,
      pair ∈ store.lifecycleDeliveredOperations)
    (hreplies : ∀ operation ∈ store'.terminalOperationReplies,
      operation ∈ store.terminalOperationReplies) : store'.Valid where
  kind key entry hentry := h.kind key entry (hentries key entry hentry)
  owner key entry owner hentry := h.owner key entry owner (hentries key entry hentry)
  delivered pair hpair := h.delivered pair (hdeliv pair hpair)
  replies operation hop := h.replies operation (hreplies operation hop)

theorem Sweeps.valid (h : store.Sweeps store' root) (hvalid : store.Valid) : store'.Valid := by
  refine hvalid.of_subset ?_ (fun pair hpair => ((h.delivered pair).mp hpair).1)
    (fun operation hop => (h.replies operation hop).1)
  intro key entry hentry
  by_cases howned : store.Owned Eq root key
  · rw [h.swept key howned] at hentry
    cases hentry
  · by_cases hroot : key = root.slot
    · rw [hroot, h.closed] at hentry
      cases hentry
    · rw [← h.kept key howned hroot]
      exact hentry

theorem Valid.erase (h : store.Valid) (slot : UInt32 × UInt64) :
    { store with entries := store.entries.erase slot }.Valid := by
  refine h.of_subset ?_ (fun _ hpair => hpair) (fun _ hop => hop)
  intro key entry hentry
  dsimp only at hentry
  rw [get_erase] at hentry
  split_ifs at hentry
  exact hentry

theorem Valid.insert (h : store.Valid) {slot : UInt32 × UInt64}
    (hkind : slot.1 = entry.resource.kind.toU32)
    (howner : ∀ owner, entry.resource.owner = some owner →
      ∃ kind ∈ ownerKinds entry.resource.kind, owner.kind = kind.toU32) :
    { store with entries := store.entries.insert slot entry }.Valid := by
  refine ⟨?_, ?_, h.delivered, h.replies⟩
  · intro key found hfound
    dsimp only at hfound
    rw [get_insert] at hfound
    split_ifs at hfound with hsame
    · cases hfound
      rw [← hsame]
      exact hkind
    · exact h.kind key found hfound
  · intro key found owner hfound hsome
    dsimp only at hfound
    rw [get_insert] at hfound
    split_ifs at hfound with hsame
    · cases hfound
      exact howner owner hsome
    · exact h.owner key found owner hfound hsome

theorem Valid.remove (h : store.Valid) (hremove : store.remove handle kind = .ok store') :
    store'.Valid := by
  obtain ⟨res, -, hremove⟩ := bind_eq_ok.mp hremove
  dsimp only at hremove
  split_ifs at hremove
  · cases hremove
    exact (h.erase _).of_subset (fun _ _ hentry => hentry) (fun _ hpair => (mem_filter.mp hpair).1)
      (fun _ hop => (mem_filter.mp hop).1)
  · cases hremove
    exact h.erase _

theorem Valid.setData (h : store.Valid)
    (hget : store.get handle kind = .ok res) (data : δ) : { store with
      entries := store.entries.insert handle.slot
        ⟨handle.generation, res.setData data⟩ }.Valid := by
  obtain ⟨-, hentry⟩ := get_ok hget
  have hkind : (res.setData data).kind = res.kind := by cases res <;> rfl
  have howner : (res.setData data).owner = res.owner := by cases res <;> rfl
  apply h.insert
  · rw [hkind]
    exact h.kind _ _ hentry
  · intro owner hsome
    rw [hkind]
    rw [howner] at hsome
    exact h.owner _ _ owner hentry hsome

variable {session : NnrpHandle}

theorem Valid.mark (h : store.Valid) (hsess : session.kind = NnrpHandleKind.session.toU32)
    (hop : operation.kind = NnrpHandleKind.operation.toU32) :
    (store.markOperationLifecycleDelivered session operation).Valid := by
  rw [markOperationLifecycleDelivered]
  split_ifs
  · exact h
  · refine ⟨h.kind, h.owner, ?_, h.replies⟩
    exact forall_mem_append.mpr ⟨h.delivered, forall_mem_singleton.mpr ⟨hsess, hop⟩⟩

theorem Valid.recordReply (h : store.Valid)
    (hrec : store.recordTerminalOperationReply session operation = .ok store') : store'.Valid := by
  obtain ⟨res, -, hrec⟩ := bind_eq_ok.mp hrec
  split_ifs at hrec
  · exact h.remove hrec
  · cases hrec
    exact h
  · cases hrec
    refine ⟨h.kind, h.owner, h.delivered, ?_⟩
    exact forall_mem_append.mpr ⟨h.replies, forall_mem_singleton.mpr rfl⟩

theorem serverOperation_kind (h : store.serverOperation operation) :
    operation.kind = NnrpHandleKind.operation.toU32 := by
  by_contra hkind
  rw [serverOperation, if_neg hkind] at h
  cases h

theorem Valid.settleLifecycle (h : store.Valid) {scope found : NnrpHandle}
    (hscope : scope.kind = NnrpHandleKind.session.toU32)
    (hsettle : store.settleLifecycle scope operation = .ok (store', found)) : store'.Valid := by
  rw [NnrpFfiHandleStore.settleLifecycle] at hsettle
  split_ifs at hsettle with hretired hserver
  · obtain ⟨removed, hremove, hsettle⟩ := bind_eq_ok.mp hsettle
    cases hsettle
    exact h.remove hremove
  · cases hsettle
    exact h.mark hscope (serverOperation_kind hserver)
  · cases hsettle
    exact h

theorem Valid.deliverLifecycle (h : store.Valid) {scope : NnrpHandle} {id : UInt64}
    (hdeliver : store.deliverLifecycle scope id = .ok (store', operation)) : store'.Valid := by
  obtain ⟨res, hget, hdeliver⟩ := bind_eq_ok.mp hdeliver
  have hscope := (get_ok hget).1
  cases res with
  | session =>
    dsimp only at hdeliver
    split at hdeliver
    all_goals exact h.settleLifecycle hscope hdeliver
  | _ => cases hdeliver

theorem Valid.step (h : store.Valid) (change : StoreChange δ)
    (hstep : change.apply store = .ok store') : store'.Valid := by
  cases change with
  | insert id gen res =>
    rw [StoreChange.apply] at hstep
    split_ifs at hstep with howner
    obtain ⟨_, -, hstep⟩ := bind_eq_ok.mp hstep
    obtain ⟨-, hstep⟩ := of_refused_eq_ok rfl hstep
    cases hstep
    refine h.insert rfl ?_
    intro owner hsome
    obtain ⟨kind, hkind, hvalid⟩ := howner owner hsome
    exact ⟨kind, hkind, validateKind_ok hvalid⟩
  | setData handle kind data =>
    obtain ⟨res, hget, hstep⟩ := bind_eq_ok.mp hstep
    cases hstep
    exact h.setData hget data
  | remove handle kind => exact h.remove hstep
  | releaseAccept accept =>
    rw [StoreChange.apply, releaseAccept] at hstep
    split at hstep
    · cases hstep
    · split_ifs at hstep
      cases hstep
      exact h.erase _
  | deliverLifecycle scope opId =>
    obtain ⟨delivered, hdeliver, hstep⟩ := bind_eq_ok.mp hstep
    cases hstep
    exact h.deliverLifecycle hdeliver
  | recordReply session operation => exact h.recordReply hstep
  | closeConnection conn =>
    obtain ⟨res, hget, -⟩ := bind_eq_ok.mp hstep
    exact (closeConnection_sweeps h (get_ok hget).1 hstep).valid h
  | closeSession session =>
    obtain ⟨res, hget, -⟩ := bind_eq_ok.mp hstep
    exact (closeSession_sweeps h (get_ok hget).1 hstep).valid h
  | invalidateAll =>
    cases hstep
    exact h.of_subset (fun key entry hentry => by simp [invalidateAll] at hentry) nofun nofun

theorem Reachable.valid (h : store.Reachable) : store.Valid := by
  induction h with
  | new => exact ⟨by simp, by simp, nofun, nofun⟩
  | step _ change hstep ih => exact ih.step change hstep

theorem Exact.of_plain (hroot : root.flags = 0)
    (howners : ∀ (key : UInt32 × UInt64) entry owner, store.entries[key]? = some entry →
      entry.resource.owner = some owner → owner.flags = 0)
    (hdeliv : ∀ pair ∈ store.lifecycleDeliveredOperations, ∀ entry,
      store.entries[pair.2.slot]? = some entry → entry.resource.owner = some pair.1) :
    store.Exact root := by
  have hexact (a b : NnrpHandle) (ha : a.flags = 0) (hb : b.flags = 0) (hnames : a.Names b) :
      a = b := by
    rw [NnrpHandle.names_iff] at hnames
    rw [NnrpHandle.eq_iff]
    exact ⟨hnames.1, hnames.2, ha.trans hb.symm⟩
  refine ⟨?_, ?_, ?_⟩
  · intro key entry owner hentry howner hnames
    exact hexact _ _ (howners key entry owner hentry howner) hroot hnames
  · intro key via entry middle owner hentry howner hmid howned hnames
    exact hexact _ _ (howners key entry owner hentry howner) rfl hnames
  · intro pair hpair entry hentry hgen howned
    have howner := hdeliv pair hpair entry hentry
    have hplain := howners _ entry pair.1 hentry howner
    rcases howned.owner hentry howner with hnames | ⟨via, middle, hmid, howned, hnames⟩
    · exact .inl (hexact _ _ hplain hroot hnames)
    · exact .inr ⟨via, middle, hmid, howned, hexact _ _ hplain rfl hnames⟩

theorem close_cascades_iff (h : store.Reachable) :
    (∀ connection store', store.closeConnection connection = .ok store' →
      (store.Cascades store' connection ↔ store.Exact connection)) ∧
    ∀ session store', store.closeSession session = .ok store' →
      (store.Cascades store' session ↔ store.Exact session) := by
  have hvalid := h.valid
  constructor
  · intro connection store' hclose
    obtain ⟨res, hget, -⟩ := bind_eq_ok.mp hclose
    have hkind := (get_ok hget).1
    refine (closeConnection_sweeps hvalid hkind hclose).cascades_iff hvalid ?_
    rw [hkind]
    decide
  · intro session store' hclose
    obtain ⟨res, hget, -⟩ := bind_eq_ok.mp hclose
    have hkind := (get_ok hget).1
    refine (closeSession_sweeps hvalid hkind hclose).cascades_iff hvalid ?_
    rw [hkind]
    decide

def opened (flags : UInt32) : NnrpFfiHandleStore Unit where
  entries := (Std.ExtTreeMap.insert ∅ (1, 1) ⟨1, .connection .client ()⟩).insert (2, 1)
    ⟨1, .session ⟨1, 1, 1, flags⟩ 7 ()⟩

theorem opened_reachable (flags : UInt32) : (opened flags).Reachable := by
  have hconn := Reachable.new.step (δ := Unit) (.insert 1 1 (.connection .client ())) rfl
  exact hconn.step (.insert 1 1 (.session ⟨1, 1, 1, flags⟩ 7 ())) rfl

theorem plain_close_cascades : ∃ store', (opened 0).closeConnection ⟨1, 1, 1, 0⟩ = .ok store' ∧
    (opened 0).Cascades store' ⟨1, 1, 1, 0⟩ := by
  refine ⟨_, rfl, ((close_cascades_iff (opened_reachable 0)).1 _ _ rfl).mpr
    (.of_plain rfl ?_ nofun)⟩
  intro key entry owner hentry howner
  rw [opened] at hentry
  dsimp only at hentry
  rw [get_insert, get_insert] at hentry
  split_ifs at hentry
  · cases hentry
    cases howner
    rfl
  · cases hentry
    cases howner
  · simp at hentry

/-- The session was opened with other flags than its connection is closed with, and stays. -/
theorem flagged_session_survives : ∃ store', (opened 1).Reachable ∧
    (opened 1).closeConnection ⟨1, 1, 1, 0⟩ = .ok store' ∧
    (opened 1).Owned NnrpHandle.Names ⟨1, 1, 1, 0⟩ (2, 1) ∧ (2, 1) ∈ store'.entries ∧
    ¬(opened 1).Cascades store' ⟨1, 1, 1, 0⟩ := by
  have hsess : (opened 1).entries[((2 : UInt32), (1 : UInt64))]? =
      some ⟨1, .session ⟨1, 1, 1, 1⟩ 7 ()⟩ := rfl
  have howned : (opened 1).Owned NnrpHandle.Names ⟨1, 1, 1, 0⟩ (2, 1) := .direct hsess rfl rfl
  refine ⟨_, opened_reachable 1, rfl, howned, ?stays, fun hcascades => ?_⟩
  case stays => decide +kernel
  exact get_eq_none.mp (hcascades.gone (2, 1) howned) (by decide +kernel)

end NnrpFfiHandleStore

end Nnrp.Ffi
