import Nnrp.FfiHandle
import Nnrp.LabelledRun
import Nnrp.Packet

/-!
# The transport store of the foreign interface

Connections, listeners and security configurations live in slots. A slot that is closed is used
again under the next generation, until its generations are exhausted. Ids of new slots come from a
counter of the process that wraps around.

`issues` records every handle that was handed out, with what it was handed out for and whether it
is still in use. It is what the store is for: a handle resolves to the resource of its issue while
the issue is live, and to nothing afterwards. This holds exactly as long as the counter does not
come back to the id of a slot, which takes `2 ^ 64` slots at once.
-/

namespace Nnrp.Ffi
open OrderedMap Packet LabelledRun List Std.ExtTreeMap

/-- The flags of the handles, from the address of a static of the library. -/
def transportInstanceCookie (address : UInt64) : UInt32 :=
  let mixed := address ^^^ (address <<< 17 ||| address >>> 47) ^^^ 0x4e4e525054524e53
  max (mixed ^^^ (mixed >>> 32)).toUInt32 1

structure TransportSlot (ρ : Type) where
  generation : UInt32
  resource : Option ρ
  invalidated : Bool

structure TransportStore (ρ : Type) where
  slots : BTreeMap (UInt32 × UInt64) (TransportSlot ρ) := ∅
  reusable : BTreeMap UInt32 (List UInt64) := ∅

def transportHandle (address : UInt64) (kind : NnrpHandleKind) (id : UInt64)
    (generation : UInt32) : NnrpHandle :=
  { NnrpHandle.new kind id generation with flags := transportInstanceCookie address }

def idsOf (reusable : BTreeMap UInt32 (List UInt64)) (kind : UInt32) : List UInt64 :=
  reusable[kind]?.getD []

def pushReusable (reusable : BTreeMap UInt32 (List UInt64)) (kind : UInt32) (id : UInt64) :
    BTreeMap UInt32 (List UInt64) :=
  reusable.insert kind (idsOf reusable kind ++ [id])

def TransportSlot.released {ρ : Type} (slot : TransportSlot ρ) : Bool :=
  slot.resource.isSome ∧ slot.generation < 0xffffffff

namespace TransportStore

variable {ρ : Type} (address : UInt64) (store : TransportStore ρ)

/-- The end of an insert into a slot that is used again; `none` where the source panics. -/
def reuse (kind : NnrpHandleKind) (resource : ρ) (id : UInt64) (rest : List UInt64) :
    Option (TransportStore ρ × NnrpHandle) :=
  match store.slots[(kind.toU32, id)]? with
  | none => none
  | some slot =>
    match checkedAddU32 slot.generation 1 with
    | none => none
    | some generation =>
      some ({ slots := store.slots.insert (kind.toU32, id) ⟨generation, some resource, false⟩
              reusable := store.reusable.insert kind.toU32 rest },
        transportHandle address kind id generation)

def insert (nextTransportHandle : UInt64) (kind : NnrpHandleKind) (resource : ρ) :
    Option (TransportStore ρ × UInt64 × NnrpHandle) :=
  match (idsOf store.reusable kind.toU32).getLast? with
  | some id =>
    (store.reuse address kind resource id (idsOf store.reusable kind.toU32).dropLast).map
      fun reused => (reused.1, nextTransportHandle, reused.2)
  | none =>
    let handle := transportHandle address kind nextTransportHandle 1
    some ({ store with
      slots :=
        store.slots.insert (handle.kind, handle.id) ⟨handle.generation, some resource, false⟩ },
      nextTransportHandle + 1, handle)

def get (handle : NnrpHandle) : Option ρ :=
  if handle.flags ≠ transportInstanceCookie address then none
  else
    match store.slots[(handle.kind, handle.id)]? with
    | none => none
    | some slot => if slot.generation ≠ handle.generation then none else slot.resource

def close (handle : NnrpHandle) : TransportStore ρ × Except NnrpFfiStatus (Option ρ) :=
  if handle.flags ≠ transportInstanceCookie address then
    (store, .error (.invalidHandle handle.kind))
  else
    match store.slots[(handle.kind, handle.id)]? with
    | none => (store, .error (.invalidHandle handle.kind))
    | some slot =>
      if handle.generation ≠ slot.generation then (store, .error (.invalidHandle handle.kind))
      else if slot.invalidated then (store, .error (.invalidHandle handle.kind))
      else
        ({ slots := store.slots.insert (handle.kind, handle.id) { slot with resource := none }
           reusable :=
             if slot.released then pushReusable store.reusable handle.kind handle.id
             else store.reusable }, .ok slot.resource)

def invalidateAll : TransportStore ρ where
  slots := store.slots.map fun _ slot => { slot with resource := none, invalidated := true }
  reusable := store.slots.toList.foldl (fun reusable entry =>
    if entry.2.released then pushReusable reusable entry.1.1 entry.1.2 else reusable) store.reusable

end TransportStore

inductive Standing
  | live | closed | invalidated
  deriving DecidableEq

structure Issue (ρ : Type) where
  handle : NnrpHandle
  resource : ρ
  standing : Standing

namespace Issue

variable {ρ : Type} (issue : Issue ρ)

def close (handle : NnrpHandle) : Issue ρ :=
  if issue.handle = handle ∧ issue.standing = .live then { issue with standing := .closed }
  else issue

def invalidate : Issue ρ := { issue with standing := .invalidated }

end Issue

structure TransportHandles (ρ : Type) where
  store : TransportStore ρ := {}
  nextTransportHandle : UInt64 := 1
  issues : List (Issue ρ) := []

inductive StoreCall (ρ : Type)
  | insert (kind : NnrpHandleKind) (resource : ρ)
  | close (handle : NnrpHandle)
  | invalidateAll

section
variable {ρ : Type} (address : UInt64)

def storeStep (w : TransportHandles ρ) : StoreCall ρ → Option (TransportHandles ρ)
  | .insert kind resource =>
    (w.store.insert address w.nextTransportHandle kind resource).map fun (store, next, handle) =>
      ⟨store, next, w.issues ++ [⟨handle, resource, .live⟩]⟩
  | .close handle =>
    some { w with
      store := (w.store.close address handle).1
      issues := w.issues.map (·.close handle) }
  | .invalidateAll =>
    some { w with
      store := w.store.invalidateAll
      issues := w.issues.map (·.invalidate) }

/-- A handle resolves to what it was handed out for, and only while it is live; what can be reused
is empty and not exhausted; and a handle can be closed again until its slot is reused or it is
invalidated. -/
structure TransportHandles.Sound (w : TransportHandles ρ) : Prop where
  distinct : (w.issues.map (·.handle)).Nodup
  resolves : ∀ handle resource, w.store.get address handle = some resource ↔
    ∃ issue ∈ w.issues, issue.handle = handle ∧ issue.resource = resource ∧ issue.standing = .live
  once : ∀ kind, (idsOf w.store.reusable kind).Nodup
  empty : ∀ kind, ∀ id ∈ idsOf w.store.reusable kind, ∃ slot,
    w.store.slots[(kind, id)]? = some slot ∧ slot.resource = none ∧ slot.generation < 0xffffffff
  inserts : ∀ kind resource, ∃ inserted,
    w.store.insert address w.nextTransportHandle kind resource = some inserted
  closes : ∀ before issue after, w.issues = before ++ issue :: after → issue.standing = .closed →
    (∀ later ∈ after, later.handle.slot ≠ issue.handle.slot) →
    w.store.close address issue.handle = (w.store, .ok none)

/-- An insert that opens a new slot gets an id that no slot of its kind has. -/
def TransportHandles.Fresh (w : TransportHandles ρ) : StoreCall ρ → Prop
  | .insert kind _ => idsOf w.store.reusable kind.toU32 = [] →
    (kind.toU32, w.nextTransportHandle) ∉ w.store.slots
  | .close _ | .invalidateAll => True

instance (w : TransportHandles ρ) : ∀ c, Decidable (w.Fresh c)
  | .insert _ _ => inferInstanceAs (Decidable (_ → _))
  | .close _ | .invalidateAll => .isTrue trivial

end

section
variable {ρ : Type} {address : UInt64} {w : TransportHandles ρ} {store : TransportStore ρ}
  {handle : NnrpHandle} {resource : ρ} {slot : TransportSlot ρ} {issue : Issue ρ}

structure TransportSlot.Shows (slot : TransportSlot ρ) (issue : Issue ρ) : Prop where
  generation : issue.handle.generation = slot.generation
  resource : slot.resource = if issue.standing = .live then some issue.resource else none
  invalidated : slot.invalidated = true ↔ issue.standing = .invalidated

structure TransportSlot.Outlives (slot : TransportSlot ρ) (issue : Issue ρ) : Prop where
  generation : issue.handle.generation < slot.generation
  standing : issue.standing ≠ .live

structure TransportStore.Reusable (store : TransportStore ρ) : Prop where
  once : ∀ kind, (idsOf store.reusable kind).Nodup
  empty : ∀ kind, ∀ id ∈ idsOf store.reusable kind, ∃ slot,
    store.slots[(kind, id)]? = some slot ∧ slot.resource = none ∧ slot.generation < 0xffffffff

structure TransportHandles.Recorded (address : UInt64) (w : TransportHandles ρ) : Prop where
  flags : ∀ issue ∈ w.issues, issue.handle.flags = transportInstanceCookie address
  ordered : w.issues.Pairwise fun a b => a.handle.slot = b.handle.slot →
    a.handle.generation < b.handle.generation
  slot : ∀ issue ∈ w.issues, ∃ slot, w.store.slots[issue.handle.slot]? = some slot ∧
    (slot.Outlives issue ∨ slot.Shows issue)
  current : ∀ key slot, w.store.slots[key]? = some slot →
    ∃ issue ∈ w.issues, issue.handle.slot = key ∧ slot.Shows issue
  first : ∀ key ∈ w.store.slots, ∃ issue ∈ w.issues, issue.handle.slot = key ∧
    issue.handle.generation = 1
  reusable : w.store.Reusable

theorem idsOf_insert {reusable : BTreeMap UInt32 (List UInt64)} {a kind : UInt32}
    {ids : List UInt64} :
    idsOf (reusable.insert a ids) kind = if a = kind then ids else idsOf reusable kind := by
  rw [idsOf, get_insert]
  split_ifs
  · rfl
  · rfl

theorem get_eq_some_iff :
    store.get address handle = some resource ↔ handle.flags = transportInstanceCookie address ∧
      ∃ slot, store.slots[handle.slot]? = some slot ∧ slot.generation = handle.generation ∧
        slot.resource = some resource := by
  rw [TransportStore.get, NnrpHandle.slot]
  by_cases hflags : handle.flags = transportInstanceCookie address
  · rw [if_neg (not_not.mpr hflags)]
    cases store.slots[(handle.kind, handle.id)]? with
    | none => simp
    | some slot =>
      by_cases hgen : slot.generation = handle.generation
      · simp [hflags, hgen]
      · simp [hgen]
  · simp [hflags]

theorem TransportSlot.Shows.live (h : slot.Shows issue) :
    slot.resource = some resource ↔ issue.resource = resource ∧ issue.standing = .live := by
  rw [h.resource]
  by_cases hlive : issue.standing = .live
  · simp [hlive]
  · simp [hlive]

theorem TransportHandles.Recorded.resolves (h : w.Recorded address) (handle : NnrpHandle)
    (resource : ρ) : w.store.get address handle = some resource ↔
      ∃ issue ∈ w.issues, issue.handle = handle ∧ issue.resource = resource ∧
        issue.standing = .live := by
  rw [get_eq_some_iff]
  constructor
  · intro hget
    obtain ⟨hflags, slot, hslot, hgen, hrsrc⟩ := hget
    obtain ⟨issue, hissue, hkey, hshows⟩ := h.current _ slot hslot
    refine ⟨issue, hissue, ?_, hshows.live.mp hrsrc⟩
    rw [NnrpHandle.eq_iff, hkey, hshows.generation, hgen, h.flags issue hissue, hflags]
    exact ⟨rfl, rfl, rfl⟩
  · intro hlive
    obtain ⟨issue, hissue, rfl, hrsrc, hstanding⟩ := hlive
    obtain ⟨slot, hslot, houtlives | hshows⟩ := h.slot issue hissue
    · exact absurd hstanding houtlives.standing
    · refine ⟨h.flags issue hissue, slot, hslot, hshows.generation.symm, ?_⟩
      exact hshows.live.mpr ⟨hrsrc, hstanding⟩

theorem TransportHandles.Recorded.distinct (h : w.Recorded address) :
    (w.issues.map (·.handle)).Nodup := by
  rw [List.Nodup, pairwise_map]
  refine h.ordered.imp fun hord hsame => ?_
  have hlater := hord (congrArg NnrpHandle.slot hsame)
  rw [hsame] at hlater
  exact UInt32.lt_irrefl _ hlater

variable {before after : List (Issue ρ)}

theorem TransportHandles.Recorded.shows_last (h : w.Recorded address)
    (hissues : w.issues = before ++ issue :: after)
    (hlast : ∀ later ∈ after, later.handle.slot ≠ issue.handle.slot) :
    ∃ slot, w.store.slots[issue.handle.slot]? = some slot ∧ slot.Shows issue := by
  have hmem : issue ∈ w.issues := by simp [hissues]
  obtain ⟨slot, hslot, houtlives | hshows⟩ := h.slot issue hmem
  · exfalso
    obtain ⟨current, hcur, hkey, hshows⟩ := h.current _ slot hslot
    have hless := houtlives.generation
    rw [← hshows.generation] at hless
    have hord := h.ordered
    rw [hissues, pairwise_append] at hord
    rw [hissues, mem_append, mem_cons] at hcur
    rcases hcur with hbefore | rfl | hafter
    · have hearlier := hord.2.2 current hbefore issue mem_cons_self hkey
      exact UInt32.lt_asymm hless hearlier
    · exact UInt32.lt_irrefl _ hless
    · exact hlast current hafter hkey
  · exact ⟨slot, hslot, hshows⟩

structure TransportStore.Closes (address : UInt64) (store : TransportStore ρ) (handle : NnrpHandle)
    (slot : TransportSlot ρ) : Prop where
  flags : handle.flags = transportInstanceCookie address
  held : store.slots[handle.slot]? = some slot
  generation : handle.generation = slot.generation
  valid : slot.invalidated = false

def TransportStore.emptied (store : TransportStore ρ) (handle : NnrpHandle)
    (slot : TransportSlot ρ) : TransportStore ρ where
  slots := store.slots.insert handle.slot { slot with resource := none }
  reusable :=
    if slot.released then pushReusable store.reusable handle.kind handle.id else store.reusable

theorem TransportStore.Closes.close (h : store.Closes address handle slot) :
    store.close address handle = (store.emptied handle slot, .ok slot.resource) := by
  have hslot : store.slots[(handle.kind, handle.id)]? = some slot := h.held
  have hvalid : ¬slot.invalidated = true := by simp [h.valid]
  rw [TransportStore.close, if_neg (not_not.mpr h.flags), hslot]
  dsimp only
  rw [if_neg (not_not.mpr h.generation), if_neg hvalid]
  rfl

theorem TransportHandles.Recorded.closes (h : w.Recorded address)
    (hissues : w.issues = before ++ issue :: after) (hclosed : issue.standing = .closed)
    (hlast : ∀ later ∈ after, later.handle.slot ≠ issue.handle.slot) :
    w.store.close address issue.handle = (w.store, .ok none) := by
  obtain ⟨slot, hslot, hshows⟩ := h.shows_last hissues hlast
  have hempty : slot.resource = none := by
    rw [hshows.resource, hclosed]
    rfl
  have hvalid : slot.invalidated = false := by
    apply Bool.eq_false_of_not_eq_true
    rw [hshows.invalidated, hclosed]
    nofun
  have hcloses : w.store.Closes address issue.handle slot :=
    ⟨h.flags issue (by simp [hissues]), hslot, hshows.generation, hvalid⟩
  have hrel : slot.released = false := by simp [TransportSlot.released, hempty]
  have hsame : ({ slot with resource := none } : TransportSlot ρ) = slot := by rw [← hempty]
  rw [hcloses.close, TransportStore.emptied, hrel, hsame, insert_self hslot, hempty]
  rfl

inductive Inserted (address : UInt64) (w : TransportHandles ρ) (kind : NnrpHandleKind)
    (resource : ρ) : TransportStore ρ × UInt64 × NnrpHandle → Prop
  | reused {id : UInt64} {rest : List UInt64} {slot : TransportSlot ρ}
      (hids : idsOf w.store.reusable kind.toU32 = rest ++ [id])
      (hslot : w.store.slots[(kind.toU32, id)]? = some slot) (hempty : slot.resource = none)
      (hless : slot.generation < 0xffffffff) :
      Inserted address w kind resource
        (⟨w.store.slots.insert (kind.toU32, id) ⟨slot.generation + 1, some resource, false⟩,
          w.store.reusable.insert kind.toU32 rest⟩, w.nextTransportHandle,
          transportHandle address kind id (slot.generation + 1))
  | opened (hids : idsOf w.store.reusable kind.toU32 = []) :
      Inserted address w kind resource
        (⟨w.store.slots.insert (kind.toU32, w.nextTransportHandle) ⟨1, some resource, false⟩,
          w.store.reusable⟩, w.nextTransportHandle + 1,
          transportHandle address kind w.nextTransportHandle 1)

theorem insert_inserted (h : w.store.Reusable) (kind : NnrpHandleKind) (resource : ρ) :
    ∃ inserted, w.store.insert address w.nextTransportHandle kind resource = some inserted ∧
      Inserted address w kind resource inserted := by
  rw [TransportStore.insert]
  cases hlast : (idsOf w.store.reusable kind.toU32).getLast? with
  | none => exact ⟨_, rfl, .opened (getLast?_eq_none_iff.mp hlast)⟩
  | some id =>
    obtain ⟨rest, hids⟩ := getLast?_eq_some_iff.mp hlast
    have hmem : id ∈ idsOf w.store.reusable kind.toU32 := by simp [hids]
    obtain ⟨slot, hslot, hempty, hless⟩ := h.empty kind.toU32 id hmem
    have hadd : checkedAddU32 slot.generation 1 = some (slot.generation + 1) := by
      rw [UInt32.lt_iff_toNat_lt] at hless
      refine if_pos ?_
      simp only [UInt32.reduceToNat] at hless ⊢
      omega
    refine ⟨_, ?_, .reused hids hslot hempty hless⟩
    simp only [TransportStore.reuse, hslot, hadd, hids, dropLast_concat, Option.map_some]

variable {kind : NnrpHandleKind} {c : StoreCall ρ}

theorem TransportHandles.Recorded.issued (h : w.Recorded address)
    {id next : UInt64} {gen : UInt32} {reusable : BTreeMap UInt32 (List UInt64)}
    (hnew : ∀ issue ∈ w.issues, issue.handle.slot = (kind.toU32, id) →
      issue.handle.generation < gen ∧ issue.standing ≠ .live)
    (hfirst : (kind.toU32, id) ∈ w.store.slots ∨ gen = 1) (hreusable : TransportStore.Reusable
      ⟨w.store.slots.insert (kind.toU32, id) ⟨gen, some resource, false⟩, reusable⟩) :
    TransportHandles.Recorded address
      ⟨⟨w.store.slots.insert (kind.toU32, id) ⟨gen, some resource, false⟩, reusable⟩, next,
        w.issues ++ [⟨transportHandle address kind id gen, resource, .live⟩]⟩ := by
  have hshows : TransportSlot.Shows ⟨gen, some resource, false⟩
      ⟨transportHandle address kind id gen, resource, .live⟩ :=
    ⟨rfl, rfl, by simp⟩
  refine ⟨?_, ?_, ?_, ?_, ?_, hreusable⟩
  · exact forall_mem_append.mpr ⟨h.flags, forall_mem_singleton.mpr rfl⟩
  · rw [pairwise_append]
    refine ⟨h.ordered, pairwise_singleton _ _, ?_⟩
    intro issue hissue last hlast hslot
    rw [mem_singleton.mp hlast] at hslot ⊢
    exact (hnew issue hissue hslot).1
  · refine forall_mem_append.mpr ⟨fun issue hold => ?_, forall_mem_singleton.mpr ?_⟩
    · rw [get_insert]
      split_ifs with hself
      · have hearlier := hnew issue hold hself.symm
        exact ⟨_, rfl, .inl ⟨hearlier.1, hearlier.2⟩⟩
      · exact h.slot issue hold
    · exact ⟨_, getElem?_insert_self, .inr hshows⟩
  · intro key slot hslot
    rw [get_insert] at hslot
    split_ifs at hslot with hself
    · cases hslot
      exact ⟨_, mem_concat_self, hself, hshows⟩
    · obtain ⟨issue, hissue, hcur⟩ := h.current key slot hslot
      exact ⟨issue, mem_append_left _ hissue, hcur⟩
  · intro key hkey
    rcases mem_map_insert.mp hkey with hself | hold
    · rcases hfirst with hopen | hone
      · rw [hself] at hopen
        obtain ⟨issue, hissue, hearliest⟩ := h.first key hopen
        exact ⟨issue, mem_append_left _ hissue, hearliest⟩
      · exact ⟨_, mem_concat_self, hself, hone⟩
    · obtain ⟨issue, hissue, hearliest⟩ := h.first key hold
      exact ⟨issue, mem_append_left _ hissue, hearliest⟩

theorem lt_succ_of_lt_max {a b : UInt32} (h : b < 0xffffffff) (hle : a ≤ b) : a < b + 1 := by
  rw [UInt32.lt_iff_toNat_lt] at h ⊢
  rw [UInt32.le_iff_toNat_le] at hle
  rw [UInt32.toNat_add]
  simp only [UInt32.reduceToNat] at h ⊢
  omega

theorem TransportHandles.Recorded.inserted (h : w.Recorded address)
    {next : UInt64} (hfresh : w.Fresh (.insert kind resource))
    (hinserted : Inserted address w kind resource (store, next, handle)) :
    TransportHandles.Recorded address ⟨store, next, w.issues ++ [⟨handle, resource, .live⟩]⟩ := by
  cases hinserted with
  | @reused id rest slot hids hslot hempty hless =>
    have honce := h.reusable.once kind.toU32
    rw [hids, nodup_append] at honce
    apply h.issued
    · intro issue hissue hkey
      obtain ⟨shown, hshown, hcase⟩ := h.slot issue hissue
      rw [hkey, hslot] at hshown
      cases hshown
      rcases hcase with houtlives | hshows
      · refine ⟨lt_succ_of_lt_max hless (UInt32.le_of_lt houtlives.generation), ?_⟩
        exact houtlives.standing
      · refine ⟨lt_succ_of_lt_max hless (UInt32.le_of_eq hshows.generation), fun hlive => ?_⟩
        rw [hshows.live.mpr ⟨rfl, hlive⟩] at hempty
        cases hempty
    · left
      exact mem_iff_get.mpr ⟨slot, hslot⟩
    · refine ⟨?_, ?_⟩
      · intro a
        rw [idsOf_insert]
        split_ifs
        · exact honce.1
        · exact h.reusable.once a
      · intro a b hb
        rw [idsOf_insert] at hb
        have hold : b ∈ idsOf w.store.reusable a ∧ (kind.toU32, id) ≠ (a, b) := by
          split_ifs at hb with hkind
          · subst hkind
            refine ⟨by simp [hids, hb], fun hsame => ?_⟩
            rw [Prod.mk.injEq] at hsame
            exact honce.2.2 b hb id mem_cons_self hsame.2.symm
          · refine ⟨hb, fun hsame => ?_⟩
            rw [Prod.mk.injEq] at hsame
            exact hkind hsame.1
        rw [get_insert, if_neg hold.2]
        exact h.reusable.empty a b hold.1
  | opened hids =>
    have hunused := hfresh hids
    apply h.issued
    · intro issue hissue hkey
      obtain ⟨slot, hslot, -⟩ := h.slot issue hissue
      rw [hkey, get_eq_none.mpr hunused] at hslot
      cases hslot
    · exact .inr rfl
    · refine ⟨h.reusable.once, ?_⟩
      intro a b hb
      obtain ⟨slot, hslot, hrest⟩ := h.reusable.empty a b hb
      refine ⟨slot, ?_, hrest⟩
      rw [get_insert, if_neg]
      · exact hslot
      · intro hsame
        rw [← hsame, get_eq_none.mpr hunused] at hslot
        cases hslot

theorem TransportStore.close_of_not (h : ∀ slot, ¬store.Closes address handle slot) :
    (store.close address handle).1 = store := by
  rw [TransportStore.close]
  split_ifs with hflags
  · rfl
  · cases hslot : store.slots[(handle.kind, handle.id)]? with
    | none => rfl
    | some slot =>
      dsimp only
      by_cases hgen : handle.generation = slot.generation
      · rw [if_neg (not_not.mpr hgen)]
        by_cases hinvalidated : slot.invalidated = true
        · rw [if_pos hinvalidated]
        · refine absurd ⟨not_not.mp hflags, hslot, hgen, ?_⟩ (h slot)
          exact Bool.eq_false_of_not_eq_true hinvalidated
      · rw [if_pos hgen]

@[simp] theorem Issue.close_handle (issue : Issue ρ) (handle : NnrpHandle) :
    (issue.close handle).handle = issue.handle := by
  rw [Issue.close]
  split_ifs
  · rfl
  · rfl

theorem Issue.close_of_not (h : ¬(issue.handle = handle ∧ issue.standing = .live)) :
    issue.close handle = issue :=
  if_neg h

theorem TransportSlot.Shows.closed (h : slot.Shows issue) (hvalid : slot.invalidated = false) :
    ({ slot with resource := none } : TransportSlot ρ).Shows (issue.close issue.handle) := by
  have hstanding : issue.standing ≠ .invalidated := by
    rw [Ne, ← h.invalidated, hvalid]
    nofun
  refine ⟨?_, ?_, ?_⟩
  · rw [Issue.close_handle]
    exact h.generation
  · rw [Issue.close]
    split_ifs with hlive hclosed hclosed
    · cases hclosed
    · rfl
    · exact absurd ⟨rfl, hclosed⟩ hlive
    · rfl
  · rw [Issue.close]
    split_ifs
    · simp [hvalid]
    · simp [hvalid, hstanding]

theorem TransportStore.Reusable.released (h : store.Reusable) {store' : TransportStore ρ}
    {l : UInt32 → List UInt64}
    (hlists : ∀ kind, idsOf store'.reusable kind = idsOf store.reusable kind ++ l kind)
    (honce : ∀ kind, (l kind).Nodup)
    (hids : ∀ kind, ∀ id ∈ l kind, ∃ slot, store.slots[(kind, id)]? = some slot ∧
      slot.released = true)
    (hslots : ∀ kind id slot, store.slots[(kind, id)]? = some slot →
      slot.resource = none ∨ id ∈ l kind → ∃ found, store'.slots[(kind, id)]? = some found ∧
        found.resource = none ∧ found.generation = slot.generation) : store'.Reusable := by
  refine ⟨fun kind => ?_, fun kind id hid => ?_⟩
  · rw [hlists, nodup_append]
    refine ⟨h.once kind, honce kind, ?_⟩
    intro a ha b hb hsame
    obtain ⟨slot, hslot, hempty, -⟩ := h.empty kind a ha
    obtain ⟨slot', hslot', hrel⟩ := hids kind b hb
    rw [← hsame, hslot] at hslot'
    cases hslot'
    simp [TransportSlot.released, hempty] at hrel
  · rw [hlists, mem_append] at hid
    rcases hid with hold | hnew
    · obtain ⟨slot, hslot, hempty, hless⟩ := h.empty kind id hold
      obtain ⟨found, hfound, hempty, hgen⟩ := hslots kind id slot hslot (.inl hempty)
      exact ⟨found, hfound, hempty, hgen ▸ hless⟩
    · obtain ⟨slot, hslot, hrel⟩ := hids kind id hnew
      rw [TransportSlot.released, decide_eq_true_iff] at hrel
      obtain ⟨found, hfound, hempty, hgen⟩ := hslots kind id slot hslot (.inr hnew)
      exact ⟨found, hfound, hempty, hgen ▸ hrel.2⟩

theorem TransportStore.Closes.reusable (h : store.Closes address handle slot)
    (hreusable : store.Reusable) : (store.emptied handle slot).Reusable := by
  refine hreusable.released
    (l := fun kind => if slot.released ∧ handle.kind = kind then [handle.id] else [])
    (fun kind => ?_) (fun kind => ?_) (fun kind id hid => ?_) fun kind id found hfound hcase => ?_
  · rw [TransportStore.emptied]
    by_cases hrel : slot.released = true
    · rw [if_pos hrel, pushReusable, idsOf_insert]
      by_cases hkind : handle.kind = kind
      · simp [hrel, hkind]
      · simp [hkind]
    · simp [hrel]
  · split_ifs
    · exact nodup_singleton _
    · exact nodup_nil
  · split_ifs at hid with hnew
    · rw [mem_singleton.mp hid, ← hnew.2]
      exact ⟨slot, h.held, hnew.1⟩
    · cases hid
  · rw [TransportStore.emptied, get_insert]
    split_ifs with hself
    · rw [← hself, h.held] at hfound
      cases hfound
      exact ⟨_, rfl, rfl, rfl⟩
    rcases hcase with hempty | hnew
    · exact ⟨found, hfound, hempty, rfl⟩
    · split_ifs at hnew with hkind
      · exact absurd (by rw [mem_singleton.mp hnew, ← hkind.2, NnrpHandle.slot]) hself
      · cases hnew

theorem TransportHandles.Recorded.mapped (h : w.Recorded address) {f : Issue ρ → Issue ρ}
    {g : UInt32 × UInt64 → TransportSlot ρ → TransportSlot ρ}
    (hhandle : ∀ issue, (f issue).handle = issue.handle)
    (hslots : ∀ key, store.slots[key]? = w.store.slots[key]?.map (g key))
    (hkept : ∀ issue ∈ w.issues, ∀ slot, w.store.slots[issue.handle.slot]? = some slot →
      (slot.Outlives issue → (g issue.handle.slot slot).Outlives (f issue)) ∧
      (slot.Shows issue → (g issue.handle.slot slot).Shows (f issue)))
    (hreusable : store.Reusable) :
    TransportHandles.Recorded address { w with store, issues := w.issues.map f } := by
  refine ⟨?_, ?_, ?_, ?_, ?_, hreusable⟩
  · rw [forall_mem_map]
    intro issue hissue
    rw [hhandle]
    exact h.flags issue hissue
  · rw [pairwise_map]
    simp only [hhandle]
    exact h.ordered
  · rw [forall_mem_map]
    intro issue hissue
    obtain ⟨slot, hslot, hcase⟩ := h.slot issue hissue
    obtain ⟨houtlives, hshows⟩ := hkept issue hissue slot hslot
    refine ⟨g issue.handle.slot slot, ?_, hcase.imp houtlives hshows⟩
    rw [hhandle, hslots, hslot, Option.map_some]
  · intro key found hfound
    rw [hslots, Option.map_eq_some_iff] at hfound
    obtain ⟨slot, hslot, rfl⟩ := hfound
    obtain ⟨issue, hissue, rfl, hshows⟩ := h.current key slot hslot
    refine ⟨f issue, mem_map_of_mem hissue, ?_, (hkept issue hissue slot hslot).2 hshows⟩
    rw [hhandle]
  · intro key hkey
    obtain ⟨found, hfound⟩ := mem_iff_get.mp hkey
    rw [hslots, Option.map_eq_some_iff] at hfound
    obtain ⟨slot, hslot, -⟩ := hfound
    obtain ⟨issue, hissue, hearliest⟩ := h.first key (mem_iff_get.mpr ⟨slot, hslot⟩)
    refine ⟨f issue, mem_map_of_mem hissue, ?_⟩
    rw [hhandle]
    exact hearliest

theorem TransportHandles.Recorded.closed (h : w.Recorded address) (handle : NnrpHandle) :
    TransportHandles.Recorded address { w with
      store := (w.store.close address handle).1
      issues := w.issues.map (·.close handle) } := by
  by_cases hcloses : ∃ slot, w.store.Closes address handle slot
  · obtain ⟨slot, hcloses⟩ := hcloses
    rw [hcloses.close]
    refine h.mapped (g := fun key slot => if handle.slot = key then { slot with resource := none }
      else slot) (fun _ => Issue.close_handle _ _) (fun key => ?_)
      (fun issue hissue found hfound => ?_) (hcloses.reusable h.reusable)
    · rw [TransportStore.emptied, get_insert]
      split_ifs with hkey
      · rw [← hkey, hcloses.held]
        rfl
      · exact Option.map_id'.symm
    · split_ifs with hkey
      · rw [← hkey, hcloses.held] at hfound
        cases hfound
        refine ⟨fun houtlives => ?_, fun hshows => ?_⟩
        · rw [Issue.close_of_not fun hlive => houtlives.standing hlive.2]
          exact ⟨houtlives.generation, houtlives.standing⟩
        · have hsame : issue.handle = handle := by
            rw [NnrpHandle.eq_iff, hkey, hshows.generation, hcloses.generation,
              h.flags issue hissue, hcloses.flags]
            exact ⟨rfl, rfl, rfl⟩
          have hclosed := hshows.closed hcloses.valid
          rw [hsame] at hclosed
          exact hclosed
      · -- An issue of another slot is not the one that is closed.
        rw [Issue.close_of_not fun hsame => hkey (by rw [hsame.1])]
        exact ⟨id, id⟩
  · -- A live issue of the handle would have been closed.
    have hkept : w.issues.map (·.close handle) = w.issues := by
      refine (map_congr_left fun issue hissue => Issue.close_of_not ?_).trans (map_id' _)
      intro hlive
      obtain ⟨slot, hslot, houtlives | hshows⟩ := h.slot issue hissue
      · exact houtlives.standing hlive.2
      · refine hcloses ⟨slot, hlive.1 ▸ h.flags issue hissue, hlive.1 ▸ hslot,
          hlive.1 ▸ hshows.generation, ?_⟩
        apply Bool.eq_false_of_not_eq_true
        rw [hshows.invalidated, hlive.2]
        nofun
    rw [hkept, TransportStore.close_of_not (not_exists.mp hcloses)]
    exact h

def releasedIds (kind : UInt32) (entries : List ((UInt32 × UInt64) × TransportSlot ρ)) :
    List UInt64 :=
  (entries.filter fun entry => entry.2.released && entry.1.1 == kind).map fun entry => entry.1.2

theorem idsOf_release (entries : List ((UInt32 × UInt64) × TransportSlot ρ))
    (reusable : BTreeMap UInt32 (List UInt64)) (kind : UInt32) :
    idsOf (entries.foldl (fun reusable entry =>
        if entry.2.released then pushReusable reusable entry.1.1 entry.1.2 else reusable) reusable)
      kind = idsOf reusable kind ++ releasedIds kind entries := by
  induction entries generalizing reusable with
  | nil => simp [releasedIds]
  | cons entry entries ih =>
    rw [foldl_cons, ih, releasedIds, releasedIds]
    by_cases hrel : entry.2.released = true
    · rw [if_pos hrel, pushReusable, idsOf_insert]
      by_cases hkind : entry.1.1 = kind
      · simp [hrel, hkind]
      · simp [hkind]
    · rw [if_neg hrel]
      simp [hrel]

theorem mem_releasedIds {kind : UInt32} {id : UInt64} : id ∈ releasedIds kind store.slots.toList ↔
      ∃ slot, store.slots[(kind, id)]? = some slot ∧ slot.released = true := by
  simp only [releasedIds, mem_map, mem_filter, Bool.and_eq_true, beq_iff_eq, Prod.exists,
    mem_toList_iff_getElem?_eq_some]
  constructor
  · intro h
    obtain ⟨a, b, slot, ⟨hslot, hrel, rfl⟩, rfl⟩ := h
    exact ⟨slot, hslot, hrel⟩
  · intro h
    obtain ⟨slot, hslot, hrel⟩ := h
    exact ⟨kind, id, slot, ⟨hslot, hrel, rfl⟩, rfl⟩

theorem releasedIds_nodup (kind : UInt32) : (releasedIds kind store.slots.toList).Nodup := by
  rw [releasedIds, List.Nodup, pairwise_map, pairwise_filter]
  refine store.slots.distinct_keys_toList.imp ?_
  intro a b hne ha hb hsame
  rw [Bool.and_eq_true, beq_iff_eq] at ha hb
  refine hne ?_
  rw [Std.LawfulEqOrd.compare_eq_iff_eq]
  exact Prod.ext (ha.2.trans hb.2.symm) hsame

theorem invalidateAll_get {key : UInt32 × UInt64} : store.invalidateAll.slots[key]? =
    store.slots[key]?.map fun slot => { slot with resource := none, invalidated := true } :=
  Std.ExtTreeMap.getElem?_map

theorem TransportStore.Reusable.invalidateAll (h : store.Reusable) :
    store.invalidateAll.Reusable := by
  refine h.released (idsOf_release store.slots.toList store.reusable) releasedIds_nodup
    (fun _ _ => mem_releasedIds.mp) fun kind id slot hslot _ => ?_
  refine ⟨{ slot with resource := none, invalidated := true }, ?_, rfl, rfl⟩
  rw [invalidateAll_get, hslot, Option.map_some]

theorem TransportHandles.Recorded.invalidated (h : w.Recorded address) :
    TransportHandles.Recorded address { w with
      store := w.store.invalidateAll
      issues := w.issues.map (·.invalidate) } := by
  refine h.mapped (fun _ => rfl) (fun _ => invalidateAll_get) (fun issue hissue slot hslot => ?_)
    h.reusable.invalidateAll
  refine ⟨fun houtlives => ⟨houtlives.generation, nofun⟩, fun hshows => ⟨?_, rfl, ?_⟩⟩
  · exact hshows.generation
  · simp [Issue.invalidate]

theorem recorded_new : TransportHandles.Recorded address ({} : TransportHandles ρ) := by
  refine ⟨?_, ?_, ?_, ?_, ?_, ?_, ?_⟩
  all_goals simp [idsOf]

namespace TransportHandles.Recorded

theorem sound (h : w.Recorded address) : w.Sound address where
  distinct := h.distinct
  resolves := h.resolves
  once := h.reusable.once
  empty := h.reusable.empty
  inserts kind resource := by
    obtain ⟨inserted, hinserted, -⟩ := insert_inserted h.reusable kind resource
    exact ⟨inserted, hinserted⟩
  closes _ _ _ := h.closes

theorem step (h : w.Recorded address)
    (hfresh : w.Fresh c) : ∃ w', storeStep address w c = some w' ∧ w'.Recorded address := by
  cases c with
  | insert kind resource =>
    obtain ⟨inserted, hinsert, hinserted⟩ := insert_inserted h.reusable kind resource
    refine ⟨⟨inserted.1, inserted.2.1, w.issues ++ [⟨inserted.2.2, resource, .live⟩]⟩, ?_, ?_⟩
    · rw [storeStep, hinsert]
      rfl
    · exact h.inserted hfresh hinserted
  | close handle => exact ⟨_, rfl, h.closed handle⟩
  | invalidateAll => exact ⟨_, rfl, h.invalidated⟩

theorem confused (h : w.Recorded address)
    {w' : TransportHandles ρ} (hfresh : ¬w.Fresh c) (hstep : storeStep address w c = some w') :
    ¬w'.Sound address := by
  cases c with
  | insert kind resource =>
    obtain ⟨inserted, hinsert, hinserted⟩ := insert_inserted h.reusable kind resource
    rw [TransportHandles.Fresh, Classical.not_imp, not_not] at hfresh
    obtain ⟨hids, hused⟩ := hfresh
    obtain ⟨issue, hissue, hslot, hone⟩ := h.first _ hused
    rw [storeStep, hinsert, Option.map_some, Option.some.injEq] at hstep
    intro hsound
    have hdistinct := hsound.distinct
    rw [← hstep, map_append, nodup_append] at hdistinct
    cases hinserted with
    | reused hsome =>
      rw [hids] at hsome
      simp at hsome
    | opened =>
      refine hdistinct.2.2 issue.handle (mem_map_of_mem hissue) _ mem_cons_self ?_
      rw [NnrpHandle.eq_iff, hslot, hone, h.flags issue hissue]
      exact ⟨rfl, rfl, rfl⟩
  | close | invalidateAll => exact absurd trivial hfresh

end TransportHandles.Recorded

theorem transport_handles_sound_iff (address : UInt64) (calls : List (StoreCall ρ)) :
    Along (storeStep address) TransportHandles.Fresh {} calls ↔
      ∀ before after, calls = before ++ after →
        ∃ w, run (storeStep address) {} before = some w ∧ w.Sound address :=
  along_iff_prefixes (TransportHandles.Recorded address) (fun _ h => h.sound)
    (fun _ _ h hfresh => h.step hfresh) (fun _ _ _ h => h.confused) recorded_new

structure TransportHandles.Counted (w : TransportHandles ρ) : Prop where
  next : w.nextTransportHandle = UInt64.ofNat (1 + w.store.slots.size)
  passed : ∀ key ∈ w.store.slots, ∃ n < w.store.slots.size, key.2 = UInt64.ofNat (1 + n)

namespace TransportHandles.Counted

theorem fresh (h : w.Counted) (hroom : w.store.slots.size < 2 ^ 64) : w.Fresh c := by
  cases c with
  | insert kind resource =>
    intro _ hused
    obtain ⟨n, hn, hid⟩ := h.passed _ hused
    rw [h.next, ← UInt64.toNat_inj, UInt64.toNat_ofNat', UInt64.toNat_ofNat'] at hid
    omega
  | close | invalidateAll => trivial

theorem replaced (h : w.Counted) {key : UInt32 × UInt64} (hkey : key ∈ w.store.slots)
    {reusable : BTreeMap UInt32 (List UInt64)} {issues : List (Issue ρ)} :
    TransportHandles.Counted
      ⟨⟨w.store.slots.insert key slot, reusable⟩, w.nextTransportHandle, issues⟩ := by
  have hsize : (w.store.slots.insert key slot).size = w.store.slots.size := by
    rw [size_insert, if_pos (mem_iff_contains.mp hkey)]
  refine ⟨?_, ?_⟩
  · rw [hsize]
    exact h.next
  · intro a ha
    rw [hsize]
    rcases mem_map_insert.mp ha with rfl | hold
    · exact h.passed _ hkey
    · exact h.passed a hold

theorem opened (h : w.Counted) (hunused : (kind.toU32, w.nextTransportHandle) ∉ w.store.slots)
    {reusable : BTreeMap UInt32 (List UInt64)} {issues : List (Issue ρ)} :
    TransportHandles.Counted
      ⟨⟨w.store.slots.insert (kind.toU32, w.nextTransportHandle) slot, reusable⟩,
        w.nextTransportHandle + 1, issues⟩ := by
  have hsize : (w.store.slots.insert (kind.toU32, w.nextTransportHandle) slot).size =
      w.store.slots.size + 1 := by
    rw [size_insert, if_neg]
    rwa [← mem_iff_contains]
  refine ⟨?_, ?_⟩
  · rw [hsize, ← Nat.add_assoc, UInt64.ofNat_add (1 + w.store.slots.size), ← h.next]
    rfl
  · intro a ha
    rw [hsize]
    rcases mem_map_insert.mp ha with rfl | hold
    · exact ⟨w.store.slots.size, Nat.lt_succ_self _, h.next⟩
    · obtain ⟨n, hn, hid⟩ := h.passed a hold
      exact ⟨n, Nat.lt_succ_of_lt hn, hid⟩

theorem step (h : w.Counted) (hrecorded : w.Recorded address)
    (hroom : w.store.slots.size < 2 ^ 64) {w' : TransportHandles ρ}
    (hstep : storeStep address w c = some w') : w'.Counted := by
  cases c with
  | insert kind resource =>
    obtain ⟨inserted, hinsert, hinserted⟩ := insert_inserted hrecorded.reusable kind resource
    rw [storeStep, hinsert, Option.map_some, Option.some.injEq] at hstep
    subst hstep
    cases hinserted with
    | reused _ hslot => exact h.replaced (mem_iff_get.mpr ⟨_, hslot⟩)
    | opened hids => exact h.opened (h.fresh (c := .insert kind resource) hroom hids)
  | close handle =>
    cases hstep
    by_cases hcloses : ∃ slot, w.store.Closes address handle slot
    · obtain ⟨slot, hcloses⟩ := hcloses
      rw [hcloses.close]
      exact h.replaced (mem_iff_get.mpr ⟨slot, hcloses.held⟩)
    · rw [TransportStore.close_of_not (not_exists.mp hcloses)]
      exact ⟨h.next, h.passed⟩
  | invalidateAll =>
    cases hstep
    refine ⟨?_, ?_⟩
    · simp only [TransportStore.invalidateAll, size_map]
      exact h.next
    · simp only [TransportStore.invalidateAll, size_map, Std.ExtTreeMap.mem_map]
      exact h.passed

end TransportHandles.Counted

/-- Handles are never confused. Slots stay in the store, so its memory bounds how many there can
be; the counter comes back to an id after `2 ^ 64` of them. -/
theorem transport_handles_never_confused (address : UInt64) (calls : List (StoreCall ρ))
    (hroom : Along (storeStep address) (fun w _ => w.store.slots.size < 2 ^ 64) {} calls) :
    ∀ before after, calls = before ++ after →
      ∃ w, run (storeStep address) {} before = some w ∧ w.Sound address := by
  apply (transport_handles_sound_iff address calls).mp
  refine hroom.imp (fun w => w.Recorded address ∧ w.Counted) ?_ ?_ ⟨recorded_new, rfl, ?_⟩
  · intro w c w' h hroom hstep
    obtain ⟨w'', hstep', hrecorded⟩ := h.1.step (h.2.fresh hroom)
    rw [hstep] at hstep'
    cases hstep'
    exact ⟨hrecorded, h.2.step h.1 hroom hstep⟩
  · intro w c h hroom
    exact h.2.fresh hroom
  · simp

end

def reuseRun : List (StoreCall ℕ) :=
  [.insert .transportConnection 5, .insert .transportConnection 7,
    .close (transportHandle 0 .transportConnection 1 1), .insert .transportConnection 6]

theorem reused_slot_is_sound : ∃ w, run (storeStep 0) {} reuseRun = some w ∧ w.Sound 0 ∧
    w.store.get 0 (transportHandle 0 .transportConnection 1 1) = none ∧
    w.store.get 0 (transportHandle 0 .transportConnection 1 2) = some 6 ∧
    w.store.get 0 (transportHandle 0 .transportConnection 2 1) = some 7 := by
  obtain ⟨w, hrun, hsound⟩ :=
    transport_handles_never_confused 0 reuseRun (by decide +kernel) reuseRun [] (by simp)
  have hget : (run (storeStep 0) {} reuseRun).map (fun w =>
      (w.store.get 0 (transportHandle 0 .transportConnection 1 1),
        w.store.get 0 (transportHandle 0 .transportConnection 1 2),
        w.store.get 0 (transportHandle 0 .transportConnection 2 1))) =
      some (none, some 6, some 7) := by
    decide +kernel
  rw [hrun, Option.map_some, Option.some.injEq, Prod.mk.injEq, Prod.mk.injEq] at hget
  exact ⟨w, hrun, hsound, hget⟩

end Nnrp.Ffi
