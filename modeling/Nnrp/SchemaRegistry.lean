import Nnrp.LabelledRun
import Nnrp.SessionRegistry
import Nnrp.TypedPayload

/-!
# The schema registry

Schemas are installed under their id and version. The first install of a pair stands until the pair
is invalidated; what a registry binds is determined by the history of its calls.
-/

namespace Nnrp.Data
open OrderedMap LabelledRun Server

inductive SchemaRegistryAction
  | installed | alreadyInstalled | updated | invalidated
  deriving DecidableEq

inductive SchemaRegistryFailure
  | unknown | versionUnknown | hashConflict | incompatible | updateRejected
  deriving DecidableEq

instance schemaOrd : Ord (UInt32 × UInt32) := lexOrd

structure SchemaRegistry where
  entries : BTreeMap (UInt32 × UInt32) SchemaDescriptorHeader := ∅

def SchemaDescriptorHeader.key (descriptor : SchemaDescriptorHeader) : UInt32 × UInt32 :=
  (descriptor.schemaId, descriptor.schemaVersion)

def validateProfileAssignment (profileId : UInt16) : Except SchemaRegistryFailure Unit :=
  if profileAssigned profileId then .ok () else .error .updateRejected

namespace SchemaRegistry

variable (registry : SchemaRegistry)

abbrev Outcome := Except SchemaRegistryFailure SchemaRegistryAction

def install (descriptor : SchemaDescriptorHeader) : SchemaRegistry × Outcome :=
  match validateProfileAssignment descriptor.profileId with
  | .error e => (registry, .error e)
  | .ok () =>
    match registry.entries[descriptor.key]? with
    | some existing =>
      if existing.schemaHash = descriptor.schemaHash ∧
          existing.profileId = descriptor.profileId then
        (registry, .ok .alreadyInstalled)
      else (registry, .error .hashConflict)
    | none =>
      let hasOlderVersion := registry.entries.keys.any fun key =>
        key.1 = descriptor.schemaId ∧ key.2 < descriptor.schemaVersion
      ({ entries := registry.entries.insert descriptor.key descriptor },
        .ok (if hasOlderVersion then .updated else .installed))

def lookup (schemaId schemaVersion : UInt32) : Option SchemaDescriptorHeader :=
  registry.entries[(schemaId, schemaVersion)]?

def invalidate (schemaId schemaVersion : UInt32) : SchemaRegistry × Outcome :=
  match registry.entries[(schemaId, schemaVersion)]? with
  | some _ =>
    ({ entries := registry.entries.erase (schemaId, schemaVersion) }, .ok .invalidated)
  | none => (registry, .error .versionUnknown)

def validateBinding (descriptor : TypedPayloadDescriptor) : Except SchemaRegistryFailure Unit :=
  match validateProfileAssignment descriptor.profileId with
  | .error e => .error e
  | .ok () =>
    if descriptor.profileId = profileUnspecified then
      if descriptor.schemaId = 0 ∧ descriptor.schemaVersion = 0 then .ok ()
      else .error .incompatible
    else if descriptor.schemaId = 0 then .error .unknown
    else
      match registry.lookup descriptor.schemaId descriptor.schemaVersion with
      | none =>
        if registry.entries.keys.any fun key => key.1 = descriptor.schemaId then
          .error .versionUnknown
        else .error .unknown
      | some schema =>
        if schema.profileId ≠ descriptor.profileId then .error .incompatible else .ok ()

inductive Call
  | install (descriptor : SchemaDescriptorHeader)
  | invalidate (schemaId schemaVersion : UInt32)

def call (registry : SchemaRegistry) : Call → SchemaRegistry × Outcome
  | .install descriptor => registry.install descriptor
  | .invalidate schemaId schemaVersion => registry.invalidate schemaId schemaVersion

def standing (key : UInt32 × UInt32) (held : Option SchemaDescriptorHeader) :
    Call × Outcome → Option SchemaDescriptorHeader
  | (.install descriptor, .ok _) =>
    if descriptor.key = key then held.or (some descriptor) else held
  | (.invalidate schemaId schemaVersion, .ok _) =>
    if (schemaId, schemaVersion) = key then none else held
  | _ => held

/-- The first successful install of the pair since its last invalidation. -/
def firstInstall (log : List (Call × Outcome)) (key : UInt32 × UInt32) :
    Option SchemaDescriptorHeader :=
  log.foldl (standing key) none

def Installs (entries : UInt32 × UInt32 → Option SchemaDescriptorHeader)
    (d : SchemaDescriptorHeader) : Prop :=
  if profileAssigned d.profileId then
    match entries d.key with
    | some held => registry.install d = (registry,
        if held.schemaHash = d.schemaHash ∧ held.profileId = d.profileId then .ok .alreadyInstalled
        else .error .hashConflict)
    | none => ∃ action, registry.install d = (⟨registry.entries.insert d.key d⟩, .ok action) ∧
        (action = .updated ∨ action = .installed) ∧
        (action = .updated ↔ ∃ version < d.schemaVersion, (entries (d.schemaId, version)).isSome)
  else registry.install d = (registry, .error .updateRejected)

def Binds (entries : UInt32 × UInt32 → Option SchemaDescriptorHeader)
    (d : TypedPayloadDescriptor) : Prop :=
  d.profileId = profileUnspecified ∧ d.schemaId = 0 ∧ d.schemaVersion = 0 ∨
    (d.profileId = profileTensor ∨ d.profileId = profileToken) ∧ d.schemaId ≠ 0 ∧
      ∃ held, entries (d.schemaId, d.schemaVersion) = some held ∧ held.profileId = d.profileId

variable {registry} {log : List (Call × Outcome)}

theorem installs (d : SchemaDescriptorHeader) : registry.Installs (registry.entries[·]?) d := by
  rw [Installs, install, validateProfileAssignment]
  split_ifs
  · cases registry.entries[d.key]? with
    | some held =>
      dsimp only
      split_ifs <;> rfl
    | none =>
      refine ⟨_, rfl, by split_ifs <;> simp, ?_⟩
      simp only [ite_eq_left_iff, reduceCtorEq, imp_false, not_not, List.any_eq_true,
        Std.ExtTreeMap.mem_keys, decide_eq_true_iff, Std.ExtTreeMap.isSome_getElem?_iff_mem]
      constructor
      · rintro ⟨⟨id, version⟩, hheld, rfl, hless⟩
        exact ⟨version, hless, hheld⟩
      · rintro ⟨version, hless, hheld⟩
        exact ⟨_, hheld, rfl, hless⟩
  · rfl

theorem validateBinding_ok (d : TypedPayloadDescriptor) :
    registry.validateBinding d = .ok () ↔ Binds (registry.entries[·]?) d := by
  rw [validateBinding, validateProfileAssignment, Binds]
  by_cases hunbound : d.profileId = profileUnspecified
  · have hother : ¬(profileUnspecified = profileTensor ∨ profileUnspecified = profileToken) := by
      decide
    simp [profileAssigned, hunbound, hother]
  · by_cases hprofile : d.profileId = profileTensor ∨ d.profileId = profileToken
    · cases hheld : registry.entries[(d.schemaId, d.schemaVersion)]?
      all_goals simp [profileAssigned, hunbound, hprofile, lookup, hheld, ite_eq_iff]
    · simp [profileAssigned, hunbound, hprofile]

theorem call_get (c : Call) (key : UInt32 × UInt32) : (registry.call c).1.entries[key]? =
    standing key registry.entries[key]? (c, (registry.call c).2) := by
  cases c with
  | install d =>
    have hinstalls : registry.Installs (registry.entries[·]?) d := installs d
    rw [Installs] at hinstalls
    rw [call]
    split_ifs at hinstalls
    · cases hheld : registry.entries[d.key]? with
      | some held =>
        rw [hheld] at hinstalls
        rw [hinstalls]
        dsimp only
        split_ifs
        · rw [standing]
          split_ifs with hkey
          · rw [← hkey, hheld]
            rfl
          · rfl
        · rfl
      | none =>
        rw [hheld] at hinstalls
        obtain ⟨action, hinstall, -⟩ := hinstalls
        rw [hinstall, standing, get_insert]
        split_ifs with hkey
        · rw [← hkey, hheld]
          rfl
        · rfl
    · rw [hinstalls]
      rfl
  | invalidate id version =>
    rw [call, invalidate]
    cases hheld : registry.entries[(id, version)]? with
    | some held => rw [standing, get_erase]
    | none => rfl

theorem entries_of_history (h : History call {} log registry) :
    (registry.entries[·]?) = firstInstall log := by
  funext key
  induction h with
  | start => rfl
  | call _ c ih =>
    rw [call_get, ih, firstInstall, firstInstall, List.foldl_append]
    rfl

/-- After any history an entry is the first install of its pair since the last invalidation. A later
install of the pair changes nothing: it is rejected if its profile is not assigned, installed
already if its hash and profile are those of the entry, and a conflict otherwise. -/
theorem schema_bindings_exact (h : History call {} log registry) :
    (∀ key, registry.entries[key]? = firstInstall log key) ∧
      (∀ d, registry.Installs (firstInstall log) d) ∧
      ∀ d, registry.validateBinding d = .ok () ↔ Binds (firstInstall log) d := by
  rw [← entries_of_history h]
  exact ⟨fun _ => rfl, installs, validateBinding_ok⟩

def schema (version : UInt32) (profileId : UInt16) : SchemaDescriptorHeader :=
  ⟨7, version, profileId, 0, 1, 1, 0, 0, 0, 5⟩

theorem newer_schema_updates : ∃ log registry, History call {} log registry ∧
    (firstInstall log (7, 1)).isSome ∧
    registry.Installs (firstInstall log) (schema 2 profileToken) :=
  have h : History call {} _ _ := .call .start (.install (schema 1 profileToken))
  ⟨_, _, h, by decide +kernel, (schema_bindings_exact h).2.1 _⟩

/-- The same pair and hash with a profile that is not assigned is no conflict, but rejected. -/
theorem unassigned_profile_rejected : ∃ log registry, History call {} log registry ∧
    (firstInstall log (7, 1)).isSome ∧
    (registry.install (schema 1 3)).2 = .error .updateRejected :=
  ⟨_, _, .call .start (.install (schema 1 profileToken)), by decide +kernel, by decide +kernel⟩

end SchemaRegistry

end Nnrp.Data
