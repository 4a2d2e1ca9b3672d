import Nnrp.BodyRegion
import Nnrp.ControlUpdate
import Nnrp.SessionUpdate

/-!
# Typed payload frames

A body carries its typed payloads in one region, and a descriptor for each of them. The descriptors
are packed: each frame starts where the one before it ends, and the last one ends with the region.
A region is parsed from its bytes or built from its parts; the two check nearly the same.
-/

namespace Nnrp.Data
open Protocol ByteOrder Session ControlUpdate Fallible

def schemaDescriptorHeaderLen : ℕ := 32
def schemaFlagsKnownMask : UInt16 := 0x000f
def descriptorFlagsKnownMask : UInt8 := 0x0f
def standardProfileTensor : UInt16 := 1
def standardProfileToken : UInt16 := 2

structure SchemaDescriptorHeader where
  (schemaId schemaVersion : UInt32)
  (profileId schemaFlags : UInt16)
  (minVersionMajor maxVersionMajor : UInt8)
  bodyBytes : UInt32
  (dependencyCount defaultStreamSemantics : UInt16)
  schemaHash : UInt64
  deriving DecidableEq

namespace SchemaDescriptorHeader

def parse (source : Bytes) : Except NnrpError SchemaDescriptorHeader := do
  requireLen source schemaDescriptorHeaderLen
  validateZeroU16 "schema_descriptor.reserved0" (readU16 source 14)
  let schemaFlags := readU16 source 10
  validateMaskU16 schemaFlags schemaFlagsKnownMask
  pure
    { schemaId := readU32 source 0
      schemaVersion := readU32 source 4
      profileId := readU16 source 8
      schemaFlags
      minVersionMajor := readU8 source 12
      maxVersionMajor := readU8 source 13
      bodyBytes := readU32 source 16
      dependencyCount := readU16 source 20
      defaultStreamSemantics := readU16 source 22
      schemaHash := readU64 source 24 }

def write (m : SchemaDescriptorHeader) : Writer :=
  writeFields schemaDescriptorHeaderLen (validateMaskU16 m.schemaFlags schemaFlagsKnownMask)
    [fillZero schemaDescriptorHeaderLen, putU32 0 m.schemaId, putU32 4 m.schemaVersion,
      putU16 8 m.profileId, putU16 10 m.schemaFlags, putU8 12 m.minVersionMajor,
      putU8 13 m.maxVersionMajor, putU32 16 m.bodyBytes, putU16 20 m.dependencyCount,
      putU16 22 m.defaultStreamSemantics, putU64 24 m.schemaHash]

theorem codec : Canonical schemaDescriptorHeaderLen parse write := by
  refine .of_zeroed fun src m => ?_
  cases m
  simp [parse, bind_eq_ok, schemaDescriptorHeaderLen]
  grind

end SchemaDescriptorHeader

inductive PayloadKind
  | tensor | tokenChunk | audioChunk | videoChunk | structuredEvent | toolDelta | opaqueBytes
  deriving DecidableEq

namespace PayloadKind

def bit : PayloadKind → UInt32
  | .tensor => payloadKindTensor
  | .tokenChunk => 0x02
  | .audioChunk => 0x04
  | .videoChunk => 0x08
  | .structuredEvent => 0x10
  | .toolDelta => 0x20
  | .opaqueBytes => 0x40

def tryFromBit (bit : UInt32) : Except NnrpError PayloadKind :=
  decodeTable
    [(0x01, .tensor), (0x02, .tokenChunk), (0x04, .audioChunk), (0x08, .videoChunk),
      (0x10, .structuredEvent), (0x20, .toolDelta), (0x40, .opaqueBytes)]
    (.unknownEnumValue "payload_kind" bit.toUInt64) bit

@[simp] theorem tryFromBit_eq_ok {v : UInt8} {k : PayloadKind} :
    tryFromBit v.toUInt32 = .ok k ↔ v = k.bit.toUInt8 := by
  have hcode : tryFromBit v.toUInt32 = .ok k ↔ v.toUInt32 = k.bit :=
    decodeTable_eq_ok (by decide) fun k => by cases k <;> rfl
  rw [hcode, ← UInt32.toNat_inj, ← UInt8.toNat_inj]
  cases k <;> rfl

end PayloadKind

structure TypedPayloadDescriptor where
  profileId : UInt16
  payloadKind : PayloadKind
  descriptorFlags : UInt8
  (schemaId schemaVersion : UInt32)
  streamSemantics : UInt16
  (offset length : UInt32)
  deriving DecidableEq

namespace TypedPayloadDescriptor

def parse (source : Bytes) : Except NnrpError TypedPayloadDescriptor := do
  requireLen source typedPayloadDescriptorLen
  validateZeroU16 "typed_payload_descriptor.reserved0" (readU16 source 14)
  let payloadKind ← PayloadKind.tryFromBit (readU8 source 2).toUInt32
  let descriptorFlags := readU8 source 3
  validateMaskU8 descriptorFlags descriptorFlagsKnownMask
  pure
    { profileId := readU16 source 0
      payloadKind, descriptorFlags
      schemaId := readU32 source 4
      schemaVersion := readU32 source 8
      streamSemantics := readU16 source 12
      offset := readU32 source 16
      length := readU32 source 20 }

def write (m : TypedPayloadDescriptor) : Writer :=
  writeFields typedPayloadDescriptorLen
    (validateMaskU8 m.descriptorFlags descriptorFlagsKnownMask)
    [fillZero typedPayloadDescriptorLen, putU16 0 m.profileId, putU8 2 m.payloadKind.bit.toUInt8,
      putU8 3 m.descriptorFlags, putU32 4 m.schemaId, putU32 8 m.schemaVersion,
      putU16 12 m.streamSemantics, putU32 16 m.offset, putU32 20 m.length]

theorem codec : Canonical typedPayloadDescriptorLen parse write := by
  refine .of_zeroed fun src m => ?_
  cases m
  simp [parse, bind_eq_ok, typedPayloadDescriptorLen]
  grind

end TypedPayloadDescriptor

theorem session_flow_and_schema_codecs_canonical :
    Canonical sessionOpenMetadataLen SessionOpenMetadata.parse SessionOpenMetadata.write ∧
    Canonical sessionOpenAckMetadataLen SessionOpenAckMetadata.parse SessionOpenAckMetadata.write ∧
    Canonical sessionCloseMetadataLen SessionCloseMetadata.parse SessionCloseMetadata.write ∧
    Canonical sessionCloseAckMetadataLen SessionCloseAckMetadata.parse
      SessionCloseAckMetadata.write ∧
    Canonical flowUpdateMetadataLen FlowUpdateMetadata.parse FlowUpdateMetadata.write ∧
    Canonical schemaDescriptorHeaderLen SchemaDescriptorHeader.parse SchemaDescriptorHeader.write ∧
    Canonical typedPayloadDescriptorLen TypedPayloadDescriptor.parse TypedPayloadDescriptor.write :=
  ⟨SessionOpenMetadata.codec, SessionOpenAckMetadata.codec, SessionCloseMetadata.codec,
    SessionCloseAckMetadata.codec, FlowUpdateMetadata.codec, SchemaDescriptorHeader.codec,
    TypedPayloadDescriptor.codec⟩

structure TypedPayloadFrameView where
  descriptor : TypedPayloadDescriptor
  payload : Bytes
  deriving DecidableEq

structure TypedPayloadRegion where
  descriptors : List TypedPayloadDescriptor
  payloadRegion : Bytes
  deriving DecidableEq

variable (descriptor : TypedPayloadDescriptor)

def validateDescriptorProfile : Except NnrpError Unit :=
  if descriptor.payloadKind = .tensor then
    .error (.invalidProtocolCombination
      "tensor payloads use tensor sections and must not use typed payload descriptors")
  else if descriptor.profileId = standardProfileTensor then
    .error (.invalidProtocolCombination
      "non-tensor typed payload frames must not use tensor profile")
  else if descriptor.payloadKind = .tokenChunk ∧ descriptor.profileId ≠ standardProfileToken then
    .error (.invalidProtocolCombination "token-only typed payload frames require token profile")
  else .ok ()

def checkedPayloadEnd : Except NnrpError ℕ :=
  if descriptor.offset.toNat + descriptor.length.toNat < 2 ^ 32 then
    .ok (descriptor.offset.toNat + descriptor.length.toNat)
  else .error .messageLengthOverflow

/-- The loop over the descriptors, with the next expected offset and the union of the kinds. -/
def validateFrames (payloadLen : ℕ) :
    List TypedPayloadDescriptor → ℕ → UInt32 → Except NnrpError (ℕ × UInt32)
  | [], nextExpectedOffset, descriptorKindUnion => .ok (nextExpectedOffset, descriptorKindUnion)
  | descriptor :: descriptors, nextExpectedOffset, descriptorKindUnion => do
    validateDescriptorProfile descriptor
    ensure (descriptor.offset.toNat = nextExpectedOffset) (.invalidProtocolCombination
      "typed payload descriptors must be packed in strictly contiguous order")
    let nextExpectedOffset ← checkedPayloadEnd descriptor
    ensure (nextExpectedOffset ≤ payloadLen) (.invalidProtocolCombination
      "typed payload descriptor range must fit the frame region")
    validateFrames payloadLen descriptors nextExpectedOffset
      (descriptorKindUnion ||| descriptor.payloadKind.bit)

/-- `&bytes[start..end]`; `none` is the panic of an index out of range. -/
def sliceRange (bytes : Bytes) (start stop : ℕ) : Option Bytes :=
  if start ≤ stop ∧ stop ≤ bytes.length then some ((bytes.drop start).take (stop - start))
  else none

variable (region : TypedPayloadRegion)

namespace TypedPayloadRegion

def validate (payloadKindBitmap : UInt32)
    (payloadFrameCount : UInt16) : Except NnrpError Unit := do
  ensure (region.descriptors.length = payloadFrameCount.toNat) (.invalidProtocolCombination
    "typed payload descriptor count must match payload_frame_count")
  let (nextExpectedOffset, descriptorKindUnion) ←
    validateFrames region.payloadRegion.length region.descriptors 0 0
  ensure (nextExpectedOffset = region.payloadRegion.length) (.invalidProtocolCombination
    "typed payload frame region must be exactly covered by descriptors")
  ensure (descriptorKindUnion = payloadKindBitmap &&& ~~~payloadKindTensor)
    (.invalidProtocolCombination
      "payload_kind_bitmap non-tensor bits must equal the typed descriptor kind union")

def parse (payloadKindBitmap : UInt32) (payloadFrameCount : UInt16)
    (descriptorRegion payloadRegion : Bytes) : Except NnrpError TypedPayloadRegion := do
  validateMaskU32 payloadKindBitmap payloadKindKnownMask
  ensure (descriptorRegion.length = payloadFrameCount.toNat * typedPayloadDescriptorLen)
    (.invalidProtocolCombination
      "typed payload descriptor region length must match payload_frame_count")
  if payloadFrameCount = 0 then
    ensure (descriptorRegion = [] ∧ payloadRegion = []) (.invalidProtocolCombination
      "zero typed payload frames require empty descriptor and frame regions")
    pure { descriptors := [], payloadRegion }
  else
    let descriptors ← parseChunks typedPayloadDescriptorLen TypedPayloadDescriptor.parse
      payloadFrameCount.toNat descriptorRegion
    let region := { descriptors, payloadRegion }
    region.validate payloadKindBitmap payloadFrameCount
    pure region

def fromParts (payloadKindBitmap : UInt32) (descriptors : List TypedPayloadDescriptor)
    (payloadRegion : Bytes) : Except NnrpError TypedPayloadRegion := do
  ensure (descriptors.length < 2 ^ 16) .messageLengthOverflow
  let region := { descriptors, payloadRegion }
  region.validate payloadKindBitmap (.ofNat descriptors.length)
  pure region

/-- The closure runs on one descriptor after the other, up to the first error or panic. -/
def viewsOf (payloadRegion : Bytes) :
    List TypedPayloadDescriptor → Option (Except NnrpError (List TypedPayloadFrameView))
  | [] => some (.ok [])
  | descriptor :: descriptors =>
    match checkedPayloadEnd descriptor with
    | .error e => some (.error e)
    | .ok stop =>
      match sliceRange payloadRegion descriptor.offset.toNat stop with
      | none => none
      | some payload => (viewsOf payloadRegion descriptors).map fun views =>
          views.map ({ descriptor, payload } :: ·)

def frameViews : Option (Except NnrpError (List TypedPayloadFrameView)) :=
  viewsOf region.payloadRegion region.descriptors

def descriptorRegionBytes : Except NnrpError Bytes :=
  bytesOfAll typedPayloadDescriptorLen TypedPayloadDescriptor.write region.descriptors

end TypedPayloadRegion

def Packed : ℕ → List TypedPayloadDescriptor → ℕ → Prop
  | start, [], stop => start = stop
  | start, d :: ds, stop => d.offset.toNat = start ∧ start + d.length.toNat < 2 ^ 32 ∧
      Packed (start + d.length.toNat) ds stop

def kindUnion (ds : List TypedPayloadDescriptor) : UInt32 :=
  ds.foldl (fun union d => union ||| d.payloadKind.bit) 0

/-- The descriptors describe the payload, and the bitmap names their kinds. -/
structure Describes (bitmap : UInt32) (ds : List TypedPayloadDescriptor) (payload : Bytes) : Prop
    where
  profiles : ∀ d ∈ ds, validateDescriptorProfile d = .ok ()
  packed : Packed 0 ds payload.length
  kinds : kindUnion ds = bitmap &&& ~~~payloadKindTensor

variable {ds : List TypedPayloadDescriptor} {bitmap : UInt32} {count : UInt16}
  {source payload : Bytes} {start stop len : ℕ} {region : TypedPayloadRegion}

theorem Packed.le (h : Packed start ds stop) : start ≤ stop := by
  induction ds generalizing start with
  | nil => exact h.le
  | cons d ds ih => exact (Nat.le_add_right _ _).trans (ih h.2.2)

theorem checkedPayloadEnd_eq_ok {d : TypedPayloadDescriptor} : checkedPayloadEnd d = .ok stop ↔
    d.offset.toNat + d.length.toNat < 2 ^ 32 ∧ d.offset.toNat + d.length.toNat = stop := by
  rw [checkedPayloadEnd]
  split_ifs with h
  · rw [Except.ok.injEq, and_iff_right h]
  · exact iff_of_false nofun fun hand => h hand.1

theorem validateFrames_eq_ok {union union' : UInt32} :
    validateFrames len ds start union = .ok (stop, union') ↔
      (∀ d ∈ ds, validateDescriptorProfile d = .ok ()) ∧ Packed start ds stop ∧
        (stop ≤ len ∨ ds = []) ∧
        ds.foldl (fun union d => union ||| d.payloadKind.bit) union = union' := by
  induction ds generalizing start union with
  | nil => simp [validateFrames, Packed]
  | cons d ds ih =>
    simp only [validateFrames, bind_eq_ok, exists_unit, ensure_eq_ok, ih, Packed,
      checkedPayloadEnd_eq_ok, List.forall_mem_cons, List.foldl_cons]
    constructor
    · rintro ⟨hprof, rfl, _, ⟨hfits, rfl⟩, hle, hprofs, hpacked, hlast, hunion⟩
      refine ⟨⟨hprof, hprofs⟩, ⟨rfl, hfits, hpacked⟩, .inl ?_, hunion⟩
      rcases hlast with hlast | rfl
      · exact hlast
      · exact hpacked ▸ hle
    · rintro ⟨⟨hprof, hprofs⟩, ⟨rfl, hfits, hpacked⟩, hlast, hunion⟩
      have hle : stop ≤ len := hlast.resolve_right (by simp)
      exact ⟨hprof, rfl, _, ⟨hfits, rfl⟩, hpacked.le.trans hle, hprofs, hpacked, .inl hle, hunion⟩

theorem validate_eq_ok : region.validate bitmap count = .ok () ↔
    region.descriptors.length = count.toNat ∧
      Describes bitmap region.descriptors region.payloadRegion := by
  simp only [TypedPayloadRegion.validate, bind_eq_ok, exists_unit, ensure_eq_ok, Prod.exists,
    validateFrames_eq_ok]
  constructor
  · rintro ⟨hcount, _, _, ⟨hprofs, hpacked, -, rfl⟩, rfl, hkinds⟩
    exact ⟨hcount, hprofs, hpacked, hkinds⟩
  · rintro ⟨hcount, hprofs, hpacked, hkinds⟩
    exact ⟨hcount, _, _, ⟨hprofs, hpacked, .inl le_rfl, rfl⟩, rfl, hkinds⟩

theorem fromParts_eq_ok : TypedPayloadRegion.fromParts bitmap ds payload = .ok region ↔
    ds.length < 2 ^ 16 ∧ Describes bitmap ds payload ∧ region = ⟨ds, payload⟩ := by
  simp only [TypedPayloadRegion.fromParts, bind_eq_ok, exists_unit, ensure_eq_ok,
    validate_eq_ok, pure_eq_ok]
  constructor
  · rintro ⟨hlen, ⟨-, h⟩, rfl⟩
    exact ⟨hlen, h, rfl⟩
  · rintro ⟨hlen, h, rfl⟩
    exact ⟨hlen, ⟨(UInt16.toNat_ofNat_of_lt' hlen).symm, h⟩, rfl⟩

theorem parse_eq_ok : TypedPayloadRegion.parse bitmap count source payload = .ok region ↔
    bitmap &&& ~~~payloadKindKnownMask = 0 ∧
      bytesOfAll typedPayloadDescriptorLen TypedPayloadDescriptor.write region.descriptors =
        .ok source ∧ region.descriptors.length = count.toNat ∧ region.payloadRegion = payload ∧
      (region.descriptors = [] ∧ payload = [] ∨ region.descriptors ≠ [] ∧
        Describes bitmap region.descriptors payload) := by
  have hmask : validateMaskU32 bitmap payloadKindKnownMask = .ok () ↔
      bitmap &&& ~~~payloadKindKnownMask = 0 := by
    rw [validateMaskU32]
    split_ifs with h
    · exact iff_of_false nofun h
    · exact iff_of_true rfl (not_not.mp h)
  rw [TypedPayloadDescriptor.codec.bytesOfAll_iff, TypedPayloadRegion.parse]
  simp only [bind_eq_ok, exists_unit, ensure_eq_ok, hmask]
  obtain ⟨ds, bytes⟩ := region
  by_cases hcount : count = 0
  · subst hcount
    simp only [if_true, bind_eq_ok, exists_unit, ensure_eq_ok, pure_eq_ok,
      TypedPayloadRegion.mk.injEq]
    constructor
    · rintro ⟨hbits, -, ⟨rfl, rfl⟩, rfl, rfl⟩
      exact ⟨hbits, ⟨rfl, rfl⟩, rfl, rfl, .inl ⟨rfl, rfl⟩⟩
    · rintro ⟨hbits, ⟨hlen, -⟩, hds, rfl, hparts⟩
      obtain rfl := List.length_eq_zero_iff.mp hds
      rw [List.length_nil, Nat.zero_mul] at hlen
      have hempty := hparts.elim And.right fun h => absurd rfl h.1
      exact ⟨hbits, hlen, ⟨List.length_eq_zero_iff.mp hlen, hempty⟩, rfl, rfl⟩
  · have hne (hds : ds.length = count.toNat) : ds ≠ [] := by
      rintro rfl
      exact hcount (UInt16.toNat_inj.mp hds.symm)
    rw [if_neg hcount]
    simp only [bind_eq_ok, exists_unit, validate_eq_ok, pure_eq_ok]
    constructor
    · rintro ⟨hbits, hlen, _, hchunks, ⟨hds, h⟩, hregion⟩
      cases hregion
      rw [hds]
      exact ⟨hbits, ⟨hlen, hchunks⟩, rfl, rfl, .inr ⟨hne hds, h⟩⟩
    · rintro ⟨hbits, ⟨hlen, hchunks⟩, hds, rfl, hparts⟩
      rw [hds] at hlen hchunks
      have h := (hparts.resolve_left fun h => hne hds h.1).2
      exact ⟨hbits, hlen, ds, hchunks, ⟨hds, h⟩, rfl⟩

theorem viewsOf_tile (h : Packed start ds payload.length) :
    ∃ views, TypedPayloadRegion.viewsOf payload ds = some (.ok views) ∧
      views.map (·.descriptor) = ds ∧ (∀ v ∈ views, v.payload.length = v.descriptor.length.toNat) ∧
      (views.map (·.payload)).flatten = payload.drop start := by
  induction ds generalizing start with
  | nil =>
    refine ⟨[], rfl, rfl, nofun, ?_⟩
    rw [← h.symm, List.drop_length]
    rfl
  | cons d ds ih =>
    obtain ⟨rfl, hfits, hpacked⟩ := h
    obtain ⟨views, hviews, hdescs, hlens, hflatten⟩ := ih hpacked
    have hstop := hpacked.le
    set stop := d.offset.toNat + d.length.toNat
    have hslice : sliceRange payload d.offset.toNat stop =
        some ((payload.drop d.offset.toNat).take d.length.toNat) := by
      rw [sliceRange, if_pos ⟨Nat.le_add_right _ _, hstop⟩, Nat.add_sub_cancel_left]
    refine ⟨⟨d, (payload.drop d.offset.toNat).take d.length.toNat⟩ :: views, ?_, ?_, ?_, ?_⟩
    · rw [TypedPayloadRegion.viewsOf, checkedPayloadEnd_eq_ok.mpr ⟨hfits, rfl⟩]
      dsimp only
      rw [hslice, hviews]
      rfl
    · rw [List.map_cons, hdescs]
    · rw [List.forall_mem_cons, List.length_take, List.length_drop]
      exact ⟨Nat.min_eq_left (Nat.le_sub_of_add_le' hstop), hlens⟩
    · rw [List.map_cons, List.flatten_cons, hflatten, ← List.drop_drop, List.take_append_drop]

/-- The region was parsed from bytes or built from parts. -/
def TypedPayloadRegion.Accepted : Prop :=
  (∃ bitmap count source payload,
    TypedPayloadRegion.parse bitmap count source payload = .ok region) ∨
  ∃ bitmap ds payload, TypedPayloadRegion.fromParts bitmap ds payload = .ok region

theorem TypedPayloadRegion.Accepted.packed (h : region.Accepted) :
    Packed 0 region.descriptors region.payloadRegion.length := by
  rcases h with ⟨_, _, _, _, h⟩ | ⟨_, _, _, h⟩
  · obtain ⟨-, -, -, rfl, ⟨hds, hpay⟩ | ⟨-, h⟩⟩ := parse_eq_ok.mp h
    · rw [hds, hpay]
      exact rfl
    · exact h.packed
  · obtain ⟨-, hdescribes, rfl⟩ := fromParts_eq_ok.mp h
    exact hdescribes.packed

theorem Packed.fits (h : Packed start ds stop) :
    ∀ d ∈ ds, d.offset.toNat + d.length.toNat < 2 ^ 32 := by
  induction ds generalizing start with
  | nil => nofun
  | cons d ds ih =>
    obtain ⟨rfl, hfits, hpacked⟩ := h
    exact List.forall_mem_cons.mpr ⟨hfits, ih hpacked⟩

/-- The views of an accepted region are those of its descriptors, one after the other, and together
they are the payload. No end overflows, and no slice is out of range. -/
theorem frame_views_tile (h : region.Accepted) :
    (∀ d ∈ region.descriptors, d.offset.toNat + d.length.toNat < 2 ^ 32) ∧
    ∃ views, region.frameViews = some (.ok views) ∧ views.map (·.descriptor) = region.descriptors ∧
      (∀ v ∈ views, v.payload.length = v.descriptor.length.toNat) ∧
      (views.map (·.payload)).flatten = region.payloadRegion :=
  ⟨h.packed.fits, viewsOf_tile h.packed⟩

def tokenFrame : TypedPayloadDescriptor :=
  { profileId := standardProfileToken, payloadKind := .tokenChunk, descriptorFlags := 0
    schemaId := 0x1001, schemaVersion := 3, streamSemantics := 2, offset := 0, length := 2 }

def tokenFrames : TypedPayloadRegion where
  descriptors := [tokenFrame, { tokenFrame with offset := 2, length := 3 }]
  payloadRegion := [104, 105, 33, 33, 33]

theorem frame_views_tile_token : ∃ views, tokenFrames.frameViews = some (.ok views) ∧
    views.map (·.descriptor) = tokenFrames.descriptors ∧
    (∀ v ∈ views, v.payload.length = v.descriptor.length.toNat) ∧
    (views.map (·.payload)).flatten = [104, 105, 33, 33, 33] := by
  have hacc : tokenFrames.Accepted :=
    .inr ⟨2, tokenFrames.descriptors, tokenFrames.payloadRegion, by decide +kernel⟩
  exact (frame_views_tile hacc).2

def parseEncoded (bitmap : UInt32) (ds : List TypedPayloadDescriptor) (payload : Bytes) :
    Except NnrpError TypedPayloadRegion := do
  let source ← bytesOfAll typedPayloadDescriptorLen TypedPayloadDescriptor.write ds
  TypedPayloadRegion.parse bitmap (.ofNat ds.length) source payload

def NamesAbsent (bitmap : UInt32) (ds : List TypedPayloadDescriptor) (payload : Bytes) : Prop :=
  ds = [] ∧ payload = [] ∧ bitmap &&& ~~~payloadKindKnownMask = 0 ∧
    bitmap &&& ~~~payloadKindTensor ≠ 0

def HasUnknownFlags (bitmap : UInt32) (ds : List TypedPayloadDescriptor) (payload : Bytes) : Prop :=
  ds.length < 2 ^ 16 ∧ Describes bitmap ds payload ∧
    ∃ d ∈ ds, d.descriptorFlags &&& ~~~descriptorFlagsKnownMask ≠ 0

theorem kindUnion_known (ds : List TypedPayloadDescriptor) :
    kindUnion ds &&& ~~~payloadKindKnownMask = 0 := by
  have hfold (union : UInt32) (h : union &&& ~~~payloadKindKnownMask = 0) :
      ds.foldl (fun union d => union ||| d.payloadKind.bit) union &&& ~~~payloadKindKnownMask =
        0 := by
    induction ds generalizing union with
    | nil => exact h
    | cons d ds ih =>
      have hbit : d.payloadKind.bit &&& ~~~payloadKindKnownMask = 0 := by
        cases d.payloadKind <;> decide
      refine ih _ ?_
      rw [← UInt32.toNat_inj, UInt32.toNat_and, UInt32.toNat_or, Nat.and_or_distrib_right,
        ← UInt32.toNat_and, ← UInt32.toNat_and, h, hbit]
      rfl
  exact hfold 0 rfl

theorem Describes.known (h : Describes bitmap ds payload) :
    bitmap &&& ~~~payloadKindKnownMask = 0 := by
  have hkinds := kindUnion_known ds
  have hmasks : ~~~payloadKindTensor &&& ~~~payloadKindKnownMask = ~~~payloadKindKnownMask := rfl
  rwa [h.kinds, UInt32.and_assoc, hmasks] at hkinds

theorem bytesOfAll_ok_iff :
    (∃ source, bytesOfAll typedPayloadDescriptorLen TypedPayloadDescriptor.write ds = .ok source) ↔
      ∀ d ∈ ds, d.descriptorFlags &&& ~~~descriptorFlagsKnownMask = 0 := by
  induction ds with
  | nil => simp [bytesOfAll]
  | cons d ds ih =>
    have hfirst : (∃ bytes, bytesOf typedPayloadDescriptorLen d.write = .ok bytes) ↔
        d.descriptorFlags &&& ~~~descriptorFlagsKnownMask = 0 := by
      simp only [TypedPayloadDescriptor.write, bytesOf_eq_ok, validateMaskU8]
      split_ifs with h
      · exact iff_of_false (by simp) h
      · exact iff_of_true (by simp) (not_not.mp h)
    rw [List.forall_mem_cons, ← hfirst, ← ih]
    simp [bytesOfAll, bind_eq_ok]

theorem parseEncoded_eq_ok : parseEncoded bitmap ds payload = .ok region ↔
    (∀ d ∈ ds, d.descriptorFlags &&& ~~~descriptorFlagsKnownMask = 0) ∧
      bitmap &&& ~~~payloadKindKnownMask = 0 ∧ ds.length < 2 ^ 16 ∧ region = ⟨ds, payload⟩ ∧
      (ds = [] ∧ payload = [] ∨ ds ≠ [] ∧ Describes bitmap ds payload) := by
  rw [parseEncoded, bind_eq_ok, ← bytesOfAll_ok_iff]
  constructor
  · rintro ⟨source, hsource, h⟩
    obtain ⟨hbits, hregion, hcount, rfl, hparts⟩ := parse_eq_ok.mp h
    obtain rfl := TypedPayloadDescriptor.codec.bytesOfAll_inj (by decide) hregion hsource
    exact ⟨⟨source, hsource⟩, hbits, hcount ▸ UInt16.toNat_lt _, rfl, hparts⟩
  · rintro ⟨⟨source, hsource⟩, hbits, hlen, rfl, hparts⟩
    exact ⟨source, hsource, parse_eq_ok.mpr ⟨hbits, hsource, (UInt16.toNat_ofNat_of_lt' hlen).symm,
      rfl, hparts⟩⟩

/-- Parsing the encoded descriptors and building from them agree, exactly when the bitmap names no
kind for want of descriptors and the flags can be encoded. -/
theorem parse_and_fromParts_interchangeable_iff (bitmap : UInt32)
    (ds : List TypedPayloadDescriptor) (payload : Bytes) :
    ((∀ region, parseEncoded bitmap ds payload = .ok region ↔
        TypedPayloadRegion.fromParts bitmap ds payload = .ok region) ∧
      ∀ count source region, TypedPayloadRegion.parse bitmap count source payload = .ok region →
        region.descriptorRegionBytes = .ok source) ↔
    ¬NamesAbsent bitmap ds payload ∧ ¬HasUnknownFlags bitmap ds payload := by
  have hreencodes (count source region)
      (h : TypedPayloadRegion.parse bitmap count source payload = .ok region) :
      region.descriptorRegionBytes = .ok source := (parse_eq_ok.mp h).2.1
  rw [and_iff_left hreencodes]
  simp only [parseEncoded_eq_ok, fromParts_eq_ok]
  constructor
  · intro h
    constructor
    · rintro ⟨rfl, rfl, hbits, hkinds⟩
      obtain ⟨-, hdescribes, -⟩ := (h _).mp ⟨nofun, hbits, by decide, rfl, .inl ⟨rfl, rfl⟩⟩
      exact hkinds hdescribes.kinds.symm
    · rintro ⟨hlen, hdescribes, d, hd, hflags⟩
      exact hflags (((h _).mpr ⟨hlen, hdescribes, rfl⟩).1 d hd)
  · rintro ⟨habsent, hunknown⟩ region
    constructor
    · rintro ⟨-, hbits, hlen, rfl, ⟨rfl, rfl⟩ | ⟨-, hdescribes⟩⟩
      · have hkinds : bitmap &&& ~~~payloadKindTensor = 0 := by
          by_contra hne
          exact habsent ⟨rfl, rfl, hbits, hne⟩
        exact ⟨hlen, ⟨nofun, rfl, hkinds.symm⟩, rfl⟩
      · exact ⟨hlen, hdescribes, rfl⟩
    · rintro ⟨hlen, hdescribes, rfl⟩
      have hflags : ∀ d ∈ ds, d.descriptorFlags &&& ~~~descriptorFlagsKnownMask = 0 := by
        intro d hd
        by_contra hne
        exact hunknown ⟨hlen, hdescribes, d, hd, hne⟩
      refine ⟨hflags, hdescribes.known, hlen, rfl, ?_⟩
      cases ds with
      | nil => exact .inl ⟨rfl, List.length_eq_zero_iff.mp hdescribes.packed.symm⟩
      | cons d ds => exact .inr ⟨nofun, hdescribes⟩

/-- A bitmap of token chunks without descriptors is parsed but not built. -/
theorem absent_tokens_parsed_not_built :
    parseEncoded 2 [] [] = .ok ⟨[], []⟩ ∧
      TypedPayloadRegion.fromParts 2 [] [] = .error (.invalidProtocolCombination
        "payload_kind_bitmap non-tensor bits must equal the typed descriptor kind union") := by
  decide +kernel

end Nnrp.Data
