import Nnrp.Layout
import Nnrp.Packet

/-!
# The wire format of a packet

What `to_bytes` writes for a packet, and what the header parser reads from it again. A packet is
written as its forty header bytes, its metadata and its body; only the two lengths in the header
say where the metadata ends.
-/

namespace Nnrp.Packet
open Protocol ByteOrder List Fallible

namespace CommonHeader

def fields (h : CommonHeader) : List (ℕ × Bytes) :=
  [(0, magic), putU8 4 h.versionMajor, putU8 5 h.wireFormat, putU8 6 h.messageType.code,
    putU8 7 h.headerLen, putU32 8 h.flags, putU32 12 h.metaLen, putU32 16 h.bodyLen,
    putU32 20 h.sessionId, putU32 24 h.frameId, putU16 28 h.viewId, putU16 30 h.routeId,
    putU64 32 h.traceId]

theorem fields_fits (h : CommonHeader) : Fits 40 h.fields := by
  have hord : Ordered 40 0 h.fields := by simp [Ordered, fields, magic]
  exact hord.fits

def encoded (h : CommonHeader) : Bytes := putAll (replicate 40 0) h.fields

variable {h : CommonHeader} {bytes : Bytes}

theorem encoded_length (h : CommonHeader) : h.encoded.length = 40 :=
  putAll_zeros_length h.fields_fits

theorem toBytes_eq_ok : h.toBytes = .ok bytes ↔
    h.headerLen = 40 ∧ validateKnownFlags h.flags = .ok () ∧ bytes = h.encoded := by
  have hlen : requireDestinationLen (replicate commonHeaderLen 0) commonHeaderLen = .ok () := rfl
  simp only [toBytes, write, hlen, ok_bind]
  constructor
  · intro hb
    split_ifs at hb with hhdr
    · cases hb
    obtain ⟨_, hflags, hb⟩ := bind_eq_ok.mp hb
    have hbytes : putAll (replicate commonHeaderLen 0) h.fields = bytes := Except.ok.inj hb
    exact ⟨not_not.mp hhdr, hflags, hbytes.symm⟩
  · rintro ⟨hhdr, hflags, hbytes⟩
    rw [if_neg (not_not.mpr hhdr), hflags, hbytes]
    rfl

theorem slice_encoded_magic (h : CommonHeader) : slice h.encoded 0 4 = magic := by
  have hmem : (0, magic) ∈ h.fields := mem_cons_self
  have hfits : Fits (replicate 40 (0 : UInt8)).length h.fields := h.fields_fits
  have hlen : magic.length = 4 := rfl
  have hslice := slice_putAll hfits hmem
  rw [hlen] at hslice
  exact hslice

theorem magic_starts_encoded (h : CommonHeader) : magic <+: h.encoded := by
  have hmagic := slice_encoded_magic h
  rw [slice, drop_zero] at hmagic
  exact hmagic ▸ take_prefix 4 _

theorem parse_append (rest : Bytes) (hlen : bytes.length = 40) :
    parse (bytes ++ rest) = parse bytes := by
  have hslice : ∀ offset width, offset + width ≤ 40 →
      slice (bytes ++ rest) offset width = slice bytes offset width :=
    fun offset width hle => slice_append (hlen ▸ hle)
  have h8 : ∀ offset, offset + 1 ≤ 40 → readU8 (bytes ++ rest) offset = readU8 bytes offset := by
    intro offset hle
    rw [readU8_eq, readU8_eq, hslice offset 1 hle]
  have hrequire : requireLen (bytes ++ rest) commonHeaderLen =
      requireLen bytes commonHeaderLen := by
    simp [requireLen, commonHeaderLen, hlen]
  have h32 : ∀ offset, offset + 4 ≤ 40 → readU32 (bytes ++ rest) offset = readU32 bytes offset :=
    fun offset hle => by rw [readU32, readU32, hslice offset 4 hle]
  have h16 : ∀ offset, offset + 2 ≤ 40 → readU16 (bytes ++ rest) offset = readU16 bytes offset :=
    fun offset hle => by rw [readU16, readU16, hslice offset 2 hle]
  have h64 : readU64 (bytes ++ rest) 32 = readU64 bytes 32 := by
    rw [readU64, readU64, hslice 32 8 (by decide)]
  simp (disch := decide) only [parse, hslice 0 4, h8, h16, h32, h64, hrequire]

theorem parse_encoded (hver : h.versionMajor = currentVersionMajor)
    (hformat : h.wireFormat = currentWireFormat) (hhdr : h.headerLen = 40)
    (hflags : validateKnownFlags h.flags = .ok ()) : parse h.encoded = .ok h := by
  have hholds : Holds 40 h.encoded 0 h.fields := holds_putAll h.fields_fits
  obtain ⟨-, -, hrest⟩ := hholds
  simp only [holds_putU8, holds_putU16, holds_putU32, holds_putU64] at hrest
  have hrequire : requireLen h.encoded commonHeaderLen = .ok () := by
    simp [requireLen, commonHeaderLen, encoded_length]
  simp only [parse, hrequire, slice_encoded_magic, hrest, hflags, hver, hformat, hhdr,
    MessageType.tryFromU8_code, ok_bind, ne_eq, not_true_eq_false, if_false]
  rw [← hver, ← hformat, ← hhdr]
  rfl

-- from here on only the lemmas above say what the bytes are
attribute [irreducible] encoded

end CommonHeader

namespace RuntimePacket

/-- What a transport writes; a packet that cannot be serialised is refused before. -/
def serialized (p : RuntimePacket) : Bytes :=
  match p.toBytes with
  | .ok bytes => bytes
  | .error _ => []

theorem serialized_of_toBytes {p : RuntimePacket} {bytes : Bytes} (h : p.toBytes = .ok bytes) :
    p.serialized = bytes := by
  rw [serialized, h]

theorem serialized_starts (p : RuntimePacket) : p.serialized = [] ∨ magic <+: p.serialized := by
  rw [serialized]
  cases hp : p.toBytes with
  | error e => exact .inl rfl
  | ok bytes =>
    simp only [toBytes] at hp
    obtain ⟨_, -, hp⟩ := bind_eq_ok.mp hp
    obtain ⟨headerBytes, hhdr, hp⟩ := bind_eq_ok.mp hp
    have hbytes : headerBytes ++ p.metadata ++ p.body = bytes := Except.ok.inj hp
    obtain ⟨-, -, henc⟩ := CommonHeader.toBytes_eq_ok.mp hhdr
    right
    rw [← hbytes, henc, append_assoc]
    exact p.header.magic_starts_encoded.trans (prefix_append _ _)

end RuntimePacket

end Nnrp.Packet
