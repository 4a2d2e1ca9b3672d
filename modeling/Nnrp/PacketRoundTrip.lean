import Nnrp.HeaderCodec

/-!
# Packets on the wire

Which packets survive serialisation: `to_bytes` has to succeed, and the header that the bytes
contain has to split them into the same metadata and body.
-/

namespace Nnrp.Packet
open Protocol ByteOrder Fallible List RuntimePacket CommonHeader

variable {header : CommonHeader} {metadata body : Bytes} {p : RuntimePacket} {bytes : Bytes}

theorem RuntimePacket.toBytes_eq_ok : p.toBytes = .ok bytes ↔
    (∃ n, p.header.packetLen = .ok n) ∧ p.header.headerLen = 40 ∧
      validateKnownFlags p.header.flags = .ok () ∧
      bytes = p.header.encoded ++ p.metadata ++ p.body := by
  simp only [toBytes]
  constructor
  · intro h
    obtain ⟨n, hlen, h⟩ := bind_eq_ok.mp h
    obtain ⟨headerBytes, hhdr, h⟩ := bind_eq_ok.mp h
    obtain ⟨hheaderLen, hflags, henc⟩ := CommonHeader.toBytes_eq_ok.mp hhdr
    have hbytes : headerBytes ++ p.metadata ++ p.body = bytes := Except.ok.inj h
    rw [← henc]
    exact ⟨⟨n, hlen⟩, hheaderLen, hflags, hbytes.symm⟩
  · rintro ⟨⟨n, hlen⟩, hheaderLen, hflags, hbytes⟩
    have hhdr := CommonHeader.toBytes_eq_ok.mpr ⟨hheaderLen, hflags, rfl⟩
    rw [hlen, ok_bind, hhdr, ok_bind, hbytes]
    rfl

structure CommonHeader.Current (h : CommonHeader) : Prop where
  version : h.versionMajor = currentVersionMajor
  format : h.wireFormat = currentWireFormat
  flags : validateKnownFlags h.flags = .ok ()

theorem CommonHeader.parse_encoded_append (hcur : header.Current) (hhdr : header.headerLen = 40)
    (rest : Bytes) : parse (header.encoded ++ rest) = .ok header := by
  rw [parse_append rest header.encoded_length]
  exact parse_encoded hcur.version hcur.format hhdr hcur.flags

/-- A packet as a receiver splits it. -/
def RuntimePacket.Survives (p : RuntimePacket) : Prop :=
  ∃ bytes, p.toBytes = .ok bytes ∧
    parsePacket bytes = .ok (p.header, p.metadata, p.body)

theorem CommonHeader.parsePacket_encoded (hcur : header.Current) (hhdr : header.headerLen = 40)
    (hlen : header.packetLen = .ok (40 + metadata.length + body.length)) :
    parsePacket (header.encoded ++ metadata ++ body) =
      .ok (header, (metadata ++ body).take header.metaLen.toNat,
        (metadata ++ body).drop header.metaLen.toNat) := by
  have hparse := parse_encoded_append hcur hhdr (metadata ++ body)
  have htotal : (header.encoded ++ (metadata ++ body)).length =
      40 + metadata.length + body.length := by
    simp only [length_append, encoded_length]
    omega
  have hdrop : ∀ n, (header.encoded ++ (metadata ++ body)).drop (40 + n) =
      (metadata ++ body).drop n := by
    intro n
    rw [← drop_drop, drop_left' header.encoded_length]
  rw [append_assoc, parsePacket, hparse, ok_bind, hlen, ok_bind, htotal, if_neg (by simp)]
  have hslice : slice (header.encoded ++ (metadata ++ body)) commonHeaderLen header.metaLen.toNat =
      (metadata ++ body).take header.metaLen.toNat := by
    rw [slice, commonHeaderLen, drop_left' header.encoded_length]
  dsimp only
  rw [hslice, commonHeaderLen, hdrop]
  rfl

theorem RuntimePacket.survives_iff (hcur : p.header.Current)
    (hlen : p.header.packetLen = .ok (40 + p.metadata.length + p.body.length)) :
    p.Survives ↔ p.header.headerLen = 40 ∧ p.metadata.length = p.header.metaLen.toNat := by
  constructor
  · rintro ⟨bytes, hbytes, hsplit⟩
    obtain ⟨-, hhdr, -, rfl⟩ := toBytes_eq_ok.mp hbytes
    refine ⟨hhdr, ?_⟩
    rw [parsePacket_encoded hcur hhdr hlen] at hsplit
    have hmeta : (p.metadata ++ p.body).take p.header.metaLen.toNat = p.metadata :=
      congrArg (fun parts => parts.2.1) (Except.ok.inj hsplit)
    have hlength := congrArg length hmeta
    obtain ⟨-, htotal⟩ := packetLen_eq_ok.mp hlen
    rw [length_take, length_append] at hlength
    omega
  · rintro ⟨hhdr, hmeta⟩
    refine ⟨_, toBytes_eq_ok.mpr ⟨⟨_, hlen⟩, hhdr, hcur.flags, rfl⟩, ?_⟩
    rw [parsePacket_encoded hcur hhdr hlen, ← hmeta, take_left, drop_left]

theorem RuntimePacket.fromParts_eq_ok : fromParts header metadata body = .ok p ↔
    header.packetLen = .ok (40 + metadata.length + body.length) ∧ p = ⟨header, metadata, body⟩ := by
  simp only [fromParts]
  constructor
  · intro h
    obtain ⟨declared, hdeclared, h⟩ := bind_eq_ok.mp h
    split_ifs at h with hne
    · cases h
    cases h
    rw [hdeclared, not_not.mp hne]
    exact ⟨rfl, rfl⟩
  · rintro ⟨hlen, rfl⟩
    rw [hlen, ok_bind, if_neg (by simp [commonHeaderLen])]
    rfl

/-- Every packet that `new` builds survives if its header length is the fixed one; one that
`from_parts` accepts also needs metadata of the length that its header declares. -/
theorem constructed_packet_survives_iff (header : CommonHeader) (metadata body : Bytes)
    (hcurrent : header.Current) : (∀ p, new header metadata body = .ok p →
      (p.Survives ↔ header.headerLen = 40)) ∧ (∀ p, fromParts header metadata body = .ok p →
      (p.Survives ↔ header.headerLen = 40 ∧ metadata.length = header.metaLen.toNat)) := by
  constructor
  · intro p hp
    obtain ⟨hhdr, hmeta, -, hlen⟩ := new_lengths hp
    have hpcurrent : p.header.Current := by
      rw [hhdr]
      exact ⟨hcurrent.version, hcurrent.format, hcurrent.flags⟩
    rw [survives_iff hpcurrent hlen, hhdr]
    exact and_iff_left hmeta
  · intro p hp
    obtain ⟨hlen, rfl⟩ := fromParts_eq_ok.mp hp
    exact survives_iff hcurrent hlen

theorem CommonHeader.current_new (ty : MessageType) (metaLen bodyLen : UInt32) :
    (new ty metaLen bodyLen).Current := by
  refine ⟨rfl, rfl, ?_⟩
  change validateKnownFlags 0 = .ok ()
  decide

theorem constructed_packet_survives_ping : (∃ p, new (new .ping 0 0) [1] [2] = .ok p ∧ p.Survives) ∧
    (∃ p, fromParts (new .ping 1 1) [1] [2] = .ok p ∧ p.Survives) := by
  have hnew := constructed_packet_survives_iff _ [1] [2] (current_new .ping 0 0)
  have hparts := constructed_packet_survives_iff _ [1] [2] (current_new .ping 1 1)
  exact ⟨⟨_, rfl, (hnew.1 _ rfl).mpr rfl⟩, ⟨_, rfl, (hparts.2 _ rfl).mpr ⟨rfl, rfl⟩⟩⟩

/-- One byte of metadata is declared as a byte of the body. -/
theorem misplaced_boundary_not_survives : (new .ping 0 1).Current ∧
    fromParts (new .ping 0 1) [7] [] = .ok ⟨new .ping 0 1, [7], []⟩ ∧
    ¬RuntimePacket.Survives ⟨new .ping 0 1, [7], []⟩ := by
  have hcur := current_new .ping 0 1
  refine ⟨hcur, rfl, ?_⟩
  rw [survives_iff hcur rfl]
  decide

end Nnrp.Packet
