import Nnrp.PacketRoundTrip

/-!
# Packets in a byte stream

`next` takes the first packet off the bytes that are there, reports that bytes are still missing,
or fails. Bytes that arrive later do not change a packet or a failure, and the packets that were
serialised one after the other are taken off in the same order.
-/

namespace Nnrp.Framing
open ByteOrder Fallible Packet List RuntimePacket CommonHeader

def validatePacketLen (maxPacketBytes declared : ℕ) : Except RuntimeError Unit :=
  if maxPacketBytes < declared then .error (.frameTooLarge declared maxPacketBytes) else .ok ()

theorem validatePacketLen_eq_ok {max declared : ℕ} :
    validatePacketLen max declared = .ok () ↔ declared ≤ max := by
  rw [validatePacketLen]
  split_ifs with h
  · simpa using h
  · simpa using h

def headerOf (max : ℕ) (bytes : Bytes) : Except RuntimeError (CommonHeader × ℕ) := do
  let header ← liftNnrp (parse (bytes.take commonHeaderLen))
  let packetLen ← liftNnrp header.packetLen
  validatePacketLen max packetLen
  pure (header, packetLen)

inductive Next
  | incomplete
  | failed (error : RuntimeError)
  | packet (packet : RuntimePacket) (rest : Bytes)
  deriving DecidableEq

def packetAt (header : CommonHeader) (bytes : Bytes) : RuntimePacket where
  header := header
  metadata := slice bytes commonHeaderLen header.metaLen.toNat
  body := slice bytes (commonHeaderLen + header.metaLen.toNat) header.bodyLen.toNat

def next (max : ℕ) (bytes : Bytes) : Next :=
  if bytes.length < commonHeaderLen then .incomplete
  else
    match headerOf max bytes with
    | .error e => .failed e
    | .ok (header, packetLen) =>
      if bytes.length < packetLen then .incomplete
      else .packet (packetAt header bytes) (bytes.drop packetLen)

variable {max n : ℕ} {bytes rest later : Bytes} {header : CommonHeader} {p : RuntimePacket}
  {e : RuntimeError}

theorem headerOf_eq_ok : headerOf max bytes = .ok (header, n) ↔
    parse (bytes.take 40) = .ok header ∧ header.packetLen = .ok n ∧ n ≤ max := by
  simp only [headerOf]
  constructor
  · intro h
    obtain ⟨_, hparse, h⟩ := bind_eq_ok.mp h
    obtain ⟨_, hlen, h⟩ := bind_eq_ok.mp h
    obtain ⟨_, hmax, h⟩ := bind_eq_ok.mp h
    cases h
    exact ⟨liftNnrp_eq_ok.mp hparse, liftNnrp_eq_ok.mp hlen, validatePacketLen_eq_ok.mp hmax⟩
  · rintro ⟨hparse, hlen, hmax⟩
    simp only [commonHeaderLen, hparse, hlen, liftNnrp, ok_bind, validatePacketLen_eq_ok.mpr hmax]
    rfl

theorem headerOf_append (hlen : 40 ≤ bytes.length) :
    headerOf max (bytes ++ later) = headerOf max bytes := by
  rw [headerOf, headerOf, commonHeaderLen, take_append_of_le_length hlen]

theorem packetAt_append (later : Bytes)
    (hlen : 40 + header.metaLen.toNat + header.bodyLen.toNat ≤ bytes.length) :
    packetAt header (bytes ++ later) = packetAt header bytes := by
  rw [packetAt, packetAt, slice_append, slice_append]
  · rw [commonHeaderLen]
    exact hlen
  · rw [commonHeaderLen]
    omega

theorem next_eq_incomplete : next max bytes = .incomplete ↔ bytes.length < 40 ∨
    ∃ header n, headerOf max bytes = .ok (header, n) ∧ bytes.length < n := by
  rw [next, commonHeaderLen]
  split_ifs with hshort
  · simp [hshort]
  · cases hhdr : headerOf max bytes with
    | error e => simp [hshort]
    | ok found =>
      obtain ⟨header, n⟩ := found
      by_cases hlen : bytes.length < n
      · simp [hlen]
      · simp [hlen, hshort]

theorem next_eq_failed :
    next max bytes = .failed e ↔ 40 ≤ bytes.length ∧ headerOf max bytes = .error e := by
  rw [next, commonHeaderLen]
  split_ifs with hshort
  · simp [hshort]
  · cases hhdr : headerOf max bytes with
    | error e' => simp [not_lt.mp hshort]
    | ok found =>
      obtain ⟨header, n⟩ := found
      by_cases hlen : bytes.length < n
      all_goals simp [hlen]

theorem next_eq_packet : next max bytes = .packet p rest ↔ 40 ≤ bytes.length ∧
    ∃ header n, headerOf max bytes = .ok (header, n) ∧ n ≤ bytes.length ∧
      p = packetAt header bytes ∧ rest = bytes.drop n := by
  rw [next, commonHeaderLen]
  split_ifs with hshort
  · simp [hshort]
  · cases hhdr : headerOf max bytes with
    | error e => simp
    | ok found =>
      obtain ⟨header, n⟩ := found
      by_cases hlen : bytes.length < n
      · simp [hlen, not_le.mpr hlen]
      · simp [hlen, not_lt.mp hshort, not_lt.mp hlen, eq_comm]

theorem packetLen_of_headerOf (h : headerOf max bytes = .ok (header, n)) :
    n = 40 + header.metaLen.toNat + header.bodyLen.toNat :=
  (packetLen_eq_ok.mp (headerOf_eq_ok.mp h).2.1).2

theorem next_append_packet (h : next max bytes = .packet p rest) (later : Bytes) :
    next max (bytes ++ later) = .packet p (rest ++ later) := by
  obtain ⟨hshort, header, n, hhdr, hlen, rfl, rfl⟩ := next_eq_packet.mp h
  have hn := packetLen_of_headerOf hhdr
  refine next_eq_packet.mpr ⟨?_, header, n, ?_, ?_, ?_, ?_⟩
  · rw [length_append]
    omega
  · rw [headerOf_append hshort, hhdr]
  · rw [length_append]
    omega
  · rw [packetAt_append later (hn ▸ hlen)]
  · rw [drop_append_of_le_length hlen]

theorem next_append_failed (h : next max bytes = .failed e) (later : Bytes) :
    next max (bytes ++ later) = .failed e := by
  obtain ⟨hshort, hhdr⟩ := next_eq_failed.mp h
  refine next_eq_failed.mpr ⟨?_, ?_⟩
  · rw [length_append]
    omega
  · rw [headerOf_append hshort, hhdr]

theorem next_rest_length (h : next max bytes = .packet p rest) :
    rest.length + 40 ≤ bytes.length := by
  obtain ⟨hshort, header, n, hhdr, hlen, rfl, rfl⟩ := next_eq_packet.mp h
  have hn := packetLen_of_headerOf hhdr
  rw [length_drop]
  omega

/-- A packet that is serialised within the limit, under the current version, and whose header
declares the lengths of its parts. -/
structure Framed (max : ℕ) (p : RuntimePacket) : Prop where
  serializes : ∃ bytes, p.toBytes = .ok bytes ∧ bytes.length ≤ max
  version : p.header.versionMajor = currentVersionMajor
  format : p.header.wireFormat = currentWireFormat
  metaLen : p.metadata.length = p.header.metaLen.toNat
  bodyLen : p.body.length = p.header.bodyLen.toNat

namespace Framed

theorem serialized_eq (hp : Framed max p) :
    p.serialized = p.header.encoded ++ p.metadata ++ p.body := by
  obtain ⟨bytes, hbytes, -⟩ := hp.serializes
  rw [serialized_of_toBytes hbytes]
  exact (toBytes_eq_ok.mp hbytes).2.2.2

theorem serialized_length (hp : Framed max p) :
    p.serialized.length = 40 + p.metadata.length + p.body.length := by
  rw [hp.serialized_eq, length_append, length_append, encoded_length]

theorem headerOf_serialized (hp : Framed max p) (rest : Bytes) :
    headerOf max (p.serialized ++ rest) =
      .ok (p.header, 40 + p.metadata.length + p.body.length) := by
  obtain ⟨bytes, hbytes, hlimit⟩ := hp.serializes
  rw [← serialized_of_toBytes hbytes, hp.serialized_length] at hlimit
  obtain ⟨⟨n, hlen⟩, hhdr, hflags, -⟩ := toBytes_eq_ok.mp hbytes
  have htotal := (packetLen_eq_ok.mp hlen).2
  rw [← hp.metaLen, ← hp.bodyLen] at htotal
  have htake : (p.serialized ++ rest).take 40 = p.header.encoded := by
    rw [hp.serialized_eq, append_assoc, append_assoc, take_left' p.header.encoded_length]
  have hparse := parse_encoded_append ⟨hp.version, hp.format, hflags⟩ hhdr []
  rw [append_nil] at hparse
  exact headerOf_eq_ok.mpr ⟨htake ▸ hparse, htotal ▸ hlen, hlimit⟩

theorem next_serialized (hp : Framed max p) (rest : Bytes) :
    next max (p.serialized ++ rest) = .packet p rest := by
  have hlen := hp.serialized_length
  refine next_eq_packet.mpr ⟨?_, _, _, hp.headerOf_serialized rest, ?_, ?_, ?_⟩
  · rw [length_append, hlen]
    omega
  · rw [length_append, hlen]
    omega
  · rw [packetAt, slice, slice, ← hp.metaLen, ← hp.bodyLen, hp.serialized_eq, commonHeaderLen,
      ← drop_drop, append_assoc, append_assoc,
      drop_left' p.header.encoded_length, take_left, drop_left, take_left]
  · rw [← hlen, drop_left]

end Framed

theorem parse_take (hlen : 40 ≤ bytes.length) : parse bytes = parse (bytes.take 40) := by
  have hforty : (bytes.take 40).length = 40 := by
    rw [length_take]
    omega
  have happend := parse_append (bytes.drop 40) hforty
  rw [take_append_drop] at happend
  exact happend

theorem packetAt_lengths (hn : bytes.length = 40 + header.metaLen.toNat + header.bodyLen.toNat) :
    (packetAt header bytes).metadata.length = header.metaLen.toNat ∧
      (packetAt header bytes).body.length = header.bodyLen.toNat := by
  simp only [packetAt, slice, commonHeaderLen, length_take, length_drop]
  omega

theorem parsePacket_eq (hparse : parse (bytes.take 40) = .ok header)
    (hpkt : header.packetLen = .ok n) (hn : bytes.length = n) : parsePacket bytes =
      .ok (header, (packetAt header bytes).metadata, (packetAt header bytes).body) := by
  obtain ⟨-, htotal⟩ := packetLen_eq_ok.mp hpkt
  have hbody : bytes.drop (40 + header.metaLen.toNat) =
      slice bytes (40 + header.metaLen.toNat) header.bodyLen.toNat := by
    rw [slice, take_of_length_le]
    rw [length_drop]
    omega
  rw [parsePacket, parse_take (by omega), hparse, ok_bind, hpkt, ok_bind, hn, if_neg (by simp)]
  dsimp only
  rw [commonHeaderLen, hbody]
  rfl

theorem fromParts_packetAt (hpkt : header.packetLen = .ok n) (hn : bytes.length = n) :
    fromParts header (packetAt header bytes).metadata (packetAt header bytes).body =
      .ok (packetAt header bytes) := by
  obtain ⟨-, htotal⟩ := packetLen_eq_ok.mp hpkt
  obtain ⟨hmeta, hbody⟩ := packetAt_lengths (hn.trans htotal)
  refine fromParts_eq_ok.mpr ⟨?_, rfl⟩
  rw [hpkt, hmeta, hbody, htotal]

theorem packetAt_take (hn : n = 40 + header.metaLen.toNat + header.bodyLen.toNat)
    (hlen : n ≤ bytes.length) : packetAt header (bytes.take n) = packetAt header bytes := by
  have hshort : 40 + header.metaLen.toNat + header.bodyLen.toNat ≤ (bytes.take n).length := by
    rw [length_take]
    omega
  have happend := packetAt_append (bytes.drop n) hshort
  rw [take_append_drop] at happend
  exact happend.symm

/-- The packets that are taken off a stream until it fails or ends. -/
def frames (max : ℕ) (stream : Bytes) : List RuntimePacket :=
  match h : next max stream with
  | .packet p rest =>
    have : rest.length < stream.length := by
      have := next_rest_length h
      omega
    p :: frames max rest
  | .incomplete | .failed _ => []
termination_by stream.length

end Nnrp.Framing
