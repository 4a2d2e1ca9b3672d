import Nnrp.Fallible
import Nnrp.Protocol

/-!
# Packet headers and runtime packets

The forty-byte common header with its codec, and the runtime packet that carries a header, its
metadata bytes and its body bytes. Machine words of the target are 64 bits wide; the checked
additions on lengths keep their overflow branch.
-/

namespace Nnrp.Packet
open Protocol ByteOrder Fallible

variable {metadata body : Bytes}

def commonHeaderLen : ℕ := 40
def currentVersionMajor : UInt8 := 1
def currentWireFormat : UInt8 := 0
def magic : Bytes := [0x4e, 0x4e, 0x52, 0x50]

def checkedAddU32 (a b : UInt32) : Option UInt32 :=
  if a.toNat + b.toNat < 2 ^ 32 then some (a + b) else none

def checkedAddUsize (a b : ℕ) : Option ℕ := if a + b < 2 ^ 64 then some (a + b) else none

def headerFlagsKnownMask : UInt32 := 0x3f

structure CommonHeader where
  (versionMajor wireFormat : UInt8)
  messageType : MessageType
  headerLen : UInt8
  (flags metaLen bodyLen sessionId frameId : UInt32)
  (viewId routeId : UInt16)
  traceId : UInt64
  deriving DecidableEq

def CommonHeader.new (messageType : MessageType) (metaLen bodyLen : UInt32) : CommonHeader where
  versionMajor := currentVersionMajor
  wireFormat := currentWireFormat
  messageType := messageType
  headerLen := 40
  flags := 0
  metaLen := metaLen
  bodyLen := bodyLen
  sessionId := 0
  frameId := 0
  viewId := 0
  routeId := 0
  traceId := 0

def CommonHeader.packetLen (h : CommonHeader) : Except NnrpError ℕ :=
  match checkedAddU32 h.metaLen h.bodyLen with
  | none => .error .messageLengthOverflow
  | some payloadLen =>
    match checkedAddUsize commonHeaderLen payloadLen.toNat with
    | none => .error .messageLengthOverflow
    | some len => .ok len

def validateKnownFlags (flags : UInt32) : Except NnrpError Unit :=
  validateMaskU32 flags headerFlagsKnownMask

namespace CommonHeader

def write (h : CommonHeader) (destination : Bytes) : Except NnrpError Bytes := do
  requireDestinationLen destination commonHeaderLen
  if h.headerLen ≠ 40 then throw (.invalidHeaderLength h.headerLen)
  validateKnownFlags h.flags
  let d := putAt destination 0 magic
  let d := writeU8 d 4 h.versionMajor
  let d := writeU8 d 5 h.wireFormat
  let d := writeU8 d 6 h.messageType.code
  let d := writeU8 d 7 h.headerLen
  let d := writeU32 d 8 h.flags
  let d := writeU32 d 12 h.metaLen
  let d := writeU32 d 16 h.bodyLen
  let d := writeU32 d 20 h.sessionId
  let d := writeU32 d 24 h.frameId
  let d := writeU16 d 28 h.viewId
  let d := writeU16 d 30 h.routeId
  let d := writeU64 d 32 h.traceId
  pure d

def toBytes (h : CommonHeader) : Except NnrpError Bytes :=
  h.write (List.replicate commonHeaderLen 0)

def parse (source : Bytes) : Except NnrpError CommonHeader := do
  requireLen source commonHeaderLen
  if slice source 0 4 ≠ magic then throw .invalidMagic
  let versionMajor := readU8 source 4
  if versionMajor ≠ currentVersionMajor then throw (.unsupportedVersionMajor versionMajor)
  let wireFormat := readU8 source 5
  if wireFormat ≠ currentWireFormat then throw (.unsupportedWireFormat wireFormat)
  let headerLen := readU8 source 7
  if headerLen ≠ 40 then throw (.invalidHeaderLength headerLen)
  let flags := readU32 source 8
  validateKnownFlags flags
  let messageType ← MessageType.tryFromU8 (readU8 source 6)
  pure
    { versionMajor, wireFormat, messageType, headerLen, flags
      metaLen := readU32 source 12
      bodyLen := readU32 source 16
      sessionId := readU32 source 20
      frameId := readU32 source 24
      viewId := readU16 source 28
      routeId := readU16 source 30
      traceId := readU64 source 32 }

def parsePacket (source : Bytes) :
    Except NnrpError (CommonHeader × Bytes × Bytes) := do
  let header ← CommonHeader.parse source
  let declared ← header.packetLen
  if declared ≠ source.length then throw (.packetLengthMismatch declared source.length)
  let metaEnd := commonHeaderLen + header.metaLen.toNat
  pure (header, slice source commonHeaderLen header.metaLen.toNat, source.drop metaEnd)

end CommonHeader

inductive RuntimeTransportKind
  | tcp | quic | ipc | webSocket
  deriving DecidableEq

/-- The runtime errors that the modelled functions return. The diagnostic of a rejected session is
kept as the bytes that were received. -/
inductive RuntimeError
  | protocol (error : NnrpError)
  | serverListenerSetClosed
  | frameIdOverflow
  | transportClosed (transport : RuntimeTransportKind) (detail : String)
  | frameTooLarge (declared max : ℕ)
  | io (detail : String)
  | unexpectedMessage (message : String)
  | invalidRecoveryTicket (reason : String)
  | sessionRejected (code : UInt32) (diagnostic : Bytes)
  | internal (message : String)
  deriving DecidableEq

def liftNnrp {α : Type} : Except NnrpError α → Except RuntimeError α
  | .ok a => .ok a
  | .error e => .error (.protocol e)

theorem liftNnrp_eq_ok {α : Type} {x : Except NnrpError α} {a : α} :
    liftNnrp x = .ok a ↔ x = .ok a := by
  cases x <;> simp [liftNnrp]

structure RuntimePacket where
  header : CommonHeader
  (metadata body : Bytes)
  deriving DecidableEq

def checkedLen (value : ℕ) : Except NnrpError UInt32 :=
  if value < 2 ^ 32 then .ok (UInt32.ofNat value) else .error .messageLengthOverflow

def RuntimePacket.new (header : CommonHeader) (metadata body : Bytes) :
    Except NnrpError RuntimePacket := do
  let metaLen ← checkedLen metadata.length
  let bodyLen ← checkedLen body.length
  let header := { header with metaLen, bodyLen }
  let _ ← header.packetLen
  pure ⟨header, metadata, body⟩

/-- Only the sum of the two declared lengths is compared with what is there. -/
def RuntimePacket.fromParts (header : CommonHeader) (metadata body : Bytes) :
    Except NnrpError RuntimePacket := do
  let declaredLen ← header.packetLen
  let actualLen := commonHeaderLen + metadata.length + body.length
  if declaredLen ≠ actualLen then throw (.packetLengthMismatch declaredLen actualLen)
  pure ⟨header, metadata, body⟩

variable {header : CommonHeader} {p : RuntimePacket} {n : ℕ}

theorem RuntimePacket.new_ok (h : RuntimePacket.new header metadata body = .ok p) :
    p.metadata = metadata ∧ p.body = body ∧ p.header.messageType = header.messageType ∧
      p.header.sessionId = header.sessionId ∧ p.header.frameId = header.frameId := by
  simp only [RuntimePacket.new] at h
  obtain ⟨metaLen, -, h⟩ := bind_eq_ok.mp h
  obtain ⟨bodyLen, -, h⟩ := bind_eq_ok.mp h
  obtain ⟨len, -, h⟩ := bind_eq_ok.mp h
  cases h
  exact ⟨rfl, rfl, rfl, rfl, rfl⟩

theorem CommonHeader.packetLen_eq_ok : header.packetLen = .ok n ↔
    header.metaLen.toNat + header.bodyLen.toNat < 2 ^ 32 ∧
      n = 40 + header.metaLen.toNat + header.bodyLen.toNat := by
  rw [packetLen]
  by_cases hsum : header.metaLen.toNat + header.bodyLen.toNat < 2 ^ 32
  · have hsize : 40 + (header.metaLen.toNat + header.bodyLen.toNat) < 2 ^ 64 := by omega
    simp only [checkedAddU32, if_pos hsum, UInt32.toNat_add, Nat.mod_eq_of_lt hsum, checkedAddUsize,
      commonHeaderLen, if_pos hsize, Except.ok.injEq]
    omega
  · rw [checkedAddU32, if_neg hsum]
    exact iff_of_false nofun fun h => hsum h.1

theorem checkedLen_eq_ok {value : UInt32} :
    checkedLen n = .ok value ↔ n < 2 ^ 32 ∧ value.toNat = n := by
  rw [checkedLen]
  split_ifs with h
  · rw [Except.ok.injEq]
    constructor
    · rintro rfl
      exact ⟨h, UInt32.toNat_ofNat_of_lt h⟩
    · rintro ⟨-, hvalue⟩
      rw [← hvalue, UInt32.ofNat_toNat]
  · constructor
    · intro hok
      cases hok
    · rintro ⟨hlt, -⟩
      exact absurd hlt h

theorem RuntimePacket.new_lengths (h : RuntimePacket.new header metadata body = .ok p) :
    p.header = { header with metaLen := p.header.metaLen, bodyLen := p.header.bodyLen } ∧
      p.metadata.length = p.header.metaLen.toNat ∧ p.body.length = p.header.bodyLen.toNat ∧
      p.header.packetLen = .ok (40 + p.metadata.length + p.body.length) := by
  simp only [RuntimePacket.new] at h
  obtain ⟨metaLen, hmeta, h⟩ := bind_eq_ok.mp h
  obtain ⟨bodyLen, hbody, h⟩ := bind_eq_ok.mp h
  obtain ⟨len, hlen, h⟩ := bind_eq_ok.mp h
  cases h
  obtain ⟨-, hmeta⟩ := checkedLen_eq_ok.mp hmeta
  obtain ⟨-, hbody⟩ := checkedLen_eq_ok.mp hbody
  refine ⟨rfl, hmeta.symm, hbody.symm, ?_⟩
  obtain ⟨-, htotal⟩ := CommonHeader.packetLen_eq_ok.mp hlen
  rw [hlen, htotal]
  simp only [hmeta, hbody]

theorem RuntimePacket.new_of_fits (header : CommonHeader)
    (h : metadata.length + body.length < 2 ^ 32) :
    ∃ p, RuntimePacket.new header metadata body = .ok p := by
  have hmeta : checkedLen metadata.length = .ok (.ofNat metadata.length) := if_pos (by omega)
  have hbody : checkedLen body.length = .ok (.ofNat body.length) := if_pos (by omega)
  rw [RuntimePacket.new, hmeta, ok_bind, hbody, ok_bind]
  dsimp only
  rw [CommonHeader.packetLen_eq_ok.mpr ⟨?_, rfl⟩]
  · exact ⟨_, rfl⟩
  · rw [(checkedLen_eq_ok.mp hmeta).2, (checkedLen_eq_ok.mp hbody).2]
    exact h

theorem RuntimePacket.new_of_not_fits (header : CommonHeader)
    (h : ¬metadata.length + body.length < 2 ^ 32) :
    ∃ e, RuntimePacket.new header metadata body = .error e := by
  cases hnew : RuntimePacket.new header metadata body with
  | error e => exact ⟨e, rfl⟩
  | ok p =>
    obtain ⟨-, hmeta, hbody, hlen⟩ := new_lengths hnew
    obtain ⟨rfl, rfl, -⟩ := new_ok hnew
    rw [hmeta, hbody] at h
    exact absurd (CommonHeader.packetLen_eq_ok.mp hlen).1 h

variable (p)

namespace RuntimePacket

def toBytes : Except NnrpError Bytes := do
  let _ ← p.header.packetLen
  let headerBytes ← p.header.toBytes
  pure (headerBytes ++ p.metadata ++ p.body)

abbrev messageType : MessageType := p.header.messageType
abbrev sessionId : UInt32 := p.header.sessionId
abbrev frameId : UInt32 := p.header.frameId

/-- The packet is a `SESSION_OPEN_ACK`. The connection driver sends it to the control receiver
unless the session it names is registered. -/
def IsOpenAck : Prop := p.messageType = .sessionOpenAck

end RuntimePacket

instance (p : RuntimePacket) : Decidable p.IsOpenAck :=
  inferInstanceAs (Decidable (p.messageType = .sessionOpenAck))

def RuntimePacket.bare (messageType : MessageType) (sessionId frameId : UInt32) : RuntimePacket :=
  ⟨{ CommonHeader.new messageType 0 0 with sessionId, frameId }, [], []⟩

end Nnrp.Packet
