import Nnrp.MetadataCodec
import Nnrp.Packet

/-!
# Transport probes

The metadata of `TRANSPORT_PROBE` and `TRANSPORT_PROBE_ACK`, and the acknowledgement that a
receiver builds for a probe.
-/

namespace Nnrp.TransportProbe
open Protocol ByteOrder Packet Fallible

def transportProbeMetadataLen : ℕ := 16
def transportProbeAckMetadataLen : ℕ := 16

structure TransportProbeMetadata where
  (probeId probePayloadBytes : UInt32)
  clientSendTsUs : UInt64
  deriving DecidableEq

def TransportProbeMetadata.parse (source : Bytes) : Except NnrpError TransportProbeMetadata := do
  requireLen source transportProbeMetadataLen
  pure
    { probeId := readU32 source 0
      probePayloadBytes := readU32 source 4
      clientSendTsUs := readU64 source 8 }

def TransportProbeMetadata.write (m : TransportProbeMetadata) : Writer :=
  writeFields transportProbeMetadataLen (.ok ())
    [putU32 0 m.probeId, putU32 4 m.probePayloadBytes, putU64 8 m.clientSendTsUs]

theorem TransportProbeMetadata.codec : Canonical transportProbeMetadataLen parse write := by
  refine .of_fields fun src m => ?_
  cases m
  simp [parse, transportProbeMetadataLen]

structure TransportProbeAckMetadata where
  probeId : UInt32
  serverRecvTsUs : UInt64
  deriving DecidableEq

namespace TransportProbeAckMetadata

def parse (source : Bytes) :
    Except NnrpError TransportProbeAckMetadata := do
  requireLen source transportProbeAckMetadataLen
  validateZeroU32 "transport_probe_ack.reserved0" (readU32 source 4)
  pure { probeId := readU32 source 0, serverRecvTsUs := readU64 source 8 }

def write (m : TransportProbeAckMetadata) : Writer :=
  writeFields transportProbeAckMetadataLen (.ok ())
    [fillZero transportProbeAckMetadataLen, putU32 0 m.probeId, putU64 8 m.serverRecvTsUs]

def toBytes (m : TransportProbeAckMetadata) : Except NnrpError Bytes :=
  bytesOf transportProbeAckMetadataLen m.write

theorem codec : Canonical transportProbeAckMetadataLen parse write := by
  refine .of_zeroed fun src m => ?_
  cases m
  simp [parse, bind_eq_ok, transportProbeAckMetadataLen]
  grind

end TransportProbeAckMetadata

def probeAck (packet : RuntimePacket) (unixTimeUs : UInt64) :
    Except RuntimeError RuntimePacket := do
  let probe ← liftNnrp (TransportProbeMetadata.parse packet.metadata)
  if packet.body.length ≠ probe.probePayloadBytes.toNat then
    throw (.protocol (.declaredLengthMismatch "transport_probe.probe_payload_bytes"
      probe.probePayloadBytes.toNat packet.body.length))
  let ack ← liftNnrp (TransportProbeAckMetadata.toBytes ⟨probe.probeId, unixTimeUs⟩)
  liftNnrp (RuntimePacket.new (CommonHeader.new .transportProbeAck 0 0) ack [])

end Nnrp.TransportProbe
