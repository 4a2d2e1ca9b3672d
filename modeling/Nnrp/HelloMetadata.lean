import Nnrp.MetadataCodec
import Nnrp.Packet

/-!
# Metadata of the connection hello

The capabilities that a client offers in `CLIENT_HELLO`, the selection that a server returns in
`SERVER_HELLO_ACK`, and the rules that the selection has to meet.
-/

namespace Nnrp.Hello
open Protocol ByteOrder Packet Fallible

def clientHelloMetadataLen : ℕ := 64
def serverHelloAckMetadataLen : ℕ := 80
def serverHelloAckFlagsKnownMask : UInt32 := 0x1

def requireNonzero (rule : String) (value : UInt32) : Except NnrpError Unit :=
  if value = 0 then .error (.invalidProtocolCombination rule) else .ok ()

def requireSubset (rule : String) (accepted supported : UInt32) : Except NnrpError Unit :=
  if accepted &&& ~~~supported ≠ 0 then .error (.invalidProtocolCombination rule) else .ok ()

def hasBitmapBit (bitmap : UInt64) (bit : UInt32) : Bool :=
  bit < 64 && bitmap &&& (1 <<< bit.toUInt64) != 0

structure ClientHelloMetadata where
  (minVersionMajor maxVersionMajor : UInt8)
  supportedWireFormatBitmap : UInt16
  (supportedProfileBitmap supportedPayloadKindBitmap supportedCodecBitmap
    supportedCompressionBitmap supportedDtypeBitmap supportedLayoutBitmap : UInt32)
  (cacheDigestBitmap cacheObjectBitmap cacheNamespaceCount maxLaneCount : UInt16)
  (maxCacheEntries maxCacheBytes : UInt32)
  (targetCadenceX100 latencyBudgetMs qualityTier degradePolicy : UInt16)
  (requestedSessionId authBytes controlExtensionBytes : UInt32)
  deriving DecidableEq

namespace ClientHelloMetadata

variable (m : ClientHelloMetadata)

def validateCapabilityWindow : Except NnrpError Unit := do
  if m.maxVersionMajor < m.minVersionMajor then
    throw (.invalidProtocolCombination "CLIENT_HELLO version window must be ordered")
  if currentVersionMajor < m.minVersionMajor ∨ m.maxVersionMajor < currentVersionMajor then
    throw (.invalidProtocolCombination "CLIENT_HELLO version window must include NNRP/1")
  if ¬hasBitmapBit m.supportedWireFormatBitmap.toUInt64 currentWireFormat.toUInt32 then
    throw (.invalidProtocolCombination
      "CLIENT_HELLO supported_wire_format_bitmap must include wire_format 0")
  requireNonzero "CLIENT_HELLO supported_profile_bitmap" m.supportedProfileBitmap
  requireNonzero "CLIENT_HELLO supported_payload_kind_bitmap" m.supportedPayloadKindBitmap

def read (source : Bytes) : ClientHelloMetadata where
  minVersionMajor := readU8 source 0
  maxVersionMajor := readU8 source 1
  supportedWireFormatBitmap := readU16 source 2
  supportedProfileBitmap := readU32 source 4
  supportedPayloadKindBitmap := readU32 source 8
  supportedCodecBitmap := readU32 source 12
  supportedCompressionBitmap := readU32 source 16
  supportedDtypeBitmap := readU32 source 20
  supportedLayoutBitmap := readU32 source 24
  cacheDigestBitmap := readU16 source 28
  cacheObjectBitmap := readU16 source 30
  cacheNamespaceCount := readU16 source 32
  maxLaneCount := readU16 source 34
  maxCacheEntries := readU32 source 36
  maxCacheBytes := readU32 source 40
  targetCadenceX100 := readU16 source 44
  latencyBudgetMs := readU16 source 46
  qualityTier := readU16 source 48
  degradePolicy := readU16 source 50
  requestedSessionId := readU32 source 52
  authBytes := readU32 source 56
  controlExtensionBytes := readU32 source 60

def parse (source : Bytes) : Except NnrpError ClientHelloMetadata := do
  requireLen source clientHelloMetadataLen
  (read source).validateCapabilityWindow
  pure (read source)

def write : Writer :=
  writeFields clientHelloMetadataLen m.validateCapabilityWindow
    [fillZero clientHelloMetadataLen, putU8 0 m.minVersionMajor, putU8 1 m.maxVersionMajor,
      putU16 2 m.supportedWireFormatBitmap, putU32 4 m.supportedProfileBitmap,
      putU32 8 m.supportedPayloadKindBitmap, putU32 12 m.supportedCodecBitmap,
      putU32 16 m.supportedCompressionBitmap, putU32 20 m.supportedDtypeBitmap,
      putU32 24 m.supportedLayoutBitmap, putU16 28 m.cacheDigestBitmap,
      putU16 30 m.cacheObjectBitmap, putU16 32 m.cacheNamespaceCount, putU16 34 m.maxLaneCount,
      putU32 36 m.maxCacheEntries, putU32 40 m.maxCacheBytes, putU16 44 m.targetCadenceX100,
      putU16 46 m.latencyBudgetMs, putU16 48 m.qualityTier, putU16 50 m.degradePolicy,
      putU32 52 m.requestedSessionId, putU32 56 m.authBytes, putU32 60 m.controlExtensionBytes]

def toBytes : Except NnrpError Bytes :=
  bytesOf clientHelloMetadataLen m.write

theorem codec : Canonical clientHelloMetadataLen parse write := by
  refine .of_zeroed fun src m => ?_
  cases m
  simp [parse, read, bind_eq_ok, clientHelloMetadataLen]
  grind

end ClientHelloMetadata

structure ServerHelloAckMetadata where
  (selectedVersionMajor selectedWireFormat authStatus : UInt8)
  (sessionId acceptedProfileBitmap acceptedPayloadKindBitmap acceptedCodecBitmap
    acceptedCompressionBitmap acceptedDtypeBitmap acceptedLayoutBitmap cacheDigestBitmap
    cacheObjectBitmap maxCacheEntries maxCacheBytes : UInt32)
  (maxLaneCount maxConcurrentFrames targetCadenceX100 latencyBudgetMs qualityTier degradePolicy
     : UInt16)
  (maxBodyBytes tokenTtlMs retryAfterMs controlExtensionBytes serverFlags : UInt32)
  deriving DecidableEq

namespace ServerHelloAckMetadata

def parse (source : Bytes) : Except NnrpError ServerHelloAckMetadata := do
  requireLen source serverHelloAckMetadataLen
  validateZeroU8 "server_hello_ack.reserved0" (readU8 source 3)
  let serverFlags := readU32 source 76
  validateMaskU32 serverFlags serverHelloAckFlagsKnownMask
  pure
    { selectedVersionMajor := readU8 source 0
      selectedWireFormat := readU8 source 1
      authStatus := readU8 source 2
      sessionId := readU32 source 4
      acceptedProfileBitmap := readU32 source 8
      acceptedPayloadKindBitmap := readU32 source 12
      acceptedCodecBitmap := readU32 source 16
      acceptedCompressionBitmap := readU32 source 20
      acceptedDtypeBitmap := readU32 source 24
      acceptedLayoutBitmap := readU32 source 28
      cacheDigestBitmap := readU32 source 32
      cacheObjectBitmap := readU32 source 36
      maxCacheEntries := readU32 source 40
      maxCacheBytes := readU32 source 44
      maxLaneCount := readU16 source 48
      maxConcurrentFrames := readU16 source 50
      targetCadenceX100 := readU16 source 52
      latencyBudgetMs := readU16 source 54
      qualityTier := readU16 source 56
      degradePolicy := readU16 source 58
      maxBodyBytes := readU32 source 60
      tokenTtlMs := readU32 source 64
      retryAfterMs := readU32 source 68
      controlExtensionBytes := readU32 source 72
      serverFlags }

variable (m : ServerHelloAckMetadata)

def write : Writer :=
  writeFields serverHelloAckMetadataLen (validateMaskU32 m.serverFlags serverHelloAckFlagsKnownMask)
    [fillZero serverHelloAckMetadataLen, putU8 0 m.selectedVersionMajor,
      putU8 1 m.selectedWireFormat, putU8 2 m.authStatus, putU32 4 m.sessionId,
      putU32 8 m.acceptedProfileBitmap, putU32 12 m.acceptedPayloadKindBitmap,
      putU32 16 m.acceptedCodecBitmap, putU32 20 m.acceptedCompressionBitmap,
      putU32 24 m.acceptedDtypeBitmap, putU32 28 m.acceptedLayoutBitmap,
      putU32 32 m.cacheDigestBitmap, putU32 36 m.cacheObjectBitmap, putU32 40 m.maxCacheEntries,
      putU32 44 m.maxCacheBytes, putU16 48 m.maxLaneCount, putU16 50 m.maxConcurrentFrames,
      putU16 52 m.targetCadenceX100, putU16 54 m.latencyBudgetMs, putU16 56 m.qualityTier,
      putU16 58 m.degradePolicy, putU32 60 m.maxBodyBytes, putU32 64 m.tokenTtlMs,
      putU32 68 m.retryAfterMs, putU32 72 m.controlExtensionBytes, putU32 76 m.serverFlags]

def toBytes : Except NnrpError Bytes :=
  bytesOf serverHelloAckMetadataLen m.write

theorem codec : Canonical serverHelloAckMetadataLen parse write := by
  refine .of_zeroed fun src m => ?_
  cases m
  simp [parse, bind_eq_ok, serverHelloAckMetadataLen]
  grind

def validateAgainstClientHello (hello : ClientHelloMetadata) :
    Except NnrpError Unit := do
  if m.selectedVersionMajor < hello.minVersionMajor ∨
      hello.maxVersionMajor < m.selectedVersionMajor then
    throw (.invalidProtocolCombination
      "SERVER_HELLO_ACK selected version must be inside client window")
  if ¬hasBitmapBit hello.supportedWireFormatBitmap.toUInt64 m.selectedWireFormat.toUInt32 then
    throw (.invalidProtocolCombination
      "SERVER_HELLO_ACK selected wire format must be client-supported")
  requireSubset "SERVER_HELLO_ACK accepted_profile_bitmap" m.acceptedProfileBitmap
    hello.supportedProfileBitmap
  requireSubset "SERVER_HELLO_ACK accepted_payload_kind_bitmap" m.acceptedPayloadKindBitmap
    hello.supportedPayloadKindBitmap
  requireSubset "SERVER_HELLO_ACK accepted_codec_bitmap" m.acceptedCodecBitmap
    hello.supportedCodecBitmap
  requireSubset "SERVER_HELLO_ACK accepted_compression_bitmap" m.acceptedCompressionBitmap
    hello.supportedCompressionBitmap
  requireSubset "SERVER_HELLO_ACK accepted_dtype_bitmap" m.acceptedDtypeBitmap
    hello.supportedDtypeBitmap
  requireSubset "SERVER_HELLO_ACK accepted_layout_bitmap" m.acceptedLayoutBitmap
    hello.supportedLayoutBitmap
  requireSubset "SERVER_HELLO_ACK cache_digest_bitmap" m.cacheDigestBitmap
    hello.cacheDigestBitmap.toUInt32
  requireSubset "SERVER_HELLO_ACK cache_object_bitmap" m.cacheObjectBitmap
    hello.cacheObjectBitmap.toUInt32

end ServerHelloAckMetadata

end Nnrp.Hello
