import Nnrp.Bitmap
import Nnrp.OpenCall
import Nnrp.SessionRegistry

/-!
# Negotiating the capabilities of a connection

The server answers a `CLIENT_HELLO` with the profiles that both sides know, with the kinds of cache
objects that the client offers and the server supports, and with everything else as the client has
offered it. A client with which it shares a profile gets an acknowledgement that it accepts.
-/

namespace Nnrp.Server
open Protocol ByteOrder Packet Hello Fallible Bitmap RuntimePacket
open OpenCall (cacheObjectKindCode addCacheObject cacheObjectBitmap acceptHelloAck)

variable {hello : ClientHelloMetadata}

def addProfile (bitmap : UInt32) (profileId : UInt16) : Except RuntimeError UInt32 :=
  match profileId.toNat with
  | 0 => .error (.unexpectedMessage "profile id cannot map to CLIENT_HELLO bitmap")
  | bit + 1 =>
    if bit < 32 then .ok (bitmap ||| 1 <<< UInt32.ofNat bit)
    else .error (.unexpectedMessage "profile id exceeds CLIENT_HELLO bitmap")

def profileBitmap (profiles : List UInt16) : Except RuntimeError UInt32 :=
  profiles.foldlM addProfile 0

def defaultMaxPacketBytes : ℕ := 64 * 1024 * 1024

variable (config : NnrpServerConfig) (hello : ClientHelloMetadata)

def helloAck
    (acceptedProfileBitmap serverCacheObjects : UInt32) : ServerHelloAckMetadata where
  selectedVersionMajor := currentVersionMajor
  selectedWireFormat := currentWireFormat
  authStatus := 0
  sessionId := 0
  acceptedProfileBitmap := acceptedProfileBitmap
  acceptedPayloadKindBitmap := hello.supportedPayloadKindBitmap
  acceptedCodecBitmap := hello.supportedCodecBitmap
  acceptedCompressionBitmap := hello.supportedCompressionBitmap
  acceptedDtypeBitmap := hello.supportedDtypeBitmap
  acceptedLayoutBitmap := hello.supportedLayoutBitmap
  cacheDigestBitmap := hello.cacheDigestBitmap.toUInt32
  cacheObjectBitmap := hello.cacheObjectBitmap.toUInt32 &&& serverCacheObjects
  maxCacheEntries := UInt32.ofNat (min config.maxCacheObjects.toNat 0xffffffff)
  maxCacheBytes := config.maxCacheObjectBytes
  maxLaneCount := max hello.maxLaneCount 1
  maxConcurrentFrames := config.maxInFlightOperations
  targetCadenceX100 := hello.targetCadenceX100
  latencyBudgetMs := hello.latencyBudgetMs
  qualityTier := hello.qualityTier
  degradePolicy := hello.degradePolicy
  maxBodyBytes := UInt32.ofNat defaultMaxPacketBytes
  tokenTtlMs := config.resumeWindowMs
  retryAfterMs := 0
  controlExtensionBytes := 0
  serverFlags := 0

def negotiate :
    Except RuntimeError ServerHelloAckMetadata := do
  let serverProfiles ← profileBitmap config.supportedProfiles
  let acceptedProfileBitmap := hello.supportedProfileBitmap &&& serverProfiles
  if acceptedProfileBitmap = 0 then
    throw (.unexpectedMessage "CLIENT_HELLO has no server-supported profile")
  let serverCacheObjects ← cacheObjectBitmap config.supportedCacheObjects
  let ack := helloAck config hello acceptedProfileBitmap serverCacheObjects.toUInt32
  liftNnrp (ack.validateAgainstClientHello hello)
  pure ack

/-- `perform_server_hello` on the first control packet that is not a probe, with the packet that it
writes. -/
def performServerHello (packet : RuntimePacket) :
    Except RuntimeError RuntimePacket := do
  if packet.messageType ≠ .clientHello then
    throw (.unexpectedMessage "server expected CLIENT_HELLO before SESSION_OPEN")
  if packet.metadata.length ≠ clientHelloMetadataLen ∨ packet.body ≠ [] then
    throw (.unexpectedMessage "server received malformed CLIENT_HELLO")
  let hello ← liftNnrp (ClientHelloMetadata.parse packet.metadata)
  let ack ← negotiate config hello
  let metadata ← liftNnrp ack.toBytes
  liftNnrp (new (CommonHeader.new .serverHelloAck 80 0) metadata [])

/-- The bit of a profile is the id without one. -/
def Expressible (profileId : UInt16) : Prop := 1 ≤ profileId.toNat ∧ profileId.toNat ≤ 32

instance (profileId : UInt16) : Decidable (Expressible profileId) :=
  inferInstanceAs (Decidable (_ ∧ _))

theorem addProfile_adds :
    Adds UInt32.toNat (fun pid : UInt16 => pid.toNat - 1) Expressible addProfile := by
  constructor
  · intro bitmap pid
    rw [addProfile, Expressible]
    cases pid.toNat with
    | zero => simp
    | succ pos =>
      by_cases hlt : pos < 32
      · simp only [if_pos hlt]
        exact ⟨fun _ => ⟨by omega, by omega⟩, fun _ => ⟨_, rfl⟩⟩
      · simp only [if_neg hlt]
        exact ⟨nofun, fun h => absurd h.2 (by omega)⟩
  · intro bitmap pid bitmap' h bit
    rw [addProfile] at h
    cases hid : pid.toNat with
    | zero =>
      rw [hid] at h
      cases h
    | succ pos =>
      rw [hid] at h
      dsimp only at h
      split_ifs at h with hlt
      cases h
      rw [UInt32.toNat_or, one_shiftLeft_toNat32 hlt, testBit_or_two_pow, Nat.add_sub_cancel]

theorem addCacheObject_adds :
    Adds UInt16.toNat (fun kind => cacheObjectKindCode kind - 1) (fun _ => True)
      addCacheObject := by
  constructor
  · intro bitmap kind
    cases kind <;> exact ⟨fun _ => trivial, fun _ => ⟨_, rfl⟩⟩
  · intro bitmap kind bitmap' h bit
    rw [addCacheObject] at h
    cases hcode : cacheObjectKindCode kind with
    | zero =>
      rw [hcode] at h
      cases h
    | succ pos =>
      rw [hcode] at h
      dsimp only at h
      split_ifs at h with hlt
      cases h
      rw [UInt16.toNat_or, one_shiftLeft_toNat16 hlt, testBit_or_two_pow, Nat.add_sub_cancel]

variable {profiles : List UInt16}

theorem profileBitmap_accepts :
    (∃ bitmap, profileBitmap profiles = .ok bitmap) ↔ ∀ pid ∈ profiles, Expressible pid :=
  addProfile_adds.foldlM_accepts profiles 0

theorem profileBitmap_testBit {bitmap : UInt32}
    (h : profileBitmap profiles = .ok bitmap) (bit : ℕ) :
    bitmap.toNat.testBit bit = true ↔ ∃ pid ∈ profiles, pid.toNat - 1 = bit := by
  rw [addProfile_adds.foldlM_testBit h]
  simp

theorem cacheObjectBitmap_accepts (kinds : List CacheObjectKind) :
    ∃ bitmap, cacheObjectBitmap kinds = .ok bitmap :=
  (addCacheObject_adds.foldlM_accepts kinds 0).mpr fun _ _ => trivial

theorem cacheObjectBitmap_testBit {kinds : List CacheObjectKind} {bitmap : UInt16}
    (h : cacheObjectBitmap kinds = .ok bitmap) (bit : ℕ) :
    bitmap.toNat.testBit bit = true ↔ ∃ kind ∈ kinds, cacheObjectKindCode kind - 1 = bit := by
  rw [addCacheObject_adds.foldlM_testBit h]
  simp

structure Offered (ack : ServerHelloAckMetadata) (hello : ClientHelloMetadata) : Prop where
  profiles : Subset ack.acceptedProfileBitmap.toNat hello.supportedProfileBitmap.toNat
  payloadKinds : Subset ack.acceptedPayloadKindBitmap.toNat hello.supportedPayloadKindBitmap.toNat
  codecs : Subset ack.acceptedCodecBitmap.toNat hello.supportedCodecBitmap.toNat
  compressions : Subset ack.acceptedCompressionBitmap.toNat hello.supportedCompressionBitmap.toNat
  dtypes : Subset ack.acceptedDtypeBitmap.toNat hello.supportedDtypeBitmap.toNat
  layouts : Subset ack.acceptedLayoutBitmap.toNat hello.supportedLayoutBitmap.toNat
  cacheDigests : Subset ack.cacheDigestBitmap.toNat hello.cacheDigestBitmap.toNat
  cacheObjects : Subset ack.cacheObjectBitmap.toNat hello.cacheObjectBitmap.toNat

structure Configured (ack : ServerHelloAckMetadata) (config : NnrpServerConfig) : Prop where
  profiles : ∀ bit, ack.acceptedProfileBitmap.toNat.testBit bit = true →
    ∃ profileId ∈ config.supportedProfiles, profileId.toNat = bit + 1
  cacheObjects : ∀ bit, ack.cacheObjectBitmap.toNat.testBit bit = true →
    ∃ kind ∈ config.supportedCacheObjects, cacheObjectKindCode kind = bit + 1

def Offers (hello : ClientHelloMetadata) (profileId : UInt16) : Prop :=
  hello.supportedProfileBitmap.toNat.testBit (profileId.toNat - 1) = true

instance (hello : ClientHelloMetadata) (profileId : UInt16) : Decidable (Offers hello profileId) :=
  inferInstanceAs (Decidable (_ = true))

theorem requireSubset_of_subset {rule : String} {accepted supported : UInt32}
    (h : Subset accepted.toNat supported.toNat) :
    requireSubset rule accepted supported = .ok () := by
  rw [requireSubset, if_neg]
  rw [ne_eq, not_not, and_not_eq_zero_iff]
  exact h

variable {ack : ServerHelloAckMetadata} {hello : ClientHelloMetadata}

theorem validate_of_offered (hver : ¬(ack.selectedVersionMajor < hello.minVersionMajor ∨
      hello.maxVersionMajor < ack.selectedVersionMajor))
    (hformat : hasBitmapBit hello.supportedWireFormatBitmap.toUInt64
      ack.selectedWireFormat.toUInt32 = true) (h : Offered ack hello) :
    ack.validateAgainstClientHello hello = .ok () := by
  have hformat' : ¬¬hasBitmapBit hello.supportedWireFormatBitmap.toUInt64
      ack.selectedWireFormat.toUInt32 = true := not_not.mpr hformat
  have hdigests : Subset ack.cacheDigestBitmap.toNat hello.cacheDigestBitmap.toUInt32.toNat := by
    rw [UInt16.toNat_toUInt32]
    exact h.cacheDigests
  have hobjects : Subset ack.cacheObjectBitmap.toNat hello.cacheObjectBitmap.toUInt32.toNat := by
    rw [UInt16.toNat_toUInt32]
    exact h.cacheObjects
  rw [ServerHelloAckMetadata.validateAgainstClientHello, if_neg hver, if_neg hformat',
    requireSubset_of_subset h.profiles, requireSubset_of_subset h.payloadKinds,
    requireSubset_of_subset h.codecs, requireSubset_of_subset h.compressions,
    requireSubset_of_subset h.dtypes, requireSubset_of_subset h.layouts,
    requireSubset_of_subset hdigests, requireSubset_of_subset hobjects]
  rfl

theorem helloAck_offered (config : NnrpServerConfig) (hello : ClientHelloMetadata)
    (serverProfiles serverCacheObjects : UInt32) :
    Offered (helloAck config hello (hello.supportedProfileBitmap &&& serverProfiles)
      serverCacheObjects) hello where
  profiles := by
    rw [helloAck, UInt32.toNat_and]
    exact .and_left _ _
  payloadKinds := .refl _
  codecs := .refl _
  compressions := .refl _
  dtypes := .refl _
  layouts := .refl _
  cacheDigests := .refl _
  cacheObjects := by
    rw [helloAck, UInt32.toNat_and, UInt16.toNat_toUInt32]
    exact .and_left _ _

variable {config : NnrpServerConfig}

theorem helloAck_configured (hello : ClientHelloMetadata)
    {serverProfiles : UInt32} {serverCacheObjects : UInt16}
    (hexpressible : ∀ pid ∈ config.supportedProfiles, Expressible pid)
    (hprofs : profileBitmap config.supportedProfiles = .ok serverProfiles)
    (hobjects : cacheObjectBitmap config.supportedCacheObjects = .ok serverCacheObjects) :
    Configured (helloAck config hello (hello.supportedProfileBitmap &&& serverProfiles)
      serverCacheObjects.toUInt32) config := by
  constructor
  · intro bit hbit
    rw [helloAck, UInt32.toNat_and] at hbit
    obtain ⟨pid, hmem, hpos⟩ :=
      (profileBitmap_testBit hprofs bit).mp (Subset.and_right _ _ bit hbit)
    have hpositive := (hexpressible pid hmem).1
    exact ⟨pid, hmem, by omega⟩
  · intro bit hbit
    rw [helloAck, UInt32.toNat_and, UInt16.toNat_toUInt32] at hbit
    have hserver := Subset.and_right _ _ bit hbit
    rw [UInt16.toNat_toUInt32] at hserver
    obtain ⟨kind, hmem, hpos⟩ := (cacheObjectBitmap_testBit hobjects bit).mp hserver
    have hpositive : 1 ≤ cacheObjectKindCode kind := by cases kind <;> decide
    exact ⟨kind, hmem, by omega⟩

theorem parse_window {src : Bytes} (h : ClientHelloMetadata.parse src = .ok hello) :
    hello.validateCapabilityWindow = .ok () := by
  obtain ⟨_, -, h⟩ := bind_eq_ok.mp h
  obtain ⟨_, hwindow, h⟩ := bind_eq_ok.mp h
  cases h
  exact hwindow

theorem negotiate_of_shared (hwindow : hello.validateCapabilityWindow = .ok ())
    (hexpressible : ∀ pid ∈ config.supportedProfiles, Expressible pid)
    (hshared : ∃ pid ∈ config.supportedProfiles, Offers hello pid) :
    ∃ ack bytes, negotiate config hello = .ok ack ∧
      ack.validateAgainstClientHello hello = .ok () ∧ ack.toBytes = .ok bytes ∧
      Offered ack hello ∧ Configured ack config := by
  obtain ⟨serverProfiles, hprofs⟩ := profileBitmap_accepts.mpr hexpressible
  obtain ⟨serverCacheObjects, hobjects⟩ := cacheObjectBitmap_accepts config.supportedCacheObjects
  have hne : hello.supportedProfileBitmap &&& serverProfiles ≠ 0 := by
    obtain ⟨pid, hmem, hoffers⟩ := hshared
    exact (and_ne_zero_iff _ _).mpr
      ⟨_, hoffers, (profileBitmap_testBit hprofs _).mpr ⟨pid, hmem, rfl⟩⟩
  have hoffered := helloAck_offered config hello serverProfiles serverCacheObjects.toUInt32
  obtain ⟨-, hwindow⟩ := of_refused_eq_ok rfl hwindow
  obtain ⟨hver, hwindow⟩ := of_refused_eq_ok rfl hwindow
  obtain ⟨hformat, -⟩ := of_refused_eq_ok rfl hwindow
  have hvalid := validate_of_offered hver (not_not.mp hformat) hoffered
  have hflags : validateMaskU32 0 serverHelloAckFlagsKnownMask = .ok () := if_neg (by decide)
  obtain ⟨bytes, hbytes⟩ := bytesOf_of_valid hflags
  refine ⟨_, bytes, ?_, hvalid, hbytes, hoffered,
    helloAck_configured hello hexpressible hprofs hobjects⟩
  rw [negotiate, hprofs, ok_bind, if_neg hne, hobjects, ok_bind]
  dsimp only
  rw [hvalid]
  rfl

theorem acceptHelloAck_of_valid {bytes : Bytes}
    (hvalid : ack.validateAgainstClientHello hello = .ok ()) (hbytes : ack.toBytes = .ok bytes) :
    ∃ reply, new (CommonHeader.new .serverHelloAck 80 0) bytes [] = .ok reply ∧
        reply.metadata = bytes ∧ acceptHelloAck hello reply = .ok () := by
  have hparse := ServerHelloAckMetadata.codec.parses hbytes
  have hfits : bytes.length + ([] : Bytes).length < 2 ^ 32 := by
    rw [ServerHelloAckMetadata.codec.length hbytes]
    decide
  obtain ⟨reply, hreply⟩ := new_of_fits (.new .serverHelloAck 80 0) hfits
  obtain ⟨hmeta, hbody, htype, -⟩ := new_ok hreply
  refine ⟨reply, hreply, hmeta, ?_⟩
  have htype' : ¬reply.messageType ≠ .serverHelloAck := not_not.mpr htype
  rw [acceptHelloAck, if_neg htype', if_neg (not_not.mpr hbody), hmeta, hparse]
  exact liftNnrp_eq_ok.mpr hvalid

theorem hello_negotiation_sound (config : NnrpServerConfig) {source : Bytes}
    {hello : ClientHelloMetadata} (hparse : ClientHelloMetadata.parse source = .ok hello)
    (hexpressible : ∀ profileId ∈ config.supportedProfiles, Expressible profileId)
    (hshared : ∃ profileId ∈ config.supportedProfiles, Offers hello profileId) :
    ∃ ack bytes, negotiate config hello = .ok ack ∧
      ack.validateAgainstClientHello hello = .ok () ∧ ack.toBytes = .ok bytes ∧
      Offered ack hello ∧ Configured ack config ∧
      ∀ packet : RuntimePacket, packet.messageType = .clientHello → packet.metadata = source →
        source.length = clientHelloMetadataLen → packet.body = [] →
        ∃ reply, performServerHello config packet = .ok reply ∧ reply.metadata = bytes ∧
          acceptHelloAck hello reply = .ok () := by
  obtain ⟨ack, bytes, hack, hvalid, hbytes, hoffered, hconfigured⟩ :=
    negotiate_of_shared (parse_window hparse) hexpressible hshared
  refine ⟨ack, bytes, hack, hvalid, hbytes, hoffered, hconfigured, ?_⟩
  intro packet htype hmeta hlen hbody
  obtain ⟨reply, hreply, hsame, haccept⟩ := acceptHelloAck_of_valid hvalid hbytes
  refine ⟨reply, ?_, hsame, haccept⟩
  have hform : ¬(packet.metadata.length ≠ clientHelloMetadataLen ∨ packet.body ≠ []) := by
    rw [hmeta, hlen, hbody]
    simp
  rw [performServerHello, if_neg (not_not.mpr htype), if_neg hform, hmeta, hparse]
  simp only [liftNnrp, ok_bind, hack, hbytes, hreply]

def plainHello : Bytes := [1, 1, 1, 0, 3, 0, 0, 0, 1] ++ List.replicate 55 0

def tensorServer : NnrpServerConfig := ⟨[1], [.promptSegment], 8, 64, [], 4, 8, 8, 0, 1000⟩

theorem tensor_server_expressible : ∀ pid ∈ tensorServer.supportedProfiles, Expressible pid :=
  List.forall_mem_singleton.mpr (by decide)

theorem tensor_server_shares : ∃ pid ∈ tensorServer.supportedProfiles,
    Offers (.read plainHello) pid :=
  ⟨1, List.mem_singleton_self 1, by decide +kernel⟩

theorem tensor_server_greets : ∃ reply,
    performServerHello tensorServer ⟨.new .clientHello 64 0, plainHello, []⟩ = .ok reply ∧
      acceptHelloAck (.read plainHello) reply = .ok () := by
  have hparse : ClientHelloMetadata.parse plainHello = .ok (.read plainHello) := by decide +kernel
  obtain ⟨ack, bytes, -, -, -, -, -, hpkt⟩ :=
    hello_negotiation_sound tensorServer hparse tensor_server_expressible tensor_server_shares
  obtain ⟨reply, hreply, -, haccept⟩ :=
    hpkt ⟨.new .clientHello 64 0, plainHello, []⟩ rfl rfl rfl rfl
  exact ⟨reply, hreply, haccept⟩

end Nnrp.Server
