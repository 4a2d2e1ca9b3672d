import Nnrp.HelloNegotiation
import Nnrp.ServerCorrelation

/-!
# The cache objects of a server session

A session takes the kinds of cache objects that it lets through, and its limits, from the
configuration of the server. The acknowledgement of the hello names fewer kinds: those that the
client has offered too. No session tracks more objects than its configuration allows.
-/

namespace Nnrp.Server
open Protocol ByteOrder Packet Hello Object Stateful Fallible LabelledRun List NnrpServerSession
open Operation
open ControlUpdate.DecoderSession (requireMetadataLen requireBodyLen)
open OpenCall (cacheObjectKindCode cacheObjectBitmap)
open Lifecycle (ConnectionLifecycle)

/-- The session that `accept_connection_session` hands out. -/
def NnrpServerSession.acceptedWith (config : NnrpServerConfig) (sessionId : UInt32)
    (maxInFlightOperations : UInt16) (lifecycle : ConnectionLifecycle) : NnrpServerSession :=
  { accepted sessionId maxInFlightOperations lifecycle with
    supportedCacheObjects := config.supportedCacheObjects
    maxCacheObjects := config.maxCacheObjects
    maxCacheObjectBytes := config.maxCacheObjectBytes }

/-- A maximum of zero is no limit. -/
def NnrpServerConfig.cacheObjectLimit (config : NnrpServerConfig) : Option ℕ :=
  if config.maxCacheObjects = 0 then none else some config.maxCacheObjects.toNat

def OffersKind (hello : ClientHelloMetadata) (kind : CacheObjectKind) : Prop :=
  hello.cacheObjectBitmap.toNat.testBit (cacheObjectKindCode kind - 1) = true

instance (hello : ClientHelloMetadata) (kind : CacheObjectKind) :
    Decidable (OffersKind hello kind) :=
  inferInstanceAs (Decidable (_ = true))

def Negotiated (config : NnrpServerConfig) (hello : ClientHelloMetadata) (kind : CacheObjectKind) :
    Prop :=
  OffersKind hello kind ∧ kind ∈ config.supportedCacheObjects

/-- The session accepts a put with the metadata, from the client or towards it. -/
inductive AcceptsPut (s : NnrpServerSession) (metadata : CachePutMetadata) : Prop
  | received {answer : Answer} {body : Bytes} {s' : NnrpServerSession}
      (h : call (receiveCachePut answer) s = (.ok (metadata, body), s'))
  | sent {written : Except RuntimeError Unit} {body : Bytes} {s' : NnrpServerSession}
      (h : call (sendCachePut written metadata body) s = (.ok (), s'))

theorem cacheObjectKindCode_inj {kind kind' : CacheObjectKind}
    (h : cacheObjectKindCode kind - 1 = cacheObjectKindCode kind' - 1) : kind = kind' := by
  cases kind <;> cases kind' <;> first | rfl | cases h

theorem cacheObjectBitmap_mem {kinds : List CacheObjectKind} {bitmap : UInt16}
    (h : cacheObjectBitmap kinds = .ok bitmap) (kind : CacheObjectKind) :
    bitmap.toNat.testBit (cacheObjectKindCode kind - 1) = true ↔ kind ∈ kinds := by
  rw [cacheObjectBitmap_testBit h]
  constructor
  · rintro ⟨kind', hmem, hcode⟩
    rw [← cacheObjectKindCode_inj hcode]
    exact hmem
  · intro hmem
    exact ⟨kind, hmem, rfl⟩

variable {ack : ServerHelloAckMetadata} {hello : ClientHelloMetadata} {config : NnrpServerConfig}

theorem negotiate_bitmaps (h : negotiate config hello = .ok ack) :
    ∃ acceptedProfileBitmap serverCacheObjects,
      cacheObjectBitmap config.supportedCacheObjects = .ok serverCacheObjects ∧
        ack = helloAck config hello acceptedProfileBitmap serverCacheObjects.toUInt32 := by
  obtain ⟨serverProfiles, -, h⟩ := bind_eq_ok.mp h
  obtain ⟨-, h⟩ := of_refused_eq_ok rfl h
  obtain ⟨serverCacheObjects, hobjects, h⟩ := bind_eq_ok.mp h
  obtain ⟨_, -, h⟩ := bind_eq_ok.mp h
  cases h
  exact ⟨_, serverCacheObjects, hobjects, rfl⟩

structure Cache where
  objects : List CacheObjectId
  kinds : List CacheObjectKind
  maxObjects : UInt64
  maxObjectBytes : UInt32

def NnrpServerSession.cache (s : NnrpServerSession) : Cache where
  objects := s.cacheObjects
  kinds := s.supportedCacheObjects
  maxObjects := s.maxCacheObjects
  maxObjectBytes := s.maxCacheObjectBytes

structure Cache.Within (config : NnrpServerConfig) (cache : Cache) : Prop where
  kinds : cache.kinds = config.supportedCacheObjects
  maxObjects : cache.maxObjects = config.maxCacheObjects
  limit : ∀ limit ∈ config.cacheObjectLimit, cache.objects.length ≤ limit

theorem cache_apart : Apart cache :=
  ⟨fun _ _ => rfl, fun _ _ => rfl, fun _ _ => rfl, fun _ _ => rfl, fun _ _ => rfl⟩

section
variable {s s' : NnrpServerSession} {p : RuntimePacket} {ans : Answer}
  {config : NnrpServerConfig}

theorem Decoded.cache {ev : NnrpServerEvent} (h : Decoded s p ev s') : s'.cache = s.cache := by
  cases h <;> rfl

theorem Refused.cache (h : Refused s p s') : s'.cache = s.cache := by
  cases h <;> rfl

variable {input : PendingServerInput} {written : Except RuntimeError Unit}

theorem Read.cache (h : Read s p input s') : s'.cache = s.cache := by
  cases h with
  | role hrole => rfl
  | event hdecd => exact hdecd.cache

theorem Written.cache (h : Written s s') : s'.cache = s.cache := by
  cases h <;> rfl

theorem Expired.cache {id : UInt64} {r : OperationRecord}
    (h : Expired s id r written s') : s'.cache = s.cache := by
  cases h <;> rfl

theorem readNextInput_after {Q : Cache → Prop} (hs : Correlated s) (h : Q s.cache) :
    Always (readNextInput ans.input ans.nowUnixMs) s fun t => Q t.cache := by
  refine (readNextInput_reads hs).imp ?_ ?_
  · rintro input t ⟨p, -, hread⟩
    rw [hread.cache]
    exact h
  · intro t hunread
    cases hunread with
    | same => exact h
    | refused hinput href =>
      rw [href.cache]
      exact h

theorem trackCacheObject_within (objectId : CacheObjectId) (s : NnrpServerSession)
    (h : s.cache.Within config) :
    Always (trackCacheObject objectId) s fun s' => s'.cache.Within config := by
  refine .guard h fun objects hobjects => .write ⟨h.kinds, h.maxObjects, ?_⟩
  rw [tracked] at hobjects
  split_ifs at hobjects with hknown hfull
  · cases hobjects
    exact h.limit
  · cases hobjects
    intro limit hlimit
    have hmax : s.maxCacheObjects = config.maxCacheObjects := h.maxObjects
    rw [NnrpServerConfig.cacheObjectLimit, ← hmax] at hlimit
    split_ifs at hlimit with hzero
    · cases hlimit
    · cases hlimit
      have hroom : ¬s.maxCacheObjects.toNat ≤ s.cacheObjects.length := fun hle => hfull ⟨hzero, hle⟩
      change (s.cacheObjects ++ [objectId]).length ≤ s.maxCacheObjects.toNat
      rw [length_append, length_singleton]
      omega

theorem Send.perform_within (hs : Correlated s) (h : s.cache.Within config) (send : Send) :
    Always (send.perform written) s fun s' => s'.cache.Within config := by
  have hres {fid md body now} :
      Always (sendOperationResult written fid md body now) s
      fun s' => s'.cache.Within config := by
    refine (sendOperationResult_ensures hs).imp (fun _ s' hs' => ?_) fun s' hs' => ?_
    · rw [hs'.1.cache]
      exact h
    · rcases hs' with ⟨rfl, -⟩ | ⟨id, r, -, hexpired⟩
      · exact h
      · rw [hexpired.cache]
        exact h
  cases send with
  | operationResult => exact hres
  | result op => exact .guard h fun _ _ => hres
  | operationPartialResult | operationProgress | operationResultDrop | partialResult | progress
  | resultDrop | controlRequest | supersede =>
    refine Ensures.imp (perform_written hs trivial) (fun _ s' hs' => ?_) fun s' hs' => ?_
    · rw [hs'.cache]
      exact h
    · rw [hs']
      exact h
  | cachePut md body =>
    refine .guard h fun _ _ => ?_
    refine Keeps.after (fun _ => .bind .lift fun _ => .bind .lift fun _ => ?_)
      (trackCacheObject_within _ s h)
    exact writeRuntimePacket_keeps cache_apart
  | backpressure | creditUpdate => exact (sendPressure_keeps cache_apart).always h
  | prepared => exact (sendPrepared_keeps cache_apart).always h
  | ackClose => exact (ackClose_keeps cache_apart).always h
  | closeInPlace => exact (closeInPlace_keeps cache_apart).always h

theorem Call.perform_within (hs : Correlated s) (h : s.cache.Within config) (c : Call) :
    Always c.perform s fun s' => s'.cache.Within config := by
  exact c.perform_after (fun _ _ => rfl) (fun _ => h) (fun _ _ => readNextInput_after hs h)
    trackCacheObject_within fun send _ _ => send.perform_within hs h

variable {m : CachePutMetadata}

theorem validateCachePut_kind
    (h : s.validateCachePut m = .ok ()) : m.objectKind ∈ s.supportedCacheObjects := by
  obtain ⟨hkind, -⟩ := of_refused_eq_ok rfl h
  exact not_not.mp hkind

theorem AcceptsPut.supported (hs : Correlated s)
    (h : AcceptsPut s m) : m.objectKind ∈ s.supportedCacheObjects := by
  cases h with
  | @received ans body s' h =>
    have hensures : Ensures (receiveCachePut ans) s
        (fun put _ => put.1.objectKind ∈ s.supportedCacheObjects) fun _ => True := by
      have hpkt : Always (receiveRolePacket ans .cachePut "server expected CACHE_PUT") s
          fun t => t.cache = s.cache :=
        receiveSpecialized_after (Q := (· = s.cache)) (fun _ _ => rfl) (fun _ => rfl) fun _ =>
          readNextInput_after (Q := (· = s.cache)) hs rfl
      refine .bind_of hpkt (fun _ _ => trivial) fun p t ht => ?_
      refine .guard trivial fun _ _ => ?_
      refine .guard trivial fun _ _ => ?_
      refine .guard trivial fun m _ => ?_
      refine .guard trivial fun _ hvalid => ?_
      refine .guard trivial fun _ _ => .bind _ .any fun _ _ _ => .pure ?_
      have hkinds : t.supportedCacheObjects = s.supportedCacheObjects := congrArg Cache.kinds ht
      rw [← hkinds]
      exact validateCachePut_kind hvalid
    exact hensures.of_ok h
  | @sent written body s' h =>
    have hensures : Ensures (sendCachePut written m body) s
        (fun _ _ => m.objectKind ∈ s.supportedCacheObjects) fun _ => True := by
      refine .guard trivial fun _ hvalid => ?_
      exact Ensures.any.imp (fun _ _ _ => validateCachePut_kind hvalid) fun _ _ => trivial
    exact hensures.of_ok h

def emptyPut (kind : CacheObjectKind) : CachePutMetadata := ⟨0, 0, 0, kind, 0, 0, 0, 0⟩

theorem emptyPut_toBytes (kind : CacheObjectKind) :
    ∃ bytes, (emptyPut kind).toBytes = .ok bytes ∧ bytes.length = 40 := by
  cases kind <;> exact ⟨_, rfl, rfl⟩

variable {kind : CacheObjectKind}

theorem emptyPut_valid (hkind : kind ∈ s.supportedCacheObjects) :
    s.validateCachePut (emptyPut kind) = .ok () := by
  have hknown : ¬(emptyPut kind).objectKind ∉ s.supportedCacheObjects := not_not.mpr hkind
  have hfits : ¬(s.maxCacheObjectBytes ≠ 0 ∧
      s.maxCacheObjectBytes < (emptyPut kind).objectBytes) := fun h => UInt32.not_lt_zero h.2
  rw [validateCachePut, if_neg hknown, if_neg hfits]

theorem tracked_first (hempty : s.cacheObjects = []) (objectId : CacheObjectId) :
    s.tracked objectId = .ok [objectId] := by
  have hroom : ¬(s.maxCacheObjects ≠ 0 ∧
      s.maxCacheObjects.toNat ≤ ([] : List CacheObjectId).length) := by
    rintro ⟨hne, hle⟩
    exact hne (UInt64.toNat_inj.mp (Nat.le_zero.mp hle))
  rw [tracked, hempty, if_neg not_mem_nil, if_neg hroom]
  rfl

theorem emptyPut_accepted (hkind : kind ∈ s.supportedCacheObjects)
    (hempty : s.cacheObjects = []) : AcceptsPut s (emptyPut kind) := by
  obtain ⟨bytes, hbytes, hlen⟩ := emptyPut_toBytes kind
  have hfits : bytes.length + ([] : Bytes).length < 2 ^ 32 := by
    rw [hlen]
    decide
  obtain ⟨p, hpkt⟩ := runtimePacket_of_fits
    { s with cacheObjects := [.fromPut (emptyPut kind)] } .cachePut 0 hfits
  have hsend : call (sendCachePut (.ok ()) (emptyPut kind) []) s =
      (.ok (), { s with cacheObjects := [.fromPut (emptyPut kind)] }.send p) := by
    have htrack : call (trackCacheObject (.fromPut (emptyPut kind))) s =
        (.ok (), { s with cacheObjects := [.fromPut (emptyPut kind)] }) := by
      rw [trackCacheObject, call_bind_check s (tracked_first hempty _)]
      rfl
    have hwrite : call (writeRuntimePacket (.ok ()) .cachePut 0 bytes [])
        { s with cacheObjects := [.fromPut (emptyPut kind)] } =
          (.ok (), { s with cacheObjects := [.fromPut (emptyPut kind)] }.send p) := by
      rw [writeRuntimePacket, call_bind, call_check, hpkt]
      rfl
    rw [sendCachePut, call_bind_check s (emptyPut_valid hkind), call_bind_ok htrack, hbytes]
    exact hwrite
  exact .sent hsend

end

section
variable {sid : UInt32} {maxInFlightOperations : UInt16}
  {life : ConnectionLifecycle}

theorem acceptedWith_opened (hsess : sid ≠ 0) :
    Opened (.acceptedWith config sid maxInFlightOperations life) where
  session := hsess
  operations := rfl
  frameOperations := rfl
  operationFrames := rfl
  preSubmitDeadlines := ⟨maxInFlightOperations, rfl⟩
  cacheObjects := rfl
  pendingClose := rfl
  pendingInputs := rfl

theorem acceptedWith_within :
    (acceptedWith config sid maxInFlightOperations life).cache.Within config :=
  ⟨rfl, rfl, fun limit _ => Nat.zero_le limit⟩

end

/-- A session accepts every kind that the server supports, so its puts are of negotiated kinds
exactly if the client offers all of them. -/
theorem cache_puts_negotiated_iff {config : NnrpServerConfig} {hello : ClientHelloMetadata}
    {ack : ServerHelloAckMetadata} (hack : negotiate config hello = .ok ack) {sessionId : UInt32}
    (hsession : sessionId ≠ 0) (maxInFlightOperations : UInt16) (lifecycle : ConnectionLifecycle) :
    let start := acceptedWith config sessionId maxInFlightOperations lifecycle
    (∀ kind, Negotiated config hello kind ↔
      ack.cacheObjectBitmap.toNat.testBit (cacheObjectKindCode kind - 1) = true) ∧
    (∀ calls, ∀ limit ∈ config.cacheObjectLimit, (start.after calls).cacheObjects.length ≤ limit) ∧
    (∀ calls metadata, AcceptsPut (start.after calls) metadata →
      (Negotiated config hello metadata.objectKind ↔ OffersKind hello metadata.objectKind)) ∧
    ((∀ calls metadata, AcceptsPut (start.after calls) metadata →
        Negotiated config hello metadata.objectKind) ↔
      ∀ kind ∈ config.supportedCacheObjects, OffersKind hello kind) := by
  intro start
  have hcorr : Correlated start := .opened (acceptedWith_opened hsession)
  have hwithin (calls : List Call) : (start.after calls).cache.Within config := by
    refine (run_induction (fun s => Correlated s ∧ s.cache.Within config) ?_
      ⟨hcorr, acceptedWith_within⟩ (run_after start calls)).2
    rintro s c s' ⟨hs, h⟩ hstep
    refine ⟨correlated_of_step hs hstep, ?_⟩
    cases hstep
    exact (c.perform_within hs h).state
  have hsupported (calls : List Call) (metadata : CachePutMetadata)
      (hput : AcceptsPut (start.after calls) metadata) :
      metadata.objectKind ∈ config.supportedCacheObjects := by
    rw [← (hwithin calls).kinds]
    exact hput.supported (correlated_after hcorr calls)
  refine ⟨fun kind => ?_, fun calls => (hwithin calls).limit, ?_, ?_, ?_⟩
  · obtain ⟨acceptedProfileBitmap, serverCacheObjects, hobjects, rfl⟩ := negotiate_bitmaps hack
    rw [helloAck, UInt32.toNat_and, UInt16.toNat_toUInt32, UInt16.toNat_toUInt32, Nat.testBit_and,
      Bool.and_eq_true, cacheObjectBitmap_mem hobjects, Negotiated, OffersKind]
  · intro calls metadata hput
    exact and_iff_left (hsupported calls metadata hput)
  · intro h kind hkind
    exact (h [] (emptyPut kind) (emptyPut_accepted hkind rfl)).1
  · intro h calls metadata hput
    have hkind := hsupported calls metadata hput
    exact ⟨h _ hkind, hkind⟩

def promptHello : ClientHelloMetadata :=
  { ClientHelloMetadata.read plainHello with cacheObjectBitmap := 64 }

def tensorSession : NnrpServerSession := .acceptedWith tensorServer 7 4 (.withSession 7)

theorem prompt_puts_negotiated : (∀ calls, (tensorSession.after calls).cacheObjects.length ≤ 8) ∧
    ∀ calls metadata, AcceptsPut (tensorSession.after calls) metadata →
      Negotiated tensorServer promptHello metadata.objectKind := by
  have hwindow : promptHello.validateCapabilityWindow = .ok () := by decide +kernel
  obtain ⟨ack, bytes, hack, -⟩ :=
    negotiate_of_shared hwindow tensor_server_expressible tensor_server_shares
  have hsess : (7 : UInt32) ≠ 0 := by decide
  obtain ⟨-, hlimit, -, hiff⟩ := cache_puts_negotiated_iff hack hsess 4 (.withSession 7)
  exact ⟨fun calls => hlimit calls 8 rfl, hiff.mpr (by decide)⟩

/-- The client has offered no cache objects, and the session accepts one. -/
theorem unoffered_put_accepted :
    (∃ ack, negotiate tensorServer (.read plainHello) = .ok ack ∧ ack.cacheObjectBitmap = 0) ∧
    AcceptsPut tensorSession (emptyPut .promptSegment) ∧
    ¬Negotiated tensorServer (.read plainHello) (emptyPut .promptSegment).objectKind := by
  have hwindow : (ClientHelloMetadata.read plainHello).validateCapabilityWindow = .ok () := by
    decide +kernel
  obtain ⟨ack, bytes, hack, -⟩ :=
    negotiate_of_shared hwindow tensor_server_expressible tensor_server_shares
  refine ⟨⟨ack, hack, ?_⟩, emptyPut_accepted (mem_singleton_self _) rfl, ?_⟩
  · obtain ⟨acceptedProfileBitmap, serverCacheObjects, -, rfl⟩ := negotiate_bitmaps hack
    exact UInt32.zero_and
  · intro h
    have hoffers := h.1
    revert hoffers
    decide +kernel

end Nnrp.Server
