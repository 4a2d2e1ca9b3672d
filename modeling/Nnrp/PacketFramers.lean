import Nnrp.ChunkedReading

/-!
# The packet framers

WebSocket messages, messages of the foreign function interface and messages of the browser hold one
packet each. IPC, the buffered stream reader and the browser's batch decoder take packets off a
stream. All of them are compared with the core packet parser and with `frames`.
-/

namespace Nnrp.Framing
open LabelledRun Protocol ByteOrder Fallible Packet List RuntimePacket CommonHeader

variable {batch : Bytes} {cursor : ℕ}

/-- `packet_from_binary` of the WebSocket transport. -/
def packetFromBinary (max : ℕ) (bytes : Bytes) : Except RuntimeError RuntimePacket := do
  ensure (commonHeaderLen ≤ bytes.length)
    (.unexpectedMessage "websocket binary message is shorter than an NNRP header")
  let header ← liftNnrp (parse (bytes.take commonHeaderLen))
  let packetLen ← liftNnrp header.packetLen
  validatePacketLen max packetLen
  ensure (packetLen = bytes.length) (.protocol (.packetLengthMismatch packetLen bytes.length))
  let metaEnd := commonHeaderLen + header.metaLen.toNat
  liftNnrp (fromParts header (slice bytes commonHeaderLen header.metaLen.toNat)
    (slice bytes metaEnd header.bodyLen.toNat))

/-- `packet_from_bytes` of the foreign function interface. -/
def packetFromBytes (limit : ℕ) (bytes : Bytes) : Except RuntimeError RuntimePacket := do
  ensure (commonHeaderLen ≤ bytes.length)
    (.protocol (.sourceTooShort commonHeaderLen bytes.length))
  ensure (bytes.length ≤ limit) (.frameTooLarge bytes.length limit)
  let header ← liftNnrp (parse (bytes.take commonHeaderLen))
  let packetLen ← liftNnrp header.packetLen
  ensure (packetLen = bytes.length) (.protocol (.packetLengthMismatch packetLen bytes.length))
  let metadataEnd := commonHeaderLen + header.metaLen.toNat
  liftNnrp (fromParts header (slice bytes commonHeaderLen header.metaLen.toNat)
    (bytes.drop metadataEnd))

/-- `decode_packet` of the browser's carrier. -/
def decodePacket (max : ℕ) (bytes : Bytes) : Except RuntimeError RuntimePacket := do
  validatePacketLen max bytes.length
  let (header, metadata, body) ← liftNnrp (parsePacket bytes)
  liftNnrp (fromParts header metadata body)

inductive JsError
  | nnrp (error : NnrpError)
  | message (text : String)
  deriving DecidableEq

structure WasmFrameHeaderOutput where
  (versionMajor wireFormat messageType headerLen : UInt8)
  (flags metaLen bodyLen sessionId frameId : UInt32)
  (viewId routeId : UInt16)
  traceId : UInt64
  deriving DecidableEq

def WasmFrameHeaderOutput.ofHeader (h : CommonHeader) : WasmFrameHeaderOutput where
  versionMajor := h.versionMajor
  wireFormat := h.wireFormat
  messageType := h.messageType.code
  headerLen := h.headerLen
  flags := h.flags
  metaLen := h.metaLen
  bodyLen := h.bodyLen
  sessionId := h.sessionId
  frameId := h.frameId
  viewId := h.viewId
  routeId := h.routeId
  traceId := h.traceId

structure WasmFrameOutput where
  header : WasmFrameHeaderOutput
  (metadataOffset metadataLen bodyOffset bodyLen : ℕ)
  deriving DecidableEq

/-- `decode_websocket_binary_frame_json` before the output is written as JSON. -/
def decodeWebsocketBinaryFrame (frame : Bytes) : Except JsError WasmFrameOutput := do
  let (header, metadata, body) ← (parsePacket frame).mapError .nnrp
  pure {
    header := .ofHeader header
    metadataOffset := commonHeaderLen
    metadataLen := metadata.length
    bodyOffset := commonHeaderLen + metadata.length
    bodyLen := body.length }

structure Exactly (bytes : Bytes) (p : RuntimePacket) : Prop where
  parse : parse (bytes.take 40) = .ok p.header
  packetLen : p.header.packetLen = .ok bytes.length
  packet : p = packetAt p.header bytes

variable {max n : ℕ} {bytes rest stream : Bytes} {header : CommonHeader} {p : RuntimePacket}
  {part : Bytes}

theorem Exactly.length (h : Exactly bytes p) :
    bytes.length = 40 + p.header.metaLen.toNat + p.header.bodyLen.toNat :=
  (packetLen_eq_ok.mp h.packetLen).2

theorem Exactly.parsePacket (h : Exactly bytes p) :
    parsePacket bytes = .ok (p.header, p.metadata, p.body) := by
  have hparse := parsePacket_eq h.parse h.packetLen rfl
  rw [← h.packet] at hparse
  exact hparse

theorem parsePacket_eq_ok :
    parsePacket bytes = .ok (p.header, p.metadata, p.body) ↔ Exactly bytes p := by
  constructor
  · intro hres
    have h := hres
    rw [parsePacket] at h
    obtain ⟨header, hparse, h⟩ := bind_eq_ok.mp h
    obtain ⟨declared, hlen, h⟩ := bind_eq_ok.mp h
    split_ifs at h with hne
    · cases h
    have hdeclared : header.packetLen = .ok bytes.length := not_not.mp hne ▸ hlen
    have hlength := (packetLen_eq_ok.mp hdeclared).2
    rw [parse_take (by omega)] at hparse
    obtain ⟨hdr, m, body⟩ := p
    have hpkt := Except.ok.inj (hres.symm.trans (parsePacket_eq hparse hdeclared rfl))
    simp only [Prod.mk.injEq] at hpkt
    obtain ⟨rfl, rfl, rfl⟩ := hpkt
    exact ⟨hparse, hdeclared, rfl⟩
  · exact Exactly.parsePacket

theorem fromParts_slices (hparse : parse (bytes.take 40) = .ok header)
    (hlen : header.packetLen = .ok bytes.length) :
    fromParts header (slice bytes 40 header.metaLen.toNat)
      (slice bytes (40 + header.metaLen.toNat) header.bodyLen.toNat) = .ok p ↔ Exactly bytes p := by
  have hparts := fromParts_packetAt hlen rfl
  constructor
  · intro h
    obtain ⟨-, rfl⟩ := fromParts_eq_ok.mp h
    exact ⟨hparse, hlen, rfl⟩
  · intro h
    have hhdr : p.header = header := Except.ok.inj (h.parse.symm.trans hparse)
    rw [h.packet, hhdr]
    exact hparts

theorem Exactly.forty (h : Exactly bytes p) : 40 ≤ bytes.length := by
  rw [h.length]
  omega

theorem packetFromBinary_eq_ok :
    packetFromBinary max bytes = .ok p ↔ bytes.length ≤ max ∧ Exactly bytes p := by
  simp only [packetFromBinary, bind_eq_ok, exists_unit, ensure_eq_ok, liftNnrp_eq_ok,
    validatePacketLen_eq_ok]
  constructor
  · rintro ⟨-, header, hparse, _, hlen, hmax, rfl, h⟩
    exact ⟨hmax, (fromParts_slices hparse hlen).mp h⟩
  · rintro ⟨hmax, h⟩
    have hparts := (fromParts_slices h.parse h.packetLen).mpr h
    exact ⟨h.forty, p.header, h.parse, bytes.length, h.packetLen, hmax, rfl, hparts⟩

theorem packetFromBytes_eq_ok :
    packetFromBytes max bytes = .ok p ↔ bytes.length ≤ max ∧ Exactly bytes p := by
  have hrest : ∀ header : CommonHeader, header.packetLen = .ok bytes.length →
      bytes.drop (40 + header.metaLen.toNat) =
        slice bytes (40 + header.metaLen.toNat) header.bodyLen.toNat := by
    intro header hlen
    have htotal := (packetLen_eq_ok.mp hlen).2
    rw [slice, take_of_length_le]
    rw [length_drop]
    omega
  simp only [packetFromBytes, bind_eq_ok, exists_unit, ensure_eq_ok, liftNnrp_eq_ok]
  constructor
  · rintro ⟨-, hmax, header, hparse, _, hlen, rfl, h⟩
    rw [commonHeaderLen, hrest header hlen] at h
    exact ⟨hmax, (fromParts_slices hparse hlen).mp h⟩
  · rintro ⟨hmax, h⟩
    refine ⟨h.forty, hmax, p.header, h.parse, bytes.length, h.packetLen, rfl, ?_⟩
    rw [commonHeaderLen, hrest p.header h.packetLen]
    exact (fromParts_slices h.parse h.packetLen).mpr h

theorem decodePacket_eq_ok :
    decodePacket max bytes = .ok p ↔ bytes.length ≤ max ∧ Exactly bytes p := by
  simp only [decodePacket, bind_eq_ok, exists_unit, validatePacketLen_eq_ok, liftNnrp_eq_ok,
    Prod.exists]
  constructor
  · rintro ⟨hmax, header, m, body, hparse, h⟩
    obtain ⟨-, rfl⟩ := fromParts_eq_ok.mp h
    exact ⟨hmax, parsePacket_eq_ok.mp hparse⟩
  · rintro ⟨hmax, h⟩
    have hparts := fromParts_packetAt h.packetLen rfl
    rw [← h.packet] at hparts
    exact ⟨hmax, _, _, _, h.parsePacket, hparts⟩

structure WasmFrameOutput.Describes (output : WasmFrameOutput) (frame : Bytes)
    (p : RuntimePacket) : Prop where
  header : output.header = .ofHeader p.header
  metadata : slice frame output.metadataOffset output.metadataLen = p.metadata
  body : slice frame output.bodyOffset output.bodyLen = p.body

theorem Exactly.lengths (h : Exactly bytes p) :
    p.metadata.length = p.header.metaLen.toNat ∧ p.body.length = p.header.bodyLen.toNat := by
  have hlens := packetAt_lengths h.length
  rw [← h.packet] at hlens
  exact hlens

theorem decodeWebsocketBinaryFrame_eq (h : Exactly bytes p) :
    ∃ output, decodeWebsocketBinaryFrame bytes = .ok output ∧ output.Describes bytes p := by
  obtain ⟨hmeta, hbody⟩ := h.lengths
  rw [decodeWebsocketBinaryFrame, h.parsePacket]
  refine ⟨_, rfl, rfl, ?_, ?_⟩
  · rw [hmeta]
    exact (congrArg metadata h.packet).symm
  · rw [hmeta, hbody]
    exact (congrArg body h.packet).symm

theorem frames_packet (h : next max stream = .packet p rest) :
    frames max stream = p :: frames max rest := by
  rw [frames]
  split
  · rename_i h'
    rw [h, Next.packet.injEq] at h'
    rw [h'.1, h'.2]
  all_goals
    rename_i h'
    rw [h] at h'
    cases h'

theorem frames_stop (h : ∀ p rest, next max stream ≠ .packet p rest) : frames max stream = [] := by
  rw [frames]
  split
  · rename_i h'
    exact absurd h' (h _ _)
  · rfl
  · rfl

def readExact (n : ℕ) (stream : Bytes) : Except RuntimeError (Bytes × Bytes) :=
  if n ≤ stream.length then .ok (stream.take n, stream.drop n) else .error (.io "early eof")

def readPart (n : ℕ) (stream : Bytes) : Except RuntimeError (Bytes × Bytes) :=
  if n = 0 then .ok ([], stream) else readExact n stream

/-- `read_packet` of the IPC transport, with the bytes of the stream that are left. -/
def readPacket (max : ℕ) (stream : Bytes) : Except RuntimeError (RuntimePacket × Bytes) := do
  let (headerBytes, stream) ← readExact commonHeaderLen stream
  let header ← liftNnrp (parse headerBytes)
  let packetLen ← liftNnrp header.packetLen
  validatePacketLen max packetLen
  let (metadata, stream) ← readPart header.metaLen.toNat stream
  let (body, stream) ← readPart header.bodyLen.toNat stream
  let packet ← liftNnrp (fromParts header metadata body)
  pure (packet, stream)

def readPackets (max : ℕ) : ℕ → Bytes → List RuntimePacket × Option RuntimeError
  | 0, _ => ([], none)
  | n + 1, stream =>
    match readPacket max stream with
    | .error e => ([], some e)
    | .ok (packet, rest) =>
      let (packets, error) := readPackets max n rest
      (packet :: packets, error)

theorem readExact_eq_ok : readExact n stream = .ok (part, rest) ↔
    n ≤ stream.length ∧ part = stream.take n ∧ rest = stream.drop n := by
  rw [readExact]
  split_ifs with h
  · simp [h, eq_comm]
  · simp [h]

theorem readPart_eq_ok : readPart n stream = .ok (part, rest) ↔
    n ≤ stream.length ∧ part = stream.take n ∧ rest = stream.drop n := by
  rw [readPart]
  split_ifs with h
  · simp [h, eq_comm]
  · exact readExact_eq_ok

theorem readPacket_eq_ok :
    readPacket max stream = .ok (p, rest) ↔ next max stream = .packet p rest := by
  rw [next_eq_packet]
  simp only [readPacket, bind_eq_ok, exists_unit, Prod.exists, readExact_eq_ok, readPart_eq_ok,
    liftNnrp_eq_ok, validatePacketLen_eq_ok, fromParts_eq_ok]
  constructor
  · rintro ⟨_, _, ⟨hforty, rfl, rfl⟩, header, hparse, len, hlen, hmax, _, _,
      ⟨hmetaLen, rfl, rfl⟩, _, _, ⟨hbodyLen, rfl, rfl⟩, _, ⟨-, rfl⟩, h⟩
    cases h
    have hhdr : headerOf max stream = .ok (header, len) :=
      headerOf_eq_ok.mpr ⟨hparse, hlen, hmax⟩
    have htotal := packetLen_of_headerOf hhdr
    simp only [commonHeaderLen, length_drop] at hforty hmetaLen hbodyLen
    refine ⟨hforty, header, len, hhdr, by omega, ?_, ?_⟩
    · simp only [packetAt, slice, commonHeaderLen, drop_drop]
    · rw [drop_drop, drop_drop, htotal, commonHeaderLen, Nat.add_assoc]
  · rintro ⟨hforty, header, len, hhdr, hlength, rfl, rfl⟩
    have htotal := packetLen_of_headerOf hhdr
    obtain ⟨hparse, hlen, hmax⟩ := headerOf_eq_ok.mp hhdr
    have hmetaLen : header.metaLen.toNat ≤ (stream.drop 40).length := by
      rw [length_drop]
      omega
    have hbodyLen :
        header.bodyLen.toNat ≤ ((stream.drop 40).drop header.metaLen.toNat).length := by
      rw [length_drop, length_drop]
      omega
    refine ⟨_, _, ⟨hforty, rfl, rfl⟩, header, hparse, len, hlen, hmax, _, _, ⟨hmetaLen, rfl, rfl⟩,
      _, _, ⟨hbodyLen, rfl, rfl⟩, packetAt header stream, ⟨?_, ?_⟩, ?_⟩
    · rw [commonHeaderLen, length_take_of_le hmetaLen, length_take_of_le hbodyLen, hlen, htotal]
    · rw [packetAt, slice, slice, commonHeaderLen, drop_drop]
    · rw [drop_drop, drop_drop, htotal, Nat.add_assoc]
      rfl

theorem readPackets_eq (n : ℕ) (stream : Bytes) :
    (readPackets max n stream).1 = (frames max stream).take n ∧
      ((readPackets max n stream).2 ≠ none ↔ (frames max stream).length < n) := by
  induction n generalizing stream with
  | zero => simp [readPackets]
  | succ n ih =>
    cases hread : readPacket max stream with
    | error e =>
      have hstop : frames max stream = [] := by
        apply frames_stop
        intro p rest hnext
        rw [readPacket_eq_ok.mpr hnext] at hread
        cases hread
      simp [readPackets, hread, hstop]
    | ok result =>
      obtain ⟨p, rest⟩ := result
      have hframes := frames_packet (readPacket_eq_ok.mp hread)
      obtain ⟨hpkts, herror⟩ := ih rest
      rw [hframes]
      simp only [readPackets, hread, take_succ_cons, hpkts, herror, length_cons]
      exact ⟨trivial, by omega⟩

open StreamReader in
theorem transition_frames {s s' : State} (ht : Transition max s s') :
    s'.returned ++ frames max s'.remaining = s.returned ++ frames max s.remaining ∧
      (s'.failures = s.failures ∨ frames max s'.remaining = []) ∧
      (frames max s.remaining = [] → frames max s'.remaining = []) := by
  cases ht with
  | kept hbytes hret hfails =>
    rw [hbytes, hret]
    exact ⟨rfl, .inl hfails, id⟩
  | returned p hnext hret hfails =>
    rw [hret, frames_packet hnext, append_assoc, singleton_append]
    exact ⟨rfl, .inl hfails, nofun⟩
  | failed e hnext hbytes hret hfails | ended hnext hbytes hret hfails =>
    have hstop : frames max s.remaining = [] := by
      apply frames_stop
      intro p rest hpkt
      rw [hnext] at hpkt
      cases hpkt
    rw [hbytes, hret]
    exact ⟨rfl, .inr hstop, id⟩

open StreamReader in
theorem run_frames {s : State} {es : List Event}
    (hr : run (StreamReader.step max) (.start stream) es = some s) :
    s.Valid max ∧ s.returned ++ frames max s.remaining = frames max stream ∧
      (s.failures ≠ [] → frames max s.remaining = []) := by
  refine run_induction (fun s => s.Valid max ∧
    s.returned ++ frames max s.remaining = frames max stream ∧
      (s.failures ≠ [] → frames max s.remaining = [])) ?_ ?_ hr
  · rintro s ev s' ⟨hvalid, hframes, hfailed⟩ hs
    obtain ⟨hvalid', ht⟩ := step_transition hvalid hs
    obtain ⟨hkept, hfails, hempty⟩ := transition_frames ht
    refine ⟨hvalid', hkept.trans hframes, ?_⟩
    intro hne
    rcases hfails with hsame | hstop
    · exact hempty (hfailed (hsame ▸ hne))
    · exact hstop
  · refine ⟨start_valid stream, ?_, nofun⟩
    rfl

structure WasmFrameBatchEntry where
  (frameOffset frameLen : ℕ)
  header : WasmFrameHeaderOutput
  (metadataOffset metadataLen bodyOffset bodyLen : ℕ)
  deriving DecidableEq

structure WasmFrameBatchOutput where
  frames : List WasmFrameBatchEntry
  (consumedLen remainingLen : ℕ)
  deriving DecidableEq

/-- One turn of the loop. Where a `usize` has 32 bits, a length that overflows it exceeds every
slice, so that the turn fails there too. -/
def batchEntry (batch : Bytes) (cursor : ℕ) : Except JsError WasmFrameBatchEntry := do
  let source := batch.drop cursor
  let header ← (parse source).mapError .nnrp
  let frameLen ← header.packetLen.mapError .nnrp
  ensure (frameLen ≤ source.length) (.message "incomplete binary frame in batch")
  let metadataOffset := cursor + commonHeaderLen
  let metadataLen := header.metaLen.toNat
  pure {
    frameOffset := cursor
    frameLen
    header := .ofHeader header
    metadataOffset
    metadataLen
    bodyOffset := metadataOffset + metadataLen
    bodyLen := header.bodyLen.toNat }

def span (p : RuntimePacket) : ℕ := 40 + p.metadata.length + p.body.length

def entryAt (cursor : ℕ) (p : RuntimePacket) : WasmFrameBatchEntry where
  frameOffset := cursor
  frameLen := span p
  header := .ofHeader p.header
  metadataOffset := cursor + 40
  metadataLen := p.metadata.length
  bodyOffset := cursor + 40 + p.metadata.length
  bodyLen := p.body.length

theorem next_span (h : next max stream = .packet p rest) :
    span p ≤ max ∧ span p ≤ stream.length ∧ rest = stream.drop (span p) ∧
      p.header.packetLen = .ok (span p) ∧ p = packetAt p.header stream ∧
      p.metadata.length = p.header.metaLen.toNat ∧ p.body.length = p.header.bodyLen.toNat := by
  obtain ⟨hforty, header, n, hhdr, hlen, rfl, rfl⟩ := next_eq_packet.mp h
  have hn := packetLen_of_headerOf hhdr
  have htake : (stream.take n).length = 40 + header.metaLen.toNat + header.bodyLen.toNat := by
    rw [length_take_of_le hlen, hn]
  have hlens := packetAt_lengths htake
  rw [packetAt_take hn hlen] at hlens
  have hspan : span (packetAt header stream) = n := by
    rw [span, hlens.1, hlens.2, hn]
  obtain ⟨-, hpktLen, hmax⟩ := headerOf_eq_ok.mp hhdr
  rw [hspan]
  exact ⟨hmax, hlen, rfl, hpktLen, rfl, hlens⟩

variable {entry : WasmFrameBatchEntry}

theorem batchEntry_eq_ok (hmax : batch.length ≤ max) : batchEntry batch cursor = .ok entry ↔
      ∃ p rest, next max (batch.drop cursor) = .packet p rest ∧ entry = entryAt cursor p := by
  have hsource : (batch.drop cursor).length ≤ batch.length := by
    rw [length_drop]
    omega
  simp only [batchEntry, bind_eq_ok, exists_unit, mapError_eq_ok, ensure_eq_ok]
  constructor
  · rintro ⟨header, hparse, len, hlen, hwhole, h⟩
    cases h
    have htotal := (packetLen_eq_ok.mp hlen).2
    rw [parse_take (by omega)] at hparse
    have hnext : next max (batch.drop cursor) =
        .packet (packetAt header (batch.drop cursor)) ((batch.drop cursor).drop len) :=
      next_eq_packet.mpr ⟨by omega, header, len,
        headerOf_eq_ok.mpr ⟨hparse, hlen, by omega⟩, hwhole, rfl, rfl⟩
    obtain ⟨-, -, -, hspan, -, hmeta, hbody⟩ := next_span hnext
    refine ⟨_, _, hnext, ?_⟩
    have hsame : len = span (packetAt header (batch.drop cursor)) :=
      Except.ok.inj (hlen.symm.trans hspan)
    rw [entryAt, ← hsame, hmeta, hbody]
    rfl
  · rintro ⟨p, rest, hnext, rfl⟩
    obtain ⟨hforty, header, n, hhdr, hlen, hpkt, -⟩ := next_eq_packet.mp hnext
    obtain ⟨-, hwhole, -, hspan, -, hmeta, hbody⟩ := next_span hnext
    have hparse := (headerOf_eq_ok.mp hhdr).1
    have hparsed : parse (batch.drop cursor) = .ok p.header := by
      rw [parse_take hforty, hparse, hpkt]
      rfl
    refine ⟨p.header, hparsed, span p, hspan, hwhole, ?_⟩
    rw [entryAt, hmeta, hbody]
    rfl

theorem batchEntry_frameLen (h : batchEntry batch cursor = .ok entry) : 40 ≤ entry.frameLen := by
  obtain ⟨p, rest, -, rfl⟩ := (batchEntry_eq_ok le_rfl).mp h
  simp only [entryAt, span]
  omega

/-- The loop of `decode_websocket_binary_frame_batch_json`; zero stands for no limit on the number
of frames. -/
def decodeBatchLoop (batch : Bytes) (maxFrames cursor : ℕ) (outputs : List WasmFrameBatchEntry) :
    Except JsError WasmFrameBatchOutput :=
  if cursor < batch.length ∧ (maxFrames = 0 ∨ outputs.length < maxFrames) then
    match hentry : batchEntry batch cursor with
    | .error e => .error e
    | .ok entry =>
      have := batchEntry_frameLen hentry
      decodeBatchLoop batch maxFrames (cursor + entry.frameLen) (outputs ++ [entry])
  else
    .ok { frames := outputs, consumedLen := cursor, remainingLen := batch.length - cursor }
termination_by batch.length - cursor

def decodeWebsocketBinaryFrameBatch (batch : Bytes) (maxFrames : ℕ) :
    Except JsError WasmFrameBatchOutput :=
  decodeBatchLoop batch maxFrames 0 []

def entriesFrom : ℕ → List RuntimePacket → List WasmFrameBatchEntry
  | _, [] => []
  | cursor, p :: ps => entryAt cursor p :: entriesFrom (cursor + span p) ps

variable {output : WasmFrameBatchOutput} {limit : ℕ}

theorem decodeBatchLoop_eq_ok (cursor : ℕ)
    (outputs : List WasmFrameBatchEntry) (hmax : batch.length ≤ max)
    (hcursor : cursor ≤ batch.length) : decodeBatchLoop batch 0 cursor outputs = .ok output ↔
      cursor + ((frames max (batch.drop cursor)).map span).sum = batch.length ∧
        output = ⟨outputs ++ entriesFrom cursor (frames max (batch.drop cursor)),
          batch.length, 0⟩ := by
  -- along the loop: what it has still to decode is what `frames` takes off the rest
  fun_induction decodeBatchLoop batch 0 cursor outputs with
  | case1 cursor outputs hmore e hentry =>
    have hstop : frames max (batch.drop cursor) = [] := by
      apply frames_stop
      intro p rest hnext
      have hok := (batchEntry_eq_ok hmax).mpr ⟨p, rest, hnext, rfl⟩
      rw [hentry] at hok
      cases hok
    rw [hstop, map_nil, sum_nil]
    constructor
    · intro h
      cases h
    · rintro ⟨hlen, -⟩
      omega
  | case2 cursor outputs hmore entry hentry _ ih =>
    obtain ⟨p, rest, hnext, rfl⟩ := (batchEntry_eq_ok hmax).mp hentry
    obtain ⟨-, hspan, hrest, -⟩ := next_span hnext
    rw [drop_drop] at hrest
    rw [length_drop] at hspan
    have hih := ih (by
      simp only [entryAt]
      omega)
    simp only [entryAt] at hih
    rw [frames_packet hnext, hrest]
    simp only [entryAt] at hih ⊢
    rw [hih, map_cons, sum_cons, entriesFrom, append_assoc, singleton_append, Nat.add_assoc]
    rfl
  | case3 cursor outputs hdone =>
    have hend : cursor = batch.length := by
      have hnot : ¬cursor < batch.length := fun hlt => hdone ⟨hlt, .inl rfl⟩
      omega
    subst hend
    have hstop : frames max (batch.drop batch.length) = [] := by
      rw [drop_length]
      apply frames_stop
      intro p rest hnext
      exact absurd (next_rest_length hnext) (by simp)
    rw [hstop, map_nil, sum_nil, entriesFrom, append_nil, Nat.sub_self]
    simp [eq_comm]

def WasmFrameBatchEntry.frame (entry : WasmFrameBatchEntry) : WasmFrameOutput where
  header := entry.header
  metadataOffset := entry.metadataOffset
  metadataLen := entry.metadataLen
  bodyOffset := entry.bodyOffset
  bodyLen := entry.bodyLen

theorem entryAt_describes (h : next max (batch.drop cursor) = .packet p rest) :
    (entryAt cursor p).frame.Describes batch p := by
  obtain ⟨-, -, -, -, hpkt, hmeta, hbody⟩ := next_span h
  refine ⟨rfl, ?_, ?_⟩
  · have hparts := congrArg metadata hpkt
    rw [packetAt, commonHeaderLen, slice, drop_drop, ← hmeta] at hparts
    exact hparts.symm
  · have hparts := congrArg body hpkt
    rw [packetAt, commonHeaderLen, ← hmeta, ← hbody] at hparts
    simp only [slice, drop_drop] at hparts
    rw [← Nat.add_assoc] at hparts
    exact hparts.symm

theorem entriesFrom_describe (max : ℕ) (batch : Bytes) (cursor : ℕ) :
    List.Forall₂ (fun entry p => entry.frame.Describes batch p)
      (entriesFrom cursor (frames max (batch.drop cursor))) (frames max (batch.drop cursor)) := by
  generalize hstream : batch.drop cursor = stream
  fun_induction frames max stream generalizing cursor with
  | case1 stream p rest hnext _ ih =>
    subst hstream
    obtain ⟨-, -, hrest, -⟩ := next_span hnext
    rw [drop_drop] at hrest
    exact .cons (entryAt_describes hnext) (ih (cursor + span p) hrest.symm)
  | case2 | case3 => exact .nil

theorem next_packet_limit (hlimit : stream.length ≤ limit) :
    next max stream = .packet p rest ↔ next limit stream = .packet p rest ∧ span p ≤ max := by
  constructor
  · intro h
    obtain ⟨hforty, header, n, hhdr, hlen, hp, hrest⟩ := next_eq_packet.mp h
    obtain ⟨hparse, hpktLen, -⟩ := headerOf_eq_ok.mp hhdr
    have hn : n ≤ limit := hlen.trans hlimit
    exact ⟨next_eq_packet.mpr ⟨hforty, header, n, headerOf_eq_ok.mpr ⟨hparse, hpktLen, hn⟩, hlen,
      hp, hrest⟩, (next_span h).1⟩
  · rintro ⟨h, hmax⟩
    obtain ⟨-, -, -, hspan, -⟩ := next_span h
    obtain ⟨hforty, header, n, hhdr, hlen, hp, hrest⟩ := next_eq_packet.mp h
    obtain ⟨hparse, hpktLen, -⟩ := headerOf_eq_ok.mp hhdr
    have hhdr : p.header = header := congrArg RuntimePacket.header hp
    have hn : span p = n := by
      rw [hhdr, hpktLen] at hspan
      exact (Except.ok.inj hspan).symm
    exact next_eq_packet.mpr ⟨hforty, header, n,
      headerOf_eq_ok.mpr ⟨hparse, hpktLen, hn ▸ hmax⟩, hlen, hp, hrest⟩

theorem frames_within (hlimit : stream.length ≤ limit)
    (h : ∀ p ∈ frames limit stream, span p ≤ max) : frames max stream = frames limit stream := by
  fun_induction frames limit stream with
  | case1 stream p rest hnext hshort ih =>
    have hnext' := (next_packet_limit hlimit).mpr ⟨hnext, h p mem_cons_self⟩
    rw [frames_packet hnext', ih (by omega) fun q hq => h q (mem_cons_of_mem _ hq)]
  | case2 stream hnext | case3 stream e hnext =>
    apply frames_stop
    intro p rest hpkt
    rw [((next_packet_limit hlimit).mp hpkt).1] at hnext
    cases hnext

theorem decodeBatch_eq_ok (hlimit : stream.length ≤ max) :
    decodeWebsocketBinaryFrameBatch stream 0 = .ok output ↔
      ((frames max stream).map span).sum = stream.length ∧
        output = ⟨entriesFrom 0 (frames max stream), stream.length, 0⟩ := by
  have hloop : decodeBatchLoop stream 0 0 [] = .ok output ↔ _ :=
    decodeBatchLoop_eq_ok 0 [] hlimit (Nat.zero_le _)
  rw [drop_zero, Nat.zero_add, nil_append] at hloop
  exact hloop

/-- All decoders of one packet accept what the core parser accepts, and all readers of a stream
return its `frames`. The batch decoder returns them only if they fill the stream. -/
theorem framers_agree (max : ℕ) (bytes : Bytes) : (∀ p : RuntimePacket,
      (packetFromBinary max bytes = .ok p ↔ bytes.length ≤ max ∧
        parsePacket bytes = .ok (p.header, p.metadata, p.body)) ∧
      (packetFromBytes max bytes = .ok p ↔ bytes.length ≤ max ∧
        parsePacket bytes = .ok (p.header, p.metadata, p.body)) ∧
      (decodePacket max bytes = .ok p ↔ bytes.length ≤ max ∧
        parsePacket bytes = .ok (p.header, p.metadata, p.body))) ∧
    ((∃ output, decodeWebsocketBinaryFrame bytes = .ok output) ↔
      ∃ parts, parsePacket bytes = .ok parts) ∧
    (∀ p : RuntimePacket, parsePacket bytes = .ok (p.header, p.metadata, p.body) →
      ∃ output, decodeWebsocketBinaryFrame bytes = .ok output ∧ output.Describes bytes p) ∧
    (∀ n, (readPackets max n bytes).1 = (frames max bytes).take n ∧
      ((readPackets max n bytes).2 ≠ none ↔ (frames max bytes).length < n)) ∧
    (∀ es s, run (StreamReader.step max) (.start bytes) es = some s →
      s.returned <+: frames max bytes ∧
      (s.failures ≠ [] ∨ s.waiting = true ∧ s.unread = [] → s.returned = frames max bytes)) ∧
    ((∀ p ∈ frames bytes.length bytes, span p ≤ max) →
      ((∃ output, decodeWebsocketBinaryFrameBatch bytes 0 = .ok output) ↔
        ((frames max bytes).map span).sum = bytes.length) ∧
      ∀ output, decodeWebsocketBinaryFrameBatch bytes 0 = .ok output → output.remainingLen = 0 ∧
        List.Forall₂ (fun entry p => entry.frame.Describes bytes p) output.frames
          (frames max bytes)) := by
  refine ⟨?_, ?_, ?_, fun n => readPackets_eq n bytes, ?_, ?_⟩
  · intro p
    rw [parsePacket_eq_ok]
    exact ⟨packetFromBinary_eq_ok, packetFromBytes_eq_ok, decodePacket_eq_ok⟩
  · constructor
    · rintro ⟨output, h⟩
      rw [decodeWebsocketBinaryFrame] at h
      obtain ⟨p, hparse, -⟩ := bind_eq_ok.mp h
      exact ⟨p, mapError_eq_ok.mp hparse⟩
    · rintro ⟨⟨header, m, body⟩, h⟩
      have hp : Exactly bytes ⟨header, m, body⟩ := parsePacket_eq_ok.mp h
      obtain ⟨output, houtput, -⟩ := decodeWebsocketBinaryFrame_eq hp
      exact ⟨output, houtput⟩
  · intro p h
    exact decodeWebsocketBinaryFrame_eq (parsePacket_eq_ok.mp h)
  · intro es s hr
    obtain ⟨hvalid, hframes, hfailed⟩ := run_frames hr
    refine ⟨⟨_, hframes⟩, ?_⟩
    intro hstopped
    have hstop : frames max s.remaining = [] := by
      rcases hstopped with hfails | ⟨hwaiting, hunread⟩
      · exact hfailed hfails
      · apply frames_stop
        intro p rest hnext
        rw [StreamReader.State.remaining, hunread, append_nil, hvalid.waiting hwaiting] at hnext
        cases hnext
    rw [hstop, append_nil] at hframes
    exact hframes
  · intro hwithin
    rw [frames_within le_rfl hwithin]
    constructor
    · constructor
      · rintro ⟨output, h⟩
        exact ((decodeBatch_eq_ok le_rfl).mp h).1
      · intro htotal
        exact ⟨_, (decodeBatch_eq_ok le_rfl).mpr ⟨htotal, rfl⟩⟩
    · intro output h
      obtain ⟨-, rfl⟩ := (decodeBatch_eq_ok le_rfl).mp h
      have hentries := entriesFrom_describe bytes.length bytes 0
      rw [drop_zero] at hentries
      exact ⟨rfl, hentries⟩

def samplePing : RuntimePacket := ⟨new .ping 1 1, [7], [9]⟩

def sampleStream : Bytes :=
  samplePing.serialized ++ RuntimePacket.serialized ⟨new .pong 0 2, [], [5, 6]⟩

theorem framers_agree_ping :
    (∃ output, decodeWebsocketBinaryFrame samplePing.serialized = .ok output ∧
      output.Describes samplePing.serialized samplePing) ∧
    (frames 64 sampleStream).length = 2 ∧
    (∃ s, run (StreamReader.step 64) (.start sampleStream)
        [.call, .read 30, .read 40, .call, .read 14, .call, .eof] = some s ∧
      s.returned = frames 64 sampleStream) ∧
    (∃ output, decodeWebsocketBinaryFrameBatch sampleStream 0 = .ok output ∧
      List.Forall₂ (fun entry p => entry.frame.Describes sampleStream p) output.frames
        (frames 64 sampleStream)) := by
  obtain ⟨-, -, hsingle, -⟩ := framers_agree 64 samplePing.serialized
  obtain ⟨-, -, -, -, hreader, hbatch⟩ := framers_agree 64 sampleStream
  have hparse : parsePacket samplePing.serialized =
      .ok (samplePing.header, samplePing.metadata, samplePing.body) := by decide +kernel
  have hrun : (run (StreamReader.step 64) (.start sampleStream)
      [.call, .read 30, .read 40, .call, .read 14, .call, .eof]).map
        (fun s => decide (s.failures ≠ [])) = some true := by decide +kernel
  have hwithin : ∀ p ∈ frames sampleStream.length sampleStream, span p ≤ 64 := by
    decide +kernel
  have hfilled : ((frames 64 sampleStream).map span).sum = sampleStream.length := by
    decide +kernel
  obtain ⟨s, hs, hfailed⟩ := Option.map_eq_some_iff.mp hrun
  obtain ⟨hok, hentries⟩ := hbatch hwithin
  obtain ⟨output, houtput⟩ := hok.mpr hfilled
  refine ⟨hsingle samplePing hparse, by decide +kernel, ⟨s, hs, ?_⟩, output, houtput, ?_⟩
  · exact (hreader _ s hs).2 (.inl (of_decide_eq_true hfailed))
  · exact (hentries output houtput).2

/-- One byte behind a packet: the readers of a stream return the packet and then fail, the batch
decoder fails and returns nothing. -/
theorem batch_drops_packets :
    (∀ p ∈ frames 64 (samplePing.serialized ++ [0]), span p ≤ 64) ∧
    readPackets 64 2 (samplePing.serialized ++ [0]) = ([samplePing], some (.io "early eof")) ∧
    decodeWebsocketBinaryFrameBatch (samplePing.serialized ++ [0]) 0 =
      .error (.nnrp (.sourceTooShort 40 1)) := by
  decide +kernel

end Nnrp.Framing
