import Nnrp.FfiHandle
import Nnrp.LabelledRun
import Nnrp.Packet

/-!
# Reading packets in batches

A call of the foreign interface reads one packet and then whatever else arrives within a
millisecond each, until the batch is full. A packet that does not fit is put back. The call has a
deadline of its own, which drops the whole future, and with it the packets collected so far; an
error of the transport does the same.

Reads of the transport are cancellation safe: one that is dropped has taken no packet.
-/

namespace Nnrp.Ffi
open Packet ByteOrder LabelledRun List

/-- How a wait for a packet ends: with what the transport delivers next, with the timer of the
further reads, or with the deadline of the call. -/
inductive Wait
  | ready | elapsed | deadline
  deriving DecidableEq

structure TransportConnectionState where
  inbound : List (Except RuntimeError RuntimePacket)
  pending : List RuntimePacket

inductive Arrival
  | packet (packet : RuntimePacket)
  | error (error : RuntimeError)
  | elapsed
  | deadline

variable (s : TransportConnectionState)

namespace TransportConnectionState

/-- The next packet: a pending one, or what the wait for the transport ends with. A call whose waits
are used up waits for its deadline. -/
def next : List Wait → Arrival × List Wait × TransportConnectionState
  | waits =>
    match s.pending with
    | packet :: pending => (.packet packet, waits, { s with pending })
    | [] =>
      match waits with
      | .ready :: waits =>
        match s.inbound with
        | .ok packet :: inbound => (.packet packet, waits, { s with inbound })
        | .error error :: inbound => (.error error, waits, { s with inbound })
        | [] => (.elapsed, waits, s)
      | .elapsed :: waits => (.elapsed, waits, s)
      | .deadline :: waits => (.deadline, waits, s)
      | [] => (.deadline, [], s)

def pushFront (packet : RuntimePacket) : TransportConnectionState :=
  { s with pending := packet :: s.pending }

end TransportConnectionState

inductive ReadFailure
  | runtime (error : RuntimeError)
  | wouldBlock
  | status (status : NnrpFfiStatus)

structure NnrpTransportReadBatchRequest where
  maxFrames : UInt32
  maxBytes : UInt64

def defaultMaxFrames : UInt32 := 16
def defaultMaxPacketBytes : UInt64 := 64 * 1024 * 1024
def batchLengthPrefixBytes : ℕ := 4

namespace NnrpTransportReadBatchRequest

variable (request : NnrpTransportReadBatchRequest)

def frameLimit : ℕ :=
  (if request.maxFrames = 0 then defaultMaxFrames else request.maxFrames).toNat

/-- `effective_packet_limit`, where a `usize` has 64 bits. -/
def byteLimit : ℕ :=
  (if request.maxBytes = 0 then defaultMaxPacketBytes else request.maxBytes).toNat

end NnrpTransportReadBatchRequest

def encodedLen (frame : Bytes) : ℕ := frame.length + batchLengthPrefixBytes

def collect (maxBytes : ℕ) : ℕ → List Wait → ℕ → List Bytes → TransportConnectionState →
    TransportConnectionState × Except ReadFailure (List Bytes)
  | 0, _, _, bytes, s => (s, .ok bytes)
  | room + 1, waits, total, bytes, s =>
    if total < maxBytes then
      match s.next waits with
      | (.packet packet, waits, s) =>
        match packet.toBytes with
        | .error error => (s, .error (.runtime (.protocol error)))
        | .ok packetBytes =>
          if maxBytes < total + encodedLen packetBytes then (s.pushFront packet, .ok bytes)
          else collect maxBytes room waits (total + encodedLen packetBytes)
            (bytes ++ [packetBytes]) s
      | (.error error, _, s) => (s, .error (.runtime error))
      | (.elapsed, _, s) => (s, .ok bytes)
      | (.deadline, _, s) => (s, .error .wouldBlock)
    else (s, .ok bytes)

structure ReadBatchCall where
  request : NnrpTransportReadBatchRequest
  locked : Bool
  waits : List Wait

/-- No timer runs while the call waits for its first packet, only its deadline. -/
def readPackets (call : ReadBatchCall) (s : TransportConnectionState) :
    TransportConnectionState × Except ReadFailure (List Bytes) :=
  if call.locked then
    match s.next call.waits with
    | (.packet first, waits, s) =>
      match first.toBytes with
      | .error error => (s, .error (.runtime (.protocol error)))
      | .ok firstBytes =>
        if call.request.byteLimit < encodedLen firstBytes then
          (s.pushFront first,
            .error (.runtime (.frameTooLarge (encodedLen firstBytes) call.request.byteLimit)))
        else collect call.request.byteLimit (call.request.frameLimit - 1) waits
          (encodedLen firstBytes) [firstBytes] s
    | (.error error, _, s) => (s, .error (.runtime error))
    | (.elapsed, _, s) | (.deadline, _, s) => (s, .error .wouldBlock)
  else (s, .error .wouldBlock)

def encodeBatch : List Bytes → Except NnrpFfiStatus Bytes
  | [] => .ok []
  | packet :: packets =>
    if packet.length < 2 ^ 32 then
      (encodeBatch packets).map fun rest => leBytes 4 packet.length ++ packet ++ rest
    else .error (.invalidArgument 111)

structure NnrpTransportFrameBatch where
  payload : Bytes
  frameCount : UInt32

def storeBatch (packets : List Bytes) : Except ReadFailure NnrpTransportFrameBatch :=
  match encodeBatch packets with
  | .error status => .error (.status status)
  | .ok payload => .ok ⟨payload, UInt32.ofNat packets.length⟩

def transportReadBatch (call : ReadBatchCall) (s : TransportConnectionState) :
    TransportConnectionState × Except ReadFailure NnrpTransportFrameBatch :=
  let (s, packets) := readPackets call s
  (s, packets >>= storeBatch)

structure BatchReader where
  connection : TransportConnectionState
  batches : List NnrpTransportFrameBatch

variable (inbound : List (Except RuntimeError RuntimePacket))

def BatchReader.new : BatchReader :=
  ⟨⟨inbound, []⟩, []⟩

def readStep (reader : BatchReader) (call : ReadBatchCall) : Option BatchReader :=
  match transportReadBatch call reader.connection with
  | (connection, .ok batch) => some ⟨connection, reader.batches ++ [batch]⟩
  | (connection, .error _) => some ⟨connection, reader.batches⟩

def packetsOf : List RuntimePacket :=
  inbound.filterMap Except.toOption

def Serialized : List RuntimePacket → List Bytes → Prop :=
  List.Forall₂ fun packet frame => packet.toBytes = .ok frame

def NnrpTransportFrameBatch.Holds (batch : NnrpTransportFrameBatch)
    (packets : List RuntimePacket) : Prop :=
  batch.frameCount.toNat = packets.length ∧
    ∃ frames, Serialized packets frames ∧ encodeBatch frames = .ok batch.payload

/-- The packets that the transport has delivered are those of the batches, in their order, and
behind them the pending ones. -/
structure Lossless (reader : BatchReader) : Prop where
  rest : reader.connection.inbound <:+ inbound
  kept : ∃ groups, List.Forall₂ NnrpTransportFrameBatch.Holds reader.batches groups ∧
    packetsOf inbound = groups.flatten ++ (reader.connection.pending ++
      packetsOf reader.connection.inbound)

def arrivals : List Wait → List (Except RuntimeError RuntimePacket) → List Arrival
  | .ready :: waits, .ok packet :: inbound => .packet packet :: arrivals waits inbound
  | .ready :: _, .error error :: _ => [.error error]
  | .ready :: _, [] => [.elapsed]
  | .elapsed :: _, _ => [.elapsed]
  | .deadline :: _, _ => [.deadline]
  | [], _ => [.deadline]

def feed (waits : List Wait) : List Arrival :=
  s.pending.map .packet ++ arrivals waits s.inbound

def encodedTotal (frames : List Bytes) : ℕ := (frames.map encodedLen).sum

/-- With so many bytes collected, the arrival makes the call fail: an error or the deadline behind
the first packet, or a packet that cannot be written or is too long for the prefix of a batch. -/
def Breaks (maxBytes total : ℕ) : Arrival → Prop
  | .packet packet =>
    match packet.toBytes with
    | .error _ => True
    | .ok frame => 2 ^ 32 ≤ frame.length ∧ total + encodedLen frame ≤ maxBytes
  | .error _ | .deadline => total ≠ 0
  | .elapsed => False

def SpoilsFrom (maxBytes room total : ℕ) (arrived : List Arrival) : Prop :=
  ∃ packets frames last rest, arrived = packets.map .packet ++ last :: rest ∧
    packets.length < room ∧ Serialized packets frames ∧
    total + encodedTotal frames < maxBytes ∧ Breaks maxBytes (total + encodedTotal frames) last

/-- The call runs into an arrival that makes it fail before its batch is full. -/
def ReadBatchCall.Spoils (call : ReadBatchCall) (s : TransportConnectionState) : Prop :=
  call.locked ∧
    SpoilsFrom call.request.byteLimit call.request.frameLimit 0 (feed s call.waits)

section
variable {maxBytes room total : ℕ} {arr : Arrival} {arrived : List Arrival} {frame : Bytes}

theorem SpoilsFrom.lt (h : SpoilsFrom maxBytes room total arrived) :
    0 < room ∧ total < maxBytes := by
  obtain ⟨pkts, frames, last, rest, -, hroom, -, hbytes, -⟩ := h
  omega

theorem encodedTotal_cons {frames : List Bytes} :
    encodedTotal (frame :: frames) = encodedLen frame + encodedTotal frames := rfl

theorem spoilsFrom_cons : SpoilsFrom maxBytes (room + 1) total (arr :: arrived) ↔
    total < maxBytes ∧ (Breaks maxBytes total arr ∨ ∃ p frame, arr = .packet p ∧
      p.toBytes = .ok frame ∧ SpoilsFrom maxBytes room (total + encodedLen frame) arrived) := by
  constructor
  · intro h
    refine ⟨h.lt.2, ?_⟩
    obtain ⟨pkts, frames, last, rest, hfeed, hroom, hframes, hbytes, hbreaks⟩ := h
    cases hframes with
    | nil =>
      rw [map_nil, nil_append, cons.injEq] at hfeed
      rw [hfeed.1]
      exact .inl hbreaks
    | @cons p frame pkts frames hframe hframes =>
      rw [map_cons, cons_append, cons.injEq] at hfeed
      rw [encodedTotal_cons, ← Nat.add_assoc] at hbytes hbreaks
      refine .inr ⟨p, frame, hfeed.1, hframe, pkts, frames, last, rest, hfeed.2, ?_, hframes,
        hbytes, hbreaks⟩
      rw [length_cons] at hroom
      omega
  · intro h
    obtain ⟨hlt, hbreaks | ⟨p, frame, rfl, hframe, hrest⟩⟩ := h
    · exact ⟨[], [], arr, arrived, rfl, Nat.succ_pos room, .nil, hlt, hbreaks⟩
    · obtain ⟨pkts, frames, last, rest, rfl, hroom, hframes, hbytes, hbreaks⟩ := hrest
      refine ⟨p :: pkts, frame :: frames, last, rest, rfl, ?_, .cons hframe hframes, ?_⟩
      · rw [length_cons]
        omega
      · rw [encodedTotal_cons, ← Nat.add_assoc]
        exact ⟨hbytes, hbreaks⟩

variable {p : RuntimePacket}

theorem spoilsFrom_unwritable {error : Protocol.NnrpError} (h : p.toBytes = .error error) :
    SpoilsFrom maxBytes (room + 1) total (.packet p :: arrived) ↔ total < maxBytes := by
  rw [spoilsFrom_cons, Breaks, h]
  exact and_iff_left (.inl trivial)

theorem spoilsFrom_packet (h : p.toBytes = .ok frame) :
    SpoilsFrom maxBytes (room + 1) total (.packet p :: arrived) ↔
      total < maxBytes ∧ total + encodedLen frame ≤ maxBytes ∧ (2 ^ 32 ≤ frame.length ∨
          SpoilsFrom maxBytes room (total + encodedLen frame) arrived) := by
  rw [spoilsFrom_cons, Breaks, h]
  refine and_congr_right fun _ => ?_
  constructor
  · rintro (⟨hlong, hfits⟩ | ⟨p', frame', hsame, hframe, hspoils⟩)
    · exact ⟨hfits, .inl hlong⟩
    · cases hsame
      rw [h] at hframe
      cases hframe
      exact ⟨hspoils.lt.2.le, .inr hspoils⟩
  · rintro ⟨hfits, hlong | hspoils⟩
    · exact .inl ⟨hlong, hfits⟩
    · exact .inr ⟨p, frame, rfl, h, hspoils⟩

theorem spoilsFrom_last (h : ∀ p, arr ≠ .packet p) : SpoilsFrom maxBytes (room + 1) total [arr] ↔
      total < maxBytes ∧ Breaks maxBytes total arr := by
  rw [spoilsFrom_cons]
  refine and_congr_right fun _ => or_iff_left ?_
  intro hpkt
  obtain ⟨p, frame, hsame, -⟩ := hpkt
  exact h p hsame

end

def supply : List RuntimePacket := s.pending ++ packetsOf s.inbound

section
variable {s s' : TransportConnectionState} {waits waits' : List Wait} {arrival : Arrival}
  {maxBytes room total : ℕ} {bytes : List Bytes} {failure : ReadFailure}

theorem next_cases (h : s.next waits = (arrival, waits', s')) : s'.inbound <:+ s.inbound ∧
    ((∃ p, arrival = .packet p ∧ feed s waits = .packet p :: feed s' waits' ∧
        supply s = p :: supply s') ∨
      (∀ p, arrival ≠ .packet p) ∧ feed s waits = [arrival] ∧ supply s = supply s') := by
  obtain ⟨inbound, pending⟩ := s
  cases pending with
  | cons p pending =>
    cases h
    exact ⟨suffix_rfl, .inl ⟨p, rfl, rfl, rfl⟩⟩
  | nil =>
    cases waits with
    | nil =>
      cases h
      exact ⟨suffix_rfl, .inr ⟨fun _ => nofun, rfl, rfl⟩⟩
    | cons wait waits =>
      cases wait with
      | elapsed | deadline =>
        cases h
        exact ⟨suffix_rfl, .inr ⟨fun _ => nofun, rfl, rfl⟩⟩
      | ready =>
        match inbound with
        | [] =>
          cases h
          exact ⟨suffix_rfl, .inr ⟨fun _ => nofun, rfl, rfl⟩⟩
        | .ok p :: inbound =>
          cases h
          exact ⟨suffix_cons _ _, .inl ⟨p, rfl, rfl, rfl⟩⟩
        | .error error :: inbound =>
          cases h
          exact ⟨suffix_cons _ _, .inr ⟨fun _ => nofun, rfl, rfl⟩⟩

structure Collected (maxBytes room total : ℕ) (waits : List Wait) (bytes : List Bytes)
    (s s' : TransportConnectionState) (result : Except ReadFailure (List Bytes)) : Prop where
  rest : s'.inbound <:+ s.inbound
  taken : ∃ group, supply s = group ++ supply s' ∧
    ((∃ frames, result = .ok (bytes ++ frames) ∧ Serialized group frames ∧ group.length ≤ room ∧
        (SpoilsFrom maxBytes room total (feed s waits) ↔ ∃ frame ∈ frames, 2 ^ 32 ≤ frame.length)) ∨
      (∃ failure, result = .error failure) ∧ SpoilsFrom maxBytes room total (feed s waits))

theorem Collected.stop (hrest : s'.inbound <:+ s.inbound) (hsupply : supply s = supply s')
    (h : ¬SpoilsFrom maxBytes room total (feed s waits)) :
    Collected maxBytes room total waits bytes s s' (.ok bytes) := by
  refine ⟨hrest, [], hsupply, .inl ⟨[], ?_, .nil, Nat.zero_le room, ?_⟩⟩
  · rw [append_nil]
  · exact ⟨fun hspoils => absurd hspoils h, nofun⟩

theorem Collected.fail (hrest : s'.inbound <:+ s.inbound) (group : List RuntimePacket)
    (hsupply : supply s = group ++ supply s') (h : SpoilsFrom maxBytes room total (feed s waits)) :
    Collected maxBytes room total waits bytes s s' (.error failure) :=
  ⟨hrest, group, hsupply, .inr ⟨⟨failure, rfl⟩, h⟩⟩

variable {result : Except ReadFailure (List Bytes)} {t : TransportConnectionState}
  {pkt : RuntimePacket} {frame : Bytes}

theorem Collected.cons
    (h : Collected maxBytes room (total + encodedLen frame) waits' (bytes ++ [frame]) s' t result)
    (hrest : s'.inbound <:+ s.inbound) (hsupply : supply s = pkt :: supply s')
    (hframe : pkt.toBytes = .ok frame)
    (hspoils : SpoilsFrom maxBytes (room + 1) total (feed s waits) ↔ 2 ^ 32 ≤ frame.length ∨
      SpoilsFrom maxBytes room (total + encodedLen frame) (feed s' waits')) :
    Collected maxBytes (room + 1) total waits bytes s t result := by
  obtain ⟨hrest', group, hgroup, hcase⟩ := h
  refine ⟨hrest'.trans hrest, pkt :: group, ?_, ?_⟩
  · rw [hsupply, hgroup]
    rfl
  rcases hcase with ⟨frames, hres, hframes, hlen, hlong⟩ | ⟨hfailed, hlater⟩
  · refine .inl ⟨frame :: frames, ?_, .cons hframe hframes, Nat.succ_le_succ hlen, ?_⟩
    · rw [hres, append_assoc]
      rfl
    · rw [hspoils, hlong]
      simp
  · exact .inr ⟨hfailed, hspoils.mpr (.inr hlater)⟩

theorem collect_collected (maxBytes room total : ℕ) (waits : List Wait) (bytes : List Bytes)
    (s : TransportConnectionState) (htotal : total ≠ 0) :
    Collected maxBytes room total waits bytes s (collect maxBytes room waits total bytes s).1
      (collect maxBytes room waits total bytes s).2 := by
  induction room generalizing total waits bytes s with
  | zero => exact .stop suffix_rfl rfl fun hspoils => absurd hspoils.lt.1 (lt_irrefl 0)
  | succ room ih =>
    rw [collect]
    by_cases hfull : total < maxBytes
    swap
    · rw [if_neg hfull]
      exact .stop suffix_rfl rfl fun hspoils => hfull hspoils.lt.2
    rw [if_pos hfull]
    obtain ⟨arrival, waits', s', hnext⟩ :
      ∃ arrival waits' s', s.next waits = (arrival, waits', s') :=
      ⟨_, _, _, rfl⟩
    rw [hnext]
    obtain ⟨hrest, ⟨pkt, rfl, hfeed, hsupply⟩ | ⟨hnone, hfeed, hsupply⟩⟩ := next_cases hnext
    · dsimp only
      cases hframe : pkt.toBytes with
      | error error =>
        refine .fail hrest [pkt] hsupply ?_
        rw [hfeed, spoilsFrom_unwritable hframe]
        exact hfull
      | ok frame =>
        dsimp only
        by_cases hfits : maxBytes < total + encodedLen frame
        · rw [if_pos hfits]
          refine .stop hrest hsupply ?_
          rw [hfeed, spoilsFrom_packet hframe]
          omega
        · rw [if_neg hfits]
          have hloop := ih (total + encodedLen frame) waits' (bytes ++ [frame]) s' (by omega)
          have hspoils : SpoilsFrom maxBytes (room + 1) total (feed s waits) ↔
              2 ^ 32 ≤ frame.length ∨
                SpoilsFrom maxBytes room (total + encodedLen frame) (feed s' waits') := by
            rw [hfeed, spoilsFrom_packet hframe, and_iff_right hfull,
              and_iff_right (not_lt.mp hfits)]
          exact hloop.cons hrest hsupply hframe hspoils
    · cases arrival with
      | packet pkt => exact absurd rfl (hnone pkt)
      | error error | deadline =>
        refine .fail hrest [] hsupply ?_
        rw [hfeed, spoilsFrom_last hnone]
        exact ⟨hfull, htotal⟩
      | elapsed =>
        refine .stop hrest hsupply ?_
        rw [hfeed, spoilsFrom_last hnone]
        exact And.right

variable {frames : List Bytes}

theorem encodeBatch_ok_iff : (∃ payload, encodeBatch frames = .ok payload) ↔
    ¬∃ frame ∈ frames, 2 ^ 32 ≤ frame.length := by
  induction frames with
  | nil => simp [encodeBatch]
  | cons frame frames ih =>
    rw [encodeBatch, exists_mem_cons_iff, not_or, not_le, ← ih]
    by_cases hshort : frame.length < 2 ^ 32
    · rw [if_pos hshort, and_iff_right hshort]
      cases encodeBatch frames <;> simp [Except.map]
    · rw [if_neg hshort]
      exact iff_of_false (by simp) fun h => hshort h.1

structure Reads (call : ReadBatchCall) (s s' : TransportConnectionState)
    (result : Except ReadFailure NnrpTransportFrameBatch) : Prop where
  rest : s'.inbound <:+ s.inbound
  taken : ∃ group, supply s = group ++ supply s' ∧
    ((∃ batch, result = .ok batch ∧ batch.Holds group ∧ ¬call.Spoils s) ∨
      (∃ failure, result = .error failure) ∧ (call.Spoils s ↔ group ≠ []))

variable (req : NnrpTransportReadBatchRequest)

theorem frameLimit_pos : 0 < req.frameLimit := by
  rw [NnrpTransportReadBatchRequest.frameLimit]
  split_ifs with hzero
  · decide
  · exact UInt32.pos_iff_ne_zero.mpr hzero

theorem byteLimit_pos : 0 < req.byteLimit := by
  rw [NnrpTransportReadBatchRequest.byteLimit]
  split_ifs with hzero
  · decide
  · exact UInt64.pos_iff_ne_zero.mpr hzero

variable {call : ReadBatchCall}

theorem Reads.refused (hrest : s'.inbound <:+ s.inbound) (hsupply : supply s = supply s')
    (h : ¬call.Spoils s) : Reads call s s' (.error failure) :=
  ⟨hrest, [], hsupply, .inr ⟨⟨failure, rfl⟩, fun hspoils => absurd hspoils h,
    fun hne => absurd rfl hne⟩⟩

theorem Reads.lost (pkt : RuntimePacket) (group : List RuntimePacket)
    (hrest : s'.inbound <:+ s.inbound) (hsupply : supply s = pkt :: group ++ supply s')
    (h : call.Spoils s) : Reads call s s' (.error failure) :=
  ⟨hrest, pkt :: group, hsupply, .inr ⟨⟨failure, rfl⟩, fun _ => cons_ne_nil _ _, fun _ => h⟩⟩

theorem Collected.reads
    (h : Collected call.request.byteLimit room (encodedLen frame) waits [frame] s' t result)
    (hroom : call.request.frameLimit = room + 1) (hrest : s'.inbound <:+ s.inbound)
    (hsupply : supply s = pkt :: supply s') (hframe : pkt.toBytes = .ok frame)
    (hspoils : call.Spoils s ↔ 2 ^ 32 ≤ frame.length ∨
      SpoilsFrom call.request.byteLimit room (encodedLen frame) (feed s' waits)) :
    Reads call s t (result >>= storeBatch) := by
  obtain ⟨hrest', group, hgroup, hcase⟩ := h
  have htaken : supply s = pkt :: group ++ supply t := hsupply.trans (congrArg (pkt :: ·) hgroup)
  rcases hcase with ⟨frames, rfl, hframes, hlen, hlong⟩ | ⟨⟨failure, rfl⟩, hlater⟩
  swap
  · exact .lost pkt group (hrest'.trans hrest) htaken (hspoils.mpr (.inr hlater))
  have hspoils : call.Spoils s ↔ ∃ long ∈ frame :: frames, 2 ^ 32 ≤ long.length := by
    rw [hspoils, hlong, exists_mem_cons_iff]
  have hserialized : Serialized (pkt :: group) (frame :: frames) := .cons hframe hframes
  rw [Fallible.ok_bind, singleton_append, storeBatch]
  cases henc : encodeBatch (frame :: frames) with
  | error status =>
    refine .lost pkt group (hrest'.trans hrest) htaken (hspoils.mpr ?_)
    by_contra hshort
    obtain ⟨payload, hpay⟩ := encodeBatch_ok_iff.mpr hshort
    rw [henc] at hpay
    cases hpay
  | ok payload =>
    refine ⟨hrest'.trans hrest, pkt :: group, htaken, .inl ⟨_, rfl, ⟨?_, ?_⟩, ?_⟩⟩
    · have hlt : call.request.frameLimit < 2 ^ 32 := UInt32.toNat_lt _
      have hcount := List.Forall₂.length_eq hserialized
      rw [length_cons] at hcount
      have hsmall : (frame :: frames).length < 2 ^ 32 := by omega
      dsimp only
      rw [UInt32.toNat_ofNat_of_lt' hsmall, ← hcount, length_cons]
    · exact ⟨frame :: frames, hserialized, henc⟩
    · rw [hspoils]
      exact encodeBatch_ok_iff.mp ⟨payload, henc⟩

theorem transportReadBatch_reads (call : ReadBatchCall) (s : TransportConnectionState) :
    Reads call s (transportReadBatch call s).1 (transportReadBatch call s).2 := by
  rw [transportReadBatch, readPackets]
  by_cases hlocked : call.locked = true
  swap
  · rw [if_neg hlocked]
    exact .refused suffix_rfl rfl fun hspoils => hlocked hspoils.1
  rw [if_pos hlocked]
  have hbytes := byteLimit_pos call.request
  obtain ⟨room, hroom⟩ : ∃ room, call.request.frameLimit = room + 1 :=
    ⟨call.request.frameLimit - 1, by have hpos := frameLimit_pos call.request; omega⟩
  have hspoils : call.Spoils s ↔
      SpoilsFrom call.request.byteLimit (room + 1) 0 (feed s call.waits) := by
    rw [ReadBatchCall.Spoils, and_iff_right hlocked, hroom]
  obtain ⟨arrival, waits, s', hnext⟩ :
    ∃ arrival waits s', s.next call.waits = (arrival, waits, s') := ⟨_, _, _, rfl⟩
  rw [hnext]
  obtain ⟨hrest, ⟨pkt, rfl, hfeed, hsupply⟩ | ⟨hnone, hfeed, hsupply⟩⟩ := next_cases hnext
  · dsimp only
    cases hframe : pkt.toBytes with
    | error error =>
      refine .lost pkt [] hrest hsupply ?_
      rw [hspoils, hfeed, spoilsFrom_unwritable hframe]
      exact hbytes
    | ok frame =>
      dsimp only
      by_cases hfits : call.request.byteLimit < encodedLen frame
      · rw [if_pos hfits]
        refine .refused hrest hsupply ?_
        rw [hspoils, hfeed, spoilsFrom_packet hframe]
        omega
      · rw [if_neg hfits, hroom, Nat.add_sub_cancel]
        have hpositive : encodedLen frame ≠ 0 := Nat.succ_ne_zero _
        rw [hfeed, spoilsFrom_packet hframe, Nat.zero_add, and_iff_right hbytes,
          and_iff_right (not_lt.mp hfits)] at hspoils
        have hloop := collect_collected call.request.byteLimit room (encodedLen frame) waits
          [frame] s' hpositive
        exact hloop.reads hroom hrest hsupply hframe hspoils
  · have hquiet : ¬call.Spoils s := by
      rw [hspoils, hfeed, spoilsFrom_last hnone]
      cases arrival with
      | packet pkt => exact absurd rfl (hnone pkt)
      | error error | deadline => exact fun h => h.2 rfl
      | elapsed => exact And.right
    cases arrival with
    | packet pkt => exact absurd rfl (hnone pkt)
    | error error | deadline | elapsed => exact .refused hrest hsupply hquiet

end

theorem readStep_eq (reader : BatchReader) (call : ReadBatchCall) : readStep reader call =
    some ⟨(transportReadBatch call reader.connection).1,
      reader.batches ++ (transportReadBatch call reader.connection).2.toOption.toList⟩ := by
  rw [readStep]
  obtain ⟨conn, result⟩ := transportReadBatch call reader.connection
  cases result with
  | ok batch => rfl
  | error failure => simp [Except.toOption]

theorem length_flatten_of_holds {batches : List NnrpTransportFrameBatch}
    {groups : List (List RuntimePacket)}
    (h : List.Forall₂ NnrpTransportFrameBatch.Holds batches groups) :
    groups.flatten.length = (batches.map fun batch => batch.frameCount.toNat).sum := by
  induction h with
  | nil => rfl
  | cons hholds _ ih =>
    rw [flatten_cons, length_append, ih, map_cons, sum_cons, hholds.1]

theorem Lossless.count {inbound : List (Except RuntimeError RuntimePacket)} {reader : BatchReader}
    (h : Lossless inbound reader) : (packetsOf inbound).length =
      (reader.batches.map fun batch => batch.frameCount.toNat).sum +
        (supply reader.connection).length := by
  obtain ⟨groups, hgroups, hkept⟩ := h.kept
  rw [hkept, length_append, length_flatten_of_holds hgroups]
  rfl

section
variable {inbound : List (Except RuntimeError RuntimePacket)} {reader reader' : BatchReader}
  {call : ReadBatchCall}

theorem Lossless.step (h : Lossless inbound reader) (hspoils : ¬call.Spoils reader.connection) :
    ∃ reader', readStep reader call = some reader' ∧ Lossless inbound reader' := by
  refine ⟨_, readStep_eq reader call, ?_⟩
  obtain ⟨hrest, group, hsupply, hcase⟩ := transportReadBatch_reads call reader.connection
  obtain ⟨groups, hgroups, hkept⟩ := h.kept
  refine ⟨hrest.trans h.rest, ?_⟩
  change packetsOf inbound = groups.flatten ++ supply reader.connection at hkept
  rcases hcase with ⟨batch, hres, hholds, -⟩ | ⟨⟨failure, hres⟩, hlost⟩
  · refine ⟨groups ++ [group], ?_, ?_⟩
    · dsimp only
      rw [hres]
      exact rel_append hgroups (.cons hholds .nil)
    · rw [hkept, hsupply, flatten_append, flatten_singleton, append_assoc]
      rfl
  · have hnone : group = [] := by
      by_contra hne
      exact hspoils (hlost.mpr hne)
    rw [hnone] at hsupply
    refine ⟨groups, ?_, hkept.trans (congrArg (groups.flatten ++ ·) hsupply)⟩
    dsimp only
    rw [hres]
    simpa [Except.toOption] using hgroups

theorem Lossless.leave (h : Lossless inbound reader) (hspoils : call.Spoils reader.connection)
    (hstep : readStep reader call = some reader') : ¬Lossless inbound reader' := by
  intro hafter
  rw [readStep_eq, Option.some.injEq] at hstep
  obtain ⟨-, group, hsupply, hcase⟩ := transportReadBatch_reads call reader.connection
  rcases hcase with ⟨batch, -, -, hsafe⟩ | ⟨⟨failure, hres⟩, hlost⟩
  · exact hsafe hspoils
  · have hbefore := h.count
    have hcount := hafter.count
    rw [← hstep, hres] at hcount
    have hlen := congrArg length hsupply
    have hpos := length_pos_of_ne_nil (hlost.mp hspoils)
    rw [length_append] at hlen
    simp only [Except.toOption, Option.toList_none, append_nil] at hcount
    omega

theorem Lossless.new (inbound : List (Except RuntimeError RuntimePacket)) :
    Lossless inbound (.new inbound) := ⟨suffix_rfl, [], .nil, rfl⟩

end

theorem batch_reads_lossless_iff (inbound : List (Except RuntimeError RuntimePacket))
    (calls : List ReadBatchCall) :
    Along readStep (fun reader call => ¬call.Spoils reader.connection) (.new inbound) calls ↔
      ∀ before after, calls = before ++ after →
        ∃ reader, run readStep (.new inbound) before = some reader ∧ Lossless inbound reader := by
  apply along_iff_prefixes (Lossless inbound)
  · exact fun _ h => h
  · exact fun _ _ h hspoils => h.step hspoils
  · exact fun _ _ _ h hspoils hstep => h.leave (not_not.mp hspoils) hstep
  · exact .new inbound

/-- The second read of the call fails: the first packet is gone. -/
theorem failed_read_drops_packet : ∃ inbound call reader,
    run readStep (.new inbound) [call] = some reader ∧ ¬Lossless inbound reader := by
  refine ⟨[.ok (.bare .ping 0 0), .error (.transportClosed .tcp "closed")],
    ⟨⟨2, 0⟩, true, [.ready, .ready]⟩, _, rfl, fun h => ?_⟩
  have hcount := h.count
  revert hcount
  decide +kernel

end Nnrp.Ffi
