import Nnrp.Framing
import Nnrp.LabelledRun

/-!
# The buffered stream reader

`StreamPacketReader` keeps what it read and an offset to the first byte that was not consumed.
`poll` is what a `read_packet` call does before it has to wait for the transport. A call that is
dropped while it waits leaves the reader as it is.

The consumed offset stays within the buffer, and the reader takes off the unconsumed bytes exactly
what `next` takes off them.
-/

namespace Nnrp.StreamReader
open ByteOrder Fallible Packet Framing List

def streamReadChunkBytes : ℕ := 64 * 1024

structure StreamPacketReader where
  buffered : Bytes := []
  consumed : ℕ := 0
  packetLen : Option ℕ := none
  deriving DecidableEq

inductive Poll
  | pending
  | ready (packet : RuntimePacket)
  | failed (error : RuntimeError)
  deriving DecidableEq

namespace StreamPacketReader

variable (r : StreamPacketReader)

def available : ℕ := r.buffered.length - r.consumed

def readHeader (max : ℕ) (r : StreamPacketReader) : Except RuntimeError StreamPacketReader :=
  if r.packetLen = none ∧ commonHeaderLen ≤ r.available then do
    let header ← liftNnrp (CommonHeader.parse (slice r.buffered r.consumed commonHeaderLen))
    let packetLen ← liftNnrp header.packetLen
    validatePacketLen max packetLen
    pure { r with packetLen := some packetLen }
  else pure r

/-- Consumed bytes are dropped when nothing else is buffered or when they fill a chunk. -/
def compact : StreamPacketReader :=
  if r.consumed = r.buffered.length then { r with buffered := [], consumed := 0 }
  else if streamReadChunkBytes ≤ r.consumed then
    { r with buffered := r.buffered.drop r.consumed, consumed := 0 }
  else r

def takePacket (packetLen : ℕ) :
    Except RuntimeError (RuntimePacket × StreamPacketReader) := do
  let (header, metadata, body) ←
    liftNnrp (CommonHeader.parsePacket (slice r.buffered r.consumed packetLen))
  let packet ← liftNnrp (RuntimePacket.fromParts header metadata body)
  pure (packet, compact { r with consumed := r.consumed + packetLen, packetLen := none })

def poll (max : ℕ) (r : StreamPacketReader) : StreamPacketReader × Poll :=
  match r.readHeader max with
  | .error e => (r, .failed e)
  | .ok r =>
    match r.packetLen with
    | none => (r, .pending)
    | some packetLen =>
      if packetLen ≤ r.available then
        match r.takePacket packetLen with
        | .ok (packet, r) => (r, .ready packet)
        | .error e => (r, .failed e)
      else (r, .pending)

def extend (chunk : Bytes) : StreamPacketReader :=
  { r with buffered := r.buffered ++ chunk }

def unconsumed : Bytes := r.buffered.drop r.consumed

structure Valid (max : ℕ) (r : StreamPacketReader) : Prop where
  consumed : r.consumed ≤ r.buffered.length
  packetLen : ∀ n, r.packetLen = some n →
    40 ≤ r.available ∧ ∃ header, headerOf max r.unconsumed = .ok (header, n)

variable {max n : ℕ} {r r' : StreamPacketReader} {chunk : Bytes} {e : RuntimeError}

theorem unconsumed_length (r : StreamPacketReader) : r.unconsumed.length = r.available :=
  length_drop

theorem compact_unconsumed (r : StreamPacketReader) : r.compact.unconsumed = r.unconsumed := by
  rw [compact]
  split_ifs with hall hchunk
  · rw [unconsumed, unconsumed, hall, drop_length, drop_nil]
  · rfl
  · rfl

theorem compact_consumed (h : r.consumed ≤ r.buffered.length) :
    r.compact.consumed ≤ r.compact.buffered.length := by
  rw [compact]
  split_ifs
  · exact le_rfl
  · exact Nat.zero_le _
  · exact h

theorem compact_packetLen (r : StreamPacketReader) : r.compact.packetLen = r.packetLen := by
  rw [compact]
  split_ifs <;> rfl

theorem Valid.extend (h : Valid max r) (chunk : Bytes) : Valid max (r.extend chunk) := by
  have huncons : (r.extend chunk).unconsumed = r.unconsumed ++ chunk :=
    drop_append_of_le_length h.consumed
  refine ⟨?_, ?_⟩
  · have hlen : (r.extend chunk).buffered.length = r.buffered.length + chunk.length :=
      length_append
    have hcons := h.consumed
    rw [hlen]
    exact Nat.le_add_right_of_le hcons
  · intro n hn
    obtain ⟨hhdr, header, hfound⟩ := h.packetLen n hn
    rw [← unconsumed_length] at hhdr
    refine ⟨?_, header, ?_⟩
    · rw [← unconsumed_length, huncons, length_append]
      omega
    · rw [huncons, headerOf_append hhdr, hfound]

theorem readHeader_spec (h : Valid max r) :
    (r.available < 40 ∧ r.readHeader max = .ok r ∧ r.packetLen = none) ∨
    (40 ≤ r.available ∧ ∃ e, headerOf max r.unconsumed = .error e ∧ r.readHeader max = .error e) ∨
    (40 ≤ r.available ∧ ∃ header n, headerOf max r.unconsumed = .ok (header, n) ∧
      r.readHeader max = .ok { r with packetLen := some n }) := by
  by_cases havail : 40 ≤ r.available
  · right
    cases hlen : r.packetLen with
    | none =>
      have hread : r.readHeader max = (headerOf max r.unconsumed >>= fun found =>
          pure { r with packetLen := some found.2 }) := by
        rw [readHeader, if_pos ⟨hlen, havail⟩, headerOf]
        simp only [bind_assoc, pure_bind]
        rfl
      rw [hread]
      cases headerOf max r.unconsumed with
      | error e => exact .inl ⟨havail, e, rfl, rfl⟩
      | ok found => exact .inr ⟨havail, found.1, found.2, rfl, rfl⟩
    | some n =>
      obtain ⟨-, header, hhdr⟩ := h.packetLen n hlen
      refine .inr ⟨havail, header, n, hhdr, ?_⟩
      rw [readHeader, if_neg (by simp [hlen]), ← hlen]
      rfl
  · have hnone : r.packetLen = none := by
      cases hlen : r.packetLen with
      | none => rfl
      | some n => exact absurd (h.packetLen n hlen).1 havail
    refine .inl ⟨not_le.mp havail, ?_, hnone⟩
    rw [readHeader, if_neg fun hcond => havail hcond.2]
    rfl

theorem takePacket_eq {header : CommonHeader} (hhdr : headerOf max r.unconsumed = .ok (header, n))
    (hn : n ≤ r.available) : r.takePacket n = .ok (packetAt header r.unconsumed,
      compact { r with consumed := r.consumed + n, packetLen := none }) := by
  have hslice : slice r.buffered r.consumed n = r.unconsumed.take n := rfl
  obtain ⟨hparse, hpkt, -⟩ := headerOf_eq_ok.mp hhdr
  have htotal := packetLen_of_headerOf hhdr
  have hlen : (r.unconsumed.take n).length = n := by
    rw [length_take, unconsumed_length]
    omega
  have hforty : (r.unconsumed.take n).take 40 = r.unconsumed.take 40 := by
    rw [take_take]
    congr 1
    omega
  have hsplit := parsePacket_eq (hforty.symm ▸ hparse) hpkt hlen
  have hparts := fromParts_packetAt hpkt hlen
  have htake := packetAt_take htotal (hn.trans_eq (unconsumed_length r).symm)
  rw [htake] at hsplit hparts
  simp only [takePacket, hslice, hsplit, hparts, liftNnrp, ok_bind]
  rfl

theorem poll_incomplete (h : Valid max r) (hnext : next max r.unconsumed = .incomplete) :
    ∃ r', poll max r = (r', .pending) ∧ Valid max r' ∧ r'.unconsumed = r.unconsumed := by
  rw [next_eq_incomplete, unconsumed_length] at hnext
  rcases readHeader_spec h with ⟨hshort, hread, hnone⟩ | ⟨hlong, e, hhdr, hread⟩ |
    ⟨hlong, header, n, hhdr, hread⟩
  · refine ⟨r, ?_, h, rfl⟩
    simp only [poll, hread, hnone]
  · rw [hhdr] at hnext
    rcases hnext with hshort | ⟨_, _, hfound, -⟩
    · omega
    · cases hfound
  · have hmissing : r.available < n := by
      rcases hnext with hshort | ⟨_, _, hfound, hlen⟩
      · omega
      · rw [hhdr] at hfound
        cases hfound
        exact hlen
    refine ⟨{ r with packetLen := some n }, ?_, ⟨h.consumed, ?_⟩, rfl⟩
    · have hwait : ¬n ≤ available { r with packetLen := some n } := not_le.mpr hmissing
      simp only [poll, hread, hwait, if_false]
    · intro m hm
      cases hm
      exact ⟨hlong, header, hhdr⟩

theorem poll_failed (h : Valid max r) (hnext : next max r.unconsumed = .failed e) :
    poll max r = (r, .failed e) := by
  rw [next_eq_failed, unconsumed_length] at hnext
  rcases readHeader_spec h with ⟨hshort, hread, hnone⟩ | ⟨hlong, e', hhdr, hread⟩ |
    ⟨hlong, header, n, hhdr, hread⟩
  · omega
  · rw [hhdr] at hnext
    cases hnext.2
    simp only [poll, hread]
  · rw [hhdr] at hnext
    cases hnext.2

theorem poll_packet (h : Valid max r) {p : RuntimePacket} {rest : Bytes}
    (hnext : next max r.unconsumed = .packet p rest) :
    ∃ r', poll max r = (r', .ready p) ∧ Valid max r' ∧ r'.unconsumed = rest := by
  obtain ⟨hlong, header, n, hhdr, hn, rfl, rfl⟩ := next_eq_packet.mp hnext
  rw [unconsumed_length] at hlong hn
  rcases readHeader_spec h with ⟨hshort, hread, hnone⟩ | ⟨-, e', hfound, hread⟩ |
    ⟨-, header', n', hfound, hread⟩
  · omega
  · rw [hhdr] at hfound
    cases hfound
  · rw [hhdr] at hfound
    cases hfound
    have hready : n ≤ available { r with packetLen := some n } := hn
    have htaken := takePacket_eq (r := { r with packetLen := some n }) hhdr hn
    have hcons : r.consumed + n ≤ r.buffered.length := by
      have hwithin := h.consumed
      rw [available] at hn
      omega
    refine ⟨compact { r with consumed := r.consumed + n, packetLen := none }, ?_, ⟨?_, ?_⟩, ?_⟩
    · simp only [poll, hread, hready, if_true, htaken]
      rfl
    · exact compact_consumed hcons
    · intro m hm
      rw [compact_packetLen] at hm
      cases hm
    · rw [compact_unconsumed, unconsumed, unconsumed, drop_drop]

end StreamPacketReader

end Nnrp.StreamReader
