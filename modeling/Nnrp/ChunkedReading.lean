import Nnrp.StreamReader

/-!
# Reading a stream in chunks

A stream arrives in chunks of any size, and `read_packet` calls may be abandoned while they wait
for one. The completed calls return the packets of the stream in order, whatever the chunks and
the abandoned calls are.
-/

namespace Nnrp.StreamReader
open LabelledRun Protocol ByteOrder Packet Framing List RuntimePacket CommonHeader

structure State where
  unread : Bytes
  reader : StreamPacketReader := {}
  waiting : Bool := false
  returned : List RuntimePacket := []
  failures : List RuntimeError := []
  deriving DecidableEq

def State.start (stream : Bytes) : State where
  unread := stream

def State.poll (max : ℕ) (s : State) : State :=
  match s.reader.poll max with
  | (reader, .pending) => { s with reader, waiting := true }
  | (reader, .ready packet) =>
    { s with reader, waiting := false, returned := s.returned ++ [packet] }
  | (reader, .failed e) => { s with reader, waiting := false, failures := s.failures ++ [e] }

def streamClosed : RuntimeError := .io "stream closed before a complete NNRP packet"

/-- A call starts, a waiting call gets the next `n` bytes or sees the end of the stream, or a
waiting call is dropped. -/
inductive Event
  | call
  | read (n : ℕ)
  | eof
  | abandon

def step (max : ℕ) (s : State) : Event → Option State
  | .call => if s.waiting then none else some (s.poll max)
  | .read n =>
    if s.waiting ∧ 0 < n ∧ n ≤ s.unread.length then
      some (State.poll max
        { s with reader := s.reader.extend (s.unread.take n), unread := s.unread.drop n })
    else none
  | .eof =>
    if s.waiting ∧ s.unread = [] then
      some { s with waiting := false, failures := s.failures ++ [streamClosed] }
    else none
  | .abandon => if s.waiting then some { s with waiting := false } else none

def State.remaining (s : State) : Bytes := s.reader.unconsumed ++ s.unread

structure State.Valid (max : ℕ) (s : State) : Prop where
  reader : s.reader.Valid max
  waiting : s.waiting = true → next max s.reader.unconsumed = .incomplete

inductive Transition (max : ℕ) (s s' : State) : Prop
  | kept (hbytes : s'.remaining = s.remaining) (hreturned : s'.returned = s.returned)
      (hfailures : s'.failures = s.failures)
  | returned (p : RuntimePacket) (hnext : next max s.remaining = .packet p s'.remaining)
      (hreturned : s'.returned = s.returned ++ [p]) (hfailures : s'.failures = s.failures)
  | failed (e : RuntimeError) (hnext : next max s.remaining = .failed e)
      (hbytes : s'.remaining = s.remaining) (hreturned : s'.returned = s.returned)
      (hfailures : s'.failures = s.failures ++ [e])
  | ended (hnext : next max s.remaining = .incomplete) (hbytes : s'.remaining = s.remaining)
      (hreturned : s'.returned = s.returned)
      (hfailures : s'.failures = s.failures ++ [streamClosed])

variable {max : ℕ} {s s' : State} {ev : Event} {es : List Event} {stream : Bytes}

theorem State.poll_transition (h : s.reader.Valid max) :
    (s.poll max).Valid max ∧ Transition max s (s.poll max) := by
  cases hnext : next max s.reader.unconsumed with
  | incomplete =>
    obtain ⟨r, hpoll, hvalid, huncons⟩ := StreamPacketReader.poll_incomplete h hnext
    simp only [poll, hpoll]
    refine ⟨⟨hvalid, fun _ => huncons ▸ hnext⟩, .kept ?_ rfl rfl⟩
    rw [remaining, remaining, huncons]
  | failed e =>
    have hpoll := StreamPacketReader.poll_failed h hnext
    simp only [poll, hpoll]
    exact ⟨⟨h, nofun⟩, .failed e (next_append_failed hnext _) rfl rfl rfl⟩
  | packet p rest =>
    obtain ⟨r, hpoll, hvalid, huncons⟩ := StreamPacketReader.poll_packet h hnext
    simp only [poll, hpoll]
    refine ⟨⟨hvalid, nofun⟩, .returned p ?_ rfl rfl⟩
    rw [remaining, remaining, huncons]
    exact next_append_packet hnext _

theorem remaining_extend (h : s.reader.Valid max) (n : ℕ) : State.remaining { s with
      reader := s.reader.extend (s.unread.take n), unread := s.unread.drop n } = s.remaining := by
  have huncons : (s.reader.extend (s.unread.take n)).unconsumed =
      s.reader.unconsumed ++ s.unread.take n := drop_append_of_le_length h.consumed
  simp only [State.remaining, huncons, append_assoc, take_append_drop]

theorem step_transition (h : s.Valid max) (hs : step max s ev = some s') :
    s'.Valid max ∧ Transition max s s' := by
  cases ev with
  | call =>
    simp only [step] at hs
    split_ifs at hs
    cases hs
    exact State.poll_transition h.reader
  | read n =>
    simp only [step] at hs
    split_ifs at hs
    cases hs
    obtain ⟨hvalid, ht⟩ := State.poll_transition
      (s := { s with reader := s.reader.extend (s.unread.take n), unread := s.unread.drop n })
      (h.reader.extend _)
    refine ⟨hvalid, ?_⟩
    have hbytes := remaining_extend h.reader n
    cases ht with
    | kept h₁ h₂ h₃ => exact .kept (h₁.trans hbytes) h₂ h₃
    | returned p h₁ h₂ h₃ => exact .returned p (hbytes ▸ h₁) h₂ h₃
    | failed e h₁ h₂ h₃ h₄ => exact .failed e (hbytes ▸ h₁) (h₂.trans hbytes) h₃ h₄
    | ended h₁ h₂ h₃ h₄ => exact .ended (hbytes ▸ h₁) (h₂.trans hbytes) h₃ h₄
  | eof =>
    simp only [step] at hs
    split_ifs at hs with heof
    cases hs
    refine ⟨⟨h.reader, nofun⟩, .ended ?_ rfl rfl rfl⟩
    rw [State.remaining, heof.2, append_nil]
    exact h.waiting heof.1
  | abandon =>
    simp only [step] at hs
    split_ifs at hs
    cases hs
    exact ⟨⟨h.reader, nofun⟩, .kept rfl rfl rfl⟩

theorem start_valid (stream : Bytes) : (State.start stream).Valid max :=
  ⟨⟨le_rfl, nofun⟩, nofun⟩

structure Partway (packets : List RuntimePacket) (s : State) : Prop where
  split : ∃ rest, packets = s.returned ++ rest ∧
    s.remaining = rest.flatMap serialized
  failures : ∀ e ∈ s.failures, e = streamClosed ∧ s.returned = packets

theorem next_of_packets {rest : List RuntimePacket} (hp : ∀ p ∈ rest, Framed max p) :
    (rest = [] ∧ next max (rest.flatMap serialized) = .incomplete) ∨
    ∃ p later, rest = p :: later ∧ next max (rest.flatMap serialized) =
      .packet p (later.flatMap serialized) := by
  cases rest with
  | nil => exact .inl ⟨rfl, rfl⟩
  | cons p later =>
    refine .inr ⟨p, later, rfl, ?_⟩
    rw [flatMap_cons]
    exact (hp p mem_cons_self).next_serialized _

variable {packets : List RuntimePacket}

theorem Transition.partway (hp : ∀ p ∈ packets, Framed max p)
    (ht : Transition max s s') (h : Partway packets s) : Partway packets s' := by
  obtain ⟨⟨rest, hpkts, hbytes⟩, hfails⟩ := h
  have hrest : ∀ p ∈ rest, Framed max p := fun p hmem =>
    hp p (hpkts ▸ mem_append_right _ hmem)
  have hnext := next_of_packets hrest
  rw [← hbytes] at hnext
  cases ht with
  | kept h₁ h₂ h₃ =>
    refine ⟨⟨rest, h₂ ▸ hpkts, h₁.trans hbytes⟩, ?_⟩
    rw [h₂, h₃]
    exact hfails
  | returned p h₁ h₂ h₃ =>
    rcases hnext with ⟨-, hnext⟩ | ⟨q, later, hrest, hnext⟩
    · rw [h₁] at hnext
      cases hnext
    · rw [h₁, Next.packet.injEq] at hnext
      obtain ⟨rfl, hlater⟩ := hnext
      have hsplit : packets = s'.returned ++ later := by
        rw [h₂, append_assoc, hpkts, hrest, singleton_append]
      refine ⟨⟨later, hsplit, hlater⟩, ?_⟩
      intro e he
      rw [h₃] at he
      -- a failure leaves nothing to return
      have hall := (hfails e he).2
      rw [hall, hrest] at hpkts
      exact absurd (self_eq_append_right.mp hpkts) (cons_ne_nil _ _)
  | failed e h₁ h₂ h₃ h₄ =>
    rcases hnext with ⟨-, hnext⟩ | ⟨q, later, hrest, hnext⟩
    all_goals
      rw [h₁] at hnext
      cases hnext
  | ended h₁ h₂ h₃ h₄ =>
    rcases hnext with ⟨hrest, -⟩ | ⟨q, later, hrest, hnext⟩
    · have hall : s.returned = packets := by
        rw [hpkts, hrest, append_nil]
      refine ⟨⟨rest, h₃ ▸ hpkts, h₂.trans hbytes⟩, ?_⟩
      intro e he
      rw [h₄, mem_append, mem_singleton] at he
      rw [h₃]
      rcases he with he | he
      · exact hfails e he
      · exact ⟨he, hall⟩
    · rw [h₁] at hnext
      cases hnext

/-- In every run over the bytes of packets, the completed calls have returned the first of the
packets, the bytes that are left serialise the others, and a call that waits although the stream
has no more bytes means that all were returned. -/
theorem framing_inverts_concatenation (hp : ∀ p ∈ packets, Framed max p)
    (hr : run (step max) (.start (packets.flatMap serialized)) es = some s) :
    s.reader.consumed ≤ s.reader.buffered.length ∧ ∃ rest, packets = s.returned ++ rest ∧
      s.reader.unconsumed ++ s.unread = rest.flatMap serialized ∧
      (s.waiting = true → s.unread = [] → rest = []) ∧
      ∀ e ∈ s.failures, e = streamClosed ∧ rest = [] := by
  have hboth : s.Valid max ∧ Partway packets s := by
    refine run_induction (fun s => s.Valid max ∧ Partway packets s) ?_ ?_ hr
    · intro s ev s' h hs
      obtain ⟨hvalid, ht⟩ := step_transition h.1 hs
      exact ⟨hvalid, ht.partway hp h.2⟩
    · exact ⟨start_valid _, ⟨packets, rfl, rfl⟩, nofun⟩
  obtain ⟨hvalid, ⟨rest, hpkts, hbytes⟩, hfails⟩ := hboth
  refine ⟨hvalid.reader.consumed, rest, hpkts, hbytes, ?_, ?_⟩
  · intro hwaiting hunread
    have hrest : ∀ p ∈ rest, Framed max p := fun p hmem =>
      hp p (hpkts ▸ mem_append_right _ hmem)
    have hincomplete := hvalid.waiting hwaiting
    rw [State.remaining, hunread, append_nil] at hbytes
    rcases next_of_packets hrest with ⟨hnil, -⟩ | ⟨q, later, -, hnext⟩
    · exact hnil
    · rw [← hbytes, hincomplete] at hnext
      cases hnext
  · intro e he
    obtain ⟨hclosed, hall⟩ := hfails e he
    rw [hall] at hpkts
    exact ⟨hclosed, self_eq_append_right.mp hpkts⟩

def chunkedRun : List Event :=
  [.call, .read 30, .abandon, .call, .read 25, .call, .abandon, .call, .read 27, .call, .eof]

def samplePackets : List RuntimePacket :=
  [⟨new .ping 1 0, [7], []⟩, ⟨new .pong 0 1, [], [9]⟩]

theorem framed_new (ty : MessageType) {metaLen bodyLen : UInt32} {m body : Bytes}
    (hmeta : m.length = metaLen.toNat) (hbody : body.length = bodyLen.toNat)
    (hserializes : ∃ bytes, toBytes ⟨new ty metaLen bodyLen, m, body⟩ =
        .ok bytes ∧ bytes.length ≤ max) : Framed max ⟨new ty metaLen bodyLen, m, body⟩ :=
  ⟨hserializes, rfl, rfl, hmeta, hbody⟩

theorem framing_inverts_concatenation_chunked :
    ∃ s, run (step 64) (.start (samplePackets.flatMap serialized)) chunkedRun =
        some s ∧ s.returned = samplePackets ∧ s.reader.consumed ≤ s.reader.buffered.length ∧
      ∃ rest, samplePackets = s.returned ++ rest ∧
        ∀ e ∈ s.failures, e = streamClosed ∧ rest = [] := by
  have hrun : (run (step 64) (.start (samplePackets.flatMap serialized))
      chunkedRun).map State.returned = some samplePackets := by decide +kernel
  obtain ⟨s, hs, hret⟩ := Option.map_eq_some_iff.mp hrun
  have hp : ∀ p ∈ samplePackets, Framed 64 p := by
    intro p hmem
    rw [samplePackets, mem_cons, mem_singleton] at hmem
    rcases hmem with rfl | rfl
    · exact framed_new .ping rfl rfl ⟨_, rfl, by decide⟩
    · exact framed_new .pong rfl rfl ⟨_, rfl, by decide⟩
  obtain ⟨hcons, rest, hpkts, -, -, hfails⟩ := framing_inverts_concatenation hp hs
  exact ⟨s, hs, hret, hcons, rest, hpkts, hfails⟩

def nextMajorPing : RuntimePacket :=
  ⟨{ new .ping 0 0 with versionMajor := currentVersionMajor + 1 }, [], []⟩

def misdeclaredPing : RuntimePacket := ⟨new .ping 0 1, [7], []⟩

/-- Both packets serialise within the limit, but the reader refuses the first, and returns the
second with the boundary that its header declares. -/
theorem framing_changes_packets : (nextMajorPing.toBytes.map length = .ok 40 ∧
      (run (step 64) (.start nextMajorPing.serialized) [.call, .read 40]).map
        (fun s => (s.returned, s.failures)) =
          some ([], [.protocol (.unsupportedVersionMajor (currentVersionMajor + 1))])) ∧
    (misdeclaredPing.toBytes.map length = .ok 41 ∧
      (run (step 64) (.start misdeclaredPing.serialized) [.call, .read 41]).map State.returned =
        some [⟨new .ping 0 1, [], [7]⟩]) := by
  decide +kernel

end Nnrp.StreamReader
