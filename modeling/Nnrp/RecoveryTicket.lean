import Nnrp.ClientOpen

/-!
# Recovery tickets as bytes

A ticket is a prefix of 28 bytes and the resume token. The operation to resume from is optional: a
flag tells whether it is present, and its eight bytes are zero in a ticket without one. The decoder
reads these bytes only if the flag is set.
-/

namespace Nnrp.Client.NnrpSessionRecoveryTicket
open ByteOrder Packet Fallible List

def magic : Bytes := [0x4e, 0x52, 0x54, 0x4b]
def version : UInt16 := 1
def fixedPrefixBytes : ℕ := 28
def flagResumeFromOperationIdPresent : UInt16 := 1

variable (ticket : NnrpSessionRecoveryTicket)

def flags : UInt16 :=
  if ticket.resumeFromOperationId.isSome then flagResumeFromOperationIdPresent else 0

/-- `none` is the panic on a token whose length does not fit. -/
def toBytes : Option Bytes :=
  if ticket.resumeToken.length < 2 ^ 32 then
    some (magic ++ leBytes 2 version.toNat ++ leBytes 2 ticket.flags.toNat ++
      leBytes 4 ticket.sessionId.toNat ++ leBytes 4 ticket.resumeToken.length ++
      leBytes 4 ticket.resumeWindowMs.toNat ++
      leBytes 8 (ticket.resumeFromOperationId.getD 0).toNat ++ ticket.resumeToken)
  else none

def fromBytes (encoded : Bytes) : Except RuntimeError NnrpSessionRecoveryTicket := do
  ensure (fixedPrefixBytes ≤ encoded.length) (.invalidRecoveryTicket "ticket is truncated")
  ensure (encoded.take 4 = magic) (.invalidRecoveryTicket "magic does not match NRTK")
  ensure (readU16 encoded 4 = version) (.invalidRecoveryTicket "version is unsupported")
  let flags := readU16 encoded 6
  ensure (flags &&& ~~~flagResumeFromOperationIdPresent = 0)
    (.invalidRecoveryTicket "reserved flags are non-zero")
  let sessionId := readU32 encoded 8
  ensure (sessionId ≠ 0) (.invalidRecoveryTicket "session id is zero")
  let tokenLen := (readU32 encoded 12).toNat
  ensure (tokenLen ≠ 0) (.invalidRecoveryTicket "resume token is empty")
  ensure (fixedPrefixBytes + tokenLen < 2 ^ 64) (.invalidRecoveryTicket "ticket length overflows")
  ensure (encoded.length = fixedPrefixBytes + tokenLen)
    (.invalidRecoveryTicket "ticket has truncated or trailing token bytes")
  pure
    { sessionId
      resumeToken := encoded.drop fixedPrefixBytes
      resumeFromOperationId :=
        if flags &&& flagResumeFromOperationIdPresent ≠ 0 then some (readU64 encoded 20) else none
      resumeWindowMs := readU32 encoded 16 }

/-- An operation id without its flag. -/
def HidesOperationId (encoded : Bytes) : Prop :=
  readU16 encoded 6 &&& flagResumeFromOperationIdPresent = 0 ∧ readU64 encoded 20 ≠ 0

def fields : List (ℕ × Bytes) :=
  [putU32 0 0x4b54524e, putU16 4 version, putU16 6 ticket.flags, putU32 8 ticket.sessionId,
    putU32 12 (.ofNat ticket.resumeToken.length), putU32 16 ticket.resumeWindowMs,
    putU64 20 (ticket.resumeFromOperationId.getD 0)]

structure Frames (encoded : Bytes) : Prop where
  fits : ticket.resumeToken.length < 2 ^ 32
  length : fixedPrefixBytes ≤ encoded.length
  magic : encoded.take 4 = magic
  version : readU16 encoded 4 = version
  flags : readU16 encoded 6 = ticket.flags
  sessionId : readU32 encoded 8 = ticket.sessionId
  tokenLen : readU32 encoded 12 = .ofNat ticket.resumeToken.length
  window : readU32 encoded 16 = ticket.resumeWindowMs
  token : encoded.drop fixedPrefixBytes = ticket.resumeToken

variable {ticket : NnrpSessionRecoveryTicket} {encoded other : Bytes}

theorem magic_iff (hlen : fixedPrefixBytes ≤ encoded.length) :
    encoded.take 4 = magic ↔ readU32 encoded 0 = 0x4b54524e := by
  rw [← leValue_slice_four]
  refine ⟨fun h => congrArg leValue h, fun h => leValue_inj ?_ h⟩
  rw [length_take_of_le (le_trans (by decide) hlen)]
  rfl

theorem toBytes_eq_some : ticket.toBytes = some encoded ↔
    ticket.Frames encoded ∧ readU64 encoded 20 = ticket.resumeFromOperationId.getD 0 := by
  have hord : Ordered fixedPrefixBytes 0 ticket.fields := by
    simp [fields, Ordered, fixedPrefixBytes]
  have hbytes (hfits : ticket.resumeToken.length < 2 ^ 32) : ticket.toBytes =
      some (putAll (replicate fixedPrefixBytes 0) ticket.fields ++ ticket.resumeToken) := by
    have hlen : (UInt32.ofNat ticket.resumeToken.length).toNat = ticket.resumeToken.length :=
      UInt32.toNat_ofNat_of_lt' hfits
    rw [toBytes, if_pos hfits, ← hlen]
    rfl
  constructor
  · intro h
    by_cases hfits : ticket.resumeToken.length < 2 ^ 32
    · have hlen := putAll_zeros_length hord.fits
      rw [hbytes hfits, Option.some.injEq] at h
      have hle : fixedPrefixBytes ≤ encoded.length := by
        rw [← h, length_append, hlen]
        exact Nat.le_add_right _ _
      have htake : take fixedPrefixBytes encoded = putAll (replicate fixedPrefixBytes 0) _ :=
        h ▸ take_left' hlen
      rw [eq_comm, ← holds_iff_take_eq hord.fits hle] at htake
      simp [fields, fixedPrefixBytes] at htake
      obtain ⟨hfirst, hver, hflags, hsess, htoken, hwindow, hop⟩ := htake
      exact ⟨⟨hfits, hle, (magic_iff hle).mpr hfirst, hver, hflags, hsess, htoken, hwindow,
        h ▸ drop_left' hlen⟩, hop⟩
    · rw [toBytes, if_neg hfits] at h
      cases h
  · rintro ⟨h, hop⟩
    have hholds : Holds fixedPrefixBytes encoded 0 ticket.fields := by
      simp [fields, fixedPrefixBytes, (magic_iff h.length).mp h.magic, h.version, h.flags,
        h.sessionId, h.tokenLen, h.window, hop]
    rw [hbytes h.fits, (holds_iff_take_eq hord.fits h.length).mp hholds, ← h.token,
      take_append_drop]

theorem flag_set : flagResumeFromOperationIdPresent &&& flagResumeFromOperationIdPresent ≠ 0 := by
  decide

theorem flags_cases {flags : UInt16} (h : flags &&& ~~~flagResumeFromOperationIdPresent = 0) :
    flags = 0 ∨ flags = flagResumeFromOperationIdPresent := by
  have hshift := congrArg (·.toNat >>> 1) h
  simp [flagResumeFromOperationIdPresent, Nat.shiftRight_and_distrib] at hshift
  rw [Nat.and_two_pow_sub_one_eq_mod _ 15, Nat.shiftRight_eq_div_pow] at hshift
  have hlt := flags.toNat_lt
  simp only [← UInt16.toNat_inj, flagResumeFromOperationIdPresent]
  simp
  omega

theorem fromBytes_eq_ok : fromBytes encoded = .ok ticket ↔ ticket.Frames encoded ∧
    ticket.sessionId ≠ 0 ∧ ticket.resumeToken ≠ [] ∧
    ∀ id ∈ ticket.resumeFromOperationId, readU64 encoded 20 = id := by
  simp only [fromBytes, bind_eq_ok, exists_unit, ensure_eq_ok]
  constructor
  · rintro ⟨hle, hmagic, hver, hknown, hsess, hne, -, hlen, h⟩
    cases h
    have htoken : (encoded.drop fixedPrefixBytes).length = (readU32 encoded 12).toNat := by
      rw [length_drop, hlen, Nat.add_sub_cancel_left]
    refine ⟨⟨?_, hle, hmagic, hver, ?_, rfl, ?_, rfl, rfl⟩, hsess, ?_, ?_⟩
    · exact htoken ▸ UInt32.toNat_lt _
    · rcases flags_cases hknown with hflags | hflags
      all_goals
        rw [flags, hflags]
        rfl
    · rw [htoken, UInt32.ofNat_toNat]
    · intro hempty
      exact hne (htoken.symm.trans (congrArg length hempty))
    · intro id hop
      split_ifs at hop
      · exact Option.some.inj hop
      · cases hop
  · rintro ⟨h, hsess, htoken, hop⟩
    have hlen : (readU32 encoded 12).toNat = ticket.resumeToken.length := by
      rw [h.tokenLen, UInt32.toNat_ofNat_of_lt' h.fits]
    have hdrop := congrArg length h.token
    rw [length_drop] at hdrop
    have hle := h.length
    have hfits := h.fits
    have hpos := length_pos_iff.mpr htoken
    have hoperation : (if readU16 encoded 6 &&& flagResumeFromOperationIdPresent ≠ 0 then
        some (readU64 encoded 20) else none) = ticket.resumeFromOperationId := by
      rw [h.flags, flags]
      cases hid : ticket.resumeFromOperationId with
      | none => rfl
      | some id =>
        rw [hop id hid]
        exact if_pos flag_set
    rw [hoperation, h.sessionId, h.window, h.token, hlen, h.flags]
    refine ⟨hle, h.magic, h.version, ?_, hsess, by omega, by simp [fixedPrefixBytes]; omega,
      by omega, rfl⟩
    rw [flags]
    split_ifs <;> rfl

/-- Exactly the tickets with a session, a token and a length that fits come back from their bytes.
An accepted string is what its ticket is encoded to unless it hides an operation id, and of the
strings that hide none only one decodes to the ticket. -/
theorem recovery_tickets_canonical_iff (ticket : NnrpSessionRecoveryTicket) (encoded : Bytes) :
    ((∃ bytes, ticket.toBytes = some bytes ∧ fromBytes bytes = .ok ticket) ↔
      ticket.sessionId ≠ 0 ∧ ticket.resumeToken ≠ [] ∧ ticket.resumeToken.length < 2 ^ 32) ∧
    (fromBytes encoded = .ok ticket → (ticket.toBytes = some encoded ↔ ¬HidesOperationId encoded) ∧
      ∀ other, fromBytes other = .ok ticket → ¬HidesOperationId encoded →
        ¬HidesOperationId other → other = encoded) := by
  have hreencodes {bytes : Bytes} (h : fromBytes bytes = .ok ticket) :
      ticket.toBytes = some bytes ↔ ¬HidesOperationId bytes := by
    obtain ⟨hframes, -, -, hop⟩ := fromBytes_eq_ok.mp h
    rw [toBytes_eq_some, and_iff_right hframes, HidesOperationId, hframes.flags, flags]
    cases hid : ticket.resumeFromOperationId with
    | none => exact not_not.symm.trans (and_iff_right rfl).not.symm
    | some id => exact iff_of_true (hop id hid) fun hhides => flag_set hhides.1
  refine ⟨⟨?_, ?_⟩, fun h => ⟨hreencodes h, fun other hother hnot hnot' => ?_⟩⟩
  · rintro ⟨bytes, -, h⟩
    obtain ⟨hframes, hsess, htoken, -⟩ := fromBytes_eq_ok.mp h
    exact ⟨hsess, htoken, hframes.fits⟩
  · rintro ⟨hsess, htoken, hfits⟩
    have hsome : ∃ bytes, ticket.toBytes = some bytes := ⟨_, if_pos hfits⟩
    obtain ⟨bytes, hbytes⟩ := hsome
    obtain ⟨hframes, hop⟩ := toBytes_eq_some.mp hbytes
    refine ⟨bytes, hbytes, fromBytes_eq_ok.mpr ⟨hframes, hsess, htoken, fun id hid => ?_⟩⟩
    rw [hop, hid]
    rfl
  · have hbytes := (hreencodes h).mpr hnot
    rw [(hreencodes hother).mpr hnot', Option.some.injEq] at hbytes
    exact hbytes

def sampleTicket : NnrpSessionRecoveryTicket := ⟨7, [1], none, 9⟩

def sampleBytes (hidden : UInt8) : Bytes :=
  magic ++ [1, 0, 0, 0, 7, 0, 0, 0, 1, 0, 0, 0, 9, 0, 0, 0, hidden, 0, 0, 0, 0, 0, 0, 0, 1]

theorem sample_ticket_reencoded : fromBytes (sampleBytes 0) = .ok sampleTicket ∧
    sampleTicket.toBytes = some (sampleBytes 0) := by
  have hdecodes : fromBytes (sampleBytes 0) = .ok sampleTicket := by decide +kernel
  have hplain : ¬HidesOperationId (sampleBytes 0) := fun h => h.2 (by decide +kernel)
  exact ⟨hdecodes, ((recovery_tickets_canonical_iff sampleTicket _).2 hdecodes).1.mpr hplain⟩

/-- The hidden byte is lost: two strings decode to the sample. -/
theorem hidden_operation_id_lost :
    fromBytes (sampleBytes 5) = .ok sampleTicket ∧ fromBytes (sampleBytes 0) = .ok sampleTicket ∧
      sampleTicket.toBytes = some (sampleBytes 0) ∧ sampleBytes 0 ≠ sampleBytes 5 := by
  decide +kernel

end Nnrp.Client.NnrpSessionRecoveryTicket
