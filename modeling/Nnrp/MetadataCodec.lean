import Nnrp.Layout
import Nnrp.Protocol
import Nnrp.Stateful

/-!
# Codecs of fixed-layout metadata

Every metadata type has a parser and a writer of its own. A writer checks the length of its
destination and the value before it writes the first byte; `to_bytes` runs it on an array of zeros.
If the parser accepts exactly what holds a value that passes these checks, the codec is canonical.
-/

namespace Nnrp.Protocol
open ByteOrder Stateful Fallible List

/-- Writes into a destination, which keeps what was written before a failure. -/
abbrev Writer := Method Bytes NnrpError Unit

def writeFields (len : ℕ) (validate : Except NnrpError Unit) (fields : List (ℕ × Bytes)) :
    Writer := do
  check (requireDestinationLen · len)
  lift validate
  write (putAll · fields)

def fillZero (len : ℕ) : ℕ × Bytes := (0, replicate len 0)

def bytesOf (len : ℕ) (writer : Writer) : Except NnrpError Bytes :=
  let (result, bytes) := call writer (replicate len 0)
  result.map fun _ => bytes

/-- What the parser accepts is written back, what the writer accepts is read back, both accept the
same values, and a failed write leaves the destination as it was. -/
structure Canonical {α : Type} (len : ℕ) (parse : Bytes → Except NnrpError α)
    (write : α → Writer) : Prop where
  reencodes : ∀ {source m}, parse source = .ok m → bytesOf len (write m) = .ok (source.take len)
  parses : ∀ {m bytes}, bytesOf len (write m) = .ok bytes → parse bytes = .ok m
  length : ∀ {m bytes}, bytesOf len (write m) = .ok bytes → bytes.length = len
  accepts : ∀ {m destination}, len ≤ destination.length →
    ((call (write m) destination).1 = .ok () ↔ ∃ source, parse source = .ok m)
  atomic : ∀ {m destination e destination'},
    call (write m) destination = (.error e, destination') → destination' = destination

variable {α : Type} {len : ℕ} {source bytes : Bytes} {fields : List (ℕ × Bytes)}
  {validate : Except NnrpError Unit} {m : α}

theorem writeFields_atomic {dest dest' : Bytes} {e : NnrpError}
    (h : call (writeFields len validate fields) dest = (.error e, dest')) :
    dest' = dest := by
  have hkeeps : Ensures (writeFields len validate fields) dest (fun _ _ => True)
      (· = dest) := by
    refine .guard rfl fun _ _ => .guard rfl fun _ _ => ?_
    exact .write trivial
  exact hkeeps.of_error h

theorem writeFields_accepts {dest : Bytes} (hlen : len ≤ dest.length) :
    (call (writeFields len validate fields) dest).1 = .ok () ↔ validate = .ok () := by
  have hrequire : requireDestinationLen dest len = .ok () := if_neg (by omega)
  rw [writeFields, call_bind, call_check, hrequire]
  cases validate with
  | ok u => simp
  | error e => simp [lift, call_bind]

theorem bytesOf_eq_ok : bytesOf len (writeFields len validate fields) = .ok bytes ↔
    validate = .ok () ∧ putAll (replicate len 0) fields = bytes := by
  have hlen : requireDestinationLen (replicate len 0) len = .ok () := by
    simp [requireDestinationLen]
  rw [bytesOf, writeFields, call_bind, call_check, hlen]
  cases validate with
  | ok u => simp [Except.map]
  | error e => simp [lift, call_bind, Except.map]

theorem bytesOf_of_valid (h : validate = .ok ()) :
    ∃ bytes, bytesOf len (writeFields len validate fields) = .ok bytes :=
  ⟨_, bytesOf_eq_ok.mpr ⟨h, rfl⟩⟩

theorem putAll_fillZero :
    putAll (replicate len 0) (fillZero len :: fields) = putAll (replicate len 0) fields :=
  congrArg (putAll · fields) (putAt_replicate_zero len)

section
variable {parse : Bytes → Except NnrpError α} {validate : α → Except NnrpError Unit}
  {fields : α → List (ℕ × Bytes)}
variable (hparse : ∀ source m, parse source = .ok m ↔
    len ≤ source.length ∧ validate m = .ok () ∧ Holds len source 0 (fields m))
include hparse

theorem validates_iff_parsed (hord : ∀ m, Ordered len 0 (fields m)) :
    validate m = .ok () ↔ ∃ source, parse source = .ok m := by
  constructor
  · intro hvalid
    exact ⟨_, (hparse _ _).mpr
      ⟨(putAll_zeros_length (hord m).fits).ge, hvalid, holds_putAll (hord m).fits⟩⟩
  · rintro ⟨source, h⟩
    exact ((hparse source m).mp h).2.1

theorem Canonical.of_fields
    (hord : ∀ m, Ordered len 0 (fields m) := by intro m; simp [Ordered]; decide) :
    Canonical len parse fun m => writeFields len (validate m) (fields m) where
  reencodes h := by
    obtain ⟨hlen, hvalid, hholds⟩ := (hparse _ _).mp h
    exact bytesOf_eq_ok.mpr ⟨hvalid, hholds.take_eq (hord _).fits hlen⟩
  parses h := by
    obtain ⟨hvalid, rfl⟩ := bytesOf_eq_ok.mp h
    exact (hparse _ _).mpr
      ⟨(putAll_zeros_length (hord _).fits).ge, hvalid, holds_putAll (hord _).fits⟩
  length h := by
    obtain ⟨-, rfl⟩ := bytesOf_eq_ok.mp h
    exact putAll_zeros_length (hord _).fits
  accepts hlen := (writeFields_accepts hlen).trans (validates_iff_parsed hparse hord)
  atomic := writeFields_atomic

theorem Canonical.of_zeroed
    (hord : ∀ m, Ordered len 0 (fields m) := by intro m; simp [Ordered]; decide) :
    Canonical len parse fun m => writeFields len (validate m) (fillZero len :: fields m) where
  reencodes h := by
    rw [bytesOf_eq_ok, putAll_fillZero, ← bytesOf_eq_ok]
    exact (Canonical.of_fields hparse hord).reencodes h
  parses h := by
    rw [bytesOf_eq_ok, putAll_fillZero, ← bytesOf_eq_ok] at h
    exact (Canonical.of_fields hparse hord).parses h
  length h := by
    rw [bytesOf_eq_ok, putAll_fillZero, ← bytesOf_eq_ok] at h
    exact (Canonical.of_fields hparse hord).length h
  accepts hlen := (writeFields_accepts hlen).trans (validates_iff_parsed hparse hord)
  atomic := writeFields_atomic

end

@[simp] theorem pure_eq_ok {a b : α} : (pure a : Except NnrpError α) = .ok b ↔ a = b :=
  ⟨Except.ok.inj, congrArg _⟩

@[simp] theorem map_eq_ok {β : Type} {x : Except NnrpError β} {f : β → α} {b : α} :
    f <$> x = .ok b ↔ ∃ a, x = .ok a ∧ f a = b := by
  cases x with
  | ok a => simp [Functor.map, Except.map]
  | error e => simp [Functor.map, Except.map]

@[simp] theorem requireLen_eq_ok : requireLen source len = .ok () ↔ len ≤ source.length := by
  simp [requireLen]

variable {name : String}

@[simp] theorem validateZeroU8_eq_ok {v : UInt8} : validateZeroU8 name v = .ok () ↔ v = 0 := by
  simp [validateZeroU8]

@[simp] theorem validateZeroU16_eq_ok {v : UInt16} : validateZeroU16 name v = .ok () ↔ v = 0 := by
  simp [validateZeroU16]

@[simp] theorem validateZeroU32_eq_ok {v : UInt32} : validateZeroU32 name v = .ok () ↔ v = 0 := by
  simp [validateZeroU32]

@[simp] theorem validateZeroU64_eq_ok {v : UInt64} : validateZeroU64 name v = .ok () ↔ v = 0 := by
  simp [validateZeroU64]

def requireDeclaredLen (field : String) (declared actual : ℕ) : Except NnrpError Unit :=
  if declared ≠ actual then .error (.declaredLengthMismatch field declared actual) else .ok ()

def splitDeclaredTail (source : Bytes) (fixedLen declaredTailLen : ℕ) (field : String) :
    Except NnrpError Bytes := do
  requireLen source fixedLen
  requireDeclaredLen field declaredTailLen (source.length - fixedLen)
  pure (source.drop fixedLen)

def parseWithTail (len : ℕ) (parse : Bytes → Except NnrpError α) (declared : α → UInt32)
    (field : String) (source : Bytes) : Except NnrpError (α × Bytes) := do
  let metadata ← parse source
  let tail ← splitDeclaredTail source len (declared metadata).toNat field
  pure (metadata, tail)

/-- The parser takes exactly the strings that the fixed parser takes and that have the declared
length behind it. -/
def ExactTail (len : ℕ) (parse : Bytes → Except NnrpError α) (declared : α → UInt32)
    (parseWith : Bytes → Except NnrpError (α × Bytes)) : Prop :=
  ∀ source m tail, parseWith source = .ok (m, tail) ↔
    parse source = .ok m ∧ source.drop len = tail ∧ tail.length = (declared m).toNat

variable {parse : Bytes → Except NnrpError α} {write : α → Writer}

theorem Canonical.le_length
    (hcodec : Canonical len parse write) (h : parse source = .ok m) : len ≤ source.length := by
  have hlen := hcodec.length (hcodec.reencodes h)
  rw [length_take] at hlen
  omega

theorem Canonical.exactTail
    (hcodec : Canonical len parse write) (declared : α → UInt32) (field : String) :
    ExactTail len parse declared (parseWithTail len parse declared field) := by
  intro source m tail
  have hsplit {n : ℕ} (hlen : len ≤ source.length) :
      splitDeclaredTail source len n field = .ok tail ↔
        source.drop len = tail ∧ tail.length = n := by
    simp [splitDeclaredTail, requireDeclaredLen, bind_eq_ok]
    grind
  simp [parseWithTail, bind_eq_ok]
  grind [hcodec.le_length]

def bytesOfAll (len : ℕ) (write : α → Writer) : List α → Except NnrpError Bytes
  | [] => .ok []
  | m :: ms => do
    let bytes ← bytesOf len (write m)
    let rest ← bytesOfAll len write ms
    pure (bytes ++ rest)

/-- `chunks_exact`, with the parser on each of the chunks. -/
def parseChunks (len : ℕ) (parse : Bytes → Except NnrpError α) :
    ℕ → Bytes → Except NnrpError (List α)
  | 0, _ => .ok []
  | count + 1, source => do
    let m ← parse (source.take len)
    let ms ← parseChunks len parse count (source.drop len)
    pure (m :: ms)

theorem Canonical.bytesOfAll_iff (hcodec : Canonical len parse write) {ms : List α} :
    bytesOfAll len write ms = .ok bytes ↔
      bytes.length = ms.length * len ∧ parseChunks len parse ms.length bytes = .ok ms := by
  induction ms generalizing bytes with
  | nil => simp [bytesOfAll, parseChunks, eq_comm]
  | cons m ms ih =>
    rw [bytesOfAll, length_cons, parseChunks, Nat.add_mul, Nat.one_mul]
    simp only [bind_eq_ok, pure_eq_ok, cons.injEq]
    constructor
    · rintro ⟨first, hfirst, rest, hrest, rfl⟩
      have hlen := hcodec.length hfirst
      obtain ⟨hrestLen, hparse⟩ := ih.mp hrest
      rw [take_left' hlen, drop_left' hlen, length_append, hlen, hrestLen]
      exact ⟨Nat.add_comm _ _, m, hcodec.parses hfirst, ms, hparse, rfl, rfl⟩
    · rintro ⟨hlen, _, hfirst, _, hrest, rfl, rfl⟩
      have hreencoded := hcodec.reencodes hfirst
      rw [take_take, Nat.min_self] at hreencoded
      refine ⟨_, hreencoded, _, ih.mpr ⟨?_, hrest⟩, take_append_drop _ _⟩
      rw [length_drop]
      omega

theorem Canonical.bytesOfAll_inj (hcodec : Canonical len parse write) (hpos : 0 < len)
    {ms ms' : List α} (h : bytesOfAll len write ms = .ok bytes)
    (h' : bytesOfAll len write ms' = .ok bytes) : ms = ms' := by
  obtain ⟨hlen, hparse⟩ := hcodec.bytesOfAll_iff.mp h
  obtain ⟨hlen', hparse'⟩ := hcodec.bytesOfAll_iff.mp h'
  rw [Nat.eq_of_mul_eq_mul_right hpos (hlen.symm.trans hlen'), hparse'] at hparse
  exact (Except.ok.inj hparse).symm

end Nnrp.Protocol
