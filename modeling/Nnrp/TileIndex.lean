import Nnrp.FrameSubmit

/-!
# Tile ids as bytes

A submit lists its tiles in one of four ways: as a range from a base id, which needs no bytes; as
words; as the differences of increasing ids; or as a set of bits. The base is a 32-bit number, the
ids have 16 bits.
-/

namespace Nnrp.Data
open Protocol ByteOrder Packet Fallible List

/-- The loop over a dense range. `none` is the overflow of the addition to the base. -/
def checkDense (tileBaseId : UInt32) : ℕ → List UInt16 → Option (Except NnrpError Unit)
  | _, [] => some (.ok ())
  | index, tileId :: tileIds =>
    match checkedAddU32 tileBaseId (.ofNat index) with
    | none => none
    | some expected =>
      if tileId.toUInt32 ≠ expected then
        some (.error (.invalidProtocolCombination
          "dense tile ids must be contiguous from tile_base_id"))
      else checkDense tileBaseId (index + 1) tileIds

def encodeDeltas : Option UInt16 → List UInt16 → Except NnrpError Bytes
  | _, [] => .ok []
  | previous, tileId :: tileIds => do
    let value := previous.elim tileId.toNat fun prior => tileId.toNat - prior.toNat
    ensure (¬(previous.any (tileId ≤ ·) ∨ value > 0xffff)) (.invalidProtocolCombination
      "delta tile ids must be strictly increasing with u16 deltas")
    let encoded ← encodeDeltas (some tileId) tileIds
    pure (leBytes 2 value ++ encoded)

/-- `encoded[id / 8] |= 1 << (id % 8)`; `none` is the panic of an index out of range. -/
def setBit (encoded : Bytes) (id : UInt16) : Option Bytes :=
  encoded[id.toNat / 8]?.map fun byte =>
    encoded.set (id.toNat / 8) (byte ||| (1 : UInt8) <<< UInt8.ofNat (id.toNat % 8))

def encodeTileIndices (tileIds : List UInt16) (mode : TileIndexMode) (tileBaseId : UInt32) :
    Option (Except NnrpError Bytes) :=
  match mode with
  | .denseRange => (checkDense tileBaseId 0 tileIds).map fun checked => checked.map fun _ => []
  | .rawU16 => some (.ok (tileIds.flatMap fun id => leBytes 2 id.toNat))
  | .deltaU16 => some (encodeDeltas none tileIds)
  | .bitset =>
    if tileIds.IsChain (· < ·) then
      let len := tileIds.getLast?.elim 0 fun id => id.toNat / 8 + 1
      (tileIds.foldlM setBit (replicate len 0)).map .ok
    else some (.error (.invalidProtocolCombination "bitset tile ids must be strictly increasing"))

def Representable (tileBaseId : UInt32) (tileIds : List UInt16) : TileIndexMode → Prop
  | .denseRange => tileIds.map UInt16.toNat = range' tileBaseId.toNat tileIds.length
  | .rawU16 => True
  | .deltaU16 | .bitset => tileIds.Pairwise (· < ·)

def words : ℕ → Bytes → List UInt16
  | 0, _ => []
  | count + 1, bytes => readU16 bytes 0 :: words count (bytes.drop 2)

def sums : UInt16 → List UInt16 → List UInt16
  | _, [] => []
  | prior, delta :: deltas => (prior + delta) :: sums (prior + delta) deltas

def hasBit (bytes : Bytes) (i : ℕ) : Bool := (bytes.getD (i / 8) 0).toNat.testBit (i % 8)

def decodeTileIndices (mode : TileIndexMode) (tileBaseId : UInt32) (count : ℕ) (bytes : Bytes) :
    List UInt16 :=
  match mode with
  | .denseRange => (range' tileBaseId.toNat count).map .ofNat
  | .rawU16 => words count bytes
  | .deltaU16 => sums 0 (words count bytes)
  | .bitset => ((range (8 * bytes.length)).filter (hasBit bytes)).map .ofNat

variable {base : UInt32} {ids : List UInt16} {bytes : Bytes} {encoded : Bytes} {id : UInt16}

theorem map_ofNat_toNat (ids : List UInt16) : (ids.map UInt16.toNat).map UInt16.ofNat = ids := by
  rw [map_map]
  exact (map_congr_left fun id _ => UInt16.ofNat_toNat).trans (map_id' ids)

theorem checkDense_cases {index : ℕ} (hindex : index = 0 ∨ base.toNat + index ≤ 2 ^ 16) :
    ids.map UInt16.toNat = range' (base.toNat + index) ids.length ∧
        checkDense base index ids = some (.ok ()) ∨
      ids.map UInt16.toNat ≠ range' (base.toNat + index) ids.length ∧
        ∃ e, checkDense base index ids = some (.error e) := by
  induction ids generalizing index with
  | nil => exact .inl ⟨rfl, rfl⟩
  | cons id ids ih =>
    have hbase := base.toNat_lt
    have hid := id.toNat_lt
    have hnat : (UInt32.ofNat index).toNat = index := UInt32.toNat_ofNat_of_lt' (by
      change index < 2 ^ 32
      omega)
    have hadd : checkedAddU32 base (.ofNat index) = some (base + .ofNat index) :=
      if_pos (by omega)
    have hsame : id.toUInt32 = base + .ofNat index ↔ id.toNat = base.toNat + index := by
      rw [← UInt32.toNat_inj, UInt32.toNat_add, hnat, UInt16.toNat_toUInt32]
      omega
    rw [map_cons, length_cons, range'_succ, Ne, cons.injEq, checkDense, hadd]
    dsimp only
    by_cases hhere : id.toNat = base.toNat + index
    · rw [if_neg (not_not.mpr (hsame.mpr hhere)), and_iff_right hhere]
      have hnext : base.toNat + (index + 1) ≤ 2 ^ 16 := by omega
      exact ih (.inr hnext)
    · rw [if_pos (hsame.not.mpr hhere)]
      exact .inr ⟨fun h => hhere h.1, _, rfl⟩

theorem readU16_leBytes {value : ℕ} (h : value < 2 ^ 16) (rest : Bytes) :
    readU16 (leBytes 2 value ++ rest) 0 = .ofNat value := by
  have hslice : slice (leBytes 2 value ++ rest) 0 2 = leBytes 2 value := take_left' (by simp)
  rw [readU16, hslice, leValue_leBytes, Nat.mod_eq_of_lt (show value < 256 ^ 2 from h)]

theorem words_flatMap (ids : List UInt16) :
    words ids.length (ids.flatMap fun id => leBytes 2 id.toNat) = ids := by
  induction ids with
  | nil => rfl
  | cons id ids ih =>
    rw [flatMap_cons, length_cons, words, readU16_leBytes id.toNat_lt, drop_left' (by simp), ih,
      UInt16.ofNat_toNat]

theorem encodeDeltas_cases (previous : Option UInt16) (ids : List UInt16) :
    (previous.toList ++ ids).IsChain (· < ·) ∧ (∃ bytes, encodeDeltas previous ids = .ok bytes ∧
          sums (previous.getD 0) (words ids.length bytes) = ids) ∨
      ¬(previous.toList ++ ids).IsChain (· < ·) ∧ ∃ e, encodeDeltas previous ids = .error e := by
  induction ids generalizing previous with
  | nil =>
    refine .inl ⟨?_, [], rfl, rfl⟩
    cases previous <;> simp
  | cons id ids ih =>
    have hstep : (previous.toList ++ id :: ids).IsChain (· < ·) ↔
        (∀ prior ∈ previous, prior < id) ∧ ([id] ++ ids).IsChain (· < ·) := by
      cases previous <;> simp
    rw [hstep, encodeDeltas]
    set value := previous.elim id.toNat fun prior => id.toNat - prior.toNat with hvalue
    by_cases hless : ∀ prior ∈ previous, prior < id
    · have hid := id.toNat_lt
      have hfits : value < 2 ^ 16 := by
        cases previous with
        | none => exact hid
        | some prior => exact (Nat.sub_le _ _).trans_lt hid
      have hcheck : ¬(previous.any (id ≤ ·) = true ∨ value > 0xffff) := by
        rw [not_or]
        refine ⟨?_, by omega⟩
        cases previous with
        | none => nofun
        | some prior => simpa using hless prior rfl
      have hsum : previous.getD 0 + .ofNat value = id := by
        cases previous with
        | none => simp [hvalue]
        | some prior =>
          have hlt := UInt16.lt_iff_toNat_lt.mp (hless prior rfl)
          rw [← UInt16.toNat_inj, UInt16.toNat_add, UInt16.toNat_ofNat_of_lt' hfits, hvalue]
          simp only [Option.getD_some, Option.elim_some]
          omega
      rw [ensure, if_pos hcheck, and_iff_right hless]
      rcases ih (some id) with ⟨hchain, bytes, hbytes, hsums⟩ | ⟨hchain, e, he⟩
      · refine .inl ⟨hchain, leBytes 2 value ++ bytes, ?_, ?_⟩
        · rw [hbytes]
          rfl
        · rw [length_cons, words, readU16_leBytes hfits, drop_left' (by simp), sums, hsum]
          exact congrArg _ hsums
      · refine .inr ⟨hchain, e, ?_⟩
        rw [he]
        rfl
    · have hcheck : previous.any (id ≤ ·) = true ∨ value > 0xffff := by
        left
        cases previous with
        | none => exact absurd (by simp) hless
        | some prior => simpa using hless
      rw [ensure, if_neg (not_not.mpr hcheck)]
      exact .inr ⟨fun h => hless h.1, _, rfl⟩

theorem setBit_adds (h : id.toNat / 8 < encoded.length) :
    ∃ bytes, setBit encoded id = some bytes ∧ bytes.length = encoded.length ∧
      ∀ i, hasBit bytes i = true ↔ hasBit encoded i = true ∨ i = id.toNat := by
  have hshift : ∀ s : Fin 8, ((1 : UInt8) <<< UInt8.ofNat s).toNat = 2 ^ (s : ℕ) := by decide
  have hmask := hshift ⟨id.toNat % 8, Nat.mod_lt _ (by decide)⟩
  refine ⟨_, by rw [setBit, getElem?_eq_getElem h]; rfl, length_set, fun i => ?_⟩
  simp only [hasBit, getD_eq_getElem?_getD, getElem?_set]
  by_cases hbyte : id.toNat / 8 = i / 8
  · have hi : i / 8 < encoded.length := hbyte ▸ h
    have hsame : i = id.toNat ↔ id.toNat % 8 = i % 8 := by omega
    simp only [hbyte, hi, if_true, Option.getD_some, UInt8.toNat_or, hmask, Nat.testBit_or,
      Nat.testBit_two_pow, Bool.or_eq_true, decide_eq_true_iff, hsame, getElem?_eq_getElem]
  · have hne : i ≠ id.toNat := by
      rintro rfl
      exact hbyte rfl
    rw [if_neg hbyte, or_iff_left hne]

theorem setBits_add (h : ∀ id ∈ ids, id.toNat / 8 < encoded.length) :
    ∃ bytes, ids.foldlM setBit encoded = some bytes ∧ bytes.length = encoded.length ∧
      ∀ i, hasBit bytes i = true ↔ hasBit encoded i = true ∨ i ∈ ids.map UInt16.toNat := by
  induction ids generalizing encoded with
  | nil => exact ⟨encoded, rfl, rfl, by simp⟩
  | cons id ids ih =>
    obtain ⟨first, hfirst, hlen, hadds⟩ := setBit_adds (h id mem_cons_self)
    obtain ⟨bytes, hbytes, hlen', hbits⟩ := ih fun other hother =>
      hlen ▸ h other (mem_cons_of_mem _ hother)
    refine ⟨bytes, ?_, hlen'.trans hlen, fun i => ?_⟩
    · rw [foldlM_cons, hfirst]
      exact hbytes
    · rw [hbits, hadds, map_cons, mem_cons, or_assoc]

theorem div_lt_bitset_len (h : ids.Pairwise (· < ·)) (hmem : id ∈ ids) :
    id.toNat / 8 < ids.getLast?.elim 0 fun id => id.toNat / 8 + 1 := by
  cases hlast : ids.getLast? with
  | none =>
    rw [getLast?_eq_none_iff.mp hlast] at hmem
    cases hmem
  | some last =>
    obtain ⟨front, rfl⟩ := getLast?_eq_some_iff.mp hlast
    have hle : id.toNat ≤ last.toNat := by
      rcases mem_append.mp hmem with hfront | hself
      · have hlt := (pairwise_append.mp h).2.2 id hfront last mem_cons_self
        exact (UInt16.lt_iff_toNat_lt.mp hlt).le
      · rw [mem_singleton.mp hself]
    exact Nat.lt_succ_of_le (Nat.div_le_div_right hle)

theorem bitset_read (h : ids.Pairwise (· < ·)) {len : ℕ} (hlen : ∀ id ∈ ids, id.toNat / 8 < len) :
    ∃ bytes, ids.foldlM setBit (replicate len 0) = some bytes ∧
      ((range (8 * bytes.length)).filter (hasBit bytes)).map UInt16.ofNat = ids := by
  have hroom : ∀ id ∈ ids, id.toNat / 8 < (replicate len (0 : UInt8)).length := by
    simpa using hlen
  obtain ⟨bytes, hbytes, hlength, hbits⟩ := setBits_add hroom
  have hzero (i : ℕ) : hasBit (replicate len 0) i = false := by
    rw [hasBit, getD_eq_getElem?_getD, getElem?_replicate]
    split_ifs <;> simp
  have hsorted : (ids.map UInt16.toNat).Pairwise (· < ·) := by
    rw [pairwise_map]
    exact h.imp UInt16.lt_iff_toNat_lt.mp
  have hread : (range (8 * bytes.length)).filter (hasBit bytes) = ids.map UInt16.toNat := by
    refine (pairwise_lt_range.filter _).eq_of_mem_iff hsorted fun i => ?_
    rw [mem_filter, mem_range, hbits, hzero, Bool.false_eq_true, false_or]
    refine and_iff_right_of_imp fun hmem => ?_
    obtain ⟨id, hid, rfl⟩ := mem_map.mp hmem
    have hlt := hlen id hid
    rw [hlength, length_replicate]
    omega
  exact ⟨bytes, hbytes, by rw [hread, map_ofNat_toNat]⟩

/-- The encoder neither overflows nor indexes out of range. It accepts what the mode can represent,
and the ids are read back from the mode, the base, their number and the bytes. -/
theorem tile_indices_lossless (mode : TileIndexMode) (base : UInt32) (ids : List UInt16) :
    Representable base ids mode ∧ (∃ bytes, encodeTileIndices ids mode base = some (.ok bytes) ∧
          decodeTileIndices mode base ids.length bytes = ids) ∨ ¬Representable base ids mode ∧
        ∃ e, encodeTileIndices ids mode base = some (.error e) := by
  have hchain : ids.IsChain (· < ·) ↔ ids.Pairwise (· < ·) := isChain_iff_pairwise
  cases mode with
  | denseRange =>
    rcases @checkDense_cases base ids 0 (.inl rfl) with ⟨hdense, h⟩ | ⟨hdense, e, h⟩
    · refine .inl ⟨hdense, [], by rw [encodeTileIndices, h]; rfl, ?_⟩
      have hread := map_ofNat_toNat ids
      rw [hdense] at hread
      exact hread
    · exact .inr ⟨hdense, e, by rw [encodeTileIndices, h]; rfl⟩
  | rawU16 => exact .inl ⟨trivial, _, rfl, words_flatMap ids⟩
  | deltaU16 =>
    rw [Representable, ← hchain]
    rcases encodeDeltas_cases none ids with ⟨hids, bytes, h, hread⟩ | ⟨hids, e, h⟩
    · exact .inl ⟨hids, bytes, congrArg some h, hread⟩
    · exact .inr ⟨hids, e, congrArg some h⟩
  | bitset =>
    rw [Representable, ← hchain, encodeTileIndices]
    by_cases hids : ids.IsChain (· < ·)
    · have hpairs := hchain.mp hids
      obtain ⟨bytes, hbytes, hread⟩ := bitset_read hpairs fun id => div_lt_bitset_len hpairs
      rw [if_pos hids]
      exact .inl ⟨hids, bytes, congrArg (Option.map Except.ok) hbytes, hread⟩
    · rw [if_neg hids]
      exact .inr ⟨hids, _, rfl⟩

example : encodeTileIndices [0, 3, 9] .bitset 0 = some (.ok [0x09, 0x02]) := by decide +kernel

end Nnrp.Data
