import GerberMask.Proofs.Raster.RoundTrip
import GerberMask.Raster.PreviewRecord

/-!
# Preview records in a file

A header is eight words whose bytes stand at an address of a file (`HeaderAt`). Said that way,
without a reader, the same notion serves both directions: writing puts the words of a record there,
and reading finds the words that stand there, whoever put them (`readHeader?_eq_some_iff`).

* Reading after writing gives the record back, whatever stands before and behind it
  (`ofBytes_append_toBytes`). It rests on the header naming the place where the code really lands.
* Writing after reading gives the bytes of the file back (`toBytes_of_ofBytes`), provided that the
  header names that place too. A header may name any other, and then the code is taken from there.
* Whether reading succeeds is decided by two sizes, that of the header and the sum that it names
  (`ofBytes_of_short`, `ofBytes_of_headerAt`).

Addresses and sizes are added as natural numbers, so nothing wraps around: an address close to the
end of its range lies behind the end of every file.
-/

namespace GerberMask.Raster

open LittleEndian

/-! ### Words in a file -/

/-- The bytes of a row of words stand at an offset of a file. -/
def WordsAt (file : Bytes) (offset : Nat) (words : List UInt32) : Prop :=
  words.flatMap bytes32 <+: file.toList.drop offset

theorem bytes32_word32 (b₀ b₁ b₂ b₃ : UInt8) :
    bytes32 (word32 b₀ b₁ b₂ b₃) = [b₀, b₁, b₂, b₃] := by
  have h₀ := b₀.toNat_lt
  have h₁ := b₁.toNat_lt
  have h₂ := b₂.toNat_lt
  have h₃ := b₃.toNat_lt
  simp only [bytes32, List.cons.injEq, and_true, ← UInt8.toNat_inj, toNat_byteAt, word32,
    UInt32.toNat_ofNat', Nat.pow_eq]
  omega

/-- **A word is read where its bytes stand**, and nowhere else. -/
theorem read32?_eq_some_iff {file : Bytes} {offset : Nat} {w : UInt32} :
    read32? file offset = some w ↔ bytes32 w <+: file.toList.drop offset := by
  have hbyte : ∀ i, (file.toList.drop offset)[i]? = file[offset + i]? := by
    intro i
    rw [List.getElem?_drop, Array.getElem?_toList]
  constructor
  · intro h
    simp only [read32?, Option.bind_eq_bind, Option.bind_eq_some_iff, Option.pure_def,
      Option.some.injEq] at h
    obtain ⟨b₀, h₀, b₁, h₁, b₂, h₂, b₃, h₃, rfl⟩ := h
    rw [bytes32_word32, List.prefix_iff_getElem?]
    intro i hi
    rw [hbyte]
    match i, hi with
    | 0, _ => exact h₀
    | 1, _ => exact h₁
    | 2, _ => exact h₂
    | 3, _ => exact h₃
  · rintro ⟨rest, h⟩
    have h₀ := hbyte 0
    have h₁ := hbyte 1
    have h₂ := hbyte 2
    have h₃ := hbyte 3
    rw [← h, Nat.add_zero] at *
    simp [read32?, ← h₀, ← h₁, ← h₂, ← h₃, bytes32, word32_bytes]

theorem length_flatMap_bytes32 (words : List UInt32) :
    (words.flatMap bytes32).length = 4 * words.length := by
  induction words with
  | nil => rfl
  | cons w words ih =>
    have hword : (bytes32 w).length = 4 := rfl
    rw [List.flatMap_cons, List.length_append, ih, List.length_cons, hword]
    omega

@[simp] theorem wordsAt_nil (file : Bytes) (offset : Nat) : WordsAt file offset [] :=
  List.nil_prefix

theorem wordsAt_cons {file : Bytes} {offset : Nat} {w : UInt32} {words : List UInt32} :
    WordsAt file offset (w :: words) ↔
      read32? file offset = some w ∧ WordsAt file (offset + 4) words := by
  rw [read32?_eq_some_iff, WordsAt, WordsAt, List.flatMap_cons, ← List.drop_drop]
  constructor
  · rintro ⟨rest, h⟩
    rw [List.append_assoc] at h
    exact ⟨⟨_, h⟩, rest, by rw [← h]; rfl⟩
  · rintro ⟨⟨rest, h⟩, rest', h'⟩
    rw [← h] at h' ⊢
    refine ⟨rest', ?_⟩
    rw [List.append_assoc, h']
    rfl

/-- Words end before the file does. -/
theorem WordsAt.fits {file : Bytes} {offset : Nat} {words : List UInt32}
    (h : WordsAt file offset words) (hne : words ≠ []) :
    offset + 4 * words.length ≤ file.size := by
  have hlen := h.length_le
  have hpos := List.length_pos_iff.2 hne
  have hsize : file.toList.length = file.size := Array.length_toList
  rw [length_flatMap_bytes32, List.length_drop] at hlen
  omega

/-- Where there is room, some words stand. -/
theorem exists_wordsAt {file : Bytes} (offset n : Nat) (hroom : offset + 4 * n ≤ file.size) :
    ∃ words, words.length = n ∧ WordsAt file offset words := by
  induction n generalizing offset with
  | zero => exact ⟨[], rfl, wordsAt_nil file offset⟩
  | succ n ih =>
    obtain ⟨words, hlen, hwords⟩ := ih (offset + 4) (by omega)
    have hbyte : ∀ i < 4, ∃ b, file[offset + i]? = some b := by
      intro i hi
      exact ⟨file[offset + i], Array.getElem?_eq_getElem (by omega)⟩
    obtain ⟨b₀, h₀⟩ := hbyte 0 (by decide)
    obtain ⟨b₁, h₁⟩ := hbyte 1 (by decide)
    obtain ⟨b₂, h₂⟩ := hbyte 2 (by decide)
    obtain ⟨b₃, h₃⟩ := hbyte 3 (by decide)
    rw [Nat.add_zero] at h₀
    have hread : read32? file offset = some (word32 b₀ b₁ b₂ b₃) := by
      simp [read32?, h₀, h₁, h₂, h₃]
    exact ⟨_ :: words, congrArg (· + 1) hlen, wordsAt_cons.2 ⟨hread, hwords⟩⟩

namespace PreviewRecord

/-! ### Headers -/

/-- A header: the size of an image, the place and the length of its code, and the reserved words. -/
structure Header where
  width : UInt32
  height : UInt32
  start : UInt32
  size : UInt32
  reserved : Vector UInt32 4
  deriving DecidableEq

/-- The words of a header. -/
def Header.words (h : Header) : List UInt32 :=
  [h.width, h.height, h.start, h.size] ++ h.reserved.toList

/-- The words of a header stand at an address of a file. -/
def HeaderAt (file : Bytes) (address : Nat) (h : Header) : Prop :=
  WordsAt file address h.words

theorem readHeader?_eq_some_iff {file : Bytes} {address : Nat} {words : Vector UInt32 8} :
    readHeader? file address = some words ↔ WordsAt file address words.toList := by
  match words with
  | ⟨⟨[w₀, w₁, w₂, w₃, w₄, w₅, w₆, w₇]⟩, _⟩ =>
    show _ ↔ WordsAt file address [w₀, w₁, w₂, w₃, w₄, w₅, w₆, w₇]
    simp only [wordsAt_cons, wordsAt_nil, and_true, Nat.add_assoc, Nat.reduceAdd]
    constructor
    · intro hread
      simp only [readHeader?, Option.bind_eq_bind, Option.bind_eq_some_iff, Option.pure_def,
        Option.some.injEq] at hread
      obtain ⟨_, h₀, _, h₁, _, h₂, _, h₃, _, h₄, _, h₅, _, h₆, _, h₇, heq⟩ := hread
      cases heq
      exact ⟨h₀, h₁, h₂, h₃, h₄, h₅, h₆, h₇⟩
    · rintro ⟨h₀, h₁, h₂, h₃, h₄, h₅, h₆, h₇⟩
      simp [readHeader?, h₀, h₁, h₂, h₃, h₄, h₅, h₆, h₇]

/-- **A header stands where there is room for it**, and nowhere else. -/
theorem exists_headerAt_iff {file : Bytes} {address : Nat} :
    (∃ h, HeaderAt file address h) ↔ address + headerSize ≤ file.size := by
  constructor
  · rintro ⟨h, hat⟩
    have hlen : h.words.length = 8 := by
      rw [Header.words, List.length_append, Vector.length_toList]
      rfl
    have hfits := hat.fits (List.ne_nil_of_length_pos (by omega))
    rwa [hlen] at hfits
  · intro hroom
    obtain ⟨words, hlen, hwords⟩ := exists_wordsAt address 8 hroom
    match words, hlen with
    | [w₀, w₁, w₂, w₃, w₄, w₅, w₆, w₇], _ => exact ⟨⟨w₀, w₁, w₂, w₃, #v[w₄, w₅, w₆, w₇]⟩, hwords⟩

theorem ofBytes_of_short {file : Bytes} {address : Nat} (h : file.size < address + headerSize) :
    ofBytes file address = .error (.shortHeader address file.size) := by
  have hnone : readHeader? file address = none := by
    rw [Option.eq_none_iff_forall_ne_some]
    intro words hread
    have hfits := (readHeader?_eq_some_iff.1 hread).fits
      (List.ne_nil_of_length_pos (by rw [Vector.length_toList]; decide))
    rw [Vector.length_toList] at hfits
    unfold headerSize at h
    omega
  rw [ofBytes, hnone]

theorem ofBytes_of_headerAt {file : Bytes} {address : Nat} {h : Header}
    (hat : HeaderAt file address h) :
    ofBytes file address =
      if h.start.toNat + h.size.toNat ≤ file.size then
        .ok ⟨h.width, h.height, file.extract h.start.toNat (h.start.toNat + h.size.toNat),
          h.reserved⟩
      else .error (.payloadOutOfRange h.start.toNat h.size.toNat file.size) := by
  match h with
  | ⟨width, height, start, size, ⟨⟨[w₄, w₅, w₆, w₇]⟩, hlen⟩⟩ =>
    have hread : readHeader? file address =
        some #v[width, height, start, size, w₄, w₅, w₆, w₇] :=
      readHeader?_eq_some_iff.2 hat
    rw [ofBytes, hread]
    rfl

/-! ### Writing, then reading -/

/-- The last address at which a record can be written: the word of a header that names the place
of the code must hold the number behind the header. -/
def lastAddress : Nat := 2 ^ 32 - 33

theorem toNat_codePlace {a : UInt32} (ha : a.toNat ≤ lastAddress) :
    (a + UInt32.ofNat headerSize).toNat = a.toNat + headerSize := by
  have hsize : (UInt32.ofNat headerSize).toNat = headerSize := rfl
  rw [UInt32.toNat_add, hsize]
  unfold lastAddress at ha
  unfold headerSize
  omega

theorem toList_toBytes (r : PreviewRecord) (a : UInt32) :
    (r.toBytes a).toList = (r.headerWords a).flatMap bytes32 ++ r.payload.toList := by
  rw [toBytes, Array.toList_append]

theorem length_headerBytes (r : PreviewRecord) (a : UInt32) :
    ((r.headerWords a).flatMap bytes32).length = headerSize :=
  length_flatMap_bytes32 _

theorem size_toBytes (r : PreviewRecord) (a : UInt32) : (r.toBytes a).size = r.byteSize := by
  rw [← Array.length_toList, toList_toBytes, List.length_append, length_headerBytes]
  rfl

theorem words_eq (r : PreviewRecord) (a : UInt32) :
    Header.words ⟨r.width, r.height, a + UInt32.ofNat headerSize, UInt32.ofNat r.payload.size,
      r.reserved⟩ = r.headerWords a := by
  match r with
  | ⟨_, _, _, ⟨⟨[_, _, _, _]⟩, _⟩⟩ => rfl

/-- **What was written at an address is read there**, whatever stands before and behind it. -/
theorem ofBytes_append_toBytes (r : PreviewRecord) {a : UInt32} {front : Bytes} (back : Bytes)
    (hcode : r.payload.size < 2 ^ 32) (ha : a.toNat ≤ lastAddress) (hfront : front.size = a.toNat) :
    ofBytes (front ++ r.toBytes a ++ back) a.toNat = .ok r := by
  have hdrop : (front ++ r.toBytes a ++ back).toList.drop a.toNat =
      (r.headerWords a).flatMap bytes32 ++ (r.payload.toList ++ back.toList) := by
    have hlen : front.toList.length = a.toNat := hfront
    rw [Array.toList_append, Array.toList_append, List.append_assoc, ← hlen, List.drop_left,
      toList_toBytes, List.append_assoc]
  have hat : HeaderAt (front ++ r.toBytes a ++ back) a.toNat
      ⟨r.width, r.height, a + UInt32.ofNat headerSize, UInt32.ofNat r.payload.size,
        r.reserved⟩ := by
    rw [HeaderAt, words_eq]
    exact ⟨_, hdrop.symm⟩
  have hplace := toNat_codePlace ha
  have hcount : (UInt32.ofNat r.payload.size).toNat = r.payload.size :=
    UInt32.toNat_ofNat_of_lt' hcode
  -- behind the header stands the code, for as many bytes as the header says
  have hpayload : (front ++ r.toBytes a ++ back).extract (a.toNat + headerSize)
      (a.toNat + headerSize + r.payload.size) = r.payload := by
    apply Array.toList_inj.1
    rw [Array.toList_extract, List.extract_eq_take_drop, ← List.drop_drop, hdrop,
      Nat.add_sub_cancel_left, ← length_headerBytes r a, List.drop_left, ← Array.length_toList,
      List.take_left]
  have hfits : a.toNat + headerSize + r.payload.size ≤ (front ++ r.toBytes a ++ back).size := by
    rw [Array.size_append, Array.size_append, size_toBytes, byteSize]
    omega
  rw [ofBytes_of_headerAt hat]
  simp only [hplace, hcount, hpayload, if_pos hfits]

/-! ### Reading, then writing -/

/-- **What was read is written as it stood**, if the header named the place right behind it. -/
theorem toBytes_of_ofBytes {file : Bytes} {a : UInt32} {h : Header} {r : PreviewRecord}
    (ha : a.toNat ≤ lastAddress) (hat : HeaderAt file a.toNat h)
    (hplace : h.start.toNat = a.toNat + headerSize) (hr : ofBytes file a.toNat = .ok r) :
    r.toBytes a = file.extract a.toNat (a.toNat + r.byteSize) := by
  rw [ofBytes_of_headerAt hat] at hr
  split at hr
  case isFalse => cases hr
  case isTrue hfits =>
    obtain ⟨rest, hrest⟩ := hat
    -- the code is what follows the header
    have hcount : r.payload.size = h.size.toNat := by
      rw [← Except.ok.inj hr, Array.size_extract]
      omega
    -- so the words that are written are the words that were read
    have hwords : h.words = r.headerWords a := by
      have hplace' : h.start = a + UInt32.ofNat headerSize := by
        rw [← UInt32.toNat_inj, toNat_codePlace ha, hplace]
      rw [← words_eq, hcount, UInt32.ofNat_toNat, ← hplace', ← Except.ok.inj hr]
    have hlen : (h.words.flatMap bytes32).length = headerSize := by
      rw [hwords, length_headerBytes]
    have hpayload : r.payload.toList = rest.take h.size.toNat := by
      rw [← Except.ok.inj hr, Array.toList_extract, List.extract_eq_take_drop,
        Nat.add_sub_cancel_left, hplace, ← List.drop_drop, ← hrest, ← hlen, List.drop_left]
    apply Array.toList_inj.1
    rw [toList_toBytes, ← hwords, hpayload, Array.toList_extract, List.extract_eq_take_drop,
      Nat.add_sub_cancel_left, ← hrest, byteSize, hcount, ← hlen, List.take_length_add_append]

/-! ### Images in records -/

/-- An image that a record can hold: it has pixels, and its size, its pixels and the length of its
code can all be said. -/
structure Recordable (img : Image Rgb) : Prop where
  width_pos : 0 < img.width
  height_pos : 0 < img.height
  width_lt : img.width < 2 ^ 32
  height_lt : img.height < 2 ^ 32
  pixels_lt : bufferSize img.width img.height < memoryLimit
  code_lt : (encode img).size < 2 ^ 32

instance (img : Image Rgb) : Decidable (Recordable img) :=
  decidable_of_iff
    ((0 < img.width ∧ 0 < img.height) ∧ (img.width < 2 ^ 32 ∧ img.height < 2 ^ 32) ∧
      bufferSize img.width img.height < memoryLimit ∧ (encode img).size < 2 ^ 32)
    ⟨fun ⟨⟨hw, hh⟩, ⟨hw', hh'⟩, hp, hc⟩ ↦ ⟨hw, hh, hw', hh', hp, hc⟩,
      fun h ↦ ⟨⟨h.width_pos, h.height_pos⟩, ⟨h.width_lt, h.height_lt⟩, h.pixels_lt, h.code_lt⟩⟩

/-- **An image that is written into a file is found there**, quantised. -/
theorem decode_ofBytes_ofImage {img : Image Rgb} (himg : Recordable img) {a : UInt32}
    (ha : a.toNat ≤ lastAddress) {front : Bytes} (hfront : front.size = a.toNat) (back : Bytes) :
    (ofBytes (front ++ (ofImage img).toBytes a ++ back) a.toNat).bind decode =
      .ok ⟨img.map quantize, false⟩ := by
  have hread := ofBytes_append_toBytes (ofImage img) back himg.code_lt ha hfront
  have hwidth : (UInt32.ofNat img.width).toNat = img.width :=
    UInt32.toNat_ofNat_of_lt' himg.width_lt
  have hheight : (UInt32.ofNat img.height).toNat = img.height :=
    UInt32.toNat_ofNat_of_lt' himg.height_lt
  rw [hread]
  show Raster.decode (encode img) (UInt32.ofNat img.width).toNat (UInt32.ofNat img.height).toNat = _
  rw [hwidth, hheight]
  exact decode_encodePixels img himg.width_pos himg.height_pos himg.pixels_lt

end PreviewRecord

end GerberMask.Raster
