import GerberMask.Proofs.Raster.CodeWord

/-!
# The grammar of the run-length code

What a code *is*, said without a decoder: a run takes two or four bytes (`CodesRun`), a code is a
whole number of runs (`CodesRuns`), and a row of bytes that is no code for an image of a given size
has a first run that is cut short or too long (`Offends`). Non-canonical runs belong to the
grammar: a flagged run may have one pixel, and four bits of a length word mean nothing.

## Where the decoder comes in

* `decodeFrom_append` steps the decoder over runs that fit, whatever follows them; it is the only
  induction in which the decoder occurs.
* `exists_runs_or_offends` splits every row of bytes into runs that fit and an end that is empty or
  offends. It does not mention the decoder.

Together they decide every input, so `decode_iff_grammar` needs no uniqueness of parses: the split
gives a parse, and the decoder can return nothing but what that parse says.
-/

namespace GerberMask.Raster

open LittleEndian

/-! ### The grammar -/

/-- The bytes of one run: a colour word, and after a colour word with its flag set a length word
whose low twelve bits are the count less one. -/
inductive CodesRun : List UInt8 → Run → Prop where
  | single {lo hi : UInt8} (clear : (wordValue lo hi).testBit 5 = false) :
      CodesRun [lo, hi] ⟨fieldColor (wordValue lo hi), 1⟩
  | counted {lo hi lo' hi' : UInt8} (flagged : (wordValue lo hi).testBit 5 = true) :
      CodesRun [lo, hi, lo', hi'] ⟨fieldColor (wordValue lo hi), wordValue lo' hi' % 4096 + 1⟩

/-- A whole number of runs, one after the other. -/
inductive CodesRuns : List UInt8 → List Run → Prop where
  | nil : CodesRuns [] []
  | cons {bytes rest : List UInt8} {r : Run} {rs : List Run} (head : CodesRun bytes r)
      (tail : CodesRuns rest rs) : CodesRuns (bytes ++ rest) (r :: rs)

/-- The number of pixels of a row of runs. -/
def Run.total (rs : List Run) : Nat :=
  (rs.map Run.count).sum

/-- What is wrong with the run at the front of the remaining bytes, when these begin at an offset
and some pixels of the image are still open. A run whose length word is cut short is truncated, not
too long: its count is not known. -/
inductive Offends (width height offset room : Nat) : List UInt8 → RasterError → Prop where
  | colorCut (b : UInt8) : Offends width height offset room [b] (.truncated offset)
  | lengthCut {lo hi : UInt8} {tail : List UInt8}
      (flagged : (wordValue lo hi).testBit 5 = true) (short : tail.length < 2) :
      Offends width height offset room (lo :: hi :: tail) (.truncated (offset + 2))
  | tooLong {bytes rest : List UInt8} {r : Run} (run : CodesRun bytes r)
      (exceeds : room < r.count) :
      Offends width height offset room (bytes ++ rest) (.overflow r.count offset width height)

/-- What a row of runs shows in an image of a given size: the pixels of the runs row by row, and
black where they have ended. -/
def replay (width height : Nat) (rs : List Run) : Decoded where
  image := .ofFn width height fun x y ↦ ((Run.expand rs)[y * width + x]?).getD .black
  short := Run.total rs < width * height

/-! ### Lengths -/

theorem CodesRun.length_pos {bytes : List UInt8} {r : Run} (h : CodesRun bytes r) :
    0 < bytes.length := by
  cases h <;> simp

theorem Offends.ne_nil {width height offset room : Nat} {bytes : List UInt8} {e : RasterError}
    (h : Offends width height offset room bytes e) : bytes ≠ [] := by
  cases h with
  | colorCut b => simp
  | lengthCut flagged short => simp
  | tooLong run exceeds =>
    intro hnil
    have := run.length_pos
    simp [(List.append_eq_nil_iff.1 hnil).1] at this

@[simp] theorem Run.total_nil : Run.total [] = 0 := rfl

@[simp] theorem Run.total_cons (r : Run) (rs : List Run) :
    Run.total (r :: rs) = r.count + Run.total rs := by
  simp [total]

@[simp] theorem Run.expand_nil : Run.expand [] = [] := rfl

@[simp] theorem Run.expand_cons (r : Run) (rs : List Run) :
    Run.expand (r :: rs) = List.replicate r.count r.color ++ Run.expand rs := rfl

@[simp] theorem Run.length_expand (rs : List Run) : (Run.expand rs).length = Run.total rs := by
  induction rs with
  | nil => rfl
  | cons r rs ih => simp [ih]

/-! ### Every row of bytes is whole runs, or has a first run that offends -/

/-- Bytes that are left hold a run at their front unless a word of it is cut short. -/
theorem exists_run_or_cut (width height offset room : Nat) {bytes : List UInt8}
    (hne : bytes ≠ []) :
    (∃ front rest r, bytes = front ++ rest ∧ CodesRun front r) ∨
      ∃ e, Offends width height offset room bytes e := by
  match bytes, hne with
  | [b], _ => exact .inr ⟨_, .colorCut b⟩
  | lo :: hi :: tail, _ =>
    cases hflag : (wordValue lo hi).testBit 5 with
    | false => exact .inl ⟨[lo, hi], tail, _, rfl, .single hflag⟩
    | true =>
      match tail with
      | [] => exact .inr ⟨_, .lengthCut hflag (by simp)⟩
      | [b] => exact .inr ⟨_, .lengthCut hflag (by simp)⟩
      | lo' :: hi' :: rest => exact .inl ⟨[lo, hi, lo', hi'], rest, _, rfl, .counted hflag⟩

/-- **Every row of bytes splits** into runs that fit and an end that is empty or offends. The
induction is on the number of bytes, since a run takes two or four of them. -/
theorem exists_runs_or_offends (width height : Nat) (bytes : List UInt8) (offset room : Nat) :
    ∃ front rest rs, bytes = front ++ rest ∧ CodesRuns front rs ∧ Run.total rs ≤ room ∧
      (rest = [] ∨
        ∃ e, Offends width height (offset + front.length) (room - Run.total rs) rest e) := by
  induction hlen : bytes.length using Nat.strongRecOn generalizing bytes offset room with
  | ind n ih =>
    rcases eq_or_ne bytes [] with rfl | hne
    · exact ⟨[], [], [], rfl, .nil, by simp, .inl rfl⟩
    rcases exists_run_or_cut width height offset room hne with ⟨run, rest, r, rfl, hrun⟩ | ⟨e, he⟩
    · rcases Nat.lt_or_ge room r.count with hover | hfits
      · exact ⟨[], run ++ rest, [], rfl, .nil, by simp, .inr ⟨_, .tooLong hrun hover⟩⟩
      · have hpos := hrun.length_pos
        obtain ⟨front, last, rs, rfl, hrs, htotal, hend⟩ :=
          ih rest.length (by rw [← hlen, List.length_append]; omega) rest
            (offset + run.length) (room - r.count) rfl
        refine ⟨run ++ front, last, r :: rs, (List.append_assoc ..).symm, .cons hrun hrs,
          by rw [Run.total_cons]; omega, ?_⟩
        rwa [Run.total_cons, List.length_append, ← Nat.add_assoc, ← Nat.sub_sub]
    · exact ⟨[], bytes, [], rfl, .nil, by simp, .inr ⟨e, he⟩⟩

/-! ### Words at an offset -/

theorem read16?_of_drop {code : Bytes} {offset : Nat} {lo hi : UInt8} {rest : List UInt8}
    (h : code.toList.drop offset = lo :: hi :: rest) :
    read16? code offset = some (word16 lo hi) := by
  have hlo : code[offset]? = some lo := by
    rw [← Array.getElem?_toList, ← Nat.add_zero offset, ← List.getElem?_drop, h]
    rfl
  have hhi : code[offset + 1]? = some hi := by
    rw [← Array.getElem?_toList, ← List.getElem?_drop, h]
    rfl
  simp [read16?, hlo, hhi]

theorem read16?_of_short {code : Bytes} {offset : Nat} (h : code.size < offset + 2) :
    read16? code offset = none := by
  have hhi : code[offset + 1]? = none := Array.getElem?_eq_none (by omega)
  cases hlo : code[offset]? <;> simp [read16?, hlo, hhi]

/-- The bytes from an offset on, counted. -/
theorem size_of_drop {code : Bytes} {offset : Nat} {bytes : List UInt8} (hne : bytes ≠ [])
    (h : code.toList.drop offset = bytes) : code.size = offset + bytes.length := by
  have hlen := congrArg List.length h
  have hpos := List.length_pos_iff.2 hne
  rw [List.length_drop, Array.length_toList] at hlen
  omega

/-! ### The decoder steps over runs -/

theorem readRun_of_codesRun {code : Bytes} {offset : Nat} {bytes rest : List UInt8} {r : Run}
    (hrun : CodesRun bytes r) (h : code.toList.drop offset = bytes ++ rest) :
    readRun code offset = .ok ⟨r, bytes.length⟩ := by
  cases hrun with
  | @single lo hi clear =>
    have hclear : word16 lo hi &&& runFlag = 0 := by rwa [runFlag_iff, toNat_word16]
    rw [readRun, read16?_of_drop h]
    simp only [hclear, if_true, wordColor_eq, toNat_word16]
    rfl
  | @counted lo hi lo' hi' flagged =>
    have hflag : ¬ word16 lo hi &&& runFlag = 0 := by simp [runFlag_iff, toNat_word16, flagged]
    have hnext : code.toList.drop (offset + 2) = lo' :: hi' :: rest := by
      rw [← List.drop_drop, h]
      rfl
    rw [readRun, read16?_of_drop h]
    simp only [hflag, if_false, read16?_of_drop hnext, wordColor_eq, toNat_lengthField,
      toNat_word16]
    rfl

theorem decodeFrom_end {code : Bytes} {width height offset : Nat} {pixels : Array Rgb}
    (h : code.toList.drop offset = []) :
    decodeFrom code width height offset pixels = .ok pixels := by
  rw [List.drop_eq_nil_iff, Array.length_toList] at h
  rw [decodeFrom, if_neg (by omega)]

theorem decodeFrom_error {code : Bytes} {width height offset : Nat} {pixels : Array Rgb}
    {e : RasterError} (hlt : offset < code.size) (h : readRun code offset = .error e) :
    decodeFrom code width height offset pixels = .error e := by
  rw [decodeFrom, if_pos hlt]
  split
  · next e' h' => rw [h] at h'; cases h'; rfl
  · next r h' => rw [h] at h'; cases h'

theorem decodeFrom_run {code : Bytes} {width height offset : Nat} {pixels : Array Rgb}
    {r : Run} {size : Nat} (hlt : offset < code.size) (h : readRun code offset = .ok ⟨r, size⟩) :
    decodeFrom code width height offset pixels =
      if width * height < pixels.size + r.count then
        .error (.overflow r.count offset width height)
      else
        decodeFrom code width height (offset + size)
          (pixels ++ Array.replicate r.count r.color) := by
  rw [decodeFrom, if_pos hlt]
  split
  · next e' h' => rw [h] at h'; cases h'
  · next r' h' => rw [h] at h'; cases h'; rfl

/-- **Runs that fit are stepped over**, whatever follows them, and their pixels are kept. -/
theorem decodeFrom_append {code : Bytes} {width height : Nat} {front : List UInt8}
    {rs : List Run} (hrs : CodesRuns front rs) {rest : List UInt8} {offset : Nat}
    {pixels : Array Rgb} (h : code.toList.drop offset = front ++ rest)
    (hfits : pixels.size + Run.total rs ≤ width * height) :
    decodeFrom code width height offset pixels =
      decodeFrom code width height (offset + front.length)
        (pixels ++ (Run.expand rs).toArray) := by
  induction hrs generalizing offset pixels with
  | nil => simp
  | @cons bytes tail r rs hrun _ ih =>
    rw [List.append_assoc] at h
    rw [Run.total_cons] at hfits
    have hlt : offset < code.size := by
      have hpos := hrun.length_pos
      have hsize := size_of_drop (by simp [List.ne_nil_of_length_pos hpos]) h
      rw [List.length_append] at hsize
      omega
    have hnext : code.toList.drop (offset + bytes.length) = tail ++ rest := by
      rw [← List.drop_drop, h, List.drop_left]
    have hpixels : Array.replicate r.count r.color ++ (Run.expand rs).toArray =
        (Run.expand (r :: rs)).toArray := by
      rw [← List.toArray_replicate, Run.expand_cons]
      exact List.append_toArray ..
    rw [decodeFrom_run hlt (readRun_of_codesRun hrun h), if_neg (by omega),
      ih hnext (by rw [Array.size_append, Array.size_replicate]; omega), List.length_append,
      Nat.add_assoc, Array.append_assoc, hpixels]

/-- What offends is reported. -/
theorem decodeFrom_offends {code : Bytes} {width height offset : Nat} {pixels : Array Rgb}
    {bytes : List UInt8} {e : RasterError} (hroom : pixels.size ≤ width * height)
    (he : Offends width height offset (width * height - pixels.size) bytes e)
    (h : code.toList.drop offset = bytes) :
    decodeFrom code width height offset pixels = .error e := by
  have hsize := size_of_drop he.ne_nil h
  have hlt : offset < code.size := by
    have := List.length_pos_iff.2 he.ne_nil
    omega
  cases he with
  | colorCut b =>
    refine decodeFrom_error hlt ?_
    rw [readRun, read16?_of_short (by simp at hsize; omega)]
  | @lengthCut lo hi tail flagged short =>
    have hflag : ¬ word16 lo hi &&& runFlag = 0 := by simp [runFlag_iff, toNat_word16, flagged]
    refine decodeFrom_error hlt ?_
    rw [readRun, read16?_of_drop h]
    simp only [hflag, if_false]
    rw [read16?_of_short (by simp at hsize; omega)]
  | tooLong run exceeds =>
    rw [decodeFrom_run hlt (readRun_of_codesRun run h), if_pos (by omega)]

/-! ### The whole code -/

theorem decode_of_isEmpty {width height : Nat} (code : Bytes) (h : width = 0 ∨ height = 0) :
    decode code width height = .error (.invalidResolution width height) := by
  simp only [decode, h, if_true]
  rfl

/-- An image that fits into memory is decoded run by run from the first byte. -/
theorem decode_eq_map {width height : Nat} (code : Bytes) (hw : 0 < width) (hh : 0 < height)
    (hmem : bufferSize width height < memoryLimit) :
    decode code width height = (decodeFrom code width height 0 #[]).map fun pixels ↦
      ⟨fillUp width height pixels, pixels.size < width * height⟩ := by
  have hsize : ¬ (width = 0 ∨ height = 0) := by omega
  have hmem' : ¬ memoryLimit ≤ bufferSize width height := by omega
  simp only [decode, hsize, hmem', if_false]
  cases decodeFrom code width height 0 #[] <;> rfl

/-- Two images are equal if their sizes and their pixels are. -/
theorem Image.eq_of_pixels {γ : Type} {a b : Image γ} (hw : a.width = b.width)
    (hh : a.height = b.height) (hp : a.pixels = b.pixels) : a = b := by
  cases a
  cases b
  simp_all

theorem getElem?_replay (width height : Nat) (rs : List Run) (i : Nat) :
    (replay width height rs).image.pixels[i]? =
      if i < width * height then some ((Run.expand rs)[i]?.getD .black) else none := by
  rcases Nat.lt_or_ge i (width * height) with hi | hi
  · have hindex : i / width * width + i % width = i := Nat.div_add_mod' i width
    simp [replay, Image.ofFn, hi, hindex]
  · rw [if_neg (by omega), Array.getElem?_eq_none (by rw [Image.size_eq]; exact hi)]

theorem getElem?_fillUp (width height : Nat) (pixels : Array Rgb) (i : Nat) :
    (fillUp width height pixels).pixels[i]? =
      if i < width * height then some (pixels[i]?.getD .black) else none := by
  rcases Nat.lt_or_ge i (width * height) with hi | hi
  · simp only [fillUp, hi, Array.take_eq_extract, Array.getElem?_extract, Array.getElem?_append,
      Array.size_append, Array.size_replicate, Array.getElem?_replicate, Nat.sub_zero,
      Nat.zero_add, if_true]
    -- a pixel that is there, or one of the black ones behind them
    rcases Nat.lt_or_ge i pixels.size with hold | hblack
    · rw [if_pos (by omega), if_pos hold, Array.getElem?_eq_getElem hold]
      rfl
    · rw [if_pos (by omega), if_neg (by omega), if_pos (by omega),
        Array.getElem?_eq_none hblack]
      rfl
  · rw [if_neg (by omega), Array.getElem?_eq_none (by rw [Image.size_eq]; exact hi)]

/-- The pixels of runs, filled up with black, are the replay of the runs. -/
theorem fillUp_expand {width height : Nat} (rs : List Run) :
    fillUp width height (Run.expand rs).toArray = (replay width height rs).image := by
  refine Image.eq_of_pixels rfl rfl (Array.ext_getElem? fun i ↦ ?_)
  rw [getElem?_replay, getElem?_fillUp, List.getElem?_toArray]

/-- A whole number of runs that fit decodes to their replay. -/
theorem decode_of_codesRuns {code : Bytes} {width height : Nat} {rs : List Run}
    (hw : 0 < width) (hh : 0 < height) (hmem : bufferSize width height < memoryLimit)
    (hrs : CodesRuns code.toList rs) (hfits : Run.total rs ≤ width * height) :
    decode code width height = .ok (replay width height rs) := by
  have hdrop : code.toList.drop 0 = code.toList ++ [] := (List.append_nil _).symm
  have hread : decodeFrom code width height 0 #[] = .ok (Run.expand rs).toArray := by
    rw [decodeFrom_append hrs hdrop (by simpa using hfits), decodeFrom_end (by simp),
      Array.empty_append]
  rw [decode_eq_map code hw hh hmem, hread]
  simp only [Except.map, fillUp_expand rs, List.size_toArray, Run.length_expand]
  rfl

/-- After runs that fit, the first run that offends decides the error. -/
theorem decode_of_offends {code : Bytes} {width height : Nat} {front rest : List UInt8}
    {rs : List Run} {e : RasterError} (hw : 0 < width) (hh : 0 < height)
    (hmem : bufferSize width height < memoryLimit) (hcode : code.toList = front ++ rest)
    (hrs : CodesRuns front rs) (hfits : Run.total rs ≤ width * height)
    (he : Offends width height front.length (width * height - Run.total rs) rest e) :
    decode code width height = .error e := by
  have hdrop : code.toList.drop 0 = front ++ rest := hcode
  have hread : decodeFrom code width height 0 #[] = .error e := by
    rw [decodeFrom_append hrs hdrop (by simpa using hfits), Nat.zero_add, Array.empty_append]
    refine decodeFrom_offends (by simpa using hfits) (by simpa using he) ?_
    rw [hcode, List.drop_left]
  rw [decode_eq_map code hw hh hmem, hread]
  rfl

/-- **Decoding accepts exactly the grammar, and names the first run that breaks it.** -/
theorem decode_iff_grammar (code : Bytes) (width height : Nat) :
    (width = 0 ∨ height = 0 →
      decode code width height = .error (.invalidResolution width height)) ∧
    (0 < width → 0 < height → bufferSize width height < memoryLimit →
      (∀ d, decode code width height = .ok d ↔
        ∃ rs, CodesRuns code.toList rs ∧ Run.total rs ≤ width * height ∧
          d = replay width height rs) ∧
      ∀ e, decode code width height = .error e ↔
        ∃ front rest rs, code.toList = front ++ rest ∧ CodesRuns front rs ∧
          Run.total rs ≤ width * height ∧
          Offends width height front.length (width * height - Run.total rs) rest e) := by
  refine ⟨decode_of_isEmpty code, fun hw hh hmem ↦ ?_⟩
  -- the split gives one parse; the decoder returns what that parse says and so nothing else
  obtain ⟨front, rest, rs, hcode, hrs, hfits, hend⟩ :=
    exists_runs_or_offends width height code.toList 0 (width * height)
  rw [Nat.zero_add] at hend
  refine ⟨fun d ↦ ⟨fun hd ↦ ?_, ?_⟩, fun e ↦ ⟨fun he ↦ ?_, ?_⟩⟩
  · rcases hend with rfl | ⟨e, he⟩
    · rw [List.append_nil] at hcode
      rw [← hcode] at hrs
      rw [decode_of_codesRuns hw hh hmem hrs hfits] at hd
      exact ⟨rs, hrs, hfits, (Except.ok.inj hd).symm⟩
    · rw [decode_of_offends hw hh hmem hcode hrs hfits he] at hd
      cases hd
  · rintro ⟨rs', hrs', hfits', rfl⟩
    exact decode_of_codesRuns hw hh hmem hrs' hfits'
  · rcases hend with rfl | ⟨e', he'⟩
    · rw [List.append_nil] at hcode
      rw [← hcode] at hrs
      rw [decode_of_codesRuns hw hh hmem hrs hfits] at he
      cases he
    · rw [decode_of_offends hw hh hmem hcode hrs hfits he'] at he
      cases he
      exact ⟨front, rest, rs, hcode, hrs, hfits, he'⟩
  · rintro ⟨front', rest', rs', hcode', hrs', hfits', he'⟩
    exact decode_of_offends hw hh hmem hcode' hrs' hfits' he'

/-- A flagged run of one pixel with a length word that is not canonical, and half a word after
it. -/
theorem decode_half_word :
    (0 < 3 ∧ 0 < 1 ∧ bufferSize 3 1 < memoryLimit) ∧
      decode #[0x20, 0x00, 0x00, 0xf0, 0x1f] 3 1 = .error (.truncated 4) ∧
      (0 = 0 ∨ 1 = 0) ∧
      decode #[0x20, 0x00, 0x00, 0xf0, 0x1f] 0 1 = .error (.invalidResolution 0 1) := by
  have hmem : bufferSize 3 1 < memoryLimit := by decide
  refine ⟨⟨by decide, by decide, hmem⟩, ?_, by decide,
    (decode_iff_grammar #[0x20, 0x00, 0x00, 0xf0, 0x1f] 0 1).1 (by decide)⟩
  refine (((decode_iff_grammar _ 3 1).2 (by decide) (by decide) hmem).2 _).2 ?_
  exact ⟨[0x20, 0x00, 0x00, 0xf0], [0x1f], [⟨.black, 1⟩], rfl, .cons (.counted rfl) .nil,
    by decide, .colorCut _⟩

end GerberMask.Raster
