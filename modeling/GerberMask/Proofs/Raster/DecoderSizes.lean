import GerberMask.Proofs.Raster.RecordPlacement

/-!
# The sizes that decoding computes

`decode` counts in natural numbers and compares once whether an image fits into memory. Here the
same decoding is said with memory in it (`decodeBelow`): every size and every offset is checked
against a limit as it is computed, the pixels are bytes of one buffer, and a run is written into a
slice that must lie inside the buffer.

* One run that fits changes the buffer as it changes the pixels (`Shows.fill`), and so does a whole
  code (`agrees_fillBelow`): both decoders stop at the same run with the same error, or the buffer
  shows the pixels at the end.
* If the bytes of an image fit into memory, no size reaches the limit and no slice lies outside, for
  any code: the checks never decide anything (`decodeBelow_eq`).
* If they do not fit, the very first sizes are too large (`decodeBelow_of_tooMany`). A header can
  say such a resolution: nothing compares it with the code before it is multiplied out.
-/

namespace GerberMask.Raster

open LittleEndian

/-! ### Decoding with sizes below a limit -/

/-- Why a decoder whose sizes have a limit stops. -/
inductive Stop where
  /-- A size that is not below the limit. -/
  | size (n : Nat)
  /-- A slice that does not lie inside its buffer. -/
  | slice (first past length : Nat)
  /-- What is wrong with the resolution or with the code. -/
  | raster (e : RasterError)
  deriving DecidableEq, Repr

/-- A size, if it is below the limit. -/
def sizeBelow (limit n : Nat) : Except Stop Nat :=
  if n < limit then .ok n else .error (.size n)

/-- The word at an offset and the offset behind it. -/
def readWordBelow (limit : Nat) (code : Bytes) (offset : Nat) : Except Stop (UInt16 × Nat) := do
  let next ← sizeBelow limit (offset + 2)
  match read16? code offset with
  | none => throw (.raster (.truncated offset))
  | some word => return (word, next)

/-- The run at an offset and the offset behind it. -/
def readRunBelow (limit : Nat) (code : Bytes) (offset : Nat) : Except Stop (Run × Nat) := do
  let (word, next) ← readWordBelow limit code offset
  if word &&& runFlag = 0 then return (⟨wordColor word, 1⟩, next)
  let (length, next) ← readWordBelow limit code next
  return (⟨wordColor word, (length &&& 0xfff).toNat + 1⟩, next)

theorem lt_of_readWordBelow {limit offset next : Nat} {code : Bytes} {word : UInt16}
    (h : readWordBelow limit code offset = .ok (word, next)) : offset < next := by
  simp only [readWordBelow, sizeBelow] at h
  split at h
  · simp only [bind, Except.bind] at h
    split at h
    · cases h
    · cases h
      omega
  · cases h

theorem lt_of_readRunBelow {limit offset next : Nat} {code : Bytes} {r : Run}
    (h : readRunBelow limit code offset = .ok (r, next)) : offset < next := by
  simp only [readRunBelow, bind, Except.bind] at h
  split at h
  · cases h
  · next first hfirst =>
    have hlt := lt_of_readWordBelow hfirst
    split at h
    · cases h
      exact hlt
    · split at h
      · cases h
      · next second hsecond =>
        have hlt' := lt_of_readWordBelow hsecond
        cases h
        omega

/-- The byte of a colour at a place of its pixel. -/
def channel (c : Rgb) : Nat → UInt8
  | 0 => c.r
  | 1 => c.g
  | _ => c.b

/-- The pixel at an index of a buffer of three bytes for each. -/
def pixelAt (buffer : Bytes) (i : Nat) : Rgb :=
  ⟨buffer[i * 3]?.getD 0, buffer[i * 3 + 1]?.getD 0, buffer[i * 3 + 2]?.getD 0⟩

/-- Copies a colour into every three bytes of a slice. -/
def fillSlice (buffer : Bytes) (first past : Nat) (c : Rgb) : Except Stop Bytes :=
  if first ≤ past ∧ past ≤ buffer.size then
    .ok (.ofFn fun i : Fin buffer.size ↦
      if first ≤ i ∧ i < past then channel c ((i - first) % 3) else buffer[i])
  else .error (.slice first past buffer.size)

/-- Reads runs from an offset to the end of a code into a buffer, behind the pixels that were
written before. Returns the buffer and how many pixels it has. -/
def fillBelow (limit : Nat) (code : Bytes) (width height offset written : Nat) (buffer : Bytes) :
    Except Stop (Bytes × Nat) :=
  if offset < code.size then
    match _h : readRunBelow limit code offset with
    | .error e => .error e
    | .ok (r, next) => do
      let filled ← sizeBelow limit (written + r.count)
      if width * height < filled then throw (.raster (.overflow r.count offset width height))
      let first ← sizeBelow limit (written * 3)
      let past ← sizeBelow limit (filled * 3)
      let buffer ← fillSlice buffer first past r.color
      fillBelow limit code width height next filled buffer
  else .ok (buffer, written)
termination_by code.size - offset
decreasing_by
  have := lt_of_readRunBelow _h
  omega

/-- The image whose pixels are the bytes of a buffer, if there are enough of them. -/
def imageOf? (width height : Nat) (buffer : Bytes) : Option (Image Rgb) :=
  if width * height * 3 ≤ buffer.size then
    some (.ofFn width height fun x y ↦ pixelAt buffer (y * width + x))
  else none

/-- Decodes an image of a given size; every size that is computed must be below the limit. -/
def decodeBelow (limit : Nat) (code : Bytes) (width height : Nat) : Except Stop Decoded := do
  if width = 0 ∨ height = 0 then throw (.raster (.invalidResolution width height))
  let total ← sizeBelow limit (width * height)
  let bytes ← sizeBelow limit (total * 3)
  let (buffer, written) ← fillBelow limit code width height 0 0 (.replicate bytes 0)
  match imageOf? width height buffer with
  | none => throw (.raster (.invalidResolution width height))
  | some image => return ⟨image, written < total⟩

/-! ### Sizes below the limit are never noticed -/

theorem sizeBelow_of_lt {limit n : Nat} (h : n < limit) : sizeBelow limit n = .ok n :=
  if_pos h

theorem sizeBelow_of_le {limit n : Nat} (h : limit ≤ n) : sizeBelow limit n = .error (.size n) :=
  if_neg (by omega)

theorem readWordBelow_eq {limit offset : Nat} {code : Bytes} (h : offset + 2 < limit) :
    readWordBelow limit code offset =
      match read16? code offset with
      | none => .error (.raster (.truncated offset))
      | some word => .ok (word, offset + 2) := by
  rw [readWordBelow, sizeBelow_of_lt h]
  rfl

/-- Both readers find the same run: an offset behind a word that was read is at most the size of
the code. -/
theorem readRunBelow_eq {limit offset : Nat} {code : Bytes} (hlt : offset < code.size)
    (hcode : code.size + 2 < limit) :
    readRunBelow limit code offset =
      ((readRun code offset).map fun r ↦ (r.run, offset + r.size)).mapError .raster := by
  rw [readRunBelow, readWordBelow_eq (by omega), readRun]
  cases hword : read16? code offset with
  | none => rfl
  | some word =>
    have hroom : offset + 2 ≤ code.size := by
      by_contra hshort
      rw [read16?_of_short (by omega)] at hword
      cases hword
    simp only [bind, Except.bind, readWordBelow_eq (show offset + 2 + 2 < limit by omega)]
    by_cases hflag : word &&& runFlag = 0
    · simp only [hflag, if_true]
      rfl
    · simp only [hflag, if_false]
      cases read16? code (offset + 2) <;> rfl

theorem count_le_of_readRun {code : Bytes} {offset : Nat} {r : CodedRun}
    (h : readRun code offset = .ok r) : r.run.count ≤ maxRun := by
  rw [maxRun]
  rw [readRun] at h
  split at h
  · cases h
  · split at h
    · cases h
      show 1 ≤ 4096
      omega
    · split at h
      · cases h
      · next length _ =>
        have hfield := toNat_lengthField length
        cases h
        show (length &&& 0xfff).toNat + 1 ≤ 4096
        omega

/-! ### A buffer that shows pixels -/

/-- A buffer has the bytes of an image: those of the given pixels, and black behind them. -/
structure Shows (width height : Nat) (pixels : Array Rgb) (buffer : Bytes) : Prop where
  size_eq : buffer.size = width * height * 3
  fits : pixels.size ≤ width * height
  pixelAt_eq : ∀ i < width * height, pixelAt buffer i = pixels[i]?.getD .black

theorem shows_replicate (width height : Nat) :
    Shows width height #[] (.replicate (width * height * 3) 0) where
  size_eq := Array.size_replicate
  fits := by simp
  pixelAt_eq i hi := by
    have hbytes : i * 3 + 2 < width * height * 3 := by omega
    simp [pixelAt, hbytes, show i * 3 < width * height * 3 by omega,
      show i * 3 + 1 < width * height * 3 by omega, Rgb.black]

/-- A slice of whole pixels inside the buffer is filled: these pixels change and no others. -/
theorem exists_fillSlice {buffer : Bytes} {first count : Nat} (c : Rgb)
    (hslice : (first + count) * 3 ≤ buffer.size) :
    ∃ filled, fillSlice buffer (first * 3) ((first + count) * 3) c = .ok filled ∧
      filled.size = buffer.size ∧
      ∀ i, i * 3 + 2 < buffer.size →
        pixelAt filled i = if first ≤ i ∧ i < first + count then c else pixelAt buffer i := by
  refine ⟨_, if_pos ⟨by omega, hslice⟩, Array.size_ofFn, fun i hi ↦ ?_⟩
  have hbyte : ∀ j < buffer.size,
      (Array.ofFn fun k : Fin buffer.size ↦
        if first * 3 ≤ k ∧ k < (first + count) * 3 then channel c ((k - first * 3) % 3)
        else buffer[k])[j]?.getD 0 =
      if first * 3 ≤ j ∧ j < (first + count) * 3 then channel c ((j - first * 3) % 3)
      else buffer[j]?.getD 0 := by
    intro j hj
    rw [Array.getElem?_ofFn, dif_pos hj, Array.getElem?_eq_getElem hj]
    rfl
  rw [pixelAt, hbyte _ (by omega), hbyte _ (by omega), hbyte _ hi]
  by_cases hin : first ≤ i ∧ i < first + count
  · obtain ⟨k, rfl⟩ := Nat.exists_eq_add_of_le hin.1
    have h₀ : ((first + k) * 3 - first * 3) % 3 = 0 := by omega
    have h₁ : ((first + k) * 3 + 1 - first * 3) % 3 = 1 := by omega
    have h₂ : ((first + k) * 3 + 2 - first * 3) % 3 = 2 := by omega
    rw [if_pos (by omega), if_pos (by omega), if_pos (by omega), if_pos hin, h₀, h₁, h₂]
    rfl
  · rw [if_neg (by omega), if_neg (by omega), if_neg (by omega), if_neg hin]
    rfl

/-- **Writing a run that fits** into its slice shows the pixels with those of the run behind
them. -/
theorem Shows.fill {width height : Nat} {pixels : Array Rgb} {buffer : Bytes}
    (h : Shows width height pixels buffer) (r : Run)
    (hfits : pixels.size + r.count ≤ width * height) :
    ∃ filled,
      fillSlice buffer (pixels.size * 3) ((pixels.size + r.count) * 3) r.color = .ok filled ∧
        Shows width height (pixels ++ .replicate r.count r.color) filled := by
  have hsize := h.size_eq
  obtain ⟨filled, hfill, hsame, hpixel⟩ := exists_fillSlice r.color
    (show (pixels.size + r.count) * 3 ≤ buffer.size by omega)
  refine ⟨filled, hfill, hsame.trans hsize, by simpa using hfits, fun i hi ↦ ?_⟩
  rw [hpixel i (by omega), h.pixelAt_eq i hi, Array.getElem?_append, Array.getElem?_replicate]
  -- a pixel from before, one of the run, or one that is still black
  rcases Nat.lt_or_ge i pixels.size with hold | hnew
  · rw [if_neg (by omega), if_pos hold]
  · rw [if_neg (show ¬ i < pixels.size by omega), Array.getElem?_eq_none hnew]
    rcases Nat.lt_or_ge i (pixels.size + r.count) with hrun | hblack
    · rw [if_pos ⟨hnew, hrun⟩, if_pos (by omega)]
      rfl
    · rw [if_neg (by omega), if_neg (by omega)]

/-- The image of a buffer is that of the pixels it shows. -/
theorem Shows.imageOf?_eq {width height : Nat} {pixels : Array Rgb} {buffer : Bytes}
    (h : Shows width height pixels buffer) :
    imageOf? width height buffer = some (fillUp width height pixels) := by
  rw [imageOf?, if_pos h.size_eq.ge, Option.some_inj]
  refine Image.eq_of_pixels rfl rfl (Array.ext_getElem? fun i ↦ ?_)
  rw [getElem?_fillUp]
  rcases Nat.lt_or_ge i (width * height) with hi | hi
  · have hindex : i / width * width + i % width = i := Nat.div_add_mod' i width
    simp [Image.ofFn, hi, hindex, h.pixelAt_eq i hi]
  · rw [if_neg (by omega), Array.getElem?_eq_none (by rw [Image.size_eq]; exact hi)]

/-! ### The checked decoder and the decoder -/

/-- Both decoders end alike: with the same error, or with a buffer that shows the pixels. -/
inductive Agrees (width height : Nat) :
    Except RasterError (Array Rgb) → Except Stop (Bytes × Nat) → Prop where
  | error (e : RasterError) : Agrees width height (.error e) (.error (.raster e))
  | ok {pixels : Array Rgb} {buffer : Bytes} (shows : Shows width height pixels buffer) :
      Agrees width height (.ok pixels) (.ok (buffer, pixels.size))

theorem fillBelow_error {limit width height offset written : Nat} {code buffer : Bytes} {e : Stop}
    (hlt : offset < code.size) (h : readRunBelow limit code offset = .error e) :
    fillBelow limit code width height offset written buffer = .error e := by
  rw [fillBelow, if_pos hlt]
  split
  · next e' h' => rw [h] at h'; cases h'; rfl
  · next h' => rw [h] at h'; cases h'

/-- A run that does not fit stops the decoder before a byte of it is written. -/
theorem fillBelow_overflow {limit width height offset next written : Nat} {code buffer : Bytes}
    {r : Run} (hlt : offset < code.size) (h : readRunBelow limit code offset = .ok (r, next))
    (hsize : written + r.count < limit) (hover : width * height < written + r.count) :
    fillBelow limit code width height offset written buffer =
      .error (.raster (.overflow r.count offset width height)) := by
  rw [fillBelow, if_pos hlt]
  split
  · next e' h' => rw [h] at h'; cases h'
  · next h' =>
    rw [h] at h'
    cases h'
    simp only [sizeBelow_of_lt hsize, bind, Except.bind, hover, if_true]
    rfl

/-- A run that fits is written, and reading goes on behind it. -/
theorem fillBelow_run {limit width height offset next written : Nat} {code buffer filled : Bytes}
    {r : Run} (hlt : offset < code.size) (h : readRunBelow limit code offset = .ok (r, next))
    (hfits : written + r.count ≤ width * height) (hsizes : width * height * 3 < limit)
    (hfill : fillSlice buffer (written * 3) ((written + r.count) * 3) r.color = .ok filled) :
    fillBelow limit code width height offset written buffer =
      fillBelow limit code width height next (written + r.count) filled := by
  rw [fillBelow, if_pos hlt]
  split
  · next e' h' => rw [h] at h'; cases h'
  · next h' =>
    rw [h] at h'
    cases h'
    have hroom : ¬ width * height < written + r.count := by omega
    simp only [sizeBelow_of_lt (show written + r.count < limit by omega),
      sizeBelow_of_lt (show written * 3 < limit by omega),
      sizeBelow_of_lt (show (written + r.count) * 3 < limit by omega), bind, Except.bind, hroom,
      if_false, hfill]

/-- **No check is noticed while runs are read**, from any offset on and for any code, if the bytes
of the image fit into memory. The induction is on the bytes of the code that are left. -/
theorem agrees_fillBelow {limit width height : Nat} {code : Bytes}
    (hmem : bufferSize width height < memoryLimit) (hlimit : memoryLimit ≤ limit)
    (hcode : code.size + 2 < limit) (offset : Nat) {pixels : Array Rgb} {buffer : Bytes}
    (h : Shows width height pixels buffer) :
    Agrees width height (decodeFrom code width height offset pixels)
      (fillBelow limit code width height offset pixels.size buffer) := by
  have hsizes : width * height * 3 < limit := lt_of_lt_of_le hmem hlimit
  have hcounts : width * height + maxRun < limit := by
    rw [bufferSize, memoryLimit] at hmem
    rw [memoryLimit] at hlimit
    rw [maxRun]
    omega
  induction hopen : code.size - offset using Nat.strongRecOn generalizing offset pixels buffer with
  | ind n ih =>
    by_cases hlt : offset < code.size
    · have hread := readRunBelow_eq hlt hcode
      cases hrun : readRun code offset with
      | error e =>
        rw [hrun] at hread
        rw [decodeFrom_error hlt hrun, fillBelow_error hlt hread]
        exact .error e
      | ok run =>
        rw [hrun] at hread
        have hfits := h.fits
        have hcount := count_le_of_readRun hrun
        have hstep := two_le_size_of_readRun hrun
        rw [decodeFrom_run hlt hrun]
        by_cases hover : width * height < pixels.size + run.run.count
        · rw [if_pos hover, fillBelow_overflow hlt hread (by omega) hover]
          exact .error _
        · obtain ⟨filled, hfill, hshows⟩ := h.fill run.run (by omega)
          have hrest := ih (code.size - (offset + run.size)) (by omega) _ hshows rfl
          rw [Array.size_append, Array.size_replicate] at hrest
          rw [if_neg hover, fillBelow_run hlt hread (by omega) hsizes hfill]
          exact hrest
    · rw [decodeFrom, fillBelow, if_neg hlt, if_neg hlt]
      exact .ok h

/-- **No check is noticed at all**, if the bytes of the image fit into memory. -/
theorem decodeBelow_eq {limit width height : Nat} {code : Bytes}
    (hmem : bufferSize width height < memoryLimit) (hlimit : memoryLimit ≤ limit)
    (hcode : code.size + 2 < limit) :
    decodeBelow limit code width height = (decode code width height).mapError .raster := by
  by_cases hempty : width = 0 ∨ height = 0
  · rw [decode_of_isEmpty code hempty, decodeBelow]
    simp only [hempty, if_true]
    rfl
  have hsizes : width * height * 3 < limit := lt_of_lt_of_le hmem hlimit
  have hagrees := agrees_fillBelow hmem hlimit hcode 0 (shows_replicate width height)
  rw [decode_eq_map code (by omega) (by omega) hmem, decodeBelow]
  simp only [hempty, if_false, sizeBelow_of_lt (show width * height < limit by omega),
    sizeBelow_of_lt hsizes, bind, Except.bind]
  generalize decodeFrom code width height 0 #[] = read at hagrees
  rw [Array.size_empty] at hagrees
  generalize fillBelow limit code width height 0 0 _ = filled at hagrees
  cases hagrees with
  | error e => rfl
  | ok hshows =>
    simp only [hshows.imageOf?_eq]
    rfl

theorem not_empty_of_tooMany {width height : Nat} (hmem : memoryLimit ≤ bufferSize width height) :
    ¬ (width = 0 ∨ height = 0) := by
  rintro (rfl | rfl) <;> simp [bufferSize, memoryLimit] at hmem

/-- Sizes that are too large are found before a byte of the code is read. -/
theorem decodeBelow_of_tooMany {width height : Nat} (code : Bytes)
    (hmem : memoryLimit ≤ bufferSize width height) :
    decodeBelow memoryLimit code width height =
      .error (.size (if memoryLimit ≤ width * height then width * height
        else bufferSize width height)) := by
  have hsize := not_empty_of_tooMany hmem
  rw [decodeBelow]
  simp only [hsize, if_false]
  by_cases htotal : memoryLimit ≤ width * height
  · rw [sizeBelow_of_le htotal, if_pos htotal]
    rfl
  · rw [sizeBelow_of_lt (Nat.lt_of_not_le htotal), if_neg htotal]
    show (sizeBelow memoryLimit (bufferSize width height) >>= _) = _
    rw [sizeBelow_of_le hmem]
    rfl

theorem decode_of_tooMany {width height : Nat} (code : Bytes)
    (hmem : memoryLimit ≤ bufferSize width height) :
    decode code width height = .error (.tooManyPixels width height) := by
  have hsize := not_empty_of_tooMany hmem
  simp only [decode, hsize, hmem, if_true, if_false]
  rfl

/-- An image that fits into memory is decoded, or its resolution or its code is refused. -/
theorem decode_ne_tooManyPixels {width height : Nat} (code : Bytes)
    (hmem : bufferSize width height < memoryLimit) (w h : Nat) :
    decode code width height ≠ .error (.tooManyPixels w h) := by
  by_cases hempty : width = 0 ∨ height = 0
  · simp [decode_of_isEmpty code hempty]
  obtain ⟨front, rest, rs, hcode, hrs, hfits, hend⟩ :=
    exists_runs_or_offends width height code.toList 0 (width * height)
  rw [Nat.zero_add] at hend
  rcases hend with rfl | ⟨e, he⟩
  · rw [List.append_nil] at hcode
    rw [decode_of_codesRuns (by omega) (by omega) hmem (hcode ▸ hrs) hfits]
    simp
  · rw [decode_of_offends (by omega) (by omega) hmem hcode hrs hfits he]
    cases he <;> simp

/-- The code of a record that was read from a file is shorter than a word of four bytes can
say. -/
theorem PreviewRecord.size_payload_lt {file : Bytes} {address : Nat} {r : PreviewRecord}
    (h : ofBytes file address = .ok r) : r.payload.size < 2 ^ 32 := by
  rw [ofBytes] at h
  split at h
  · cases h
  · next words _ =>
    have hsize := words[3].toNat_lt
    dsimp only at h
    split at h
    · cases h
      rw [Array.size_extract]
      omega
    · cases h

/-- **Decoding computes no size that is too large for memory, exactly if the bytes of the image fit
into memory.** -/
theorem decoder_sizes (code : Bytes) (width height : Nat) :
    (bufferSize width height < memoryLimit →
      (∀ limit, memoryLimit ≤ limit → code.size + 2 < limit →
        decodeBelow limit code width height = (decode code width height).mapError .raster) ∧
      ∀ w h, decode code width height ≠ .error (.tooManyPixels w h)) ∧
    (memoryLimit ≤ bufferSize width height →
      decodeBelow memoryLimit code width height =
        .error (.size (if memoryLimit ≤ width * height then width * height
          else bufferSize width height)) ∧
      decode code width height = .error (.tooManyPixels width height)) ∧
    ∀ (file : Bytes) (address : Nat) (r : PreviewRecord),
      PreviewRecord.ofBytes file address = .ok r →
      bufferSize r.width.toNat r.height.toNat < memoryLimit →
      decodeBelow memoryLimit r.payload r.width.toNat r.height.toNat =
        r.decode.mapError .raster := by
  refine ⟨fun hmem ↦ ⟨fun limit hlimit hcode ↦ ?_, ?_⟩, fun hmem ↦ ?_,
    fun file address r hr hmem ↦ ?_⟩
  · exact decodeBelow_eq hmem hlimit hcode
  · exact decode_ne_tooManyPixels code hmem
  · exact ⟨decodeBelow_of_tooMany code hmem, decode_of_tooMany code hmem⟩
  · have hsize := PreviewRecord.size_payload_lt hr
    exact decodeBelow_eq hmem le_rfl (by rw [memoryLimit]; omega)

/-- A record for two pixels in a file of its own, whose code is one run. -/
def pairRecord : PreviewRecord := .ofCode 2 1 #[0x3f, 0x00, 0x01, 0x00]

/-- A record whose header says the largest resolution there is, with one byte of code. -/
def largestRecord : PreviewRecord := .ofCode 0xffffffff 0xffffffff #[0x00]

/-- Two pixels fit into memory, the largest resolution does not. -/
theorem decoder_sizes_two_pixels :
    PreviewRecord.ofBytes (pairRecord.toBytes 0) 0 = .ok pairRecord ∧
      bufferSize 2 1 < memoryLimit ∧ memoryLimit ≤ memoryLimit ∧
      pairRecord.payload.size + 2 < memoryLimit ∧
      decodeBelow memoryLimit pairRecord.payload 2 1 =
        (decode pairRecord.payload 2 1).mapError .raster ∧
      (∀ w h, decode pairRecord.payload 2 1 ≠ .error (.tooManyPixels w h)) ∧
      decodeBelow memoryLimit pairRecord.payload pairRecord.width.toNat pairRecord.height.toNat =
        pairRecord.decode.mapError .raster ∧
      memoryLimit ≤ bufferSize 0xffffffff 0xffffffff ∧
      decode largestRecord.payload 0xffffffff 0xffffffff =
        .error (.tooManyPixels 0xffffffff 0xffffffff) := by
  have hread : PreviewRecord.ofBytes (pairRecord.toBytes 0) 0 = .ok pairRecord := by
    decide +kernel
  have hmem : bufferSize 2 1 < memoryLimit := by decide
  have hcode : pairRecord.payload.size + 2 < memoryLimit := by decide
  have hlarge : memoryLimit ≤ bufferSize 0xffffffff 0xffffffff := by decide
  obtain ⟨hpair, -, hrecords⟩ := decoder_sizes pairRecord.payload 2 1
  obtain ⟨hsame, hfits⟩ := hpair hmem
  exact ⟨hread, hmem, le_rfl, hcode, hsame _ le_rfl hcode, hfits,
    hrecords _ 0 pairRecord hread hmem, hlarge,
    ((decoder_sizes largestRecord.payload _ _).2.1 hlarge).2⟩

/-- **A record can be read from a file and its sizes not be computed**: the number of its pixels is
no size of a block of memory, and that of their bytes is no word of eight bytes. -/
theorem largest_record_exceeds_memory :
    PreviewRecord.ofBytes (largestRecord.toBytes 0) 0 = .ok largestRecord ∧
      2 ^ 63 ≤ 0xffffffff * 0xffffffff ∧ 2 ^ 64 ≤ bufferSize 0xffffffff 0xffffffff ∧
      decodeBelow memoryLimit largestRecord.payload 0xffffffff 0xffffffff =
        .error (.size (0xffffffff * 0xffffffff)) ∧
      largestRecord.decode = .error (.tooManyPixels 0xffffffff 0xffffffff) := by
  have hmem : memoryLimit ≤ bufferSize 0xffffffff 0xffffffff := by decide
  exact ⟨by decide +kernel, by decide, by decide, decodeBelow_of_tooMany _ hmem,
    decode_of_tooMany _ hmem⟩

end GerberMask.Raster
