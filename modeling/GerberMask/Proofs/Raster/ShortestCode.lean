import Mathlib.Algebra.BigOperators.Group.List.Basic
import Mathlib.Order.Bounds.Basic
import GerberMask.Proofs.Raster.RoundTrip

/-!
# The shortest code of an image

A code is counted in words of two bytes: a run of one pixel takes one word, a longer one two, and a
flagged run of one pixel takes a word more than it needs. Among all rows of runs with the same
pixels, the runs that the encoder collects take the fewest words (`wordCount_ofPixels_le`).

That is an exchange of one run at a time. The pixels of a row of runs begin with a stretch of one
colour that goes at least as far as the first run; collecting cuts the stretch into runs as long as
they can be, so that its words depend on its length alone (`wordCount_ofPixels_replicate`), and
taking a first run of any length off a stretch saves no word (`stretchWords_add_le`).

What a code decodes to has quantised colours, which a colour word holds exactly
(`quantize_fieldColor`). So encoding it again loses nothing, and gives the shortest code.
-/

namespace GerberMask.Raster

namespace Run

/-! ### Counting words -/

/-- The words that a run of so many pixels takes at least. -/
def words (count : Nat) : Nat :=
  if 1 < count then 2 else 1

/-- The words that a row of runs takes at least. -/
def wordCount (rs : List Run) : Nat :=
  (rs.map fun r ↦ words r.count).sum

/-- The words of a stretch of pixels of one colour, cut into runs as long as they can be. -/
def stretchWords (length : Nat) : Nat :=
  2 * (length / maxRun) + min (length % maxRun) 2

@[simp] theorem wordCount_nil : wordCount [] = 0 := rfl

@[simp] theorem wordCount_cons (r : Run) (rs : List Run) :
    wordCount (r :: rs) = words r.count + wordCount rs :=
  List.sum_cons

theorem words_eq_stretchWords {count : Nat} (hpos : 1 ≤ count) (hmax : count ≤ maxRun) :
    words count = stretchWords count := by
  unfold words stretchWords maxRun at *
  split <;> omega

theorem stretchWords_maxRun_add (length : Nat) :
    stretchWords (maxRun + length) = 2 + stretchWords length := by
  unfold stretchWords maxRun
  omega

/-- **A first run taken off a stretch saves no word.** -/
theorem stretchWords_add_le {count : Nat} (hpos : 1 ≤ count) (hmax : count ≤ maxRun)
    (length : Nat) : stretchWords (count + length) ≤ words count + stretchWords length := by
  unfold words stretchWords maxRun at *
  split <;> omega

/-! ### Stretches of one colour -/

/-- Pixels begin with a stretch of a given colour, which may be empty. -/
theorem exists_stretch (c : Rgb) (cs : List Rgb) :
    ∃ length rest, cs = List.replicate length c ++ rest ∧ rest.head? ≠ some c := by
  induction cs with
  | nil => exact ⟨0, [], rfl, by simp⟩
  | cons c' cs ih =>
    by_cases heq : c' = c
    · obtain ⟨length, rest, hcs, hrest⟩ := ih
      exact ⟨length + 1, rest, by rw [heq, hcs]; rfl, hrest⟩
    · exact ⟨0, c' :: cs, rfl, by simpa using heq⟩

/-- A run does not grow over a pixel of another colour. -/
theorem collect_of_head? {r : Run} {cs : List Rgb} (h : cs.head? ≠ some r.color) :
    collect r cs = r :: ofPixels cs := by
  cases cs with
  | nil => rfl
  | cons c cs =>
    have hne : ¬ (r.color = c ∧ r.count < maxRun) := fun hgrows ↦ h (by simp [hgrows.1])
    rw [collect, if_neg hne, ofPixels]

/-- A growing run and the stretch after it are one stretch. -/
theorem wordCount_collect {c : Rgb} {count : Nat} (hr : Writable ⟨c, count⟩) (length : Nat)
    {rest : List Rgb} (hrest : rest.head? ≠ some c) :
    wordCount (collect ⟨c, count⟩ (List.replicate length c ++ rest)) =
      stretchWords (count + length) + wordCount (ofPixels rest) := by
  induction length generalizing count with
  | zero =>
    rw [List.replicate_zero, List.nil_append, collect_of_head? hrest, wordCount_cons,
      words_eq_stretchWords hr.1 hr.2, Nat.add_zero]
  | succ length ih =>
    rw [List.replicate_succ, List.cons_append, collect]
    by_cases hgrows : count < maxRun
    · rw [if_pos ⟨rfl, hgrows⟩, ih ⟨Nat.le_add_left .., hgrows⟩]
      congr 2
      omega
    · obtain rfl : count = maxRun := Nat.le_antisymm hr.2 (Nat.le_of_not_lt hgrows)
      rw [if_neg fun h ↦ hgrows h.2, wordCount_cons, ih (writable_one c), stretchWords_maxRun_add,
        Nat.add_comm 1 length, Nat.add_assoc]
      rfl

/-- **The words of a stretch depend on its length alone.** -/
theorem wordCount_ofPixels_replicate (c : Rgb) (length : Nat) {rest : List Rgb}
    (hrest : rest.head? ≠ some c) :
    wordCount (ofPixels (List.replicate length c ++ rest)) =
      stretchWords length + wordCount (ofPixels rest) := by
  cases length with
  | zero =>
    rw [List.replicate_zero, List.nil_append, show stretchWords 0 = 0 from rfl, Nat.zero_add]
  | succ length =>
    rw [List.replicate_succ, List.cons_append, ofPixels,
      wordCount_collect (writable_one c) length hrest, Nat.add_comm 1 length]

/-- **No row of runs with the same pixels takes fewer words** than the runs that are collected. -/
theorem wordCount_ofPixels_le {rs : List Run} (h : ∀ r ∈ rs, r.Writable) :
    wordCount (ofPixels (expand rs)) ≤ wordCount rs := by
  induction rs with
  | nil => exact Nat.le_refl 0
  | cons r rs ih =>
    obtain ⟨hpos, hmax⟩ := h r List.mem_cons_self
    have hle := ih fun s hs ↦ h s (List.mem_cons_of_mem r hs)
    obtain ⟨length, rest, hstretch, hrest⟩ := exists_stretch r.color (expand rs)
    calc wordCount (ofPixels (expand (r :: rs)))
        = stretchWords (r.count + length) + wordCount (ofPixels rest) := by
          rw [expand_cons, hstretch, ← List.append_assoc, List.replicate_append_replicate,
            wordCount_ofPixels_replicate _ _ hrest]
      _ ≤ words r.count + (stretchWords length + wordCount (ofPixels rest)) := by
          have := stretchWords_add_le hpos hmax length
          omega
      _ = words r.count + wordCount (ofPixels (expand rs)) := by
          rw [hstretch, wordCount_ofPixels_replicate _ _ hrest]
      _ ≤ wordCount (r :: rs) := by
          rw [wordCount_cons]
          omega

/-! ### Bytes -/

/-- The encoder spends no byte more than the words of a run. -/
theorem length_bytes (r : Run) : r.bytes.length = 2 * words r.count := by
  unfold bytes words
  split <;> rfl

theorem length_flatMap_bytes (rs : List Run) :
    (rs.flatMap bytes).length = 2 * wordCount rs := by
  induction rs with
  | nil => rfl
  | cons r rs ih =>
    rw [List.flatMap_cons, List.length_append, ih, length_bytes, wordCount_cons, Nat.mul_add]

end Run

open Run

theorem size_encodePixels (pixels : Array Rgb) :
    (encodePixels pixels).size = 2 * wordCount (ofPixels pixels.toList) := by
  rw [← Array.length_toList, toList_encodePixels, length_flatMap_bytes]

/-- A run of the grammar can be written, in no more bytes than it has. -/
theorem CodesRun.words_le {bytes : List UInt8} {r : Run} (h : CodesRun bytes r) :
    r.Writable ∧ 2 * words r.count ≤ bytes.length := by
  cases h with
  | single clear => exact ⟨writable_one _, Nat.le_refl _⟩
  | @counted lo hi lo' hi' flagged =>
    refine ⟨⟨Nat.le_add_left .., ?_⟩, ?_⟩
    · exact Nat.succ_le_of_lt (Nat.mod_lt _ (by decide))
    · unfold words
      split <;> simp

theorem CodesRuns.wordCount_le {bytes : List UInt8} {rs : List Run} (h : CodesRuns bytes rs) :
    (∀ r ∈ rs, r.Writable) ∧ 2 * wordCount rs ≤ bytes.length := by
  induction h with
  | nil => exact ⟨by simp, Nat.le_refl 0⟩
  | cons head _ ih =>
    obtain ⟨hwritable, hle⟩ := head.words_le
    refine ⟨List.forall_mem_cons.2 ⟨hwritable, ih.1⟩, ?_⟩
    rw [wordCount_cons, List.length_append, Nat.mul_add]
    exact Nat.add_le_add hle ih.2

/-! ### Decoded colours -/

/-- A channel of five bits loses nothing. -/
theorem quantize_fieldColor (n : Nat) : quantize (fieldColor n) = fieldColor n := by
  have hchannel : ∀ m < 32, quantizeChannel (.ofNat (m * 8)) = .ofNat (m * 8) := by decide
  simp only [quantize, fieldColor, Rgb.mk.injEq]
  exact ⟨hchannel _ (Nat.mod_lt _ (by decide)), hchannel _ (Nat.mod_lt _ (by decide)),
    hchannel _ (Nat.mod_lt _ (by decide))⟩

theorem CodesRun.quantize_color {bytes : List UInt8} {r : Run} (h : CodesRun bytes r) :
    quantize r.color = r.color := by
  cases h <;> exact quantize_fieldColor _

/-- The pixels of coded runs are quantised. -/
theorem CodesRuns.map_quantize {bytes : List UInt8} {rs : List Run} (h : CodesRuns bytes rs) :
    (expand rs).map quantize = expand rs := by
  induction h with
  | nil => rfl
  | cons head _ ih => rw [expand_cons, List.map_append, List.map_replicate, head.quantize_color, ih]

/-! ### The shortest code -/

/-- What is decoded is the replay of a whole number of runs that fit. -/
theorem codesRuns_of_decode {code : Bytes} {width height : Nat} {d : Decoded}
    (hd : decode code width height = .ok d) :
    (0 < width ∧ 0 < height ∧ bufferSize width height < memoryLimit) ∧
      ∃ rs, CodesRuns code.toList rs ∧ total rs ≤ width * height ∧ d = replay width height rs := by
  rcases Nat.eq_zero_or_pos width with hw | hw
  · rw [decode_of_isEmpty code (.inl hw)] at hd
    cases hd
  rcases Nat.eq_zero_or_pos height with hh | hh
  · rw [decode_of_isEmpty code (.inr hh)] at hd
    cases hd
  rcases Nat.lt_or_ge (bufferSize width height) memoryLimit with hmem | hmem
  · obtain ⟨front, rest, rs, hcode, hrs, hfits, rfl | ⟨e, he⟩⟩ :=
      exists_runs_or_offends width height code.toList 0 (width * height)
    · rw [List.append_nil] at hcode
      rw [← hcode] at hrs
      rw [decode_of_codesRuns hw hh hmem hrs hfits] at hd
      exact ⟨⟨hw, hh, hmem⟩, rs, hrs, hfits, (Except.ok.inj hd).symm⟩
    · rw [Nat.zero_add] at he
      rw [decode_of_offends hw hh hmem hcode hrs hfits he] at hd
      cases hd
  · have hsize : ¬ (width = 0 ∨ height = 0) := by omega
    simp only [decode, hsize, hmem, if_true, if_false] at hd
    cases hd

/-- Runs that cover the image are its pixels. -/
theorem pixels_replay {width height : Nat} {rs : List Run} (h : total rs = width * height) :
    (replay width height rs).image.pixels.toList = expand rs := by
  refine List.ext_getElem? fun i ↦ ?_
  rw [Array.getElem?_toList, getElem?_replay]
  rcases Nat.lt_or_ge i (width * height) with hi | hi
  · rw [if_pos hi, List.getElem?_eq_getElem (by rwa [length_expand, h]), Option.getD_some]
  · rw [if_neg (by omega), List.getElem?_eq_none (by rwa [length_expand, h])]

/-- What a code that covers its image decodes to: runs with the pixels of the image. -/
theorem exists_codesRuns {code : Bytes} {width height : Nat} {d : Decoded}
    (hd : decode code width height = .ok d) (hfull : d.short = false) :
    d.image.width = width ∧ d.image.height = height ∧
      ∃ rs, CodesRuns code.toList rs ∧ d.image.pixels.toList = expand rs := by
  obtain ⟨-, rs, hrs, hfits, rfl⟩ := codesRuns_of_decode hd
  have htotal : total rs = width * height := by
    have hlt : ¬ total rs < width * height := of_decide_eq_false hfull
    omega
  exact ⟨rfl, rfl, rs, hrs, pixels_replay htotal⟩

theorem size_encode_le {code : Bytes} {width height : Nat} {d : Decoded}
    (hd : decode code width height = .ok d) (hfull : d.short = false) :
    (encode d.image).size ≤ code.size := by
  obtain ⟨-, -, rs, hrs, hpixels⟩ := exists_codesRuns hd hfull
  obtain ⟨hwritable, hwords⟩ := hrs.wordCount_le
  calc (encode d.image).size = 2 * wordCount (ofPixels (expand rs)) := by
        rw [encode, size_encodePixels, hpixels]
    _ ≤ 2 * wordCount rs := Nat.mul_le_mul_left 2 (wordCount_ofPixels_le hwritable)
    _ ≤ code.size := by rwa [← Array.length_toList]

/-- A decoded image survives coding as it is. -/
theorem decode_encode_of_decode {code : Bytes} {width height : Nat} {d : Decoded}
    (hd : decode code width height = .ok d) (hfull : d.short = false) :
    decode (encode d.image) width height = .ok d := by
  obtain ⟨hw, hh, hmem⟩ := (codesRuns_of_decode hd).1
  obtain ⟨rfl, rfl, rs, hrs, hpixels⟩ := exists_codesRuns hd hfull
  have hquantized : d.image.map quantize = d.image := by
    refine Image.eq_of_pixels rfl rfl (Array.toList_inj.1 ?_)
    rw [Image.map, Array.toList_map, hpixels, hrs.map_quantize]
  rw [encode, decode_encodePixels d.image hw hh hmem, hquantized, ← hfull]

/-- **Encoding gives the shortest code.** Whatever runs a code of an image is made of, encoding what
it decodes to gives a code of the same image that is not longer, and none is shorter than that. -/
theorem encode_shortest {code : Bytes} {width height : Nat} {d : Decoded}
    (hd : decode code width height = .ok d) (hfull : d.short = false) :
    decode (encode d.image) width height = .ok d ∧ (encode d.image).size ≤ code.size ∧
      IsLeast (Array.size '' { code' : Bytes | decode code' width height = .ok d })
        (encode d.image).size := by
  have hagain := decode_encode_of_decode hd hfull
  refine ⟨hagain, size_encode_le hd hfull, ⟨_, hagain, rfl⟩, ?_⟩
  rintro _ ⟨code', hcode', rfl⟩
  exact size_encode_le hcode' hfull

/-- Two runs of one colour, the first with a length word that it does not need. -/
theorem encode_shortest_two_runs :
    decode #[0x20, 0x00, 0x00, 0xf0, 0x00, 0x00] 2 1 =
        .ok (replay 2 1 [⟨.black, 1⟩, ⟨.black, 1⟩]) ∧
      (replay 2 1 [⟨.black, 1⟩, ⟨.black, 1⟩]).short = false ∧
      decode (encode (replay 2 1 [⟨.black, 1⟩, ⟨.black, 1⟩]).image) 2 1 =
        .ok (replay 2 1 [⟨.black, 1⟩, ⟨.black, 1⟩]) ∧
      (encode (replay 2 1 [⟨.black, 1⟩, ⟨.black, 1⟩]).image).size ≤ 6 := by
  have hruns : CodesRuns [0x20, 0x00, 0x00, 0xf0, 0x00, 0x00] [⟨.black, 1⟩, ⟨.black, 1⟩] :=
    .cons (.counted rfl) (.cons (.single rfl) .nil)
  have hd : decode #[0x20, 0x00, 0x00, 0xf0, 0x00, 0x00] 2 1 =
      .ok (replay 2 1 [⟨.black, 1⟩, ⟨.black, 1⟩]) :=
    decode_of_codesRuns (by decide) (by decide) (by decide) hruns (by decide)
  obtain ⟨hagain, hsize, -⟩ := encode_shortest hd rfl
  exact ⟨hd, rfl, hagain, hsize⟩

end GerberMask.Raster
