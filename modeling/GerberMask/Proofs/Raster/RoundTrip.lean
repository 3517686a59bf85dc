import GerberMask.Proofs.Raster.RunGrammar

/-!
# Coding and decoding an image

The encoder keeps one run that may still grow. `Run.collect` is the same process without bytes: the
runs of a row of pixels, with the growing run as an argument. The encoder writes exactly these runs
(`toList_encodePixels`), they have the pixels of the image (`Run.expand_ofPixels`), and every one of
them can be written (`Run.Writable`), so that its bytes belong to the grammar with the quantised
colour (`codesRun_bytes`). What the decoder makes of them is then settled by `decode_of_codesRuns`,
and nothing here follows the decoder.

Where a run begins or ends in a row of the image plays no part: runs are collected from the pixels
as one list.
-/

namespace GerberMask.Raster

/-! ### The runs of a row of pixels -/

namespace Run

/-- A run that a length word can say. -/
def Writable (r : Run) : Prop :=
  1 ≤ r.count ∧ r.count ≤ maxRun

theorem writable_one (c : Rgb) : Writable ⟨c, 1⟩ :=
  ⟨Nat.le_refl 1, show 1 ≤ 4096 by decide⟩

/-- The runs of a run that may still grow and the pixels after it. -/
def collect (r : Run) : List Rgb → List Run
  | [] => [r]
  | c :: cs =>
    if r.color = c ∧ r.count < maxRun then collect ⟨r.color, r.count + 1⟩ cs
    else r :: collect ⟨c, 1⟩ cs

/-- The runs of a row of pixels: each as long as it can be. -/
def ofPixels : List Rgb → List Run
  | [] => []
  | c :: cs => collect ⟨c, 1⟩ cs

theorem expand_collect (r : Run) (cs : List Rgb) :
    expand (collect r cs) = List.replicate r.count r.color ++ cs := by
  induction cs generalizing r with
  | nil => simp [collect]
  | cons c cs ih =>
    rw [collect]
    split
    · next h =>
      obtain ⟨rfl, -⟩ := h
      rw [ih, List.replicate_succ', List.append_assoc]
      rfl
    · rw [expand_cons, ih]
      rfl

/-- **No pixel is lost.** -/
theorem expand_ofPixels (cs : List Rgb) : expand (ofPixels cs) = cs := by
  cases cs with
  | nil => rfl
  | cons c cs => exact expand_collect ⟨c, 1⟩ cs

theorem total_ofPixels (cs : List Rgb) : total (ofPixels cs) = cs.length := by
  rw [← length_expand, expand_ofPixels]

theorem writable_of_mem_collect {r : Run} {cs : List Rgb} (hr : r.Writable) :
    ∀ s ∈ collect r cs, s.Writable := by
  induction cs generalizing r with
  | nil => simpa [collect] using hr
  | cons c cs ih =>
    rw [collect]
    split
    · next h => exact ih ⟨Nat.le_add_left .., h.2⟩
    · intro s hs
      rcases List.mem_cons.1 hs with rfl | hs
      · exact hr
      · exact ih (writable_one c) s hs

theorem writable_of_mem_ofPixels {cs : List Rgb} : ∀ s ∈ ofPixels cs, s.Writable := by
  cases cs with
  | nil => simp [ofPixels]
  | cons c cs => exact writable_of_mem_collect (writable_one c)

end Run

/-! ### The encoder writes these runs -/

/-- An encoder with a growing run ends with the code it has and the bytes of the collected runs. -/
theorem toList_finish_foldl (code : Bytes) (r : Run) (cs : List Rgb) :
    (cs.foldl Encoder.push ⟨code, some r⟩).finish.toList =
      code.toList ++ (r.collect cs).flatMap Run.bytes := by
  induction cs generalizing code r with
  | nil => simp [Encoder.finish, Run.collect]
  | cons c cs ih =>
    rw [List.foldl_cons, Encoder.push, Run.collect]
    split
    · rw [ih]
    · rw [ih]
      simp

theorem toList_encodePixels (pixels : Array Rgb) :
    (encodePixels pixels).toList = (Run.ofPixels pixels.toList).flatMap Run.bytes := by
  rw [encodePixels, ← Array.foldl_toList]
  cases pixels.toList with
  | nil => rfl
  | cons c cs =>
    rw [List.foldl_cons]
    exact toList_finish_foldl #[] ⟨c, 1⟩ cs

/-! ### The bytes of a run -/

theorem bytes16_eq (w : UInt16) :
    ∃ lo hi, LittleEndian.bytes16 w = [lo, hi] ∧ wordValue lo hi = w.toNat :=
  ⟨_, _, rfl, by rw [← toNat_word16, LittleEndian.word16_bytes]⟩

/-- **The bytes of a run belong to the grammar**, with the quantised colour. -/
theorem codesRun_bytes {r : Run} (hr : r.Writable) :
    CodesRun r.bytes ⟨quantize r.color, r.count⟩ := by
  obtain ⟨hpos, hmax⟩ := hr
  rw [Run.bytes]
  split
  · next h =>
    obtain ⟨lo, hi, hbytes, hword⟩ := bytes16_eq (colorWord r.color ||| runFlag)
    obtain ⟨lo', hi', hbytes', hword'⟩ := bytes16_eq (UInt16.ofNat (r.count - 1) &&& 0xfff)
    have hcount : wordValue lo' hi' % 4096 + 1 = r.count := by
      rw [hword', toNat_lengthField, UInt16.toNat_ofNat']
      unfold maxRun at hmax
      omega
    have hrun : CodesRun [lo, hi, lo', hi'] ⟨fieldColor (wordValue lo hi), _⟩ :=
      .counted (by rw [hword, testBit_flagged])
    rw [hcount, hword, fieldColor_flagged] at hrun
    rwa [hbytes, hbytes']
  · next h =>
    obtain ⟨lo, hi, hbytes, hword⟩ := bytes16_eq (colorWord r.color)
    have hrun : CodesRun [lo, hi] ⟨fieldColor (wordValue lo hi), 1⟩ :=
      .single (by rw [hword, testBit_colorWord])
    rw [hword, fieldColor_colorWord] at hrun
    rwa [hbytes, show r.count = 1 by omega]

theorem codesRuns_flatMap_bytes {rs : List Run} (h : ∀ r ∈ rs, r.Writable) :
    CodesRuns (rs.flatMap Run.bytes) (rs.map fun r ↦ ⟨quantize r.color, r.count⟩) := by
  induction rs with
  | nil => exact .nil
  | cons r rs ih =>
    exact .cons (codesRun_bytes (h r List.mem_cons_self))
      (ih fun s hs ↦ h s (List.mem_cons_of_mem r hs))

/-! ### Quantised runs -/

theorem expand_quantized (rs : List Run) :
    Run.expand (rs.map fun r ↦ ⟨quantize r.color, r.count⟩) = (Run.expand rs).map quantize := by
  induction rs with
  | nil => rfl
  | cons r rs ih => simp [ih]

theorem total_quantized (rs : List Run) :
    Run.total (rs.map fun r ↦ ⟨quantize r.color, r.count⟩) = Run.total rs := by
  rw [← Run.length_expand, expand_quantized, List.length_map, Run.length_expand]

/-- Runs that have the pixels of an image replay the image. -/
theorem replay_eq (img : Image Rgb) {rs : List Run} (h : Run.expand rs = img.pixels.toList) :
    replay img.width img.height rs = ⟨img, false⟩ := by
  have htotal : Run.total rs = img.width * img.height := by
    rw [← Run.length_expand, h, Array.length_toList, img.size_eq]
  have himage : (replay img.width img.height rs).image = img := by
    refine Image.eq_of_pixels rfl rfl (Array.ext_getElem? fun i ↦ ?_)
    rw [getElem?_replay, h, Array.getElem?_toList]
    rcases Nat.lt_or_ge i (img.width * img.height) with hi | hi
    · rw [if_pos hi, Array.getElem?_eq_getElem (by rwa [img.size_eq]), Option.getD_some]
    · rw [if_neg (by omega), Array.getElem?_eq_none (by rw [img.size_eq]; exact hi)]
  have hshort : (replay img.width img.height rs).short = false := by simp [replay, htotal]
  calc replay img.width img.height rs
      = ⟨(replay img.width img.height rs).image, (replay img.width img.height rs).short⟩ := rfl
    _ = ⟨img, false⟩ := by rw [himage, hshort]

/-! ### The round trip -/

/-- The code of pixels decodes to the quantised pixels. -/
theorem decode_encodePixels (img : Image Rgb) (hw : 0 < img.width) (hh : 0 < img.height)
    (hmem : bufferSize img.width img.height < memoryLimit) :
    decode (encodePixels img.pixels) img.width img.height = .ok ⟨img.map quantize, false⟩ := by
  have hrs : CodesRuns (encodePixels img.pixels).toList
      ((Run.ofPixels img.pixels.toList).map fun r ↦ ⟨quantize r.color, r.count⟩) := by
    rw [toList_encodePixels]
    exact codesRuns_flatMap_bytes Run.writable_of_mem_ofPixels
  have htotal : Run.total (Run.ofPixels img.pixels.toList) = img.width * img.height := by
    rw [Run.total_ofPixels, Array.length_toList, img.size_eq]
  rw [decode_of_codesRuns hw hh hmem hrs (by rw [total_quantized, htotal])]
  congr 1
  refine replay_eq (img.map quantize) ?_
  rw [expand_quantized, Run.expand_ofPixels, Image.map, Array.toList_map]

/-- **Every image survives coding up to quantisation**, an opaque one and one with an alpha
channel, whose transparent pixels become black. -/
theorem decode_encode :
    (∀ img : Image Rgb, 0 < img.width → 0 < img.height →
      bufferSize img.width img.height < memoryLimit →
        decode (encode img) img.width img.height = .ok ⟨img.map quantize, false⟩) ∧
    ∀ img : Image Rgba, 0 < img.width → 0 < img.height →
      bufferSize img.width img.height < memoryLimit →
        decode (encodeRgba img) img.width img.height =
          .ok ⟨img.map fun c ↦ if c.a = 0 then .black else quantize c.rgb, false⟩ := by
  refine ⟨decode_encodePixels, fun img hw hh hmem ↦ ?_⟩
  have hcolor : quantize ∘ visibleColor = fun c ↦ if c.a = 0 then .black else quantize c.rgb := by
    funext c
    rw [Function.comp_apply, visibleColor, apply_ite quantize]
    rfl
  have hvisible := decode_encodePixels (img.map visibleColor) hw hh hmem
  rw [encodeRgba, ← hcolor]
  simpa [Image.map] using hvisible

/-- A run that is split after 4096 pixels, and a run of transparent pixels over two rows. -/
theorem decode_encode_split_run :
    (0 < 4097 ∧ 0 < 1 ∧ bufferSize 4097 1 < memoryLimit) ∧
      decode (encode (.solid 4097 1 ⟨0x17, 0x20, 0x30⟩)) 4097 1 =
        .ok ⟨(Image.solid 4097 1 ⟨0x17, 0x20, 0x30⟩).map quantize, false⟩ ∧
      (0 < 3 ∧ 0 < 2 ∧ bufferSize 3 2 < memoryLimit) ∧
      decode (encodeRgba (.solid 3 2 ⟨0xff, 0xff, 0xff, 0⟩)) 3 2 =
        .ok ⟨(Image.solid 3 2 ⟨0xff, 0xff, 0xff, 0⟩).map fun c : Rgba ↦
          if c.a = 0 then .black else quantize c.rgb, false⟩ :=
  ⟨by decide,
    decode_encode.1 (.solid 4097 1 ⟨0x17, 0x20, 0x30⟩) (by decide) (by decide) (by decide),
    by decide,
    decode_encode.2 (.solid 3 2 ⟨0xff, 0xff, 0xff, 0⟩) (by decide) (by decide) (by decide)⟩

end GerberMask.Raster
