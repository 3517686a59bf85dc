import GerberMask.Files.Folder
import GerberMask.Program.Run
import GerberMask.Proofs.Raster.RecordPlacement

/-!
# Encoding into a file and decoding from it

The commands that encode and decode are run in a folder, with any libraries. What a successful
`encode` leaves at its output is the record of its picture behind as many zero bytes as its address
says (`read_of_runEncode`); what `decode` hands to the picture library is the image of the record
that it finds (`runDecode_of_read`). That the two agree is the placement of records in files;
nothing here looks into a header. What the picture library does matters only for what is shown in
the end: if it keeps the image, the image is found at the output (`pictureAt_of_keeps`).
-/

namespace GerberMask.Program

open GerberMask.Png (Picture)
open GerberMask.Raster (Decoded Image PreviewRecord)
open GerberMask.Raster.PreviewRecord (HeaderAt Recordable lastAddress)

/-! ### Programs that can fail, run on a state -/

section
variable {ε σ α β : Type} {x : ExceptT ε (StateM σ) α} {g : α → ExceptT ε (StateM σ) β} {s s' : σ}

theorem run_bind_of_ok {a : α} (h : x.run.run s = (.ok a, s')) :
    (x >>= g).run.run s = (g a).run.run s' := by
  rw [ExceptT.run_bind, StateT.run_bind, h]
  rfl

theorem run_bind_of_error {e : ε} (h : x.run.run s = (.error e, s')) :
    (x >>= g).run.run s = (.error e, s') := by
  rw [ExceptT.run_bind, StateT.run_bind, h]
  rfl

/-- A program of two parts succeeds if both do, one after the other. -/
theorem run_bind_eq_ok {b : β} :
    (x >>= g).run.run s = (.ok b, s') ↔
      ∃ a s₁, x.run.run s = (.ok a, s₁) ∧ (g a).run.run s₁ = (.ok b, s') := by
  rcases hx : x.run.run s with ⟨e | a, s₁⟩
  · rw [run_bind_of_error hx]
    constructor
    · rintro ⟨⟩
    · rintro ⟨_, _, ⟨⟩, _⟩
  · rw [run_bind_of_ok hx]
    constructor
    · exact fun h ↦ ⟨a, s₁, rfl, h⟩
    · rintro ⟨_, _, ⟨⟩, h⟩
      exact h

end

/-! ### Files of a folder -/

/-- A step of a command succeeds if its action on files does. -/
theorem run_mapError_eq_ok {ε ε' α : Type} {action : StateM Folder (Except ε α)}
    {toFailure : ε → ε'} {f f' : Folder} {a : α} :
    ((ExceptT.mk (return (← action).mapError toFailure) : ExceptT ε' (StateM Folder) α).run).run f =
        (.ok a, f') ↔
      action.run f = (.ok a, f') := by
  have hrun : ((ExceptT.mk (return (← action).mapError toFailure) :
      ExceptT ε' (StateM Folder) α).run).run f =
        ((action.run f).1.mapError toFailure, (action.run f).2) := rfl
  rw [hrun]
  rcases action.run f with ⟨e | a', f₁⟩
  · constructor
    · rintro ⟨⟩
    · rintro ⟨⟩
  · constructor
    · rintro ⟨⟩
      rfl
    · rintro ⟨⟩
      rfl

theorem run_write_eq_ok {f f' : Folder} {path : String} {bytes : Bytes} :
    (Folder.access.write path bytes).run f = (.ok (), f') ↔ f.write path bytes = .ok f' := by
  simp only [Folder.access, StateT.run_bind, StateT.run_get, pure_bind]
  cases f.write path bytes with
  | error e =>
    constructor
    · rintro ⟨⟩
    · rintro ⟨⟩
  | ok f₁ =>
    constructor
    · rintro ⟨⟩
      rfl
    · rintro ⟨⟩
      rfl

variable {libs : Libraries}

/-- The picture that a command finds at a path of a folder. -/
def pictureAt (libs : Libraries) (f : Folder) (path : String) : Except ImageError Picture :=
  ((readPicture libs Folder.access path).run f).1

/-- Reading a picture leaves the folder as it is. -/
theorem run_readPicture (f : Folder) (path : String) :
    (readPicture libs Folder.access path).run f = (pictureAt libs f path, f) := by
  have hread : (Folder.access.read path).run f = (f.read path, f) := rfl
  refine Prod.ext rfl ?_
  simp only [readPicture, StateT.run_bind, hread]
  cases f.read path with
  | error e => rfl
  | ok bytes => rfl

/-- The picture at a path is what the library reads in its bytes. -/
theorem pictureAt_of_read {f : Folder} {path : String} {bytes : Bytes}
    (h : f.read path = .ok bytes) : pictureAt libs f path = libs.pictures.read path bytes := by
  have hread : (Folder.access.read path).run f = (f.read path, f) := rfl
  rw [pictureAt, readPicture, StateT.run_bind, hread, h]
  rfl

/-- A library that reads an image again in what it writes for it to a path. -/
def PictureLibrary.Keeps (lib : PictureLibrary) (path : String) (img : Image Rgb) : Prop :=
  ∀ bytes, lib.writeRgb path img = .ok bytes →
    ∃ picture, lib.read path bytes = .ok picture ∧ picture.image.map Rgba.rgb = img

/-- An image that is kept is found where it was written. -/
theorem pictureAt_of_keeps {f f' : Folder} {path : String} {img : Image Rgb} {bytes : Bytes}
    (hkeeps : libs.pictures.Keeps path img) (hbytes : libs.pictures.writeRgb path img = .ok bytes)
    (hwrite : f.write path bytes = .ok f') :
    ∃ picture, pictureAt libs f' path = .ok picture ∧ picture.image.map Rgba.rgb = img := by
  rw [pictureAt_of_read (Folder.read_write hwrite)]
  exact hkeeps bytes hbytes

/-! ### The commands -/

/-- **What encoding leaves behind.** -/
theorem read_of_runEncode {f f' : Folder} {input output told : String} {address : Nat}
    (h : (runEncode libs Folder.access input output address).run.run f = (.ok told, f')) :
    ∃ picture, pictureAt libs f input = .ok picture ∧
      f'.read output = .ok (Array.replicate address 0 ++
        (PreviewRecord.ofImage (picture.image.map Rgba.rgb)).toBytes (UInt32.ofNat address)) := by
  rw [runEncode] at h
  obtain ⟨picture, f₁, hread, h⟩ := run_bind_eq_ok.1 h
  obtain ⟨_, f₂, hwrite, hend⟩ := run_bind_eq_ok.1 h
  obtain rfl : f₂ = f' := congrArg Prod.snd hend
  rw [run_mapError_eq_ok, run_readPicture, Prod.mk.injEq] at hread
  rw [run_mapError_eq_ok, run_write_eq_ok] at hwrite
  obtain ⟨hpicture, rfl⟩ := hread
  exact ⟨picture, hpicture, Folder.read_write hwrite⟩

/-- Encoding succeeds where there is a picture and the record can be written. -/
theorem runEncode_of_pictureAt {f f' : Folder} {input output : String} {address : Nat}
    {picture : Picture} (hpicture : pictureAt libs f input = .ok picture)
    (hwrite : f.write output (Array.replicate address 0 ++
      (PreviewRecord.ofImage (picture.image.map Rgba.rgb)).toBytes (UInt32.ofNat address)) =
        .ok f') :
    (runEncode libs Folder.access input output address).run.run f = (.ok "", f') := by
  rw [runEncode]
  refine (run_bind_of_ok (?_ : _ = (Except.ok picture, f))).trans ?_
  · rw [run_mapError_eq_ok, run_readPicture, hpicture]
  refine (run_bind_of_ok (?_ : _ = (Except.ok (), f'))).trans rfl
  rw [run_mapError_eq_ok, run_write_eq_ok]
  exact hwrite

/-- **What decoding writes.** -/
theorem runDecode_of_read {f f' : Folder} {input output : String} {address : Nat} {bytes : Bytes}
    {d : Decoded} {shown : Bytes} (hread : f.read input = .ok bytes)
    (hdecode : (PreviewRecord.ofBytes bytes address).bind (·.decode) = .ok d)
    (hshown : libs.pictures.writeRgb output d.image = .ok shown)
    (hwrite : f.write output shown = .ok f') :
    (runDecode libs Folder.access input output address).run.run f = (.ok "", f') := by
  rw [runDecode]
  refine (run_bind_of_ok (?_ : _ = (Except.ok bytes, f))).trans ?_
  · rw [run_mapError_eq_ok, ← hread]
    rfl
  refine (run_bind_of_ok (?_ : _ = (Except.ok d, f))).trans ?_
  · rw [hdecode]
    rfl
  refine (run_bind_of_ok (?_ : _ = (Except.ok (), f'))).trans rfl
  rw [run_mapError_eq_ok, hshown]
  simp only [writePicture, StateT.run_bind, run_write_eq_ok.2 hwrite]
  rfl

/-- Decoding what was encoded writes the quantised picture. -/
theorem runDecode_of_runEncode {f f' f'' : Folder} {input path output told : String} {a : Nat}
    {picture : Picture} {shown : Bytes} (ha : a ≤ lastAddress)
    (hpicture : pictureAt libs f input = .ok picture)
    (himg : Recordable (picture.image.map Rgba.rgb))
    (hencode : (runEncode libs Folder.access input path a).run.run f = (.ok told, f'))
    (hshown : libs.pictures.writeRgb output ((picture.image.map Rgba.rgb).map Raster.quantize) =
      .ok shown)
    (hwrite : f'.write output shown = .ok f'') :
    (runDecode libs Folder.access path output a).run.run f' = (.ok "", f'') := by
  obtain ⟨picture', hpicture', hread⟩ := read_of_runEncode hencode
  obtain rfl : picture = picture' := Except.ok.inj (hpicture.symm.trans hpicture')
  have hword : (UInt32.ofNat a).toNat = a := by
    have hlast : lastAddress < UInt32.size := by decide
    exact UInt32.toNat_ofNat_of_lt' (Nat.lt_of_le_of_lt ha hlast)
  have hzeros : (Array.replicate a (0 : UInt8)).size = (UInt32.ofNat a).toNat := by
    rw [Array.size_replicate, hword]
  have hdecode := PreviewRecord.decode_ofBytes_ofImage himg (by rwa [hword]) hzeros #[]
  rw [Array.append_empty, hword] at hdecode
  exact runDecode_of_read hread hdecode hshown hwrite

/-- **Records survive in files, both ways.** A record that is written at an address is read there,
whatever stands before and behind it. Reading fails for two reasons only: there is no room for a
header at the address, or there is one and it names bytes behind the end of the file. A record that
was read is written as it stood, if its header named the place right behind it. So an image that is
encoded at an address is decoded there, quantised, and the commands do so with pictures: whatever
the picture library is, it is handed the quantised image, and where it keeps this image it is found
at the output. -/
theorem records_survive_in_files :
    (∀ (r : PreviewRecord) (a : UInt32) (front back : Bytes), r.payload.size < 2 ^ 32 →
      a.toNat ≤ lastAddress → front.size = a.toNat →
        PreviewRecord.ofBytes (front ++ r.toBytes a ++ back) a.toNat = .ok r ∧
          (r.toBytes a).size = r.byteSize) ∧
    (∀ (file : Bytes) (address : Nat),
      (PreviewRecord.ofBytes file address = .error (.shortHeader address file.size) ↔
        file.size < address + Raster.headerSize) ∧
      ((∃ h, HeaderAt file address h) ↔ address + Raster.headerSize ≤ file.size) ∧
      ∀ h, HeaderAt file address h →
        (PreviewRecord.ofBytes file address =
            .error (.payloadOutOfRange h.start.toNat h.size.toNat file.size) ↔
          file.size < h.start.toNat + h.size.toNat) ∧
        ((∃ r, PreviewRecord.ofBytes file address = .ok r) ↔
          h.start.toNat + h.size.toNat ≤ file.size) ∧
        ∀ (a : UInt32) (r : PreviewRecord), a.toNat = address → a.toNat ≤ lastAddress →
          h.start.toNat = a.toNat + Raster.headerSize →
          PreviewRecord.ofBytes file address = .ok r →
            r.toBytes a = file.extract address (address + r.byteSize)) ∧
    (∀ (img : Image Rgb) (a : UInt32) (front back : Bytes), Recordable img →
      a.toNat ≤ lastAddress → front.size = a.toNat →
        (PreviewRecord.ofBytes (front ++ (PreviewRecord.ofImage img).toBytes a ++ back)
          a.toNat).bind (·.decode) = .ok ⟨img.map Raster.quantize, false⟩) ∧
    ∀ (libs : Libraries) (f f' f'' : Folder) (input path output told : String) (a : Nat)
      (picture : Picture) (shown : Bytes),
      a ≤ lastAddress → pictureAt libs f input = .ok picture →
      Recordable (picture.image.map Rgba.rgb) →
      (runEncode libs Folder.access input path a).run.run f = (.ok told, f') →
      libs.pictures.writeRgb output ((picture.image.map Rgba.rgb).map Raster.quantize) =
        .ok shown →
      f'.write output shown = .ok f'' →
        (runDecode libs Folder.access path output a).run.run f' = (.ok "", f'') ∧
        (libs.pictures.Keeps output ((picture.image.map Rgba.rgb).map Raster.quantize) →
          ∃ decoded, pictureAt libs f'' output = .ok decoded ∧
            decoded.image.map Rgba.rgb = (picture.image.map Rgba.rgb).map Raster.quantize) := by
  refine ⟨fun r a front back hcode ha hfront ↦
      ⟨PreviewRecord.ofBytes_append_toBytes r back hcode ha hfront, PreviewRecord.size_toBytes r a⟩,
    fun file address ↦ ⟨⟨fun h ↦ ?_, PreviewRecord.ofBytes_of_short⟩,
      PreviewRecord.exists_headerAt_iff, fun h hat ↦ ?_⟩,
    fun img a front back himg ha hfront ↦
      PreviewRecord.decode_ofBytes_ofImage himg ha hfront back,
    fun libs f f' f'' input path output told a picture shown ha hpicture himg hencode hshown
      hwrite ↦ ⟨runDecode_of_runEncode ha hpicture himg hencode hshown hwrite,
        fun hkeeps ↦ pictureAt_of_keeps hkeeps hshown hwrite⟩⟩
  · -- a header that stands there would have been read
    by_contra hroom
    obtain ⟨w, hat⟩ := PreviewRecord.exists_headerAt_iff.2 (Nat.le_of_not_lt hroom)
    rw [PreviewRecord.ofBytes_of_headerAt hat] at h
    split at h <;> cases h
  · refine ⟨?_, ?_, ?_⟩
    · rw [PreviewRecord.ofBytes_of_headerAt hat]
      split
      · next hfits => simp [Nat.not_lt.2 hfits]
      · next hover => simp [Nat.lt_of_not_le hover]
    · rw [PreviewRecord.ofBytes_of_headerAt hat]
      split
      · next hfits => simp [hfits]
      · next hover => simp [hover]
    · rintro a r rfl ha hplace hr
      exact PreviewRecord.toBytes_of_ofBytes ha hat hplace hr

/-! ### One picture -/

/-- A result can be tested for a value of some kind. -/
theorem exists_ok_of_any {ε α : Type} {r : Except ε α} {p : α → Bool}
    (h : r.toOption.any p = true) : ∃ a, r = .ok a ∧ p a = true := by
  cases r with
  | error e => cases h
  | ok a => exact ⟨a, rfl, h⟩

/-- Whether a library keeps an image can be tested. -/
theorem PictureLibrary.keeps_of_any {lib : PictureLibrary} {path : String} {img : Image Rgb}
    {bytes : Bytes} (hbytes : lib.writeRgb path img = .ok bytes)
    (h : (lib.read path bytes).toOption.any (fun picture ↦
      decide (picture.image.map Rgba.rgb = img)) = true) : lib.Keeps path img := by
  intro bytes' hbytes'
  obtain rfl : bytes = bytes' := Except.ok.inj (hbytes.symm.trans hbytes')
  obtain ⟨picture, hread, hpicture⟩ := exists_ok_of_any h
  exact ⟨picture, hread, of_decide_eq_true hpicture⟩

/-- A row of two pixels. -/
def twoPixels : Image Rgb := .solid 2 1 ⟨0xff, 0x07, 0x30⟩

/-- A folder with one picture. -/
def onePicture : Folder := ⟨[(["in.png".toList], Png.writeRgb twoPixels)]⟩

/-- The folder in which the picture has been encoded at an address. -/
def encodedPicture : Except Failure String × Folder :=
  (runEncode .own Folder.access "in.png" "record" 3).run.run onePicture

/-- A record of two pixels between other bytes, the same record cut short, one that is read with a
byte behind it, and a picture that is encoded behind three bytes of a file and decoded there. -/
theorem records_survive_in_files_two_pixels :
    let record : PreviewRecord := ⟨2, 1, #[0x20, 0xf8, 0x01, 0x00], #v[1, 2, 3, 4]⟩
    let cut : Bytes := (record.toBytes 0).extract 0 34
    PreviewRecord.ofBytes (#[9, 9, 9] ++ record.toBytes 3 ++ #[7]) 3 = .ok record ∧
    PreviewRecord.ofBytes cut 3 = .error (.shortHeader 3 cut.size) ∧
    PreviewRecord.ofBytes cut 0 = .error (.payloadOutOfRange 32 4 cut.size) ∧
    record.toBytes 0 = (record.toBytes 0 ++ #[7]).extract 0 (0 + record.byteSize) ∧
    (PreviewRecord.ofBytes (#[9] ++ (PreviewRecord.ofImage twoPixels).toBytes 1 ++ #[7]) 1).bind
      (·.decode) = .ok ⟨twoPixels.map Raster.quantize, false⟩ ∧
    ∃ told f' decoded, encodedPicture.1 = .ok told ∧
      (runDecode .own Folder.access "record" "out.png" 3).run.run encodedPicture.2 =
        (.ok "", f') ∧
      pictureAt .own f' "out.png" = .ok decoded ∧
      decoded.image.map Rgba.rgb = twoPixels.map Raster.quantize := by
  intro record cut
  obtain ⟨hsurvives, hreads, himages, hcommands⟩ := records_survive_in_files
  have hheader : HeaderAt cut 0 ⟨2, 1, 32, 4, #v[1, 2, 3, 4]⟩ := ⟨[0x20, 0xf8], by decide⟩
  have hheader' : HeaderAt (record.toBytes 0 ++ #[7]) 0 ⟨2, 1, 32, 4, #v[1, 2, 3, 4]⟩ :=
    ⟨[0x20, 0xf8, 0x01, 0x00, 7], by decide⟩
  have hread : PreviewRecord.ofBytes (record.toBytes 0 ++ #[7]) 0 = .ok record := by
    have h := (hsurvives record 0 #[] #[7] (by decide) (by decide) rfl).1
    rwa [Array.empty_append] at h
  refine ⟨?_, ?_, ?_, ?_, ?_, ?_⟩
  · exact (hsurvives record 3 #[9, 9, 9] #[7] (by decide) (by decide) rfl).1
  · exact (hreads cut 3).1.2 (by decide)
  · exact ((hreads cut 0).2.2 _ hheader).1.2 (by decide)
  · exact ((hreads _ 0).2.2 _ hheader').2.2 0 record rfl (by decide) rfl hread
  · exact himages twoPixels 1 #[9] #[7] (by decide) (by decide) rfl
  · -- the picture is read once; where files can be written does not depend on what they hold
    have hpicture : (pictureAt .own onePicture "in.png").toOption.any (fun picture ↦
        decide (picture.image.map Rgba.rgb = twoPixels)) = true := by
      decide +kernel
    obtain ⟨picture, hpicture, himg⟩ := exists_ok_of_any hpicture
    replace himg := of_decide_eq_true himg
    have hrecord : ∀ bytes, onePicture.write "record" bytes =
        .ok ⟨(["record".toList], bytes) :: onePicture.files⟩ := fun _ ↦ rfl
    have houtput : ∀ record bytes,
        (Folder.mk ((["record".toList], record) :: onePicture.files)).write "out.png" bytes =
          .ok ⟨(["out.png".toList], bytes) :: (["record".toList], record) :: onePicture.files⟩ :=
      fun _ _ ↦ rfl
    have hencode : encodedPicture = (.ok "", _) := runEncode_of_pictureAt hpicture (hrecord _)
    rw [himg] at hencode
    have hshown : Libraries.own.pictures.writeRgb "out.png" (twoPixels.map Raster.quantize) =
        .ok (Png.writeRgb (twoPixels.map Raster.quantize)) := rfl
    have hkeeps : Libraries.own.pictures.Keeps "out.png" (twoPixels.map Raster.quantize) :=
      PictureLibrary.keeps_of_any hshown (by decide +kernel)
    have hcommand := hcommands .own onePicture _ _ "in.png" "record" "out.png" "" 3 picture
      (Png.writeRgb (twoPixels.map Raster.quantize)) (by decide) hpicture (by rw [himg]; decide)
      hencode (by rw [himg]; exact hshown) (houtput _ _)
    rw [himg] at hcommand
    obtain ⟨hdecode, hfound⟩ := hcommand
    obtain ⟨decoded, hdecoded, hsame⟩ := hfound hkeeps
    rw [hencode]
    exact ⟨"", _, decoded, rfl, hdecode, hdecoded, hsame⟩

end GerberMask.Program
