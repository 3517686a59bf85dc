import GerberMask.Proofs.Gerber.RestatedBlocks

/-!
# Absolute and incremental notation

A document can state the places of its coordinates or, with one letter of its format command
changed, their displacements from the place reached before. In exact arithmetic the two documents
are the same document (`notations_agree`): the run over the second is the run over the first with
nothing changed but the mode of coordinates (`State.runFrom_restated`).

Blocks are compared one by one (`State.block_restated`), and so the documents are compared token by
token, together with the place that has been reached. An extended command is the same in both. Of
these only a unit is bound to a place: what was reached in one unit is no row of digits in the
other, so the unit can be set where nothing was reached yet, or on the way through the origin.

In front of the format command the two documents are one document, of which nothing is asked but
that it stays at the origin, so that its blocks have no coordinates (`State.runFrom_unmoved`).
-/

namespace GerberMask.Gerber

/-! ### Documents without coordinates -/

namespace Token

/-- Whether a token, read in a given way, is anything but a block with a coordinate. -/
def staysPut (r : Reading) : Token → Bool
  | toggle => true
  | command text => r != .block || (Word.split text.toList).all (·.letter ∉ ['X', 'Y'])

/-- Whether no block of a row of tokens, read in a given way, has a coordinate. -/
def stayPut (r : Reading) : List Token → Bool
  | [] => true
  | t :: ts => t.staysPut r && stayPut (r.next t) ts

end Token

/-! ### Format commands -/

namespace CoordinateFormat

theorem readLayout_of_dropWhile {letter : Char} {body body' : List Char}
    (h : body'.dropWhile (· != letter) = body.dropWhile (· != letter)) {command : String}
    {layout : DigitLayout} (hlayout : readLayout letter body command = .ok layout)
    (command' : String) : readLayout letter body' command' = .ok layout := by
  unfold readLayout at hlayout ⊢
  rw [h]
  split at hlayout
  · exact hlayout
  · split at hlayout
    next hdigits =>
      rw [if_pos hdigits]
      exact hlayout
    · cases hlayout
  · cases hlayout

/-- What a format command of this beginning reads. -/
theorem parse_leading (second : Char) {axes command : String}
    (h : command.toList = 'F' :: 'S' :: 'L' :: second :: axes.toList) :
    parse command = (readLayout 'X' ('L' :: second :: axes.toList) command).bind fun x ↦
      (readLayout 'Y' ('L' :: second :: axes.toList) command).bind fun y ↦
        .ok ⟨x, y, .leading, if second = 'I' then .incremental else .absolute⟩ := by
  have hbody : dropStart ['F', 'S'] command.toList = 'L' :: second :: axes.toList := by
    rw [h]
    rfl
  have hmode : ('L' :: second :: axes.toList)[1]? = some 'I' ↔ second = 'I' := by simp
  simp only [parse, hbody, hmode]
  rfl

/-- **The second letter of a format command is the mode of coordinates** and nothing else. -/
theorem parse_incremental {axes : String} {f : CoordinateFormat}
    (h : parse ("FSLA" ++ axes) = .ok f) :
    f.zeros = .leading ∧ f.mode = .absolute ∧
      parse ("FSLI" ++ axes) = .ok { f with mode := .incremental } := by
  rw [parse_leading 'A' (String.toList_append ..)] at h
  rw [parse_leading 'I' (String.toList_append ..)]
  cases hx : readLayout 'X' ('L' :: 'A' :: axes.toList) ("FSLA" ++ axes) with
  | error e =>
    rw [hx] at h
    cases h
  | ok x =>
    cases hy : readLayout 'Y' ('L' :: 'A' :: axes.toList) ("FSLA" ++ axes) with
    | error e =>
      rw [hx, hy] at h
      cases h
    | ok y =>
      rw [hx, hy] at h
      cases h
      -- neither axis begins at the first two letters
      have hskip : ∀ letter ∈ ['X', 'Y'], ('L' :: 'I' :: axes.toList).dropWhile (· != letter) =
          ('L' :: 'A' :: axes.toList).dropWhile (· != letter) := by
        simp
      refine ⟨rfl, rfl, ?_⟩
      rw [readLayout_of_dropWhile (hskip 'X' (by decide)) hx,
        readLayout_of_dropWhile (hskip 'Y' (by decide)) hy]
      rfl

end CoordinateFormat

theorem Token.normal_format {axes : String} (h : (Token.command ("FSLA" ++ axes)).Normal) :
    (Token.command ("FSLI" ++ axes)).Normal := by
  obtain ⟨-, -, hlast, hchars⟩ := normal_command_iff.1 h
  have htext : ("FSLA" ++ axes).toList = ['F', 'S', 'L'] ++ 'A' :: axes.toList :=
    String.toList_append ..
  have htext' : ("FSLI" ++ axes).toList = ['F', 'S', 'L'] ++ 'I' :: axes.toList :=
    String.toList_append ..
  rw [htext] at hlast hchars
  rw [normal_command_iff, ne_eq, ← String.toList_eq_nil_iff, htext']
  refine ⟨by simp, by rintro _ ⟨⟩; rfl, fun c hc ↦ ?_, fun c hc ↦ ?_⟩
  · cases haxes : axes.toList with
    | nil =>
      rw [haxes] at hc
      cases hc
      rfl
    | cons d ds => exact hlast c (by simpa [haxes] using hc)
  · obtain hc | hc := List.mem_append.1 hc
    · exact hchars c (List.mem_append_left _ hc)
    · obtain rfl | hc := List.mem_cons.1 hc
      · decide
      · exact hchars c (List.mem_append_right _ (List.mem_cons_of_mem _ hc))

variable {α : Type} [Scalar α]

/-! ### In front of the format -/

namespace State

variable {s : State α} {r : Reading}

/-- A token that is no block with a coordinate goes nowhere. -/
theorem step_unmoved (hreads : s.Reads r) {t : Token} (h : t.staysPut r) (position : Nat) :
    (s.step position t).Ensures (·.modes.position = s.modes.position) := by
  rw [step.eq_def]
  split
  · exact Report.ensures_pure rfl
  cases t with
  | toggle => exact Report.ensures_pure rfl
  | command text =>
    dsimp only
    rw [command]
    cases r with
    | block =>
      rw [hreads.1, hreads.2]
      refine block_unmoved s position fun w hw ↦ ?_
      have hletters : (Word.split text.toList).all (·.letter ∉ ['X', 'Y']) = true := h
      simpa using List.all_eq_true.1 hletters w hw
    | extended =>
      rw [hreads.1, hreads.2]
      exact (extendedCommand_extendedFrame s text position).mono fun s' hs' ↦ hs'.position
    | line =>
      obtain ⟨name, hname⟩ := Option.isSome_iff_exists.1 hreads.2
      rw [hname]
      exact Report.ensures_pure rfl

theorem runFrom_unmoved (hreads : s.modes.stoppedAt? = none → s.Reads r) {ts : List Token}
    (h : Token.stayPut r ts) (position : Nat) :
    (runFrom (.ok s) (ts.zipIdx position)).Ensures fun s' ↦
      s'.modes.position = s.modes.position ∧
      (s'.modes.stoppedAt? = none → s'.Reads (r.after ts)) := by
  induction ts generalizing s r position with
  | nil => exact Report.ensures_pure ⟨rfl, hreads⟩
  | cons t ts ih =>
    rw [Token.stayPut, Bool.and_eq_true] at h
    cases running : s.modes.stoppedAt? with
    | some place =>
      rw [runFrom_of_stopped (by simp [running])]
      exact Report.ensures_pure ⟨rfl, fun hrunning ↦ by simp [running] at hrunning⟩
    | none =>
      have hnext : (s.step position t).Ensures fun s' ↦
          s'.modes.position = s.modes.position ∧ s'.Reads (r.next t) := fun s' hs' ↦
        ⟨step_unmoved (hreads running) h.1 position s' hs',
          step_reads (hreads running) running position t s' hs'⟩
      rw [runFrom_cons]
      refine hnext.bind fun s' hs' ↦ ?_
      exact hs'.1 ▸ ih (fun _ ↦ hs'.2) h.2 (position + 1)

theorem step_format (hreads : s.Reads .extended) (running : s.modes.stoppedAt? = none)
    {text : String} (hname : commandName text = "FS") {f : CoordinateFormat}
    (hformat : CoordinateFormat.parse text = .ok f) (position : Nat) :
    s.step position (.command text) = pure { s with modes.format := f } := by
  have hname' : String.ofList (text.toList.take 2) = "FS" := hname
  have hparsed : (Report.ofExcept ((CoordinateFormat.parse text).mapError (·.at position)) :
      Report GerberError CoordinateFormat) = pure f := by
    rw [hformat]
    rfl
  simp [step, running, command, hreads.1, hreads.2, extendedCommand, hname', hparsed]

theorem initial_unmoved (bounds : Bounds) {front : List Token} (h : Token.stayPut .block front) :
    ((State.initial bounds : State α).run front).Ensures fun s ↦
      s.modes.position = ⟨Scalar.zero, Scalar.zero⟩ ∧
      (s.modes.stoppedAt? = none → s.Reads (Reading.block.after front)) :=
  runFrom_unmoved (s := State.initial bounds) (fun _ ↦ initial_reads bounds) h 0

end State

variable [ExactScalar α]

/-! ### Tokens and runs in both notations -/

namespace State

variable {s : State α} {r : Reading} {last : Point ℤ}

/-- A command that keeps the digits of a place leaves a state at that place. -/
theorem extendedCommand_at (hs : s.At last) {text : String} (h : Token.keepsDigits last text)
    (position : Nat) : (s.extendedCommand text position).Ensures (·.At last) := by
  rw [Token.keepsDigits, Bool.and_eq_true, Bool.or_eq_true, bne_iff_ne, bne_iff_ne, beq_iff_eq] at h
  obtain ⟨hformat, hunit⟩ := h
  refine (extendedCommand_extendedFrame s text position).mono fun s' hs' ↦ ?_
  obtain hunit | rfl := hunit
  · exact hs.of_eq hs'.position (hs'.unit hunit) (hs'.format hformat)
  -- the origin is the origin in either unit
  · have hx := hs.x
    have hy := hs.y
    rw [CoordinateFormat.inches_zero] at hx hy
    exact {
      mode := by rw [hs'.format hformat, hs.mode]
      zeros := by rw [hs'.format hformat, hs.zeros]
      x := by rw [hs'.position, hx, CoordinateFormat.inches_zero]
      y := by rw [hs'.position, hy, CoordinateFormat.inches_zero] }

/-- **A token and its restatement do the same.** -/
theorem step_restated (hs : s.At last) (hreads : s.Reads r) (running : s.modes.stoppedAt? = none)
    {t t' : Token} (hplain : t.isPlain r last) (h : t.restates r last t') (position : Nat) :
    (s.changed .toIncremental).step position t' =
        changed .toIncremental <$> s.step position t ∧
      (s.step position t).Ensures fun s' ↦ s'.modes.stoppedAt? = none →
        s'.At (t.reach r last) := by
  have hrunning : (s.changed .toIncremental).modes.stoppedAt? = none := running
  have hopen : (s.changed .toIncremental).openMacro? = s.openMacro? := rfl
  have hextended : (s.changed .toIncremental).modes.extended = s.modes.extended := rfl
  rw [step.eq_def, step.eq_def, if_neg (by simp [hrunning]), if_neg (by simp [running])]
  cases t with
  | toggle =>
    obtain rfl : t' = .toggle := by cases t' <;> first | rfl | cases h
    exact ⟨rfl, Report.ensures_pure fun _ ↦ hs.of_eq rfl rfl rfl⟩
  | command text =>
    cases t' with
    | toggle => cases h
    | command text' =>
      dsimp only
      rw [command, command, hopen, hextended, Token.reach]
      cases r with
      | block =>
        rw [hreads.1, hreads.2]
        exact block_restated hs hplain h position
      | extended =>
        obtain rfl : text' = text := beq_iff_eq.1 h
        have hname : commandName text' ≠ "FS" := by
          rw [Token.isPlain, Token.keepsDigits, Bool.and_eq_true, bne_iff_ne] at hplain
          exact hplain.1
        rw [hreads.1, hreads.2]
        exact ⟨extendedCommand_changed .toIncremental s (.inr hname) position,
          (extendedCommand_at hs hplain position).mono fun s' hs' _ ↦ hs'⟩
      | line =>
        obtain rfl : text' = text := beq_iff_eq.1 h
        obtain ⟨name, hname⟩ := Option.isSome_iff_exists.1 hreads.2
        rw [hname]
        exact ⟨rfl, Report.ensures_pure fun _ ↦ hs.of_eq rfl rfl rfl⟩

/-- **The run over the restatement of a document is the run over the document**, but for the mode of
coordinates. -/
theorem runFrom_restated (hs : s.modes.stoppedAt? = none → s.At last ∧ s.Reads r)
    {ts ts' : List Token} (hplain : Token.plain r last ts) (h : Token.restated r last ts ts')
    (position : Nat) :
    runFrom (.ok (s.changed .toIncremental)) (ts'.zipIdx position) =
      changed .toIncremental <$> runFrom (.ok s) (ts.zipIdx position) := by
  induction ts generalizing s r last ts' position with
  | nil =>
    cases ts' with
    | nil => rfl
    | cons t' ts' => cases h
  | cons t ts ih =>
    cases ts' with
    | nil => cases h
    | cons t' ts' =>
      rw [Token.plain, Bool.and_eq_true] at hplain
      rw [Token.restated, Bool.and_eq_true] at h
      cases running : s.modes.stoppedAt? with
      | some place =>
        rw [runFrom_of_stopped (s := s) (by simp [running]),
          runFrom_of_stopped (s := s.changed .toIncremental) (by simp [changed, running])]
        rfl
      | none =>
        obtain ⟨hat, hreads⟩ := hs running
        obtain ⟨hstep, hreached⟩ := step_restated hat hreads running hplain.1 h.1 position
        have hnext : (s.step position t).Ensures fun s' ↦ s'.modes.stoppedAt? = none →
            s'.At (t.reach r last) ∧ s'.Reads (r.next t) := fun s' hs' hrunning ↦
          ⟨hreached s' hs' hrunning, step_reads hreads running position t s' hs'⟩
        rw [runFrom_cons, runFrom_cons, hstep, bind_map_left, map_bind]
        exact hnext.bind_congr fun s' hs' ↦ ih hs' hplain.2 h.2 (position + 1)

end State

/-- A document and its restatement have the same interpretation. -/
theorem interpretOver_restated {source source' : String} {front rest rest' : List Token}
    {axes : String} {f : CoordinateFormat}
    (hsource : Token.scan source = front ++ .command ("FSLA" ++ axes) :: rest)
    (hsource' : Token.scan source' = front ++ .command ("FSLI" ++ axes) :: rest')
    (hformat : CoordinateFormat.parse ("FSLA" ++ axes) = .ok f)
    (hfront : Token.stayPut .block front) (hextended : Reading.block.after front = .extended)
    (hplain : Token.plain .extended ⟨0, 0⟩ rest)
    (hrest : Token.restated .extended ⟨0, 0⟩ rest rest') (bounds : Bounds) :
    interpretOver α source' bounds = interpretOver α source bounds := by
  obtain ⟨hzeros, hmode, hformat'⟩ := CoordinateFormat.parse_incremental hformat
  have hname : commandName ("FSLA" ++ axes) = "FS" := by
    rw [commandName, String.toList_append]
    rfl
  have hname' : commandName ("FSLI" ++ axes) = "FS" := by
    rw [commandName, String.toList_append]
    rfl
  rw [interpretOver, interpretOver, hsource, hsource', State.run_append, State.run_append,
    bind_assoc, bind_assoc]
  refine (State.initial_unmoved bounds hfront).bind_congr fun s hs ↦ ?_
  obtain ⟨hposition, hreads⟩ := hs
  cases running : s.modes.stoppedAt? with
  | some place =>
    have hstopped : s.modes.stoppedAt?.isSome := by simp [running]
    rw [State.runFrom_of_stopped hstopped, State.runFrom_of_stopped hstopped]
  | none =>
    have hreads : s.Reads .extended := hextended ▸ hreads running
    -- behind the format the run is at the origin, and the modes are all that differs
    have hat : ({ s with modes.format := f } : State α).At ⟨0, 0⟩ := {
      mode := hmode
      zeros := hzeros
      x := by
        rw [hposition, CoordinateFormat.inches_zero]
        exact ExactScalar.value_zero
      y := by
        rw [hposition, CoordinateFormat.inches_zero]
        exact ExactScalar.value_zero }
    have hincremental : ({ s with modes.format := { f with mode := .incremental } } : State α) =
        ({ s with modes.format := f } : State α).changed .toIncremental := rfl
    rw [State.runFrom_cons, State.runFrom_cons, State.step_format hreads running hname hformat,
      State.step_format hreads running hname' hformat', pure_bind, pure_bind, hincremental,
      State.runFrom_restated (r := .extended) (fun _ ↦ ⟨hat, hreads⟩) hplain hrest, bind_map_left]
    rfl

variable (α) in
/-- **Absolute and incremental notation are equivalent.** Take a document in which the format is
absolute and leaves out leading zeros, with no coordinate in front of the format command and a plain
rest behind it: coordinates are integers with an optional sign, and no word or command changes how
they are read. Then the rest can be restated with displacements, each integer replaced by its
difference from the last one that was reached on its axis, beginning at zero; and in exact
arithmetic every document with the incremental format and such a rest has the same interpretation,
with the same warnings, or fails with the same error. -/
theorem notations_agree {source : String} {front rest : List Token} {axes : String}
    {f : CoordinateFormat}
    (hsource : Token.scan source = front ++ .command ("FSLA" ++ axes) :: rest)
    (hformat : CoordinateFormat.parse ("FSLA" ++ axes) = .ok f)
    (hfront : Token.stayPut .block front) (hextended : Reading.block.after front = .extended)
    (hplain : Token.plain .extended ⟨0, 0⟩ rest) (bounds : Bounds) :
    (∃ source' rest', Token.scan source' = front ++ .command ("FSLI" ++ axes) :: rest' ∧
      Token.restated .extended ⟨0, 0⟩ rest rest') ∧
    ∀ source' rest', Token.scan source' = front ++ .command ("FSLI" ++ axes) :: rest' →
      Token.restated .extended ⟨0, 0⟩ rest rest' →
      interpretOver α source' bounds = interpretOver α source bounds := by
  refine ⟨?_, fun source' rest' hsource' hrest ↦
    interpretOver_restated hsource hsource' hformat hfront hextended hplain hrest bounds⟩
  have hnormal : ∀ t ∈ front ++ .command ("FSLA" ++ axes) :: rest, t.Normal :=
    fun t ht ↦ Token.normal_of_mem_scan (hsource ▸ ht)
  obtain ⟨hnormalFront, hnormalRest⟩ := List.forall_mem_append.1 hnormal
  obtain ⟨hnormalFormat, hnormalRest⟩ := List.forall_mem_cons.1 hnormalRest
  obtain ⟨rest', hrest, hnormal'⟩ := Token.exists_restated hplain hnormalRest
  refine ⟨_, rest', Token.scan_writeAll (List.forall_mem_append.2 ⟨hnormalFront, ?_⟩), hrest⟩
  exact List.forall_mem_cons.2 ⟨Token.normal_format hnormalFormat, hnormal'⟩

/-- An arc, a block that leaves out an axis and a region; the second document spells its integers in
other ways. -/
theorem notations_agree_around_region :
    ∃ source source' : String,
      source =
        "%ADD10C,1*%%FSLAX24Y24*%D10*X1Y2D02*G75G03X5Y6I0J4D01*G01Y-1*G36*X0D02*X3D01*G37*M02*" ∧
      source' =
        "%ADD10C,1*%%FSLIX24Y24*%D10*X1Y2D02*G75G03X+4Y4I0J4D01*G01Y-07*G36*X-5D02*X3D01*G37*M02*" ∧
      interpretOver ℚ source' .empty = interpretOver ℚ source .empty ∧
      ∃ i, (interpretOver ℚ source .empty).result = .ok i ∧ i.items.size = 3 := by
  have hsource : Token.scan
      "%ADD10C,1*%%FSLAX24Y24*%D10*X1Y2D02*G75G03X5Y6I0J4D01*G01Y-1*G36*X0D02*X3D01*G37*M02*" =
      [.toggle, .command "ADD10C,1", .toggle, .toggle] ++ .command ("FSLA" ++ "X24Y24") ::
        [.toggle, .command "D10", .command "X1Y2D02", .command "G75G03X5Y6I0J4D01",
          .command "G01Y-1", .command "G36", .command "X0D02", .command "X3D01", .command "G37",
          .command "M02"] := by
    decide +kernel
  have hsource' : Token.scan
      "%ADD10C,1*%%FSLIX24Y24*%D10*X1Y2D02*G75G03X+4Y4I0J4D01*G01Y-07*G36*X-5D02*X3D01*G37*M02*" =
      [.toggle, .command "ADD10C,1", .toggle, .toggle] ++ .command ("FSLI" ++ "X24Y24") ::
        [.toggle, .command "D10", .command "X1Y2D02", .command "G75G03X+4Y4I0J4D01",
          .command "G01Y-07", .command "G36", .command "X-5D02", .command "X3D01", .command "G37",
          .command "M02"] := by
    decide +kernel
  have hagree := (notations_agree ℚ (f := ⟨⟨2, 4⟩, ⟨2, 4⟩, .leading, .absolute⟩) hsource
    (by decide +kernel) (by decide +kernel) (by decide +kernel) (by decide +kernel) .empty).2 _ _
    hsource' (by decide +kernel)
  exact ⟨_, _, rfl, rfl, hagree, by decide +kernel⟩

end GerberMask.Gerber
