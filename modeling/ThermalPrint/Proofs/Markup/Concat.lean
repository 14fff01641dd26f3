import ThermalPrint.Markup.Compile
import ThermalPrint.Proofs.Markup.Lines
import ThermalPrint.Proofs.Outcome

/-
The markup of two texts with a line feed between them.

The number of a line is in no directive.  It is in the message of some faults, and there only: a
line further down gives the same directives, or the same fault with a number that is larger by as
much.

`compileLines` is the compilation of lines that stand below others, and all that a line has of the
lines above it is how many they are.  So the lines of a text may be taken in two parts, and the
faults of the second are those that it has by itself, further down.
-/

namespace ThermalPrint

namespace PrintError

theorem atTag_some {kind : ErrorKind} {tag message : Text} (h : message ≠ []) :
    atTag kind tag (some message) = ⟨kind, message, .tag tag⟩ := by
  rw [atTag, if_neg (by rwa [List.isEmpty_iff])]

end PrintError

namespace Markup

namespace MarkupFault

def line? : MarkupFault → Option Nat
  | malformedTag _ line => some line
  | strayClosing _ line => some line
  | unclosed _ line => some line
  | _ => none

/-- What a fault says in front of the line that it names. -/
def wording : MarkupFault → Text
  | malformedTag name _ => "malformed tag <" ++ name ++ "...>"
  | strayClosing name _ => "unexpected </" ++ name ++ ">"
  | unclosed name _ => "<" ++ name ++ "> is not closed"
  | fault => fault.toPrintError.message

def onLine : Option Nat → Text
  | none => []
  | some line => s!" on line {line}"

theorem toPrintError_message (fault : MarkupFault) :
    fault.toPrintError.message = fault.wording ++ onLine fault.line? := by
  cases fault with
  | malformedTag name line =>
    unfold toPrintError wording
    dsimp only [line?, onLine]
    rw [PrintError.atTag_some (by simp)]
    simp only [String.toText_append, List.append_assoc]
    rfl
  | strayClosing name line =>
    unfold toPrintError wording
    dsimp only [line?, onLine]
    rw [PrintError.atTag_some (by simp)]
    simp only [String.toText_append, List.append_assoc]
    rfl
  | unclosed name line =>
    unfold toPrintError wording
    dsimp only [line?, onLine]
    rw [PrintError.atTag_some (by simp)]
    simp only [String.toText_append, List.append_assoc]
    rfl
  | unknownTag | unknownAttribute | notAnInteger | image => exact (List.append_nil _).symm

theorem line?_shift (fault : MarkupFault) (n : Nat) :
    (fault.shift n).line? = fault.line?.map (· + n) := by
  cases fault <;> rfl

theorem wording_shift (fault : MarkupFault) (n : Nat) :
    (fault.shift n).wording = fault.wording := by
  cases fault <;> rfl

/-- Further down, the message names a later line, and nothing else is different. -/
theorem toPrintError_shift (fault : MarkupFault) (n : Nat) :
    (fault.shift n).toPrintError =
      { fault.toPrintError with message := fault.wording ++ onLine (fault.line?.map (· + n)) } := by
  have hmessage := toPrintError_message (fault.shift n)
  rw [wording_shift, line?_shift] at hmessage
  have hrest : (fault.shift n).toPrintError.kind = fault.toPrintError.kind ∧
      (fault.shift n).toPrintError.detail = fault.toPrintError.detail := by
    cases fault with
    | malformedTag | strayClosing | unclosed =>
      unfold toPrintError
      dsimp only [shift]
      rw [PrintError.atTag_some (by simp), PrintError.atTag_some (by simp)]
      exact ⟨rfl, rfl⟩
    | unknownTag | unknownAttribute | notAnInteger | image => exact ⟨rfl, rfl⟩
  dsimp only
  rw [← hmessage, ← hrest.1, ← hrest.2]

end MarkupFault

/-! ## The pieces of a line -/

theorem checkAttributes_shift {tag : Text} {keys : List Text} {given : List Attribute}
    {fault : MarkupFault} (h : checkAttributes tag keys given = .error fault) (n : Nat) :
    fault.shift n = fault := by
  obtain ⟨a, -, ha⟩ := Outcome.error_of_mapM h
  dsimp only at ha
  split at ha
  · cases ha
  · cases ha
    rfl

theorem readPiece_shift (line n : Nat) (c : Cursor) (tag : Tag) :
    readPiece (line + n) c tag = (readPiece line c tag).mapError (·.shift n) := by
  unfold readPiece
  dsimp only
  split
  · split
    · rfl
    · split
      · rfl
      · rw [Outcome.map_mapError, Outcome.mapError_id fun _ h => checkAttributes_shift h n]
  · rename_i e he
    split
    · rfl
    · cases hgiven : checkAttributes tag.name e.keys tag.attributes with
      | error fault => exact congrArg Except.error (checkAttributes_shift hgiven n).symm
      | ok attributes =>
        dsimp only
        split <;> rfl

theorem readToken_shift (line n : Nat) (c : Cursor) :
    readToken (line + n) c = (readToken line c).mapError (·.shift n) := by
  unfold readToken
  split
  · rfl
  · split
    · exact readPiece_shift line n c _
    · rfl

theorem pieces_shift (line n : Nat) (c : Cursor) :
    pieces (line + n) c = ((pieces line c).1, (pieces line c).2.map (·.shift n)) := by
  -- Whether and where there is a token does not depend on the number, only what is wrong with it.
  fun_induction pieces line c with
  | case1 c hend => rw [pieces, if_pos hend]; rfl
  | case2 c hrest length hplain more fault hmore ih =>
    rw [hmore] at ih
    rw [pieces, if_neg hrest, if_pos hplain, ih]
  | case3 c hrest length hplain fault hfault =>
    rw [pieces, if_neg hrest, if_neg hplain, readToken_shift, hfault]
    rfl
  | case4 c hrest length hplain piece taken htoken more fault hmore ih =>
    rw [hmore] at ih
    rw [pieces, if_neg hrest, if_neg hplain, readToken_shift, htoken]
    show (_, _) = _
    rw [ih]

/-! ## The directives of a line -/

theorem intAttribute_shift {tag : Text} {attributes : List Attribute} {key : Text}
    {default_ : Int} {fault : MarkupFault}
    (h : intAttribute tag attributes key default_ = .error fault) (n : Nat) :
    fault.shift n = fault := by
  unfold intAttribute at h
  split at h
  · cases h
  · split at h
    · cases h
    · split at h
      · cases h
      · cases h
        rfl

theorem elementDirective_shift {images : Images} {imageOptional : Bool} {align : Align}
    {e : Element} {attributes : List Attribute} {content : Text} {fault : MarkupFault}
    (h : elementDirective images imageOptional align e attributes content = .error fault)
    (n : Nat) : fault.shift n = fault := by
  cases e with
  | qrcode => exact intAttribute_shift (Outcome.map_error_iff.1 h) n
  | barcode => exact intAttribute_shift (Outcome.map_error_iff.1 h) n
  | img =>
    rw [elementDirective] at h
    split at h
    · cases h
    · split at h
      · cases h
      · cases h
        rfl

theorem LineState.add_shift (images : Images) (imageOptional : Bool) (number n : Nat)
    (s : LineState) (p : Piece) :
    s.add images imageOptional (number + n) p =
      (s.add images imageOptional number p).mapError (·.shift n) := by
  cases p with
  | text t => rfl
  | column align => rfl
  | bold on =>
    cases on with
    | true => rfl
    | false =>
      unfold LineState.add
      dsimp only
      split <;> rfl
  | element e attributes content =>
    unfold LineState.add
    dsimp only
    cases h : elementDirective images imageOptional s.align e attributes content with
    | error fault => exact congrArg Except.error (elementDirective_shift h n).symm
    | ok directive? => cases directive? <;> rfl

theorem LineState.finish_shift (number n : Nat) (s : LineState) :
    s.finish (number + n) = (s.finish number).mapError (·.shift n) := by
  unfold LineState.finish
  dsimp only
  split
  · rfl
  · split <;> rfl

/-- A line further down is compiled to the same directives, or fails in the same way. -/
theorem compileLine_shift (images : Images) (imageOptional : Bool) (number n : Nat) (line : Text) :
    compileLine images imageOptional (number + n) line =
      (compileLine images imageOptional number line).mapError (·.shift n) := by
  unfold compileLine
  dsimp only
  split
  · rfl
  · split
    · rfl
    · rw [pieces_shift, Outcome.foldlM_mapError
        fun s p => LineState.add_shift images imageOptional number n s p]
      cases (pieces number _).1.foldlM (LineState.add images imageOptional number) _ with
      | error fault => rfl
      | ok s =>
        cases (pieces number _).2 with
        | some fault => rfl
        | none => exact LineState.finish_shift number n s

/-! ## Lines below others -/

variable {images : Images} {imageOptional : Bool}

def compileLines (images : Images) (imageOptional : Bool) (above : Nat) :
    List Text → Except MarkupFault Job
  | [] => .ok []
  | line :: below =>
    (compileLine images imageOptional (above + 1) line) >>= fun first =>
      (compileLines images imageOptional (above + 1) below).map (first ++ ·)

theorem mapM_compileLine (above : Nat) (lines : List Text) :
    ((lines.zipIdx above).mapM fun (line, i) => compileLine images imageOptional (i + 1) line).map
      List.flatten = compileLines images imageOptional above lines := by
  induction lines generalizing above with
  | nil => rfl
  | cons line below ih => rw [List.zipIdx_cons, Outcome.flatten_mapM_cons, ih, compileLines]

theorem compile_eq (images : Images) (options : Options) (t : Text) :
    compile images options t = (compileLines images options.imageOptional 0 (sourceLines t)).map
      (· ++ if options.cut then [.cut] else []) := by
  rw [compile, ← mapM_compileLine, Outcome.map_map]
  split
  · rename_i fault hjobs
    rw [hjobs]
    rfl
  · rename_i jobs hjobs
    rw [hjobs]
    rfl

theorem compileLines_append (above : Nat) (lines more : List Text) :
    compileLines images imageOptional above (lines ++ more) =
      compileLines images imageOptional above lines >>= fun first =>
        (compileLines images imageOptional (above + lines.length) more).map (first ++ ·) := by
  induction lines generalizing above with
  | nil =>
    show compileLines images imageOptional above more =
      (compileLines images imageOptional above more).map ([] ++ ·)
    cases compileLines images imageOptional above more <;> rfl
  | cons line below ih =>
    rw [List.cons_append, compileLines, compileLines, ih, List.length_cons,
      Nat.add_right_comm above, Nat.add_assoc above]
    cases compileLine images imageOptional (above + 1) line with
    | error fault => rfl
    | ok first =>
      cases compileLines images imageOptional (above + 1) below with
      | error fault => rfl
      | ok second =>
        show Except.map _ (Except.map _ _) = Except.map _ _
        rw [Outcome.map_map]
        simp only [List.append_assoc]

theorem compileLines_shift (above n : Nat) (lines : List Text) :
    compileLines images imageOptional (above + n) lines =
      (compileLines images imageOptional above lines).mapError (·.shift n) := by
  induction lines generalizing above with
  | nil => rfl
  | cons line below ih =>
    rw [compileLines, compileLines, Nat.add_right_comm, compileLine_shift, ih,
      Outcome.bind_mapError]
    simp only [Outcome.map_mapError]

/-! ## Lines, each by itself -/

/-- A line below others is compiled as if it were the first. -/
theorem compileLines_cons (above : Nat) (line : Text) (below : List Text) :
    compileLines images imageOptional above (line :: below) =
      (compileLine images imageOptional 1 line).mapError (·.shift above) >>= fun first =>
        (compileLines images imageOptional (above + 1) below).map (first ++ ·) := by
  rw [compileLines, Nat.add_comm above 1, compileLine_shift]

theorem compileLines_ok {above : Nat} {lines : List Text} {job : Job} :
    compileLines images imageOptional above lines = .ok job ↔
      ∃ jobs, List.Forall₂ (fun line directives =>
          compileLine images imageOptional 1 line = .ok directives) lines jobs ∧
        job = jobs.flatten := by
  induction lines generalizing above job with
  | nil =>
    constructor
    · intro h
      cases h
      exact ⟨[], .nil, rfl⟩
    · rintro ⟨jobs, hall, rfl⟩
      cases hall
      rfl
  | cons line below ih =>
    rw [compileLines_cons]
    constructor
    · intro h
      obtain ⟨first, hfirst, h⟩ := Outcome.bind_ok h
      obtain ⟨second, hsecond, rfl⟩ := Outcome.map_ok h
      obtain ⟨jobs, hall, rfl⟩ := ih.1 hsecond
      exact ⟨first :: jobs, .cons (Outcome.mapError_ok.1 hfirst) hall, rfl⟩
    · rintro ⟨jobs, hall, rfl⟩
      cases hall with
      | @cons _ first _ jobs hfirst hrest =>
        rw [hfirst]
        show (compileLines images imageOptional (above + 1) below).map _ = _
        rw [ih.2 ⟨jobs, hrest, rfl⟩]
        rfl

theorem compileLines_error {above : Nat} {lines : List Text} {fault : MarkupFault} :
    compileLines images imageOptional above lines = .error fault ↔
      ∃ before line below own, lines = before ++ line :: below ∧
        (∀ l ∈ before, ∃ directives, compileLine images imageOptional 1 l = .ok directives) ∧
        compileLine images imageOptional 1 line = .error own ∧
        fault = own.shift (above + before.length) := by
  induction lines generalizing above with
  | nil =>
    constructor
    · exact nofun
    · rintro ⟨before, line, below, own, hlines, -⟩
      cases before <;> cases hlines
  | cons line below ih =>
    rw [compileLines_cons]
    cases hline : compileLine images imageOptional 1 line with
    | error own =>
      constructor
      · intro h
        cases h
        exact ⟨[], line, below, own, rfl, nofun, hline, rfl⟩
      · rintro ⟨before, line', below', own', hlines, hbefore, hown, rfl⟩
        -- The line at hand fails, so no other can be the first that does.
        cases before with
        | nil =>
          cases hlines
          cases hline.symm.trans hown
          rfl
        | cons l before =>
          cases hlines
          obtain ⟨directives, hl⟩ := hbefore _ List.mem_cons_self
          cases hline.symm.trans hl
    | ok first =>
      show (compileLines images imageOptional (above + 1) below).map _ = _ ↔ _
      rw [Outcome.map_error_iff, ih]
      constructor
      · rintro ⟨before, line', below', own, rfl, hbefore, hown, rfl⟩
        refine ⟨line :: before, line', below', own, rfl, fun l hl => ?_, hown, ?_⟩
        · rcases List.mem_cons.1 hl with rfl | hl
          · exact ⟨first, hline⟩
          · exact hbefore l hl
        · rw [List.length_cons, Nat.add_assoc, Nat.add_comm 1]
      · rintro ⟨before, line', below', own, hlines, hbefore, hown, rfl⟩
        cases before with
        | nil =>
          cases hlines
          cases hline.symm.trans hown
        | cons l before =>
          cases hlines
          refine ⟨before, line', below', own, rfl,
            fun l' hl' => hbefore l' (List.mem_cons_of_mem _ hl'), hown, ?_⟩
          rw [List.length_cons, Nat.add_assoc, Nat.add_comm 1]

/-! ## Texts -/

theorem compile_ok_lines {options : Options} {t : Text} {job : Job} :
    compile images options t = .ok job ↔
      ∃ jobs, List.Forall₂ (fun line directives =>
          compileLine images options.imageOptional 1 line = .ok directives) (sourceLines t) jobs ∧
        job = jobs.flatten ++ if options.cut then [.cut] else [] := by
  rw [compile_eq]
  constructor
  · intro h
    obtain ⟨directives, hlines, rfl⟩ := Outcome.map_ok h
    obtain ⟨jobs, hall, rfl⟩ := compileLines_ok.1 hlines
    exact ⟨jobs, hall, rfl⟩
  · rintro ⟨jobs, hall, rfl⟩
    rw [compileLines_ok.2 ⟨jobs, hall, rfl⟩]
    rfl

theorem compile_error_lines {options : Options} {t : Text} {fault : MarkupFault} :
    compile images options t = .error fault ↔
      ∃ before line below own, sourceLines t = before ++ line :: below ∧
        (∀ l ∈ before, ∃ directives,
          compileLine images options.imageOptional 1 l = .ok directives) ∧
        compileLine images options.imageOptional 1 line = .error own ∧
        fault = own.shift before.length := by
  rw [compile_eq, Outcome.map_error_iff, compileLines_error]
  simp only [Nat.zero_add]

/-- The second of two texts keeps its directives, and its fault moves down. -/
theorem compile_append_eq (images : Images) (options : Options) (a b : Text) :
    compile images options (a ++ .char '\n' :: b) =
      compile images { options with cut := false } (a ++ [.char '\n']) >>= fun first =>
        ((compile images options b).mapError (·.shift (sourceLines (a ++ [.char '\n'])).length)).map
          (first ++ ·) := by
  rw [compile_eq, compile_eq, compile_eq, sourceLines_append, compileLines_append,
    compileLines_shift]
  cases compileLines images options.imageOptional 0 (sourceLines (a ++ [.char '\n'])) with
  | error fault => rfl
  | ok first =>
    cases compileLines images options.imageOptional 0 (sourceLines b) with
    | error fault => rfl
    | ok second =>
      show Except.ok (first ++ second ++ _) = Except.ok (first ++ [] ++ (second ++ _))
      rw [List.append_nil, List.append_assoc]

theorem compile_append_ok {options : Options} {a b : Text} {job : Job} :
    compile images options (a ++ .char '\n' :: b) = .ok job ↔
      ∃ first second, compile images { options with cut := false } (a ++ [.char '\n']) = .ok first ∧
        compile images options b = .ok second ∧ job = first ++ second := by
  rw [compile_append_eq]
  constructor
  · intro h
    obtain ⟨first, hfirst, h⟩ := Outcome.bind_ok h
    obtain ⟨second, hsecond, rfl⟩ := Outcome.map_ok h
    exact ⟨first, second, hfirst, Outcome.mapError_ok.1 hsecond, rfl⟩
  · rintro ⟨first, second, hfirst, hsecond, rfl⟩
    rw [hfirst, hsecond]
    rfl

theorem compile_append_error {options : Options} {a b : Text} {fault : MarkupFault} :
    compile images options (a ++ .char '\n' :: b) = .error fault ↔
      compile images { options with cut := false } (a ++ [.char '\n']) = .error fault ∨
      ∃ first own, compile images { options with cut := false } (a ++ [.char '\n']) = .ok first ∧
        compile images options b = .error own ∧
        fault = own.shift (sourceLines (a ++ [.char '\n'])).length := by
  rw [compile_append_eq]
  cases hfirst : compile images { options with cut := false } (a ++ [.char '\n']) with
  | error e =>
    constructor
    · exact fun h => .inl h
    · rintro (h | ⟨first, own, h, -⟩)
      · exact h
      · cases h
  | ok first =>
    show Except.map _ _ = _ ↔ _
    rw [Outcome.map_error_iff, Outcome.mapError_error]
    constructor
    · rintro ⟨own, hown, rfl⟩
      exact .inr ⟨first, own, rfl, hown, rfl⟩
    · rintro (h | ⟨first', own, -, hown, rfl⟩)
      · cases h
      · exact ⟨own, hown, rfl⟩

/-- The compilation of a text is line by line.  Each line succeeds or fails as it does by
itself, and the first one that fails decides.  With a line feed between them two texts
give the two jobs, the cut behind the second, or the fault of the first that fails; a line
that the second one's fault names is as many lines further down as the first text has, and
nothing else in the error is different. -/
theorem compile_append (images : Images) (options : Options) (a b : Text) :
    (∀ job, compile images options (a ++ .char '\n' :: b) = .ok job ↔
      ∃ first second, compile images { options with cut := false } (a ++ [.char '\n']) = .ok first ∧
        compile images options b = .ok second ∧ job = first ++ second) ∧
    (∀ fault, compile images options (a ++ .char '\n' :: b) = .error fault ↔
      compile images { options with cut := false } (a ++ [.char '\n']) = .error fault ∨
      ∃ first own, compile images { options with cut := false } (a ++ [.char '\n']) = .ok first ∧
        compile images options b = .error own ∧
        fault = own.shift (sourceLines (a ++ [.char '\n'])).length) ∧
    (sourceLines (a ++ [.char '\n'])).length = a.count (.char '\n') + 1 ∧
    (∀ (own : MarkupFault) (n : Nat),
      own.toPrintError.message = own.wording ++ MarkupFault.onLine own.line? ∧
      (own.shift n).toPrintError = { own.toPrintError with
        message := own.wording ++ MarkupFault.onLine (own.line?.map (· + n)) }) ∧
    (∀ t job, compile images options t = .ok job ↔
      ∃ jobs, List.Forall₂ (fun line directives =>
          compileLine images options.imageOptional 1 line = .ok directives) (sourceLines t) jobs ∧
        job = jobs.flatten ++ if options.cut then [.cut] else []) ∧
    (∀ t fault, compile images options t = .error fault ↔
      ∃ before line below own, sourceLines t = before ++ line :: below ∧
        (∀ l ∈ before, ∃ directives,
          compileLine images options.imageOptional 1 l = .ok directives) ∧
        compileLine images options.imageOptional 1 line = .error own ∧
        fault = own.shift before.length) :=
  ⟨fun _ => compile_append_ok, fun _ => compile_append_error, sourceLines_length a,
    fun own n => ⟨own.toPrintError_message, own.toPrintError_shift n⟩,
    fun _ _ => compile_ok_lines, fun _ _ => compile_error_lines⟩

end Markup
end ThermalPrint
