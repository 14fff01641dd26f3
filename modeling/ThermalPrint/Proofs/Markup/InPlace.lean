import ThermalPrint.Proofs.Markup.Aligned
import ThermalPrint.Proofs.Markup.Evidence
import ThermalPrint.Proofs.Markup.Lines

/-
What becomes of a line of markup, and when that is what the line says.
-/

namespace ThermalPrint
namespace Markup

/-- The line has a division, and the scanner finds the closing tags in the folded copy where the
division has them. -/
def InPlace (line : Text) : Prop :=
  ∃ segments, Divides line segments ∧ Found (.ofLine line) segments

/-- What becomes of a line that is neither blank nor a rule.  If the closing tags of its elements
are found where they stand, then the line is divided from the left into tags, elements and text,
and prints one directive for each element and for each text between them that is not blank.  Only
then does it print that, as long as its images are told apart by their pictures.  The closing tags
are found where they stand exactly if the scanner reads a division of the line, and they always are
where no letter that folds to two stands in front of a closing bracket. -/
theorem compile_line {images : Images} {cut : Bool} {line : Text} {job : Job}
    (hbreak : .char '\n' ∉ line) (hblank : Text.trim (line.drop (lineAlign line).2) ≠ [])
    (hrule : ruleMark? (Text.trim (line.drop (lineAlign line).2)) = none)
    (h : compile images ⟨false, cut⟩ line = .ok job) :
    (InPlace line → ∃ segments directives, Divides line segments ∧
      job = directives ++ (if cut then [.cut] else []) ∧
      Printed images (segments.map Segment.piece) directives) ∧
    (∀ segments directives, Divides line segments → Apart images segments →
      job = directives ++ (if cut then [.cut] else []) →
      Printed images (segments.map Segment.piece) directives → InPlace line) ∧
    (InPlace line ↔ ∃ segments, Divides line segments ∧
      pieces 1 (.ofLine line) = (segments.map Segment.piece, none)) ∧
    (Undotted line → InPlace line) := by
  have hne : line ≠ [] := by
    rintro rfl
    exact hblank rfl
  obtain ⟨directives, hline, rfl⟩ := compile_single hbreak hne h
  rw [compileLine_eq hrule] at hline
  obtain ⟨found, s, hread, hfold, hfinish⟩ := compileFrom_ok hline
  refine ⟨?_, ?_, ?_, ?_⟩
  · rintro ⟨segments, hdivides, hfound⟩
    have hpieces := (pieces_eq_iff 1 hdivides rfl).2 hfound
    obtain ⟨rfl, -⟩ := Prod.mk.inj (hread.symm.trans hpieces)
    exact ⟨segments, directives, hdivides, rfl, LineState.finish_printed hfold hfinish⟩
  · intro segments others hdivides happart hjob hprinted
    obtain rfl := List.append_cancel_right hjob
    have hfound := LineState.finish_printed hfold hfinish
    exact ⟨segments, hdivides, found_of_printed hdivides happart rfl hread hfound hprinted⟩
  · constructor
    · rintro ⟨segments, hdivides, hfound⟩
      exact ⟨segments, hdivides, (pieces_eq_iff 1 hdivides rfl).2 hfound⟩
    · rintro ⟨segments, hdivides, hpieces⟩
      exact ⟨segments, hdivides, (pieces_eq_iff 1 hdivides rfl).1 hpieces⟩
  · intro hundotted
    obtain ⟨segments, hdivides, rfl⟩ := divides_of_even 1 ((hundotted.pieces 1).symm.trans hread)
    exact ⟨segments, hdivides, (pieces_eq_iff 1 hdivides rfl).1 hread⟩

theorem compile_line_undotted :
    ∃ job segments, compile [] {} "a<qrcode>b</qrcode> ".toText = .ok job ∧
      Divides "a<qrcode>b</qrcode> ".toText segments ∧
      Printed [] (segments.map Segment.piece) job := by
  have hok : (compile [] {} "a<qrcode>b</qrcode> ".toText).toOption.isSome = true := by
    decide +kernel
  cases hjob : compile [] {} "a<qrcode>b</qrcode> ".toText with
  | error fault =>
    rw [hjob] at hok
    cases hok
  | ok job =>
    obtain ⟨hprinted, -, -, hplace⟩ :=
      compile_line (by decide) (by decide) (by decide) hjob
    have hundotted : Undotted "a<qrcode>b</qrcode> ".toText := by
      intro a b hline
      have hmem : .char 'İ' ∈ "a<qrcode>b</qrcode> ".toText := by
        rw [hline]
        exact List.mem_append_right _ List.mem_cons_self
      exact absurd hmem (by decide)
    obtain ⟨segments, directives, hdivides, rfl, hprints⟩ := hprinted (hplace hundotted)
    exact ⟨_, segments, rfl, hdivides, by simpa using hprints⟩

def qrData? : Directive → Option Text
  | .qrCode data _ _ => some data
  | _ => none

/-- A letter that folds to two: the end of the element is looked for one character too late. -/
def dotted : Text := "İ<qrcode>ab</qrcode>".toText

theorem compile_line_dotted :
    .char '\n' ∉ dotted ∧ Text.trim (dotted.drop (lineAlign dotted).2) ≠ [] ∧
      ruleMark? (Text.trim (dotted.drop (lineAlign dotted).2)) = none ∧
      ∃ job, compile [] {} dotted = .ok job ∧
        ¬ ∃ segments, Divides dotted segments ∧ Printed [] (segments.map Segment.piece) job := by
  refine ⟨by decide, by decide, by decide, ?_⟩
  have hdata : (compile [] {} dotted).toOption.map (·.filterMap qrData?) = some ["ab<".toText] := by
    decide +kernel
  have heven : pieces 1 (Cursor.even dotted) =
      ([.text [.char 'İ'], .element .qrcode [] [.char 'a', .char 'b']], none) := by decide +kernel
  cases hjob : compile [] {} dotted with
  | error fault =>
    rw [hjob] at hdata
    cases hdata
  | ok job =>
    refine ⟨job, rfl, ?_⟩
    rintro ⟨segments, hdivides, hprinted⟩
    have hread := (pieces_eq_iff 1 hdivides rfl).2 (found_even hdivides)
    rw [heven] at hread
    obtain ⟨hpieces, -⟩ := Prod.mk.inj hread
    rw [← hpieces] at hprinted
    have hshown : List.Forall₂ (Prints [])
        [.text [.char 'İ'], .element .qrcode [.char 'a', .char 'b']] job := hprinted
    rw [hjob] at hdata
    cases hshown with
    | @cons _ first _ _ hfirst hrest =>
      cases hrest with
      | @cons _ second _ _ hsecond hend =>
        cases hend
        cases first with
        | text line =>
          cases second with
          | qrCode data size align =>
            have hab : data = [.char 'a', .char 'b'] := hsecond
            subst hab
            have hlonger : [[.char 'a', .char 'b']] = ["ab<".toText] := Option.some.inj hdata
            exact absurd hlonger (by decide)
          | _ => exact hsecond
        | _ => exact hfirst

end Markup
end ThermalPrint
