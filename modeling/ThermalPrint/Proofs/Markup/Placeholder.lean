import ThermalPrint.Proofs.Markup.Concat
import ThermalPrint.Proofs.Markup.Strands
import ThermalPrint.Proofs.Text.Blank

/-
A placeholder for images that cannot be had.

An image that is left out takes nothing with it.  Compiled with a placeholder in its place, the
same text gives the same directives once the placeholder has been taken out again, but for the
lines of text that the placeholder parts.  So texts are compared by their letters, each letter in
its place among the other directives.
-/

namespace ThermalPrint
namespace Markup

def Piece.payload? : Piece → Option Text
  | .element .img _ content => some (Text.trim content)
  | _ => none

def linePieces (line : Text) : List Piece :=
  (pieces 1 ((Cursor.ofLine line).advance (lineAlign line).2)).1

/-- What the image elements of a text name. -/
def payloads (source : Text) : List Text :=
  (sourceLines source).flatMap fun line => (linePieces line).filterMap Piece.payload?

/-- The images, with a placeholder for each that is named and cannot be had. -/
def withPlaceholder (images : Images) (placeholder : Raster) (named : List Text) : Images :=
  (named.filter fun payload => !(resolveImage images payload).isOk).map
    (fun payload => (payload, .raster placeholder)) ++ images

/-- A letter of a text, or another directive. -/
inductive Mark
  | letter (c : CodePoint)
  | directive (d : Directive)
deriving DecidableEq

def marksOf : Directive → List Mark
  | .text line => line.content.withoutBlanks.map .letter
  | d => [.directive d]

def marks (job : Job) : List Mark := job.flatMap marksOf

def otherThan (placeholder : Raster) : Directive → Bool
  | .image r _ => r ≠ placeholder
  | _ => true

/-- A job without the images of a raster. -/
def without (placeholder : Raster) (job : Job) : Job := job.filter (otherThan placeholder)

/-- Taking out the placeholder leaves the same on paper. -/
def SamePaper (placeholder : Raster) (filled left : Job) : Prop :=
  marks (without placeholder filled) = marks left

section Marks

variable {placeholder : Raster}

theorem marks_append (job more : Job) : marks (job ++ more) = marks job ++ marks more :=
  List.flatMap_append

theorem without_append (job more : Job) :
    without placeholder (job ++ more) = without placeholder job ++ without placeholder more :=
  List.filter_append job more

theorem without_other {d : Directive} (h : otherThan placeholder d = true) :
    without placeholder [d] = [d] := List.filter_cons_of_pos h

theorem SamePaper.append {filled left filled' left' : Job} (h : SamePaper placeholder filled left)
    (h' : SamePaper placeholder filled' left') :
    SamePaper placeholder (filled ++ filled') (left ++ left') := by
  unfold SamePaper at *
  rw [without_append, marks_append, marks_append, h, h']

def letterMarks (t : Text) : List Mark := t.withoutBlanks.map .letter

theorem letterMarks_append (s t : Text) :
    letterMarks (s ++ t) = letterMarks s ++ letterMarks t := by
  rw [letterMarks, Text.withoutBlanks_append, List.map_append]
  rfl

theorem letterMarks_blank {t : Text} (h : Text.isBlank t = true) : letterMarks t = [] := by
  rw [letterMarks, Text.withoutBlanks_eq_nil.2 (Text.isBlank_iff.1 h)]
  rfl

end Marks

section Lookup

variable {images : Images} {placeholder : Raster} {named : List Text} {payload : Text}

theorem lookup_placeholder (keys : List Text) (payload : Text) :
    (keys.map fun key => (key, Supplied.raster placeholder)).lookup payload =
      if payload ∈ keys then some (.raster placeholder) else none := by
  induction keys with
  | nil => rfl
  | cons key rest ih =>
    rw [List.map_cons, List.lookup_cons]
    by_cases hkey : payload = key
    · rw [hkey, beq_self_eq_true]
      simp
    · rw [beq_false_of_ne hkey, ih]
      simp [hkey]

theorem resolve_had {r : Raster} (h : resolveImage images payload = .ok r) :
    resolveImage (withPlaceholder images placeholder named) payload = .ok r := by
  have hkeys : payload ∉ named.filter fun payload => !(resolveImage images payload).isOk := by
    intro hmem
    have hfails := (List.mem_filter.1 hmem).2
    rw [h] at hfails
    cases hfails
  have hlookup : (withPlaceholder images placeholder named).lookup payload =
      images.lookup payload := by
    rw [withPlaceholder, List.lookup_append, lookup_placeholder, if_neg hkeys]
    rfl
  rw [← h]
  unfold resolveImage
  rw [hlookup]

theorem resolve_missing {fault : ImageFault} (hnamed : payload ∈ named)
    (h : resolveImage images payload = .error fault) :
    resolveImage (withPlaceholder images placeholder named) payload = .ok placeholder := by
  have hkeys : payload ∈ named.filter fun payload => !(resolveImage images payload).isOk :=
    List.mem_filter.2 ⟨hnamed, by rw [h]; rfl⟩
  have hlookup : (withPlaceholder images placeholder named).lookup payload =
      some (.raster placeholder) := by
    rw [withPlaceholder, List.lookup_append, lookup_placeholder, if_pos hkeys]
    rfl
  unfold resolveImage
  rw [hlookup]

end Lookup

namespace LineState

theorem endRun_format (s : LineState) : s.endRun.align = s.align ∧ s.endRun.bold = s.bold := by
  unfold endRun
  split <;> exact ⟨rfl, rfl⟩

theorem endColumn_format (s : LineState) :
    s.endColumn.align = s.align ∧ s.endColumn.bold = s.bold := by
  unfold endColumn
  dsimp only
  split
  · exact endRun_format s
  · exact endRun_format s

theorem endText_format (s : LineState) : s.endText.align = s.align ∧ s.endText.bold = s.bold := by
  unfold endText
  dsimp only
  split
  · exact endColumn_format s
  · split
    · exact endColumn_format s
    · exact endColumn_format s

theorem endText_marks (placeholder : Raster) (s : LineState) :
    ∃ texts : Job, s.endText.done.reverse = s.done.reverse ++ texts ∧
      without placeholder texts = texts ∧ marks texts = letterMarks s.pending := by
  obtain ⟨-, -, texts, hdone, hprints⟩ := endText_spec [] s
  refine ⟨texts, hdone, ?_⟩
  by_cases hblank : Text.isBlank s.pending = true
  · rw [List.filter_cons_of_neg (by simp [Strand.shows, hblank])] at hprints
    cases hprints
    exact ⟨rfl, (letterMarks_blank hblank).symm⟩
  · rw [List.filter_cons_of_pos (by simp [Strand.shows, hblank])] at hprints
    cases hprints with
    | @cons _ d _ _ hd hrest =>
      cases hrest
      cases d with
      | text line =>
        have hcontent : line.content = s.pending := hd
        refine ⟨without_other rfl, ?_⟩
        rw [← hcontent]
        exact List.append_nil _
      | _ => cases hd

/-- Of two lines under construction, one has a placeholder wherever the other has left an image
out. -/
structure Filled (placeholder : Raster) (filled left : LineState) : Prop where
  align : filled.align = left.align
  bold : filled.bold = left.bold
  paper : marks (without placeholder filled.done.reverse) ++ letterMarks filled.pending =
    marks left.done.reverse ++ letterMarks left.pending
  same : left.dropped = false → filled = left
  stands : left.dropped = true → filled.done ≠ []

namespace Filled

variable {placeholder : Raster} {filled left : LineState}

/-- The lines go on alike with something that adds no directive. -/
theorem step {f : LineState → LineState} {t : Text} (h : Filled placeholder filled left)
    (halign : ∀ s s' : LineState, s.align = s'.align → (f s).align = (f s').align)
    (hbold : ∀ s s' : LineState, s.bold = s'.bold → (f s).bold = (f s').bold)
    (hdone : ∀ s, (f s).done = s.done) (hpending : ∀ s, (f s).pending = s.pending ++ t)
    (hdropped : ∀ s, (f s).dropped = s.dropped) : Filled placeholder (f filled) (f left) where
  align := halign _ _ h.align
  bold := hbold _ _ h.bold
  paper := by
    rw [hdone, hdone, hpending, hpending, letterMarks_append, letterMarks_append,
      ← List.append_assoc, ← List.append_assoc, h.paper]
  same hleft := by
    rw [hdropped] at hleft
    rw [h.same hleft]
  stands hleft := by
    rw [hdropped] at hleft
    rw [hdone]
    exact h.stands hleft

theorem ended (h : Filled placeholder filled left) :
    SamePaper placeholder filled.endText.done.reverse left.endText.done.reverse := by
  obtain ⟨texts, hfilled, hown, hletters⟩ := endText_marks placeholder filled
  obtain ⟨texts', hleft, -, hletters'⟩ := endText_marks placeholder left
  unfold SamePaper
  rw [hfilled, hleft, without_append, hown, marks_append, marks_append, hletters, hletters']
  exact h.paper

theorem endText_done (s : LineState) (h : s.done ≠ []) : s.endText.done ≠ [] := by
  obtain ⟨-, -, texts, hdone, -⟩ := endText_spec [] s
  intro hnil
  rw [hnil, List.reverse_nil] at hdone
  exact h (List.reverse_eq_nil_iff.1 (List.append_eq_nil_iff.1 hdone.symm).1)

/-- Both take up a directive that is not the placeholder. -/
theorem push (h : Filled placeholder filled left) {d : Directive}
    (hd : otherThan placeholder d = true) :
    Filled placeholder { filled.endText with done := d :: filled.endText.done }
      { left.endText with done := d :: left.endText.done } where
  align := by
    show filled.endText.align = left.endText.align
    rw [(endText_format _).1, (endText_format _).1, h.align]
  bold := by
    show filled.endText.bold = left.endText.bold
    rw [(endText_format _).2, (endText_format _).2, h.bold]
  paper := by
    have hfilled : pending { filled.endText with done := d :: filled.endText.done } = [] :=
      (endText_spec [] filled).1
    have hleft : pending { left.endText with done := d :: left.endText.done } = [] :=
      (endText_spec [] left).1
    have hone : SamePaper placeholder [d] [d] := congrArg marks (without_other hd)
    rw [hfilled, hleft, List.reverse_cons, List.reverse_cons, h.ended.append hone]
  same hleft := by
    have hdropped : left.dropped = false := (endText_spec [] left).2.1 ▸ hleft
    rw [h.same hdropped]
  stands _ := List.cons_ne_nil _ _

/-- One takes up the placeholder where the other leaves an image out. -/
theorem drop (h : Filled placeholder filled left) (align : Align) :
    Filled placeholder
      { filled.endText with done := .image placeholder align :: filled.endText.done }
      { left with dropped := true } where
  align := (endText_format _).1.trans h.align
  bold := (endText_format _).2.trans h.bold
  paper := by
    have hfilled : pending { filled.endText with
        done := .image placeholder align :: filled.endText.done } = [] :=
      (endText_spec [] filled).1
    have hgone : without placeholder [.image placeholder align] = [] :=
      List.filter_cons_of_neg (by simp [otherThan])
    obtain ⟨texts, hdone, hown, hletters⟩ := endText_marks placeholder filled
    rw [hfilled, List.reverse_cons, without_append, hgone, hdone, without_append, hown,
      List.append_nil, marks_append, hletters]
    exact (List.append_nil _).trans h.paper
  same := nofun
  stands _ := List.cons_ne_nil _ _

end Filled
end LineState

open Outcome (Alike)
open LineState (Filled)

section Compile

variable {images : Images} {placeholder : Raster} {named : List Text}
  (hother : ∀ payload ∈ named, ∀ r, resolveImage images payload = .ok r → r ≠ placeholder)

include hother

/-- An element that is no image is there in both compilations, and an image that cannot be had is
the placeholder in the one and missing in the other. -/
theorem element_filled {filled left : LineState} (h : Filled placeholder filled left)
    (number : Nat) {e : Element} {attributes : List Attribute} {content : Text}
    (hp : ∀ payload, (Piece.element e attributes content).payload? = some payload →
      payload ∈ named) :
    Alike (Filled placeholder)
      (filled.add (withPlaceholder images placeholder named) false number
        (.element e attributes content))
      (left.add images true number (.element e attributes content)) := by
  unfold LineState.add
  dsimp only
  rw [h.align]
  cases e with
  | qrcode =>
    unfold elementDirective
    dsimp only
    cases intAttribute Element.qrcode.name attributes "size".toText Directive.defaultQrSize with
    | error fault => exact .error _
    | ok size => exact .ok (h.push rfl)
  | barcode =>
    unfold elementDirective
    dsimp only
    cases intAttribute Element.barcode.name attributes "height".toText
      Directive.defaultBarcodeHeight with
    | error fault => exact .error _
    | ok height => exact .ok (h.push rfl)
  | img =>
    have hnamed := hp _ rfl
    unfold elementDirective
    dsimp only
    cases hresolve : resolveImage images (Text.trim content) with
    | ok r =>
      rw [resolve_had hresolve]
      have hr : otherThan placeholder (.image r left.align) = true :=
        decide_eq_true (hother _ hnamed r hresolve)
      exact .ok (h.push hr)
    | error fault =>
      rw [resolve_missing hnamed hresolve]
      exact .ok (h.drop _)

theorem add_filled {filled left : LineState} (h : Filled placeholder filled left) (number : Nat)
    {p : Piece} (hp : ∀ payload, p.payload? = some payload → payload ∈ named) :
    Alike (Filled placeholder)
      (filled.add (withPlaceholder images placeholder named) false number p)
      (left.add images true number p) := by
  cases p with
  | text t =>
    refine .ok (h.step (f := fun s => { s with buffer := s.buffer ++ t }) (t := t)
      (fun _ _ hs => hs) (fun _ _ hs => hs) (fun _ => rfl) (fun s => ?_) fun _ => rfl)
    simp [LineState.pending]
  | column align =>
    refine .ok (h.step (f := fun s => { s.endColumn with align := align }) (t := [])
      (fun _ _ _ => rfl) (fun s s' hs => ?_) (fun s => (LineState.endColumn_spec s).2.2.2.1)
      (fun s => ?_) fun s => (LineState.endColumn_spec s).2.2.2.2)
    · exact (LineState.endColumn_format s).2.trans (hs.trans (LineState.endColumn_format s').2.symm)
    · rw [List.append_nil]
      exact (LineState.endColumn_spec s).1
  | bold on =>
    have hended : Filled placeholder { filled.endRun with bold := on }
        { left.endRun with bold := on } := by
      refine h.step (f := fun s => { s.endRun with bold := on }) (t := []) (fun s s' hs => ?_)
        (fun _ _ _ => rfl) (fun s => (LineState.endRun_spec s).2.2.1) (fun s => ?_)
        fun s => (LineState.endRun_spec s).2.2.2
      · exact (LineState.endRun_format s).1.trans (hs.trans (LineState.endRun_format s').1.symm)
      · rw [List.append_nil]
        exact (LineState.endRun_spec s).1
    cases on with
    | true => exact .ok hended
    | false =>
      unfold LineState.add
      dsimp only
      rw [h.bold]
      split
      · exact .ok hended
      · exact .error _
  | element e attributes content => exact element_filled hother h number hp

omit hother in
theorem finish_filled {filled left : LineState} (h : Filled placeholder filled left)
    (number : Nat) : Alike (SamePaper placeholder) (filled.finish number) (left.finish number) := by
  unfold LineState.finish
  dsimp only
  rw [h.bold]
  split
  · exact .error _
  · rw [(LineState.endText_spec [] left).2.1]
    cases hdropped : left.dropped with
    | true =>
      have hstands := Filled.endText_done filled (h.stands hdropped)
      rw [List.isEmpty_eq_false_iff.2 hstands, Bool.not_true, Bool.and_false]
      exact .ok h.ended
    | false =>
      obtain rfl := h.same hdropped
      rw [(LineState.endText_spec [] filled).2.1, hdropped]
      split
      · exact .ok rfl
      · exact .ok h.ended

theorem compileLine_filled (number : Nat) {line : Text}
    (hline : ∀ payload ∈ (linePieces line).filterMap Piece.payload?, payload ∈ named) :
    Alike (SamePaper placeholder)
      (compileLine (withPlaceholder images placeholder named) false (1 + number) line)
      (compileLine images true (1 + number) line) := by
  unfold compileLine
  dsimp only
  split
  · exact .ok rfl
  · split
    · exact .ok rfl
    · have hpieces : (pieces (1 + number)
          ((Cursor.ofLine line).advance (lineAlign line).2)).1 = linePieces line := by
        rw [pieces_shift]
        rfl
      have hstart : Filled placeholder { align := (lineAlign line).1 }
          { align := (lineAlign line).1 } := ⟨rfl, rfl, rfl, fun _ => rfl, nofun⟩
      have hfold : Alike (Filled placeholder)
          ((linePieces line).foldlM
            (LineState.add (withPlaceholder images placeholder named) false (1 + number))
            { align := (lineAlign line).1 })
          ((linePieces line).foldlM (LineState.add images true (1 + number))
            { align := (lineAlign line).1 }) :=
        Alike.foldlM (fun filled left h p hp => add_filled hother h (1 + number) (p := p)
          fun payload hpayload => hline payload (List.mem_filterMap.2 ⟨p, hp, hpayload⟩)) hstart
      rw [hpieces]
      revert hfold
      generalize (linePieces line).foldlM (LineState.add (withPlaceholder images placeholder named)
        false (1 + number)) ({ align := (lineAlign line).1 } : LineState) = filled?
      generalize (linePieces line).foldlM (LineState.add images true (1 + number))
        ({ align := (lineAlign line).1 } : LineState) = left?
      rintro (fault | hfilled)
      · exact .error _
      · dsimp only
        split
        · exact .error _
        · exact finish_filled hfilled (1 + number)

theorem compileLines_filled (above : Nat) {lines : List Text}
    (hlines : ∀ line ∈ lines, ∀ payload ∈ (linePieces line).filterMap Piece.payload?,
      payload ∈ named) :
    Alike (SamePaper placeholder)
      (compileLines (withPlaceholder images placeholder named) false above lines)
      (compileLines images true above lines) := by
  induction lines generalizing above with
  | nil => exact .ok rfl
  | cons line below ih =>
    have hbelow := ih (above + 1) fun l hl => hlines l (List.mem_cons_of_mem _ hl)
    rw [compileLines, compileLines, Nat.add_comm above 1]
    rw [Nat.add_comm above 1] at hbelow
    refine (compileLine_filled hother above (hlines line List.mem_cons_self)).bind ?_
    exact fun first first' hfirst => hbelow.map fun more more' hmore => hfirst.append hmore

end Compile

/-- An image that is left out is missing where a placeholder would stand for it, and nothing else
is. -/
theorem compile_filled {images : Images} {placeholder : Raster} (cut : Bool) {source : Text}
    (hother : ∀ payload ∈ payloads source, ∀ r,
      resolveImage images payload = .ok r → r ≠ placeholder) :
    Alike (SamePaper placeholder)
      (compile (withPlaceholder images placeholder (payloads source)) ⟨false, cut⟩ source)
      (compile images ⟨true, cut⟩ source) := by
  have hcut : SamePaper placeholder (if cut then [.cut] else []) (if cut then [.cut] else []) := by
    cases cut <;> rfl
  rw [compile_eq, compile_eq]
  refine (compileLines_filled hother 0 fun line hline payload hpayload => ?_).map
    fun filled left h => h.append hcut
  exact List.mem_flatMap.2 ⟨line, hline, hpayload⟩

end Markup
end ThermalPrint
