import ThermalPrint.Proofs.Markup.Aligned
import ThermalPrint.Proofs.Markup.Evidence
import ThermalPrint.Proofs.Markup.Placeholder

/-
The images of a compiled job.  They are what the image elements of the markup name, in order, less
those that may be left out and cannot be had.
-/

namespace ThermalPrint

def Directive.raster? : Directive → Option Raster
  | .image r _ => some r
  | _ => none

def rasters (job : Job) : List Raster := job.filterMap Directive.raster?

theorem rasters_append (job more : Job) : rasters (job ++ more) = rasters job ++ rasters more :=
  List.filterMap_append

theorem mem_rasters {job : Job} {r : Raster} : r ∈ rasters job ↔ ∃ align, .image r align ∈ job := by
  unfold rasters
  rw [List.mem_filterMap]
  constructor
  · rintro ⟨d, hd, hr⟩
    cases d with
    | image own align =>
      cases hr
      exact ⟨align, hd⟩
    | _ => cases hr
  · rintro ⟨align, hd⟩
    exact ⟨_, hd, rfl⟩

namespace Markup

/-- The rasters that payloads stand for, less those that cannot be had. -/
def had (images : Images) (named : List Text) : List Raster :=
  named.filterMap fun payload => (resolveImage images payload).toOption

theorem had_append (images : Images) (named more : List Text) :
    had images (named ++ more) = had images named ++ had images more := List.filterMap_append

section Line

variable {images : Images} {imageOptional : Bool} {number : Nat}

theorem rasters_endText (s : LineState) :
    rasters s.endText.done.reverse = rasters s.done.reverse := by
  obtain ⟨-, -, texts, hdone, hprints⟩ := LineState.endText_spec [] s
  have hnone : rasters texts = [] := by
    generalize hshown : [Strand.text s.pending].filter Strand.shows = shown at hprints
    have htext : ∀ strand ∈ shown, strand = .text s.pending := by
      intro strand hstrand
      rw [← hshown] at hstrand
      exact List.mem_singleton.1 (List.mem_filter.1 hstrand).1
    clear hshown hdone
    induction hprints with
    | nil => rfl
    | @cons strand d _ _ hd _ ih =>
      rw [htext strand List.mem_cons_self] at hd
      cases d with
      | text line => exact ih fun strand hstrand => htext strand (List.mem_cons_of_mem _ hstrand)
      | _ => cases hd
  rw [hdone, rasters_append, hnone, List.append_nil]

theorem rasters_element {s : LineState} {e : Element} {attributes : List Attribute}
    {content : Text} {d? : Option Directive}
    (h : elementDirective images imageOptional s.align e attributes content = .ok d?) :
    rasters d?.toList =
      had images (Piece.element e attributes content).payload?.toList := by
  unfold elementDirective at h
  split at h
  · obtain ⟨size, -, rfl⟩ := Outcome.map_ok h
    rfl
  · obtain ⟨height, -, rfl⟩ := Outcome.map_ok h
    rfl
  · unfold had
    dsimp only [Piece.payload?, Option.toList_some]
    split at h
    · rename_i hresolve
      cases h
      rw [List.filterMap_cons, hresolve]
      rfl
    · rename_i hresolve
      split at h
      · cases h
        rw [List.filterMap_cons, hresolve]
        rfl
      · cases h

theorem rasters_add {s s' : LineState} {piece : Piece}
    (h : s.add images imageOptional number piece = .ok s') :
    rasters s'.done.reverse = rasters s.done.reverse ++ had images piece.payload?.toList := by
  -- All pieces but the elements leave the directives as they are.
  have hsame : s'.done = s.done → piece.payload? = none → rasters s'.done.reverse =
      rasters s.done.reverse ++ had images piece.payload?.toList := by
    intro hdone hnone
    rw [hdone, hnone]
    exact (List.append_nil _).symm
  cases LineState.add_ok h with
  | text t => exact hsame rfl rfl
  | column align => exact hsame (LineState.endColumn_spec s).2.2.2.1 rfl
  | bold _ => exact hsame (LineState.endRun_spec s).2.2.1 rfl
  | dropped hnone =>
    rw [← rasters_element hnone]
    exact (List.append_nil _).symm
  | element hd =>
    rw [← rasters_element hd, List.reverse_cons, rasters_append, rasters_endText]
    rfl

theorem rasters_addAll {found : List Piece} :
    ∀ {s s' : LineState}, found.foldlM (LineState.add images imageOptional number) s = .ok s' →
      rasters s'.done.reverse =
        rasters s.done.reverse ++ had images (found.filterMap Piece.payload?) := by
  induction found with
  | nil =>
    intro s s' h
    cases h
    exact (List.append_nil _).symm
  | cons piece rest ih =>
    intro s s' h
    rw [List.foldlM_cons] at h
    obtain ⟨next, hnext, h⟩ := Outcome.bind_ok h
    have hcons : (piece :: rest).filterMap Piece.payload? =
        piece.payload?.toList ++ rest.filterMap Piece.payload? := by
      rw [List.filterMap_cons]
      cases piece.payload? <;> rfl
    rw [ih h, rasters_add hnext, hcons, had_append, List.append_assoc]

theorem rasters_finish {s : LineState} {job : Job} (h : s.finish number = .ok job) :
    rasters job = rasters s.done.reverse := by
  rw [← rasters_endText s]
  rcases LineState.finish_cases h with ⟨hempty, rfl⟩ | ⟨rfl, -⟩
  · rw [hempty]
    rfl
  · rfl

/-- A line without brackets names no image. -/
theorem payloads_unbracketed {c : Cursor} (h : ∀ x ∈ c.rest, x ≠ '[' ∧ x ≠ '<') :
    (pieces number c).1.filterMap Piece.payload? = [] := by
  by_cases hend : c.rest = []
  · rw [pieces_end hend]
    rfl
  · have htagless : Tagless (c.rest ++ []) := by
      rw [List.append_nil]
      exact tagless_unbracketed (fun hx => (h _ hx).2 rfl) fun hx => (h _ hx).1 rfl
    have hplain : plainLength c.rest = c.rest.length := by
      have hover : plainLength (c.rest ++ []) = c.rest.length + plainLength [] :=
        plainLength_over fun i _ => htagless _ (List.drop_suffix i _)
      rw [List.append_nil] at hover
      exact hover
    rw [pieces_plain (by rw [hplain]; exact List.length_pos_iff.2 hend), hplain]
    have hbehind : (c.advance c.rest.length).rest = [] := List.drop_length
    rw [pieces_end hbehind]
    rfl

theorem payloads_trimmed {line : Text}
    (h : ∀ x ∈ Text.trim (line.drop (lineAlign line).2), x ≠ '[' ∧ x ≠ '<') :
    (linePieces line).filterMap Piece.payload? = [] := by
  refine payloads_unbracketed fun x hx => ?_
  cases hblank : Text.isBlankChar x with
  | true => exact blank_plain hblank
  | false => exact h x (Text.mem_trim hx hblank)

theorem rasters_compileLine {line : Text} {job : Job}
    (h : compileLine images imageOptional (1 + number) line = .ok job) :
    rasters job = had images ((linePieces line).filterMap Piece.payload?) := by
  rcases compileLine_cases h with ⟨hempty, rfl⟩ | ⟨mark, hmark, rfl⟩ |
    ⟨found, s, hread, hfold, hfinish⟩
  · rw [payloads_trimmed fun x hx => by rw [hempty] at hx; cases hx]
    rfl
  · rw [payloads_trimmed fun x hx => ?_]
    · rfl
    · constructor
      · rintro rfl
        rw [ruleMark?_of_mem hx (by decide) (by decide)] at hmark
        cases hmark
      · rintro rfl
        rw [ruleMark?_of_mem hx (by decide) (by decide)] at hmark
        cases hmark
  · have hpieces : linePieces line = found := by
      rw [pieces_shift] at hread
      exact congrArg Prod.fst hread
    rw [rasters_finish hfinish, rasters_addAll hfold, hpieces]
    rfl

theorem rasters_compileLines {lines : List Text} :
    ∀ {above : Nat} {job : Job}, compileLines images imageOptional above lines = .ok job →
      rasters job =
        had images (lines.flatMap fun line => (linePieces line).filterMap Piece.payload?) := by
  induction lines with
  | nil =>
    intro above job h
    cases h
    rfl
  | cons line below ih =>
    intro above job h
    rw [compileLines, Nat.add_comm above 1] at h
    obtain ⟨first, hfirst, h⟩ := Outcome.bind_ok h
    obtain ⟨second, hsecond, rfl⟩ := Outcome.map_ok h
    rw [rasters_append, rasters_compileLine hfirst, ih hsecond, List.flatMap_cons, had_append]

end Line

/-- The images of a compiled job are those that its markup names, as far as they can be had. -/
theorem rasters_compile {images : Images} {options : Options} {source : Text} {job : Job}
    (h : compile images options source = .ok job) :
    rasters job = had images (payloads source) := by
  rw [compile_eq] at h
  obtain ⟨lines, hlines, rfl⟩ := Outcome.map_ok h
  have hcut : rasters (if options.cut then [.cut] else []) = [] := by
    cases options.cut <;> rfl
  rw [rasters_append, rasters_compileLines hlines, hcut, List.append_nil]
  rfl

end Markup
end ThermalPrint
