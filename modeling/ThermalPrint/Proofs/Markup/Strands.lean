import ThermalPrint.Markup.Compile
import ThermalPrint.Proofs.Markup.Division
import ThermalPrint.Proofs.Markup.Lines
import ThermalPrint.Proofs.Outcome

/-
What a line puts on paper: its elements, and the text between them where that is not blank.
Nothing of it is lost, put twice or moved while the line is built.
-/

namespace ThermalPrint
namespace Markup

/-- A part of a line for the paper. -/
inductive Strand
  | text (t : Text)
  | element (e : Element) (content : Text)

/-- The elements of a reading, with the text in front of them, between them and behind them, where
some text is there already. -/
def strands (pending : Text) : List Piece → List Strand
  | [] => [.text pending]
  | .text t :: more => strands (pending ++ t) more
  | .column _ :: more => strands pending more
  | .bold _ :: more => strands pending more
  | .element e _ content :: more => .text pending :: .element e content :: strands [] more

def Strand.shows : Strand → Bool
  | text t => !Text.isBlank t
  | element _ _ => true

theorem shown_element (pending : Text) (e : Element) (attributes : List Attribute)
    (content : Text) (more : List Piece) :
    (strands pending (.element e attributes content :: more)).filter Strand.shows =
      [Strand.text pending].filter Strand.shows ++
        .element e content :: (strands [] more).filter Strand.shows := by
  rw [strands, List.filter_cons, List.filter_cons_of_pos rfl, List.filter_cons]
  split
  · rfl
  · rfl

/-- A directive prints a part of a line. -/
def Prints (images : Images) : Strand → Directive → Prop
  | .text t, .text line => line.content = t
  | .element .qrcode content, .qrCode data _ _ => data = content
  | .element .barcode content, .barcode _ data _ _ => data = Text.trim content
  | .element .img content, .image r _ => resolveImage images (Text.trim content) = .ok r
  | _, _ => False

/-- Directives print the parts of a reading that show, one for each and in order.  Where none
shows, the paper is fed. -/
def Printed (images : Images) (found : List Piece) (directives : List Directive) : Prop :=
  let shown := (strands [] found).filter Strand.shows
  if shown.isEmpty then directives = [.lineFeed]
  else List.Forall₂ (Prints images) shown directives

namespace LineState

def pending (s : LineState) : Text :=
  s.columns.reverse.flatMap (·.text) ++ s.runs.reverse.flatMap (·.text) ++ s.buffer

theorem endRun_spec (s : LineState) :
    s.endRun.pending = s.pending ∧ s.endRun.buffer = [] ∧ s.endRun.done = s.done ∧
      s.endRun.dropped = s.dropped := by
  unfold endRun
  split
  · rename_i hempty
    exact ⟨rfl, List.isEmpty_iff.1 hempty, rfl, rfl⟩
  · refine ⟨?_, rfl, rfl, rfl⟩
    simp [pending]

theorem endColumn_spec (s : LineState) :
    s.endColumn.pending = s.pending ∧ s.endColumn.runs = [] ∧ s.endColumn.buffer = [] ∧
      s.endColumn.done = s.done ∧ s.endColumn.dropped = s.dropped := by
  obtain ⟨hpending, hbuffer, hdone, hdropped⟩ := endRun_spec s
  unfold endColumn
  dsimp only
  split
  · rename_i hempty
    exact ⟨hpending, List.isEmpty_iff.1 hempty, hbuffer, hdone, hdropped⟩
  · refine ⟨?_, rfl, hbuffer, hdone, hdropped⟩
    rw [← hpending]
    simp [pending, hbuffer, TextColumn.text]

theorem endColumn_columns (s : LineState) :
    s.endColumn.columns.reverse.flatMap (·.text) = s.pending := by
  obtain ⟨hpending, hruns, hbuffer, -, -⟩ := endColumn_spec s
  rw [← hpending, pending, hruns, hbuffer]
  simp

/-- Ending the text makes one directive of what is pending, if it shows. -/
theorem endText_spec (images : Images) (s : LineState) :
    s.endText.pending = [] ∧ s.endText.dropped = s.dropped ∧
      ∃ directives, s.endText.done.reverse = s.done.reverse ++ directives ∧
        List.Forall₂ (Prints images) ([Strand.text s.pending].filter Strand.shows) directives := by
  obtain ⟨-, hruns, hbuffer, hdone, hdropped⟩ := endColumn_spec s
  have hcolumns := endColumn_columns s
  unfold endText
  dsimp only
  split
  · rename_i hnone
    have hempty : s.pending = [] := by
      rw [← hcolumns, hnone]
      rfl
    refine ⟨?_, hdropped, [], ?_, ?_⟩
    · rw [(endColumn_spec s).1, hempty]
    · rw [hdone, List.append_nil]
    · rw [hempty]
      exact .nil
  · rename_i first rest hsome
    have hcontent : (AlignedText.ofColumns first rest).content = s.pending := by
      rw [← hcolumns, hsome]
      rfl
    rw [hcontent]
    by_cases hblank : Text.isBlank s.pending = true
    · rw [if_pos hblank]
      refine ⟨?_, hdropped, [], ?_, ?_⟩
      · simp [pending, hruns, hbuffer]
      · rw [List.append_nil]
        exact congrArg List.reverse hdone
      · rw [List.filter_cons_of_neg (by simp [Strand.shows, hblank])]
        exact .nil
    · rw [if_neg hblank]
      refine ⟨?_, hdropped, [.text (AlignedText.ofColumns first rest)], ?_, ?_⟩
      · simp [pending, hruns, hbuffer]
      · show (_ :: s.endColumn.done).reverse = _
        rw [List.reverse_cons, hdone]
      · rw [List.filter_cons_of_pos (by simp [Strand.shows, hblank])]
        exact .cons hcontent .nil

theorem elementDirective_prints {images : Images} {align : Align} {e : Element}
    {attributes : List Attribute} {content : Text} {d : Option Directive}
    (h : elementDirective images false align e attributes content = .ok d) :
    ∃ printed, d = some printed ∧ Prints images (.element e content) printed := by
  unfold elementDirective at h
  split at h
  · obtain ⟨size, -, rfl⟩ := Outcome.map_ok h
    exact ⟨_, rfl, rfl⟩
  · obtain ⟨height, -, rfl⟩ := Outcome.map_ok h
    exact ⟨_, rfl, rfl⟩
  · split at h
    · rename_i r hr
      cases h
      exact ⟨_, rfl, hr⟩
    · cases h

/-- A line that takes up pieces prints, in the end, what they show behind what it has. -/
theorem addAll_prints {images : Images} {number : Nat} {found : List Piece} :
    ∀ {s s' : LineState}, found.foldlM (add images false number) s = .ok s' →
      s'.dropped = s.dropped ∧
      ∃ directives, s'.endText.done.reverse = s.done.reverse ++ directives ∧
        List.Forall₂ (Prints images) ((strands s.pending found).filter Strand.shows)
          directives := by
  induction found with
  | nil =>
    intro s s' h
    cases h
    obtain ⟨-, -, hprints⟩ := endText_spec images s
    exact ⟨rfl, hprints⟩
  | cons piece more ih =>
    intro s s' h
    rw [List.foldlM_cons] at h
    obtain ⟨next, hnext, h⟩ := Outcome.bind_ok h
    obtain ⟨hdropped, directives, hdone, hprints⟩ := ih h
    -- A piece that is no element leaves the directives as they are.
    have hsame : next.dropped = s.dropped → next.done = s.done →
        strands next.pending more = strands s.pending (piece :: more) →
        s'.dropped = s.dropped ∧
        ∃ directives, s'.endText.done.reverse = s.done.reverse ++ directives ∧
          List.Forall₂ (Prints images) ((strands s.pending (piece :: more)).filter Strand.shows)
            directives := by
      intro hd hn hs
      rw [hn] at hdone
      rw [hs] at hprints
      exact ⟨hdropped.trans hd, directives, hdone, hprints⟩
    cases add_ok hnext with
    | text t =>
      refine hsame rfl rfl ?_
      rw [strands]
      congr 1
      simp [pending]
    | column align =>
      obtain ⟨hpending, -, -, hd, hdrop⟩ := endColumn_spec s
      exact hsame hdrop hd (congrArg (strands · more) hpending)
    | bold _ =>
      obtain ⟨hpending, -, hd, hdrop⟩ := endRun_spec s
      exact hsame hdrop hd (congrArg (strands · more) hpending)
    | dropped hnone =>
      obtain ⟨d, hd, -⟩ := elementDirective_prints hnone
      cases hd
    | @element e attributes content d helement =>
      obtain ⟨printed, hd, hown⟩ := elementDirective_prints helement
      cases hd
      obtain ⟨hpending, hdrop, before, hbefore, htext⟩ := endText_spec images s
      have hempty : ({ s.endText with done := d :: s.endText.done } : LineState).pending =
          [] := hpending
      rw [hempty] at hprints
      refine ⟨hdropped.trans hdrop, before ++ d :: directives, ?_, ?_⟩
      · calc s'.endText.done.reverse
            = (d :: s.endText.done).reverse ++ directives := hdone
          _ = s.endText.done.reverse ++ (d :: directives) := by
            rw [List.reverse_cons, List.append_assoc]
            rfl
          _ = s.done.reverse ++ (before ++ d :: directives) := by
            rw [hbefore, List.append_assoc]
      · rw [shown_element]
        exact List.rel_append htext (.cons hown hprints)

/-- The directives of a whole line are what its pieces show. -/
theorem finish_printed {images : Images} {number : Nat} {align : Align} {found : List Piece}
    {s : LineState} {job : Job}
    (hfold : found.foldlM (add images false number) { align := align } = .ok s)
    (h : s.finish number = .ok job) : Printed images found job := by
  obtain ⟨hdropped, directives, hdone, hprints⟩ := addAll_prints hfold
  have hstart : s.endText.done.reverse = directives := hdone
  have hshown : List.Forall₂ (Prints images) ((strands [] found).filter Strand.shows)
      directives := hprints
  have hkept : s.endText.dropped = false := (endText_spec images s).2.1.trans hdropped
  unfold finish at h
  split at h
  · cases h
  · dsimp only at h
    rw [hkept, Bool.not_false, Bool.and_true, ← List.isEmpty_reverse, hstart] at h
    unfold Printed
    generalize (strands [] found).filter Strand.shows = shown at hshown
    cases hshown with
    | nil =>
      cases h
      rfl
    | cons hfirst hrest =>
      cases h
      exact .cons hfirst hrest

end LineState

end Markup
end ThermalPrint
