import ThermalPrint.Markup.Compile
import ThermalPrint.Proofs.Markup.Lines
import ThermalPrint.Proofs.Markup.Scan

/-
Where the characters of a compiled job come from.  The compiler makes none up: all that its
directives print, as letters or as data for machines, stands in a line of the markup.
-/

namespace ThermalPrint
namespace Markup

/-- The characters of the line that a piece has taken over. -/
def Piece.characters : Piece → Text
  | .text t => t
  | .element _ _ content => content
  | _ => []

theorem pieces_characters {number : Nat} {c : Cursor} {piece : Piece}
    (h : piece ∈ (pieces number c).1) : ∀ x ∈ piece.characters, x ∈ c.rest := by
  fun_induction pieces number c with
  | case1 c hend => cases h
  | case2 c hmore n hn more fault heq ih =>
    rcases List.mem_cons.1 h with rfl | hrest
    · exact fun x hx => List.mem_of_mem_take hx
    · rw [heq] at ih
      exact fun x hx => List.mem_of_mem_drop (ih hrest x hx)
  | case3 c hmore n hn fault hread => cases h
  | case4 c hmore n hn first length hread more fault heq ih =>
    rcases List.mem_cons.1 h with rfl | hrest
    · rcases readToken_ok hread with ⟨_, _, _, -, -, rfl, -⟩ | ⟨_, -, -, -, rfl, -⟩ |
        ⟨_, _, _, _, -, -, -, -, -, rfl, -⟩
      · exact nofun
      · exact nofun
      · exact fun x hx => List.mem_of_mem_drop (List.mem_of_mem_take hx)
    · rw [heq] at ih
      exact fun x hx => List.mem_of_mem_drop (ih hrest x hx)

theorem trim_mem {t : Text} {c : CodePoint} (h : c ∈ Text.trim t) : c ∈ t := by
  have hleft := List.mem_reverse.1 ((List.dropWhile_sublist _).mem (List.mem_reverse.1 h))
  exact (List.dropWhile_sublist _).mem hleft

theorem elementDirective_characters {images : Images} {imageOptional : Bool} {align : Align}
    {e : Element} {attributes : List Attribute} {content : Text} {d : Directive}
    (h : elementDirective images imageOptional align e attributes content = .ok (some d)) :
    ∀ c ∈ d.characters, c ∈ content := by
  unfold elementDirective at h
  split at h
  · obtain ⟨size, -, hd⟩ := Outcome.map_ok h
    cases hd
    exact fun c hc => hc
  · obtain ⟨height, -, hd⟩ := Outcome.map_ok h
    cases hd
    exact fun c hc => trim_mem hc
  · split at h
    · cases h
      exact nofun
    · split at h
      · cases h
      · cases h

namespace LineState

/-- All characters that a line under construction holds are of a kind. -/
structure Within (p : CodePoint → Prop) (s : LineState) : Prop where
  buffer : ∀ c ∈ s.buffer, p c
  runs : ∀ r ∈ s.runs, ∀ c ∈ r.text, p c
  columns : ∀ k ∈ s.columns, ∀ c ∈ k.text, p c
  done : ∀ d ∈ s.done, ∀ c ∈ d.characters, p c

variable {p : CodePoint → Prop} {s : LineState}

theorem Within.endRun (h : s.Within p) : s.endRun.Within p := by
  unfold LineState.endRun
  split
  · exact h
  · refine { h with buffer := fun c hc => absurd hc List.not_mem_nil, runs := fun r hr => ?_ }
    rcases List.mem_cons.1 hr with rfl | hr
    · exact h.buffer
    · exact h.runs r hr

theorem Within.endColumn (h : s.Within p) : s.endColumn.Within p := by
  have hrun := h.endRun
  unfold LineState.endColumn
  dsimp only
  split
  · exact hrun
  · refine { hrun with runs := fun r hr => absurd hr List.not_mem_nil, columns := fun k hk => ?_ }
    rcases List.mem_cons.1 hk with rfl | hk
    · intro c hc
      obtain ⟨r, hr, hcr⟩ := TextColumn.mem_text.1 hc
      exact hrun.runs r (List.mem_reverse.1 hr) c hcr
    · exact hrun.columns k hk

theorem Within.endText (h : s.Within p) : s.endText.Within p := by
  have hcolumn := h.endColumn
  unfold LineState.endText
  dsimp only
  split
  · exact hcolumn
  · rename_i first rest heq
    have hempty : ({ s.endColumn with columns := [] } : LineState).Within p :=
      { hcolumn with columns := fun k hk => absurd hk List.not_mem_nil }
    split
    · exact hempty
    · refine { hempty with done := fun d hd => ?_ }
      rcases List.mem_cons.1 hd with rfl | hd
      · intro c hc
        rw [Directive.characters_text] at hc
        obtain ⟨k, hk, hck⟩ := AlignedText.ofColumns_letters hc
        rw [← heq] at hk
        exact hcolumn.columns k (List.mem_reverse.1 hk) c hck
      · exact hcolumn.done d hd

theorem Within.push (h : s.Within p) {d : Directive} (hd : ∀ c ∈ d.characters, p c) :
    ({ s with done := d :: s.done } : LineState).Within p := by
  refine { h with done := fun d' hd' => ?_ }
  rcases List.mem_cons.1 hd' with rfl | hd'
  · exact hd
  · exact h.done d' hd'

theorem Within.add {images : Images} {imageOptional : Bool} {number : Nat} {piece : Piece}
    {s' : LineState} (h : s.Within p) (hpiece : ∀ c ∈ piece.characters, p c)
    (hadd : s.add images imageOptional number piece = .ok s') : s'.Within p := by
  cases LineState.add_ok hadd with
  | text t =>
    refine { h with buffer := fun c hc => ?_ }
    rcases List.mem_append.1 hc with hc | hc
    · exact h.buffer c hc
    · exact hpiece c hc
  | column align => exact { h.endColumn with }
  | bold _ => exact { h.endRun with }
  | dropped _ => exact { h with }
  | element hd => exact h.endText.push fun c hc => hpiece c (elementDirective_characters hd c hc)

theorem Within.addAll {images : Images} {imageOptional : Bool} {number : Nat}
    {found : List Piece} {s' : LineState} (h : s.Within p)
    (hfound : ∀ piece ∈ found, ∀ c ∈ piece.characters, p c)
    (hfold : found.foldlM (LineState.add images imageOptional number) s = .ok s') :
    s'.Within p := by
  refine Outcome.foldlM_keeps (fun s s' piece hmem hs hadd => ?_) h hfold
  exact hs.add (hfound piece hmem) hadd

theorem Within.finish {number : Nat} {job : Job} (h : s.Within p)
    (hfinish : s.finish number = .ok job) : ∀ d ∈ job, ∀ c ∈ d.characters, p c := by
  rcases LineState.finish_cases hfinish with ⟨-, rfl⟩ | ⟨rfl, -⟩
  · intro d hd c hc
    rw [List.mem_singleton.1 hd] at hc
    cases hc
  · exact fun d hd => h.endText.done d (List.mem_reverse.1 hd)

end LineState

theorem ruleMark?_mem {t : Text} {mark : CodePoint} (h : ruleMark? t = some mark) : mark ∈ t := by
  unfold ruleMark? at h
  split at h
  · split at h
    · cases h
      exact List.mem_cons_self
    · cases h
  · cases h

theorem compileLine_characters {images : Images} {imageOptional : Bool} {number : Nat} {line : Text}
    {job : Job} (h : compileLine images imageOptional number line = .ok job) :
    ∀ d ∈ job, ∀ c ∈ d.characters, c ∈ line := by
  rcases compileLine_cases h with ⟨-, rfl⟩ | ⟨mark, hmark, rfl⟩ |
    ⟨found, s, hread, hfold, hfinish⟩
  · intro d hd c hc
    rw [List.mem_singleton.1 hd] at hc
    cases hc
  · intro d hd c hc
    rw [List.mem_singleton.1 hd] at hc
    rw [List.mem_singleton.1 hc]
    exact List.mem_of_mem_drop (trim_mem (ruleMark?_mem hmark))
  · have hstart : ({ align := (lineAlign line).1 } : LineState).Within (· ∈ line) :=
      ⟨by simp, by simp, by simp, by simp⟩
    have hpieces : ∀ piece ∈ found, ∀ c ∈ piece.characters, c ∈ line := by
      intro piece hpiece c hc
      have hmem : piece ∈ (pieces number ((Cursor.ofLine line).advance (lineAlign line).2)).1 := by
        rwa [hread]
      exact List.mem_of_mem_drop (pieces_characters hmem c hc)
    exact (hstart.addAll hpieces hfold).finish hfinish

/-- The characters of a compiled job stand in the markup, and none of them is a line feed. -/
theorem compile_characters {images : Images} {options : Options} {source : Text} {job : Job}
    (h : compile images options source = .ok job) :
    ∀ d ∈ job, ∀ c ∈ d.characters, c ∈ source ∧ c ≠ '\n' := by
  unfold compile at h
  split at h
  · cases h
  · rename_i jobs hjobs
    cases h
    intro d hd c hc
    rcases List.mem_append.1 hd with hd | hd
    · obtain ⟨part, hpart, hd⟩ := List.mem_flatten.1 hd
      obtain ⟨⟨line, i⟩, hline, hcompile⟩ := Outcome.mem_of_mapM hjobs hpart
      exact sourceLines_mem (List.fst_mem_of_mem_zipIdx hline)
        (compileLine_characters hcompile d hd c hc)
    · split at hd
      · rw [List.mem_singleton.1 hd] at hc
        cases hc
      · cases hd

end Markup
end ThermalPrint
