import ThermalPrint.Proofs.Markup.Division

/-
Lines in which no element stands: text with alignment tags and tags for bold type in it.

`Begins` divides the front of a line only, so that it also speaks of lines that go wrong further
on.  Behind such a front the scanner goes on as if it began there.
-/

namespace ThermalPrint
namespace Markup

/-- The front of a line consists of text, alignment tags and tags for bold type.  The last part is
what stands behind it. -/
inductive Begins : Text → List Segment → Text → Prop
  | here (t : Text) : Begins t [] t
  | text {t more rest : Text} {segments : List Segment} (hne : t ≠ [])
      (hplain : ∀ i < t.length, beginsToken ((t ++ more).drop i) = false)
      (hend : more = [] ∨ beginsToken more = true) (hmore : Begins more segments rest) :
      Begins (t ++ more) (.text t :: segments) rest
  | column {l : CodePoint} {more rest : Text} {align : Align} {segments : List Segment}
      (halign : Align.ofLetter? l = some align) (hmore : Begins more segments rest) :
      Begins ([.char '[', l, .char ']'] ++ more)
        (.column [.char '[', l, .char ']'] align :: segments) rest
  | bold {written more rest : Text} {tag : Tag} {segments : List Segment}
      (htag : readTag? (written ++ more) = some tag) (hlength : tag.length = written.length)
      (hname : tag.name = boldName) (hattributes : tag.closing = false → tag.attributes = [])
      (hmore : Begins more segments rest) :
      Begins (written ++ more) (.bold written (!tag.closing) :: segments) rest

theorem Begins.written {t rest : Text} {segments : List Segment} (h : Begins t segments rest) :
    segments.flatMap Segment.written ++ rest = t := by
  induction h with
  | here t => rfl
  | text _ _ _ _ ih => rw [List.flatMap_cons, List.append_assoc, ih]; rfl
  | column _ _ ih => rw [List.flatMap_cons, List.append_assoc, ih]; rfl
  | bold _ _ _ _ _ ih => rw [List.flatMap_cons, List.append_assoc, ih]; rfl

/-- No element has a tag, for its beginning or for its end, where a tag of the line is read. -/
def Textual (t : Text) : Prop :=
  ∀ segments rest tag, Begins t segments rest → readTag? rest = some tag →
    Element.ofName? tag.name = none

/-- So it is if no such tag stands anywhere in the line. -/
theorem textual_of_suffix {t : Text}
    (h : ∀ rest tag, rest <:+ t → readTag? rest = some tag → Element.ofName? tag.name = none) :
    Textual t := by
  intro segments rest tag hbegins htag
  refine h rest tag ?_ htag
  rw [← hbegins.written]
  exact List.suffix_append _ _

theorem Begins.read (number : Nat) {t rest : Text} {segments : List Segment}
    (h : Begins t segments rest) : ∀ {c : Cursor}, c.rest = t → ∃ d : Cursor, d.rest = rest ∧
      pieces number c =
        (segments.map Segment.piece ++ (pieces number d).1, (pieces number d).2) := by
  induction h with
  | here t => exact fun {c} hc => ⟨c, hc, rfl⟩
  | text hne hplain hend _ ih =>
    intro c hc
    obtain ⟨d, hd, hpieces⟩ := ih (advance_rest hc)
    exact ⟨d, hd, by rw [read_text hc hne hplain hend, hpieces]; rfl⟩
  | column halign _ ih =>
    intro c hc
    obtain ⟨d, hd, hpieces⟩ := ih (c := c.advance 3) (advance_rest hc)
    exact ⟨d, hd, by rw [read_column hc halign, hpieces]; rfl⟩
  | bold htag hlength hname hattributes _ ih =>
    intro c hc
    obtain ⟨d, hd, hpieces⟩ := ih (advance_rest hc)
    rw [← hlength] at hpieces
    rw [← hc] at htag
    exact ⟨d, hd, by rw [read_bold htag hname hattributes, hpieces]; rfl⟩

theorem begins_text {t rest : Text} {segments : List Segment} (h : 0 < plainLength t)
    (hrest : Begins (t.drop (plainLength t)) segments rest) :
    Begins t (.text (t.take (plainLength t)) :: segments) rest := by
  obtain ⟨hne, hplain⟩ := plain_front h
  have hbegins := Begins.text hne hplain (plainLength_behind t) hrest
  rw [List.take_append_drop] at hbegins
  exact hbegins

theorem begins_bold {t rest : Text} {tag : Tag} {segments : List Segment}
    (htag : readTag? t = some tag) (hname : tag.name = boldName)
    (hattributes : tag.closing = false → tag.attributes = [])
    (hrest : Begins (t.drop tag.length) segments rest) :
    Begins t (.bold (t.take tag.length) (!tag.closing) :: segments) rest := by
  have hlength : tag.length = (t.take tag.length).length := by
    rw [List.length_take, Nat.min_eq_left (readTag?_length htag).2]
  have hbegins : Begins (t.take tag.length ++ t.drop tag.length)
      (.bold (t.take tag.length) (!tag.closing) :: segments) rest :=
    .bold (by rw [List.take_append_drop]; exact htag) hlength hname hattributes hrest
  rw [List.take_append_drop] at hbegins
  exact hbegins

/-- A line without elements that is read without a fault is such a front and no more. -/
theorem begins_of_pieces {number : Nat} {t : Text} :
    ∀ {c : Cursor} {found : List Piece}, c.rest = t → Textual t →
      pieces number c = (found, none) →
      ∃ segments, Begins t segments [] ∧ found = segments.map Segment.piece := by
  induction t using behind_induction with
  | step t ih =>
    rintro c found rfl htextual h
    rcases front_cases c.rest with hend | ⟨hne, hfront⟩
    · rw [pieces_end hend] at h
      cases h
      rw [hend]
      exact ⟨[], .here [], rfl⟩
    -- A front of what stands further on is a front of the line behind its first part.
    have hbehind : ∀ {k : Nat} (segment : Segment), 0 < k →
        (∀ segments rest, Begins (c.rest.drop k) segments rest →
          Begins c.rest (segment :: segments) rest) →
        (segment.piece :: (pieces number (c.advance k)).1,
          (pieces number (c.advance k)).2) = (found, none) →
        ∃ segments, Begins c.rest segments [] ∧ found = segments.map Segment.piece := by
      intro k segment hk hfirst hpieces
      obtain ⟨rfl, hfault⟩ := Prod.mk.inj hpieces
      have hrest : Textual (c.rest.drop k) := fun segments rest tag hbegins =>
        htextual _ rest tag (hfirst segments rest hbegins)
      obtain ⟨segments, hbegins, hmap⟩ := ih hne k hk rfl hrest (Prod.ext rfl hfault)
      exact ⟨segment :: segments, hfirst segments [] hbegins, congrArg (segment.piece :: ·) hmap⟩
    rcases hfront with hplain | htoken
    · rw [pieces_plain hplain] at h
      exact hbehind (.text _) hplain (fun segments rest hrest => begins_text hplain hrest) h
    cases hread : readToken number c with
    | error fault =>
      rw [pieces_fault htoken hread] at h
      cases h
    | ok p =>
      obtain ⟨piece, length⟩ := p
      rw [pieces_token htoken hread] at h
      rcases readToken_ok hread with ⟨l, more, align, hmore, halign, rfl, rfl⟩ |
        ⟨tag, htag, hname, hattributes, rfl, rfl⟩ |
        ⟨tag, e, attributes, n, htag, -, hname, -, -, -, -⟩
      · refine hbehind (.column [.char '[', l, .char ']'] align) (Nat.succ_pos 2)
          (fun segments rest hrest => ?_) h
        rw [hmore] at hrest ⊢
        exact .column halign hrest
      · have hmax : max 1 tag.length = tag.length := by
          have := (readTag?_length htag).1
          omega
        rw [hmax] at h
        exact hbehind (.bold _ (!tag.closing)) (readTag?_length htag).1
          (fun segments rest hrest => begins_bold htag hname hattributes hrest) h
      · have hnone := htextual [] c.rest tag (.here _) htag
        rw [ofName?_eq_some.2 hname] at hnone
        cases hnone

end Markup
end ThermalPrint
