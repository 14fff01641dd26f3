import ThermalPrint.Proofs.Markup.Scan
import ThermalPrint.Proofs.Text.Search

/-
A line divided from the left into alignment tags, tags for bold type, elements and the text
between them.  The division looks at the line alone.  The scanner looks for the end of an element
in a folded copy of the line, so it reads the division of a line when the copy has the closing tags
where the line has them.
-/

namespace ThermalPrint
namespace Markup

/-- A part of a line as it is written. -/
inductive Segment
  | text (t : Text)
  | column (written : Text) (align : Align)
  | bold (written : Text) (on : Bool)
  | element (opening : Text) (e : Element) (attributes : List Attribute) (content closing : Text)

namespace Segment

def written : Segment → Text
  | text t => t
  | column written _ => written
  | bold written _ => written
  | element opening _ _ content closing => opening ++ content ++ closing

def piece : Segment → Piece
  | text t => .text t
  | column _ align => .column align
  | bold _ on => .bold on
  | element _ e attributes content _ => .element e attributes content

end Segment

/-- A text begins with the tag that ends an element, in letters of any case. -/
def Closes (e : Element) (t : Text) : Prop := e.closingTag <+: t.map CodePoint.toLower

/-- The division of a line.  Plain text goes up to the first token or to the end, and the content
of an element up to the first tag that closes it. -/
inductive Divides : Text → List Segment → Prop
  | done : Divides [] []
  | text {t rest : Text} {segments : List Segment} (hne : t ≠ [])
      (hplain : ∀ i < t.length, beginsToken ((t ++ rest).drop i) = false)
      (hend : rest = [] ∨ beginsToken rest = true) (hrest : Divides rest segments) :
      Divides (t ++ rest) (.text t :: segments)
  | column {l : CodePoint} {rest : Text} {align : Align} {segments : List Segment}
      (halign : Align.ofLetter? l = some align) (hrest : Divides rest segments) :
      Divides ([.char '[', l, .char ']'] ++ rest)
        (.column [.char '[', l, .char ']'] align :: segments)
  | bold {written rest : Text} {tag : Tag} {segments : List Segment}
      (htag : readTag? (written ++ rest) = some tag) (hlength : tag.length = written.length)
      (hname : tag.name = boldName) (hattributes : tag.closing = false → tag.attributes = [])
      (hrest : Divides rest segments) :
      Divides (written ++ rest) (.bold written (!tag.closing) :: segments)
  | element {opening content closing rest : Text} {tag : Tag} {e : Element}
      {attributes : List Attribute} {segments : List Segment}
      (htag : readTag? (opening ++ content ++ closing ++ rest) = some tag)
      (hlength : tag.length = opening.length) (hopen : tag.closing = false)
      (hname : tag.name = e.name)
      (hattributes : checkAttributes tag.name e.keys tag.attributes = .ok attributes)
      (hclosing : closing.map CodePoint.toLower = e.closingTag)
      (hfirst : ∀ i < content.length, ¬ Closes e ((content ++ closing ++ rest).drop i))
      (hrest : Divides rest segments) :
      Divides (opening ++ content ++ closing ++ rest)
        (.element opening e attributes content closing :: segments)

theorem Divides.written {t : Text} {segments : List Segment} (h : Divides t segments) :
    segments.flatMap Segment.written = t := by
  induction h with
  | done => rfl
  | text _ _ _ _ ih => rw [List.flatMap_cons, ih]; rfl
  | column _ _ ih => rw [List.flatMap_cons, ih]; rfl
  | bold _ _ _ _ _ ih => rw [List.flatMap_cons, ih]; rfl
  | element _ _ _ _ _ _ _ _ ih => rw [List.flatMap_cons, ih]; rfl

/-- At every element the copy beside the line has the closing tag where the line has it. -/
def Found (c : Cursor) : List Segment → Prop
  | [] => True
  | .element opening e attributes content closing :: more =>
    Text.find? e.closingTag (c.advance opening.length).folded = some content.length ∧
      Found (c.advance (Segment.element opening e attributes content closing).written.length) more
  | segment :: more => Found (c.advance segment.written.length) more

theorem closingTag_length (e : Element) : e.closingTag.length = e.name.length + 3 := by
  cases e with
  | img => rfl
  | qrcode => rfl
  | barcode => rfl

theorem advance_rest {c : Cursor} {t rest : Text} (h : c.rest = t ++ rest) :
    (c.advance t.length).rest = rest := by
  show c.rest.drop t.length = rest
  rw [h, List.drop_left]

theorem reading_cons {p q : Piece} {more : List Piece} {r : List Piece × Option MarkupFault} :
    (p :: r.1, r.2) = (q :: more, none) ↔ p = q ∧ r = (more, none) := by
  rw [Prod.ext_iff, Prod.ext_iff, List.cons.injEq, and_assoc]

section Reading

variable {number : Nat} {c : Cursor} {rest : Text}

theorem read_text {t : Text} (hc : c.rest = t ++ rest) (hne : t ≠ [])
    (hplain : ∀ i < t.length, beginsToken ((t ++ rest).drop i) = false)
    (hend : rest = [] ∨ beginsToken rest = true) :
    pieces number c = (.text t :: (pieces number (c.advance t.length)).1,
      (pieces number (c.advance t.length)).2) := by
  have hlength : plainLength c.rest = t.length := by
    rw [hc]
    exact plainLength_append hplain hend
  have hpos : 0 < plainLength c.rest := by
    rw [hlength]
    exact List.length_pos_iff.2 hne
  rw [pieces_plain hpos, hlength, hc, List.take_left]

theorem read_column {l : CodePoint} {align : Align}
    (hc : c.rest = [.char '[', l, .char ']'] ++ rest) (halign : Align.ofLetter? l = some align) :
    pieces number c =
      (.column align :: (pieces number (c.advance 3)).1, (pieces number (c.advance 3)).2) := by
  have hread : readToken number c = .ok (.column align, 3) := readToken_column hc halign
  have htoken : beginsToken c.rest = true := by
    rw [hc, beginsToken]
    show ((Align.ofLetter? l).isSome || _) = true
    rw [halign]
    rfl
  exact pieces_token htoken hread

theorem read_bold {tag : Tag} (htag : readTag? c.rest = some tag) (hname : tag.name = boldName)
    (hattributes : tag.closing = false → tag.attributes = []) :
    pieces number c = (.bold (!tag.closing) :: (pieces number (c.advance tag.length)).1,
      (pieces number (c.advance tag.length)).2) := by
  have hmax : max 1 tag.length = tag.length := by
    have := (readTag?_length htag).1
    omega
  rw [pieces_token (beginsToken_of_readTag? htag) (readToken_bold htag hname hattributes), hmax]

/-- An element is read for what it is, with what follows it, exactly if its closing tag is found
behind its content. -/
theorem read_element {opening content closing : Text} {tag : Tag} {e : Element}
    {attributes : List Attribute} {more : List Piece}
    (hc : c.rest = opening ++ content ++ closing ++ rest) (htag : readTag? c.rest = some tag)
    (hlength : tag.length = opening.length) (hopen : tag.closing = false)
    (hname : tag.name = e.name)
    (hattributes : checkAttributes tag.name e.keys tag.attributes = .ok attributes)
    (hclosing : closing.length = e.closingTag.length) :
    pieces number c = (.element e attributes content :: more, none) ↔
      Text.find? e.closingTag (c.advance opening.length).folded = some content.length ∧
        pieces number (c.advance (opening ++ content ++ closing).length) = (more, none) := by
  have htoken := beginsToken_of_readTag? htag
  have hinside : (c.advance opening.length).rest = content ++ (closing ++ rest) :=
    advance_rest (by rw [hc, List.append_assoc, List.append_assoc])
  have htagLength := closingTag_length e
  cases hfind : Text.find? e.closingTag (c.advance opening.length).folded with
  | none =>
    have hread : readToken number c = .error (.unclosed tag.name number) :=
      readToken_unclosed htag hopen hname hattributes (hlength ▸ hfind)
    rw [pieces_fault htoken hread]
    constructor
    · intro h
      cases h
    · rintro ⟨h, -⟩
      cases h
  | some n =>
    have hread : readToken number c = .ok (.element e attributes _, _) :=
      readToken_element htag hopen hname hattributes (hlength ▸ hfind)
    rw [hlength] at hread
    rw [pieces_token htoken hread, reading_cons, hinside]
    -- The content is the one in the line only if it is as long.
    have hcontent : (content ++ (closing ++ rest)).take n = content ↔ n = content.length := by
      constructor
      · intro h
        have htaken := congrArg List.length h
        rw [List.length_take, List.length_append, List.length_append] at htaken
        omega
      · rintro rfl
        exact List.take_left
    have hmax : n = content.length →
        max 1 (opening.length + n + e.closingTag.length) =
          (opening ++ content ++ closing).length := by
      rintro rfl
      rw [List.length_append, List.length_append, hclosing]
      omega
    constructor
    · rintro ⟨hpiece, hrest⟩
      have hn := hcontent.1 (Piece.element.inj hpiece).2.2
      rw [hmax hn] at hrest
      exact ⟨by rw [hn], hrest⟩
    · rintro ⟨hn, hrest⟩
      have hn := Option.some.inj hn
      rw [hmax hn, hcontent.2 hn]
      exact ⟨rfl, hrest⟩

end Reading

/-- The scanner reads the division of a line, to its end and without a fault, exactly if the copy
has the closing tags where the line has them. -/
theorem pieces_eq_iff (number : Nat) {t : Text} {segments : List Segment} (h : Divides t segments) :
    ∀ {c : Cursor}, c.rest = t →
      (pieces number c = (segments.map Segment.piece, none) ↔ Found c segments) := by
  induction h with
  | done =>
    intro c hc
    rw [pieces_end hc]
    exact ⟨fun _ => trivial, fun _ => rfl⟩
  | @text t rest segments hne hplain hend _ ih =>
    intro c hc
    rw [read_text hc hne hplain hend]
    show (_, _) = (Piece.text t :: segments.map Segment.piece, none) ↔
      Found (c.advance t.length) segments
    rw [reading_cons, ih (advance_rest hc)]
    exact ⟨fun h => h.2, fun h => ⟨rfl, h⟩⟩
  | @column l rest align segments halign _ ih =>
    intro c hc
    have hrest := ih (advance_rest hc)
    rw [read_column hc halign]
    show (_, _) = (Piece.column align :: segments.map Segment.piece, none) ↔
      Found (c.advance 3) segments
    rw [reading_cons]
    exact ⟨fun h => hrest.1 h.2, fun h => ⟨rfl, hrest.2 h⟩⟩
  | @bold written rest tag segments htag hlength hname hattributes _ ih =>
    intro c hc
    rw [← hc] at htag
    rw [read_bold htag hname hattributes, hlength]
    show (_, _) = (Piece.bold (!tag.closing) :: segments.map Segment.piece, none) ↔
      Found (c.advance written.length) segments
    rw [reading_cons, ih (advance_rest hc)]
    exact ⟨fun h => h.2, fun h => ⟨rfl, h⟩⟩
  | @element opening content closing rest tag e attributes segments htag hlength hopen hname
      hattributes hclosing hfirst _ ih =>
    intro c hc
    rw [← hc] at htag
    have hsize : closing.length = e.closingTag.length := by
      rw [← hclosing, List.length_map]
    have hwritten : (c.advance (opening ++ content ++ closing).length).rest = rest :=
      advance_rest hc
    show _ = (Piece.element e attributes content :: segments.map Segment.piece, none) ↔
      (_ ∧ Found (c.advance (opening ++ content ++ closing).length) segments)
    rw [read_element hc htag hlength hopen hname hattributes hsize, ih hwritten]

/-- A line beside a copy of itself in small letters of ASCII.  The copy keeps step. -/
def Cursor.even (t : Text) : Cursor := ⟨t, t.map CodePoint.toLower⟩

theorem Cursor.even_advance (t : Text) (n : Nat) :
    (Cursor.even t).advance n = Cursor.even (t.drop n) := by
  unfold Cursor.even Cursor.advance
  rw [List.map_drop]

theorem find?_closingTag {e : Element} {t : Text} {n : Nat} :
    Text.find? e.closingTag (t.map CodePoint.toLower) = some n ↔
      Closes e (t.drop n) ∧ ∀ i < n, ¬ Closes e (t.drop i) := by
  have hne : e.closingTag ≠ [] := List.cons_ne_nil _ _
  rw [Text.find?_eq_some hne, ← List.map_drop]
  constructor
  · rintro ⟨hbegins, hfirst⟩
    refine ⟨hbegins, fun i hi hc => hfirst i hi ?_⟩
    rw [← List.map_drop]
    exact hc
  · rintro ⟨hbegins, hfirst⟩
    refine ⟨hbegins, fun i hi hc => hfirst i hi ?_⟩
    rw [← List.map_drop] at hc
    exact hc

theorem found_even {t : Text} {segments : List Segment} (h : Divides t segments) :
    Found (Cursor.even t) segments := by
  induction h with
  | done => trivial
  | @text t rest segments _ _ _ _ ih =>
    show Found ((Cursor.even (t ++ rest)).advance t.length) segments
    rw [Cursor.even_advance, List.drop_left]
    exact ih
  | column _ _ ih => exact ih
  | @bold written rest _ segments _ _ _ _ _ ih =>
    show Found ((Cursor.even (written ++ rest)).advance written.length) segments
    rw [Cursor.even_advance, List.drop_left]
    exact ih
  | @element opening content closing rest _ e _ segments _ _ _ _ _ hclosing hfirst _ ih =>
    refine ⟨?_, ?_⟩
    · rw [Cursor.even_advance, List.append_assoc, List.append_assoc, List.drop_left]
      refine find?_closingTag.2 ⟨?_, ?_⟩
      · rw [List.drop_left, Closes, List.map_append, hclosing]
        exact List.prefix_append _ _
      · rw [← List.append_assoc]
        exact hfirst
    · show Found ((Cursor.even _).advance (opening ++ content ++ closing).length) segments
      rw [Cursor.even_advance, List.drop_left]
      exact ih

theorem plain_front {t : Text} (h : 0 < plainLength t) :
    t.take (plainLength t) ≠ [] ∧ ∀ i < (t.take (plainLength t)).length,
      beginsToken ((t.take (plainLength t) ++ t.drop (plainLength t)).drop i) = false := by
  have hlength : (t.take (plainLength t)).length = plainLength t := by
    rw [List.length_take, Nat.min_eq_left (plainLength_le t)]
  constructor
  · rw [← List.length_pos_iff, hlength]
    exact h
  · intro i hi
    rw [hlength] at hi
    rw [List.take_append_drop]
    exact plainLength_before t i hi

theorem divides_text {t : Text} {segments : List Segment} (h : 0 < plainLength t)
    (hrest : Divides (t.drop (plainLength t)) segments) :
    Divides t (.text (t.take (plainLength t)) :: segments) := by
  obtain ⟨hne, hplain⟩ := plain_front h
  have hdivides := Divides.text hne hplain (plainLength_behind t) hrest
  rw [List.take_append_drop] at hdivides
  exact hdivides

theorem divides_bold {t : Text} {tag : Tag} {segments : List Segment}
    (htag : readTag? t = some tag) (hname : tag.name = boldName)
    (hattributes : tag.closing = false → tag.attributes = [])
    (hrest : Divides (t.drop tag.length) segments) :
    Divides t (.bold (t.take tag.length) (!tag.closing) :: segments) := by
  have hlength : tag.length = (t.take tag.length).length := by
    rw [List.length_take, Nat.min_eq_left (readTag?_length htag).2]
  have hdivides : Divides (t.take tag.length ++ t.drop tag.length)
      (.bold (t.take tag.length) (!tag.closing) :: segments) :=
    .bold (by rw [List.take_append_drop]; exact htag) hlength hname hattributes hrest
  rw [List.take_append_drop] at hdivides
  exact hdivides

theorem divides_element {t : Text} {tag : Tag} {e : Element} {attributes : List Attribute}
    {segments : List Segment} {n : Nat} (htag : readTag? t = some tag)
    (hopen : tag.closing = false) (hname : tag.name = e.name)
    (hattributes : checkAttributes tag.name e.keys tag.attributes = .ok attributes)
    (hcloses : Closes e ((t.drop tag.length).drop n))
    (hfirst : ∀ i < n, ¬ Closes e ((t.drop tag.length).drop i))
    (hrest : Divides (t.drop (tag.length + n + e.closingTag.length)) segments) :
    ∃ closing, Divides t
      (.element (t.take tag.length) e attributes ((t.drop tag.length).take n) closing ::
        segments) := by
  let inside := t.drop tag.length
  let closing := (inside.drop n).take e.closingTag.length
  have hinside : inside.take n ++ closing ++ t.drop (tag.length + n + e.closingTag.length) =
      inside := by
    rw [← List.drop_drop, ← List.drop_drop, List.append_assoc, List.take_append_drop,
      List.take_append_drop]
  have hwhole : t.take tag.length ++ inside.take n ++ closing ++
      t.drop (tag.length + n + e.closingTag.length) = t := by
    rw [List.append_assoc, List.append_assoc, ← List.append_assoc (inside.take n), hinside,
      List.take_append_drop]
  have hlength : tag.length = (t.take tag.length).length := by
    rw [List.length_take, Nat.min_eq_left (readTag?_length htag).2]
  have hclosing : closing.map CodePoint.toLower = e.closingTag := by
    rw [List.map_take]
    exact (List.prefix_iff_eq_take.1 hcloses).symm
  refine ⟨closing, ?_⟩
  have hdivides : Divides (t.take tag.length ++ inside.take n ++ closing ++
      t.drop (tag.length + n + e.closingTag.length))
      (.element (t.take tag.length) e attributes (inside.take n) closing :: segments) := by
    refine .element ?_ hlength hopen hname hattributes hclosing (fun i hi => ?_) hrest
    · rw [hwhole]
      exact htag
    · rw [hinside]
      rw [List.length_take] at hi
      exact hfirst i (by omega)
  rw [hwhole] at hdivides
  exact hdivides

/-- A line that is read without a fault beside a copy that keeps step has a division, and it is
the one that is read. -/
theorem divides_of_even (number : Nat) {t : Text} {found : List Piece}
    (h : pieces number (Cursor.even t) = (found, none)) :
    ∃ segments, Divides t segments ∧ found = segments.map Segment.piece := by
  induction t using behind_induction generalizing found with
  | step t ih =>
    rcases front_cases t with rfl | ⟨hne, hfront⟩
    · rw [pieces_end rfl] at h
      cases h
      exact ⟨[], .done, rfl⟩
    -- What is read behind the front of the line is divided by induction.
    have hbehind : ∀ {k : Nat} {piece : Piece}, 0 < k →
        (piece :: (pieces number ((Cursor.even t).advance k)).1,
          (pieces number ((Cursor.even t).advance k)).2) = (found, none) →
        ∃ segments, Divides (t.drop k) segments ∧
          found = piece :: segments.map Segment.piece := by
      intro k piece hk hpieces
      rw [Cursor.even_advance] at hpieces
      obtain ⟨hfound, hfault⟩ := Prod.mk.inj hpieces
      obtain ⟨segments, hsegments, hmap⟩ := ih hne k hk (Prod.ext rfl hfault)
      exact ⟨segments, hsegments, hfound.symm.trans (congrArg (piece :: ·) hmap)⟩
    rcases hfront with hplain | htoken
    · rw [pieces_plain hplain] at h
      obtain ⟨segments, hsegments, hfound⟩ := hbehind hplain h
      exact ⟨_, divides_text hplain hsegments, hfound⟩
    cases hread : readToken number (Cursor.even t) with
    | error fault =>
      rw [pieces_fault htoken hread] at h
      cases h
    | ok p =>
      obtain ⟨piece, length⟩ := p
      rw [pieces_token htoken hread] at h
      obtain ⟨segments, hsegments, hfound⟩ := hbehind (Nat.le_max_left 1 length) h
      rcases readToken_ok hread with ⟨l, rest, align, hrest, halign, rfl, rfl⟩ |
        ⟨tag, htag, hname, hattributes, rfl, rfl⟩ |
        ⟨tag, e, attributes, n, htag, hopen, hname, hattributes, hfind, rfl, rfl⟩
      · have ht : t = [.char '[', l, .char ']'] ++ rest := hrest
        subst ht
        exact ⟨_, .column halign hsegments, hfound⟩
      · have hmax : max 1 tag.length = tag.length := by
          have := (readTag?_length htag).1
          omega
        rw [hmax] at hsegments
        exact ⟨_, divides_bold htag hname hattributes hsegments, hfound⟩
      · rw [Cursor.even_advance] at hfind
        obtain ⟨hcloses, hfirst⟩ := find?_closingTag.1 hfind
        have hmax : max 1 (tag.length + n + e.closingTag.length) =
            tag.length + n + e.closingTag.length := by
          have := closingTag_length e
          omega
        rw [hmax] at hsegments
        obtain ⟨closing, hdivides⟩ :=
          divides_element htag hopen hname hattributes hcloses hfirst hsegments
        exact ⟨_, hdivides, hfound⟩

theorem readToken_congr (number : Nat) {c d : Cursor} (hrest : c.rest = d.rest)
    (hfind : ∀ (e : Element) k, Text.find? e.closingTag (c.folded.drop k) =
      Text.find? e.closingTag (d.folded.drop k)) : readToken number c = readToken number d := by
  have hpiece : ∀ tag, readPiece number c tag = readPiece number d tag := by
    intro tag
    unfold readPiece Cursor.advance
    dsimp only
    rw [hrest]
    simp only [hfind]
  rw [readToken, readToken, hrest]
  simp only [hpiece]

/-- Copies in which the closing tags are found at the same places are alike to the scanner. -/
theorem pieces_congr (number : Nat) {c d : Cursor} (hrest : c.rest = d.rest)
    (hfind : ∀ (e : Element) k, Text.find? e.closingTag (c.folded.drop k) =
      Text.find? e.closingTag (d.folded.drop k)) : pieces number c = pieces number d := by
  induction ht : c.rest using behind_induction generalizing c d with
  | step t ih =>
    subst ht
    rcases front_cases c.rest with hend | ⟨hne, hfront⟩
    · rw [pieces_end hend, pieces_end (hrest ▸ hend)]
    have hbehind : ∀ {k : Nat}, 0 < k →
        pieces number (c.advance k) = pieces number (d.advance k) := by
      intro k hk
      refine ih hne k hk (congrArg (List.drop k) hrest) (fun e j => ?_) rfl
      show Text.find? e.closingTag ((c.folded.drop k).drop j) =
        Text.find? e.closingTag ((d.folded.drop k).drop j)
      rw [List.drop_drop, List.drop_drop]
      exact hfind e (k + j)
    rcases hfront with hplain | htoken
    · have hother : 0 < plainLength d.rest := by
        rw [← hrest]
        exact hplain
      rw [pieces_plain hplain, pieces_plain hother, ← hrest, hbehind hplain]
    have hother : beginsToken d.rest = true := by
      rw [← hrest]
      exact htoken
    cases hread : readToken number c with
    | error fault =>
      have hsame := (readToken_congr number hrest hfind).symm.trans hread
      rw [pieces_fault htoken hread, pieces_fault hother hsame]
    | ok p =>
      obtain ⟨piece, length⟩ := p
      have hsame := (readToken_congr number hrest hfind).symm.trans hread
      rw [pieces_token htoken hread, pieces_token hother hsame,
        hbehind (Nat.le_max_left 1 length)]

theorem closingTag_last (e : Element) : e.closingTag.getLast? = some (.char '>') := by
  cases e with
  | img => rfl
  | qrcode => rfl
  | barcode => rfl

theorem closingTag_own (e : Element) : ∀ d ∈ e.closingTag, Text.IsOwnSmall d := by
  have hall : (e.closingTag.all fun d => decide (Text.IsOwnSmall d)) = true := by
    cases e with
    | img => decide
    | qrcode => decide
    | barcode => decide
  intro d hd
  exact of_decide_eq_true (List.all_eq_true.1 hall d hd)

/-- No letter that folds to two stands in front of a closing bracket. -/
def Undotted (line : Text) : Prop := ∀ a b, line = a ++ .char 'İ' :: b → .char '>' ∉ b

theorem Undotted.split {line : Text} (h : Undotted line) :
    ∃ a b, line = a ++ b ∧ .char 'İ' ∉ a ∧ .char '>' ∉ b := by
  have hline := (List.takeWhile_append_dropWhile (p := (· ≠ .char 'İ')) (l := line)).symm
  refine ⟨_, _, hline, ?_, ?_⟩
  · intro hmem
    have hall := List.all_eq_true.1 (List.all_takeWhile (p := (· ≠ .char 'İ')) (l := line)) 'İ' hmem
    simp at hall
  · cases hb : line.dropWhile (· ≠ .char 'İ') with
    | nil => exact List.not_mem_nil
    | cons c rest =>
      have hc : c = 'İ' := by
        have := List.head?_dropWhile_not (· ≠ .char 'İ') line
        rw [hb] at this
        simpa using this
      subst hc
      rw [hb] at hline
      intro hmem
      rcases List.mem_cons.1 hmem with hclose | hmem
      · exact absurd hclose (by decide)
      · exact h _ _ hline hmem

/-- Such a line has its closing tags at the same places in the folded copy. -/
theorem Undotted.find? {line : Text} (h : Undotted line) (e : Element) (k : Nat) :
    Text.find? e.closingTag ((Text.fold line).drop k) =
      Text.find? e.closingTag ((line.map CodePoint.toLower).drop k) := by
  obtain ⟨a, b, rfl, ha, hb⟩ := h.split
  have hne : e.closingTag ≠ [] := List.cons_ne_nil _ _
  have hfold : Text.fold (a ++ b) = a.map Text.smallOf ++ Text.fold b := by
    rw [← Text.fold_eq_map ha]
    exact List.flatMap_append
  have hfolded : .char '>' ∉ (Text.fold b).drop (k - (a.map Text.smallOf).length) :=
    fun hmem => hb (Text.close_mem_fold (List.mem_of_mem_drop hmem))
  have hsmall : .char '>' ∉
      (b.map CodePoint.toLower).drop (k - (a.map CodePoint.toLower).length) := by
    intro hmem
    obtain ⟨c, hc, hlower⟩ := List.mem_map.1 (List.mem_of_mem_drop hmem)
    exact hb (Text.eq_of_toLower (by decide) hlower ▸ hc)
  rw [hfold, List.drop_append, Text.find?_append (closingTag_last e) hfolded, List.map_append,
    List.drop_append, Text.find?_append (closingTag_last e) hsmall, ← List.map_drop,
    ← List.map_drop]
  exact Text.find?_map_congr hne (fun c d hd => Text.smallOf_eq_iff (closingTag_own e d hd)) _

theorem Undotted.pieces {line : Text} (h : Undotted line) (number : Nat) :
    pieces number (Cursor.ofLine line) = pieces number (Cursor.even line) :=
  pieces_congr number rfl h.find?

end Markup
end ThermalPrint
