import ThermalPrint.Proofs.Markup.Plain
import ThermalPrint.Proofs.Markup.Strands
import ThermalPrint.Proofs.Text.Blank

/-
What a line prints tells where its elements were found to end.  An end that is found too late puts
a bracket into the content, and one that is found too early leaves a part of the closing tag behind
the element, as text or as a fault.
-/

namespace ThermalPrint
namespace Markup

section Closing

variable {e : Element} {closing rest : Text}

theorem name_letters (e : Element) : ∀ c ∈ e.name, isLetter c = true := by
  refine List.all_eq_true.1 ?_
  cases e with
  | img => decide
  | qrcode => decide
  | barcode => decide

theorem closing_split (h : closing.map CodePoint.toLower = e.closingTag) :
    ∃ name, closing = .char '<' :: .char '/' :: (name ++ [.char '>']) ∧
      name.map CodePoint.toLower = e.name ∧ ∀ c ∈ name, isLetter c = true := by
  have htag : e.closingTag = .char '<' :: .char '/' :: (e.name ++ [.char '>']) := rfl
  rw [htag] at h
  obtain ⟨a, behind, rfl, ha, h⟩ := List.map_eq_cons_iff.1 h
  obtain ⟨b, inside, rfl, hb, h⟩ := List.map_eq_cons_iff.1 h
  obtain ⟨name, last, rfl, hname, hlast⟩ := List.map_eq_append_iff.1 h
  obtain ⟨c, hnil, rfl, hc, hend⟩ := List.map_eq_cons_iff.1 hlast
  obtain rfl := List.map_eq_nil_iff.1 hend
  obtain rfl := Text.eq_of_toLower (by decide) ha
  obtain rfl := Text.eq_of_toLower (by decide) hb
  obtain rfl := Text.eq_of_toLower (by decide) hc
  refine ⟨name, rfl, hname, fun x hx => isLetter_of_toLower (name_letters e _ ?_)⟩
  rw [← hname]
  exact List.mem_map_of_mem hx

theorem tagBody?_closing (h : closing.map CodePoint.toLower = e.closingTag) (rest : Text) :
    ∃ name, name.map CodePoint.toLower = e.name ∧ (∀ c ∈ name, isLetter c = true) ∧
      tagBody? (closing ++ rest) = some (true, name ++ .char '>' :: rest) := by
  obtain ⟨name, rfl, hname, hletters⟩ := closing_split h
  refine ⟨name, hname, hletters, ?_⟩
  cases name with
  | nil => cases e <;> cases hname
  | cons c more =>
    show (if isLetter c = true then some (true, c :: (more ++ [.char '>'] ++ rest)) else none) = _
    rw [if_pos (hletters c List.mem_cons_self), List.append_assoc]
    rfl

theorem readTag?_closing {tag : Tag} (hclosing : closing.map CodePoint.toLower = e.closingTag)
    (h : readTag? (closing ++ rest) = some tag) : tag.closing = true ∧ tag.name = e.name := by
  obtain ⟨name, hname, hletters, hbody⟩ := tagBody?_closing hclosing rest
  have hnameChars : ∀ c ∈ name, isNameChar c = true := by
    intro c hc
    simp [isNameChar, hletters c hc]
  have hstop : (.char '>' :: rest).takeWhile isNameChar = [] :=
    List.takeWhile_cons_of_neg (by decide)
  unfold readTag? at h
  rw [hbody] at h
  dsimp only at h
  split at h
  · cases h
    refine ⟨rfl, ?_⟩
    show readName (name ++ .char '>' :: rest) = e.name
    rw [readName, List.takeWhile_append_of_pos hnameChars, hstop, List.append_nil, hname]
  · cases h

theorem pieces_stray (number : Nat) {c : Cursor} (hc : c.rest = closing ++ rest)
    (hclosing : closing.map CodePoint.toLower = e.closingTag) : (pieces number c).2 ≠ none := by
  obtain ⟨name, -, -, hbody⟩ := tagBody?_closing hclosing rest
  have htoken : beginsToken c.rest = true := by
    rw [beginsToken, hc, hbody]
    exact Bool.or_true _
  cases hread : readToken number c with
  | error fault =>
    rw [pieces_fault htoken hread]
    exact Option.some_ne_none fault
  | ok p =>
    exfalso
    obtain ⟨piece, length⟩ := p
    rcases readToken_ok hread with ⟨l, more, align, hrest, -⟩ | ⟨tag, htag, hbold, -⟩ |
      ⟨tag, f, attributes, n, htag, hopen, -⟩
    · rw [← hc, hrest] at hbody
      cases hbody
    · rw [hc] at htag
      have hown := (readTag?_closing hclosing htag).2
      rw [hbold] at hown
      cases e <;> cases hown
    · rw [hc] at htag
      have hown := (readTag?_closing hclosing htag).1
      rw [hopen] at hown
      cases hown

end Closing

def lead : List Piece → Text
  | [] => []
  | .text t :: more => t ++ lead more
  | .column _ :: more => lead more
  | .bold _ :: more => lead more
  | .element _ _ _ :: _ => []

def behind : List Piece → List Strand
  | [] => []
  | .text _ :: more => behind more
  | .column _ :: more => behind more
  | .bold _ :: more => behind more
  | .element e _ content :: more => .element e content :: strands [] more

theorem strands_eq (found : List Piece) :
    ∀ pending, strands pending found = .text (pending ++ lead found) :: behind found := by
  induction found with
  | nil =>
    intro pending
    rw [strands, lead, behind, List.append_nil]
  | cons piece more ih =>
    intro pending
    cases piece with
    | text t => rw [strands, ih, lead, behind, List.append_assoc]
    | column align => exact ih pending
    | bold on => exact ih pending
    | element e attributes content => rw [strands, lead, behind, List.append_nil]

section Printing

variable {images : Images} {f g : List Piece} {directives : List Directive}

theorem shown_text (t : Text) (found : List Piece) :
    (Strand.text t :: behind found).filter Strand.shows =
      if Text.isBlank t then (behind found).filter Strand.shows
      else .text t :: (behind found).filter Strand.shows := by
  rw [List.filter_cons, Strand.shows]
  cases Text.isBlank t with
  | true => rfl
  | false => rfl

/-- Behind its leading text a reading does not show text at once. -/
theorem behind_text {line : AlignedText}
    (h : List.Forall₂ (Prints images) ((behind f).filter Strand.shows) (.text line :: directives)) :
    False := by
  induction f with
  | nil => cases h
  | cons piece more ih =>
    cases piece with
    | text t => exact ih h
    | column align => exact ih h
    | bold on => exact ih h
    | element e attributes content =>
      cases h with
      | cons hfirst _ => cases e <;> exact hfirst

/-- Readings that print the same directives lead with the same text, up to white space. -/
theorem same_prints {p q : Text}
    (hf : List.Forall₂ (Prints images) ((strands p f).filter Strand.shows) directives)
    (hg : List.Forall₂ (Prints images) ((strands q g).filter Strand.shows) directives) :
    (p ++ lead f).withoutBlanks = (q ++ lead g).withoutBlanks ∧
      ∃ more, List.Forall₂ (Prints images) ((behind f).filter Strand.shows) more ∧
        List.Forall₂ (Prints images) ((behind g).filter Strand.shows) more := by
  have hblank : ∀ {t : Text}, Text.isBlank t = true → t.withoutBlanks = [] := fun h =>
    Text.withoutBlanks_eq_nil.2 (List.all_eq_true.1 h)
  have htext : ∀ {t : Text} {d : Directive}, Prints images (.text t) d →
      ∃ line, d = .text line ∧ line.content = t := by
    intro t d h
    cases d with
    | text line => exact ⟨line, rfl, h⟩
    | _ => cases h
  rw [strands_eq, shown_text] at hf hg
  by_cases hp : Text.isBlank (p ++ lead f) = true
  · rw [if_pos hp] at hf
    by_cases hq : Text.isBlank (q ++ lead g) = true
    · rw [if_pos hq] at hg
      exact ⟨(hblank hp).trans (hblank hq).symm, directives, hf, hg⟩
    · rw [if_neg hq] at hg
      cases hg with
      | cons hfirst hrest =>
        obtain ⟨line, rfl, -⟩ := htext hfirst
        exact (behind_text hf).elim
  · rw [if_neg hp] at hf
    cases hf with
    | cons hfirst hrest =>
      obtain ⟨line, rfl, hline⟩ := htext hfirst
      by_cases hq : Text.isBlank (q ++ lead g) = true
      · rw [if_pos hq] at hg
        exact (behind_text hg).elim
      · rw [if_neg hq] at hg
        cases hg with
        | cons hother hmore =>
          have hother : line.content = q ++ lead g := hother
          exact ⟨by rw [← hline, hother], _, hrest, hmore⟩

end Printing

section Front

variable {number : Nat} {c : Cursor} {rest : Text}

/-- Text without brackets in front of a text is put in front of what leads its reading. -/
theorem pieces_over (number : Nat) {t : Text} (hc : c.rest = t ++ rest)
    (ht : ∀ x ∈ t, x ≠ '[' ∧ x ≠ '<') :
    lead (pieces number c).1 = t ++ lead (pieces number (c.advance t.length)).1 ∧
      (pieces number c).2 = (pieces number (c.advance t.length)).2 := by
  by_cases hne : t = []
  · subst hne
    exact ⟨rfl, rfl⟩
  have hplain : ∀ i < t.length, beginsToken ((t ++ rest).drop i) = false := by
    intro i hi
    obtain ⟨hsquare, hangle⟩ := ht t[i] (List.getElem_mem hi)
    rw [List.drop_append_of_le_length (Nat.le_of_lt hi), List.drop_eq_getElem_cons hi]
    exact beginsToken_cons hsquare hangle _
  have hlength : plainLength c.rest = t.length + plainLength rest := by
    rw [hc, plainLength_over hplain]
  have hpos : 0 < plainLength c.rest := by
    have := List.length_pos_iff.2 hne
    omega
  have hinside : (c.advance t.length).rest = rest := advance_rest hc
  have hadvance : c.advance (t.length + plainLength rest) =
      (c.advance t.length).advance (plainLength rest) := by
    simp [Cursor.advance, List.drop_drop]
  rw [pieces_plain hpos, hlength, hc, List.take_length_add_append, hadvance, lead]
  rcases Nat.eq_zero_or_pos (plainLength rest) with hzero | hmore
  · rw [hzero, List.take_zero, List.append_nil]
    exact ⟨rfl, rfl⟩
  · have hother : 0 < plainLength (c.advance t.length).rest := by
      rw [hinside]
      exact hmore
    rw [pieces_plain hother, hinside, lead, List.append_assoc]
    exact ⟨rfl, rfl⟩

theorem lead_pieces {segments : List Segment} {t : Text} (h : Divides t segments) :
    ∀ {c : Cursor}, c.rest = t → (pieces number c).2 = none →
      lead (pieces number c).1 = lead (segments.map Segment.piece) := by
  induction h with
  | done =>
    intro c hc _
    rw [pieces_end hc]
    rfl
  | @text t rest segments hne hplain hend _ ih =>
    intro c hc hfault
    rw [read_text hc hne hplain hend] at hfault ⊢
    exact congrArg (t ++ ·) (ih (advance_rest hc) hfault)
  | column halign _ ih =>
    intro c hc hfault
    rw [read_column hc halign] at hfault ⊢
    exact ih (advance_rest hc) hfault
  | bold htag hlength hname hattributes _ ih =>
    intro c hc hfault
    rw [← hc] at htag
    rw [read_bold htag hname hattributes, hlength] at hfault ⊢
    exact ih (advance_rest hc) hfault
  | @element opening content closing rest tag e attributes segments htag _ hopen hname
      hattributes =>
    intro c hc hfault
    rw [← hc] at htag
    have htoken := beginsToken_of_readTag? htag
    cases hfind : Text.find? e.closingTag (c.advance tag.length).folded with
    | none =>
      rw [pieces_fault htoken (readToken_unclosed htag hopen hname hattributes hfind)] at hfault
      cases hfault
    | some n =>
      rw [pieces_token htoken (readToken_element htag hopen hname hattributes hfind)]
      rfl

theorem closing_drop {e : Element} {closing : Text}
    (h : closing.map CodePoint.toLower = e.closingTag) {k : Nat} (hpos : 0 < k)
    (hk : k < closing.length) :
    .char '>' ∈ closing.drop k ∧ ∀ x ∈ closing.drop k, x ≠ '[' ∧ x ≠ '<' := by
  obtain ⟨name, rfl, -, hletters⟩ := closing_split h
  obtain ⟨j, rfl⟩ : ∃ j, k = j + 1 := ⟨k - 1, by omega⟩
  have hj : j ≤ (.char '/' :: name).length := by
    simp only [List.length_cons, List.length_append, List.length_nil] at hk ⊢
    omega
  have hdrop : (.char '<' :: .char '/' :: (name ++ [.char '>'])).drop (j + 1) =
      (.char '/' :: name).drop j ++ [.char '>'] := by
    rw [List.drop_succ_cons, ← List.cons_append, List.drop_append_of_le_length hj]
  rw [hdrop]
  refine ⟨List.mem_append_right _ List.mem_cons_self, fun x hx => ?_⟩
  rcases List.mem_append.1 hx with hx | hx
  · rcases List.mem_cons.1 (List.mem_of_mem_drop hx) with rfl | hx
    · decide
    · have hletter := hletters x hx
      constructor
      · rintro rfl
        exact absurd hletter (by decide)
      · rintro rfl
        exact absurd hletter (by decide)
  · rw [List.mem_singleton.1 hx]
    decide

theorem blank_plain {x : CodePoint} (h : Text.isBlankChar x = true) : x ≠ '[' ∧ x ≠ '<' := by
  constructor
  · rintro rfl
    exact absurd h (by decide)
  · rintro rfl
    exact absurd h (by decide)

/-- An element ends where the line has its closing tag if its content and the text behind it are
what they should be, up to white space. -/
theorem ends_in_place {e : Element} {content closing : Text} {segments : List Segment} {n : Nat}
    (hc : c.rest = content ++ (closing ++ rest))
    (hclosing : closing.map CodePoint.toLower = e.closingTag) (hrest : Divides rest segments)
    (hcontent : Text.withoutBlanks ((content ++ (closing ++ rest)).take n) = content.withoutBlanks)
    (hfault : (pieces number (c.advance (n + closing.length))).2 = none)
    (hlead : (lead (pieces number (c.advance (n + closing.length))).1).withoutBlanks =
      (lead (segments.map Segment.piece)).withoutBlanks) : n = content.length := by
  rcases Nat.lt_trichotomy n content.length with hless | heq | hmore
  · exfalso
    have hblank : ∀ x ∈ content.drop n, Text.isBlankChar x = true := by
      have hwhole := Text.withoutBlanks_append (content.take n) (content.drop n)
      rw [List.take_append_drop] at hwhole
      rw [List.take_append_of_le_length (Nat.le_of_lt hless), hwhole] at hcontent
      exact Text.withoutBlanks_eq_nil.1 (List.self_eq_append_right.1 hcontent)
    by_cases hinside : n + closing.length ≤ content.length
    · -- The scanner comes to the closing tag once more.
      have hnext : (c.advance (n + closing.length)).rest =
          content.drop (n + closing.length) ++ (closing ++ rest) := by
        show c.rest.drop _ = _
        rw [hc, List.drop_append_of_le_length hinside]
      have hplain : ∀ x ∈ content.drop (n + closing.length), x ≠ '[' ∧ x ≠ '<' := by
        intro x hx
        rw [← List.drop_drop] at hx
        exact blank_plain (hblank x (List.mem_of_mem_drop hx))
      have hsame := (pieces_over number hnext hplain).2
      rw [hfault] at hsame
      exact pieces_stray number (advance_rest hnext) hclosing hsame.symm
    · -- A part of the closing tag is read as text.
      have hnext : (c.advance (n + closing.length)).rest =
          closing.drop (n + closing.length - content.length) ++ rest := by
        show c.rest.drop _ = _
        rw [hc, List.drop_append, List.drop_eq_nil_of_le (by omega), List.nil_append,
          List.drop_append_of_le_length (by omega)]
      obtain ⟨hclose, hplain⟩ :=
        closing_drop hclosing (k := n + closing.length - content.length) (by omega) (by omega)
      obtain ⟨hover, hsame⟩ := pieces_over number hnext hplain
      rw [hfault] at hsame
      rw [hover, Text.withoutBlanks_append, lead_pieces hrest (advance_rest hnext) hsame.symm,
        List.append_left_eq_self, Text.withoutBlanks_eq_nil] at hlead
      exact absurd (hlead '>' hclose) (by decide)
  · exact heq
  · exfalso
    obtain ⟨name, hsplit, -, -⟩ := closing_split hclosing
    obtain ⟨k, rfl⟩ : ∃ k, n = content.length + (k + 1) := ⟨n - content.length - 1, by omega⟩
    rw [List.take_length_add_append, Text.withoutBlanks_append, List.append_right_eq_self,
      Text.withoutBlanks_eq_nil, hsplit] at hcontent
    exact absurd (hcontent '<' List.mem_cons_self) (by decide)

end Front

/-- The picture of an image is not that of another name as well, where one of the two names begins
with the other. -/
def TellsApart (images : Images) (content : Text) : Prop :=
  ∀ {name : Text} {r : Raster}, name <+: Text.trim content ∨ Text.trim content <+: name →
    resolveImage images (Text.trim content) = .ok r → resolveImage images name = .ok r →
    name.withoutBlanks = content.withoutBlanks

/-- The images on a line are told apart by their pictures. -/
def Apart (images : Images) (segments : List Segment) : Prop :=
  ∀ {opening content closing : Text} {attributes : List Attribute},
    .element opening .img attributes content closing ∈ segments → TellsApart images content

theorem Apart.behind {images : Images} {s : Segment} {more : List Segment}
    (h : Apart images (s :: more)) : Apart images more :=
  fun hmem => h (List.mem_cons_of_mem _ hmem)

/-- A directive tells the content of its element, up to white space. -/
theorem prints_content {images : Images} {e : Element} {content other : Text} {d : Directive}
    (hfront : other <+: content ∨ content <+: other)
    (himage : e = .img → TellsApart images content)
    (h : Prints images (.element e content) d) (hother : Prints images (.element e other) d) :
    other.withoutBlanks = content.withoutBlanks := by
  have hnames : Text.trim other <+: Text.trim content ∨ Text.trim content <+: Text.trim other := by
    rcases hfront with hfront | hfront
    · exact Text.trim_begins hfront
    · exact (Text.trim_begins hfront).symm
  cases e with
  | img =>
    cases d with
    | image r align => rw [← himage rfl hnames h hother, Text.withoutBlanks_trim]
    | _ => cases h
  | qrcode =>
    cases d with
    | qrCode data size align =>
      have hdata : data = content := h
      have hsame : data = other := hother
      rw [← hdata, ← hsame]
    | _ => cases h
  | barcode =>
    cases d with
    | barcode symbology data height align =>
      have hdata : data = Text.trim content := h
      have hsame : data = Text.trim other := hother
      rw [← Text.withoutBlanks_trim other, ← hsame, hdata, Text.withoutBlanks_trim]
    | _ => cases h

/-- An element that prints what it should was found to end where the line has its closing tag, and
what is read behind it prints what the division has there. -/
theorem read_element_prints {images : Images} {number : Nat} {c : Cursor}
    {opening content closing rest pending : Text} {tag : Tag} {e : Element}
    {attributes : List Attribute} {segments : List Segment} {found : List Piece}
    {directives : List Directive} (hc : c.rest = opening ++ content ++ closing ++ rest)
    (htag : readTag? c.rest = some tag) (hlength : tag.length = opening.length)
    (hopen : tag.closing = false) (hname : tag.name = e.name)
    (hattributes : checkAttributes tag.name e.keys tag.attributes = .ok attributes)
    (hclosing : closing.map CodePoint.toLower = e.closingTag) (hrest : Divides rest segments)
    (himage : e = .img → TellsApart images content) (hread : pieces number c = (found, none))
    (hfound : List.Forall₂ (Prints images) ((strands pending found).filter Strand.shows) directives)
    (hdivided : List.Forall₂ (Prints images)
      ((strands pending (.element e attributes content :: segments.map Segment.piece)).filter
        Strand.shows) directives) :
    Text.find? e.closingTag (c.advance opening.length).folded = some content.length ∧
      ∃ more left, pieces number (c.advance (opening ++ content ++ closing).length) = (more, none) ∧
        List.Forall₂ (Prints images) ((strands [] more).filter Strand.shows) left ∧
        List.Forall₂ (Prints images)
          ((strands [] (segments.map Segment.piece)).filter Strand.shows) left := by
  have htoken := beginsToken_of_readTag? htag
  have hinside : (c.advance opening.length).rest = content ++ (closing ++ rest) :=
    advance_rest (by rw [hc, List.append_assoc, List.append_assoc])
  have hsize : closing.length = e.closingTag.length := by
    rw [← hclosing, List.length_map]
  cases hfind : Text.find? e.closingTag (c.advance opening.length).folded with
  | none =>
    rw [← hlength] at hfind
    rw [pieces_fault htoken (readToken_unclosed htag hopen hname hattributes hfind)] at hread
    cases hread
  | some n =>
    have hlong : max 1 (opening.length + n + e.closingTag.length) =
        opening.length + (n + closing.length) := by
      have := closingTag_length e
      omega
    have hadvance : c.advance (opening.length + (n + closing.length)) =
        (c.advance opening.length).advance (n + closing.length) := by
      simp [Cursor.advance, List.drop_drop]
    rw [← hlength] at hfind
    rw [pieces_token htoken (readToken_element htag hopen hname hattributes hfind), hlength,
      hinside, hlong, hadvance] at hread
    obtain ⟨rfl, hfault⟩ := Prod.mk.inj hread
    obtain ⟨-, shown, hown, hother⟩ := same_prints hfound hdivided
    rw [behind, List.filter_cons_of_pos rfl] at hown hother
    cases hown with
    | cons hown hmore =>
      cases hother with
      | cons hother hothers =>
        have hlead := (same_prints hmore hothers).1
        have hfront := List.prefix_or_prefix_of_prefix
          (List.take_prefix n (content ++ (closing ++ rest))) (List.prefix_append content _)
        have hcontent := prints_content hfront himage hother hown
        obtain rfl := ends_in_place hinside hclosing hrest hcontent hfault hlead
        have hwritten : (opening ++ content ++ closing).length =
            opening.length + (content.length + closing.length) := by
          rw [List.length_append, List.length_append, Nat.add_assoc]
        refine ⟨rfl, _, _, ?_, hmore, hothers⟩
        rw [hwritten, hadvance]
        exact Prod.ext rfl hfault

/-- A line that prints what its division shows was read by its division. -/
theorem found_of_prints {images : Images} {number : Nat} {t : Text} {segments : List Segment}
    (h : Divides t segments) :
    ∀ {c : Cursor} {pending : Text} {found : List Piece} {directives : List Directive},
      Apart images segments → c.rest = t → pieces number c = (found, none) →
      List.Forall₂ (Prints images) ((strands pending found).filter Strand.shows) directives →
      List.Forall₂ (Prints images)
        ((strands pending (segments.map Segment.piece)).filter Strand.shows) directives →
      Found c segments := by
  induction h with
  | done =>
    intros
    trivial
  | text hne hplain hend _ ih =>
    intro c pending found directives happart hc hread hfound hdivided
    rw [read_text hc hne hplain hend] at hread
    obtain ⟨rfl, hfault⟩ := Prod.mk.inj hread
    exact ih happart.behind (advance_rest hc) (Prod.ext rfl hfault) hfound hdivided
  | column halign _ ih =>
    intro c pending found directives happart hc hread hfound hdivided
    rw [read_column hc halign] at hread
    obtain ⟨rfl, hfault⟩ := Prod.mk.inj hread
    exact ih happart.behind (advance_rest hc) (Prod.ext rfl hfault) hfound hdivided
  | bold htag hlength hname hattributes _ ih =>
    intro c pending found directives happart hc hread hfound hdivided
    rw [← hc] at htag
    rw [read_bold htag hname hattributes, hlength] at hread
    obtain ⟨rfl, hfault⟩ := Prod.mk.inj hread
    exact ih happart.behind (advance_rest hc) (Prod.ext rfl hfault) hfound hdivided
  | @element opening content closing rest tag e attributes segments htag hlength hopen hname
      hattributes hclosing _ hrest ih =>
    intro c pending found directives happart hc hread hfound hdivided
    rw [← hc] at htag
    have himage : e = .img → TellsApart images content := by
      rintro rfl
      exact happart List.mem_cons_self
    obtain ⟨hfind, more, left, hmore, hown, hother⟩ := read_element_prints hc htag hlength hopen
      hname hattributes hclosing hrest himage hread hfound hdivided
    exact ⟨hfind, ih happart.behind (advance_rest hc) hmore hown hother⟩

theorem found_of_printed {images : Images} {number : Nat} {t : Text} {segments : List Segment}
    {c : Cursor} {found : List Piece} {directives : List Directive} (h : Divides t segments)
    (happart : Apart images segments) (hc : c.rest = t) (hread : pieces number c = (found, none))
    (hfound : Printed images found directives)
    (hdivided : Printed images (segments.map Segment.piece) directives) : Found c segments := by
  have hfeed : ∀ {shown : List Strand}, ¬ shown.isEmpty = true →
      ¬ List.Forall₂ (Prints images) shown [.lineFeed] := by
    intro shown hne hprints
    cases hprints with
    | @cons s _ _ _ hfirst _ =>
      cases s with
      | text t => exact hfirst
      | element e content => cases e <;> exact hfirst
  unfold Printed at hfound hdivided
  by_cases hempty : ((strands [] found).filter Strand.shows).isEmpty = true
  · rw [if_pos hempty] at hfound
    subst hfound
    by_cases hother : ((strands [] (segments.map Segment.piece)).filter Strand.shows).isEmpty = true
    · have hnone : List.Forall₂ (Prints images) ((strands [] found).filter Strand.shows) [] := by
        rw [List.isEmpty_iff.1 hempty]
        exact .nil
      refine found_of_prints h happart hc hread hnone ?_
      rw [List.isEmpty_iff.1 hother]
      exact .nil
    · rw [if_neg hother] at hdivided
      exact absurd hdivided (hfeed hother)
  · rw [if_neg hempty] at hfound
    by_cases hother : ((strands [] (segments.map Segment.piece)).filter Strand.shows).isEmpty = true
    · rw [if_pos hother] at hdivided
      subst hdivided
      exact absurd hfound (hfeed hempty)
    · rw [if_neg hother] at hdivided
      exact found_of_prints h happart hc hread hfound hdivided

end Markup
end ThermalPrint
