import ThermalPrint.Proofs.Markup.Plain
import ThermalPrint.Proofs.Markup.Strands
import ThermalPrint.Proofs.Markup.Written
import ThermalPrint.Proofs.Text.Blank

/-
Lines that begin with an alignment tag and have text behind it in which no token begins: as it
is, in bold type, or in two columns.

The compiler looks at the front of a line for an alignment tag, and for blank lines and rules,
before it reads the pieces.  But for the rules this makes no difference to the line as a whole: a
tag in front sets the alignment as it does anywhere else, and a blank line has nothing in it that
shows.
-/

namespace ThermalPrint

namespace Markup

theorem ruleMark?_of_mem {t : Text} {c : CodePoint} (h : c ∈ t) (hhyphen : c ≠ '-')
    (hequals : c ≠ '=') : ruleMark? t = none := by
  unfold ruleMark?
  split
  · rename_i d rest
    refine if_neg fun hmark => ?_
    rw [Bool.and_eq_true, Bool.and_eq_true, Bool.or_eq_true] at hmark
    obtain ⟨⟨hd, -⟩, hall⟩ := hmark
    have hc : c = d := by simpa using List.all_eq_true.1 hall c h
    subst hc
    rcases hd with hd | hd
    · exact hhyphen (of_decide_eq_true hd)
    · exact hequals (of_decide_eq_true hd)
  · rfl

/-- A text with a character that shows and is no mark of a rule is neither blank nor a rule. -/
theorem shows_of_mem {t : Text} {c : CodePoint} (h : c ∈ t) (hblank : Text.isBlankChar c = false)
    (hhyphen : c ≠ '-') (hequals : c ≠ '=') :
    Text.isBlank t = false ∧ ruleMark? (Text.trim t) = none :=
  ⟨Text.isBlank_of_mem h hblank, ruleMark?_of_mem (Text.mem_trim h hblank) hhyphen hequals⟩

theorem ofColumns_run {t : Text} (h : t ≠ []) (align : Align) (bold : Bool) :
    AlignedText.ofColumns ⟨align, [⟨t, bold⟩]⟩ [] = .plain t align bold := by
  simp [AlignedText.ofColumns, AlignedText.plain, TextColumn.text, h]

/-- A line of columns and nothing else feeds the paper if nothing of it shows. -/
theorem finish_columns {s : LineState} {first : TextColumn} {rest : List TextColumn}
    (hbold : s.bold = false) (hdone : s.done = []) (hdropped : s.dropped = false)
    (hcolumns : s.endColumn.columns.reverse = first :: rest) (number : Nat) :
    s.finish number = .ok [if Text.isBlank (AlignedText.ofColumns first rest).content then .lineFeed
      else .text (.ofColumns first rest)] := by
  obtain ⟨-, -, -, hd, hdrop⟩ := LineState.endColumn_spec s
  rw [hdone] at hd
  rw [hdropped] at hdrop
  unfold LineState.finish LineState.endText
  rw [hbold, if_neg Bool.false_ne_true]
  dsimp only
  rw [hcolumns]
  dsimp only
  by_cases hblank : Text.isBlank (AlignedText.ofColumns first rest).content = true
  · simp only [if_pos hblank]
    rw [hd, hdrop]
    rfl
  · simp only [if_neg hblank]
    rw [hd]
    rfl

section Body

variable {images : Images} {imageOptional : Bool} {number n : Nat} {line body : Text}
  {align : Align}

section Pieces

variable (hline : lineAlign line = (align, n))
  (hbody : (Cursor.ofLine line).advance n = .ofLine body)
  (hblank : Text.isBlank body = false) (hrule : ruleMark? (Text.trim body) = none)

include hline hbody hblank hrule

/-- A line that is neither blank nor a rule comes to what the pieces behind its alignment tag
come to, up to what is wrong with the rest of it. -/
theorem compileLine_of_pieces {found : List Piece} {fault : Option MarkupFault}
    (hpieces : pieces number (.ofLine body) = (found, fault)) :
    compileLine images imageOptional number line =
      found.foldlM (LineState.add images imageOptional number) { align := align } >>= fun s =>
        match fault with
        | some e => .error e
        | none => s.finish number := by
  have hdrop : line.drop n = body := congrArg Cursor.rest hbody
  have hfilled : (Text.trim body).isEmpty = false := by
    rw [← Bool.not_eq_true, List.isEmpty_iff, Text.trim_eq_nil, hblank]
    exact Bool.false_ne_true
  unfold compileLine
  rw [hline]
  dsimp only
  rw [hdrop, hfilled, if_neg Bool.false_ne_true, hrule, hbody, hpieces]
  dsimp only
  cases found.foldlM (LineState.add images imageOptional number) { align := align } with
  | error fault => rfl
  | ok s => rfl

theorem compileLine_of_body {found : List Piece}
    (hpieces : pieces number (.ofLine body) = (found, none)) :
    compileLine images imageOptional number line =
      found.foldlM (LineState.add images imageOptional number) { align := align } >>=
        LineState.finish number :=
  compileLine_of_pieces hline hbody hblank hrule hpieces

theorem compileLine_of_fault {fault : MarkupFault}
    (hpieces : pieces number (.ofLine body) = ([], some fault)) :
    compileLine images imageOptional number line = .error fault :=
  compileLine_of_pieces hline hbody hblank hrule hpieces

end Pieces

end Body

section Aligned

variable {images : Images} {imageOptional : Bool} {number : Nat} {l : CodePoint} {align : Align}

theorem lineAlign_tag (h : Align.ofLetter? l = some align) (body : Text) :
    lineAlign (.char '[' :: l :: .char ']' :: body) = (align, 3) := by
  have htag : alignTag? (.char '[' :: l :: .char ']' :: body) = some align := h
  unfold lineAlign
  rw [htag]

/-- The letters of the alignment tags fold to one letter each. -/
theorem ofLine_tag (h : Align.ofLetter? l = some align) (body : Text) :
    (Cursor.ofLine (.char '[' :: l :: .char ']' :: body)).advance 3 = .ofLine body := by
  unfold Align.ofLetter? at h
  split at h
  · rename_i hl; rw [hl]; rfl
  · split at h
    · rename_i hl; rw [hl]; rfl
    · split at h
      · rename_i hl; rw [hl]; rfl
      · cases h

theorem compileLine_blank (h : Align.ofLetter? l = some align) {body : Text}
    (hblank : Text.isBlank body = true) :
    compileLine images imageOptional number (.char '[' :: l :: .char ']' :: body) =
      .ok [.lineFeed] := by
  unfold compileLine
  rw [lineAlign_tag h]
  show (if (Text.trim body).isEmpty then _ else _) = _
  rw [Text.trim_eq_nil.2 hblank]
  rfl

theorem compileLine_rule (h : Align.ofLetter? l = some align) {body : Text} {mark : CodePoint}
    (hrule : ruleMark? (Text.trim body) = some mark) :
    compileLine images imageOptional number (.char '[' :: l :: .char ']' :: body) =
      .ok [.rule [mark]] := by
  have hfilled : (Text.trim body).isEmpty = false := by
    rw [← Bool.not_eq_true, List.isEmpty_iff]
    intro hempty
    rw [hempty] at hrule
    cases hrule
  have hdrop : (.char '[' :: l :: .char ']' :: body).drop 3 = body := rfl
  unfold compileLine
  rw [lineAlign_tag h]
  dsimp only
  rw [hdrop, hfilled, if_neg Bool.false_ne_true, hrule]

theorem compileLine_aligned (h : Align.ofLetter? l = some align) {body : Text}
    {segments : List Segment} (hdivides : Divides body segments)
    (hfound : Found (.ofLine body) segments) (hblank : Text.isBlank body = false)
    (hrule : ruleMark? (Text.trim body) = none) :
    compileLine images imageOptional number (.char '[' :: l :: .char ']' :: body) =
      (segments.map Segment.piece).foldlM (LineState.add images imageOptional number)
        { align := align } >>= LineState.finish number :=
  compileLine_of_body (lineAlign_tag h body) (ofLine_tag h body) hblank hrule
    ((pieces_eq_iff number hdivides rfl).2 hfound)

theorem divides_tagless {t : Text} (ht : Tagless t) (hne : t ≠ []) : Divides t [.text t] := by
  have hdivides : Divides (t ++ []) [.text t] := .text hne (ht.before seals_nil) (.inl rfl) .done
  rwa [List.append_nil] at hdivides

theorem compileLine_plain (h : Align.ofLetter? l = some align) {t : Text} (ht : Tagless t)
    (hblank : Text.isBlank t = false) (hrule : ruleMark? (Text.trim t) = none) :
    compileLine images imageOptional number (.char '[' :: l :: .char ']' :: t) =
      .ok [.text (.plain t align)] := by
  have hne : t ≠ [] := by
    rintro rfl
    cases hblank
  obtain ⟨c, more, rfl⟩ := List.exists_cons_of_ne_nil hne
  rw [compileLine_aligned h (divides_tagless ht hne) trivial hblank hrule]
  let s : LineState := { align := align, buffer := c :: more }
  have hcolumns : s.endColumn.columns.reverse = [⟨align, [⟨c :: more, false⟩]⟩] := rfl
  show s.finish number = _
  rw [finish_columns rfl rfl rfl hcolumns, ofColumns_run hne]
  show Except.ok [if Text.isBlank (c :: more) then _ else _] = _
  rw [hblank]
  rfl

/-- A line of text without tokens in it: a feed, a rule, or the text. -/
def plainLine (align : Align) (t : Text) : Directive :=
  if Text.isBlank t then .lineFeed
  else
    match ruleMark? (Text.trim t) with
    | some mark => .rule [mark]
    | none => .text (.plain t align)

theorem compileLine_tagless (h : Align.ofLetter? l = some align) {t : Text} (ht : Tagless t) :
    compileLine images imageOptional number (.char '[' :: l :: .char ']' :: t) =
      .ok [plainLine align t] := by
  unfold plainLine
  cases hblank : Text.isBlank t with
  | true => rw [compileLine_blank h hblank, if_pos rfl]
  | false =>
    rw [if_neg Bool.false_ne_true]
    cases hrule : ruleMark? (Text.trim t) with
    | some mark => exact compileLine_rule h hrule
    | none => exact compileLine_plain h ht hblank hrule

theorem readTag?_bold (closing : Bool) (rest : Text) :
    readTag? (writtenTag closing boldName [] ++ rest) =
      some ⟨closing, boldName, [], (writtenTag closing boldName []).length⟩ :=
  readTag?_written closing rfl (by simp) (by simp) rest

def bolded (t : Text) : Text := "<b>".toText ++ t ++ "</b>".toText

theorem divides_bolded {t : Text} (ht : Tagless t) :
    Divides (bolded t) (.bold "<b>".toText true ::
      (if t.isEmpty then [] else [.text t]) ++ [.bold "</b>".toText false]) := by
  have hend : Divides ("</b>".toText ++ []) [.bold "</b>".toText false] :=
    .bold (readTag?_bold true []) rfl rfl nofun .done
  have hseal : Seals "</b>".toText := seals_cons _ rfl (by decide) (by decide)
  have hinner : Divides (t ++ "</b>".toText)
      ((if t.isEmpty then [] else [.text t]) ++ [.bold "</b>".toText false]) := by
    cases t with
    | nil => exact hend
    | cons c more => exact .text (List.cons_ne_nil c more) (ht.before hseal) (.inr rfl) hend
  have hwritten : bolded t = "<b>".toText ++ (t ++ "</b>".toText) := List.append_assoc _ _ _
  rw [hwritten]
  exact .bold (readTag?_bold false _) rfl rfl (fun _ => rfl) hinner

theorem compileLine_bolded (h : Align.ofLetter? l = some align) {t : Text} (ht : Tagless t) :
    compileLine images imageOptional number (.char '[' :: l :: .char ']' :: bolded t) =
      .ok [if Text.isBlank t then .lineFeed else .text (.plain t align true)] := by
  have hmem : .char '<' ∈ bolded t := List.mem_cons_self
  obtain ⟨hblank, hrule⟩ := shows_of_mem hmem rfl (by decide) (by decide)
  cases t with
  | nil =>
    rw [compileLine_aligned h (divides_bolded ht) trivial hblank hrule]
    rfl
  | cons c more =>
    rw [compileLine_aligned h (divides_bolded ht) trivial hblank hrule]
    let s : LineState := { align := align, runs := [⟨c :: more, true⟩] }
    have hcolumns : s.endColumn.columns.reverse = [⟨align, [⟨c :: more, true⟩]⟩] := rfl
    show s.finish number = _
    rw [finish_columns rfl rfl rfl hcolumns, ofColumns_run (List.cons_ne_nil c more)]
    rfl

theorem compileLine_columns (h : Align.ofLetter? l = some align) {t u : Text} {r : CodePoint}
    {other : Align} (hr : Align.ofLetter? r = some other) (ht : Tagless t) (hu : Tagless u)
    (hne : t ≠ []) (hblank : Text.isBlank u = false) :
    compileLine images imageOptional number
        (.char '[' :: l :: .char ']' :: (t ++ ([.char '[', r, .char ']'] ++ u))) =
      .ok [.text (.ofColumns ⟨align, [⟨t, false⟩]⟩ [⟨other, [⟨u, false⟩]⟩])] := by
  have hmem : .char '[' ∈ t ++ ([.char '[', r, .char ']'] ++ u) := by simp
  obtain ⟨hbody, hrule⟩ := shows_of_mem hmem rfl (by decide) (by decide)
  have hfilled : u ≠ [] := by
    rintro rfl
    cases hblank
  have hseal : Seals ([.char '[', r, .char ']'] ++ u) := seals_cons _ rfl (by decide) (by decide)
  have htoken : beginsToken ([.char '[', r, .char ']'] ++ u) = true :=
    beginsToken_iff.2 (.inl ⟨r, u, rfl, by rw [hr]; rfl⟩)
  have hwhole := Divides.text hne (ht.before hseal) (.inr htoken)
    (.column hr (divides_tagless hu hfilled))
  have hcontent : Text.isBlank (t ++ u) = false := by
    show (t ++ u).all _ = false
    rw [List.all_append, Bool.and_eq_false_iff]
    exact .inr hblank
  obtain ⟨c, more, rfl⟩ := List.exists_cons_of_ne_nil hne
  obtain ⟨d, later, rfl⟩ := List.exists_cons_of_ne_nil hfilled
  rw [compileLine_aligned h hwhole trivial hbody hrule]
  let s : LineState :=
    { align := other, buffer := d :: later, columns := [⟨align, [⟨c :: more, false⟩]⟩] }
  have hcolumns : s.endColumn.columns.reverse =
      [⟨align, [⟨c :: more, false⟩]⟩, ⟨other, [⟨d :: later, false⟩]⟩] := rfl
  show s.finish number = _
  have hshown : Text.isBlank (AlignedText.ofColumns ⟨align, [⟨c :: more, false⟩]⟩
      [⟨other, [⟨d :: later, false⟩]⟩]).content = false := by
    rw [← hcontent]
    simp [AlignedText.ofColumns, TextColumn.text]
  rw [finish_columns rfl rfl rfl hcolumns, hshown]
  rfl

end Aligned

variable {images : Images} {imageOptional : Bool} {number : Nat}

def compileFrom (images : Images) (imageOptional : Bool) (number : Nat) (align : Align)
    (c : Cursor) : Except MarkupFault Job :=
  (pieces number c).1.foldlM (LineState.add images imageOptional number) { align := align } >>=
    fun s =>
      match (pieces number c).2 with
      | some fault => .error fault
      | none => s.finish number

theorem compileFrom_blank (align : Align) {c : Cursor} (h : Text.isBlank c.rest = true) :
    compileFrom images imageOptional number align c = .ok [.lineFeed] := by
  by_cases hend : c.rest = []
  · rw [compileFrom, pieces_end hend]
    rfl
  · have hshows := Text.isBlank_iff.1 h
    have hangle : .char '<' ∉ c.rest := fun hmem => absurd (hshows _ hmem) (by decide)
    have hsquare : .char '[' ∉ c.rest := fun hmem => absurd (hshows _ hmem) (by decide)
    have htagless := (tagless_unbracketed hangle hsquare).before seals_nil
    have hbehind : (c.advance c.rest.length).rest = [] := List.drop_length
    have hpieces : pieces number c = ([.text c.rest], none) := by
      rw [read_text (List.append_nil c.rest).symm hend htagless (.inl rfl), pieces_end hbehind]
    obtain ⟨x, more, hx⟩ := List.exists_cons_of_ne_nil hend
    rw [hx] at hpieces h
    rw [compileFrom, hpieces]
    let s : LineState := { align := align, buffer := x :: more }
    have hcolumns : s.endColumn.columns.reverse = [⟨align, [⟨x :: more, false⟩]⟩] := rfl
    show s.finish number = _
    rw [finish_columns rfl rfl rfl hcolumns, ofColumns_run (List.cons_ne_nil x more)]
    exact congrArg (fun d => Except.ok [d]) (if_pos h)

theorem compileFrom_column {align own : Align} {c : Cursor} (h : alignTag? c.rest = some align) :
    compileFrom images imageOptional number own c =
      compileFrom images imageOptional number align (c.advance 3) := by
  have htoken : beginsToken c.rest = true := by
    rw [beginsToken, h]
    rfl
  have hread : readToken number c = .ok (.column align, 3) := by rw [readToken, h]
  have hpieces := pieces_token htoken hread
  rw [compileFrom, hpieces]
  dsimp only
  rw [List.foldlM_cons]
  rfl

theorem compileFrom_ok {align : Align} {c : Cursor} {job : Job}
    (h : compileFrom images imageOptional number align c = .ok job) :
    ∃ found s, pieces number c = (found, none) ∧
      found.foldlM (LineState.add images imageOptional number) { align := align } = .ok s ∧
      s.finish number = .ok job := by
  obtain ⟨s, hfold, hend⟩ := Outcome.bind_ok h
  cases hfault : (pieces number c).2 with
  | some fault =>
    rw [hfault] at hend
    cases hend
  | none =>
    rw [hfault] at hend
    exact ⟨_, s, Prod.ext rfl hfault, hfold, hend⟩

/-- But for a rule, a line is what stands from its start on. -/
theorem compileLine_eq {line : Text}
    (hrule : ruleMark? (Text.trim (line.drop (lineAlign line).2)) = none) :
    compileLine images imageOptional number line =
      compileFrom images imageOptional number .left (.ofLine line) := by
  have hfrom : compileFrom images imageOptional number .left (.ofLine line) =
      compileFrom images imageOptional number (lineAlign line).1
        ((Cursor.ofLine line).advance (lineAlign line).2) := by
    unfold lineAlign
    cases halign : alignTag? line with
    | none => rfl
    | some align => exact compileFrom_column halign
  rw [hfrom]
  unfold compileLine
  dsimp only
  by_cases hempty : (Text.trim (line.drop (lineAlign line).2)).isEmpty = true
  · rw [if_pos hempty]
    have hblank := Text.trim_eq_nil.1 (List.isEmpty_iff.1 hempty)
    exact (compileFrom_blank _ hblank).symm
  · rw [if_neg hempty, hrule]
    dsimp only
    rw [compileFrom]
    cases (pieces number ((Cursor.ofLine line).advance (lineAlign line).2)).1.foldlM
        (LineState.add images imageOptional number) { align := (lineAlign line).1 } with
    | error fault => rfl
    | ok s => rfl

end Markup

end ThermalPrint
