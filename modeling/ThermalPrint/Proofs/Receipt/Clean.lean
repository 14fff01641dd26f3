import ThermalPrint.Proofs.Markup.Aligned
import ThermalPrint.Proofs.Markup.Lines
import ThermalPrint.Proofs.Markup.Plain
import ThermalPrint.Proofs.Text.Blank
import ThermalPrint.Receipt.Template

/-
What cleaning does to a caller's text: no line breaks in it and no token begins in it, and a text
of which that is true already stays as it is.  So a line of a template that has such a text in it
comes to one directive.
-/

namespace ThermalPrint

namespace Text

theorem breakLines_go_mem {t line : Text} {done : List Text} {l : Text} {c : CodePoint}
    (hl : l ∈ breakLines.go line done t) (hc : c ∈ l) :
    c ∈ line ∨ (∃ l ∈ done, c ∈ l) ∨ c ∈ t ∧ isLineBreak c = false := by
  fun_induction breakLines.go line done t with
  | case1 line done hline => exact .inr (.inl ⟨l, List.mem_reverse.1 hl, hc⟩)
  | case2 line done hline =>
    rcases List.mem_cons.1 (List.mem_reverse.1 hl) with rfl | hl
    · exact .inl (List.mem_reverse.1 hc)
    · exact .inr (.inl ⟨l, hl, hc⟩)
  | case3 line done rest ih => have := ih hl; grind
  | case4 line done c' rest hcr hbreak ih => have := ih hl; grind
  | case5 line done c' rest hcr hbreak ih => have := ih hl; grind

theorem breakLines_mem {t l : Text} {c : CodePoint} (hl : l ∈ breakLines t) (hc : c ∈ l) :
    c ∈ t ∧ isLineBreak c = false := by
  rcases breakLines_go_mem hl hc with h | ⟨_, h, -⟩ | h
  · cases h
  · cases h
  · exact h

theorem breakLines_go_unbroken {t : Text} (h : Unbroken t) :
    ∀ line, breakLines.go line [] t =
      if (line.reverse ++ t).isEmpty then [] else [line.reverse ++ t] := by
  induction t with
  | nil =>
    intro line
    cases line with
    | nil => rfl
    | cons c line => simp [breakLines.go]
  | cons c rest ih =>
    intro line
    have hc := h c List.mem_cons_self
    have hreturn : ∀ more, c = '\r' → rest = .char '\n' :: more → False := by
      rintro more rfl -
      exact absurd hc (by decide)
    rw [breakLines.go.eq_3 _ _ _ _ hreturn, hc, if_neg Bool.false_ne_true,
      ih fun d hd => h d (List.mem_cons_of_mem c hd)]
    simp

end Text

namespace Receipt

open Markup

theorem mem_openTags {t : Text} {c : CodePoint} (h : c ∈ openTags t) : c = ' ' ∨ c ∈ t := by
  induction t with
  | nil => cases h
  | cons d rest ih =>
    rw [openTags] at h
    split at h <;> grind

theorem mem_roundTags {t : Text} {c : CodePoint} (h : c ∈ roundTags t) :
    c = '(' ∨ c = ')' ∨ c ∈ t := by
  fun_induction roundTags t with
  | case1 d rest halign ih => grind
  | case2 d rest halign ih => grind
  | case3 d rest hsquare ih => grind
  | case4 => cases h

theorem mem_clean {t : Text} {c : CodePoint} (h : c ∈ clean t) :
    c = ' ' ∨ c = '(' ∨ c = ')' ∨ c ∈ t ∧ Text.isLineBreak c = false := by
  rcases mem_roundTags h with hc | hc | hc
  · exact .inr (.inl hc)
  · exact .inr (.inr (.inl hc))
  · rcases mem_openTags hc with hc | hc
    · exact .inl hc
    · rcases Text.mem_intercalate hc with hc | ⟨l, hl, hc⟩
      · exact .inl (List.mem_singleton.1 hc)
      · exact .inr (.inr (.inr (Text.breakLines_mem hl hc)))

theorem clean_unbroken (t : Text) : Text.Unbroken (clean t) := by
  intro c hc
  rcases mem_clean hc with rfl | rfl | rfl | ⟨-, h⟩
  · decide
  · decide
  · decide
  · exact h

theorem openTags_inv {t u : Text} {c : CodePoint} (h : openTags t = c :: u) :
    ∃ rest, t = c :: rest ∧ (u = openTags rest ∨ u = .char ' ' :: openTags rest) := by
  cases t with
  | nil => cases h
  | cons d rest =>
    rw [openTags] at h
    split at h
    · cases h
      exact ⟨rest, rfl, .inr rfl⟩
    · cases h
      exact ⟨rest, rfl, .inl rfl⟩

theorem roundTags_inv {t u : Text} {c : CodePoint} (h : roundTags t = c :: u) (hc : c ≠ '(') :
    ∃ rest, t = c :: rest ∧ u = roundTags rest := by
  unfold roundTags at h
  split at h
  · split at h
    · cases h
      exact absurd rfl hc
    · cases h
      exact ⟨_, rfl, rfl⟩
  · cases h
    exact ⟨_, rfl, rfl⟩
  · cases h

/-- Once a space stands behind the brackets of tags, no bracket begins one. -/
theorem openTags_tagBody (t : Text) : ∀ s, s <:+ openTags t → (tagBody? s).isSome = false := by
  induction t with
  | nil =>
    intro s hs
    rw [List.suffix_nil.1 hs]
    rfl
  | cons c rest ih =>
    intro s hs
    rw [openTags] at hs
    split at hs
    · rcases List.suffix_cons_iff.1 hs with rfl | hs
      · rw [← Bool.not_eq_true, tagBody?_isSome_iff]
        rintro (⟨d, r, heq, hd⟩ | ⟨d, r, heq, -⟩)
        · cases heq
          exact absurd hd (by decide)
        · cases heq
      · rcases List.suffix_cons_iff.1 hs with rfl | hs
        · rfl
        · exact ih s hs
    · rename_i hno
      rcases List.suffix_cons_iff.1 hs with rfl | hs
      · -- What stands behind the bracket stood there before, so a tag began there already.
        rw [← Bool.not_eq_true, tagBody?_isSome_iff]
        rintro (⟨d, r, heq, hd⟩ | ⟨d, r, heq, hd⟩)
        · obtain ⟨rfl, hmore⟩ := List.cons.inj heq
          obtain ⟨r', rfl, -⟩ := openTags_inv hmore
          exact hno (tagBody?_isSome_iff.2 (.inl ⟨d, r', rfl, hd⟩))
        · obtain ⟨rfl, hmore⟩ := List.cons.inj heq
          obtain ⟨r', rfl, hlast | hlast⟩ := openTags_inv hmore
          · obtain ⟨r'', rfl, -⟩ := openTags_inv hlast.symm
            exact hno (tagBody?_isSome_iff.2 (.inr ⟨d, r'', rfl, hd⟩))
          · cases hlast
            exact absurd hd (by decide)
      · exact ih s hs

theorem align_ne {l c : CodePoint} (hl : (Align.ofLetter? l).isSome = true)
    (hc : isLetter c = false) : l ≠ c := by
  rintro rfl
  rw [letter_of_align hl] at hc
  cases hc

theorem roundTags_tagless {t : Text} (h : ∀ s, s <:+ t → (tagBody? s).isSome = false) :
    Tagless (roundTags t) := by
  fun_induction roundTags t with
  | case1 c rest halign ih =>
    have hrest := ih fun s hs => h s (hs.trans ⟨[.char '[', c, .char ']'], rfl⟩)
    exact tagless_cons.2 ⟨rfl, tagless_cons.2
      ⟨beginsToken_cons (align_ne halign rfl) (align_ne halign rfl) _,
        tagless_cons.2 ⟨rfl, hrest⟩⟩⟩
  | case2 c rest halign ih =>
    have hrest := ih fun s hs => h s (hs.trans (List.suffix_cons _ _))
    refine tagless_cons.2 ⟨?_, hrest⟩
    rw [← Bool.not_eq_true, beginsToken_iff]
    rintro (⟨l, r, heq, hl⟩ | ⟨d, r, heq, -⟩ | ⟨d, r, heq, -⟩)
    · obtain ⟨r', heq, -⟩ := roundTags_inv (List.cons.inj heq).2 (align_ne hl rfl)
      cases heq
      exact halign hl
    · cases heq
    · cases heq
  | case3 c rest hsquare ih =>
    have hrest := ih fun s hs => h s (hs.trans (List.suffix_cons _ _))
    have hno := h (c :: rest) (List.suffix_refl _)
    refine tagless_cons.2 ⟨?_, hrest⟩
    rw [← Bool.not_eq_true, tagBody?_isSome_iff] at hno
    rw [← Bool.not_eq_true, beginsToken_iff]
    rintro (⟨l, r, heq, hl⟩ | ⟨d, r, heq, hd⟩ | ⟨d, r, heq, hd⟩)
    · obtain ⟨rfl, hmore⟩ := List.cons.inj heq
      obtain ⟨r', rfl, hlast⟩ := roundTags_inv hmore (align_ne hl rfl)
      obtain ⟨r'', rfl, -⟩ := roundTags_inv hlast.symm (by decide)
      exact hsquare l r'' rfl rfl
    · obtain ⟨rfl, hmore⟩ := List.cons.inj heq
      obtain ⟨r', rfl, -⟩ := roundTags_inv hmore (by rintro rfl; exact absurd hd (by decide))
      exact hno (.inl ⟨d, r', rfl, hd⟩)
    · obtain ⟨rfl, hmore⟩ := List.cons.inj heq
      obtain ⟨r', rfl, hlast⟩ := roundTags_inv hmore (by decide)
      obtain ⟨r'', rfl, -⟩ := roundTags_inv hlast.symm (by rintro rfl; exact absurd hd (by decide))
      exact hno (.inr ⟨d, r'', rfl, hd⟩)
  | case4 => exact tagless_nil

theorem clean_tagless (t : Text) : Tagless (clean t) := roundTags_tagless (openTags_tagBody _)

theorem openTags_plain {t : Text} (h : Tagless t) : openTags t = t := by
  induction t with
  | nil => rfl
  | cons c rest ih =>
    obtain ⟨hc, hrest⟩ := tagless_cons.1 h
    rw [beginsToken, Bool.or_eq_false_iff] at hc
    rw [openTags, hc.2, if_neg Bool.false_ne_true, ih hrest]

theorem roundTags_plain {t : Text} (h : Tagless t) : roundTags t = t := by
  fun_induction roundTags t with
  | case1 c rest halign ih =>
    have hno := (tagless_cons.1 h).1
    rw [beginsToken_iff.2 (.inl ⟨c, rest, rfl, halign⟩)] at hno
    cases hno
  | case2 c rest halign ih => rw [ih (tagless_cons.1 h).2]
  | case3 c rest hsquare ih => rw [ih (tagless_cons.1 h).2]
  | case4 => rfl

/-- Cleaning leaves exactly those texts alone that have no line breaks and no tokens. -/
theorem clean_eq_self_iff {t : Text} :
    clean t = t ↔ Text.Unbroken t ∧ Tagless t := by
  constructor
  · intro h
    rw [← h]
    exact ⟨clean_unbroken t, clean_tagless t⟩
  · rintro ⟨hbreak, htag⟩
    have hlines : ((Text.breakLines t).intersperse [.char ' ']).flatten = t := by
      rw [Text.breakLines, Text.breakLines_go_unbroken hbreak []]
      cases t with
      | nil => rfl
      | cons c rest => simp
    rw [clean, hlines, openTags_plain htag, roundTags_plain htag]

/-! ## Lines with a text in them -/

/-- A line comes to one directive and to nothing else, wherever it stands. -/
def Becomes (line : Text) (d : Directive) : Prop := ∀ images imageOptional number,
  compileLine images imageOptional number line = .ok [d]

/-- A text is one line and comes to one directive and to nothing else. -/
structure Alone (line : Text) (d : Directive) : Prop where
  becomes : Becomes line d
  compiled : ∀ images (options : Options),
    compile images options line = .ok (d :: if options.cut then [.cut] else [])

theorem Becomes.alone {line : Text} {d : Directive} (h : Becomes line d) (hne : line ≠ [])
    (hbreak : .char '\n' ∉ line) : Alone line d := by
  refine ⟨h, fun images options => ?_⟩
  rw [compile_line_eq hbreak hne, h]
  rfl

theorem dated_tagless (s : Text) : Tagless ("Date: ".toText ++ clean s) :=
  tagless_over (by decide) (by decide) (clean_tagless s)

theorem plainLine_dated (align : Align) (s : Text) :
    plainLine align ("Date: ".toText ++ clean s) =
      .text (.plain ("Date: ".toText ++ clean s) align) := by
  have hmem : .char 'D' ∈ "Date: ".toText ++ clean s := List.mem_cons_self
  obtain ⟨hblank, hrule⟩ := shows_of_mem hmem rfl (by decide) (by decide)
  unfold plainLine
  rw [hblank, if_neg Bool.false_ne_true, hrule]

theorem padLabel_ne_nil (s : Text) : padLabel s ≠ [] := by
  have hlength : labelWidth ≤ (padLabel s).length := by
    rw [padLabel, Text.padRight_length]
    exact Nat.le_max_left _ _
  rintro hnil
  rw [hnil] at hlength
  exact absurd hlength (by decide)

theorem labelled_becomes (s : Text) {m : Text} (hangle : .char '<' ∉ m) (hsquare : .char '[' ∉ m)
    (hm : Text.isBlank m = false) : Becomes ("[L]".toText ++ padLabel s ++ "[R]".toText ++ m)
      (.text (.ofColumns ⟨.left, [⟨padLabel s, false⟩]⟩ [⟨.right, [⟨m, false⟩]⟩])) := by
  intro images imageOptional number
  rw [List.append_assoc, List.append_assoc]
  exact compileLine_columns rfl rfl ((clean_tagless s).padRight labelWidth)
    (tagless_unbracketed hangle hsquare) (padLabel_ne_nil s) hm

theorem padLabel_unbroken (s : Text) : Text.Unbroken (padLabel s) := by
  refine (clean_unbroken s).append fun c hc => ?_
  rw [List.eq_of_mem_replicate hc]
  rfl

/-- A caller's text that has been cleaned stays a text.  A line of a template with such a text in
it comes to one directive: the text as it is, unless nothing of it shows or it is a rule, and the
text after what the template puts in front of it, in bold type, or in a column of its own. -/
theorem clean_splices (s : Text) {m : Text} (hangle : .char '<' ∉ m) (hsquare : .char '[' ∉ m)
    (hm : Text.isBlank m = false) :
    Text.Unbroken (clean s) ∧
    Alone ("[C]".toText ++ clean s) (plainLine .center (clean s)) ∧
    Alone ("[C]<b>".toText ++ clean s ++ "</b>".toText)
      (if Text.isBlank (clean s) then .lineFeed else .text (.plain (clean s) .center true)) ∧
    Alone ("[L]Date: ".toText ++ clean s) (.text (.plain ("Date: ".toText ++ clean s))) ∧
    Becomes ("[L]".toText ++ padLabel s ++ "[R]".toText ++ m)
      (.text (.ofColumns ⟨.left, [⟨padLabel s, false⟩]⟩ [⟨.right, [⟨m, false⟩]⟩])) ∧
    (.char '\n' ∉ m → Alone ("[L]".toText ++ padLabel s ++ "[R]".toText ++ m)
      (.text (.ofColumns ⟨.left, [⟨padLabel s, false⟩]⟩ [⟨.right, [⟨m, false⟩]⟩]))) := by
  have hclean := clean_unbroken s
  have hlabelled := labelled_becomes s hangle hsquare hm
  refine ⟨hclean, ?_, ?_, ?_, hlabelled, fun hbreak => ?_⟩
  · have hfront : Text.Unbroken "[C]".toText := by decide
    have hline : Becomes ("[C]".toText ++ clean s) (plainLine .center (clean s)) :=
      fun _ _ _ => compileLine_tagless rfl (clean_tagless s)
    exact hline.alone (List.cons_ne_nil _ _) ((hfront.append hclean).not_mem rfl)
  · have hfront : Text.Unbroken "[C]<b>".toText := by decide
    have hend : Text.Unbroken "</b>".toText := by decide
    have hline : Becomes ("[C]<b>".toText ++ clean s ++ "</b>".toText)
        (if Text.isBlank (clean s) then .lineFeed else .text (.plain (clean s) .center true)) :=
      fun _ _ _ => compileLine_bolded rfl (clean_tagless s)
    exact hline.alone (List.cons_ne_nil _ _) (((hfront.append hclean).append hend).not_mem rfl)
  · have hfront : Text.Unbroken "[L]Date: ".toText := by decide
    have hline : Becomes ("[L]Date: ".toText ++ clean s)
        (.text (.plain ("Date: ".toText ++ clean s))) := by
      intro images imageOptional number
      rw [← plainLine_dated]
      exact compileLine_tagless rfl (dated_tagless s)
    exact hline.alone (List.cons_ne_nil _ _) ((hfront.append hclean).not_mem rfl)
  · have hfront : Text.Unbroken "[L]".toText := by decide
    have hmark : Text.Unbroken "[R]".toText := by decide
    have hlabel : .char '\n' ∉ "[L]".toText ++ padLabel s ++ "[R]".toText :=
      ((hfront.append (padLabel_unbroken s)).append hmark).not_mem rfl
    exact hlabelled.alone (List.cons_ne_nil _ _)
      fun hmem => (List.mem_append.1 hmem).elim hlabel hbreak

theorem clean_splices_price :
    .char '<' ∉ "$3.50".toText ∧ .char '[' ∉ "$3.50".toText ∧ Text.isBlank "$3.50".toText = false ∧
      Alone "[L]< b>Tea(R) hot    [R]$3.50".toText
        (.text (.ofColumns ⟨.left, [⟨"< b>Tea(R) hot    ".toText, false⟩]⟩
          [⟨.right, [⟨"$3.50".toText, false⟩]⟩])) := by
  have hlabel : padLabel "<b>Tea[R]\nhot".toText = "< b>Tea(R) hot    ".toText := by
    decide +kernel
  obtain ⟨-, -, -, -, -, hcolumns⟩ := clean_splices "<b>Tea[R]\nhot".toText (m := "$3.50".toText)
    (by decide) (by decide) (by decide)
  have halone := hcolumns (by decide)
  rw [hlabel] at halone
  exact ⟨by decide, by decide, by decide, halone⟩

end Receipt
end ThermalPrint
