import ThermalPrint.Proofs.Markup.Aligned

/-
Elements around a text in which no token begins.  The end of such an element is looked for in the
folded text, and there it is found behind all of it.
-/

namespace ThermalPrint

namespace Text

/-- What a folded text begins with stands in the text, or it stands behind an empty one. -/
theorem begins_fold {t rest more : Text} {d : CodePoint} (hown : IsOwnSmall d) (hi : d ≠ 'i')
    (h : d :: more <+: fold t ++ rest) :
    (t = [] ∧ d :: more <+: rest) ∨
      ∃ c u, t = c :: u ∧ c.toLower = d ∧ more <+: fold u ++ rest := by
  cases t with
  | nil => exact .inl ⟨rfl, h⟩
  | cons c u =>
    rw [fold_cons, lowerOf_eq] at h
    split at h
    · exact absurd (List.cons_prefix_cons.1 h).1 hi
    · obtain ⟨hc, hmore⟩ := List.cons_prefix_cons.1 h
      exact .inr ⟨c, u, rfl, (smallOf_eq_iff hown).1 hc.symm, hmore⟩

theorem fold_length_le (t : Text) : t.length ≤ (fold t).length := by
  induction t with
  | nil => exact Nat.le_refl 0
  | cons c rest ih =>
    have hc : 1 ≤ (lowerOf c).length := by
      rw [lowerOf_eq]
      split <;> simp
    rw [fold_cons, List.length_append, List.length_cons]
    omega

theorem find?_over {sought t : Text} {c : CodePoint} (h : ¬ sought <+: c :: t) :
    find? sought (c :: t) = (find? sought t).map (· + 1) := by
  rw [find?_cons, if_neg fun hprefix => h (List.isPrefixOf_iff_prefix.1 hprefix)]

end Text

namespace Markup

theorem closingTag_front {e : Element} (he : e ≠ .img) : ∃ l more,
    e.closingTag = .char '<' :: .char '/' :: l :: more ∧ isLetter l = true ∧ Text.IsOwnSmall l ∧
      l ≠ 'i' ∧ l ≠ '<' := by
  cases e with
  | img => exact absurd rfl he
  | qrcode => exact ⟨'q', _, rfl, by decide, by decide, by decide, by decide⟩
  | barcode => exact ⟨'b', _, rfl, by decide, by decide, by decide, by decide⟩

/-- Folded text makes no closing tag where none begins, also not with the one behind it. -/
theorem not_closes_fold {e : Element} (he : e ≠ .img) {t : Text} (ht : Tagless t) (hne : t ≠ []) :
    ¬ e.closingTag <+: Text.fold t ++ e.closingTag := by
  obtain ⟨l, more, htag, hletter, hown, hi, hbracket⟩ := closingTag_front he
  rw [htag]
  intro h
  rcases Text.begins_fold (by decide) (by decide) h with ⟨rfl, -⟩ | ⟨_, u, rfl, hc, hslash⟩
  · exact hne rfl
  obtain rfl := Text.eq_of_toLower (by decide) hc
  rcases Text.begins_fold (by decide) (by decide) hslash with ⟨-, hend⟩ | ⟨_, u, rfl, hc, hname⟩
  · exact absurd (List.cons_prefix_cons.1 hend).1 (by decide)
  obtain rfl := Text.eq_of_toLower (by decide) hc
  rcases Text.begins_fold hown hi hname with ⟨-, hend⟩ | ⟨c, u, rfl, rfl, -⟩
  · exact hbracket (List.cons_prefix_cons.1 hend).1
  have hbegins : beginsToken (.char '<' :: .char '/' :: c :: u) = true :=
    beginsToken_iff.2 (.inr (.inr ⟨c, u, rfl, isLetter_of_toLower hletter⟩))
  rw [ht _ (List.suffix_refl _)] at hbegins
  cases hbegins

theorem find?_enclosed {e : Element} (he : e ≠ .img) {t : Text} (ht : Tagless t) :
    Text.find? e.closingTag (Text.fold t ++ e.closingTag) = some (Text.fold t).length := by
  obtain ⟨l, more, htag, -⟩ := closingTag_front he
  induction t with
  | nil =>
    show Text.find? e.closingTag e.closingTag = some 0
    rw [Text.find?_eq_some (htag ▸ List.cons_ne_nil _ _)]
    exact ⟨List.prefix_refl _, nofun⟩
  | cons c rest ih =>
    have hno := not_closes_fold he ht (List.cons_ne_nil c rest)
    rw [Text.fold_cons, Text.lowerOf_eq] at hno ⊢
    split
    · -- Neither of the two characters is a bracket.
      have hletter : ∀ (x : CodePoint) u, x ≠ '<' → ¬ e.closingTag <+: x :: u := by
        intro x u hx hprefix
        rw [htag] at hprefix
        exact hx (List.cons_prefix_cons.1 hprefix).1.symm
      show Text.find? _ (.char 'i' :: .char '\u0307' :: (Text.fold rest ++ e.closingTag)) = _
      rw [Text.find?_over (hletter _ _ (by decide)), Text.find?_over (hletter _ _ (by decide)),
        ih (tagless_cons.1 ht).2]
      rfl
    · rename_i hdot
      rw [if_neg hdot] at hno
      have hover : Text.find? e.closingTag (Text.smallOf c :: (Text.fold rest ++ e.closingTag)) =
          _ := Text.find?_over hno
      rw [ih (tagless_cons.1 ht).2] at hover
      exact hover

def enclosed (e : Element) (attributes : List Attribute) (t : Text) : Text :=
  writtenTag false e.name attributes ++ t ++ e.closingTag

/-- What is taken for the content of an element around a text. -/
def contentOf (e : Element) (t : Text) : Text := (t ++ e.closingTag).take (Text.fold t).length

/-- The text is the content, as long as it folds to a text of its own length. -/
theorem contentOf_eq (e : Element) {t : Text} (hdot : .char 'İ' ∉ t) : contentOf e t = t := by
  rw [contentOf, Text.fold_eq_map hdot, List.length_map, List.take_left]

theorem fold_closingTag (e : Element) : Text.fold e.closingTag = e.closingTag := by
  cases e with
  | img => decide
  | qrcode => decide
  | barcode => decide

section Enclosed

variable {e : Element} {attributes given : List Attribute} {t : Text}

theorem pieces_enclosed (he : e ≠ .img) (ht : Tagless t) (hwritable : ∀ a ∈ attributes, a.Writable)
    (hdot : .char 'İ' ∉ writtenTag false e.name attributes)
    (hcheck : checkAttributes e.name e.keys attributes = .ok given) (number : Nat) :
    pieces number (.ofLine (enclosed e attributes t)) =
      ([.element e given (contentOf e t)], none) := by
  have hline : enclosed e attributes t =
      writtenTag false e.name attributes ++ (t ++ e.closingTag) := List.append_assoc _ _ _
  let c := Cursor.ofLine (enclosed e attributes t)
  have htag : readTag? c.rest = some ⟨false, e.name, attributes,
      (writtenTag false e.name attributes).length⟩ := by
    show readTag? (enclosed e attributes t) = _
    rw [hline]
    exact readTag?_opening e hwritable _
  have hrest : (c.advance (writtenTag false e.name attributes).length).rest = t ++ e.closingTag :=
    advance_rest hline
  have hfolded : (c.advance (writtenTag false e.name attributes).length).folded =
      Text.fold t ++ e.closingTag := by
    show (Text.fold (enclosed e attributes t)).drop _ = _
    have hlength : (Text.fold (writtenTag false e.name attributes)).length =
        (writtenTag false e.name attributes).length := by
      rw [Text.fold_eq_map hdot, List.length_map]
    rw [hline, Text.fold_append, Text.fold_append, fold_closingTag, ← hlength, List.drop_left]
  have hfind := find?_enclosed he ht
  rw [← hfolded] at hfind
  have hread : readToken number c = .ok (.element e given (contentOf e t),
      (writtenTag false e.name attributes).length + (Text.fold t).length +
        e.closingTag.length) := by
    rw [contentOf, ← hrest]
    exact readToken_element htag rfl rfl hcheck hfind
  rw [pieces_token (beginsToken_of_readTag? htag) hread, pieces_end]
  show (enclosed e attributes t).drop _ = []
  rw [List.drop_eq_nil_iff, hline]
  have hfold := Text.fold_length_le t
  simp only [List.length_append]
  omega

theorem compileLine_enclosed {images : Images} {imageOptional : Bool} {number : Nat} {l : CodePoint}
    {align : Align} (h : Align.ofLetter? l = some align) (he : e ≠ .img) (ht : Tagless t)
    (hwritable : ∀ a ∈ attributes, a.Writable)
    (hdot : .char 'İ' ∉ writtenTag false e.name attributes)
    (hcheck : checkAttributes e.name e.keys attributes = .ok given)
    {result : Except MarkupFault Directive}
    (hdirective : elementDirective images imageOptional align e given (contentOf e t) =
      result.map some) :
    compileLine images imageOptional number
        (.char '[' :: l :: .char ']' :: enclosed e attributes t) =
      result.map fun d => [d] := by
  have hmem : .char '<' ∈ enclosed e attributes t := List.mem_cons_self
  obtain ⟨hblank, hrule⟩ := shows_of_mem hmem rfl (by decide) (by decide)
  rw [compileLine_of_body (lineAlign_tag h _) (ofLine_tag h _) hblank hrule
    (pieces_enclosed he ht hwritable hdot hcheck number), List.foldlM_cons]
  unfold LineState.add
  dsimp only
  rw [hdirective]
  cases result with
  | error fault => rfl
  | ok d => rfl

end Enclosed

end Markup
end ThermalPrint
