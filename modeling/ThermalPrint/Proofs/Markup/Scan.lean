import ThermalPrint.Markup.Piece
import ThermalPrint.Proofs.Outcome

/-
What one step of the scanner does: a text up to the next token, or one token.
-/

namespace ThermalPrint
namespace Markup

theorem plainLength_go (t : Text) : ∀ n, plainLength.go n t = plainLength t + n := by
  induction t with
  | nil =>
    intro n
    exact (Nat.zero_add n).symm
  | cons c rest ih =>
    intro n
    unfold plainLength
    rw [plainLength.go, plainLength.go]
    by_cases h : beginsToken (c :: rest) = true
    · rw [if_pos h, if_pos h, Nat.zero_add]
    · rw [if_neg h, if_neg h, ih, ih]
      omega

theorem plainLength_cons (c : CodePoint) (rest : Text) :
    plainLength (c :: rest) = if beginsToken (c :: rest) then 0 else plainLength rest + 1 := by
  show plainLength.go 0 (c :: rest) = _
  rw [plainLength.go, plainLength_go]

theorem plainLength_token {t : Text} (h : beginsToken t = true) : plainLength t = 0 := by
  cases t with
  | nil => rfl
  | cons c rest => rw [plainLength_cons, if_pos h]

theorem plainLength_le (t : Text) : plainLength t ≤ t.length := by
  induction t with
  | nil => exact Nat.le_refl 0
  | cons c rest ih =>
    rw [plainLength_cons, List.length_cons]
    split
    · omega
    · omega

theorem plainLength_before (t : Text) : ∀ i < plainLength t, beginsToken (t.drop i) = false := by
  induction t with
  | nil =>
    intro i hi
    exact absurd hi (Nat.not_lt_zero i)
  | cons c rest ih =>
    intro i hi
    rw [plainLength_cons] at hi
    by_cases h : beginsToken (c :: rest) = true
    · rw [if_pos h] at hi
      exact absurd hi (Nat.not_lt_zero i)
    · rw [if_neg h] at hi
      cases i with
      | zero => exact Bool.eq_false_iff.2 h
      | succ i => exact ih i (by omega)

theorem plainLength_behind (t : Text) :
    t.drop (plainLength t) = [] ∨ beginsToken (t.drop (plainLength t)) = true := by
  induction t with
  | nil => exact .inl rfl
  | cons c rest ih =>
    rw [plainLength_cons]
    by_cases h : beginsToken (c :: rest) = true
    · rw [if_pos h]
      exact .inr h
    · rw [if_neg h]
      exact ih

/-- What a text that does not end at once has at its front: plain text or a token. -/
theorem front_cases (t : Text) :
    t = [] ∨ t ≠ [] ∧ (0 < plainLength t ∨ beginsToken t = true) := by
  by_cases hne : t = []
  · exact .inl hne
  · refine .inr ⟨hne, ?_⟩
    by_cases hplain : 0 < plainLength t
    · exact .inl hplain
    · have hzero : plainLength t = 0 := by omega
      have hbehind := plainLength_behind t
      rw [hzero] at hbehind
      exact .inr (hbehind.resolve_left hne)

/-- Induction on what is left of a text behind its front. -/
@[elab_as_elim]
theorem behind_induction {motive : Text → Prop}
    (step : ∀ t, (t ≠ [] → ∀ k, 0 < k → motive (t.drop k)) → motive t) (t : Text) : motive t := by
  induction hn : t.length using Nat.strongRecOn generalizing t with
  | ind n ih =>
    subst hn
    refine step t fun hne k hk => ih _ ?_ _ rfl
    have hpos : 0 < t.length := List.length_pos_iff.2 hne
    rw [List.length_drop]
    omega

theorem plainLength_over {t rest : Text}
    (hplain : ∀ i < t.length, beginsToken ((t ++ rest).drop i) = false) :
    plainLength (t ++ rest) = t.length + plainLength rest := by
  induction t with
  | nil => exact (Nat.zero_add _).symm
  | cons c more ih =>
    have hzero : beginsToken (c :: (more ++ rest)) = false := hplain 0 (Nat.succ_pos _)
    have hfirst : ¬ beginsToken (c :: (more ++ rest)) = true := Bool.eq_false_iff.1 hzero
    rw [List.cons_append, plainLength_cons, if_neg hfirst,
      ih fun i hi => hplain (i + 1) (Nat.succ_lt_succ hi), List.length_cons]
    omega

theorem plainLength_append {t rest : Text}
    (hplain : ∀ i < t.length, beginsToken ((t ++ rest).drop i) = false)
    (hend : rest = [] ∨ beginsToken rest = true) : plainLength (t ++ rest) = t.length := by
  have hzero : plainLength rest = 0 := by
    rcases hend with rfl | htoken
    · rfl
    · exact plainLength_token htoken
  rw [plainLength_over hplain, hzero, Nat.add_zero]

theorem beginsToken_cons {c : CodePoint} (hsquare : c ≠ '[') (hangle : c ≠ '<') (rest : Text) :
    beginsToken (c :: rest) = false := by
  have halign : alignTag? (c :: rest) = none := by
    unfold alignTag?
    split
    · rename_i heq
      exact absurd (List.cons.inj heq).1 hsquare
    · rfl
  have hbody : tagBody? (c :: rest) = none := by
    unfold tagBody?
    split
    · rename_i heq
      exact absurd (List.cons.inj heq).1 hangle
    · rename_i heq
      exact absurd (List.cons.inj heq).1 hangle
    · rfl
  rw [beginsToken, halign, hbody]
  rfl

section Steps

variable {number : Nat} {c : Cursor}

theorem pieces_end (h : c.rest = []) : pieces number c = ([], none) := by
  rw [pieces, h]
  rfl

theorem pieces_plain (h : 0 < plainLength c.rest) :
    pieces number c = (.text (c.rest.take (plainLength c.rest)) ::
      (pieces number (c.advance (plainLength c.rest))).1,
      (pieces number (c.advance (plainLength c.rest))).2) := by
  have hrest : ¬ c.rest.isEmpty = true := by
    intro hempty
    rw [List.isEmpty_iff.1 hempty] at h
    exact absurd h (Nat.lt_irrefl 0)
  rw [pieces, if_neg hrest]
  dsimp only
  rw [if_pos h]

theorem pieces_token {piece : Piece} {length : Nat} (htoken : beginsToken c.rest = true)
    (h : readToken number c = .ok (piece, length)) :
    pieces number c = (piece :: (pieces number (c.advance (max 1 length))).1,
      (pieces number (c.advance (max 1 length))).2) := by
  have hrest : ¬ c.rest.isEmpty = true := by
    intro hempty
    rw [List.isEmpty_iff.1 hempty] at htoken
    cases htoken
  rw [pieces, if_neg hrest]
  dsimp only
  rw [if_neg (by rw [plainLength_token htoken]; exact Nat.lt_irrefl 0), h]

theorem pieces_fault {fault : MarkupFault} (htoken : beginsToken c.rest = true)
    (h : readToken number c = .error fault) : pieces number c = ([], some fault) := by
  have hrest : ¬ c.rest.isEmpty = true := by
    intro hempty
    rw [List.isEmpty_iff.1 hempty] at htoken
    cases htoken
  rw [pieces, if_neg hrest]
  dsimp only
  rw [if_neg (by rw [plainLength_token htoken]; exact Nat.lt_irrefl 0), h]

end Steps

section Tags

theorem readAttributes_length (t : Text) : (readAttributes t).2.length ≤ t.length := by
  fun_induction readAttributes t with
  | case1 t h => exact Nat.le_refl _
  | case2 t a rest h more rest' heq ih =>
    have := readAttribute?_length h
    rw [heq] at ih
    dsimp only at ih ⊢
    omega

theorem tagBody?_length {t body : Text} {closing : Bool} (h : tagBody? t = some (closing, body)) :
    body.length < t.length := by
  unfold tagBody? at h
  split at h
  · split at h
    · cases h
      simp only [List.length_cons]
      omega
    · cases h
  · split at h
    · cases h
      simp only [List.length_cons]
      omega
    · cases h
  · cases h

theorem readTag?_length {t : Text} {tag : Tag} (h : readTag? t = some tag) :
    0 < tag.length ∧ tag.length ≤ t.length := by
  unfold readTag? at h
  split at h
  · cases h
  · rename_i closing body hbody
    dsimp only at h
    split at h
    · rename_i after hafter
      cases h
      have hbehind := trimLeft_length (readAttributes (body.dropWhile isNameChar)).2
      have hattributes := readAttributes_length (body.dropWhile isNameChar)
      have hname := (List.dropWhile_sublist (l := body) isNameChar).length_le
      have hopen := tagBody?_length hbody
      rw [hafter, List.length_cons] at hbehind
      dsimp only
      omega
    · cases h

theorem tagBody?_of_readTag? {t : Text} {tag : Tag} (h : readTag? t = some tag) :
    (tagBody? t).isSome = true := by
  unfold readTag? at h
  cases hbody : tagBody? t with
  | none =>
    rw [hbody] at h
    cases h
  | some p => rfl

/-- A text does not begin both kinds of tags. -/
theorem alignTag?_of_tagBody? {t : Text} (h : (tagBody? t).isSome = true) :
    alignTag? t = none := by
  unfold alignTag?
  split
  · cases h
  · rfl

theorem beginsToken_of_readTag? {t : Text} {tag : Tag} (h : readTag? t = some tag) :
    beginsToken t = true := by
  rw [beginsToken, tagBody?_of_readTag? h, Bool.or_true]

theorem ofName?_eq_some {t : Text} {e : Element} : Element.ofName? t = some e ↔ t = e.name := by
  constructor
  · intro h
    have hname : (e.name == t) = true := @List.find?_some _ (fun e : Element => e.name == t) e _ h
    exact (beq_iff_eq.1 hname).symm
  · rintro rfl
    cases e with
    | img => rfl
    | qrcode => rfl
    | barcode => rfl

theorem checkAttributes_none {tag : Text} {given attributes : List Attribute} :
    checkAttributes tag [] given = .ok attributes ↔ given = [] ∧ attributes = [] := by
  cases given with
  | nil =>
    constructor
    · intro h
      cases h
      exact ⟨rfl, rfl⟩
    · rintro ⟨-, rfl⟩
      rfl
  | cons a rest =>
    constructor
    · intro h
      rw [checkAttributes, List.mapM_cons] at h
      obtain ⟨b, hb, -⟩ := Outcome.bind_ok h
      cases hb
    · rintro ⟨h, -⟩
      cases h

variable {number : Nat} {c : Cursor}

theorem readToken_column {l : CodePoint} {rest : Text} {align : Align}
    (hrest : c.rest = .char '[' :: l :: .char ']' :: rest) (h : Align.ofLetter? l = some align) :
    readToken number c = .ok (.column align, 3) := by
  have htag : alignTag? c.rest = some align := by
    rw [hrest]
    exact h
  rw [readToken, htag]

theorem readToken_tag {tag : Tag} (h : readTag? c.rest = some tag) :
    readToken number c = readPiece number c tag := by
  rw [readToken, alignTag?_of_tagBody? (tagBody?_of_readTag? h), h]

theorem readToken_bold {tag : Tag} (h : readTag? c.rest = some tag) (hname : tag.name = boldName)
    (hattributes : tag.closing = false → tag.attributes = []) :
    readToken number c = .ok (.bold (!tag.closing), tag.length) := by
  have hnone : Element.ofName? tag.name = none := by
    rw [hname]
    decide
  rw [readToken_tag h, readPiece]
  dsimp only
  rw [hnone]
  dsimp only
  rw [if_neg (fun hne => hne hname)]
  cases hclosing : tag.closing with
  | true => rfl
  | false =>
    rw [if_neg Bool.false_ne_true, checkAttributes_none.2 ⟨hattributes hclosing, rfl⟩]
    rfl

section Elements

variable {tag : Tag} {e : Element} {attributes : List Attribute}
  (h : readTag? c.rest = some tag) (hopen : tag.closing = false) (hname : tag.name = e.name)
  (hattributes : checkAttributes tag.name e.keys tag.attributes = .ok attributes)

include h hopen hname hattributes

theorem readToken_element {n : Nat}
    (hfind : Text.find? e.closingTag (c.advance tag.length).folded = some n) :
    readToken number c = .ok (.element e attributes ((c.advance tag.length).rest.take n),
      tag.length + n + e.closingTag.length) := by
  rw [readToken_tag h, readPiece]
  simp [ofName?_eq_some.2 hname, hopen, hattributes, hfind]

theorem readToken_unclosed
    (hfind : Text.find? e.closingTag (c.advance tag.length).folded = none) :
    readToken number c = .error (.unclosed tag.name number) := by
  rw [readToken_tag h, readPiece]
  simp [ofName?_eq_some.2 hname, hopen, hattributes, hfind]

end Elements

/-- Every token is an alignment tag, a tag for bold type, or an element. -/
theorem readToken_ok {piece : Piece} {length : Nat}
    (h : readToken number c = .ok (piece, length)) :
    (∃ l rest align, c.rest = .char '[' :: l :: .char ']' :: rest ∧ Align.ofLetter? l = some align ∧
      piece = .column align ∧ length = 3) ∨
    (∃ tag, readTag? c.rest = some tag ∧ tag.name = boldName ∧
      (tag.closing = false → tag.attributes = []) ∧ piece = .bold (!tag.closing) ∧
      length = tag.length) ∨
    (∃ tag e attributes n, readTag? c.rest = some tag ∧ tag.closing = false ∧
      tag.name = e.name ∧ checkAttributes tag.name e.keys tag.attributes = .ok attributes ∧
      Text.find? e.closingTag (c.advance tag.length).folded = some n ∧
      piece = .element e attributes ((c.advance tag.length).rest.take n) ∧
      length = tag.length + n + e.closingTag.length) := by
  unfold readToken at h
  split at h
  · rename_i align halign
    cases h
    left
    unfold alignTag? at halign
    split at halign
    · rename_i l rest hrest
      exact ⟨l, rest, align, hrest, halign, rfl, rfl⟩
    · cases halign
  · right
    split at h
    · rename_i tag htag
      unfold readPiece at h
      dsimp only at h
      split at h
      · left
        split at h
        · cases h
        · rename_i hname
          have hbold : tag.name = boldName := Decidable.not_not.1 hname
          split at h
          · rename_i hclosing
            cases h
            refine ⟨tag, htag, hbold, fun hopen => ?_, by rw [hclosing]; rfl, rfl⟩
            rw [hopen] at hclosing
            cases hclosing
          · rename_i hclosing
            obtain ⟨attributes, hattributes, heq⟩ := Outcome.map_ok h
            cases heq
            have hopen : tag.closing = false := Bool.eq_false_iff.2 hclosing
            exact ⟨tag, htag, hbold, fun _ => (checkAttributes_none.1 hattributes).1,
              by rw [hopen]; rfl, rfl⟩
      · right
        rename_i e he
        split at h
        · cases h
        · rename_i hclosing
          split at h
          · cases h
          · rename_i attributes hattributes
            split at h
            · cases h
            · rename_i n hn
              cases h
              exact ⟨tag, e, attributes, n, htag, Bool.eq_false_iff.2 hclosing,
                ofName?_eq_some.1 he, hattributes, hn, rfl, rfl⟩
    · cases h

end Tags

end Markup
end ThermalPrint
