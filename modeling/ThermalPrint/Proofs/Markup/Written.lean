import ThermalPrint.Markup.Piece

/-
Tags as they are written: a name, and attributes with a space in front and their values in
apostrophes.  A tag is read back from the front of whatever follows it.
-/

namespace ThermalPrint
namespace Markup

namespace Attribute

def written (a : Attribute) : Text :=
  .char ' ' :: a.key ++ .char '=' :: .char '\'' :: a.value ++ [.char '\'']

/-- The key is one, and the value does not end before it should. -/
structure Writable (a : Attribute) : Prop where
  filled : a.key ≠ []
  key : ∀ c ∈ a.key, isKeyChar c = true
  value : .char '\'' ∉ a.value

end Attribute

theorem takeWhile_over {p : CodePoint → Bool} {t rest : Text} {d : CodePoint}
    (ht : ∀ c ∈ t, p c = true) (hd : p d = false) : (t ++ d :: rest).takeWhile p = t := by
  rw [List.takeWhile_append_of_pos ht, List.takeWhile_cons_of_neg (by simp [hd]), List.append_nil]

theorem dropWhile_over {p : CodePoint → Bool} {t rest : Text} {d : CodePoint}
    (ht : ∀ c ∈ t, p c = true) (hd : p d = false) : (t ++ d :: rest).dropWhile p = d :: rest := by
  rw [List.dropWhile_append_of_pos ht, List.dropWhile_cons_of_neg (by simp [hd])]

theorem readQuoted?_quoted {value : Text} (h : .char '\'' ∉ value) (rest : Text) :
    readQuoted? (.char '\'' :: value ++ .char '\'' :: rest) = some (value, rest) := by
  have hvalue : ∀ c ∈ value, decide (c ≠ '\'') = true := by
    intro c hc
    rw [decide_eq_true_eq]
    rintro rfl
    exact h hc
  have hmark : (decide (CodePoint.char '\'' = '\'') || decide (CodePoint.char '\'' = '"')) =
      true := by
    decide
  rw [List.cons_append, readQuoted?, if_pos hmark, dropWhile_over hvalue rfl,
    takeWhile_over hvalue rfl]

theorem readAttribute?_written {a : Attribute} (h : a.Writable) (rest : Text) :
    readAttribute? (a.written ++ rest) = some (a, rest) := by
  obtain ⟨k, more, hkey⟩ := List.exists_cons_of_ne_nil h.filled
  have hblank : Text.isBlankChar k = false := by
    have hk := h.key k (hkey ▸ List.mem_cons_self)
    simp only [isKeyChar, Bool.and_eq_true, Bool.not_eq_true'] at hk
    exact hk.1.1.1.1
  have hwritten : a.written ++ rest =
      .char ' ' :: (a.key ++ .char '=' :: (.char '\'' :: a.value ++ .char '\'' :: rest)) := by
    simp [Attribute.written]
  have hinner : Text.trimLeft (a.written ++ rest) =
      a.key ++ .char '=' :: (.char '\'' :: a.value ++ .char '\'' :: rest) := by
    rw [hwritten, hkey]
    show List.dropWhile _ (k :: _) = _
    rw [List.dropWhile_cons_of_neg (by simp [hblank])]
    rfl
  have hequals : isKeyChar '=' = false := by decide
  have hmark : Text.trimLeft (.char '=' :: (.char '\'' :: a.value ++ .char '\'' :: rest)) =
      .char '=' :: (.char '\'' :: a.value ++ .char '\'' :: rest) := rfl
  have hquoted : Text.trimLeft (.char '\'' :: a.value ++ .char '\'' :: rest) =
      .char '\'' :: a.value ++ .char '\'' :: rest := rfl
  unfold readAttribute?
  dsimp only
  rw [hinner, takeWhile_over h.key hequals, dropWhile_over h.key hequals, if_neg, hmark]
  · simp only [hquoted, readQuoted?_quoted h.value]
  · rw [hwritten, List.isEmpty_iff]
    rintro (hlength | hempty)
    · simp at hlength
    · exact h.filled hempty

theorem readAttributes_none {t : Text} (h : readAttribute? t = none) :
    readAttributes t = ([], t) := by
  rw [readAttributes]
  split
  · rfl
  · rename_i hsome
    rw [h] at hsome
    cases hsome

theorem readAttributes_written {attributes : List Attribute}
    (h : ∀ a ∈ attributes, a.Writable) (rest : Text) :
    readAttributes (attributes.flatMap Attribute.written ++ .char '>' :: rest) =
      (attributes, .char '>' :: rest) := by
  induction attributes with
  | nil => exact readAttributes_none (if_pos (.inl rfl))
  | cons a more ih =>
    have hread := readAttribute?_written (h a List.mem_cons_self)
      (more.flatMap Attribute.written ++ .char '>' :: rest)
    rw [List.flatMap_cons, List.append_assoc, readAttributes]
    split
    · rename_i hnone
      rw [hnone] at hread
      cases hread
    · rename_i hsome
      cases hread.symm.trans hsome
      rw [ih fun b hb => h b (List.mem_cons_of_mem a hb)]

def writtenTag (closing : Bool) (name : Text) (attributes : List Attribute) : Text :=
  .char '<' :: (if closing then [.char '/'] else []) ++ name ++
    attributes.flatMap Attribute.written ++ [.char '>']

/-- The characters of a tag are its marks and those of its name and its attributes. -/
theorem forall_mem_writtenTag {p : CodePoint → Prop} {name : Text} {attributes : List Attribute}
    (hmarks : ∀ c ∈ "</ ='>".toText, p c) (hname : ∀ c ∈ name, p c)
    (hattributes : ∀ a ∈ attributes, ∀ c ∈ a.key ++ a.value, p c) (closing : Bool) :
    ∀ c ∈ writtenTag closing name attributes, p c := by
  have hmark : ∀ d ∈ "</ ='>".toText, ∀ c, c = d → p c := fun d hd c hc => hc ▸ hmarks d hd
  intro c hc
  simp only [writtenTag, List.mem_append, List.mem_cons, List.mem_flatMap, List.not_mem_nil,
    or_false] at hc
  rcases hc with ((((rfl | hslash) | hc) | ⟨a, ha, hc⟩)) | rfl
  · exact hmarks _ (by decide)
  · cases closing with
    | false => cases hslash
    | true => exact hmark '/' (by decide) c (List.mem_singleton.1 hslash)
  · exact hname c hc
  · simp only [Attribute.written, List.mem_append, List.mem_cons, List.not_mem_nil,
      or_false] at hc
    rcases hc with (((rfl | hc) | rfl | rfl | hc)) | rfl
    · exact hmarks _ (by decide)
    · exact hattributes a ha c (List.mem_append_left _ hc)
    · exact hmarks _ (by decide)
    · exact hmarks _ (by decide)
    · exact hattributes a ha c (List.mem_append_right _ hc)
    · exact hmarks _ (by decide)
  · exact hmarks _ (by decide)

theorem attributes_head (attributes : List Attribute) (rest : Text) :
    ∃ d more, attributes.flatMap Attribute.written ++ .char '>' :: rest = d :: more ∧
      isNameChar d = false := by
  cases attributes with
  | nil => exact ⟨'>', rest, rfl, by decide⟩
  | cons a attributes => exact ⟨' ', _, rfl, by decide⟩

theorem readTag?_written (closing : Bool) {l : CodePoint} {name : Text}
    {attributes : List Attribute} (hletter : isLetter l = true)
    (hname : ∀ c ∈ name, isNameChar c = true) (hattributes : ∀ a ∈ attributes, a.Writable)
    (rest : Text) :
    readTag? (writtenTag closing (l :: name) attributes ++ rest) =
      some ⟨closing, (l :: name).map CodePoint.toLower, attributes,
        (writtenTag closing (l :: name) attributes).length⟩ := by
  have hall : ∀ c ∈ l :: name, isNameChar c = true := by
    intro c hc
    rcases List.mem_cons.1 hc with rfl | hc
    · simp [isNameChar, hletter]
    · exact hname c hc
  let behind := attributes.flatMap Attribute.written ++ .char '>' :: rest
  have hbody : tagBody? (writtenTag closing (l :: name) attributes ++ rest) =
      some (closing, l :: name ++ behind) := by
    cases closing with
    | true => simp [writtenTag, tagBody?, hletter, behind]
    | false =>
      have hslash : l ≠ '/' := by rintro rfl; exact absurd hletter (by decide)
      simp [writtenTag, tagBody?, hletter, hslash, behind]
  obtain ⟨d, more, hbehind, hd⟩ := attributes_head attributes rest
  have hdrop : (l :: name ++ behind).dropWhile isNameChar = behind := by
    rw [show behind = d :: more from hbehind]
    exact dropWhile_over hall hd
  have hread : readName (l :: name ++ behind) = (l :: name).map CodePoint.toLower := by
    rw [show behind = d :: more from hbehind, readName, takeWhile_over hall hd]
  rw [readTag?, hbody]
  dsimp only
  rw [hdrop, readAttributes_written hattributes, hread]
  show some (Tag.mk closing _ attributes
    ((writtenTag closing (l :: name) attributes ++ rest).length - rest.length)) = _
  rw [List.length_append, Nat.add_sub_cancel]

theorem readTag?_opening (e : Element) {attributes : List Attribute}
    (h : ∀ a ∈ attributes, a.Writable) (rest : Text) :
    readTag? (writtenTag false e.name attributes ++ rest) =
      some ⟨false, e.name, attributes, (writtenTag false e.name attributes).length⟩ := by
  have hname : ∀ c ∈ e.name, isNameChar c = true := by
    refine List.all_eq_true.1 ?_
    cases e with
    | img => decide
    | qrcode => decide
    | barcode => decide
  cases e with
  | img => exact readTag?_written false rfl (List.forall_mem_cons.1 hname).2 h rest
  | qrcode => exact readTag?_written false rfl (List.forall_mem_cons.1 hname).2 h rest
  | barcode => exact readTag?_written false rfl (List.forall_mem_cons.1 hname).2 h rest

end Markup
end ThermalPrint
