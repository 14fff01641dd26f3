import ThermalPrint.Text.Blank

/-
What trimming leaves of a text.
-/

namespace ThermalPrint
namespace Text

theorem withoutBlanks_append (a b : Text) :
    (a ++ b).withoutBlanks = a.withoutBlanks ++ b.withoutBlanks :=
  List.filter_append a b

theorem withoutBlanks_eq_nil {t : Text} : t.withoutBlanks = [] ↔ ∀ c ∈ t, isBlankChar c = true := by
  rw [withoutBlanks, List.filter_eq_nil_iff]
  simp

theorem withoutBlanks_trimLeft (t : Text) : (trimLeft t).withoutBlanks = t.withoutBlanks := by
  unfold trimLeft withoutBlanks
  induction t with
  | nil => rfl
  | cons c rest ih =>
    by_cases hc : isBlankChar c = true
    · rw [List.dropWhile_cons_of_pos hc, ih, List.filter_cons_of_neg (by simp [hc])]
    · rw [List.dropWhile_cons_of_neg hc]

theorem withoutBlanks_trim (t : Text) : (trim t).withoutBlanks = t.withoutBlanks := by
  have hright : (trimRight (trimLeft t)).withoutBlanks = (trimLeft t).withoutBlanks := by
    have hreverse := withoutBlanks_trimLeft (trimLeft t).reverse
    unfold trimRight withoutBlanks at *
    rw [List.filter_reverse] at hreverse ⊢
    rw [← List.reverse_reverse (List.filter _ (trimLeft t)), ← hreverse]
    rfl
  rw [trim, hright, withoutBlanks_trimLeft]

theorem mem_trim {t : Text} {c : CodePoint} (h : c ∈ t) (hc : isBlankChar c = false) :
    c ∈ trim t := by
  have hmem : c ∈ t.withoutBlanks := List.mem_filter.2 ⟨h, by simp [hc]⟩
  rw [← withoutBlanks_trim] at hmem
  exact (List.mem_filter.1 hmem).1

theorem isBlank_iff {t : Text} : isBlank t = true ↔ ∀ c ∈ t, isBlankChar c = true := by
  rw [isBlank, List.all_eq_true]

theorem trim_eq_nil {t : Text} : trim t = [] ↔ isBlank t = true := by
  rw [isBlank_iff]
  constructor
  · intro h
    rw [← withoutBlanks_eq_nil, ← withoutBlanks_trim, h]
    rfl
  · intro h
    have hleft : trimLeft t = [] := by
      rw [trimLeft, ← List.append_nil t, List.dropWhile_append_of_pos h]
      rfl
    rw [trim, hleft]
    rfl

theorem isBlank_of_mem {t : Text} {c : CodePoint} (h : c ∈ t) (hc : isBlankChar c = false) :
    isBlank t = false := by
  rw [← Bool.not_eq_true, isBlank_iff]
  intro hall
  rw [hall c h] at hc
  cases hc

theorem unbroken_of_unblank {c : CodePoint} (h : isBlankChar c = false) :
    isLineBreak c = false := by
  rw [← Bool.not_eq_true] at h ⊢
  intro hbreak
  refine h ?_
  simp only [isLineBreak, Bool.or_eq_true, Bool.and_eq_true, decide_eq_true_eq, beq_iff_eq]
    at hbreak
  unfold isBlankChar
  dsimp only
  split
  · simp only [Bool.or_eq_true, Bool.and_eq_true, decide_eq_true_eq]
    omega
  · simp only [Bool.or_eq_true, Bool.and_eq_true, decide_eq_true_eq, beq_iff_eq]
    omega

/-- A text that is on one line. -/
def Unbroken (t : Text) : Prop := ∀ c ∈ t, isLineBreak c = false

instance (t : Text) : Decidable (Unbroken t) := List.decidableBAll _ t

theorem Unbroken.not_mem {t : Text} (h : Unbroken t) {c : CodePoint} (hc : isLineBreak c = true) :
    c ∉ t := by
  intro hmem
  rw [h c hmem] at hc
  cases hc

theorem Unbroken.append {s t : Text} (hs : Unbroken s) (ht : Unbroken t) : Unbroken (s ++ t) :=
  List.forall_mem_append.2 ⟨hs, ht⟩

theorem trimLeft_cons {c : CodePoint} (hc : isBlankChar c = false) (t : Text) :
    trimLeft (c :: t) = c :: t :=
  List.dropWhile_cons_of_neg (by rw [hc]; exact Bool.false_ne_true)

theorem trim_of_ends {c d : CodePoint} (hc : isBlankChar c = false) (hd : isBlankChar d = false)
    (t : Text) : trim (c :: t ++ [d]) = c :: t ++ [d] := by
  have hreverse : (c :: t ++ [d]).reverse = d :: (c :: t).reverse := by simp
  show trimRight (trimLeft (c :: (t ++ [d]))) = _
  rw [trimLeft_cons hc, ← List.cons_append]
  show ((c :: t ++ [d]).reverse.dropWhile isBlankChar).reverse = _
  rw [hreverse]
  show (trimLeft (d :: (c :: t).reverse)).reverse = _
  rw [trimLeft_cons hd, ← hreverse, List.reverse_reverse]

theorem trim_of_unblank {t : Text} (h : ∀ c ∈ t, isBlankChar c = false) : trim t = t := by
  rcases List.eq_nil_or_concat t with rfl | ⟨front, d, rfl⟩
  · rfl
  · rw [List.concat_eq_append] at h ⊢
    have hd : isBlankChar d = false := h d (List.mem_append_right _ (List.mem_singleton.2 rfl))
    cases front with
    | nil => simp [trim, trimLeft, trimRight, hd]
    | cons c more => exact trim_of_ends (h c List.mem_cons_self) hd more

theorem trimLeft_begins {a b : Text} (h : a <+: b) :
    trimLeft a = [] ∨ trimLeft a <+: trimLeft b := by
  unfold trimLeft
  induction a generalizing b with
  | nil => exact .inl rfl
  | cons c rest ih =>
    cases b with
    | nil => exact absurd (List.prefix_nil.1 h) (List.cons_ne_nil c rest)
    | cons d more =>
      obtain ⟨rfl, hmore⟩ := List.cons_prefix_cons.1 h
      by_cases hc : isBlankChar c = true
      · rw [List.dropWhile_cons_of_pos hc, List.dropWhile_cons_of_pos hc]
        exact ih hmore
      · rw [List.dropWhile_cons_of_neg hc, List.dropWhile_cons_of_neg hc]
        exact .inr h

theorem trimRight_begins (t : Text) : trimRight t <+: t := by
  have h : (t.reverse.dropWhile isBlankChar).reverse <+: t.reverse.reverse :=
    List.reverse_prefix.2 (List.dropWhile_suffix _)
  rw [List.reverse_reverse] at h
  exact h

theorem trim_begins {a b : Text} (h : a <+: b) : trim a <+: trim b ∨ trim b <+: trim a := by
  rcases trimLeft_begins h with hempty | hleft
  · left
    rw [trim, hempty]
    exact List.nil_prefix
  · exact List.prefix_or_prefix_of_prefix ((trimRight_begins _).trans hleft) (trimRight_begins _)

theorem alphanum_ascii {c : CodePoint} (h : c.is Char.isAlphanum = true) : c.toNat < 128 := by
  obtain ⟨c, rfl, halnum⟩ := CodePoint.is_iff.1 h
  rw [CodePoint.toNat_char]
  unfold Char.isAlphanum Char.isAlpha Char.isUpper Char.isLower Char.isDigit at halnum
  simp only [Bool.or_eq_true, Bool.and_eq_true, decide_eq_true_eq, ge_iff_le,
    UInt32.le_iff_toNat_le] at halnum
  have hval : c.val.toNat = c.toNat := rfl
  rw [hval] at halnum
  rcases halnum with (h | h) | h
  · exact Nat.lt_of_le_of_lt h.2 (by decide)
  · exact Nat.lt_of_le_of_lt h.2 (by decide)
  · exact Nat.lt_of_le_of_lt h.2 (by decide)

end Text
end ThermalPrint
