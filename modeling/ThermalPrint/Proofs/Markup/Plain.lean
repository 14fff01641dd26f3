import ThermalPrint.Proofs.Markup.Division

/-
Text in which no token begins.  It stays plain in front of whatever does not complete a token
that it breaks off.
-/

namespace ThermalPrint
namespace Markup

theorem isLetter_of_toLower {c : CodePoint} (h : isLetter c.toLower = true) :
    isLetter c = true := by
  rcases Text.toLower_cases c with hc | ⟨hA, hZ, -⟩
  · rw [hc] at h
    exact h
  · simp [isLetter, hA, hZ]

theorem letter_of_align {l : CodePoint} (h : (Align.ofLetter? l).isSome = true) :
    isLetter l = true := by
  unfold Align.ofLetter? at h
  split at h
  · rename_i hl; rw [hl]; rfl
  · split at h
    · rename_i hl; rw [hl]; rfl
    · split at h
      · rename_i hl; rw [hl]; rfl
      · cases h

theorem alignTag?_isSome_iff {t : Text} : (alignTag? t).isSome = true ↔
    ∃ l rest, t = .char '[' :: l :: .char ']' :: rest ∧ (Align.ofLetter? l).isSome = true := by
  constructor
  · intro h
    unfold alignTag? at h
    split at h
    · exact ⟨_, _, rfl, h⟩
    · cases h
  · rintro ⟨l, rest, rfl, hl⟩
    exact hl

theorem tagBody?_isSome_iff {t : Text} : (tagBody? t).isSome = true ↔
    (∃ c rest, t = .char '<' :: c :: rest ∧ isLetter c = true) ∨
    (∃ c rest, t = .char '<' :: .char '/' :: c :: rest ∧ isLetter c = true) := by
  constructor
  · intro h
    unfold tagBody? at h
    split at h
    · rename_i c rest
      by_cases hc : isLetter c = true
      · exact .inr ⟨c, rest, rfl, hc⟩
      · simp [hc] at h
    · rename_i c rest _
      by_cases hc : isLetter c = true
      · exact .inl ⟨c, rest, rfl, hc⟩
      · simp [hc] at h
    · cases h
  · rintro (⟨c, rest, rfl, hc⟩ | ⟨c, rest, rfl, hc⟩)
    · have hslash : c ≠ '/' := by rintro rfl; exact absurd hc (by decide)
      simp [tagBody?, hslash, hc]
    · simp [tagBody?, hc]

/-- The three shapes of what begins a token. -/
theorem beginsToken_iff {t : Text} : beginsToken t = true ↔
    (∃ l rest, t = .char '[' :: l :: .char ']' :: rest ∧ (Align.ofLetter? l).isSome = true) ∨
    (∃ c rest, t = .char '<' :: c :: rest ∧ isLetter c = true) ∨
    (∃ c rest, t = .char '<' :: .char '/' :: c :: rest ∧ isLetter c = true) := by
  rw [beginsToken, Bool.or_eq_true, alignTag?_isSome_iff, tagBody?_isSome_iff]

/-- No token begins anywhere in a text. -/
def Tagless (t : Text) : Prop := ∀ s, s <:+ t → beginsToken s = false

theorem tagless_nil : Tagless [] := by
  intro s hs
  rw [List.suffix_nil.1 hs]
  rfl

theorem tagless_cons {c : CodePoint} {t : Text} :
    Tagless (c :: t) ↔ beginsToken (c :: t) = false ∧ Tagless t := by
  constructor
  · intro h
    exact ⟨h _ (List.suffix_refl _), fun s hs => h s (hs.trans (List.suffix_cons c t))⟩
  · rintro ⟨hc, ht⟩ s hs
    rcases List.suffix_cons_iff.1 hs with rfl | hs
    · exact hc
    · exact ht s hs

/-- What begins with none of the characters that could complete a token in front of it. -/
def Seals (rest : Text) : Prop := ∀ c ∈ rest.head?, isLetter c = false ∧ c ≠ '/' ∧ c ≠ ']'

theorem seals_nil : Seals [] := nofun

theorem seals_cons {c : CodePoint} (rest : Text) (hletter : isLetter c = false) (hslash : c ≠ '/')
    (hsquare : c ≠ ']') : Seals (c :: rest) := by
  intro d hd
  cases hd
  exact ⟨hletter, hslash, hsquare⟩

theorem beginsToken_append {s rest : Text} (hs : s ≠ []) (hrest : Seals rest) :
    beginsToken (s ++ rest) = beginsToken s := by
  obtain ⟨a, s, rfl⟩ := List.exists_cons_of_ne_nil hs
  by_cases h : beginsToken (a :: s ++ rest) = true
  · -- A token of three characters lies within the text, or else the rest would complete it.
    rw [h, eq_comm, beginsToken_iff]
    rcases beginsToken_iff.1 h with ⟨l, r, heq, hl⟩ | ⟨c, r, heq, hc⟩ | ⟨c, r, heq, hc⟩
    · obtain ⟨rfl, heq⟩ := List.cons.inj heq
      rcases s with _ | ⟨b, _ | ⟨d, s⟩⟩
      · have := (hrest l (by simp_all)).1
        simp [letter_of_align hl] at this
      · exact absurd rfl (hrest ']' (by simp_all)).2.2
      · simp_all
    · obtain ⟨rfl, heq⟩ := List.cons.inj heq
      rcases s with _ | ⟨b, s⟩
      · have := (hrest c (by simp_all)).1
        simp [hc] at this
      · simp_all
    · obtain ⟨rfl, heq⟩ := List.cons.inj heq
      rcases s with _ | ⟨b, _ | ⟨d, s⟩⟩
      · exact absurd rfl (hrest '/' (by simp_all)).2.1
      · have := (hrest c (by simp_all)).1
        simp [hc] at this
      · simp_all
  · rw [Bool.eq_false_iff.2 h, eq_comm, ← Bool.not_eq_true]
    intro hs
    refine h (beginsToken_iff.2 ?_)
    rcases beginsToken_iff.1 hs with ⟨l, r, heq, hl⟩ | ⟨c, r, heq, hc⟩ | ⟨c, r, heq, hc⟩
    · exact .inl ⟨l, r ++ rest, by rw [heq]; rfl, hl⟩
    · exact .inr (.inl ⟨c, r ++ rest, by rw [heq]; rfl, hc⟩)
    · exact .inr (.inr ⟨c, r ++ rest, by rw [heq]; rfl, hc⟩)

theorem Tagless.before {t rest : Text} (h : Tagless t) (hrest : Seals rest) :
    ∀ i < t.length, beginsToken ((t ++ rest).drop i) = false := by
  intro i hi
  have hne : t.drop i ≠ [] := by
    rw [← List.length_pos_iff, List.length_drop]
    omega
  rw [List.drop_append_of_le_length (Nat.le_of_lt hi), beginsToken_append hne hrest]
  exact h _ (List.drop_suffix i t)

theorem Tagless.append {t rest : Text} (ht : Tagless t) (hrest : Tagless rest)
    (hseal : Seals rest) : Tagless (t ++ rest) := by
  induction t with
  | nil => exact hrest
  | cons c t ih =>
    have hc := tagless_cons.1 ht
    refine tagless_cons.2 ⟨?_, ih hc.2⟩
    show beginsToken (c :: t ++ rest) = false
    rw [beginsToken_append (List.cons_ne_nil c t) hseal]
    exact hc.1

theorem tagless_over {t rest : Text} (hangle : .char '<' ∉ t) (hsquare : .char '[' ∉ t)
    (hrest : Tagless rest) : Tagless (t ++ rest) := by
  induction t with
  | nil => exact hrest
  | cons c t ih =>
    have hc : c ≠ '[' := fun h => hsquare (h ▸ List.mem_cons_self)
    have hd : c ≠ '<' := fun h => hangle (h ▸ List.mem_cons_self)
    exact tagless_cons.2 ⟨beginsToken_cons hc hd _,
      ih (fun h => hangle (List.mem_cons_of_mem c h)) fun h => hsquare (List.mem_cons_of_mem c h)⟩

theorem tagless_unbracketed {t : Text} (hangle : .char '<' ∉ t) (hsquare : .char '[' ∉ t) :
    Tagless t := by
  rw [← List.append_nil t]
  exact tagless_over hangle hsquare tagless_nil

theorem Tagless.padRight {t : Text} (h : Tagless t) (width : Nat) :
    Tagless (Text.padRight width t) := by
  unfold Text.padRight
  generalize width - t.length = n
  refine h.append (tagless_unbracketed ?_ ?_) ?_
  · simp [List.mem_replicate]
  · simp [List.mem_replicate]
  · intro c hc
    obtain rfl : c = ' ' := List.eq_of_mem_replicate (List.mem_of_mem_head? hc)
    decide

end Markup
end ThermalPrint
