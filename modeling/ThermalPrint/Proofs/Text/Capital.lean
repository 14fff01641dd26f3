import ThermalPrint.Proofs.Text.Search

/-
Capitals.  Nearly all characters outside ASCII have capitals outside ASCII, or none.  A word without
the few letters that are capitals of others is written in capitals only by its own letters, in
whatever case they are.
-/

namespace ThermalPrint
namespace Text

/-- What the capitals of a character outside ASCII are taken from. -/
theorem upperOf_cases {c : CodePoint} (h : ¬ c.toNat < 128) :
    (∃ e ∈ upperExpansions.toList, upperOf c = e.2.map CodePoint.ofNat) ∨
      (∃ r ∈ upperRuns.toList, r.first ≤ c.toNat ∧ c.toNat ≤ r.last ∧
        upperOf c = [CodePoint.ofNat ((c.toNat : Int) + r.shift).toNat]) ∨
      upperOf c = [c] := by
  unfold upperOf
  rw [if_neg h]
  cases hfind : upperExpansions.find? (·.1 == c.toNat) with
  | some e =>
    exact .inl ⟨e, Array.mem_toList_iff.2 (Array.mem_of_find?_eq_some hfind), rfl⟩
  | none =>
    dsimp only
    unfold CaseRun.image?
    cases hrun : upperRuns.find? (·.covers c.toNat) with
    | none => exact .inr (.inr rfl)
    | some r =>
      have hcovers := Array.find?_some hrun
      simp only [CaseRun.covers, Bool.and_eq_true, decide_eq_true_eq] at hcovers
      exact .inr (.inl ⟨r, Array.mem_toList_iff.2 (Array.mem_of_find?_eq_some hrun),
        hcovers.1.1, hcovers.1.2, rfl⟩)

theorem upperOf_ascii {c : CodePoint} (h : c.toNat < 128) : upperOf c = [c.toUpper] := if_pos h

/-- A small letter has a capital in front of it; everything else is its own. -/
theorem toUpper_cases (c : CodePoint) :
    c.toUpper = c ∨ 97 ≤ c.toNat ∧ c.toNat ≤ 122 ∧ c.toUpper.toNat + 32 = c.toNat := by
  cases c with
  | half n => exact .inl rfl
  | char c =>
    unfold CodePoint.toUpper
    rw [CodePoint.map_char, CodePoint.toNat_char, CodePoint.toNat_char]
    unfold Char.toUpper
    split
    · rename_i h
      have ha : 97 ≤ c.toNat := h.1
      have hz : c.toNat ≤ 122 := h.2
      have hshift : ('A'.val - 'a'.val).toNat = 4294967264 := by decide
      refine .inr ⟨ha, hz, ?_⟩
      show (c.val + ('A'.val - 'a'.val)).toNat + 32 = c.val.toNat
      have hval : c.val.toNat = c.toNat := rfl
      rw [UInt32.toNat_add, hval]
      omega
    · exact .inl rfl

section LineFeed

theorem upperRuns_high : ∀ r ∈ upperRuns.toList, (10 : Int) < r.first + r.shift := by decide +kernel

theorem upperExpansions_high : ∀ e ∈ upperExpansions.toList, ∀ n ∈ e.2, 10 < n := by decide +kernel

theorem ofNat_lineFeed {n : Nat} (h : CodePoint.ofNat n = '\n') : n = 10 := by
  have hfeed : (CodePoint.ofNat n).toNat = 10 := by
    rw [h]
    rfl
  rcases toNat_ofNat n with hn | hnull
  · rw [← hn, hfeed]
  · rw [hnull] at hfeed
    cases hfeed

theorem toUpper_lineFeed {c : CodePoint} (h : c.toUpper = '\n') : c = '\n' := by
  rcases toUpper_cases c with hsame | ⟨ha, -, hshift⟩
  · rw [← hsame, h]
  · rw [h] at hshift
    have hfeed : (CodePoint.char '\n').toNat = 10 := rfl
    omega

theorem upperOf_lineFeed {c : CodePoint} (h : .char '\n' ∈ upperOf c) : c = '\n' := by
  by_cases hascii : c.toNat < 128
  · rw [upperOf_ascii hascii] at h
    exact toUpper_lineFeed (List.mem_singleton.1 h).symm
  · rcases upperOf_cases hascii with ⟨e, he, hc⟩ | ⟨r, hr, hfirst, -, hc⟩ | hc
    · rw [hc] at h
      obtain ⟨code, hcode, hfeed⟩ := List.mem_map.1 h
      have hhigh := upperExpansions_high e he code hcode
      have hlow := ofNat_lineFeed hfeed
      omega
    · rw [hc] at h
      have hhigh := upperRuns_high r hr
      have hlow := ofNat_lineFeed (List.mem_singleton.1 h).symm
      omega
    · rw [hc] at h
      exact (List.mem_singleton.1 h).symm

theorem lineFeed_mem_upper {t : Text} (h : .char '\n' ∈ upper t) : .char '\n' ∈ t := by
  obtain ⟨c, hc, hfeed⟩ := List.mem_flatMap.1 h
  rw [← upperOf_lineFeed hfeed]
  exact hc

end LineFeed

section Word

/-- A character that is a capital of none outside ASCII. -/
def IsOwnCapital (d : CodePoint) : Prop :=
  d.toNat < 128 ∧ d ≠ 'F' ∧ d ≠ 'I' ∧ d ≠ 'S' ∧ d ≠ '\x00'

instance (d : CodePoint) : Decidable (IsOwnCapital d) := inferInstanceAs (Decidable (_ ∧ _))

instance (word : Text) : Decidable (∀ d ∈ word, IsOwnCapital d) := List.decidableBAll _ word

theorem upperExpansions_foreign :
    ∀ e ∈ upperExpansions.toList, ∃ n ∈ e.2, ¬ IsOwnCapital (CodePoint.ofNat n) := by
  decide +kernel

/-- Only the dotless i and the long s have their capitals in ASCII. -/
theorem upperRuns_foreign : ∀ r ∈ upperRuns.toList,
    (r.first = r.last ∧ (r.first + r.shift = 0x49 ∨ r.first + r.shift = 0x53)) ∨
      (128 : Int) ≤ r.first + r.shift := by
  decide +kernel

theorem upperOf_foreign {c : CodePoint} (h : ¬ c.toNat < 128) :
    ∃ d ∈ upperOf c, ¬ IsOwnCapital d := by
  rcases upperOf_cases h with ⟨e, he, hc⟩ | ⟨r, hr, hfirst, hlast, hc⟩ | hc
  · obtain ⟨n, hn, hforeign⟩ := upperExpansions_foreign e he
    rw [hc]
    exact ⟨_, List.mem_map_of_mem hn, hforeign⟩
  · rw [hc]
    refine ⟨_, List.mem_singleton_self _, ?_⟩
    rcases upperRuns_foreign r hr with ⟨hone, hI | hS⟩ | hhigh
    · have hn : ((c.toNat : Int) + r.shift).toNat = 0x49 := by omega
      rw [hn]
      decide
    · have hn : ((c.toNat : Int) + r.shift).toNat = 0x53 := by omega
      rw [hn]
      decide
    · rintro ⟨hascii, -, -, -, hzero⟩
      rcases ofNat_ascii hascii with hlow | hnull
      · omega
      · exact hzero hnull
  · rw [hc]
    exact ⟨c, List.mem_singleton_self c, fun hown => h hown.1⟩

/-- A word of such capitals is in capitals what has its letters, each of them large or small. -/
theorem upper_eq_iff {t word : Text} (h : ∀ d ∈ word, IsOwnCapital d) :
    upper t = word ↔ t.map CodePoint.toUpper = word := by
  have hletters : (∀ c ∈ t, c.toNat < 128) → upper t = t.map CodePoint.toUpper := by
    intro hascii
    rw [upper, List.flatMap_def, List.map_congr_left fun c hc => upperOf_ascii (hascii c hc),
      ← List.flatMap_def, ← List.map_eq_flatMap]
  constructor
  · intro hupper
    rw [← hletters, hupper]
    intro c hc
    refine Decidable.byContradiction fun hforeign => ?_
    obtain ⟨d, hd, hnot⟩ := upperOf_foreign hforeign
    exact hnot (h d (hupper ▸ List.mem_flatMap.2 ⟨c, hc, hd⟩))
  · intro hmap
    rw [hletters, hmap]
    intro c hc
    have hd := (h _ (hmap ▸ List.mem_map_of_mem hc)).1
    rcases toUpper_cases c with hsame | ⟨-, hz, -⟩
    · rwa [hsame] at hd
    · omega

end Word

end Text
end ThermalPrint
