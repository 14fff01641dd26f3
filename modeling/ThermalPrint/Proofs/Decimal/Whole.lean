import ThermalPrint.Decimal.Fixed
import ThermalPrint.Text.Digit

/-
Whole numbers are read back as they were written, up to the count of digits that is read at all.
-/

namespace ThermalPrint
namespace Decimal

theorem digits_eq (n : Nat) : digits n = (Nat.toDigits 10 n).map .char :=
  congrArg (List.map CodePoint.char) Nat.toList_repr

theorem toDigits_range (n : Nat) : ∀ c ∈ Nat.toDigits 10 n, 48 ≤ c.toNat ∧ c.toNat ≤ 57 :=
  fun _ hc => Char.isDigit_iff_toNat.1 (Nat.isDigit_of_mem_toDigits (by decide) (by decide) hc)

theorem digits_ne_nil (n : Nat) : digits n ≠ [] := by
  rw [digits_eq, Ne, List.map_eq_nil_iff]
  exact Nat.toDigits_ne_nil

theorem digits_length_le_iff {n k : Nat} (hk : 0 < k) : (digits n).length ≤ k ↔ n < 10 ^ k := by
  rw [digits_eq, List.length_map]
  exact Nat.length_toDigits_le_iff (by decide) hk

theorem lt_digits_length_iff {n k : Nat} (hk : 0 < k) :
    k < (digits n).length ↔ 10 ^ k ≤ n := by
  rw [← Nat.not_le, digits_length_le_iff hk, Nat.not_lt]

theorem mem_digits {n : Nat} {c : CodePoint} (h : c ∈ digits n) : 48 ≤ c.toNat ∧ c.toNat ≤ 57 := by
  rw [digits_eq] at h
  obtain ⟨d, hd, rfl⟩ := List.mem_map.1 h
  exact toDigits_range n d hd

theorem mem_ofInt {n : Int} {c : CodePoint} (h : c ∈ ofInt n) :
    c = '-' ∨ 48 ≤ c.toNat ∧ c.toNat ≤ 57 := by
  unfold ofInt at h
  split at h
  · exact (List.mem_cons.1 h).imp_right mem_digits
  · exact .inr (mem_digits h)

theorem ofInt_unblank {n : Int} {c : CodePoint} (h : c ∈ ofInt n) : Text.isBlankChar c = false := by
  have hrange : c.toNat = 45 ∨ 48 ≤ c.toNat ∧ c.toNat ≤ 57 :=
    (mem_ofInt h).imp_left fun hminus => by rw [hminus]; rfl
  have hascii : c.toNat < 128 := by omega
  simp [Text.isBlankChar, hascii]
  omega

theorem ofInt_ne_nil (n : Int) : ofInt n ≠ [] := by
  unfold ofInt
  split
  · exact List.cons_ne_nil _ _
  · exact digits_ne_nil _

end Decimal

namespace Text

theorem digitValue?_digit {c : CodePoint} (h : 48 ≤ c.toNat ∧ c.toNat ≤ 57) :
    digitValue? c = some (c.toNat - 48) := by
  have hascii : c.toNat < 128 := by omega
  simp [digitValue?, hascii, h]

theorem digitRun_go {l : List Char} (h : ∀ c ∈ l, 48 ≤ c.toNat ∧ c.toNat ≤ 57) :
    ∀ value count, digitRun.go value count true (l.map .char) =
      some (Nat.ofDigitChars 10 l value, count + l.length, []) := by
  induction l with
  | nil => intro value count; rfl
  | cons c rest ih =>
    intro value count
    have hc : digitValue? (.char c) = some (c.toNat - 48) :=
      digitValue?_digit (h c List.mem_cons_self)
    rw [List.map_cons, digitRun.go, hc]
    dsimp only
    rw [ih fun d hd => h d (List.mem_cons_of_mem c hd), Nat.ofDigitChars_cons, List.length_cons,
      Nat.add_assoc, Nat.add_comm 1]
    rfl

theorem digitRun_digits (n : Nat) :
    digitRun (Decimal.digits n) = some (n, (Decimal.digits n).length, []) := by
  have hdigit := Decimal.toDigits_range n
  have hvalue : Nat.ofDigitChars 10 (Nat.toDigits 10 n) 0 = n :=
    Nat.ofDigitChars_toDigits (by decide) (by decide)
  rw [Decimal.digits_eq]
  cases hn : Nat.toDigits 10 n with
  | nil => exact absurd hn Nat.toDigits_ne_nil
  | cons c rest =>
    rw [hn] at hdigit hvalue
    rw [Nat.ofDigitChars_cons, Nat.mul_zero, Nat.zero_add] at hvalue
    have hc : digitValue? (.char c) = some (c.toNat - 48) :=
      digitValue?_digit (hdigit c List.mem_cons_self)
    rw [List.map_cons, digitRun, digitRun.go, hc]
    dsimp only
    rw [digitRun_go fun d hd => hdigit d (List.mem_cons_of_mem c hd), List.length_cons,
      List.length_map, Nat.add_comm (0 + 1), Nat.zero_add]
    exact congrArg (fun v => some (v, rest.length + 1, [])) hvalue

/-- A number is read back, unless it has too many digits. -/
theorem readInt_ofInt (n : Int) : readInt (Decimal.ofInt n) =
    if digitLimit < (Decimal.digits n.natAbs).length then
      .error (.tooLong (Decimal.digits n.natAbs).length)
    else .ok n := by
  have hspace : ∀ c ∈ Decimal.ofInt n, isNumberSpace c = false := by
    intro c hc
    rw [isNumberSpace, Decimal.ofInt_unblank hc]
    rfl
  have hdrop : (Decimal.ofInt n).dropWhile isNumberSpace = Decimal.ofInt n := by
    cases hn : Decimal.ofInt n with
    | nil => rfl
    | cons c rest =>
      rw [hn] at hspace
      exact List.dropWhile_cons_of_neg (by simp [hspace c List.mem_cons_self])
  have hsigned : signed (Decimal.ofInt n) = (decide (n < 0), Decimal.digits n.natAbs) := by
    unfold Decimal.ofInt
    split
    · rename_i hneg
      simp [signed, hneg]
    · rename_i hpos
      cases hn : Decimal.digits n.natAbs with
      | nil => exact absurd hn (Decimal.digits_ne_nil _)
      | cons c rest =>
        have hc : 48 ≤ c.toNat ∧ c.toNat ≤ 57 :=
          Decimal.mem_digits (hn ▸ List.mem_cons_self)
        have hminus : c ≠ '-' := by rintro rfl; exact absurd hc (by decide)
        have hplus : c ≠ '+' := by rintro rfl; exact absurd hc (by decide)
        simp [signed, hminus, hplus, hpos]
  rw [readInt, hdrop, hsigned]
  dsimp only
  rw [digitRun_digits]
  dsimp only
  split
  · rfl
  · simp only [List.all_nil, Bool.not_true, Bool.false_eq_true, if_false]
    by_cases hneg : n < 0
    · simp only [hneg, decide_true, if_true]
      congr 1
      omega
    · simp only [hneg, decide_false, Bool.false_eq_true, if_false]
      congr 1
      omega

end Text
end ThermalPrint
