/-
Text as a sequence of code points.  A code point is a character or the half of a surrogate pair.
JSON and the names of files can hold a half that has no partner; it is no character, and a text
keeps it all the same.
-/

namespace ThermalPrint

inductive CodePoint
  | char (c : Char)
  /-- The halves are numbered on from U+D800. -/
  | half (n : Fin 0x800)
deriving DecidableEq, Repr

abbrev Text := List CodePoint

namespace CodePoint

instance : Coe Char CodePoint := ⟨char⟩

instance : Inhabited CodePoint := ⟨char default⟩

def firstHalf : Nat := 0xD800

def toNat : CodePoint → Nat
  | char c => c.toNat
  | half n => firstHalf + n

def ofNat (n : Nat) : CodePoint :=
  if h : firstHalf ≤ n ∧ n < firstHalf + 0x800 then half ⟨n - firstHalf, by omega⟩
  else char (Char.ofNat n)

def isHalf : CodePoint → Bool
  | char _ => false
  | half _ => true

/-- The character itself, or another one in the place of a half. -/
def charOr (mark : Char) : CodePoint → Char
  | char c => c
  | half _ => mark

/-- A character for which a test holds. -/
def is (p : Char → Bool) : CodePoint → Bool
  | char c => p c
  | half _ => false

/-- Another character in the place of each; halves stay. -/
def map (f : Char → Char) : CodePoint → CodePoint
  | char c => char (f c)
  | half n => half n

/-- The small letter of one in ASCII; nothing else changes. -/
def toLower : CodePoint → CodePoint := map Char.toLower

def toUpper : CodePoint → CodePoint := map Char.toUpper

@[simp] theorem toNat_char (c : Char) : (char c).toNat = c.toNat := rfl

@[simp] theorem is_char (p : Char → Bool) (c : Char) : (char c).is p = p c := rfl

@[simp] theorem map_char (f : Char → Char) (c : Char) : (char c).map f = char (f c) := rfl

theorem is_iff {p : Char → Bool} {c : CodePoint} :
    c.is p = true ↔ ∃ d, c = char d ∧ p d = true := by
  cases c with
  | char d => simp
  | half n => simp [is]

theorem toNat_half (n : Fin 0x800) : (half n).toNat = firstHalf + n := rfl

theorem le_toNat_half (n : Fin 0x800) : 0xD800 ≤ (half n).toNat := Nat.le_add_right _ _

@[simp] theorem ofNat_toNat (c : CodePoint) : ofNat c.toNat = c := by
  cases c with
  | half n =>
    rw [toNat_half, ofNat, dif_pos ⟨Nat.le_add_right _ _, Nat.add_lt_add_left n.isLt _⟩]
    simp
  | char c =>
    have hvalid : c.toNat < 0xD800 ∨ 0xDFFF < c.toNat ∧ c.toNat < 0x110000 := c.valid
    rw [toNat_char, ofNat, dif_neg, Char.ofNat_toNat]
    unfold firstHalf
    omega

/-- What is to be shown of a code point below a bound is to be shown of the numbers below it. -/
@[elab_as_elim]
theorem of_forall_lt {motive : CodePoint → Prop} {k : Nat} (c : CodePoint) (hc : c.toNat < k)
    (h : ∀ n < k, motive (ofNat n)) : motive c :=
  ofNat_toNat c ▸ h c.toNat hc

end CodePoint

namespace Text

def codesLe : Text → Text → Bool
  | [], _ => true
  | _ :: _, [] => false
  | a :: s, b :: t => a.toNat < b.toNat || (a.toNat == b.toNat && codesLe s t)

end Text
end ThermalPrint

def String.toText (s : String) : ThermalPrint.Text := s.toList.map ThermalPrint.CodePoint.char

instance : Coe String ThermalPrint.Text := ⟨String.toText⟩

@[simp] theorem String.toText_inj {a b : String} : a.toText = b.toText ↔ a = b := by
  unfold String.toText
  rw [List.map_inj_right fun _ _ => ThermalPrint.CodePoint.char.inj, String.toList_inj]

@[simp] theorem String.toText_eq_nil {a : String} : a.toText = [] ↔ a = "" := by
  rw [String.toText, List.map_eq_nil_iff, String.toList_eq_nil_iff]

theorem String.toText_append (a b : String) : (a ++ b).toText = a.toText ++ b.toText := by
  rw [String.toText, String.toList_append, List.map_append]
  rfl

@[simp] theorem String.mem_toText {a : String} {c : Char} :
    ThermalPrint.CodePoint.char c ∈ a.toText ↔ c ∈ a.toList := by
  simp [String.toText]

theorem String.not_isHalf {a : String} {c : ThermalPrint.CodePoint} (h : c ∈ a.toText) :
    c.isHalf = false := by
  obtain ⟨d, -, rfl⟩ := List.mem_map.1 h
  rfl
