import ThermalPrint.Text.Blank

/-
Tags in angle brackets, with their attributes.
-/

namespace ThermalPrint
namespace Markup

def isLetter (c : CodePoint) : Bool :=
  (65 ≤ c.toNat && c.toNat ≤ 90) || (97 ≤ c.toNat && c.toNat ≤ 122)

def isNameChar (c : CodePoint) : Bool :=
  isLetter c || (48 ≤ c.toNat && c.toNat ≤ 57) || c = '_' || c = '-'

def isKeyChar (c : CodePoint) : Bool :=
  !Text.isBlankChar c && c ≠ '=' && c ≠ '<' && c ≠ '>' && c ≠ '/'

structure Attribute where
  key : Text
  value : Text
deriving DecidableEq, Repr

def readQuoted? : Text → Option (Text × Text)
  | [] => none
  | mark :: t =>
    if mark = '\'' || mark = '"' then
      match t.dropWhile (· ≠ mark) with
      | [] => none
      | _ :: rest => some (t.takeWhile (· ≠ mark), rest)
    else none

def readAttribute? (t : Text) : Option (Attribute × Text) :=
  let inner := Text.trimLeft t
  let key := inner.takeWhile isKeyChar
  if inner.length = t.length ∨ key.isEmpty then none
  else
    match Text.trimLeft (inner.dropWhile isKeyChar) with
    | '=' :: rest =>
      match readQuoted? (Text.trimLeft rest) with
      | some (value, rest) => some (⟨key, value⟩, rest)
      | none => none
    | _ => none

theorem readQuoted?_length {t value rest : Text} (h : readQuoted? t = some (value, rest)) :
    rest.length < t.length := by
  cases t with
  | nil => simp [readQuoted?] at h
  | cons mark t =>
    simp only [readQuoted?] at h
    split at h
    · split at h
      · simp at h
      · rename_i heq
        cases h
        have := (List.dropWhile_sublist (l := t) (fun c => decide (c ≠ mark))).length_le
        rw [heq] at this
        simp at this ⊢
        omega
    · simp at h

theorem trimLeft_length (t : Text) : (Text.trimLeft t).length ≤ t.length :=
  (List.dropWhile_sublist _).length_le

theorem readAttribute?_length {t rest : Text} {a : Attribute}
    (h : readAttribute? t = some (a, rest)) : rest.length < t.length := by
  unfold readAttribute? at h
  dsimp only at h
  split at h
  · simp at h
  · split at h
    · rename_i more heq
      split at h
      · rename_i value rest' hq
        cases h
        have h1 := readQuoted?_length hq
        have h2 := trimLeft_length more
        have h3 : (Text.trimLeft ((Text.trimLeft t).dropWhile isKeyChar)).length ≤ t.length :=
          Nat.le_trans (trimLeft_length _)
            (Nat.le_trans (List.dropWhile_sublist _).length_le (trimLeft_length t))
        rw [heq] at h3
        simp at h3
        omega
      · simp at h
    · simp at h

def readAttributes (t : Text) : List Attribute × Text :=
  match _h : readAttribute? t with
  | none => ([], t)
  | some (a, rest) =>
    let (more, rest) := readAttributes rest
    (a :: more, rest)
termination_by t.length
decreasing_by exact readAttribute?_length _h

/-- A tag as it is written, with its name in small letters, and its length. -/
structure Tag where
  closing : Bool
  name : Text
  attributes : List Attribute
  length : Nat
deriving DecidableEq, Repr

def readName (t : Text) : Text := (t.takeWhile isNameChar).map CodePoint.toLower

/-- A text begins a tag when a letter stands behind its bracket, or behind the slash
there; what follows the slash is the second part. -/
def tagBody? : Text → Option (Bool × Text)
  | '<' :: '/' :: c :: rest => if isLetter c then some (true, c :: rest) else none
  | '<' :: c :: rest => if isLetter c then some (false, c :: rest) else none
  | _ => none

/-- The tag at the front of a text in which one begins; `none` if it is malformed. -/
def readTag? (t : Text) : Option Tag :=
  match tagBody? t with
  | none => none
  | some (closing, body) =>
    let (attributes, rest) := readAttributes (body.dropWhile isNameChar)
    match Text.trimLeft rest with
    | '>' :: after => some ⟨closing, readName body, attributes, t.length - after.length⟩
    | _ => none

end Markup
end ThermalPrint
