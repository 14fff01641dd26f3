import ThermalPrint.Text.Blank
import ThermalPrint.Text.CaseTable

/-
Upper and lower case of whole texts.
-/

namespace ThermalPrint
namespace Text

/-- Upper case of one character, which may be several. -/
def upperOf (c : CodePoint) : Text :=
  if c.toNat < 128 then [c.toUpper]
  else match upperExpansions.find? (·.1 == c.toNat) with
    | some (_, codes) => codes.map CodePoint.ofNat
    | none => [(CaseRun.image? upperRuns c.toNat).getD c]

def upper (t : Text) : Text := t.flatMap upperOf

/-- Lower case of one character wherever it stands.  The dotted capital I is the
only one that becomes two. -/
def lowerOf (c : CodePoint) : Text :=
  if c.toNat < 128 then [c.toLower]
  else if c = 'İ' then ['i', '\u0307']
  else [(CaseRun.image? lowerRuns c.toNat).getD c]

/-- Lower case, character by character. -/
def fold (t : Text) : Text := t.flatMap lowerOf

private def isIgnored (c : CodePoint) : Bool :=
  caseIgnorable.any fun r => r.1 ≤ c.toNat && c.toNat ≤ r.2

private def isCased (c : CodePoint) : Bool :=
  cased.any fun r => r.1 ≤ c.toNat && c.toNat ≤ r.2

/-- The next character that counts for the shape of a sigma is a letter. -/
private def letterFollows (t : Text) : Bool :=
  match t.dropWhile isIgnored with
  | [] => false
  | c :: _ => isCased c

/-- Lower case of a text.  A capital sigma becomes the final form when a letter
stands before it and none behind it. -/
def lower (t : Text) : Text :=
  go [] t
where
  /-- `before` is the text already passed, reversed. -/
  go (before : Text) : Text → Text
    | [] => []
    | c :: rest =>
      let image : Text :=
        if c = 'Σ' && letterFollows before && !letterFollows rest then ['ς'] else lowerOf c
      image ++ go (c :: before) rest

end Text
end ThermalPrint
