import ThermalPrint.Image.Fault

/-
What can be wrong with markup.
-/

namespace ThermalPrint
namespace Markup

inductive MarkupFault
  | unknownTag (name : Text)
  | unknownAttribute (tag key : Text)
  | notAnInteger (tag key value : Text)
  | malformedTag (name : Text) (line : Nat)
  | strayClosing (name : Text) (line : Nat)
  | unclosed (name : Text) (line : Nat)
  | image (fault : ImageFault)
deriving DecidableEq, Repr

namespace MarkupFault

def toPrintError : MarkupFault → PrintError
  | unknownTag name => .atTag .unknownTag name none
  | unknownAttribute tag key =>
    .atTag .unknownTag tag (some ("unknown attribute " ++ Text.quote key ++ " on <" ++ tag ++ ">"))
  | notAnInteger tag key value =>
    .atTag .unknownTag tag
      (some ("attribute " ++ Text.quote key ++ " on <" ++ tag ++ "> must be an integer, got "
        ++ Text.quote value))
  | malformedTag name line =>
    .atTag .unknownTag name (some ("malformed tag <" ++ name ++ s!"...> on line {line}"))
  | strayClosing name line =>
    .atTag .unknownTag ("/" ++ name) (some ("unexpected </" ++ name ++ s!"> on line {line}"))
  | unclosed name line =>
    .atTag .unterminatedTag name (some ("<" ++ name ++ s!"> is not closed on line {line}"))
  | image fault => fault.toPrintError

/-- The same fault `n` lines further down. -/
def shift (n : Nat) : MarkupFault → MarkupFault
  | malformedTag name line => malformedTag name (line + n)
  | strayClosing name line => strayClosing name (line + n)
  | unclosed name line => unclosed name (line + n)
  | fault => fault

end MarkupFault
end Markup
end ThermalPrint
