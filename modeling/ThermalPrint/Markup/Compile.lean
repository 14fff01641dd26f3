import ThermalPrint.Markup.Line

/-
Receipt markup compiled to print directives, line by line.

A line may begin with an alignment tag for left, center or right, and further ones
inside it open new columns.  Tags for bold type hold within a line.  Elements embed
images, QR codes and barcodes.  A line of hyphens or equals signs is a rule, and a
blank line feeds the paper.  What is not well formed is refused and never skipped.
-/

namespace ThermalPrint
namespace Markup

/-- What a caller may ask of a compilation: to print without images that cannot be
had, and to cut the paper at the end. -/
structure Options where
  imageOptional : Bool := false
  cut : Bool := false
deriving DecidableEq, Repr

/-- A carriage return in front of a line feed is dropped. -/
def unifyBreaks (t : Text) : Text :=
  go [] t
where
  go (done : Text) : Text → Text
    | [] => done.reverse
    | '\r' :: '\n' :: rest => go ('\n' :: done) rest
    | c :: rest => go (c :: done) rest

/-- The lines of a markup text; a line feed at its end begins no further one. -/
def sourceLines (t : Text) : List Text :=
  let lines := Text.splitOn '\n' (unifyBreaks t)
  if lines.getLast? == some [] then lines.dropLast else lines

/-- Compiles markup to a job. -/
def compile (images : Images) (options : Options) (source : Text) : Except MarkupFault Job :=
  match (sourceLines source).zipIdx.mapM
      (fun (line, i) => compileLine images options.imageOptional (i + 1) line) with
  | .error fault => .error fault
  | .ok jobs => .ok (jobs.flatten ++ if options.cut then [.cut] else [])

end Markup
end ThermalPrint
