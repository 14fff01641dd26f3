import ThermalPrint.Text.Digit

/-
The options of the command line.

Options have long names, of which as much has to be written as tells them apart, and
some have a letter.  A value stands behind its option, behind an equals sign, or right
behind the letter.  What stands behind two lone dashes is no option.
-/

namespace ThermalPrint
namespace CommandLine

inductive Flag
  | help
  | demo
  | image
  | cut
  | output
  | hex
  | send
deriving DecidableEq, Repr

namespace Flag

def names : List (Text × Flag) :=
  [("-h", help), ("--help", help), ("--demo", demo), ("--image", image), ("--cut", cut),
    ("-o", output), ("--output", output), ("--hex", hex), ("--send", send)]

def takesValue : Flag → Bool
  | help | cut | hex => false
  | demo | image | output | send => true

end Flag

structure Options where
  markup : Option Text := none
  demo : Option Text := none
  images : List Text := []
  cut : Bool := false
  output : Option Text := none
  hex : Bool := false
  send : Option Text := none
deriving DecidableEq, Repr

/-- Why there are no options: help was asked for, or they make no sense. -/
inductive Refusal
  | help
  | usage
deriving DecidableEq, Repr

/-- What an argument is, taken by itself.  An option may hold a value, which is
glued to its letter or stands behind an equals sign, and one that nobody knows has no
flag. -/
inductive Argument
  | value (s : Text)
  | option (flag : Option Flag) (isGlued : Bool) (given : Option Text)
  | dashes
deriving DecidableEq, Repr

namespace Argument

def splitAtEquals (t : Text) : Option (Text × Text) :=
  let left := t.takeWhile (· ≠ .char '=')
  match t.drop left.length with
  | [] => none
  | _ :: right => some (left, right)

private def flagOf (t : Text) : Option Flag := Flag.names.lookup t

/-- The options that a beginning of a long name may stand for. -/
def longMatches (t : Text) : List Argument :=
  let (beginning, given) := match splitAtEquals t with
    | some (left, right) => (left, some right)
    | none => (t, none)
  (Flag.names.filter fun n => beginning.isPrefixOf n.1).map fun n =>
    option (some n.2) false given

def letterMatches (t : Text) : List Argument :=
  match flagOf (t.take 2) with
  | some flag => [option (some flag) true (some (t.drop 2))]
  | none => []

/-- A number below zero is a value.  A line feed may stand at its end. -/
def isNegativeNumber : Text → Bool
  | '-' :: t =>
    let t := if t.getLast? = some (.char '\n') then t.dropLast else t
    let whole := t.takeWhile Text.isDigitChar
    match t.drop whole.length with
    | [] => !whole.isEmpty
    | '.' :: places => !places.isEmpty && places.all Text.isDigitChar
    | _ => false
  | _ => false

/-- Reads an argument; none where it may stand for several options. -/
def read (t : Text) : Option Argument :=
  match t with
  | '-' :: second :: _ =>
    match flagOf t, splitAtEquals t with
    | some flag, _ => some (option (some flag) false none)
    | none, split =>
      match split.bind fun (left, right) => (flagOf left).map fun flag => (flag, right) with
      | some (flag, right) => some (option (some flag) false (some right))
      | none =>
        match if second = '-' then longMatches t else letterMatches t with
        | [a] => some a
        | [] =>
          if isNegativeNumber t || t.contains ' ' then some (value t)
          else some (option none false none)
        | _ => none
  | _ => some (value t)

def readAll : List Text → Option (List Argument)
  | [] => some []
  | ['-', '-'] :: rest => some (dashes :: rest.map value)
  | t :: rest => do
    let a ← read t
    let more ← readAll rest
    some (a :: more)

end Argument

namespace Options

def setValue (o : Options) (flag : Flag) (v : Text) : Options :=
  match flag with
  | .demo => { o with demo := some v }
  | .image => { o with images := o.images ++ [v] }
  | .output => { o with output := some v }
  | .send => { o with send := some v }
  | _ => o

def setFlag (o : Options) (flag : Flag) : Options :=
  match flag with
  | .cut => { o with cut := true }
  | .hex => { o with hex := true }
  | _ => o

/-- What letters amount to that stand right behind the letter for help.  They are read as far
as options go on: more of the same, or an option that has to have its value.  A dash or an
equals sign makes no sense there. -/
def letters (next : Option Argument) : Text → Refusal
  | ['h'] => .help
  | 'h' :: '=' :: _ => .usage
  | 'h' :: rest => letters next rest
  | ['o'] => match next with
    | some (.value _) => .help
    | _ => .usage
  | '-' :: _ => .usage
  | _ => .help

inductive Place
  | free
  /-- Filled by the argument just before. -/
  | fresh
  | filled
deriving DecidableEq, Repr

/-- Goes through the arguments.  There is one place for a file; what is left over, and
options that nobody knows, are refused at the end. -/
def fill (o : Options) (place : Place) (leftOver : Bool) : List Argument → Except Refusal Options
  | [] => if leftOver then .error .usage else .ok o
  | .value s :: rest =>
    if place = .free then fill { o with markup := some s } .fresh leftOver rest
    else fill o .filled true rest
  | .dashes :: rest =>
    match place with
    | .filled => fill o .filled true rest
    | place => fill o (if place = .free then .free else .filled) leftOver rest
  | .option none _ _ :: rest => fill o (after place) true rest
  | .option (some flag) isGlued given :: rest =>
    if flag.takesValue then
      match given, rest with
      | some v, rest => fill (o.setValue flag v) (after place) leftOver rest
      | none, .value v :: rest => fill (o.setValue flag v) (after place) leftOver rest
      | none, _ => .error .usage
    else
      match given, flag with
      | none, .help => .error .help
      | none, flag => fill (o.setFlag flag) (after place) leftOver rest
      | some (c :: cs), .help =>
        .error (if isGlued then letters rest.head? (c :: cs) else .usage)
      | some _, _ => .error .usage
where
  after : Place → Place
    | .free => .free
    | _ => .filled

def read (arguments : List Text) : Except Refusal Options :=
  match Argument.readAll arguments with
  | none => .error .usage
  | some l => fill {} .free false l

end Options
end CommandLine
end ThermalPrint
