/-!
# Paint

Text in colour for terminals: an escape sequence before it and one that ends all colour
behind it. Numbers and columns of numbers as text.
-/

namespace EditionGuard.Text

inductive Colour where
  | bold
  | red
  | green
  | yellow
  | magenta
  | gray
deriving DecidableEq, Repr, Inhabited

def Colour.sequence : Colour → List Char
  | .bold => "\x1b[1m".toList
  | .red => "\x1b[31m".toList
  | .green => "\x1b[32m".toList
  | .yellow => "\x1b[33m".toList
  | .magenta => "\x1b[35m".toList
  | .gray => "\x1b[90m".toList

def plainSequence : List Char := "\x1b[0m".toList

/-- The text in a colour, or as it is. -/
def paint (enabled : Bool) (colour : Colour) (text : List Char) : List Char :=
  if enabled then colour.sequence ++ text ++ plainSequence else text

@[simp] theorem paint_false (colour : Colour) (text : List Char) :
    paint false colour text = text := rfl

def decimal (number : Nat) : List Char := Nat.toDigits 10 number

def spaces (count : Nat) : List Char := List.replicate count ' '

def alignRight (width : Nat) (text : List Char) : List Char :=
  spaces (width - text.length) ++ text

def alignLeft (width : Nat) (text : List Char) : List Char :=
  text ++ spaces (width - text.length)

end EditionGuard.Text
