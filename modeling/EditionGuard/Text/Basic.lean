/-!
# Text measured in bytes

Source text is a list of characters; offsets into it count the bytes of its UTF-8 form.
A slice exists only between character boundaries.
-/

namespace EditionGuard.Text

def byteLength : List Char → Nat
  | [] => 0
  | char :: rest => char.utf8Size + byteLength rest

@[simp] theorem byteLength_nil : byteLength [] = 0 := rfl

@[simp] theorem byteLength_cons (char : Char) (rest : List Char) :
    byteLength (char :: rest) = char.utf8Size + byteLength rest := rfl

@[simp] theorem byteLength_append (left right : List Char) :
    byteLength (left ++ right) = byteLength left + byteLength right := by
  induction left with
  | nil => simp
  | cons char rest ih => simp [ih, Nat.add_assoc]

/-- The text from a byte offset on; nothing when the offset lies inside a character
or past the end. -/
def dropBytes : List Char → Nat → Option (List Char)
  | text, 0 => some text
  | [], _ + 1 => none
  | char :: rest, count + 1 =>
    if char.utf8Size ≤ count + 1 then dropBytes rest (count + 1 - char.utf8Size) else none

/-- The first bytes of a text; nothing when they do not end at a character boundary. -/
def takeBytes : List Char → Nat → Option (List Char)
  | _, 0 => some []
  | [], _ + 1 => none
  | char :: rest, count + 1 =>
    if char.utf8Size ≤ count + 1 then
      (takeBytes rest (count + 1 - char.utf8Size)).map (char :: ·)
    else none

/-- The text between two byte offsets; nothing unless both are boundaries in order. -/
def slice (text : List Char) (start stop : Nat) : Option (List Char) :=
  if start ≤ stop then (dropBytes text start).bind (takeBytes · (stop - start)) else none

def startsWith : List Char → List Char → Bool
  | [], _ => true
  | _ :: _, [] => false
  | wanted :: more, char :: rest => wanted == char && startsWith more rest

/-- The byte offset of the first occurrence of `wanted`. -/
def findBytes (wanted : List Char) : List Char → Option Nat
  | [] => if wanted.isEmpty then some 0 else none
  | char :: rest =>
    if startsWith wanted (char :: rest) then some 0
    else (findBytes wanted rest).map (char.utf8Size + ·)

def occurs (wanted text : List Char) : Bool :=
  (findBytes wanted text).isSome

/-- The text cut at every character equal to `separator`; never empty. -/
def splitAt (separator : Char) : List Char → List (List Char)
  | [] => [[]]
  | char :: rest =>
    if char == separator then [] :: splitAt separator rest
    else match splitAt separator rest with
      | [] => [[char]]
      | first :: others => (char :: first) :: others

end EditionGuard.Text
