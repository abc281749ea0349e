import EditionGuard.Text.Basic
import EditionGuard.Text.Digit
import EditionGuard.Script.Character
import EditionGuard.Script.Token
import EditionGuard.Script.Diagnostic

/-!
# Scanning tokens

One token is read at a time from the characters that are left. A scan never fails: it
records an error and hands out some token, so that a later stage decides what to report.
Three tokens depend on their surroundings and are read anew by `rescanRegex`,
`rescanGreater` and `rescanTemplate`.
-/

namespace EditionGuard.Script

inductive Goal where
  | module
  | script
  /-- A module exactly if it holds module syntax. -/
  | unambiguous
deriving DecidableEq, Repr, Inhabited

/-- The characters that are left, the offset of the first of them, and what was noticed
on the way: errors, newest first, and the place and text of the first comment. -/
structure Scan where
  rest : List Char
  offset : Nat
  errors : List Diagnostic
  firstComment : Option (Nat × List Char)
deriving Repr, Inhabited

namespace Scan

def ofText (text : List Char) : Scan := ⟨text, 0, [], none⟩

def peek? (scan : Scan) : Option Char := scan.rest.head?

def peekIs (scan : Scan) (test : Char → Bool) : Bool := scan.rest.head?.any test

def next (scan : Scan) : Scan :=
  match scan.rest with
  | [] => scan
  | char :: rest => { scan with rest, offset := scan.offset + char.utf8Size }

def skip (scan : Scan) : Nat → Scan
  | 0 => scan
  | count + 1 => scan.next.skip count

def report (scan : Scan) (error : GrammarError) (offset : Nat) : Scan :=
  { scan with errors := ⟨error, offset⟩ :: scan.errors }

/-- The scan moved past the longest run of characters that satisfy a test. -/
def skipWhile (scan : Scan) (test : Char → Bool) : Scan :=
  let rec go : List Char → Nat → List Char × Nat
    | [], offset => ([], offset)
    | char :: rest, offset =>
      if test char then go rest (offset + char.utf8Size) else (char :: rest, offset)
  let (rest, offset) := go scan.rest scan.offset
  { scan with rest, offset }

def reportUnexpected (scan : Scan) : Scan :=
  match scan.peek? with
  | some char => scan.report (.invalidCharacter char) scan.offset
  | none => scan.report .unexpectedEnd scan.offset

/-- Keeps a comment if it is the first. -/
def noteComment (scan : Scan) (start : Scan) : Scan :=
  match scan.firstComment with
  | some _ => scan
  | none =>
    let text := (Text.takeBytes start.rest (scan.offset - start.offset)).getD []
    { scan with firstComment := some (start.offset, text) }

/-! ## Blanks and comments -/

/-- Moves behind the first `*/`, and tells whether a line ended before it; at the end of
the text the comment that began at `start` is unterminated. -/
def skipBlockComment (scan : Scan) (start : Nat) : Scan × Bool :=
  let rec go : List Char → Nat → Bool → List Char × Nat × Bool × Bool
    | [], offset, ended => ([], offset, ended, false)
    | '*' :: '/' :: rest, offset, ended => (rest, offset + 2, ended, true)
    | char :: rest, offset, ended =>
      go rest (offset + char.utf8Size) (ended || isLineEnd char)
  let (rest, offset, ended, closed) := go scan.rest scan.offset false
  let after := { scan with rest, offset }
  (if closed then after else after.report .unterminatedComment start, ended)

/-- Skips blanks, line ends and comments; tells whether a line ended. In scripts `<!--`
and, at the start of a line, `-->` begin comments too. Each step takes a character. -/
def skipTrivia (inScript : Bool) : Nat → Scan → Bool → Scan × Bool
  | 0, scan, ended => (scan, ended)
  | steps + 1, scan, ended =>
    let lineComment (length : Nat) : Scan :=
      ((scan.skip length).skipWhile fun char => !isLineEnd char).noteComment scan
    match scan.rest with
    | [] => (scan, ended)
    | '/' :: '/' :: _ => skipTrivia inScript steps (lineComment 2) ended
    | '/' :: '*' :: _ =>
      let (after, lineEnded) := (scan.skip 2).skipBlockComment scan.offset
      skipTrivia inScript steps (after.noteComment scan) (ended || lineEnded)
    | char :: rest =>
      if isBlank char then skipTrivia inScript steps scan.next ended
      else if isLineEnd char then skipTrivia inScript steps scan.next true
      else if inScript && char == '<' && Text.startsWith ['!', '-', '-'] rest then
        skipTrivia inScript steps (lineComment 4) ended
      else if inScript && ended && char == '-' && Text.startsWith ['-', '>'] rest then
        skipTrivia inScript steps (lineComment 3) ended
      else (scan, ended)

/-! ## Escapes -/

/-- The value of the next character as a hexadecimal digit, and the scan after it. -/
def hexDigit? (scan : Scan) : Option (Nat × Scan) :=
  scan.peek?.bind fun char => (Text.hexDigit? char).map fun value => (value, scan.next)

/-- Reads up to `count` hexadecimal digits onto `value`; nothing unless all are there.
The scan stands where reading stopped. -/
def hexDigits (scan : Scan) : Nat → Nat → Option Nat × Scan
  | 0, value => (some value, scan)
  | count + 1, value =>
    match scan.hexDigit? with
    | none => (none, scan)
    | some (digit, after) => after.hexDigits count (value * 16 + digit)

/-- Reads hexadecimal digits up to a closing brace; nothing for none, for a value beyond
the last code point, or without the brace. -/
def bracedCodePoint (scan : Scan) : Option Nat × Scan :=
  let rec go : Nat → Scan → Nat → Option Nat × Scan
    | 0, scan, _ => (none, scan)
    | steps + 1, scan, value =>
      match scan.hexDigit? with
      | some (digit, after) =>
        let value := value * 16 + digit
        if value > 0x10FFFF then (none, after) else go steps after value
      | none => if scan.peek? == some '}' then (some value, scan.next) else (none, scan)
  match scan.hexDigit? with
  | none => (none, scan)
  | some (digit, after) => go (after.rest.length + 1) after digit

/-- A unicode escape: one code point, or two escapes that form one surrogate pair. -/
inductive UnicodeEscape where
  | codePoint (value : Nat)
  | surrogatePair
deriving DecidableEq, Repr, Inhabited

def unicodeEscape (scan : Scan) : Option UnicodeEscape × Scan :=
  if scan.peek? == some '{' then
    let (value, after) := scan.next.bracedCodePoint
    (value.map .codePoint, after)
  else
    match scan.hexDigits 4 0 with
    | (none, after) => (none, after)
    | (some value, after) =>
      if 0xD800 ≤ value ∧ value ≤ 0xDBFF ∧ Text.startsWith ['\\', 'u'] after.rest then
        match (after.skip 2).hexDigits 4 0 with
        | (some low, final) =>
          if 0xDC00 ≤ low ∧ low ≤ 0xDFFF then (some .surrogatePair, final)
          else (some (.codePoint value), after)
        | (none, _) => (some (.codePoint value), after)
      else (some (.codePoint value), after)

/-- Reads an escape after its backslash, in a literal that began at `start`; tells whether
it has a meaning. Templates know no octal escapes. -/
def escape (inTemplate : Bool) (start : Nat) (scan : Scan) : Scan × Bool :=
  match scan.peek? with
  | none => (scan.report .unterminatedString start, true)
  | some char =>
    let after := scan.next
    match char with
    | '\r' => (if after.peek? == some '\n' then after.next else after, true)
    | 'x' =>
      let (value, final) := after.hexDigits 2 0
      (final, value.isSome)
    | 'u' =>
      let (value, final) := after.unicodeEscape
      (final, value.isSome)
    | '0' => (after, !(inTemplate && after.peekIs Char.isDigit))
    | _ => (after, !(inTemplate && char.isDigit))

/-! ## Names -/

def nameEscape (isFirst : Bool) (scan : Scan) : Scan × Option Char :=
  let malformed (after : Scan) : Scan × Option Char :=
    (after.report .invalidUnicodeEscape scan.offset, none)
  if scan.peek? == some 'u' then
    match scan.next.unicodeEscape with
    | (some (.codePoint value), after) =>
      if value.isValidChar then
        let char := Char.ofNat value
        if (if isFirst then isNameStart char else isNamePart char) then (after, some char)
        else (after.report (.invalidCharacter char) after.offset, none)
      else malformed after
    | (_, after) => malformed after
  else malformed scan.next

/-- Reads the rest of a name; `chars` holds its characters so far, last first. Tells
whether an escape occurred. -/
def nameRest : Nat → Scan → List Char → Bool → Scan × List Char × Bool
  | 0, scan, chars, escaped => (scan, chars.reverse, escaped)
  | steps + 1, scan, chars, escaped =>
    match scan.peek? with
    | some '\\' =>
      let (after, char) := scan.next.nameEscape chars.isEmpty
      nameRest steps after (char.toList ++ chars) true
    | some char =>
      if isNamePart char then nameRest steps scan.next (char :: chars) escaped
      else (scan, chars.reverse, escaped)
    | none => (scan, chars.reverse, escaped)

def privateName (scan : Scan) : Scan × TokenKind × List Char × Bool :=
  let named : Scan × TokenKind × List Char × Bool :=
    let (after, name, escaped) := nameRest (scan.rest.length + 1) scan [] false
    (after, .privateName, name, escaped)
  match scan.peek? with
  | none => (scan.report .unexpectedEnd scan.offset, .unknown, [], false)
  | some char =>
    if char == '\\' || isNameStart char then named
    else (scan.next.report (.invalidCharacter char) scan.offset, .unknown, [], false)

/-! ## Numbers -/

/-- A number may not touch a name or another digit. -/
def numberEnd (form : NumberForm) (scan : Scan) : Scan × TokenKind :=
  if scan.peekIs fun char => char.isDigit || isNameStart char then
    let after := scan.next.skipWhile isNameStart
    (after.report .invalidNumberEnd scan.offset, .unknown)
  else (scan, .number form)

/-- Reads digits after the first; a separator must be followed by a digit. The answer
tells whether all separators were. -/
def moreDigits (isDigit : Char → Bool) : Nat → Scan → Scan × Bool
  | 0, scan => (scan, true)
  | steps + 1, scan =>
    match scan.peek? with
    | some '_' =>
      if scan.next.peekIs isDigit then moreDigits isDigit steps scan.next.next
      else (scan.next.reportUnexpected, false)
    | some char => if isDigit char then moreDigits isDigit steps scan.next else (scan, true)
    | none => (scan, true)

/-- Moves past the digits that follow, with the separators between them. -/
def decimalTail (scan : Scan) : Scan :=
  (moreDigits Char.isDigit (scan.rest.length + 1) scan).1

def exponent (scan : Scan) : Scan :=
  let signed := if scan.peekIs fun char => char == '+' || char == '-' then scan.next else scan
  if signed.peekIs Char.isDigit then signed.next.decimalTail else signed.reportUnexpected

def optionalExponent (scan : Scan) : Scan × Bool :=
  if scan.peekIs fun char => char == 'e' || char == 'E' then (scan.next.exponent, true)
  else (scan, false)

def fractionAfterDigits (scan : Scan) : Scan × TokenKind :=
  let fraction := if scan.peekIs Char.isDigit then scan.next.decimalTail else scan
  numberEnd .float fraction.optionalExponent.1

def leadingFraction (scan : Scan) : Scan × TokenKind :=
  numberEnd .float scan.next.decimalTail.optionalExponent.1

def decimalNumber (scan : Scan) : Scan × TokenKind :=
  let after := scan.decimalTail
  if after.peek? == some '.' then after.next.fractionAfterDigits
  else if after.peek? == some 'n' then numberEnd .bigint after.next
  else
    let (final, hasExponent) := after.optionalExponent
    numberEnd (if hasExponent then .exponential else .decimal) final

def radixNumber (form : NumberForm) (isDigit : Char → Bool) (scan : Scan) : Scan × TokenKind :=
  if scan.peekIs isDigit then
    match moreDigits isDigit (scan.rest.length + 1) scan.next with
    | (after, false) => (after, .unknown)
    | (after, true) =>
      if after.peek? == some 'n' then numberEnd .bigint after.next else numberEnd form after
  else (scan.reportUnexpected, .unknown)

/-- Reads a number that begins with a zero and another digit: octal unless it holds an
eight or a nine. -/
def legacyNumber (scan : Scan) : Scan × TokenKind :=
  let octal := scan.skipWhile fun char => '0' ≤ char && char ≤ '7'
  let after := octal.skipWhile Char.isDigit
  if after.offset == octal.offset then numberEnd .octal after
  else if after.peek? == some '.' then after.next.fractionAfterDigits
  else if after.peek? == some 'e' then (after.next.exponent, .number .exponential)
  else numberEnd .decimal after

def zeroNumber (scan : Scan) : Scan × TokenKind :=
  match scan.peek? with
  | none => (scan, .number .decimal)
  | some char =>
    if char == 'b' || char == 'B' then
      radixNumber .binary (fun digit => digit == '0' || digit == '1') scan.next
    else if char == 'o' || char == 'O' then
      radixNumber .octal (fun digit => '0' ≤ digit && digit ≤ '7') scan.next
    else if char == 'x' || char == 'X' then
      radixNumber .hexadecimal Text.isHexDigit scan.next
    else if char == 'e' || char == 'E' then (scan.next.exponent, .number .exponential)
    else if char == '.' then scan.next.fractionAfterDigits
    else if char == 'n' then numberEnd .bigint scan.next
    else if char.isDigit then scan.legacyNumber
    else numberEnd .decimal scan

/-! ## Strings, templates, regular expressions -/

/-- Reads a string after its opening quote. A malformed escape is reported, and reading
goes on. -/
def stringRest (quote : Char) (start : Nat) : Nat → Scan → Scan × TokenKind
  | 0, scan => (scan, .unknown)
  | steps + 1, scan =>
    match scan.peek? with
    | none => (scan.report .unterminatedString start, .unknown)
    | some char =>
      if char == quote then (scan.next, .string)
      else if char == '\\' then
        let (after, meaningful) := escape false start scan.next
        stringRest quote start steps
          (if meaningful then after else after.report .invalidEscape scan.offset)
      else if char == '\n' || char == '\r' then
        (scan.next.report .unterminatedString start, .unknown)
      else stringRest quote start steps scan.next

/-- Reads a template up to its end or its next substitution; tells whether an escape
without meaning occurred. -/
def templateRest (atSubstitution atEnd : TemplatePiece) (start : Nat) :
    Nat → Scan → Bool → Scan × TokenKind × Bool
  | 0, scan, bad => (scan, .unknown, bad)
  | steps + 1, scan, bad =>
    match scan.rest with
    | [] => (scan.report .unterminatedString start, .unknown, bad)
    | '$' :: '{' :: _ => (scan.skip 2, .template atSubstitution, bad)
    | '\x60' :: _ => (scan.next, .template atEnd, bad)
    | '\\' :: _ =>
      let (after, meaningful) := escape true start scan.next
      templateRest atSubstitution atEnd start steps after (bad || !meaningful)
    | _ :: _ => templateRest atSubstitution atEnd start steps scan.next bad

/-- Reads the body of a regular expression after its opening slash. A slash inside a
class, or after a backslash, does not close it. -/
def regexBody (start : Nat) : Nat → Scan → Bool → Bool → Scan × Bool
  | 0, scan, _, _ => (scan, false)
  | steps + 1, scan, afterBackslash, inClass =>
    match scan.peek? with
    | none => (scan.report .unterminatedRegex start, false)
    | some char =>
      if isLineEnd char then (scan.next.report .unterminatedRegex start, false)
      else if afterBackslash then regexBody start steps scan.next false inClass
      else if char == '/' && !inClass then (scan.next, true)
      else if char == '[' then regexBody start steps scan.next false true
      else if char == '\\' then regexBody start steps scan.next true inClass
      else if char == ']' then regexBody start steps scan.next false false
      else regexBody start steps scan.next false inClass

def regexFlags : Nat → Scan → List Char → Scan
  | 0, scan, _ => scan
  | steps + 1, scan, seen =>
    match scan.peek? with
    | none => scan
    | some char =>
      if char.isAlphanum || char == '$' || char == '_' then
        let after := scan.next
        if !(['d', 'g', 'i', 'm', 's', 'u', 'v', 'y'].contains char) then
          regexFlags steps (after.report (.unexpectedFlag char) after.offset) seen
        else if seen.contains char then
          regexFlags steps (after.report (.repeatedFlag char) after.offset) seen
        else regexFlags steps after (char :: seen)
      else scan

/-! ## Punctuation -/

/-- The punctuator at the start of a text, and its length. A `>` stands alone here: what
follows it counts only between operands. -/
def punctuator? : List Char → Option (Punctuator × Nat)
  | [] => none
  | first :: rest =>
    match first with
    | '{' => some (.braceOpen, 1)
    | '}' => some (.braceClose, 1)
    | '(' => some (.parenOpen, 1)
    | ')' => some (.parenClose, 1)
    | '[' => some (.bracketOpen, 1)
    | ']' => some (.bracketClose, 1)
    | ';' => some (.semicolon, 1)
    | ',' => some (.comma, 1)
    | ':' => some (.colon, 1)
    | '~' => some (.tilde, 1)
    | '@' => some (.at, 1)
    | '>' => some (.greater, 1)
    | '.' =>
      match rest with
      | '.' :: '.' :: _ => some (.ellipsis, 3)
      | _ => some (.dot, 1)
    | '?' =>
      match rest with
      | '?' :: '=' :: _ => some (.coalesceAssign, 3)
      | '?' :: _ => some (.coalesce, 2)
      | '.' :: more =>
        if more.head?.any Char.isDigit then some (.question, 1) else some (.optionalDot, 2)
      | _ => some (.question, 1)
    | '=' =>
      match rest with
      | '=' :: '=' :: _ => some (.strictEqual, 3)
      | '=' :: _ => some (.looseEqual, 2)
      | '>' :: _ => some (.arrow, 2)
      | _ => some (.assign, 1)
    | '!' =>
      match rest with
      | '=' :: '=' :: _ => some (.strictUnequal, 3)
      | '=' :: _ => some (.looseUnequal, 2)
      | _ => some (.bang, 1)
    | '<' =>
      match rest with
      | '<' :: '=' :: _ => some (.shiftLeftAssign, 3)
      | '<' :: _ => some (.shiftLeft, 2)
      | '=' :: _ => some (.lessEqual, 2)
      | _ => some (.less, 1)
    | '+' =>
      match rest with
      | '+' :: _ => some (.increment, 2)
      | '=' :: _ => some (.plusAssign, 2)
      | _ => some (.plus, 1)
    | '-' =>
      match rest with
      | '-' :: _ => some (.decrement, 2)
      | '=' :: _ => some (.minusAssign, 2)
      | _ => some (.minus, 1)
    | '*' =>
      match rest with
      | '*' :: '=' :: _ => some (.powerAssign, 3)
      | '*' :: _ => some (.power, 2)
      | '=' :: _ => some (.starAssign, 2)
      | _ => some (.star, 1)
    | '/' =>
      match rest with
      | '=' :: _ => some (.slashAssign, 2)
      | _ => some (.slash, 1)
    | '%' =>
      match rest with
      | '=' :: _ => some (.percentAssign, 2)
      | _ => some (.percent, 1)
    | '&' =>
      match rest with
      | '&' :: '=' :: _ => some (.logicalAndAssign, 3)
      | '&' :: _ => some (.logicalAnd, 2)
      | '=' :: _ => some (.bitAndAssign, 2)
      | _ => some (.bitAnd, 1)
    | '|' =>
      match rest with
      | '|' :: '=' :: _ => some (.logicalOrAssign, 3)
      | '|' :: _ => some (.logicalOr, 2)
      | '=' :: _ => some (.bitOrAssign, 2)
      | _ => some (.bitOr, 1)
    | '^' =>
      match rest with
      | '=' :: _ => some (.bitXorAssign, 2)
      | _ => some (.bitXor, 1)
    | _ => none

/-- The operator that begins with `>` at the start of a text, and its length. -/
def greaterOperator : List Char → Punctuator × Nat
  | '>' :: '>' :: '>' :: '=' :: _ => (.shiftRightUnsignedAssign, 4)
  | '>' :: '>' :: '>' :: _ => (.shiftRightUnsigned, 3)
  | '>' :: '>' :: '=' :: _ => (.shiftRightAssign, 3)
  | '>' :: '>' :: _ => (.shiftRight, 2)
  | '>' :: '=' :: _ => (.greaterEqual, 2)
  | _ => (.greater, 1)

/-! ## Tokens -/

/-- The kind of a name: a keyword if some rule asks for it. -/
def nameKind (name : List Char) : TokenKind :=
  match Keyword.ofText? (String.ofList name) with
  | some word => .keyword word
  | none => .name

def between (start stop : Scan) : List Char :=
  (Text.takeBytes start.rest (stop.offset - start.offset)).getD []

/-- The token whose first character is the next one. -/
def tokenHere (scan : Scan) (onNewLine : Bool) : Token × Scan :=
  let steps := scan.rest.length + 1
  let named (kind : TokenKind) (text : List Char) (escaped : Bool) (after : Scan) :
      Token × Scan :=
    (⟨kind, scan.offset, after.offset, text, onNewLine, escaped, false⟩, after)
  let raw (result : Scan × TokenKind) : Token × Scan :=
    named result.2 (between scan result.1) false result.1
  match scan.rest with
  | [] => raw (scan, .endOfText)
  | '#' :: rest =>
    if scan.offset == 0 && rest.head? == some '!' then
      raw (scan.skipWhile fun char => !isLineEnd char, .hashbang)
    else
      let (after, kind, name, escaped) := scan.next.privateName
      named kind name escaped after
  | '\x22' :: _ => raw (stringRest '\x22' scan.offset steps scan.next)
  | '\x27' :: _ => raw (stringRest '\x27' scan.offset steps scan.next)
  | '\x60' :: _ =>
    let (after, kind, bad) := templateRest .head .whole scan.offset steps scan.next false
    (⟨kind, scan.offset, after.offset, [], onNewLine, false, bad⟩, after)
  | '.' :: digit :: _ =>
    if digit.isDigit then raw scan.next.leadingFraction
    else
      let (mark, length) := (punctuator? scan.rest).getD (.dot, 1)
      raw (scan.skip length, .punctuator mark)
  | '0' :: _ => raw scan.next.zeroNumber
  | char :: _ =>
    if char.isDigit then raw scan.next.decimalNumber
    else if char == '\\' || isNameStart char then
      let (after, name, escaped) := nameRest steps scan [] false
      named (nameKind name) name escaped after
    else match punctuator? scan.rest with
      | some (mark, length) => raw (scan.skip length, .punctuator mark)
      | none => raw (scan.next.report (.invalidCharacter char) scan.offset, .unknown)

/-- The next token. Blanks and comments before it are skipped; the scan returned first
stands at its first character. -/
def token (goal : Goal) (scan : Scan) (onNewLine : Bool) : Scan × Token × Scan :=
  let (start, ended) :=
    skipTrivia (goal == .script) (scan.rest.length + 1) scan onNewLine
  let (token, after) := start.tokenHere ended
  (start, token, after)

/-- Reads a regular expression whose opening slash is the next character. -/
def rescanRegex (start : Scan) (onNewLine : Bool) : Token × Scan :=
  let (body, closed) := regexBody start.offset (start.rest.length + 1) start.next false false
  let after := if closed then regexFlags (body.rest.length + 1) body [] else body
  (⟨.regex, start.offset, after.offset, between start after, onNewLine, false, false⟩, after)

/-- Reads the longest operator that begins with the `>` that is the next character. -/
def rescanGreater (start : Scan) (onNewLine : Bool) : Token × Scan :=
  let (mark, length) := greaterOperator start.rest
  let after := start.skip length
  (⟨.punctuator mark, start.offset, after.offset, [], onNewLine, false, false⟩, after)

/-- Reads the template piece that goes on after the `}` that is the next character. -/
def rescanTemplate (start : Scan) (onNewLine : Bool) : Token × Scan :=
  let (after, kind, bad) :=
    templateRest .middle .tail start.offset (start.rest.length + 1) start.next false
  (⟨kind, start.offset, after.offset, [], onNewLine, false, bad⟩, after)

end Scan

end EditionGuard.Script
