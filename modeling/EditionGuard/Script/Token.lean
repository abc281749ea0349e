import EditionGuard.Script.Keyword

/-!
# Tokens

The kinds of token, the text by which a message names each kind, and tokens with their
place in the source.
-/

namespace EditionGuard.Script

inductive Punctuator where
  | braceOpen
  | braceClose
  | parenOpen
  | parenClose
  | bracketOpen
  | bracketClose
  | dot
  | ellipsis
  | semicolon
  | comma
  | colon
  | question
  | optionalDot
  | arrow
  | at
  | less
  | greater
  | lessEqual
  | greaterEqual
  | looseEqual
  | looseUnequal
  | strictEqual
  | strictUnequal
  | plus
  | minus
  | star
  | slash
  | percent
  | power
  | increment
  | decrement
  | shiftLeft
  | shiftRight
  | shiftRightUnsigned
  | bitAnd
  | bitOr
  | bitXor
  | bang
  | tilde
  | logicalAnd
  | logicalOr
  | coalesce
  | assign
  | plusAssign
  | minusAssign
  | starAssign
  | slashAssign
  | percentAssign
  | powerAssign
  | shiftLeftAssign
  | shiftRightAssign
  | shiftRightUnsignedAssign
  | bitAndAssign
  | bitOrAssign
  | bitXorAssign
  | logicalAndAssign
  | logicalOrAssign
  | coalesceAssign
deriving DecidableEq, Repr, Inhabited

def Punctuator.text : Punctuator → String
  | .braceOpen => "\x7b"
  | .braceClose => "\x7d"
  | .parenOpen => "("
  | .parenClose => ")"
  | .bracketOpen => "["
  | .bracketClose => "]"
  | .dot => "."
  | .ellipsis => "..."
  | .semicolon => ";"
  | .comma => ","
  | .colon => ":"
  | .question => "?"
  | .optionalDot => "?."
  | .arrow => "=>"
  | .at => "@"
  | .less => "<"
  | .greater => ">"
  | .lessEqual => "<="
  | .greaterEqual => ">="
  | .looseEqual => "=="
  | .looseUnequal => "!="
  | .strictEqual => "==="
  | .strictUnequal => "!=="
  | .plus => "+"
  | .minus => "-"
  | .star => "*"
  | .slash => "/"
  | .percent => "%"
  | .power => "**"
  | .increment => "++"
  | .decrement => "--"
  | .shiftLeft => "<<"
  | .shiftRight => ">>"
  | .shiftRightUnsigned => ">>>"
  | .bitAnd => "&"
  | .bitOr => "|"
  | .bitXor => "^"
  | .bang => "!"
  | .tilde => "~"
  | .logicalAnd => "&&"
  | .logicalOr => "||"
  | .coalesce => "??"
  | .assign => "="
  | .plusAssign => "+="
  | .minusAssign => "-="
  | .starAssign => "*="
  | .slashAssign => "/="
  | .percentAssign => "%="
  | .powerAssign => "**="
  | .shiftLeftAssign => "<<="
  | .shiftRightAssign => ">>="
  | .shiftRightUnsignedAssign => ">>>="
  | .bitAndAssign => "&="
  | .bitOrAssign => "|="
  | .bitXorAssign => "^="
  | .logicalAndAssign => "&&="
  | .logicalOrAssign => "||="
  | .coalesceAssign => "??="

inductive NumberForm where
  | decimal
  | float
  | binary
  | octal
  | hexadecimal
  | exponential
  | bigint
deriving DecidableEq, Repr, Inhabited

/-- The pieces into which substitutions cut a template. -/
inductive TemplatePiece where
  | whole
  | head
  | middle
  | tail
deriving DecidableEq, Repr, Inhabited

inductive TokenKind where
  | endOfText
  | unknown
  | name
  | privateName
  | keyword (word : Keyword)
  | punctuator (mark : Punctuator)
  | number (form : NumberForm)
  | string
  | template (piece : TemplatePiece)
  | regex
  | hashbang
deriving DecidableEq, Repr, Inhabited

namespace TokenKind

def text : TokenKind → String
  | .endOfText => "EOF"
  | .unknown => "Unknown"
  | .name => "Identifier"
  | .privateName => "#identifier"
  | .keyword word => word.text
  | .punctuator mark => mark.text
  | .number .decimal => "decimal"
  | .number .float => "float"
  | .number .binary => "binary"
  | .number .octal => "octal"
  | .number .hexadecimal => "hex"
  | .number .exponential => "exponential"
  | .number .bigint => "bigint"
  | .string => "string"
  | .template .whole => "$\x7b\x7d"
  | .template .head => "$\x7b"
  | .template .middle => "$\x7bexpr\x7d"
  | .template .tail => "\x7d"
  | .regex => "/regexp/"
  | .hashbang => "#!"

/-- Whether the token is spelled like a name: a plain name or any keyword. -/
def isAnyName : TokenKind → Bool
  | .name => true
  | .keyword _ => true
  | _ => false

/-- Whether the token may refer to a variable outside every special context. -/
def isPlainName : TokenKind → Bool
  | .name => true
  | .keyword word => word.isPlainName
  | _ => false

/-- Whether the token may name a new variable; `await` and `yield` may, and the context is
checked apart. -/
def isBindingName : TokenKind → Bool
  | .keyword .awaitWord => true
  | .keyword .yieldWord => true
  | kind => kind.isPlainName

/-- Whether the token may refer to a variable where `yield` or `await` may be operators. -/
def isReferenceName (yieldIsOperator awaitIsOperator : Bool) : TokenKind → Bool
  | .keyword .awaitWord => !awaitIsOperator
  | .keyword .yieldWord => !yieldIsOperator
  | kind => kind.isPlainName

def isNumber : TokenKind → Bool
  | .number _ => true
  | _ => false

def isReserved : TokenKind → Bool
  | .keyword word => word.isReserved
  | _ => false

end TokenKind

/-- A token: its kind, the bytes it covers, its text, whether a line ends between it and
the token before, and whether its text holds an escape. -/
structure Token where
  kind : TokenKind
  start : Nat
  stop : Nat
  text : List Char
  onNewLine : Bool
  escaped : Bool
  badEscape : Bool
deriving Repr, Inhabited

end EditionGuard.Script
