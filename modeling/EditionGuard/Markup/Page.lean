import EditionGuard.Markup.Builder.Table
import EditionGuard.Markup.Reader
import EditionGuard.Markup.Tree

/-!
# Pages

The tree of a page from its text: tokens are read one by one, each in the way that the
document built so far calls for.
-/

namespace EditionGuard.Markup

namespace Builder

variable (builder : Builder)

def inPage (token : Token) : Step :=
  match builder.mode with
  | .initial => builder.initial token
  | .beforeHtml => builder.beforeHtml token
  | .beforeHead => builder.beforeHead token
  | .inHead => builder.inHead token
  | .afterHead => builder.afterHead token
  | .inBody => builder.inBody token
  | .text => builder.inText token
  | .inTable => builder.inTable token
  | .inTableText => builder.inTableText token
  | .inCaption => builder.inCaption token
  | .inColumnGroup => builder.inColumnGroup token
  | .inTableBody => builder.inTableBody token
  | .inRow => builder.inRow token
  | .inCell => builder.inCell token
  | .inSelect => builder.inSelect token
  | .inSelectInTable => builder.inSelectInTable token
  | .inTemplate => builder.inTemplate token
  | .afterBody => builder.afterBody token
  | .inFrameset => builder.inFrameset token
  | .afterFrameset => builder.afterFrameset token
  | .afterAfterBody => builder.afterAfterBody token
  | .afterAfterFrameset => builder.afterAfterFrameset token

def step (token : Token) : Step :=
  if builder.takesForeign token then inForeign inPage builder token else builder.inPage token

/-- Takes a token, as often as the rules ask for it. Every time but a few an element has
been closed, so the number of open elements bounds how often. -/
def takeTimes : Nat → Builder → Token → Builder
  | 0, builder, _ => builder
  | times + 1, builder, token =>
    match builder.step token with
    | .done builder => builder
    | .again builder => takeTimes times builder token

/-- A run of text without the line feed that it begins with. -/
def dropLineFeed : Token → Option Token
  | .blank ('\n' :: rest) => if rest.isEmpty then none else some (.blank rest)
  | .text ('\n' :: rest) => some (.text rest)
  | token => some token

/-- Takes a token, with its line feed dropped where one is to be. -/
def take (token : Token) : Builder :=
  let token? := if builder.dropsLineFeed then dropLineFeed token else some token
  let builder := { builder with dropsLineFeed := false }
  match token? with
  | some token => takeTimes (16 + 4 * builder.opened.length) builder token
  | none => builder

def knowsSections : Bool :=
  (builder.current?.map fun element => element.name.space != .html).getD false

/-- Takes all tokens of a text. The number bounds how many there are. -/
def takeAll : Nat → Builder → List Char → Builder
  | 0, builder, _ => builder
  | fuel + 1, builder, text =>
    match Token.read builder.content builder.knowsSections text with
    | (.finish, _) => { builder with content := .markup }.take .finish
    | (.endTag tag, rest) =>
      takeAll fuel ({ builder with content := .markup }.take (.endTag tag)) rest
    | (token, rest) => takeAll fuel (builder.take token) rest

end Builder

/-- The trees of a page. Every token but the last takes a character at least. -/
def Tree.ofPage (page : List Char) : List Tree :=
  let text := prepare page
  (Builder.takeAll (text.length + 1) {} text).document.toTrees

end EditionGuard.Markup
