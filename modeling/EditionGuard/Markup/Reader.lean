import EditionGuard.Markup.Reference

/-!
# Reading tokens

`Token.read` takes the next token from the text of a page. Newlines are made line feeds
before that. Reading never fails: what is no markup is text, and a tag that the page breaks
off in is dropped.
-/

namespace EditionGuard.Markup

/-- The text with every newline written as one line feed. -/
def normalizeNewlines : List Char → List Char
  | '\r' :: '\n' :: rest => '\n' :: normalizeNewlines rest
  | '\r' :: rest => '\n' :: normalizeNewlines rest
  | char :: rest => char :: normalizeNewlines rest
  | [] => []

/-- The text as it is read: without a byte order mark, and with line feeds only. -/
def prepare (page : List Char) : List Char :=
  normalizeNewlines (match page with
    | '\uFEFF' :: rest => rest
    | rest => rest)

def replaceZeros (text : List Char) : List Char :=
  text.map fun char => if char == '\x00' then '\uFFFD' else char

/-- A name as tags and attributes hold it. -/
def nameOf (text : List Char) : String :=
  String.ofList (Text.lowerAscii (replaceZeros text))

/-- A text cut before the first place where `stop` holds of what follows. -/
def cutAt (stop : List Char → Bool) : List Char → List Char × List Char
  | [] => ([], [])
  | char :: rest =>
    if stop (char :: rest) then ([], char :: rest)
    else
      let (before, after) := cutAt stop rest
      (char :: before, after)

/-- What follows the first occurrence of any of the given marks; nothing if there is none. -/
def dropThrough (marks : List (List Char)) (text : List Char) : List Char :=
  let rest := (cutAt (fun text => marks.any (Text.startsWith · text)) text).2
  match marks.find? (Text.startsWith · rest) with
  | some mark => rest.drop mark.length
  | none => []

def endsName (char : Char) : Bool := isBlank char || char == '/' || char == '>'

/-- The value after an equals sign; nothing if the page ends in it. -/
def readValue? (text : List Char) : Option (List Char × List Char) :=
  let quoted (quote : Char) (text : List Char) : Option (List Char × List Char) :=
    match text.span (· != quote) with
    | (value, _ :: rest) => some (value, rest)
    | (_, []) => none
  match text.dropWhile isBlank with
  | '\x22' :: rest => quoted '\x22' rest
  | '\x27' :: rest => quoted '\x27' rest
  | rest => some (rest.span fun char => !(isBlank char || char == '>'))

/-- What follows the name of an attribute: its value, and the rest. -/
def readAssignment? (text : List Char) : Option (List Char × List Char) :=
  match text.dropWhile isBlank with
  | '=' :: rest => readValue? rest
  | rest => some ([], rest)

/-- The rest of a tag after its name: attributes, whether a slash closes the tag, and what
follows it. Of several attributes of one name the first counts. -/
def readAttributes? : Nat → List Char → Option (List Attribute × Bool × List Char)
  | 0, _ => none
  | _ + 1, [] => none
  | _ + 1, '>' :: rest => some ([], false, rest)
  | _ + 1, '/' :: '>' :: rest => some ([], true, rest)
  | fuel + 1, char :: rest =>
    if char == '/' || isBlank char then readAttributes? fuel rest
    else
      let (name, rest) := rest.span fun char => !(endsName char || char == '=')
      (readAssignment? rest).bind fun (value, rest) =>
        (readAttributes? fuel rest).map fun (others, selfClosing, rest) =>
          let item : Attribute :=
            ⟨nameOf (char :: name), Reference.expand 0 (replaceZeros value)⟩
          (item :: others.filter (·.name != item.name), selfClosing, rest)

def readTag (wrap : Tag → Token) (text : List Char) : Token × List Char :=
  let (name, rest) := text.span fun char => !endsName char
  match readAttributes? (rest.length + 1) rest with
  | some (attributes, selfClosing, rest) => (wrap ⟨nameOf name, attributes, selfClosing⟩, rest)
  | none => (.finish, [])

/-- What stands behind a less-than sign and an exclamation mark. Sections of characters are
known in foreign elements only. -/
def readDeclaration (inForeign : Bool) (text : List Char) : Token × List Char :=
  if Text.startsWith "--".toList text then
    let body := text.drop 2
    if Text.startsWith ">".toList body then (.comment, body.drop 1)
    else if Text.startsWith "->".toList body then (.comment, body.drop 2)
    else (.comment, dropThrough ["-->".toList, "--!>".toList] body)
  else if Text.lowerAscii (text.take 7) = "doctype".toList then
    (.doctype, dropThrough [['>']] text)
  else if inForeign && Text.startsWith "[CDATA[".toList text then
    let (characters, rest) := cutAt (Text.startsWith "]]>".toList) (text.drop 7)
    (if characters.isEmpty then .comment else .ofRun (replaceZeros characters), rest.drop 3)
  else (.comment, dropThrough [['>']] text)

/-- What stands behind a less-than sign. An end tag without a name counts as a comment. -/
def readMarkup (inForeign : Bool) : List Char → Token × List Char
  | '!' :: rest => readDeclaration inForeign rest
  | '?' :: rest => (.comment, dropThrough [['>']] rest)
  | '/' :: [] => (.text ['<', '/'], [])
  | '/' :: char :: rest =>
    if char.isAlpha then readTag .endTag (char :: rest)
    else (.comment, dropThrough [['>']] (char :: rest))
  | char :: rest =>
    if char.isAlpha then readTag .startTag (char :: rest) else (.text ['<'], char :: rest)
  | [] => (.text ['<'], [])

def readData (inForeign : Bool) : List Char → Token × List Char
  | [] => (.finish, [])
  | '<' :: rest => readMarkup inForeign rest
  | '&' :: rest =>
    let (chars, length) := Reference.read false rest
    (.ofRun chars, rest.drop length)
  | char :: rest =>
    if char == '\x00' then (.zero, rest)
    else
      let (run, rest) := (char :: rest).span fun next =>
        isBlank next == isBlank char && !(next == '<' || next == '&' || next == '\x00')
      (.ofRun run, rest)

/-- Whether a text begins with a name that ends there. -/
def startsName (name text : List Char) : Bool :=
  Text.lowerAscii (text.take name.length) == name &&
    (match (text.drop name.length).head? with
      | some char => endsName char
      | none => false)

def startsEndTag (name : List Char) : List Char → Bool
  | '<' :: '/' :: rest => startsName name rest
  | _ => false

/-- How far the text of a script has hidden its end tag. -/
inductive Cover where
  /-- Not at all. -/
  | plain
  /-- In a comment. -/
  | comment
  /-- In a script inside a comment. -/
  | script
deriving DecidableEq, Repr

/-- The text of a script and what follows it. In a comment a start tag hides the next end
tag. `dashes` counts the dashes, at most two, that have just been read in a comment. -/
def readScript (cover : Cover) (dashes : Nat) : List Char → List Char × List Char
  | [] => ([], [])
  | char :: rest =>
    if cover ≠ .script ∧ startsEndTag "script".toList (char :: rest) then ([], char :: rest)
    else
      let (cover, dashes) :=
        match cover, char with
        | .plain, '<' => if Text.startsWith "!--".toList rest then (.comment, 0) else (.plain, 0)
        | .plain, _ => (.plain, 0)
        | cover, '-' => (cover, min 2 (dashes + 1))
        | cover, '>' => if dashes = 2 then (.plain, 0) else (cover, 0)
        | .comment, '<' => if startsName "script".toList rest then (.script, 0) else (.comment, 0)
        | .script, '<' =>
          if startsEndTag "script".toList (char :: rest) then (.comment, 0) else (.script, 0)
        | cover, _ => (cover, 0)
      let (before, after) := readScript cover dashes rest
      (char :: before, after)

/-- Text up to the end tag of a name. -/
def readRaw (name : String) (references : Bool) (text : List Char) : Token × List Char :=
  let stop (text : List Char) : Bool :=
    startsEndTag name.toList text || (references && text.head? == some '&')
  match text with
  | [] => (.finish, [])
  | '&' :: rest =>
    if references then
      let (chars, length) := Reference.read false rest
      (.text chars, rest.drop length)
    else
      let (run, rest) := cutAt stop rest
      (.text ('&' :: replaceZeros run), rest)
  | text =>
    if startsEndTag name.toList text then readTag .endTag (text.drop 2)
    else
      let (run, rest) := cutAt stop text
      (.text (replaceZeros run), rest)

def Token.read (content : Content) (inForeign : Bool) (text : List Char) : Token × List Char :=
  match content with
  | .markup => readData inForeign text
  | .escapable name => readRaw name true text
  | .raw name => readRaw name false text
  | .script =>
    match readScript .plain 0 text with
    | ([], []) => (.finish, [])
    | ([], rest) => readTag .endTag (rest.drop 2)
    | (run, rest) => (.text (replaceZeros run), rest)
  | .plain => if text.isEmpty then (.finish, []) else (.text (replaceZeros text), [])

end EditionGuard.Markup
