import EditionGuard.Markup.Document

/-!
# Building a document

The state in which the tokens of a page are turned into a document: the elements that are
open, the formatting that is still in force, and the rules that hold at the moment.
-/

namespace EditionGuard.Markup

/-- The sets of rules by which a token is taken. -/
inductive Mode where
  | initial
  | beforeHtml
  | beforeHead
  | inHead
  | afterHead
  | inBody
  | text
  | inTable
  | inTableText
  | inCaption
  | inColumnGroup
  | inTableBody
  | inRow
  | inCell
  | inSelect
  | inSelectInTable
  | inTemplate
  | afterBody
  | inFrameset
  | afterFrameset
  | afterAfterBody
  | afterAfterFrameset
deriving DecidableEq, Repr, Inhabited

structure Open where
  id : Nat
  name : Name
deriving DecidableEq, Repr, Inhabited

/-- Formatting in force: an element with the tag that began it, or a mark that formatting
before it does not reach past. -/
inductive Formatting where
  | marker
  | element (id : Nat) (tag : Tag)
deriving DecidableEq, Repr, Inhabited

/-- A document under construction, and what decides where the next token goes. -/
structure Builder where
  document : Document := .empty
  mode : Mode := .initial
  /-- The rules that come back after raw text and after text in a table. -/
  resumed : Mode := .initial
  /-- The rules inside the templates that are open, innermost first. -/
  templateModes : List Mode := []
  opened : List Open := []
  formatting : List Formatting := []
  head : Option Nat := none
  form : Option Nat := none
  /-- Whether a frameset may still take the place of the body. -/
  framesetAllowed : Bool := true
  /-- Whether what does not belong into a table is put in front of it. -/
  fostering : Bool := false
  /-- The runs of text read in a table, oldest first. -/
  tableText : List (List Char) := []
  /-- Whether a line feed that comes next is dropped. -/
  dropsLineFeed : Bool := false
  content : Content := .markup

/-- What a set of rules makes of a token. -/
inductive Step where
  | done (builder : Builder)
  /-- The token is to be taken again, by the rules that hold now. -/
  | again (builder : Builder)

namespace Open

/-- Whether an element is one of the page's own elements with one of the given names. -/
def among (element : Open) (labels : List String) : Bool :=
  element.name.space == .html && labels.contains element.name.label

end Open

namespace Builder

def headings : List String := ["h1", "h2", "h3", "h4", "h5", "h6"]

/-- The parts of a table among which text goes in front of the table. -/
def tableParts : List String := ["table", "tbody", "tfoot", "thead", "tr"]

def impliedEnds : List String :=
  ["dd", "dt", "li", "optgroup", "option", "p", "rb", "rp", "rt", "rtc"]

/-- Elements that an end tag does not reach past. -/
def special : List String :=
  ["address", "applet", "area", "article", "aside", "base", "basefont", "bgsound",
    "blockquote", "body", "br", "button", "caption", "center", "col", "colgroup", "dd",
    "details", "dir", "div", "dl", "dt", "embed", "fieldset", "figcaption", "figure",
    "footer", "form", "frame", "frameset", "h1", "h2", "h3", "h4", "h5", "h6", "head",
    "header", "hgroup", "hr", "html", "iframe", "img", "input", "isindex", "li", "link",
    "listing", "main", "marquee", "menu", "meta", "nav", "noembed", "noframes", "noscript",
    "object", "ol", "p", "param", "plaintext", "pre", "script", "section", "select",
    "source", "style", "summary", "table", "tbody", "td", "template", "textarea", "tfoot",
    "th", "thead", "title", "tr", "track", "ul", "wbr", "xmp"]

/-- Whether an element of a formula holds text of the page. -/
def mathText (name : Name) : Bool :=
  name.space == .math && ["mi", "mo", "mn", "ms", "mtext"].contains name.label

/-- Whether an element of a drawing holds a piece of the page. -/
def svgPage (name : Name) : Bool :=
  name.space == .svg && ["foreignObject", "desc", "title"].contains name.label

/-- Elements that hide what is open outside of them. -/
def closesScope (element : Open) : Bool :=
  element.among
      ["applet", "caption", "html", "table", "td", "th", "marquee", "object", "template"] ||
    mathText element.name || svgPage element.name

/-- Elements that hide open list items outside of them. -/
def closesListScope (element : Open) : Bool :=
  closesScope element || element.among ["ol", "ul"]

/-- Elements that hide open paragraphs outside of them. -/
def closesButtonScope (element : Open) : Bool :=
  closesScope element || element.among ["button"]

/-- Elements that hide open parts of tables outside of them. -/
def closesTableScope (element : Open) : Bool :=
  element.among ["html", "table", "template"]

/-- Elements that hide an open choice outside of them: all but the options in it. -/
def closesSelectScope (element : Open) : Bool :=
  !element.among ["optgroup", "option"]

variable (builder : Builder)

def current? : Option Open := builder.opened.head?

def currentAmong (labels : List String) : Bool :=
  (builder.current?.map (·.among labels)).getD false

def hasOpen (labels : List String) : Bool := builder.opened.any (·.among labels)

def reaches (closes wanted : Open → Bool) : Bool :=
  (builder.opened.find? fun element => wanted element || closes element).any wanted

def inScope (labels : List String) : Bool := builder.reaches closesScope (·.among labels)

def inListScope (labels : List String) : Bool :=
  builder.reaches closesListScope (·.among labels)

def inButtonScope (labels : List String) : Bool :=
  builder.reaches closesButtonScope (·.among labels)

def inTableScope (labels : List String) : Bool :=
  builder.reaches closesTableScope (·.among labels)

def inSelectScope (labels : List String) : Bool :=
  builder.reaches closesSelectScope (·.among labels)

def pop : Builder := { builder with opened := builder.opened.tail }

def popThrough (labels : List String) : Builder :=
  { builder with
    opened := (builder.opened.dropWhile fun element => !element.among labels).tail }

def popTo (labels : List String) : Builder :=
  { builder with opened := builder.opened.dropWhile fun element => !element.among labels }

/-- Closes the innermost elements whose end may be left out, except of one name. -/
def closeImplied (except : String) : Builder :=
  { builder with opened := builder.opened.dropWhile fun element =>
      element.among impliedEnds && element.name.label != except }

def close (labels : List String) : Builder := (builder.closeImplied "").popThrough labels

def closeParagraph : Builder :=
  if builder.inButtonScope ["p"] then (builder.closeImplied "p").popThrough ["p"] else builder

def isOpen (id : Nat) : Bool := builder.opened.any (·.id == id)

def removeOpen (id : Nat) : Builder :=
  { builder with opened := builder.opened.filter (·.id != id) }

/-- Where an element is put that belongs to a table but cannot stand there: in front of the
innermost table, unless a template is further in. -/
def fosterPlace : Place :=
  match builder.opened.find? (·.among ["table", "template"]) with
  | none => ⟨builder.document.home ((builder.opened.getLast?.map Open.id).getD 0), none⟩
  | some found =>
    if found.among ["template"] then ⟨builder.document.home found.id, none⟩
    else
      match (builder.document.node found.id).parent with
      | some parent => ⟨parent, some found.id⟩
      | none =>
        let outer := ((builder.opened.dropWhile (·.id != found.id)).drop 1).head?
        ⟨builder.document.home ((outer.map Open.id).getD 0), none⟩

/-- Where a node that belongs to the given element is put. -/
def placeIn (target : Open) : Place :=
  if builder.fostering && target.among tableParts then builder.fosterPlace
  else ⟨builder.document.home target.id, none⟩

def place : Place :=
  match builder.current? with
  | some target => builder.placeIn target
  | none => ⟨Document.root, none⟩

/-- A new element without place. A template gets a fragment for its contents. -/
def createElement (name : Name) (attributes : List Attribute) : Nat × Builder :=
  let (contents, document) :=
    if name = ⟨.html, "template"⟩ then
      let (contents, document) := builder.document.create .fragment
      (some contents, document)
    else (none, builder.document)
  let (id, document) := document.create (.element name attributes contents)
  (id, { builder with document })

/-- A new element at the current place, which is not left open. -/
def addElement (name : Name) (attributes : List Attribute) : Nat × Builder :=
  let place := builder.place
  let (id, builder) := builder.createElement name attributes
  (id, { builder with document := builder.document.insert place id })

/-- A new element at the current place, left open. -/
def openElement (name : Name) (attributes : List Attribute) : Nat × Builder :=
  let (id, builder) := builder.addElement name attributes
  (id, { builder with opened := ⟨id, name⟩ :: builder.opened })

def openTag (tag : Tag) : Builder := (builder.openElement ⟨.html, tag.name⟩ tag.attributes).2

def addTag (tag : Tag) : Builder := (builder.addElement ⟨.html, tag.name⟩ tag.attributes).2

def openImplied (label : String) : Builder := builder.openTag { name := label }

def addText (chars : List Char) : Builder :=
  { builder with document := builder.document.insertText builder.place chars }

/-- Keeps the body from giving way to a frameset. -/
def forbidFrameset : Builder := { builder with framesetAllowed := false }

def enter (mode : Mode) : Builder := { builder with mode }

def openText (tag : Tag) (content : Content) : Builder :=
  let builder := builder.openTag tag
  { builder with content, resumed := builder.mode, mode := .text }

def modeFor (templateModes : List Mode) (hasHead : Bool) : List Open → Mode
  | [] => .inBody
  | element :: outer =>
    let last := outer.isEmpty
    if element.name.space ≠ .html then
      if last then .inBody else modeFor templateModes hasHead outer
    else
      match element.name.label with
      | "select" =>
        match outer.find? (·.among ["template", "table"]) with
        | some found => if found.among ["table"] then .inSelectInTable else .inSelect
        | none => .inSelect
      | "tr" => .inRow
      | "tbody" | "thead" | "tfoot" => .inTableBody
      | "caption" => .inCaption
      | "colgroup" => .inColumnGroup
      | "table" => .inTable
      | "template" => templateModes.head?.getD .inBody
      | "body" => .inBody
      | "frameset" => .inFrameset
      | "html" => if hasHead then .afterHead else .beforeHead
      | "td" | "th" => if last then .inBody else .inCell
      | "head" => if last then .inBody else .inHead
      | _ => if last then .inBody else modeFor templateModes hasHead outer

def resetMode : Builder :=
  builder.enter (modeFor builder.templateModes builder.head.isSome builder.opened)

end Builder

end EditionGuard.Markup
