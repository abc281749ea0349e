import EditionGuard.Markup.Builder.Formatting

/-!
# Foreign elements

Drawings and formulas have elements of their own. Inside them some tags of the page end the
foreign part, and a few foreign elements hold page content again.
-/

namespace EditionGuard.Markup.Builder

/-- The name of a foreign element. Of the names with capital letters only the one is restored
that the rules ask for. -/
def foreignName (space : Namespace) (label : String) : Name :=
  if space = .svg ∧ label = "foreignobject" then ⟨space, "foreignObject"⟩
  else ⟨space, label⟩

/-- Attributes with a known qualifier are held by their local names. -/
def foreignAttribute (item : Attribute) : Attribute :=
  match item.name with
  | "xlink:actuate" => { item with name := "actuate" }
  | "xlink:arcrole" => { item with name := "arcrole" }
  | "xlink:href" => { item with name := "href" }
  | "xlink:role" => { item with name := "role" }
  | "xlink:show" => { item with name := "show" }
  | "xlink:title" => { item with name := "title" }
  | "xlink:type" => { item with name := "type" }
  | "xml:lang" => { item with name := "lang" }
  | "xml:space" => { item with name := "space" }
  | "xmlns:xlink" => { item with name := "xlink" }
  | _ => item

/-- Opens a foreign element, or adds it whole when a slash closes its tag. -/
def openForeign (builder : Builder) (space : Namespace) (tag : Tag) : Builder :=
  let name := foreignName space tag.name
  let attributes := tag.attributes.map foreignAttribute
  if tag.selfClosing then (builder.addElement name attributes).2
  else (builder.openElement name attributes).2

def holdsPage (builder : Builder) (element : Open) : Bool :=
  (builder.document.attributes element.id).any fun item =>
    item.name == "encoding" &&
      ["text/html".toList, "application/xhtml+xml".toList].contains (Text.lowerAscii item.value)

/-- Whether a token is taken by the rules for foreign elements. -/
def takesForeign (builder : Builder) (token : Token) : Bool :=
  match builder.current? with
  | none => false
  | some element =>
    let name := element.name
    if name.space == .html then false
    else
      match token with
      | .finish => false
      | .startTag tag =>
        !((mathText name && tag.name != "mglyph" && tag.name != "malignmark") ||
          svgPage name ||
          (name == ⟨.math, "annotation-xml"⟩ &&
            (tag.name == "svg" || builder.holdsPage element)))
      | .blank _ | .text _ | .zero =>
        !(mathText name || svgPage name ||
          (name == ⟨.math, "annotation-xml"⟩ && builder.holdsPage element))
      | _ => true

/-- Start tags that end a foreign part. -/
def endsForeign : List String :=
  ["b", "big", "blockquote", "body", "br", "center", "code", "dd", "div", "dl", "dt", "em",
    "embed", "h1", "h2", "h3", "h4", "h5", "h6", "head", "hr", "i", "img", "li", "listing",
    "menu", "meta", "nobr", "ol", "p", "pre", "ruby", "s", "small", "span", "strong",
    "strike", "sub", "sup", "table", "tt", "u", "ul", "var"]

def leavesForeign : Token → Bool
  | .startTag tag =>
    endsForeign.contains tag.name ||
      (tag.name == "font" &&
        tag.attributes.any fun item => ["color", "face", "size"].contains item.name)
  | .endTag tag => tag.name == "br" || tag.name == "p"
  | _ => false

/-- Closes elements until page content may follow. -/
def leaveForeign (builder : Builder) : Builder :=
  { builder with opened := builder.opened.dropWhile fun element =>
      !(element.name.space == .html || mathText element.name || svgPage element.name) }

/-- The elements that stay open when an end tag closes a foreign element; nothing when the
end tag is met by page content first. -/
def closeForeign? (name : String) : List Open → Option (List Open)
  | element :: next :: outer =>
    if element.name.label.toLower == name then some (next :: outer)
    else if next.name.space == .html then none
    else closeForeign? name (next :: outer)
  | opened => some opened

/-- Takes a token by the rules for foreign elements; `page` are the rules for page content. -/
def inForeign (page : Builder → Token → Step) (builder : Builder) (token : Token) : Step :=
  if leavesForeign token then page builder.leaveForeign token
  else
    match token with
    | .startTag tag =>
      let space := (builder.current?.map fun element => element.name.space).getD .html
      .done (builder.openForeign space tag)
    | .endTag tag =>
      match closeForeign? tag.name builder.opened with
      | some opened => .done { builder with opened }
      | none => page builder token
    | .blank chars => .done (builder.addText chars)
    | .text chars => .done (builder.addText chars).forbidFrameset
    | .zero => .done (builder.addText ['\uFFFD'])
    | _ => .done builder

end EditionGuard.Markup.Builder
