import EditionGuard.Markup.Builder.Foreign
import EditionGuard.Markup.Builder.Head

/-!
# The body of a page

The rules for the content of a page. Other rules fall back on these for what they do not
know themselves.
-/

namespace EditionGuard.Markup.Builder

variable (builder : Builder)

/-- Elements that end a paragraph and may be ended by their own end tags. -/
def blocks : List String :=
  ["address", "article", "aside", "blockquote", "center", "details", "dialog", "dir", "div",
    "dl", "fieldset", "figcaption", "figure", "footer", "header", "hgroup", "main", "menu",
    "nav", "ol", "search", "section", "summary", "ul"]

/-- Elements that go on in the next block if they are not closed. -/
def formats : List String :=
  ["b", "big", "code", "em", "font", "i", "s", "small", "strike", "strong", "tt", "u"]

/-- Elements that formatting does not reach into. -/
def objects : List String := ["applet", "marquee", "object"]

/-- Start tags that mean nothing in the body. -/
def misplaced : List String :=
  ["caption", "col", "colgroup", "frame", "head", "tbody", "td", "tfoot", "th", "thead", "tr"]

/-- The body, if it is the second of the open elements. -/
def body? : Option Open :=
  (builder.opened.reverse[1]?).filter (·.among ["body"])

def repeatBody (tag : Tag) : Builder :=
  match builder.body? with
  | some body =>
    if builder.hasOpen ["template"] then builder
    else builder.forbidFrameset.addAttributes body.id tag
  | none => builder

def replaceBody (tag : Tag) : Builder :=
  match builder.body? with
  | some body =>
    if builder.framesetAllowed then
      let document := builder.document.detach body.id
      let opened := builder.opened.drop (builder.opened.length - 1)
      ({ builder with document, opened }.openTag tag).enter .inFrameset
    else builder
  | none => builder

def openForm (tag : Tag) : Builder :=
  let inTemplate := builder.hasOpen ["template"]
  if builder.form.isSome && !inTemplate then builder
  else
    let (id, builder) := builder.closeParagraph.openElement ⟨.html, "form"⟩ tag.attributes
    if inTemplate then builder else { builder with form := some id }

/-- Opens an item of a list, and closes the item before it. -/
def openItem (tag : Tag) (ends : List String) : Builder :=
  let stops (element : Open) : Bool :=
    element.among special && !element.among ["address", "div", "p"]
  let builder := builder.forbidFrameset
  let builder :=
    match builder.opened.find? fun element => element.among ends || stops element with
    | some found =>
      if found.among ends then
        (builder.closeImplied found.name.label).popThrough [found.name.label]
      else builder
    | none => builder
  builder.closeParagraph.openTag tag

/-- Opens a link. A link that is open is ended first. -/
def openLink (tag : Tag) : Builder :=
  let builder :=
    match builder.formattingNamed? "a" with
    | some (id, _) => ((builder.endFormatting "a").removeFormatting id).removeOpen id
    | none => builder
  builder.reopenFormatting.openFormatting tag

def openSelect (tag : Tag) : Builder :=
  let inTable := [Mode.inTable, .inCaption, .inTableBody, .inRow, .inCell].contains builder.mode
  (builder.reopenFormatting.openTag tag).forbidFrameset.enter
    (if inTable then .inSelectInTable else .inSelect)

def bodyStart (tag : Tag) : Builder :=
  let name := tag.name
  if metadata.contains name then builder.addMetadata tag
  else if blocks.contains name || name == "p" then builder.closeParagraph.openTag tag
  else if headings.contains name then
    let builder := builder.closeParagraph
    (if builder.currentAmong headings then builder.pop else builder).openTag tag
  else if formats.contains name then builder.reopenFormatting.openFormatting tag
  else if objects.contains name then
    (builder.reopenFormatting.openTag tag).addMarker.forbidFrameset
  else if misplaced.contains name then builder
  else match name with
  | "html" => builder.repeatHtml tag
  | "body" => builder.repeatBody tag
  | "frameset" => builder.replaceBody tag
  | "pre" | "listing" =>
    { builder.closeParagraph.openTag tag with dropsLineFeed := true, framesetAllowed := false }
  | "form" => builder.openForm tag
  | "li" => builder.openItem tag ["li"]
  | "dd" | "dt" => builder.openItem tag ["dd", "dt"]
  | "plaintext" => { builder.closeParagraph.openTag tag with content := .plain }
  | "button" =>
    let builder := if builder.inScope ["button"] then builder.close ["button"] else builder
    (builder.reopenFormatting.openTag tag).forbidFrameset
  | "a" => builder.openLink tag
  | "nobr" =>
    let builder := builder.reopenFormatting
    let builder :=
      if builder.inScope ["nobr"] then (builder.endFormatting "nobr").reopenFormatting
      else builder
    builder.openFormatting tag
  | "table" => (builder.closeParagraph.openTag tag).forbidFrameset.enter .inTable
  | "area" | "br" | "embed" | "img" | "keygen" | "wbr" =>
    (builder.reopenFormatting.addTag tag).forbidFrameset
  | "image" => (builder.reopenFormatting.addTag { tag with name := "img" }).forbidFrameset
  | "input" =>
    let builder := builder.reopenFormatting.addTag tag
    let hidden := (tag.attribute? "type").map Text.lowerAscii == some "hidden".toList
    if hidden then builder else builder.forbidFrameset
  | "param" | "source" | "track" => builder.addTag tag
  | "hr" => (builder.closeParagraph.addTag tag).forbidFrameset
  | "textarea" =>
    { builder.forbidFrameset.openText tag (.escapable "textarea") with dropsLineFeed := true }
  | "xmp" => builder.closeParagraph.reopenFormatting.forbidFrameset.openText tag (.raw "xmp")
  | "iframe" => builder.forbidFrameset.openText tag (.raw "iframe")
  | "noembed" | "noscript" => builder.openText tag (.raw name)
  | "select" => builder.openSelect tag
  | "optgroup" | "option" =>
    let builder := if builder.currentAmong ["option"] then builder.pop else builder
    builder.reopenFormatting.openTag tag
  | "rb" | "rtc" =>
    (if builder.inScope ["ruby"] then builder.closeImplied "" else builder).openTag tag
  | "rp" | "rt" =>
    (if builder.inScope ["ruby"] then builder.closeImplied "rtc" else builder).openTag tag
  | "math" => builder.reopenFormatting.openForeign .math tag
  | "svg" => builder.reopenFormatting.openForeign .svg tag
  | _ => builder.reopenFormatting.openTag tag

def endBlock (name : String) : Builder :=
  if builder.inScope [name] then builder.close [name] else builder

def endForm : Builder :=
  if builder.hasOpen ["template"] then builder.endBlock "form"
  else
    let left := { builder with form := none }
    match builder.form with
    | some id =>
      if builder.reaches closesScope (·.id == id) then (left.closeImplied "").removeOpen id
      else left
    | none => left

def bodyEnd (tag : Tag) : Step :=
  let name := tag.name
  if blocks.contains name || ["button", "listing", "pre"].contains name then
    .done (builder.endBlock name)
  else if headings.contains name then
    .done (if builder.inScope headings then builder.close headings else builder)
  else if formats.contains name || name == "a" || name == "nobr" then
    .done (builder.endFormatting name)
  else if objects.contains name then
    .done (if builder.inScope [name] then (builder.close [name]).clearToMarker else builder)
  else match name with
  | "template" => .done builder.endTemplate
  | "body" => .done (if builder.inScope ["body"] then builder.enter .afterBody else builder)
  | "html" =>
    if builder.inScope ["body"] then .again (builder.enter .afterBody) else .done builder
  | "form" => .done builder.endForm
  | "p" =>
    let builder := if builder.inButtonScope ["p"] then builder else builder.openImplied "p"
    .done builder.closeParagraph
  | "li" =>
    .done (if builder.inListScope ["li"] then (builder.closeImplied "li").popThrough ["li"]
      else builder)
  | "dd" | "dt" =>
    .done (if builder.inScope [name] then (builder.closeImplied name).popThrough [name]
      else builder)
  | "br" => .done (builder.reopenFormatting.addTag { name := "br" }).forbidFrameset
  | _ => .done (builder.endPlain name)

def inBody (token : Token) : Step :=
  match token with
  | .blank chars => .done (builder.reopenFormatting.addText chars)
  | .text chars => .done (builder.reopenFormatting.addText chars).forbidFrameset
  | .startTag tag => .done (builder.bodyStart tag)
  | .endTag tag => builder.bodyEnd tag
  | .finish => if builder.templateModes.isEmpty then .done builder else builder.finishTemplate
  | .zero | .comment | .doctype => .done builder

def afterBody (token : Token) : Step :=
  match token with
  | .blank _ => builder.inBody token
  | .comment | .doctype | .finish => .done builder
  | .startTag { name := "html", .. } => builder.inBody token
  | .endTag { name := "html", .. } => .done (builder.enter .afterAfterBody)
  | _ => .again (builder.enter .inBody)

def afterAfterBody (token : Token) : Step :=
  match token with
  | .comment | .finish => .done builder
  | .blank _ | .doctype => builder.inBody token
  | .startTag { name := "html", .. } => builder.inBody token
  | _ => .again (builder.enter .inBody)

/-- The rules in a template. What the first tag calls for decides how the contents go on. -/
def inTemplate (token : Token) : Step :=
  let switch (mode : Mode) : Step :=
    .again { builder with mode, templateModes := mode :: builder.templateModes.tail }
  match token with
  | .startTag tag =>
    if metadata.contains tag.name then .done (builder.addMetadata tag)
    else match tag.name with
    | "caption" | "colgroup" | "tbody" | "tfoot" | "thead" => switch .inTable
    | "col" => switch .inColumnGroup
    | "tr" => switch .inTableBody
    | "td" | "th" => switch .inRow
    | _ => switch .inBody
  | .endTag tag => .done (if tag.name == "template" then builder.endTemplate else builder)
  | .finish => builder.finishTemplate
  | _ => builder.inBody token

def inFrameset (token : Token) : Step :=
  match token with
  | .blank chars => .done (builder.addText chars)
  | .startTag tag =>
    match tag.name with
    | "html" => .done (builder.repeatHtml tag)
    | "frameset" => .done (builder.openTag tag)
    | "frame" => .done (builder.addTag tag)
    | "noframes" => .done (builder.addMetadata tag)
    | _ => .done builder
  | .endTag tag =>
    if tag.name == "frameset" && builder.opened.length != 1 then
      let builder := builder.pop
      .done (if builder.currentAmong ["frameset"] then builder else builder.enter .afterFrameset)
    else .done builder
  | _ => .done builder

def afterFrameset (token : Token) : Step :=
  match token with
  | .blank chars => .done (builder.addText chars)
  | .startTag tag =>
    match tag.name with
    | "html" => .done (builder.repeatHtml tag)
    | "noframes" => .done (builder.addMetadata tag)
    | _ => .done builder
  | .endTag tag =>
    .done (if tag.name == "html" then builder.enter .afterAfterFrameset else builder)
  | _ => .done builder

def afterAfterFrameset (token : Token) : Step :=
  match token with
  | .blank _ => builder.inBody token
  | .startTag tag =>
    match tag.name with
    | "html" => .done (builder.repeatHtml tag)
    | "noframes" => .done (builder.addMetadata tag)
    | _ => .done builder
  | _ => .done builder

end EditionGuard.Markup.Builder
