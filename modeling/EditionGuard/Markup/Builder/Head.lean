import EditionGuard.Markup.Builder.Formatting

/-!
# The head of a page

The rules before the body: the elements that a page may leave out are opened when something
comes that needs them.
-/

namespace EditionGuard.Markup.Builder

variable (builder : Builder)

/-- Elements that belong into the head and are taken alike wherever they stand. -/
def metadata : List String :=
  ["base", "basefont", "bgsound", "link", "meta", "noframes", "script", "style", "template",
    "title"]

def openTemplate (tag : Tag) : Builder :=
  let builder := (builder.openTag tag).addMarker.forbidFrameset
  { builder with mode := .inTemplate, templateModes := .inTemplate :: builder.templateModes }

/-- Takes the start tag of an element that belongs into the head. -/
def addMetadata (tag : Tag) : Builder :=
  match tag.name with
  | "title" => builder.openText tag (.escapable "title")
  | "script" => builder.openText tag .script
  | "style" | "noframes" | "noscript" => builder.openText tag (.raw tag.name)
  | "template" => builder.openTemplate tag
  | _ => builder.addTag tag

def leaveTemplate : Builder :=
  let builder := (builder.popThrough ["template"]).clearToMarker
  { builder with templateModes := builder.templateModes.tail }.resetMode

def endTemplate : Builder :=
  if builder.hasOpen ["template"] then builder.leaveTemplate else builder

/-- The page ends inside a template. -/
def finishTemplate : Step :=
  if builder.hasOpen ["template"] then .again builder.leaveTemplate else .done builder

/-- Adds those attributes to an element that it does not have. -/
def addAttributes (id : Nat) (tag : Tag) : Builder :=
  let document := builder.document.update id fun node =>
    match node.kind with
    | .element name attributes contents =>
      let missing := tag.attributes.filter fun item => attributes.all (·.name != item.name)
      { node with kind := .element name (attributes ++ missing) contents }
    | _ => node
  { builder with document }

/-- Takes another start tag of the whole page. -/
def repeatHtml (tag : Tag) : Builder :=
  match builder.opened.getLast? with
  | some element =>
    if builder.hasOpen ["template"] then builder else builder.addAttributes element.id tag
  | none => builder

/-- End tags that open what is missing before them. -/
def impliesStart : List String := ["head", "body", "html", "br"]

def initial (token : Token) : Step :=
  match token with
  | .blank _ | .comment => .done builder
  | .doctype => .done (builder.enter .beforeHtml)
  | _ => .again (builder.enter .beforeHtml)

def beforeHtml (token : Token) : Step :=
  let implied : Step := .again ((builder.openImplied "html").enter .beforeHead)
  match token with
  | .blank _ | .comment | .doctype => .done builder
  | .startTag tag =>
    if tag.name == "html" then .done ((builder.openTag tag).enter .beforeHead) else implied
  | .endTag tag => if impliesStart.contains tag.name then implied else .done builder
  | _ => implied

def openHead (tag : Tag) : Builder :=
  let (id, builder) := builder.openElement ⟨.html, "head"⟩ tag.attributes
  { builder with head := some id, mode := .inHead }

def beforeHead (token : Token) : Step :=
  let implied : Step := .again (builder.openHead { name := "head" })
  match token with
  | .blank _ | .comment | .doctype => .done builder
  | .startTag tag =>
    if tag.name == "html" then .done (builder.repeatHtml tag)
    else if tag.name == "head" then .done (builder.openHead tag)
    else implied
  | .endTag tag => if impliesStart.contains tag.name then implied else .done builder
  | _ => implied

def inHead (token : Token) : Step :=
  let implied : Step := .again (builder.pop.enter .afterHead)
  match token with
  | .blank chars => .done (builder.addText chars)
  | .comment | .doctype => .done builder
  | .startTag tag =>
    if tag.name == "html" then .done (builder.repeatHtml tag)
    else if tag.name == "head" then .done builder
    else if metadata.contains tag.name || tag.name == "noscript" then
      .done (builder.addMetadata tag)
    else implied
  | .endTag tag =>
    if tag.name == "head" then .done (builder.pop.enter .afterHead)
    else if tag.name == "template" then .done builder.endTemplate
    else if impliesStart.contains tag.name then implied
    else .done builder
  | _ => implied

def afterHead (token : Token) : Step :=
  let implied : Step := .again ((builder.openImplied "body").enter .inBody)
  match token with
  | .blank chars => .done (builder.addText chars)
  | .comment | .doctype => .done builder
  | .startTag tag =>
    if tag.name == "html" then .done (builder.repeatHtml tag)
    else if tag.name == "body" then .done ((builder.openTag tag).forbidFrameset.enter .inBody)
    else if tag.name == "frameset" then .done ((builder.openTag tag).enter .inFrameset)
    else if tag.name == "head" then .done builder
    else if metadata.contains tag.name then
      match builder.head with
      | some head =>
        let reopened := { builder with opened := ⟨head, ⟨.html, "head"⟩⟩ :: builder.opened }
        .done ((reopened.addMetadata tag).removeOpen head)
      | none => .done (builder.addMetadata tag)
    else implied
  | .endTag tag =>
    if tag.name == "template" then .done builder.endTemplate
    else if ["body", "html", "br"].contains tag.name then implied
    else .done builder
  | _ => implied

def inText (token : Token) : Step :=
  match token with
  | .blank chars | .text chars => .done (builder.addText chars)
  | .endTag _ => .done (builder.pop.enter builder.resumed)
  | .finish => .again (builder.pop.enter builder.resumed)
  | _ => .done builder

end EditionGuard.Markup.Builder
