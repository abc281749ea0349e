import EditionGuard.Markup.Builder.Body

/-!
# Tables and choices

The rules inside tables, where content that is no part of the table is put in front of it,
and inside selections.
-/

namespace EditionGuard.Markup.Builder

variable (builder : Builder)

/-- Takes a token by the rules of the body, with what does not fit put in front of the
table. -/
def foster (token : Token) : Step :=
  match { builder with fostering := true }.inBody token with
  | .done builder => .done { builder with fostering := false }
  | .again builder => .again { builder with fostering := false }

/-- Puts a run of text in front of the table. -/
def fosterText (run : List Char) : Builder :=
  match builder.foster (.ofRun run) with
  | .done builder => builder
  | .again builder => builder

def clearToTable : Builder := builder.popTo ["table", "template", "html"]

def clearToTableBody : Builder := builder.popTo ["tbody", "tfoot", "thead", "template", "html"]

def clearToRow : Builder := builder.popTo ["tr", "template", "html"]

def leaveTable : Builder := (builder.popThrough ["table"]).resetMode

def inTable (token : Token) : Step :=
  match token with
  | .blank _ | .text _ | .zero =>
    if builder.currentAmong tableParts then
      .again { builder with resumed := builder.mode, mode := .inTableText, tableText := [] }
    else builder.foster token
  | .comment | .doctype => .done builder
  | .startTag tag =>
    match tag.name with
    | "caption" => .done ((builder.clearToTable.addMarker.openTag tag).enter .inCaption)
    | "colgroup" => .done ((builder.clearToTable.openTag tag).enter .inColumnGroup)
    | "col" => .again ((builder.clearToTable.openImplied "colgroup").enter .inColumnGroup)
    | "tbody" | "tfoot" | "thead" =>
      .done ((builder.clearToTable.openTag tag).enter .inTableBody)
    | "td" | "th" | "tr" => .again ((builder.clearToTable.openImplied "tbody").enter .inTableBody)
    | "table" => if builder.inTableScope ["table"] then .again builder.leaveTable else .done builder
    | "style" | "script" | "template" => .done (builder.addMetadata tag)
    | "input" =>
      if (tag.attribute? "type").map Text.lowerAscii == some "hidden".toList then
        .done (builder.addTag tag)
      else builder.foster token
    | "form" =>
      if builder.form.isSome || builder.hasOpen ["template"] then .done builder
      else
        let (id, builder) := builder.addElement ⟨.html, "form"⟩ tag.attributes
        .done { builder with form := some id }
    | _ => builder.foster token
  | .endTag tag =>
    match tag.name with
    | "table" => .done (if builder.inTableScope ["table"] then builder.leaveTable else builder)
    | "template" => .done builder.endTemplate
    | "body" | "caption" | "col" | "colgroup" | "html" | "tbody" | "td" | "tfoot" | "th"
    | "thead" | "tr" => .done builder
    | _ => builder.foster token
  | .finish => builder.inBody token

/-- Text in a table is held until it ends: blanks stay in the table, and a text that holds
more is put in front of it. -/
def inTableText (token : Token) : Step :=
  match token with
  | .zero => .done builder
  | .blank chars | .text chars =>
    .done { builder with tableText := builder.tableText ++ [chars] }
  | _ =>
    let runs := builder.tableText
    let builder := { builder with tableText := [] }
    let builder :=
      if runs.all (·.all isBlank) then runs.foldl addText builder
      else runs.foldl fosterText builder
    .again (builder.enter builder.resumed)

def leaveCaption : Builder := (builder.close ["caption"]).clearToMarker.enter .inTable

def inCaption (token : Token) : Step :=
  let left : Step :=
    if builder.inTableScope ["caption"] then .again builder.leaveCaption else .done builder
  match token with
  | .startTag tag =>
    match tag.name with
    | "caption" | "col" | "colgroup" | "tbody" | "td" | "tfoot" | "th" | "thead" | "tr" => left
    | _ => builder.inBody token
  | .endTag tag =>
    match tag.name with
    | "caption" =>
      .done (if builder.inTableScope ["caption"] then builder.leaveCaption else builder)
    | "table" => left
    | "body" | "col" | "colgroup" | "html" | "tbody" | "td" | "tfoot" | "th" | "thead" | "tr" =>
      .done builder
    | _ => builder.inBody token
  | _ => builder.inBody token

def inColumnGroup (token : Token) : Step :=
  let left : Step :=
    if builder.currentAmong ["colgroup"] then .again (builder.pop.enter .inTable)
    else .done builder
  match token with
  | .blank chars => .done (builder.addText chars)
  | .comment | .doctype => .done builder
  | .startTag tag =>
    match tag.name with
    | "html" => .done (builder.repeatHtml tag)
    | "col" => .done (builder.addTag tag)
    | "template" => .done (builder.addMetadata tag)
    | _ => left
  | .endTag tag =>
    match tag.name with
    | "colgroup" =>
      .done (if builder.currentAmong ["colgroup"] then builder.pop.enter .inTable else builder)
    | "col" => .done builder
    | "template" => .done builder.endTemplate
    | _ => left
  | .finish => builder.inBody token
  | _ => left

def leaveTableBody : Builder := builder.clearToTableBody.pop.enter .inTable

def inTableBody (token : Token) : Step :=
  let groups := ["tbody", "tfoot", "thead"]
  let left : Step :=
    if builder.inTableScope groups then .again builder.leaveTableBody else .done builder
  match token with
  | .startTag tag =>
    match tag.name with
    | "tr" => .done ((builder.clearToTableBody.openTag tag).enter .inRow)
    | "th" | "td" => .again ((builder.clearToTableBody.openImplied "tr").enter .inRow)
    | "caption" | "col" | "colgroup" | "tbody" | "tfoot" | "thead" => left
    | _ => builder.inTable token
  | .endTag tag =>
    match tag.name with
    | "tbody" | "tfoot" | "thead" =>
      .done (if builder.inTableScope [tag.name] then builder.leaveTableBody else builder)
    | "table" => left
    | "body" | "caption" | "col" | "colgroup" | "html" | "td" | "th" | "tr" => .done builder
    | _ => builder.inTable token
  | _ => builder.inTable token

def leaveRow : Builder := builder.clearToRow.pop.enter .inTableBody

def inRow (token : Token) : Step :=
  let left : Step :=
    if builder.inTableScope ["tr"] then .again builder.leaveRow else .done builder
  match token with
  | .startTag tag =>
    match tag.name with
    | "th" | "td" => .done ((builder.clearToRow.openTag tag).enter .inCell).addMarker
    | "caption" | "col" | "colgroup" | "tbody" | "tfoot" | "thead" | "tr" => left
    | _ => builder.inTable token
  | .endTag tag =>
    match tag.name with
    | "tr" => .done (if builder.inTableScope ["tr"] then builder.leaveRow else builder)
    | "table" => left
    | "tbody" | "tfoot" | "thead" =>
      if builder.inTableScope [tag.name] then left else .done builder
    | "body" | "caption" | "col" | "colgroup" | "html" | "td" | "th" => .done builder
    | _ => builder.inTable token
  | _ => builder.inTable token

def leaveCell (names : List String) : Builder :=
  (builder.close names).clearToMarker.enter .inRow

def inCell (token : Token) : Step :=
  match token with
  | .startTag tag =>
    match tag.name with
    | "caption" | "col" | "colgroup" | "tbody" | "td" | "tfoot" | "th" | "thead" | "tr" =>
      if builder.inTableScope ["td", "th"] then .again (builder.leaveCell ["td", "th"])
      else .done builder
    | _ => builder.inBody token
  | .endTag tag =>
    match tag.name with
    | "td" | "th" =>
      .done (if builder.inTableScope [tag.name] then builder.leaveCell [tag.name] else builder)
    | "body" | "caption" | "col" | "colgroup" | "html" => .done builder
    | "table" | "tbody" | "tfoot" | "thead" | "tr" =>
      if builder.inTableScope [tag.name] then .again (builder.leaveCell ["td", "th"])
      else .done builder
    | _ => builder.inBody token
  | _ => builder.inBody token

def leaveSelect : Builder := (builder.popThrough ["select"]).resetMode

def popIf (labels : List String) : Builder :=
  if builder.currentAmong labels then builder.pop else builder

def inSelect (token : Token) : Step :=
  match token with
  | .blank chars | .text chars => .done (builder.addText chars)
  | .startTag tag =>
    match tag.name with
    | "html" => .done (builder.repeatHtml tag)
    | "option" => .done ((builder.popIf ["option"]).openTag tag)
    | "optgroup" => .done (((builder.popIf ["option"]).popIf ["optgroup"]).openTag tag)
    | "hr" => .done (((builder.popIf ["option"]).popIf ["optgroup"]).addTag tag)
    | "select" =>
      .done (if builder.inSelectScope ["select"] then builder.leaveSelect else builder)
    | "input" | "keygen" | "textarea" =>
      if builder.inSelectScope ["select"] then .again builder.leaveSelect else .done builder
    | "script" | "template" => .done (builder.addMetadata tag)
    | _ => .done builder
  | .endTag tag =>
    match tag.name with
    | "optgroup" =>
      let inGroup := (builder.opened[1]?.map (·.among ["optgroup"])).getD false
      let builder := if inGroup then builder.popIf ["option"] else builder
      .done (builder.popIf ["optgroup"])
    | "option" => .done (builder.popIf ["option"])
    | "select" =>
      .done (if builder.inSelectScope ["select"] then builder.leaveSelect else builder)
    | "template" => .done builder.endTemplate
    | _ => .done builder
  | .finish => builder.inBody token
  | .zero | .comment | .doctype => .done builder

def inSelectInTable (token : Token) : Step :=
  let parts := ["caption", "table", "tbody", "tfoot", "thead", "tr", "td", "th"]
  match token with
  | .startTag tag =>
    if parts.contains tag.name then .again builder.leaveSelect else builder.inSelect token
  | .endTag tag =>
    if parts.contains tag.name then
      if builder.inTableScope [tag.name] then .again builder.leaveSelect else .done builder
    else builder.inSelect token
  | _ => builder.inSelect token

end EditionGuard.Markup.Builder
