import EndpointScout.Html.Body

/-! Tokens outside the body, in tables, selections, templates and frames. -/
namespace EndpointScout.Html

namespace Builder

def beforeHead (r : Rules) (b : Builder) (t : Token) : Step :=
  let begun (attributes : Attributes) : Builder :=
    let b := b.insert "head" attributes
    { b with mode := .inHead, head := b.opened.head? }
  match t with
  | .text true => b.stay
  | .opening name attributes _ =>
    if name == "html".toList then b.stay
    else if name == "head".toList then (begun attributes).stay
    else r.again (begun []) t
  | .closing name =>
    if ["head", "body", "html", "br"].contains (String.ofList name) then r.again (begun []) t
    else b.stay
  | .text false => r.again (begun []) t

def inHead (r : Rules) (b : Builder) (t : Token) : Step :=
  let ended : Builder := b.pop.withMode .afterHead
  match t with
  | .text true => b.stay
  | .text false => r.again ended t
  | .opening name attributes _ =>
    let s := String.ofList name
    if s == "html" || s == "head" then b.stay
    else if headNames.contains s || s == "noscript" then b.insertHeadElement s attributes
    else r.again ended t
  | .closing name =>
    match String.ofList name with
    | "head" => ended.stay
    | "template" => b.closeTemplate.stay
    | "body" => r.again ended t
    | "html" => r.again ended t
    | "br" => r.again ended t
    | _ => b.stay

def afterHead (r : Rules) (b : Builder) (t : Token) : Step :=
  let begun : Builder := (b.insert "body" []).withMode .inBody
  match t with
  | .text true => b.stay
  | .text false => r.again begun t
  | .opening name attributes _ =>
    let s := String.ofList name
    if s == "html" || s == "head" then b.stay
    else if s == "body" then ((b.insert s attributes).withoutFrames.withMode .inBody).stay
    else if s == "frameset" then ((b.insert s attributes).withMode .inFrameset).stay
    else if headNames.contains s then
      match b.head with
      | some h =>
        let (b, reading) := r.rulesOf .inHead { b with opened := h :: b.opened } t
        ({ b with opened := b.opened.filter (· != h) }, reading)
      | none => r.again begun t
    else r.again begun t
  | .closing name =>
    match String.ofList name with
    | "template" => r.rulesOf .inHead b t
    | "body" => r.again begun t
    | "html" => r.again begun t
    | "br" => r.again begun t
    | _ => b.stay

/-- Content that has no place in a table goes in front of it. -/
def fostered (r : Rules) (b : Builder) (t : Token) : Step :=
  let (b, reading) := r.rulesOf .inBody { b with fosters := true } t
  ({ b with fosters := false }, reading)

def tableContext : List String := ["table", "template", "html"]

def sectionNames : List String := ["tbody", "tfoot", "thead"]

def sectionContext : List String := ["tbody", "tfoot", "thead", "template", "html"]

def rowContext : List String := ["tr", "template", "html"]

def cellNames : List String := ["td", "th"]

def partNames : List String :=
  ["caption", "col", "colgroup", "tbody", "td", "tfoot", "th", "thead", "tr"]

def inTable (r : Rules) (b : Builder) (t : Token) : Step :=
  match t with
  | .text true => b.stay
  | .text false => fostered r b t
  | .opening name attributes _ =>
    let s := String.ofList name
    let cleared := b.clearTo tableContext
    if cellNames.contains s || s == "tr" then
      r.again ((cleared.insert "tbody" []).withMode .inSection) t
    else if sectionNames.contains s then ((cleared.insert s attributes).withMode .inSection).stay
    else match s with
      | "caption" => ((cleared.mark.insert s attributes).withMode .inCaption).stay
      | "colgroup" => ((cleared.insert s attributes).withMode .inColumns).stay
      | "col" => r.again ((cleared.insert "colgroup" []).withMode .inColumns) t
      | "table" =>
        if b.hasInTableScope ["table"] then r.again (b.popThrough (·.isHtml "table")).reset t
        else b.stay
      | "style" => r.rulesOf .inHead b t
      | "script" => r.rulesOf .inHead b t
      | "template" => r.rulesOf .inHead b t
      | "input" =>
        if isHidden attributes then (b.insertEmpty s attributes).stay else fostered r b t
      | "form" =>
        if b.form || b.hasOpen "template" then b.stay
        else { b.insertEmpty s attributes with form := true }.stay
      | _ => fostered r b t
  | .closing name =>
    let s := String.ofList name
    if s == "table" then
      (if b.hasInTableScope ["table"] then (b.popThrough (·.isHtml "table")).reset else b).stay
    else if partNames.contains s || s == "body" || s == "html" then b.stay
    else if s == "template" then r.rulesOf .inHead b t
    else fostered r b t

def inCaption (r : Rules) (b : Builder) (t : Token) : Step :=
  let inScope := b.hasInTableScope ["caption"]
  let ended : Builder :=
    ((b.closeImplied []).popThrough (·.isHtml "caption")).clearToMark.withMode .inTable
  match t with
  | .opening name _ _ =>
    if partNames.contains (String.ofList name) then if inScope then r.again ended t else b.stay
    else r.rulesOf .inBody b t
  | .closing name =>
    let s := String.ofList name
    if s == "caption" then (if inScope then ended else b).stay
    else if s == "table" then if inScope then r.again ended t else b.stay
    else if partNames.contains s || s == "body" || s == "html" then b.stay
    else r.rulesOf .inBody b t
  | .text _ => r.rulesOf .inBody b t

def inColumns (r : Rules) (b : Builder) (t : Token) : Step :=
  let isColumns := b.current.isHtml "colgroup"
  let ended : Builder := b.pop.withMode .inTable
  let other : Step := if isColumns then r.again ended t else b.stay
  match t with
  | .text true => b.stay
  | .text false => other
  | .opening name attributes _ =>
    match String.ofList name with
    | "html" => b.stay
    | "col" => (b.insertEmpty "col" attributes).stay
    | "template" => r.rulesOf .inHead b t
    | _ => other
  | .closing name =>
    match String.ofList name with
    | "colgroup" => (if isColumns then ended else b).stay
    | "col" => b.stay
    | "template" => r.rulesOf .inHead b t
    | _ => other

def inSection (r : Rules) (b : Builder) (t : Token) : Step :=
  let cleared := b.clearTo sectionContext
  let ended : Builder := cleared.pop.withMode .inTable
  match t with
  | .opening name attributes _ =>
    let s := String.ofList name
    if s == "tr" then ((cleared.insert s attributes).withMode .inRow).stay
    else if cellNames.contains s then r.again ((cleared.insert "tr" []).withMode .inRow) t
    else if partNames.contains s then
      if b.hasInTableScope sectionNames then r.again ended t else b.stay
    else r.rulesOf .inTable b t
  | .closing name =>
    let s := String.ofList name
    if sectionNames.contains s then (if b.hasInTableScope [s] then ended else b).stay
    else if s == "table" then
      if b.hasInTableScope sectionNames then r.again ended t else b.stay
    else if partNames.contains s || s == "body" || s == "html" then b.stay
    else r.rulesOf .inTable b t
  | .text _ => r.rulesOf .inTable b t

def inRow (r : Rules) (b : Builder) (t : Token) : Step :=
  let cleared := b.clearTo rowContext
  let inScope := b.hasInTableScope ["tr"]
  let ended : Builder := cleared.pop.withMode .inSection
  match t with
  | .opening name attributes _ =>
    let s := String.ofList name
    if cellNames.contains s then ((cleared.insert s attributes).mark.withMode .inCell).stay
    else if partNames.contains s then if inScope then r.again ended t else b.stay
    else r.rulesOf .inTable b t
  | .closing name =>
    let s := String.ofList name
    if s == "tr" then (if inScope then ended else b).stay
    else if s == "table" then if inScope then r.again ended t else b.stay
    else if sectionNames.contains s then
      if b.hasInTableScope [s] && inScope then r.again ended t else b.stay
    else if partNames.contains s || s == "body" || s == "html" then b.stay
    else r.rulesOf .inTable b t
  | .text _ => r.rulesOf .inTable b t

def inCell (r : Rules) (b : Builder) (t : Token) : Step :=
  let ended (names : List String) : Builder :=
    ((b.closeImplied []).popThrough (·.isHtmlOf names)).clearToMark.withMode .inRow
  match t with
  | .opening name _ _ =>
    if partNames.contains (String.ofList name) then
      if b.hasInTableScope cellNames then r.again (ended cellNames) t else b.stay
    else r.rulesOf .inBody b t
  | .closing name =>
    let s := String.ofList name
    if cellNames.contains s then (if b.hasInTableScope [s] then ended [s] else b).stay
    else if sectionNames.contains s || s == "table" || s == "tr" then
      if b.hasInTableScope [s] then r.again (ended cellNames) t else b.stay
    else if partNames.contains s || s == "body" || s == "html" then b.stay
    else r.rulesOf .inBody b t
  | .text _ => r.rulesOf .inBody b t

def inSelect (r : Rules) (b : Builder) (t : Token) : Step :=
  let withoutOption (b : Builder) : Builder := if b.current.isHtml "option" then b.pop else b
  let withoutGroup (b : Builder) : Builder := if b.current.isHtml "optgroup" then b.pop else b
  let inScope := b.hasInSelectScope ["select"]
  let ended : Builder := (b.popThrough (·.isHtml "select")).reset
  match t with
  | .text _ => b.stay
  | .opening name attributes _ =>
    match String.ofList name with
    | "option" => ((withoutOption b).insert "option" attributes).stay
    | "optgroup" => ((withoutGroup (withoutOption b)).insert "optgroup" attributes).stay
    | "hr" => ((withoutGroup (withoutOption b)).insertEmpty "hr" attributes).stay
    | "select" => (if inScope then ended else b).stay
    | "input" => if inScope then r.again ended t else b.stay
    | "keygen" => if inScope then r.again ended t else b.stay
    | "textarea" => if inScope then r.again ended t else b.stay
    | "script" => r.rulesOf .inHead b t
    | "template" => r.rulesOf .inHead b t
    | _ => b.stay
  | .closing name =>
    match String.ofList name with
    | "optgroup" =>
      let inGroup := b.current.isHtml "option" &&
        ((b.opened.tail.head?.map fun n => (b.element n).isHtml "optgroup").getD false)
      (withoutGroup (if inGroup then b.pop else b)).stay
    | "option" => (withoutOption b).stay
    | "select" => (if inScope then ended else b).stay
    | "template" => r.rulesOf .inHead b t
    | _ => b.stay

def inTableSelect (r : Rules) (b : Builder) (t : Token) : Step :=
  let names := ["caption", "table", "tbody", "tfoot", "thead", "tr", "td", "th"]
  let ended : Builder := (b.popThrough (·.isHtml "select")).reset
  match t with
  | .opening name _ _ =>
    if names.contains (String.ofList name) then r.again ended t else r.rulesOf .inSelect b t
  | .closing name =>
    let s := String.ofList name
    if names.contains s then if b.hasInTableScope [s] then r.again ended t else b.stay
    else r.rulesOf .inSelect b t
  | .text _ => r.rulesOf .inSelect b t

def inTemplate (r : Rules) (b : Builder) (t : Token) : Step :=
  let go (m : Mode) : Step :=
    r.again { b with mode := m, templates := m :: b.templates.tail } t
  match t with
  | .text _ => r.rulesOf .inBody b t
  | .opening name _ _ =>
    let s := String.ofList name
    if headNames.contains s then r.rulesOf .inHead b t
    else if s == "caption" || s == "colgroup" || sectionNames.contains s then go .inTable
    else if s == "col" then go .inColumns
    else if s == "tr" then go .inSection
    else if cellNames.contains s then go .inRow
    else go .inBody
  | .closing name => if name == "template".toList then r.rulesOf .inHead b t else b.stay

def afterBody (r : Rules) (b : Builder) (t : Token) : Step :=
  match t with
  | .text true => b.reconstruct.stay
  | .closing name => if name == "html".toList then b.stay else r.again (b.withMode .inBody) t
  | .opening name _ _ => if name == "html".toList then b.stay else r.again (b.withMode .inBody) t
  | .text false => r.again (b.withMode .inBody) t

def inFrameset (r : Rules) (b : Builder) (t : Token) : Step :=
  match t with
  | .opening name attributes _ =>
    match String.ofList name with
    | "frameset" => (b.insert "frameset" attributes).stay
    | "frame" => (b.insertEmpty "frame" attributes).stay
    | "noframes" => r.rulesOf .inHead b t
    | _ => b.stay
  | .closing name =>
    if name == "frameset".toList && b.opened.length > 1 then
      let b := b.pop
      (if b.current.isHtml "frameset" then b else b.withMode .afterFrameset).stay
    else b.stay
  | .text _ => b.stay

def afterFrameset (r : Rules) (b : Builder) (t : Token) : Step :=
  match t with
  | .opening name _ _ => if name == "noframes".toList then r.rulesOf .inHead b t else b.stay
  | _ => b.stay

def inMode (r : Rules) : Mode → Builder → Token → Step
  | .beforeHead => beforeHead r
  | .inHead => inHead r
  | .afterHead => afterHead r
  | .inBody => inBody r
  | .inTable => inTable r
  | .inCaption => inCaption r
  | .inColumns => inColumns r
  | .inSection => inSection r
  | .inRow => inRow r
  | .inCell => inCell r
  | .inSelect => inSelect r
  | .inTableSelect => inTableSelect r
  | .inTemplate => inTemplate r
  | .afterBody => afterBody r
  | .inFrameset => inFrameset r
  | .afterFrameset => afterFrameset r

mutual

/-- A token by the rules of the place where it stands; `fuel` bounds the changes of place. -/
def process : Nat → Builder → Token → Step
  | 0, b, _ => b.stay
  | fuel + 1, b, t =>
    if b.isForeign t then inForeign ⟨process fuel, processIn fuel⟩ b t
    else processIn fuel b.mode b t

def processIn : Nat → Mode → Builder → Token → Step
  | 0, _, b, _ => b.stay
  | fuel + 1, m, b, t => inMode ⟨process fuel, processIn fuel⟩ m b t

end

def readGo : Nat → Builder → Text → Builder
  | 0, b, _ => b
  | size + 1, b, t =>
    match Token.next? (b.current.language != .html) (size + 1) t with
    | none => b
    | some (token, rest) =>
      match process 64 b token with
      | (b, .markup) => readGo size b rest
      | (b, .rawText name) => readGo size b (Token.afterRawText size name rest)
      | (b, .script) => readGo size b (Token.afterScript size .none rest)
      | (b, .textOnly) => b

end Builder

def Document.read (t : Text) : Document :=
  let t := Token.normalizeLines t
  (Builder.readGo (t.length + 1) Builder.start t).document

end EndpointScout.Html
