import EndpointScout.Html.Builder

/-! Tags and text inside the body of a document, in its head, and inside the other
languages that it embeds. -/
namespace EndpointScout.Html

/-- How the text after a token is read. -/
inductive Reading where
  | markup
  | rawText (name : Text)
  | script
  | textOnly

abbrev Step := Builder × Reading

/-- The way to other rules: to the same token in the mode of the builder, and to it by the
rules of a given mode. -/
structure Rules where
  again : Builder → Token → Step
  rulesOf : Mode → Builder → Token → Step

namespace Builder

def stay (b : Builder) : Step := (b, .markup)

def insertRaw (b : Builder) (name : String) (attributes : Attributes) : Step :=
  (b.insertEmpty name attributes, .rawText name.toList)

def headNames : List String :=
  ["base", "basefont", "bgsound", "link", "meta", "noframes", "script", "style", "template",
    "title"]

def closeTemplate (b : Builder) : Builder :=
  if b.hasOpen "template" then
    let b := (b.closeAllImplied.popThrough (·.isHtml "template")).clearToMark
    { b with templates := b.templates.tail }.reset
  else b

def insertHeadElement (b : Builder) (name : String) (attributes : Attributes) : Step :=
  match name with
  | "title" => b.insertRaw name attributes
  | "noframes" => b.insertRaw name attributes
  | "noscript" => b.insertRaw name attributes
  | "style" => b.insertRaw name attributes
  | "script" => (b.insertEmpty name attributes, .script)
  | "template" =>
    let b := ((b.insert name attributes).mark).withoutFrames
    ({ b with mode := .inTemplate, templates := .inTemplate :: b.templates }).stay
  | _ => (b.insertEmpty name attributes).stay

def closeOther (b : Builder) (name : String) : Builder :=
  let inner := b.opened.takeWhile fun n => !(b.element n).isHtml name
  if inner.any fun n => (b.element n).isSpecial then b
  else (b.closeImplied [name]).popThrough (·.isHtml name)

/-- Closes a formatting element that may be misnested. -/
def adoptGo (b : Builder) (name : String) : Nat → Builder
  | 0 => b
  | rounds + 1 =>
    match b.adoptOnce name with
    | .again b => b.adoptGo name rounds
    | .done b => b
    | .unlisted => b.closeOther name

def adopt (b : Builder) (name : String) : Builder :=
  if b.current.isHtml name && !b.formatting.contains b.opened.head? then b.pop
  else b.adoptGo name 8

def endLink (b : Builder) : Builder :=
  let recent := (b.formatting.takeWhile (·.isSome)).filterMap id
  match recent.find? fun n => (b.element n).name == "a" with
  | none => b
  | some n =>
    let b := (b.adopt "a").removeFormatting n
    { b with opened := b.opened.filter (· != n) }

def endItem (b : Builder) (names : List String) : Builder :=
  let inner := b.opened.takeWhile fun n => !(b.element n).isHtmlOf names
  let stops (e : Element) : Bool := e.isSpecial && !e.isHtmlOf ["address", "div", "p"]
  if inner.any fun n => stops (b.element n) then b
  else match (b.opened.drop inner.length).head? with
    | some n =>
      let name := (b.element n).name
      (b.closeImplied [name]).popThrough (·.isHtml name)
    | none => b

def blockNames : List String :=
  ["address", "article", "aside", "blockquote", "center", "details", "dialog", "dir", "div",
    "dl", "fieldset", "figcaption", "figure", "footer", "header", "hgroup", "main", "menu",
    "nav", "ol", "p", "search", "section", "summary", "ul"]

def headings : List String := ["h1", "h2", "h3", "h4", "h5", "h6"]

def formattingNames : List String :=
  ["b", "big", "code", "em", "font", "i", "s", "small", "strike", "strong", "tt", "u"]

def isTableMode (m : Mode) : Bool :=
  m == .inTable || m == .inCaption || m == .inSection || m == .inRow || m == .inCell

def isHidden (attributes : Attributes) : Bool :=
  attributes.any fun a => a.1 == "type".toList && Text.asciiLower a.2 == "hidden".toList

def replaceBody (b : Builder) (attributes : Attributes) : Builder :=
  match b.opened.reverse with
  | root :: body :: _ =>
    if (b.element body).isHtml "body" && b.framesAllowed then
      let b := { b with document := b.document.detach body, opened := [root] }
      (b.insert "frameset" attributes).withMode .inFrameset
    else b
  | _ => b

def openInBody (r : Rules) (b : Builder) (name : String) (attributes : Attributes)
    (closesItself : Bool) : Step :=
  let token : Token := .opening name.toList attributes closesItself
  if headNames.contains name then r.rulesOf .inHead b token
  else if blockNames.contains name then (b.closeParagraph.insert name attributes).stay
  else if headings.contains name then
    let b := b.closeParagraph
    ((if b.current.isHtmlOf headings then b.pop else b).insert name attributes).stay
  else if formattingNames.contains name then (b.reconstruct.insertFormatting name attributes).stay
  else if ["caption", "col", "colgroup", "frame", "head", "tbody", "td", "tfoot", "th", "thead",
      "tr", "html"].contains name then b.stay
  else if ["area", "br", "embed", "img", "keygen", "wbr"].contains name then
    (b.reconstruct.insertEmpty name attributes).withoutFrames.stay
  else if ["applet", "marquee", "object"].contains name then
    (b.reconstruct.insert name attributes).mark.withoutFrames.stay
  else match name with
    | "body" => b.withoutFrames.stay
    | "frameset" => (b.replaceBody attributes).stay
    | "pre" => (b.closeParagraph.insert name attributes).withoutFrames.stay
    | "listing" => (b.closeParagraph.insert name attributes).withoutFrames.stay
    | "form" =>
      let inTemplate := b.hasOpen "template"
      if b.form && !inTemplate then b.stay
      else
        let b := b.closeParagraph.insert name attributes
        { b with form := b.form || !inTemplate }.stay
    | "li" => ((b.withoutFrames.endItem ["li"]).closeParagraph.insert name attributes).stay
    | "dd" => ((b.withoutFrames.endItem ["dd", "dt"]).closeParagraph.insert name attributes).stay
    | "dt" => ((b.withoutFrames.endItem ["dd", "dt"]).closeParagraph.insert name attributes).stay
    | "plaintext" => (b.closeParagraph.insert name attributes, .textOnly)
    | "button" =>
      let b := if b.hasInScope ["button"] then
          (b.closeImplied []).popThrough (·.isHtml "button")
        else b
      (b.reconstruct.insert name attributes).withoutFrames.stay
    | "a" => (b.endLink.reconstruct.insertFormatting name attributes).stay
    | "nobr" =>
      let b := b.reconstruct
      let b := if b.hasInScope ["nobr"] then (b.adopt "nobr").reconstruct else b
      (b.insertFormatting name attributes).stay
    | "table" =>
      ((b.closeParagraph.insert name attributes).withoutFrames.withMode .inTable).stay
    | "input" =>
      let b := b.reconstruct.insertEmpty name attributes
      (if isHidden attributes then b else b.withoutFrames).stay
    | "param" => (b.insertEmpty name attributes).stay
    | "source" => (b.insertEmpty name attributes).stay
    | "track" => (b.insertEmpty name attributes).stay
    | "hr" => (b.closeParagraph.insertEmpty name attributes).withoutFrames.stay
    | "image" => r.again b (.opening "img".toList attributes closesItself)
    | "textarea" => b.withoutFrames.insertRaw name attributes
    | "xmp" => b.closeParagraph.reconstruct.withoutFrames.insertRaw name attributes
    | "iframe" => b.withoutFrames.insertRaw name attributes
    | "noembed" => b.insertRaw name attributes
    | "noscript" => b.insertRaw name attributes
    | "select" =>
      let inTable := isTableMode b.mode
      ((b.reconstruct.insert name attributes).withoutFrames.withMode
        (if inTable then .inTableSelect else .inSelect)).stay
    | "optgroup" =>
      ((if b.current.isHtml "option" then b.pop else b).reconstruct.insert name attributes).stay
    | "option" =>
      ((if b.current.isHtml "option" then b.pop else b).reconstruct.insert name attributes).stay
    | "rb" =>
      ((if b.hasInScope ["ruby"] then b.closeImplied [] else b).insert name attributes).stay
    | "rtc" =>
      ((if b.hasInScope ["ruby"] then b.closeImplied [] else b).insert name attributes).stay
    | "rp" =>
      ((if b.hasInScope ["ruby"] then b.closeImplied ["rtc"] else b).insert name attributes).stay
    | "rt" =>
      ((if b.hasInScope ["ruby"] then b.closeImplied ["rtc"] else b).insert name attributes).stay
    | "math" =>
      let b := b.reconstruct.insertAs .math name attributes
      (if closesItself then b.pop else b).stay
    | "svg" =>
      let b := b.reconstruct.insertAs .svg name attributes
      (if closesItself then b.pop else b).stay
    | _ => (b.reconstruct.insert name attributes).stay

def closeInScope (b : Builder) (name : String) : Builder :=
  if b.hasInScope [name] then (b.closeImplied []).popThrough (·.isHtml name) else b

def closeInBody (r : Rules) (b : Builder) (name : String) : Step :=
  if name == "p" then
    if b.hasInButtonScope ["p"] then b.closeParagraph.stay
    else (b.insert "p" []).closeParagraph.stay
  else if name == "form" then
    if b.hasOpen "template" then (b.closeInScope name).stay
    else if b.form && b.hasInScope [name] then
      let b := b.closeImplied []
      let node := b.opened.find? fun n => (b.element n).isHtml "form"
      { b with form := false, opened := b.opened.filter fun n => some n != node }.stay
    else { b with form := false }.stay
  else if blockNames.contains name || ["button", "listing", "pre"].contains name then
    (b.closeInScope name).stay
  else if headings.contains name then
    (if b.hasInScope headings then (b.closeImplied []).popThrough (·.isHtmlOf headings)
      else b).stay
  else if formattingNames.contains name || name == "a" || name == "nobr" then (b.adopt name).stay
  else match name with
    | "template" => r.rulesOf .inHead b (.closing name.toList)
    | "body" => (if b.hasInScope ["body"] then b.withMode .afterBody else b).stay
    | "html" =>
      if b.hasInScope ["body"] then r.again (b.withMode .afterBody) (.closing name.toList)
      else b.stay
    | "li" =>
      (if b.hasInListScope [name] then (b.closeImplied [name]).popThrough (·.isHtml name)
        else b).stay
    | "dd" =>
      (if b.hasInScope [name] then (b.closeImplied [name]).popThrough (·.isHtml name) else b).stay
    | "dt" =>
      (if b.hasInScope [name] then (b.closeImplied [name]).popThrough (·.isHtml name) else b).stay
    | "applet" => (if b.hasInScope [name] then (b.closeInScope name).clearToMark else b).stay
    | "marquee" => (if b.hasInScope [name] then (b.closeInScope name).clearToMark else b).stay
    | "object" => (if b.hasInScope [name] then (b.closeInScope name).clearToMark else b).stay
    | "br" => (b.reconstruct.insertEmpty name []).withoutFrames.stay
    | _ => (b.closeOther name).stay

def inBody (r : Rules) (b : Builder) : Token → Step
  | .text true => b.reconstruct.stay
  | .text false => b.reconstruct.withoutFrames.stay
  | .opening name attributes closesItself =>
    b.openInBody r (String.ofList name) attributes closesItself
  | .closing name => b.closeInBody r (String.ofList name)

def isForeign (b : Builder) (t : Token) : Bool :=
  let e := b.current
  if e.language == .html then false
  else match t with
    | .text _ => !(e.isTextPoint || e.isMarkupPoint)
    | .opening name _ _ =>
      let intoText := e.isTextPoint &&
        name != "mglyph".toList && name != "malignmark".toList
      let intoDrawing := e.language == .math && e.name == "annotation-xml" && name == "svg".toList
      !(intoText || intoDrawing || e.isMarkupPoint)
    | .closing _ => true

def breaksOut (name : String) (attributes : Attributes) : Bool :=
  ["b", "big", "blockquote", "body", "br", "center", "code", "dd", "div", "dl", "dt", "em",
    "embed", "h1", "h2", "h3", "h4", "h5", "h6", "head", "hr", "i", "img", "li", "listing",
    "menu", "meta", "nobr", "ol", "p", "pre", "ruby", "s", "small", "span", "strong", "strike",
    "sub", "sup", "table", "tt", "u", "ul", "var"].contains name ||
    (name == "font" && attributes.any fun a =>
      ["color", "face", "size"].any fun s => s.toList == a.1)

def leaveForeign (b : Builder) : Builder :=
  { b with opened := b.opened.dropWhile fun n =>
      let e := b.element n
      !(e.language == .html || e.isTextPoint || e.isMarkupPoint) }

def foreignAttributes (attributes : Attributes) : Attributes :=
  attributes.filter fun a => !(Text.startsWith a.1 "xlink:".toList ||
    Text.startsWith a.1 "xml:".toList)

def inForeign (r : Rules) (b : Builder) : Token → Step
  | .text blank => (if blank then b else b.withoutFrames).stay
  | .opening name attributes closesItself =>
    if breaksOut (String.ofList name) attributes then
      r.again b.leaveForeign (.opening name attributes closesItself)
    else
      let b := b.insertAs b.current.language (String.ofList name) (foreignAttributes attributes)
      (if closesItself then b.pop else b).stay
  | .closing name =>
    let s := String.ofList name
    if s == "br" || s == "p" then r.again b.leaveForeign (.closing name)
    else
      let inner := b.opened.takeWhile fun n =>
        (b.element n).language != .html && (b.element n).name != s
      match (b.opened.drop inner.length).head? with
      | some n =>
        if (b.element n).language == .html then r.rulesOf b.mode b (.closing name)
        else { b with opened := b.opened.drop (inner.length + 1) }.stay
      | none => b.stay

end Builder

end EndpointScout.Html
