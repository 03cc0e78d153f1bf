import EndpointScout.Html.Token

/-! Documents as trees of elements that are known by number. -/
namespace EndpointScout.Html

inductive Language where
  | html
  | svg
  | math
deriving Repr, DecidableEq

structure Element where
  name : String
  language : Language
  attributes : Attributes
  parent : Option Nat
  /-- Last first. -/
  children : List Nat
deriving Repr

namespace Element

def isHtml (e : Element) (name : String) : Bool := e.language == .html && e.name == name

def isHtmlOf (e : Element) (names : List String) : Bool :=
  e.language == .html && names.contains e.name

def isTextPoint (e : Element) : Bool :=
  e.language == .math && ["mi", "mo", "mn", "ms", "mtext"].contains e.name

def isMarkupPoint (e : Element) : Bool :=
  (e.language == .svg && ["foreignobject", "desc", "title"].contains e.name) ||
    (e.language == .math && e.name == "annotation-xml" &&
      e.attributes.any fun a => a.1 == "encoding".toList &&
        ["text/html", "application/xhtml+xml"].any fun s => s.toList == Text.asciiLower a.2)

def isSpecial (e : Element) : Bool :=
  match e.language with
  | .html =>
    ["address", "applet", "area", "article", "aside", "base", "basefont", "bgsound",
      "blockquote", "body", "br", "button", "caption", "center", "col", "colgroup", "dd",
      "details", "dir", "div", "dl", "dt", "embed", "fieldset", "figcaption", "figure",
      "footer", "form", "frame", "frameset", "h1", "h2", "h3", "h4", "h5", "h6", "head",
      "header", "hgroup", "hr", "html", "iframe", "img", "input", "isindex", "li", "link",
      "listing", "main", "marquee", "menu", "meta", "nav", "noembed", "noframes", "noscript",
      "object", "ol", "p", "param", "plaintext", "pre", "script", "section", "select", "source",
      "style", "summary", "table", "tbody", "td", "template", "textarea", "tfoot", "th", "thead",
      "title", "tr", "track", "ul", "wbr", "xmp"].contains e.name
  | .svg => e.isMarkupPoint
  | .math => e.isTextPoint || e.name == "annotation-xml"

end Element

/-- The elements by their numbers. -/
structure Document where
  elements : Array Element

namespace Document

def element (d : Document) (n : Nat) : Element := d.elements.getD n ⟨"", .html, [], none, []⟩

def size (d : Document) : Nat := d.elements.size

def push (d : Document) (language : Language) (name : String) (attributes : Attributes) :
    Document :=
  ⟨d.elements.push ⟨name, language, attributes, none, []⟩⟩

def change (d : Document) (n : Nat) (f : Element → Element) : Document :=
  ⟨d.elements.setIfInBounds n (f (d.element n))⟩

def detach (d : Document) (n : Nat) : Document :=
  match (d.element n).parent with
  | some p =>
    (d.change p fun e => { e with children := e.children.filter (· != n) }).change n
      fun e => { e with parent := none }
  | none => d

inductive Place where
  | last (parent : Nat)
  | before (parent sibling : Nat)

def insertAfter (sibling n : Nat) : List Nat → List Nat
  | [] => [n]
  | c :: cs => if c = sibling then c :: n :: cs else c :: insertAfter sibling n cs

def place (d : Document) (n : Nat) : Place → Document
  | .last p =>
    (d.change p fun e => { e with children := n :: e.children }).change n
      fun e => { e with parent := some p }
  | .before p s =>
    (d.change p fun e => { e with children := insertAfter s n e.children }).change n
      fun e => { e with parent := some p }

/-- Elements in the order of the document, at most `fuel` of them, from a list of
elements that are visited in turn. -/
def orderGo (d : Document) : Nat → List Nat → List Element
  | 0, _ => []
  | _ + 1, [] => []
  | fuel + 1, n :: ns =>
    let e := d.element n
    e :: orderGo d fuel (e.children.foldl (fun rest c => c :: rest) ns)

def order (d : Document) : List Element := orderGo d (d.size + 1) [0]

end Document

end EndpointScout.Html
