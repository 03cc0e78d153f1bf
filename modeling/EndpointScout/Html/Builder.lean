import EndpointScout.Html.Document

/-! The state in which a document is built: open elements, formatting that goes on in
later blocks, and what may stand next. -/
namespace EndpointScout.Html

inductive Mode where
  | beforeHead
  | inHead
  | afterHead
  | inBody
  | inTable
  | inCaption
  | inColumns
  | inSection
  | inRow
  | inCell
  | inSelect
  | inTableSelect
  | inTemplate
  | afterBody
  | inFrameset
  | afterFrameset
deriving Repr, DecidableEq

structure Builder where
  document : Document
  /-- Innermost first. -/
  opened : List Nat
  /-- Last first; nothing marks the border of a cell or an object. -/
  formatting : List (Option Nat)
  mode : Mode
  templates : List Mode
  framesAllowed : Bool
  fosters : Bool
  form : Bool
  head : Option Nat

namespace Builder

def start : Builder :=
  ⟨⟨#[⟨"html", .html, [], none, []⟩]⟩, [0], [], .beforeHead, [], true, false, false, none⟩

def element (b : Builder) (n : Nat) : Element := b.document.element n

def current (b : Builder) : Element := b.element (b.opened.headD 0)

def pop (b : Builder) : Builder := { b with opened := b.opened.tail }

def withMode (b : Builder) (m : Mode) : Builder := { b with mode := m }

def withoutFrames (b : Builder) : Builder := { b with framesAllowed := false }

def hasOpenGo (b : Builder) (stops found : Element → Bool) : List Nat → Bool
  | [] => false
  | n :: ns =>
    let e := b.element n
    if found e then true else if stops e then false else b.hasOpenGo stops found ns

def scopeNames : List String :=
  ["applet", "caption", "html", "table", "td", "th", "marquee", "object", "template"]

def endsScope (e : Element) : Bool :=
  e.isHtmlOf scopeNames || (e.language != .html && e.isSpecial)

def hasInScope (b : Builder) (names : List String) : Bool :=
  b.hasOpenGo endsScope (·.isHtmlOf names) b.opened

def hasInButtonScope (b : Builder) (names : List String) : Bool :=
  b.hasOpenGo (fun e => endsScope e || e.isHtml "button") (·.isHtmlOf names) b.opened

def hasInListScope (b : Builder) (names : List String) : Bool :=
  b.hasOpenGo (fun e => endsScope e || e.isHtmlOf ["ol", "ul"]) (·.isHtmlOf names) b.opened

def hasInTableScope (b : Builder) (names : List String) : Bool :=
  b.hasOpenGo (·.isHtmlOf ["html", "table", "template"]) (·.isHtmlOf names) b.opened

def hasInSelectScope (b : Builder) (names : List String) : Bool :=
  b.hasOpenGo (fun e => !e.isHtmlOf ["optgroup", "option"]) (·.isHtmlOf names) b.opened

def hasOpen (b : Builder) (name : String) : Bool :=
  b.hasOpenGo (fun _ => false) (·.isHtml name) b.opened

def popThrough (b : Builder) (found : Element → Bool) : Builder :=
  { b with opened := (b.opened.dropWhile fun n => !found (b.element n)).tail }

def clearTo (b : Builder) (names : List String) : Builder :=
  { b with opened := b.opened.dropWhile fun n => !(b.element n).isHtmlOf names }

def impliedNames : List String :=
  ["dd", "dt", "li", "optgroup", "option", "p", "rb", "rp", "rt", "rtc"]

def closeImplied (b : Builder) (except : List String) : Builder :=
  { b with opened := b.opened.dropWhile fun n =>
      (b.element n).isHtmlOf impliedNames && !except.contains (b.element n).name }

def closeAllImplied (b : Builder) : Builder :=
  let names := impliedNames ++ ["caption", "colgroup", "tbody", "td", "tfoot", "th", "thead", "tr"]
  { b with opened := b.opened.dropWhile fun n => (b.element n).isHtmlOf names }

def closeParagraph (b : Builder) : Builder :=
  if b.hasInButtonScope ["p"] then (b.closeImplied ["p"]).popThrough (·.isHtml "p") else b

def placeIn (b : Builder) (target : Nat) : Document.Place :=
  if b.fosters && (b.element target).isHtmlOf ["table", "tbody", "tfoot", "thead", "tr"] then
    let isEither (n : Nat) : Bool := (b.element n).isHtmlOf ["table", "template"]
    match b.opened.dropWhile fun n => !isEither n with
    | [] => .last 0
    | n :: below =>
      if (b.element n).isHtml "template" then .last n
      else match (b.element n).parent with
        | some p => .before p n
        | none => .last (below.headD 0)
  else .last target

def insertAs (b : Builder) (language : Language) (name : String) (attributes : Attributes) :
    Builder :=
  let n := b.document.size
  let place := b.placeIn (b.opened.headD 0)
  { b with
    document := (b.document.push language name attributes).place n place
    opened := n :: b.opened }

def insert (b : Builder) (name : String) (attributes : Attributes) : Builder :=
  b.insertAs .html name attributes

def insertEmpty (b : Builder) (name : String) (attributes : Attributes) : Builder :=
  (b.insert name attributes).pop

def mark (b : Builder) : Builder := { b with formatting := none :: b.formatting }

def clearToMark (b : Builder) : Builder :=
  { b with formatting := (b.formatting.dropWhile (·.isSome)).tail }

def limited (b : Builder) (e : Element) (fs : List (Option Nat)) : List (Option Nat) :=
  let recent := fs.takeWhile (·.isSome)
  let isSame (f : Option Nat) : Bool :=
    (f.map fun n => (b.element n).name == e.name && (b.element n).language == e.language &&
      (b.element n).attributes.all e.attributes.contains &&
      e.attributes.all (b.element n).attributes.contains).getD false
  if (recent.filter isSame).length < 3 then fs
  else
    match (recent.filter isSame).getLast? with
    | some oldest => recent.filter (· != oldest) ++ fs.dropWhile (·.isSome)
    | none => fs

def insertFormatting (b : Builder) (name : String) (attributes : Attributes) : Builder :=
  let b := b.insert name attributes
  { b with formatting := b.opened.head? :: b.limited b.current b.formatting }

def reopen (b : Builder) : List Nat → Builder
  | [] => b
  | n :: ns =>
    let b := b.reopen ns
    let e := b.element n
    let b := b.insert e.name e.attributes
    { b with formatting := b.formatting.map fun f => if f = some n then b.opened.head? else f }

def reconstruct (b : Builder) : Builder :=
  let pending := b.formatting.takeWhile fun f => (f.map fun n => !b.opened.contains n).getD false
  b.reopen (pending.filterMap id)

def removeFormatting (b : Builder) (n : Nat) : Builder :=
  { b with formatting := b.formatting.filter (· != some n) }

/-- Walks outward from the block that formatting must be split around: the formatting on
the way is copied around `last`, what has been gathered so far. The second result is the
first copy, next to which the outermost one is listed. -/
def splitGo (formatting block : Nat) :
    Nat → List Nat → Nat → Option Nat → Builder → Nat × Option Nat × Builder
  | _, [], last, first, b => (last, first, b)
  | index, n :: outward, last, first, b =>
    if n = formatting then (last, first, b)
    else
      let b := if index > 3 then b.removeFormatting n else b
      if !b.formatting.contains (some n) then
        splitGo formatting block (index + 1) outward last first
          { b with opened := b.opened.filter (· != n) }
      else
        let m := b.document.size
        let e := b.element n
        let d := b.document.push e.language e.name e.attributes
        let b : Builder :=
          { b with
            document := (d.detach last).place last (.last m)
            formatting := b.formatting.map fun f => if f = some n then some m else f
            opened := b.opened.map fun k => if k = n then m else k }
        splitGo formatting block (index + 1) outward m (if last = block then some m else first) b

def moveFormatting (b : Builder) (old new : Nat) (bookmark : Option Nat) : Builder :=
  match bookmark with
  | none => { b with formatting := b.formatting.map fun f => if f = some old then some new else f }
  | some mark =>
    let rest := b.formatting.filter (· != some old)
    { b with formatting := rest.flatMap fun f => if f = some mark then [some new, f] else [f] }

def adoptChildren (d : Document) (source target : Nat) : Document :=
  let cs := (d.element source).children
  let d := d.change source fun e => { e with children := [] }
  let d := cs.foldl (fun d c => d.change c fun e => { e with parent := some target }) d
  d.change target fun e => { e with children := cs }

inductive Round where
  | again (b : Builder)
  | done (b : Builder)
  | unlisted

def adoptOnce (b : Builder) (name : String) : Round :=
  let recent := (b.formatting.takeWhile (·.isSome)).filterMap id
  match recent.find? fun n => (b.element n).name == name with
  | none => .unlisted
  | some formatting =>
    let inner := b.opened.takeWhile (· != formatting)
    let outer := (b.opened.dropWhile (· != formatting)).tail
    if !b.opened.contains formatting then .done (b.removeFormatting formatting)
    else if inner.any fun n => endsScope (b.element n) then .done b
    else
      match inner.reverse.find? fun n => (b.element n).isSpecial with
      | none => .done { b.removeFormatting formatting with opened := outer }
      | some block =>
        let outward := (b.opened.dropWhile (· != block)).tail
        let (last, first, b) := splitGo formatting block 1 outward block none b
        let place := b.placeIn (outer.headD 0)
        let d := (b.document.detach last).place last place
        let m := d.size
        let e := b.element formatting
        let d := d.push e.language e.name e.attributes
        let d := (adoptChildren d block m).place m (.last block)
        let b := { b with document := d }.moveFormatting formatting m first
        let opened := b.opened.filter (· != formatting)
        .again { b with opened := opened.flatMap fun k => if k = block then [m, k] else [k] }

def resetGo (b : Builder) : List Nat → Mode
  | [] => .inBody
  | n :: outer =>
    match (b.element n).language, (b.element n).name with
    | .html, "select" =>
      let inTable := b.hasOpenGo (·.isHtml "template") (·.isHtml "table") outer
      if inTable then .inTableSelect else .inSelect
    | .html, "td" => if outer.isEmpty then .inBody else .inCell
    | .html, "th" => if outer.isEmpty then .inBody else .inCell
    | .html, "tr" => .inRow
    | .html, "tbody" => .inSection
    | .html, "thead" => .inSection
    | .html, "tfoot" => .inSection
    | .html, "caption" => .inCaption
    | .html, "colgroup" => .inColumns
    | .html, "table" => .inTable
    | .html, "template" => b.templates.headD .inBody
    | .html, "head" => .inHead
    | .html, "body" => .inBody
    | .html, "frameset" => .inFrameset
    | .html, "html" => if b.head.isSome then .afterHead else .beforeHead
    | _, _ => b.resetGo outer

def reset (b : Builder) : Builder := b.withMode (b.resetGo b.opened)

end Builder

end EndpointScout.Html
