import EndpointScout.Text.Basic

/-! XML as a sequence of events, up to the end or to the first place where it is
malformed. White space around text is dropped. -/
namespace EndpointScout.Xml

inductive Event where
  | opening (name : Text)
  | closing (name : Text)
  | text (raw : Text)
  | data (raw : Text)
  /-- Empty elements, comments, declarations and instructions. -/
  | other
deriving Repr, DecidableEq

def isSpace (c : Char) : Bool := c == ' ' || c == '\r' || c == '\n' || c == '\t'

def localName (name : Text) : Text :=
  match Text.cutAt? ':' name with
  | some (_, rest) => rest
  | none => name

def cutAtText? (ending : Text) : Text → Option (Text × Text)
  | [] => none
  | c :: t => match Text.dropPrefix? (c :: t) ending with
    | some r => some ([], r)
    | none => (cutAtText? ending t).map fun p => (c :: p.1, p.2)

def tagBody? : Option Char → Text → Option (Text × Text)
  | _, [] => none
  | none, '>' :: t => some ([], t)
  | none, c :: t =>
    (tagBody? (if c == '"' || c == '\'' then some c else none) t).map fun p => (c :: p.1, p.2)
  | some q, c :: t =>
    (tagBody? (if c == q then none else some q) t).map fun p => (c :: p.1, p.2)

def afterDocumentType? : Nat → Text → Option Text
  | _, [] => none
  | depth, '<' :: t => afterDocumentType? (depth + 1) t
  | 0, '>' :: t => some t
  | depth + 1, '>' :: t => afterDocumentType? depth t
  | depth, _ :: t => afterDocumentType? depth t

/-- The text still to be read, and the names of the open elements, innermost first. -/
structure Reader where
  rest : Text
  opened : List Text

def declaration? (r : Reader) (t : Text) : Option (Event × Reader) :=
  let isNamed (name : String) : Bool := (t.take 7).map Char.toUpper == name.toList
  match t with
  | '-' :: '-' :: t => (cutAtText? "-->".toList t).map fun p => (.other, { r with rest := p.2 })
  | '[' :: _ =>
    if isNamed "[CDATA[" then
      (cutAtText? "]]>".toList (t.drop 7)).map fun p => (.data p.1, { r with rest := p.2 })
    else none
  | _ =>
    if isNamed "DOCTYPE" && ((t.drop 7).dropWhile isSpace).head? != some '>' then
      (afterDocumentType? 0 (t.drop 7)).map fun rest => (.other, { r with rest })
    else none

def closing? (r : Reader) (t : Text) : Option (Event × Reader) :=
  match tagBody? none t, r.opened with
  | some (body, rest), name :: opened =>
    if Text.dropEndWhile isSpace body == name then some (.closing name, ⟨rest, opened⟩) else none
  | _, _ => none

def opening? (r : Reader) (t : Text) : Option (Event × Reader) :=
  (tagBody? none t).map fun (body, rest) =>
    if body.getLast? == some '/' then (.other, { r with rest })
    else
      let name := body.takeWhile fun c => !isSpace c
      (.opening name, ⟨rest, name :: r.opened⟩)

/-- The next event; nothing at the end or where the text is malformed. -/
def next? (r : Reader) : Option (Event × Reader) :=
  match r.rest.dropWhile isSpace with
  | [] => none
  | '<' :: '!' :: t => declaration? r t
  | '<' :: '/' :: t => closing? r t
  | '<' :: '?' :: '>' :: _ => none
  | '<' :: '?' :: t => (cutAtText? "?>".toList t).map fun p => (.other, { r with rest := p.2 })
  | '<' :: [] => none
  | '<' :: t => opening? r t
  | t =>
    some (.text (Text.dropEndWhile isSpace (t.takeWhile (· != '<'))),
      { r with rest := t.dropWhile (· != '<') })

def eventsGo : Nat → Reader → List Event
  | 0, _ => []
  | fuel + 1, r =>
    match next? r with
    | some (e, r) => e :: eventsGo fuel r
    | none => []

def events (t : Text) : List Event :=
  let t := match t with
    | c :: r => if c.toNat == 0xFEFF then r else c :: r
    | [] => []
  eventsGo (t.length + 1) ⟨t, []⟩

end EndpointScout.Xml
