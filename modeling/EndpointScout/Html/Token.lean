import EndpointScout.Html.Reference
import EndpointScout.Text.LetterCase

/-! Markup as a sequence of tags and text. -/
namespace EndpointScout.Html

abbrev Attributes := List (Text × Text)

/-- Comments and document types are left out, and of text only whether it is blank. -/
inductive Token where
  | opening (name : Text) (attributes : Attributes) (closesItself : Bool)
  | closing (name : Text)
  | text (blank : Bool)
deriving Repr, DecidableEq

namespace Token

def isSpace (c : Char) : Bool := c == ' ' || c == '\t' || c == '\n' || c == '\x0c'

def normalizeLines : Text → Text
  | '\r' :: '\n' :: t => '\n' :: normalizeLines t
  | '\r' :: t => '\n' :: normalizeLines t
  | c :: t => c :: normalizeLines t
  | [] => []

def nameChar (c : Char) : Char :=
  if c.toNat == 0 then Text.Utf8.replacement else Text.asciiLowerChar c

def after (ending : Text) : Text → Text
  | [] => []
  | c :: t => match Text.dropPrefix? (c :: t) ending with
    | some r => r
    | none => after ending t

def afterComment (t : Text) : Text :=
  match t with
  | '>' :: r => r
  | '-' :: '>' :: r => r
  | t => go t
where
  go : Text → Text
    | '-' :: '-' :: '>' :: r => r
    | '-' :: '-' :: '!' :: '>' :: r => r
    | _ :: r => go r
    | [] => []

def value? (t : Text) : Option (Text × Text) :=
  let quoted (quote : Char) (r : Text) : Option (Text × Text) :=
    match r.dropWhile (· != quote) with
    | _ :: rest => some (decodeReferences (r.takeWhile (· != quote)), rest)
    | [] => none
  match t.dropWhile isSpace with
  | [] => none
  | '"' :: r => quoted '"' r
  | '\'' :: r => quoted '\'' r
  | '>' :: r => some ([], '>' :: r)
  | r =>
    let inside (c : Char) : Bool := !(isSpace c || c == '>')
    some (decodeReferences (r.takeWhile inside), r.dropWhile inside)

def addAttribute (found : Attributes) (name value : Text) : Attributes :=
  if found.any fun a => a.1 == name then found else found ++ [(name, value)]

def attributesGo : Nat → Attributes → Text → Option (Attributes × Bool × Text)
  | 0, _, _ => none
  | fuel + 1, found, t =>
    match t.dropWhile isSpace with
    | [] => none
    | '>' :: r => some (found, false, r)
    | '/' :: '>' :: r => some (found, true, r)
    | '/' :: r => attributesGo fuel found r
    | c :: r =>
      let inside (c : Char) : Bool := !(isSpace c || c == '/' || c == '>' || c == '=')
      let name := (c :: r.takeWhile inside).map nameChar
      let rest := r.dropWhile inside
      match rest.dropWhile isSpace with
      | '=' :: v =>
        match value? v with
        | some (value, rest) => attributesGo fuel (addAttribute found name value) rest
        | none => none
      | rest => attributesGo fuel (addAttribute found name []) rest

def tag? (size : Nat) (t : Text) : Option (Text × Attributes × Bool × Text) :=
  let inside (c : Char) : Bool := !(isSpace c || c == '/' || c == '>')
  (attributesGo size [] (t.dropWhile inside)).map fun p => ((t.takeWhile inside).map nameChar, p)

def afterDeclaration? (sections : Bool) (t : Text) : Option Text :=
  match t with
  | '<' :: '!' :: '-' :: '-' :: r => some (afterComment r)
  | '<' :: '!' :: r =>
    match Text.dropPrefix? r "[CDATA[".toList with
    | some body => some (if sections then after "]]>".toList body else after ['>'] r)
    | none => some (after ['>'] r)
  | '<' :: '?' :: r => some (after ['>'] r)
  | '<' :: '/' :: '>' :: r => some r
  | '<' :: '/' :: c :: r => if Text.isLetter c then none else some (after ['>'] (c :: r))
  | _ => none

/-- The next token and what follows it; the first argument is more than the length of the
text. -/
def next? (sections : Bool) : Nat → Text → Option (Token × Text)
  | 0, _ => none
  | size + 1, t =>
    match afterDeclaration? sections t with
    | some r => next? sections size r
    | none =>
      match t with
      | [] => none
      | '<' :: '/' :: c :: r =>
        (tag? size (c :: r)).map fun (name, _, _, rest) => (.closing name, rest)
      | '<' :: c :: r =>
        if Text.isLetter c then
          (tag? size (c :: r)).map fun (name, attributes, closed, rest) =>
            (.opening name attributes closed, rest)
        else some (.text false, c :: r)
      | c :: r =>
        if c.toNat == 0 then next? sections size r
        else if isSpace c then some (.text true, r.dropWhile isSpace)
        else some (.text false, r.dropWhile fun c => c != '<')

def afterEndTag? (size : Nat) (name t : Text) : Option Text :=
  match t with
  | '<' :: '/' :: r =>
    if (r.take name.length).map Text.asciiLowerChar == name then
      let rest := r.drop name.length
      match rest with
      | [] => none
      | c :: _ =>
        if isSpace c || c == '/' || c == '>' then
          some (((attributesGo size [] rest).map (·.2.2)).getD [])
        else none
    else none
  | _ => none

def afterRawText (size : Nat) (name : Text) : Text → Text
  | [] => []
  | c :: t => (afterEndTag? size name (c :: t)).getD (afterRawText size name t)

/-- How much of a script is shielded: nothing, by a comment mark, or by a script tag
inside one. -/
inductive Shield where
  | none
  | comment
  | script

def isScriptTag (ends : Bool) (t : Text) : Bool :=
  match Text.dropPrefix? t (if ends then ['<', '/'] else ['<']) with
  | some r =>
    (r.take 6).map Text.asciiLowerChar == "script".toList &&
      ((r.drop 6).head?.map fun c => isSpace c || c == '/' || c == '>').getD false
  | Option.none => false

def afterScript (size : Nat) (shield : Shield) : Text → Text
  | [] => []
  | c :: t =>
    match shield with
    | .none =>
      match afterEndTag? size "script".toList (c :: t) with
      | some r => r
      | Option.none =>
        if Text.startsWith (c :: t) "<!--".toList then afterScript size (opened t) t
        else afterScript size .none t
    | .comment =>
      match afterEndTag? size "script".toList (c :: t) with
      | some r => r
      | Option.none =>
        if Text.startsWith (c :: t) "-->".toList then afterScript size .none t
        else if isScriptTag false (c :: t) then afterScript size .script t
        else afterScript size .comment t
    | .script =>
      if Text.startsWith (c :: t) "-->".toList then afterScript size .none t
      else if isScriptTag true (c :: t) then afterScript size .comment t
      else afterScript size .script t
where
  opened (t : Text) : Shield :=
    if Text.startsWith t "!-->".toList || Text.startsWith t "!--->".toList then .none
    else .comment

end Token

end EndpointScout.Html
