import EndpointScout.Html.ReferenceTable
import EndpointScout.Text.Windows1252

/-! Character references in the values of attributes. -/
namespace EndpointScout.Html

def numbered (n : Nat) : Char :=
  if n == 0 || 0x10FFFF < n || (0xD800 ≤ n && n ≤ 0xDFFF) then Text.Utf8.replacement
  else Char.ofNat (Text.Windows1252.code n)

def afterSemicolon (t : Text) : Text :=
  match t with
  | ';' :: r => r
  | r => r

def numericReference? (t : Text) : Option (Text × Text) :=
  let read (p : Char → Bool) (base : Nat) (t : Text) : Option (Text × Text) :=
    let ds := t.takeWhile p
    if ds.isEmpty then none
    else
      let n := ds.foldl (fun n c => min 0x110000 (n * base + (Text.hexValue? c).getD 0)) 0
      some ([numbered n], afterSemicolon (t.dropWhile p))
  match t with
  | 'x' :: r => read Text.isHexDigit 16 r
  | 'X' :: r => read Text.isHexDigit 16 r
  | r => read Text.isDigit 10 r

/-- A reference by name after `&`: the longest name counts. Without a semicolon it is
text if an equals sign, a letter or a digit follows. -/
def namedReference? (t : Text) : Option (Text × Text) :=
  let longer (best : Option (Text × Text)) (e : Text × Text) : Option (Text × Text) :=
    match best with
    | none => some e
    | some b => if b.1.length < e.1.length then some e else some b
  match (namedReferences.filter fun e => e.1.isPrefixOf t).foldl longer none with
  | none => none
  | some (name, chars) =>
    let rest := t.drop name.length
    let goesOn := (rest.head?.map fun c => c == '=' || Text.isAlphanumeric c).getD false
    if name.getLast? != some ';' && goesOn then none else some (chars, rest)

def decodeGo : Nat → Text → Text
  | 0, t => t
  | fuel + 1, t =>
    match t with
    | [] => []
    | '&' :: r =>
      let found := match r with
        | '#' :: ds => numericReference? ds
        | c :: _ => if Text.isLetter c then namedReference? r else none
        | [] => none
      match found with
      | some (chars, rest) => chars ++ decodeGo fuel rest
      | none => '&' :: decodeGo fuel r
    | c :: r => (if c.toNat == 0 then Text.Utf8.replacement else c) :: decodeGo fuel r

def decodeReferences (t : Text) : Text := decodeGo (t.length + 1) t

end EndpointScout.Html
