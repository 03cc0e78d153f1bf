import EndpointScout.Text.Basic

/-! References in XML text: the five names and numbered characters. -/
namespace EndpointScout.Xml

def numbered? (n : Nat) : Option Char :=
  if n == 0 || 0x10FFFF < n || (0xD800 ≤ n && n ≤ 0xDFFF) then none else some (Char.ofNat n)

def digits? (base : Nat) (t : Text) : Option Nat :=
  if t.isEmpty then none
  else
    (t.mapM fun c => (Text.hexValue? c).bind fun v => if v < base then some v else none).map
      fun vs => vs.foldl (fun n v => n * base + v) 0

def referent? (name : Text) : Option Char :=
  match name with
  | '#' :: 'x' :: ds => (digits? 16 ds).bind numbered?
  | '#' :: ds => (digits? 10 ds).bind numbered?
  | _ =>
    match String.ofList name with
    | "lt" => some '<'
    | "gt" => some '>'
    | "amp" => some '&'
    | "apos" => some '\''
    | "quot" => some '"'
    | _ => none

/-- The text with all references replaced; `pending` is the name being read, last
character first. -/
def unescapeGo : Option Text → Text → Option Text
  | none, [] => some []
  | some _, [] => none
  | none, '&' :: t => unescapeGo (some []) t
  | none, c :: t => (unescapeGo none t).map (c :: ·)
  | some _, '&' :: _ => none
  | some name, ';' :: t => do
    let c ← referent? name.reverse
    let rest ← unescapeGo none t
    pure (c :: rest)
  | some name, c :: t => unescapeGo (some (c :: name)) t

def unescape? (t : Text) : Option Text := unescapeGo none t

end EndpointScout.Xml
