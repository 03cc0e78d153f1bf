import EndpointScout.Script.Syntax

/-! Escape sequences of string literals. -/
namespace EndpointScout.Script

def codePoint? (t : Text) : Option Nat :=
  let ds := (Text.dropPrefix? t ['+']).getD t
  if ds.isEmpty then none
  else (ds.mapM Text.hexValue?).map fun vs => vs.foldl (fun n v => n * 16 + v) 0

def charOf? (n : Nat) : Option Char :=
  if n < 0xD800 || (0xDFFF < n && n < 0x110000) then some (Char.ofNat n) else none

/-- What an escape sequence stands for. -/
def decodeEscape : Text → Text
  | '\\' :: marker :: rest =>
    match marker with
    | 'n' => ['\n']
    | 't' => ['\t']
    | 'r' => ['\r']
    | 'b' => [Char.ofNat 8]
    | 'f' => [Char.ofNat 12]
    | 'v' => [Char.ofNat 11]
    | 'x' => codeText rest
    | 'u' => codeText rest
    | m =>
      if m == '0' && rest.isEmpty then [Char.ofNat 0]
      else if m == '\n' || m == '\r' || m.toNat == 0x2028 || m.toNat == 0x2029 then []
      else m :: rest
  | ['\\'] => []
  | t => t
where
  codeText (rest : Text) : Text :=
    let digits := Text.dropEndWhile (· == '\x7d') (rest.dropWhile (· == '\x7b'))
    ((codePoint? digits).bind charOf?).toList

def Syntax.pieceText (s : Syntax) : Text :=
  if s.kind == "escape_sequence" then decodeEscape s.text else s.text

/-- The value of a string literal. -/
def Syntax.stringText (s : Syntax) : Text := s.parts.flatMap pieceText

end EndpointScout.Script
