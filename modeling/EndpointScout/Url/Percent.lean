import EndpointScout.Text.Utf8

/-! Percent-encoding: which characters each part of a URL writes as bytes. -/
namespace EndpointScout.Url

def isControl (c : Char) : Bool := c.toNat < 0x20 || c.toNat ≥ 0x7F

def encodedInFragment (c : Char) : Bool :=
  isControl c || c == ' ' || c == '"' || c == '<' || c == '>' || c == '\x60'

def encodedInPath (c : Char) : Bool :=
  encodedInFragment c || c == '#' || c == '?' || c == '\x7b' || c == '\x7d'

def encodedInUserinfo (c : Char) : Bool :=
  encodedInPath c || "/:;=@[\\]^|".toList.contains c

def encodedInQuery (special : Bool) (c : Char) : Bool :=
  isControl c || c == ' ' || c == '"' || c == '#' || c == '<' || c == '>' ||
    (special && c == '\'')

def percentByte (b : UInt8) : Text := '%' :: Text.hexPadded true 2 b.toNat

def percentChar (encoded : Char → Bool) (c : Char) : Text :=
  if encoded c then (Text.Utf8.encodeChar c).flatMap percentByte else [c]

def percentEncode (encoded : Char → Bool) (t : Text) : Text := t.flatMap (percentChar encoded)

def percentDecode : Text → Text.Utf8.Bytes
  | [] => []
  | '%' :: a :: b :: t =>
    match Text.hexValue? a, Text.hexValue? b with
    | some x, some y => (x * 16 + y).toUInt8 :: percentDecode t
    | _, _ => Text.Utf8.encodeChar '%' ++ percentDecode (a :: b :: t)
  | c :: t => Text.Utf8.encodeChar c ++ percentDecode t

end EndpointScout.Url
