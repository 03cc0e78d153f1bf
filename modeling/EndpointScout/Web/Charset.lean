import EndpointScout.Text.LetterCase
import EndpointScout.Text.Windows1252

/-! The character encodings of bodies: a byte order mark decides, then the label in the
content type. Labels that nothing decodes mean UTF-8. -/
namespace EndpointScout.Web

/-- The decoders of further encodings by their labels, in lower case. -/
class Decoders where
  decoder? : Text → Option (Text.Utf8.Bytes → Text)

inductive Charset where
  | utf8
  | utf16 (bigEndian : Bool)
  | windows1252
  | further (decoder : Text.Utf8.Bytes → Text)

namespace Charset

def utf8Labels : List String :=
  ["utf-8", "utf8", "unicode-1-1-utf-8", "unicode11utf8", "unicode20utf8", "x-unicode20utf8"]

def utf16Labels : List String :=
  ["utf-16", "utf-16le", "ucs-2", "unicode", "iso-10646-ucs-2", "csunicode", "unicodefeff"]

def utf16BigLabels : List String := ["utf-16be", "unicodefffe"]

def westernLabels : List String :=
  ["windows-1252", "iso-8859-1", "iso8859-1", "iso_8859-1", "iso_8859-1:1987", "iso88591",
    "iso-ir-100", "latin1", "l1", "ascii", "us-ascii", "ansi_x3.4-1968", "cp1252", "x-cp1252",
    "cp819", "ibm819", "csisolatin1"]

def ofLabel [Decoders] (label : Text) : Charset :=
  let label := Text.asciiLower (Text.trimWhile (· == ' ') label)
  let s := String.ofList label
  if utf8Labels.contains s then utf8
  else if utf16Labels.contains s then utf16 false
  else if utf16BigLabels.contains s then utf16 true
  else if westernLabels.contains s then windows1252
  else ((Decoders.decoder? label).map further).getD utf8

def label? (contentType : Text) : Option Text :=
  (Text.splitAt ';' contentType).tail.findSome? fun parameter =>
    match Text.cutAt? '=' parameter with
    | some (name, value) =>
      if Text.asciiLower (Text.trimWhile (· == ' ') name) == "charset".toList then
        some (Text.trimWhile (fun c => c == ' ' || c == '"') value)
      else none
    | none => none

def units (bigEndian : Bool) : Text.Utf8.Bytes → List Nat
  | [] => []
  | [_] => [0xD800]
  | a :: b :: rest =>
    (if bigEndian then a.toNat * 256 + b.toNat else b.toNat * 256 + a.toNat) ::
      units bigEndian rest

def ofUnits : List Nat → Text
  | [] => []
  | [n] => [if 0xD800 ≤ n && n ≤ 0xDFFF then Text.Utf8.replacement else Char.ofNat n]
  | n :: m :: rest =>
    if 0xD800 ≤ n && n < 0xDC00 then
      if 0xDC00 ≤ m && m < 0xE000 then
        Char.ofNat (0x10000 + (n - 0xD800) * 1024 + (m - 0xDC00)) :: ofUnits rest
      else Text.Utf8.replacement :: ofUnits (m :: rest)
    else
      (if 0xDC00 ≤ n && n < 0xE000 then Text.Utf8.replacement else Char.ofNat n) ::
        ofUnits (m :: rest)

def decode (charset : Charset) (bytes : Text.Utf8.Bytes) : Text :=
  match bytes with
  | 0xEF :: 0xBB :: 0xBF :: rest => Text.Utf8.decodeLossy rest
  | 0xFF :: 0xFE :: rest => ofUnits (units false rest)
  | 0xFE :: 0xFF :: rest => ofUnits (units true rest)
  | bytes =>
    match charset with
    | utf8 => Text.Utf8.decodeLossy bytes
    | utf16 bigEndian => ofUnits (units bigEndian bytes)
    | windows1252 => Text.Windows1252.decode bytes
    | further decoder => decoder bytes

end Charset

end EndpointScout.Web
