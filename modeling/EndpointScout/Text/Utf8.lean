import EndpointScout.Text.Basic

/-! UTF-8: writing, strict length and lossy reading. -/
namespace EndpointScout.Text.Utf8

abbrev Bytes := List UInt8

def width (c : Char) : Nat :=
  let n := c.toNat
  if n < 0x80 then 1 else if n < 0x800 then 2 else if n < 0x10000 then 3 else 4

def encodeChar (c : Char) : Bytes :=
  let n := c.toNat
  if n < 0x80 then [n.toUInt8]
  else if n < 0x800 then [(0xC0 + n / 64).toUInt8, (0x80 + n % 64).toUInt8]
  else if n < 0x10000 then
    [(0xE0 + n / 4096).toUInt8, (0x80 + n / 64 % 64).toUInt8, (0x80 + n % 64).toUInt8]
  else
    [(0xF0 + n / 262144).toUInt8, (0x80 + n / 4096 % 64).toUInt8,
      (0x80 + n / 64 % 64).toUInt8, (0x80 + n % 64).toUInt8]

def encode (t : Text) : Bytes := t.flatMap encodeChar

def length : Text → Nat
  | [] => 0
  | c :: t => width c + length t

def replacement : Char := Char.ofNat 0xFFFD

/-- What a leading byte announces: how many bytes follow, the bits it
contributes, and the bounds on the first byte that follows. -/
def lead (b : Nat) : Option (Nat × Nat × Nat × Nat) :=
  if 0xC2 ≤ b && b ≤ 0xDF then some (1, b - 0xC0, 0x80, 0xBF)
  else if b == 0xE0 then some (2, 0, 0xA0, 0xBF)
  else if b == 0xED then some (2, 0xD, 0x80, 0x9F)
  else if 0xE1 ≤ b && b ≤ 0xEF then some (2, b - 0xE0, 0x80, 0xBF)
  else if b == 0xF0 then some (3, 0, 0x90, 0xBF)
  else if b == 0xF4 then some (3, 4, 0x80, 0x8F)
  else if 0xF1 ≤ b && b ≤ 0xF3 then some (3, b - 0xF0, 0x80, 0xBF)
  else none

structure Pending where
  missing : Nat
  value : Nat
  low : Nat
  high : Nat

def begin (b : UInt8) : Text × Option Pending :=
  if b < 0x80 then ([Char.ofNat b.toNat], none)
  else match lead b.toNat with
    | some (missing, value, low, high) => ([], some ⟨missing, value, low, high⟩)
    | none => ([replacement], none)

/-- Each maximal broken start of a sequence becomes one replacement character. -/
def decodeGo : Option Pending → Bytes → Text
  | none, [] => []
  | some _, [] => [replacement]
  | none, b :: rest =>
    let (out, pending) := begin b
    out ++ decodeGo pending rest
  | some p, b :: rest =>
    if p.low ≤ b.toNat && b.toNat ≤ p.high then
      let value := p.value * 64 + b.toNat % 64
      if p.missing == 1 then Char.ofNat value :: decodeGo none rest
      else decodeGo (some ⟨p.missing - 1, value, 0x80, 0xBF⟩) rest
    else
      let (out, pending) := begin b
      replacement :: out ++ decodeGo pending rest

def decodeLossy (bytes : Bytes) : Text := decodeGo none bytes

def decode? (bytes : Bytes) : Option Text :=
  let t := decodeLossy bytes
  if encode t == bytes then some t else none

def takeBytes : Nat → Text → Text
  | _, [] => []
  | limit, c :: t =>
    if width c ≤ limit then c :: takeBytes (limit - width c) t else []

end EndpointScout.Text.Utf8
