import EndpointScout.Text.Basic

/-! Punycode: a text beyond ASCII written in letters, digits and hyphens. The
ASCII characters come first; the others are inserted in ascending order, each
by its distance from the last, in base 36 with thresholds that adapt. -/
namespace EndpointScout.Url.Punycode

def digit (d : Nat) : Char :=
  if d < 26 then Char.ofNat ('a'.toNat + d) else Char.ofNat ('0'.toNat + (d - 26))

def digitValue? (c : Char) : Option Nat :=
  if 'a' ≤ c && c ≤ 'z' then some (c.toNat - 'a'.toNat)
  else if 'A' ≤ c && c ≤ 'Z' then some (c.toNat - 'A'.toNat)
  else if Text.isDigit c then some (c.toNat - '0'.toNat + 26)
  else none

def threshold (k bias : Nat) : Nat :=
  if k ≤ bias then 1 else if k ≥ bias + 26 then 26 else k - bias

def adaptGo : Nat → Nat → Nat → Nat
  | 0, delta, k => k + 36 * delta / (delta + 38)
  | fuel + 1, delta, k =>
    if delta > 455 then adaptGo fuel (delta / 35) (k + 36) else k + 36 * delta / (delta + 38)

def adapt (delta points : Nat) (first : Bool) : Nat :=
  let delta := if first then delta / 700 else delta / 2
  adaptGo 16 (delta + delta / points) 0

def distanceGo (bias : Nat) : Nat → Nat → Nat → Text
  | 0, _, q => [digit q]
  | fuel + 1, k, q =>
    let t := threshold k bias
    if q < t then [digit q]
    else digit (t + (q - t) % (36 - t)) :: distanceGo bias fuel (k + 36) ((q - t) / (36 - t))

/-- What the next distance depends on: the positions passed since the last insertion,
the bias, and how many characters are written. -/
structure Writer where
  delta : Nat
  bias : Nat
  written : Nat

/-- One pass over the text for the code point `n`. A distance that needs more than 32
bits has no written form. -/
def writePass? (basic n : Nat) : Text → Writer → Option (Text × Writer)
  | [], w => some ([], w)
  | c :: t, w =>
    if c.toNat < n then writePass? basic n t ⟨w.delta + 1, w.bias, w.written⟩
    else if c.toNat = n then
      if w.delta < 0x100000000 then do
        let bias := adapt w.delta (w.written + 1) (w.written == basic)
        let (out, w') ← writePass? basic n t ⟨0, bias, w.written + 1⟩
        some (distanceGo w.bias 16 36 w.delta ++ out, w')
      else none
    else writePass? basic n t w

def nextCode? (n : Nat) (t : Text) : Option Nat := ((t.map Char.toNat).filter (n ≤ ·)).min?

def encodeGo? (t : Text) (basic : Nat) : Nat → Nat → Writer → Option Text
  | 0, _, _ => none
  | fuel + 1, n, w =>
    match nextCode? n t with
    | none => some []
    | some m => do
      let delta := w.delta + (m - n) * (w.written + 1)
      let (out, w) ← writePass? basic m t ⟨delta, w.bias, w.written⟩
      let rest ← encodeGo? t basic fuel (m + 1) ⟨w.delta + 1, w.bias, w.written⟩
      some (out ++ rest)

def encode? (t : Text) : Option Text := do
  let ascii := t.filter Text.isAscii
  let tail ← encodeGo? t ascii.length (t.length + 1) 128 ⟨0, 72, ascii.length⟩
  some (ascii ++ (if ascii.isEmpty then [] else ['-']) ++ tail)

def distance? (bias : Nat) : Nat → Nat → Nat → Text → Option (Nat × Text)
  | _, _, _, [] => none
  | k, weight, acc, c :: t => do
    let d ← digitValue? c
    let acc := acc + d * weight
    if acc ≥ 0x100000000 then none
    else
      let bound := threshold k bias
      if d < bound then some (acc, t)
      else distance? bias (k + 36) (weight * (36 - bound)) acc t

def decodeGo : Nat → Nat → Nat → Nat → Text → Text → Option Text
  | 0, _, _, _, _, _ => none
  | _ + 1, _, _, _, out, [] => some out
  | fuel + 1, n, i, bias, out, t => do
    let (d, rest) ← distance? bias 36 1 0 t
    let size := out.length + 1
    let index := i + d
    let n := n + index / size
    let place := index % size
    if n > 0x10FFFF || (0xD800 ≤ n && n ≤ 0xDFFF) then none
    else
      decodeGo fuel n (place + 1) (adapt d size (i == 0))
        (out.take place ++ Char.ofNat n :: out.drop place) rest

def parts (t : Text) : Text × Text :=
  let tail := (t.reverse.takeWhile (· != '-')).reverse
  if tail.length == t.length then ([], t)
  else (t.take (t.length - tail.length - 1), tail)

def decode? (t : Text) : Option Text :=
  let (ascii, tail) := parts t
  if ascii.all Text.isAscii then decodeGo (tail.length + 1) 128 0 72 ascii tail else none

end EndpointScout.Url.Punycode
