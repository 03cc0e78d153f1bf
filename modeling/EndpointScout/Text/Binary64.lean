import EndpointScout.Text.Basic

/-! Binary floating point of 64 bits: reading decimal text with correct
rounding and writing the shortest decimal that reads back. -/
namespace EndpointScout

/-- A 64-bit binary floating-point datum, known by its bit pattern. -/
structure Binary64 where
  bits : UInt64
deriving Repr, DecidableEq

namespace Binary64

def unit : Nat := 0x10000000000000

def signBit : Nat := 0x8000000000000000

def infinity : Nat := 2047 * unit

def exponentField (x : Binary64) : Nat := x.bits.toNat / unit % 2048
def fractionField (x : Binary64) : Nat := x.bits.toNat % unit
def isNegative (x : Binary64) : Bool := x.bits.toNat ≥ signBit
def isFinite (x : Binary64) : Bool := x.exponentField != 2047

def notANumber : Binary64 := ⟨0x7FF8000000000000⟩

def roundDiv (num den : Nat) : Nat :=
  let q := num / den
  let r := num % den
  if 2 * r > den || (2 * r == den && q % 2 == 1) then q + 1 else q

def scaled (num den : Nat) (e : Int) : Nat :=
  if e ≥ 0 then roundDiv num (den <<< e.toNat) else roundDiv (num <<< (-e).toNat) den

def magnitude (num den : Nat) : Nat :=
  if num == 0 then 0 else
    let guess : Int := (num.log2 : Int) - (den.log2 : Int) - 52
    let e := if num <<< (-guess).toNat < (den <<< guess.toNat) * unit then guess - 1 else guess
    let e := max e (-1074)
    let m := scaled num den e
    let (m, e) := if m == 2 * unit then (unit, e + 1) else (m, e)
    if m < unit then m
    else if e + 1075 ≥ 2047 then infinity
    else (e + 1075).toNat * unit + (m - unit)

def powerOfTen (n : Nat) : Nat := Nat.pow 10 n

def ofDecimal (negative : Bool) (digits : Nat) (exponent : Int) : Binary64 :=
  let size : Int := (Text.ofNat digits).length + exponent
  let m :=
    if digits == 0 || size < -330 then 0
    else if size > 310 then infinity
    else if exponent ≥ 0 then magnitude (digits * powerOfTen exponent.toNat) 1
    else magnitude digits (powerOfTen (-exponent).toNat)
  ⟨((if negative then signBit else 0) + m).toUInt64⟩

def exponentText? (t : Text) : Option Int :=
  match t with
  | '+' :: ds => (Text.toNat? ds).map Int.ofNat
  | '-' :: ds => (Text.toNat? ds).map fun n => -Int.ofNat n
  | ds => (Text.toNat? ds).map Int.ofNat

/-- Reads unsigned decimal text: digits around an optional point, at least one of
them, and an optional exponent. -/
def ofText? (t : Text) : Option Binary64 :=
  let whole := t.takeWhile Text.isDigit
  let rest := t.dropWhile Text.isDigit
  let (part, rest) := match rest with
    | '.' :: r => (r.takeWhile Text.isDigit, r.dropWhile Text.isDigit)
    | r => ([], r)
  if whole.isEmpty && part.isEmpty then none else
    let build (e : Int) :=
      ofDecimal false (Text.digitsValue 0 (whole ++ part)) (e - part.length)
    match rest with
    | [] => some (build 0)
    | c :: r => if c == 'e' || c == 'E' then (exponentText? r).map build else none

def decode (x : Binary64) : Nat × Int :=
  if x.exponentField == 0 then (x.fractionField, -1074)
  else (unit + x.fractionField, (x.exponentField : Int) - 1075)

/-- The neighbours of the magnitude on the grid of multiples of `10 ^ k`. -/
def gridPoints (x : Binary64) (k : Int) : List Nat :=
  let (m, q) := x.decode
  let num := (m <<< q.toNat) * powerOfTen (-k).toNat
  let den := powerOfTen k.toNat <<< (-q).toNat
  let low := num / den
  if 2 * (num % den) < den then [low, low + 1] else [low + 1, low]

def shortestGo (x : Binary64) : Nat → Int → Nat × Int
  | 0, k => (((gridPoints x k).head?).getD 0, k)
  | fuel + 1, k =>
    match (gridPoints x k).find? fun d => d != 0 && ofDecimal x.isNegative d k == x with
    | some d => (d, k)
    | none => shortestGo x fuel (k - 1)

def shortest (x : Binary64) : Nat × Int :=
  let (m, q) := x.decode
  if m == 0 then (0, 0)
  else
    let size : Int := ((m.log2 : Int) + q) * 30103 / 100000
    shortestGo x 20 (size + 1)

/-- Positional for decimal exponents from -5 to 16, always with a point, and with
an exponent mark otherwise. -/
def toText (x : Binary64) : Text :=
  let (d, k) := x.shortest
  let ds := Text.ofNat d
  let point : Int := ds.length + k
  let zeros (n : Int) : Text := List.replicate n.toNat '0'
  (if x.isNegative then ['-'] else []) ++
    (if d == 0 then "0.0".toList
    else if 0 ≤ k && point ≤ 16 then ds ++ zeros k ++ ".0".toList
    else if 0 < point && point ≤ 16 then ds.take point.toNat ++ ['.'] ++ ds.drop point.toNat
    else if -5 < point && point ≤ 0 then "0.".toList ++ zeros (-point) ++ ds
    else
      let e := point - 1
      ds.take 1 ++ (if ds.length == 1 then [] else ['.'] ++ ds.drop 1) ++ ['e'] ++
        (if e < 0 then ['-'] else []) ++ Text.ofNat e.natAbs)

end Binary64

end EndpointScout
