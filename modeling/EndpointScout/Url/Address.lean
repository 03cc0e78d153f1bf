import EndpointScout.Text.Basic

/-! Numeric hosts: IPv4 addresses in their many spellings, and IPv6 addresses. -/
namespace EndpointScout.Url

/-- One part of an IPv4 address, in base 8, 10 or 16 by its first characters.
The outer option tells whether it is a number, the inner whether it fits 32 bits. -/
def ipv4Part? (t : Text) : Option (Option Nat) :=
  let value (base : Nat) (ds : Text) : Option (Option Nat) :=
    let digits := ds.map fun c => (Text.hexValue? c).getD 16
    if digits.all (· < base) then
      let n := digits.foldl (fun n d => n * base + d) 0
      some (if n < 0x100000000 then some n else none)
    else none
  match t with
  | [] => none
  | '0' :: 'x' :: ds => value 16 ds
  | '0' :: 'X' :: ds => value 16 ds
  | ['0'] => value 10 t
  | '0' :: ds => value 8 ds
  | _ => value 10 t

def endsInNumber (host : Text) : Bool :=
  let parts := (Text.splitAt '.' host).reverse
  let last := match parts with
    | [] :: p :: _ => some p
    | [[]] => none
    | p :: _ => some p
    | [] => none
  match last with
  | none => false
  | some p => (!p.isEmpty && p.all Text.isDigit) || (ipv4Part? p).isSome

def frontValue : List Nat → Nat
  | [] => 0
  | n :: rest => frontValue rest / 256 + n * 0x1000000

def ipv4? (host : Text) : Option Nat := do
  let parts := Text.splitAt '.' host
  let parts := if parts.getLast? == some [] then parts.dropLast else parts
  if parts.length > 4 then none
  else
    let numbers ← parts.mapM fun p => (ipv4Part? p).getD none
    let last ← numbers.getLast?
    let front := numbers.dropLast
    if last ≥ 0x100000000 >>> (8 * front.length) || front.any (· > 255) then none
    else some (frontValue front + last)

def ipv4Text (n : Nat) : Text :=
  Text.join ['.'] [Text.ofNat (n / 0x1000000 % 256), Text.ofNat (n / 0x10000 % 256),
    Text.ofNat (n / 0x100 % 256), Text.ofNat (n % 256)]

def embeddedIpv4? (t : Text) : Option (List Nat) := do
  let bytes ← (Text.splitAt '.' t).mapM fun p =>
    if p.length > 3 || (p.length > 1 && p.head? == some '0') then none
    else (Text.toNat? p).bind fun n => if n < 256 then some n else none
  match bytes with
  | [a, b, c, d] => some [a * 256 + b, c * 256 + d]
  | _ => none

def ipv6Pieces? : List Text → Option (List Nat)
  | [] => some []
  | [p] =>
    if p.contains '.' then embeddedIpv4? p
    else if p.isEmpty || p.length > 4 || !p.all Text.isHexDigit then none
    else some [p.foldl (fun n c => n * 16 + (Text.hexValue? c).getD 0) 0]
  | p :: ps =>
    if p.isEmpty || p.length > 4 || !p.all Text.isHexDigit then none
    else (ipv6Pieces? ps).map ((p.foldl (fun n c => n * 16 + (Text.hexValue? c).getD 0) 0) :: ·)

def cutDouble? : Text → Option (Text × Text)
  | ':' :: ':' :: t => some ([], t)
  | c :: t => (cutDouble? t).map fun p => (c :: p.1, p.2)
  | [] => none

def ipv6Side? (t : Text) : Option (List Nat) :=
  if t.isEmpty then some [] else ipv6Pieces? (Text.splitAt ':' t)

def ipv6? (t : Text) : Option (List Nat) :=
  match cutDouble? t with
  | some (front, back) => do
    if front.contains '.' then none
    else
      let a ← ipv6Side? front
      let b ← ipv6Side? back
      if a.length + b.length > 7 then none
      else some (a ++ List.replicate (8 - a.length - b.length) 0 ++ b)
  | none => do
    let ps ← ipv6Pieces? (Text.splitAt ':' t)
    if ps.length == 8 then some ps else none

def zeroRun (ps : List Nat) : Nat := (ps.takeWhile (· == 0)).length

def longestZeros : Nat → List Nat → Nat × Nat
  | _, [] => (0, 0)
  | i, p :: ps =>
    let (start, size) := longestZeros (i + 1) ps
    let here := zeroRun (p :: ps)
    if here ≥ size then (i, here) else (start, size)

/-- The first longest run of two or more zeros is written as a double colon. -/
def ipv6Text (ps : List Nat) : Text :=
  let (start, size) := longestZeros 0 ps
  let pieces (l : List Nat) : Text := Text.join [':'] (l.map Text.hex)
  if size < 2 then pieces ps
  else pieces (ps.take start) ++ "::".toList ++ pieces (ps.drop (start + size))

end EndpointScout.Url
