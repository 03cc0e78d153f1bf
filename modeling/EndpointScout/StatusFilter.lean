import EndpointScout.Text.Blank
import EndpointScout.Text.LetterCase

/-! Status filters: lists of codes, classes of codes and ranges. -/
namespace EndpointScout

inductive FilterError where
  | empty
  | emptyToken
  | invalidToken (token : Text)
  | reversedRange (token : Text)
deriving Repr, DecidableEq

def FilterError.message : FilterError → Text
  | empty => "status filter is empty".toList
  | emptyToken => "status filter contains an empty entry".toList
  | invalidToken t =>
    "invalid status filter entry '".toList ++ t ++ "' (expected 200, 4xx or 500-502)".toList
  | reversedRange t => "status range '".toList ++ t ++ "' ends before it starts".toList

structure CodeRange where
  low : Nat
  high : Nat
deriving Repr, DecidableEq

def CodeRange.contains (r : CodeRange) (code : Nat) : Bool := r.low ≤ code && code ≤ r.high

structure StatusFilter where
  ranges : List CodeRange
deriving Repr, DecidableEq

namespace StatusFilter

def code? (t : Text) : Option Nat := if t.length == 3 then Text.toNat? t else none

def class? (t : Text) : Option CodeRange :=
  match Text.asciiLower t with
  | [d, 'x', 'x'] =>
    if Text.isDigit d then
      let start := (d.toNat - '0'.toNat) * 100
      some ⟨start, start + 99⟩
    else none
  | _ => none

def parseToken (t : Text) : Except FilterError CodeRange :=
  match code? t, class? t, Text.cutAt? '-' t with
  | some n, _, _ => .ok ⟨n, n⟩
  | none, some r, _ => .ok r
  | none, none, some (first, last) =>
    match code? (Text.trim first), code? (Text.trim last) with
    | some a, some b => if b < a then .error (.reversedRange t) else .ok ⟨a, b⟩
    | _, _ => .error (.invalidToken t)
  | none, none, none => .error (.invalidToken t)

/-- The leftmost faulty entry decides the error. -/
def parseTokens : List Text → Except FilterError (List CodeRange)
  | [] => .ok []
  | t :: ts =>
    let token := Text.trim t
    if token.isEmpty then .error .emptyToken
    else match parseToken token with
      | .error e => .error e
      | .ok r => (parseTokens ts).map (r :: ·)

def parse (input : Text) : Except FilterError StatusFilter :=
  if (Text.trim input).isEmpty then .error .empty
  else (parseTokens (Text.splitAt ',' input)).map StatusFilter.mk

def contains (f : StatusFilter) (code : Nat) : Bool := f.ranges.any fun r => r.contains code

/-- A missing status never passes. -/
def accepts (f : StatusFilter) (status : Option UInt16) : Bool :=
  match status with
  | some s => f.contains s.toNat
  | none => false

def codes (f : StatusFilter) : List Nat := (List.range 1000).filter f.contains

def size (f : StatusFilter) : Nat := f.codes.length

def text (f : StatusFilter) : Text := Text.ofNat f.size ++ " status codes".toList

end StatusFilter

end EndpointScout
