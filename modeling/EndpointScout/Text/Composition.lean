import EndpointScout.Text.CompositionTable

/-! Canonical composition: the normal form in which equivalent sequences of
base characters and marks are written the same way. -/
namespace EndpointScout.Text

def combiningClass (n : Nat) : Nat := (CodeTable.class? combiningClasses n).getD 0

def hangulBase : Nat := 0xAC00
def hangulCount : Nat := 11172

def decomposeGo : Nat → Nat → List Nat
  | 0, n => [n]
  | fuel + 1, n =>
    if n < 0xC0 then [n]
    else if hangulBase ≤ n && n < hangulBase + hangulCount then
      let i := n - hangulBase
      let tail := i % 28
      [0x1100 + i / 588, 0x1161 + i % 588 / 28] ++ (if tail == 0 then [] else [0x11A7 + tail])
    else match CodeTable.image? decompositions n with
      | some parts => parts.flatMap (decomposeGo fuel)
      | none => [n]

/-- Inserts a mark among the marks before it, in front of those of a higher class. -/
def insertMark (n k : Nat) : List (Nat × Nat) → List (Nat × Nat)
  | [] => [(n, k)]
  | (m, j) :: before =>
    if k != 0 && j > k then (m, j) :: insertMark n k before else (n, k) :: (m, j) :: before

def decompose (codes : List Nat) : List (Nat × Nat) :=
  ((codes.flatMap (decomposeGo 8)).foldl
    (fun before n => insertMark n (combiningClass n) before) []).reverse

def composePair? (a b : Nat) : Option Nat :=
  if 0x1100 ≤ a && a < 0x1113 && 0x1161 ≤ b && b < 0x1176 then
    some (hangulBase + ((a - 0x1100) * 21 + (b - 0x1161)) * 28)
  else if hangulBase ≤ a && a < hangulBase + hangulCount && (a - hangulBase) % 28 == 0 &&
      0x11A8 ≤ b && b < 0x11C3 then
    some (a + (b - 0x11A7))
  else
    (decompositions.find? fun r =>
      r.2 == [a, b] && !CodeTable.mem compositionExclusions r.1).map (·.1)

/-- Composes from left to right. `passed` holds, last first, the marks that
stayed after the starter, and `last` is the class of the last of them. -/
def composeGo : Option Nat → List Nat → Nat → List (Nat × Nat) → List Nat
  | none, passed, _, [] => passed.reverse
  | some s, passed, _, [] => s :: passed.reverse
  | none, passed, _, (n, k) :: rest =>
    if k == 0 then passed.reverse ++ composeGo (some n) [] 0 rest
    else composeGo none (n :: passed) k rest
  | some s, passed, last, (n, k) :: rest =>
    let blocked := !passed.isEmpty && (last == 0 || last ≥ k)
    match (if blocked then none else composePair? s n) with
    | some c => composeGo (some c) passed last rest
    | none =>
      if k == 0 then s :: passed.reverse ++ composeGo (some n) [] 0 rest
      else composeGo (some s) (n :: passed) k rest

def compose (t : Text) : Text :=
  if t.all isAscii then t
  else (composeGo none [] 0 (decompose (t.map Char.toNat))).map Char.ofNat

end EndpointScout.Text
