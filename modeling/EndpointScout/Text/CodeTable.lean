import EndpointScout.Text.Basic

/-! Tables of code points written as lines of text: entries are separated by
blanks, numbers are in base 16 and a range is `first-last`. -/
namespace EndpointScout.Text.CodeTable

/-- Members `first`, `first + step`, … up to `last`; the first maps to `image` and
the others keep the distance. -/
structure Shift where
  first : Nat
  last : Nat
  step : Nat
  image : Nat
deriving Repr, DecidableEq

def number (t : Text) : Nat :=
  t.foldl (fun n c => n * 16 + (hexValue? c).getD 0) 0

def range (t : Text) : Nat × Nat :=
  match cutAt? '-' t with
  | some (first, last) => (number first, number last)
  | none => (number t, number t)

def entries (lines : List String) : List Text := lines.flatMap fun s => splitAt ' ' s.toList

def ranges (lines : List String) : List (Nat × Nat) := (entries lines).map range

def images (lines : List String) : List (Nat × List Nat) :=
  (entries lines).filterMap fun t =>
    (cutAt? '=' t).map fun (code, image) => (number code, (splitAt '.' image).map number)

def classes (lines : List String) : List (Nat × Nat × Nat) :=
  (entries lines).filterMap fun t =>
    (cutAt? '=' t).map fun (codes, value) =>
      ((range codes).1, (range codes).2, number value)

def shifts (lines : List String) : List Shift :=
  (entries lines).filterMap fun t =>
    match cutAt? '/' t with
    | none => none
    | some (codes, rest) =>
      (cutAt? '=' rest).map fun (step, image) =>
        ⟨(range codes).1, (range codes).2, number step, number image⟩

def mem (table : List (Nat × Nat)) (n : Nat) : Bool :=
  table.any fun r => r.1 ≤ n && n ≤ r.2

def class? (table : List (Nat × Nat × Nat)) (n : Nat) : Option Nat :=
  (table.find? fun r => r.1 ≤ n && n ≤ r.2.1).map (·.2.2)

def image? (table : List (Nat × List Nat)) (n : Nat) : Option (List Nat) :=
  (table.find? fun r => r.1 == n).map (·.2)

def shifted? (table : List Shift) (n : Nat) : Option Nat :=
  (table.find? fun s => s.first ≤ n && n ≤ s.last && (n - s.first) % s.step == 0).map
    fun s => s.image + (n - s.first)

end EndpointScout.Text.CodeTable
