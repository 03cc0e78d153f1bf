import EndpointScout.Text.CaseTable

/-! Lower case, for ASCII alone and for all of Unicode. -/
namespace EndpointScout.Text

def asciiLowerChar (c : Char) : Char :=
  if 'A' ≤ c && c ≤ 'Z' then Char.ofNat (c.toNat + 32) else c

def asciiLower (t : Text) : Text := t.map asciiLowerChar

def capitalSigma : Char := Char.ofNat 0x3A3

def isCased (c : Char) : Bool :=
  if isAscii c then isLetter c else CodeTable.mem casedRanges c.toNat

def isCaseIgnorable (c : Char) : Bool := CodeTable.mem caseIgnorableRanges c.toNat

def meetsCased : Text → Bool
  | [] => false
  | c :: t => if isCaseIgnorable c then meetsCased t else isCased c

def lowerChar (c : Char) : Text :=
  if isAscii c then [asciiLowerChar c]
  else if c.toNat == 0x130 then [Char.ofNat 0x69, Char.ofNat 0x307]
  else match CodeTable.shifted? lowercaseShifts c.toNat with
    | some n => [Char.ofNat n]
    | none => [c]

/-- A capital sigma that ends a word becomes the final form. -/
def lowerGo (before : Text) : Text → Text
  | [] => []
  | c :: t =>
    (if c == capitalSigma then
      [Char.ofNat (if meetsCased before && !meetsCased t then 0x3C2 else 0x3C3)]
    else lowerChar c) ++ lowerGo (c :: before) t

def lower (t : Text) : Text := lowerGo [] t

end EndpointScout.Text
