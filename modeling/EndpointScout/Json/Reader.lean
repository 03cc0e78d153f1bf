import EndpointScout.Json.Value
import EndpointScout.Text.Utf8
import EndpointScout.Text.Binary64

/-! Reading JSON from left to right. A reader takes what it needs from the
front of the text, and the first fault met decides the outcome. -/
namespace EndpointScout.Json

/-- Why a text could not be read: it is not JSON, it is JSON of the wrong shape, or
it ends too early. -/
inductive Fault where
  | malformed
  | mismatch
  | incomplete
deriving Repr, DecidableEq

abbrev Reader := StateT Text (Except Fault)

namespace Reader

def fail (f : Fault) : Reader α := fun _ => .error f

def isSpace (c : Char) : Bool := c == ' ' || c == '\n' || c == '\t' || c == '\r'

def peek : Reader (Option Char) := fun t =>
  let t := t.dropWhile isSpace
  .ok (t.head?, t)

def skip : Reader Unit := fun t => .ok ((), t.drop 1)

def peekSome : Reader Char := do
  match ← peek with
  | some c => pure c
  | none => fail .incomplete

def word : Text → Reader Unit
  | [] => pure ()
  | d :: ds => do
    match ← get with
    | [] => fail .incomplete
    | c :: t => if c == d then set t; word ds else fail .malformed

def fourHex? : Text → Option (Nat × Text)
  | a :: b :: c :: d :: t => do
    let a ← Text.hexValue? a
    let b ← Text.hexValue? b
    let c ← Text.hexValue? c
    let d ← Text.hexValue? d
    pure (a * 4096 + b * 256 + c * 16 + d, t)
  | _ => none

def hexUnit (t : Text) : Except Fault (Nat × Text) :=
  if Text.Utf8.length (t.take 4) < 4 then .error .incomplete
  else match fourHex? t with
    | some r => .ok r
    | none => .error .malformed

def unicodeEscape (t : Text) : Except Fault (Char × Text) := do
  let (n, t) ← hexUnit t
  if 0xDC00 ≤ n && n ≤ 0xDFFF then .error .malformed
  else if 0xD800 ≤ n && n ≤ 0xDBFF then
    match t with
    | [] => .error .incomplete
    | ['\\'] => .error .incomplete
    | '\\' :: 'u' :: t =>
      let (m, t) ← hexUnit t
      if 0xDC00 ≤ m && m ≤ 0xDFFF then
        .ok (Char.ofNat (0x10000 + (n - 0xD800) * 1024 + (m - 0xDC00)), t)
      else .error .malformed
    | _ => .error .malformed
  else .ok (Char.ofNat n, t)

def simpleEscape? (c : Char) : Option Char :=
  match c with
  | '"' => some '"'
  | '\\' => some '\\'
  | '/' => some '/'
  | 'b' => some '\x08'
  | 'f' => some '\x0c'
  | 'n' => some '\n'
  | 'r' => some '\r'
  | 't' => some '\t'
  | _ => none

def stringGo : Nat → Text → Text → Except Fault (Text × Text)
  | 0, _, _ => .error .incomplete
  | fuel + 1, acc, t =>
    match t with
    | [] => .error .incomplete
    | '"' :: t => .ok (acc.reverse, t)
    | ['\\'] => .error .incomplete
    | '\\' :: 'u' :: t => do
      let (c, t) ← unicodeEscape t
      stringGo fuel (c :: acc) t
    | '\\' :: c :: t =>
      match simpleEscape? c with
      | some d => stringGo fuel (d :: acc) t
      | none => .error .malformed
    | c :: t => if c.toNat < 32 then .error .malformed else stringGo fuel (c :: acc) t

def stringBody : Reader Text := fun t => stringGo (t.length + 1) [] t

/-- Passes over a string without decoding it, so that surrogates need no partner. -/
def passGo : Nat → Text → Except Fault (Unit × Text)
  | 0, _ => .error .incomplete
  | fuel + 1, t =>
    match t with
    | [] => .error .incomplete
    | '"' :: t => .ok ((), t)
    | ['\\'] => .error .incomplete
    | '\\' :: 'u' :: t => do
      let (_, t) ← hexUnit t
      passGo fuel t
    | '\\' :: c :: t => if (simpleEscape? c).isSome then passGo fuel t else .error .malformed
    | c :: t => if c.toNat < 32 then .error .malformed else passGo fuel t

def passString : Reader Unit := fun t => passGo (t.length + 1) t

def missingDigit (strict : Bool) (t : Text) : Fault :=
  if t.isEmpty && strict then .incomplete else .malformed

def wholePart (strict : Bool) : Reader Text := fun t =>
  match t with
  | '0' :: t => if (t.head?.map Text.isDigit).getD false then .error .malformed else .ok (['0'], t)
  | _ =>
    let ds := t.takeWhile Text.isDigit
    if ds.isEmpty then .error (missingDigit strict t) else .ok (ds, t.dropWhile Text.isDigit)

def fractionPart (strict : Bool) : Reader Text := fun t =>
  match t with
  | '.' :: t =>
    let ds := t.takeWhile Text.isDigit
    let rest := t.dropWhile Text.isDigit
    if ds.isEmpty then .error (missingDigit strict rest) else .ok ('.' :: ds, rest)
  | _ => .ok ([], t)

def exponentPart (strict : Bool) : Reader Text := fun t =>
  match t with
  | e :: t' =>
    if e == 'e' || e == 'E' then
      let (sign, t') := match t' with
        | '+' :: u => (['+'], u)
        | '-' :: u => (['-'], u)
        | u => ([], u)
      let ds := t'.takeWhile Text.isDigit
      if ds.isEmpty then .error (missingDigit strict t')
      else .ok (e :: sign ++ ds, t'.dropWhile Text.isDigit)
    else .ok ([], t)
  | [] => .ok ([], [])

def unsigned (strict : Bool) : Reader (Text × Text) := do
  let whole ← wholePart strict
  let fraction ← fractionPart strict
  let exponent ← exponentPart strict
  pure (whole, fraction ++ exponent)

/-- Numbers that a 64-bit float cannot hold are refused. -/
def inRange (whole tail : Text) : Bool :=
  ((Binary64.ofText? (whole ++ tail)).map Binary64.isFinite).getD false

def numberBody (negative : Bool) : Reader Text := do
  let (whole, tail) ← unsigned true
  if inRange whole tail then
    pure ((if negative then ['-'] else []) ++ whole ++ tail)
  else fail .malformed

/-- Reports a value of another kind than the expected one. Names, numbers and
strings are read first, so that a fault inside them comes before the mismatch. -/
def otherKind : Reader α := do
  match ← peek with
  | some 'n' => skip; word "ull".toList; fail .mismatch
  | some 't' => skip; word "rue".toList; fail .mismatch
  | some 'f' => skip; word "alse".toList; fail .mismatch
  | some '-' => skip; let _ ← numberBody true; fail .mismatch
  | some '"' => skip; let _ ← stringBody; fail .mismatch
  | some '[' => fail .mismatch
  | some '\x7b' => fail .mismatch
  | some c => if Text.isDigit c then let _ ← numberBody false; fail .mismatch else fail .malformed
  | none => fail .malformed

def string : Reader Text := do
  match ← peekSome with
  | '"' => skip; stringBody
  | _ => otherKind

def bool : Reader Bool := do
  match ← peekSome with
  | 't' => skip; word "rue".toList; pure true
  | 'f' => skip; word "alse".toList; pure false
  | _ => otherKind

def unit : Reader Unit := do
  match ← peekSome with
  | 'n' => skip; word "ull".toList
  | _ => otherKind

def natBelow (bound : Nat) : Reader Nat := do
  let c ← peekSome
  if c == '-' then
    skip
    let _ ← numberBody true
    fail .mismatch
  else if Text.isDigit c then
    let t ← numberBody false
    match Text.toNat? t with
    | some n => if n < bound then pure n else fail .mismatch
    | none => fail .mismatch
  else otherKind

def optional (r : Reader α) : Reader (Option α) := do
  match ← peek with
  | some 'n' => skip; word "ull".toList; pure none
  | _ => some <$> r

def finish : Reader Unit := do
  match ← peek with
  | none => pure ()
  | some _ => fail .malformed

inductive Separator where
  | more
  | closed

def nextItem (first : Bool) : Reader Separator := do
  match ← peek with
  | none => fail .incomplete
  | some ']' => pure .closed
  | some ',' =>
    if first then pure .more
    else
      skip
      match ← peek with
      | some ']' => fail .malformed
      | some _ => pure .more
      | none => fail .incomplete
  | some _ => if first then pure .more else fail .malformed

def closeArray : Reader Unit := do
  match ← peek with
  | some ']' => skip
  | some _ => fail .malformed
  | none => fail .incomplete

def nextName (first : Bool) : Reader (Option Text) := do
  match ← peek with
  | none => fail .incomplete
  | some '\x7d' => pure none
  | some c =>
    if c == ',' && !first then
      skip
      match ← peek with
      | some '"' => skip; some <$> stringBody
      | some _ => fail .malformed
      | none => fail .incomplete
    else if !first then fail .malformed
    else if c == '"' then skip; some <$> stringBody
    else fail .malformed

def colon : Reader Unit := do
  match ← peek with
  | some ':' => skip
  | some _ => fail .malformed
  | none => fail .incomplete

def oneOf (names : List (String × α)) : Reader α := do
  let pick (t : Text) : Reader α :=
    match names.find? fun p => p.1.toList == t with
    | some p => pure p.2
    | none => fail .mismatch
  match ← peek with
  | some '"' => skip; pick (← stringBody)
  | some '\x7b' =>
    skip
    let v ← pick (← string)
    colon
    unit
    match ← peek with
    | some '\x7d' => skip; pure v
    | some _ => fail .malformed
    | none => fail .incomplete
  | some _ => fail .malformed
  | none => fail .incomplete

mutual

def pass : Nat → Reader Unit
  | 0 => fail .incomplete
  | fuel + 1 => do
    let c ← peekSome
    skip
    match c with
    | 'n' => word "ull".toList
    | 't' => word "rue".toList
    | 'f' => word "alse".toList
    | '"' => passString
    | '-' => let _ ← unsigned false; pure ()
    | '[' => passItems fuel true
    | '\x7b' => passMembers fuel true
    | c =>
      if Text.isDigit c then
        modify (c :: ·)
        let _ ← unsigned false
        pure ()
      else fail .malformed

def passItems : Nat → Bool → Reader Unit
  | 0, _ => fail .incomplete
  | fuel + 1, first => do
    match ← peekSome with
    | ']' => skip
    | ',' =>
      if first then fail .malformed
      else
        skip
        pass fuel
        passItems fuel false
    | _ =>
      if first then
        pass fuel
        passItems fuel false
      else fail .malformed

def passMembers : Nat → Bool → Reader Unit
  | 0, _ => fail .incomplete
  | fuel + 1, first => do
    let c ← peekSome
    if c == '\x7d' then skip
    else
      if c == ',' && !first then skip
      else if first then pure ()
      else fail .malformed
      match ← peekSome with
      | '"' => skip; passString
      | _ => fail .malformed
      colon
      pass fuel
      passMembers fuel false

end

def ignored : Reader Unit := fun t => pass (2 * t.length + 2) t

mutual

def value : Nat → Reader Value
  | 0 => fail .incomplete
  | fuel + 1 => do
    let c ← peekSome
    skip
    match c with
    | 'n' => word "ull".toList; pure .null
    | 't' => word "rue".toList; pure (.bool true)
    | 'f' => word "alse".toList; pure (.bool false)
    | '"' => .string <$> stringBody
    | '-' => .number <$> numberBody true
    | '[' => .array <$> items fuel true
    | '\x7b' => .object <$> members fuel true
    | c =>
      if Text.isDigit c then
        modify (c :: ·)
        .number <$> numberBody false
      else fail .malformed

def items : Nat → Bool → Reader (List Value)
  | 0, _ => fail .incomplete
  | fuel + 1, first => do
    match ← nextItem first with
    | .closed => skip; pure []
    | .more =>
      let v ← value fuel
      let vs ← items fuel false
      pure (v :: vs)

def members : Nat → Bool → Reader (List (Text × Value))
  | 0, _ => fail .incomplete
  | fuel + 1, first => do
    match ← nextName first with
    | none => skip; pure []
    | some k =>
      colon
      let v ← value fuel
      let ms ← members fuel false
      pure ((k, v) :: ms)

end

def run (r : Reader α) (t : Text) : Except Fault α :=
  match (do let v ← r; finish; pure v : Reader α) t with
  | .ok (v, _) => .ok v
  | .error f => .error f

end Reader

def parse (t : Text) : Except Fault Value := Reader.run (Reader.value (2 * t.length + 2)) t

end EndpointScout.Json
