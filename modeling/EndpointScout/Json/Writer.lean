import EndpointScout.Json.Value

/-! Writing JSON: compact, and indented by two blanks. -/
namespace EndpointScout.Json

def escapeChar (c : Char) : Text :=
  if c = '"' then ['\\', '"']
  else if c = '\\' then ['\\', '\\']
  else if c = '\n' then ['\\', 'n']
  else if c = '\r' then ['\\', 'r']
  else if c = '\t' then ['\\', 't']
  else if c.toNat = 8 then ['\\', 'b']
  else if c.toNat = 12 then ['\\', 'f']
  else if c.toNat < 32 then ['\\', 'u'] ++ Text.hexPadded false 4 c.toNat
  else [c]

def quote (t : Text) : Text := '"' :: (t.flatMap escapeChar ++ ['"'])

mutual

def Value.compact : Value → Text
  | .null => "null".toList
  | .bool true => "true".toList
  | .bool false => "false".toList
  | .number t => t
  | .string t => quote t
  | .array vs => '[' :: (compactItems vs ++ [']'])
  | .object ms => '\x7b' :: (compactMembers ms ++ ['\x7d'])

def compactItems : List Value → Text
  | [] => []
  | [v] => v.compact
  | v :: vs => v.compact ++ ',' :: compactItems vs

def compactMembers : List (Text × Value) → Text
  | [] => []
  | [(k, v)] => quote k ++ ':' :: v.compact
  | (k, v) :: ms => quote k ++ ':' :: (v.compact ++ ',' :: compactMembers ms)

end

def newline (depth : Nat) : Text := '\n' :: List.replicate (2 * depth) ' '

mutual

/-- Every item and member on a line of its own; empty arrays and objects stay closed. -/
def Value.pretty (depth : Nat) : Value → Text
  | .array [] => "[]".toList
  | .array vs => '[' :: (prettyItems (depth + 1) vs ++ newline depth ++ [']'])
  | .object [] => ['\x7b', '\x7d']
  | .object ms => '\x7b' :: (prettyMembers (depth + 1) ms ++ newline depth ++ ['\x7d'])
  | .null => "null".toList
  | .bool true => "true".toList
  | .bool false => "false".toList
  | .number t => t
  | .string t => quote t

def prettyItems (depth : Nat) : List Value → Text
  | [] => []
  | [v] => newline depth ++ v.pretty depth
  | v :: vs => newline depth ++ v.pretty depth ++ ',' :: prettyItems depth vs

def prettyMembers (depth : Nat) : List (Text × Value) → Text
  | [] => []
  | [(k, v)] => newline depth ++ quote k ++ [':', ' '] ++ v.pretty depth
  | (k, v) :: ms =>
    newline depth ++ quote k ++ [':', ' '] ++ v.pretty depth ++ ',' :: prettyMembers depth ms

end

end EndpointScout.Json
