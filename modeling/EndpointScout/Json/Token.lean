import EndpointScout.Json.Reader

/-! The strings in a text, wherever they stand: from a quote to the next one that no
backslash escapes. -/
namespace EndpointScout.Json

def tokenGo (acc : Text) : Text → Option (Text × Text)
  | [] => none
  | ['\\'] => none
  | '"' :: t => some (('"' :: acc).reverse, t)
  | '\\' :: c :: t => if c = '\n' then none else tokenGo (c :: '\\' :: acc) t
  | c :: t => tokenGo (c :: acc) t

/-- A quote that opens no string is passed over. -/
def tokensGo : Nat → Text → List Text
  | 0, _ => []
  | fuel + 1, t =>
    match t with
    | [] => []
    | '"' :: r =>
      match tokenGo ['"'] r with
      | some (token, rest) => token :: tokensGo fuel rest
      | none => tokensGo fuel r
    | _ :: r => tokensGo fuel r

def tokens (t : Text) : List Text := tokensGo (t.length + 1) t

def stringsIn (t : Text) : List Text :=
  (tokens t).filterMap fun token => (Reader.run Reader.string token).toOption

end EndpointScout.Json
