import EndpointScout.Proofs.Json.Token

/-! The strings in a written document are its names and its string values, in order. -/
namespace EndpointScout.Json

mutual

def Value.strings : Value → List Text
  | .null => []
  | .bool _ => []
  | .number _ => []
  | .string t => [t]
  | .array vs => itemStrings vs
  | .object ms => memberStrings ms

def itemStrings : List Value → List Text
  | [] => []
  | v :: vs => v.strings ++ itemStrings vs

def memberStrings : List (Text × Value) → List Text
  | [] => []
  | (k, v) :: ms => k :: (v.strings ++ memberStrings ms)

end

mutual

/-- No number of the document is written with a quote. -/
def Value.Plain : Value → Prop
  | .null => True
  | .bool _ => True
  | .number t => '"' ∉ t
  | .string _ => True
  | .array vs => PlainItems vs
  | .object ms => PlainMembers ms

def PlainItems : List Value → Prop
  | [] => True
  | v :: vs => v.Plain ∧ PlainItems vs

def PlainMembers : List (Text × Value) → Prop
  | [] => True
  | (_, v) :: ms => v.Plain ∧ PlainMembers ms

end

theorem compactItems_cons_cons (v w : Value) (vs : List Value) :
    compactItems (v :: w :: vs) = v.compact ++ ',' :: compactItems (w :: vs) := rfl

theorem compactMembers_cons_cons (k : Text) (v : Value) (m : Text × Value)
    (ms : List (Text × Value)) :
    compactMembers ((k, v) :: m :: ms) =
      quote k ++ ':' :: (v.compact ++ ',' :: compactMembers (m :: ms)) := rfl

mutual

theorem tokens_compact_append (v : Value) (hv : v.Plain) (t : Text) :
    tokens (v.compact ++ t) = v.strings.map quote ++ tokens t := by
  cases v with
  | null => exact tokens_append (by decide) t
  | bool b => cases b <;> exact tokens_append (by decide) t
  | number n => exact tokens_append hv t
  | string s => simp [Value.compact, Value.strings, tokens_quote_append]
  | array vs =>
    have hend : tokens (']' :: t) = tokens t := tokens_cons (by decide) t
    rw [Value.compact, List.cons_append, tokens_cons (by decide), List.append_assoc,
      tokens_compactItems_append vs hv, List.singleton_append, hend, Value.strings]
  | object ms =>
    have hend : tokens ('\x7d' :: t) = tokens t := tokens_cons (by decide) t
    rw [Value.compact, List.cons_append, tokens_cons (by decide), List.append_assoc,
      tokens_compactMembers_append ms hv, List.singleton_append, hend, Value.strings]

theorem tokens_compactItems_append (vs : List Value) (hvs : PlainItems vs) (t : Text) :
    tokens (compactItems vs ++ t) = (itemStrings vs).map quote ++ tokens t := by
  match vs, hvs with
  | [], _ => rfl
  | [v], ⟨hv, _⟩ => simp [compactItems, itemStrings, tokens_compact_append v hv]
  | v :: w :: ws, ⟨hv, hws⟩ =>
    rw [compactItems_cons_cons, List.append_assoc, tokens_compact_append v hv, List.cons_append,
      tokens_cons (by decide), tokens_compactItems_append (w :: ws) hws]
    simp [itemStrings]

theorem tokens_compactMembers_append (ms : List (Text × Value)) (hms : PlainMembers ms) (t : Text) :
    tokens (compactMembers ms ++ t) = (memberStrings ms).map quote ++ tokens t := by
  match ms, hms with
  | [], _ => rfl
  | [(k, v)], ⟨hv, _⟩ =>
    rw [compactMembers, List.append_assoc, tokens_quote_append, List.cons_append,
      tokens_cons (by decide), tokens_compact_append v hv]
    simp [memberStrings]
  | (k, v) :: m :: ws, ⟨hv, hws⟩ =>
    rw [compactMembers_cons_cons, List.append_assoc, tokens_quote_append, List.cons_append,
      tokens_cons (by decide), List.append_assoc, tokens_compact_append v hv, List.cons_append,
      tokens_cons (by decide), tokens_compactMembers_append (m :: ws) hws]
    simp [memberStrings]

end

theorem tokens_compact {v : Value} (hv : v.Plain) : tokens v.compact = v.strings.map quote := by
  have h := tokens_compact_append v hv []
  rwa [List.append_nil, tokens_nil, List.append_nil] at h

theorem stringsIn_compact {v : Value} (hv : v.Plain) : stringsIn v.compact = v.strings := by
  rw [stringsIn, tokens_compact hv, List.filterMap_map]
  have hread : ((fun token => (Reader.run Reader.string token).toOption) ∘ quote) = some := by
    funext s
    simp [run_string_quote, Except.toOption]
  rw [hread, List.filterMap_some]

end EndpointScout.Json
