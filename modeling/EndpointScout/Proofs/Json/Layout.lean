import EndpointScout.Proofs.Json.Reading

/-! The written pieces of arrays and objects, with the blanks between them left open: both the
compact and the indented form of a document are laid out in this way. -/
namespace EndpointScout.Json
open Reader

def pieces (gap : Text) : Bool → List Text → Text
  | _, [] => []
  | first, t :: ts => (if first then [] else [',']) ++ (gap ++ (t ++ pieces gap false ts))

theorem pieces_comma (gap t : Text) (ts : List Text) :
    pieces gap false (t :: ts) = ',' :: pieces gap true (t :: ts) := rfl

theorem length_le_pieces {α : Type} {f : α → Text} (hf : ∀ a, f a ≠ []) (gap : Text)
    (first : Bool) (as : List α) (t : Text) :
    as.length ≤ (pieces gap first (as.map f) ++ t).length := by
  induction as generalizing first with
  | nil => exact Nat.zero_le _
  | cons a as ih =>
    have ha : 1 ≤ (f a).length := List.length_pos_of_ne_nil (hf a)
    have has := ih false
    simp only [pieces, List.map_cons, List.length_append, List.length_cons] at has ⊢
    omega

theorem isGap_newline (depth : Nat) : IsGap (newline depth) := by
  intro c hc
  obtain rfl | hc := List.mem_cons.1 hc
  · rfl
  · rw [List.eq_of_mem_replicate hc]
    rfl

/-- The blanks before each piece, behind each colon and before the closing sign. -/
structure Layout where
  gap : Text
  space : Text
  last : Text
  isGap_gap : IsGap gap
  isGap_space : IsGap space
  isGap_last : IsGap last

namespace Layout

def compact : Layout :=
  ⟨[], [], [], by simp [IsGap], by simp [IsGap], by simp [IsGap]⟩

def indented (depth : Nat) : Layout :=
  ⟨newline (depth + 1), [' '], newline depth, isGap_newline _, by simp [IsGap, isSpace],
    isGap_newline _⟩

variable (l : Layout)

def member (m : Text × Value) : Text := quote m.1 ++ ':' :: (l.space ++ m.2.compact)

def object (ms : List (Text × Value)) : Text :=
  '\x7b' :: (pieces l.gap true (ms.map l.member) ++ (l.last ++ ['\x7d']))

def array (ts : List Text) : Text := '[' :: (pieces l.gap true ts ++ (l.last ++ [']']))

theorem member_ne_nil (m : Text × Value) : l.member m ≠ [] := by simp [member, quote]

theorem object_ne_nil (ms : List (Text × Value)) : l.object ms ≠ [] := by simp [object]

theorem object_append (ms : List (Text × Value)) (t : Text) : l.object ms ++ t =
    '\x7b' :: (pieces l.gap true (ms.map l.member) ++ (l.last ++ '\x7d' :: t)) := by
  simp [object]

end Layout

theorem compactMembers_eq : ∀ ms : List (Text × Value),
    compactMembers ms = pieces [] true (ms.map Layout.compact.member)
  | [] => rfl
  | [(k, v)] => by simp [compactMembers, pieces, Layout.member, Layout.compact]
  | (k, v) :: m :: ms => by
    rw [compactMembers, compactMembers_eq (m :: ms), List.map_cons, List.map_cons,
      ← pieces_comma]
    · simp [pieces, Layout.member, Layout.compact]
    · simp

theorem compact_object (ms : List (Text × Value)) :
    (Value.object ms).compact = Layout.compact.object ms := by
  rw [Value.compact, compactMembers_eq]
  rfl

def Value.IsFlat (v : Value) : Prop := ∀ depth, v.pretty depth = v.compact

theorem prettyMembers_eq (depth : Nat) : ∀ ms : List (Text × Value), (∀ m ∈ ms, m.2.IsFlat) →
    prettyMembers (depth + 1) ms =
      pieces (newline (depth + 1)) true (ms.map (Layout.indented depth).member)
  | [], _ => rfl
  | [(k, v)], h => by
    simp [prettyMembers, pieces, Layout.member, Layout.indented,
      h (k, v) List.mem_cons_self (depth + 1)]
  | (k, v) :: m :: ms, h => by
    rw [prettyMembers, prettyMembers_eq depth (m :: ms) fun n hn => h n (List.mem_cons_of_mem _ hn),
      List.map_cons, List.map_cons, ← pieces_comma, h (k, v) List.mem_cons_self (depth + 1)]
    · simp [pieces, Layout.member, Layout.indented]
    · simp

theorem pretty_object {ms : List (Text × Value)} (hms : ms ≠ []) (h : ∀ m ∈ ms, m.2.IsFlat)
    (depth : Nat) : (Value.object ms).pretty depth = (Layout.indented depth).object ms := by
  rw [Value.pretty, prettyMembers_eq _ ms h, Layout.object, List.append_assoc]
  · rfl
  · exact hms

theorem prettyItems_eq (depth : Nat) : ∀ vs : List Value,
    prettyItems depth vs = pieces (newline depth) true (vs.map (·.pretty depth))
  | [] => rfl
  | [v] => by simp [prettyItems, pieces]
  | v :: w :: vs => by
    rw [prettyItems, prettyItems_eq depth (w :: vs), List.map_cons, List.map_cons,
      ← pieces_comma]
    · simp [pieces]
    · simp

theorem pretty_array {vs : List Value} (hvs : vs ≠ []) (depth : Nat) :
    (Value.array vs).pretty depth =
      (Layout.indented depth).array (vs.map (·.pretty (depth + 1))) := by
  rw [Value.pretty, prettyItems_eq, Layout.array, List.append_assoc]
  · rfl
  · exact hvs

theorem endsNumber_gap {gap t : Text} (hgap : IsGap gap) (ht : EndsNumber t) :
    EndsNumber (gap ++ t) := by
  cases gap with
  | nil => exact ht
  | cons c gap =>
    intro d hd
    obtain rfl : c = d := by simpa using hd
    have hc := hgap c List.mem_cons_self
    simp only [isSpace, Bool.or_eq_true, beq_iff_eq] at hc
    obtain ((rfl | rfl) | rfl) | rfl := hc <;> decide

namespace Reader
variable {α : Type} {gap t : Text}

theorem nextName_pieces (l : Layout) (first : Bool) (m : Text × Value) (ts : List Text)
    (t : Text) :
    nextName first (pieces l.gap first (l.member m :: ts) ++ t) =
      .ok (some m.1, ':' :: (l.space ++ (m.2.compact ++ (pieces l.gap false ts ++ t)))) := by
  have htext : pieces l.gap first (l.member m :: ts) ++ t =
      (if first then [] else [',']) ++ (l.gap ++ (quote m.1 ++
        ':' :: (l.space ++ (m.2.compact ++ (pieces l.gap false ts ++ t))))) := by
    simp [pieces, Layout.member]
  rw [htext]
  cases first with
  | false => exact nextName_next l.isGap_gap _ _
  | true => exact (nextName_gap true l.isGap_gap _).trans (nextName_first _ _)

theorem nextItem_pieces (hgap : IsGap gap) (first : Bool) (u : Text) (ts : List Text)
    (t : Text) :
    nextItem first (pieces gap first (('\x7b' :: u) :: ts) ++ t) =
      .ok (.more, '\x7b' :: u ++ (pieces gap false ts ++ t)) := by
  have htext : pieces gap first (('\x7b' :: u) :: ts) ++ t =
      (if first then [] else [',']) ++ (gap ++ '\x7b' :: (u ++ (pieces gap false ts ++ t))) := by
    simp [pieces]
  rw [htext]
  cases first with
  | false => exact nextItem_next hgap _
  | true => exact (nextItem_gap true hgap _).trans (nextItem_first _)

theorem oneOf_quote {names : List (String × α)} {k : Text} {p : String × α}
    (hk : (names.find? fun p => p.1.toList == k) = some p) (hgap : IsGap gap) (t : Text) :
    oneOf names (gap ++ (quote k ++ t)) = .ok (p.2, t) := by
  rw [quote_append, oneOf, bind_peek_gap hgap, bind_peek_cons (by decide)]
  refine (bind_of_ok (skip_cons '"' _) _).trans ?_
  refine (bind_of_ok (stringBody_escape k t) _).trans ?_
  simp only [hk]
  rfl

theorem optional_of_ne {r : Reader α} {c : Char} (hc : isSpace c = false) (hn : c ≠ 'n')
    (hgap : IsGap gap) (t : Text) :
    optional r (gap ++ c :: t) = (some <$> r) (c :: t) := by
  rw [optional, bind_peek_gap hgap, bind_peek_cons hc]
  refine congrFun ?_ _
  split
  · exact absurd (Option.some.inj ‹_›) hn
  · rfl

end Reader

end EndpointScout.Json
