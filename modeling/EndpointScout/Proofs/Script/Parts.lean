import EndpointScout.Proofs.Script.Building
import EndpointScout.Proofs.Script.Lowering

/-! The tree of a node, from the trees of its parts: a part that is a token is taken as a whole,
one that lies too deep is cut down to its leaves, and every other is a node again. -/
namespace EndpointScout.Script.Syntax

def isPiece (s : Syntax) : Bool := s.kind == "string_fragment" || s.kind == "escape_sequence"

theorem leaf?_of_isPiece {s : Syntax} (h : s.isPiece = true) :
    s.leaf? = some (.literal (.string s.pieceText)) := by
  obtain h | h : s.kind = "string_fragment" ∨ s.kind = "escape_sequence" := by
    simpa [isPiece] using h
  · simp [leaf?, isName, pieceText, h]
  · simp [leaf?, isName, pieceText, h]

theorem leaf?_of_string {s : Syntax} (h : s.kind = "string") :
    s.leaf? = some (.literal (.string s.stringText)) := by
  simp [leaf?, isName, h]

/-- The kinds that are taken as a whole, whatever is inside. -/
def isToken (kind : String) : Bool :=
  isName kind ||
    ["string", "number", "true", "false", "null", "regex", "string_fragment",
      "escape_sequence"].contains kind

theorem leaf?_of_not_isToken {s : Syntax} (h : isToken s.kind = false) :
    s.leaf? = if s.children.isEmpty then some (.other s.kind.toList []) else none := by
  obtain ⟨hname, hkind⟩ := Bool.or_eq_false_iff.1 h
  rw [leaf?, if_neg (ne_true_of_eq_false hname)]
  split
  case h_9 => rfl
  all_goals
    rename_i heq
    rw [heq] at hkind
    exact absurd hkind (by decide)

theorem isToken_or_of_leaf? {s : Syntax} {t : Tree} (h : s.leaf? = some t) :
    isToken s.kind = true ∨ s.children = [] := by
  cases htoken : isToken s.kind with
  | true => exact .inl rfl
  | false =>
    rw [leaf?_of_not_isToken htoken] at h
    split at h
    · rename_i hempty
      exact .inr (List.isEmpty_iff.1 hempty)
    · cases h

theorem kind_ne_of_leaf?_none {s : Syntax} (h : s.leaf? = none) : s.kind ≠ "string" := by
  intro hkind
  rw [leaf?_of_string hkind] at h
  cases h

def loweredPart (depth : Nat) (s : Syntax) : Tree := (s.closed? depth).getD (s.lowered depth)

theorem loweredParts_eq (depth : Nat) (ss : List Syntax) :
    loweredParts depth ss =
      (ss.filter fun s => !s.isComment).map fun s => (s.field, s.loweredPart depth) := by
  induction ss with
  | nil => rfl
  | cons s ss ih =>
    cases hcomment : s.isComment with
    | true => simp [loweredParts, hcomment, ih]
    | false =>
      rw [loweredParts_cons depth hcomment, ih, List.filter_cons_of_pos (by simp [hcomment])]
      rfl

theorem lowered_eq (depth : Nat) (s : Syntax) :
    s.lowered depth =
      build s.kind (s.parts.map fun p => (p.field, p.loweredPart (depth + 1))) := by
  cases s with
  | node f k t cs => rw [lowered, loweredParts_eq, kind, parts, children]

theorem loweredPart_of_leaf? {s : Syntax} {t : Tree} (h : s.leaf? = some t) (depth : Nat) :
    s.loweredPart depth = t := by
  rw [loweredPart, closed?, h]
  rfl

theorem kind_of_string?_leaf? {s : Syntax} {t : Tree} (h : s.leaf? = some t)
    (ht : t.string?.isSome = true) : s.kind = "string" ∨ s.isPiece = true := by
  rw [leaf?] at h
  split at h
  · obtain rfl := Option.some.inj h
    cases ht
  · split at h
    case h_1 hkind => exact .inl hkind
    case h_7 hkind => simp [isPiece, hkind]
    case h_8 hkind => simp [isPiece, hkind]
    case h_9 =>
      split at h
      · obtain rfl := Option.some.inj h
        cases ht
      · cases h
    all_goals
      obtain rfl := Option.some.inj h
      cases ht

theorem kind_of_string?_loweredPart {s : Syntax} {depth : Nat}
    (h : (s.loweredPart depth).string?.isSome = true) : s.kind = "string" ∨ s.isPiece = true := by
  cases hleaf : s.leaf? with
  | some t =>
    rw [loweredPart_of_leaf? hleaf] at h
    exact kind_of_string?_leaf? hleaf h
  | none =>
    rw [loweredPart, closed?, hleaf] at h
    simp only at h
    split at h
    · cases h
    · rw [Option.getD_none, lowered_eq, string?_build] at h
      cases h

theorem lower_eq_ite (cancel : Nat → Bool) (s : Syntax) : s.lower cancel =
    if seesStop cancel 0 (s.steps 0) then none else some (s.lowered 0) := by
  obtain ⟨more, hmore⟩ := Nat.exists_eq_add_of_le (s.steps_le_cost 0)
  rw [lower, hmore, Nat.add_assoc, lowerGo_root]

theorem lower_never (s : Syntax) : s.lower (fun _ => false) = some (s.lowered 0) := by
  have hstop : ¬seesStop (fun _ => false) 0 (s.steps 0) = true := by simp [seesStop_iff]
  rw [lower_eq_ite, if_neg hstop]

theorem eq_lowered_of_lower {cancel : Nat → Bool} {s : Syntax} {t : Tree}
    (h : s.lower cancel = some t) : t = s.lowered 0 := by
  rw [lower_eq_ite] at h
  split at h
  · cases h
  · exact (Option.some.inj h).symm

end EndpointScout.Script.Syntax
