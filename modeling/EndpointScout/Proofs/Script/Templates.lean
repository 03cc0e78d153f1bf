import EndpointScout.Proofs.Script.Parts

/-! Templates. The tree of a template has one text more than the template has substitutions: what
stands in front of the first one, between each two and behind the last. Only a template without
any text or substitution has none of these, since it is taken for a leaf of no particular form. -/
namespace EndpointScout.Script.Syntax

def isSubstitution (s : Syntax) : Bool := s.kind == "template_substitution"

def quasiTexts (s : Syntax) : List Text :=
  (s.parts.splitOnP isSubstitution).map fun ps => ps.flatMap pieceText

/-- The trees in a substitution that has `depth` nodes around it: those of its parts or, if it lies
too deep, their leaves. -/
def heldTrees (depth : Nat) (s : Syntax) : List Tree :=
  if maxDepth ≤ depth then s.parts.flatMap leaves else s.parts.map (loweredPart (depth + 1))

theorem length_splitOnP {α : Type} (p : α → Bool) (xs : List α) :
    (xs.splitOnP p).length = xs.countP p + 1 := by
  induction xs with
  | nil => rfl
  | cons x xs ih =>
    rw [List.splitOnP_cons_eq_if_modifyHead, List.countP_cons]
    split
    · rw [List.length_cons, ih]
    · rw [List.length_modifyHead, ih]

theorem length_quasiTexts (s : Syntax) :
    s.quasiTexts.length = s.parts.countP isSubstitution + 1 := by
  rw [quasiTexts, List.length_map, length_splitOnP]

theorem leaf?_eq_none_iff {s : Syntax} (h : isToken s.kind = false) :
    s.leaf? = none ↔ s.children ≠ [] := by
  rw [leaf?_of_not_isToken h]
  split
  · rename_i hempty
    simp [List.isEmpty_iff.1 hempty]
  · rename_i hempty
    simp [List.isEmpty_iff] at hempty
    simp [hempty]

theorem loweredPart_substitution {s : Syntax} (h : s.isSubstitution = true) (depth : Nat) :
    s.loweredPart depth = .other "template_substitution".toList (s.heldTrees depth) := by
  have hkind : s.kind = "template_substitution" := by simpa [isSubstitution] using h
  have htoken : isToken s.kind = false := by
    rw [hkind]
    decide
  by_cases hempty : s.children = []
  · have hparts : s.parts = [] := by simp [parts, hempty]
    have hleaf : s.leaf? = some (.other s.kind.toList []) := by
      simp [leaf?_of_not_isToken htoken, hempty]
    rw [loweredPart_of_leaf? hleaf, hkind]
    simp [heldTrees, hparts]
  · have hleaf : s.leaf? = none := (leaf?_eq_none_iff htoken).2 hempty
    rw [loweredPart, closed?, hleaf, heldTrees]
    simp only
    split
    · rw [Option.getD_some, flattened_eq, leaves_of_leaf?_none hleaf, hkind]
    · rw [Option.getD_none, lowered_eq, hkind]
      simp [build]

theorem templateGo_string (current piece : Text) (ts : List Tree) :
    templateGo current (.literal (.string piece) :: ts) = templateGo (current ++ piece) ts := by
  rw [templateGo]

theorem templateGo_substitution (current : Text) (held ts : List Tree) :
    templateGo current (.other "template_substitution".toList held :: ts) =
      (current :: (templateGo [] ts).1, held ++ (templateGo [] ts).2) := by
  rw [templateGo, if_pos rfl]

/-- The parts of a template are cut at its substitutions; `current` is text that is already
there. -/
theorem templateGo_parts (depth : Nat) (current : Text) {ps : List Syntax}
    (hps : ∀ p ∈ ps, p.isPiece = true ∨ p.isSubstitution = true) :
    templateGo current (ps.map (loweredPart depth)) =
      (((ps.splitOnP isSubstitution).map fun qs => qs.flatMap pieceText).modifyHead (current ++ ·),
        (ps.filter isSubstitution).flatMap (heldTrees depth)) := by
  induction ps generalizing current with
  | nil => simp [templateGo]
  | cons p ps ih =>
    obtain ⟨hp, hps⟩ := List.forall_mem_cons.1 hps
    obtain ⟨texts, rest, hsplit⟩ := List.exists_cons_of_ne_nil
      (List.splitOnP_ne_nil isSubstitution ps)
    rw [List.map_cons, List.splitOnP_cons_eq_if_modifyHead]
    by_cases hsub : p.isSubstitution = true
    · rw [loweredPart_substitution hsub, templateGo_substitution, ih [] hps, if_pos hsub,
        List.filter_cons_of_pos hsub, hsplit]
      simp
    · have hpiece : p.isPiece = true := hp.resolve_right hsub
      rw [loweredPart_of_leaf? (leaf?_of_isPiece hpiece), templateGo_string, ih _ hps, if_neg hsub,
        List.filter_cons_of_neg hsub, hsplit]
      simp

section Template
variable {s : Syntax} (hkind : s.kind = "template_string")
include hkind

theorem lowered_template (hparts : ∀ p ∈ s.parts, p.isPiece = true ∨ p.isSubstitution = true)
    (depth : Nat) : s.lowered depth =
      .template s.quasiTexts
        ((s.parts.filter isSubstitution).flatMap (heldTrees (depth + 1))) := by
  have htrees : (s.parts.map fun p => (p.field, p.loweredPart (depth + 1))).map (fun p => p.2) =
      s.parts.map (loweredPart (depth + 1)) := by simp
  have hgo := templateGo_parts (depth + 1) [] hparts
  have hhead : s.quasiTexts.modifyHead ([] ++ ·) = s.quasiTexts := by
    cases s.quasiTexts <;> rfl
  rw [← quasiTexts, hhead] at hgo
  rw [lowered_eq, hkind]
  show buildTemplate _ = _
  rw [htrees, buildTemplate, hgo]

theorem isToken_template : isToken s.kind = false := by
  rw [hkind]
  decide

theorem loweredPart_template {depth : Nat} (hdepth : depth < maxDepth) :
    s.loweredPart depth =
      if s.children = [] then .other "template_string".toList [] else s.lowered depth := by
  have htoken := isToken_template hkind
  split
  · rename_i hempty
    have hleaf : s.leaf? = some (.other s.kind.toList []) := by
      simp [leaf?_of_not_isToken htoken, hempty]
    rw [loweredPart_of_leaf? hleaf, hkind]
  · rename_i hempty
    have hleaf : s.leaf? = none := (leaf?_eq_none_iff htoken).2 hempty
    rw [loweredPart, closed?, hleaf]
    simp only
    rw [if_neg (Nat.not_le.2 hdepth), Option.getD_none]

end Template

def partSteps (depth : Nat) (s : Syntax) : Nat :=
  (if (s.closed? depth).isSome then 0 else s.steps depth) + 1

theorem lowerGo_part (cancel : Nat → Bool) {s : Syntax} {top : Frame} {waiting : List Syntax}
    (htop : top.waiting = s :: waiting) (fuel : Nat) (outer : List Frame) (n : Nat) :
    lowerGo cancel (s.partSteps (outer.length + 1) + fuel) top outer n =
      if seesStop cancel n (s.partSteps (outer.length + 1)) then none
      else lowerGo cancel fuel
        { top with waiting, done := (s.field, s.loweredPart (outer.length + 1)) :: top.done } outer
        (n + s.partSteps (outer.length + 1)) := by
  cases hclosed : s.closed? (outer.length + 1) with
  | some t =>
    have hsteps : s.partSteps (outer.length + 1) = 1 := by simp [partSteps, hclosed]
    rw [hsteps, Nat.add_comm 1 fuel, lowerGo_succ, htop]
    simp [hclosed, loweredPart]
  | none =>
    have hsteps : s.partSteps (outer.length + 1) = s.steps (outer.length + 1) + 1 := by
      simp [partSteps, hclosed]
    have hopen := lowerGo_open cancel s fuel { top with waiting } outer (n + 1)
    have hend : n + (s.steps (outer.length + 1) + 1) = n + 1 + s.steps (outer.length + 1) := by
      omega
    rw [hsteps, Nat.add_right_comm, lowerGo_succ,
      ite_seesStop_succ cancel n (s.steps (outer.length + 1)), htop, hend]
    simp [hclosed, loweredPart, hopen]

/-- A template of pieces of text and substitutions, in any order, that the machine comes to while
there is room for it under construction, is given a tree. That is a template, with one text more
than there are substitutions, each put together from the pieces between two of them, and with what
stands in the substitutions one after the other, exactly if there is anything in the template. The
tree of an empty one is a leaf. -/
theorem template_splits_iff (s : Syntax) (hkind : s.kind = "template_string")
    (hparts : ∀ p ∈ s.parts, p.isPiece = true ∨ p.isSubstitution = true) (top : Frame)
    (waiting : List Syntax) (htop : top.waiting = s :: waiting) (outer : List Frame)
    (hroom : outer.length + 1 < maxDepth) :
    s.quasiTexts.length = s.parts.countP isSubstitution + 1 ∧
    ∃ (t : Tree) (count : Nat),
      (∀ cancel fuel n, lowerGo cancel (count + fuel) top outer n =
        if seesStop cancel n count then none
        else lowerGo cancel fuel { top with waiting, done := (s.field, t) :: top.done } outer
          (n + count)) ∧
      ((∃ quasis expressions, t = .template quasis expressions) ↔ s.children ≠ []) ∧
      (s.children ≠ [] → t = .template s.quasiTexts
        ((s.parts.filter isSubstitution).flatMap (heldTrees (outer.length + 2)))) ∧
      (s.children = [] → t = .other "template_string".toList []) := by
  have htree := loweredPart_template hkind hroom
  rw [lowered_template hkind hparts] at htree
  refine ⟨s.length_quasiTexts, s.loweredPart (outer.length + 1), s.partSteps (outer.length + 1),
    fun cancel fuel n => lowerGo_part cancel htop fuel outer n, ?_⟩
  rw [htree]
  by_cases hempty : s.children = []
  · simp [hempty]
  · simp [hempty]

def adjacentSubstitutions : Syntax :=
  .node none "template_string" []
    [.node none "template_substitution" [] [.node none "identifier" "a".toList []],
      .node none "template_substitution" [] [.node none "identifier" "b".toList []],
      .node none "string_fragment" "/c".toList [], .node none "escape_sequence" "\\n".toList []]

def emptyTemplate : Syntax := .node none "template_string" [] []

def rootFrame (waiting : List Syntax) : Frame := ⟨none, "program", waiting, []⟩

theorem template_splits_iff_empty :
    (adjacentSubstitutions.kind = "template_string" ∧ emptyTemplate.kind = "template_string" ∧
      (∀ p ∈ adjacentSubstitutions.parts, p.isPiece = true ∨ p.isSubstitution = true) ∧
      (∀ p ∈ emptyTemplate.parts, p.isPiece = true ∨ p.isSubstitution = true) ∧
      (rootFrame [adjacentSubstitutions, emptyTemplate]).waiting =
        [adjacentSubstitutions, emptyTemplate] ∧ ([] : List Frame).length + 1 < maxDepth) ∧
    adjacentSubstitutions.quasiTexts = [[], [], "/c\n".toList] ∧
    emptyTemplate.quasiTexts = [[]] ∧
    ∃ count, ∀ fuel, lowerGo (fun _ => false) (count + fuel)
        (rootFrame [adjacentSubstitutions, emptyTemplate]) [] 0 =
      lowerGo (fun _ => false) fuel ⟨none, "program", [],
        [(none, .other "template_string".toList []),
          (none, .template [[], [], "/c\n".toList]
            [.identifier "a".toList, .identifier "b".toList])]⟩ [] count := by
  have hnever (n count : Nat) : seesStop (fun _ => false) n count = false := by
    rw [← Bool.not_eq_true, seesStop_iff]
    simp
  have hroom : ([] : List Frame).length + 1 < maxDepth := by decide
  have hadjacent : ∀ p ∈ adjacentSubstitutions.parts,
      p.isPiece = true ∨ p.isSubstitution = true := by decide
  have hempty : ∀ p ∈ emptyTemplate.parts, p.isPiece = true ∨ p.isSubstitution = true := by decide
  obtain ⟨-, t, first, hfirst, -, htree, -⟩ := template_splits_iff adjacentSubstitutions rfl
    hadjacent (rootFrame [adjacentSubstitutions, emptyTemplate]) _ rfl [] hroom
  obtain rfl := htree (by decide)
  obtain ⟨-, t', second, hsecond, -, -, htree'⟩ := template_splits_iff emptyTemplate rfl hempty
    { rootFrame [emptyTemplate] with
      done := [(none, .template [[], [], "/c\n".toList]
        [.identifier "a".toList, .identifier "b".toList])] } [] rfl [] hroom
  obtain rfl := htree' rfl
  refine ⟨⟨rfl, rfl, hadjacent, hempty, rfl, hroom⟩, by decide, by decide, first + second,
    fun fuel => ?_⟩
  have hlater := hsecond (fun _ => false) fuel first
  rw [hnever] at hlater
  rw [Nat.add_assoc, hfirst, hnever, Nat.zero_add]
  exact hlater

end EndpointScout.Script.Syntax
