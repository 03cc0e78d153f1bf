import EndpointScout.Proofs.Script.Parts
import Mathlib.Data.List.Perm.Subperm

/-! No string of a script gets lost in its tree, however deep it lies: not where the parts of a
node are taken by their roles, not where the pieces of a template are joined, and not where syntax
that is nested too deep is cut down to its leaves. -/
namespace EndpointScout.Script

theorem subperm_flatMap {α β : Type} {f g : α → List β} {as : List α}
    (h : ∀ a ∈ as, (f a).Subperm (g a)) : (as.flatMap f).Subperm (as.flatMap g) := by
  induction as with
  | nil => exact List.nil_subperm
  | cons a as ih =>
    obtain ⟨ha, has⟩ := List.forall_mem_cons.1 h
    exact ha.append (ih has)

namespace Tree

def values (t : Tree) : List Text := t.string?.toList

def spelled : Tree → List Text
  | literal (.string t) => [t]
  | template quasis _ => quasis
  | _ => []

theorem isTextual_values : IsTextual values where
  program _ := rfl
  call _ _ := rfl
  member _ _ _ := rfl
  other _ _ := rfl

theorem isTextual_spelled : IsTextual spelled where
  program _ := rfl
  call _ _ := rfl
  member _ _ _ := rfl
  other _ _ := rfl

theorem eq_literal_of_string? {t : Tree} {x : Text} (h : t.string? = some x) :
    t = .literal (.string x) := by
  rw [string?.eq_def] at h
  split at h
  · rw [Option.some.inj h]
  · cases h

theorem exists_spelled_buildTemplate {ts : List Tree} {t : Tree} (ht : t ∈ ts) {y : Text}
    (hy : y ∈ t.gather spelled) : ∃ z ∈ (buildTemplate ts).gather spelled, y <:+: z := by
  rw [gather_buildTemplate isTextual_spelled]
  cases hstring : t.string? with
  | some x =>
    obtain rfl := eq_literal_of_string? hstring
    rw [gather_literal, spelled, List.mem_singleton] at hy
    obtain ⟨q, hq, hx⟩ := exists_quasi_of_mem ht []
    exact ⟨q, List.mem_append_left _ hq, hy ▸ hx⟩
  | none =>
    refine ⟨y, List.mem_append_right _ (List.mem_flatMap.2 ⟨t, ht, ?_⟩), List.infix_rfl⟩
    rwa [gatherBeside, hstring]

end Tree

namespace Syntax

def value? (s : Syntax) : Option Text := if s.kind = "string" then some s.stringText else none

def values (s : Syntax) : List Text := s.value?.toList

def isTemplate (s : Syntax) : Bool :=
  s.kind == "template_string" || s.kind == "template_literal_type"

/-- The texts that stand between the substitutions of a template, one for each piece. -/
def fragments (s : Syntax) : List Text :=
  if s.isTemplate then (s.parts.filter isPiece).map pieceText else []

/-- What the grammars make of a node: a token has no strings inside and a mark has nothing at all,
calls and member accesses have two parts with roles, and perhaps a mark, and a template has no
string but in its substitutions. -/
structure IsFormed (s : Syntax) : Prop where
  token : isToken s.kind → ∀ c ∈ s.children, c.kind ≠ "string" ∧ c.children = []
  mark : s.isComment ∨ s.kind = "optional_chain" → s.children = []
  roles : ∀ r ∈ rolesOf s.kind, (s.parts.filterMap field).Nodup ∧
    ∀ p ∈ s.parts, p.field = some r.1 ∨ p.field = some r.2 ∨ p.kind = "optional_chain"
  template : s.kind = "template_string" → ∀ p ∈ s.parts, p.kind ≠ "string"

instance : DecidablePred IsFormed := fun s =>
  decidable_of_iff
    ((isToken s.kind → ∀ c ∈ s.children, c.kind ≠ "string" ∧ c.children = []) ∧
      (s.isComment ∨ s.kind = "optional_chain" → s.children = []) ∧
      (∀ r ∈ rolesOf s.kind, (s.parts.filterMap field).Nodup ∧
        ∀ p ∈ s.parts, p.field = some r.1 ∨ p.field = some r.2 ∨ p.kind = "optional_chain") ∧
      (s.kind = "template_string" → ∀ p ∈ s.parts, p.kind ≠ "string"))
    ⟨fun h => ⟨h.1, h.2.1, h.2.2.1, h.2.2.2⟩, fun h => ⟨h.token, h.mark, h.roles, h.template⟩⟩

def AllFormed (s : Syntax) : Prop := ∀ v ∈ s.nodes, v.IsFormed

instance : DecidablePred AllFormed := fun s =>
  inferInstanceAs (Decidable (∀ v ∈ s.nodes, v.IsFormed))

section Formed
variable {s c : Syntax} (hs : s.AllFormed)
include hs

theorem AllFormed.isFormed : s.IsFormed := hs s s.mem_nodes

theorem AllFormed.of_mem_children (hc : c ∈ s.children) : c.AllFormed := by
  intro v hv
  rw [AllFormed, nodes_eq] at hs
  exact hs v (List.mem_cons_of_mem _ (List.mem_flatMap.2 ⟨c, hc, hv⟩))

theorem AllFormed.of_mem_parts (hc : c ∈ s.parts) : c.AllFormed :=
  hs.of_mem_children (List.mem_filter.1 hc).1

end Formed

theorem values_of_kind {s : Syntax} (h : s.kind ≠ "string") : s.values = [] := by
  simp [values, value?, h]

theorem fragments_of_children {s : Syntax} (h : s.children = []) : s.fragments = [] := by
  simp [fragments, parts, h]

theorem fragments_of_leaf? {s : Syntax} {t : Tree} (h : s.leaf? = some t) : s.fragments = [] := by
  by_cases htemplate : s.isTemplate = true
  · have hkind : isToken s.kind = false := by
      obtain hkind | hkind : s.kind = "template_string" ∨ s.kind = "template_literal_type" := by
        simpa [isTemplate] using htemplate
      · rw [hkind]
        decide
      · rw [hkind]
        decide
    refine fragments_of_children ((isToken_or_of_leaf? h).resolve_left ?_)
    exact ne_true_of_eq_false hkind
  · simp [fragments, htemplate]

/-- A tree holds the strings of some syntax, each as often as it occurs there, and the texts of
its templates. -/
structure Keeps (s : Syntax) (t : Tree) : Prop where
  values : (s.gather values).Subperm (t.gather Tree.values)
  fragments : ∀ x ∈ s.gather fragments, ∃ y ∈ t.gather Tree.spelled, x <:+: y

theorem IsFormed.token_of_leaf? {s : Syntax} {t : Tree} (hs : s.IsFormed) (h : s.leaf? = some t) :
    ∀ c ∈ s.children, c.kind ≠ "string" ∧ c.children = [] := by
  obtain htoken | hchildren := isToken_or_of_leaf? h
  · exact hs.token htoken
  · simp [hchildren]

theorem IsFormed.gather_token {s : Syntax} {t : Tree} (hs : s.IsFormed) (h : s.leaf? = some t) :
    s.gather Syntax.values = s.values ∧ s.gather Syntax.fragments = [] := by
  have htoken := hs.token_of_leaf? h
  have hvalues : s.children.flatMap (gather Syntax.values) = [] := by
    refine List.flatMap_eq_nil_iff.2 fun c hc => ?_
    obtain ⟨hkind, hchildren⟩ := htoken c hc
    rw [gather_eq, values_of_kind hkind, hchildren]
    rfl
  have hfragments : s.children.flatMap (gather Syntax.fragments) = [] := by
    refine List.flatMap_eq_nil_iff.2 fun c hc => ?_
    obtain ⟨-, hchildren⟩ := htoken c hc
    rw [gather_eq, fragments_of_children hchildren, hchildren]
    rfl
  rw [gather_eq, gather_eq, hvalues, hfragments, fragments_of_leaf? h]
  exact ⟨List.append_nil _, rfl⟩

theorem keeps_leaf {s : Syntax} {t : Tree} (hs : s.IsFormed) (h : s.leaf? = some t) :
    s.Keeps t := by
  obtain ⟨hvalues, hfragments⟩ := hs.gather_token h
  refine ⟨?_, by simp [hfragments]⟩
  rw [hvalues]
  by_cases hstring : s.kind = "string"
  · rw [leaf?_of_string hstring] at h
    obtain rfl := Option.some.inj h
    rw [Tree.gather_literal, Syntax.values, value?, if_pos hstring]
    exact List.Subperm.refl _
  · rw [values_of_kind hstring]
    exact List.nil_subperm

theorem IsFormed.gather_mark {s : Syntax} (hs : s.IsFormed)
    (hmark : s.isComment = true ∨ s.kind = "optional_chain") :
    s.gather Syntax.values = [] ∧ s.gather Syntax.fragments = [] := by
  have hchildren := hs.mark hmark
  have hkind : s.kind ≠ "string" := by
    intro hkind
    simp [isComment, hkind] at hmark
  rw [gather_eq, gather_eq, values_of_kind hkind, fragments_of_children hchildren, hchildren]
  exact ⟨rfl, rfl⟩

theorem flatMap_parts {m : Syntax → List Text} {s : Syntax}
    (hm : ∀ c ∈ s.children, c.isComment = true → c.gather m = []) :
    s.children.flatMap (gather m) = s.parts.flatMap (gather m) := by
  rw [parts]
  generalize s.children = cs at hm
  induction cs with
  | nil => rfl
  | cons c cs ih =>
    obtain ⟨hc, hcs⟩ := List.forall_mem_cons.1 hm
    rw [List.filter_cons, List.flatMap_cons, ih hcs]
    cases hcomment : c.isComment with
    | true => simp [hc hcomment]
    | false => simp

section Parts
variable {s : Syntax} (hs : s.AllFormed)
include hs

theorem AllFormed.gather_values (hkind : s.kind ≠ "string") :
    s.gather Syntax.values = s.parts.flatMap (gather Syntax.values) := by
  rw [gather_eq, values_of_kind hkind, List.nil_append, flatMap_parts]
  intro c hc hcomment
  exact ((hs.of_mem_children hc).isFormed.gather_mark (.inl hcomment)).1

theorem AllFormed.gather_fragments :
    s.gather Syntax.fragments = s.fragments ++ s.parts.flatMap (gather Syntax.fragments) := by
  rw [gather_eq, flatMap_parts]
  intro c hc hcomment
  exact ((hs.of_mem_children hc).isFormed.gather_mark (.inl hcomment)).2

theorem AllFormed.exists_spelled {t : Tree} {tree : Syntax → Tree}
    (hparts : ∀ p ∈ s.parts, p.Keeps (tree p))
    (hpieces : ∀ p ∈ s.parts, p.isPiece = true → p.pieceText ∈ (tree p).gather Tree.spelled)
    (ht : ∀ p ∈ s.parts, ∀ y ∈ (tree p).gather Tree.spelled,
      ∃ z ∈ t.gather Tree.spelled, y <:+: z) :
    ∀ x ∈ s.gather Syntax.fragments, ∃ y ∈ t.gather Tree.spelled, x <:+: y := by
  intro x hx
  rw [hs.gather_fragments] at hx
  obtain hx | hx := List.mem_append.1 hx
  · have hown : x ∈ (s.parts.filter isPiece).map pieceText := by
      rw [Syntax.fragments] at hx
      split at hx
      · exact hx
      · cases hx
    obtain ⟨p, hp, rfl⟩ := List.mem_map.1 hown
    obtain ⟨hp, hpiece⟩ := List.mem_filter.1 hp
    exact ht p hp _ (hpieces p hp hpiece)
  · obtain ⟨p, hp, hx⟩ := List.mem_flatMap.1 hx
    obtain ⟨y, hy, hxy⟩ := (hparts p hp).fragments x hx
    obtain ⟨z, hz, hyz⟩ := ht p hp y hy
    exact ⟨z, hz, hxy.trans hyz⟩

end Parts

theorem mem_spelled_of_isPiece {s : Syntax} (h : s.isPiece = true) {t : Tree}
    (ht : s.leaf? = some t) : s.pieceText ∈ t.gather Tree.spelled := by
  rw [leaf?_of_isPiece h] at ht
  obtain rfl := Option.some.inj ht
  simp [Tree.gather_literal, Tree.spelled]

theorem keeps_leaves (s : Syntax) (hs : s.AllFormed) (kind : Text) :
    s.Keeps (.other kind s.leaves) := by
  induction s using induct with
  | step s ih =>
    have hparts : ∀ p ∈ s.parts, p.Keeps (.other kind p.leaves) := fun p hp =>
      ih p (List.mem_filter.1 hp).1 (hs.of_mem_parts hp)
    cases hleaf : s.leaf? with
    | some t =>
      obtain ⟨hvalues, hfragments⟩ := keeps_leaf hs.isFormed hleaf
      have hone {m : Tree → List Text} (hm : Tree.IsTextual m) :
          (Tree.other kind s.leaves).gather m = t.gather m := by
        rw [Tree.gather_other hm, leaves_of_leaf? hleaf, List.flatMap_singleton]
      refine ⟨?_, ?_⟩
      · rwa [hone Tree.isTextual_values]
      · rwa [hone Tree.isTextual_spelled]
    | none =>
      have hall {m : Tree → List Text} (hm : Tree.IsTextual m) :
          (Tree.other kind s.leaves).gather m =
            s.parts.flatMap fun p => (Tree.other kind p.leaves).gather m := by
        simp only [Tree.gather_other hm, leaves_of_leaf?_none hleaf, List.flatMap_assoc]
      refine ⟨?_, hs.exists_spelled hparts ?_ fun p hp y hy => ⟨y, ?_, List.infix_rfl⟩⟩
      · rw [hs.gather_values (kind_ne_of_leaf?_none hleaf), hall Tree.isTextual_values]
        exact subperm_flatMap fun p hp => (hparts p hp).values
      · intro p hp hpiece
        rw [Tree.gather_other Tree.isTextual_spelled, leaves_of_leaf? (leaf?_of_isPiece hpiece),
          List.flatMap_singleton]
        exact mem_spelled_of_isPiece hpiece (leaf?_of_isPiece hpiece)
      · rw [hall Tree.isTextual_spelled]
        exact List.mem_flatMap.2 ⟨p, hp, hy⟩

theorem gather_loweredPart_mark {s : Syntax} {depth : Nat} {m : Tree → List Text}
    (hs : s.IsFormed) (hm : Tree.IsTextual m) (h : s.kind = "optional_chain") :
    (s.loweredPart depth).gather m = [] := by
  have hkind : isToken s.kind = false := by
    rw [h]
    decide
  have hleaf : s.leaf? = some (.other s.kind.toList []) := by
    rw [leaf?_of_not_isToken hkind, hs.mark (.inr h)]
    rfl
  rw [loweredPart_of_leaf? hleaf, Tree.gather_other hm]
  rfl

section Build
variable {s : Syntax} (hs : s.AllFormed) (depth : Nat)
include hs

theorem AllFormed.perm_gather_build {m : Tree → List Text} (hm : Tree.IsTextual m)
    (htemplate : s.kind ≠ "template_string") :
    ((build s.kind (s.parts.map fun p => (p.field, p.loweredPart depth))).gather m).Perm
      (s.parts.flatMap fun p => (p.loweredPart depth).gather m) := by
  let parts : List Part := s.parts.map fun p => (p.field, p.loweredPart depth)
  have hroles : ∀ r ∈ rolesOf s.kind, (parts.filterMap Prod.fst).Nodup ∧
      ∀ p ∈ parts, p.1 = some r.1 ∨ p.1 = some r.2 ∨ p.2.gather m = [] := by
    intro r hr
    obtain ⟨hnodup, hroles⟩ := hs.isFormed.roles r hr
    refine ⟨?_, List.forall_mem_map.2 fun p hp => ?_⟩
    · rwa [List.filterMap_map]
    · obtain h | h | h := hroles p hp
      · exact .inl h
      · exact .inr (.inl h)
      · exact .inr (.inr (gather_loweredPart_mark (hs.of_mem_parts hp).isFormed hm h))
  have hbuild := Script.perm_gather_build hm htemplate hroles
  rwa [gatherParts, List.flatMap_map] at hbuild

theorem AllFormed.subperm_gatherBeside (htemplate : s.kind = "template_string") {p : Syntax}
    (hp : p ∈ s.parts) (hkeeps : p.Keeps (p.loweredPart depth)) :
    (p.gather Syntax.values).Subperm (gatherBeside Tree.values (p.loweredPart depth)) := by
  rw [gatherBeside]
  split
  · rename_i hstring
    have hkind := hs.isFormed.template htemplate p hp
    have hpiece := (kind_of_string?_loweredPart hstring).resolve_left hkind
    rw [((hs.of_mem_parts hp).isFormed.gather_token (leaf?_of_isPiece hpiece)).1,
      values_of_kind hkind]
  · exact hkeeps.values

theorem AllFormed.keeps_build (hkind : s.kind ≠ "string")
    (hparts : ∀ p ∈ s.parts, p.Keeps (p.loweredPart depth)) :
    s.Keeps (build s.kind (s.parts.map fun p => (p.field, p.loweredPart depth))) := by
  have hpieces : ∀ p ∈ s.parts, p.isPiece = true →
      p.pieceText ∈ (p.loweredPart depth).gather Tree.spelled := by
    intro p hp hpiece
    have hleaf := leaf?_of_isPiece hpiece
    rw [loweredPart_of_leaf? hleaf]
    exact mem_spelled_of_isPiece hpiece hleaf
  -- Only in a template are strings joined to a text, and then they are no values of their own.
  by_cases htemplate : s.kind = "template_string"
  · let ts := s.parts.map fun p => p.loweredPart depth
    have hbuild : build s.kind (s.parts.map fun p => (p.field, p.loweredPart depth)) =
        buildTemplate ts := by
      rw [htemplate]
      show buildTemplate ((s.parts.map _).map _) = _
      rw [List.map_map]
      rfl
    rw [hbuild]
    refine ⟨?_, hs.exists_spelled hparts hpieces fun p hp y hy => ?_⟩
    · rw [hs.gather_values hkind, gather_buildTemplate Tree.isTextual_values]
      show (s.parts.flatMap _).Subperm (ts.flatMap _)
      rw [List.flatMap_map]
      exact subperm_flatMap fun p hp => hs.subperm_gatherBeside depth htemplate hp (hparts p hp)
    · exact Tree.exists_spelled_buildTemplate (List.mem_map_of_mem hp) hy
  · have hvalues := hs.perm_gather_build depth Tree.isTextual_values htemplate
    have hspelled := hs.perm_gather_build depth Tree.isTextual_spelled htemplate
    refine ⟨?_, hs.exists_spelled hparts hpieces fun p hp y hy => ⟨y, ?_, List.infix_rfl⟩⟩
    · rw [hs.gather_values hkind]
      exact (subperm_flatMap fun p hp => (hparts p hp).values).trans hvalues.symm.subperm
    · exact hspelled.mem_iff.2 (List.mem_flatMap.2 ⟨p, hp, hy⟩)

end Build

/-- However many nodes are around it: the tree of some syntax holds what the syntax holds. -/
theorem keeps_lowered (s : Syntax) (hs : s.AllFormed) (depth : Nat) (hkind : s.kind ≠ "string") :
    s.Keeps (s.lowered depth) := by
  -- The induction is on the syntax alone: the depth only decides which parts are cut down.
  induction s using induct generalizing depth with
  | step s ih =>
    rw [lowered_eq]
    refine hs.keeps_build _ hkind fun p hp => ?_
    have hp' := hs.of_mem_parts hp
    rw [loweredPart, closed?]
    cases hleaf : p.leaf? with
    | some t => exact keeps_leaf hp'.isFormed hleaf
    | none =>
      simp only
      split
      · rw [flattened_eq]
        exact keeps_leaves p hp' _
      · exact ih p (List.mem_filter.1 hp).1 hp' _ (kind_ne_of_leaf?_none hleaf)

/-- However deep a script is nested: if no request to stop is seen, it has a tree, and in whatever
tree it has, the values of its strings stand as strings, each as often as it occurs in the script,
and the text of every piece of a template stands in a piece of a template or in a string. -/
theorem lower_keeps_strings (s : Syntax) (hroot : s.kind ≠ "string") (hs : s.AllFormed) :
    (∃ t, s.lower (fun _ => false) = some t) ∧
    ∀ cancel t, s.lower cancel = some t →
      (s.nodes.filterMap value?).Subperm (t.breadthFirst.filterMap Tree.string?) ∧
      ∀ v ∈ s.nodes, v.isTemplate = true → ∀ w ∈ v.parts, w.isPiece = true →
        ∃ u ∈ t.breadthFirst, ∃ y ∈ u.spelled, w.pieceText <:+: y := by
  refine ⟨⟨_, s.lower_never⟩, fun cancel t ht => ?_⟩
  obtain rfl := eq_lowered_of_lower ht
  have hwalk := (s.lowered 0).perm_breadthFirst
  obtain ⟨hvalues, hfragments⟩ := keeps_lowered s hs 0 hroot
  refine ⟨?_, fun v hv htemplate w hw hpiece => ?_⟩
  · have hstrings : (s.nodes.filterMap value?).Subperm
        ((s.lowered 0).nodes.filterMap Tree.string?) := by
      rw [List.filterMap_eq_flatMap_toList, List.filterMap_eq_flatMap_toList]
      exact hvalues
    exact hstrings.trans (hwalk.symm.filterMap _).subperm
  · have hx : w.pieceText ∈ s.gather Syntax.fragments := by
      refine List.mem_flatMap.2 ⟨v, hv, ?_⟩
      rw [Syntax.fragments, if_pos htemplate]
      exact List.mem_map_of_mem (List.mem_filter.2 ⟨hw, hpiece⟩)
    obtain ⟨y, hy, hxy⟩ := hfragments _ hx
    obtain ⟨u, hu, hy⟩ := List.mem_flatMap.1 hy
    exact ⟨u, hwalk.mem_iff.2 hu, y, hy, hxy⟩

def arraysAround : Nat → Syntax → Syntax
  | 0, s => s
  | n + 1, s => .node none "array" [] [arraysAround n s]

theorem mem_nodes_arraysAround (n : Nat) {s v : Syntax} (h : v ∈ s.nodes) :
    v ∈ (arraysAround n s).nodes := by
  induction n with
  | zero => exact h
  | succ n ih => simp [arraysAround, nodes, nodesAll, ih]

def quotedTemplate : Syntax :=
  .node none "template_string" []
    [.node none "string_fragment" "/b/".toList [],
      .node none "template_substitution" []
        [.node none "string" [] [.node none "string_fragment" "c".toList []]]]

def deepScript : Syntax := .node none "program" [] [arraysAround maxDepth quotedTemplate]

theorem lower_keeps_strings_deep : deepScript.kind ≠ "string" ∧ deepScript.AllFormed ∧
    quotedTemplate ∈ deepScript.nodes ∧
    ∃ t, deepScript.lower (fun _ => false) = some t ∧
      ["c".toList].Subperm (t.breadthFirst.filterMap Tree.string?) ∧
      ∃ u ∈ t.breadthFirst, ∃ y ∈ u.spelled, "/b/".toList <:+: y := by
  have hroot : deepScript.kind ≠ "string" := by decide
  have hformed : deepScript.AllFormed := by decide +kernel
  have hstrings : deepScript.nodes.filterMap value? = ["c".toList] := by decide +kernel
  have htemplate : quotedTemplate ∈ deepScript.nodes := by
    rw [deepScript, nodes_eq, children, List.flatMap_singleton]
    exact List.mem_cons_of_mem _ (mem_nodes_arraysAround maxDepth quotedTemplate.mem_nodes)
  obtain ⟨⟨t, ht⟩, hkeeps⟩ := lower_keeps_strings deepScript hroot hformed
  obtain ⟨hvalues, hpieces⟩ := hkeeps _ t ht
  rw [hstrings] at hvalues
  refine ⟨hroot, hformed, htemplate, t, ht, hvalues, ?_⟩
  exact hpieces quotedTemplate htemplate rfl (.node none "string_fragment" "/b/".toList [])
    (List.mem_filter.2 ⟨List.mem_cons_self, rfl⟩) rfl

end Syntax

end EndpointScout.Script
