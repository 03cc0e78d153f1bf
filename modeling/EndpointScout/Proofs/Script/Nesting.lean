import EndpointScout.Proofs.Script.LevelOrder
import EndpointScout.Proofs.Script.Strings

/-! How deep trees are. However deep a script is nested, the machine that lowers it never has more
than a fixed number of nodes under construction, and its tree has only as many levels as these and
two more: the one of a part that is cut down to its leaves, and the one of the leaves. -/
namespace EndpointScout

namespace Json

mutual

def Value.depth : Value → Nat
  | .null => 0
  | .bool _ => 0
  | .number _ => 0
  | .string _ => 0
  | .array vs => itemDepth vs + 1
  | .object ms => memberDepth ms + 1

def itemDepth : List Value → Nat
  | [] => 0
  | v :: vs => max v.depth (itemDepth vs)

def memberDepth : List (Text × Value) → Nat
  | [] => 0
  | (_, v) :: ms => max v.depth (memberDepth ms)

end

theorem itemDepth_map_string (ts : List Text) : itemDepth (ts.map .string) = 0 := by
  induction ts with
  | nil => rfl
  | cons t ts ih => rw [List.map_cons, itemDepth, ih, Value.depth, Nat.max_self]

end Json

namespace Script

namespace Tree
open Json

/-- The nodes on the way from a tree down to one of its leaves. -/
inductive IsBranch : Tree → List Tree → Prop
  | leaf {t : Tree} (h : t.children = []) : IsBranch t [t]
  | child {t u : Tree} {p : List Tree} (h : u ∈ t.children) (hp : IsBranch u p) :
      IsBranch t (t :: p)

theorem height_lt_of_mem_children {t u : Tree} (h : u ∈ t.children) : u.height < t.height := by
  rw [t.height_eq, Nat.lt_succ_iff]
  exact heights_le_iff.1 le_rfl u h

theorem height_le_succ_iff {t : Tree} {n : Nat} :
    t.height ≤ n + 1 ↔ ∀ u ∈ t.children, u.height ≤ n := by
  rw [height_eq, Nat.succ_le_succ_iff, heights_le_iff]

theorem height_of_children {t : Tree} (h : t.children = []) : t.height = 1 := by
  rw [height_eq, h, heights]

theorem IsBranch.length_le {t : Tree} {p : List Tree} (h : IsBranch t p) : p.length ≤ t.height := by
  induction h with
  | leaf h => simp [height_of_children h]
  | child h _ ih =>
    have hlt := height_lt_of_mem_children h
    rw [List.length_cons]
    omega

theorem exists_height_eq {ts : List Tree} (h : ts ≠ []) : ∃ t ∈ ts, t.height = heights ts := by
  induction ts with
  | nil => exact absurd rfl h
  | cons t ts ih =>
    rw [heights]
    by_cases hts : ts = []
    · exact ⟨t, List.mem_cons_self, by simp [hts, heights]⟩
    · obtain ⟨u, hu, hheight⟩ := ih hts
      obtain hle | hle := Nat.le_total t.height (heights ts)
      · exact ⟨u, List.mem_cons_of_mem t hu, by rw [hheight, Nat.max_eq_right hle]⟩
      · exact ⟨t, List.mem_cons_self, by rw [Nat.max_eq_left hle]⟩

theorem exists_isBranch (t : Tree) : ∃ p, IsBranch t p ∧ p.length = t.height := by
  induction hn : t.height generalizing t with
  | zero => simp [height_eq] at hn
  | succ n ih =>
    by_cases hleaf : t.children = []
    · refine ⟨[t], .leaf hleaf, ?_⟩
      rw [← hn, height_of_children hleaf, List.length_singleton]
    · obtain ⟨u, hu, hheight⟩ := exists_height_eq hleaf
      rw [height_eq] at hn
      obtain ⟨p, hp, hlength⟩ := ih u (hheight.trans (Nat.succ.inj hn))
      exact ⟨t :: p, .child hu hp, by rw [List.length_cons, hlength]⟩

theorem depth_literal (l : Literal) : l.toDocument.depth = 0 := by
  cases l with
  | number x =>
    rw [Literal.toDocument]
    split <;> rfl
  | _ => rfl

mutual

theorem depth_document_le (t : Tree) :
    (t.document Literal.toDocument).depth ≤ 2 * t.height := by
  cases t with
  | program body =>
    have hbody := depth_documents_le body
    simp only [document, tagged, List.map, Value.depth, Value.str, memberDepth, height]
    omega
  | call callee arguments =>
    have hcallee := callee.depth_document_le
    have harguments := depth_documents_le arguments
    simp only [document, tagged, List.map, Value.depth, Value.str, memberDepth, height]
    omega
  | member object property computed =>
    have hobject := object.depth_document_le
    have hproperty := property.depth_document_le
    simp only [document, tagged, List.map, Value.depth, Value.str, memberDepth, height]
    omega
  | identifier name => simp [document, tagged, Value.depth, Value.str, memberDepth, height]
  | literal value =>
    simp [document, tagged, Value.depth, Value.str, memberDepth, height, depth_literal]
  | template quasis expressions =>
    have hexpressions := depth_documents_le expressions
    simp only [document, tagged, List.map_cons, List.map_nil, Value.depth, Value.str, memberDepth,
      height, itemDepth_map_string]
    omega
  | other kind children =>
    have hchildren := depth_documents_le children
    simp only [document, tagged, List.map, Value.depth, Value.str, memberDepth, height]
    omega

theorem depth_documents_le (ts : List Tree) :
    itemDepth (documents Literal.toDocument ts) ≤ 2 * heights ts := by
  match ts with
  | [] => exact Nat.le_refl 0
  | t :: ts =>
    have ht := t.depth_document_le
    have hts := depth_documents_le ts
    rw [documents, itemDepth, heights]
    omega

end

end Tree

section Build
variable {f : Field} {kind : String} {parts : List Part} {u : Tree}

/-- A tree that comes from some parts: one of them, or a child of one, or what stands for a part
that is not there. -/
def ComesFrom (parts : List Part) (u : Tree) : Prop :=
  (∃ p ∈ parts, u = p.2 ∨ u ∈ p.2.children) ∨ ∃ kind, u = missingPart kind

theorem comesFrom_of_mem {p : Part} (h : p ∈ parts) : ComesFrom parts p.2 :=
  .inl ⟨p, h, .inl rfl⟩

theorem ComesFrom.mono {rest : List Part} (h : ComesFrom rest u) (hsub : rest ⊆ parts) :
    ComesFrom parts u := by
  obtain ⟨p, hp, hu⟩ | hmissing := h
  · exact .inl ⟨p, hsub hp, hu⟩
  · exact .inr hmissing

theorem mem_of_takeRole {t : Tree} {rest : List Part} (h : takeRole f parts = some (t, rest)) :
    (some f, t) ∈ parts ∧ rest ⊆ parts := by
  have hperm := perm_of_takeRole h
  exact ⟨hperm.mem_iff.2 List.mem_cons_self,
    fun p hp => hperm.mem_iff.2 (List.mem_cons_of_mem _ hp)⟩

theorem comesFrom_partOr (f : Field) (kind : String) (parts : List Part) :
    ComesFrom parts (partOr f kind parts).1 ∧ (partOr f kind parts).2 ⊆ parts := by
  rw [partOr]
  cases htake : takeRole f parts with
  | none => exact ⟨.inr ⟨kind, rfl⟩, List.Subset.refl _⟩
  | some found =>
    obtain ⟨hmem, hrest⟩ := mem_of_takeRole htake
    exact ⟨comesFrom_of_mem hmem, hrest⟩

theorem comesFrom_argumentList (h : u ∈ argumentList (takeRole f parts)) : ComesFrom parts u := by
  cases htake : takeRole f parts with
  | none =>
    rw [htake] at h
    cases h
  | some found =>
    obtain ⟨t, rest⟩ := found
    obtain ⟨hmem, -⟩ := mem_of_takeRole htake
    rw [htake, argumentList.eq_def] at h
    split at h
    · rename_i heq
      obtain ⟨rfl, -⟩ := Prod.mk.inj (Option.some.inj heq)
      split at h
      · exact .inl ⟨_, hmem, .inr h⟩
      · rw [List.mem_singleton.1 h]
        exact comesFrom_of_mem hmem
    · rename_i heq
      obtain ⟨rfl, -⟩ := Prod.mk.inj (Option.some.inj heq)
      rw [List.mem_singleton.1 h]
      exact comesFrom_of_mem hmem
    · cases h

theorem mem_templateGo {current : Text} {ts : List Tree} (h : u ∈ (templateGo current ts).2) :
    ∃ t ∈ ts, u = t ∨ u ∈ t.children := by
  induction ts generalizing current with
  | nil => cases h
  | cons t ts ih =>
    have hlater {now : Text} (h : u ∈ (templateGo now ts).2) :
        ∃ t' ∈ t :: ts, u = t' ∨ u ∈ t'.children := by
      obtain ⟨t', ht', hu⟩ := ih h
      exact ⟨t', List.mem_cons_of_mem t ht', hu⟩
    obtain ⟨piece, rfl, hstep⟩ | ⟨children, rfl, hstep⟩ | ⟨-, hstep⟩ := templateGo_cons current t ts
    · rw [hstep] at h
      exact hlater h
    · rw [hstep] at h
      obtain h | h := List.mem_append.1 h
      · exact ⟨_, List.mem_cons_self, .inr h⟩
      · exact hlater h
    · rw [hstep] at h
      obtain rfl | h := List.mem_cons.1 h
      · exact ⟨u, List.mem_cons_self, .inl rfl⟩
      · exact hlater h

theorem comesFrom_of_mem_build (h : u ∈ (build kind parts).children) : ComesFrom parts u := by
  have hall (h : u ∈ parts.map fun p => p.2) : ComesFrom parts u := by
    obtain ⟨p, hp, rfl⟩ := List.mem_map.1 h
    exact comesFrom_of_mem hp
  have htwo (f g : Field) (kind kind' : String)
      (h : u = (partOr f kind parts).1 ∨ u = (partOr g kind' (partOr f kind parts).2).1) :
      ComesFrom parts u := by
    obtain ⟨hfirst, hrest⟩ := comesFrom_partOr f kind parts
    obtain rfl | rfl := h
    · exact hfirst
    · exact (comesFrom_partOr g kind' _).1.mono hrest
  rw [build.eq_def] at h
  split at h
  · exact hall h
  · obtain ⟨hcallee, hrest⟩ := comesFrom_partOr .function "callee" parts
    obtain rfl | h := List.mem_cons.1 h
    · exact hcallee
    · exact (comesFrom_argumentList h).mono hrest
  · exact htwo .object .property "object" "property" (by simpa [Tree.children] using h)
  · exact htwo .object .index "object" "property" (by simpa [Tree.children] using h)
  · obtain ⟨t, ht, hu⟩ := mem_templateGo h
    obtain ⟨p, hp, rfl⟩ := List.mem_map.1 ht
    exact .inl ⟨p, hp, hu⟩
  · exact hall h

theorem height_build_le {n : Nat} (hn : 0 < n) (h : ∀ p ∈ parts, p.2.height ≤ n) :
    (build kind parts).height ≤ n + 1 := by
  rw [Tree.height_le_succ_iff]
  intro u hu
  obtain ⟨p, hp, rfl | hbelow⟩ | ⟨missing, rfl⟩ := comesFrom_of_mem_build hu
  · exact h p hp
  · exact Nat.le_of_lt (Nat.lt_of_lt_of_le (Tree.height_lt_of_mem_children hbelow) (h p hp))
  · rw [Tree.height_of_children rfl]
    exact hn

end Build

namespace Syntax

theorem children_of_leaf? {s : Syntax} {t : Tree} (h : s.leaf? = some t) : t.children = [] := by
  rw [leaf?] at h
  split at h
  · rw [← Option.some.inj h]
    rfl
  · split at h
    case h_9 =>
      split at h
      · rw [← Option.some.inj h]
        rfl
      · cases h
    all_goals
      rw [← Option.some.inj h]
      rfl

theorem height_of_mem_leaves {s : Syntax} {t : Tree} (h : t ∈ s.leaves) : t.height = 1 := by
  induction s using induct with
  | step s ih =>
    cases hleaf : s.leaf? with
    | some u =>
      rw [leaves_of_leaf? hleaf, List.mem_singleton] at h
      rw [h, Tree.height_of_children (children_of_leaf? hleaf)]
    | none =>
      rw [leaves_of_leaf?_none hleaf] at h
      obtain ⟨p, hp, ht⟩ := List.mem_flatMap.1 h
      exact ih p (List.mem_filter.1 hp).1 ht

theorem height_flattened_le (s : Syntax) : s.flattened.height ≤ 2 := by
  rw [flattened_eq, Tree.height_le_succ_iff]
  intro t ht
  exact (height_of_mem_leaves ht).le

theorem lt_of_closed?_none {depth : Nat} {s : Syntax} (h : s.closed? depth = none) :
    depth < maxDepth := by
  rw [closed?] at h
  split at h
  · cases h
  · split at h
    · cases h
    · rename_i hroom
      exact Nat.lt_of_not_le hroom

theorem height_closed?_le {depth : Nat} {s : Syntax} {t : Tree} (h : s.closed? depth = some t) :
    t.height ≤ 2 := by
  rw [closed?] at h
  split at h
  · rename_i u hleaf
    obtain rfl := Option.some.inj h
    rw [Tree.height_of_children (children_of_leaf? hleaf)]
    omega
  · split at h
    · rw [← Option.some.inj h]
      exact s.height_flattened_le
    · cases h

/-- The levels of a tree and the nodes around its syntax: each node that is opened takes one of the
levels there are, and at the innermost one two are left. -/
theorem height_lowered_le (s : Syntax) {depth : Nat} (h : depth < maxDepth) :
    (s.lowered depth).height + depth ≤ maxDepth + 2 := by
  induction s using induct generalizing depth with
  | step s ih =>
    have hparts : ∀ p ∈ s.parts, (p.loweredPart (depth + 1)).height ≤ maxDepth + 1 - depth := by
      intro p hp
      rw [loweredPart]
      cases hclosed : p.closed? (depth + 1) with
      | some t =>
        have ht := height_closed?_le hclosed
        rw [Option.getD_some]
        omega
      | none =>
        have hp := ih p (List.mem_filter.1 hp).1 (lt_of_closed?_none hclosed)
        rw [Option.getD_none]
        omega
    have hpositive : 0 < maxDepth + 1 - depth := by omega
    have hbuild : (s.lowered depth).height ≤ maxDepth + 1 - depth + 1 := by
      rw [lowered_eq]
      exact height_build_le hpositive (List.forall_mem_map.2 hparts)
    omega

end Syntax

section Machine
variable {top top' : Frame} {outer outer' : List Frame}

/-- One step of the machine on the nodes under construction. It takes a part that needs no node of
its own, or opens a part, or closes the innermost node; when that is the only one, it is done. -/
def advance (top : Frame) (outer : List Frame) : Option (Frame × List Frame) :=
  match top.waiting with
  | s :: waiting =>
    match s.closed? (outer.length + 1) with
    | some t => some ({ top with waiting, done := (s.field, t) :: top.done }, outer)
    | none => some (Frame.ofSyntax s, { top with waiting } :: outer)
  | [] =>
    match outer with
    | [] => none
    | parent :: outer => some ({ parent with done := top.finish :: parent.done }, outer)

theorem lowerGo_advance (cancel : Nat → Bool) (fuel n : Nat)
    (h : advance top outer = some (top', outer')) :
    lowerGo cancel (fuel + 1) top outer n =
      if seesStop cancel n 1 then none else lowerGo cancel fuel top' outer' (n + 1) := by
  rw [lowerGo_succ]
  rw [advance.eq_def] at h
  cases hwaiting : top.waiting with
  | cons s waiting =>
    rw [hwaiting] at h
    cases hclosed : s.closed? (outer.length + 1) with
    | some t =>
      simp only [hclosed, Option.some.injEq, Prod.mk.injEq] at h ⊢
      rw [h.1, h.2]
    | none =>
      simp only [hclosed, Option.some.injEq, Prod.mk.injEq] at h ⊢
      rw [h.1, h.2]
  | nil =>
    rw [hwaiting] at h
    cases outer with
    | nil => cases h
    | cons parent outer =>
      simp only [Option.some.injEq, Prod.mk.injEq] at h ⊢
      rw [h.1, h.2]

theorem length_advance_lt (h : advance top outer = some (top', outer'))
    (hroom : outer.length < maxDepth) : outer'.length < maxDepth := by
  rw [advance.eq_def] at h
  split at h
  · rename_i s waiting hwaiting
    split at h
    · rw [← (Prod.mk.inj (Option.some.inj h)).2]
      exact hroom
    · rename_i hclosed
      rw [← (Prod.mk.inj (Option.some.inj h)).2, List.length_cons]
      exact Syntax.lt_of_closed?_none hclosed
  · split at h
    · cases h
    · rw [← (Prod.mk.inj (Option.some.inj h)).2]
      rw [List.length_cons] at hroom
      omega

end Machine

namespace Syntax

def stackAt (s : Syntax) : Nat → Option (Frame × List Frame)
  | 0 => some (Frame.ofSyntax s, [])
  | k + 1 => (s.stackAt k).bind fun stack => advance stack.1 stack.2

variable {s : Syntax} {k : Nat} {top : Frame} {outer : List Frame}

theorem length_stackAt_lt (h : s.stackAt k = some (top, outer)) : outer.length < maxDepth := by
  induction k generalizing top outer with
  | zero =>
    obtain ⟨-, rfl⟩ := Prod.mk.inj (Option.some.inj h)
    decide
  | succ k ih =>
    obtain ⟨⟨top', outer'⟩, hstack, hstep⟩ := Option.bind_eq_some_iff.1 h
    exact length_advance_lt hstep (ih hstack)

theorem lowerGo_stackAt (cancel : Nat → Bool) (fuel : Nat)
    (h : s.stackAt k = some (top, outer)) :
    lowerGo cancel (k + fuel) (Frame.ofSyntax s) [] 0 =
      if seesStop cancel 0 k then none else lowerGo cancel fuel top outer k := by
  induction k generalizing top outer fuel with
  | zero =>
    obtain ⟨rfl, rfl⟩ := Prod.mk.inj (Option.some.inj h)
    simp [seesStop]
  | succ k ih =>
    obtain ⟨⟨top', outer'⟩, hstack, hstep⟩ := Option.bind_eq_some_iff.1 h
    rw [Nat.add_assoc, Nat.add_comm 1 fuel, ih (fuel + 1) hstack, lowerGo_advance cancel _ _ hstep,
      ite_seesStop_add, Nat.zero_add]

/-- However deep a script is nested: a tree that it is lowered to has at most two levels more than
the machine may have nodes under construction, on each of its branches, and so whatever goes down
the tree level by level goes no deeper; its written form nests two brackets for each level. At no
step of a run are there more nodes under construction than the bound allows. -/
theorem lower_bounded (s : Syntax) :
    (∀ cancel t, s.lower cancel = some t →
      t.height ≤ maxDepth + 2 ∧ (∀ p, t.IsBranch p → p.length ≤ maxDepth + 2) ∧
        t.toDocument.depth ≤ 2 * (maxDepth + 2)) ∧
    ∀ k top outer, s.stackAt k = some (top, outer) →
      (top :: outer).length ≤ maxDepth ∧
        ∀ cancel fuel, lowerGo cancel (k + fuel) (Frame.ofSyntax s) [] 0 =
          if seesStop cancel 0 k then none else lowerGo cancel fuel top outer k := by
  refine ⟨fun cancel t ht => ?_, fun k top outer hstack => ⟨length_stackAt_lt hstack, ?_⟩⟩
  · obtain rfl := eq_lowered_of_lower ht
    have hroom : 0 < maxDepth := by decide
    have hheight : (s.lowered 0).height ≤ maxDepth + 2 := s.height_lowered_le hroom
    have hwritten := (s.lowered 0).depth_document_le
    refine ⟨hheight, fun p hp => hp.length_le.trans hheight, ?_⟩
    rw [Tree.toDocument]
    omega
  · exact fun cancel fuel => lowerGo_stackAt cancel fuel hstack

def nestedArrays : Syntax :=
  .node none "program" []
    [arraysAround (2 * maxDepth)
      (.node none "string" [] [.node none "string_fragment" "/a".toList []])]

theorem lower_bounded_arrays :
    (∃ t p, nestedArrays.lower (fun _ => false) = some t ∧ t.height ≤ maxDepth + 2 ∧
      t.IsBranch p ∧ p.length = maxDepth + 2 ∧ t.toDocument.depth ≤ 2 * (maxDepth + 2)) ∧
    ∃ top outer, nestedArrays.stackAt (maxDepth - 1) = some (top, outer) ∧
      (top :: outer).length = maxDepth ∧ (top :: outer).length ≤ maxDepth := by
  obtain ⟨htree, hstack⟩ := lower_bounded nestedArrays
  constructor
  · obtain ⟨hheight, -, hwritten⟩ := htree _ _ nestedArrays.lower_never
    have hall : (nestedArrays.lowered 0).height = maxDepth + 2 := by decide +kernel
    obtain ⟨p, hp, hlength⟩ := (nestedArrays.lowered 0).exists_isBranch
    exact ⟨_, p, nestedArrays.lower_never, hheight, hp, hlength.trans hall, hwritten⟩
  · have hlength : (nestedArrays.stackAt (maxDepth - 1)).map (fun stack => stack.2.length) =
        some (maxDepth - 1) := by decide +kernel
    obtain ⟨⟨top, outer⟩, hat, hlength⟩ := Option.map_eq_some_iff.1 hlength
    refine ⟨top, outer, hat, ?_, (hstack _ _ _ hat).1⟩
    rw [List.length_cons, hlength]
    rfl

end Syntax

end Script

end EndpointScout
