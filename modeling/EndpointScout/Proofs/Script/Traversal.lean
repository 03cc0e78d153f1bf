import EndpointScout.Script.Syntax
import EndpointScout.Script.Tree
import Mathlib.Data.List.Basic

/-! All nodes of a tree. The walk over it from the shallow nodes to the deep ones meets each of
them, as often as it occurs. -/
namespace EndpointScout.Script

namespace Tree

mutual

def nodes : Tree → List Tree
  | program body => program body :: nodesAll body
  | call callee arguments => call callee arguments :: (callee.nodes ++ nodesAll arguments)
  | member object property computed =>
    member object property computed :: (object.nodes ++ property.nodes)
  | identifier name => [identifier name]
  | literal value => [literal value]
  | template quasis expressions => template quasis expressions :: nodesAll expressions
  | other kind children => other kind children :: nodesAll children

def nodesAll : List Tree → List Tree
  | [] => []
  | t :: ts => t.nodes ++ nodesAll ts

end

theorem nodesAll_eq (ts : List Tree) : nodesAll ts = ts.flatMap nodes := by
  induction ts with
  | nil => rfl
  | cons t ts ih => rw [nodesAll, ih, List.flatMap_cons]

theorem nodes_eq (t : Tree) : t.nodes = t :: t.children.flatMap nodes := by
  cases t <;> simp [nodes, children, nodesAll_eq]

mutual

theorem length_nodes (t : Tree) : t.nodes.length = t.size := by
  cases t with
  | program body => simp [nodes, size, length_nodesAll body]
  | call callee arguments =>
    simp [nodes, size, callee.length_nodes, length_nodesAll arguments]
  | member object property computed =>
    simp [nodes, size, object.length_nodes, property.length_nodes]
  | identifier name => rfl
  | literal value => rfl
  | template quasis expressions => simp [nodes, size, length_nodesAll expressions]
  | other kind children => simp [nodes, size, length_nodesAll children]

theorem length_nodesAll (ts : List Tree) : (nodesAll ts).length = sizes ts := by
  match ts with
  | [] => rfl
  | t :: ts => rw [nodesAll, List.length_append, t.length_nodes, length_nodesAll ts, sizes]

end

/-- What stands in a queue is visited with all that is below it. -/
theorem perm_visit {fuel : Nat} {front back : List Tree}
    (h : ((front ++ back).flatMap nodes).length ≤ fuel) :
    (visit fuel front back).Perm ((front ++ back).flatMap nodes) := by
  induction fuel generalizing front back with
  | zero =>
    rw [visit, List.eq_nil_of_length_eq_zero (Nat.le_zero.1 h)]
  | succ fuel ih =>
    -- The first tree of a queue is replaced by its children, wherever they are put.
    have hstep (t : Tree) (rest : List Tree) {front' back' : List Tree}
        (hqueue : (front' ++ back').Perm (t.children ++ rest))
        (hfuel : ((t :: rest).flatMap nodes).length ≤ fuel + 1) :
        (t :: visit fuel front' back').Perm ((t :: rest).flatMap nodes) := by
      have hnodes := hqueue.flatMap_right nodes
      rw [List.flatMap_cons, nodes_eq, List.cons_append, ← List.flatMap_append] at hfuel ⊢
      refine ((ih ?_).trans hnodes).cons t
      rw [hnodes.length_eq]
      exact Nat.le_of_succ_le_succ hfuel
    cases front with
    | cons t front =>
      refine hstep t (front ++ back) ?_ h
      have hreverse := t.children.reverse_perm.append_right (front ++ back)
      refine List.Perm.trans ?_ hreverse
      rw [← List.append_assoc, ← List.append_assoc]
      exact List.perm_append_comm.append_right back
    | nil =>
      rw [List.nil_append] at h ⊢
      have hback := back.reverse_perm
      rw [visit]
      split
      · rename_i hreverse
        rw [List.reverse_eq_nil_iff.1 hreverse]
        exact List.Perm.refl _
      · rename_i t front hreverse
        rw [hreverse] at hback
        have hnodes := hback.flatMap_right nodes
        refine (hstep t front ?_ (hnodes.length_eq ▸ h)).trans hnodes
        exact List.perm_append_comm.trans (t.children.reverse_perm.append_right front)

theorem perm_breadthFirst (t : Tree) : t.breadthFirst.Perm t.nodes := by
  have hfuel : (([t] ++ []).flatMap nodes).length ≤ t.size := by simp [length_nodes]
  have hvisit := perm_visit hfuel
  rwa [List.append_nil, List.flatMap_singleton] at hvisit

section Gather
variable {α : Type} (m : Tree → List α)

def gather (t : Tree) : List α := t.nodes.flatMap m

theorem gather_eq (t : Tree) : t.gather m = m t ++ t.children.flatMap (gather m) := by
  rw [gather, nodes_eq, List.flatMap_cons, List.flatMap_assoc]
  rfl

theorem gather_literal (value : Literal) : (literal value).gather m = m (literal value) :=
  List.flatMap_singleton m _

end Gather

end Tree

namespace Syntax

mutual

/-- What passes from the children of a node to the node holds everywhere. -/
theorem induct {p : Syntax → Prop} (step : ∀ s, (∀ c ∈ s.children, p c) → p s) (s : Syntax) :
    p s := by
  cases s with
  | node f k t cs => exact step _ (induct_all step cs)

theorem induct_all {p : Syntax → Prop} (step : ∀ s, (∀ c ∈ s.children, p c) → p s)
    (ss : List Syntax) : ∀ s ∈ ss, p s := by
  match ss with
  | [] => simp
  | s :: ss => exact List.forall_mem_cons.2 ⟨induct step s, induct_all step ss⟩

end

mutual

def nodes : Syntax → List Syntax
  | node f k t cs => node f k t cs :: nodesAll cs

def nodesAll : List Syntax → List Syntax
  | [] => []
  | s :: ss => s.nodes ++ nodesAll ss

end

theorem nodesAll_eq (ss : List Syntax) : nodesAll ss = ss.flatMap nodes := by
  induction ss with
  | nil => rfl
  | cons s ss ih => rw [nodesAll, ih, List.flatMap_cons]

theorem nodes_eq (s : Syntax) : s.nodes = s :: s.children.flatMap nodes := by
  cases s with
  | node f k t cs => rw [nodes, nodesAll_eq, children]

theorem mem_nodes (s : Syntax) : s ∈ s.nodes := by
  rw [nodes_eq]
  exact List.mem_cons_self

section Gather
variable {α : Type} (m : Syntax → List α)

def gather (s : Syntax) : List α := s.nodes.flatMap m

theorem gather_eq (s : Syntax) : s.gather m = m s ++ s.children.flatMap (gather m) := by
  rw [gather, nodes_eq, List.flatMap_cons, List.flatMap_assoc]
  rfl

end Gather

end Syntax

end EndpointScout.Script
