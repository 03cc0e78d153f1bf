import EndpointScout.Proofs.Script.Traversal
import Mathlib.Data.List.Range

/-! The walk over a tree from the shallow nodes to the deep ones is level by level. Before every
level its queue is that level and nothing else; in between it is what is left of the level and,
behind it, the children of what is not. -/
namespace EndpointScout.Script.Tree

mutual

def height : Tree → Nat
  | program body => heights body + 1
  | call callee arguments => max callee.height (heights arguments) + 1
  | member object property _ => max object.height property.height + 1
  | identifier _ => 1
  | literal _ => 1
  | template _ expressions => heights expressions + 1
  | other _ children => heights children + 1

def heights : List Tree → Nat
  | [] => 0
  | t :: ts => max t.height (heights ts)

end

theorem height_eq (t : Tree) : t.height = heights t.children + 1 := by
  cases t <;> simp [height, heights, children]

theorem heights_le_iff {ts : List Tree} {n : Nat} : heights ts ≤ n ↔ ∀ t ∈ ts, t.height ≤ n := by
  induction ts with
  | nil => simp [heights]
  | cons t ts ih => rw [heights, Nat.max_le, ih, List.forall_mem_cons]

section Levels

theorem levels_eq (n : Nat) (ts : List Tree) : levels n ts = ts.flatMap (level n) := by
  induction ts with
  | nil => rfl
  | cons t ts ih => rw [levels, ih, List.flatMap_cons]

theorem level_zero (t : Tree) : t.level 0 = [t] := by
  cases t <;> rfl

theorem level_succ (n : Nat) (t : Tree) : t.level (n + 1) = t.children.flatMap (level n) := by
  cases t <;> simp [level, children, levels_eq]

theorem flatMap_children_level (n : Nat) (t : Tree) :
    (t.level n).flatMap children = t.level (n + 1) := by
  induction n generalizing t with
  | zero =>
    have hself : t.children.flatMap (level 0) = t.children.flatMap fun u => [u] :=
      List.flatMap_congr fun u _ => u.level_zero
    rw [level_zero, List.flatMap_singleton, level_succ, hself, List.flatMap_singleton']
  | succ n ih =>
    rw [level_succ, List.flatMap_assoc, level_succ]
    exact List.flatMap_congr fun u _ => ih u

theorem level_eq_nil_iff (n : Nat) (t : Tree) : t.level n = [] ↔ t.height ≤ n := by
  induction n generalizing t with
  | zero => simp [level_zero, height_eq]
  | succ n ih =>
    rw [level_succ, height_eq, Nat.succ_le_succ_iff, heights_le_iff, List.flatMap_eq_nil_iff]
    exact forall₂_congr fun u _ => ih u

end Levels

section Queue

def walk : Nat → List Tree → List Tree
  | 0, _ => []
  | _ + 1, [] => []
  | fuel + 1, t :: queue => t :: walk fuel (queue ++ t.children)

theorem visit_eq_walk (fuel : Nat) (front back : List Tree) :
    visit fuel front back = walk fuel (front ++ back.reverse) := by
  induction fuel generalizing front back with
  | zero => rfl
  | succ fuel ih =>
    cases front with
    | cons t front => rw [visit, ih, List.cons_append, walk]; simp
    | nil =>
      rw [visit, List.nil_append]
      cases back.reverse with
      | nil => rfl
      | cons t front => simp only [walk, ih, List.reverse_reverse]

theorem walk_append (fuel : Nat) (front behind : List Tree) :
    walk (front.length + fuel) (front ++ behind) =
      front ++ walk fuel (behind ++ front.flatMap children) := by
  induction front generalizing behind with
  | nil => simp
  | cons t front ih =>
    have hfuel : (t :: front).length + fuel = front.length + fuel + 1 := by
      rw [List.length_cons]
      omega
    rw [hfuel, List.cons_append, walk, List.append_assoc, ih, List.append_assoc,
      List.flatMap_cons, List.cons_append]

/-- A queue that is a level becomes the next one. -/
theorem walk_level (fuel n : Nat) (t : Tree) :
    walk ((t.level n).length + fuel) (t.level n) = t.level n ++ walk fuel (t.level (n + 1)) := by
  have hstep := walk_append fuel (t.level n) []
  rwa [List.append_nil, List.nil_append, flatMap_children_level] at hstep

def firstLevels (n : Nat) (t : Tree) : List Tree := (List.range n).flatMap fun k => t.level k

theorem firstLevels_succ (n : Nat) (t : Tree) :
    t.firstLevels (n + 1) = t.firstLevels n ++ t.level n := by
  rw [firstLevels, List.range_succ, List.flatMap_append, List.flatMap_singleton]
  rfl

theorem walk_firstLevels (fuel n : Nat) (t : Tree) :
    walk ((t.firstLevels n).length + fuel) [t] = t.firstLevels n ++ walk fuel (t.level n) := by
  induction n generalizing fuel with
  | zero => simp [firstLevels, level_zero]
  | succ n ih =>
    rw [firstLevels_succ, List.length_append, Nat.add_assoc, ih, walk_level, List.append_assoc]

theorem visit_height (more : Nat) (t : Tree) :
    visit ((t.firstLevels t.height).length + more) [t] [] = t.firstLevels t.height := by
  have hend : t.level t.height = [] := (level_eq_nil_iff _ t).2 le_rfl
  have hnothing : walk more [] = [] := by cases more <;> rfl
  rw [visit_eq_walk, List.reverse_nil, List.append_nil, walk_firstLevels, hend, hnothing,
    List.append_nil]

theorem length_firstLevels (t : Tree) : (t.firstLevels t.height).length = t.size := by
  -- With fuel for every node the walk is known to come to each of them once.
  have hfuel : (([t] ++ []).flatMap nodes).length ≤ (t.firstLevels t.height).length + t.size := by
    simp [length_nodes]
  have hall := (perm_visit hfuel).length_eq
  rw [visit_height] at hall
  simpa [length_nodes] using hall

end Queue

section Places

/-- The node that is reached from a tree by going to a child again and again, each given by how
many stand in front of it. -/
def at? : List Nat → Tree → Option Tree
  | [], t => some t
  | i :: p, t => t.children[i]?.bind (at? p)

def places : Nat → Tree → List (List Nat)
  | 0, _ => [[]]
  | n + 1, t => t.children.zipIdx.flatMap fun c => (places n c.1).map (c.2 :: ·)

/-- A shorter way, or one of the same length that turns to the left where both part. -/
def Before (p q : List Nat) : Prop := p.length < q.length ∨ p.length = q.length ∧ p < q

theorem mem_places {n : Nat} {t : Tree} {p : List Nat} :
    p ∈ t.places n ↔ p.length = n ∧ (t.at? p).isSome := by
  induction n generalizing t p with
  | zero => cases p <;> simp [places, at?]
  | succ n ih =>
    rw [places, List.mem_flatMap]
    constructor
    · rintro ⟨⟨u, i⟩, hu, hp⟩
      obtain ⟨q, hq, rfl⟩ := List.mem_map.1 hp
      obtain ⟨hlength, hsome⟩ := ih.1 hq
      have hchild : t.children[i]? = some u := List.mem_zipIdx_iff_getElem?.1 hu
      exact ⟨by simp [hlength], by simpa [at?, hchild] using hsome⟩
    · rintro ⟨hlength, hsome⟩
      cases p with
      | nil => cases hlength
      | cons i q =>
        obtain ⟨v, hv⟩ := Option.isSome_iff_exists.1 hsome
        obtain ⟨u, hchild, hu⟩ := Option.bind_eq_some_iff.1 hv
        have hq : q ∈ u.places n := ih.2 ⟨Nat.succ.inj hlength, by simp [hu]⟩
        exact ⟨(u, i), List.mem_zipIdx_iff_getElem?.2 hchild, List.mem_map_of_mem hq⟩

theorem map_at?_places (n : Nat) (t : Tree) :
    (t.places n).map (fun p => t.at? p) = (t.level n).map some := by
  induction n generalizing t with
  | zero => rw [level_zero, places, List.map_singleton, List.map_singleton, at?]
  | succ n ih =>
    have hchild : ∀ c ∈ t.children.zipIdx,
        ((places n c.1).map (c.2 :: ·)).map (fun p => t.at? p) = (level n c.1).map some := by
      rintro ⟨u, i⟩ hu
      have hget : t.children[i]? = some u := List.mem_zipIdx_iff_getElem?.1 hu
      rw [List.map_map, ← ih]
      exact List.map_congr_left fun p _ => by simp [at?, hget]
    have hfirst : t.children.zipIdx.flatMap (fun c => (level n c.1).map some) =
        t.children.flatMap fun u => (level n u).map some := by
      conv => rhs; rw [← List.zipIdx_map_fst 0 t.children, List.flatMap_map]
    rw [places, List.map_flatMap, List.flatMap_congr hchild, hfirst, level_succ, List.map_flatMap]

theorem pairwise_places (n : Nat) (t : Tree) : (t.places n).Pairwise (· < ·) := by
  induction n generalizing t with
  | zero => exact List.pairwise_singleton _ _
  | succ n ih =>
    have hindex : t.children.zipIdx.Pairwise fun c d => c.2 < d.2 := by
      rw [← List.pairwise_map, List.zipIdx_map_snd]
      exact List.pairwise_lt_range'
    rw [places, List.pairwise_flatMap]
    constructor
    · intro c hc
      rw [List.pairwise_map]
      exact (ih c.1).imp fun hpq => List.cons_lt_cons_iff.2 (.inr ⟨rfl, hpq⟩)
    · refine hindex.imp fun {c d} hcd => ?_
      intro p hp q hq
      obtain ⟨p, -, rfl⟩ := List.mem_map.1 hp
      obtain ⟨q, -, rfl⟩ := List.mem_map.1 hq
      exact List.cons_lt_cons_iff.2 (.inl hcd)

def allPlaces (t : Tree) : List (List Nat) := (List.range t.height).flatMap fun n => t.places n

theorem pairwise_allPlaces (t : Tree) : t.allPlaces.Pairwise Before := by
  rw [allPlaces, List.pairwise_flatMap]
  constructor
  · intro n _
    refine (pairwise_places n t).imp_of_mem fun {p q} hp hq hpq => ?_
    have hlength : p.length = q.length := (mem_places.1 hp).1.trans (mem_places.1 hq).1.symm
    exact .inr ⟨hlength, hpq⟩
  · refine List.pairwise_lt_range.imp fun {n m} hnm p hp q hq => ?_
    have hp := (mem_places.1 hp).1
    have hq := (mem_places.1 hq).1
    exact .inl (by omega)

theorem mem_allPlaces {t : Tree} {p : List Nat} : p ∈ t.allPlaces ↔ (t.at? p).isSome := by
  rw [allPlaces, List.mem_flatMap]
  constructor
  · rintro ⟨n, -, hp⟩
    exact (mem_places.1 hp).2
  · intro hsome
    have hplace : p ∈ t.places p.length := mem_places.2 ⟨rfl, hsome⟩
    refine ⟨p.length, List.mem_range.2 ?_, hplace⟩
    by_contra hhigh
    have hnone : t.level p.length = [] := (level_eq_nil_iff _ t).2 (Nat.le_of_not_lt hhigh)
    have hmap := map_at?_places p.length t
    rw [hnone, List.map_nil, List.map_eq_nil_iff] at hmap
    rw [hmap] at hplace
    cases hplace

theorem map_at?_allPlaces (t : Tree) :
    t.allPlaces.map (fun p => t.at? p) = (t.firstLevels t.height).map some := by
  rw [allPlaces, firstLevels, List.map_flatMap, List.map_flatMap]
  exact List.flatMap_congr fun n _ => map_at?_places n t

end Places

/-- The walk over a tree comes to every node on exactly one of its steps: the shallow nodes before
the deep ones, and the nodes of one depth from left to right. So it is the levels of the tree, one
after the other, of which there are as many as the tree is high; and when it has come to all nodes
it is at its end, however long it may go on. -/
theorem breadthFirst_level_order (t : Tree) :
    (∃ ps : List (List Nat), ps.Pairwise Before ∧ (∀ p, p ∈ ps ↔ (t.at? p).isSome) ∧
      t.breadthFirst.map some = ps.map fun p => t.at? p) ∧
    t.breadthFirst = (List.range t.height).flatMap (fun n => t.level n) ∧
    (∀ n, t.level n = [] ↔ t.height ≤ n) ∧
    t.breadthFirst.length = t.size ∧
    ∀ more, visit (t.size + more) [t] [] = t.breadthFirst := by
  have hwalk (more : Nat) : visit (t.size + more) [t] [] = t.firstLevels t.height := by
    rw [← length_firstLevels]
    exact visit_height more t
  have hlevels : t.breadthFirst = t.firstLevels t.height := hwalk 0
  refine ⟨⟨t.allPlaces, pairwise_allPlaces t, fun p => mem_allPlaces, ?_⟩, hlevels,
    fun n => level_eq_nil_iff n t, ?_, fun more => ?_⟩
  · rw [hlevels, map_at?_allPlaces]
  · rw [hlevels, length_firstLevels]
  · rw [hlevels, hwalk]

end EndpointScout.Script.Tree
