import EndpointScout.Script.Lowering

/-! Lowering with a stack of nodes under construction gives the tree of the plain recursion. The
only other end it can come to is a request to stop, seen at a step at which it is looked for. -/
namespace EndpointScout.Script

namespace Syntax

theorem leavesAll_eq (ss : List Syntax) :
    leavesAll ss = (ss.filter fun s => !s.isComment).flatMap leaves := by
  induction ss with
  | nil => rfl
  | cons s ss ih => cases h : s.isComment <;> simp [leavesAll, h, ih]

theorem leaves_of_leaf? {s : Syntax} {t : Tree} (h : s.leaf? = some t) : s.leaves = [t] := by
  cases s with
  | node f k text cs => rw [leaves, h]

theorem leaves_of_leaf?_none {s : Syntax} (h : s.leaf? = none) :
    s.leaves = s.parts.flatMap leaves := by
  cases s with
  | node f k text cs => rw [leaves, h, parts, children, leavesAll_eq]

theorem cost_pos (s : Syntax) : 0 < s.cost := by
  cases s with
  | node f k text cs => exact Nat.succ_pos _

theorem costs_append (ss ts : List Syntax) : costs (ss ++ ts) = costs ss + costs ts := by
  induction ss with
  | nil => simp [costs]
  | cons s ss ih =>
    rw [List.cons_append, costs, costs, ih]
    omega

theorem costs_filter_le (p : Syntax → Bool) (ss : List Syntax) :
    costs (ss.filter p) ≤ costs ss := by
  induction ss with
  | nil => exact Nat.le_refl _
  | cons s ss ih =>
    rw [List.filter_cons]
    split
    · rw [costs, costs]
      omega
    · rw [costs]
      omega

theorem costs_parts_lt (s : Syntax) : costs s.parts < s.cost := by
  cases s with
  | node f k text cs => exact Nat.lt_succ_of_le (costs_filter_le _ cs)

theorem flattenGo_eq {fuel : Nat} {stack : List Syntax} (h : costs stack ≤ fuel + 1)
    (done : List Tree) : flattenGo fuel stack done = done.reverse ++ stack.flatMap leaves := by
  induction fuel generalizing stack done with
  | zero =>
    cases stack with
    | nil => simp [flattenGo]
    | cons s stack =>
      have hpos := s.cost_pos
      rw [costs] at h
      omega
  | succ fuel ih =>
    cases stack with
    | nil => simp [flattenGo]
    | cons s stack =>
      have hpos := s.cost_pos
      rw [costs] at h
      rw [flattenGo]
      split
      · rename_i t ht
        rw [ih (by omega), List.flatMap_cons, leaves_of_leaf? ht]
        simp
      · rename_i hnone
        have hparts := s.costs_parts_lt
        have hcosts : costs (s.parts ++ stack) ≤ fuel + 1 := by
          rw [costs_append]
          omega
        rw [ih hcosts, List.flatMap_append, List.flatMap_cons, leaves_of_leaf?_none hnone]

theorem flattened_eq (s : Syntax) : s.flattened = .other s.kind.toList s.leaves := by
  have hall : costs [s] ≤ s.cost + 1 := Nat.le_refl _
  rw [flattened, flattenGo_eq hall]
  simp

/-- The tree of a part that is not opened: a leaf, or one that lies too deep. -/
def closed? (depth : Nat) (s : Syntax) : Option Tree :=
  match s.leaf? with
  | some t => some t
  | none => if maxDepth ≤ depth then some s.flattened else none

theorem loweredParts_cons (depth : Nat) {s : Syntax} (h : s.isComment = false) (ss : List Syntax) :
    loweredParts depth (s :: ss) =
      (s.field, (s.closed? depth).getD (s.lowered depth)) :: loweredParts depth ss := by
  rw [loweredParts, if_neg (ne_true_of_eq_false h), closed?]
  cases s.leaf? with
  | some t => rfl
  | none =>
    simp only
    split
    · rw [flattened_eq]
      rfl
    · rfl

mutual

/-- The steps from the opening of a node with `depth` nodes around it to its end. -/
def steps (depth : Nat) : Syntax → Nat
  | node _ _ _ cs => stepsAll (depth + 1) cs + 1

def stepsAll (depth : Nat) : List Syntax → Nat
  | [] => 0
  | s :: ss =>
    if s.isComment then stepsAll depth ss
    else (if (s.closed? depth).isSome then 0 else s.steps depth) + 1 + stepsAll depth ss

end

section
variable {depth : Nat} {s : Syntax} (h : s.isComment = false) (ss : List Syntax)
include h

theorem stepsAll_cons_closed {t : Tree} (ht : s.closed? depth = some t) :
    stepsAll depth (s :: ss) = stepsAll depth ss + 1 := by
  rw [stepsAll, if_neg (ne_true_of_eq_false h), ht, if_pos Option.isSome_some]
  omega

theorem stepsAll_cons_open (hnone : s.closed? depth = none) :
    stepsAll depth (s :: ss) = s.steps depth + stepsAll depth ss + 1 := by
  rw [stepsAll, if_neg (ne_true_of_eq_false h), hnone, if_neg (by simp)]
  omega

end

mutual

theorem steps_le_cost (depth : Nat) (s : Syntax) : s.steps depth ≤ s.cost := by
  cases s with
  | node f k text cs => exact Nat.succ_le_succ (stepsAll_le_costs (depth + 1) cs)

theorem stepsAll_le_costs (depth : Nat) (ss : List Syntax) : stepsAll depth ss ≤ costs ss := by
  match ss with
  | [] => exact Nat.le_refl 0
  | s :: ss =>
    have hs := steps_le_cost depth s
    have hss := stepsAll_le_costs depth ss
    rw [stepsAll, costs]
    split
    · omega
    · split <;> omega

end

end Syntax

section Stop
variable (cancel : Nat → Bool)

def seesStop (n : Nat) : Nat → Bool
  | 0 => false
  | count + 1 => seesStop n count ||
      (decide ((n + count + 1) % cancelInterval = 0) && cancel (n + count + 1))

theorem seesStop_iff (n count : Nat) : seesStop cancel n count = true ↔
    ∃ i, n < i ∧ i ≤ n + count ∧ i % cancelInterval = 0 ∧ cancel i = true := by
  induction count with
  | zero =>
    simp only [seesStop, Bool.false_eq_true, false_iff]
    rintro ⟨i, hlow, hhigh, -⟩
    omega
  | succ count ih =>
    rw [seesStop, Bool.or_eq_true, ih, Bool.and_eq_true, decide_eq_true_iff]
    constructor
    · rintro (⟨i, hlow, hhigh, hi⟩ | hlast)
      · exact ⟨i, hlow, by omega, hi⟩
      · exact ⟨n + count + 1, by omega, by omega, hlast⟩
    · rintro ⟨i, hlow, hhigh, hi⟩
      by_cases hlast : i = n + count + 1
      · exact .inr (hlast ▸ hi)
      · exact .inl ⟨i, hlow, by omega, hi⟩

theorem seesStop_add (n count more : Nat) :
    seesStop cancel n (count + more) =
      (seesStop cancel n count || seesStop cancel (n + count) more) := by
  induction more with
  | zero => simp [seesStop]
  | succ more ih =>
    rw [← Nat.add_assoc, seesStop, ih, seesStop, Bool.or_assoc, Nat.add_assoc n count more]

theorem ite_seesStop_add {α : Type} (n count more : Nat) (x : Option α) :
    (if seesStop cancel n (count + more) then none else x) =
      if seesStop cancel n count then none
      else if seesStop cancel (n + count) more then none else x := by
  rw [seesStop_add]
  cases seesStop cancel n count <;> rfl

theorem ite_seesStop_succ {α : Type} (n count : Nat) (x : Option α) :
    (if seesStop cancel n (count + 1) then none else x) =
      if seesStop cancel n 1 then none
      else if seesStop cancel (n + 1) count then none else x := by
  rw [Nat.add_comm, ite_seesStop_add]

end Stop

section Machine
variable (cancel : Nat → Bool)

theorem lowerGo_succ (fuel : Nat) (top : Frame) (outer : List Frame) (n : Nat) :
    lowerGo cancel (fuel + 1) top outer n =
      if seesStop cancel n 1 then none
      else match top.waiting with
        | s :: waiting =>
          match s.closed? (outer.length + 1) with
          | some t =>
            lowerGo cancel fuel { top with waiting, done := (s.field, t) :: top.done } outer (n + 1)
          | none => lowerGo cancel fuel (Frame.ofSyntax s) ({ top with waiting } :: outer) (n + 1)
        | [] =>
          match outer with
          | [] => some top.finish.2
          | parent :: outer =>
            lowerGo cancel fuel { parent with done := top.finish :: parent.done } outer
              (n + 1) := by
  have hstop : ((n + 1) % cancelInterval = 0 ∧ cancel (n + 1) = true) ↔
      seesStop cancel n 1 = true := by
    simp [seesStop]
  rw [lowerGo.eq_def]
  simp only [hstop]
  split
  · rfl
  · cases top.waiting with
    | nil => rfl
    | cons s waiting =>
      simp only [Syntax.closed?]
      cases s.leaf? with
      | some t => rfl
      | none =>
        simp only
        split <;> rfl

mutual

/-- A node that is opened is closed after its steps, with the tree of the plain recursion. -/
theorem lowerGo_open (s : Syntax) (fuel : Nat) (parent : Frame) (outer : List Frame) (n : Nat) :
    lowerGo cancel (s.steps (outer.length + 1) + fuel) (Frame.ofSyntax s) (parent :: outer) n =
      if seesStop cancel n (s.steps (outer.length + 1)) then none
      else lowerGo cancel fuel
        { parent with done := (s.field, s.lowered (outer.length + 1)) :: parent.done } outer
        (n + s.steps (outer.length + 1)) := by
  cases s with
  | node f k text cs =>
    have hparts := lowerGo_parts cs (1 + fuel) f k [] (parent :: outer) n
    rw [Syntax.steps, Nat.add_assoc, Frame.ofSyntax, Syntax.parts]
    rw [List.length_cons] at hparts
    show lowerGo cancel _ ⟨f, k, cs.filter (fun s => !s.isComment), []⟩ _ n = _
    rw [hparts, Nat.add_comm 1 fuel, lowerGo_succ, ite_seesStop_add]
    simp [Frame.finish, Syntax.lowered, Syntax.field, Nat.add_assoc]

theorem lowerGo_parts (ss : List Syntax) (fuel : Nat) (f : Option Field) (k : String)
    (done : List Part) (outer : List Frame) (n : Nat) :
    lowerGo cancel (Syntax.stepsAll (outer.length + 1) ss + fuel)
        ⟨f, k, ss.filter (fun s => !s.isComment), done⟩ outer n =
      if seesStop cancel n (Syntax.stepsAll (outer.length + 1) ss) then none
      else lowerGo cancel fuel
        ⟨f, k, [], (Syntax.loweredParts (outer.length + 1) ss).reverse ++ done⟩ outer
        (n + Syntax.stepsAll (outer.length + 1) ss) := by
  match ss with
  | [] => simp [Syntax.stepsAll, Syntax.loweredParts, seesStop]
  | s :: ss =>
    have hrest := lowerGo_parts ss
    cases hcomment : s.isComment with
    | true => simp [Syntax.stepsAll, Syntax.loweredParts, hcomment, hrest]
    | false =>
      rw [Syntax.loweredParts_cons _ hcomment, List.filter_cons_of_pos (by simp [hcomment])]
      cases hclosed : s.closed? (outer.length + 1) with
      | some t =>
        have hend : n + (Syntax.stepsAll (outer.length + 1) ss + 1) =
            n + 1 + Syntax.stepsAll (outer.length + 1) ss := by omega
        rw [Syntax.stepsAll_cons_closed hcomment ss hclosed, hend, Nat.add_right_comm,
          lowerGo_succ, ite_seesStop_succ cancel n (Syntax.stepsAll _ ss)]
        simp [hclosed, hrest]
      | none =>
        have hopen := lowerGo_open s
        have hend : n + (s.steps (outer.length + 1) + Syntax.stepsAll (outer.length + 1) ss + 1) =
            n + 1 + s.steps (outer.length + 1) + Syntax.stepsAll (outer.length + 1) ss := by omega
        rw [Syntax.stepsAll_cons_open hcomment ss hclosed, hend, Nat.add_right_comm, lowerGo_succ,
          ite_seesStop_succ cancel n (s.steps _ + Syntax.stepsAll _ ss),
          ite_seesStop_add cancel (n + 1), Nat.add_assoc (s.steps _) _ fuel]
        simp [hclosed, hopen, hrest]

end

theorem lowerGo_root (s : Syntax) (fuel : Nat) :
    lowerGo cancel (s.steps 0 + fuel) (Frame.ofSyntax s) [] 0 =
      if seesStop cancel 0 (s.steps 0) then none else some (s.lowered 0) := by
  cases s with
  | node f k text cs =>
    have hparts := lowerGo_parts cancel cs (1 + fuel) f k [] [] 0
    rw [Syntax.steps, Nat.add_assoc, ite_seesStop_add]
    show lowerGo cancel _ ⟨f, k, cs.filter (fun s => !s.isComment), []⟩ _ 0 = _
    rw [List.length_nil] at hparts
    rw [hparts, Nat.add_comm 1 fuel, lowerGo_succ]
    simp [Frame.finish, Syntax.lowered]

end Machine

namespace Syntax

/-- Whenever requests to stop can be seen: lowering fails if and only if one is seen at a step of
its own at which it is looked for, and otherwise it gives the tree of the plain recursion and
nothing else. It never takes more than these steps. -/
theorem lower_eq_lowered (cancel : Nat → Bool) (s : Syntax) :
    (s.lower cancel = none ↔
      ∃ n, 0 < n ∧ n ≤ s.steps 0 ∧ n % cancelInterval = 0 ∧ cancel n = true) ∧
    (∀ t, s.lower cancel = some t → t = s.lowered 0) ∧
    ∀ fuel, s.steps 0 ≤ fuel → lowerGo cancel fuel (Frame.ofSyntax s) [] 0 = s.lower cancel := by
  have hrun {fuel : Nat} (h : s.steps 0 ≤ fuel) : lowerGo cancel fuel (Frame.ofSyntax s) [] 0 =
      if seesStop cancel 0 (s.steps 0) then none else some (s.lowered 0) := by
    obtain ⟨more, rfl⟩ := Nat.exists_eq_add_of_le h
    exact lowerGo_root cancel s more
  have hlower : s.lower cancel =
      if seesStop cancel 0 (s.steps 0) then none else some (s.lowered 0) :=
    hrun (Nat.le_succ_of_le (s.steps_le_cost 0))
  have hstop := seesStop_iff cancel 0 (s.steps 0)
  rw [Nat.zero_add] at hstop
  refine ⟨?_, fun t ht => ?_, fun fuel hfuel => ?_⟩
  · rw [hlower, ← hstop]
    split <;> simp_all
  · rw [hlower] at ht
    split at ht
    · cases ht
    · exact (Option.some.inj ht).symm
  · rw [hrun hfuel, hlower]

def remarkedCall : Syntax := .node none "call_expression" []
  [.node (some .function) "identifier" "fetch".toList [],
    .node none "comment" "/* list */".toList [],
    .node (some .arguments) "arguments" []
      [.node none "string" [] [.node none "string_fragment" "/api".toList []]]]

def longScript : Syntax :=
  .node none "program" [] (List.replicate cancelInterval (.node none "true" [] []))

theorem lower_eq_lowered_call :
    (∃ t, remarkedCall.lower (fun _ => true) = some t ∧ t = remarkedCall.lowered 0 ∧
      t.size = 3 ∧ t.string? = none) ∧
    (remarkedCall.steps 0 ≤ 7 ∧ lowerGo (fun _ => true) 7 (Frame.ofSyntax remarkedCall) [] 0 =
      remarkedCall.lower fun _ => true) ∧
    longScript.lower (fun _ => true) = none := by
  obtain ⟨hnone, htree, hfuel⟩ := lower_eq_lowered (fun _ => true) remarkedCall
  have hsteps : remarkedCall.steps 0 ≤ 7 := by decide
  refine ⟨?_, ⟨hsteps, hfuel 7 hsteps⟩, ?_⟩
  · cases hlower : remarkedCall.lower fun _ => true with
    | none =>
      obtain ⟨n, hpos, hle, hmod, -⟩ := hnone.1 hlower
      have hfew : 7 < cancelInterval := by decide
      have hn : n < cancelInterval := Nat.lt_of_le_of_lt (Nat.le_trans hle hsteps) hfew
      rw [Nat.mod_eq_of_lt hn] at hmod
      omega
    | some t =>
      obtain rfl := htree t hlower
      exact ⟨_, rfl, rfl, by decide, by decide⟩
  · refine (lower_eq_lowered _ longScript).1.2 ⟨cancelInterval, by decide, ?_, by decide, rfl⟩
    decide +kernel

end Syntax

end EndpointScout.Script
