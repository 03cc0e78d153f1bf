import EndpointScout.Proofs.Script.LevelOrder
import EndpointScout.Proofs.Script.Parts
import EndpointScout.Proofs.Script.Traversal
import Mathlib.Data.List.Forall2

/-! Comments and the strings of a script. A node that holds nothing but comments is no leaf, so a
script and the same script without its comments need not become the same tree. They become trees
with the same strings at each depth. -/
namespace EndpointScout.Script

namespace Tree
variable {t t' : Tree}

def stringsAt (n : Nat) (t : Tree) : List Text := (t.level n).filterMap string?

def strings (t : Tree) : List Text := t.breadthFirst.filterMap string?

theorem stringsAt_zero (t : Tree) : t.stringsAt 0 = t.string?.toList := by
  rw [stringsAt, level_zero]
  cases h : t.string? <;> simp [h]

theorem stringsAt_succ (n : Nat) (t : Tree) :
    t.stringsAt (n + 1) = t.children.flatMap (stringsAt n) := by
  rw [stringsAt, level_succ, List.filterMap_flatMap]
  rfl

theorem stringsAt_other (n : Nat) (kind : Text) (ts : List Tree) :
    (other kind ts).stringsAt (n + 1) = ts.flatMap (stringsAt n) := stringsAt_succ n _

theorem strings_eq {n : Nat} (h : t.height ≤ n) :
    t.strings = (List.range n).flatMap fun k => t.stringsAt k := by
  have hlevels : t.breadthFirst = t.firstLevels t.height := by
    rw [breadthFirst, ← length_firstLevels]
    exact visit_height 0 t
  obtain ⟨more, rfl⟩ := Nat.exists_eq_add_of_le h
  -- Below the last level there is nothing, so that the levels may be counted on.
  have hbelow (k : Nat) : t.stringsAt (t.height + k) = [] := by
    rw [stringsAt, (level_eq_nil_iff _ t).2 (Nat.le_add_right _ k)]
    rfl
  have hnothing : ((List.range more).flatMap fun k => t.stringsAt (t.height + k)) = [] := by
    simp [hbelow]
  rw [strings, hlevels, firstLevels, List.filterMap_flatMap, List.range_add, List.flatMap_append,
    List.flatMap_map, hnothing, List.append_nil]
  rfl

theorem strings_congr (h : ∀ n, t.stringsAt n = t'.stringsAt n) : t.strings = t'.strings := by
  rw [strings_eq (le_max_left t.height t'.height), strings_eq (le_max_right t.height t'.height)]
  simp only [h]

def isOther (kind : String) : Tree → Bool
  | other k _ => k = kind.toList
  | _ => false

theorem isOther_other (kind : String) (k : Text) (ts : List Tree) :
    (other k ts).isOther kind = decide (k = kind.toList) := rfl

/-- Trees with the same strings at each depth that are used alike as parts of a tree: a list of
arguments and a substitution give their children away. -/
structure Alike (t t' : Tree) : Prop where
  strings : ∀ n, t.stringsAt n = t'.stringsAt n
  arguments : t.isOther "arguments" = t'.isOther "arguments"
  substitution : t.isOther "template_substitution" = t'.isOther "template_substitution"

theorem Alike.refl (t : Tree) : t.Alike t := ⟨fun _ => rfl, rfl, rfl⟩

theorem Alike.symm (h : t.Alike t') : t'.Alike t :=
  ⟨fun n => (h.strings n).symm, h.arguments.symm, h.substitution.symm⟩

theorem Alike.string?_eq (h : t.Alike t') : t.string? = t'.string? := by
  have hzero := h.strings 0
  rw [stringsAt_zero, stringsAt_zero] at hzero
  cases ht : t.string? <;> cases ht' : t'.string? <;> simp_all

end Tree

open Script.Tree

abbrev AlikeParts : List Part → List Part → Prop :=
  List.Forall₂ fun p q => p.1 = q.1 ∧ p.2.Alike q.2

section Build
variable {ps qs : List Part} {f : Field} {n : Nat}

theorem flatMap_stringsAt_congr {ts ts' : List Tree} (h : List.Forall₂ Alike ts ts') :
    ts.flatMap (stringsAt n) = ts'.flatMap (stringsAt n) := by
  induction h with
  | nil => rfl
  | cons ht _ ih => rw [List.flatMap_cons, List.flatMap_cons, ht.strings, ih]

theorem alike_trees (h : AlikeParts ps qs) :
    List.Forall₂ Alike (ps.map (·.2)) (qs.map (·.2)) :=
  List.forall₂_map_left_iff.2 (List.forall₂_map_right_iff.2 (h.imp fun _ _ hpq => hpq.2))

theorem takeRole_alike (h : AlikeParts ps qs) :
    Option.Rel (fun a b => a.1.Alike b.1 ∧ AlikeParts a.2 b.2) (takeRole f ps)
      (takeRole f qs) := by
  induction h with
  | nil => exact .none
  | @cons p q ps qs hpq h ih =>
    obtain ⟨role, t⟩ := p
    obtain ⟨role', t'⟩ := q
    obtain ⟨rfl, ht⟩ : role = role' ∧ t.Alike t' := hpq
    rw [takeRole, takeRole]
    by_cases hrole : role = some f
    · rw [if_pos hrole, if_pos hrole]
      exact .some ⟨ht, h⟩
    · rw [if_neg hrole, if_neg hrole]
      generalize takeRole f ps = found, takeRole f qs = found' at ih ⊢
      cases ih with
      | none => exact .none
      | some hfound => exact .some ⟨hfound.1, .cons ⟨rfl, ht⟩ hfound.2⟩

theorem partOr_alike (h : AlikeParts ps qs) (kind : String) :
    (partOr f kind ps).1.Alike (partOr f kind qs).1 ∧
      AlikeParts (partOr f kind ps).2 (partOr f kind qs).2 := by
  have hrole := takeRole_alike (f := f) h
  rw [partOr, partOr]
  generalize takeRole f ps = found, takeRole f qs = found' at hrole ⊢
  cases hrole with
  | none => exact ⟨.refl _, h⟩
  | some hfound => exact hfound

theorem flatMap_argumentList (t : Tree) (rest : List Part) :
    (argumentList (some (t, rest))).flatMap (stringsAt n) =
      if t.isOther "arguments" then t.stringsAt (n + 1) else t.stringsAt n := by
  cases t with
  | other kind children =>
    rw [argumentList, stringsAt_other, isOther_other]
    by_cases hkind : kind = "arguments".toList
    · rw [if_pos hkind, if_pos (decide_eq_true hkind)]
    · rw [if_neg hkind, if_neg (ne_true_of_eq_false (decide_eq_false hkind)),
        List.flatMap_singleton]
  | _ => exact List.flatMap_singleton ..

theorem argumentList_alike (h : AlikeParts ps qs) :
    (argumentList (takeRole f ps)).flatMap (stringsAt n) =
      (argumentList (takeRole f qs)).flatMap (stringsAt n) := by
  have hrole := takeRole_alike (f := f) h
  generalize takeRole f ps = found, takeRole f qs = found' at hrole ⊢
  cases hrole with
  | none => rfl
  | some hfound =>
    rw [flatMap_argumentList, flatMap_argumentList, hfound.1.arguments, hfound.1.strings,
      hfound.1.strings]

theorem flatMap_templateGo (current : Text) (ts : List Tree) :
    (templateGo current ts).2.flatMap (stringsAt n) = ts.flatMap fun t =>
      if t.string?.isSome then []
      else if t.isOther "template_substitution" then t.stringsAt (n + 1) else t.stringsAt n := by
  induction ts generalizing current with
  | nil => rfl
  | cons t ts ih =>
    cases t with
    | literal l =>
      cases l with
      | string piece =>
        rw [templateGo, ih, List.flatMap_cons]
        rfl
      | _ =>
        rw [List.flatMap_cons, ← ih current]
        rfl
    | other kind children =>
      have hstring : (other kind children).string?.isSome = false := rfl
      rw [templateGo, List.flatMap_cons, isOther_other, stringsAt_other,
        if_neg (ne_true_of_eq_false hstring)]
      by_cases hkind : kind = "template_substitution".toList
      · rw [if_pos hkind, if_pos (decide_eq_true hkind), ← ih [], ← List.flatMap_append]
      · rw [if_neg hkind, if_neg (ne_true_of_eq_false (decide_eq_false hkind)), ← ih current]
        rfl
    | _ =>
      rw [List.flatMap_cons, ← ih current]
      rfl

theorem flatMap_templateGo_congr {ts ts' : List Tree} (h : List.Forall₂ Alike ts ts')
    (current current' : Text) : (templateGo current ts).2.flatMap (stringsAt n) =
      (templateGo current' ts').2.flatMap (stringsAt n) := by
  rw [flatMap_templateGo, flatMap_templateGo]
  induction h with
  | nil => rfl
  | cons ht _ ih =>
    rw [List.flatMap_cons, List.flatMap_cons, ih, ht.string?_eq, ht.substitution, ht.strings,
      ht.strings]

theorem stringsAt_build_zero (kind : String) (ps : List Part) :
    (build kind ps).stringsAt 0 = [] := by
  rw [stringsAt_zero, string?_build]
  rfl

theorem build_alike (h : AlikeParts ps qs) (kind : String) :
    (build kind ps).Alike (build kind qs) := by
  have hrest {f : Field} {missing : String} := partOr_alike (f := f) h missing
  have hstrings : ∀ n, (build kind ps).stringsAt n = (build kind qs).stringsAt n := by
    intro n
    cases n with
    | zero => rw [stringsAt_build_zero, stringsAt_build_zero]
    | succ n =>
      rw [stringsAt_succ, stringsAt_succ, build.eq_def, build.eq_def]
      split
      · exact flatMap_stringsAt_congr (alike_trees h)
      · simp only [children, List.flatMap_cons, hrest.1.strings n, argumentList_alike hrest.2]
      · simp only [children, List.flatMap_cons, List.flatMap_nil, hrest.1.strings n,
          (partOr_alike hrest.2 "property").1.strings n]
      · simp only [children, List.flatMap_cons, List.flatMap_nil, hrest.1.strings n,
          (partOr_alike hrest.2 "property").1.strings n]
      · exact flatMap_templateGo_congr (alike_trees h) _ _
      · exact flatMap_stringsAt_congr (alike_trees h)
  -- Neither kind that gives its children away is one of those that are built in a way of their own.
  refine ⟨hstrings, ?_, ?_⟩
  all_goals
    rw [build.eq_def, build.eq_def]
    split <;> rfl

theorem alike_build_nil (kind : String) : (build kind []).Alike (.other kind.toList []) := by
  have hstrings : ∀ n, (build kind []).stringsAt n = [] := by
    intro n
    cases n with
    | zero => exact stringsAt_build_zero kind []
    | succ n =>
      rw [stringsAt_succ, build.eq_def]
      split <;> cases n <;> rfl
  refine ⟨fun n => ?_, ?_, ?_⟩
  · rw [hstrings]
    cases n <;> rfl
  all_goals
    rw [build.eq_def]
    split
    case h_6 => rfl
    all_goals decide

end Build

namespace Syntax

mutual

def bare : Syntax → Syntax
  | node f k t cs => node f k t (bareAll cs)

def bareAll : List Syntax → List Syntax
  | [] => []
  | s :: ss => if s.isComment then bareAll ss else s.bare :: bareAll ss

end

@[simp] theorem kind_bare (s : Syntax) : s.bare.kind = s.kind := by
  cases s
  rfl

@[simp] theorem text_bare (s : Syntax) : s.bare.text = s.text := by
  cases s
  rfl

@[simp] theorem field_bare (s : Syntax) : s.bare.field = s.field := by
  cases s
  rfl

theorem isComment_bare (s : Syntax) : s.bare.isComment = s.isComment := by
  rw [isComment, isComment, kind_bare]

theorem bareAll_eq (ss : List Syntax) :
    bareAll ss = (ss.filter fun s => !s.isComment).map bare := by
  induction ss with
  | nil => rfl
  | cons s ss ih => cases h : s.isComment <;> simp [bareAll, h, ih]

theorem children_bare (s : Syntax) : s.bare.children = s.parts.map bare := by
  cases s with
  | node f k t cs => exact bareAll_eq cs

theorem parts_bare (s : Syntax) : s.bare.parts = s.parts.map bare := by
  rw [parts, children_bare, List.filter_eq_self]
  refine List.forall_mem_map.2 fun p hp => ?_
  rw [isComment_bare]
  exact (List.mem_filter.1 hp).2

theorem stringText_bare (s : Syntax) : s.bare.stringText = s.stringText := by
  have hpiece (p : Syntax) : p.bare.pieceText = p.pieceText := by
    simp [pieceText]
  rw [stringText, stringText, parts_bare, List.flatMap_map]
  simp only [hpiece]

/-- Without its comments a node is the leaf that it was, or it holds nothing else and becomes
one. -/
theorem leaf?_bare (s : Syntax) : s.bare.leaf? = s.leaf? ∨
    s.leaf? = none ∧ s.parts = [] ∧ s.bare.leaf? = some (.other s.kind.toList []) := by
  cases htoken : isToken s.kind with
  | true =>
    rw [leaf?, leaf?, kind_bare, text_bare, stringText_bare]
    left
    split
    · rfl
    · split
      case h_9 =>
        simp_all [isToken]
      all_goals rfl
  | false =>
    rw [leaf?_of_not_isToken htoken, leaf?_of_not_isToken (by rwa [kind_bare]), kind_bare,
      children_bare]
    cases hparts : s.parts with
    | nil =>
      cases hchildren : s.children with
      | nil => exact .inl rfl
      | cons c cs => exact .inr ⟨rfl, rfl, rfl⟩
    | cons p ps =>
      have hchildren : s.children ≠ [] := by
        intro hnil
        rw [parts, hnil] at hparts
        cases hparts
      exact .inl (by simp [hchildren])

theorem flatMap_leaves_bare (n : Nat) (s : Syntax) :
    s.bare.leaves.flatMap (stringsAt n) = s.leaves.flatMap (stringsAt n) := by
  induction s using induct with
  | step s ih =>
    obtain hleaf | ⟨hnone, hparts, hleaf⟩ := s.leaf?_bare
    · cases h : s.leaf? with
      | some t => rw [leaves_of_leaf? h, leaves_of_leaf? (hleaf.trans h)]
      | none =>
        have hmem : ∀ p ∈ s.parts, p ∈ s.children := fun p hp => (List.mem_filter.1 hp).1
        rw [leaves_of_leaf?_none h, leaves_of_leaf?_none (hleaf.trans h), parts_bare,
          List.flatMap_map, List.flatMap_assoc, List.flatMap_assoc]
        exact List.flatMap_congr fun p hp => ih p (hmem p hp)
    · rw [leaves_of_leaf? hleaf, leaves_of_leaf?_none hnone, hparts]
      cases n <;> rfl

theorem alike_flattened_bare (s : Syntax) : s.bare.flattened.Alike s.flattened := by
  rw [flattened_eq, flattened_eq, kind_bare]
  refine ⟨fun n => ?_, rfl, rfl⟩
  cases n with
  | zero => rfl
  | succ n => rw [stringsAt_other, stringsAt_other, flatMap_leaves_bare]

theorem alike_lowered_bare (depth : Nat) (s : Syntax)
    (h : ∀ p ∈ s.parts, (p.bare.loweredPart (depth + 1)).Alike (p.loweredPart (depth + 1))) :
    (s.bare.lowered depth).Alike (s.lowered depth) := by
  rw [lowered_eq, lowered_eq, kind_bare, parts_bare, List.map_map]
  refine build_alike ?_ _
  refine List.forall₂_map_left_iff.2 (List.forall₂_map_right_iff.2 (List.forall₂_same.2 ?_))
  exact fun p hp => ⟨field_bare p, h p hp⟩

theorem alike_loweredPart_bare (depth : Nat) (s : Syntax) :
    (s.bare.loweredPart depth).Alike (s.loweredPart depth) := by
  induction s using induct generalizing depth with
  | step s ih =>
    obtain hleaf | ⟨hnone, hparts, hleaf⟩ := s.leaf?_bare
    · cases h : s.leaf? with
      | some t =>
        rw [loweredPart_of_leaf? h, loweredPart_of_leaf? (hleaf.trans h)]
        exact .refl t
      | none =>
        rw [loweredPart, loweredPart, closed?, closed?, h, hleaf.trans h]
        simp only
        split
        · exact s.alike_flattened_bare
        · exact s.alike_lowered_bare depth fun p hp => ih p (List.mem_filter.1 hp).1 _
    · rw [loweredPart_of_leaf? hleaf, loweredPart, closed?, hnone]
      simp only
      split
      · rw [Option.getD_some, flattened_eq, leaves_of_leaf?_none hnone, hparts]
        exact .refl _
      · rw [Option.getD_none, lowered_eq, hparts]
        exact (alike_build_nil s.kind).symm

theorem strings_lowered_bare (s : Syntax) : (s.bare.lowered 0).strings = (s.lowered 0).strings :=
  strings_congr (s.alike_lowered_bare 0 fun p _ => p.alike_loweredPart_bare 1).strings

end Syntax

end EndpointScout.Script
