import EndpointScout.Proofs.Script.Traversal
import EndpointScout.Script.Lowering

/-! What a tree that is built from parts holds of them. A call and a member access hold the two
parts that have a role in them, a template what stands in its substitutions, and every other tree
all of its parts. -/
namespace EndpointScout.Script

namespace Tree
variable {α : Type} (m : Tree → List α)

/-- Nothing is given by a node that is only there for its children. -/
structure IsTextual : Prop where
  program : ∀ body, m (.program body) = []
  call : ∀ callee arguments, m (.call callee arguments) = []
  member : ∀ object property computed, m (.member object property computed) = []
  other : ∀ kind children, m (.other kind children) = []

variable {m} (hm : IsTextual m)
include hm

theorem gather_program (body : List Tree) : (program body).gather m = body.flatMap (gather m) := by
  rw [gather_eq, hm.program]
  rfl

theorem gather_call (callee : Tree) (arguments : List Tree) :
    (call callee arguments).gather m = callee.gather m ++ arguments.flatMap (gather m) := by
  rw [gather_eq, hm.call]
  simp [children]

theorem gather_member (object property : Tree) (computed : Bool) :
    (member object property computed).gather m = object.gather m ++ property.gather m := by
  rw [gather_eq, hm.member]
  simp [children]

theorem gather_other (kind : Text) (ts : List Tree) :
    (other kind ts).gather m = ts.flatMap (gather m) := by
  rw [gather_eq, hm.other]
  rfl

theorem gather_missingPart (kind : String) : (missingPart kind).gather m = [] :=
  gather_other hm _ []

end Tree

open Script.Tree

section Roles
variable {f g : Field} {kind kind' : String} {parts rest : List Part} {t : Tree}

theorem takeRole_eq_none (h : takeRole f parts = none) : ∀ p ∈ parts, p.1 ≠ some f := by
  induction parts with
  | nil => simp
  | cons p parts ih =>
    rw [takeRole] at h
    split at h
    · cases h
    · rename_i hrole
      exact List.forall_mem_cons.2 ⟨hrole, ih (Option.map_eq_none_iff.1 h)⟩

theorem perm_of_takeRole (h : takeRole f parts = some (t, rest)) :
    parts.Perm ((some f, t) :: rest) := by
  induction parts generalizing rest with
  | nil => cases h
  | cons p parts ih =>
    rw [takeRole] at h
    split at h
    · rename_i hrole
      obtain ⟨rfl, rfl⟩ := Prod.mk.inj (Option.some.inj h)
      rw [← hrole]
    · obtain ⟨⟨u, left⟩, hu, hrest⟩ := Option.map_eq_some_iff.1 h
      obtain ⟨rfl, rfl⟩ := Prod.mk.inj hrest
      exact ((ih hu).cons p).trans (.swap _ _ _)

theorem partOr_rest (f : Field) (kind : String) (h : (parts.filterMap Prod.fst).Nodup) :
    ((partOr f kind parts).2.filterMap Prod.fst).Nodup ∧ (partOr f kind parts).2 ⊆ parts ∧
      ∀ p ∈ (partOr f kind parts).2, p.1 ≠ some f := by
  rw [partOr]
  cases htake : takeRole f parts with
  | none => exact ⟨h, List.Subset.refl _, takeRole_eq_none htake⟩
  | some found =>
    obtain ⟨t, rest⟩ := found
    have hperm := perm_of_takeRole htake
    have hroles : (f :: rest.filterMap Prod.fst).Nodup := (hperm.filterMap Prod.fst).nodup_iff.1 h
    obtain ⟨hf, hrest⟩ := List.nodup_cons.1 hroles
    refine ⟨hrest, fun p hp => hperm.mem_iff.2 (List.mem_cons_of_mem _ hp), fun p hp hrole => ?_⟩
    exact hf (List.mem_filterMap.2 ⟨p, hp, hrole⟩)

section Gather
variable {α : Type} {m : Tree → List α}

def gatherParts (m : Tree → List α) (parts : List Part) : List α :=
  parts.flatMap fun p => p.2.gather m

variable (hm : IsTextual m)
include hm

theorem perm_partOr (f : Field) (kind : String) (parts : List Part) :
    (gatherParts m parts).Perm
      ((partOr f kind parts).1.gather m ++ gatherParts m (partOr f kind parts).2) := by
  rw [partOr]
  cases htake : takeRole f parts with
  | none => simp [gather_missingPart hm]
  | some found => exact (perm_of_takeRole htake).flatMap_right _

theorem perm_two_roles (hnodup : (parts.filterMap Prod.fst).Nodup)
    (hroles : ∀ p ∈ parts, p.1 = some f ∨ p.1 = some g ∨ p.2.gather m = []) :
    ((partOr f kind parts).1.gather m ++
        (partOr g kind' (partOr f kind parts).2).1.gather m).Perm (gatherParts m parts) := by
  obtain ⟨hnodup', hparts, hf⟩ := partOr_rest f kind hnodup
  obtain ⟨-, hrest, hg⟩ := partOr_rest g kind' hnodup'
  have hnothing : gatherParts m (partOr g kind' (partOr f kind parts).2).2 = [] := by
    refine List.flatMap_eq_nil_iff.2 fun p hp => ?_
    have hp' := hrest hp
    obtain h | h | h := hroles p (hparts hp')
    · exact absurd h (hf p hp')
    · exact absurd h (hg p hp)
    · exact h
  have hsecond := perm_partOr hm g kind' (partOr f kind parts).2
  rw [hnothing, List.append_nil] at hsecond
  exact ((perm_partOr hm f kind parts).trans (hsecond.append_left _)).symm

theorem gather_argumentList (f : Field) (kind : String) (parts : List Part) :
    (argumentList (takeRole f parts)).flatMap (gather m) = (partOr f kind parts).1.gather m := by
  rw [partOr]
  cases takeRole f parts with
  | none => exact (gather_missingPart hm kind).symm
  | some found =>
    obtain ⟨t, rest⟩ := found
    cases t with
    | other k children =>
      rw [argumentList]
      split
      · exact (gather_other hm k children).symm
      · simp
    | _ => simp [argumentList]

end Gather

end Roles

def rolesOf : String → Option (Field × Field)
  | "call_expression" => some (.function, .arguments)
  | "member_expression" => some (.object, .property)
  | "subscript_expression" => some (.object, .index)
  | _ => none

section Build
variable {α : Type} {m : Tree → List α} {kind : String} {parts : List Part}

/-- Outside of templates a tree holds what its parts hold, if the parts that have no role in it hold
nothing. -/
theorem perm_gather_build (hm : IsTextual m) (htemplate : kind ≠ "template_string")
    (hroles : ∀ r ∈ rolesOf kind, (parts.filterMap Prod.fst).Nodup ∧
      ∀ p ∈ parts, p.1 = some r.1 ∨ p.1 = some r.2 ∨ p.2.gather m = []) :
    ((build kind parts).gather m).Perm (gatherParts m parts) := by
  rw [build.eq_def]
  split
  · rw [gather_program hm, gatherParts, List.flatMap_map]
  · obtain ⟨hnodup, hroles⟩ := hroles _ rfl
    simp only [gather_call hm, gather_argumentList hm _ "arguments"]
    exact perm_two_roles hm hnodup hroles
  · obtain ⟨hnodup, hroles⟩ := hroles _ rfl
    simp only [gather_member hm]
    exact perm_two_roles hm hnodup hroles
  · obtain ⟨hnodup, hroles⟩ := hroles _ rfl
    simp only [gather_member hm]
    exact perm_two_roles hm hnodup hroles
  · exact absurd rfl htemplate
  · rw [gather_other hm, gatherParts, List.flatMap_map]

/-- What one tree does to a template: a string is joined to the text, a substitution ends it, and
anything else is left as it is. -/
theorem templateGo_cons (current : Text) (t : Tree) (ts : List Tree) :
    (∃ piece, t = .literal (.string piece) ∧
      templateGo current (t :: ts) = templateGo (current ++ piece) ts) ∨
    (∃ children, t = .other "template_substitution".toList children ∧
      templateGo current (t :: ts) =
        (current :: (templateGo [] ts).1, children ++ (templateGo [] ts).2)) ∨
    (t.string? = none ∧ templateGo current (t :: ts) =
      ((templateGo current ts).1, t :: (templateGo current ts).2)) := by
  rw [templateGo.eq_def]
  simp only
  split
  · exact .inl ⟨_, rfl, rfl⟩
  · split
    · rename_i hkind
      exact .inr (.inl ⟨_, by rw [hkind], rfl⟩)
    · exact .inr (.inr ⟨rfl, rfl⟩)
  · rename_i hstring hother
    refine .inr (.inr ⟨?_, rfl⟩)
    rw [string?.eq_def]
    split
    · exact absurd rfl (hstring _)
    · rfl

def gatherBeside (m : Tree → List α) (t : Tree) : List α :=
  if t.string?.isSome then [] else t.gather m

theorem gather_templateGo (hm : IsTextual m) (current : Text) (ts : List Tree) :
    (templateGo current ts).2.flatMap (gather m) = ts.flatMap (gatherBeside m) := by
  induction ts generalizing current with
  | nil => rfl
  | cons t ts ih =>
    obtain ⟨piece, rfl, hstep⟩ | ⟨children, rfl, hstep⟩ | ⟨hnone, hstep⟩ :=
      templateGo_cons current t ts
    · rw [hstep, ih]
      simp [gatherBeside, string?]
    · rw [hstep, List.flatMap_append, ih, List.flatMap_cons, gatherBeside, gather_other hm]
      rfl
    · rw [hstep, List.flatMap_cons, ih, List.flatMap_cons, gatherBeside, hnone]
      rfl

theorem exists_quasi_of_current (current : Text) (ts : List Tree) :
    ∃ q ∈ (templateGo current ts).1, current <+: q := by
  induction ts generalizing current with
  | nil => exact ⟨current, by simp [templateGo], List.prefix_rfl⟩
  | cons t ts ih =>
    obtain ⟨piece, rfl, hstep⟩ | ⟨children, rfl, hstep⟩ | ⟨hnone, hstep⟩ :=
      templateGo_cons current t ts
    · rw [hstep]
      obtain ⟨q, hq, hcurrent⟩ := ih (current ++ piece)
      exact ⟨q, hq, (List.prefix_append current piece).trans hcurrent⟩
    · rw [hstep]
      exact ⟨current, List.mem_cons_self, List.prefix_rfl⟩
    · rw [hstep]
      exact ih current

theorem exists_quasi_of_mem {x : Text} {ts : List Tree} (h : .literal (.string x) ∈ ts)
    (current : Text) : ∃ q ∈ (templateGo current ts).1, x <:+: q := by
  induction ts generalizing current with
  | nil => cases h
  | cons t ts ih =>
    obtain rfl | hmem := List.mem_cons.1 h
    · obtain ⟨q, hq, hprefix⟩ := exists_quasi_of_current (current ++ x) ts
      exact ⟨q, hq, (List.suffix_append current x).isInfix.trans hprefix.isInfix⟩
    · obtain ⟨piece, rfl, hstep⟩ | ⟨children, rfl, hstep⟩ | ⟨hnone, hstep⟩ :=
        templateGo_cons current t ts
      · rw [hstep]
        exact ih hmem _
      · rw [hstep]
        obtain ⟨q, hq, hx⟩ := ih hmem []
        exact ⟨q, List.mem_cons_of_mem _ hq, hx⟩
      · rw [hstep]
        exact ih hmem current

theorem gather_buildTemplate (hm : IsTextual m) (ts : List Tree) :
    (buildTemplate ts).gather m = m (buildTemplate ts) ++ ts.flatMap (gatherBeside m) := by
  rw [gather_eq, ← gather_templateGo hm []]
  rfl

theorem string?_build (kind : String) (parts : List Part) : (build kind parts).string? = none := by
  rw [build.eq_def]
  split <;> rfl

end Build

end EndpointScout.Script
