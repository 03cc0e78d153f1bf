import EndpointScout.Crawl.Walk
import Mathlib.Data.Nat.Find

/-! Chains of links between pages and the length of the shortest one. -/
namespace EndpointScout.Crawl
variable {α : Type*} {link : α → α → Prop} {u v : α} {n m : Nat}

/-- `v` is reached from `u` over `n` links. -/
def Chain (link : α → α → Prop) : Nat → α → α → Prop
  | 0, u, v => u = v
  | n + 1, u, v => ∃ w, Chain link n u w ∧ link w v

/-- No chain of links is shorter than `n`, and one has this length. -/
structure IsDistance (link : α → α → Prop) (u v : α) (n : Nat) : Prop where
  chain : Chain link n u v
  shortest : ∀ m, Chain link m u v → n ≤ m

theorem IsDistance.unique (h : IsDistance link u v n) (h' : IsDistance link u v m) : n = m :=
  Nat.le_antisymm (h.shortest m h'.chain) (h'.shortest n h.chain)

theorem Chain.exists_isDistance (h : Chain link n u v) : ∃ m ≤ n, IsDistance link u v m := by
  classical
  have he : ∃ m, Chain link m u v := ⟨n, h⟩
  exact ⟨Nat.find he, Nat.find_min' he h, Nat.find_spec he, fun m hm => Nat.find_min' he hm⟩

theorem IsDistance.exists_pred (h : IsDistance link u v (n + 1)) :
    ∃ w, IsDistance link u w n ∧ link w v := by
  obtain ⟨w, hw, hwv⟩ := h.chain
  refine ⟨w, ⟨hw, ?_⟩, hwv⟩
  intro m hm
  have := h.shortest (m + 1) ⟨w, hm, hwv⟩
  omega

end EndpointScout.Crawl
