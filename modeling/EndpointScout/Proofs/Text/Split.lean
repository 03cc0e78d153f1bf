import EndpointScout.Text.Basic

/-! Cutting texts at a separator, and putting the pieces together again. -/
namespace EndpointScout.Text

section
variable {p : Char → Bool} {s t : Text} (hs : ∀ c ∈ s, p c = true)
  (ht : ∀ c ∈ t.head?, p c = false)
include hs ht

theorem takeWhile_append_of_head : (s ++ t).takeWhile p = s := by
  rw [List.takeWhile_append_of_pos hs]
  cases t with
  | nil => exact List.append_nil s
  | cons c t => rw [List.takeWhile_cons_of_neg (by simp [ht c rfl]), List.append_nil]

theorem dropWhile_append_of_head : (s ++ t).dropWhile p = t := by
  rw [List.dropWhile_append_of_pos hs]
  cases t with
  | nil => rfl
  | cons c t => exact List.dropWhile_cons_of_neg (by simp [ht c rfl])

end

theorem splitAt_ne_nil (s : Char) (t : Text) : splitAt s t ≠ [] := by
  cases t with
  | nil => simp [splitAt]
  | cons c t =>
    rw [splitAt]
    split
    · simp
    · split <;> simp

theorem not_mem_of_mem_splitAt {s : Char} {t p : Text} (h : p ∈ splitAt s t) : s ∉ p := by
  induction t generalizing p with
  | nil =>
    rw [List.mem_singleton.1 h]
    simp
  | cons c t ih =>
    rw [splitAt] at h
    split at h
    · obtain rfl | h := List.mem_cons.1 h
      · simp
      · exact ih h
    · rename_i hc
      split at h
      · rw [List.mem_singleton.1 h]
        simpa using Ne.symm hc
      · rename_i piece pieces hsplit
        obtain rfl | h := List.mem_cons.1 h
        · have hpiece := ih (hsplit ▸ List.mem_cons_self)
          simpa using ⟨Ne.symm hc, hpiece⟩
        · exact ih (hsplit ▸ List.mem_cons_of_mem _ h)

theorem splitAt_of_not_mem {s : Char} {t : Text} (h : s ∉ t) : splitAt s t = [t] := by
  induction t with
  | nil => rfl
  | cons c t ih =>
    rw [List.mem_cons, not_or] at h
    rw [splitAt, if_neg (Ne.symm h.1), ih h.2]

theorem splitAt_append {s : Char} {p : Text} (h : s ∉ p) (t : Text) :
    splitAt s (p ++ s :: t) = p :: splitAt s t := by
  induction p with
  | nil => simp [splitAt]
  | cons c p ih =>
    rw [List.mem_cons, not_or] at h
    rw [List.cons_append, splitAt, if_neg (Ne.symm h.1), ih h.2]

theorem splitAt_join {s : Char} {ps : List Text} (hne : ps ≠ []) (h : ∀ p ∈ ps, s ∉ p) :
    splitAt s (join [s] ps) = ps := by
  match ps, hne with
  | [p], _ => exact splitAt_of_not_mem (h p List.mem_cons_self)
  | p :: q :: ps, _ =>
    obtain ⟨hp, hps⟩ := List.forall_mem_cons.1 h
    rw [join, List.append_assoc, List.singleton_append, splitAt_append hp,
      splitAt_join (List.cons_ne_nil q ps) hps]
    simp

theorem join_splitAt (s : Char) (t : Text) : join [s] (splitAt s t) = t := by
  induction t with
  | nil => rfl
  | cons c t ih =>
    rw [splitAt]
    split
    · rename_i hc
      obtain ⟨p, ps, hps⟩ := List.exists_cons_of_ne_nil (splitAt_ne_nil s t)
      rw [hps] at ih ⊢
      simp [join, ih, hc]
    · cases hps : splitAt s t with
      | nil => exact absurd hps (splitAt_ne_nil s t)
      | cons p ps =>
        rw [hps] at ih
        rw [← ih]
        cases ps <;> simp [join]

theorem mem_join {g c : Char} {ps : List Text} (h : c ∈ join [g] ps) :
    c = g ∨ ∃ p ∈ ps, c ∈ p := by
  match ps with
  | [] => cases h
  | [p] => exact .inr ⟨p, List.mem_cons_self, h⟩
  | p :: q :: ps =>
    rw [join] at h
    · obtain h | h := List.mem_append.1 h
      · obtain h | h := List.mem_append.1 h
        · exact .inr ⟨p, List.mem_cons_self, h⟩
        · exact .inl (List.mem_singleton.1 h)
      · obtain h | ⟨r, hr, h⟩ := mem_join h
        · exact .inl h
        · exact .inr ⟨r, List.mem_cons_of_mem _ hr, h⟩
    · simp

theorem subset_join {g : Text} {ps : List Text} {p : Text} (hp : p ∈ ps) : p ⊆ join g ps := by
  match ps with
  | [] => cases hp
  | [q] =>
    rw [List.mem_singleton.1 hp]
    exact fun c hc => hc
  | q :: r :: ps =>
    rw [join]
    · obtain rfl | hp := List.mem_cons.1 hp
      · exact fun c hc => List.mem_append_left _ (List.mem_append_left _ hc)
      · exact fun c hc => List.mem_append_right _ (subset_join hp hc)
    · simp

theorem cutAt?_of_not_mem {c : Char} {t : Text} (h : c ∉ t) : cutAt? c t = none := by
  induction t with
  | nil => rfl
  | cons d t ih =>
    rw [List.mem_cons, not_or] at h
    rw [cutAt?, if_neg (Ne.symm h.1), ih h.2]
    rfl

theorem cutAt?_append {c : Char} {t : Text} (h : c ∉ t) (u : Text) :
    cutAt? c (t ++ c :: u) = some (t, u) := by
  induction t with
  | nil => simp [cutAt?]
  | cons d t ih =>
    rw [List.mem_cons, not_or] at h
    rw [List.cons_append, cutAt?, if_neg (Ne.symm h.1), ih h.2]
    rfl

theorem cutAt?_eq_some {c : Char} {t s u : Text} (h : cutAt? c t = some (s, u)) :
    t = s ++ c :: u := by
  induction t generalizing s with
  | nil => cases h
  | cons d t ih =>
    rw [cutAt?] at h
    split at h
    · rename_i hcd
      cases h
      rw [hcd, List.nil_append]
    · obtain ⟨p, hp, hpair⟩ := Option.map_eq_some_iff.1 h
      obtain ⟨rfl, rfl⟩ := Prod.mk.inj hpair
      rw [ih hp, List.cons_append]

theorem dropPrefix?_append (start t : Text) : dropPrefix? (start ++ t) start = some t := by
  induction start with
  | nil => cases t <;> rfl
  | cons c start ih => simpa [dropPrefix?] using ih

theorem dropPrefix?_eq_some {t start rest : Text} (h : dropPrefix? t start = some rest) :
    t = start ++ rest := by
  induction start generalizing t with
  | nil =>
    have h : some t = some rest := by
      cases t <;> exact h
    exact Option.some.inj h
  | cons d start ih =>
    cases t with
    | nil => cases h
    | cons c t =>
      rw [dropPrefix?] at h
      split at h
      · rename_i hcd
        rw [hcd, ih h, List.cons_append]
      · cases h

theorem dropSuffix?_eq_some {t tail front : Text} (h : dropSuffix? t tail = some front) :
    t = front ++ tail := by
  obtain ⟨rest, hrest, rfl⟩ := Option.map_eq_some_iff.1 h
  have hreverse := congrArg List.reverse (dropPrefix?_eq_some hrest)
  rwa [List.reverse_reverse, List.reverse_append, List.reverse_reverse] at hreverse

theorem dropSuffix?_append (front tail : Text) : dropSuffix? (front ++ tail) tail = some front := by
  rw [dropSuffix?, List.reverse_append, dropPrefix?_append, Option.map_some, List.reverse_reverse]

theorem dropSuffix?_eq_none_iff {t tail : Text} : dropSuffix? t tail = none ↔ ¬tail <:+ t := by
  constructor
  · rintro h ⟨front, rfl⟩
    rw [dropSuffix?_append] at h
    cases h
  · exact fun h => Option.eq_none_iff_forall_ne_some.2 fun front hfront =>
      h ⟨front, (dropSuffix?_eq_some hfront).symm⟩

theorem occursIn_iff {part t : Text} : occursIn part t ↔ part <:+: t := by
  induction t with
  | nil => simp [occursIn]
  | cons c t ih => simp [occursIn, ih, List.infix_cons_iff]

theorem length_of_mapM {α β : Type} {f : α → Option β} {xs : List α} {ys : List β}
    (h : xs.mapM f = some ys) : ys.length = xs.length := by
  induction xs generalizing ys with
  | nil =>
    rw [List.mapM_nil] at h
    cases h
    rfl
  | cons x xs ih =>
    rw [List.mapM_cons] at h
    obtain ⟨y, -, h⟩ := Option.bind_eq_some_iff.1 h
    obtain ⟨zs, hzs, h⟩ := Option.bind_eq_some_iff.1 h
    cases h
    rw [List.length_cons, List.length_cons, ih hzs]

theorem forall_of_mapM {α β : Type} {f : α → Option β} {p : β → Prop}
    (hp : ∀ x y, f x = some y → p y) {xs : List α} {ys : List β} (h : xs.mapM f = some ys) :
    ∀ y ∈ ys, p y := by
  induction xs generalizing ys with
  | nil =>
    rw [List.mapM_nil] at h
    cases h
    simp
  | cons x xs ih =>
    rw [List.mapM_cons] at h
    obtain ⟨y, hy, h⟩ := Option.bind_eq_some_iff.1 h
    obtain ⟨zs, hzs, h⟩ := Option.bind_eq_some_iff.1 h
    cases h
    exact List.forall_mem_cons.2 ⟨hp x y hy, ih hzs⟩

end EndpointScout.Text
