import EndpointScout.Text.Blank
import Mathlib.Data.List.DropRight

/-! Dropping the end of a text that is put together from parts. -/
namespace EndpointScout.Text

section
variable {p : Char → Bool}

theorem dropEndWhile_append (s t : Text) : dropEndWhile p (s ++ t) =
    if dropEndWhile p t = [] then dropEndWhile p s else s ++ dropEndWhile p t := by
  rw [dropEndWhile, dropEndWhile, dropEndWhile, List.reverse_append, List.dropWhile_append]
  by_cases h : t.reverse.dropWhile p = []
  · simp [h]
  · simp [h]

theorem dropEndWhile_append_cons {c : Char} (hc : p c = false) (s t : Text) :
    dropEndWhile p (s ++ c :: t) = s ++ c :: dropEndWhile p t := by
  have hcons : dropEndWhile p (c :: t) = c :: dropEndWhile p t := by
    rw [← List.singleton_append, dropEndWhile_append]
    split
    · rename_i ht
      rw [ht]
      simp [dropEndWhile, hc]
    · rfl
  rw [dropEndWhile_append, hcons, if_neg (List.cons_ne_nil _ _)]

theorem dropEndWhile_cons {c : Char} (hc : p c = false) (t : Text) :
    dropEndWhile p (c :: t) = c :: dropEndWhile p t :=
  dropEndWhile_append_cons hc [] t

theorem dropEndWhile_of_forall {t : Text} (h : ∀ c ∈ t, p c = false) : dropEndWhile p t = t := by
  have hdrop : t.reverse.dropWhile p = t.reverse := List.dropWhile_eq_self_iff.2 fun hpos =>
    ne_true_of_eq_false (h _ (List.mem_reverse.1 (List.getElem_mem hpos)))
  rw [dropEndWhile, hdrop, List.reverse_reverse]

theorem dropEndWhile_prefix (t : Text) : dropEndWhile p t <+: t :=
  List.rdropWhile_prefix p t

theorem dropEndWhile_mono {s t : Text} (h : s <+: t) : dropEndWhile p s <+: dropEndWhile p t := by
  obtain ⟨rest, rfl⟩ := h
  have hkept := dropEndWhile_prefix (p := p) s
  rw [dropEndWhile_append]
  split
  · exact List.prefix_rfl
  · exact hkept.trans (List.prefix_append _ _)

theorem dropWhile_mono {s t : Text} (h : s <+: t) : s.dropWhile p <+: t.dropWhile p := by
  obtain ⟨rest, rfl⟩ := h
  rw [List.dropWhile_append]
  split
  · rename_i hempty
    rw [List.isEmpty_iff.1 hempty]
    exact List.nil_prefix
  · exact List.prefix_append _ _

theorem takeWhile_mono {s t : Text} (h : s <+: t) : s.takeWhile p <+: t.takeWhile p := by
  obtain ⟨rest, rfl⟩ := h
  rw [List.takeWhile_append]
  split
  · exact (List.takeWhile_prefix p).trans (List.prefix_append _ _)
  · exact List.prefix_rfl

theorem trimWhile_of_forall {t : Text} (h : ∀ c ∈ t, p c = false) : trimWhile p t = t := by
  have hdrop : t.dropWhile p = t := List.dropWhile_eq_self_iff.2 fun hpos =>
    ne_true_of_eq_false (h _ (List.getElem_mem hpos))
  rw [trimWhile, hdrop, dropEndWhile_of_forall h]

theorem exists_trimWhile (p : Char → Bool) (t : Text) : ∃ front back,
    t = front ++ (trimWhile p t ++ back) ∧ (∀ c ∈ front, p c) ∧ ∀ c ∈ back, p c := by
  refine ⟨t.takeWhile p, (t.dropWhile p).rtakeWhile p, ?_, fun c hc => List.mem_takeWhile_imp hc,
    fun c hc => List.mem_rtakeWhile_imp hc⟩
  have hend : trimWhile p t ++ (t.dropWhile p).rtakeWhile p = t.dropWhile p :=
    List.rdropWhile_append_rtakeWhile
  rw [hend, List.takeWhile_append_dropWhile]

theorem trimWhile_append {front back : Text} (hfront : ∀ c ∈ front, p c) (hback : ∀ c ∈ back, p c)
    (t : Text) : trimWhile p (front ++ (t ++ back)) = trimWhile p t := by
  have hnil : dropEndWhile p back = [] := List.rdropWhile_eq_nil_iff.2 hback
  rw [trimWhile, List.dropWhile_append_of_pos hfront, List.dropWhile_append]
  split
  · rename_i hempty
    rw [trimWhile, List.isEmpty_iff.1 hempty, List.dropWhile_eq_nil_iff.2 hback]
  · rw [dropEndWhile_append, if_pos hnil, trimWhile]

theorem trimWhile_trimWhile (p : Char → Bool) (t : Text) :
    trimWhile p (trimWhile p t) = trimWhile p t := by
  obtain ⟨front, back, ht, hfront, hback⟩ := exists_trimWhile p t
  conv_rhs => rw [ht, trimWhile_append hfront hback]

theorem trimWhile_eq_nil_iff {t : Text} : trimWhile p t = [] ↔ ∀ c ∈ t, p c := by
  constructor
  · intro h
    obtain ⟨front, back, ht, hfront, hback⟩ := exists_trimWhile p t
    rw [h, List.nil_append] at ht
    rw [ht]
    exact List.forall_mem_append.2 ⟨hfront, hback⟩
  · intro h
    rw [trimWhile, List.dropWhile_eq_nil_iff.2 h]
    rfl

theorem mem_dropWhile {c : Char} (hc : p c = false) (t : Text) : c ∈ t.dropWhile p ↔ c ∈ t := by
  induction t with
  | nil => rfl
  | cons d t ih =>
    rw [List.dropWhile_cons]
    split
    · rename_i hd
      have hne : c ≠ d := by
        rintro rfl
        rw [hc] at hd
        cases hd
      rw [ih, List.mem_cons, or_iff_right hne]
    · rfl

theorem mem_dropEndWhile {c : Char} (hc : p c = false) (t : Text) :
    c ∈ dropEndWhile p t ↔ c ∈ t := by
  rw [dropEndWhile, List.mem_reverse, mem_dropWhile hc, List.mem_reverse]

end

theorem trim_trim (t : Text) : trim (trim t) = trim t := trimWhile_trimWhile isBlank t

theorem trim_eq_nil_iff {t : Text} : trim t = [] ↔ ∀ c ∈ t, isBlank c := trimWhile_eq_nil_iff

end EndpointScout.Text
