import EndpointScout.Environment
import EndpointScout.Proofs.Script.Comments
import EndpointScout.Proofs.Text.Split

/-! What is cut out of a script before it is read: references to source maps, found from the left,
each from its comment mark to the end of the line. -/
namespace EndpointScout.Script

def referenceName : Text := "sourceMappingURL=".toList

/-- A reference in front of a text: the mark, white space, the name, and what is left of the
line. -/
structure IsReference (r rest : Text) : Prop where
  spelled : ∃ mark blanks target, (mark = '#' ∨ mark = '@') ∧ blanks.all Text.isBlank ∧
    (∀ c ∈ target, c ≠ '\r' ∧ c ≠ '\n') ∧
    r = '/' :: '/' :: mark :: (blanks ++ referenceName ++ target)
  line : ∀ c ∈ rest.head?, c = '\r' ∨ c = '\n'

namespace IsReference
variable {r rest : Text}

theorem ne_nil (h : IsReference r rest) : r ≠ [] := by
  obtain ⟨mark, blanks, target, -, -, -, rfl⟩ := h.spelled
  simp

end IsReference

theorem mapReference?_append {r rest : Text} (h : IsReference r rest) :
    mapReference? (r ++ rest) = some r.length := by
  obtain ⟨mark, blanks, target, hmark, hblanks, htarget, rfl⟩ := h.spelled
  have hname : (blanks ++ (referenceName ++ (target ++ rest))).dropWhile Text.isBlank =
      referenceName ++ (target ++ rest) := by
    rw [List.dropWhile_append_of_pos (List.all_eq_true.1 hblanks)]
    rfl
  have hrest : (target ++ rest).dropWhile (fun c => c != '\r' && c != '\n') = rest := by
    refine Text.dropWhile_append_of_head (fun c hc => ?_) (fun c hc => ?_)
    · simpa using htarget c hc
    · obtain rfl | rfl := h.line c hc <;> decide
  simp only [List.cons_append, List.append_assoc, mapReference?]
  rw [if_pos (by simpa using hmark), hname]
  show (Text.dropPrefix? (referenceName ++ _) referenceName).map _ = _
  rw [Text.dropPrefix?_append]
  simp only [Option.map_some, hrest, Option.some.injEq, List.length_cons, List.length_append]
  omega

theorem exists_of_mapReference? {t : Text} {n : Nat} (h : mapReference? t = some n) :
    ∃ r rest, IsReference r rest ∧ t = r ++ rest ∧ n = r.length := by
  rw [mapReference?.eq_def] at h
  split at h
  · rename_i mark t
    split at h
    · rename_i hmark
      obtain ⟨target, htarget, hn⟩ := Option.map_eq_some_iff.1 h
      have hname := Text.dropPrefix?_eq_some htarget
      let p (c : Char) : Bool := c != '\r' && c != '\n'
      have ht : t = t.takeWhile Text.isBlank ++
          (referenceName ++ (target.takeWhile p ++ target.dropWhile p)) := by
        rw [List.takeWhile_append_dropWhile]
        exact (hname ▸ List.takeWhile_append_dropWhile).symm
      refine ⟨_, target.dropWhile p,
        ⟨⟨mark, t.takeWhile Text.isBlank, target.takeWhile p, by simpa using hmark,
          List.all_takeWhile, fun c hc => ?_, rfl⟩, fun c hc => ?_⟩, ?_, ?_⟩
      · have hp := List.all_eq_true.1 List.all_takeWhile c hc
        simpa [p] using hp
      · have hp := List.head?_dropWhile_not p target
        grind
      · simpa using ht
      · rw [← hn]
        have hlength := congrArg List.length ht
        simp only [List.length_append, List.length_cons] at hlength ⊢
        show _ - (target.dropWhile p).length = _
        omega
    · cases h
  · cases h

/-- The first text without its references, looked for from the left. -/
inductive Cleaned : Text → Text → Prop where
  | nil : Cleaned [] []
  | kept {c : Char} {t u : Text} (hnone : mapReference? (c :: t) = none) (h : Cleaned t u) :
      Cleaned (c :: t) (c :: u)
  | cut {r t u : Text} (hr : IsReference r t) (h : Cleaned t u) : Cleaned (r ++ t) u

theorem withoutReferences_skip (n : Nat) (t : Text) :
    withoutReferences n t = withoutReferences 0 (t.drop n) := by
  induction t generalizing n with
  | nil => cases n <;> rfl
  | cons c t ih =>
    cases n with
    | zero => rfl
    | succ n => rw [withoutReferences, ih, List.drop_succ_cons]

theorem withoutReferences_append {r t : Text} (h : IsReference r t) :
    withoutReferences 0 (r ++ t) = withoutReferences 0 t := by
  have hmap := mapReference?_append h
  obtain ⟨c, r, rfl⟩ := List.exists_cons_of_ne_nil h.ne_nil
  rw [List.cons_append] at hmap ⊢
  simp only [withoutReferences, hmap]
  rw [withoutReferences_skip]
  simp

theorem cleaned_withoutReferences (t : Text) : Cleaned t (withoutReferences 0 t) := by
  induction hlength : t.length using Nat.strongRecOn generalizing t with
  | ind n ih =>
    subst hlength
    match t with
    | [] => exact .nil
    | c :: t =>
      cases hmap : mapReference? (c :: t) with
      | none =>
        rw [withoutReferences.eq_def]
        simp only [hmap]
        exact .kept hmap (ih _ (Nat.lt_succ_self _) t rfl)
      | some k =>
        obtain ⟨r, rest, hr, ht, -⟩ := exists_of_mapReference? hmap
        rw [ht, withoutReferences_append hr]
        have hpos := List.length_pos_iff.2 hr.ne_nil
        exact .cut hr (ih _ (by rw [ht, List.length_append]; omega) rest rfl)

theorem Cleaned.eq {t u : Text} (h : Cleaned t u) : u = withoutReferences 0 t := by
  induction h with
  | nil => rfl
  | kept hnone h ih =>
    rw [withoutReferences.eq_def]
    simp only [hnone, ← ih]
  | cut hr h ih => rw [withoutReferences_append hr, ih]

theorem takeBytes_of_length_le {maxBytes : Nat} {t : Text} (h : Text.Utf8.length t ≤ maxBytes) :
    Text.Utf8.takeBytes maxBytes t = t := by
  induction t generalizing maxBytes with
  | nil => rfl
  | cons c t ih =>
    rw [Text.Utf8.length] at h
    rw [Text.Utf8.takeBytes, if_pos (by omega), ih (by omega)]

theorem Cleaned.self {t : Text}
    (h : ∀ before r rest, t = before ++ r ++ rest → ¬IsReference r rest) : Cleaned t t := by
  induction t with
  | nil => exact .nil
  | cons c t ih =>
    refine .kept (Option.eq_none_iff_forall_ne_some.2 fun n hn => ?_)
      (ih fun before r rest ht => h (c :: before) r rest (by rw [ht]; rfl))
    obtain ⟨r, rest, hr, ht, -⟩ := exists_of_mapReference? hn
    exact h [] r rest ht hr

theorem comment?_reference {r rest : Text} (h : IsReference r rest) :
    Build.comment? (r ++ rest) = some r ↔ ∀ c ∈ r, Build.isLineEnd c = false := by
  obtain ⟨r, rfl⟩ : ∃ q, r = '/' :: '/' :: q := by
    obtain ⟨mark, blanks, target, -, -, -, rfl⟩ := h.spelled
    exact ⟨_, rfl⟩
  have hslash : Build.isLineEnd '/' = false := by decide
  have hrest : ∀ c ∈ rest.head?, (!Build.isLineEnd c) = false := by
    intro c hc
    obtain rfl | rfl := h.line c hc <;> decide
  simp only [List.cons_append, Build.comment?, Option.some.injEq, List.cons.injEq, true_and,
    List.forall_mem_cons, hslash]
  constructor
  · intro hr c hc
    have hall := List.all_eq_true.1 (List.all_takeWhile (p := fun c => !Build.isLineEnd c)
      (l := r ++ rest)) c (hr.symm ▸ hc)
    simpa using hall
  · intro hr
    exact Text.takeWhile_append_of_head (by simpa using hr) hrest

theorem gapGo_skip (html : Bool) (cs : List Syntax) (n : Nat) (t : Text) :
    Build.gapGo html cs n t = Build.gapGo html cs 0 (t.drop n) := by
  induction t generalizing n with
  | nil => cases n <;> rfl
  | cons c t ih =>
    cases n with
    | zero => rfl
    | succ n => rw [Build.gapGo, ih, List.drop_succ_cons]

theorem gapGo_reference {r rest : Text} (h : IsReference r rest)
    (hr : ∀ c ∈ r, Build.isLineEnd c = false) (html : Bool) (cs : List Syntax) :
    Build.gapGo html cs 0 (r ++ rest) =
      Build.gapGo html (.node none "comment" r [] :: cs) 0 rest := by
  have hcomment := (comment?_reference h).2 hr
  obtain ⟨q, rfl⟩ : ∃ q, r = '/' :: q := by
    obtain ⟨mark, blanks, target, -, -, -, rfl⟩ := h.spelled
    exact ⟨_, rfl⟩
  have hspace : Build.isSpace '/' = false := by decide
  have hnode : Build.commentNode? html ('/' :: (q ++ rest)) =
      some (.node none "comment" ('/' :: q) []) := by
    rw [Build.commentNode?, ← List.cons_append, hcomment]
  rw [List.cons_append, Build.gapGo, if_neg (ne_true_of_eq_false hspace), hnode]
  simp only
  rw [gapGo_skip, Syntax.text, List.length_cons, Nat.add_sub_cancel, List.drop_left]

section
variable [Clock]

/-- What is cut out of a script that is short enough. A reference is a comment of the grammar
exactly if no line ends in it; between tokens it is then skipped with or without the cut. A script
without references is read as it is, and one that has the same syntax with and without them, up to
comments, keeps its strings. -/
theorem references_cut (config : Config) (t : Text) (moment : Nat)
    (hlength : Text.Utf8.length t ≤ config.maxScriptBytes) :
    Cleaned t (prepare config.maxScriptBytes t) ∧
    (∀ u, Cleaned t u → u = prepare config.maxScriptBytes t) ∧
    (∀ before r rest, t = before ++ r ++ rest → IsReference r rest →
      (Build.comment? (r ++ rest) = some r ↔ ∀ c ∈ r, Build.isLineEnd c = false) ∧
      ((∀ c ∈ r, Build.isLineEnd c = false) → ∀ html cs,
        Build.gapGo html cs 0 (r ++ rest) =
          Build.gapGo html (.node none "comment" r [] :: cs) 0 rest)) ∧
    (endingOf config t moment = .finished → t.all Text.isBlank = false →
      ∀ s, parse? .javascript t = some s →
      ((∀ before r rest, t = before ++ r ++ rest → ¬IsReference r rest) →
        read config (some t) moment = (s.lower fun _ => false).getD Tree.empty) ∧
      ∀ s', parseWithin? .javascript (boundOf t) (prepare config.maxScriptBytes t) = some s' →
        s'.bare = s.bare →
        (read config (some t) moment).strings =
          ((s.lower fun _ => false).getD Tree.empty).strings) := by
  have hprepare : prepare config.maxScriptBytes t = withoutReferences 0 t := by
    rw [prepare, takeBytes_of_length_le hlength]
  refine ⟨hprepare ▸ cleaned_withoutReferences t, fun u hu => hprepare ▸ hu.eq,
    fun before r rest _ hr => ⟨comment?_reference hr, gapGo_reference hr⟩,
    fun hgoes hblank s hs => ?_⟩
  have hread (s' : Syntax)
      (hs' : parseWithin? .javascript (boundOf t) (prepare config.maxScriptBytes t) = some s') :
      read config (some t) moment = (s'.lower fun _ => false).getD Tree.empty := by
    rw [read, hgoes, hblank]
    simp [treeWithin, hs']
  -- Cut or not, the script is the tree of its syntax; without comments both are of one syntax.
  refine ⟨fun hnone => hread s ?_, fun s' hs' hbare => ?_⟩
  · rw [hprepare, ← (Cleaned.self hnone).eq]
    exact hs
  · rw [hread s' hs', Syntax.lower_never, Syntax.lower_never, Option.getD_some, Option.getD_some,
      ← s.strings_lowered_bare, ← hbare, s'.strings_lowered_bare]

end

def markedString : Text := "x = \"/api/v1?u=//# sourceMappingURL=y\";".toList

def markedScript : Text := "fetch(\"/api\");\n//# sourceMappingURL=app.js.map\n".toList

attribute [local instance] Environment.plain

theorem references_cut_markedString :
    Text.Utf8.length markedString ≤ ({} : Config).maxScriptBytes ∧
    Cleaned markedString "x = \"/api/v1?u=".toList ∧
    (∃ s, parse? .javascript markedString = some s ∧
      ((s.lower fun _ => false).getD Tree.empty).strings =
        ["/api/v1?u=//# sourceMappingURL=y".toList]) ∧
    (read {} (some markedString)).isEmpty = true ∧
    Cleaned markedScript "fetch(\"/api\");\n\n".toList ∧
    (read {} (some markedScript)).strings = ["/api".toList] := by
  have hlength : Text.Utf8.length markedString ≤ ({} : Config).maxScriptBytes := by
    decide +kernel
  have hlength' : Text.Utf8.length markedScript ≤ ({} : Config).maxScriptBytes := by
    decide +kernel
  obtain ⟨hcut, -⟩ := references_cut {} markedString 0 hlength
  obtain ⟨hcut', -, -, hread⟩ := references_cut {} markedScript 0 hlength'
  have hprepare : prepare ({} : Config).maxScriptBytes markedString =
      "x = \"/api/v1?u=".toList := by decide +kernel
  have hprepare' : prepare ({} : Config).maxScriptBytes markedScript =
      "fetch(\"/api\");\n\n".toList := by decide +kernel
  have hstrings : ((parse? .javascript markedString).map fun s =>
      ((s.lower fun _ => false).getD Tree.empty).strings) =
        some ["/api/v1?u=//# sourceMappingURL=y".toList] := by decide +kernel
  have hstrings' : ((parse? .javascript markedScript).map fun s =>
      ((s.lower fun _ => false).getD Tree.empty).strings) =
        some ["/api".toList] := by decide +kernel
  have hsame : (parseWithin? .javascript (boundOf markedScript)
      (prepare ({} : Config).maxScriptBytes markedScript)).map Syntax.bare =
        (parse? .javascript markedScript).map Syntax.bare := by decide +kernel
  have hgoes : endingOf {} markedScript 0 = .finished := by decide +kernel
  have hblank : markedScript.all Text.isBlank = false := by decide +kernel
  obtain ⟨s, hs, htexts⟩ := Option.map_eq_some_iff.1 hstrings
  obtain ⟨s', hs', htexts'⟩ := Option.map_eq_some_iff.1 hstrings'
  rw [hs', Option.map_some] at hsame
  obtain ⟨cut, hparse, hbare⟩ := Option.map_eq_some_iff.1 hsame
  refine ⟨hlength, hprepare ▸ hcut, ⟨s, hs, htexts⟩, by decide +kernel, hprepare' ▸ hcut', ?_⟩
  rw [(hread hgoes hblank s' hs').2 cut hparse hbare, htexts']

end EndpointScout.Script
