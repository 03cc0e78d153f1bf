import EndpointScout.Proofs.Url.Shape

/-! A URL with an authority is read back from its written form, query and fragment included. -/
namespace EndpointScout.Url
variable {scheme : Text}

def tailText (query fragment : Option Text) : Text :=
  (query.map ('?' :: ·)).getD [] ++ (fragment.map ('#' :: ·)).getD []

theorem keepsCodes_encodedInFragment : KeepsCodes encodedInFragment := ⟨by decide, by decide⟩

theorem query_parseTail {tail query : Text} (h : (parseTail scheme tail).1 = some query) :
    ∀ c ∈ query, encodedInQuery (isSpecialScheme scheme) c = false := by
  have hclean := percentEncode_clean (keepsCodes_encodedInQuery (isSpecialScheme scheme))
  rw [parseTail.eq_def] at h
  split at h
  · cases h
  · split at h
    · cases h
      exact hclean _
    · cases h
      exact hclean _
  · cases h

theorem fragment_parseTail {tail fragment : Text} (h : (parseTail scheme tail).2 = some fragment) :
    ∀ c ∈ fragment, encodedInFragment c = false := by
  have hclean := percentEncode_clean keepsCodes_encodedInFragment
  rw [parseTail.eq_def] at h
  split at h
  · cases h
    exact hclean _
  · split at h
    · cases h
      exact hclean _
    · cases h
  · cases h

theorem encodedInQuery_plain {special : Bool} {c : Char} (h : encodedInQuery special c = false) :
    0x20 < c.toNat ∧ c ≠ '#' := by
  simp only [encodedInQuery, isControl, Bool.or_eq_false_iff, decide_eq_false_iff_not,
    beq_eq_false_iff_ne] at h
  obtain ⟨⟨⟨⟨⟨⟨hcontrol, hblank⟩, -⟩, hmark⟩, -⟩, -⟩, -⟩ := h
  have hblank := toNat_ne_of_ne_blank hblank
  exact ⟨by omega, hmark⟩

theorem encodedInFragment_plain {c : Char} (h : encodedInFragment c = false) :
    0x20 < c.toNat := by
  simp only [encodedInFragment, isControl, Bool.or_eq_false_iff, decide_eq_false_iff_not,
    beq_eq_false_iff_ne] at h
  have hblank := toNat_ne_of_ne_blank h.1.1.1.1.2
  omega

section Tail
variable {query fragment : Option Text}

theorem plain_tailText
    (hquery : ∀ q, query = some q → ∀ c ∈ q, encodedInQuery (isSpecialScheme scheme) c = false)
    (hfragment : ∀ f, fragment = some f → ∀ c ∈ f, encodedInFragment c = false) :
    ∀ c ∈ tailText query fragment, 0x20 < c.toNat := by
  intro c hc
  obtain hc | hc := List.mem_append.1 hc
  · cases hq : query with
    | none => simp [hq] at hc
    | some q =>
      rw [hq] at hc
      obtain rfl | hc := List.mem_cons.1 hc
      · decide
      · exact (encodedInQuery_plain (hquery q hq c hc)).1
  · cases hf : fragment with
    | none => simp [hf] at hc
    | some f =>
      rw [hf] at hc
      obtain rfl | hc := List.mem_cons.1 hc
      · decide
      · exact encodedInFragment_plain (hfragment f hf c hc)

theorem parseTail_tailText
    (hquery : ∀ q, query = some q → ∀ c ∈ q, encodedInQuery (isSpecialScheme scheme) c = false)
    (hfragment : ∀ f, fragment = some f → ∀ c ∈ f, encodedInFragment c = false) :
    parseTail scheme (tailText query fragment) = (query, fragment) := by
  have hencoded {f : Text} (hf : fragment = some f) : percentEncode encodedInFragment f = f :=
    percentEncode_eq_self (hfragment f hf)
  cases hq : query with
  | none =>
    cases hf : fragment with
    | none => rfl
    | some f => simp [tailText, parseTail, hencoded hf]
  | some q =>
    have hkept : percentEncode (encodedInQuery (isSpecialScheme scheme)) q = q :=
      percentEncode_eq_self (hquery q hq)
    have hinner : ∀ c ∈ q, (c != '#') = true := fun c hc => by
      simpa using (encodedInQuery_plain (hquery q hq c hc)).2
    cases hf : fragment with
    | none =>
      have htake : q.takeWhile (· != '#') = q := List.takeWhile_eq_self_iff.2 hinner
      have hdrop : q.dropWhile (· != '#') = [] := List.dropWhile_eq_nil_iff.2 hinner
      simp [tailText, parseTail, htake, hdrop, hkept]
    | some f =>
      have hsign : ∀ c ∈ ('#' :: f).head?, (c != '#') = false := by simp
      have htake := Text.takeWhile_append_of_head hinner hsign
      have hdrop := Text.dropWhile_append_of_head hinner hsign
      simp [tailText, parseTail, htake, hdrop, hkept, hencoded hf]

theorem follows_tailText (query fragment : Option Text) :
    FollowsPath true (tailText query fragment) := by
  cases query with
  | some q => exact .inr ⟨rfl, '?', _, rfl, .inl rfl⟩
  | none =>
    cases fragment with
    | some f => exact .inr ⟨rfl, '#', f, rfl, .inr rfl⟩
    | none => exact .inl rfl

end Tail

theorem follows_path {segs : List Text} {t : Text} (ht : FollowsPath true t) :
    FollowsAuthority ((Path.segments segs).text ++ t) := by
  cases segs with
  | nil =>
    obtain rfl | ⟨-, c, rest, rfl, hc⟩ := ht
    · exact .inl rfl
    · exact .inr ⟨c, rest, rfl, .inr hc⟩
  | cons s segs => exact .inr ⟨'/', _, rfl, by simp⟩

theorem IsCleanPath.forall_text {p : Char → Prop} {segs : List Text} (h : IsCleanPath scheme segs)
    (hslash : p '/') (hpath : ∀ c, encodedInPath c = false → p c) :
    ∀ c ∈ (Path.segments segs).text, p c := by
  intro c hc
  obtain ⟨s, hs, hc⟩ := List.mem_flatMap.1 hc
  obtain rfl | hc := List.mem_cons.1 hc
  · exact hslash
  · exact hpath c ((h.segments s hs).chars c hc).2

theorem plain_segments {segs : List Text} (h : IsCleanPath scheme segs) :
    ∀ c ∈ (Path.segments segs).text, 0x20 < c.toNat :=
  h.forall_text (by decide) fun _ => encodedInPath_plain

theorem parse_text_hosted {a : Authority} {segs : List Text} {tail : Text} (hs : IsScheme scheme)
    (hfile : isFileScheme scheme = false) (ha : a.IsClean scheme)
    (hsegs : IsCleanPath scheme segs) :
    parse (assemble scheme (some a) (.segments segs) tail).text =
      .ok (assemble scheme (some a) (.segments segs) tail) := by
  have hquery (q : Text) (hq : (parseTail scheme tail).1 = some q) := query_parseTail hq
  have hfragment (f : Text) (hf : (parseTail scheme tail).2 = some f) := fragment_parseTail hf
  have hfollows := follows_tailText (parseTail scheme tail).1 (parseTail scheme tail).2
  have htext : (assemble scheme (some a) (.segments segs) tail).text =
      scheme ++ ':' :: '/' :: '/' :: (a.text ++ ((Path.segments segs).text ++
        tailText (parseTail scheme tail).1 (parseTail scheme tail).2)) := by
    simp [Url.text, beforePath, pathText, queryText, fragmentText, assemble, tailText]
  rw [htext, parse_hosted hs hfile ha (follows_path hfollows) (List.forall_mem_append.2
      ⟨plain_segments hsegs, plain_tailText hquery hfragment⟩),
    parsePathStart_text hsegs hfollows]
  simp only [assemble, parseTail_tailText hquery hfragment]

/-- What has been read with an authority, files apart, is read back as it is. -/
theorem IsRead.parse_text {u : Url} (h : IsRead u) (hfile : isFileScheme u.scheme = false)
    (hauthority : u.authority.isSome) : parse u.text = .ok u := by
  cases h with
  | hosted hs hfile ha hsegs => exact parse_text_hosted hs hfile ha hsegs
  | file hhost hsegs => cases hfile
  | rooted hs hspecial hsegs hne => cases hauthority
  | verbatim hs hspecial hpath hhead => cases hauthority

theorem IsRead.parse_text_of_special {u : Url} (h : IsRead u) (hspecial : isSpecialScheme u.scheme)
    (hfile : isFileScheme u.scheme = false) : parse u.text = .ok u :=
  h.parse_text hfile (h.isSome_authority hspecial)

theorem parse_text_of_authority {t : Text} {u : Url} (h : parse t = .ok u)
    (hfile : isFileScheme u.scheme = false) (hauthority : u.authority.isSome) :
    parse u.text = .ok u :=
  (isRead_parse h).parse_text hfile hauthority

end EndpointScout.Url
