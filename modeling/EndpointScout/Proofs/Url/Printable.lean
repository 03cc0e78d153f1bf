import EndpointScout.Proofs.Url.Resolved

/-! A URL that has been read is written in printable ASCII, whatever it was read from: tabs, line
breaks and everything beyond ASCII are dropped, encoded or refused. -/
namespace EndpointScout.Url
variable {scheme : Text} {u : Url}

def IsPrintable (t : Text) : Prop := ∀ c ∈ t, isControl c = false

theorem isPrintable_nil : IsPrintable [] := by simp [IsPrintable]

theorem isPrintable_append {s t : Text} :
    IsPrintable (s ++ t) ↔ IsPrintable s ∧ IsPrintable t := List.forall_mem_append

theorem isPrintable_cons {c : Char} {t : Text} :
    IsPrintable (c :: t) ↔ isControl c = false ∧ IsPrintable t := List.forall_mem_cons

theorem IsPrintable.of_subset {s t : Text} (h : IsPrintable t) (hs : s ⊆ t) : IsPrintable s :=
  fun c hc => h c (hs hc)

theorem isPrintable_marked {part : Option Text} {mark : Char} (hmark : isControl mark = false)
    (h : ∀ t, part = some t → IsPrintable t) : IsPrintable ((part.map (mark :: ·)).getD []) := by
  cases part with
  | none => exact isPrintable_nil
  | some t => exact isPrintable_cons.2 ⟨hmark, h t rfl⟩

section Characters
variable {c : Char}

theorem isControl_of_isSchemeChar (h : isSchemeChar c) : isControl c = false := by
  have hcodes : ∀ n < 128, (!isSchemeChar (Char.ofNat n) || !isControl (Char.ofNat n)) = true := by
    decide
  have := Text.forall_ascii (p := fun c => !isSchemeChar c || !isControl c) hcodes
    (isAscii_of_isSchemeChar h)
  simpa [h] using this

theorem isControl_of_isHostPart (h : isHostPart c) : isControl c = false := by
  simp only [isHostPart, isNameChar, Bool.or_eq_true, Bool.and_eq_true, decide_eq_true_eq] at h
  obtain h | h := h
  · simp only [isControl, Bool.or_eq_false_iff, decide_eq_false_iff_not]
    omega
  · have hmarks : ∀ d ∈ ":[]".toList, isControl d = false := Text.forall_of_all (by decide)
    exact hmarks c (by simpa using h)

theorem isControl_of_fragment (h : encodedInFragment c = false) : isControl c = false := by
  simp only [encodedInFragment, Bool.or_eq_false_iff] at h
  exact h.1.1.1.1.1

theorem isControl_of_path (h : encodedInPath c = false) : isControl c = false := by
  simp only [encodedInPath, Bool.or_eq_false_iff] at h
  exact isControl_of_fragment h.1.1.1.1

theorem isControl_of_userinfo (h : encodedInUserinfo c = false) : isControl c = false :=
  isControl_of_path (Bool.or_eq_false_iff.1 h).1

theorem isControl_of_query {special : Bool} (h : encodedInQuery special c = false) :
    isControl c = false := by
  simp only [encodedInQuery, Bool.or_eq_false_iff] at h
  exact h.1.1.1.1.1.1

end Characters

theorem IsScheme.isPrintable (h : IsScheme scheme) : IsPrintable scheme :=
  fun c hc => isControl_of_isSchemeChar (h.chars c hc)

theorem IsHostText.isPrintable {t : Text} (h : IsHostText t) : IsPrintable t :=
  fun c hc => isControl_of_isHostPart (h.isHostPart c hc)

theorem Authority.IsClean.isPrintable {a : Authority} (ha : a.IsClean scheme) :
    IsPrintable a.text :=
  ha.forall_text (fun _ => isControl_of_isHostPart) (fun _ => isControl_of_userinfo) (by decide)

theorem IsCleanPath.isPrintable {segs : List Text} (h : IsCleanPath scheme segs) :
    IsPrintable (Path.segments segs).text := h.forall_text (by decide) fun _ => isControl_of_path

/-- All parts of a URL are printable. -/
structure HasPrintableParts (u : Url) : Prop where
  scheme : IsPrintable u.scheme
  authority : ∀ a, u.authority = some a → IsPrintable a.text
  path : IsPrintable u.pathText
  query : ∀ q, u.query = some q → IsPrintable q
  fragment : ∀ f, u.fragment = some f → IsPrintable f

theorem hasPrintableParts_assemble {authority : Option Authority} {path : Path}
    (hscheme : IsPrintable scheme) (hauthority : ∀ a, authority = some a → IsPrintable a.text)
    (hpath : IsPrintable path.text) (tail : Text) : HasPrintableParts (assemble scheme authority path tail) :=
  ⟨hscheme, hauthority, hpath, fun _ hq c hc => isControl_of_query (query_parseTail hq c hc),
    fun _ hf c hc => isControl_of_fragment (fragment_parseTail hf c hc)⟩

theorem isPrintable_fileAuthority {host : Option Host} (h : ∀ h, host = some h → IsFileHost h) :
    IsPrintable (fileAuthority host).text := by
  rw [text_fileAuthority]
  cases host with
  | none => exact isPrintable_nil
  | some g => exact (h g rfl).hostText.isPrintable

theorem IsRead.hasPrintableParts (h : IsRead u) : HasPrintableParts u := by
  cases h with
  | hosted hs hfile ha hsegs =>
    refine hasPrintableParts_assemble hs.isPrintable (fun a h => ?_) hsegs.isPrintable _
    cases h
    exact ha.isPrintable
  | file hhost hsegs =>
    refine hasPrintableParts_assemble isScheme_file.isPrintable (fun a h => ?_) hsegs.isPrintable _
    cases h
    exact isPrintable_fileAuthority fun h hh => (hhost h hh).1
  | rooted hs hspecial hsegs hne =>
    exact hasPrintableParts_assemble hs.isPrintable (by simp) hsegs.isPrintable _
  | @verbatim scheme path tail hs hspecial hpath hhead =>
    have hpath : IsPrintable (Path.verbatim path).text := hpath
    exact hasPrintableParts_assemble hs.isPrintable (by simp) hpath tail

namespace HasPrintableParts

theorem beforePath (h : HasPrintableParts u) : IsPrintable u.beforePath := by
  rw [Url.beforePath, isPrintable_append, isPrintable_cons]
  refine ⟨h.scheme, by decide, ?_⟩
  split
  · rename_i a ha
    exact isPrintable_cons.2 ⟨by decide, isPrintable_cons.2 ⟨by decide, h.authority a ha⟩⟩
  · split
    · exact Text.forall_of_all (by decide)
    · exact isPrintable_nil

theorem text (h : HasPrintableParts u) : IsPrintable u.text := by
  rw [Url.text, isPrintable_append, isPrintable_append, isPrintable_append]
  exact ⟨⟨⟨h.beforePath, h.path⟩, isPrintable_marked (by decide) h.query⟩,
    isPrintable_marked (by decide) h.fragment⟩

theorem withoutFragment (h : HasPrintableParts u) : HasPrintableParts u.withoutFragment where
  scheme := h.scheme
  authority := h.authority
  path := by
    have hpath := h.path
    rw [pathText] at hpath ⊢
    simp only [Url.withoutFragment]
    split
    · rename_i t hverbatim _
      rw [hverbatim] at hpath
      split
      · exact hpath.of_subset (Text.dropEndWhile_prefix _).subset
      · exact hpath
    · exact hpath
  query := h.query
  fragment := by simp [Url.withoutFragment]

theorem withPath (h : HasPrintableParts u) (path : Text) : HasPrintableParts (u.withPath path) where
  scheme := h.scheme
  authority := h.authority
  path := by
    have hencoded (t : Text) : IsPrintable (percentEncode isControl t) :=
      percentEncode_clean keepsCodes_isControl t
    rw [pathText]
    simp only [Url.withPath]
    split
    · split
      · exact isPrintable_append.2 ⟨Text.forall_of_all (by decide), hencoded _⟩
      · exact hencoded _
    · exact (isCleanPath_parsePathStart path).isPrintable
  query := h.query
  fragment := h.fragment

theorem tupleOrigin (h : HasPrintableParts u) {t : Text} (ht : u.tupleOrigin? = some t) :
    IsPrintable t := by
  rw [tupleOrigin?, Url.host] at ht
  cases ha : u.authority with
  | none => simp [ha] at ht
  | some a =>
    have htext := h.authority a ha
    rw [Authority.text_eq, isPrintable_append, isPrintable_append] at htext
    obtain ⟨-, hhost, hport⟩ := htext
    simp only [ha, Option.bind_some] at ht
    split at ht
    · rename_i g _ hg
      rw [hg] at hhost
      obtain rfl := Option.some.inj ht
      rw [isPrintable_append, isPrintable_append, isPrintable_append]
      exact ⟨⟨⟨h.scheme, Text.forall_of_all (by decide)⟩, hhost⟩, hport⟩
    · cases ht

end HasPrintableParts

theorem IsRead.isPrintable_origin (h : IsRead u) : IsPrintable u.origin := by
  have hnull : IsPrintable "null".toList := Text.forall_of_all (by decide)
  have htuple : IsPrintable (u.tupleOrigin?.getD "null".toList) := by
    cases ht : u.tupleOrigin? with
    | none => exact hnull
    | some t => exact h.hasPrintableParts.tupleOrigin ht
  rw [origin]
  split
  · cases hinner : (parse? u.pathText).bind Url.tupleOrigin? with
    | none => exact htuple
    | some t =>
      obtain ⟨w, hw, ht⟩ := Option.bind_eq_some_iff.1 hinner
      have hread := isRead_parse (toOption_eq_some_iff.1 hw)
      exact hread.hasPrintableParts.tupleOrigin ht
  · exact htuple

end EndpointScout.Url
