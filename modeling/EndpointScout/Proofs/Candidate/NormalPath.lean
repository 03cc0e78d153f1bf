import EndpointScout.Proofs.Candidate.Canonical
import EndpointScout.Proofs.Text.Split
import EndpointScout.Proofs.Url.Resolved

/-! Paths in normal form, and the texts that normalization leaves alone. These are the normal
paths, and texts that are no reference and have nothing to lose. What comes of a text that is read
as a path or as a special URL is a normal path; what comes of any other text need not be one, and
then it may change again. -/
namespace EndpointScout.Candidate
open Url

section Collapsed
variable {path : Text}

inductive IsCollapsed : Text → Prop
  | root : IsCollapsed ['/']
  | other {path : Text} (hne : path ≠ []) (hend : Text.dropEndWhile isSlash path = path)
      (hopen : ¬['/', '/'] <+: path) : IsCollapsed path

theorem isCollapsed_collapsePath (path : Text) : IsCollapsed (collapsePath path) := by
  have hkept : Text.dropEndWhile isSlash (Text.dropEndWhile isSlash path) =
      Text.dropEndWhile isSlash path := List.rdropWhile_idempotent isSlash path
  rw [collapsePath]
  split
  · exact .root
  · rename_i t ht
    -- What is left behind the slashes begins and ends with something else.
    have hhead := List.head?_dropWhile_not isSlash t
    have hsplit := List.takeWhile_append_dropWhile (p := isSlash) (l := t)
    rw [ht] at hkept
    cases hrest : t.dropWhile isSlash with
    | nil =>
      have hall : ∀ c ∈ '/' :: '/' :: t, isSlash c = true := by
        have htail := List.dropWhile_eq_nil_iff.1 hrest
        simpa using ⟨by decide, htail⟩
      have hnil : Text.dropEndWhile isSlash ('/' :: '/' :: t) = [] :=
        List.rdropWhile_eq_nil_iff.2 hall
      rw [hnil] at hkept
      cases hkept
    | cons c cs =>
      have hc : isSlash c = false := by simpa [hrest] using hhead
      rw [hrest] at hsplit
      have hwhole : '/' :: '/' :: t = ('/' :: '/' :: t.takeWhile isSlash) ++ c :: cs := by
        rw [List.cons_append, List.cons_append, hsplit]
      have hend : Text.dropEndWhile isSlash cs = cs := by
        rw [hwhole, Text.dropEndWhile_append_cons hc] at hkept
        exact (List.cons.inj (List.append_cancel_left hkept)).2
      refine .other (List.cons_ne_nil _ _) ?_ ?_
      · exact (Text.dropEndWhile_append_cons hc ['/'] cs).trans (by rw [hend]; rfl)
      · rintro ⟨r, hr⟩
        obtain rfl : '/' = c := (List.cons.inj (List.cons.inj hr).2).1
        cases hc
  · rename_i hnil hopen
    exact .other hnil hkept fun ⟨t, ht⟩ => hopen t ht.symm

theorem collapsePath_of_isCollapsed (h : IsCollapsed path) : collapsePath path = path := by
  cases h with
  | root => rfl
  | other hne hend hopen =>
    rw [collapsePath, hend]
    split
    · exact absurd rfl hne
    · rename_i t
      exact absurd ⟨t, rfl⟩ hopen
    · rfl

theorem collapsePath_cons {c : Char} (hc : c ≠ '/') (t : Text) :
    collapsePath (c :: t) = c :: Text.dropEndWhile isSlash t := by
  have hslash : isSlash c = false := by simpa [isSlash] using hc
  rw [collapsePath, Text.dropEndWhile_cons hslash]
  split
  · rename_i hnil
    cases hnil
  · rename_i rest hrest
    exact absurd (List.cons.inj hrest).1 hc
  · rfl

theorem length_collapsePath_le (path : Text) :
    (collapsePath path).length ≤ max 1 path.length := by
  have hlength := (Text.dropEndWhile_prefix (p := isSlash) path).length_le
  rw [collapsePath]
  split
  · exact Nat.le_max_left _ _
  · rename_i t ht
    have htail := (List.dropWhile_sublist isSlash (l := t)).length_le
    rw [ht] at hlength
    simp only [List.length_cons] at hlength ⊢
    omega
  · omega

theorem mem_collapsePath {c : Char} (hc : c ≠ '/') (path : Text) :
    c ∈ collapsePath path ↔ c ∈ path := by
  have hslash : isSlash c = false := by simpa [isSlash] using hc
  rw [← Text.mem_dropEndWhile hslash path, collapsePath]
  split
  · rename_i hnil
    simp [hnil, hc]
  · rename_i t ht
    simp [ht, hc, Text.mem_dropWhile hslash]
  · rfl

theorem head?_collapsePath {path : Text} (h : path.head? = some '/') :
    (collapsePath path).head? = some '/' := by
  rw [collapsePath]
  split
  · rfl
  · rfl
  · rename_i hnil _
    obtain ⟨rest, hrest⟩ := Text.dropEndWhile_prefix (p := isSlash) path
    obtain ⟨c, cs, hc⟩ := List.exists_cons_of_ne_nil hnil
    rw [← hrest, hc] at h
    rw [hc]
    exact h

end Collapsed

section Normal
variable {path : Text}

/-- The written form of segments that a web page's URL keeps as they are, without a slash too
many. -/
structure IsNormalPath (path : Text) : Prop where
  segments : ∃ segs : List Text, segs ≠ [] ∧ (∀ s ∈ segs, IsCleanSegment true false s) ∧
    path = (Path.segments segs).text
  collapsed : IsCollapsed path

theorem IsNormalPath.char {p : Char → Prop} (h : IsNormalPath path) (hslash : p '/')
    (hclean : ∀ c, Url.isSlash true c = false → encodedInPath c = false → p c) :
    ∀ c ∈ path, p c := by
  obtain ⟨segs, -, hsegs, rfl⟩ := h.segments
  intro c hc
  obtain ⟨s, hs, hc⟩ := List.mem_flatMap.1 hc
  obtain rfl | hc := List.mem_cons.1 hc
  · exact hslash
  · exact hclean c ((hsegs s hs).chars c hc).1 ((hsegs s hs).chars c hc).2

theorem IsNormalPath.backslash_notMem (h : IsNormalPath path) : '\\' ∉ path := fun hmem =>
  h.char (p := (· ≠ '\\')) (by decide) (by rintro c hc - rfl; cases hc) _ hmem rfl

theorem IsNormalPath.exists_cons (h : IsNormalPath path) :
    ∃ rest, path = '/' :: rest ∧ (rest.head?.map (Url.isSlash true)).getD false = false := by
  obtain ⟨segs, hne, hsegs, hpath⟩ := h.segments
  obtain ⟨s, segs, rfl⟩ := List.exists_cons_of_ne_nil hne
  refine ⟨_, hpath, ?_⟩
  cases s with
  | cons c cs => exact ((hsegs (c :: cs) List.mem_cons_self).chars c List.mem_cons_self).1
  | nil =>
    cases segs with
    | nil => rfl
    | cons t segs =>
      cases h.collapsed with
      | root => cases hpath
      | other _ _ hopen => exact absurd ⟨_, hpath.symm⟩ hopen

theorem dropWhile_segments {segs : List Text} (h : ∀ s ∈ segs, ∀ c ∈ s, isSlash c = false)
    (hne : segs.dropWhile List.isEmpty ≠ []) :
    '/' :: (Path.segments segs).text.dropWhile isSlash =
      (Path.segments (segs.dropWhile List.isEmpty)).text := by
  induction segs with
  | nil => exact absurd rfl hne
  | cons s segs ih =>
    have hslash : isSlash '/' = true := rfl
    cases s with
    | nil =>
      have htext : (Path.segments ([] :: segs)).text = '/' :: (Path.segments segs).text := rfl
      rw [htext, List.dropWhile_cons_of_pos hslash]
      exact ih (fun t ht => h t (List.mem_cons_of_mem _ ht)) hne
    | cons c cs =>
      have hc : ¬isSlash c = true := by
        simp [h (c :: cs) List.mem_cons_self c List.mem_cons_self]
      have htext : (Path.segments ((c :: cs) :: segs)).text =
          '/' :: c :: (cs ++ (Path.segments segs).text) := rfl
      rw [htext, List.dropWhile_cons_of_pos hslash, List.dropWhile_cons_of_neg hc]
      exact htext.symm

theorem dropWhile_rdropWhile_ne_nil {segs : List Text} (h : segs.rdropWhile List.isEmpty ≠ []) :
    (segs.rdropWhile List.isEmpty).dropWhile List.isEmpty ≠ [] := fun hnil =>
  List.rdropWhile_last_not List.isEmpty segs h
    (List.dropWhile_eq_nil_iff.1 hnil _ (List.getLast_mem h))

theorem collapsePath_of_dropEndWhile {segs : List Text}
    (h : ∀ s ∈ segs, ∀ c ∈ s, isSlash c = false)
    (hdrop : Text.dropEndWhile isSlash path = (Path.segments segs).text)
    (hne : segs.dropWhile List.isEmpty ≠ []) :
    collapsePath path = (Path.segments (segs.dropWhile List.isEmpty)).text := by
  rw [collapsePath, hdrop]
  match segs, h, hne with
  | [[]], _, hne => exact absurd rfl hne
  | [] :: t :: rest, h, hne =>
    exact dropWhile_segments (fun s hs => h s (List.mem_cons_of_mem _ hs)) hne
  | (c :: cs) :: rest, h, _ =>
    have hc : c ≠ '/' := by
      simpa [isSlash] using h (c :: cs) List.mem_cons_self c List.mem_cons_self
    have htext : (Path.segments ((c :: cs) :: rest)).text =
        '/' :: c :: (cs ++ (Path.segments rest).text) := rfl
    rw [htext]
    split
    · rename_i hnil
      cases hnil
    · rename_i t ht
      exact absurd (List.cons.inj (List.cons.inj ht).2).1 hc
    · exact htext.symm

theorem exists_collapsePath_segments {segs : List Text}
    (h : ∀ s ∈ segs, ∀ c ∈ s, isSlash c = false) : ∃ kept : List Text, kept ≠ [] ∧
      (∀ s ∈ kept, s = [] ∨ s ∈ segs) ∧
      collapsePath (Path.segments segs).text = (Path.segments kept).text := by
  have hdrop := dropEndWhile_segments h
  have hkept := List.rdropWhile_prefix List.isEmpty segs
  by_cases hempty : segs.rdropWhile List.isEmpty = []
  · refine ⟨[[]], by simp, by simp, ?_⟩
    rw [collapsePath, hdrop, hempty]
    rfl
  · have hne := dropWhile_rdropWhile_ne_nil hempty
    refine ⟨_, hne, fun s hs => .inr (hkept.subset
      ((List.dropWhile_sublist List.isEmpty).subset hs)), ?_⟩
    exact collapsePath_of_dropEndWhile (fun s hs => h s (hkept.subset hs)) hdrop hne

theorem isNormalPath_collapsePath {segs : List Text}
    (h : ∀ s ∈ segs, IsCleanSegment true false s) :
    IsNormalPath (collapsePath (Path.segments segs).text) := by
  have hslash : ∀ s ∈ segs, ∀ c ∈ s, isSlash c = false := fun s hs c hc =>
    (Bool.or_eq_false_iff.1 ((h s hs).chars c hc).1).1
  obtain ⟨kept, hne, hkept, htext⟩ := exists_collapsePath_segments hslash
  refine ⟨⟨kept, hne, fun s hs => ?_, htext⟩, isCollapsed_collapsePath _⟩
  obtain rfl | hs := hkept s hs
  · exact isCleanSegment_nil true false
  · exact h s hs

theorem isCleanSegment_web {special file : Bool} {s : Text} (h : IsCleanSegment special file s)
    (hs : special = true ∨ '\\' ∉ s) : IsCleanSegment true false s := by
  refine ⟨fun c hc => ?_, h.doubleDot, h.singleDot, fun hdrive => by cases hdrive⟩
  obtain ⟨hslash, hplain⟩ := h.chars c hc
  refine ⟨?_, hplain⟩
  obtain rfl | hs := hs
  · exact hslash
  · have hc : c ≠ '\\' := ne_of_mem_of_not_mem hc hs
    simp only [Url.isSlash, Bool.or_eq_false_iff] at hslash ⊢
    simp [hslash.1, hc]

end Normal

section Reading
variable {value : Text} {u : Url}

def placeholder : Url := ⟨"https".toList,
  some ⟨[], [], some (.domain "placeholder.com".toList), none⟩, false, .segments [[]], none, none⟩

theorem parse_placeholderOrigin : parse placeholderOrigin = .ok placeholder := by decide +kernel

theorem isRead_placeholder : IsRead placeholder := isRead_parse parse_placeholderOrigin

/-- The value can be read as a path or a URL. -/
def IsReference (value : Text) : Prop := ∃ u, placeholder.join value = .ok u

theorem normalizePath_of_ok (h : placeholder.join value = .ok u) :
    normalizePath value = collapsePath u.pathText := by
  rw [normalizePath, parse_placeholderOrigin, Except.bind, h]

theorem normalizePath_of_not_isReference (h : ¬IsReference value) :
    normalizePath value = collapsePath ((Text.dropSuffix? value "?*".toList).getD value) := by
  rw [normalizePath, parse_placeholderOrigin, Except.bind]
  cases hjoin : placeholder.join value with
  | ok u => exact absurd ⟨u, hjoin⟩ h
  | error e => rfl

theorem isRead_of_join (h : placeholder.join value = .ok u) : IsRead u :=
  isRead_join isRead_placeholder h (.inl (by decide))

theorem join_normalPath {path : Text} (h : IsNormalPath path) :
    ∃ u, placeholder.join path = .ok u ∧ u.pathText = path := by
  obtain ⟨segs, hne, hsegs, hpath⟩ := h.segments
  obtain ⟨rest, rfl, hhead⟩ := h.exists_cons
  have hplain : ∀ c ∈ '/' :: rest, 0x20 < c.toNat :=
    h.char (by decide) fun c _ hc => encodedInPath_plain hc
  have hclean : IsCleanPath placeholder.scheme segs :=
    ⟨hsegs, fun hfile => absurd hfile (by decide), fun _ => hne⟩
  have hread : parsePathStart placeholder.scheme true ('/' :: rest) = (segs, []) := by
    rw [hpath, ← List.append_nil (Path.text _)]
    exact parsePathStart_text hclean (.inl rfl)
  have hsegments : parseSegments placeholder.scheme true [] rest = (segs, []) := by
    rw [← hread, parsePathStart.eq_def, if_pos (by decide)]
    rfl
  rw [join_slash (by decide) (by decide), tidy_of_plain hplain, parseRelative.eq_def]
  split
  · rename_i heq
    cases heq
  · rename_i heq
    cases heq
  · rename_i heq
    cases heq
  · rename_i r heq
    obtain rfl := (List.cons.inj heq).2
    cases hhead
  · rename_i c r _ _ _ heq
    obtain ⟨rfl, rfl⟩ := List.cons.inj heq
    rw [if_pos (by decide), if_neg (by simp [hhead])]
    simp only [hsegments]
    exact ⟨_, rfl, hpath.symm⟩

theorem isNormalPath_iff_of_isRead (h : IsRead u) : IsNormalPath (collapsePath u.pathText) ↔
    u.pathText = [] ∨ (u.isVerbatim = false ∧ '\\' ∉ u.pathText) := by
  -- Backslashes stay where they are, and a normal path has none.
  have hback (hn : IsNormalPath (collapsePath u.pathText)) : '\\' ∉ u.pathText := fun hmem =>
    hn.backslash_notMem ((mem_collapsePath (by decide) _).2 hmem)
  have hrooted {special file : Bool} {segs : List Text} (hverbatim : u.isVerbatim = false)
      (hpath : u.pathText = (Path.segments segs).text)
      (hsegs : ∀ s ∈ segs, IsCleanSegment special file s) :
      IsNormalPath (collapsePath u.pathText) ↔
        u.pathText = [] ∨ (u.isVerbatim = false ∧ '\\' ∉ u.pathText) := by
    refine ⟨fun hn => .inr ⟨hverbatim, hback hn⟩, fun hu => ?_⟩
    have hnone : '\\' ∉ u.pathText := by
      obtain hnil | hu := hu
      · simp [hnil]
      · exact hu.2
    rw [hpath] at hnone ⊢
    refine isNormalPath_collapsePath fun s hs =>
      isCleanSegment_web (hsegs s hs) (.inr fun hmem => ?_)
    exact hnone (List.mem_flatMap.2 ⟨s, hs, List.mem_cons_of_mem _ hmem⟩)
  cases h with
  | hosted hs hfile ha hsegs => exact hrooted rfl rfl hsegs.segments
  | file hhost hsegs => exact hrooted rfl rfl hsegs.segments
  | rooted hs hspecial hsegs hne =>
    refine hrooted ?_ rfl hsegs.segments
    have hhead := head?_segments hne
    simp [isVerbatim, assemble, pathText, hhead]
  | @verbatim scheme path tail hs hspecial hpath hhead =>
    have hpathText : (assemble scheme none (.verbatim path) tail).pathText = path := rfl
    have hverbatim : (assemble scheme none (.verbatim path) tail).isVerbatim = true := by
      simpa [isVerbatim, assemble, pathText, Path.text] using hhead
    rw [hpathText, hverbatim]
    cases path with
    | nil =>
      have hroot : IsNormalPath (collapsePath (Path.segments []).text) :=
        isNormalPath_collapsePath (by simp)
      exact iff_of_true hroot (.inl rfl)
    | cons c cs =>
      have hc : c ≠ '/' := fun hc => hhead (congrArg some hc)
      refine iff_of_false (fun hn => ?_) (by simp)
      obtain ⟨rest, hrest, -⟩ := hn.exists_cons
      rw [collapsePath_cons hc] at hrest
      exact hc (List.cons.inj hrest).1

theorem isNormalPath_of_special (h : IsRead u) (hspecial : isSpecialScheme u.scheme) :
    IsNormalPath (collapsePath u.pathText) := by
  cases h with
  | @hosted scheme a segs tail hs hfile ha hsegs =>
    exact isNormalPath_collapsePath fun s hs' =>
      isCleanSegment_web (hsegs.segments s hs') (.inl hspecial)
  | file hhost hsegs =>
    exact isNormalPath_collapsePath fun s hs' =>
      isCleanSegment_web (hsegs.segments s hs') (.inl rfl)
  | rooted hs hplain hsegs hne => exact absurd hspecial (by simpa [assemble] using hplain)
  | verbatim hs hplain hpath hhead => exact absurd hspecial (by simpa [assemble] using hplain)

theorem head?_collapsePath_segments (segs : List Text) :
    (collapsePath (Path.segments segs).text).head? = some '/' := by
  cases segs with
  | nil => rfl
  | cons s segs => exact head?_collapsePath rfl

theorem parseVerbatimPath_of_clean {t : Text} (h : ∀ c ∈ t, isControl c = false) :
    (parseVerbatimPath t).1 = t.takeWhile fun c => !(c == '?' || c == '#') :=
  percentEncode_eq_self fun c hc => h c ((List.takeWhile_sublist _).subset hc)

/-- What stands behind a scheme is shorter than the whole, unless it had to be encoded; and then
the whole would have to be encoded as well. -/
theorem collapsePath_verbatim_ne {scheme rest : Text}
    (hcut : cutScheme? (tidy value) = some (scheme, rest)) (hhead : value.head? ≠ some '/') :
    collapsePath (parseVerbatimPath rest).1 ≠ value := by
  intro hvalue
  obtain ⟨front, htidy, -, -⟩ := cutScheme?_spec hcut
  have hcontrol : ∀ c ∈ value, isControl c = false := by
    rw [← hvalue]
    intro c hc
    by_cases hslash : c = '/'
    · rw [hslash]
      decide
    · exact percentEncode_clean keepsCodes_isControl _ c ((mem_collapsePath hslash _).1 hc)
  have hrest : rest.Sublist value := by
    have htail : rest.Sublist (tidy value) := by
      rw [htidy]
      exact (List.sublist_cons_self ':' rest).trans (List.sublist_append_right front _)
    exact htail.trans (tidy_sublist value)
  rw [parseVerbatimPath_of_clean fun c hc => hcontrol c (hrest.subset hc)] at hvalue
  have hpart := (List.takeWhile_sublist (l := rest) fun c => !(c == '?' || c == '#')).length_le
  have hlonger := (tidy_sublist value).length_le
  have hlength := length_collapsePath_le (rest.takeWhile fun c => !(c == '?' || c == '#'))
  rw [hvalue] at hlength
  rw [htidy, List.length_append, List.length_cons] at hlonger
  have hempty : rest.takeWhile (fun c => !(c == '?' || c == '#')) = [] :=
    List.eq_nil_of_length_eq_zero (by omega)
  rw [hempty] at hvalue
  exact hhead (congrArg List.head? hvalue.symm)

theorem collapsePath_ne_of_not_special (h : parse value = .ok u)
    (hspecial : isSpecialScheme u.scheme = false) : collapsePath u.pathText ≠ value := by
  have hhead := head?_of_parse h
  have hrooted {segs : List Text} (hpath : u.pathText = (Path.segments segs).text) :
      collapsePath u.pathText ≠ value := fun hvalue => by
    rw [← hvalue, hpath] at hhead
    exact hhead (head?_collapsePath_segments segs)
  obtain ⟨rest, hcut⟩ := exists_cutScheme?_of_parse h
  rw [parse_of_cutScheme? hcut hspecial, parseGeneral.eq_def] at h
  split at h
  · obtain ⟨a, behind, -, hu⟩ := parseAfterSlashes_eq_ok h
    exact hrooted (congrArg pathText hu)
  · exact hrooted (congrArg pathText (Except.ok.inj h).symm)
  · have hpath : u.pathText = (parseVerbatimPath rest).1 :=
      congrArg pathText (Except.ok.inj h).symm
    rw [hpath]
    exact collapsePath_verbatim_ne hcut hhead

end Reading

section Twice
variable {value : Text}

/-- Normalization leaves the normal paths alone, and what is no reference and has neither slashes
nor a wildcard query to lose. -/
theorem normalizePath_eq_self_iff : normalizePath value = value ↔ IsNormalPath value ∨
    (¬IsReference value ∧ IsCollapsed value ∧ ¬"?*".toList <:+ value) := by
  constructor
  · intro h
    by_cases href : IsReference value
    · obtain ⟨u, hu⟩ := href
      rw [normalizePath_of_ok hu] at h
      cases hspecial : isSpecialScheme u.scheme with
      | true => exact .inl (h ▸ isNormalPath_of_special (isRead_of_join hu) hspecial)
      | false =>
        have hparse := parse_of_join (by decide) hu hspecial
        exact absurd h (collapsePath_ne_of_not_special hparse hspecial)
    · rw [normalizePath_of_not_isReference href] at h
      refine .inr ⟨href, h ▸ isCollapsed_collapsePath _, fun hsuffix => ?_⟩
      obtain ⟨front, rfl⟩ := hsuffix
      rw [Text.dropSuffix?_append, Option.getD_some] at h
      have hlength := length_collapsePath_le front
      have htwo : "?*".toList.length = 2 := rfl
      rw [h, List.length_append, htwo] at hlength
      omega
  · rintro (h | ⟨href, hcollapsed, hwild⟩)
    · obtain ⟨u, hu, hpath⟩ := join_normalPath h
      rw [normalizePath_of_ok hu, hpath, collapsePath_of_isCollapsed h.collapsed]
    · rw [normalizePath_of_not_isReference href, Text.dropSuffix?_eq_none_iff.2 hwild,
        Option.getD_none, collapsePath_of_isCollapsed hcollapsed]

theorem isCollapsed_normalizePath (value : Text) : IsCollapsed (normalizePath value) := by
  by_cases href : IsReference value
  · obtain ⟨u, hu⟩ := href
    rw [normalizePath_of_ok hu]
    exact isCollapsed_collapsePath _
  · rw [normalizePath_of_not_isReference href]
    exact isCollapsed_collapsePath _

/-- One pass is enough if and only if it gives a normal path, or a text that is no reference and
does not end in a wildcard query. It gives a normal path for whatever is read as a path or as a
special URL, and for another URL only if the URL has no path, or a path of segments without
backslashes. -/
theorem normalizePath_normalizePath_iff (value : Text) :
    (normalizePath (normalizePath value) = normalizePath value ↔
      IsNormalPath (normalizePath value) ∨
        (¬IsReference (normalizePath value) ∧ ¬"?*".toList <:+ normalizePath value)) ∧
    ∀ u, placeholder.join value = .ok u →
      (isSpecialScheme u.scheme → IsNormalPath (normalizePath value)) ∧
      (IsNormalPath (normalizePath value) ↔
        u.pathText = [] ∨ (u.isVerbatim = false ∧ '\\' ∉ u.pathText)) := by
  refine ⟨?_, fun u hu => ?_⟩
  · rw [normalizePath_eq_self_iff, and_iff_right (isCollapsed_normalizePath value)]
  · have hread := isRead_of_join hu
    rw [normalizePath_of_ok hu]
    exact ⟨isNormalPath_of_special hread, isNormalPath_iff_of_isRead hread⟩

theorem normalizePath_normalizePath_iff_opaque :
    let path := "/a/../b/".toList
    let script := "javascript:void(0)/".toList
    (IsNormalPath (normalizePath path) ∧ normalizePath (normalizePath path) = normalizePath path) ∧
    ¬IsNormalPath (normalizePath script) ∧ normalizePath script = "void(0)".toList ∧
    normalizePath (normalizePath script) = "/void(0)".toList := by
  intro path script
  have hpath : placeholder.join path =
      .ok { placeholder with path := .segments ["b".toList, []] } := by decide +kernel
  have hscript : placeholder.join script =
      .ok ⟨"javascript".toList, none, false, .verbatim "void(0)/".toList, none, none⟩ := by
    decide +kernel
  obtain ⟨htwice, hread⟩ := normalizePath_normalizePath_iff path
  have hnormal : IsNormalPath (normalizePath path) := (hread _ hpath).1 (by decide)
  obtain ⟨-, hread⟩ := normalizePath_normalizePath_iff script
  refine ⟨⟨hnormal, htwice.2 (.inl hnormal)⟩, fun h => ?_, by decide +kernel, by decide +kernel⟩
  obtain hnil | ⟨hrooted, -⟩ := (hread _ hscript).2.1 h
  · cases hnil
  · cases hrooted

end Twice

end EndpointScout.Candidate
