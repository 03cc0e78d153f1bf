import EndpointScout.Proofs.Candidate.Stored

/-! Storing keeps what a text stands for. What is stored of a path or of a web page's URL is
stored as it is, is of the same kind, and has the same path in normal form; of the URL only the
fragment is lost, and slashes at the end. -/
namespace EndpointScout.Candidate
open Url

section Trimmed
variable {scheme : Text} {a : Authority} {segs : List Text} {tail : Text}

def trimmed (u : Url) : Url :=
  u.withoutFragment.withPath (Text.dropEndWhile isSlash u.withoutFragment.pathText)

theorem stored_eq (u : Url) : stored u =
    if (trimmed u).query.isNone then Text.dropEndWhile isSlash (trimmed u).text
    else (trimmed u).text := rfl

theorem isCleanPath_storedSegments (scheme : Text) (segs : List Text) :
    IsCleanPath scheme (storedSegments scheme segs) := isCleanPath_parsePathStart _

theorem storedSegments_eq (h : IsCleanPath scheme segs) : storedSegments scheme segs =
    if isSpecialScheme scheme = true ∧ segs.rdropWhile List.isEmpty = [] then [[]]
    else segs.rdropWhile List.isEmpty :=
  congrArg Prod.fst (parsePathStart_dropEnd h)

theorem rdropWhile_storedSegments (h : IsCleanPath scheme segs) :
    (storedSegments scheme segs).rdropWhile List.isEmpty = segs.rdropWhile List.isEmpty := by
  rw [storedSegments_eq h]
  split
  · rename_i hempty
    rw [hempty.2]
    rfl
  · exact List.rdropWhile_idempotent List.isEmpty segs

theorem storedSegments_storedSegments (h : IsCleanPath scheme segs) :
    storedSegments scheme (storedSegments scheme segs) = storedSegments scheme segs := by
  rw [storedSegments_eq (isCleanPath_storedSegments scheme segs), rdropWhile_storedSegments h,
    storedSegments_eq h]

theorem text_storedSegments (h : IsCleanPath scheme segs) (hspecial : isSpecialScheme scheme) :
    (Path.segments (storedSegments scheme segs)).text =
      if Text.dropEndWhile isSlash (Path.segments segs).text = [] then ['/']
      else Text.dropEndWhile isSlash (Path.segments segs).text := by
  rw [dropEndWhile_segments (isSlash_of_isCleanPath h), storedSegments_eq h]
  cases segs.rdropWhile List.isEmpty with
  | nil => simp [hspecial, Path.text]
  | cons s rest => simp [Path.text]

theorem trimmed_assemble (scheme : Text) (a : Authority) (segs : List Text) (tail : Text) :
    trimmed (assemble scheme (some a) (.segments segs) tail) =
      assemble scheme (some a) (.segments (storedSegments scheme segs))
        (tailText (parseTail scheme tail).1 none) := by
  rw [assemble_tailText (fun q hq => query_parseTail hq) (by simp)]
  rfl

theorem trimmed_trimmed (h : IsCleanPath scheme segs) :
    trimmed (trimmed (assemble scheme (some a) (.segments segs) tail)) =
      trimmed (assemble scheme (some a) (.segments segs) tail) := by
  rw [trimmed_assemble, trimmed_assemble, storedSegments_storedSegments h,
    parseTail_tailText (fun q hq => query_parseTail hq) (by simp)]

theorem parse_stored (hs : IsScheme scheme) (hspecial : isSpecialScheme scheme)
    (hfile : isFileScheme scheme = false) (ha : a.IsClean scheme)
    (hsegs : IsCleanPath scheme segs) :
    parse (stored (assemble scheme (some a) (.segments segs) tail)) =
      .ok (trimmed (assemble scheme (some a) (.segments segs) tail)) := by
  have hkept := isCleanPath_storedSegments scheme segs
  cases hquery : (parseTail scheme tail).1 with
  | some q =>
    have hstored : stored (assemble scheme (some a) (.segments segs) tail) =
        (trimmed (assemble scheme (some a) (.segments segs) tail)).text := by
      rw [stored_eq, if_neg]
      simp [trimmed, withPath, withoutFragment, assemble, hquery]
    rw [hstored, trimmed_assemble]
    exact parse_text_hosted hs hfile ha hkept
  | none =>
    have hfront : ∀ c ∈ a.text, isSlash c = false := fun c hc =>
      isSlash_of_inner (ha.text_spec c hc).2
    have hread : parsePathStart scheme true
        (Text.dropEndWhile isSlash (Path.segments (storedSegments scheme segs)).text) =
          (storedSegments scheme segs, []) := by
      rw [parsePathStart_dropEnd hkept, ← storedSegments_eq hkept,
        storedSegments_storedSegments hsegs]
    obtain ⟨t, hstored, ht⟩ := stored_assemble scheme a segs tail
    rw [hquery, Option.map_none, Option.getD_none, List.append_nil] at ht
    rw [hquery, Option.isNone_none, if_pos rfl, ht, dropEndWhile_front hfront,
      if_neg fun hnil => ha.text_ne_nil hspecial hnil.1] at hstored
    have hfollows : FollowsAuthority
        (Text.dropEndWhile isSlash (Path.segments (storedSegments scheme segs)).text) := by
      rw [dropEndWhile_segments (isSlash_of_isCleanPath hkept), ← List.append_nil (Path.text _)]
      exact follows_path (.inl rfl)
    rw [hstored, trimmed_assemble, hquery, parse_hosted hs hfile ha hfollows fun c hc =>
      plain_segments hkept c ((Text.dropEndWhile_prefix _).mem hc), hread]
    rfl

end Trimmed

section Web
variable {value : Text} {u w : Url}

def IsWebText (value : Text) : Prop :=
  ∃ scheme rest : Text, value = scheme ++ ':' :: '/' :: '/' :: rest ∧
    (scheme.map lowerLetter = "http".toList ∨ scheme.map lowerLetter = "https".toList)

theorem isLetter_of_lowerLetter {c : Char} (h : Text.isLetter (lowerLetter c)) :
    Text.isLetter c := by
  by_cases hupper : ('A' ≤ c && c ≤ 'Z') = true
  · simp [Text.isLetter, hupper]
  · rwa [lowerLetter, if_neg hupper] at h

theorem IsWebText.exists_cutScheme? (h : IsWebText value) : ∃ scheme rest : Text,
    (scheme = "http".toList ∨ scheme = "https".toList) ∧
      Url.cutScheme? (tidy value) = some (scheme, '/' :: '/' :: rest) := by
  obtain ⟨front, rest, rfl, hweb⟩ := h
  have hlower : (∀ c ∈ front.map lowerLetter, Text.isLetter c) ∧ front ≠ [] := by
    refine ⟨?_, by rintro rfl; simp at hweb⟩
    obtain h | h := hweb <;> rw [h] <;> exact Text.forall_of_all (by decide)
  have hletters : ∀ c ∈ front, Text.isLetter c := fun c hc =>
    isLetter_of_lowerLetter (hlower.1 _ (List.mem_map_of_mem hc))
  have hchars : ∀ c ∈ front, isSchemeChar c := fun c hc => by
    simp [isSchemeChar, Text.isAlphanumeric, hletters c hc]
  have hhead : (front.head?.map Text.isLetter).getD false = true := by
    obtain ⟨c, cs, rfl⟩ := List.exists_cons_of_ne_nil hlower.2
    exact hletters c List.mem_cons_self
  have hplain : ∀ c ∈ front ++ [':', '/'], 0x20 < c.toNat :=
    List.forall_mem_append.2 ⟨fun c hc => (schemeChar_spec (hchars c hc)).2.2.1,
      Text.forall_of_all (by decide)⟩
  obtain ⟨t, ht⟩ := tidy_append_cons hplain (by decide : 0x20 < '/'.toNat) rest
  refine ⟨_, t, hweb, ?_⟩
  rw [List.append_assoc, List.append_assoc] at ht
  exact (congrArg Url.cutScheme? ht).trans (cutScheme?_map_append hhead hchars _)

theorem IsWebText.join_eq_parse (h : IsWebText value) : placeholder.join value = parse value := by
  obtain ⟨scheme, rest, hweb, hcut⟩ := h.exists_cutScheme?
  obtain ⟨hspecial, hfile⟩ := special_of_web hweb
  have hslashes : ¬(('/' :: '/' :: rest).takeWhile (Url.isSlash true)).length < 2 := by
    have hsolidus : Url.isSlash true '/' = true := rfl
    simp [hsolidus]
  simp only [join, parse, resolve, hcut, hfile, hspecial, hslashes, decide_false, Bool.false_and,
    Bool.false_eq_true, if_false, if_true]

theorem IsWebText.scheme (h : IsWebText value) (hu : parse value = .ok u) :
    u.scheme = "http".toList ∨ u.scheme = "https".toList := by
  obtain ⟨scheme, rest, hweb, hcut⟩ := h.exists_cutScheme?
  obtain ⟨rest', hcut'⟩ := exists_cutScheme?_of_parse hu
  rw [hcut] at hcut'
  exact (Prod.mk.inj (Option.some.inj hcut')).1 ▸ hweb

/-- The URL of the same page: all is the same but the fragment and slashes at the end of the
path. -/
structure IsSamePage (u w : Url) : Prop where
  scheme : w.scheme = u.scheme
  authority : w.authority = u.authority
  path : w.pathText = if Text.dropEndWhile isSlash u.pathText = [] then ['/']
    else Text.dropEndWhile isSlash u.pathText
  query : w.query = u.query
  fragment : w.fragment = none

theorem collapsePath_congr {path path' : Text}
    (h : Text.dropEndWhile isSlash path = Text.dropEndWhile isSlash path') :
    collapsePath path = collapsePath path' := by
  rw [collapsePath, h, collapsePath]

theorem IsSamePage.collapsePath (h : IsSamePage u w) :
    collapsePath w.pathText = collapsePath u.pathText := by
  refine collapsePath_congr ?_
  rw [h.path]
  split
  · rename_i hempty
    rw [hempty]
    rfl
  · exact List.rdropWhile_idempotent isSlash u.pathText

theorem stored_web (hread : IsRead u)
    (hweb : u.scheme = "http".toList ∨ u.scheme = "https".toList) :
    ∃ w, parse (stored u) = .ok w ∧ IsSamePage u w ∧ stored w = stored u ∧
      IsWebText (stored u) := by
  obtain ⟨hspecial, hfile⟩ := special_of_web hweb
  obtain ⟨scheme, a, segs, tail, hs, ha, hsegs, rfl⟩ := hread.exists_hosted hspecial hfile
  refine ⟨_, parse_stored hs hspecial hfile ha hsegs, ?_, ?_, ?_⟩
  · rw [trimmed_assemble, assemble_tailText (fun q hq => query_parseTail hq) (by simp)]
    exact ⟨rfl, rfl, text_storedSegments hsegs hspecial, rfl, rfl⟩
  · rw [stored_eq, trimmed_trimmed hsegs, ← stored_eq]
  · have hlower : scheme.map lowerLetter = scheme := hs.lower
    have hinner : ∀ c ∈ a.text, isSlash c = false := fun c hc =>
      isSlash_of_inner (ha.text_spec c hc).2
    obtain ⟨hnil, -⟩ | ⟨rest, hrest⟩ := stored_of_authority hinner
    · exact absurd hnil (ha.text_ne_nil hspecial)
    · exact ⟨scheme, a.text ++ rest, hrest, hlower.symm ▸ hweb⟩

end Web

section Identity
variable {value : Text}

/-- One slash in front, none at the end of anything but the root, and no blanks, queries or
fragments. -/
structure IsBarePath (path : Text) : Prop where
  front : ∃ rest, path = '/' :: rest ∧ rest.head? ≠ some '/'
  back : path.getLast? = some '/' → path = ['/']
  plain : ∀ c ∈ path, c ≠ '?' ∧ c ≠ '#' ∧ Text.isBlank c = false

theorem bare_of_path {c : Char} (h : encodedInPath c = false) :
    c ≠ '?' ∧ c ≠ '#' ∧ Text.isBlank c = false := by
  have hplain := encodedInPath_plain h
  simp only [encodedInPath, encodedInFragment, isControl, Bool.or_eq_false_iff,
    decide_eq_false_iff_not, beq_eq_false_iff_ne] at h
  obtain ⟨⟨⟨⟨hfragment, hmark⟩, hquery⟩, -⟩, -⟩ := h
  have hascii := hfragment.1.1.1.1.1.2
  refine ⟨hquery, hmark, ?_⟩
  simp only [Text.isBlank, Bool.or_eq_false_iff, Bool.and_eq_false_iff, decide_eq_false_iff_not,
    beq_eq_false_iff_ne]
  omega

theorem IsNormalPath.isBarePath {path : Text} (h : IsNormalPath path) : IsBarePath path := by
  refine ⟨?_, fun hlast => ?_, h.char (by decide) fun c _ hc => bare_of_path hc⟩
  · obtain ⟨rest, hpath, hrest⟩ := h.exists_cons
    refine ⟨rest, hpath, fun hslash => ?_⟩
    rw [hslash] at hrest
    cases hrest
  · cases h.collapsed with
    | root => rfl
    | other hne hend _ =>
      obtain ⟨front, rfl⟩ := List.getLast?_eq_some_iff.1 hlast
      have hshort := (Text.dropEndWhile_prefix (p := isSlash) front).length_le
      have hslash : Text.dropEndWhile isSlash ['/'] = [] := by decide
      rw [Text.dropEndWhile_append, if_pos hslash] at hend
      rw [hend] at hshort
      simp at hshort

theorem isNormalPath_of_slash (hhead : value.head? = some '/') (h : IsReference value) :
    IsNormalPath (normalizePath value) := by
  obtain ⟨u, hu⟩ := h
  obtain ⟨t, rfl⟩ := List.head?_eq_some_iff.1 hhead
  rw [normalizePath_of_ok hu]
  refine isNormalPath_of_special (isRead_of_join hu) ?_
  rw [join_slash (by decide) (by decide)] at hu
  rw [scheme_parseRelative hu]
  decide

theorem classify_of_head? {v w : Text} (h : v.head? = some '/' ↔ w.head? = some '/') :
    Kind.classify v = Kind.classify w := by
  simp [Kind.classify, h]

/-- Storing a path or the URL of a web page keeps what it stands for: the form that is stored is
its own stored form, of the same kind and with the same normal path. A path is stored bare, and a
URL as that of the same page. -/
theorem canonical_keeps_identity (value : Text)
    (h : (value.head? = some '/' ∧ IsReference value) ∨
      (IsWebText value ∧ ∃ u, parse value = .ok u)) :
    canonical (canonical value) = canonical value ∧
    Kind.classify (canonical value) = Kind.classify value ∧
    normalizePath (canonical value) = normalizePath value ∧
    (value.head? = some '/' → IsBarePath (canonical value)) ∧
    ∀ u, parse value = .ok u → ∃ w, parse (canonical value) = .ok w ∧ IsSamePage u w := by
  obtain ⟨hhead, href⟩ | ⟨hweb, u, hu⟩ := h
  · have hnormal := isNormalPath_of_slash hhead href
    have hcanonical : canonical value = normalizePath value := if_pos (by simp [hhead])
    have hslash := head?_normalizePath hhead
    have hfixed := normalizePath_eq_self_iff.2 (.inl hnormal)
    have hagain : canonical (normalizePath value) = normalizePath (normalizePath value) :=
      if_pos (by simp [hslash])
    rw [hcanonical, hagain, hfixed]
    exact ⟨rfl, classify_of_head? (by simp [hslash, hhead]), rfl, fun _ => hnormal.isBarePath,
      fun u hu => absurd hhead (head?_of_parse hu)⟩
  · obtain ⟨w, hw, hpage, hstored, hweb'⟩ := stored_web (isRead_parse hu) (hweb.scheme hu)
    have hhead := head?_of_parse hu
    have hhead' := head?_of_parse hw
    rw [canonical_of_ok hhead hu, canonical_of_ok hhead' hw]
    refine ⟨hstored, classify_of_head? (by simp [hhead, hhead']), ?_, fun h => absurd h hhead,
      fun u' hu' => ⟨w, hw, Except.ok.inj (hu.symm.trans hu') ▸ hpage⟩⟩
    rw [normalizePath_of_ok (hweb.join_eq_parse.trans hu),
      normalizePath_of_ok (hweb'.join_eq_parse.trans hw), hpage.collapsePath]

theorem canonical_keeps_identity_shop :
    let path := "/shop//list/?page=2".toList
    let url := "HTTPS://me@a.co:8080/shop/#top".toList
    (canonical path = "/shop//list".toList ∧ canonical (canonical path) = canonical path ∧
      IsBarePath (canonical path)) ∧
    canonical url = "https://me@a.co:8080/shop".toList ∧ canonical (canonical url) = canonical url ∧
      ∃ u w, parse url = .ok u ∧ parse (canonical url) = .ok w ∧ IsSamePage u w := by
  intro path url
  have hpath : placeholder.join path = .ok { placeholder with
      path := .segments ["shop".toList, [], "list".toList, []]
      query := some "page=2".toList } := by
    decide +kernel
  have hurl : parse url = .ok ⟨"https".toList,
      some ⟨"me".toList, [], some (.domain "a.co".toList), some 8080⟩, false,
      .segments ["shop".toList, []], none, some "top".toList⟩ := by
    decide +kernel
  obtain ⟨hpathFixed, -, -, hbare, -⟩ := canonical_keeps_identity path (.inl ⟨rfl, _, hpath⟩)
  obtain ⟨hurlFixed, -, -, -, hpage⟩ := canonical_keeps_identity url
    (.inr ⟨⟨"HTTPS".toList, "me@a.co:8080/shop/#top".toList, rfl, .inr (by decide)⟩, _, hurl⟩)
  obtain ⟨w, hw, hsame⟩ := hpage _ hurl
  exact ⟨⟨by decide +kernel, hpathFixed, hbare rfl⟩,
    by decide +kernel, hurlFixed, _, w, hurl, hw, hsame⟩

end Identity

end EndpointScout.Candidate
