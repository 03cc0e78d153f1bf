import EndpointScout.Candidate.Canonical
import EndpointScout.Proofs.Url.RoundTrip

/-! The form in which a URL is stored has the host of the URL that it is made from. -/
namespace EndpointScout.Candidate
open Url

section Segments
variable {scheme : Text} {segs front : List Text}

theorem text_segments_append (segs rest : List Text) : (Path.segments (segs ++ rest)).text =
    (Path.segments segs).text ++ (Path.segments rest).text := by
  simp [Path.text]

theorem dropEndWhile_segments (h : ∀ s ∈ segs, ∀ c ∈ s, isSlash c = false) :
    Text.dropEndWhile isSlash (Path.segments segs).text =
      (Path.segments (segs.rdropWhile List.isEmpty)).text := by
  induction segs using List.reverseRecOn with
  | nil => rfl
  | append_singleton segs s ih =>
    have hsegs := ih fun t ht => h t (List.mem_append_left _ ht)
    have hs : ∀ c ∈ s, isSlash c = false := h s (by simp)
    rw [text_segments_append, List.rdropWhile_concat]
    cases s with
    | nil =>
      have hempty : Text.dropEndWhile isSlash (Path.segments [[]]).text = [] := by decide
      rw [Text.dropEndWhile_append, if_pos hempty, hsegs]
      rfl
    | cons c cs =>
      have hone : (Path.segments [c :: cs]).text = ['/'] ++ c :: cs := by simp [Path.text]
      have hlast : Text.dropEndWhile isSlash cs = cs :=
        Text.dropEndWhile_of_forall fun d hd => hs d (List.mem_cons_of_mem c hd)
      rw [hone, ← List.append_assoc, Text.dropEndWhile_append_cons (hs c List.mem_cons_self), hlast,
        if_neg (by simp), text_segments_append, hone, List.append_assoc]

theorem length_dropEmptyFront_le (segs : List Text) :
    (dropEmptyFront segs).length ≤ segs.length := by
  fun_induction dropEmptyFront segs with
  | case1 s rest ih => exact Nat.le_succ_of_le ih
  | case2 segs => exact Nat.le_refl _

theorem dropEmptyFront_of_prefix (h : dropEmptyFront segs = segs) (hfront : front <+: segs) :
    dropEmptyFront front = front := by
  match front, hfront with
  | [], _ => rfl
  | [s], _ => cases s <;> rfl
  | (c :: s) :: t :: ts, _ => rfl
  | [] :: t :: ts, ⟨rest, hrest⟩ =>
    have hlen := length_dropEmptyFront_le (t :: (ts ++ rest))
    rw [← hrest, List.cons_append, List.cons_append, dropEmptyFront] at h
    rw [h] at hlen
    simp at hlen

theorem isCleanPath_of_prefix (h : IsCleanPath scheme segs) (hfront : front <+: segs)
    (hne : isSpecialScheme scheme → front ≠ []) : IsCleanPath scheme front :=
  ⟨fun s hs => h.segments s (hfront.mem hs),
    fun hf => dropEmptyFront_of_prefix (h.front hf) hfront, hne⟩

theorem isSlash_of_isCleanPath (h : IsCleanPath scheme segs) :
    ∀ s ∈ segs, ∀ c ∈ s, isSlash c = false := fun s hs c hc =>
  (Bool.or_eq_false_iff.1 ((h.segments s hs).chars c hc).1).1

theorem parsePathStart_dropEnd {stops : Bool} (h : IsCleanPath scheme segs) :
    parsePathStart scheme stops (Text.dropEndWhile isSlash (Path.segments segs).text) =
      (if isSpecialScheme scheme = true ∧ segs.rdropWhile List.isEmpty = [] then [[]]
        else segs.rdropWhile List.isEmpty, []) := by
  have hkept : segs.rdropWhile List.isEmpty <+: segs := List.rdropWhile_prefix _ segs
  rw [dropEndWhile_segments (isSlash_of_isCleanPath h)]
  split
  · rename_i hempty
    have hgo (special file : Bool) :
        pathGo special file stops [] [] [] = ([[]], []) := by
      cases file <;> rfl
    have hroot : parseSegments scheme stops [] [] = ([[]], []) := by
      simp only [parseSegments, List.reverse_nil, hgo]
      split <;> rfl
    rw [hempty.2, parsePathStart.eq_def, if_pos hempty.1]
    exact hroot
  · rename_i hempty
    have hclean := isCleanPath_of_prefix h hkept fun hspecial hnil => hempty ⟨hspecial, hnil⟩
    have hread : parsePathStart scheme stops
        ((Path.segments (segs.rdropWhile List.isEmpty)).text ++ []) =
        (segs.rdropWhile List.isEmpty, []) := parsePathStart_text hclean (.inl rfl)
    rwa [List.append_nil] at hread

theorem mem_parsePathStart_dropEnd {stops : Bool} (h : IsCleanPath scheme segs) {s : Text}
    (hs : s ∈ (parsePathStart scheme stops
      (Text.dropEndWhile isSlash (Path.segments segs).text)).1) : s = [] ∨ s ∈ segs := by
  rw [parsePathStart_dropEnd h] at hs
  split at hs
  · exact .inl (List.mem_singleton.1 hs)
  · exact .inr ((List.rdropWhile_prefix _ segs).mem hs)

end Segments

section Written
variable {scheme : Text}

theorem queryText_parseTail {tail query : Text} (h : (parseTail scheme tail).1 = some query) :
    ∀ c ∈ query, 0x20 < c.toNat := fun c hc => (encodedInQuery_plain (query_parseTail h c hc)).1

/-- Slashes are dropped from the path alone, unless nothing stands in front of it. -/
theorem dropEndWhile_front {front : Text} (h : ∀ c ∈ front, isSlash c = false) (t : Text) :
    Text.dropEndWhile isSlash (scheme ++ ':' :: '/' :: '/' :: (front ++ t)) =
      if front = [] ∧ Text.dropEndWhile isSlash t = [] then scheme ++ [':']
      else scheme ++ ':' :: '/' :: '/' :: (front ++ Text.dropEndWhile isSlash t) := by
  rw [Text.dropEndWhile_append_cons (by decide)]
  cases front with
  | nil =>
    have hdrop : Text.dropEndWhile isSlash ('/' :: '/' :: t) =
        if Text.dropEndWhile isSlash t = [] then []
        else '/' :: '/' :: Text.dropEndWhile isSlash t := Text.dropEndWhile_append ['/', '/'] t
    rw [List.nil_append, hdrop]
    split <;> simp_all
  | cons c cs =>
    have hcs : Text.dropEndWhile isSlash cs = cs :=
      Text.dropEndWhile_of_forall fun d hd => h d (List.mem_cons_of_mem c hd)
    have hend : Text.dropEndWhile isSlash (cs ++ t) = cs ++ Text.dropEndWhile isSlash t := by
      rw [Text.dropEndWhile_append, hcs]
      split
      · rename_i ht
        rw [ht, List.append_nil]
      · rfl
    have hfront := Text.dropEndWhile_append_cons (h c List.mem_cons_self) ['/', '/'] (cs ++ t)
    rw [if_neg (by simp)]
    simp only [List.cons_append, List.nil_append] at hfront ⊢
    rw [hfront, hend]

/-- What is stored of a URL behind its slashes: what stood there in front of the path, and
a path without segments of its own. -/
theorem stored_form {front : Text} {segs : List Text} {query : Option Text}
    (hfront : ∀ c ∈ front, isSlash c = false) (hsegs : IsCleanPath scheme segs)
    (hquery : ∀ q, query = some q → ∀ c ∈ q, 0x20 < c.toNat) {t : Text}
    (ht : t = scheme ++ ':' :: '/' :: '/' ::
      (front ++ ((Path.segments segs).text ++ (query.map ('?' :: ·)).getD []))) :
    (front = [] ∧ (if query.isNone then Text.dropEndWhile isSlash t else t) = scheme ++ [':']) ∨
    ∃ rest, (if query.isNone then Text.dropEndWhile isSlash t else t) =
        scheme ++ ':' :: '/' :: '/' :: (front ++ rest) ∧
      FollowsAuthority rest ∧ (∀ c ∈ rest, 0x20 < c.toNat) ∧
      ∀ s ∈ (parsePathStart scheme true rest).1, s = [] ∨ s ∈ segs := by
  cases query with
  | some q =>
    refine .inr ⟨(Path.segments segs).text ++ '?' :: q, ht,
      follows_path (.inr ⟨rfl, '?', q, rfl, .inl rfl⟩), ?_, ?_⟩
    · intro c hc
      obtain hc | hc := List.mem_append.1 hc
      · exact plain_segments hsegs c hc
      · obtain rfl | hc := List.mem_cons.1 hc
        · decide
        · exact hquery q rfl c hc
    · rw [parsePathStart_text hsegs (.inr ⟨rfl, '?', q, rfl, .inl rfl⟩)]
      exact fun s hs => .inr hs
  | none =>
    have hdrop := dropEndWhile_segments (isSlash_of_isCleanPath hsegs)
    rw [Option.map_none, Option.getD_none, List.append_nil] at ht
    rw [Option.isNone_none, if_pos rfl, ht, dropEndWhile_front hfront]
    split
    · rename_i hempty
      exact .inl ⟨hempty.1, rfl⟩
    · refine .inr ⟨_, rfl, ?_, ?_, fun s hs => mem_parsePathStart_dropEnd hsegs hs⟩
      · rw [hdrop, ← List.append_nil (Path.text _)]
        exact follows_path (.inl rfl)
      · exact fun c hc => plain_segments hsegs c ((Text.dropEndWhile_prefix _).mem hc)

theorem isSlash_of_inner {c : Char} (h : endsAuthority true c = false) : isSlash c = false := by
  simp only [endsAuthority, Url.isSlash, Bool.or_eq_false_iff] at h
  exact h.1.1.1

theorem host_of_text_nil {a : Authority} (ha : a.IsClean scheme) (hnil : a.text = []) :
    isSpecialScheme scheme = false ∧ a.host = none := by
  have hspecial : isSpecialScheme scheme = false := by
    cases h : isSpecialScheme scheme with
    | false => rfl
    | true => exact absurd hnil (ha.text_ne_nil h)
  rw [Authority.text_eq, List.append_eq_nil_iff, List.append_eq_nil_iff] at hnil
  have hread := ha.host
  rw [hspecial, hnil.2.1] at hread
  exact ⟨hspecial, (Except.ok.inj hread).symm⟩

def storedSegments (scheme : Text) (segs : List Text) : List Text :=
  (parsePathStart scheme false (Text.dropEndWhile isSlash (Path.segments segs).text)).1

theorem stored_assemble (scheme : Text) (a : Authority) (segs : List Text) (tail : Text) :
    ∃ t, stored (assemble scheme (some a) (.segments segs) tail) =
        (if (parseTail scheme tail).1.isNone then Text.dropEndWhile isSlash t else t) ∧
      t = scheme ++ ':' :: '/' :: '/' :: (a.text ++
        ((Path.segments (storedSegments scheme segs)).text ++
          ((parseTail scheme tail).1.map ('?' :: ·)).getD [])) := by
  refine ⟨_, rfl, ?_⟩
  show scheme ++ ':' :: '/' :: '/' :: a.text ++ (Path.segments (storedSegments scheme segs)).text ++
    ((parseTail scheme tail).1.map ('?' :: ·)).getD [] ++ [] = _
  simp

theorem parse_stored_hosted {a : Authority} {segs : List Text} {tail : Text}
    (hs : IsScheme scheme) (hfile : isFileScheme scheme = false) (ha : a.IsClean scheme) :
    ∃ w, parse (stored (assemble scheme (some a) (.segments segs) tail)) = .ok w ∧
      w.host = a.host := by
  have hsegs : IsCleanPath scheme (storedSegments scheme segs) := isCleanPath_parsePathStart _
  obtain ⟨t, hstored, ht⟩ := stored_assemble scheme a segs tail
  rw [hstored]
  have hfront : ∀ c ∈ a.text, isSlash c = false := fun c hc =>
    isSlash_of_inner (ha.text_spec c hc).2
  rcases stored_form hfront hsegs (fun q hq => queryText_parseTail hq) ht with
    ⟨hnil, hform⟩ | ⟨rest, hform, hrest, hplain, -⟩
  · obtain ⟨hspecial, hhost⟩ := host_of_text_nil ha hnil
    rw [hform, hhost]
    exact parse_bare hs hspecial (by simp) (by decide)
  · rw [hform]
    exact ⟨_, parse_hosted hs hfile ha hrest hplain, rfl⟩

theorem isSlash_fileAuthority {host : Option Host} (hhost : ∀ h, host = some h → IsFileHost h) :
    ∀ c ∈ (fileAuthority host).text, isSlash c = false := by
  rw [text_fileAuthority]
  cases host with
  | none => simp [hostText]
  | some h => exact fun c hc =>
      isSlash_of_inner (isHostPart_spec ((hhost h rfl).hostText.isHostPart c hc) true).2

theorem parse_stored_file {host : Option Host} {segs : List Text} {tail : Text}
    (hhost : ∀ h, host = some h → IsFileHost h ∧ segs.any isNormalizedDriveLetter = false)
    (hsegs : IsCleanPath "file".toList segs) :
    ∃ w, parse (stored (assemble "file".toList (some (fileAuthority host)) (.segments segs) tail)) =
      .ok w ∧ w.host = host := by
  have hkept : IsCleanPath "file".toList (storedSegments "file".toList segs) :=
    isCleanPath_parsePathStart _
  have hfront := isSlash_fileAuthority fun h hh => (hhost h hh).1
  obtain ⟨t, hstored, ht⟩ := stored_assemble "file".toList (fileAuthority host) segs tail
  rw [text_fileAuthority] at ht hfront
  rw [hstored]
  rcases stored_form hfront hkept (fun q hq => queryText_parseTail hq) ht with
    ⟨hnil, hform⟩ | ⟨rest, hform, hrest, hplain, hmem⟩
  · have hnone : host = none := by
      cases host with
      | none => rfl
      | some h => exact absurd hnil (hhost h rfl).1.text_ne_nil
    rw [hform, hnone]
    exact ⟨⟨"file".toList, some (fileAuthority none), false, .segments [[]], none, none⟩, rfl, rfl⟩
  · rw [hform]
    refine parse_file hrest hplain fun h hh => ⟨(hhost h hh).1, ?_⟩
    rw [List.any_eq_false]
    intro s hs
    have hdrive := List.any_eq_false.1 (hhost h hh).2
    have hempty : ¬isNormalizedDriveLetter [] = true := by decide
    obtain rfl | hs := hmem s hs
    · exact hempty
    · obtain rfl | hs := mem_parsePathStart_dropEnd hsegs hs
      · exact hempty
      · exact hdrive s hs

end Written

section Bare
variable {scheme : Text} {query : Option Text}

theorem parse_bare_form {path : Text} (hs : IsScheme scheme)
    (hspecial : isSpecialScheme scheme = false) (hpath : ∀ c ∈ path, 0x20 ≤ c.toNat)
    (hquery : ∀ q, query = some q → ∀ c ∈ q, 0x20 < c.toNat) (hopen : ¬['/', '/'] <+: path)
    {t : Text} (ht : t = scheme ++ ':' :: (path ++ (query.map ('?' :: ·)).getD [])) :
    ∃ w, parse (if query.isNone then Text.dropEndWhile isSlash t else t) = .ok w ∧
      w.host = none := by
  cases query with
  | none =>
    have hstart := Text.dropEndWhile_prefix (p := isSlash) path
    rw [Option.map_none, Option.getD_none, List.append_nil] at ht
    rw [Option.isNone_none, if_pos rfl, ht, Text.dropEndWhile_append_cons (by decide)]
    exact parse_bare hs hspecial (fun c hc => hpath c (hstart.mem hc))
      fun h => hopen (h.trans hstart)
  | some q =>
    refine ht ▸ parse_bare hs hspecial (fun c hc => ?_) fun h => ?_
    · obtain hc | hc := List.mem_append.1 hc
      · exact hpath c hc
      · obtain rfl | hc := List.mem_cons.1 hc
        · decide
        · exact Nat.le_of_lt (hquery q rfl c hc)
    · match path, hopen, h with
      | [], _, ⟨r, hr⟩ => cases hr
      | [c], _, ⟨r, hr⟩ => cases hr
      | c :: d :: rest, hopen, h =>
        simp only [List.cons_append, List.cons_prefix_cons] at h
        exact hopen ⟨rest, by rw [← h.1, ← h.2.1]; rfl⟩

def shield (segs : List Text) : Text :=
  match segs with
  | [] :: _ :: _ => ['/', '.']
  | _ => []

theorem shield_opens {segs : List Text} (h : ∀ s ∈ segs, ∀ c ∈ s, isSlash c = false) :
    ¬['/', '/'] <+: shield segs ++ (Path.segments segs).text := by
  rintro ⟨r, hr⟩
  match segs, h with
  | [], _ => cases hr
  | [[]], _ => cases hr
  | [] :: _ :: _, _ => cases hr
  | (c :: cs) :: rest, h =>
    have hc := h (c :: cs) List.mem_cons_self c List.mem_cons_self
    obtain ⟨-, hr⟩ := List.cons.inj hr
    obtain ⟨rfl, -⟩ := List.cons.inj hr
    cases hc

theorem text_bare (scheme : Text) (shielded : Bool) (path : Path) (query : Option Text) :
    (Url.mk scheme none shielded path query none).text =
      scheme ++ ':' :: ((if shielded then ['/', '.'] else []) ++ path.text ++
        (query.map ('?' :: ·)).getD []) := by
  show scheme ++ ':' :: (if shielded then ['/', '.'] else []) ++ path.text ++
    (query.map ('?' :: ·)).getD [] ++ [] = _
  simp

theorem stored_rooted (scheme : Text) {segs : List Text} (tail : Text) (hne : segs ≠ []) :
    ∃ t, stored (assemble scheme none (.segments segs) tail) =
        (if (parseTail scheme tail).1.isNone then Text.dropEndWhile isSlash t else t) ∧
      t = scheme ++ ':' :: (shield segs ++ (Path.segments (storedSegments scheme segs)).text ++
        ((parseTail scheme tail).1.map ('?' :: ·)).getD []) := by
  match segs, hne with
  | [[]], _ => exact ⟨_, rfl, text_bare scheme false (.segments (storedSegments scheme [[]])) _⟩
  | [] :: s :: rest, _ =>
    exact ⟨_, rfl, text_bare scheme true (.segments (storedSegments scheme ([] :: s :: rest))) _⟩
  | (c :: cs) :: rest, _ =>
    exact ⟨_, rfl, text_bare scheme false (.segments (storedSegments scheme ((c :: cs) :: rest))) _⟩

theorem parse_stored_rooted {segs : List Text} {tail : Text} (hs : IsScheme scheme)
    (hspecial : isSpecialScheme scheme = false) (hsegs : IsCleanPath scheme segs)
    (hne : segs ≠ []) :
    ∃ w, parse (stored (assemble scheme none (.segments segs) tail)) = .ok w ∧ w.host = none := by
  have hslash := isSlash_of_isCleanPath hsegs
  have hkept : (Path.segments (storedSegments scheme segs)).text =
      Text.dropEndWhile isSlash (Path.segments segs).text := by
    rw [storedSegments, parsePathStart_dropEnd hsegs, dropEndWhile_segments hslash, if_neg]
    simp [hspecial]
  have hstart : shield segs ++ Text.dropEndWhile isSlash (Path.segments segs).text <+:
      shield segs ++ (Path.segments segs).text :=
    (List.prefix_append_right_inj _).2 (Text.dropEndWhile_prefix _)
  have hshield : ∀ c ∈ shield segs, 0x20 ≤ c.toNat := by
    rw [shield.eq_def]
    split <;> exact Text.forall_of_all (by decide)
  have hplain : ∀ c ∈ shield segs ++ (Path.segments segs).text, 0x20 ≤ c.toNat :=
    List.forall_mem_append.2 ⟨hshield, fun c hc => Nat.le_of_lt (plain_segments hsegs c hc)⟩
  obtain ⟨t, hstored, ht⟩ := stored_rooted scheme tail hne
  rw [hkept] at ht
  rw [hstored]
  exact parse_bare_form hs hspecial (fun c hc => hplain c (hstart.mem hc))
    (fun q hq => queryText_parseTail hq) (fun h => shield_opens hslash (h.trans hstart)) ht

theorem stored_verbatim (scheme : Text) {path : Text} (tail : Text)
    (hpath : ∀ c ∈ path, isControl c = false) (hhead : path.head? ≠ some '/') :
    ∃ front t, front <+: path ∧ stored (assemble scheme none (.verbatim path) tail) =
        (if (parseTail scheme tail).1.isNone then Text.dropEndWhile isSlash t else t) ∧
      t = scheme ++ ':' :: (front ++ ((parseTail scheme tail).1.map ('?' :: ·)).getD []) := by
  have hhead {front : Text} (h : front <+: path) : front.head? ≠ some '/' := by
    obtain ⟨rest, rfl⟩ := h
    cases front with
    | nil => simp
    | cons c cs => exact hhead
  have hverbatim {front : Text} (h : front <+: path) {query fragment : Option Text} :
      (Url.mk scheme none false (.verbatim front) query fragment).isVerbatim = true := by
    simpa [isVerbatim, pathText, Path.text] using hhead h
  have hkept : ∃ kept, kept <+: path ∧
      (assemble scheme none (.verbatim path) tail).withoutFragment =
        ⟨scheme, none, false, .verbatim kept, (parseTail scheme tail).1, none⟩ := by
    simp only [assemble, withoutFragment]
    cases (parseTail scheme tail).1 with
    | some q => exact ⟨path, List.prefix_rfl, rfl⟩
    | none =>
      refine ⟨Text.dropEndWhile (· == ' ') path, Text.dropEndWhile_prefix path, ?_⟩
      simp only [hverbatim List.prefix_rfl, if_true]
  obtain ⟨kept, hstart, hkept⟩ := hkept
  have hfront : Text.dropEndWhile isSlash kept <+: path :=
    (Text.dropEndWhile_prefix kept).trans hstart
  have hencoded : percentEncode isControl (Text.dropEndWhile isSlash kept) =
      Text.dropEndWhile isSlash kept :=
    percentEncode_eq_self fun c hc => hpath c (hfront.mem hc)
  have hwith : (Url.mk scheme none false (.verbatim kept) (parseTail scheme tail).1 none).withPath
      (Text.dropEndWhile isSlash kept) = ⟨scheme, none, false,
        .verbatim (Text.dropEndWhile isSlash kept), (parseTail scheme tail).1, none⟩ := by
    simp only [withPath, hverbatim hstart, if_true]
    split
    · rename_i rest hrest
      exact absurd (by rw [hrest]; rfl) (hhead hfront)
    · rw [hencoded]
  refine ⟨_, _, hfront, ?_, text_bare scheme false (.verbatim _) _⟩
  rw [stored, hkept]
  simp only [pathText, Path.text, hwith]
  rfl

theorem parse_stored_verbatim {path tail : Text} (hs : IsScheme scheme)
    (hspecial : isSpecialScheme scheme = false) (hpath : ∀ c ∈ path, isControl c = false)
    (hhead : path.head? ≠ some '/') :
    ∃ w, parse (stored (assemble scheme none (.verbatim path) tail)) = .ok w ∧ w.host = none := by
  obtain ⟨front, t, hfront, hstored, ht⟩ := stored_verbatim scheme tail hpath hhead
  have hopen : ¬['/', '/'] <+: path := by
    rintro ⟨r, rfl⟩
    exact hhead rfl
  rw [hstored]
  refine parse_bare_form hs hspecial (fun c hc => ?_) (fun q hq => queryText_parseTail hq)
    (fun h => hopen (h.trans hfront)) ht
  have hc := hpath c (hfront.mem hc)
  simp only [isControl, Bool.or_eq_false_iff, decide_eq_false_iff_not] at hc
  omega

end Bare

theorem canonical_of_ok {v : Text} {u : Url} (hv : v.head? ≠ some '/') (h : parse v = .ok u) :
    canonical v = stored u := by
  rw [canonical, if_neg (by simpa using hv), h]

theorem canonical_of_error {v : Text} {e : Error} (hv : v.head? ≠ some '/')
    (h : parse v = .error e) : canonical v = v := by
  rw [canonical, if_neg (by simpa using hv), h]

theorem parse_canonical {v : Text} {u : Url} (hv : v.head? ≠ some '/') (h : parse v = .ok u) :
    ∃ w, parse (canonical v) = .ok w ∧ w.host = u.host := by
  rw [canonical_of_ok hv h]
  cases isRead_parse h with
  | hosted hs hfile ha hsegs => exact parse_stored_hosted hs hfile ha
  | file hhost hsegs => exact parse_stored_file hhost hsegs
  | rooted hs hspecial hsegs hne => exact parse_stored_rooted hs hspecial hsegs hne
  | verbatim hs hspecial hpath hhead => exact parse_stored_verbatim hs hspecial hpath hhead

end EndpointScout.Candidate
