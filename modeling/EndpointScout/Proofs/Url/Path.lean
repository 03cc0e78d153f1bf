import EndpointScout.Proofs.Url.Percent
import EndpointScout.Url.Parser

/-! Paths are read back from their written form: a segment that has been read is encoded,
holds no slash and is no dots, so it is read as itself. -/
namespace EndpointScout.Url

/-- A segment as it is left by reading a path. -/
structure IsCleanSegment (special file : Bool) (s : Text) : Prop where
  chars : ∀ c ∈ s, isSlash special c = false ∧ encodedInPath c = false
  doubleDot : isDoubleDot s = false
  singleDot : isSingleDot s = false
  drive : (file && isDriveLetter s) = true → isNormalizedDriveLetter s = true

theorem isCleanSegment_nil (special file : Bool) : IsCleanSegment special file [] := by
  refine ⟨by simp, by decide, by decide, ?_⟩
  cases file <;> decide

theorem eq_of_isDriveLetter {s : Text} (h : isDriveLetter s) :
    ∃ c d, s = [c, d] ∧ Text.isLetter c ∧ (d = ':' ∨ d = '|') := by
  rw [isDriveLetter.eq_def] at h
  split at h
  · rename_i c d
    simp only [Bool.and_eq_true, Bool.or_eq_true, beq_iff_eq] at h
    exact ⟨c, d, rfl, h.1, h.2⟩
  · cases h

theorem letter_spec {c : Char} (h : Text.isLetter c) (special : Bool) :
    isSlash special c = false ∧ encodedInPath c = false := by
  have hletters : ∀ n < 128, (!Text.isLetter (Char.ofNat n) ||
      (!isSlash true (Char.ofNat n) && !isSlash false (Char.ofNat n) &&
        !encodedInPath (Char.ofNat n))) = true := by
    decide
  have hall := Text.forall_ascii
    (p := fun c => !Text.isLetter c || (!isSlash true c && !isSlash false c && !encodedInPath c))
    hletters (Text.isAscii_of_isLetter h)
  simp only [h, Bool.not_true, Bool.false_or, Bool.and_eq_true, Bool.not_eq_true'] at hall
  cases special with
  | true => exact ⟨hall.1.1, hall.2⟩
  | false => exact ⟨hall.1.2, hall.2⟩

theorem isCleanSegment_drive {c : Char} (hc : Text.isLetter c) (special file : Bool) :
    IsCleanSegment special file [c, ':'] := by
  have hcolon : isSlash special ':' = false ∧ encodedInPath ':' = false := by
    cases special <;> decide
  refine ⟨?_, by simp [isDoubleDot], by simp [isSingleDot], fun _ => hc⟩
  simp only [List.forall_mem_cons, List.not_mem_nil, false_implies, implies_true, and_true]
  exact ⟨letter_spec hc special, hcolon⟩

section Reading
variable {special file : Bool} {done : List Text} {segment : Text}

theorem mem_popSegment {s : Text} (h : s ∈ popSegment done) : s ∈ done := by
  cases done with
  | nil => cases h
  | cons t ts =>
    rw [popSegment] at h
    split at h
    · exact h
    · exact List.mem_cons_of_mem _ h

theorem isClean_pushSegment (hdone : ∀ s ∈ done, IsCleanSegment special file s)
    (hchars : ∀ c ∈ segment, isSlash special c = false ∧ encodedInPath c = false) :
    ∀ s ∈ pushSegment file done segment, IsCleanSegment special file s := by
  intro s hs
  rw [pushSegment] at hs
  split_ifs at hs with hdouble hsingle hdrive
  · exact hdone s (mem_popSegment hs)
  · exact hdone s hs
  · obtain rfl | hs := List.mem_cons.1 hs
    · rw [Bool.and_eq_true] at hdrive
      obtain ⟨c, d, rfl, hc, -⟩ := eq_of_isDriveLetter hdrive.2
      exact isCleanSegment_drive hc special file
    · exact hdone s hs
  · obtain rfl | hs := List.mem_cons.1 hs
    · exact ⟨hchars, by simpa using hdouble, by simpa using hsingle, fun h => absurd h hdrive⟩
    · exact hdone s hs

theorem isClean_lastSegment (hdone : ∀ s ∈ done, IsCleanSegment special file s)
    (hchars : ∀ c ∈ segment, isSlash special c = false ∧ encodedInPath c = false) :
    ∀ s ∈ lastSegment file done segment, IsCleanSegment special file s := by
  have hpush := isClean_pushSegment hdone hchars
  rw [lastSegment]
  split
  · exact List.forall_mem_cons.2 ⟨isCleanSegment_nil special file, hpush⟩
  · exact hpush

theorem lastSegment_ne_nil (file : Bool) (done : List Text) (segment : Text) :
    lastSegment file done segment ≠ [] := by
  rw [lastSegment]
  split
  · simp
  · rename_i hdots
    simp only [Bool.or_eq_true, not_or] at hdots
    rw [pushSegment, if_neg hdots.1, if_neg hdots.2]
    split <;> simp

theorem pushSegment_of_clean (h : IsCleanSegment special file segment) :
    pushSegment file done segment = segment :: done := by
  rw [pushSegment, if_neg (by simp [h.doubleDot]), if_neg (by simp [h.singleDot])]
  split
  · rename_i hdrive
    have hnormal := h.drive hdrive
    rw [isNormalizedDriveLetter.eq_def] at hnormal
    split at hnormal
    · rfl
    · cases hnormal
  · rfl

theorem lastSegment_of_clean (h : IsCleanSegment special file segment) :
    lastSegment file done segment = segment :: done := by
  rw [lastSegment, if_neg (by simp [h.doubleDot, h.singleDot]), pushSegment_of_clean h]

theorem percentChar_clean {c d : Char} (hd : isSlash special d = false)
    (h : c ∈ percentChar encodedInPath d) :
    isSlash special c = false ∧ encodedInPath c = false := by
  have hcodes : ∀ special, isSlash special '%' = false ∧
      ∀ k < 16, isSlash special (Text.hexChar true k) = false := by decide
  have hclean : ∀ e ∈ percentEncode encodedInPath [d], encodedInPath e = false :=
    percentEncode_clean keepsCodes_encodedInPath [d]
  refine ⟨?_, hclean c (by simpa [percentEncode] using h)⟩
  obtain ⟨rfl, -⟩ | rfl | ⟨k, hk, rfl⟩ := mem_percentChar h
  · exact hd
  · exact (hcodes special).1
  · exact (hcodes special).2 k hk

theorem isClean_pathGo {stops : Bool} {current : Text} (t : Text)
    (hdone : ∀ s ∈ done, IsCleanSegment special file s)
    (hcurrent : ∀ c ∈ current, isSlash special c = false ∧ encodedInPath c = false) :
    ∀ s ∈ (pathGo special file stops done current t).1, IsCleanSegment special file s := by
  have hreverse {u : Text} (h : ∀ c ∈ u, isSlash special c = false ∧ encodedInPath c = false) :
      ∀ c ∈ u.reverse, isSlash special c = false ∧ encodedInPath c = false :=
    fun c hc => h c (List.mem_reverse.1 hc)
  induction t generalizing done current with
  | nil =>
    intro s hs
    exact isClean_lastSegment hdone (hreverse hcurrent) s (List.mem_reverse.1 hs)
  | cons c t ih =>
    rw [pathGo]
    split_ifs with hslash hstop
    · exact ih (isClean_pushSegment hdone (hreverse hcurrent)) (by simp)
    · intro s hs
      exact isClean_lastSegment hdone (hreverse hcurrent) s (List.mem_reverse.1 hs)
    · refine ih hdone fun d hd => ?_
      obtain hd | hd := List.mem_append.1 hd
      · exact percentChar_clean (by simpa using hslash) (List.mem_reverse.1 hd)
      · exact hcurrent d hd

theorem pathGo_ne_nil {stops : Bool} (done : List Text) (current t : Text) :
    (pathGo special file stops done current t).1 ≠ [] := by
  induction t generalizing done current with
  | nil => simpa [pathGo] using lastSegment_ne_nil file done current.reverse
  | cons c t ih =>
    rw [pathGo]
    split_ifs
    · exact ih _ _
    · simpa using lastSegment_ne_nil file done current.reverse
    · exact ih _ _

def FollowsPath (stops : Bool) (t : Text) : Prop :=
  t = [] ∨ stops = true ∧ ∃ c rest, t = c :: rest ∧ (c = '?' ∨ c = '#')

theorem pathGo_chars {stops : Bool} {s : Text} (done : List Text) (current t : Text)
    (h : ∀ c ∈ s, isSlash special c = false ∧ encodedInPath c = false) :
    pathGo special file stops done current (s ++ t) =
      pathGo special file stops done (s.reverse ++ current) t := by
  induction s generalizing current with
  | nil => rfl
  | cons c s ih =>
    obtain ⟨⟨hslash, hplain⟩, hs⟩ := List.forall_mem_cons.1 h
    have hquery : encodedInPath '?' = true ∧ encodedInPath '#' = true := by decide
    have hstop : ¬(stops && (c == '?' || c == '#')) = true := by
      simp only [Bool.and_eq_true, Bool.or_eq_true, beq_iff_eq, not_and, not_or]
      refine fun _ => ⟨?_, ?_⟩
      · rintro rfl
        simp [hquery] at hplain
      · rintro rfl
        simp [hquery] at hplain
    rw [List.cons_append, pathGo, if_neg (by simp [hslash]), if_neg hstop, percentChar, hplain]
    simp [ih _ hs]

theorem pathGo_segments {stops : Bool} {segs : List Text} {tail : Text} (done : List Text)
    (hsegment : IsCleanSegment special file segment)
    (hsegs : ∀ s ∈ segs, IsCleanSegment special file s) (htail : FollowsPath stops tail) :
    pathGo special file stops done [] (segment ++ (segs.flatMap ('/' :: ·) ++ tail)) =
      (done.reverse ++ segment :: segs, tail) := by
  induction segs generalizing segment done with
  | nil =>
    have hend : pathGo special file stops done segment.reverse tail =
        ((lastSegment file done segment).reverse, tail) := by
      obtain rfl | ⟨hstops, c, rest, rfl, hc⟩ := htail
      · rw [pathGo, List.reverse_reverse]
      · have hslash : isSlash special c = false := by
          obtain rfl | rfl := hc <;> cases special <;> rfl
        rw [pathGo, if_neg (by simp [hslash]), if_pos (by simpa [hstops] using hc),
          List.reverse_reverse]
    rw [List.flatMap_nil, List.nil_append, pathGo_chars done [] tail hsegment.chars,
      List.append_nil, hend, lastSegment_of_clean hsegment, List.reverse_cons]
  | cons s segs ih =>
    obtain ⟨hs, hsegs⟩ := List.forall_mem_cons.1 hsegs
    have hslash : isSlash special '/' = true := by cases special <;> rfl
    rw [pathGo_chars done [] _ hsegment.chars, List.append_nil, List.flatMap_cons,
      List.append_assoc, List.cons_append, pathGo, if_pos hslash, List.reverse_reverse, pushSegment_of_clean hsegment,
      ih _ hs hsegs, List.reverse_cons, List.append_assoc, List.singleton_append]

end Reading

/-- The segments of a path as they are left by reading one for a scheme. -/
structure IsCleanPath (scheme : Text) (segs : List Text) : Prop where
  segments : ∀ s ∈ segs, IsCleanSegment (isSpecialScheme scheme) (isFileScheme scheme) s
  front : isFileScheme scheme → dropEmptyFront segs = segs
  ne_nil : isSpecialScheme scheme → segs ≠ []

theorem dropEmptyFront_subset (segs : List Text) : dropEmptyFront segs ⊆ segs := by
  fun_induction dropEmptyFront segs with
  | case1 s rest ih => exact fun t ht => List.mem_cons_of_mem _ (ih ht)
  | case2 segs => exact fun t ht => ht

theorem dropEmptyFront_dropEmptyFront (segs : List Text) :
    dropEmptyFront (dropEmptyFront segs) = dropEmptyFront segs := by
  fun_induction dropEmptyFront segs with
  | case1 s rest ih => exact ih
  | case2 segs h => rw [dropEmptyFront.eq_def]; split <;> simp_all

theorem dropEmptyFront_ne_nil {segs : List Text} (h : segs ≠ []) : dropEmptyFront segs ≠ [] := by
  fun_induction dropEmptyFront segs with
  | case1 s rest ih => exact ih (List.cons_ne_nil s rest)
  | case2 segs => exact h

section Path
variable {scheme : Text} {stops : Bool}

theorem isCleanPath_parseSegments_below {done : List Text}
    (hdone : ∀ s ∈ done, IsCleanSegment (isSpecialScheme scheme) (isFileScheme scheme) s)
    (t : Text) :
    IsCleanPath scheme (parseSegments scheme stops done t).1 ∧
      (parseSegments scheme stops done t).1 ≠ [] := by
  have hclean : ∀ s ∈ (pathGo (isSpecialScheme scheme) (isFileScheme scheme) stops
      done.reverse [] t).1, IsCleanSegment (isSpecialScheme scheme) (isFileScheme scheme) s :=
    isClean_pathGo t (fun s hs => hdone s (List.mem_reverse.1 hs)) (by simp)
  have hne : (pathGo (isSpecialScheme scheme) (isFileScheme scheme) stops
      done.reverse [] t).1 ≠ [] := pathGo_ne_nil done.reverse [] t
  simp only [parseSegments]
  split
  · have hne := dropEmptyFront_ne_nil hne
    exact ⟨⟨fun s hs => hclean s (dropEmptyFront_subset _ hs),
      fun _ => dropEmptyFront_dropEmptyFront _, fun _ => hne⟩, hne⟩
  · rename_i hfile
    exact ⟨⟨hclean, fun h => absurd h hfile, fun _ => hne⟩, hne⟩

theorem isCleanPath_parseSegments (t : Text) :
    IsCleanPath scheme (parseSegments scheme stops [] t).1 ∧
      (parseSegments scheme stops [] t).1 ≠ [] :=
  isCleanPath_parseSegments_below (by simp) t

theorem isCleanPath_parsePathStart (t : Text) :
    IsCleanPath scheme (parsePathStart scheme stops t).1 := by
  have hempty (h : ¬isSpecialScheme scheme = true) : IsCleanPath scheme [] :=
    ⟨by simp, fun _ => rfl, fun h' => absurd h' h⟩
  rw [parsePathStart.eq_def]
  split
  · split
    · exact (isCleanPath_parseSegments []).1
    · split
      · exact (isCleanPath_parseSegments _).1
      · exact (isCleanPath_parseSegments _).1
  · rename_i hspecial
    split
    · exact hempty hspecial
    · split
      · exact hempty hspecial
      · split
        · exact (isCleanPath_parseSegments _).1
        · exact (isCleanPath_parseSegments _).1

theorem parsePathStart_text {segs : List Text} {tail : Text} (h : IsCleanPath scheme segs)
    (htail : FollowsPath stops tail) :
    parsePathStart scheme stops ((Path.segments segs).text ++ tail) = (segs, tail) := by
  cases segs with
  | nil =>
    have hspecial : ¬isSpecialScheme scheme = true := fun hs => h.ne_nil hs rfl
    rw [parsePathStart.eq_def, if_neg hspecial]
    obtain rfl | ⟨hstops, c, rest, rfl, hc⟩ := htail
    · rfl
    · have hstop : (stops && (c == '?' || c == '#')) = true := by simpa [hstops] using hc
      simp [Path.text, hstop]
  | cons s segs =>
    obtain ⟨hs, hsegs⟩ := List.forall_mem_cons.1 h.segments
    have hread : parseSegments scheme stops [] (s ++ (segs.flatMap ('/' :: ·) ++ tail)) =
        (s :: segs, tail) := by
      rw [parseSegments, List.reverse_nil, pathGo_segments [] hs hsegs htail]
      simp only [List.reverse_nil, List.nil_append]
      split
      · rename_i hfile
        rw [h.front hfile]
      · rfl
    have hslash : isSlash true '/' = true := rfl
    have hstop : ¬(stops && ('/' == '?' || '/' == '#')) = true := by cases stops <;> decide
    rw [Path.text, List.flatMap_cons, List.append_assoc, List.cons_append, parsePathStart.eq_def]
    split
    · simp only [hslash, if_true]
      exact hread
    · simp only [if_neg hstop, beq_self_eq_true, if_true]
      exact hread

end Path

end EndpointScout.Url
