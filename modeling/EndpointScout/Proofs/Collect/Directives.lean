import EndpointScout.Proofs.Collect.Additions
import EndpointScout.Proofs.Text.Ascii
import EndpointScout.Proofs.Text.Split

/-! Robots files line by line. Nothing is read across the end of a line, so that the paths of a
file are those of its lines, and the collector keeps the first of each class of paths. -/
namespace EndpointScout

theorem eraseDupsBy_loop_cons {α : Type} (r : α → α → Bool) (x : α) (xs kept : List α) :
    List.eraseDupsBy.loop r (x :: xs) kept =
      if kept.any (r x) then List.eraseDupsBy.loop r xs kept
      else List.eraseDupsBy.loop r xs (x :: kept) := by
  rw [List.eraseDupsBy.loop.eq_def]
  cases h : kept.any (r x) <;> simp [h]

theorem eraseDupsBy_map {α β : Type} (f : α → β) (r : β → β → Bool) (xs : List α) :
    (xs.map f).eraseDupsBy r = (xs.eraseDupsBy fun x y => r (f x) (f y)).map f := by
  have hloop (xs kept : List α) : List.eraseDupsBy.loop r (xs.map f) (kept.map f) =
      (List.eraseDupsBy.loop (fun x y => r (f x) (f y)) xs kept).map f := by
    induction xs generalizing kept with
    | nil => simp [List.eraseDupsBy.loop]
    | cons x xs ih =>
      have hany : (kept.map f).any (r (f x)) = kept.any fun y => r (f x) (f y) := by
        rw [List.any_map, Function.comp_def]
      rw [List.map_cons, eraseDupsBy_loop_cons, eraseDupsBy_loop_cons, hany, ih,
        ← List.map_cons, ih]
      split <;> rfl
  exact hloop xs []

namespace Store

theorem entries_addCounting_loop (cs kept : List Candidate) {s : Store}
    (hs : s.entries = kept.reverse) :
    (s.addCounting cs).1.entries =
      List.eraseDupsBy.loop (fun c d => decide (c.key = d.key)) cs kept := by
  induction cs generalizing s kept with
  | nil => simp [addCounting, List.eraseDupsBy.loop, hs]
  | cons c cs ih =>
    have htaken : kept.any (fun d => decide (c.key = d.key)) = true ↔
        c.key ∈ s.entries.map Candidate.key := by
      rw [hs, List.map_reverse, List.mem_reverse, List.any_eq_true, List.mem_map]
      simp only [decide_eq_true_eq, @eq_comm _ c.key]
    rw [addCounting, eraseDupsBy_loop_cons]
    by_cases hkey : c.key ∈ s.entries.map Candidate.key
    · rw [if_pos (htaken.2 hkey), add_of_mem_keys hkey]
      exact ih kept hs
    · rw [if_neg fun h => hkey (htaken.1 h)]
      refine ih (c :: kept) ?_
      rw [entries_add, add_snd, if_pos (decide_eq_true hkey), hs, List.reverse_cons]

theorem entries_addCounting_empty (cs : List Candidate) :
    (empty.addCounting cs).1.entries = cs.eraseDupsBy fun c d => decide (c.key = d.key) :=
  entries_addCounting_loop cs [] rfl

end Store

namespace Robots
variable {name gap path tail line t rest : Text} {c : Char}

def IsName (name : Text) : Prop := name.map foldChar = "disallow:".toList

def IsGap (gap : Text) : Prop := ∀ c ∈ gap, c = ' ' ∨ c = '\t'

structure IsPath (path rest : Text) : Prop where
  head : path.head? = some '/'
  solid : ∀ c ∈ path, Text.isBlank c = false
  ends : ∀ c, rest.head? = some c → Text.isBlank c

theorem IsName.length_eq (h : IsName name) : name.length = 9 := by
  have hlength := congrArg List.length h
  rwa [List.length_map] at hlength

theorem IsName.notMem (h : IsName name) (hc : foldChar c ∉ "disallow:".toList) : c ∉ name :=
  fun hm => hc (h ▸ List.mem_map_of_mem hm)

theorem IsGap.notMem (h : IsGap gap) (hspace : c ≠ ' ') (htab : c ≠ '\t') : c ∉ gap :=
  fun hm => (h c hm).elim hspace htab

theorem afterName?_eq_some_iff :
    afterName? t = some rest ↔ ∃ name, IsName name ∧ t = name ++ rest := by
  rw [afterName?]
  constructor
  · intro h
    split at h
    · rename_i hname
      cases h
      exact ⟨t.take 9, beq_iff_eq.1 hname, (List.take_append_drop 9 t).symm⟩
    · cases h
  · rintro ⟨name, hname, rfl⟩
    have htake : (name ++ rest).take "disallow:".toList.length = name :=
      List.take_left' hname.length_eq
    have hdrop : (name ++ rest).drop "disallow:".toList.length = rest :=
      List.drop_left' hname.length_eq
    simp only [htake, hdrop]
    exact if_pos (beq_iff_eq.2 hname)

theorem IsPath.exists_cons (h : IsPath path rest) : ∃ r, path = '/' :: r := by
  cases path with
  | nil => cases h.head
  | cons c r => exact ⟨r, by rw [Option.some.inj h.head]⟩

theorem IsGap.dropWhile_append (hgap : IsGap gap) (hpath : IsPath path rest) :
    (gap ++ (path ++ rest)).dropWhile (fun c => c == ' ' || c == '\t') = path ++ rest := by
  obtain ⟨r, rfl⟩ := hpath.exists_cons
  refine Text.dropWhile_append_of_head (fun c hc => ?_) (fun c hc => ?_)
  · simpa using hgap c hc
  · obtain rfl := Option.some.inj hc
    decide

theorem IsPath.takeWhile_append (h : IsPath path rest) :
    (path ++ rest).takeWhile (fun c => !Text.isBlank c) = path := by
  refine Text.takeWhile_append_of_head (fun c hc => ?_) (fun c hc => ?_)
  · simp [h.solid c hc]
  · simp [h.ends c hc]

/-- A directive at the front of a text: its name, a gap on the same line, and a path. -/
theorem directive?_eq_some_iff :
    directive? t = some path ↔ ∃ name gap rest, IsName name ∧ IsGap gap ∧ IsPath path rest ∧
      t = name ++ (gap ++ (path ++ rest)) := by
  constructor
  · intro h
    rw [directive?] at h
    split at h
    · rename_i r hfound
      obtain rfl := Option.some.inj h
      obtain ⟨after, hafter, hdrop⟩ := Option.map_eq_some_iff.1 hfound
      obtain ⟨name, hname, rfl⟩ := afterName?_eq_some_iff.1 hafter
      refine ⟨name, after.takeWhile fun c => c == ' ' || c == '\t',
        r.dropWhile fun c => !Text.isBlank c, hname, ?_, ⟨rfl, ?_, ?_⟩, ?_⟩
      · intro c hc
        simpa using List.mem_takeWhile_imp hc
      · refine List.forall_mem_cons.2 ⟨by decide, fun c hc => ?_⟩
        simpa using List.mem_takeWhile_imp hc
      · intro c hc
        have hstop := List.head?_dropWhile_not (fun c => !Text.isBlank c) r
        rw [hc] at hstop
        simpa using hstop
      · rw [List.cons_append, List.takeWhile_append_dropWhile, ← hdrop,
          List.takeWhile_append_dropWhile]
    · cases h
  · rintro ⟨name, gap, rest, hname, hgap, hpath, rfl⟩
    have hafter : afterName? (name ++ (gap ++ (path ++ rest))) = some (gap ++ (path ++ rest)) :=
      afterName?_eq_some_iff.2 ⟨name, hname, rfl⟩
    have htake := hpath.takeWhile_append
    rw [directive?, hafter, Option.map_some, hgap.dropWhile_append hpath]
    obtain ⟨r, rfl⟩ := hpath.exists_cons
    rw [List.cons_append, List.takeWhile_cons_of_pos (by decide)] at htake
    exact congrArg some htake

theorem pathsGo_eq_drop (skip : Nat) (t : Text) : pathsGo skip t = paths (t.drop skip) := by
  induction t generalizing skip with
  | nil => simp [pathsGo, paths]
  | cons c t ih =>
    cases skip with
    | zero => rfl
    | succ skip => exact ih skip

theorem paths_of_directive? (h : directive? (c :: t) = none) : paths (c :: t) = paths t := by
  rw [paths, pathsGo, h, paths]

theorem paths_directive (hname : IsName name) (hgap : IsGap gap) (hpath : IsPath path rest) :
    paths (name ++ (gap ++ (path ++ rest))) = path :: paths rest := by
  have hdirective := directive?_eq_some_iff.2 ⟨name, gap, rest, hname, hgap, hpath, rfl⟩
  have hdrop : (name ++ (gap ++ (path ++ rest))).drop 9 = gap ++ (path ++ rest) :=
    List.drop_left' hname.length_eq
  have hskip : directiveLength (name ++ (gap ++ (path ++ rest))) path =
      (name ++ (gap ++ path)).length := by
    have htake := congrArg List.length (List.takeWhile_append_dropWhile
      (p := fun c => c == ' ' || c == '\t') (l := gap ++ (path ++ rest)))
    rw [hgap.dropWhile_append hpath] at htake
    simp only [List.length_append, hname.length_eq] at htake ⊢
    simp only [directiveLength, hdrop]
    omega
  generalize htext : name ++ (gap ++ (path ++ rest)) = t at *
  cases t with
  | nil =>
    have hlength := congrArg List.length htext
    simp [hname.length_eq] at hlength
  | cons c t =>
    have hrest : t.drop ((name ++ (gap ++ path)).length - 1) = rest := by
      have hwhole : (c :: t).drop (name ++ (gap ++ path)).length = rest := by
        have hsplit : c :: t = (name ++ (gap ++ path)) ++ rest := by
          simp only [← htext, List.append_assoc]
        rw [hsplit, List.drop_left]
      have hpos : (name ++ (gap ++ path)).length = (name ++ (gap ++ path)).length - 1 + 1 := by
        rw [List.length_append, hname.length_eq]
        omega
      rwa [hpos, List.drop_succ_cons] at hwhole
    rw [paths, pathsGo, hdirective]
    simp only [hskip, pathsGo_eq_drop, hrest]

def IsLineEnd (c : Char) : Prop := c = '\n' ∨ c = '\r'

theorem IsLineEnd.isBlank (h : IsLineEnd c) : Text.isBlank c := by
  rcases h with rfl | rfl <;> decide

theorem IsLineEnd.notMem_name (h : IsLineEnd c) (hname : IsName name) : c ∉ name :=
  hname.notMem (by rcases h with rfl | rfl <;> decide)

theorem IsLineEnd.notMem_gap (h : IsLineEnd c) (hgap : IsGap gap) : c ∉ gap := by
  rcases h with rfl | rfl
  · exact hgap.notMem (by decide) (by decide)
  · exact hgap.notMem (by decide) (by decide)

theorem IsLineEnd.notMem_path (h : IsLineEnd c) (hpath : IsPath path rest) : c ∉ path := by
  intro hc
  have hblank := h.isBlank
  rw [hpath.solid c hc] at hblank
  cases hblank

theorem IsPath.append (hpath : IsPath path rest) (h : IsLineEnd c) (t : Text) :
    IsPath path (rest ++ c :: t) := by
  refine ⟨hpath.head, hpath.solid, fun d hd => ?_⟩
  cases rest with
  | nil =>
    obtain rfl := Option.some.inj hd
    exact h.isBlank
  | cons e rest => exact hpath.ends d hd

theorem paths_lineEnd (h : IsLineEnd c) (t : Text) : paths (c :: t) = paths t := by
  refine paths_of_directive? (Option.eq_none_iff_forall_ne_some.2 fun path hpath => ?_)
  obtain ⟨name, gap, rest, hname, -, -, ht⟩ := directive?_eq_some_iff.1 hpath
  cases name with
  | nil => cases hname.length_eq
  | cons d name =>
    obtain rfl := (List.cons.inj ht).1
    exact h.notMem_name hname List.mem_cons_self

theorem directive?_append (h : IsLineEnd c) (s t : Text) :
    directive? (s ++ c :: t) = directive? s := by
  ext path
  rw [directive?_eq_some_iff, directive?_eq_some_iff]
  constructor
  · rintro ⟨name, gap, rest, hname, hgap, hpath, hs⟩
    have hfront : c ∉ name ++ (gap ++ path) := by
      simp only [List.mem_append, not_or]
      exact ⟨h.notMem_name hname, h.notMem_gap hgap, h.notMem_path hpath⟩
    have hcut : s ++ c :: t = (name ++ (gap ++ path)) ++ rest := by
      simp only [hs, List.append_assoc]
    -- The line end is none of the characters of the directive, which so lies in front of it.
    obtain ⟨r, hr, hc⟩ | ⟨r, rfl, rfl⟩ := List.append_eq_append_iff.1 hcut
    · cases r with
      | nil =>
        rw [List.append_nil] at hr
        exact ⟨name, gap, [], hname, hgap, ⟨hpath.head, hpath.solid, by simp⟩, by simp [← hr]⟩
      | cons d r =>
        obtain rfl := (List.cons.inj hc).1
        exact absurd (by simp [hr]) hfront
    · refine ⟨name, gap, r, hname, hgap, ⟨hpath.head, hpath.solid, fun d hd => ?_⟩, by simp⟩
      cases r with
      | nil => cases hd
      | cons e r => exact hpath.ends d hd
  · rintro ⟨name, gap, rest, hname, hgap, hpath, rfl⟩
    exact ⟨name, gap, rest ++ c :: t, hname, hgap, hpath.append h t, by simp⟩

theorem paths_append (h : IsLineEnd c) (s t : Text) : paths (s ++ c :: t) = paths s ++ paths t := by
  induction hn : s.length using Nat.strong_induction_on generalizing s with
  | _ n ih =>
    cases s with
    | nil => exact paths_lineEnd h t
    | cons d s =>
      cases hdirective : directive? (d :: s) with
      | none =>
        have hwhole : directive? (d :: (s ++ c :: t)) = none := by
          rw [← List.cons_append, directive?_append h, hdirective]
        rw [List.cons_append, paths_of_directive? hwhole, paths_of_directive? hdirective,
          ih s.length (by simp [← hn]) s rfl]
      | some path =>
        obtain ⟨name, gap, rest, hname, hgap, hpath, hs⟩ := directive?_eq_some_iff.1 hdirective
        have hshorter : rest.length < n := by
          rw [← hn, hs]
          simp only [List.length_append, hname.length_eq]
          omega
        have hassoc : d :: s ++ c :: t = name ++ (gap ++ (path ++ (rest ++ c :: t))) := by
          simp only [hs, List.append_assoc]
        rw [hassoc, paths_directive hname hgap (hpath.append h t), hs,
          paths_directive hname hgap hpath, ih rest.length hshorter rest rfl, List.cons_append]

def HasDirective (t : Text) : Prop :=
  ∃ before name gap after, IsName name ∧ IsGap gap ∧ t = before ++ (name ++ (gap ++ '/' :: after))

/-- A line and the path that it names, if it names one: a directive with perhaps a comment behind
white space, or a line without directives. -/
inductive IsLine : Text → List Text → Prop
  | directive {name gap path comment : Text}
      (hname : name.map Text.asciiLowerChar = "disallow:".toList) (hgap : IsGap gap)
      (hpath : IsPath path comment) (hcomment : ¬∃ name, IsName name ∧ name <:+: comment) :
      IsLine (name ++ (gap ++ (path ++ comment))) [path]
  | other {line : Text} (h : ¬HasDirective line) : IsLine line []

/-- A file of lines, and the paths that they name. -/
inductive IsFile : Text → List Text → Prop
  | last {line : Text} {ps : List Text} (h : IsLine line ps) : IsFile line ps
  | line {line lineEnd rest : Text} {ps qs : List Text} (h : IsLine line ps)
      (hend : lineEnd ∈ [['\n'], ['\r', '\n'], ['\r']]) (hrest : IsFile rest qs) :
      IsFile (line ++ (lineEnd ++ rest)) (ps ++ qs)

theorem isName_of_ascii (h : name.map Text.asciiLowerChar = "disallow:".toList) : IsName name := by
  rw [IsName, ← h]
  refine List.map_congr_left fun c hc => ?_
  have hlower : Text.asciiLowerChar c ∈ "disallow:".toList := h ▸ List.mem_map_of_mem hc
  rw [foldChar, if_neg]
  intro hlong
  have hc : c = Char.ofNat 0x17F := by rw [← beq_iff_eq.1 hlong, Char.ofNat_toNat]
  rw [hc] at hlower
  revert hlower
  decide

theorem not_hasDirective_of_notMem (h : '/' ∉ t) : ¬HasDirective t := by
  rintro ⟨before, name, gap, after, -, -, rfl⟩
  simp at h

theorem not_hasDirective_of_empty (hname : IsName name) (hgap : IsGap gap) :
    ¬HasDirective (name ++ gap) := by
  apply not_hasDirective_of_notMem
  intro hslash
  obtain h | h := List.mem_append.1 hslash
  · exact hname.notMem (by decide) h
  · exact hgap.notMem (by decide) (by decide) h

theorem paths_of_not_hasDirective (h : ¬HasDirective t) : paths t = [] := by
  induction t with
  | nil => rfl
  | cons c t ih =>
    rw [paths_of_directive?]
    · refine ih fun ⟨before, name, gap, after, hname, hgap, ht⟩ => h ?_
      exact ⟨c :: before, name, gap, after, hname, hgap, by rw [ht, List.cons_append]⟩
    · refine Option.eq_none_iff_forall_ne_some.2 fun path hpath => h ?_
      obtain ⟨name, gap, rest, hname, hgap, hpath, ht⟩ := directive?_eq_some_iff.1 hpath
      obtain ⟨r, rfl⟩ := hpath.exists_cons
      exact ⟨[], name, gap, r ++ rest, hname, hgap, ht⟩

theorem IsLine.paths_eq {ps : List Text} (h : IsLine t ps) : paths t = ps := by
  cases h with
  | directive hname hgap hpath hcomment =>
    rw [paths_directive (isName_of_ascii hname) hgap hpath, paths_of_not_hasDirective]
    rintro ⟨before, name, gap, after, hname, -, ht⟩
    exact hcomment ⟨name, hname, before, gap ++ '/' :: after, by rw [ht, List.append_assoc]⟩
  | other h => exact paths_of_not_hasDirective h

theorem IsFile.paths_eq {ps : List Text} (h : IsFile t ps) : paths t = ps := by
  induction h with
  | last h => exact h.paths_eq
  | line h hend hrest ih =>
    simp only [List.mem_cons, List.not_mem_nil, or_false] at hend
    obtain rfl | rfl | rfl := hend
    · rw [List.singleton_append, paths_append (.inl rfl), h.paths_eq, ih]
    · rw [List.cons_append, paths_append (.inr rfl), List.singleton_append,
        paths_lineEnd (.inl rfl), h.paths_eq, ih]
    · rw [List.singleton_append, paths_append (.inr rfl), h.paths_eq, ih]

end Robots

namespace Collector
open Candidate (normalizePath)

def pathEntry (path : Text) : Candidate := { value := path, kind := .relative, source := .robots }

/-- Whatever else a robots file says: of the paths that its lines name, the collector stores the
first of each class, in their order and as they are written, and tells their number. An empty
directive is a line that names none. -/
theorem robots_reads_lines [Environment] (c : Collector) (site : Web.Site) (origin : Text)
    (log : Web.Log) {r : Web.Response}
    (hr : Brings (c.client.get site c.timeout (documentUrl origin "robots.txt") log).1 r)
    {ps : List Text} (hlines : Robots.IsFile r.text ps) :
    (c.robots site origin log Store.empty).1.1.entries =
      (ps.eraseDupsBy fun p q => normalizePath p == normalizePath q).map pathEntry ∧
    (c.robots site origin log Store.empty).1.2 =
      (ps.eraseDupsBy fun p q => normalizePath p == normalizePath q).length ∧
    ∀ name gap, Robots.IsName name → Robots.IsGap gap → Robots.IsLine (name ++ gap) [] := by
  have hfetch : (c.fetch site origin "robots.txt" log).1 = some r.text :=
    fetch_eq_some_iff.2 ⟨r, hr, rfl⟩
  have hoffer : (c.robots site origin log Store.empty).1 =
      Store.empty.addCounting (ps.map pathEntry) := by
    change offer Store.empty (c.fetch site origin "robots.txt" log).1 Robots.candidates = _
    rw [hfetch, offer, Robots.candidates, hlines.paths_eq]
    rfl
  have hkey (p q : Text) : decide ((pathEntry p).key = (pathEntry q).key) =
      (normalizePath p == normalizePath q) := by
    rw [Bool.eq_iff_iff, decide_eq_true_eq, beq_iff_eq]
    simp [pathEntry, Candidate.key]
  have hentries : (c.robots site origin log Store.empty).1.1.entries =
      (ps.eraseDupsBy fun p q => normalizePath p == normalizePath q).map pathEntry := by
    rw [hoffer, Store.entries_addCounting_empty, eraseDupsBy_map]
    simp only [hkey]
  refine ⟨hentries, ?_, fun name gap hname hgap =>
    .other (Robots.not_hasDirective_of_empty hname hgap)⟩
  obtain ⟨added, htakes⟩ := Store.empty.exists_takes_addCounting (ps.map pathEntry)
  rw [hoffer] at hentries ⊢
  have hadded : added = (ps.eraseDupsBy fun p q => normalizePath p == normalizePath q).map
      pathEntry := htakes.entries.symm.trans hentries
  rw [htakes.count, hadded, List.length_map]

def staffFile : Text := ("User-agent: *\r\nDISALLOW:\t/Staff # not: for you\n" ++
  "Disallow:\n/free\ndisallow:/Staff/").toList

theorem isFile_staffFile : Robots.IsFile staffFile ["/Staff".toList, "/Staff/".toList] := by
  have hshort : ¬Robots.HasDirective "/free".toList := by
    rintro ⟨before, name, gap, after, hname, -, hline⟩
    have hlength := congrArg List.length hline
    simp only [List.length_append, hname.length_eq] at hlength
    change 5 = _ at hlength
    omega
  have hnoName : ¬∃ name, Robots.IsName name ∧ name <:+: " # not: for you".toList := by
    rintro ⟨name, hname, hpart⟩
    have hletter : 'l' ∈ name.map Robots.foldChar := hname ▸ by decide
    obtain ⟨c, hc, hfold⟩ := List.mem_map.1 hletter
    have hnone : ∀ c ∈ " # not: for you".toList, Robots.foldChar c ≠ 'l' :=
      Text.forall_of_all (by decide)
    exact hnone c (hpart.subset hc) hfold
  have hempty : ¬∃ name, Robots.IsName name ∧ name <:+: ([] : Text) := by
    rintro ⟨name, hname, hpart⟩
    have hlength := hname.length_eq
    rw [List.eq_nil_of_infix_nil hpart] at hlength
    cases hlength
  have hpath (path : Text) (rest : Text) (hhead : path.head? = some '/')
      (hsolid : path.all fun c => !Text.isBlank c)
      (hends : rest.head?.all Text.isBlank) : Robots.IsPath path rest :=
    ⟨hhead, fun c hc => by simpa using List.all_eq_true.1 hsolid c hc, fun c hc => by
      simpa [hc] using hends⟩
  have huser : Robots.IsLine "User-agent: *".toList [] :=
    .other (Robots.not_hasDirective_of_notMem (by decide))
  have hstaff : Robots.IsLine ("DISALLOW:".toList ++ (['\t'] ++ ("/Staff".toList ++
      " # not: for you".toList))) ["/Staff".toList] :=
    .directive (by decide) (by simp [Robots.IsGap]) (hpath _ _ rfl (by decide) (by decide)) hnoName
  have hblank : Robots.IsLine "Disallow:".toList [] :=
    .other (Robots.not_hasDirective_of_notMem (by decide))
  have hagain : Robots.IsLine ("disallow:".toList ++ ([] ++ ("/Staff/".toList ++ [])))
      ["/Staff/".toList] :=
    .directive (by decide) (by simp [Robots.IsGap]) (hpath _ _ rfl (by decide) (by decide)) hempty
  exact .line huser (.tail _ (.head _)) (.line hstaff (.head _)
    (.line hblank (.head _) (.line (.other hshort) (.head _) (.last hagain))))

def staffSite : Web.Site := .ofFunction fun r =>
  if r.url = "http://a.co/robots.txt".toList then .answered (.plain staffFile) else .dropped

attribute [local instance] Environment.plain

theorem robots_reads_lines_staff :
    Robots.IsFile staffFile ["/Staff".toList, "/Staff/".toList] ∧
    (originCollector.robots staffSite "http://a.co".toList [] Store.empty).1.1.entries =
      [pathEntry "/Staff".toList] ∧
    (originCollector.robots staffSite "http://a.co".toList [] Store.empty).1.2 = 1 := by
  have hbody : (originCollector.fetch staffSite "http://a.co".toList "robots.txt" []).1 =
      some staffFile := by decide +kernel
  obtain ⟨r, hr, htext⟩ := fetch_eq_some_iff.1 hbody
  obtain ⟨hentries, hcount, -⟩ := robots_reads_lines originCollector staffSite
    "http://a.co".toList [] hr (htext ▸ isFile_staffFile)
  have hkept : (["/Staff".toList, "/Staff/".toList] : List Text).eraseDupsBy
      (fun p q => normalizePath p == normalizePath q) = ["/Staff".toList] := by decide +kernel
  rw [hkept] at hentries hcount
  exact ⟨isFile_staffFile, hentries, hcount⟩

end Collector

end EndpointScout
