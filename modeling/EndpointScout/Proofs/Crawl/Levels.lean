import EndpointScout.Proofs.Crawl.Distance
import EndpointScout.Proofs.Crawl.Visit
import EndpointScout.Proofs.Html.Links
import Mathlib.Data.Set.Card

/-! A crawl visits pages in the order of their distance from the first one. The levels of the
crawl are the spheres of the graph of links: before level `k` the visited pages are those at a
distance below `k`, and the frontier holds all pages at distance `k` and none beyond. -/
namespace EndpointScout.Crawler
open Crawl
section
variable [Environment] (c : Crawler) {site : Web.Site} (target : Target)

/-- The pages visited so far with their levels account for the whole state. -/
structure Trail (site : Web.Site) (pages : List (Text × Nat)) (s : State) : Prop where
  visited : s.visited.reverse = pages.map Prod.fst
  messages : s.messages.reverse = pages.flatMap fun p => c.pageMessages site target p.2 p.1
  fetches : s.fetches.reverse = pages.flatMap fun p => c.pageFetches site target p.1
  counted : s.summary.pagesVisited = pages.length

variable {c target} {pages : List (Text × Nat)} {s : State}

theorem Trail.visitPage (h : site.Stateless) (ht : c.Trail target site pages s) (level : Nat)
    (isLast : Bool) (url : Text) :
    c.Trail target site (pages ++ [(url, level)])
      (c.visitPage site target level isLast url s).1 := by
  have hp := c.fetcher.page_stateless h url s.log []
  rw [visitPage_eq, hp]
  constructor
  · simp [visitScripts_visited, arrive, ht.visited]
  · simp [visitScripts_messages, arrive, ht.messages, pageMessages, pageScripts, pageText]
  · simp [visitScripts_fetches, arrive, ht.fetches, pageFetches, pageScripts, pageText]
  · simp [visitScripts_pagesVisited, arrive, ht.counted]

theorem visitPage_visited (level : Nat) (isLast : Bool) (url : Text) :
    (c.visitPage site target level isLast url s).1.visited = url :: s.visited := by
  rw [visitPage_eq, visitScripts_visited]
  rfl

theorem Trail.visitLevel (h : site.Stateless) (ht : c.Trail target site pages s) (level : Nat)
    (isLast : Bool) (urls : List Text) :
    c.Trail target site
      (pages ++ (Html.withoutDuplicates s.visited urls).map fun u => (u, level))
      (c.visitLevel site target level isLast urls s).1 := by
  induction urls generalizing s pages with
  | nil => simpa [Crawler.visitLevel, Html.withoutDuplicates] using ht
  | cons url urls ih =>
    rw [Crawler.visitLevel, Html.withoutDuplicates]
    split
    · exact ih ht
    · have hl := ih (ht.visitPage h level isLast url)
      rw [visitPage_visited] at hl
      simpa using hl

theorem visitLevel_visited (level : Nat) (isLast : Bool) (urls : List Text) :
    (c.visitLevel site target level isLast urls s).1.visited =
      (Html.withoutDuplicates s.visited urls).reverse ++ s.visited := by
  induction urls generalizing s with
  | nil => simp [Crawler.visitLevel, Html.withoutDuplicates]
  | cons url urls ih =>
    rw [Crawler.visitLevel, Html.withoutDuplicates]
    split
    · exact ih
    · simp [ih, visitPage_visited]

theorem links_of_mem_visitLevel (h : site.Stateless) (level : Nat) (urls : List Text) {v : Text}
    (hv : v ∈ (c.visitLevel site target level false urls s).2) :
    ∃ u ∈ urls, u ∉ s.visited ∧ c.Links site target u v := by
  induction urls generalizing s with
  | nil => simp [Crawler.visitLevel] at hv
  | cons url urls ih =>
    rw [Crawler.visitLevel] at hv
    split at hv
    · obtain ⟨u, hu, hn, hl⟩ := ih hv
      exact ⟨u, List.mem_cons_of_mem url hu, hn, hl⟩
    · rename_i hurl
      obtain hv | hv := List.mem_append.mp hv
      · rw [visitPage_eq, c.fetcher.page_stateless h url s.log []] at hv
        exact ⟨url, List.mem_cons_self, hurl, (List.mem_filter.mp hv).1⟩
      · obtain ⟨u, hu, hn, hl⟩ := ih hv
        rw [visitPage_visited] at hn
        exact ⟨u, List.mem_cons_of_mem url hu, fun hs => hn (List.mem_cons_of_mem url hs), hl⟩

theorem mem_visitLevel_of_links (h : site.Stateless) (level : Nat) (urls : List Text) {u v : Text}
    (hu : u ∈ urls) (hs : u ∉ s.visited) (hl : c.Links site target u v)
    (hv : v ∉ (c.visitLevel site target level false urls s).1.visited) :
    v ∈ (c.visitLevel site target level false urls s).2 := by
  induction urls generalizing s with
  | nil => simp at hu
  | cons url urls ih =>
    rw [Crawler.visitLevel] at hv ⊢
    split at hv
    · rename_i hurl
      rw [if_pos hurl]
      have hne : u ≠ url := fun he => hs (he ▸ hurl)
      exact ih ((List.mem_cons.mp hu).resolve_left hne) hs hv
    · rename_i hurl
      rw [if_neg hurl]
      rw [visitLevel_visited, visitPage_visited] at hv
      have hvn : v ∉ url :: s.visited := fun hm => hv (List.mem_append_right _ hm)
      by_cases he : u = url
      · subst he
        apply List.mem_append_left
        rw [visitPage_eq, c.fetcher.page_stateless h u s.log []]
        exact List.mem_filter.mpr ⟨hl, by simpa using hvn⟩
      · apply List.mem_append_right
        apply ih ((List.mem_cons.mp hu).resolve_left he)
        · rw [visitPage_visited]
          simp [he, hs]
        · rw [visitLevel_visited, visitPage_visited]
          exact hv

/-- Every page nearer than `k`, and no other, has been visited, once and on the level of its
distance. -/
structure Explored (c : Crawler) (target : Target) (site : Web.Site) (start : Text) (k : Nat)
    (pages : List (Text × Nat)) (s : State) : Prop where
  trail : c.Trail target site pages s
  nodup : (pages.map Prod.fst).Nodup
  mem_iff : ∀ u n, (u, n) ∈ pages ↔ n < k ∧ IsDistance (c.Links site target) start u n

/-- The frontier in front of level `k`: all pages at this distance, and none farther away. It
may hold pages that have been visited or that it holds already. -/
structure Frontier (c : Crawler) (target : Target) (site : Web.Site) (start : Text) (k : Nat)
    (urls : List Text) : Prop where
  reached : ∀ u ∈ urls, Chain (c.Links site target) k start u
  complete : ∀ u, IsDistance (c.Links site target) start u k → u ∈ urls

variable {start : Text} {k : Nat} {urls : List Text}

theorem Explored.visited_iff (he : Explored c target site start k pages s) (u : Text) :
    u ∈ s.visited ↔ ∃ n < k, IsDistance (c.Links site target) start u n := by
  rw [← List.mem_reverse, he.trail.visited, List.mem_map]
  constructor
  · rintro ⟨⟨u, n⟩, hp, rfl⟩
    exact ⟨n, (he.mem_iff u n).mp hp⟩
  · rintro ⟨n, hn⟩
    exact ⟨(u, n), (he.mem_iff u n).mpr hn, rfl⟩

theorem Explored.mem_new_iff (he : Explored c target site start k pages s)
    (hf : Frontier c target site start k urls) (u : Text) :
    u ∈ urls ∧ u ∉ s.visited ↔ IsDistance (c.Links site target) start u k := by
  rw [he.visited_iff]
  constructor
  · rintro ⟨hu, hn⟩
    obtain ⟨m, hm, hd⟩ := (hf.reached u hu).exists_isDistance
    obtain hlt | hge := Nat.lt_or_ge m k
    · exact absurd ⟨m, hlt, hd⟩ hn
    · rwa [Nat.le_antisymm hm hge] at hd
  · intro hd
    refine ⟨hf.complete u hd, ?_⟩
    rintro ⟨n, hn, hd'⟩
    have := hd.unique hd'
    omega

theorem Explored.visitLevel (h : site.Stateless) (he : Explored c target site start k pages s)
    (hf : Frontier c target site start k urls) (isLast : Bool) :
    ∃ pages', Explored c target site start (k + 1) pages'
      (c.visitLevel site target k isLast urls s).1 := by
  refine ⟨_, he.trail.visitLevel h k isLast urls, ?_, ?_⟩
  · rw [List.map_append, List.map_map, ← he.trail.visited]
    have hn : (s.visited.reverse).Nodup := he.trail.visited ▸ he.nodup
    apply List.nodup_append.mpr ⟨hn, by
      simpa [Function.comp_def] using Html.nodup_withoutDuplicates _ _, ?_⟩
    rintro a ha b hb rfl
    have hb' : a ∈ Html.withoutDuplicates s.visited urls := by simpa using hb
    exact ((Html.mem_withoutDuplicates _ _ _).mp hb').2 (List.mem_reverse.mp ha)
  · intro u n
    rw [List.mem_append, he.mem_iff]
    have hnew : (u, n) ∈ (Html.withoutDuplicates s.visited urls).map (fun u => (u, k)) ↔
        n = k ∧ IsDistance (c.Links site target) start u k := by
      rw [← he.mem_new_iff hf, ← Html.mem_withoutDuplicates]
      simp [eq_comm, and_comm]
    rw [hnew]
    constructor
    · rintro (⟨hn, hd⟩ | ⟨rfl, hd⟩)
      · exact ⟨by omega, hd⟩
      · exact ⟨by omega, hd⟩
    · rintro ⟨hn, hd⟩
      obtain hlt | hge := Nat.lt_or_ge n k
      · exact Or.inl ⟨hlt, hd⟩
      · have hnk : n = k := by omega
        exact Or.inr ⟨hnk, hnk ▸ hd⟩

theorem Frontier.visitLevel (h : site.Stateless) (he : Explored c target site start k pages s)
    (hf : Frontier c target site start k urls) :
    Frontier c target site start (k + 1) (c.visitLevel site target k false urls s).2 := by
  obtain ⟨pages', he'⟩ := he.visitLevel h hf false
  constructor
  · intro v hv
    obtain ⟨u, hu, hn, hl⟩ := links_of_mem_visitLevel h k urls hv
    exact ⟨u, ((he.mem_new_iff hf u).mp ⟨hu, hn⟩).chain, hl⟩
  · intro v hd
    obtain ⟨u, hu, hl⟩ := hd.exists_pred
    obtain ⟨hmem, hn⟩ := (he.mem_new_iff hf u).mpr hu
    apply mem_visitLevel_of_links h k urls hmem hn hl
    rw [he'.visited_iff]
    rintro ⟨n, hn, hd'⟩
    have := hd.unique hd'
    omega

theorem visitLevel_of_empty (he : Explored c target site start k pages s)
    (hf : Frontier c target site start k urls)
    (hempty : ∀ u, ¬IsDistance (c.Links site target) start u k) (isLast : Bool) :
    c.visitLevel site target k isLast urls s = (s, []) := by
  have hall : ∀ u ∈ urls, u ∈ s.visited := by
    intro u hu
    by_contra hn
    exact hempty u ((he.mem_new_iff hf u).mp ⟨hu, hn⟩)
  clear hf
  induction urls with
  | nil => rfl
  | cons url urls ih =>
    rw [Crawler.visitLevel, if_pos (hall url List.mem_cons_self)]
    exact ih fun u hu => hall u (List.mem_cons_of_mem url hu)

theorem visitLevels_nil (remaining level : Nat) :
    c.visitLevels site target remaining level [] s = s := by
  cases remaining <;> rfl

theorem visitLevels_zero (level : Nat) (urls : List Text) :
    c.visitLevels site target 0 level urls s =
      (c.visitLevel site target level true urls s).1 := by
  cases urls <;> rfl

theorem visitLevels_succ (remaining level : Nat) (urls : List Text) :
    c.visitLevels site target (remaining + 1) level urls s =
      c.visitLevels site target remaining (level + 1)
        (c.visitLevel site target level false urls s).2
        (c.visitLevel site target level false urls s).1 := by
  cases urls with
  | nil => rw [visitLevels_nil, Crawler.visitLevel, visitLevels_nil]
  | cons url urls => rfl

theorem Explored.visitLevels (h : site.Stateless) (he : Explored c target site start k pages s)
    (hf : Frontier c target site start k urls) (remaining : Nat) :
    ∃ pages', Explored c target site start (k + remaining + 1) pages'
      (c.visitLevels site target remaining k urls s) := by
  induction remaining generalizing k urls pages s with
  | zero =>
    rw [visitLevels_zero]
    exact he.visitLevel h hf true
  | succ remaining ih =>
    rw [visitLevels_succ]
    obtain ⟨pages', he'⟩ := he.visitLevel h hf false
    have hk : k + (remaining + 1) + 1 = k + 1 + remaining + 1 := by omega
    rw [hk]
    exact ih he' (hf.visitLevel h he)

theorem visitLevels_of_empty (he : Explored c target site start k pages s)
    (hf : Frontier c target site start k urls)
    (hempty : ∀ u, ¬IsDistance (c.Links site target) start u k) (remaining : Nat) :
    c.visitLevels site target remaining k urls s = s := by
  cases remaining with
  | zero => rw [visitLevels_zero, visitLevel_of_empty he hf hempty]
  | succ remaining =>
    rw [visitLevels_succ, visitLevel_of_empty he hf hempty, visitLevels_nil]

theorem visitLevel_fst_eq (level : Nat) (isLast : Bool) (urls : List Text) :
    (c.visitLevel site target level isLast urls s).1 =
      (c.visitLevel site target level false urls s).1 := by
  induction urls generalizing s with
  | nil => rfl
  | cons url urls ih =>
    simp only [Crawler.visitLevel]
    split
    · exact ih
    · simp only [visitPage_eq]
      exact ih

theorem visitLevels_add_of_empty (h : site.Stateless)
    (he : Explored c target site start k pages s) (hf : Frontier c target site start k urls)
    (remaining : Nat)
    (hempty : ∀ u, ¬IsDistance (c.Links site target) start u (k + remaining + 1)) (more : Nat) :
    c.visitLevels site target (remaining + more) k urls s =
      c.visitLevels site target remaining k urls s := by
  induction remaining generalizing k urls pages s with
  | zero =>
    cases more with
    | zero => rfl
    | succ more =>
      obtain ⟨pages', he'⟩ := he.visitLevel h hf false
      rw [visitLevels_zero, visitLevel_fst_eq, Nat.zero_add, visitLevels_succ]
      exact visitLevels_of_empty he' (hf.visitLevel h he) hempty more
  | succ remaining ih =>
    obtain ⟨pages', he'⟩ := he.visitLevel h hf false
    have hr : remaining + 1 + more = remaining + more + 1 := by omega
    rw [hr, visitLevels_succ, visitLevels_succ]
    apply ih he' (hf.visitLevel h he)
    have hk : k + 1 + remaining + 1 = k + (remaining + 1) + 1 := by omega
    rwa [hk]

theorem visitLevel_withDepth (depth level : Nat) (isLast : Bool) (urls : List Text) :
    Crawler.visitLevel { c with maxDepth := depth } site target level isLast urls s =
      c.visitLevel site target level isLast urls s := by
  induction urls generalizing s with
  | nil => rfl
  | cons url urls ih =>
    simp only [Crawler.visitLevel]
    have hp : Crawler.visitPage { c with maxDepth := depth } site target level isLast url s =
        c.visitPage site target level isLast url s := rfl
    rw [hp, ih, ih]

theorem visitLevels_withDepth (depth remaining level : Nat) (urls : List Text) :
    Crawler.visitLevels { c with maxDepth := depth } site target remaining level urls s =
      c.visitLevels site target remaining level urls s := by
  induction remaining generalizing level urls s with
  | zero => rw [visitLevels_zero, visitLevels_zero, visitLevel_withDepth]
  | succ remaining ih => rw [visitLevels_succ, visitLevels_succ, ih, visitLevel_withDepth]

theorem explored_start (start : Text) (log : Web.Log) (store : Store) :
    Explored c target site start 0 [] (State.start log store) :=
  ⟨⟨rfl, rfl, rfl, rfl⟩, List.nodup_nil, by simp⟩

theorem frontier_start (start : Text) : Frontier c target site start 0 [start] := by
  constructor
  · intro u hu
    exact (List.mem_singleton.mp hu).symm
  · intro u hu
    exact List.mem_singleton.mpr hu.chain.symm

/-- A crawl from a URL of any site that answers requests by a fixed function: the pages are
fetched one after another, each once with its scripts and on the level of its distance from the
first page, and they are exactly the pages at a distance of at most the depth. From the level on
that no page belongs to, a greater depth makes no difference at all. -/
theorem crawl_visits_by_distance (c : Crawler) (f : Web.Request → Web.Delivery) (url : Text)
    (start : Url) (hurl : Url.parse url = .ok start) (log : Web.Log) (store : Store) :
    let site := Web.Site.ofFunction f
    let target := Target.ofUrl start
    let distance := IsDistance (c.Links site target) start.text
    ∃ (s : State) (pages : List (Text × Nat)), c.crawl site url log store = .ok s ∧
      (pages.map Prod.fst).Nodup ∧
      (∀ u n, (u, n) ∈ pages ↔ n ≤ c.maxDepth ∧ distance u n) ∧
      s.visited.reverse = pages.map Prod.fst ∧
      s.fetches.reverse = pages.flatMap (fun p =>
        .page p.1 :: (c.pageScripts site target p.1).map .script) ∧
      s.messages.reverse = pages.flatMap (fun p =>
        pageMessage p.2 p.1 :: (c.pageScripts site target p.1).map scriptMessage) ∧
      {u | ∃ n ≤ c.maxDepth, distance u n}.encard = s.summary.pagesVisited ∧
      ∀ k ≤ c.maxDepth, (∀ u, ¬distance u (k + 1)) → ∀ more,
        Crawler.crawl { c with maxDepth := k + more } site url log store = .ok s := by
  intro site target distance
  have hsite : site.Stateless := fun _ _ _ => rfl
  have hstart : Explored c target site start.text 0 [] (State.start log store) :=
    explored_start start.text log store
  have hfront : Frontier c target site start.text 0 [start.text] := frontier_start start.text
  obtain ⟨pages, hend⟩ := hstart.visitLevels hsite hfront c.maxDepth
  rw [Nat.zero_add] at hend
  have hmem : ∀ u n, (u, n) ∈ pages ↔ n ≤ c.maxDepth ∧ distance u n := fun u n => by
    rw [hend.mem_iff, Nat.lt_succ_iff]
  refine ⟨_, pages, by rw [crawl, hurl]; rfl, hend.nodup, hmem, hend.trail.visited,
    hend.trail.fetches, hend.trail.messages, ?_, ?_⟩
  · have hset : {u | ∃ n ≤ c.maxDepth, distance u n} = {u | u ∈ pages.map Prod.fst} := by
      ext u
      simp only [Set.mem_ofPred_eq, List.mem_map, Prod.exists, exists_and_right, exists_eq_right,
        hmem]
    rw [hset, hend.trail.counted, ← List.coe_toFinset, Set.encard_coe_eq_coe_finsetCard,
      List.toFinset_card_of_nodup hend.nodup, List.length_map]
  · intro k hk hempty more
    -- Both depths are past the last page, so that both crawls end where the one of depth `k` does.
    have hdepth (d : Nat) (hd : k ≤ d) :
        c.visitLevels site target d 0 [start.text] (State.start log store) =
          c.visitLevels site target k 0 [start.text] (State.start log store) := by
      obtain ⟨e, rfl⟩ := Nat.exists_eq_add_of_le hd
      exact visitLevels_add_of_empty hsite hstart hfront k (by simpa using hempty) e
    rw [crawl, hurl]
    simp only [crawlFrom, visitLevels_withDepth]
    exact congrArg Except.ok ((hdepth (k + more) (by omega)).trans (hdepth c.maxDepth hk).symm)

end

def linkingToB : Web.Request → Web.Delivery := fun _ =>
  .answered (.plain "<a href=b>".toList)

def crawlerToFive : Crawler := ⟨⟨⟨0⟩, ⟨0⟩, 10000, 8000⟩, {}, 5⟩

def pageA : Url :=
  ⟨"http".toList, some ⟨[], [], some (.domain "a.co".toList), none⟩, false, .segments [[]], none,
    none⟩

attribute [local instance] Environment.plain

theorem linkingToB_two_links (u : Text) :
    ¬IsDistance (crawlerToFive.Links (.ofFunction linkingToB) (Target.ofUrl pageA))
      pageA.text u 2 := by
  rintro ⟨⟨w, ⟨v, rfl, hw⟩, hu⟩, hmin⟩
  have hlinks : Html.pageLinks (crawlerToFive.pageText (.ofFunction linkingToB) pageA.text)
      pageA.text (Target.ofUrl pageA) = ["http://a.co/b".toList] := by decide +kernel
  obtain rfl : w = "http://a.co/b".toList := List.mem_singleton.mp (hlinks ▸ hw)
  have hlinks' : Html.pageLinks
      (crawlerToFive.pageText (.ofFunction linkingToB) "http://a.co/b".toList)
      "http://a.co/b".toList (Target.ofUrl pageA) = ["http://a.co/b".toList] := by decide +kernel
  obtain rfl : u = "http://a.co/b".toList := List.mem_singleton.mp (hlinks' ▸ hu)
  have := hmin 1 ⟨_, rfl, hw⟩
  omega

theorem crawl_visits_by_distance_toB :
    Url.parse "http://a.co/".toList = .ok pageA ∧ 1 ≤ crawlerToFive.maxDepth ∧
    (∀ u, ¬IsDistance (crawlerToFive.Links (.ofFunction linkingToB) (Target.ofUrl pageA))
      pageA.text u (1 + 1)) ∧
    ∃ s, crawlerToFive.crawl (.ofFunction linkingToB) "http://a.co/".toList [] Store.empty =
        .ok s ∧
      Crawler.crawl { crawlerToFive with maxDepth := 1 + 2 ^ 64 } (.ofFunction linkingToB)
        "http://a.co/".toList [] Store.empty = .ok s := by
  have hurl : Url.parse "http://a.co/".toList = .ok pageA := by decide +kernel
  obtain ⟨s, pages, hs, -, -, -, -, -, -, hstop⟩ :=
    crawl_visits_by_distance crawlerToFive linkingToB _ _ hurl [] Store.empty
  exact ⟨hurl, by decide, linkingToB_two_links, s, hs,
    hstop 1 (by decide) linkingToB_two_links (2 ^ 64)⟩

end EndpointScout.Crawler
