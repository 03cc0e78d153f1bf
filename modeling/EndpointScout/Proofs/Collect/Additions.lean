import EndpointScout.Collect.Collector
import EndpointScout.Proofs.Store.Basic
import Mathlib.Data.List.TakeWhile

/-! What the other sources do to a store. They add behind what is there, count what they add, and
add nothing unless their request is answered by a document that they can read. -/
namespace EndpointScout

namespace Store

/-- A store after some offers, with the number of those that it took: they stand behind what was
there, in the order of the offers, and no offer is left without an entry of its key. -/
structure Takes (s : Store) (offered : List Candidate) (r : Store × Nat)
    (added : List Candidate) : Prop where
  entries : r.1.entries = s.entries ++ added
  count : r.2 = added.length
  sublist : added.Sublist offered
  covered : ∀ d ∈ offered, d.key ∈ r.1.entries.map Candidate.key

theorem takes_nothing (s : Store) : s.Takes [] (s, 0) [] :=
  ⟨(List.append_nil _).symm, rfl, .slnil, by simp⟩

theorem exists_takes_addCounting (s : Store) (cs : List Candidate) :
    ∃ added, s.Takes cs (s.addCounting cs) added := by
  induction cs generalizing s with
  | nil => exact ⟨[], s.takes_nothing⟩
  | cons c cs ih =>
    obtain ⟨added, hentries, hcount, hsublist, hcovered⟩ := ih (s.add c).1
    have hadd := s.entries_add c
    have hc : c.key ∈ (s.add c).1.entries.map Candidate.key := (s.mem_keys_add c c.key).2 (.inr rfl)
    have hkept : c.key ∈ ((s.add c).1.addCounting cs).1.entries.map Candidate.key := by
      rw [hentries, List.map_append]
      exact List.mem_append_left _ hc
    cases hstored : (s.add c).2 with
    | true =>
      refine ⟨c :: added, ?_, ?_, hsublist.cons_cons c, List.forall_mem_cons.2 ⟨hkept, hcovered⟩⟩
      · rw [addCounting, hentries, hadd, hstored]
        simp
      · simp [addCounting, hcount, hstored]
    | false =>
      refine ⟨added, ?_, ?_, hsublist.cons c, List.forall_mem_cons.2 ⟨hkept, hcovered⟩⟩
      · rw [addCounting, hentries, hadd, hstored]
        simp
      · simp [addCounting, hcount, hstored]

end Store

namespace Json.Value

theorem text?_eq_some_iff {v : Value} {t : Text} : v.text? = some t ↔ v = .string t := by
  cases v <;> simp [text?]

theorem items?_eq_some_iff {v : Value} {vs : List Value} : v.items? = some vs ↔ v = .array vs := by
  cases v <;> simp [items?]

end Json.Value

namespace Archive

theorem mapM_eq_some_iff {α β : Type} {f : α → Option β} {g : β → α}
    (h : ∀ x y, f x = some y ↔ x = g y) (xs : List α) (ys : List β) :
    xs.mapM f = some ys ↔ xs = ys.map g := by
  induction xs generalizing ys with
  | nil => cases ys <;> simp
  | cons x xs ih =>
    cases ys with
    | nil => simp [List.mapM_cons, Option.bind_eq_some_iff]
    | cons y ys => simp [List.mapM_cons, Option.bind_eq_some_iff, ih, h]

def rowsDocument (rows : List (List Text)) : Json.Value :=
  .array (rows.map fun cells => .array (cells.map .string))

theorem rowsOf?_eq_some_iff {v : Json.Value} {rows : List (List Text)} :
    rowsOf? v = some rows ↔ v = rowsDocument rows := by
  have hcells (v : Json.Value) (cells : List Text) :
      (v.items?.bind fun vs => vs.mapM Json.Value.text?) = some cells ↔
        v = .array (cells.map .string) := by
    simp [Option.bind_eq_some_iff, Json.Value.items?_eq_some_iff,
      mapM_eq_some_iff (fun _ _ => Json.Value.text?_eq_some_iff)]
  simp [rowsOf?, rowsDocument, Option.bind_eq_some_iff, Json.Value.items?_eq_some_iff,
    mapM_eq_some_iff hcells]

theorem rows?_eq_some_iff {t : Text} {rows : List (List Text)} :
    rows? t = some rows ↔ Json.parse t = .ok (rowsDocument rows) := by
  rw [rows?]
  cases Json.parse t with
  | error e => simp [Except.toOption]
  | ok v => simp [Except.toOption, rowsOf?_eq_some_iff]

def HoldsRows (bytes : Text.Utf8.Bytes) (rows : List (List Text)) : Prop :=
  ∃ t, Text.Utf8.decode? bytes = some t ∧ Json.parse t = .ok (rowsDocument rows)

end Archive

theorem Robots.mem_pathsGo {skip : Nat} {t path : Text} (h : path ∈ pathsGo skip t) :
    ∃ rest, path = '/' :: rest ∧ ∀ c ∈ rest, Text.isBlank c = false := by
  induction t generalizing skip with
  | nil => cases h
  | cons c t ih =>
    cases skip with
    | succ skip => exact ih h
    | zero =>
      rw [pathsGo] at h
      split at h
      · rename_i found hfound
        obtain rfl | h := List.mem_cons.1 h
        · rw [directive?] at hfound
          split at hfound
          · rename_i r _
            obtain rfl := Option.some.inj hfound
            exact ⟨_, rfl, fun c hc => by simpa using List.mem_takeWhile_imp hc⟩
          · cases hfound
        · exact ih h
      · exact ih h

theorem Robots.mem_paths {t path : Text} (h : path ∈ paths t) :
    ∃ rest, path = '/' :: rest ∧ ∀ c ∈ rest, Text.isBlank c = false := mem_pathsGo h

namespace Collector
open Web
variable (c : Collector) (site : Site) (target : Target) (log : Log) (s : Store)

def Brings (answer : Option Response) (r : Response) : Prop :=
  answer = some r ∧ 200 ≤ r.status ∧ r.status < 300

theorem brings_iff {answer : Option Response} {r : Response} :
    Brings answer r ↔ answer = some r ∧ r.isSuccess = true := by
  simp [Brings, Response.isSuccess]

def documentUrl (origin : Text) (name : String) : Text :=
  Text.dropEndWhile (· == '/') origin ++ '/' :: name.toList

def archiveAnswer (domain : Text) : Option Response :=
  (Archive.queryUrl c.archiveEndpoint domain).toOption.bind fun u =>
    (c.client.send site ⟨.get, c.archiveTimeout⟩ u log).1

variable {c site target log s}

theorem archiveRows_eq_some_iff {domain : Text} {rows : List (List Text)} :
    (c.archiveRows site domain log).1 = some rows ↔
      ∃ r, Brings (c.archiveAnswer site log domain) r ∧ Archive.HoldsRows r.content rows := by
  simp only [brings_iff, archiveRows, archiveAnswer, Archive.HoldsRows]
  cases Archive.queryUrl c.archiveEndpoint domain with
  | error e => simp [Except.toOption]
  | ok u =>
    simp only [Except.toOption, Option.bind_some]
    generalize c.client.send site ⟨.get, c.archiveTimeout⟩ u log = trip
    obtain ⟨answer, log'⟩ := trip
    cases answer with
    | none => simp
    | some r =>
      simp [and_assoc, Option.bind_eq_some_iff, Archive.rows?_eq_some_iff]

theorem exists_takes_offer {α : Type} {p : Candidate → Prop} (s : Store) (document : Option α)
    {candidates : α → List Candidate} (hp : ∀ d, ∀ e ∈ candidates d, p e) :
    ∃ offered added, s.Takes offered (offer s document candidates) added ∧
      (∀ e ∈ added, p e) ∧ (∀ d, document = some d → offered = candidates d) ∧
      (document = none → offer s document candidates = (s, 0)) := by
  cases document with
  | none => exact ⟨[], [], s.takes_nothing, by simp, by simp, fun _ => rfl⟩
  | some d =>
    obtain ⟨added, htakes⟩ := s.exists_takes_addCounting (candidates d)
    refine ⟨candidates d, added, htakes, ?_, ?_, by simp⟩
    · intro e he
      exact hp d e (htakes.sublist.subset he)
    · intro d' hd'
      rw [Option.some.inj hd']

section
variable [Environment]

theorem fetch_eq_some_iff {origin : Text} {name : String} {t : Text} :
    (c.fetch site origin name log).1 = some t ↔
      ∃ r, Brings (c.client.get site c.timeout (documentUrl origin name) log).1 r ∧ r.text = t := by
  simp only [brings_iff, fetch, documentUrl]
  generalize c.client.get site c.timeout _ log = trip
  obtain ⟨answer, log'⟩ := trip
  cases answer with
  | none => simp
  | some r => simp [and_assoc]

theorem fetch_eq_none {origin : Text} {name : String}
    (h : ∀ r, ¬Brings (c.client.get site c.timeout (documentUrl origin name) log).1 r) :
    (c.fetch site origin name log).1 = none := by
  rw [Option.eq_none_iff_forall_ne_some]
  intro t ht
  obtain ⟨r, hr, -⟩ := fetch_eq_some_iff.1 ht
  exact h r hr

/-- Whatever is answered: a collector puts new entries behind those of the store, which stay as
they are, and counts them. From a robots file they are paths, from a sitemap URLs in scope, and
from an archive endpoints of the target by their own form; what the document lists is not passed
over unless its key is taken. Without an answer of success, or if an archive's is no list of lists
of strings, the store stays as it is and nothing is counted. -/
theorem collectors_only_add (c : Collector) (site : Site) (target : Target) (log : Log)
    (s : Store) :
    (∀ origin, ∃ offered added, s.Takes offered (c.robots site origin log s).1 added ∧
      (∀ e ∈ added, e.source = .robots ∧ e.kind = .relative ∧ e.value.head? = some '/') ∧
      (∀ r, Brings (c.client.get site c.timeout (documentUrl origin "robots.txt") log).1 r →
        offered = Robots.candidates r.text) ∧
      ((∀ r, ¬Brings (c.client.get site c.timeout (documentUrl origin "robots.txt") log).1 r) →
        (c.robots site origin log s).1 = (s, 0))) ∧
    (∀ origin, ∃ offered added, s.Takes offered (c.sitemap site origin target log s).1 added ∧
      (∀ e ∈ added, e.source = .sitemap ∧ e.kind = .external ∧
        target.matchesText e.value = true) ∧
      (∀ r, Brings (c.client.get site c.timeout (documentUrl origin "sitemap.xml") log).1 r →
        offered = Sitemap.candidates target r.text) ∧
      ((∀ r, ¬Brings (c.client.get site c.timeout (documentUrl origin "sitemap.xml") log).1 r) →
        (c.sitemap site origin target log s).1 = (s, 0))) ∧
    ∀ domain, ∃ offered added, s.Takes offered (c.wayback site domain target log s).1 added ∧
      (∀ e ∈ added, e.source = .wayback ∧ target.accepts e.value = true ∧
        e.kind = Kind.classify e.value) ∧
      (∀ r rows, Brings (c.archiveAnswer site log domain) r → Archive.HoldsRows r.content rows →
        offered = Archive.candidates target rows) ∧
      ((∀ r rows, Brings (c.archiveAnswer site log domain) r →
        ¬Archive.HoldsRows r.content rows) → (c.wayback site domain target log s).1 = (s, 0)) := by
  refine ⟨fun origin => ?_, fun origin => ?_, fun domain => ?_⟩
  · have hpaths (t : Text) : ∀ e ∈ Robots.candidates t,
        e.source = .robots ∧ e.kind = .relative ∧ e.value.head? = some '/' := by
      refine List.forall_mem_map.2 fun path hpath => ?_
      obtain ⟨rest, rfl, -⟩ := Robots.mem_paths hpath
      exact ⟨rfl, rfl, rfl⟩
    obtain ⟨offered, added, htakes, hadded, hoffered, hnone⟩ :=
      exists_takes_offer s (c.fetch site origin "robots.txt" log).1 hpaths
    refine ⟨offered, added, htakes, hadded, fun r hr => ?_, fun h => hnone (fetch_eq_none h)⟩
    exact hoffered _ (fetch_eq_some_iff.2 ⟨r, hr, rfl⟩)
  · have hlocations (t : Text) : ∀ e ∈ Sitemap.candidates target t,
        e.source = .sitemap ∧ e.kind = .external ∧ target.matchesText e.value = true := by
      refine List.forall_mem_map.2 fun l hl => ?_
      exact ⟨rfl, rfl, (List.mem_filter.1 hl).2⟩
    obtain ⟨offered, added, htakes, hadded, hoffered, hnone⟩ :=
      exists_takes_offer s (c.fetch site origin "sitemap.xml" log).1 hlocations
    refine ⟨offered, added, htakes, hadded, fun r hr => ?_, fun h => hnone (fetch_eq_none h)⟩
    exact hoffered _ (fetch_eq_some_iff.2 ⟨r, hr, rfl⟩)
  · have hurls (rows : List (List Text)) : ∀ e ∈ Archive.candidates target rows,
        e.source = .wayback ∧ target.accepts e.value = true ∧
          e.kind = Kind.classify e.value := by
      refine List.forall_mem_map.2 fun v hv => ?_
      exact ⟨rfl, (List.mem_filter.1 hv).2, rfl⟩
    obtain ⟨offered, added, htakes, hadded, hoffered, hnone⟩ :=
      exists_takes_offer s (c.archiveRows site domain log).1 hurls
    refine ⟨offered, added, htakes, hadded, fun r rows hr hrows => ?_, fun h => hnone ?_⟩
    · exact hoffered _ (archiveRows_eq_some_iff.2 ⟨r, hr, hrows⟩)
    · rw [Option.eq_none_iff_forall_ne_some]
      intro rows hrows
      obtain ⟨r, hr, hholds⟩ := archiveRows_eq_some_iff.1 hrows
      exact h r rows hr hholds

end

def originCollector : Collector := ⟨⟨0⟩, 10000, "http://w.org".toList⟩

def listingSite : Site := .ofFunction fun r =>
  if r.url = "http://a.co/robots.txt".toList then
    .answered (.plain "Disallow: /admin\nDisallow: /admin/".toList)
  else if r.url = ("http://w.org/cdx/search/cdx?url=a.co%2F*" ++
      "&output=json&fl=original&collapse=urlkey").toList then
    .answered (.plain "[[\"original\"],[\"http://a.co/old\"],[\"http://b.org/new\"]]".toList)
  else .dropped

def listedStore : Store := Store.empty.addAll [⟨"/old".toList, .relative, .static, none, none⟩]

attribute [local instance] Environment.plain

theorem collectors_only_add_listing :
    (∃ added, listedStore.Takes
        (Robots.candidates "Disallow: /admin\nDisallow: /admin/".toList)
        (originCollector.robots listingSite "http://a.co/".toList [] listedStore).1 added ∧
      (∀ e ∈ added, e.value.head? = some '/')) ∧
    (originCollector.sitemap listingSite "http://a.co/".toList (.ofDomain "a.co".toList) []
      listedStore).1 = (listedStore, 0) ∧
    (∃ rows added, listedStore.Takes (Archive.candidates (.ofDomain "a.co".toList) rows)
        (originCollector.wayback listingSite "a.co".toList (.ofDomain "a.co".toList) []
          listedStore).1 added ∧
      rows.length = 3 ∧ added.map Candidate.value = ["http://a.co/old".toList]) ∧
    (originCollector.wayback listingSite "b.org".toList (.ofDomain "a.co".toList) []
      listedStore).1 = (listedStore, 0) := by
  obtain ⟨hrobots, hsitemap, hwayback⟩ := collectors_only_add originCollector listingSite
    (.ofDomain "a.co".toList) [] listedStore
  refine ⟨?_, ?_, ?_, ?_⟩
  · obtain ⟨offered, added, htakes, hadded, hoffered, -⟩ := hrobots "http://a.co/".toList
    have hbody : (originCollector.fetch listingSite "http://a.co/".toList "robots.txt" []).1 =
        some "Disallow: /admin\nDisallow: /admin/".toList := by decide +kernel
    obtain ⟨r, hr, htext⟩ := fetch_eq_some_iff.1 hbody
    rw [hoffered r hr, htext] at htakes
    exact ⟨added, htakes, fun e he => (hadded e he).2.2⟩
  · obtain ⟨_, _, -, -, -, hnone⟩ := hsitemap "http://a.co/".toList
    refine hnone fun r hr => ?_
    have hdropped : (originCollector.client.get listingSite originCollector.timeout
        (documentUrl "http://a.co/".toList "sitemap.xml") []).1 = none := by decide +kernel
    rw [Brings, hdropped] at hr
    cases hr.1
  · obtain ⟨offered, added, htakes, -, hoffered, -⟩ := hwayback "a.co".toList
    have hread : (originCollector.archiveRows listingSite "a.co".toList []).1 =
        some [["original".toList], ["http://a.co/old".toList], ["http://b.org/new".toList]] := by
      decide +kernel
    obtain ⟨r, hr, hrows⟩ := archiveRows_eq_some_iff.1 hread
    rw [hoffered r _ hr hrows] at htakes
    refine ⟨_, added, htakes, rfl, ?_⟩
    have hentries : (originCollector.wayback listingSite "a.co".toList (.ofDomain "a.co".toList) []
        listedStore).1.1.entries.map Candidate.value =
        listedStore.entries.map Candidate.value ++ ["http://a.co/old".toList] := by decide +kernel
    rw [htakes.entries, List.map_append] at hentries
    exact List.append_cancel_left hentries
  · obtain ⟨_, _, -, -, -, hnone⟩ := hwayback "b.org".toList
    refine hnone fun r rows hr hrows => ?_
    have hrefused : (originCollector.archiveRows listingSite "b.org".toList []).1 = none := by
      decide +kernel
    rw [archiveRows_eq_some_iff.2 ⟨r, hr, hrows⟩] at hrefused
    cases hrefused

end Collector

end EndpointScout
