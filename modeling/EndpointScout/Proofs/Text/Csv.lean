import EndpointScout.Text.Basic
import Mathlib.Data.List.Forall2

/-! Tables as text, with commas between the fields of a row and a line feed behind each row: what
a table looks like, a reader that takes one character after another, and their agreement. -/
namespace EndpointScout.Csv

def isSpecial (c : Char) : Bool := c == ',' || c == '"' || c == '\n' || c == '\r'

def doubled (t : Text) : Text := t.flatMap fun c => if c = '"' then ['"', '"'] else [c]

/-- A field is written bare, or in quotes with its own quotes doubled. -/
inductive IsField : Text → Text → Prop
  | bare {t : Text} (h : ∀ c ∈ t, isSpecial c = false) : IsField t t
  | quoted (t : Text) : IsField ('"' :: (doubled t ++ ['"'])) t

def IsRow (us fs : List Text) : Prop := us ≠ [] ∧ List.Forall₂ IsField us fs

def rowText (us : List Text) : Text := Text.join [','] us ++ ['\n']

def IsTable (t : Text) (rows : List (List Text)) : Prop :=
  ∃ uss, List.Forall₂ IsRow uss rows ∧ t = uss.flatMap rowText

/-- Where the reader stands: before a field, in a bare one, between quotes, or behind a quote
that ends the field unless another one follows. -/
inductive Place where
  | start
  | bare
  | quoted
  | closed
deriving DecidableEq

/-- The rest of the field at hand, the later fields of its row, and the later rows. -/
structure Remainder where
  field : Text
  fields : List Text
  rows : List (List Text)

namespace Remainder

def push (c : Char) (x : Remainder) : Remainder := { x with field := c :: x.field }

def append (f : Text) (x : Remainder) : Remainder := { x with field := f ++ x.field }

def nextField (x : Remainder) : Remainder := ⟨[], x.field :: x.fields, x.rows⟩

def table (x : Remainder) : List (List Text) := (x.field :: x.fields) :: x.rows

def ofRows (rows : List (List Text)) : Remainder := ⟨[], [], rows⟩

end Remainder

open Remainder

def readFrom : Place → Text → Option Remainder
  | _, [] => none
  | .quoted, c :: t => if c = '"' then readFrom .closed t else (readFrom .quoted t).map (push c)
  | place, c :: t =>
    if c = ',' then (readFrom .start t).map nextField
    else if c = '\n' then
      (if t.isEmpty then some [] else (readFrom .start t).map table).map ofRows
    else if c = '"' then
      match place with
      | .start => readFrom .quoted t
      | .closed => (readFrom .quoted t).map (push '"')
      | _ => none
    else if c = '\r' || place == .closed then none
    else (readFrom .bare t).map (push c)

def read (t : Text) : Option (List (List Text)) :=
  if t.isEmpty then some [] else (readFrom .start t).map table

section Written
variable {place : Place} {u f t : Text} {s : Char}

theorem readFrom_comma (h : place ≠ .quoted) (t : Text) :
    readFrom place (',' :: t) = (readFrom .start t).map nextField := by
  cases place <;> first | rfl | exact absurd rfl h

theorem readFrom_newline (h : place ≠ .quoted) (t : Text) :
    readFrom place ('\n' :: t) = (read t).map ofRows := by
  cases place <;> first | rfl | exact absurd rfl h

theorem readFrom_mark (h : place ≠ .quoted) (hs : s = ',' ∨ s = '\n') (t : Text) :
    readFrom place (s :: t) = readFrom .bare (s :: t) := by
  obtain rfl | rfl := hs
  · rw [readFrom_comma h, readFrom_comma (by decide)]
  · rw [readFrom_newline h, readFrom_newline (by decide)]

theorem readFrom_plain {c : Char} (hc : isSpecial c = false) (h : place = .start ∨ place = .bare)
    (t : Text) : readFrom place (c :: t) = (readFrom .bare t).map (push c) := by
  simp only [isSpecial, Bool.or_eq_false_iff, beq_eq_false_iff_ne] at hc
  obtain ⟨⟨⟨hcomma, hquote⟩, hfeed⟩, hreturn⟩ := hc
  obtain rfl | rfl := h <;> simp [readFrom, hcomma, hquote, hfeed, hreturn]

theorem readFrom_bare_append (hu : ∀ c ∈ u, isSpecial c = false) (t : Text) :
    readFrom .bare (u ++ t) = (readFrom .bare t).map (append u) := by
  induction u with
  | nil => exact Option.map_id'.symm
  | cons c u ih =>
    obtain ⟨hc, hu⟩ := List.forall_mem_cons.1 hu
    rw [List.cons_append, readFrom_plain hc (.inr rfl), ih hu, Option.map_map]
    rfl

theorem readFrom_quoted (f t : Text) :
    readFrom .quoted (doubled f ++ '"' :: t) = (readFrom .closed t).map (append f) := by
  induction f with
  | nil => exact Option.map_id'.symm
  | cons c f ih =>
    have hstep : readFrom .quoted (doubled (c :: f) ++ '"' :: t) =
        (readFrom .quoted (doubled f ++ '"' :: t)).map (push c) := by
      by_cases hc : c = '"'
      · simp [doubled, readFrom, hc]
      · simp [doubled, readFrom, hc]
    rw [hstep, ih, Option.map_map]
    rfl

theorem readFrom_field (hf : IsField u f) (hs : s = ',' ∨ s = '\n') (t : Text) :
    readFrom .start (u ++ s :: t) = (readFrom .bare (s :: t)).map (append f) := by
  cases hf with
  | quoted =>
    have hclosed : readFrom .closed (s :: t) = readFrom .bare (s :: t) :=
      readFrom_mark (by decide) hs t
    rw [List.cons_append, List.append_assoc, ← hclosed, ← readFrom_quoted]
    rfl
  | bare hu =>
    cases u with
    | nil =>
      rw [← readFrom_bare_append hu]
      exact readFrom_mark (by decide) hs t
    | cons c u =>
      have hc : isSpecial c = false := hu c List.mem_cons_self
      rw [← readFrom_bare_append hu, List.cons_append, readFrom_plain hc (.inl rfl),
        readFrom_plain hc (.inr rfl)]

theorem readFrom_rowText {us fs : List Text} (hf : IsField u f) (h : List.Forall₂ IsField us fs)
    (t : Text) :
    readFrom .start (rowText (u :: us) ++ t) = (read t).map fun rows => ⟨f, fs, rows⟩ := by
  induction h generalizing u f with
  | nil =>
    have htext : rowText [u] ++ t = u ++ '\n' :: t := by simp [rowText, Text.join]
    rw [htext, readFrom_field hf (.inr rfl), readFrom_newline (by decide), Option.map_map]
    simp [Function.comp_def, append, ofRows]
  | @cons v g us fs hg _ ih =>
    have htext : rowText (u :: v :: us) ++ t = u ++ ',' :: (rowText (v :: us) ++ t) := by
      simp [rowText, Text.join]
    rw [htext, readFrom_field hf (.inl rfl), readFrom_comma (by decide), ih hg, Option.map_map,
      Option.map_map]
    simp [Function.comp_def, append, nextField]

theorem read_rowText {us fs : List Text} (h : IsRow us fs) (t : Text) :
    read (rowText us ++ t) = (read t).map (fs :: ·) := by
  obtain ⟨hne, hfields⟩ := h
  cases hfields with
  | nil => exact absurd rfl hne
  | @cons u f us fs hf hfields =>
    have hnonempty : (rowText (u :: us) ++ t).isEmpty = false := by simp [rowText]
    rw [read, hnonempty, readFrom_rowText hf hfields, Option.map_map]
    rfl

theorem read_of_isTable {rows : List (List Text)} (h : IsTable t rows) : read t = some rows := by
  obtain ⟨uss, hrows, rfl⟩ := h
  induction hrows with
  | nil => rfl
  | cons hrow _ ih => rw [List.flatMap_cons, read_rowText hrow, ih, Option.map_some]

end Written

section Reading
variable {place : Place} {u f : Text}

def EndsField : Place → Text → Text → Prop
  | .start, u, f => IsField u f
  | .bare, u, f => u = f ∧ ∀ c ∈ u, isSpecial c = false
  | .quoted, u, f => u = doubled f ++ ['"']
  | .closed, u, f => (u = [] ∧ f = []) ∨ ∃ g, f = '"' :: g ∧ u = '"' :: (doubled g ++ ['"'])

theorem endsField_nil (h : place ≠ .quoted) : EndsField place [] [] := by
  cases place with
  | start => exact .bare (by simp)
  | bare => exact ⟨rfl, by simp⟩
  | quoted => exact absurd rfl h
  | closed => exact .inl ⟨rfl, rfl⟩

theorem EndsField.openQuote (h : EndsField .quoted u f) : EndsField .start ('"' :: u) f := by
  obtain rfl : u = doubled f ++ ['"'] := h
  exact .quoted f

theorem EndsField.closeQuote (h : EndsField .closed u f) : EndsField .quoted ('"' :: u) f := by
  obtain ⟨rfl, rfl⟩ | ⟨g, rfl, rfl⟩ := h <;> simp [EndsField, doubled]

theorem EndsField.doubleQuote (h : EndsField .quoted u f) :
    EndsField .closed ('"' :: u) ('"' :: f) := by
  obtain rfl : u = doubled f ++ ['"'] := h
  exact .inr ⟨f, rfl, rfl⟩

theorem EndsField.consQuoted {c : Char} (hc : c ≠ '"') (h : EndsField .quoted u f) :
    EndsField .quoted (c :: u) (c :: f) := by
  obtain rfl : u = doubled f ++ ['"'] := h
  simp [EndsField, doubled, hc]

theorem EndsField.consBare {c : Char} (hc : isSpecial c = false)
    (hplace : place = .start ∨ place = .bare) (h : EndsField .bare u f) :
    EndsField place (c :: u) (c :: f) := by
  obtain ⟨rfl, hu⟩ := h
  have hcu : ∀ d ∈ c :: u, isSpecial d = false := List.forall_mem_cons.2 ⟨hc, hu⟩
  obtain rfl | rfl := hplace
  · exact .bare hcu
  · exact ⟨rfl, hcu⟩

inductive Step (t : Text) : Place → Char → Remainder → Prop
  | openQuote {x : Remainder} : readFrom .quoted t = some x → Step t .start '"' x
  | closeQuote {x : Remainder} : readFrom .closed t = some x → Step t .quoted '"' x
  | doubleQuote {x : Remainder} : readFrom .quoted t = some x → Step t .closed '"' (x.push '"')
  | quoted {x : Remainder} {c : Char} : c ≠ '"' → readFrom .quoted t = some x →
    Step t .quoted c (x.push c)
  | bare {place : Place} {x : Remainder} {c : Char} : isSpecial c = false →
    place = .start ∨ place = .bare → readFrom .bare t = some x → Step t place c (x.push c)
  | comma {place : Place} {x : Remainder} : place ≠ .quoted → readFrom .start t = some x →
    Step t place ',' x.nextField
  | newline {place : Place} {rows : List (List Text)} : place ≠ .quoted → read t = some rows →
    Step t place '\n' (ofRows rows)

theorem step_of_readFrom {c : Char} {t : Text} {x : Remainder}
    (h : readFrom place (c :: t) = some x) : Step t place c x := by
  -- Between quotes only a quote means anything, and everywhere else every mark does.
  by_cases hquoted : place = .quoted
  · subst hquoted
    by_cases hc : c = '"'
    · subst hc
      exact .closeQuote (by simpa [readFrom] using h)
    · obtain ⟨y, hy, rfl⟩ := Option.map_eq_some_iff.1 (by simpa [readFrom, hc] using h)
      exact .quoted hc hy
  by_cases hcomma : c = ','
  · subst hcomma
    rw [readFrom_comma hquoted] at h
    obtain ⟨y, hy, rfl⟩ := Option.map_eq_some_iff.1 h
    exact .comma hquoted hy
  by_cases hfeed : c = '\n'
  · subst hfeed
    rw [readFrom_newline hquoted] at h
    obtain ⟨rows, hrows, rfl⟩ := Option.map_eq_some_iff.1 h
    exact .newline hquoted hrows
  by_cases hquote : c = '"'
  · subst hquote
    cases place with
    | start => exact .openQuote (by simpa [readFrom] using h)
    | bare => simp [readFrom] at h
    | quoted => exact absurd rfl hquoted
    | closed =>
      obtain ⟨y, hy, rfl⟩ := Option.map_eq_some_iff.1 (by simpa [readFrom] using h)
      exact .doubleQuote hy
  by_cases hreturn : c = '\r'
  · subst hreturn
    cases place <;> simp [readFrom] at h hquoted
  have hc : isSpecial c = false := by simp [isSpecial, hcomma, hquote, hfeed, hreturn]
  have hplace : place = .start ∨ place = .bare := by
    cases place with
    | start => exact .inl rfl
    | bare => exact .inr rfl
    | quoted => exact absurd rfl hquoted
    | closed => simp [readFrom, hcomma, hquote, hfeed, hreturn] at h
  rw [readFrom_plain hc hplace] at h
  obtain ⟨y, hy, rfl⟩ := Option.map_eq_some_iff.1 h
  exact .bare hc hplace hy

/-- The text is what is left to be written from a place, and says what remains. -/
def Spells (place : Place) (t : Text) (x : Remainder) : Prop :=
  ∃ u us uss, EndsField place u x.field ∧ List.Forall₂ IsField us x.fields ∧
    List.Forall₂ IsRow uss x.rows ∧
    t = u ++ (us.flatMap (',' :: ·) ++ '\n' :: uss.flatMap rowText)

theorem rowText_cons (u : Text) (us : List Text) :
    rowText (u :: us) = u ++ (us.flatMap (',' :: ·) ++ ['\n']) := by
  induction us generalizing u with
  | nil => rfl
  | cons v us ih =>
    have hv := ih v
    simp only [rowText, Text.join, List.append_assoc, List.flatMap_cons] at hv ⊢
    rw [hv]
    simp

theorem Spells.isTable {t : Text} {x : Remainder} (h : Spells .start t x) : IsTable t x.table := by
  obtain ⟨u, us, uss, hu, hus, huss, rfl⟩ := h
  have hrow : IsRow (u :: us) (x.field :: x.fields) := ⟨List.cons_ne_nil u us, .cons hu hus⟩
  exact ⟨(u :: us) :: uss, .cons hrow huss, by simp [rowText_cons]⟩

theorem Spells.cons {place' : Place} {c : Char} {t : Text} {x : Remainder} (h : Spells place t x)
    (hfield : ∀ u, EndsField place u x.field → EndsField place' (c :: u) f) :
    Spells place' (c :: t) { x with field := f } := by
  obtain ⟨u, us, uss, hu, hus, huss, rfl⟩ := h
  exact ⟨c :: u, us, uss, hfield u hu, hus, huss, rfl⟩

theorem isTable_of_spells {t : Text} {rows : List (List Text)}
    (h : ∀ x, readFrom .start t = some x → Spells .start t x) (hread : read t = some rows) :
    IsTable t rows := by
  cases t with
  | nil =>
    obtain rfl : [] = rows := Option.some.inj hread
    exact ⟨[], .nil, rfl⟩
  | cons c t =>
    obtain ⟨x, hx, rfl⟩ := Option.map_eq_some_iff.1 hread
    exact (h x hx).isTable

theorem spells_of_readFrom {t : Text} {x : Remainder} (h : readFrom place t = some x) :
    Spells place t x := by
  -- Each step but a mark lengthens the field at hand; a mark puts an empty one in front.
  induction t generalizing place x with
  | nil => cases place <;> simp [readFrom] at h
  | cons c t ih =>
    cases step_of_readFrom h with
    | openQuote hx => exact (ih hx).cons fun _ hu => hu.openQuote
    | closeQuote hx => exact (ih hx).cons fun _ hu => hu.closeQuote
    | doubleQuote hx => exact (ih hx).cons fun _ hu => hu.doubleQuote
    | quoted hc hx => exact (ih hx).cons fun _ hu => hu.consQuoted hc
    | bare hc hplace hx => exact (ih hx).cons fun _ hu => hu.consBare hc hplace
    | comma hplace hx =>
      obtain ⟨u, us, uss, hu, hus, huss, rfl⟩ := ih hx
      exact ⟨[], u :: us, uss, endsField_nil hplace, .cons hu hus, huss, by simp⟩
    | newline hplace hrows =>
      obtain ⟨uss, huss, rfl⟩ := isTable_of_spells (fun _ hx => ih hx) hrows
      exact ⟨[], [], uss, endsField_nil hplace, .nil, huss, rfl⟩

end Reading

/-- The reader takes the tables and nothing else, and every table says one thing only. -/
theorem read_eq_some_iff {t : Text} {rows : List (List Text)} :
    read t = some rows ↔ IsTable t rows :=
  ⟨isTable_of_spells fun _ hx => spells_of_readFrom hx, read_of_isTable⟩

example : read "a,\"b\"\"\n\"\n,\n".toList =
    some [["a".toList, "b\"\n".toList], [[], []]] := by decide

example : read "a\"b\n".toList = none := by decide

end EndpointScout.Csv
