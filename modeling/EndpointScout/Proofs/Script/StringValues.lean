import EndpointScout.Proofs.Script.Readings

/-! Strings of a script, from the quote that opens them to the one that closes them: the grammars
cut every string of the language into pieces, and the text of these is its value unless an escape
sequence goes astray. -/
namespace EndpointScout.Script
open Text.Utf16 (units unitsOf units_append units_cons units_injective)

def isPlainIn (quote c : Char) : Bool := !(c == quote || c == '\\' || c == '\r' || c == '\n')

/-- A string of the language, behind the quote that opens it: the code units that are its value,
and the text behind the quote that closes it. -/
inductive Denotes (quote : Char) : Text → List Nat → Text → Prop
  | close (t : Text) : Denotes quote (quote :: t) [] t
  | plain {c : Char} {t rest : Text} {us : List Nat} (hc : isPlainIn quote c = true)
      (h : Denotes quote t us rest) : Denotes quote (c :: t) (unitsOf c.toNat ++ us) rest
  | escape {t u rest : Text} {us vs : List Nat} (he : escapeUnits? t = some (us, u))
      (h : Denotes quote u vs rest) : Denotes quote ('\\' :: t) (us ++ vs) rest

/-- A string as the grammars cut it. -/
inductive Pieces (quote : Char) : Text → List Syntax → Text → Prop
  | close (t : Text) : Pieces quote (quote :: t) [] t
  | fragment {s t rest : Text} {ps : List Syntax} (hs : ∀ c ∈ s, isPlainIn quote c = true)
      (h : Pieces quote t ps rest) :
      Pieces quote (s ++ t) (.node none "string_fragment" s [] :: ps) rest
  | escape {t e r rest : Text} {ps : List Syntax}
      (he : Lexeme.escape? ('\\' :: t) = some (e, r)) (h : Pieces quote r ps rest) :
      Pieces quote ('\\' :: t) (.node none "escape_sequence" e [] :: ps) rest

def Syntax.IsAstray (p : Syntax) : Prop := p.kind = "escape_sequence" ∧ Astray p.text

theorem not_isAstray_fragment (s : Text) :
    ¬Syntax.IsAstray (.node none "string_fragment" s []) := by
  simp [Syntax.IsAstray, Syntax.kind]

theorem isAstray_escape (e : Text) :
    Syntax.IsAstray (.node none "escape_sequence" e []) ↔ Astray e := and_iff_right rfl

theorem quote_ne_backslash {quote : Char} (h : quote = '"' ∨ quote = '\'') : quote ≠ '\\' := by
  obtain rfl | rfl := h <;> decide

section Values
variable {quote : Char} {t rest : Text} {us : List Nat} {ps : List Syntax}

theorem isPlainIn_iff {c : Char} :
    isPlainIn quote c = true ↔ (c ≠ quote ∧ c ≠ '\\') ∧ c ≠ '\r' ∧ c ≠ '\n' := by
  simp [isPlainIn, and_assoc]

theorem Denotes.of_append {s : Text} (hs : ∀ c ∈ s, c ≠ quote ∧ c ≠ '\\')
    (h : Denotes quote (s ++ t) us rest) : ∃ vs, us = units s ++ vs ∧ Denotes quote t vs rest := by
  induction s generalizing us with
  | nil => exact ⟨us, rfl, h⟩
  | cons c s ih =>
    obtain ⟨⟨hquote, hslash⟩, hs⟩ := List.forall_mem_cons.1 hs
    rw [List.cons_append] at h
    cases h with
    | close => exact absurd rfl hquote
    | plain hc h =>
      obtain ⟨vs, rfl, hvs⟩ := ih hs h
      exact ⟨vs, by rw [units_cons, List.append_assoc], hvs⟩
    | escape => exact absurd rfl hslash

theorem Denotes.eq_of_quote (hquote : quote ≠ '\\') (h : Denotes quote (quote :: t) us rest) :
    us = [] ∧ rest = t := by
  cases h with
  | close => exact ⟨rfl, rfl⟩
  | plain hc => exact absurd rfl (isPlainIn_iff.1 hc).1.1
  | escape => exact absurd rfl hquote

theorem Denotes.exists_escape (hquote : quote ≠ '\\') (h : Denotes quote ('\\' :: t) us rest) :
    ∃ u vs ws, us = vs ++ ws ∧ escapeUnits? t = some (vs, u) ∧ Denotes quote u ws rest := by
  cases h with
  | close => exact absurd rfl hquote
  | plain hc => exact absurd rfl (isPlainIn_iff.1 hc).1.2
  | escape he h => exact ⟨_, _, _, rfl, he, h⟩

theorem Denotes.take_escape (hquote : quote = '"' ∨ quote = '\'')
    (h : Denotes quote ('\\' :: t) us rest) :
    ∃ e r vs ws, us = vs ++ ws ∧ Lexeme.escape? ('\\' :: t) = some (e, r) ∧
      Matches (Astray e) (units (decodeEscape e)) vs ∧ Denotes quote r ws rest ∧
      r.length < t.length := by
  have hslash := quote_ne_backslash hquote
  obtain ⟨u, vs, us, rfl, hu, hus⟩ := h.exists_escape hslash
  obtain ⟨e, r, he, extra, rfl, hextra, hmatches⟩ := hasReading hu
  obtain ⟨ws, rfl, hws⟩ := hus.of_append fun c hc => by
    obtain ⟨hdouble, hsingle, hc⟩ := hextra c hc
    obtain rfl | rfl := hquote
    · exact ⟨hdouble, hc⟩
    · exact ⟨hsingle, hc⟩
  have hlength := length_of_escapeUnits? hu
  rw [List.length_append] at hlength
  exact ⟨e, r, vs ++ units extra, ws, by rw [List.append_assoc], he, hmatches, hws, by omega⟩

theorem Pieces.matches_denotes (hquote : quote = '"' ∨ quote = '\'') {rest' : Text}
    (hps : Pieces quote t ps rest) (h : Denotes quote t us rest') :
    rest' = rest ∧ Matches (∃ p ∈ ps, p.IsAstray) (units (ps.flatMap Syntax.pieceText)) us := by
  have hslash := quote_ne_backslash hquote
  induction hps generalizing us with
  | close t =>
    obtain ⟨rfl, rfl⟩ := h.eq_of_quote hslash
    exact ⟨rfl, .inl ⟨by simp, rfl⟩⟩
  | @fragment s t rest ps hs _ ih =>
    obtain ⟨vs, rfl, hvs⟩ := h.of_append fun c hc => (isPlainIn_iff.1 (hs c hc)).1
    obtain ⟨hrest, hmatches⟩ := ih hvs
    have hfragment : Matches (Syntax.IsAstray (.node none "string_fragment" s [])) (units s)
        (units s) := .inl ⟨not_isAstray_fragment s, rfl⟩
    refine ⟨hrest, ?_⟩
    rw [List.exists_mem_cons_iff, List.flatMap_cons, units_append]
    exact hfragment.append hmatches
  | @escape t e r rest ps he _ ih =>
    obtain ⟨e', r', vs, ws, rfl, he', hescape, hws, -⟩ := h.take_escape hquote
    rw [he] at he'
    obtain ⟨rfl, rfl⟩ := Prod.mk.inj (Option.some.inj he')
    obtain ⟨hrest, hmatches⟩ := ih hws
    have hpiece : Matches (Syntax.IsAstray (.node none "escape_sequence" e []))
        (units (decodeEscape e)) vs := by
      rwa [isAstray_escape]
    refine ⟨hrest, ?_⟩
    rw [List.exists_mem_cons_iff, List.flatMap_cons, units_append]
    exact hpiece.append hmatches

theorem Pieces.not_isComment (hps : Pieces quote t ps rest) : ∀ p ∈ ps, p.isComment = false := by
  induction hps with
  | close => simp
  | fragment _ _ ih => exact List.forall_mem_cons.2 ⟨rfl, ih⟩
  | escape _ _ ih => exact List.forall_mem_cons.2 ⟨rfl, ih⟩

end Values

namespace Build
variable {quote : Char} {t rest : Text} {cs : List Syntax} {c c' : Cursor} {fuel : Nat}

theorem bind_apply {α β : Type} (p : Build α) (f : α → Build β) (c : Cursor) :
    (p >>= f) c = (p c).bind fun r => f r.1 r.2 := rfl

theorem here_apply (c : Cursor) : here c = some (c.rest, c) := rfl

theorem node_apply {α : Type} (kind : String) (body : Build α) (c : Cursor) :
    node kind body c = (body ⟨(gapGo false c.children 0 c.rest).2, []⟩).bind fun r =>
      some (r.1, ⟨r.2.rest, .node none kind [] r.2.children.reverse ::
        (gapGo false c.children 0 c.rest).1⟩) := rfl

theorem loop_succ (fuel : Nat) (p : Build Bool) (c : Cursor) :
    loop (fuel + 1) p c =
      (p c).bind fun r => if r.1 then loop fuel p r.2 else some ((), r.2) := by
  rw [loop, bind_apply]
  congr 1
  funext r
  obtain ⟨b, c⟩ := r
  cases b <;> rfl

theorem escape_apply (t : Text) (cs : List Syntax) :
    escape ⟨t, cs⟩ = (Lexeme.escape? t).map fun p =>
      ((), ⟨p.2, .node none "escape_sequence" p.1 [] :: cs⟩) := by
  rw [escape, bind_apply, here_apply, Option.bind_some]
  cases Lexeme.escape? t with
  | none => rfl
  | some p => rfl

theorem stringPiece_quote (quote : Char) (t : Text) (cs : List Syntax) :
    stringPiece quote ⟨quote :: t, cs⟩ = some (false, ⟨t, cs⟩) := by
  change (if quote == quote then _ else _ : Build Bool) ⟨quote :: t, cs⟩ = _
  rw [if_pos (beq_self_eq_true quote)]
  rfl

theorem stringPiece_escape (hslash : quote ≠ '\\') (t : Text) (cs : List Syntax) :
    stringPiece quote ⟨'\\' :: t, cs⟩ = (Lexeme.escape? ('\\' :: t)).map fun p =>
      (true, ⟨p.2, .node none "escape_sequence" p.1 [] :: cs⟩) := by
  change (if '\\' == quote then _ else if '\\' == '\\' then _ else _ : Build Bool)
    ⟨'\\' :: t, cs⟩ = _
  rw [if_neg (by simpa using hslash.symm), if_pos (by decide)]
  change (escape ⟨'\\' :: t, cs⟩).bind (fun r => some (true, r.2)) = _
  rw [escape_apply, Option.bind_map, Option.map_eq_bind]
  rfl

theorem stringPiece_other {d : Char} (hquote : d ≠ quote) (hslash : d ≠ '\\') (t : Text)
    (cs : List Syntax) :
    stringPiece quote ⟨d :: t, cs⟩ =
      if ((d :: t).takeWhile (isPlainIn quote)).isEmpty then none
      else some (true, ⟨(d :: t).dropWhile (isPlainIn quote),
        .node none "string_fragment" ((d :: t).takeWhile (isPlainIn quote)) [] :: cs⟩) := by
  change (if d == quote then _ else if d == '\\' then _ else _ : Build Bool) ⟨d :: t, cs⟩ = _
  rw [if_neg (by simpa using hquote), if_neg (by simpa using hslash)]
  change (if ((d :: t).takeWhile (isPlainIn quote)).isEmpty then _ else _ : Build Bool)
    ⟨d :: t, cs⟩ = _
  split <;> rfl

theorem stringPiece_plain {d : Char} (hd : isPlainIn quote d = true) (t : Text) (cs : List Syntax) :
    stringPiece quote ⟨d :: t, cs⟩ = some (true, ⟨(d :: t).dropWhile (isPlainIn quote),
      .node none "string_fragment" ((d :: t).takeWhile (isPlainIn quote)) [] :: cs⟩) := by
  obtain ⟨⟨hquote, hslash⟩, -⟩ := isPlainIn_iff.1 hd
  rw [stringPiece_other hquote hslash, if_neg]
  rw [List.takeWhile_cons_of_pos hd]
  simp

theorem stringPiece_lineEnd {d : Char} (hquote : d ≠ quote) (hslash : d ≠ '\\')
    (hd : isPlainIn quote d = false) (t : Text) (cs : List Syntax) :
    stringPiece quote ⟨d :: t, cs⟩ = none := by
  rw [stringPiece_other hquote hslash, if_pos]
  rw [List.takeWhile_cons_of_neg (ne_true_of_eq_false hd)]
  rfl

/-- The grammars cut a string into pieces. -/
theorem pieces_of_loop (hslash : quote ≠ '\\')
    (h : loop fuel (stringPiece quote) ⟨t, cs⟩ = some ((), c')) :
    ∃ ps, Pieces quote t ps c'.rest ∧ c'.children = ps.reverse ++ cs := by
  induction fuel generalizing t cs with
  | zero => cases h
  | succ fuel ih =>
    rw [loop_succ] at h
    -- The first character tells which of the four steps is taken; one of them ends the loop.
    cases t with
    | nil => cases h
    | cons d t =>
      by_cases hquote : d = quote
      · subst hquote
        rw [stringPiece_quote] at h
        obtain rfl := (Prod.mk.inj (Option.some.inj h)).2
        exact ⟨[], .close t, rfl⟩
      by_cases hescape : d = '\\'
      · subst hescape
        rw [stringPiece_escape hslash] at h
        cases he : Lexeme.escape? ('\\' :: t) with
        | none =>
          rw [he] at h
          cases h
        | some p =>
          rw [he] at h
          obtain ⟨ps, hps, hchildren⟩ := ih h
          exact ⟨_, .escape he hps, by rw [hchildren, List.reverse_cons, List.append_assoc]; rfl⟩
      cases hd : isPlainIn quote d with
      | false =>
        rw [stringPiece_lineEnd hquote hescape hd] at h
        cases h
      | true =>
        rw [stringPiece_plain hd] at h
        obtain ⟨ps, hps, hchildren⟩ := ih h
        have hpieces := hps.fragment fun c hc =>
          List.mem_takeWhile_imp (l := d :: t) (p := isPlainIn quote) hc
        rw [List.takeWhile_append_dropWhile] at hpieces
        exact ⟨_, hpieces, by rw [hchildren, List.reverse_cons, List.append_assoc]; rfl⟩

theorem exists_loop (hquote : quote = '"' ∨ quote = '\'') {us : List Nat}
    (h : Denotes quote t us rest) (hfuel : t.length < fuel) (cs : List Syntax) :
    ∃ c', loop fuel (stringPiece quote) ⟨t, cs⟩ = some ((), c') := by
  have hslash := quote_ne_backslash hquote
  -- What a step leaves is again the end of a string, and shorter.
  induction fuel generalizing t us cs with
  | zero => omega
  | succ fuel ih =>
    rw [loop_succ]
    cases h with
    | close =>
      rw [stringPiece_quote]
      exact ⟨_, rfl⟩
    | @plain d t _ us hd h =>
      rw [stringPiece_plain hd]
      have hwhole : Denotes quote ((d :: t).takeWhile (isPlainIn quote) ++
          (d :: t).dropWhile (isPlainIn quote)) (unitsOf d.toNat ++ us) rest := by
        rw [List.takeWhile_append_dropWhile]
        exact .plain hd h
      obtain ⟨vs, -, hvs⟩ := hwhole.of_append fun c hc =>
        (isPlainIn_iff.1 (List.mem_takeWhile_imp hc)).1
      have hlength := List.length_dropWhile_le (isPlainIn quote) t
      refine ih hvs ?_ _
      rw [List.dropWhile_cons_of_pos hd]
      rw [List.length_cons] at hfuel
      omega
    | escape he h =>
      obtain ⟨e, r, vs, ws, -, hescape, -, hws, hlength⟩ :=
        (Denotes.escape he h).take_escape hquote
      rw [stringPiece_escape hslash, hescape]
      refine ih hws ?_ _
      rw [List.length_cons] at hfuel
      omega

theorem string_eq (hquote : quote = '"' ∨ quote = '\'')
    (hgap : gapGo false c.children 0 c.rest = (cs, quote :: t)) (fuel : Nat) :
    string fuel c = (loop fuel (stringPiece quote) ⟨t, []⟩).bind fun r =>
      some ((), ⟨r.2.rest, .node none "string" [] r.2.children.reverse :: cs⟩) := by
  rw [string, node_apply, hgap, bind_apply, here_apply, Option.bind_some]
  obtain rfl | rfl := hquote <;> rfl

end Build

/-- Every string of the language is built as a node, whatever gap is in front of it. If the value is
text, its halves of surrogates being in pairs, then the text of the node is this value if and only
if none of the escape sequences goes astray. -/
theorem stringText_eq_iff {quote : Char} {t rest : Text} {us : List Nat} {c : Cursor}
    {outer : List Syntax} (hquote : quote = '"' ∨ quote = '\'')
    (hgap : Build.gapGo false c.children 0 c.rest = (outer, quote :: t))
    (hvalue : Denotes quote t us rest) :
    (∀ fuel, t.length < fuel → ∃ c', Build.string fuel c = some ((), c')) ∧
    ∀ fuel c', Build.string fuel c = some ((), c') →
      ∃ s, c' = ⟨rest, s :: outer⟩ ∧ s.kind = "string" ∧
        ∀ v, us = units v → (s.stringText = v ↔ ∀ p ∈ s.parts, ¬p.IsAstray) := by
  have hslash := quote_ne_backslash hquote
  refine ⟨fun fuel hfuel => ?_, fun fuel c' hbuilt => ?_⟩
  · obtain ⟨c', hloop⟩ := Build.exists_loop hquote hvalue hfuel []
    rw [Build.string_eq hquote hgap, hloop]
    exact ⟨_, rfl⟩
  · rw [Build.string_eq hquote hgap] at hbuilt
    obtain ⟨⟨_, inner⟩, hloop, hclose⟩ := Option.bind_eq_some_iff.1 hbuilt
    obtain rfl := (Prod.mk.inj (Option.some.inj hclose)).2
    obtain ⟨ps, hps, hchildren⟩ := Build.pieces_of_loop hslash hloop
    rw [List.append_nil] at hchildren
    obtain ⟨rfl, hmatches⟩ := hps.matches_denotes hquote hvalue
    refine ⟨.node none "string" [] ps, by rw [hchildren, List.reverse_reverse], rfl, ?_⟩
    rintro v rfl
    have hparts : Syntax.parts (.node none "string" [] ps) = ps :=
      List.filter_eq_self.2 fun p hp => by simp [hps.not_isComment p hp]
    have hvalues := hmatches.eq_iff
    rw [Syntax.stringText, hparts, ← units_injective.eq_iff, hvalues]
    simp

def highHalf : Text := ['\\', 'u', 'D', '8', '3', 'D']

def lowHalf : Text := ['\\', 'u', 'D', 'E', '0', '0']

def pairedString : Text := highHalf ++ (lowHalf ++ ['"', ';'])

def pairedNode : Syntax :=
  .node none "string" [] [.node none "escape_sequence" highHalf [],
    .node none "escape_sequence" lowHalf []]

theorem stringText_eq_iff_paired :
    Build.gapGo false [] 0 (' ' :: '"' :: pairedString) = ([], '"' :: pairedString) ∧
    Denotes '"' pairedString (units ['😀']) [';'] ∧
    Build.string 20 ⟨' ' :: '"' :: pairedString, []⟩ = some ((), ⟨[';'], [pairedNode]⟩) ∧
    pairedNode.stringText ≠ ['😀'] := by
  have hgap : Build.gapGo false [] 0 (' ' :: '"' :: pairedString) = ([], '"' :: pairedString) := by
    rw [Build.gapGo, if_pos (by decide), Build.gapGo, if_neg (by decide)]
    rfl
  have hvalue : Denotes '"' pairedString (units ['😀']) [';'] := by
    have hunits : units ['😀'] = [0xD83D] ++ ([0xDE00] ++ []) := by decide
    have hhigh : escapeUnits? (highHalf.tail ++ (lowHalf ++ ['"', ';'])) =
        some ([0xD83D], lowHalf ++ ['"', ';']) := by decide
    have hlow : escapeUnits? (lowHalf.tail ++ ['"', ';']) = some ([0xDE00], ['"', ';']) := by decide
    rw [hunits]
    exact .escape hhigh (.escape hlow (.close _))
  have hbuilt : Build.string 20 ⟨' ' :: '"' :: pairedString, []⟩ =
      some ((), ⟨[';'], [pairedNode]⟩) := by
    rw [Build.string_eq (.inl rfl) hgap]
    rfl
  obtain ⟨s, hs, -, hiff⟩ := (stringText_eq_iff (.inl rfl) hgap hvalue).2 20 _ hbuilt
  obtain rfl : pairedNode = s := by
    injection hs with _ hchildren
    exact (List.cons.inj hchildren).1
  refine ⟨hgap, hvalue, hbuilt, fun heq => ?_⟩
  have hdigits : ∀ d ∈ ['D', '8', '3', 'D'], Text.isHexDigit d = true :=
    Text.forall_of_all (by decide)
  have hhalf : Astray highHalf := .half hdigits (by decide) (.inl rfl)
  exact (hiff _ rfl).1 heq _ List.mem_cons_self ⟨rfl, hhalf⟩

end EndpointScout.Script
