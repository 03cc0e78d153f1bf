import EndpointScout.Environment
import EndpointScout.Proofs.Candidate.Admission
import EndpointScout.Proofs.Json.Strings
import EndpointScout.Proofs.Store.Mining
import EndpointScout.Proofs.Text.Decimal

/-! The strings in the written form of a script: the script's own texts, and words that
name the parts of the form. The words are never endpoints. -/
namespace EndpointScout

namespace Script
open Json

def Literal.ownTexts : Literal → List Text
  | .string t => [t]
  | .number _ => []
  | .boolean _ => []
  | .null => []
  | .regex t => [t]

mutual

def Tree.ownTexts : Tree → List Text
  | .program body => ownTextsAll body
  | .call callee arguments => callee.ownTexts ++ ownTextsAll arguments
  | .member object property _ => object.ownTexts ++ property.ownTexts
  | .identifier name => [name]
  | .literal value => value.ownTexts
  | .template quasis expressions => quasis ++ ownTextsAll expressions
  | .other kind children => kind :: ownTextsAll children

def ownTextsAll : List Tree → List Text
  | [] => []
  | t :: ts => t.ownTexts ++ ownTextsAll ts

end

def formWords : List Text :=
  ["type", "Program", "body", "CallExpression", "callee", "arguments", "MemberExpression",
    "object", "property", "computed", "Identifier", "name", "Literal", "value",
    "TemplateLiteral", "quasis", "expressions", "Other", "kind", "children"].map String.toList

theorem Literal.plain_toDocument (l : Literal) : l.toDocument.Plain := by
  cases l with
  | number x =>
    rw [toDocument]
    split
    · exact Binary64.quote_not_mem_toText x
    · trivial
  | _ => trivial

theorem plainItems_map_string (ts : List Text) : PlainItems (ts.map .string) := by
  induction ts with
  | nil => trivial
  | cons t ts ih => exact ⟨trivial, ih⟩

mutual

theorem Tree.plain_toDocument (t : Tree) : t.toDocument.Plain := by
  cases t with
  | program body => exact ⟨trivial, plainItems_documents body, trivial⟩
  | call callee arguments =>
    exact ⟨trivial, callee.plain_toDocument, plainItems_documents arguments, trivial⟩
  | member object property computed =>
    exact ⟨trivial, object.plain_toDocument, property.plain_toDocument, trivial, trivial⟩
  | identifier name => exact ⟨trivial, trivial, trivial⟩
  | literal value => exact ⟨trivial, value.plain_toDocument, trivial⟩
  | template quasis expressions =>
    exact ⟨trivial, plainItems_map_string quasis, plainItems_documents expressions, trivial⟩
  | other kind children => exact ⟨trivial, trivial, plainItems_documents children, trivial⟩

theorem plainItems_documents (ts : List Tree) :
    PlainItems (Tree.documents Literal.toDocument ts) := by
  match ts with
  | [] => trivial
  | t :: ts => exact ⟨t.plain_toDocument, plainItems_documents ts⟩

end

theorem Literal.strings_toDocument (l : Literal) : l.toDocument.strings = l.ownTexts := by
  cases l with
  | number x =>
    rw [toDocument]
    split <;> rfl
  | _ => rfl

theorem itemStrings_map_string (ts : List Text) : itemStrings (ts.map .string) = ts := by
  induction ts with
  | nil => rfl
  | cons t ts ih => simp [itemStrings, Value.strings, ih]

section Filter
variable {p : Text → Bool}

theorem filter_strings_tagged (hp : ∀ w ∈ formWords, p w = false) {form : String}
    {ms : List (String × Value)} (hform : form.toList ∈ formWords)
    (hms : ∀ m ∈ ms, m.1.toList ∈ formWords) :
    (Tree.tagged form ms).strings.filter p = ms.flatMap fun m => m.2.strings.filter p := by
  have hmembers : (memberStrings (ms.map fun m => (m.1.toList, m.2))).filter p =
      ms.flatMap fun m => m.2.strings.filter p := by
    induction ms with
    | nil => rfl
    | cons m ms ih =>
      obtain ⟨hm, hms⟩ := List.forall_mem_cons.1 hms
      rw [List.map_cons, memberStrings, List.filter_cons_of_neg (ne_true_of_eq_false (hp _ hm)),
        List.filter_append, ih hms, List.flatMap_cons]
  have htype : "type".toList ∈ formWords := by decide
  rw [Tree.tagged, Value.strings, memberStrings,
    List.filter_cons_of_neg (ne_true_of_eq_false (hp _ htype)), List.filter_append, hmembers,
    Value.str, Value.strings, List.filter_cons_of_neg (ne_true_of_eq_false (hp _ hform)), List.filter_nil, List.nil_append]

mutual

theorem Tree.filter_strings_toDocument (hp : ∀ w ∈ formWords, p w = false) (t : Tree) :
    t.toDocument.strings.filter p = t.ownTexts.filter p := by
  rw [Tree.toDocument]
  cases t with
  | program body =>
    have hbody := filter_strings_documents hp body
    rw [Tree.document, filter_strings_tagged hp (by decide) (by simp [formWords]), Tree.ownTexts,
      ← hbody]
    simp [Value.strings]
  | call callee arguments =>
    have hcallee := callee.filter_strings_toDocument hp
    have harguments := filter_strings_documents hp arguments
    rw [Tree.document, filter_strings_tagged hp (by decide) (by simp [formWords]), Tree.ownTexts,
      List.filter_append, ← hcallee, ← harguments]
    simp [Value.strings, Tree.toDocument]
  | member object property computed =>
    have hobject := object.filter_strings_toDocument hp
    have hproperty := property.filter_strings_toDocument hp
    rw [Tree.document, filter_strings_tagged hp (by decide) (by simp [formWords]), Tree.ownTexts,
      List.filter_append, ← hobject, ← hproperty]
    simp [Value.strings, Tree.toDocument]
  | identifier name =>
    rw [Tree.document, filter_strings_tagged hp (by decide) (by simp [formWords]), Tree.ownTexts]
    simp [Value.strings]
  | literal value =>
    rw [Tree.document, filter_strings_tagged hp (by decide) (by simp [formWords]), Tree.ownTexts,
      ← value.strings_toDocument]
    simp
  | template quasis expressions =>
    have hexpressions := filter_strings_documents hp expressions
    rw [Tree.document, filter_strings_tagged hp (by decide) (by simp [formWords]), Tree.ownTexts,
      List.filter_append, ← hexpressions]
    simp [Value.strings, itemStrings_map_string]
  | other kind children =>
    have hchildren := filter_strings_documents hp children
    have hkind : (kind :: ownTextsAll children).filter p =
        [kind].filter p ++ (ownTextsAll children).filter p := List.filter_append [kind] _
    rw [Tree.document, filter_strings_tagged hp (by decide) (by simp [formWords]), Tree.ownTexts,
      hkind, ← hchildren]
    simp [Value.strings]

theorem filter_strings_documents (hp : ∀ w ∈ formWords, p w = false) (ts : List Tree) :
    (itemStrings (Tree.documents Literal.toDocument ts)).filter p =
      (ownTextsAll ts).filter p := by
  match ts with
  | [] => rfl
  | t :: ts =>
    have ht := t.filter_strings_toDocument hp
    rw [Tree.documents, itemStrings, List.filter_append, ownTextsAll, List.filter_append,
      filter_strings_documents hp ts, ← ht, Tree.toDocument]

end

end Filter

theorem accepts_formWords [SuffixList] (target : Target) :
    ∀ w ∈ formWords, target.accepts (Candidate.cleanLiteral w) = false := by
  have hwords : ∀ w ∈ formWords,
      (Candidate.judged (Candidate.cleanLiteral w)).head? ≠ some '/' ∧
      (Url.parse? (Candidate.judged (Candidate.cleanLiteral w))).isNone := by
    decide +kernel
  intro w hw
  obtain ⟨hhead, hparse⟩ := hwords w hw
  exact Candidate.isEndpointLike_of_parse?_isNone hhead hparse target.domain

end Script

namespace Script
open Json

/-- Mining a list of texts is mining those that look like endpoints. -/
theorem acceptAll_map_filter [SuffixList] (s : Store) (target : Target) (source : Source)
    (ts : List Text) :
    s.acceptAll target ((ts.filter fun w => target.accepts (Candidate.cleanLiteral w)).map
      (Find.mk source)) = s.acceptAll target (ts.map (Find.mk source)) := by
  rw [← Store.acceptAll_filter s target (ts.map _), List.filter_map]
  simp only [Function.comp_def]

/-- The strings found in the written form of a script are its names and string values, each
read back as it was. The names of the form are never endpoints, and without them the strings
are the script's own texts, so mining the written form is mining these. -/
theorem literalFinds_refine [SuffixList] (t : Tree) (target : Target) (s : Store) :
    tokens t.toDocument.compact = t.toDocument.strings.map quote ∧
    stringsIn t.toDocument.compact = t.toDocument.strings ∧
    (∀ w ∈ formWords, target.accepts (Candidate.cleanLiteral w) = false) ∧
    (∀ p : Text → Bool, (∀ w ∈ formWords, p w = false) →
      t.toDocument.strings.filter p = t.ownTexts.filter p) ∧
    s.acceptAll target t.literalFinds = s.acceptAll target (t.ownTexts.map (Find.mk .static)) := by
  have hplain := t.plain_toDocument
  have haccepts := accepts_formWords target
  have hfilter := t.filter_strings_toDocument haccepts
  refine ⟨tokens_compact hplain, stringsIn_compact hplain, haccepts,
    fun p hp => t.filter_strings_toDocument hp, ?_⟩
  rw [Tree.literalFinds, stringsIn_compact hplain, ← acceptAll_map_filter, hfilter,
    acceptAll_map_filter]

def quotedScript : Tree :=
  .program [.call (.identifier "fetch".toList) [.literal (.string "/api/\"x\\\n".toList)],
    .other "\"kind".toList [.literal (.number ⟨0x7FF0000000000000⟩)]]

attribute [local instance] Environment.plain

theorem literalFinds_refine_quoted :
    ("kind".toList ∈ formWords ∧
      Target.unscoped.accepts (Candidate.cleanLiteral "kind".toList) = false) ∧
    quotedScript.toDocument.strings.filter (fun w => w ∉ formWords) =
      ["fetch".toList, "/api/\"x\\\n".toList, "\"kind".toList] ∧
    (Store.empty.acceptAll Target.unscoped quotedScript.literalFinds).2 = 1 := by
  obtain ⟨-, -, hwords, hfilter, hmined⟩ :=
    literalFinds_refine quotedScript Target.unscoped Store.empty
  have hkind : "kind".toList ∈ formWords := by decide
  refine ⟨⟨hkind, hwords _ hkind⟩, ?_, ?_⟩
  · rw [hfilter _ (by simp)]
    decide +kernel
  · rw [hmined]
    decide +kernel

end Script

end EndpointScout
