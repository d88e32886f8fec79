/-
What a written type reads as keeps its words and signs. `TypeExpr.written` puts a
type that was read into text again, form by form, and `faithful_of_isType` tells
that this text has the words and signs of the node that the type was read from.
So types that are written otherwise are read otherwise (`ofNode_keeps_lexemes`).
-/
import Registrar.Proofs.TypeShapes

namespace Registrar

open Registrar.CSharp

namespace TypeExpr

open Registrar.Tree

/-! ## Types put into text -/

mutual

/-- The type in the notation of the language. -/
def written : TypeExpr → String
  | name qualifier path last =>
    qualifier.elim "" (· ++ "::") ++ (writtenPath path ++ writtenSegment last)
  | predefined keyword => keyword
  | array element rank =>
    written element ++ ("[" ++ (String.ofList (List.replicate (rank - 1).toNat ',') ++ "]"))
  | nullable inner => written inner ++ "?"
  | tuple elements => "(" ++ (",".intercalate (writtenElements elements) ++ ")")
  | raw text => text

def writtenSegment : Segment → String
  | .segment identifier arguments =>
    if arguments.isEmpty then identifier
    else identifier ++ ("<" ++ (",".intercalate (writtenAll arguments) ++ ">"))

/-- Segments with a dot behind each. -/
def writtenPath : List Segment → String
  | [] => ""
  | s :: rest => writtenSegment s ++ ("." ++ writtenPath rest)

def writtenAll : List TypeExpr → List String
  | [] => []
  | e :: rest => written e :: writtenAll rest

def writtenElements : List (TypeExpr × Option String) → List String
  | [] => []
  | (e, given) :: rest => (written e ++ given.elim "" (" " ++ ·)) :: writtenElements rest

end

/-- No part of the type is kept as text only. -/
inductive Told : TypeExpr → Prop
  | name {qualifier : Option String} {path : List Segment} {last : Segment}
    (h : ∀ s ∈ path ++ [last], ∀ e ∈ s.arguments, Told e) : Told (.name qualifier path last)
  | predefined (keyword : String) : Told (.predefined keyword)
  | array {element : TypeExpr} (rank : Int) (h : Told element) : Told (.array element rank)
  | nullable {inner : TypeExpr} (h : Told inner) : Told (.nullable inner)
  | tuple {elements : List (TypeExpr × Option String)} (h : ∀ e ∈ elements, Told e.1) :
    Told (.tuple elements)

theorem writtenAll_eq_map (es : List TypeExpr) : writtenAll es = es.map written := by
  induction es with
  | nil => rfl
  | cons e rest ih => rw [writtenAll, ih, List.map_cons]

theorem writtenElements_eq_map (elements : List (TypeExpr × Option String)) :
    writtenElements elements =
      elements.map fun e => written e.1 ++ e.2.elim "" (" " ++ ·) := by
  induction elements with
  | nil => rfl
  | cons e rest ih => rw [writtenElements, ih, List.map_cons]

theorem writtenPath_append (path more : List Segment) :
    writtenPath (path ++ more) = writtenPath path ++ writtenPath more := by
  induction path with
  | nil => simp [writtenPath]
  | cons s rest ih => simp only [List.cons_append, writtenPath, ih, String.append_assoc]

/-! ## What is kept -/

/-- No part of the node is read as text only, and what is read has the words and signs of the
node. -/
structure Faithful (n : Node) : Prop where
  told : Told (ofNode n)
  lexemes_eq : Text.lexemes (written (ofNode n)) = Text.lexemes n.text

section

variable {word : String} {arguments : List TypeExpr}

theorem told_simple (h : ∀ e ∈ arguments, Told e) : Told (simple word arguments) := by
  refine .name ?_
  rw [List.nil_append, List.forall_mem_singleton]
  exact h

/-- One more segment behind a name. -/
theorem told_concat {qualifier : Option String} {path : List Segment} {last : Segment}
    (h : Told (.name qualifier path last)) (hnext : Told (simple word arguments)) :
    Told (.name qualifier (path ++ [last]) (.segment word arguments)) := by
  cases h with
  | name hpath =>
    cases hnext with
    | name harguments => exact .name (List.forall_mem_append.2 ⟨hpath, harguments⟩)

/-- An alias in front of a name. -/
theorem told_alias {qualifier : Option String} (h : Told (simple word arguments)) :
    Told (.name qualifier [] (.segment word arguments)) := by
  cases h with
  | name harguments => exact .name harguments

theorem written_simple :
    written (simple word arguments) = writtenSegment (.segment word arguments) := by
  simp only [simple, written, writtenPath, Option.elim_none, String.empty_append]

/-- A name begins with its word. -/
theorem exists_written_simple (word : String) (arguments : List TypeExpr) :
    ∃ rest, written (simple word arguments) = word ++ rest := by
  rw [written_simple, writtenSegment]
  split
  · exact ⟨"", (String.append_empty).symm⟩
  · exact ⟨_, rfl⟩

theorem lexemes_written_concat (qualifier : Option String) (path : List Segment) (last : Segment) :
    Text.lexemes (written (.name qualifier (path ++ [last]) (.segment word arguments))) =
      Text.lexemes (written (.name qualifier path last)) ++
        "." :: Text.lexemes (written (simple word arguments)) := by
  have hsplit : written (.name qualifier (path ++ [last]) (.segment word arguments)) =
      written (.name qualifier path last) ++ ("." ++ written (simple word arguments)) := by
    simp only [written_simple, written, writtenPath_append, writtenPath, String.append_empty,
      String.append_assoc]
  rw [hsplit, Text.lexemes_append_sign (by decide)]

theorem lexemes_written_generic (hne : arguments ≠ []) :
    Text.lexemes (written (simple word arguments)) =
      Text.lexemes word ++ "<" :: ([","].intercalate (arguments.map fun e =>
        Text.lexemes (written e)) ++ [">"]) := by
  rw [written_simple, writtenSegment, if_neg (by simpa using hne),
    Text.lexemes_between (by decide) (by decide), Text.lexemes_intercalate, writtenAll_eq_map,
    List.map_map]
  rfl

/-- What stands behind two colons that an alias stands before. -/
theorem lexemes_written_alias {front gap : String} (hfront : IsBareWord front)
    (hgap : ∀ c ∈ gap.toList, Text.isGap c = true) (hword : IsBareWord word) :
    Text.lexemes (written (.name (some (front ++ gap)) [] (.segment word arguments))) =
      front :: "::" :: Text.lexemes (written (simple word arguments)) := by
  have hsplit : written (.name (some (front ++ gap)) [] (.segment word arguments)) =
      front ++ gap ++ ("::" ++ written (simple word arguments)) := by
    simp only [written_simple, written, writtenPath, Option.elim_some, String.empty_append,
      String.append_assoc]
  have hcolon : Text.isInWord ':' = false := by decide
  -- Nothing but a colon belongs to a colon.
  have hruns : ∀ c, c ≠ ':' → Text.runsOn c ':' = false ∧ Text.runsOn ':' c = false := by
    intro c hc
    simp [Text.runsOn, hcolon, hc]
  have hinside : ∀ c ∈ (front ++ gap).toList, c ≠ ':' := by
    rintro c hc rfl
    rw [String.toList_append, List.mem_append] at hc
    rcases hc with hc | hc
    · exact absurd (hfront.inWord _ hc) (by decide)
    · exact absurd (hgap _ hc) (by decide)
  have hbefore : Text.Apart (front ++ gap) ("::" ++ written (simple word arguments)) := by
    intro a ha b hb
    obtain rfl : ':' = b := by simpa using hb
    exact (hruns a (hinside a (List.mem_of_getLast? ha))).1
  have hbehind : Text.Apart "::" (written (simple word arguments)) := by
    intro a ha b hb
    obtain rfl : ':' = a := by simpa using ha
    obtain ⟨rest, hrest⟩ := exists_written_simple word arguments
    obtain ⟨c, cs, hcs, hc, -⟩ := hword.exists_cons
    obtain rfl : c = b := by simpa [hrest, hcs] using hb
    refine (hruns c ?_).2
    rintro rfl
    exact absurd hc (by decide)
  have hcolons : Text.lexemes "::" = ["::"] := by decide
  rw [hsplit, Text.lexemes_append hbefore, Text.lexemes_append_gap hgap, hfront.lexemes_eq,
    Text.lexemes_append hbehind, hcolons]
  rfl

theorem lexemes_written_array (element : TypeExpr) (commas : Nat) :
    Text.lexemes (written (.array element (commas + 1 : Nat))) =
      Text.lexemes (written element) ++ "[" :: (List.replicate commas "," ++ ["]"]) := by
  have hrank : ((commas + 1 : Nat) - 1 : Int).toNat = commas := by omega
  have hcommas : Text.lexemes (String.ofList (List.replicate commas ',')) =
      List.replicate commas "," := by
    induction commas with
    | zero => rfl
    | succ k ih =>
      have hsplit : String.ofList (List.replicate (k + 1) ',') =
          "," ++ String.ofList (List.replicate k ',') := by
        rw [List.replicate_succ, String.ofList_cons]
        rfl
      rw [hsplit, Text.lexemes_sign_append (by decide), ih (by omega), List.replicate_succ]
  rw [written, hrank, Text.lexemes_between (by decide) (by decide), hcommas]

theorem lexemes_written_tuple (elements : List (TypeExpr × Option String)) :
    Text.lexemes (written (.tuple elements)) =
      "(" :: ([","].intercalate (elements.map fun e =>
        Text.lexemes (written e.1) ++ e.2.elim [] Text.lexemes) ++ [")"]) := by
  have helement : ∀ e : TypeExpr × Option String,
      Text.lexemes (written e.1 ++ e.2.elim "" (" " ++ ·)) =
        Text.lexemes (written e.1) ++ e.2.elim [] Text.lexemes := by
    rintro ⟨e, _ | given⟩
    · simp
    · have hspace : ∀ c ∈ " ".toList, Text.isGap c = true := by decide
      have hapart := Text.apart_gap_append hspace (by decide) (written e) given
      rw [Option.elim_some, Text.lexemes_append hapart, Text.lexemes_gap_append hspace]
      rfl
  have hbrackets : Text.isLoneSign "(" = true ∧ Text.isLoneSign ")" = true := by decide
  have hbetween := Text.lexemes_between hbrackets.1 hbrackets.2 ""
    (",".intercalate (writtenElements elements))
  rw [String.empty_append] at hbetween
  rw [written, hbetween, Text.lexemes_intercalate, writtenElements_eq_map, List.map_map]
  simp only [Function.comp_def, helement]
  rfl

theorem lexemes_written_nullable (inner : TypeExpr) :
    Text.lexemes (written (.nullable inner)) = Text.lexemes (written inner) ++ ["?"] := by
  have hsign : Text.isLoneSign "?" = true := by decide
  simpa [written] using Text.lexemes_append_sign hsign (written inner) ""

end

theorem faithful_of_isType {n : Node} (h : IsType n) : Faithful n := by
  induction h with
  | identifier hn hword =>
    have hread := ofNode_identifier hn hword
    refine ⟨?_, ?_⟩
    · rw [hread]
      exact told_simple (List.forall_mem_nil _)
    · rw [hread, written_simple]
      rfl
  | generic hn hmade hname hword harguments hlisted htypes ih =>
    rename_i items
    have hread := ofNode_generic hn hmade hname hword harguments hlisted htypes
    have hne : (items.map fun p => ofNode p.node) ≠ [] := by simpa using hlisted.ne_nil
    have hitems : (items.map fun p => ofNode p.node).map (fun e => Text.lexemes (written e)) =
        items.map fun p => Text.lexemes p.node.text := by
      rw [List.map_map]
      exact List.map_congr_left fun p hp => (ih p hp).lexemes_eq
    refine ⟨?_, ?_⟩
    · rw [hread]
      refine told_simple fun e he => ?_
      obtain ⟨p, hp, rfl⟩ := List.mem_map.1 he
      exact (ih p hp).told
    · rw [hread, lexemes_written_generic hne, hitems, hmade.covers.lexemes_eq]
      simp [hlisted.lexemes_eq (by decide) (by decide)]
  | qualified hn hmade hqualifier hdot hrole hleftType hleftName hright hsimple ihleft ihright =>
    obtain ⟨qualifier, path, last, hleft⟩ := exists_name hleftType hleftName
    obtain ⟨word, arguments, -, hright⟩ := exists_simple hright hsimple
    have hread := ofNode_qualified hn hmade hqualifier hdot hrole hleft hright
    refine ⟨?_, ?_⟩
    · rw [hread]
      exact told_concat (hleft ▸ ihleft.told) (hright ▸ ihright.told)
    · rw [hread, lexemes_written_concat, ← hleft, ← hright, ihleft.lexemes_eq, ihright.lexemes_eq,
        hmade.covers.lexemes_eq]
      simp [hdot.lexemes_eq (by decide)]
  | aliased hn hmade hword hfront hcolons hrole hright hsimple ihright =>
    obtain ⟨word, arguments, hbare, hright⟩ := exists_simple hright hsimple
    obtain ⟨gap, hgap, htrim⟩ := exists_alias hmade hword hcolons
    have hread := ofNode_aliased hn hmade hfront hcolons hrole hright
    have hcolonsText : Text.lexemes "::" = ["::"] := by decide
    refine ⟨?_, ?_⟩
    · rw [hread]
      exact told_alias (hright ▸ ihright.told)
    · rw [hread, htrim, lexemes_written_alias hword hgap hbare, ← hright, ihright.lexemes_eq,
        hmade.covers.lexemes_eq]
      simp [hword.lexemes_eq, hcolons.text, hcolonsText]
  | predefined hn hword =>
    have hread := ofNode_predefined hn hword
    exact ⟨by rw [hread]; exact .predefined _, by rw [hread, written]⟩
  | array hn hmade htype hrank hbrackets _ ih =>
    have hread := ofNode_array hn hmade htype hrank hbrackets
    refine ⟨?_, ?_⟩
    · rw [hread]
      exact .array _ ih.told
    · rw [hread, lexemes_written_array, ih.lexemes_eq, hmade.covers.lexemes_eq]
      simp [hbrackets.lexemes_eq]
  | nullable hn hmade htype hquestion _ ih =>
    have hread := ofNode_nullable hn hmade htype
    refine ⟨?_, ?_⟩
    · rw [hread]
      exact .nullable ih.told
    · rw [hread, lexemes_written_nullable, ih.lexemes_eq, hmade.covers.lexemes_eq]
      simp [hquestion.lexemes_eq (by decide)]
  | tuple hn hlisted helements _ ih =>
    rename_i elements _
    have hread := ofNode_tuple hn hlisted helements
    have hitems : (elements.map elementOf).map (fun e =>
        Text.lexemes (written e.1) ++ e.2.elim [] Text.lexemes) =
        (elements.map ElementParts.element).map fun p => Text.lexemes p.node.text := by
      rw [List.map_map, List.map_map]
      refine List.map_congr_left fun e he => ?_
      rw [Function.comp_apply, Function.comp_apply, (helements e he).made.covers.lexemes_eq,
        elementOf, (ih e he).lexemes_eq]
      cases e.name <;> simp
    refine ⟨?_, ?_⟩
    · rw [hread]
      refine .tuple fun e he => ?_
      obtain ⟨parts, hparts, rfl⟩ := List.mem_map.1 he
      exact (ih parts hparts).told
    · rw [hread, lexemes_written_tuple, hitems, hlisted.lexemes_eq (by decide) (by decide)]

/-- For every node that is a written type: each part of it is told apart, and put into text again
what is read has the words and signs of the node, in their order. So two types are read alike only
when they have the same words and signs. -/
theorem ofNode_keeps_lexemes {n : Node} (h : IsType n) :
    Told (ofNode n) ∧ Text.lexemes (written (ofNode n)) = Text.lexemes n.text ∧
      ∀ m, IsType m → Text.lexemes m.text ≠ Text.lexemes n.text → ofNode m ≠ ofNode n := by
  obtain ⟨htold, hlexemes⟩ := faithful_of_isType h
  refine ⟨htold, hlexemes, fun m hm hne hsame => hne ?_⟩
  rw [← hlexemes, ← (faithful_of_isType hm).lexemes_eq, hsame]

end TypeExpr

/-! ## A nested type -/

namespace Sample

open Registrar.Tree

/-- A part that is one word or sign, with what stands before it. -/
def leafPart (lead : String) (kind : Kind) (text : String) (role : Option Role) : Part :=
  ⟨lead, word kind text role⟩

def signPart (text : String) : Part :=
  ⟨"", .node (.other text) text false none 0 []⟩

/-- `string key` -/
def keyElement : ElementParts where
  element := .ofParts .tupleElement none
    [leafPart "" .predefinedType "string" (some .type),
      leafPart " " .identifier "key" (some .name)]
  type := leafPart "" .predefinedType "string" (some .type)
  name := some (leafPart " " .identifier "key" (some .name))

/-- `Item[,]` as the type of an element. -/
def itemArray : Part :=
  .ofParts .arrayType (some .type)
    [leafPart " " .identifier "Item" (some .type), leafPart "" .arrayRank "[,]" (some .rank)]

def itemElement : ElementParts where
  element := .ofParts .tupleElement none [itemArray]
  type := itemArray
  name := none

/-- `(string key, Item[,])` -/
def keyedItem : Part :=
  .ofParts .tupleType (some .type)
    [signPart "(", keyElement.element, signPart ",", itemElement.element, signPart ")"]

/-- `(string key, Item[,])?` -/
def optionalPair : Part :=
  .ofParts .nullableType none [keyedItem, signPart "?"]

/-- `global::Data` -/
def globalData : Part :=
  .ofParts .aliasQualifiedName (some .qualifier)
    [leafPart "" .identifier "global" (some (.other "alias")), signPart "::",
      leafPart "" .identifier "Data" (some .name)]

def pairArguments : Part :=
  .ofParts .typeArguments none [signPart "<", optionalPair, signPart ">"]

/-- `Map<(string key, Item[,])?>` -/
def pairMap : Part :=
  .ofParts .genericName (some .name) [leafPart "" .identifier "Map" none, pairArguments]

/-- `global::Data.Map<(string key, Item[,])?>` -/
def nestedType : Part :=
  .ofParts .qualifiedName none [globalData, signPart ".", pairMap]

theorem made_ofParts {kind : Kind} {role : Option Role} {parts : List Part}
    (hgaps : ∀ p ∈ parts, ∀ c ∈ p.lead.toList, Text.isGap c = true)
    (hapart : parts.IsChain Part.KeptApart) : Made (Part.ofParts kind role parts).node parts :=
  ⟨⟨rfl, hgaps, hapart⟩, rfl⟩

theorem isMark_signPart (text : String) : IsMark text (signPart text) :=
  ⟨rfl, rfl, rfl⟩

theorem isType_leafPart {lead text : String} {role : Option Role} (hword : IsBareWord text) :
    IsType (leafPart lead .identifier text role).node :=
  .identifier rfl hword

theorem isType_itemArray : IsType itemArray.node := by
  have hsign (text : String) : (signPart text).node.text = text := rfl
  have hcommas : ∀ p ∈ [signPart ","], p.node.text = "," := by decide
  have hrank : IsRank "[,]" 1 :=
    .brackets (hsign "[") hcommas (hsign "]") ⟨by decide, by decide, by decide⟩
  exact .array rfl (made_ofParts (by decide) (by decide)) rfl rfl hrank
    (isType_leafPart (by decide +kernel))

theorem isType_optionalPair : IsType optionalPair.node := by
  have hkey : IsElement keyElement := by
    refine ⟨rfl, made_ofParts (by decide) (by decide), rfl, fun p hp => ?_⟩
    obtain rfl := Option.some.inj hp
    exact ⟨rfl, by decide +kernel⟩
  have hitem : IsElement itemElement :=
    ⟨rfl, made_ofParts (by decide) (by decide), rfl, by simp [itemElement]⟩
  have helements : ∀ e ∈ [keyElement, itemElement], IsElement e ∧ IsType e.type.node := by
    simp only [List.forall_mem_cons]
    exact ⟨⟨hkey, .predefined rfl (by decide +kernel)⟩, ⟨hitem, isType_itemArray⟩,
      List.forall_mem_nil _⟩
  have hcommas : ∀ x ∈ [(signPart ",", itemElement.element)], IsMark "," x.1 := by
    simp [isMark_signPart]
  have hlisted : Listed "(" ")" keyedItem.node ([keyElement, itemElement].map ElementParts.element) :=
    .items (isMark_signPart "(") hcommas (isMark_signPart ")")
      (made_ofParts (by decide +kernel) (by decide +kernel))
  exact .nullable rfl (made_ofParts (by decide +kernel) (by decide +kernel)) rfl
    (isMark_signPart "?")
    (.tuple rfl hlisted (fun e he => (helements e he).1) fun e he => (helements e he).2)

theorem isType_pairMap : IsType pairMap.node := by
  have hcommas : ∀ x ∈ ([] : List (Part × Part)), IsMark "," x.1 := List.forall_mem_nil _
  have hlisted : Listed "<" ">" pairArguments.node [optionalPair] :=
    .items (isMark_signPart "<") hcommas (isMark_signPart ">")
      (made_ofParts (by decide +kernel) (by decide +kernel))
  exact .generic rfl (made_ofParts (by decide +kernel) (by decide +kernel)) rfl (by decide +kernel)
    rfl hlisted (List.forall_mem_singleton.2 isType_optionalPair)

theorem isType_nestedType : IsType nestedType.node := by
  have hfront : IsType globalData.node :=
    .aliased rfl (made_ofParts (by decide) (by decide)) (by decide +kernel) (by decide)
      (isMark_signPart "::") rfl (isType_leafPart (by decide +kernel)) rfl
  exact .qualified rfl (made_ofParts (by decide +kernel) (by decide +kernel)) rfl
    (isMark_signPart ".") rfl hfront rfl isType_pairMap rfl

end Sample

open Registrar.Tree Sample in
/-- An alias, a generic name, a nullable tuple and an array inside one another. -/
theorem TypeExpr.ofNode_keeps_lexemes_nested :
    IsType nestedType.node ∧ IsType pairMap.node ∧ Told (ofNode nestedType.node) ∧
      Text.lexemes (written (ofNode nestedType.node)) =
        ["global", "::", "Data", ".", "Map", "<", "(", "string", "key", ",", "Item", "[", ",", "]",
          ")", "?", ">"] ∧
      Text.lexemes pairMap.node.text ≠ Text.lexemes nestedType.node.text ∧
      ofNode pairMap.node ≠ ofNode nestedType.node := by
  have htext : Text.lexemes nestedType.node.text =
      ["global", "::", "Data", ".", "Map", "<", "(", "string", "key", ",", "Item", "[", ",", "]",
        ")", "?", ">"] := by decide +kernel
  have hdiffers : Text.lexemes pairMap.node.text ≠ Text.lexemes nestedType.node.text := by
    decide +kernel
  obtain ⟨htold, hlexemes, hapart⟩ := TypeExpr.ofNode_keeps_lexemes isType_nestedType
  exact ⟨isType_nestedType, isType_pairMap, htold, hlexemes.trans htext, hdiffers,
    hapart _ isType_pairMap hdiffers⟩

end Registrar
