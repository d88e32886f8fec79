/-
Which nodes are written types, and what each form reads as. `IsType` goes form by
form: names with their arguments, predefined types, arrays, nullable types and
tuples, whose parts are set apart by white space and signs only, as the grammar
of types has them: a list of arguments is not empty, and between the brackets of
an array there are commas. For each form there is a lemma on `TypeExpr.ofNode`.
-/
import Registrar.Proofs.Lexemes
import Registrar.Proofs.NamespaceNames

namespace Registrar

open Registrar.CSharp

namespace Text

/-- Trimming takes nothing off a word but what follows it. -/
theorem exists_trim_append {word : String} (hne : word ≠ "")
    (hword : ∀ c ∈ word.toList, isBlank c = false) (behind : String) :
    ∃ rest : String, (∀ c ∈ rest.toList, c ∈ behind.toList) ∧ trim (word ++ behind) = word ++ rest := by
  have hdrop : ∀ cs : List Char, cs ≠ [] → (∀ c ∈ cs, isBlank c = false) → ∀ more,
      (cs ++ more).dropWhile isBlank = cs ++ more := by
    intro cs hcs hall more
    obtain ⟨c, cs, rfl⟩ := List.exists_cons_of_ne_nil hcs
    rw [List.cons_append, List.dropWhile_cons_of_neg (by simp [hall c])]
  have hchars : word.toList ≠ [] := by simpa using hne
  have hreverse : word.toList.reverse.dropWhile isBlank = word.toList.reverse := by
    simpa using hdrop word.toList.reverse (by simpa using hchars) (by simpa using hword) []
  rw [trim, trimStart, String.toList_append, hdrop _ hchars hword, trimEnd, List.reverse_append,
    List.dropWhile_append]
  split
  · refine ⟨"", by simp, ?_⟩
    rw [hreverse, List.reverse_reverse, String.ofList_toList, String.append_empty]
  · refine ⟨String.ofList (behind.toList.reverse.dropWhile isBlank).reverse, fun c hc => ?_, ?_⟩
    · rw [String.toList_ofList, List.mem_reverse] at hc
      exact List.mem_reverse.1 ((List.dropWhile_suffix _).subset hc)
    · rw [List.reverse_append, List.reverse_reverse, String.ofList_append, String.ofList_toList]

end Text

namespace Tree

/-! ## Nodes that are types -/

/-- A word without the sign that lets a keyword be an identifier. -/
structure IsBareWord (s : String) : Prop where
  nonempty : s ≠ ""
  inWord : ∀ c ∈ s.toList, Text.isInWord c = true
  noSign : '@' ∉ s.toList

instance (s : String) : Decidable (IsBareWord s) :=
  decidable_of_iff (s ≠ "" ∧ (∀ c ∈ s.toList, Text.isInWord c = true) ∧ '@' ∉ s.toList)
    ⟨fun ⟨hne, hword, hsign⟩ => ⟨hne, hword, hsign⟩, fun h => ⟨h.nonempty, h.inWord, h.noSign⟩⟩

/-- The node covers the parts, which are its children. -/
structure Made (n : Node) (parts : List Part) : Prop where
  covers : Part.Covers n.text parts
  children : n.children = parts.map Part.node

/-- A sign of the language, which plays no part in its parent. -/
structure IsMark (sign : String) (p : Part) : Prop where
  text : p.node.text = sign
  unnamed : p.node.isNamed = false
  role : p.node.role = none

/-- Parts with commas before them. -/
def withCommas (rest : List (Part × Part)) : List Part :=
  rest.flatMap fun x => [x.1, x.2]

/-- The node has the items between brackets, with commas between them. -/
inductive Listed (left right : String) (n : Node) : List Part → Prop
  | items {opening first closing : Part} {rest : List (Part × Part)} (hopening : IsMark left opening)
    (hcommas : ∀ x ∈ rest, IsMark "," x.1) (hclosing : IsMark right closing)
    (hmade : Made n (opening :: first :: (withCommas rest ++ [closing]))) :
    Listed left right n (first :: rest.map Prod.snd)

/-- The text consists of square brackets with commas between them. -/
inductive IsRank : String → (commas : Nat) → Prop
  | brackets {text : String} {opening closing : Part} {commas : List Part}
    (hopening : opening.node.text = "[") (hcommas : ∀ p ∈ commas, p.node.text = ",")
    (hclosing : closing.node.text = "]")
    (hcovers : Part.Covers text (opening :: (commas ++ [closing]))) : IsRank text commas.length

/-- An element of a tuple, taken apart: its type and, when it has one, its name. -/
structure ElementParts where
  element : Part
  type : Part
  name : Option Part

structure IsElement (e : ElementParts) : Prop where
  isElement : e.element.node.isNamedOf (· == .tupleElement) = true
  made : Made e.element.node (e.type :: e.name.toList)
  type : e.type.node.role = some .type
  name : ∀ p ∈ e.name, p.node.role = some .name ∧ IsBareWord p.node.text

/-- A name that is no dotted one and stands behind no alias. -/
def Kind.isSimpleName (kind : Kind) : Bool :=
  kind == .identifier || kind == .genericName

/-- The node is a written type, or a part of one, with nothing but white space between its words and
signs. -/
inductive IsType : Node → Prop
  | identifier {n : Node} (hn : n.isNamedOf (· == .identifier) = true) (hword : IsBareWord n.text) :
    IsType n
  | generic {n : Node} {name arguments : Part} {items : List Part}
    (hn : n.isNamedOf (· == .genericName) = true) (hmade : Made n [name, arguments])
    (hname : name.node.isNamedOf (· == .identifier) = true) (hword : IsBareWord name.node.text)
    (harguments : arguments.node.isNamedOf (· == .typeArguments) = true)
    (hlisted : Listed "<" ">" arguments.node items) (htypes : ∀ p ∈ items, IsType p.node) : IsType n
  | qualified {n : Node} {left dot right : Part} (hn : n.isNamedOf (· == .qualifiedName) = true)
    (hmade : Made n [left, dot, right]) (hqualifier : left.node.role = some .qualifier)
    (hdot : IsMark "." dot) (hname : right.node.role = some .name) (hleft : IsType left.node)
    (hleftName : left.node.kind.isName = true) (hright : IsType right.node)
    (hsimple : right.node.kind.isSimpleName = true) : IsType n
  | aliased {n : Node} {front colons right : Part}
    (hn : n.isNamedOf (· == .aliasQualifiedName) = true) (hmade : Made n [front, colons, right])
    (hword : IsBareWord front.node.text) (hfront : front.node.role ≠ some .name)
    (hcolons : IsMark "::" colons) (hname : right.node.role = some .name)
    (hright : IsType right.node) (hsimple : right.node.kind.isSimpleName = true) : IsType n
  | predefined {n : Node} (hn : n.isNamedOf (· == .predefinedType) = true)
    (hword : IsBareWord n.text) : IsType n
  | array {n : Node} {element rank : Part} {commas : Nat}
    (hn : n.isNamedOf (· == .arrayType) = true) (hmade : Made n [element, rank])
    (htype : element.node.role = some .type) (hrank : rank.node.role = some .rank)
    (hbrackets : IsRank rank.node.text commas) (helement : IsType element.node) : IsType n
  | nullable {n : Node} {inner question : Part} (hn : n.isNamedOf (· == .nullableType) = true)
    (hmade : Made n [inner, question]) (htype : inner.node.role = some .type)
    (hquestion : IsMark "?" question) (hinner : IsType inner.node) : IsType n
  | tuple {n : Node} {elements : List ElementParts} (hn : n.isNamedOf (· == .tupleType) = true)
    (hlisted : Listed "(" ")" n (elements.map ElementParts.element))
    (helements : ∀ e ∈ elements, IsElement e) (htypes : ∀ e ∈ elements, IsType e.type.node) :
    IsType n

end Tree

namespace Tree

/-! ## Words and lists -/

theorem Node.kind_of_isNamedOf {n : Node} {kind : Kind} (h : n.isNamedOf (· == kind) = true) :
    n.kind = kind := by
  simp only [isNamedOf, Bool.and_eq_true, beq_iff_eq] at h
  exact h.2

namespace IsBareWord

variable {s : String}

theorem lexemes_eq (h : IsBareWord s) : Text.lexemes s = [s] :=
  Text.lexemes_word h.nonempty h.inWord

theorem exists_cons (h : IsBareWord s) :
    ∃ c cs, s.toList = c :: cs ∧ Text.isInWord c = true ∧ c ≠ '@' := by
  obtain ⟨c, cs, hcs⟩ := List.exists_cons_of_ne_nil (l := s.toList) (by simpa using h.nonempty)
  have hmem : c ∈ s.toList := hcs ▸ List.mem_cons_self
  exact ⟨c, cs, hcs, h.inWord c hmem, fun hsign => h.noSign (hsign ▸ hmem)⟩

theorem isBlank (h : IsBareWord s) : ∀ c ∈ s.toList, Text.isBlank c = false := by
  intro c hc
  have hgap := Text.isGap_of_isInWord (h.inWord c hc)
  rw [Text.isGap, Bool.or_eq_false_iff] at hgap
  exact hgap.1

theorem isWord (h : IsBareWord s) : IsWord s where
  nonempty := h.nonempty
  notBlank := h.isBlank
  noDot := fun hmem => absurd (h.inWord _ hmem) (by decide)
  noSign := h.noSign
  noSlash := fun hmem => absurd (h.inWord _ hmem) (by decide)

theorem identifierName_eq (h : IsBareWord s) : identifierName s = s :=
  Spells.identifierName_eq h.isWord (.inl rfl)

end IsBareWord

theorem IsMark.lexemes_eq {sign : String} {p : Part} (h : IsMark sign p)
    (hsign : Text.isLoneSign sign = true) : Text.lexemes p.node.text = [sign] := by
  rw [h.text, Text.lexemes_sign hsign]

namespace Listed

variable {left right : String} {n : Node} {items : List Part}

theorem flatMap_withCommas (f : String → List String) (hcomma : f "," = [","])
    {rest : List (Part × Part)} (hcommas : ∀ x ∈ rest, IsMark "," x.1) (first : Part) :
    f first.node.text ++ (withCommas rest).flatMap (fun p => f p.node.text) =
      [","].intercalate ((first :: rest.map Prod.snd).map fun p => f p.node.text) := by
  induction rest generalizing first with
  | nil => simp [withCommas]
  | cons x rest ih =>
    obtain ⟨hx, hrest⟩ := List.forall_mem_cons.1 hcommas
    have hsplit : withCommas (x :: rest) = x.1 :: x.2 :: withCommas rest := rfl
    rw [hsplit, List.flatMap_cons, List.flatMap_cons, ih hrest, hx.text, hcomma]
    simp only [List.map_cons, List.intercalate_cons_cons, List.append_assoc]

theorem ne_nil (h : Listed left right n items) : items ≠ [] := by
  cases h
  simp

theorem lexemes_eq (h : Listed left right n items) (hleft : Text.isLoneSign left = true)
    (hright : Text.isLoneSign right = true) :
    Text.lexemes n.text =
      left :: ([","].intercalate (items.map fun p => Text.lexemes p.node.text) ++ [right]) := by
  obtain ⟨hopening, hcommas, hclosing, hmade⟩ := h
  rw [hmade.covers.lexemes_eq, ← flatMap_withCommas _ (Text.lexemes_sign (by decide)) hcommas]
  simp only [List.flatMap_cons, List.flatMap_append, List.flatMap_nil, hopening.text, hclosing.text,
    Text.lexemes_sign hleft, Text.lexemes_sign hright, List.append_nil, List.singleton_append,
    List.append_assoc]

/-- The items are the named children. -/
theorem filter_children (h : Listed left right n items) {q : Kind → Bool}
    (hitems : ∀ p ∈ items, p.node.isNamedOf q = true) :
    n.children.filter (·.isNamedOf q) = items.map Part.node := by
  obtain ⟨hopening, hcommas, hclosing, hmade⟩ := h
  have hmark {sign : String} {p : Part} (hp : IsMark sign p) : p.node.isNamedOf q = false := by
    rw [Node.isNamedOf, hp.unnamed, Bool.false_and]
  have hrest : ∀ rest : List (Part × Part), (∀ x ∈ rest, IsMark "," x.1) →
      (∀ x ∈ rest, x.2.node.isNamedOf q = true) →
      ((withCommas rest).map Part.node).filter (·.isNamedOf q) =
        (rest.map Prod.snd).map Part.node := by
    intro rest
    induction rest with
    | nil => intro _ _; rfl
    | cons x rest ih =>
      intro hmarks hnamed
      obtain ⟨hx, hmarks⟩ := List.forall_mem_cons.1 hmarks
      obtain ⟨hx', hnamed⟩ := List.forall_mem_cons.1 hnamed
      have hsplit : withCommas (x :: rest) = x.1 :: x.2 :: withCommas rest := rfl
      rw [hsplit, List.map_cons, List.map_cons, List.filter_cons_of_neg (by simp [hmark hx]),
        List.filter_cons_of_pos hx', ih hmarks hnamed]
      rfl
  obtain ⟨hfirst, hothers⟩ := List.forall_mem_cons.1 hitems
  rw [hmade.children, List.map_cons, List.map_cons, List.map_append, List.map_singleton,
    List.filter_cons_of_neg (by simp [hmark hopening]), List.filter_cons_of_pos hfirst,
    List.filter_append, hrest _ hcommas fun x hx => hothers _ (List.mem_map_of_mem hx),
    List.filter_singleton, hmark hclosing]
  simp

end Listed

namespace IsRank

variable {text : String} {commas : Nat}

theorem lexemes_eq (h : IsRank text commas) :
    Text.lexemes text = "[" :: (List.replicate commas "," ++ ["]"]) := by
  obtain ⟨hopening, hcommas, hclosing, hcovers⟩ := h
  rename_i marks
  have hmarks : marks.flatMap (fun p => Text.lexemes p.node.text) =
      List.replicate marks.length "," := by
    clear hcovers
    induction marks with
    | nil => rfl
    | cons p rest ih =>
      obtain ⟨hp, hrest⟩ := List.forall_mem_cons.1 hcommas
      rw [List.flatMap_cons, hp, Text.lexemes_sign (by decide), ih hrest]
      rfl
  rw [hcovers.lexemes_eq, List.flatMap_cons, List.flatMap_append, hmarks, hopening]
  simp only [List.flatMap_cons, List.flatMap_nil, hclosing]
  rfl

theorem count_comma (h : IsRank text commas) : text.toList.count ',' = commas := by
  obtain ⟨hopening, hcommas, hclosing, hcovers⟩ := h
  rename_i marks
  have hmarks : marks.flatMap (fun p => p.node.text.toList) = List.replicate marks.length ',' := by
    clear hcovers
    induction marks with
    | nil => rfl
    | cons p rest ih =>
      obtain ⟨hp, hrest⟩ := List.forall_mem_cons.1 hcommas
      rw [List.flatMap_cons, hp, ih hrest, List.length_cons, List.replicate_succ]
      rfl
  rw [hcovers.text_eq, Part.count_textOf (by decide) hcovers.gaps]
  simp [hopening, hclosing, hmarks]

end IsRank

end Tree

namespace TypeExpr

open Registrar.Tree

/-! ## How each form is read -/

theorem isType_of_kind {n : Node} {kind : Kind} (h : n.isNamedOf (· == kind) = true)
    (hkind : kind.isType = true) : n.isNamedOf Kind.isType = true := by
  simp only [Node.isNamedOf, Bool.and_eq_true, beq_iff_eq] at h ⊢
  exact ⟨h.1, h.2 ▸ hkind⟩

theorem isNamedOf_of_isType {n : Node} (h : IsType n) : n.isNamedOf Kind.isType = true := by
  cases h with
  | identifier hn | generic hn | qualified hn | aliased hn | predefined hn | array hn | nullable hn
  | tuple hn => exact isType_of_kind hn rfl

theorem filter_readings (q : Kind → Bool) (nodes : List Node) :
    ((readings nodes).filter (·.1.isNamedOf q)).map Prod.snd =
      (nodes.filter (·.isNamedOf q)).map ofNode := by
  rw [readings_eq_map, List.filter_map, List.map_map]
  rfl

theorem fst_readings (nodes : List Node) : (readings nodes).map Prod.fst = nodes := by
  simp [readings_eq_map, Function.comp_def]

section

variable {n : Node} {left right : Part}

theorem ofNode_identifier (hn : n.isNamedOf (· == .identifier) = true) (hword : IsBareWord n.text) :
    ofNode n = simple n.text [] := by
  obtain ⟨kind, text, named, role, row, children⟩ := n
  obtain rfl : kind = .identifier := Node.kind_of_isNamedOf hn
  have hname := hword.identifierName_eq
  rw [Node.text] at hname ⊢
  rw [ofNode, hname]

theorem ofNode_generic {items : List Part} (hn : n.isNamedOf (· == .genericName) = true)
    (hmade : Made n [left, right]) (hleft : left.node.isNamedOf (· == .identifier) = true)
    (hword : IsBareWord left.node.text) (hright : right.node.isNamedOf (· == .typeArguments) = true)
    (hlisted : Listed "<" ">" right.node items) (htypes : ∀ p ∈ items, IsType p.node) :
    ofNode n = simple left.node.text (items.map fun p => ofNode p.node) := by
  have hchildren := hmade.children
  have hfirst : firstNamed? (· == .identifier) n.children = some left.node := by
    simp [hchildren, firstNamed?, hleft]
  have hapart : left.node.isNamedOf (· == .typeArguments) = false := by
    simp [Node.isNamedOf, Node.kind_of_isNamedOf hleft]
  have hfind : (partsOf n.children).find? (·.1.isNamedOf (· == .typeArguments)) =
      some (right.node, readings right.node.children) := by
    simp [hchildren, partsOf_eq_map, hapart, hright]
  have harguments : argumentsOf (partsOf n.children) = items.map fun p => ofNode p.node := by
    rw [argumentsOf, hfind]
    dsimp only
    rw [filter_readings, hlisted.filter_children fun p hp => isNamedOf_of_isType (htypes p hp),
      List.map_map]
    rfl
  obtain ⟨kind, text, named, role, row, children⟩ := n
  obtain rfl : kind = .genericName := Node.kind_of_isNamedOf hn
  rw [Node.children] at hfirst harguments
  rw [ofNode, hfirst, harguments, Option.elim_some, hword.identifierName_eq]

theorem ofNode_predefined (hn : n.isNamedOf (· == .predefinedType) = true)
    (hword : IsBareWord n.text) : ofNode n = .predefined n.text := by
  obtain ⟨kind, text, named, role, row, children⟩ := n
  obtain rfl : kind = .predefinedType := Node.kind_of_isNamedOf hn
  have htrim := Text.trim_eq_self hword.isBlank
  rw [Node.text] at htrim ⊢
  rw [ofNode, htrim]

/-- A child in front that plays the part of the type is the one that is read. -/
theorem partType?_eq (hleft : left.node.role = some .type) (rest : List Node) :
    partType? (readings (left.node :: rest)) = some (ofNode left.node) := by
  have hplays : left.node.plays .type = true := by simp [Node.plays, hleft]
  simp [partType?, readings, hplays]

theorem ofNode_array {commas : Nat} (hn : n.isNamedOf (· == .arrayType) = true)
    (hmade : Made n [left, right]) (hleft : left.node.role = some .type)
    (hright : right.node.role = some .rank) (hbrackets : IsRank right.node.text commas) :
    ofNode n = .array (ofNode left.node) (commas + 1 : Nat) := by
  have hchildren := hmade.children
  have hrank : arrayRank n.children = commas + 1 := by
    have hapart : left.node.plays .rank = false := by simp [Node.plays, hleft]
    have hplays : right.node.plays .rank = true := by simp [Node.plays, hright]
    simp [arrayRank, hchildren, child?, hapart, hplays, hbrackets.count_comma]
  obtain ⟨kind, text, named, role, row, children⟩ := n
  obtain rfl : kind = .arrayType := Node.kind_of_isNamedOf hn
  rw [Node.children] at hchildren hrank
  rw [ofNode, hrank, hchildren, List.map_cons, partType?_eq hleft]

theorem ofNode_nullable (hn : n.isNamedOf (· == .nullableType) = true)
    (hmade : Made n [left, right]) (hleft : left.node.role = some .type) :
    ofNode n = .nullable (ofNode left.node) := by
  have hchildren := hmade.children
  obtain ⟨kind, text, named, role, row, children⟩ := n
  obtain rfl : kind = .nullableType := Node.kind_of_isNamedOf hn
  rw [Node.children] at hchildren
  rw [ofNode, hchildren, List.map_cons, partType?_eq hleft]

/-- What an element of a tuple is read as. -/
def elementOf (e : ElementParts) : TypeExpr × Option String :=
  (ofNode e.type.node, e.name.map (·.node.text))

theorem mapM_eq_some {f : α → Option β} {g : α → β} {as : List α}
    (h : ∀ a ∈ as, f a = some (g a)) : as.mapM f = some (as.map g) := by
  induction as with
  | nil => rfl
  | cons a rest ih =>
    obtain ⟨ha, hrest⟩ := List.forall_mem_cons.1 h
    rw [List.mapM_cons, ha, ih hrest]
    rfl

theorem ofNode_tuple {elements : List ElementParts} (hn : n.isNamedOf (· == .tupleType) = true)
    (hlisted : Listed "(" ")" n (elements.map ElementParts.element))
    (helements : ∀ e ∈ elements, IsElement e) : ofNode n = .tuple (elements.map elementOf) := by
  have hread : ∀ e ∈ elements,
      (partType? (readings e.element.node.children)).bind (fun type =>
        some (type, (child? .name e.element.node.children).map (identifierName ·.text))) =
        some (elementOf e) := by
    intro e he
    obtain ⟨-, hmade, htype, hname⟩ := helements e he
    have hapart : e.type.node.plays .name = false := by simp [Node.plays, htype]
    rw [hmade.children, List.map_cons, partType?_eq htype, Option.bind_some, elementOf]
    cases hgiven : e.name with
    | none => simp [child?, hapart]
    | some p =>
      obtain ⟨hrole, hword⟩ := hname p hgiven
      have hplays : p.node.plays .name = true := by simp [Node.plays, hrole]
      simp [child?, hapart, hplays, hword.identifierName_eq]
  have hfilter : (partsOf n.children).filter (·.1.isNamedOf (· == .tupleElement)) =
      elements.map fun e => (e.element.node, readings e.element.node.children) := by
    have hall : ∀ p ∈ elements.map ElementParts.element,
        p.node.isNamedOf (· == .tupleElement) = true := by
      intro p hp
      obtain ⟨e, he, rfl⟩ := List.mem_map.1 hp
      exact (helements e he).isElement
    have hcomp : ((fun x : Node × List Reading => x.1.isNamedOf (· == .tupleElement)) ∘
        fun m => (m, readings m.children)) = fun m => m.isNamedOf (· == .tupleElement) := rfl
    rw [partsOf_eq_map, List.filter_map, hcomp, hlisted.filter_children hall, List.map_map,
      List.map_map]
    rfl
  have helementsOf : elementsOf (partsOf n.children) = some (elements.map elementOf) := by
    rw [elementsOf, hfilter, List.mapM_map]
    exact mapM_eq_some hread
  obtain ⟨kind, text, named, role, row, children⟩ := n
  obtain rfl : kind = .tupleType := Node.kind_of_isNamedOf hn
  rw [Node.children] at helementsOf
  rw [ofNode, helementsOf]

theorem ofNode_qualified {dot : Part} {qualifier : Option String} {path : List Segment}
    {last : Segment} {word : String} {arguments : List TypeExpr}
    (hn : n.isNamedOf (· == .qualifiedName) = true) (hmade : Made n [left, dot, right])
    (hqualifier : left.node.role = some .qualifier) (hdot : IsMark "." dot)
    (hname : right.node.role = some .name) (hleft : ofNode left.node = .name qualifier path last)
    (hright : ofNode right.node = simple word arguments) :
    ofNode n = .name qualifier (path ++ [last]) (.segment word arguments) := by
  have hchildren := hmade.children
  have hleftIndex {fallback : Option Nat} :
      sideIndex? .qualifier fallback [left.node, dot.node, right.node] = some 0 :=
    sideIndex?_concat (List.forall_mem_nil _) (by simp [Node.plays, hqualifier]) _
  have hfront : ∀ m ∈ [left.node, dot.node], m.plays .name = false := by
    simp [Node.plays, hqualifier, hdot.role]
  have hrightIndex {fallback : Option Nat} :
      sideIndex? .name fallback [left.node, dot.node, right.node] = some 2 :=
    sideIndex?_concat hfront (by simp [Node.plays, hname]) []
  obtain ⟨kind, text, named, role, row, children⟩ := n
  obtain rfl : kind = .qualifiedName := Node.kind_of_isNamedOf hn
  obtain rfl : children = [left.node, dot.node, right.node] := hchildren
  rw [ofNode, joinSides]
  simp only [fst_readings, hleftIndex, hrightIndex]
  simp [readings, hleft, hright, simple]

theorem ofNode_aliased {colons : Part} {word : String} {arguments : List TypeExpr}
    (hn : n.isNamedOf (· == .aliasQualifiedName) = true) (hmade : Made n [left, colons, right])
    (hfront : left.node.role ≠ some .name) (hcolons : IsMark "::" colons)
    (hname : right.node.role = some .name) (hright : ofNode right.node = simple word arguments) :
    ofNode n = .name (some (Text.trim (String.ofList (beforeColons n.text.toList)))) []
      (.segment word arguments) := by
  have hchildren := hmade.children
  have hfront : ∀ m ∈ [left.node, colons.node], m.plays .name = false := by
    simp [Node.plays, hfront, hcolons.role]
  have hrightIndex {fallback : Option Nat} :
      sideIndex? .name fallback [left.node, colons.node, right.node] = some 2 :=
    sideIndex?_concat hfront (by simp [Node.plays, hname]) []
  obtain ⟨kind, text, named, role, row, children⟩ := n
  obtain rfl : kind = .aliasQualifiedName := Node.kind_of_isNamedOf hn
  obtain rfl : children = [left.node, colons.node, right.node] := hchildren
  rw [ofNode, joinAlias]
  simp only [fst_readings, hrightIndex]
  simp [readings, hright, simple, Node.text]

end

/-- A name that is no dotted one is read as a word with arguments. -/
theorem exists_simple {n : Node} (h : IsType n) (hsimple : n.kind.isSimpleName = true) :
    ∃ word arguments, IsBareWord word ∧ ofNode n = simple word arguments := by
  cases h with
  | identifier hn hword => exact ⟨_, _, hword, ofNode_identifier hn hword⟩
  | generic hn hmade hname hword harguments hlisted htypes =>
    exact ⟨_, _, hword, ofNode_generic hn hmade hname hword harguments hlisted htypes⟩
  | qualified hn | aliased hn | predefined hn | array hn | nullable hn | tuple hn =>
    rw [Node.kind_of_isNamedOf hn] at hsimple
    cases hsimple

/-- A name is read as a name. -/
theorem exists_name {n : Node} (h : IsType n) (hname : n.kind.isName = true) :
    ∃ qualifier path last, ofNode n = .name qualifier path last := by
  induction h with
  | identifier hn hword => exact ⟨_, _, _, ofNode_identifier hn hword⟩
  | generic hn hmade hfirst hword harguments hlisted htypes =>
    exact ⟨_, _, _, ofNode_generic hn hmade hfirst hword harguments hlisted htypes⟩
  | qualified hn hmade hqualifier hdot hrole _ hleftName hright hsimple ihleft =>
    obtain ⟨qualifier, path, last, hleft⟩ := ihleft hleftName
    obtain ⟨word, arguments, -, hright⟩ := exists_simple hright hsimple
    exact ⟨_, _, _, ofNode_qualified hn hmade hqualifier hdot hrole hleft hright⟩
  | aliased hn hmade _ hfront hcolons hrole hright hsimple =>
    obtain ⟨word, arguments, -, hright⟩ := exists_simple hright hsimple
    exact ⟨_, _, _, ofNode_aliased hn hmade hfront hcolons hrole hright⟩
  | predefined hn | array hn | nullable hn | tuple hn =>
    rw [Node.kind_of_isNamedOf hn] at hname
    cases hname

theorem beforeColons_append {cs : List Char} (h : ':' ∉ cs) (rest : List Char) :
    beforeColons (cs ++ ':' :: ':' :: rest) = cs := by
  induction cs with
  | nil => rfl
  | cons c cs ih =>
    obtain ⟨hc, hcs⟩ := not_or.1 (List.mem_cons.not.1 h)
    rw [List.cons_append, beforeColons.eq_def]
    split
    · next heq => exact absurd (List.cons.inj heq).1.symm hc
    · contradiction
    · next heq =>
      obtain ⟨rfl, rfl⟩ := List.cons.inj heq
      rw [ih hcs]

/-- The alias in front of a name keeps at most white space behind it. -/
theorem exists_alias {n : Node} {front colons right : Part} (hmade : Made n [front, colons, right])
    (hword : IsBareWord front.node.text) (hcolons : IsMark "::" colons) :
    ∃ gap : String, (∀ c ∈ gap.toList, Text.isGap c = true) ∧
      Text.trim (String.ofList (beforeColons n.text.toList)) = front.node.text ++ gap := by
  have hlead : ∀ c ∈ colons.lead.toList, Text.isGap c = true :=
    hmade.covers.gaps colons (by simp)
  have hfree : ':' ∉ (front.node.text ++ colons.lead).toList := by
    rw [String.toList_append, List.mem_append, not_or]
    exact ⟨fun hmem => absurd (hword.inWord _ hmem) (by decide),
      fun hmem => absurd (hlead _ hmem) (by decide)⟩
  have hbefore : String.ofList (beforeColons n.text.toList) = front.node.text ++ colons.lead := by
    have htext : n.text.toList = (front.node.text ++ colons.lead).toList ++
        ':' :: ':' :: (right.lead ++ right.node.text).toList := by
      rw [hmade.covers.text_eq, Part.textOf_cons_cons, Part.textOf_cons_cons, hcolons.text]
      simp [Part.textOf]
    rw [htext, beforeColons_append hfree, String.ofList_toList]
  obtain ⟨gap, hgap, htrim⟩ := Text.exists_trim_append hword.nonempty hword.isBlank colons.lead
  exact ⟨gap, fun c hc => hlead c (hgap c hc), hbefore ▸ htrim⟩

end TypeExpr

end Registrar
