/-
The two readings of a using directive. Its target is read off the children, and
its flags and alias are read off the text. Both agree when the words up to the
equals sign are set apart by blanks and the alias has word characters only, and
never otherwise (`ofNode_agrees_iff`). A comment before the equals sign makes an
alias an import (`comments_misread`).
-/
import Registrar.Proofs.DirectiveForms

namespace Registrar

open Registrar.CSharp

namespace Directive

open Registrar.Text Registrar.Tree

namespace IsWritten

variable {n : Node} {f : Form}

/-- No blanks stand around a directive. -/
theorem trim_text (h : IsWritten n f) : trim n.text = Part.textOf f.parts := by
  have hsolid : IsSolid (Part.textOf f.parts).toList := by
    cases hglobal : f.globalWord with
    | none => simpa [Form.parts, hglobal] using h.opens_using.solid
    | some g =>
      have hg := (h.globalWord g hglobal).isSolid (by decide)
      simp only [Form.parts, hglobal, Option.toList_some, List.singleton_append, Part.textOf,
        String.toList_append]
      exact isSolid_append hg _
  have hlast : (Part.textOf f.parts).toList.getLast? = some ';' := by
    have hparts : f.parts = (f.globalWord.toList ++ f.usingWord :: (f.staticWord.toList ++
        (f.unsafeWord.toList ++ ((f.naming.elim [] fun a => [a.name, a.equals]) ++ [f.target])))) ++
          [f.semicolon] := by
      simp [Form.parts, Form.behindUsing, Form.behindStatic, Form.behindUnsafe]
    rw [hparts, textOf_concat (by simp), h.semicolon.text, ← String.append_assoc, String.toList_append]
    exact List.getLast?_concat
  rw [h.text]
  refine trim_of_ends ?_ ?_
  · obtain ⟨c, rest, hcs, hblank, -⟩ := hsolid
    rw [hcs]
    simpa using hblank
  · rw [hlast]
    simpa using (by decide : isBlank ';' = false)

end IsWritten

/-! ## The target -/

/-- Comments are no part of a target. -/
theorem targetOf_filter (nodes : List Node) :
    targetOf (nodes.filter (·.kind != .closed)) = targetOf nodes := by
  have hfold (state : Option TypeExpr × Bool) :
      (nodes.filter (·.kind != .closed)).foldl targetOf.step state =
        nodes.foldl targetOf.step state := by
    induction nodes generalizing state with
    | nil => rfl
    | cons n rest ih =>
      rw [List.filter_cons]
      split
      · rw [List.foldl_cons, ih, List.foldl_cons]
      · next hclosed =>
        have hkind : n.kind = .closed := by simpa using hclosed
        have hstep : targetOf.step state n = state := by
          simp [targetOf.step, Node.isNamedOf, hkind, Kind.isType, Kind.isName]
        rw [ih, List.foldl_cons, hstep]
  rw [targetOf, hfold, targetOf]

theorem IsToken.step {word : String} {p : Part} (h : IsToken word p)
    (hword : Kind.ofLabel word ≠ .equalsSign) (state : Option TypeExpr × Bool) :
    targetOf.step state p.node = state := by
  simp [targetOf.step, Node.isNamedOf, h.unnamed, h.kind, hword]

/-- A type that is the first one, or stands behind an equals sign, is the target. -/
theorem step_type {n : Node} (h : n.isNamedOf Kind.isType = true) {state : Option TypeExpr × Bool}
    (hstate : (state.1.isNone || state.2) = true) :
    targetOf.step state n = (some (TypeExpr.ofNode n), state.2) := by
  have hkind : n.kind ≠ .equalsSign := by
    intro heq
    simp [Node.isNamedOf, heq, Kind.isType, Kind.isName] at h
  simp [targetOf.step, hkind, h, hstate]

namespace IsWritten

variable {n : Node} {f : Form}

/-- The keywords in front say nothing about the target. -/
theorem foldl_keywords (h : IsWritten n f) (state : Option TypeExpr × Bool) :
    (f.parts.map Part.node).foldl targetOf.step state =
      (f.behindUnsafe.map Part.node).foldl targetOf.step state := by
  have hoption : ∀ {word : String} (o : Option Part), Kind.ofLabel word ≠ .equalsSign →
      (∀ p ∈ o, IsToken word p) → ∀ state,
      (o.toList.map Part.node).foldl targetOf.step state = state := by
    intro word o hword ho state
    cases o with
    | none => rfl
    | some p => exact (ho p rfl).step hword state
  simp only [Form.parts, Form.behindUsing, Form.behindStatic, List.map_append, List.foldl_append,
    List.map_cons, List.foldl_cons]
  rw [hoption f.globalWord (by decide) h.globalWord, h.usingWord.step (by decide),
    hoption f.staticWord (by decide) h.staticWord, hoption f.unsafeWord (by decide) h.unsafeWord]

theorem targetOf_eq (h : IsWritten n f) :
    targetOf n.children = some (TypeExpr.ofNode f.target.node) := by
  rw [← targetOf_filter, h.children, targetOf, h.foldl_keywords]
  cases hnaming : f.naming with
  | none =>
    simp [Form.behindUnsafe, hnaming, step_type h.isType, h.semicolon.step (by decide)]
  | some a =>
    have ha := h.naming a hnaming
    have hequals (state : Option TypeExpr × Bool) :
        targetOf.step state a.equals.node = (none, true) := by
      have hkind : a.equals.node.kind = .equalsSign := ha.equals.kind.trans rfl
      simp [targetOf.step, hkind]
    simp [Form.behindUnsafe, hnaming, hequals, step_type h.isType, h.semicolon.step (by decide)]

/-- What a directive reads as. -/
theorem ofNode_eq (h : IsWritten n f) :
    ofNode n = ⟨Part.textOf f.parts, some (TypeExpr.ofNode f.target.node), f.seen.aliasName,
      f.seen.isStatic, f.seen.isGlobal⟩ := by
  rw [ofNode, h.trim_text, h.targetOf_eq, h.read_eq_seen]

end IsWritten

/-! ## Where both readings agree -/

namespace Form

/-- Where the directive has words to be read, there is a blank behind each of them and nothing but
blanks up to it, and a name with an equals sign consists of word characters. -/
structure Plain (f : Form) : Prop where
  globalWord : f.globalWord.isSome = true →
    allBlank f.usingWord.lead = true ∧ startsBlank (leadOf f.behindUsing) = true
  staticWord : f.staticWord.isSome = true →
    bySpace (leadOf f.behindUsing) = true ∧ startsBlank (leadOf f.behindStatic) = true
  naming : ∀ a ∈ f.naming, bySpace (leadOf f.behindUsing) = true ∧
    (f.unsafeWord.isSome = true → bySpace a.name.lead = true) ∧ allBlank a.equals.lead = true ∧
      a.word.toList.all Text.isWordChar = true

theorem seen_isGlobal (f : Form) :
    f.seen.isGlobal = (f.globalWord.isSome && (allBlank f.usingWord.lead &&
      startsBlank (leadOf f.behindUsing))) := by
  rw [seen, seenFrom]
  cases f.globalWord <;> cases allBlank f.usingWord.lead <;>
    cases startsBlank (leadOf f.behindUsing) <;> cases allBlank (leadOf f.behindUsing) <;> simp

theorem seen_isStatic (f : Form) :
    f.seen.isStatic = (f.staticWord.isSome && ((f.globalWord.all fun _ => allBlank f.usingWord.lead) &&
      bySpace (leadOf f.behindUsing) && startsBlank (leadOf f.behindStatic))) := by
  rw [seen, seenFrom, bySpace]
  cases f.globalWord.all fun _ => allBlank f.usingWord.lead <;>
    cases startsBlank (leadOf f.behindUsing) <;> cases allBlank (leadOf f.behindUsing) <;> simp

theorem seen_aliasName (f : Form) :
    f.seen.aliasName = if (f.globalWord.all fun _ => allBlank f.usingWord.lead) &&
      bySpace (leadOf f.behindUsing) then f.seenAlias else none := by
  rw [seen, seenFrom, bySpace]
  cases f.globalWord.all fun _ => allBlank f.usingWord.lead <;>
    cases startsBlank (leadOf f.behindUsing) <;> cases allBlank (leadOf f.behindUsing) <;> simp

theorem seenAlias_eq_word_iff {f : Form} {a : Naming} (ha : f.naming = some a) :
    f.seenAlias = some a.word ↔ (f.unsafeWord.isSome = true → bySpace a.name.lead = true) ∧
      allBlank a.equals.lead = true ∧ a.word.toList.all Text.isWordChar = true := by
  rw [seenAlias, ha, Option.bind_some, Option.ite_none_right_eq_some]
  cases f.unsafeWord <;> simp [and_assoc]

/-- The text shows all words of a directive when it is plain, and else it does not. -/
theorem seen_agrees_iff (f : Form) :
    (f.seen.isGlobal = f.globalWord.isSome ∧ f.seen.isStatic = f.staticWord.isSome ∧
      f.seen.aliasName = f.naming.map Naming.word) ↔ f.Plain := by
  rw [seen_isGlobal, seen_isStatic, seen_aliasName]
  constructor
  · rintro ⟨hglobal, hstatic, halias⟩
    refine ⟨?_, ?_, ?_⟩
    · intro hsome
      simpa [hsome] using hglobal
    · intro hsome
      simp only [hsome, Bool.true_and, Bool.and_eq_true] at hstatic
      exact ⟨hstatic.1.2, hstatic.2⟩
    · intro a ha
      rw [ha, Option.map_some, Option.ite_none_right_eq_some, Bool.and_eq_true,
        seenAlias_eq_word_iff ha] at halias
      exact ⟨halias.1.2, halias.2⟩
  · rintro ⟨hglobal, hstatic, hnaming⟩
    have hfront : (f.globalWord.all fun _ => allBlank f.usingWord.lead) = true := by
      cases hg : f.globalWord with
      | none => rfl
      | some g => exact (hglobal (by simp [hg])).1
    rw [hfront]
    refine ⟨?_, ?_, ?_⟩
    · cases hsome : f.globalWord.isSome with
      | false => rfl
      | true => simp [hglobal hsome]
    · cases hsome : f.staticWord.isSome with
      | false => rfl
      | true => simp [hstatic hsome]
    · cases ha : f.naming with
      | none => simp [seenAlias, ha]
      | some a =>
        obtain ⟨hspace, hword⟩ := hnaming a ha
        simp [hspace, (seenAlias_eq_word_iff ha).2 hword]

/-- A name is missed as a whole, or it is read. -/
theorem seen_aliasName_eq_none_iff {f : Form} {a : Naming} (ha : f.naming = some a)
    (hstatic : f.staticWord = none) : f.seen.aliasName = none ↔ ¬ f.Plain := by
  constructor
  · intro hnone hplain
    have halias := (f.seen_agrees_iff.2 hplain).2.2
    rw [hnone, ha] at halias
    cases halias
  · intro hplain
    refine Option.eq_none_iff_forall_ne_some.2 fun word hword => hplain (f.seen_agrees_iff.1 ?_)
    have hread := hword
    rw [seen_aliasName, Option.ite_none_right_eq_some, Bool.and_eq_true, seenAlias, ha,
      Option.bind_some, Option.ite_none_right_eq_some] at hread
    obtain ⟨⟨hfront, hspace⟩, -, hsame⟩ := hread
    rw [bySpace, Bool.and_eq_true] at hspace
    refine ⟨?_, ?_, ?_⟩
    · rw [seen_isGlobal, hspace.1]
      cases hg : f.globalWord with
      | none => rfl
      | some g => simpa [hg] using hfront
    · rw [seen_isStatic, hstatic]
      rfl
    · rw [hword, ha, ← hsame]
      rfl

end Form

/-- An alias to a name is taken for the import of a namespace unless the directive is plain. -/
theorem IsWritten.imports_alias_iff {n : Node} {f : Form} (h : IsWritten n f)
    (hnamed : f.naming.isSome = true) {front : Option String} {path : List Segment}
    {last : Segment} (htarget : TypeExpr.ofNode f.target.node = .name front path last) :
    (ofNode n).importedNamespace? = some (TypeExpr.dotted path last) ↔ ¬ f.Plain := by
  obtain ⟨a, ha⟩ := Option.isSome_iff_exists.1 hnamed
  have hstatic : f.staticWord = none := h.exclusive.resolve_right (by simp [ha])
  have hseen : f.seen.isStatic = false := by rw [Form.seen_isStatic, hstatic]; rfl
  rw [← Form.seen_aliasName_eq_none_iff ha hstatic, h.ofNode_eq, htarget, hseen, importedNamespace?]
  cases f.seen.aliasName <;> simp

/-! ## A directive with an alias -/

/-- A word or sign as a part. -/
def token (lead word : String) : Part :=
  ⟨lead, .node (Kind.ofLabel word) word false none 0 []⟩

/-- The target `System.Text` behind a blank. -/
def systemText : Part :=
  ⟨" ", .node .qualifiedName "System.Text" true none 0
    [.node .identifier "System" true (some .qualifier) 0 [], .node (.other ".") "." false none 0 [],
      .node .identifier "Text" true (some .name) 0 []]⟩

/-- The directive `global using name = System.Text;`, with what stands before `using` and before the
equals sign. -/
def globalAlias (before name behind : String) : Form where
  globalWord := some (token "" "global")
  usingWord := token before "using"
  staticWord := none
  unsafeWord := none
  naming := some ⟨name, ⟨" ", .node .identifier name true (some .name) 0 []⟩, token behind "="⟩
  target := systemText
  semicolon := token "" ";"

/-- The node of a directive. -/
def Form.node (f : Form) : Node :=
  .node .usingDirective (Part.textOf f.parts) true none 0 (f.parts.map Part.node)

/-- The directive gives an alias, which is missed, so that a namespace is imported. -/
structure IsMisread (f : Form) (ns : String) : Prop where
  isWritten : IsWritten f.node f
  named : f.naming.isSome = true
  aliasName : (ofNode f.node).aliasName = none
  imports : (ofNode f.node).importedNamespace? = some ns

theorem isWritten_globalAlias {before name behind : String} (hbefore : IsLead before)
    (hne : before ≠ "") (hname : IsBareWord name) (hkeyword : name ∉ targetKeywords)
    (hbehind : IsLead behind) :
    IsWritten (globalAlias before name behind).node (globalAlias before name behind) where
  text := rfl
  children := rfl
  leads := by
    have hblank : IsLead " " := by decide
    have hnone : IsLead "" := by decide
    simpa [globalAlias, Form.parts, Form.behindUsing, Form.behindStatic, Form.behindUnsafe, token]
      using ⟨hnone, hbefore, hblank, hbehind, hblank, hnone⟩
  apart := by
    have hspace : ∀ {p q : Part}, q.lead ≠ "" → Separate p q := fun hlead hempty => absurd hempty hlead
    have hequals : ∀ p : Part, Separate p (token behind "=") := by
      rintro p - a - b hb
      obtain rfl : '=' = b := by simpa [token, Node.text] using hb
      have hsign : isInWord '=' = false := by decide
      exact .inr (by simp [runsOn, hsign])
    have hblank : " " ≠ "" := by decide
    have hend : Separate systemText (token "" ";") := by decide
    exact .cons_cons (hspace hne) (.cons_cons (hspace hblank) (.cons_cons (hequals _)
      (.cons_cons (hspace hblank) (.cons_cons hend (.singleton _)))))
  globalWord := by
    rintro p ⟨⟩
    exact ⟨rfl, rfl, rfl⟩
  usingWord := ⟨rfl, rfl, rfl⟩
  staticWord := nofun
  unsafeWord := nofun
  naming := by
    rintro a ⟨⟩
    exact ⟨rfl, hname, .inl ⟨rfl, hkeyword⟩, rfl, rfl, rfl⟩
  exclusive := .inl rfl
  isType := rfl
  begins := by
    have hbegins : BeginsType ("System" ++ ".Text") :=
      .word (by decide) (by decide) (by decide) (by decide)
    exact hbegins
  semicolon := ⟨rfl, rfl, rfl⟩

/-- The words up to the target are read off the text as they stand among the children when the
directive is plain, and else they are not; the target is the type in both cases. -/
theorem ofNode_agrees_iff {n : Node} {f : Form} (h : IsWritten n f) :
    (ofNode n).target = some (TypeExpr.ofNode f.target.node) ∧
      (((ofNode n).isGlobal = f.globalWord.isSome ∧ (ofNode n).isStatic = f.staticWord.isSome ∧
        (ofNode n).aliasName = f.naming.map Naming.word) ↔ f.Plain) ∧
      (f.Plain → ∀ ns, (ofNode n).importedNamespace? = some ns →
        f.staticWord = none ∧ f.naming = none) := by
  rw [h.ofNode_eq]
  refine ⟨rfl, f.seen_agrees_iff, fun hplain ns hns => ?_⟩
  obtain ⟨-, hstatic, halias⟩ := f.seen_agrees_iff.2 hplain
  simp only [importedNamespace?, hstatic, halias] at hns
  split at hns
  · next hname hword _ => exact ⟨by simpa using hword, by simpa using hname⟩
  · cases hns

theorem ofNode_agrees_iff_globalAlias :
    IsWritten (globalAlias " " "Short" " ").node (globalAlias " " "Short" " ") ∧
      (ofNode (globalAlias " " "Short" " ").node).isGlobal = true ∧
      (ofNode (globalAlias " " "Short" " ").node).aliasName = some "Short" ∧
      (ofNode (globalAlias " " "Short" " ").node).importedNamespace? = none := by
  have hwritten : IsWritten (globalAlias " " "Short" " ").node (globalAlias " " "Short" " ") :=
    isWritten_globalAlias (by decide) (by decide) (by decide) (by decide) (by decide)
  have hplain : (globalAlias " " "Short" " ").Plain :=
    ⟨fun _ => by decide, nofun, by rintro a ⟨⟩; exact ⟨by decide, nofun, by decide, by decide⟩⟩
  obtain ⟨-, hwords, himport⟩ := ofNode_agrees_iff hwritten
  obtain ⟨hglobal, -, halias⟩ := hwords.2 hplain
  refine ⟨hwritten, hglobal, halias, Option.eq_none_iff_forall_ne_some.2 fun ns hns => ?_⟩
  cases (himport hplain ns hns).2

/-- A comment before the equals sign, one behind `global`, and a letter with a mark of its own. -/
theorem comments_misread :
    IsMisread (globalAlias " " "Short" " /* for */ ") "System.Text" ∧
      IsMisread (globalAlias " /* all */ " "Short" " ") "System.Text" ∧
      IsMisread (globalAlias " " "nai\u0308ve" " ") "System.Text" := by
  have hmisread (before name behind : String) (hname : IsBareWord name ∧ name ∉ targetKeywords)
      (hleads : IsLead before ∧ before ≠ "" ∧ IsLead behind)
      (hseen : (globalAlias before name behind).seen.aliasName = none) :
      IsMisread (globalAlias before name behind) "System.Text" := by
    obtain ⟨⟨hword, hkeyword⟩, hbefore, hne, hbehind⟩ := And.intro hname hleads
    have hwritten := isWritten_globalAlias hbefore hne hword hkeyword hbehind
    have hplain : ¬ (globalAlias before name behind).Plain :=
      (Form.seen_aliasName_eq_none_iff rfl rfl).1 hseen
    have himports := (hwritten.imports_alias_iff rfl rfl).2 hplain
    exact ⟨hwritten, rfl, by rw [hwritten.ofNode_eq, hseen], himports⟩
  exact ⟨hmisread " " "Short" " /* for */ " (by decide) (by decide) (by decide +kernel),
    hmisread " /* all */ " "Short" " " (by decide) (by decide) (by decide +kernel),
    hmisread " " "nai\u0308ve" " " (by decide) (by decide) (by decide +kernel)⟩

end Directive

end Registrar
