/-
The namespaces around a declaration are levels of the search for its names. The
walk that finds a declaration puts namespaces together as it enters them, and
the search takes the namespace of the declaration apart at its dots. What they
have in common is that an outer namespace `Encloses` an inner one: the levels of
the search are all that enclose a namespace (`mem_enclosing_iff`), and each scope
of a declaration encloses the one inside it, from its own namespace to the global
one (`Stacked`, kept by each step of the walk). So every scope is on a level that
is searched, and what its directives import is left out only where something
nearer has the name (`scopes_searched`).
-/
import Registrar.Proofs.Identity
import Registrar.Proofs.UsingOrder
import Registrar.Proofs.Walk

namespace Registrar

namespace Text

/-! ## The namespaces that enclose a namespace -/

/-- The namespace `outer` is `ns`, or the global one, or what stands in front of a dot of `ns`. -/
def Encloses (outer ns : String) : Prop :=
  outer = ns ∨ outer = "" ∨ ∃ rest, ns = outer ++ "." ++ rest

theorem Encloses.refl (ns : String) : Encloses ns ns :=
  .inl rfl

theorem Encloses.trans {outer mid ns : String} (h : Encloses outer mid) (h' : Encloses mid ns) :
    Encloses outer ns := by
  rcases h with rfl | rfl | ⟨rest, rfl⟩
  · exact h'
  · exact .inr (.inl rfl)
  · rcases h' with rfl | hempty | ⟨rest', rfl⟩
    · exact .inr (.inr ⟨rest, rfl⟩)
    · simp at hempty
    · exact .inr (.inr ⟨rest ++ "." ++ rest', by simp only [String.append_assoc]⟩)

theorem encloses_extend (ns name : String) : Encloses ns (extend ns name) := by
  unfold extend qualify
  split
  · exact .refl ns
  · split
    · next hempty => exact .inr (.inl (String.isEmpty_iff.1 hempty))
    · exact .inr (.inr ⟨name, rfl⟩)

theorem beforeLastDot_append {cs name : List Char} (h : '.' ∉ name) :
    beforeLastDot (cs ++ '.' :: name) = cs := by
  rw [beforeLastDot, List.reverse_append, List.reverse_cons, List.append_assoc,
    List.dropWhile_append_of_pos (forall_ne_dot_of_not_mem h)]
  simp

theorem beforeLastDot_of_not_mem {cs : List Char} (h : '.' ∉ cs) : beforeLastDot cs = [] := by
  rw [beforeLastDot, ← List.append_nil cs.reverse,
    List.dropWhile_append_of_pos (forall_ne_dot_of_not_mem h)]
  rfl

/-- A text with a dot is split at its last one. -/
theorem exists_append_dot {cs : List Char} (h : '.' ∈ cs) :
    ∃ front name, cs = front ++ '.' :: name ∧ '.' ∉ name := by
  obtain ⟨back, front, hsplit, hback⟩ := List.eq_append_cons_of_mem (List.mem_reverse.2 h)
  refine ⟨front.reverse, back.reverse, ?_, by simpa using hback⟩
  rw [← List.reverse_inj, hsplit]
  simp

/-- What stands in front of a dot is what stands in front of the last one, or in front of a dot of
that. -/
theorem append_dot_eq_append_dot_iff {front name outer : List Char} (h : '.' ∉ name) :
    (∃ rest, front ++ '.' :: name = outer ++ '.' :: rest) ↔
      outer = front ∨ ∃ rest, front = outer ++ '.' :: rest := by
  constructor
  · intro hsplit
    obtain ⟨rest, hsplit⟩ := hsplit
    rcases List.append_eq_append_iff.1 hsplit with ⟨between, rfl, hname⟩ | ⟨between, rfl, hrest⟩
    · cases between with
      | nil => exact .inl (by simp)
      | cons c between =>
        -- Otherwise the dot behind `outer` would be one of `name`.
        have hdot : '.' ∈ name := by
          rw [(List.cons.inj hname).2]
          simp
        exact absurd hdot h
    · cases between with
      | nil => exact .inl (by simp)
      | cons c between =>
        rw [(List.cons.inj hrest).1]
        exact .inr ⟨between, rfl⟩
  · intro h
    rcases h with rfl | ⟨rest, rfl⟩
    · exact ⟨name, rfl⟩
    · exact ⟨rest ++ '.' :: name, by simp⟩

theorem mem_enclosingParts_iff {cs part : List Char} :
    part ∈ enclosingParts cs ↔ part ≠ [] ∧ (part = cs ∨ ∃ rest, cs = part ++ '.' :: rest) := by
  induction cs using enclosingParts.induct with
  | case1 =>
    rw [enclosingParts]
    simp
  | case2 c cs ih =>
    rw [enclosingParts, List.mem_cons, ih]
    by_cases hdot : '.' ∈ c :: cs
    · obtain ⟨front, name, hsplit, hname⟩ := exists_append_dot hdot
      rw [hsplit, beforeLastDot_append hname, append_dot_eq_append_dot_iff hname]
      constructor
      · intro h
        rcases h with rfl | ⟨hne, h⟩
        · exact ⟨by simp, .inl rfl⟩
        · exact ⟨hne, .inr h⟩
      · intro h
        obtain ⟨hne, rfl | h⟩ := h
        · exact .inl rfl
        · exact .inr ⟨hne, h⟩
    · rw [beforeLastDot_of_not_mem hdot]
      constructor
      · intro h
        rcases h with rfl | ⟨hne, h⟩
        · exact ⟨List.cons_ne_nil c cs, .inl rfl⟩
        · simp [hne] at h
      · intro h
        obtain ⟨hne, rfl | ⟨rest, hsplit⟩⟩ := h
        · exact .inl rfl
        · rw [hsplit] at hdot
          simp at hdot

/-- The levels of a search are all namespaces that enclose the innermost one. -/
theorem mem_enclosing_iff {ns outer : String} : outer ∈ enclosing ns ↔ Encloses outer ns := by
  have hparts : ∀ part : List Char, String.ofList part = outer ↔ part = outer.toList := by
    intro part
    rw [← String.toList_inj, String.toList_ofList]
  have hdots : (∃ rest, ns.toList = outer.toList ++ '.' :: rest) ↔
      ∃ rest, ns = outer ++ "." ++ rest := by
    constructor
    · intro h
      obtain ⟨rest, h⟩ := h
      refine ⟨String.ofList rest, ?_⟩
      rw [← String.toList_inj, h]
      simp
    · intro h
      obtain ⟨rest, rfl⟩ := h
      exact ⟨rest.toList, by simp⟩
  unfold enclosing Encloses
  rw [List.mem_append, List.mem_map, List.mem_singleton]
  simp only [hparts, exists_eq_right, mem_enclosingParts_iff, hdots, String.toList_inj]
  by_cases hempty : outer = ""
  · simp [hempty]
  · simp [hempty]

theorem enclosing_head? (ns : String) : (enclosing ns).head? = some ns := by
  unfold enclosing
  cases hns : ns.toList with
  | nil =>
    rw [enclosingParts, String.toList_eq_nil_iff.1 hns]
    rfl
  | cons c cs =>
    rw [enclosingParts, ← hns]
    simp

theorem enclosing_getLast? (ns : String) : (enclosing ns).getLast? = some "" := by
  unfold enclosing
  exact List.getLast?_concat

theorem length_le_of_mem_enclosingParts {cs part : List Char} (h : part ∈ enclosingParts cs) :
    part.length ≤ cs.length := by
  rcases (mem_enclosingParts_iff.1 h).2 with rfl | ⟨rest, rfl⟩
  · exact Nat.le_refl _
  · simp

/-- Each level is shorter than those inside it. -/
theorem enclosing_pairwise (ns : String) :
    (enclosing ns).Pairwise fun inner outer => outer.length < inner.length := by
  have hparts : ∀ cs, (enclosingParts cs).Pairwise fun inner outer =>
      outer.length < inner.length := by
    intro cs
    induction cs using enclosingParts.induct with
    | case1 =>
      rw [enclosingParts]
      exact .nil
    | case2 c cs ih =>
      rw [enclosingParts]
      refine .cons (fun part hpart => ?_) ih
      exact Nat.lt_of_le_of_lt (length_le_of_mem_enclosingParts hpart) (beforeLastDot_length_lt c cs)
  unfold enclosing
  refine List.pairwise_append.2 ⟨?_, List.pairwise_singleton _ _, ?_⟩
  · rw [List.pairwise_map]
    simpa using hparts ns.toList
  · intro inner hinner outer houter
    obtain ⟨part, hpart, rfl⟩ := List.mem_map.1 hinner
    rw [List.mem_singleton.1 houter]
    simpa using List.length_pos_of_ne_nil (mem_enclosingParts_iff.1 hpart).1

end Text

/-! ## The scopes of a declaration -/

/-- The scope `inner` is one of a namespace in that of `outer`, or of the same one. -/
def UsingScope.Within (inner outer : UsingScope) : Prop :=
  Text.Encloses outer.ns inner.ns

instance : Trans UsingScope.Within UsingScope.Within UsingScope.Within :=
  ⟨fun h h' => Text.Encloses.trans h' h⟩

/-- The scopes begin with one of the namespace `ns` and end with one of the global namespace, and
each lies within the next one. -/
structure Stacked (ns : String) (scopes : List UsingScope) : Prop where
  first : scopes.head?.map UsingScope.ns = some ns
  last : scopes.getLast?.map UsingScope.ns = some ""
  within : scopes.IsChain UsingScope.Within

namespace Stacked

variable {ns : String} {scopes : List UsingScope}

theorem global (directives : List Directive) : Stacked "" [⟨"", directives⟩] :=
  ⟨rfl, rfl, .singleton _⟩

theorem exists_cons (h : Stacked ns scopes) :
    ∃ scope rest, scopes = scope :: rest ∧ scope.ns = ns := by
  obtain ⟨scope, hhead, hns⟩ := Option.map_eq_some_iff.1 h.first
  obtain ⟨rest, hscopes⟩ := List.head?_eq_some_iff.1 hhead
  exact ⟨scope, rest, hscopes, hns⟩

/-- A namespace inside the innermost one may be put in front. -/
theorem cons (h : Stacked ns scopes) {inner : String} (hinner : Text.Encloses ns inner)
    (directives : List Directive) : Stacked inner (⟨inner, directives⟩ :: scopes) := by
  obtain ⟨scope, rest, rfl, rfl⟩ := h.exists_cons
  exact ⟨rfl, by rw [List.getLast?_cons_cons]; exact h.last, .cons_cons hinner h.within⟩

/-- Every one of the namespaces encloses the innermost one. -/
theorem encloses_of_mem (h : Stacked ns scopes) {scope : UsingScope} (hscope : scope ∈ scopes) :
    Text.Encloses scope.ns ns := by
  obtain ⟨inner, rest, rfl, rfl⟩ := h.exists_cons
  rcases List.mem_cons.1 hscope with rfl | hrest
  · exact .refl _
  · exact (List.pairwise_cons.1 h.within.pairwise).1 scope hrest

end Stacked

theorem Surroundings.stacked_after {here : Surroundings} (h : Stacked here.ns here.scopes)
    (n : Tree.Node) : Stacked (here.after n).ns (here.after n).scopes := by
  unfold after
  split
  · exact h.cons (Text.encloses_extend _ _) _
  · exact h

theorem Enters.stacked {here inner : Surroundings} {n : Tree.Node} {members : List Tree.Node}
    (henters : Enters here n inner members) (h : Stacked here.ns here.scopes) :
    Stacked inner.ns inner.scopes := by
  cases henters with
  | block _ _ | file _ => exact h.cons (Text.encloses_extend _ _) _
  | type _ _ | plain _ _ _ _ _ => exact h

theorem Reaches.stacked {here there : Surroundings} {members : List Tree.Node} {n : Tree.Node}
    (hreaches : Reaches here members there n) (h : Stacked here.ns here.scopes) :
    Stacked there.ns there.scopes := by
  induction hreaches with
  | member _ => exact h
  | sibling _ ih => exact ih (Surroundings.stacked_after h _)
  | entered _ henters _ ih => exact ih (henters.stacked h)

/-- The scopes of a declaration lead from its namespace to the global one. -/
theorem SourceUnit.scopes_stacked {u : SourceUnit} {d : TypeDeclaration} (h : d ∈ u.declarations) :
    Stacked d.ns d.scopes := by
  obtain ⟨there, n, hreaches, hown⟩ := mem_memberDeclarations.1 h
  obtain ⟨_, hns, _, hscopes⟩ := ownDeclaration?_surroundings hown
  rw [hns, hscopes]
  exact hreaches.stacked (.global _)

/-! ## What the search makes of an import -/

namespace Environment

variable {env : Environment} {d : TypeDeclaration} {precision : Precision} {name level : String}
  {arity : Int} {s : Symbol}

theorem meaningAt_ne_missing (h : env.ImportedAt d precision name arity level s) :
    env.meaningAt (env.scopesOf d) precision name arity level ≠ .missing := by
  cases hmember : env.find precision (Text.qualify level name) arity with
  | some member =>
    rw [meaningAt, hmember]
    exact fun hmissing => by cases hmissing
  | none =>
    intro hmissing
    have hmem := mem_symbols_meaningAt h hmember
    rw [hmissing] at hmem
    cases hmem

theorem meaningIn_ne_missing {scopes : List UsingScope} {levels : List String}
    (hlevel : level ∈ levels) (h : env.meaningAt scopes precision name arity level ≠ .missing) :
    env.meaningIn scopes precision name arity levels ≠ .missing := by
  induction levels with
  | nil => cases hlevel
  | cons nearest outer ih =>
    unfold meaningIn
    cases hnearest : env.meaningAt scopes precision name arity nearest with
    | found _ | clash _ => exact fun hmissing => by cases hmissing
    | missing =>
      rcases List.mem_cons.1 hlevel with rfl | hlevel
      · exact absurd hnearest h
      · exact ih hlevel

/-- What is imported on a level that is searched gives the name a meaning. -/
theorem lookupSimple_ne_missing (h : env.ImportedAt d precision name arity level s)
    (hlevel : level ∈ Text.enclosing d.ns) :
    env.lookupSimple d precision name arity ≠ .missing := by
  unfold lookupSimple
  split
  · exact fun hmissing => by cases hmissing
  · exact meaningIn_ne_missing hlevel (meaningAt_ne_missing h)

/-- The search that comes to the imports of a level takes them all into account. -/
theorem mem_symbols_lookupSimple (h : env.ImportedAt d precision name arity level s)
    (hasks : env.AsksImports d precision name arity level) :
    s.key ∈ (env.lookupSimple d precision name arity).symbols.map Symbol.key := by
  rw [hasks.lookupSimple_eq (meaningAt_ne_missing h)]
  exact mem_symbols_meaningAt h hasks.member

/-- Every scope around a declaration is on a level that is searched. The levels of a namespace are
all that enclose it, the longest first; the scopes of a declaration lead from its namespace to the
global one and are on its levels, and so is the scope of the global directives. So what a scope
imports under a name gives it a meaning, and is part of the meaning that is found unless something
nearer has the name. -/
theorem scopes_searched :
    (∀ ns, (Text.enclosing ns).head? = some ns ∧ (Text.enclosing ns).getLast? = some "" ∧
      ((Text.enclosing ns).Pairwise fun inner outer => outer.length < inner.length) ∧
      ∀ outer, outer ∈ Text.enclosing ns ↔ Text.Encloses outer ns) ∧
    ∀ (u : SourceUnit), ∀ d ∈ u.declarations,
      (d.scopes ≠ [] ∧ Stacked d.ns d.scopes) ∧
      ∀ (units : List SourceUnit) (references : List Reference),
        let env := build units references
        ∀ scope ∈ env.scopesOf d, scope.ns ∈ Text.enclosing d.ns ∧
          ∀ precision name arity s, env.ImportedAt d precision name arity scope.ns s →
            env.lookupSimple d precision name arity ≠ .missing ∧
            (env.AsksImports d precision name arity scope.ns →
              s.key ∈ (env.lookupSimple d precision name arity).symbols.map Symbol.key) := by
  refine ⟨fun ns => ⟨Text.enclosing_head? ns, Text.enclosing_getLast? ns,
    Text.enclosing_pairwise ns, fun _ => Text.mem_enclosing_iff⟩, ?_⟩
  intro u d hd
  have hstacked := SourceUnit.scopes_stacked hd
  refine ⟨⟨?_, hstacked⟩, ?_⟩
  · obtain ⟨scope, rest, hscopes, _⟩ := hstacked.exists_cons
    rw [hscopes]
    exact List.cons_ne_nil scope rest
  · intro units references env scope hscope
    have hlevel : scope.ns ∈ Text.enclosing d.ns := by
      rw [Text.mem_enclosing_iff]
      rcases List.mem_append.1 hscope with hscope | hscope
      · exact hstacked.encloses_of_mem hscope
      · rw [List.mem_singleton.1 hscope]
        exact .inr (.inl rfl)
    refine ⟨hlevel, fun precision name arity s himported => ?_⟩
    exact ⟨lookupSimple_ne_missing himported hlevel, mem_symbols_lookupSimple himported⟩

end Environment

/-! ## An import between two namespaces -/

namespace Sample

open Registrar.Tree

/-- `class User : Thing` in the namespace `C` inside `A.B`, where `Far` is imported. -/
def nestedImport : SourceUnit :=
  file "nested.cs"
    [namespaceAround "Far" [typeNode .class [] "Thing" [] []],
      namespaceAround "A.B"
        [importDirective "using Far;" "Far",
          namespaceAround "C" [typeNode .class [] "User" [] [word .identifier "Thing" none]]]]

/-- The class `User`. -/
def nestedUser : TypeDeclaration :=
  nestedImport.declarations.get ⟨1, by decide⟩

end Sample

namespace Environment

open Sample

theorem asksImports_nestedUser :
    (build [nestedImport] []).AsksImports nestedUser .exactArity "Thing" 0 "A.B" where
  nested := rfl
  reached := by
    refine ⟨["A.B.C"], ["A", ""], by decide +kernel, fun near hnear => ?_⟩
    rw [List.mem_singleton.1 hnear]
    rfl
  member := rfl

theorem scopes_searched_nestedUser :
    let env := build [nestedImport] []
    nestedUser ∈ nestedImport.declarations ∧
      nestedUser.scopes.map UsingScope.ns = ["A.B.C", "A.B", ""] ∧
      Text.enclosing nestedUser.ns = ["A.B.C", "A.B", "A", ""] ∧
      Stacked "A.B.C" nestedUser.scopes ∧
      (∃ scope ∈ env.scopesOf nestedUser, scope.ns = "A.B" ∧
        ∃ s, env.ImportedAt nestedUser .exactArity "Thing" 0 scope.ns s ∧
          env.AsksImports nestedUser .exactArity "Thing" 0 scope.ns) ∧
      ⟨"Far.Thing", 0⟩ ∈
        (env.lookupSimple nestedUser .exactArity "Thing" 0).symbols.map Symbol.key := by
  intro env
  have hmem : nestedUser ∈ nestedImport.declarations := List.get_mem _ _
  obtain ⟨-, hwalk⟩ := scopes_searched
  obtain ⟨⟨-, hstacked⟩, hsearched⟩ := hwalk nestedImport nestedUser hmem
  obtain ⟨s, hs, hkey⟩ : ∃ s, env.find .exactArity "Far.Thing" 0 = some s ∧
      s.key = ⟨"Far.Thing", 0⟩ := by
    rw [← Option.map_eq_some_iff]
    decide +kernel
  let scope := nestedUser.scopes.get ⟨1, by decide⟩
  have hscope : scope ∈ env.scopesOf nestedUser := List.mem_append_left _ (List.get_mem _ _)
  have himported : env.ImportedAt nestedUser .exactArity "Thing" 0 scope.ns s :=
    ⟨scope, hscope, rfl, "Far", by decide +kernel, "Far", by decide +kernel, hs⟩
  have hfound := ((hsearched [nestedImport] [] scope hscope).2 _ _ _ s himported).2
    asksImports_nestedUser
  rw [hkey] at hfound
  exact ⟨hmem, by decide +kernel, by decide +kernel, hstacked,
    ⟨scope, hscope, by decide +kernel, s, himported, asksImports_nestedUser⟩, hfound⟩

end Environment

end Registrar
