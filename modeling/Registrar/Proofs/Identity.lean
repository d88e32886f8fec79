/-
Which declarations are taken for parts of one type. A symbol is told by its
dotted name and its number of type parameters, so declarations share it when
these agree (`sharesSymbol_iff`). The dotted name says how the type and the
types around it are called, but not how many type parameters those around it
have. Where these numbers agree too, and no name holds a dot, the dotted name
can be taken apart from its end (`eq_of_dottedPath_eq`), and declarations share
a symbol exactly when they stand at the same place in the same nest of types
(`sameType_iff_sharesSymbol`). Where they differ, two types have one symbol,
and it is ambiguous (`nested_types_share_symbol`).
-/
import Registrar.Proofs.Table

namespace Registrar

/-! ## Dotted names from their end -/

namespace Text

theorem forall_ne_dot_of_not_mem {name : List Char} (h : '.' ∉ name) :
    ∀ c ∈ name.reverse, decide (c ≠ '.') = true := by
  intro c hc
  rw [decide_eq_true_iff]
  exact fun he => h (he ▸ List.mem_reverse.1 hc)

theorem lastPart_append {cs name : List Char} (h : '.' ∉ name) :
    lastPart (cs ++ '.' :: name) = name := by
  rw [lastPart, List.reverse_append, List.reverse_cons, List.append_assoc,
    List.takeWhile_append_of_pos (forall_ne_dot_of_not_mem h)]
  simp

/-- Equal texts have the same name behind their last dot and the same text in front of it. -/
theorem eq_of_append_dot_eq {front front' name name' : String} (h : '.' ∉ name.toList)
    (h' : '.' ∉ name'.toList) (heq : front ++ "." ++ name = front' ++ "." ++ name') :
    front = front' ∧ name = name' := by
  have hchars : front.toList ++ '.' :: name.toList = front'.toList ++ '.' :: name'.toList := by
    have := congrArg String.toList heq
    simpa using this
  have hname : name.toList = name'.toList := by
    have := congrArg lastPart hchars
    rwa [lastPart_append h, lastPart_append h'] at this
  rw [hname, List.append_left_inj] at hchars
  exact ⟨String.toList_inj.1 hchars, String.toList_inj.1 hname⟩

/-- A name without dots is no dotted name. -/
theorem ne_append_dot {name front last : String} (h : '.' ∉ name.toList) :
    name ≠ front ++ "." ++ last := by
  rintro rfl
  simp at h

/-- A namespace and names in it, the innermost one in front, with dots between them. -/
def dottedPath (ns : String) (names : List String) : String :=
  qualify ns (".".intercalate names.reverse)

theorem dottedPath_singleton (ns name : String) : dottedPath ns [name] = qualify ns name := by
  simp [dottedPath]

theorem dottedPath_cons {names : List String} (ns name : String) (h : names ≠ []) :
    dottedPath ns (name :: names) = dottedPath ns names ++ "." ++ name := by
  have hreverse : names.reverse ≠ [] := by simpa using h
  rw [dottedPath, dottedPath, List.reverse_cons,
    String.intercalate_append_of_ne_nil hreverse (by simp), String.intercalate_singleton]
  unfold qualify
  split <;> simp [String.append_assoc]

theorem eq_of_qualify_eq_of_not_mem {ns ns' name name' : String} (h : '.' ∉ name.toList)
    (h' : '.' ∉ name'.toList) (heq : qualify ns name = qualify ns' name') :
    ns = ns' ∧ name = name' := by
  unfold qualify at heq
  split at heq <;> split at heq
  · next hns hns' =>
    rw [String.isEmpty_iff] at hns hns'
    exact ⟨hns.trans hns'.symm, heq⟩
  · exact absurd heq (ne_append_dot h)
  · exact absurd heq.symm (ne_append_dot h')
  · exact eq_of_append_dot_eq h h' heq

/-- Paths with as many names are equal only when the namespaces and all names are, if there are no
dots in the names. -/
theorem eq_of_dottedPath_eq {ns ns' : String} {names names' : List String}
    (hlength : names.length = names'.length) (hne : names ≠ [])
    (h : ∀ name ∈ names, '.' ∉ name.toList) (h' : ∀ name ∈ names', '.' ∉ name.toList)
    (heq : dottedPath ns names = dottedPath ns' names') : ns = ns' ∧ names = names' := by
  -- The last dot of a path stands in front of its innermost name, so names come off one by one.
  induction names generalizing names' with
  | nil => exact absurd rfl hne
  | cons name around ih =>
    cases names' with
    | nil => cases hlength
    | cons name' around' =>
      rw [List.forall_mem_cons] at h h'
      have haround : around.length = around'.length := Nat.succ.inj hlength
      by_cases hnil : around = []
      · subst hnil
        obtain rfl : around' = [] := List.eq_nil_of_length_eq_zero haround.symm
        rw [dottedPath_singleton, dottedPath_singleton] at heq
        obtain ⟨hns, hname⟩ := eq_of_qualify_eq_of_not_mem h.1 h'.1 heq
        exact ⟨hns, by rw [hname]⟩
      · have hnil' : around' ≠ [] := by
          rintro rfl
          exact hnil (List.eq_nil_of_length_eq_zero haround)
        rw [dottedPath_cons ns name hnil, dottedPath_cons ns' name' hnil'] at heq
        obtain ⟨hfront, hname⟩ := eq_of_append_dot_eq h.1 h'.1 heq
        obtain ⟨hns, hnames⟩ := ih haround hnil h.2 h'.2 hfront
        exact ⟨hns, by rw [hname, hnames]⟩

end Text

/-! ## Places in a nest of types -/

namespace TypeDeclaration

/-- The names and numbers of type parameters of a declaration and of the types around it,
innermost first. -/
def levels (d : TypeDeclaration) : List (Option String × Nat) :=
  (d.name, d.arity) :: d.containers.map fun around => (around.name, around.typeParameters.length)

/-- How many type parameters the types around a declaration have, innermost first. -/
def outerArities (d : TypeDeclaration) : List Nat :=
  d.containers.map fun around => around.typeParameters.length

/-- Two declarations stand at one place: in one namespace, inside types of the
same names and numbers of type parameters, and with the same name and number
themselves. -/
def SameType (d e : TypeDeclaration) : Prop :=
  d.ns = e.ns ∧ d.levels = e.levels

/-- The declaration and the types around it have names, and no dots in them. -/
def PlainlyNamed (d : TypeDeclaration) : Prop :=
  ∀ level ∈ d.levels, ∃ name, level.1 = some name ∧ '.' ∉ name.toList

theorem levels_fst (d : TypeDeclaration) :
    d.levels.map Prod.fst = d.name :: d.containers.map Enclosing.name := by
  simp [levels]

theorem levels_snd (d : TypeDeclaration) : d.levels.map Prod.snd = d.arity :: d.outerArities := by
  simp [levels, outerArities]

theorem exists_names_of_forall {levels : List (Option String × Nat)}
    (h : ∀ level ∈ levels, ∃ name, level.1 = some name ∧ '.' ∉ name.toList) :
    ∃ names, levels.map Prod.fst = names.map some ∧ (∀ name ∈ names, '.' ∉ name.toList) ∧
      (levels.map Prod.fst).mapM id = some names := by
  induction levels with
  | nil => exact ⟨[], rfl, by simp, rfl⟩
  | cons level rest ih =>
    rw [List.forall_mem_cons] at h
    obtain ⟨⟨name, hname, hdot⟩, hrest⟩ := h
    obtain ⟨names, hfst, hdots, hmapM⟩ := ih hrest
    refine ⟨name :: names, by simp [hname, hfst], List.forall_mem_cons.2 ⟨hdot, hdots⟩, ?_⟩
    rw [List.map_cons, List.mapM_cons, hmapM, hname]
    rfl

/-- A plainly named declaration has a dotted path of names without dots. -/
theorem PlainlyNamed.exists_names {d : TypeDeclaration} (h : d.PlainlyNamed) :
    ∃ names, d.levels.map Prod.fst = names.map some ∧ (∀ name ∈ names, '.' ∉ name.toList) ∧
      d.qualifiedName? = some (Text.dottedPath d.ns names) := by
  obtain ⟨names, hfst, hdots, hmapM⟩ := exists_names_of_forall h
  refine ⟨names, hfst, hdots, ?_⟩
  rw [levels_fst] at hmapM
  rw [qualifiedName?, Registrar.qualifiedName?, hmapM]
  rfl

/-- Plainly named declarations stand at one place when their dotted names and all numbers of type
parameters agree. -/
theorem sameType_iff {d e : TypeDeclaration} (hd : d.PlainlyNamed) (he : e.PlainlyNamed) :
    SameType d e ↔ d.qualifiedName? = e.qualifiedName? ∧ d.arity = e.arity ∧
      d.outerArities = e.outerArities := by
  obtain ⟨names, hnames, hdots, hname⟩ := hd.exists_names
  obtain ⟨names', hnames', hdots', hname'⟩ := he.exists_names
  have harities : d.levels.map Prod.snd = e.levels.map Prod.snd ↔
      d.arity = e.arity ∧ d.outerArities = e.outerArities := by
    rw [levels_snd, levels_snd, List.cons.injEq]
  rw [hname, hname', Option.some.injEq, ← harities]
  constructor
  · intro ⟨hns, hlevels⟩
    have hsame : names = names' := by
      have := congrArg (List.map Prod.fst) hlevels
      rw [hnames, hnames'] at this
      exact (List.map_inj_right fun _ _ => Option.some.inj).1 this
    exact ⟨by rw [hns, hsame], congrArg (List.map Prod.snd) hlevels⟩
  · intro ⟨hpath, hsnd⟩
    have hlength : names.length = names'.length := by
      have hfst := congrArg List.length hnames
      have hfst' := congrArg List.length hnames'
      have hlevels := congrArg List.length hsnd
      simp only [List.length_map] at hfst hfst' hlevels
      omega
    have hne : names ≠ [] := by
      rintro rfl
      simp [levels] at hnames
    obtain ⟨hns, hsame⟩ := Text.eq_of_dottedPath_eq hlength hne hdots hdots' hpath
    have hfst : d.levels.map Prod.fst = e.levels.map Prod.fst := by rw [hnames, hnames', hsame]
    exact ⟨hns, (List.zip_of_prod hfst hsnd).trans (List.zip_of_prod rfl rfl).symm⟩

end TypeDeclaration

namespace Environment

open TypeDeclaration

/-- The declarations belong to one symbol of the table. -/
def SharesSymbol (env : Environment) (d e : TypeDeclaration) : Prop :=
  ∃ key s, env.table.get? key = some s ∧ d ∈ s.declarations ∧ e ∈ s.declarations

variable {units : List SourceUnit} {d e : TypeDeclaration}

/-- Declarations share a symbol when they have one dotted name and number of type parameters. -/
theorem sharesSymbol_iff (references : List Reference)
    (hd : d ∈ units.flatMap SourceUnit.declarations)
    (he : e ∈ units.flatMap SourceUnit.declarations) (hname : d.qualifiedName?.isSome = true) :
    (build units references).SharesSymbol d e ↔
      d.qualifiedName? = e.qualifiedName? ∧ d.arity = e.arity := by
  constructor
  · intro ⟨key, s, hs, hds, hes⟩
    obtain ⟨hdname, hdarity⟩ := key?_eq_some_iff.1 ((mem_declarations_of_get? hs).1 hds).2
    obtain ⟨hename, hearity⟩ := key?_eq_some_iff.1 ((mem_declarations_of_get? hs).1 hes).2
    exact ⟨hdname.trans hename.symm, Int.ofNat.inj (hdarity.trans hearity.symm)⟩
  · intro ⟨hsame, harity⟩
    obtain ⟨name, hdname⟩ := Option.isSome_iff_exists.1 hname
    obtain ⟨s, hs, _, hds, _⟩ := exists_symbol_of_mem references hd hdname
    have hkey : e.key? = some ⟨name, d.arity⟩ :=
      key?_eq_some_iff.2 ⟨hsame.symm.trans hdname, by rw [harity]⟩
    exact ⟨_, s, hs, hds, (mem_declarations_of_get? hs).2 ⟨he, hkey⟩⟩

/-- Plainly named declarations share a symbol when they have one dotted name
and number of type parameters. They then are declarations of one type exactly
when the types around them have the same numbers of type parameters too. -/
theorem sameType_iff_sharesSymbol (references : List Reference)
    (hd : d ∈ units.flatMap SourceUnit.declarations)
    (he : e ∈ units.flatMap SourceUnit.declarations)
    (hdname : d.PlainlyNamed) (hename : e.PlainlyNamed) :
    ((build units references).SharesSymbol d e ↔
      d.qualifiedName? = e.qualifiedName? ∧ d.arity = e.arity) ∧
    (SameType d e ↔
      (build units references).SharesSymbol d e ∧ d.outerArities = e.outerArities) := by
  obtain ⟨names, _, _, hname⟩ := hdname.exists_names
  have hshares := sharesSymbol_iff references hd he (by rw [hname]; rfl)
  exact ⟨hshares, by rw [sameType_iff hdname hename, hshares, and_assoc]⟩

end Environment

/-! ## Types of one name in a class and in a generic class -/

namespace Sample

/-- `class Outer` and `class Outer<T>`, each around a class `Inner`. -/
def outers : SourceUnit :=
  file "outer.cs"
    [classAround "Outer" [] [typeNode .class [] "Inner" [] []],
      classAround "Outer" ["T"] [typeNode .class [] "Inner" [] []]]

/-- `class Outer<T>` around a class `Inner` once more. -/
def genericOuter : SourceUnit :=
  file "generic.cs" [classAround "Outer" ["T"] [typeNode .class [] "Inner" [] []]]

/-- The class `Inner` of `class Outer` in `outer.cs`. -/
def plainInner : TypeDeclaration :=
  outers.declarations.get ⟨1, by decide⟩

/-- The class `Inner` of `class Outer<T>` in `outer.cs`. -/
def genericInner : TypeDeclaration :=
  outers.declarations.get ⟨3, by decide⟩

/-- The class `Inner` in `generic.cs`. -/
def genericInnerAgain : TypeDeclaration :=
  genericOuter.declarations.get ⟨1, by decide⟩

end Sample

namespace TypeDeclaration

instance (d : TypeDeclaration) : Decidable d.PlainlyNamed :=
  decidable_of_iff (∀ level ∈ d.levels, level.1.any fun name => '.' ∉ name.toList) (by
    simp [PlainlyNamed, Option.any_eq_true])

end TypeDeclaration

namespace Environment

open TypeDeclaration

theorem sameType_iff_sharesSymbol_inner :
    Sample.genericInner ∈ [Sample.outers, Sample.genericOuter].flatMap SourceUnit.declarations ∧
      Sample.genericInnerAgain ∈
        [Sample.outers, Sample.genericOuter].flatMap SourceUnit.declarations ∧
      Sample.genericInner.PlainlyNamed ∧ Sample.genericInnerAgain.PlainlyNamed ∧
      SameType Sample.genericInner Sample.genericInnerAgain ∧
      (build [Sample.outers, Sample.genericOuter] []).SharesSymbol Sample.genericInner
        Sample.genericInnerAgain := by
  have hd : Sample.genericInner ∈
      [Sample.outers, Sample.genericOuter].flatMap SourceUnit.declarations :=
    List.mem_flatMap.2 ⟨_, List.mem_cons_self, List.get_mem _ _⟩
  have he : Sample.genericInnerAgain ∈
      [Sample.outers, Sample.genericOuter].flatMap SourceUnit.declarations :=
    List.mem_flatMap.2 ⟨_, List.mem_cons_of_mem _ List.mem_cons_self, List.get_mem _ _⟩
  have hdname : Sample.genericInner.PlainlyNamed := by decide
  have hename : Sample.genericInnerAgain.PlainlyNamed := by decide
  have hsame : SameType Sample.genericInner Sample.genericInnerAgain := ⟨rfl, rfl⟩
  exact ⟨hd, he, hdname, hename, hsame,
    ((sameType_iff_sharesSymbol [] hd he hdname hename).2.1 hsame).1⟩

/-- The classes `Inner` inside `Outer` and `Outer<T>` are not partial and do
not stand at one place, but they have one symbol, which is ambiguous, and so
neither of them has a symbol of its own. -/
theorem nested_types_share_symbol :
    Sample.outers.declarations.map TypeDeclaration.isPartial = [false, false, false, false] ∧
      Sample.plainInner ∈ Sample.outers.declarations ∧
      Sample.genericInner ∈ Sample.outers.declarations ∧
      ¬ SameType Sample.plainInner Sample.genericInner ∧
      (build [Sample.outers] []).SharesSymbol Sample.plainInner Sample.genericInner ∧
      (build [Sample.outers] []).table.symbols.map (fun s => (s.key, s.isAmbiguous)) =
        [(⟨"Outer", 0⟩, false), (⟨"Outer.Inner", 0⟩, true), (⟨"Outer", 1⟩, false)] ∧
      ((build [Sample.outers] []).declaredSymbol? Sample.plainInner).isNone = true ∧
      ((build [Sample.outers] []).declaredSymbol? Sample.genericInner).isNone = true := by
  have hd : Sample.plainInner ∈ Sample.outers.declarations := List.get_mem _ _
  have he : Sample.genericInner ∈ Sample.outers.declarations := List.get_mem _ _
  have hdiffer : ¬ SameType Sample.plainInner Sample.genericInner :=
    fun h => absurd h.2 (by decide)
  have hshares : (build [Sample.outers] []).SharesSymbol Sample.plainInner Sample.genericInner :=
    (sharesSymbol_iff [] (List.mem_flatMap.2 ⟨_, List.mem_cons_self, hd⟩)
      (List.mem_flatMap.2 ⟨_, List.mem_cons_self, he⟩) (by decide)).2 ⟨by decide, by decide⟩
  exact ⟨by decide, hd, he, hdiffer, hshares, by decide, by decide, by decide⟩

end Environment

end Registrar
