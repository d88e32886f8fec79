/-
The order of using directives. Two scopes are `Reordered` when they have the
same directives, in any order and any number of times, and the first directive
of each alias is the same. A header whose scopes are reordered sees what it saw
before, so each written type means the same (`resolve_reordered`).

A name is `ContestedAt` a level when the search comes to that level and its
imports give the name two different symbols. Such a search ends in a clash,
whichever import stands first (`ContestedAt.lookupSimple_eq`).
-/
import Registrar.Proofs.Reordering
import Registrar.Proofs.ResolvedTypes
import Registrar.Proofs.Shadowing

namespace Registrar

namespace UsingScope

/-- The scopes are of one level and have the same directives, and the same first one for each
alias. -/
structure Reordered (a b : UsingScope) : Prop where
  ns : a.ns = b.ns
  directives : ∀ x, x ∈ a.directives ↔ x ∈ b.directives
  first : ∀ name, a.directives.find? (·.aliasName == some name) =
    b.directives.find? (·.aliasName == some name)

theorem Reordered.trans {a b c : UsingScope} (hab : a.Reordered b) (hbc : b.Reordered c) :
    a.Reordered c :=
  ⟨hab.ns.trans hbc.ns, fun x => (hab.directives x).trans (hbc.directives x),
    fun name => (hab.first name).trans (hbc.first name)⟩

/-- Where no two directives have one alias, they may stand in any order. -/
theorem reordered_perm {ds es : List Directive} (h : ds.Perm es)
    (hnodup : (ds.filterMap (·.aliasName)).Nodup) (ns : String) :
    Reordered ⟨ns, ds⟩ ⟨ns, es⟩ :=
  ⟨rfl, fun _ => h.mem_iff, Environment.find?_alias_perm h hnodup⟩

/-- Directives may be repeated behind all others. -/
theorem reordered_append {ds es : List Directive} (h : es ⊆ ds) (ns : String) :
    Reordered ⟨ns, ds⟩ ⟨ns, ds ++ es⟩ := by
  refine ⟨rfl, fun x => ?_, fun name => ?_⟩
  · rw [List.mem_append]
    exact ⟨.inl, fun hx => hx.elim id (h ·)⟩
  · dsimp only
    rw [List.find?_append]
    cases hfirst : ds.find? (·.aliasName == some name) with
    | some x => rfl
    | none =>
      -- A directive of the alias among the repeated ones would be among the others.
      have hnone : es.find? (·.aliasName == some name) = none := by
        rw [List.find?_eq_none] at hfirst ⊢
        exact fun x hx => hfirst x (h hx)
      rw [hnone, Option.none_or]

theorem Reordered.bringsSame {a b : UsingScope} (h : a.Reordered b) : a.BringsSame b := by
  refine ⟨h.ns, fun name => ?_, fun imported => ?_⟩
  · exact congrArg (·.bind Directive.target) (h.first name)
  · simp only [namespaces, List.mem_filter, List.mem_filterMap, h.directives]

end UsingScope

namespace Meaning

/-- The symbols that a name was found to mean, all of them when they clash. -/
def symbols : Meaning → List Symbol
  | found s => [s]
  | clash several => several
  | missing => []

theorem Alike.clash_right {m n : Meaning} (h : Alike m n) (hm : ∃ several, m = .clash several) :
    ∃ others, n = .clash others := by
  obtain ⟨several, rfl⟩ := hm
  cases h with
  | clash => exact ⟨_, rfl⟩

end Meaning

namespace Environment

open TypeExpr

variable {env : Environment} {d : TypeDeclaration} {scopes : List UsingScope} {g : UsingScope}
  {precision : Precision} {name level : String} {arity : Int}

/-- A header sees the same when its scopes and the global one are reordered. -/
theorem seesAlike_reordered (hscopes : List.Forall₂ UsingScope.Reordered d.scopes scopes)
    (hglobal : env.globalScope.Reordered g) :
    SeesAlike env d { env with globalScope := g } { d with scopes := scopes } where
  finds := fun _ _ _ => rfl
  ns := rfl
  containers := rfl
  parameters := fun _ => Iff.rfl
  scopes := by
    have hall := List.rel_append hscopes (.cons hglobal .nil)
    exact hall.imp fun _ _ h => h.bringsSame

/-! ## Names that two imports give -/

/-- A directive that the header of `d` sees on the level imports a namespace in which `name` is
found as `s`. -/
def ImportedAt (env : Environment) (d : TypeDeclaration) (precision : Precision) (name : String)
    (arity : Int) (level : String) (s : Symbol) : Prop :=
  ∃ scope ∈ env.scopesOf d, scope.ns = level ∧ ∃ imported ∈ scope.namespaces,
    ∃ reading ∈ readingsOf level imported,
      env.find precision (reading ++ "." ++ name) arity = some s

theorem importedAt_iff {s : Symbol} :
    env.ImportedAt d precision name arity level s ↔
      s ∈ (importedNames (env.scopesOf d) level name).filterMap
        fun full => env.find precision full arity := by
  simp only [ImportedAt, importedNames, List.mem_filterMap, List.mem_flatMap, List.mem_filter,
    List.mem_map, beq_iff_eq]
  constructor
  · rintro ⟨scope, hscope, hns, imported, himported, reading, hreading, hs⟩
    exact ⟨_, ⟨scope, ⟨hscope, hns⟩, reading, ⟨imported, himported, hreading⟩, rfl⟩, hs⟩
  · rintro ⟨_, ⟨scope, ⟨hscope, hns⟩, reading, ⟨imported, himported, hreading⟩, rfl⟩, hs⟩
    exact ⟨scope, hscope, hns, imported, himported, reading, hreading, hs⟩

/-- Without a member of that name, a level means all that is imported there. -/
theorem mem_symbols_meaningAt {s : Symbol} (h : env.ImportedAt d precision name arity level s)
    (hmember : env.find precision (Text.qualify level name) arity = none) :
    s.key ∈ (env.meaningAt (env.scopesOf d) precision name arity level).symbols.map Symbol.key := by
  have hkey := (distinct_spec _).2.2 s.key |>.2 (List.mem_map_of_mem (importedAt_iff.1 h))
  unfold meaningAt
  rw [hmember]
  revert hkey
  generalize distinct ((importedNames (env.scopesOf d) level name).filterMap
    fun full => env.find precision full arity) = found
  intro hkey
  match found with
  | [] => cases hkey
  | [_] => exact hkey
  | _ :: _ :: _ => exact hkey

/-- The search for `name` comes to the imports of a level: no enclosing type has it, no level nearer
gives it a meaning, and it is no member of the level itself. -/
structure AsksImports (env : Environment) (d : TypeDeclaration) (precision : Precision)
    (name : String) (arity : Int) (level : String) : Prop where
  nested : env.nestedIn precision name arity d.containerNames = none
  reached : ∃ nearer outer, Text.enclosing d.ns = nearer ++ level :: outer ∧
    ∀ near ∈ nearer, env.meaningAt (env.scopesOf d) precision name arity near = .missing
  member : env.find precision (Text.qualify level name) arity = none

theorem AsksImports.lookupSimple_eq (h : env.AsksImports d precision name arity level)
    (hmeaning : env.meaningAt (env.scopesOf d) precision name arity level ≠ .missing) :
    env.lookupSimple d precision name arity =
      env.meaningAt (env.scopesOf d) precision name arity level := by
  obtain ⟨nearer, outer, hlevels, hnearer⟩ := h.reached
  unfold lookupSimple
  rw [h.nested, hlevels]
  dsimp only
  rw [meaningIn_append hnearer, meaningIn]
  cases hlevel : env.meaningAt (env.scopesOf d) precision name arity level with
  | missing => exact absurd hlevel hmeaning
  | found _ | clash _ => rfl

/-- The search for `name` comes to a level that has no member of that name and whose imports give
it two different symbols. -/
structure ContestedAt (env : Environment) (d : TypeDeclaration) (precision : Precision)
    (name : String) (arity : Int) (level : String) : Prop
    extends env.AsksImports d precision name arity level where
  imported : ∃ s t, env.ImportedAt d precision name arity level s ∧
    env.ImportedAt d precision name arity level t ∧ s.key ≠ t.key

namespace ContestedAt

theorem meaningAt_eq (h : env.ContestedAt d precision name arity level) :
    ∃ several, env.meaningAt (env.scopesOf d) precision name arity level = .clash several := by
  obtain ⟨s, t, hs, ht, hne⟩ := h.imported
  have hs := mem_symbols_meaningAt hs h.member
  have ht := mem_symbols_meaningAt ht h.member
  cases hmeaning : env.meaningAt (env.scopesOf d) precision name arity level with
  | clash several => exact ⟨several, rfl⟩
  | found u =>
    rw [hmeaning, Meaning.symbols, List.map_singleton, List.mem_singleton] at hs ht
    exact absurd (hs.trans ht.symm) hne
  | missing =>
    rw [hmeaning] at hs
    cases hs

/-- The search for a contested name ends in a clash. -/
theorem lookupSimple_eq (h : env.ContestedAt d precision name arity level) :
    ∃ several, env.lookupSimple d precision name arity = .clash several := by
  obtain ⟨several, hclash⟩ := h.meaningAt_eq
  have hmeaning : env.meaningAt (env.scopesOf d) precision name arity level ≠ .missing := by
    rw [hclash]
    exact fun hmissing => by cases hmissing
  exact ⟨several, (h.toAsksImports.lookupSimple_eq hmeaning).trans hclash⟩

/-- A contested name has no symbol of that precision. -/
theorem symbolOf?_eq {last : Segment}
    (h : env.ContestedAt d precision last.identifier last.arguments.length level) :
    env.symbolOf? d precision none [] last = none := by
  obtain ⟨several, hclash⟩ := h.lookupSimple_eq
  rw [symbolOf?, hclash]
  rfl

end ContestedAt

/-- A name that is contested whatever arity is asked for resolves to an error type. -/
theorem resolve_contested {last : Segment} (hlocal : ¬ env.IsLocal d (.name none [] last))
    (hcontested : ∀ precision, ∃ level,
      env.ContestedAt d precision last.identifier last.arguments.length level)
    {t : Ty} (h : (env.resolve d (.name none [] last)).result = .ok t) :
    ∃ arguments, t = .error last.identifier arguments := by
  obtain ⟨arguments, _, rfl⟩ := resolve_name_eq_ok hlocal h
  obtain ⟨_, hexact⟩ := hcontested .exactArity
  obtain ⟨_, hany⟩ := hcontested .anyArity
  refine ⟨arguments, ?_⟩
  rw [tyOf, hexact.symbolOf?_eq, hany.symbolOf?_eq]
  rfl

/-- The order of using directives does not matter: a written type means the same when the
directives that its header sees are reordered. A name that two imports of one level give two
meanings is a clash in every order, in a search for an exact arity as in one for any, and resolves
to an error type when it is one in both. -/
theorem resolve_reordered (hscopes : List.Forall₂ UsingScope.Reordered d.scopes scopes)
    (hglobal : env.globalScope.Reordered g) :
    let env' : Environment := { env with globalScope := g }
    let d' : TypeDeclaration := { d with scopes := scopes }
    (∀ e, (env.resolve d e).result = (env'.resolve d' e).result) ∧
    (∀ precision name arity level, env.ContestedAt d precision name arity level →
      (∃ several, env.lookupSimple d precision name arity = .clash several) ∧
        ∃ several, env'.lookupSimple d' precision name arity = .clash several) ∧
    ∀ last, ¬ env.IsLocal d (.name none [] last) →
      (∀ precision, ∃ level,
        env.ContestedAt d precision last.identifier last.arguments.length level) →
      ∀ t, (env'.resolve d' (.name none [] last)).result = .ok t →
        ∃ arguments, t = .error last.identifier arguments := by
  intro env' d'
  have hsees : SeesAlike env d env' d' := seesAlike_reordered hscopes hglobal
  refine ⟨hsees.resolve_eq, fun precision name arity level hcontested => ?_, ?_⟩
  · have hclash := hcontested.lookupSimple_eq
    exact ⟨hclash, (hsees.lookupSimple_alike precision name arity).clash_right hclash⟩
  · intro last hlocal hcontested t ht
    rw [← hsees.resolve_eq] at ht
    exact resolve_contested hlocal hcontested ht

end Environment

/-! ## A class that two directives import -/

namespace Sample

open Registrar.Tree

/-- The directive `using name;`, perhaps with words before it. -/
def importDirective (text name : String) : Node :=
  .node .usingDirective text true none 0 [word .identifier name none]

def rivalDirectives : List Node :=
  [importDirective "global using Far;" "Far", importDirective "using Near;" "Near",
    aliasDirective "using Short = Near.Thing;" "Short" (dottedName "Near" "Thing")]

/-- A class `Thing` in each of the namespaces `Far` and `Near`, and `class User : Thing`. -/
def rivals : List SourceUnit :=
  [file "user.cs" (rivalDirectives ++
    [namespaceAround "Far" [typeNode .class [] "Thing" [] []],
      namespaceAround "Near" [typeNode .class [] "Thing" [] []],
      typeNode .class [] "User" [] [word .identifier "Thing" none]])]

/-- The class `User`. -/
def userClass : TypeDeclaration :=
  (rivals.flatMap SourceUnit.declarations).get ⟨2, by decide⟩

/-- The directives of the file from the last to the first, and the one for `Far` once more. -/
def shuffled : UsingScope :=
  let ds := ownDirectives rivalDirectives
  ⟨"", ds.reverse ++ ds.take 1⟩

/-- The global directive twice. -/
def doubled : UsingScope :=
  let ds := ownDirectives (rivalDirectives.take 1)
  ⟨"", ds ++ ds⟩

end Sample

namespace Environment

open TypeExpr Sample

theorem exists_find_thing (precision : Precision) {full : String}
    (hfull : full ∈ ["Far.Thing", "Near.Thing"]) :
    ∃ s, (build rivals []).find precision full 0 = some s ∧ s.key = ⟨full, 0⟩ := by
  rw [← Option.map_eq_some_iff]
  revert full
  cases precision <;> decide +kernel

theorem contestedAt_rivals (precision : Precision) :
    (build rivals []).ContestedAt userClass precision "Thing" 0 "" := by
  obtain ⟨far, hfar, hfarKey⟩ := exists_find_thing precision (.head _)
  obtain ⟨near, hnear, hnearKey⟩ := exists_find_thing precision (.tail _ (.head _))
  have hmember : (build rivals []).find precision (Text.qualify "" "Thing") 0 = none := by
    cases precision <;> rfl
  refine ⟨⟨rfl, ⟨[], [], by decide +kernel, by simp⟩, hmember⟩, far, near, ?_, ?_, ?_⟩
  · exact ⟨_, .head _, rfl, "Far", by decide +kernel, "Far", by decide +kernel, hfar⟩
  · exact ⟨_, .head _, rfl, "Near", by decide +kernel, "Near", by decide +kernel, hnear⟩
  · rw [hfarKey, hnearKey]
    decide

theorem resolve_rivals :
    ((build rivals []).resolve userClass (simple "Thing" [])).result = .ok (.error "Thing" []) ∧
      ((build rivals []).resolve userClass (simple "Short" [])).result =
        .ok (.named ⟨"Near.Thing", 0⟩ []) := by
  constructor
  · have hnone (precision : Precision) : (build rivals []).symbolOf? userClass precision none []
        (.segment "Thing" []) = none := (contestedAt_rivals precision).symbolOf?_eq
    rw [resolve_of_no_alias (by decide) rfl, tyOf, hnone, hnone]
    rfl
  · obtain ⟨near, hnear, hkey⟩ := exists_find_thing .exactArity (.tail _ (.head _))
    have halias : (build rivals []).aliasTarget? userClass "Short" =
        some (.name none [.segment "Near" []] (.segment "Thing" [])) := rfl
    obtain ⟨depth, hdepth⟩ := resolve_of_alias (by decide) halias
    rw [hdepth, expandWith_eq_named_iff]
    exact ⟨none, _, _, near, rfl, rfl, hnear, hkey⟩

/-- `Thing` is an error type and `Short` the class in `Near`, before and after the directives are
shuffled and doubled. -/
theorem resolve_reordered_rivals :
    let env : Environment := build rivals []
    let env' : Environment := { env with globalScope := doubled }
    let d' : TypeDeclaration := { userClass with scopes := [shuffled] }
    (userClass.scopes.flatMap (·.directives)).map Directive.text =
        ["global using Far;", "using Near;", "using Short = Near.Thing;"] ∧
      shuffled.directives.map Directive.text =
        ["using Short = Near.Thing;", "using Near;", "global using Far;", "global using Far;"] ∧
      List.Forall₂ UsingScope.Reordered userClass.scopes [shuffled] ∧
      env.globalScope.Reordered doubled ∧
      ¬ env.IsLocal userClass (simple "Thing" []) ∧
      (∀ precision, env.ContestedAt userClass precision "Thing" 0 "") ∧
      (∃ several, env'.lookupSimple d' .anyArity "Thing" 0 = .clash several) ∧
      (∀ t, (env'.resolve d' (simple "Thing" [])).result = .ok t →
        ∃ arguments, t = .error "Thing" arguments) ∧
      (env.resolve userClass (simple "Thing" [])).result = .ok (.error "Thing" []) ∧
      (env'.resolve d' (simple "Thing" [])).result = .ok (.error "Thing" []) ∧
      (env'.resolve d' (simple "Short" [])).result = .ok (.named ⟨"Near.Thing", 0⟩ []) := by
  intro env env' d'
  have hscopes : List.Forall₂ UsingScope.Reordered userClass.scopes [shuffled] := by
    refine .cons ?_ .nil
    exact (UsingScope.reordered_perm (List.reverse_perm _).symm (by decide +kernel) "").trans
      (UsingScope.reordered_append (fun _ hx => List.mem_reverse.2 (List.take_subset 1 _ hx)) "")
  have hglobal : env.globalScope.Reordered doubled :=
    UsingScope.reordered_append (List.Subset.refl _) ""
  have hlocal : ¬ env.IsLocal userClass (simple "Thing" []) := by
    rw [simple, ← local?_eq_none_iff]
    rfl
  obtain ⟨hsame, hclash, herror⟩ := resolve_reordered hscopes hglobal
  exact ⟨by decide +kernel, by decide +kernel, hscopes, hglobal, hlocal, contestedAt_rivals,
    (hclash _ _ _ _ (contestedAt_rivals .anyArity)).2,
    herror (.segment "Thing" []) hlocal fun precision => ⟨"", contestedAt_rivals precision⟩,
    resolve_rivals.1, hsame _ ▸ resolve_rivals.1, hsame _ ▸ resolve_rivals.2⟩

end Environment

end Registrar
