/-
Names that no import takes over. A name of one segment is found in one of three
ways: inside an enclosing type, as a member of an enclosing namespace
(`MemberAt`), or through the imports of a level that has no member of that name
(`lookupSimple_eq_found_iff`). The first does not look at using directives at
all. The second looks at those of the levels nearer than the namespace only: a
level is longer than the levels around it, so a scope on a nearer level is none
of a namespace that encloses the member's (`not_encloses_of_nearer`), and what
is written farther out may be anything (`found_whatever_is_imported`).
-/
import Registrar.Proofs.NamespaceLevels

namespace Registrar

namespace Text

theorem Encloses.length_le {outer ns : String} (h : Encloses outer ns) :
    outer.length ≤ ns.length := by
  rcases h with rfl | rfl | ⟨rest, rfl⟩
  · exact Nat.le_refl _
  · exact Nat.zero_le _
  · simp only [String.length_append]
    omega

/-- A level nearer than another one does not enclose it. -/
theorem not_encloses_of_nearer {ns level near : String} {nearer outer : List String}
    (hlevels : enclosing ns = nearer ++ level :: outer) (hnear : near ∈ nearer) :
    ¬ Encloses near level := by
  have hlonger := enclosing_pairwise ns
  rw [hlevels, List.pairwise_append] at hlonger
  have hlt : level.length < near.length := hlonger.2.2 near hnear level (.head _)
  exact fun h => absurd h.length_le (Nat.not_le.2 hlt)

end Text

namespace UsingScope

/-- The scopes are of one level, and have the same directives unless that level is `level` or one
around it. -/
structure KeptInside (level : String) (a b : UsingScope) : Prop where
  ns : a.ns = b.ns
  directives : ¬ Text.Encloses a.ns level → a.directives = b.directives

/-- The directives of the global namespace may be any. -/
theorem keptInside_global (level : String) (ds es : List Directive) :
    KeptInside level ⟨"", ds⟩ ⟨"", es⟩ :=
  ⟨rfl, fun h => absurd (.inr (.inl rfl)) h⟩

theorem KeptInside.eq {level : String} {a b : UsingScope} (h : KeptInside level a b)
    (hinside : ¬ Text.Encloses a.ns level) : a = b := by
  obtain ⟨ns, ds⟩ := a
  obtain ⟨ns', es⟩ := b
  obtain rfl : ns = ns' := h.ns
  obtain rfl : ds = es := h.directives hinside
  rfl

/-- On a level that does not enclose `level`, the scopes are the same. -/
theorem filter_eq_of_keptInside {level near : String} {scopes scopes' : List UsingScope}
    (h : List.Forall₂ (KeptInside level) scopes scopes') (hnear : ¬ Text.Encloses near level) :
    scopes.filter (·.ns == near) = scopes'.filter (·.ns == near) := by
  induction h with
  | nil => rfl
  | @cons a b _ _ hab _ ih =>
    rw [List.filter_cons, List.filter_cons, ← hab.ns, ih]
    split
    · next hns => rw [hab.eq ((eq_of_beq hns).symm ▸ hnear)]
    · rfl

end UsingScope

namespace Environment

variable {env : Environment} {d : TypeDeclaration} {scopes : List UsingScope} {g : UsingScope}
  {precision : Precision} {name level : String} {arity : Int} {s : Symbol}

/-! ## How a name is found -/

/-- No enclosing type has `name` and no nearer level gives it a meaning, and it is the member `s` of
the level. -/
structure MemberAt (env : Environment) (d : TypeDeclaration) (precision : Precision)
    (name : String) (arity : Int) (level : String) (s : Symbol) : Prop where
  nested : env.nestedIn precision name arity d.containerNames = none
  reached : ∃ nearer outer, Text.enclosing d.ns = nearer ++ level :: outer ∧
    ∀ near ∈ nearer, env.meaningAt (env.scopesOf d) precision name arity near = .missing
  member : env.find precision (Text.qualify level name) arity = some s

theorem MemberAt.lookupSimple_eq (h : env.MemberAt d precision name arity level s) :
    env.lookupSimple d precision name arity = .found s := by
  obtain ⟨nearer, outer, hlevels, hnearer⟩ := h.reached
  unfold lookupSimple
  rw [h.nested, hlevels]
  dsimp only
  rw [meaningIn_append hnearer, meaningIn, meaningAt, h.member]
  rfl

theorem lookupSimple_of_nested (h : env.nestedIn precision name arity d.containerNames = some s) :
    env.lookupSimple d precision name arity = .found s := by
  unfold lookupSimple
  rw [h]

/-- A meaning that is found is one of the first level that has any. -/
theorem exists_of_meaningIn_eq_found {levels : List String}
    (h : env.meaningIn scopes precision name arity levels = .found s) :
    ∃ nearer level outer, levels = nearer ++ level :: outer ∧
      (∀ near ∈ nearer, env.meaningAt scopes precision name arity near = .missing) ∧
      env.meaningAt scopes precision name arity level = .found s := by
  induction levels with
  | nil => cases h
  | cons nearest rest ih =>
    rw [meaningIn] at h
    cases hnearest : env.meaningAt scopes precision name arity nearest with
    | found t =>
      rw [hnearest] at h
      exact ⟨[], nearest, rest, rfl, fun _ hnear => absurd hnear List.not_mem_nil,
        hnearest.trans h⟩
    | clash several =>
      rw [hnearest] at h
      cases h
    | missing =>
      rw [hnearest] at h
      obtain ⟨nearer, level, outer, rfl, hnearer, hlevel⟩ := ih h
      exact ⟨nearest :: nearer, level, outer, rfl,
        List.forall_mem_cons.2 ⟨hnearest, hnearer⟩, hlevel⟩

/-- A name is found inside an enclosing type, as a member of a level, or through the imports of a
level that has no such member. -/
theorem lookupSimple_eq_found_iff :
    env.lookupSimple d precision name arity = .found s ↔
      env.nestedIn precision name arity d.containerNames = some s ∨
      (∃ level, env.MemberAt d precision name arity level s) ∨
      ∃ level, env.AsksImports d precision name arity level ∧
        env.meaningAt (env.scopesOf d) precision name arity level = .found s := by
  constructor
  · intro h
    unfold lookupSimple at h
    split at h
    · next t hnested =>
      cases h
      exact .inl hnested
    · next hnested =>
      obtain ⟨nearer, level, outer, hlevels, hnearer, hlevel⟩ := exists_of_meaningIn_eq_found h
      cases hmember : env.find precision (Text.qualify level name) arity with
      | some t =>
        have hsame : Meaning.found t = .found s := by rwa [meaningAt, hmember] at hlevel
        cases hsame
        exact .inr (.inl ⟨level, hnested, ⟨nearer, outer, hlevels, hnearer⟩, hmember⟩)
      | none =>
        exact .inr (.inr ⟨level, ⟨hnested, ⟨nearer, outer, hlevels, hnearer⟩, hmember⟩, hlevel⟩)
  · intro h
    rcases h with hnested | ⟨level, hmember⟩ | ⟨level, hasks, hlevel⟩
    · exact lookupSimple_of_nested hnested
    · exact hmember.lookupSimple_eq
    · rw [hasks.lookupSimple_eq, hlevel]
      rw [hlevel]
      exact fun hmissing => by cases hmissing

/-! ## Other directives -/

/-- A level that does not enclose `level` means the same when only directives of `level` and around
it are others. -/
theorem meaningAt_eq_of_keptInside {near : String} {scopes' : List UsingScope}
    (h : List.Forall₂ (UsingScope.KeptInside level) scopes scopes')
    (hnear : ¬ Text.Encloses near level) (g : UsingScope) :
    { env with globalScope := g }.meaningAt scopes' precision name arity near =
      env.meaningAt scopes precision name arity near := by
  have hnames : importedNames scopes' near name = importedNames scopes near name := by
    rw [importedNames, importedNames, UsingScope.filter_eq_of_keptInside h hnear]
  unfold meaningAt
  rw [hnames]
  rfl

theorem MemberAt.of_keptInside (h : env.MemberAt d precision name arity level s)
    (hscopes : List.Forall₂ (UsingScope.KeptInside level) d.scopes scopes)
    (hglobal : env.globalScope.KeptInside level g) :
    { env with globalScope := g }.MemberAt { d with scopes := scopes } precision name arity level s
    where
  nested := h.nested
  reached := by
    obtain ⟨nearer, outer, hlevels, hnearer⟩ := h.reached
    refine ⟨nearer, outer, hlevels, fun near hnear => ?_⟩
    have hall := List.rel_append hscopes (.cons hglobal .nil)
    rw [← hnearer near hnear]
    exact meaningAt_eq_of_keptInside hall (Text.not_encloses_of_nearer hlevels hnear) g
  member := h.member

/-- What stands nearer is found whatever is imported. A name that is found is a type inside an
enclosing one, a member of a level, or imported. One inside an enclosing type stays the same with
any scopes around the declaration. A member of a level stays the same with any directives in the
scopes of that level and of those around it, the root and the global one among them. -/
theorem found_whatever_is_imported :
    (env.lookupSimple d precision name arity = .found s ↔
      env.nestedIn precision name arity d.containerNames = some s ∨
      (∃ level, env.MemberAt d precision name arity level s) ∨
      ∃ level, env.AsksImports d precision name arity level ∧
        env.meaningAt (env.scopesOf d) precision name arity level = .found s) ∧
    ∀ (scopes : List UsingScope) (g : UsingScope),
      let env' : Environment := { env with globalScope := g }
      let d' : TypeDeclaration := { d with scopes := scopes }
      (env.nestedIn precision name arity d.containerNames = some s →
        env.lookupSimple d precision name arity = .found s ∧
        env'.lookupSimple d' precision name arity = .found s) ∧
      ∀ level, env.MemberAt d precision name arity level s →
        List.Forall₂ (UsingScope.KeptInside level) d.scopes scopes →
        env.globalScope.KeptInside level g →
          env.lookupSimple d precision name arity = .found s ∧
          env'.lookupSimple d' precision name arity = .found s := by
  refine ⟨lookupSimple_eq_found_iff, ?_⟩
  intro scopes g env' d'
  constructor
  · intro hnested
    exact ⟨lookupSimple_of_nested hnested, lookupSimple_of_nested hnested⟩
  · intro level hmember hscopes hglobal
    exact ⟨hmember.lookupSimple_eq, (hmember.of_keptInside hscopes hglobal).lookupSimple_eq⟩

end Environment

/-! ## Directives that would take a name over -/

namespace Sample

open Registrar.Tree

/-- A class `Thing` in `Far`, one in `A`, and `class User : Thing` in `A.B`, where `System` is
imported; and a class `Host` with classes `Thing` and `Guest : Thing` inside. -/
def guarded : SourceUnit :=
  file "guarded.cs"
    [namespaceAround "Far" [typeNode .class [] "Thing" [] []],
      namespaceAround "A"
        [typeNode .class [] "Thing" [] [],
          namespaceAround "B"
            [importDirective "using System;" "System",
              typeNode .class [] "User" [] [word .identifier "Thing" none]]],
      classAround "Host" []
        [typeNode .class [] "Thing" [] [],
          typeNode .class [] "Guest" [] [word .identifier "Thing" none]]]

/-- The class `User`. -/
def guardedUser : TypeDeclaration :=
  guarded.declarations.get ⟨2, by decide⟩

/-- The class `Guest`. -/
def guardedGuest : TypeDeclaration :=
  guarded.declarations.get ⟨5, by decide⟩

/-- The directive `using Far;` on a level. -/
def hijack (level : String) : UsingScope :=
  ⟨level, ownDirectives [importDirective "using Far;" "Far"]⟩

end Sample

namespace Environment

open Sample

theorem memberAt_guardedUser {s : Symbol}
    (hs : (build [guarded] []).find .exactArity "A.Thing" 0 = some s) :
    (build [guarded] []).MemberAt guardedUser .exactArity "Thing" 0 "A" s where
  nested := rfl
  reached := by
    refine ⟨["A.B"], [""], by decide +kernel, fun near hnear => ?_⟩
    rw [List.mem_singleton.1 hnear]
    rfl
  member := hs

/-- `A.Thing` and `Host.Thing` are found when `using Far;` stands on the level of `A`, in the file
and as a global directive, although it gives `Far.Thing` the same name there. -/
theorem found_whatever_is_imported_guarded :
    let env := build [guarded] []
    let env' : Environment := { env with globalScope := hijack "" }
    let user' : TypeDeclaration :=
      { guardedUser with scopes := guardedUser.scopes.take 1 ++ [hijack "A", hijack ""] }
    let guest' : TypeDeclaration := { guardedGuest with scopes := [hijack ""] }
    (∃ s t, s.key = ⟨"A.Thing", 0⟩ ∧ t.key = ⟨"Far.Thing", 0⟩ ∧
      env.MemberAt guardedUser .exactArity "Thing" 0 "A" s ∧
      env'.ImportedAt user' .exactArity "Thing" 0 "A" t ∧
      env'.lookupSimple user' .exactArity "Thing" 0 = .found s) ∧
    ∃ s, s.key = ⟨"Host.Thing", 0⟩ ∧
      env.nestedIn .anyArity "Thing" 0 guardedGuest.containerNames = some s ∧
      env'.lookupSimple guest' .anyArity "Thing" 0 = .found s := by
  intro env env' user' guest'
  constructor
  · obtain ⟨s, hs, hkey⟩ : ∃ s, env.find .exactArity "A.Thing" 0 = some s ∧
        s.key = ⟨"A.Thing", 0⟩ := by
      rw [← Option.map_eq_some_iff]
      decide +kernel
    obtain ⟨t, ht, hrival⟩ : ∃ t, env'.find .exactArity "Far.Thing" 0 = some t ∧
        t.key = ⟨"Far.Thing", 0⟩ := by
      rw [← Option.map_eq_some_iff]
      decide +kernel
    have himported : env'.ImportedAt user' .exactArity "Thing" 0 "A" t :=
      ⟨hijack "A", .tail _ (.head _), rfl, "Far", by decide +kernel, "Far", by decide +kernel, ht⟩
    have hscopes : List.Forall₂ (UsingScope.KeptInside "A") guardedUser.scopes user'.scopes := by
      refine .cons ⟨rfl, fun _ => rfl⟩ (.cons ⟨rfl, fun h => ?_⟩ (.cons ?_ .nil))
      · exact absurd (.refl "A") h
      · exact UsingScope.keptInside_global "A" _ _
    have hmember := memberAt_guardedUser hs
    exact ⟨s, t, hkey, hrival, hmember, himported,
      ((found_whatever_is_imported.2 _ _).2 "A" hmember hscopes
        (UsingScope.keptInside_global "A" _ _)).2⟩
  · obtain ⟨s, hs, hkey⟩ : ∃ s, env.nestedIn .anyArity "Thing" 0 guardedGuest.containerNames =
        some s ∧ s.key = ⟨"Host.Thing", 0⟩ := by
      rw [← Option.map_eq_some_iff]
      decide +kernel
    exact ⟨s, hkey, hs, ((found_whatever_is_imported.2 guest'.scopes (hijack "")).1 hs).2⟩

end Environment

end Registrar
