/-
Aliases and the types that stand nearer. `Nearest` says which type a plain
name means when scopes are searched from the inside outwards: one nested in an
enclosing type, or else a member of the first enclosing namespace that gives
the name a meaning. Resolution asks the using aliases of all scopes before it
searches (`resolve_of_alias`), so a type hides no alias, however far out the
alias is declared: the nearest type is found exactly when no alias of that
name is in sight, or the one that is stands for the same type
(`resolve_nearest_iff`). Nested types and namespace members do lose to aliases
of the file (`nearest_loses_to_alias`).
-/
import Registrar.Proofs.BaseChain

namespace Registrar

namespace Environment

open TypeExpr

variable {env : Environment} {d : TypeDeclaration} {x : String}

/-! ## The search from the inside outwards -/

/-- Levels that give a name no meaning are passed. -/
theorem meaningIn_append {scopes : List UsingScope} {precision : Precision} {arity : Int}
    {nearer : List String}
    (h : ∀ level ∈ nearer, env.meaningAt scopes precision x arity level = .missing)
    (rest : List String) :
    env.meaningIn scopes precision x arity (nearer ++ rest) =
      env.meaningIn scopes precision x arity rest := by
  induction nearer with
  | nil => rfl
  | cons level nearer ih =>
    rw [List.forall_mem_cons] at h
    rw [List.cons_append, meaningIn, h.1, Meaning.orElse, ih h.2]

/-- `s` is the nearest type called `x`, without type parameters, that the
header of `d` sees: nested in an enclosing type, or else a member of a
namespace around `d` when none of the namespaces nearer to `d` gives `x` a
meaning. -/
inductive Nearest (env : Environment) (d : TypeDeclaration) (x : String) (s : Symbol) : Prop
  | nested (h : env.nestedIn .exactArity x 0 d.containerNames = some s)
  | member (hnested : env.nestedIn .exactArity x 0 d.containerNames = none)
      (hlevels : Text.enclosing d.ns = nearer ++ level :: outer)
      (hnearer : ∀ near ∈ nearer, env.meaningAt (env.scopesOf d) .exactArity x 0 near = .missing)
      (hmember : env.find .exactArity (Text.qualify level x) 0 = some s)

theorem Nearest.lookupSimple_eq {s : Symbol} (h : env.Nearest d x s) :
    env.lookupSimple d .exactArity x 0 = .found s := by
  unfold lookupSimple
  cases h with
  | nested hnested => rw [hnested]
  | member hnested hlevels hnearer hmember =>
    rw [hnested, hlevels]
    dsimp only
    rw [meaningIn_append hnearer, meaningIn, meaningAt, hmember]
    rfl

/-! ## Aliases come first -/

theorem local?_simple (hx : x ∉ d.parametersInScope) :
    env.local? d none [] (.segment x []) = (env.aliasTarget? d x).map .expansion := by
  simp [local?, Segment.arguments, Segment.identifier, hx]

/-- A pass over a plain name expands its alias, or looks the name up when there is none. -/
theorem resolveWith_simple (hx : x ∉ d.parametersInScope)
    (expand : TypeExpr → Noted EndlessAlias Ty) :
    env.resolveWith d expand (simple x []) =
      match env.aliasTarget? d x with
      | some target => expand target
      | none => env.nameMeaning d none [] (.segment x []) [] := by
  rw [simple, resolveWith, resolveArguments, pure_bind, local?_simple hx]
  cases env.aliasTarget? d x <;> rfl

/-- An alias in sight is expanded, whatever types of its name there are. -/
theorem resolve_of_alias (hx : x ∉ d.parametersInScope) {target : TypeExpr}
    (h : env.aliasTarget? d x = some target) :
    ∃ depth, env.resolve d (simple x []) = env.expandWith (env.resolveWithin d depth) target := by
  -- The alias itself is among those counted, so one expansion is allowed at least.
  have hpos : 0 < env.aliasCount d := by
    rw [← length_aliasNames]
    exact List.length_pos_of_mem (mem_aliasNames (by rw [h]; rfl))
  obtain ⟨depth, hdepth⟩ := Nat.exists_eq_succ_of_ne_zero (Nat.ne_of_gt hpos)
  refine ⟨depth, ?_⟩
  rw [resolve, hdepth, resolveWithin, resolveWith_simple hx, h]

/-- Without an alias in sight a plain name means what it is looked up as. -/
theorem resolve_of_no_alias (hx : x ∉ d.parametersInScope) (h : env.aliasTarget? d x = none) :
    (env.resolve d (simple x [])).result = .ok (env.tyOf d none [] (.segment x []) []) := by
  have hpass : ∀ expand, (env.resolveWith d expand (simple x [])).result =
      .ok (env.tyOf d none [] (.segment x []) []) := by
    intro expand
    rw [resolveWith_simple hx, h]
    exact nameMeaning_result env d none [] (.segment x []) []
  unfold resolve
  cases env.aliasCount d <;> exact hpass _

theorem Nearest.tyOf_eq {s : Symbol} (h : env.Nearest d x s) :
    env.tyOf d none [] (.segment x []) [] = .named s.key [] := by
  have hsymbol : env.symbolOf? d .exactArity none [] (.segment x []) = some s := by
    rw [symbolOf?, Segment.identifier, Segment.arguments]
    exact congrArg Meaning.symbol? h.lookupSimple_eq
  rw [tyOf, hsymbol, Option.some_or]

/-! ## What an alias stands for -/

/-- The target of an alias is a name without arguments that finds the type `key` as it stands. -/
def StandsFor (env : Environment) (target : TypeExpr) (key : SymbolKey) : Prop :=
  ∃ qualifier path last s, target = .name qualifier path last ∧ last.arguments = [] ∧
    env.find .exactArity (dotted path last) 0 = some s ∧ s.key = key

/-- Only names mean named types. -/
theorem exists_name_of_resolveWithin {depth : Nat} {e : TypeExpr} {key : SymbolKey}
    {arguments : List Ty} (h : (env.resolveWithin d depth e).result = .ok (.named key arguments)) :
    ∃ qualifier path last, e = .name qualifier path last := by
  obtain ⟨expand, hexpand⟩ := env.resolveWithin_eq d depth
  rw [hexpand] at h
  exact exists_name_of_resolveWith h

theorem mapM_eq_nil {f : TypeExpr → Noted EndlessAlias Ty} {es : List TypeExpr} :
    (es.mapM f).result = .ok [] ↔ es = [] := by
  cases es with
  | nil => exact iff_of_true rfl rfl
  | cons e rest =>
    refine iff_of_false (fun h => ?_) (List.cons_ne_nil e rest)
    rw [List.mapM_cons, Noted.result_bind_eq_ok] at h
    obtain ⟨t, _, h⟩ := h
    rw [Noted.result_bind_eq_ok] at h
    obtain ⟨ts, _, h⟩ := h
    cases h

/-- The expansion of a target is the type `key` when the target is a plain name of it. -/
theorem expandWith_eq_named_iff {depth : Nat} {target : TypeExpr} {key : SymbolKey} :
    (env.expandWith (env.resolveWithin d depth) target).result = .ok (.named key []) ↔
      env.StandsFor target key := by
  constructor
  · intro h
    cases target with
    | name qualifier path last =>
      rw [expandWith, Noted.result_bind_eq_ok] at h
      obtain ⟨ts, hts, h⟩ := h
      dsimp only at h
      split at h
      · next s hs =>
        cases h
        have hlast := mapM_eq_nil.1 hts
        rw [hlast] at hs
        exact ⟨qualifier, path, last, s, rfl, hlast, hs, rfl⟩
      · cases h
    | _ =>
      rw [expandWith] at h
      · obtain ⟨_, _, _, hname⟩ := exists_name_of_resolveWithin h
        cases hname
      · exact fun _ _ _ hname => by cases hname
  · intro h
    obtain ⟨qualifier, path, last, s, rfl, hlast, hs, rfl⟩ := h
    rw [expandWith, hlast, List.mapM_nil, pure_bind]
    dsimp only [List.length_nil]
    rw [show ((0 : Nat) : Int) = 0 from rfl, hs]
    rfl

/-- A name that is no type parameter resolves to the nearest type of that name
exactly when the alias of that name that is in sight, if there is one, stands
for the same type. On which level the alias is declared makes no difference. -/
theorem resolve_nearest_iff (hx : x ∉ d.parametersInScope) {s : Symbol} (h : env.Nearest d x s) :
    (env.resolve d (simple x [])).result = .ok (.named s.key []) ↔
      ∀ target, env.aliasTarget? d x = some target → env.StandsFor target s.key := by
  cases halias : env.aliasTarget? d x with
  | none =>
    refine iff_of_true ?_ (fun _ htarget => by cases htarget)
    rw [resolve_of_no_alias hx halias, h.tyOf_eq]
  | some target =>
    obtain ⟨depth, hdepth⟩ := resolve_of_alias hx halias
    rw [hdepth, expandWith_eq_named_iff]
    simp only [Option.some.injEq, forall_eq']

end Environment

/-! ## A type and an alias of one name -/

namespace Sample

open Registrar.Tree

/-- The written type `first.last`. -/
def dottedName (first last : String) : Node :=
  .node .qualifiedName "" true none 0 [word .identifier first none, word .identifier last none]

def aliasDirective (text name : String) (target : Node) : Node :=
  .node .usingDirective text true none 0
    [word .identifier name (some .name), .node .equalsSign "=" false none 0 [], target]

/-- A namespace with its members in braces. -/
def namespaceAround (name : String) (members : List Node) : Node :=
  .node .namespaceBlock "" true none 0
    [word .identifier name (some .name), .node .body "" true (some .body) 0 members]

/-- Two classes `Ping`, one in the namespace `Near` and one inside the class
`Host`, in a file that has an alias `Ping` for `Far.Thing` and an alias `Pong`
for the class `Near.Pong`. -/
def shadowed : Environment :=
  .build
    [file "host.cs"
      [aliasDirective "using Ping = Far.Thing;" "Ping" (dottedName "Far" "Thing"),
        aliasDirective "using Pong = Near.Pong;" "Pong" (dottedName "Near" "Pong"),
        namespaceAround "Far" [typeNode .class [] "Thing" [] []],
        namespaceAround "Near"
          [typeNode .class [] "Ping" [] [], typeNode .class [] "Pong" [] [],
            typeNode .class [] "Handler" [] [word .identifier "Ping" none]],
        classAround "Host" []
          [typeNode .class [] "Ping" [] [],
            typeNode .class [] "Handler" [] [word .identifier "Ping" none]]]]
    []

/-- The class `Handler` of the namespace `Near`. -/
def nearHandler : TypeDeclaration :=
  (shadowed.declared.flatMap Prod.snd).get ⟨3, by decide⟩

/-- The class `Handler` inside `Host`. -/
def hostHandler : TypeDeclaration :=
  (shadowed.declared.flatMap Prod.snd).get ⟨6, by decide⟩

end Sample

namespace Environment

open TypeExpr

theorem nearest_of_member {name : String} {key : SymbolKey}
    (hfind : (Sample.shadowed.find .exactArity (Text.qualify "Near" name) 0).map Symbol.key =
      some key) :
    ∃ s, Sample.shadowed.Nearest Sample.nearHandler name s ∧ s.key = key := by
  obtain ⟨s, hs, hkey⟩ := Option.map_eq_some_iff.1 hfind
  have hlevels : Text.enclosing Sample.nearHandler.ns = [] ++ "Near" :: [""] := by decide +kernel
  exact ⟨s, .member rfl hlevels (by simp) hs, hkey⟩

/-- `Near.Pong` is what `Pong` resolves to, since the alias of that name stands for it. -/
theorem resolve_nearest_iff_pong :
    "Pong" ∉ Sample.nearHandler.parametersInScope ∧
      ∃ s, Sample.shadowed.Nearest Sample.nearHandler "Pong" s ∧ s.key = ⟨"Near.Pong", 0⟩ ∧
        (Sample.shadowed.aliasTarget? Sample.nearHandler "Pong").isSome = true ∧
        (Sample.shadowed.resolve Sample.nearHandler (simple "Pong" [])).result =
          .ok (.named s.key []) := by
  have hparameter : "Pong" ∉ Sample.nearHandler.parametersInScope := by decide
  obtain ⟨s, hnearest, hkey⟩ : ∃ s, Sample.shadowed.Nearest Sample.nearHandler "Pong" s ∧
      s.key = ⟨"Near.Pong", 0⟩ := nearest_of_member (by decide +kernel)
  refine ⟨hparameter, s, hnearest, hkey, by decide +kernel,
    (resolve_nearest_iff hparameter hnearest).2 fun target htarget => ?_⟩
  have hpong : Sample.shadowed.aliasTarget? Sample.nearHandler "Pong" =
      some (.name none [.segment "Near" []] (.segment "Pong" [])) := rfl
  obtain rfl := Option.some.inj (hpong.symm.trans htarget)
  obtain ⟨found, hfound, hfoundKey⟩ := Option.map_eq_some_iff.1
    (by decide +kernel : (Sample.shadowed.find .exactArity "Near.Pong" 0).map Symbol.key =
      some ⟨"Near.Pong", 0⟩)
  exact ⟨none, _, _, found, rfl, rfl, hfound, hfoundKey.trans hkey.symm⟩

/-- In the header of `d` the nearest type `x` is `near` and aliases `x` are
declared on the level of the file only, but `x` resolves to the type `other`. -/
structure HiddenByAlias (env : Environment) (d : TypeDeclaration) (x : String)
    (near other : SymbolKey) : Prop where
  notParameter : x ∉ d.parametersInScope
  nearest : ∃ s, env.Nearest d x s ∧ s.key = near
  aliasLevels : ((env.scopesOf d).filter fun scope => (scope.aliasTarget? x).isSome).map
    UsingScope.ns = [""]
  resolves : (env.resolve d (simple x [])).result = .ok (.named other [])

/-- In `Near` and inside `Host` a class `Ping` is nearer than the alias of the
file, but `Ping` resolves to what the alias stands for. -/
theorem nearest_loses_to_alias :
    Sample.shadowed.HiddenByAlias Sample.nearHandler "Ping" ⟨"Near.Ping", 0⟩ ⟨"Far.Thing", 0⟩ ∧
      Sample.shadowed.HiddenByAlias Sample.hostHandler "Ping" ⟨"Host.Ping", 0⟩
        ⟨"Far.Thing", 0⟩ := by
  have hstands : Sample.shadowed.StandsFor (.name none [.segment "Far" []] (.segment "Thing" []))
      ⟨"Far.Thing", 0⟩ := by
    obtain ⟨s, hs, hkey⟩ := Option.map_eq_some_iff.1
      (by decide +kernel : (Sample.shadowed.find .exactArity "Far.Thing" 0).map Symbol.key =
        some ⟨"Far.Thing", 0⟩)
    exact ⟨none, _, _, s, rfl, rfl, hs, hkey⟩
  have hresolves : ∀ d, "Ping" ∉ d.parametersInScope → Sample.shadowed.aliasTarget? d "Ping" =
      some (.name none [.segment "Far" []] (.segment "Thing" [])) →
      (Sample.shadowed.resolve d (simple "Ping" [])).result = .ok (.named ⟨"Far.Thing", 0⟩ []) := by
    intro d hx halias
    obtain ⟨depth, hdepth⟩ := resolve_of_alias hx halias
    rw [hdepth, expandWith_eq_named_iff]
    exact hstands
  have hnested : ∃ s, Sample.shadowed.Nearest Sample.hostHandler "Ping" s ∧
      s.key = ⟨"Host.Ping", 0⟩ := by
    obtain ⟨s, hs, hkey⟩ := Option.map_eq_some_iff.1
      (by decide +kernel : (Sample.shadowed.nestedIn .exactArity "Ping" 0
        Sample.hostHandler.containerNames).map Symbol.key = some ⟨"Host.Ping", 0⟩)
    exact ⟨s, .nested hs, hkey⟩
  constructor
  · exact ⟨by decide, nearest_of_member (by decide +kernel), by decide +kernel,
      hresolves _ (by decide) rfl⟩
  · exact ⟨by decide, hnested, by decide +kernel, hresolves _ (by decide) rfl⟩

end Environment

end Registrar
