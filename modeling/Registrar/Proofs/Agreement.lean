/-
Headers that see the same. Two environments find alike when they find symbols
of one key under every name, and two scopes bring in the same when they give
every alias the same target and import the same namespaces, in whatever order
and however often. Where the scopes of two headers bring in the same, level by
level, and their environments find alike, every written type means the same in
both (`SeesAlike.resolve_eq`).

Lookup asks how many different symbols the imports of a level find, so what
has to be shown is that `distinct` keeps as many of them in both
(`distinct_perm`).
-/
import Mathlib.Data.List.Forall2
import Registrar.Proofs.BaseChain

namespace Registrar

namespace UsingScope

/-- The scopes are of one level, where they give the same aliases and import the same namespaces. -/
structure BringsSame (a b : UsingScope) : Prop where
  ns : a.ns = b.ns
  aliases : ∀ name, a.aliasTarget? name = b.aliasTarget? name
  imports : ∀ imported, imported ∈ a.namespaces ↔ imported ∈ b.namespaces

theorem BringsSame.refl (a : UsingScope) : a.BringsSame a :=
  ⟨rfl, fun _ => rfl, fun _ => Iff.rfl⟩

end UsingScope

namespace Meaning

/-- The meanings are of one kind, and when they are found they have one key. -/
inductive Alike : Meaning → Meaning → Prop
  | found (h : s.key = t.key) : Alike (.found s) (.found t)
  | clash : Alike (.clash several) (.clash others)
  | missing : Alike .missing .missing

theorem Alike.symbol? {m n : Meaning} (h : Alike m n) :
    m.symbol?.map Symbol.key = n.symbol?.map Symbol.key := by
  cases h with
  | found h => exact congrArg some h
  | clash => rfl
  | missing => rfl

theorem Alike.orElse {m n m' n' : Meaning} (h : Alike m n) (h' : Alike m' n') :
    Alike (m.orElse m') (n.orElse n') := by
  cases h with
  | found h => exact .found h
  | clash => exact .clash
  | missing => exact h'

end Meaning

namespace Environment

/-! ## Different symbols -/

/-- Which symbols are different depends on their keys only. -/
theorem distinct_perm {symbols others : List Symbol}
    (h : ∀ key, key ∈ symbols.map Symbol.key ↔ key ∈ others.map Symbol.key) :
    ((distinct symbols).map Symbol.key).Perm ((distinct others).map Symbol.key) := by
  obtain ⟨_, hnodup, hkeys⟩ := distinct_spec symbols
  obtain ⟨_, hnodup', hkeys'⟩ := distinct_spec others
  refine (List.perm_ext_iff_of_nodup hnodup hnodup').2 fun key => ?_
  rw [hkeys, hkeys', h]

/-! ## Lookup -/

theorem map_key_eq_cases {found found' : Option Symbol}
    (h : found.map Symbol.key = found'.map Symbol.key) :
    (found = none ∧ found' = none) ∨ ∃ s s', found = some s ∧ found' = some s' ∧ s.key = s'.key := by
  match found, found' with
  | none, none => exact .inl ⟨rfl, rfl⟩
  | some s, some s' => exact .inr ⟨s, s', rfl, rfl, Option.some.inj h⟩
  | none, some _ => cases h
  | some _, none => cases h

/-- Under every name both environments find symbols of one key, or both none. -/
def FindsAlike (env env' : Environment) : Prop :=
  ∀ precision name arity, (env.find precision name arity).map Symbol.key =
    (env'.find precision name arity).map Symbol.key

variable {env env' : Environment} {precision : Precision} {name : String} {arity : Int}

theorem FindsAlike.findSome?_key (h : FindsAlike env env') (precision : Precision) (arity : Int)
    (f : α → String) (xs : List α) :
    (xs.findSome? fun x => env.find precision (f x) arity).map Symbol.key =
      (xs.findSome? fun x => env'.find precision (f x) arity).map Symbol.key := by
  rw [List.map_findSome?, List.map_findSome?]
  exact congrArg (List.findSome? · xs) (funext fun x => h precision (f x) arity)

section

variable {scopes scopes' : List UsingScope}

theorem importedNames_iff (h : List.Forall₂ UsingScope.BringsSame scopes scopes')
    (level name full : String) :
    full ∈ importedNames scopes level name ↔ full ∈ importedNames scopes' level name := by
  unfold importedNames
  induction h with
  | nil => exact Iff.rfl
  | @cons a b _ _ hab _ ih =>
    rw [List.filter_cons, List.filter_cons, hab.ns]
    split
    · simp only [List.flatMap_cons, List.mem_append, ih, List.mem_map, List.mem_flatMap, hab.imports]
    · exact ih

theorem meaningAt_alike (hfinds : FindsAlike env env')
    (hscopes : List.Forall₂ UsingScope.BringsSame scopes scopes') (level : String) :
    Meaning.Alike (env.meaningAt scopes precision name arity level)
      (env'.meaningAt scopes' precision name arity level) := by
  have hmember := hfinds precision (Text.qualify level name) arity
  have himported : ((distinct ((importedNames scopes level name).filterMap
        fun full => env.find precision full arity)).map Symbol.key).Perm
      ((distinct ((importedNames scopes' level name).filterMap
        fun full => env'.find precision full arity)).map Symbol.key) := by
    refine distinct_perm fun key => ?_
    rw [List.map_filterMap, List.map_filterMap, List.mem_filterMap, List.mem_filterMap]
    simp only [importedNames_iff hscopes, hfinds precision _ arity]
  unfold meaningAt
  rcases map_key_eq_cases hmember with ⟨hs, hs'⟩ | ⟨s, s', hs, hs', hkey⟩
  · rw [hs, hs']
    -- Both sides keep equally many symbols, and a single one has the same key.
    revert himported
    generalize distinct ((importedNames scopes level name).filterMap
      fun full => env.find precision full arity) = found
    generalize distinct ((importedNames scopes' level name).filterMap
      fun full => env'.find precision full arity) = found'
    intro himported
    have hlength := himported.length_eq
    match found, found' with
    | [], [] => exact .missing
    | [s], [s'] => exact .found (by simpa using himported)
    | _ :: _ :: _, _ :: _ :: _ => exact .clash
    | [], _ :: _ => cases hlength
    | _ :: _, [] => cases hlength
    | [_], _ :: _ :: _ => cases hlength
    | _ :: _ :: _, [_] => cases hlength
  · rw [hs, hs']
    exact .found hkey

theorem meaningIn_alike (hfinds : FindsAlike env env')
    (hscopes : List.Forall₂ UsingScope.BringsSame scopes scopes') (levels : List String) :
    Meaning.Alike (env.meaningIn scopes precision name arity levels)
      (env'.meaningIn scopes' precision name arity levels) := by
  induction levels with
  | nil => exact .missing
  | cons level outer ih => exact (meaningAt_alike hfinds hscopes level).orElse ih

end

/-- The header of `d` in `env` sees what that of `d'` in `env'` sees. -/
structure SeesAlike (env : Environment) (d : TypeDeclaration) (env' : Environment)
    (d' : TypeDeclaration) : Prop where
  finds : FindsAlike env env'
  ns : d.ns = d'.ns
  containers : d.containerNames = d'.containerNames
  parameters : ∀ name, name ∈ d.parametersInScope ↔ name ∈ d'.parametersInScope
  scopes : List.Forall₂ UsingScope.BringsSame (env.scopesOf d) (env'.scopesOf d')

namespace SeesAlike

variable {d d' : TypeDeclaration}

theorem lookupSimple_alike (h : SeesAlike env d env' d') (precision : Precision) (name : String)
    (arity : Int) :
    Meaning.Alike (env.lookupSimple d precision name arity)
      (env'.lookupSimple d' precision name arity) := by
  have hnested : (env.nestedIn precision name arity d.containerNames).map Symbol.key =
      (env'.nestedIn precision name arity d'.containerNames).map Symbol.key := by
    rw [h.containers]
    exact h.finds.findSome?_key precision arity (· ++ "." ++ name) _
  unfold lookupSimple
  rcases map_key_eq_cases hnested with ⟨hs, hs'⟩ | ⟨s, s', hs, hs', hkey⟩
  · rw [hs, hs', h.ns]
    exact meaningIn_alike h.finds h.scopes _
  · rw [hs, hs']
    exact .found hkey

/-- What the scopes give, nearest first, is the same when it is for scopes that bring in the same. -/
theorem findSome?_scopes {f g : UsingScope → Option α} (h : SeesAlike env d env' d')
    (hfg : ∀ a b : UsingScope, a.BringsSame b → f a = g b) :
    (env.scopesOf d).findSome? f = (env'.scopesOf d').findSome? g := by
  have hscopes := h.scopes
  revert hscopes
  generalize env.scopesOf d = scopes
  generalize env'.scopesOf d' = scopes'
  intro hscopes
  induction hscopes with
  | nil => rfl
  | cons hab _ ih => rw [List.findSome?_cons, List.findSome?_cons, hfg _ _ hab, ih]

theorem aliasTarget?_eq (h : SeesAlike env d env' d') (name : String) :
    env.aliasTarget? d name = env'.aliasTarget? d' name :=
  h.findSome?_scopes fun _ _ hab => hab.aliases name

theorem findBehindAlias_key (h : SeesAlike env d env' d') (precision : Precision)
    (head rest : String) (arity : Int) :
    (env.findBehindAlias d precision head rest arity).map Symbol.key =
      (env'.findBehindAlias d' precision head rest arity).map Symbol.key := by
  unfold findBehindAlias
  rw [List.map_findSome?, List.map_findSome?]
  refine h.findSome?_scopes fun a b hab => ?_
  rw [Function.comp_apply, Function.comp_apply, hab.aliases]
  split
  · exact h.finds precision _ arity
  · rfl

theorem symbolOf?_key (h : SeesAlike env d env' d') (precision : Precision)
    (qualifier : Option String) (path : List Segment) (last : Segment) :
    (env.symbolOf? d precision qualifier path last).map Symbol.key =
      (env'.symbolOf? d' precision qualifier path last).map Symbol.key := by
  cases qualifier with
  | some qualifier =>
    rw [symbolOf?, symbolOf?]
    split
    · exact h.finds precision _ _
    · rfl
  | none =>
    cases path with
    | nil => exact (h.lookupSimple_alike precision _ _).symbol?
    | cons head inner =>
      have hhead := (h.lookupSimple_alike .exactArity head.identifier
        head.arguments.length).symbol?
      have hmember : ∀ o o' : Option Symbol, o.map Symbol.key = o'.map Symbol.key →
          (o.bind fun s => env.find precision (s.key.name ++ "." ++ TypeExpr.dotted inner last)
            last.arguments.length).map Symbol.key =
          (o'.bind fun s => env'.find precision (s.key.name ++ "." ++ TypeExpr.dotted inner last)
            last.arguments.length).map Symbol.key := by
        intro o o' hsame
        rcases map_key_eq_cases hsame with ⟨rfl, rfl⟩ | ⟨s, s', rfl, rfl, hkey⟩
        · rfl
        · rw [Option.bind_some, Option.bind_some, hkey]
          exact h.finds precision _ _
      have houter := h.finds.findSome?_key precision last.arguments.length
        (fun ns => Text.qualify ns (TypeExpr.dotted (head :: inner) last)) (Text.enclosing d'.ns)
      rw [symbolOf?, symbolOf?, Option.map_or, Option.map_or, Option.map_or, Option.map_or,
        hmember _ _ hhead, h.ns, houter, h.findBehindAlias_key]

theorem tyOf_eq (h : SeesAlike env d env' d') (qualifier : Option String) (path : List Segment)
    (last : Segment) (arguments : List Ty) :
    env.tyOf d qualifier path last arguments = env'.tyOf d' qualifier path last arguments := by
  have hkey : ((env.symbolOf? d .exactArity qualifier path last).or
        (env.symbolOf? d .anyArity qualifier path last)).map Symbol.key =
      ((env'.symbolOf? d' .exactArity qualifier path last).or
        (env'.symbolOf? d' .anyArity qualifier path last)).map Symbol.key := by
    rw [Option.map_or, Option.map_or, h.symbolOf?_key, h.symbolOf?_key]
  unfold tyOf
  rcases map_key_eq_cases hkey with ⟨hs, hs'⟩ | ⟨s, s', hs, hs', hkey⟩
  · rw [hs, hs']
  · rw [hs, hs']
    exact congrArg (Ty.named · arguments) hkey

theorem local?_eq (h : SeesAlike env d env' d') (qualifier : Option String) (path : List Segment)
    (last : Segment) : env.local? d qualifier path last = env'.local? d' qualifier path last := by
  have hparameters : d.parametersInScope.contains last.identifier =
      d'.parametersInScope.contains last.identifier := by
    rw [Bool.eq_iff_iff, List.contains_iff_mem, List.contains_iff_mem]
    exact h.parameters _
  unfold local?
  rw [hparameters, h.aliasTarget?_eq]

/-! ## Resolution -/

section

variable {expand expand' : TypeExpr → Noted EndlessAlias Ty}

mutual

theorem resolveWith_eq (h : SeesAlike env d env' d')
    (hexpand : ∀ e, (expand e).result = (expand' e).result) : ∀ e : TypeExpr,
    (env.resolveWith d expand e).result = (env'.resolveWith d' expand' e).result
  | .predefined _ => rfl
  | .raw _ => rfl
  | .array element _ => by
    rw [resolveWith, resolveWith, Noted.result_bind, Noted.result_bind,
      resolveWith_eq h hexpand element]
  | .nullable inner => by
    rw [resolveWith, resolveWith, Noted.result_bind, Noted.result_bind,
      resolveWith_eq h hexpand inner]
  | .tuple elements => by
    rw [resolveWith, resolveWith, Noted.result_bind, Noted.result_bind,
      resolveElements_eq h hexpand elements]
  | .name qualifier path (.segment identifier written) => by
    rw [resolveWith, resolveWith, Noted.result_bind, Noted.result_bind,
      resolveArguments_eq h hexpand written, h.local?_eq]
    refine bind_congr fun arguments => ?_
    split
    · rfl
    · exact hexpand _
    · rw [nameMeaning_result, nameMeaning_result, h.tyOf_eq]

theorem resolveArguments_eq (h : SeesAlike env d env' d')
    (hexpand : ∀ e, (expand e).result = (expand' e).result) : ∀ es : List TypeExpr,
    (env.resolveArguments d expand es).result = (env'.resolveArguments d' expand' es).result
  | [] => rfl
  | e :: rest => by
    simp only [resolveArguments, Noted.result_bind, resolveWith_eq h hexpand e,
      resolveArguments_eq h hexpand rest]

theorem resolveElements_eq (h : SeesAlike env d env' d')
    (hexpand : ∀ e, (expand e).result = (expand' e).result) :
    ∀ es : List (TypeExpr × Option String),
      (env.resolveElements d expand es).result = (env'.resolveElements d' expand' es).result
  | [] => rfl
  | (e, label) :: rest => by
    simp only [resolveElements, Noted.result_bind, resolveWith_eq h hexpand e,
      resolveElements_eq h hexpand rest]

end

theorem mapM_eq (hexpand : ∀ e, (expand e).result = (expand' e).result) (es : List TypeExpr) :
    (es.mapM expand).result = (es.mapM expand').result := by
  induction es with
  | nil => rfl
  | cons e rest ih => simp only [List.mapM_cons, Noted.result_bind, hexpand, ih]

theorem expandWith_eq (h : SeesAlike env d env' d')
    (hexpand : ∀ e, (expand e).result = (expand' e).result) (target : TypeExpr) :
    (env.expandWith expand target).result = (env'.expandWith expand' target).result := by
  cases target with
  | name qualifier path last =>
    rw [expandWith, expandWith, Noted.result_bind, Noted.result_bind, mapM_eq hexpand]
    refine bind_congr fun arguments => ?_
    have hkey := h.finds .exactArity (TypeExpr.dotted path last) last.arguments.length
    dsimp only
    rcases map_key_eq_cases hkey with ⟨hs, hs'⟩ | ⟨s, s', hs, hs', hkey⟩
    · rw [hs, hs']
    · rw [hs, hs']
      exact congrArg (Except.ok <| Ty.named · arguments) hkey
  | _ => exact hexpand _

end

theorem resolveWithin_eq (h : SeesAlike env d env' d') (depth : Nat) (e : TypeExpr) :
    (env.resolveWithin d depth e).result = (env'.resolveWithin d' depth e).result := by
  induction depth generalizing e with
  | zero => exact h.resolveWith_eq (fun _ => rfl) e
  | succ depth ih => exact h.resolveWith_eq (h.expandWith_eq ih) e

/-- A written type means the same in two headers that see the same. How many
directives there are does not matter either: the number of aliases that each
header sees is enough for both. -/
theorem resolve_eq (h : SeesAlike env d env' d') (e : TypeExpr) :
    (env.resolve d e).result = (env'.resolve d' e).result := by
  rw [← resolveWithin_result d e (env'.aliasCount d'), h.resolveWithin_eq, Nat.add_comm,
    resolveWithin_result]

theorem entryResolves (h : SeesAlike env d env' d') (hbases : d.bases = d'.bases)
    (hd : env.EntryResolves d) : env'.EntryResolves d' := by
  intro entry hentry
  rw [← h.resolve_eq]
  exact hd entry (hbases ▸ hentry)

theorem offer?_eq (h : SeesAlike env d env' d') (hbases : d.bases = d'.bases) :
    env.offer? d = env'.offer? d' := by
  have hoffer : (env.baseOffer d).result = (env'.baseOffer d').result := by
    unfold baseOffer
    rw [hbases]
    cases d'.bases with
    | nil => rfl
    | cons entry rest =>
      dsimp only
      rw [Noted.result_bind, Noted.result_bind, h.resolve_eq]
  rw [offer?, offer?, hoffer]

end SeesAlike

end Environment

end Registrar
