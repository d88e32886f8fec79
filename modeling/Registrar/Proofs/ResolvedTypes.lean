/-
What resolved types are made of. A type is formed over a scope of type
parameters when its parameters are among them and each named type in it is an
unambiguous symbol of the table (`Formed`). Every lookup finds such symbols, and
an alias is expanded in the header that uses it, so whatever resolution returns
is formed over the parameters that the header has in scope (`resolve_formed`).

A name that is neither a type parameter nor an alias keeps its type arguments,
each resolved by itself, whether it is found or not (`resolve_name_eq_ok`).
-/
import Mathlib.Data.List.Forall2
import Registrar.Proofs.Classification
import Registrar.Proofs.Substitution

namespace Registrar

namespace Ty

/-- `u` stands somewhere in a type: it is the type, or stands in a part of it. -/
inductive PartOf (u : Ty) : Ty → Prop
  | self : PartOf u u
  | array (h : PartOf u element) : PartOf u (.array element rank)
  | nullable {inner : Ty} (h : PartOf u inner) : PartOf u (.nullable inner)
  | tuple (hmem : e ∈ elements) (h : PartOf u e.1) : PartOf u (.tuple elements)
  | named (hmem : a ∈ arguments) (h : PartOf u a) : PartOf u (.named symbol arguments)
  | error (hmem : a ∈ arguments) (h : PartOf u a) : PartOf u (.error name arguments)

end Ty

namespace Environment

variable {env : Environment} {d : TypeDeclaration} {scope : List String}

/-! ## Formed types -/

/-- The type parameters of a type are in scope, and its named types are known symbols. -/
inductive Formed (env : Environment) (scope : List String) : Ty → Prop
  | param (h : name ∈ scope) : Formed env scope (.param name)
  | predefined : Formed env scope (.predefined keyword)
  | array (h : Formed env scope element) : Formed env scope (.array element rank)
  | nullable {inner : Ty} (h : Formed env scope inner) : Formed env scope (.nullable inner)
  | tuple (h : ∀ e ∈ elements, Formed env scope e.1) : Formed env scope (.tuple elements)
  | named (hs : env.Known s) (h : ∀ a ∈ arguments, Formed env scope a) :
      Formed env scope (.named s.key arguments)
  | error (h : ∀ a ∈ arguments, Formed env scope a) : Formed env scope (.error name arguments)

/-- What stands in a formed type is formed over the same scope. -/
theorem Formed.part {t u : Ty} (h : env.Formed scope t) (hu : u.PartOf t) : env.Formed scope u := by
  induction hu with
  | self => exact h
  | array _ ih => cases h with | array h => exact ih h
  | nullable _ ih => cases h with | nullable h => exact ih h
  | tuple hmem _ ih => cases h with | tuple h => exact ih (h _ hmem)
  | named hmem _ ih => cases h with | named _ h => exact ih (h _ hmem)
  | error hmem _ ih => cases h with | error h => exact ih (h _ hmem)

theorem Formed.known {key : SymbolKey} {arguments : List Ty}
    (h : env.Formed scope (.named key arguments)) : ∃ s, env.Known s ∧ s.key = key := by
  cases h with
  | named hs _ => exact ⟨_, hs, rfl⟩

theorem Formed.parameters_subset {t : Ty} (h : env.Formed scope t) : t.parameters ⊆ scope := by
  induction h with
  | param h => exact fun _ hname => List.mem_singleton.1 hname ▸ h
  | predefined => exact List.nil_subset _
  | array _ ih | nullable _ ih => exact ih
  | tuple _ ih =>
    intro name hname
    rw [Ty.parameters, Ty.parametersOfElements_eq_flatMap, List.mem_flatMap] at hname
    obtain ⟨e, he, hname⟩ := hname
    exact ih e he hname
  | named _ _ ih | error _ ih =>
    intro name hname
    rw [Ty.parameters, Ty.parametersAmong_eq_flatMap, List.mem_flatMap] at hname
    obtain ⟨a, ha, hname⟩ := hname
    exact ih a ha hname

/-- A name means a formed type when its arguments do. -/
theorem formed_tyOf {qualifier : Option String} {path : List Segment} {last : Segment}
    {arguments : List Ty} (h : ∀ a ∈ arguments, env.Formed scope a) :
    env.Formed scope (env.tyOf d qualifier path last arguments) := by
  unfold tyOf
  split
  · next s hs =>
    rw [Option.or_eq_some_iff] at hs
    rcases hs with hs | ⟨_, hs⟩ <;> exact .named (known_of_symbolOf? hs) h
  · exact .error h

/-! ## Resolution forms types -/

open TypeExpr

/-- What a computation returns is formed over the parameters in scope of `d`. -/
def Forms (env : Environment) (d : TypeDeclaration) (f : TypeExpr → Noted EndlessAlias Ty) : Prop :=
  ∀ e t, (f e).result = .ok t → env.Formed d.parametersInScope t

theorem mem_of_local?_eq_parameter {qualifier : Option String} {path : List Segment}
    {last : Segment} (h : env.local? d qualifier path last = some .parameter) :
    last.identifier ∈ d.parametersInScope := by
  unfold local? at h
  split at h
  · split at h
    · next hmem => exact List.contains_iff_mem.1 hmem
    · cases htarget : env.aliasTarget? d last.identifier <;> rw [htarget] at h <;> cases h
  · cases h

section

variable {expand : TypeExpr → Noted EndlessAlias Ty}

mutual

theorem formed_of_resolveWith (hexpand : env.Forms d expand) : ∀ (e : TypeExpr) (t : Ty),
    (env.resolveWith d expand e).result = .ok t → env.Formed d.parametersInScope t
  | .predefined _, _, h => by
    cases h
    exact .predefined
  | .raw _, _, h => by
    cases h
    exact .error fun _ hmem => by cases hmem
  | .array element _, _, h => by
    rw [resolveWith, Noted.result_bind_eq_ok] at h
    obtain ⟨t, ht, h⟩ := h
    cases h
    exact .array (formed_of_resolveWith hexpand element t ht)
  | .nullable inner, _, h => by
    rw [resolveWith, Noted.result_bind_eq_ok] at h
    obtain ⟨t, ht, h⟩ := h
    cases h
    exact .nullable (formed_of_resolveWith hexpand inner t ht)
  | .tuple elements, _, h => by
    rw [resolveWith, Noted.result_bind_eq_ok] at h
    obtain ⟨ts, hts, h⟩ := h
    cases h
    exact .tuple (formed_of_resolveElements hexpand elements ts hts)
  | .name qualifier path (.segment identifier written), _, h => by
    rw [resolveWith, Noted.result_bind_eq_ok] at h
    obtain ⟨ts, hts, h⟩ := h
    have harguments := formed_of_resolveArguments hexpand written ts hts
    split at h
    · next hlocal =>
      cases h
      exact .param (mem_of_local?_eq_parameter hlocal)
    · exact hexpand _ _ h
    · rw [nameMeaning_result] at h
      cases h
      exact formed_tyOf harguments

theorem formed_of_resolveArguments (hexpand : env.Forms d expand) :
    ∀ (es : List TypeExpr) (ts : List Ty), (env.resolveArguments d expand es).result = .ok ts →
      ∀ t ∈ ts, env.Formed d.parametersInScope t
  | [], _, h => by
    cases h
    exact fun _ hmem => by cases hmem
  | e :: rest, _, h => by
    simp only [resolveArguments, Noted.result_bind_eq_ok] at h
    obtain ⟨t, ht, ts, hts, h⟩ := h
    cases h
    exact List.forall_mem_cons.2 ⟨formed_of_resolveWith hexpand e t ht,
      formed_of_resolveArguments hexpand rest ts hts⟩

theorem formed_of_resolveElements (hexpand : env.Forms d expand) :
    ∀ (es : List (TypeExpr × Option String)) (ts : List (Ty × Option String)),
      (env.resolveElements d expand es).result = .ok ts →
        ∀ p ∈ ts, env.Formed d.parametersInScope p.1
  | [], _, h => by
    cases h
    exact fun _ hmem => by cases hmem
  | (e, label) :: rest, _, h => by
    simp only [resolveElements, Noted.result_bind_eq_ok] at h
    obtain ⟨t, ht, ts, hts, h⟩ := h
    cases h
    exact List.forall_mem_cons.2 ⟨formed_of_resolveWith hexpand e t ht,
      formed_of_resolveElements hexpand rest ts hts⟩

end

end

theorem formed_of_mapM {resolve : TypeExpr → Noted EndlessAlias Ty} (hresolve : env.Forms d resolve)
    {es : List TypeExpr} {ts : List Ty} (h : (es.mapM resolve).result = .ok ts) :
    ∀ t ∈ ts, env.Formed d.parametersInScope t := by
  induction es generalizing ts with
  | nil =>
    cases h
    exact fun _ hmem => by cases hmem
  | cons e rest ih =>
    simp only [List.mapM_cons, Noted.result_bind_eq_ok] at h
    obtain ⟨t, ht, others, hothers, h⟩ := h
    cases h
    exact List.forall_mem_cons.2 ⟨hresolve e t ht, ih hothers⟩

/-- The target of an alias is formed over the scope of the header that uses it. -/
theorem Forms.expandWith {resolve : TypeExpr → Noted EndlessAlias Ty}
    (hresolve : env.Forms d resolve) : env.Forms d (env.expandWith resolve) := by
  intro target t h
  cases target with
  | name qualifier path last =>
    rw [Environment.expandWith, Noted.result_bind_eq_ok] at h
    obtain ⟨ts, hts, h⟩ := h
    have harguments := formed_of_mapM hresolve hts
    dsimp only at h
    split at h
    · next s hs =>
      cases h
      exact .named (known_of_find hs) harguments
    · cases h
      exact .error harguments
  | _ => exact hresolve _ t h

theorem forms_resolveWithin (env : Environment) (d : TypeDeclaration) (depth : Nat) :
    env.Forms d (env.resolveWithin d depth) := by
  induction depth with
  | zero => exact formed_of_resolveWith fun _ _ h => by cases h
  | succ depth ih => exact formed_of_resolveWith ih.expandWith

theorem resolve_formed {e : TypeExpr} {t : Ty} (h : (env.resolve d e).result = .ok t) :
    env.Formed d.parametersInScope t :=
  forms_resolveWithin env d _ e t h

/-! ## Names and their arguments -/

/-- The type is a name that means a type parameter or a using alias: it is written alone. -/
def IsLocal (env : Environment) (d : TypeDeclaration) (e : TypeExpr) : Prop :=
  ∃ x, e = simple x [] ∧ (x ∈ d.parametersInScope ∨ (env.aliasTarget? d x).isSome = true)

theorem local?_eq_none_iff {qualifier : Option String} {path : List Segment} {last : Segment} :
    env.local? d qualifier path last = none ↔ ¬ env.IsLocal d (.name qualifier path last) := by
  obtain ⟨identifier, written⟩ := last
  cases qualifier <;> cases path <;> cases written <;>
    simp [local?, IsLocal, simple, Segment.arguments, Segment.identifier]
  by_cases h : identifier ∈ d.parametersInScope <;> simp [h]

theorem forall₂_of_resolveArguments {expand : TypeExpr → Noted EndlessAlias Ty} {es : List TypeExpr}
    {ts : List Ty} (h : (env.resolveArguments d expand es).result = .ok ts) :
    List.Forall₂ (fun e t => (env.resolveWith d expand e).result = .ok t) es ts := by
  induction es generalizing ts with
  | nil =>
    cases h
    exact .nil
  | cons e rest ih =>
    simp only [resolveArguments, Noted.result_bind_eq_ok] at h
    obtain ⟨t, ht, others, hothers, h⟩ := h
    cases h
    exact .cons ht (ih hothers)

/-- A name that is neither parameter nor alias means what it is looked up as, with its arguments
resolved one by one. -/
theorem resolve_name_eq_ok {qualifier : Option String} {path : List Segment} {last : Segment}
    (hname : ¬ env.IsLocal d (.name qualifier path last)) {t : Ty}
    (h : (env.resolve d (.name qualifier path last)).result = .ok t) :
    ∃ arguments, List.Forall₂ (fun e u => (env.resolve d e).result = .ok u) last.arguments arguments ∧
      t = env.tyOf d qualifier path last arguments := by
  obtain ⟨expand, hexpand⟩ := env.resolveWithin_eq d (env.aliasCount d)
  obtain ⟨identifier, written⟩ := last
  simp only [resolve, hexpand] at h ⊢
  rw [resolveWith, local?_eq_none_iff.2 hname, Noted.result_bind_eq_ok] at h
  obtain ⟨arguments, harguments, h⟩ := h
  dsimp only at h
  rw [nameMeaning_result] at h
  exact ⟨arguments, forall₂_of_resolveArguments harguments, (Except.ok.inj h).symm⟩

theorem tyOf_cases (env : Environment) (d : TypeDeclaration) (qualifier : Option String)
    (path : List Segment) (last : Segment) (arguments : List Ty) :
    (∃ key, env.tyOf d qualifier path last arguments = .named key arguments) ∨
      env.tyOf d qualifier path last arguments = .error (dotted path last) arguments := by
  unfold tyOf
  split
  · exact .inl ⟨_, rfl⟩
  · exact .inr rfl

/-- A resolved type mentions only the type parameters of its context and of the types around it, and
each named type in it is an unambiguous symbol that the table holds under its own key. A name that is
neither a type parameter nor an alias is a named type, or an error type under the name as written,
with as many arguments as were written, and these are resolved one by one. -/
theorem resolve_sound (units : List SourceUnit) (references : List Reference) {d : TypeDeclaration}
    {e : TypeExpr} {t : Ty} (h : ((build units references).resolve d e).result = .ok t) :
    let env := build units references
    (∀ name ∈ t.parameters,
      name ∈ d.typeParameters ∨ ∃ around ∈ d.containers, name ∈ around.typeParameters) ∧
    (∀ key arguments, (Ty.named key arguments).PartOf t →
      ∃ s, env.table.get? key = some s ∧ s.key = key ∧ s.isAmbiguous = false) ∧
    ∀ qualifier path last, e = .name qualifier path last → ¬ env.IsLocal d e →
      ∃ arguments, arguments.length = last.arguments.length ∧
        List.Forall₂ (fun a u => (env.resolve d a).result = .ok u) last.arguments arguments ∧
        ((∃ key, t = .named key arguments) ∨ t = .error (dotted path last) arguments) := by
  intro env
  have hformed : env.Formed d.parametersInScope t := resolve_formed h
  refine ⟨fun name hname => ?_, fun key arguments hpart => ?_, ?_⟩
  · have hscope := hformed.parameters_subset hname
    rwa [TypeDeclaration.parametersInScope, List.mem_append, List.mem_flatMap] at hscope
  · obtain ⟨s, ⟨hs, hambiguous⟩, hkey⟩ := (hformed.part hpart).known
    exact ⟨s, (keyed_build units references).get?_eq_some_iff.2 ⟨hs, hkey⟩, hkey, hambiguous⟩
  · rintro qualifier path last rfl hname
    obtain ⟨arguments, harguments, rfl⟩ := resolve_name_eq_ok hname h
    exact ⟨arguments, harguments.length_eq.symm, harguments, env.tyOf_cases d _ _ _ _⟩

end Environment

/-! ## A base with parameters of two types -/

namespace Sample

open Registrar.Tree

/-- `class Pair<A, B>` and `class Outer<T> { class Inner<U> : Pair<T, Missing<U[]>> }`. -/
def nestedGenerics : List SourceUnit :=
  [file "outer.cs"
    [typeNode .class [] "Pair" ["A", "B"] [],
      classAround "Outer" ["T"]
        [typeNode .class [] "Inner" ["U"]
          [generic "Pair" [word .identifier "T" none,
            generic "Missing" [.node .arrayType "" true none 0 [word .identifier "U" none]]]]]]]

/-- The class `Inner`. -/
def innerClass : TypeDeclaration :=
  (nestedGenerics.flatMap SourceUnit.declarations).get ⟨2, by decide⟩

/-- The written base of `Inner`. -/
def pairOfTwo : TypeExpr :=
  .name none [] (.segment "Pair"
    [.simple "T" [], .simple "Missing" [.array (.simple "U" []) 1]])

/-- What it means: there is no type `Missing`. -/
def resolvedPair : Ty :=
  .named ⟨"Pair", 2⟩ [.param "T", .error "Missing" [.array (.param "U") 1]]

end Sample

namespace Environment

open TypeExpr Sample

/-- `T` is a parameter of the enclosing type and `U` one of the class itself, `Pair` stands in the
table, and its arguments are those that are written. -/
theorem resolve_sound_pair :
    innerClass.bases.head? = some pairOfTwo ∧
      ((build nestedGenerics []).resolve innerClass pairOfTwo).result = .ok resolvedPair ∧
      ¬ (build nestedGenerics []).IsLocal innerClass pairOfTwo ∧
      resolvedPair.parameters = ["T", "U"] ∧
      (∀ name ∈ resolvedPair.parameters, name ∈ innerClass.typeParameters ∨
        ∃ around ∈ innerClass.containers, name ∈ around.typeParameters) ∧
      (∃ s, (build nestedGenerics []).table.get? ⟨"Pair", 2⟩ = some s ∧ s.key = ⟨"Pair", 2⟩ ∧
        s.isAmbiguous = false) ∧
      ∃ arguments, arguments.length = 2 ∧
        ((∃ key, resolvedPair = .named key arguments) ∨ resolvedPair = .error "Pair" arguments) := by
  have hlocal : ¬ (build nestedGenerics []).IsLocal innerClass pairOfTwo := by
    rw [pairOfTwo, ← local?_eq_none_iff]
    rfl
  have hresolve : ((build nestedGenerics []).resolve innerClass pairOfTwo).result =
      .ok resolvedPair := by with_unfolding_all rfl
  obtain ⟨hparameters, hnamed, hname⟩ := resolve_sound nestedGenerics [] hresolve
  obtain ⟨arguments, hlength, _, hshape⟩ := hname _ _ _ rfl hlocal
  exact ⟨rfl, hresolve, hlocal, rfl, hparameters, hnamed _ _ .self, arguments, hlength, hshape⟩

end Environment

end Registrar
