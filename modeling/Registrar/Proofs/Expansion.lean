/-
When resolution ends. A written type is resolved by going down into its
parts, and the only way out of them is a using alias: the name is replaced by
what the alias stands for. So resolution ends unless aliases are expanded
inside one another for ever, which is the case exactly when one of those that
the type leads to comes back to itself (`resolve_returns_iff_no_cycle`).

`resolveWithin` counts the expansions inside one another. It ends within
`depth` of them unless there is a longer path of expansions
(`resolveWithin_returns`), and a path longer than there are aliases repeats
one (`exists_cycle`). Hence the count that `resolve` allows is never what
decides: allowing more changes no answer (`resolveWithin_result`).
-/
import Mathlib.Data.List.Duplicate
import Mathlib.Data.List.Perm.Subperm
import Mathlib.Logic.Relation
import Registrar.Proofs.Lookup

namespace Registrar

namespace Noted

/-- The computation ends with a value. -/
def Returns (x : Noted ε α) : Prop := ∃ a, x.result = .ok a

theorem returns_pure (a : α) : (pure a : Noted ε α).Returns := ⟨a, rfl⟩

theorem returns_bind {x : Noted ε α} {f : α → Noted ε β} :
    (x >>= f).Returns ↔ ∃ a, x.result = .ok a ∧ (f a).Returns := by
  simp only [Returns, result_bind_eq_ok]
  exact ⟨fun ⟨b, a, hx, hf⟩ => ⟨a, hx, b, hf⟩, fun ⟨a, hx, b, hf⟩ => ⟨b, a, hx, hf⟩⟩

/-- What follows a computation without ever failing does not decide whether it returns. -/
theorem returns_bind_of_forall {x : Noted ε α} {f : α → Noted ε β} (h : ∀ a, (f a).Returns) :
    (x >>= f).Returns ↔ x.Returns := by
  rw [returns_bind]
  exact ⟨fun ⟨a, hx, _⟩ => ⟨a, hx⟩, fun ⟨a, hx⟩ => ⟨a, hx, h a⟩⟩

end Noted

namespace TypeExpr

/-- `p` stands at a place of `e` that resolution visits: `e` itself, the
element of an array, what is nullable, an element of a tuple, or an argument
of the last segment of a name. -/
inductive Visits : TypeExpr → TypeExpr → Prop
  | self : Visits e e
  | array : Visits element p → Visits (.array element rank) p
  | nullable {inner p : TypeExpr} : Visits inner p → Visits (.nullable inner) p
  | tuple : pair ∈ elements → Visits pair.1 p → Visits (.tuple elements) p
  | argument : a ∈ last.arguments → Visits a p → Visits (.name qualifier path last) p

/-- What is resolved of the target of an alias: the arguments of a name, which
itself is not expanded again, and any other type as a whole. -/
def openParts : TypeExpr → List TypeExpr
  | .name _ _ last => last.arguments
  | target => [target]

end TypeExpr

namespace Environment

open TypeExpr

variable {env : Environment} {d : TypeDeclaration}

/-- The alias `x` is used in `e`: it is written at a visited place, and it is
no type parameter there. -/
def Uses (env : Environment) (d : TypeDeclaration) (e : TypeExpr) (x : String) : Prop :=
  Visits e (simple x []) ∧ x ∉ d.parametersInScope ∧ (env.aliasTarget? d x).isSome = true

/-- Expanding the alias `x` leads to a use of the alias `y`. -/
def ExpandsTo (env : Environment) (d : TypeDeclaration) (x y : String) : Prop :=
  ∃ target, env.aliasTarget? d x = some target ∧ ∃ e ∈ target.openParts, env.Uses d e y

/-- Resolving `e` leads to a use of the alias `x`. -/
def LeadsTo (env : Environment) (d : TypeDeclaration) (e : TypeExpr) (x : String) : Prop :=
  ∃ y, env.Uses d e y ∧ Relation.ReflTransGen (env.ExpandsTo d) y x

/-- Expanding the alias `x` leads back to it. -/
def OnCycle (env : Environment) (d : TypeDeclaration) (x : String) : Prop :=
  Relation.TransGen (env.ExpandsTo d) x x

/-! ## Uses, form by form -/

theorem not_uses_predefined {keyword x : String} : ¬ env.Uses d (.predefined keyword) x := by
  intro ⟨h, _⟩
  cases h

theorem not_uses_raw {text x : String} : ¬ env.Uses d (.raw text) x := by
  intro ⟨h, _⟩
  cases h

theorem uses_array {element : TypeExpr} {rank : Int} {x : String} :
    env.Uses d (.array element rank) x ↔ env.Uses d element x := by
  refine and_congr_left fun _ => ⟨fun h => ?_, .array⟩
  cases h with
  | array h => exact h

theorem uses_nullable {inner : TypeExpr} {x : String} :
    env.Uses d (.nullable inner) x ↔ env.Uses d inner x := by
  refine and_congr_left fun _ => ⟨fun h => ?_, .nullable⟩
  cases h with
  | nullable h => exact h

theorem uses_tuple {elements : List (TypeExpr × Option String)} {x : String} :
    env.Uses d (.tuple elements) x ↔ ∃ p ∈ elements, env.Uses d p.1 x := by
  constructor
  · intro ⟨h, hx⟩
    cases h with
    | tuple hmem h => exact ⟨_, hmem, h, hx⟩
  · intro ⟨p, hmem, h, hx⟩
    exact ⟨.tuple hmem h, hx⟩

theorem uses_name {qualifier : Option String} {path : List Segment} {last : Segment} {x : String} :
    env.Uses d (.name qualifier path last) x ↔
      (.name qualifier path last = simple x [] ∧ x ∉ d.parametersInScope ∧
        (env.aliasTarget? d x).isSome = true) ∨ ∃ a ∈ last.arguments, env.Uses d a x := by
  constructor
  · intro ⟨h, hx⟩
    cases h with
    | self => exact .inl ⟨rfl, hx⟩
    | argument hmem h => exact .inr ⟨_, hmem, h, hx⟩
  · rintro (⟨he, hx⟩ | ⟨a, hmem, h, hx⟩)
    · rw [he]
      exact ⟨.self, hx⟩
    · exact ⟨.argument hmem h, hx⟩

/-- A name is replaced by a target when it is written alone and is an alias. -/
theorem local?_eq_expansion_iff {qualifier : Option String} {path : List Segment}
    {identifier : String} {written : List TypeExpr} {target : TypeExpr} :
    env.local? d qualifier path (.segment identifier written) = some (.expansion target) ↔
      .name qualifier path (.segment identifier written) = simple identifier [] ∧
        identifier ∉ d.parametersInScope ∧ env.aliasTarget? d identifier = some target := by
  cases qualifier <;> cases path <;> cases written <;>
    simp only [local?, Segment.arguments, Segment.identifier, simple, Option.isNone_none,
      Option.isNone_some, List.isEmpty_nil, List.isEmpty_cons, Bool.false_and, Bool.and_false,
      Bool.and_self, Bool.false_eq_true, if_false, if_true, reduceCtorEq, TypeExpr.name.injEq,
      Segment.segment.injEq, and_false, false_and, and_self, true_and]
  by_cases h : identifier ∈ d.parametersInScope <;> simp [h]

/-! ## One pass over a written type -/

section

variable {expand : TypeExpr → Noted EndlessAlias Ty}

/-- All aliases that `e` uses have targets that `expand` can resolve. -/
def UsesReturn (env : Environment) (d : TypeDeclaration)
    (expand : TypeExpr → Noted EndlessAlias Ty) (e : TypeExpr) : Prop :=
  ∀ x, env.Uses d e x → ∀ target, env.aliasTarget? d x = some target → (expand target).Returns

theorem usesReturn_of_not_uses {e : TypeExpr} (h : ∀ x, ¬ env.Uses d e x) :
    env.UsesReturn d expand e :=
  fun x hx => absurd hx (h x)

theorem usesReturn_congr {e e' : TypeExpr} (h : ∀ x, env.Uses d e x ↔ env.Uses d e' x) :
    env.UsesReturn d expand e ↔ env.UsesReturn d expand e' := by
  simp only [UsesReturn, h]

theorem usesReturn_tuple {elements : List (TypeExpr × Option String)} :
    env.UsesReturn d expand (.tuple elements) ↔
      ∀ p ∈ elements, env.UsesReturn d expand p.1 := by
  simp only [UsesReturn, uses_tuple]
  exact ⟨fun h p hp x hx => h x ⟨p, hp, hx⟩, fun h x ⟨p, hp, hx⟩ => h p hp x hx⟩

theorem usesReturn_name {qualifier : Option String} {path : List Segment} {identifier : String}
    {written : List TypeExpr} :
    env.UsesReturn d expand (.name qualifier path (.segment identifier written)) ↔
      (∀ target, env.local? d qualifier path (.segment identifier written) =
        some (.expansion target) → (expand target).Returns) ∧
      ∀ a ∈ written, env.UsesReturn d expand a := by
  simp only [UsesReturn, uses_name, local?_eq_expansion_iff]
  constructor
  · refine fun h => ⟨fun target ⟨he, hparam, htarget⟩ => ?_, fun a ha x hx => h x (.inr ⟨a, ha, hx⟩)⟩
    exact h identifier (.inl ⟨he, hparam, by rw [htarget]; rfl⟩) target htarget
  · rintro ⟨hself, harguments⟩ x (⟨he, hparam, _⟩ | ⟨a, ha, hx⟩) target htarget
    · simp only [simple, TypeExpr.name.injEq, Segment.segment.injEq] at he
      obtain ⟨rfl, rfl, rfl, rfl⟩ := he
      exact hself target ⟨rfl, hparam, htarget⟩
    · exact harguments a ha x hx target htarget

theorem nameMeaning_returns (qualifier : Option String) (path : List Segment) (last : Segment)
    (arguments : List Ty) :
    (env.nameMeaning d qualifier path last arguments : Noted EndlessAlias Ty).Returns :=
  ⟨_, nameMeaning_result env d qualifier path last arguments⟩

mutual

/-- A pass over a written type returns when all targets of its aliases do. -/
theorem resolveWith_returns : ∀ e : TypeExpr,
    (env.resolveWith d expand e).Returns ↔ env.UsesReturn d expand e
  | .predefined _ =>
    iff_of_true (Noted.returns_pure _) (usesReturn_of_not_uses fun _ => not_uses_predefined)
  | .raw _ => iff_of_true (Noted.returns_pure _) (usesReturn_of_not_uses fun _ => not_uses_raw)
  | .array element _ => by
    rw [resolveWith, Noted.returns_bind_of_forall fun _ => Noted.returns_pure _,
      resolveWith_returns element, usesReturn_congr fun _ => uses_array]
  | .nullable inner => by
    rw [resolveWith, Noted.returns_bind_of_forall fun _ => Noted.returns_pure _,
      resolveWith_returns inner, usesReturn_congr fun _ => uses_nullable]
  | .tuple elements => by
    rw [resolveWith, Noted.returns_bind_of_forall fun _ => Noted.returns_pure _,
      resolveElements_returns elements, usesReturn_tuple]
  | .name qualifier path (.segment identifier written) => by
    rw [resolveWith, Noted.returns_bind, usesReturn_name, ← resolveArguments_returns written]
    cases h : env.local? d qualifier path (.segment identifier written) with
    | none =>
      simp only [nameMeaning_returns, reduceCtorEq, false_implies, implies_true, true_and, and_true]
      rfl
    | some l =>
      cases l with
      | parameter =>
        simp only [Noted.returns_pure, Option.some.injEq, reduceCtorEq, false_implies, implies_true,
          true_and, and_true]
        rfl
      | expansion target =>
        simp only [Option.some.injEq, Local.expansion.injEq, forall_eq', exists_and_right]
        exact and_comm

theorem resolveArguments_returns : ∀ es : List TypeExpr,
    (env.resolveArguments d expand es).Returns ↔ ∀ e ∈ es, env.UsesReturn d expand e
  | [] => iff_of_true (Noted.returns_pure _) (by simp)
  | e :: rest => by
    rw [resolveArguments, Noted.returns_bind, List.forall_mem_cons, ← resolveWith_returns e,
      ← resolveArguments_returns rest]
    simp only [Noted.returns_bind_of_forall fun _ => Noted.returns_pure _, exists_and_right]
    rfl

theorem resolveElements_returns : ∀ es : List (TypeExpr × Option String),
    (env.resolveElements d expand es).Returns ↔ ∀ p ∈ es, env.UsesReturn d expand p.1
  | [] => iff_of_true (Noted.returns_pure _) (by simp)
  | (e, label) :: rest => by
    rw [resolveElements, Noted.returns_bind, List.forall_mem_cons, ← resolveWith_returns e,
      ← resolveElements_returns rest]
    simp only [Noted.returns_bind_of_forall fun _ => Noted.returns_pure _, exists_and_right]
    rfl

end

end

/-- The target of an alias is resolved when its open parts are. -/
theorem expandWith_returns {resolve : TypeExpr → Noted EndlessAlias Ty} (target : TypeExpr) :
    (env.expandWith resolve target).Returns ↔ ∀ e ∈ target.openParts, (resolve e).Returns := by
  have hmapM : ∀ es : List TypeExpr, (es.mapM resolve).Returns ↔ ∀ e ∈ es, (resolve e).Returns := by
    intro es
    induction es with
    | nil => exact iff_of_true (Noted.returns_pure _) (by simp)
    | cons e rest ih =>
      rw [List.mapM_cons, Noted.returns_bind, List.forall_mem_cons, ← ih]
      simp only [Noted.returns_bind_of_forall fun _ => Noted.returns_pure _, exists_and_right]
      rfl
  cases target with
  | name qualifier path last =>
    rw [expandWith, Noted.returns_bind_of_forall, hmapM]
    · rfl
    · intro arguments
      dsimp only
      split <;> exact Noted.returns_pure _
  | _ => simp [expandWith, openParts]

/-! ## Expansions inside one another -/

/-- `n` expansions can follow one another from the alias `x` on. -/
def PathFrom (env : Environment) (d : TypeDeclaration) : (n : Nat) → String → Prop
  | 0, _ => True
  | n + 1, x => ∃ y, env.ExpandsTo d x y ∧ PathFrom env d n y

/-- Resolution within `depth` expansions returns unless one more can follow a used alias. -/
theorem resolveWithin_returns (depth : Nat) (e : TypeExpr) :
    (env.resolveWithin d depth e).Returns ↔ ∀ x, env.Uses d e x → ¬ env.PathFrom d depth x := by
  induction depth generalizing e with
  | zero =>
    rw [resolveWithin, resolveWith_returns]
    refine forall₂_congr fun x hx => ?_
    obtain ⟨target, htarget⟩ := Option.isSome_iff_exists.1 hx.2.2
    simp [htarget, Noted.Returns, PathFrom]
  | succ depth ih =>
    rw [resolveWithin, resolveWith_returns]
    refine forall₂_congr fun x _ => ?_
    simp only [expandWith_returns, ih]
    constructor
    · intro h ⟨y, ⟨target, htarget, e', he', hy⟩, hpath⟩
      exact h target htarget e' he' y hy hpath
    · intro h target htarget e' he' y hy hpath
      exact h ⟨y, ⟨target, htarget, e', he', hy⟩, hpath⟩

/-- From an alias that leads to a cycle the expansions never end. -/
theorem pathFrom_of_onCycle {x : String} (hx : env.OnCycle d x) (n : Nat) :
    ∀ y, Relation.ReflTransGen (env.ExpandsTo d) y x → env.PathFrom d n y := by
  induction n with
  | zero => exact fun _ _ => trivial
  | succ n ih =>
    intro y hy
    rcases hy.cases_head with rfl | ⟨z, hyz, hz⟩
    · obtain ⟨z, hyz, hz⟩ := Relation.TransGen.head'_iff.1 hx
      exact ⟨z, hyz, ih z hz⟩
    · exact ⟨z, hyz, ih z hz⟩

/-- The names of the aliases that the header of `d` sees, as often as they are declared. -/
def aliasNames (env : Environment) (d : TypeDeclaration) : List String :=
  ((env.scopesOf d).flatMap (·.directives)).filterMap (·.aliasName)

theorem length_aliasNames : (env.aliasNames d).length = env.aliasCount d :=
  List.length_filterMap_eq_countP

theorem mem_aliasNames {x : String} (h : (env.aliasTarget? d x).isSome = true) :
    x ∈ env.aliasNames d := by
  obtain ⟨target, htarget⟩ := Option.isSome_iff_exists.1 h
  obtain ⟨scope, hscope, hx⟩ := List.exists_of_findSome?_eq_some htarget
  obtain ⟨directive, hfind, _⟩ := Option.bind_eq_some_iff.1 hx
  refine List.mem_filterMap.2 ⟨directive, ?_, by simpa using List.find?_some hfind⟩
  exact List.mem_flatMap.2 ⟨scope, hscope, List.mem_of_find?_eq_some hfind⟩

theorem PathFrom.exists_chain {n : Nat} {x : String} (h : env.PathFrom d n x) :
    ∃ ys : List String, ys.length = n ∧ List.IsChain (env.ExpandsTo d) (x :: ys) := by
  induction n generalizing x with
  | zero => exact ⟨[], rfl, .singleton x⟩
  | succ n ih =>
    obtain ⟨y, hxy, hy⟩ := h
    obtain ⟨ys, hlen, hchain⟩ := ih hy
    exact ⟨y :: ys, by simp [hlen], .cons_cons hxy hchain⟩

/-- As many expansions as there are aliases cannot follow one another without one coming back. -/
theorem exists_cycle {n : Nat} (hn : env.aliasCount d ≤ n) {x : String}
    (hx : (env.aliasTarget? d x).isSome = true) (h : env.PathFrom d n x) :
    ∃ y, Relation.ReflTransGen (env.ExpandsTo d) x y ∧ env.OnCycle d y := by
  obtain ⟨ys, hlen, hchain⟩ := h.exists_chain
  have hpairs : (x :: ys).Pairwise (Relation.TransGen (env.ExpandsTo d)) :=
    (hchain.imp fun _ _ => .single).pairwise
  have hnames : x :: ys ⊆ env.aliasNames d := by
    intro y hy
    rcases List.mem_cons.1 hy with rfl | hy
    · exact mem_aliasNames hx
    · obtain ⟨z, _, target, _, e, _, _, _, hy⟩ :=
        Relation.TransGen.tail'_iff.1 ((List.pairwise_cons.1 hpairs).1 y hy)
      exact mem_aliasNames hy
  have hdup : ¬ (x :: ys).Nodup := by
    intro hnodup
    have hle := (List.subperm_of_subset hnodup hnames).length_le
    rw [length_aliasNames, List.length_cons] at hle
    omega
  obtain ⟨y, hy⟩ := List.exists_duplicate_iff_not_nodup.2 hdup
  refine ⟨y, ?_, ?_⟩
  · rcases List.mem_cons.1 hy.mem with rfl | hmem
    · exact .refl
    · exact ((List.pairwise_cons.1 hpairs).1 y hmem).to_reflTransGen
  · exact List.pairwise_pair.1 (hpairs.sublist (List.duplicate_iff_sublist.1 hy))

/-- With as many expansions as there are aliases, only a cycle keeps resolution from ending. -/
theorem resolveWithin_returns_iff {n : Nat} (hn : env.aliasCount d ≤ n) (e : TypeExpr) :
    (env.resolveWithin d n e).Returns ↔ ¬ ∃ x, env.LeadsTo d e x ∧ env.OnCycle d x := by
  rw [resolveWithin_returns]
  constructor
  · intro h ⟨x, ⟨y, hy, hyx⟩, hx⟩
    exact h y hy (pathFrom_of_onCycle hx n y hyx)
  · intro h y hy hpath
    obtain ⟨x, hyx, hx⟩ := exists_cycle hn hy.2.2 hpath
    exact h ⟨x, ⟨y, hy, hyx⟩, hx⟩

/-! ## More expansions change no answer -/

/-- `more` gives every value that `fewer` gives. -/
def Extends (fewer more : TypeExpr → Noted EndlessAlias Ty) : Prop :=
  ∀ e t, (fewer e).result = .ok t → (more e).result = .ok t

section

variable {fewer more : TypeExpr → Noted EndlessAlias Ty}

mutual

theorem resolveWith_mono (hmore : Extends fewer more) : ∀ (e : TypeExpr) (t : Ty),
    (env.resolveWith d fewer e).result = .ok t → (env.resolveWith d more e).result = .ok t
  | .predefined _, _, h => h
  | .raw _, _, h => h
  | .array element _, _, h => by
    rw [resolveWith, Noted.result_bind_eq_ok] at h ⊢
    obtain ⟨t, ht, h⟩ := h
    exact ⟨t, resolveWith_mono hmore element t ht, h⟩
  | .nullable inner, _, h => by
    rw [resolveWith, Noted.result_bind_eq_ok] at h ⊢
    obtain ⟨t, ht, h⟩ := h
    exact ⟨t, resolveWith_mono hmore inner t ht, h⟩
  | .tuple elements, _, h => by
    rw [resolveWith, Noted.result_bind_eq_ok] at h ⊢
    obtain ⟨ts, hts, h⟩ := h
    exact ⟨ts, resolveElements_mono hmore elements ts hts, h⟩
  | .name qualifier path (.segment identifier written), _, h => by
    rw [resolveWith, Noted.result_bind_eq_ok] at h ⊢
    obtain ⟨ts, hts, h⟩ := h
    refine ⟨ts, resolveArguments_mono hmore written ts hts, ?_⟩
    revert h
    split
    · exact id
    · exact hmore _ _
    · exact id

theorem resolveArguments_mono (hmore : Extends fewer more) : ∀ (es : List TypeExpr) (ts : List Ty),
    (env.resolveArguments d fewer es).result = .ok ts →
      (env.resolveArguments d more es).result = .ok ts
  | [], _, h => h
  | e :: rest, _, h => by
    simp only [resolveArguments, Noted.result_bind_eq_ok] at h ⊢
    obtain ⟨t, ht, ts, hts, h⟩ := h
    exact ⟨t, resolveWith_mono hmore e t ht, ts, resolveArguments_mono hmore rest ts hts, h⟩

theorem resolveElements_mono (hmore : Extends fewer more) :
    ∀ (es : List (TypeExpr × Option String)) (ts : List (Ty × Option String)),
      (env.resolveElements d fewer es).result = .ok ts →
        (env.resolveElements d more es).result = .ok ts
  | [], _, h => h
  | (e, label) :: rest, _, h => by
    simp only [resolveElements, Noted.result_bind_eq_ok] at h ⊢
    obtain ⟨t, ht, ts, hts, h⟩ := h
    exact ⟨t, resolveWith_mono hmore e t ht, ts, resolveElements_mono hmore rest ts hts, h⟩

end

theorem mapM_mono (hmore : Extends fewer more) : ∀ (es : List TypeExpr) (ts : List Ty),
    (es.mapM fewer).result = .ok ts → (es.mapM more).result = .ok ts
  | [], _, h => h
  | e :: rest, _, h => by
    simp only [List.mapM_cons, Noted.result_bind_eq_ok] at h ⊢
    obtain ⟨t, ht, ts, hts, h⟩ := h
    exact ⟨t, hmore e t ht, ts, mapM_mono hmore rest ts hts, h⟩

theorem Extends.expandWith (hmore : Extends fewer more) :
    Extends (env.expandWith fewer) (env.expandWith more) := by
  intro target t h
  cases target with
  | name qualifier path last =>
    rw [Environment.expandWith, Noted.result_bind_eq_ok] at h ⊢
    obtain ⟨ts, hts, h⟩ := h
    exact ⟨ts, mapM_mono hmore last.arguments ts hts, h⟩
  | _ => exact hmore _ t h

end

theorem extends_resolveWithin (depth : Nat) :
    Extends (env.resolveWithin d depth) (env.resolveWithin d (depth + 1)) := by
  induction depth with
  | zero => exact resolveWith_mono fun _ _ h => by cases h
  | succ depth ih => exact resolveWith_mono ih.expandWith

theorem resolveWithin_add {depth : Nat} {e : TypeExpr} {t : Ty}
    (h : (env.resolveWithin d depth e).result = .ok t) (extra : Nat) :
    (env.resolveWithin d (depth + extra) e).result = .ok t := by
  induction extra with
  | zero => exact h
  | succ extra ih => exact extends_resolveWithin _ e t ih

/-- With at least as many expansions as there are aliases the outcome is that of `resolve`. -/
theorem resolveWithin_result (d : TypeDeclaration) (e : TypeExpr) (extra : Nat) :
    (env.resolveWithin d (env.aliasCount d + extra) e).result = (env.resolve d e).result := by
  cases hr : (env.resolve d e).result with
  | ok t => exact resolveWithin_add hr extra
  | error fault =>
    cases hr' : (env.resolveWithin d (env.aliasCount d + extra) e).result with
    | error _ => rfl
    | ok t =>
      -- A value with more expansions means that there is no cycle, so there was one before.
      have hreturns := (resolveWithin_returns_iff (Nat.le_add_right _ _) e).1 ⟨t, hr'⟩
      obtain ⟨t', ht'⟩ := (resolveWithin_returns_iff (Nat.le_refl (env.aliasCount d)) e).2 hreturns
      rw [resolve, ht'] at hr
      cases hr

/-- A resolution that does not return is one that needs ever more expansions. -/
theorem forall_resolveWithin_fails_iff (d : TypeDeclaration) (e : TypeExpr) :
    (∀ depth, (env.resolveWithin d depth e).result = .error .endlessAlias) ↔
      ∃ x, env.LeadsTo d e x ∧ env.OnCycle d x := by
  rw [← not_iff_not, ← resolveWithin_returns_iff (Nat.le_refl (env.aliasCount d)) e]
  constructor
  · intro h
    by_contra hfails
    refine h fun depth => ?_
    cases hr : (env.resolveWithin d depth e).result with
    | error _ => rfl
    | ok t =>
      -- The sum of both numbers of expansions would give the value too.
      have hsum := resolveWithin_add hr (env.aliasCount d)
      rw [Nat.add_comm, resolveWithin_result] at hsum
      exact absurd ⟨t, hsum⟩ hfails
  · intro ⟨t, ht⟩ h
    rw [h] at ht
    cases ht

/-- Resolution returns exactly when no alias that the type leads to comes
back to itself. Otherwise it goes on without end: no number of expansions
inside one another is enough. What is allowed beyond the number of aliases in
sight makes no difference. -/
theorem resolve_returns_iff_no_cycle (env : Environment) (d : TypeDeclaration) (e : TypeExpr) :
    ((∃ t, (env.resolve d e).result = .ok t) ↔
      ¬ ∃ x, env.LeadsTo d e x ∧ env.OnCycle d x) ∧
    ((∀ depth, (env.resolveWithin d depth e).result = .error .endlessAlias) ↔
      ∃ x, env.LeadsTo d e x ∧ env.OnCycle d x) ∧
    ∀ extra, (env.resolveWithin d (env.aliasCount d + extra) e).result =
      (env.resolve d e).result :=
  ⟨resolveWithin_returns_iff (Nat.le_refl _) e, forall_resolveWithin_fails_iff d e,
    resolveWithin_result d e⟩

end Environment

end Registrar
