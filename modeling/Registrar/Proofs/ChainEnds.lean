/-
The chain of bases, to its end. The walk along bases is not bounded by the types
themselves, which may grow at each turn of a cycle. It ends because it passes no
symbol twice and because it is counted: a `WholeWalk` climbs from base to base,
passes different symbols only, and when it ends before the count is used up, the
last type has no base or has a symbol that was met before. There is one such walk
from a type, and it is the chain (`basesAbove_eq_ok_iff`, `baseChain_exact`).
-/
import Registrar.Proofs.Classification

namespace Registrar

namespace Environment

/-! ## Walks that cannot be continued -/

/-- The last of the bases has a symbol that was visited before or that one of the others has. -/
def Revisits (visited : List SymbolKey) (bases : List NamedType) : Prop :=
  ∃ passed last, bases = passed ++ [last] ∧
    (last.symbol ∈ visited ∨ last.symbol ∈ passed.map NamedType.symbol)

/-- All bases from `t` upwards, at most `count` of them. The symbols up to the last but one are
different from one another and from those `visited`; fewer than `count` bases are there only when
the last one has no base itself, or a symbol that was met before. -/
structure WholeWalk (env : Environment) (prefer : SymbolKey → Bool) (count : Nat)
    (visited : List SymbolKey) (t : NamedType) (bases : List NamedType) : Prop where
  climbs : env.Climbs prefer t bases
  length_le : bases.length ≤ count
  distinct : (visited.reverse ++ bases.dropLast.map NamedType.symbol).Nodup
  ends : bases.length < count →
    (env.baseType prefer (bases.getLastD t)).result = .ok none ∨ Revisits visited bases

variable {env : Environment} {prefer : SymbolKey → Bool} {count : Nat} {visited : List SymbolKey}
  {t base : NamedType} {bases rest : List NamedType}

theorem not_revisits_nil : ¬ Revisits visited [] := by
  rintro ⟨passed, last, h, _⟩
  exact List.append_ne_nil_of_right_ne_nil passed (List.cons_ne_nil last []) h.symm

theorem revisits_singleton_iff : Revisits visited [base] ↔ base.symbol ∈ visited := by
  constructor
  · intro h
    obtain ⟨passed, last, hsplit, hlast⟩ := h
    obtain ⟨rfl, hlast'⟩ := List.append_eq_singleton_iff.1 hsplit.symm |>.resolve_right (by simp)
    cases hlast'
    simpa using hlast
  · intro h
    exact ⟨[], base, rfl, .inl h⟩

/-- Passing a base is visiting its symbol. -/
theorem revisits_cons_iff (hne : rest ≠ []) :
    Revisits visited (base :: rest) ↔ Revisits (base.symbol :: visited) rest := by
  constructor
  · intro h
    obtain ⟨passed, last, hsplit, hlast⟩ := h
    cases passed with
    | nil => exact absurd (List.cons.inj hsplit).2 hne
    | cons first passed =>
      obtain ⟨rfl, rfl⟩ := List.cons.inj hsplit
      refine ⟨passed, last, rfl, ?_⟩
      rw [List.map_cons, List.mem_cons] at hlast
      rw [List.mem_cons]
      tauto
  · intro h
    obtain ⟨passed, last, rfl, hlast⟩ := h
    refine ⟨base :: passed, last, rfl, ?_⟩
    rw [List.mem_cons] at hlast
    rw [List.map_cons, List.mem_cons]
    tauto

theorem wholeWalk_zero_iff (hvisited : visited.Nodup) :
    env.WholeWalk prefer 0 visited t bases ↔ bases = [] := by
  constructor
  · intro h
    exact List.length_eq_zero_iff.1 (Nat.le_zero.1 h.length_le)
  · rintro rfl
    exact ⟨trivial, Nat.le_refl 0, by simpa using hvisited, fun h => absurd h (Nat.lt_irrefl 0)⟩

theorem wholeWalk_nil_iff (hvisited : visited.Nodup) :
    env.WholeWalk prefer (count + 1) visited t [] ↔
      (env.baseType prefer t).result = .ok none := by
  constructor
  · intro h
    exact (h.ends (Nat.succ_pos count)).resolve_right not_revisits_nil
  · intro h
    exact ⟨trivial, Nat.zero_le _, by simpa using hvisited, fun _ => .inl h⟩

/-- A walk ends behind a base whose symbol was visited, and goes on behind any other. -/
theorem wholeWalk_cons_iff (hvisited : visited.Nodup) :
    env.WholeWalk prefer (count + 1) visited t (base :: rest) ↔
      (env.baseType prefer t).result = .ok (some base) ∧
        if base.symbol ∈ visited then rest = []
        else env.WholeWalk prefer count (base.symbol :: visited) base rest := by
  have hkeys : ∀ passed : List NamedType,
      visited.reverse ++ (base :: passed).map NamedType.symbol =
        (base.symbol :: visited).reverse ++ passed.map NamedType.symbol := by simp
  constructor
  · intro ⟨⟨hbase, hclimbs⟩, hlength, hdistinct, hends⟩
    refine ⟨hbase, ?_⟩
    rw [List.length_cons, Nat.add_lt_add_iff_right] at hends
    by_cases hne : rest = []
    · subst hne
      split
      · rfl
      · next hnot =>
        refine ⟨trivial, Nat.zero_le count, ?_, fun hlt => .inl ?_⟩
        · have hnodup : (base.symbol :: visited).Nodup := List.nodup_cons.2 ⟨hnot, hvisited⟩
          rwa [List.dropLast_nil, List.map_nil, List.append_nil, List.nodup_reverse]
        · exact (hends hlt).resolve_right fun h => hnot (revisits_singleton_iff.1 h)
    · rw [List.dropLast_cons_of_ne_nil hne, hkeys] at hdistinct
      have hnodup := List.nodup_reverse.1 (List.nodup_append.1 hdistinct).1
      rw [if_neg (List.nodup_cons.1 hnodup).1]
      refine ⟨hclimbs, Nat.le_of_succ_le_succ hlength, hdistinct, fun hlt => ?_⟩
      rw [← revisits_cons_iff hne]
      have := hends hlt
      rwa [List.getLastD_cons] at this
  · intro ⟨hbase, hrest⟩
    by_cases hmem : base.symbol ∈ visited
    · rw [if_pos hmem] at hrest
      subst hrest
      refine ⟨⟨hbase, trivial⟩, Nat.succ_le_succ (Nat.zero_le count), by simpa using hvisited, ?_⟩
      exact fun _ => .inr (revisits_singleton_iff.2 hmem)
    · rw [if_neg hmem] at hrest
      obtain ⟨hclimbs, hlength, hdistinct, hends⟩ := hrest
      refine ⟨⟨hbase, hclimbs⟩, Nat.succ_le_succ hlength, ?_, fun hlt => ?_⟩
      · by_cases hne : rest = []
        · subst hne
          simpa using hvisited
        · rw [List.dropLast_cons_of_ne_nil hne, hkeys]
          exact hdistinct
      · rw [List.getLastD_cons]
        refine (hends (Nat.lt_of_succ_lt_succ hlt)).imp_right fun h => ?_
        exact (revisits_cons_iff fun hnil => not_revisits_nil (hnil ▸ h)).2 h

/-- What the walk that nothing stops returns from a type: nothing when it has no base, and
otherwise the base and, unless its symbol was visited, what the walk returns from there. -/
theorem basesAbove_succ_eq_ok_iff :
    (env.basesAbove prefer (fun _ => false) (count + 1) visited t).result = .ok bases ↔
      ((env.baseType prefer t).result = .ok none ∧ bases = []) ∨
      ∃ base rest, (env.baseType prefer t).result = .ok (some base) ∧ bases = base :: rest ∧
        if base.symbol ∈ visited then rest = []
        else (env.basesAbove prefer (fun _ => false) count (base.symbol :: visited) base).result =
          .ok rest := by
  cases hbase : (env.baseType prefer t).result with
  | error e =>
    have hfails : (env.basesAbove prefer (fun _ => false) (count + 1) visited t).result =
        .error e := by
      rw [basesAbove, Noted.result_bind, hbase]
      rfl
    simp [hfails]
  | ok o =>
    cases o with
    | none =>
      have hends : (env.basesAbove prefer (fun _ => false) (count + 1) visited t).result =
          .ok [] := by
        rw [basesAbove, Noted.result_bind_of_ok hbase]
        rfl
      simp [hends, eq_comm]
    | some base =>
      rw [basesAbove_of_base hbase]
      simp only [Except.ok.injEq, Option.some.injEq, reduceCtorEq, false_and, Bool.false_eq_true,
        false_or, exists_and_left, exists_eq_left']
      by_cases hmem : base.symbol ∈ visited
      · simp [hmem, eq_comm]
      · generalize (env.basesAbove prefer (fun _ => false) count (base.symbol :: visited)
          base).result = above
        cases above <;> simp [hmem, Except.map, eq_comm]

/-- The walk that nothing stops returns the whole walk, and only that. -/
theorem basesAbove_eq_ok_iff (hvisited : visited.Nodup) :
    (env.basesAbove prefer (fun _ => false) count visited t).result = .ok bases ↔
      env.WholeWalk prefer count visited t bases := by
  induction count generalizing visited t bases with
  | zero =>
    rw [wholeWalk_zero_iff hvisited, basesAbove, Noted.result_pure, Except.ok.injEq, eq_comm]
  | succ count ih =>
    rw [basesAbove_succ_eq_ok_iff]
    cases bases with
    | nil => simp [wholeWalk_nil_iff hvisited]
    | cons base rest =>
      rw [wholeWalk_cons_iff hvisited]
      have hrest : (if base.symbol ∈ visited then rest = []
          else (env.basesAbove prefer (fun _ => false) count (base.symbol :: visited) base).result =
            .ok rest) ↔
          if base.symbol ∈ visited then rest = []
          else env.WholeWalk prefer count (base.symbol :: visited) base rest := by
        by_cases hmem : base.symbol ∈ visited
        · rw [if_pos hmem, if_pos hmem]
        · rw [if_neg hmem, if_neg hmem]
          exact ih (List.nodup_cons.2 ⟨hmem, hvisited⟩)
      rw [← hrest]
      simp

/-- A list of bases that meets a symbol again has a first one at which it does. -/
theorem exists_first_again (hvisited : visited.Nodup)
    (h : ¬ (visited.reverse ++ bases.map NamedType.symbol).Nodup) :
    ∃ passed last rest, bases = passed ++ last :: rest ∧
      (visited.reverse ++ passed.map NamedType.symbol).Nodup ∧
      (last.symbol ∈ visited ∨ last.symbol ∈ passed.map NamedType.symbol) := by
  induction bases generalizing visited with
  | nil => exact absurd (by simpa using hvisited) h
  | cons base rest ih =>
    by_cases hmem : base.symbol ∈ visited
    · exact ⟨[], base, rest, rfl, by simpa using hvisited, .inl hmem⟩
    · obtain ⟨passed, last, after, rfl, hdistinct, hlast⟩ :=
        @ih (base.symbol :: visited) (List.nodup_cons.2 ⟨hmem, hvisited⟩) (by simpa using h)
      refine ⟨base :: passed, last, after, rfl, by simpa using hdistinct, ?_⟩
      rw [List.mem_cons] at hlast
      rw [List.map_cons, List.mem_cons]
      tauto

theorem Climbs.of_append {passed : List NamedType} (h : env.Climbs prefer t (passed ++ rest)) :
    env.Climbs prefer t passed := by
  induction passed generalizing t with
  | nil => trivial
  | cons base passed ih => exact ⟨h.1, ih h.2⟩

/-! ## The chain of a symbol -/

/-- The walk that nothing stops returns where all first base entries can be resolved. -/
theorem basesAbove_returns_of_forall
    (h : ∀ s ∈ env.table.symbols, ∀ d ∈ s.declarations, env.EntryResolves d)
    (hvisited : visited.Nodup) :
    (env.basesAbove prefer (fun _ => false) count visited t).Returns := by
  refine basesAbove_returns hvisited fun passed _ => baseType_returns_iff.2 ?_
  intro s hs _ _ d hd
  exact h s (SymbolTable.mem_of_get? hs) d (tried_subset prefer s.declarations hd)

/-- The chain of a symbol is the whole walk from its type. So a way up on which a symbol comes
again, its own or one that was passed, is cut behind the first such base, whatever the type
arguments are; and one on which none does is followed to the type that has no base. -/
theorem baseChain_exact
    (h : ∀ s ∈ env.table.symbols, ∀ d ∈ s.declarations, env.EntryResolves d)
    (prefer : SymbolKey → Bool) (s : Symbol) :
    (∃ bases, (env.baseChain prefer s).result = .ok bases) ∧
    (∀ bases, (env.baseChain prefer s).result = .ok bases ↔
      env.WholeWalk prefer maxChain [s.key] (declaredType s) bases) ∧
    (∀ bases, env.Climbs prefer (declaredType s) bases → bases.length ≤ maxChain →
      ¬ (s.key :: bases.map NamedType.symbol).Nodup →
      ∃ passed last rest, bases = passed ++ last :: rest ∧
        (s.key :: passed.map NamedType.symbol).Nodup ∧
        last.symbol ∈ s.key :: passed.map NamedType.symbol ∧
        (env.baseChain prefer s).result = .ok (passed ++ [last])) ∧
    (∀ bases, env.Climbs prefer (declaredType s) bases → bases.length ≤ maxChain →
      (s.key :: bases.map NamedType.symbol).Nodup →
      (env.baseType prefer (bases.getLastD (declaredType s))).result = .ok none →
      (env.baseChain prefer s).result = .ok bases) := by
  have hstart : [s.key].Nodup := List.nodup_singleton s.key
  have hchain : ∀ bases, (env.baseChain prefer s).result = .ok bases ↔
      env.WholeWalk prefer maxChain [s.key] (declaredType s) bases :=
    fun _ => basesAbove_eq_ok_iff hstart
  refine ⟨basesAbove_returns_of_forall h hstart, hchain, ?_, ?_⟩
  · intro bases hclimbs hlength hagain
    obtain ⟨passed, last, rest, rfl, hdistinct, hlast⟩ := exists_first_again hstart hagain
    refine ⟨passed, last, rest, rfl, hdistinct, by simpa using hlast, (hchain _).2 ?_⟩
    have hsplit : passed ++ last :: rest = (passed ++ [last]) ++ rest := by simp
    rw [hsplit] at hclimbs hlength
    rw [List.length_append] at hlength
    refine ⟨hclimbs.of_append, Nat.le_of_add_right_le hlength, ?_, fun _ => .inr ?_⟩
    · rwa [List.dropLast_concat]
    · exact ⟨passed, last, rfl, hlast⟩
  · intro bases hclimbs hlength hdistinct hroot
    refine (hchain bases).2 ⟨hclimbs, hlength, ?_, fun _ => .inl hroot⟩
    exact hdistinct.sublist
      (((List.dropLast_sublist bases).map NamedType.symbol).cons_cons s.key)

end Environment

/-! ## A cycle that grows -/

namespace Sample

open Registrar.Tree

/-- `class A<T> : B<A<T>>` and `class B<T> : A<B<T>>`, which make one cycle, and a class `Leaf` with
two bases above it. -/
def growing : Environment :=
  .build
    [file "growing.cs"
      [typeNode .class [] "A" ["T"] [generic "B" [generic "A" [word .identifier "T" none]]],
        typeNode .class [] "B" ["T"] [generic "A" [generic "B" [word .identifier "T" none]]],
        typeNode .class [] "Leaf" [] [word .identifier "Middle" none],
        typeNode .class [] "Middle" [] [word .identifier "Root" none],
        typeNode .class [] "Root" [] []]]
    []

/-- The symbol of `growing` under a key. -/
def growingSymbol (key : SymbolKey) : Symbol :=
  (growing.table.get? key).getD (Reference.symbol ⟨"", 0, .class⟩)

/-- How the bases of a symbol of `growing` read. -/
def growingBases (key : SymbolKey) : Option (List String) :=
  (growing.baseChain (fun _ => false) (growingSymbol key)).result.toOption.map
    (·.map (·.toTy.display))

end Sample

namespace Environment

open Sample

theorem baseChain_exact_growing :
    (∀ s ∈ growing.table.symbols, ∀ d ∈ s.declarations, growing.EntryResolves d) ∧
      (∃ bases, growing.WholeWalk (fun _ => false) maxChain [⟨"A", 1⟩]
          (declaredType (growingSymbol ⟨"A", 1⟩)) bases ∧
        bases.map (·.toTy.display) = ["B<A<T>>", "A<B<A<T>>>"]) ∧
      ∃ bases, growing.WholeWalk (fun _ => false) maxChain [⟨"Leaf", 0⟩]
          (declaredType (growingSymbol ⟨"Leaf", 0⟩)) bases ∧
        bases.map (·.toTy.display) = ["Middle", "Root"] := by
  have hresolves : ∀ s ∈ growing.table.symbols, ∀ d ∈ s.declarations, growing.EntryResolves d := by
    decide +kernel
  refine ⟨hresolves, ?_, ?_⟩
  · obtain ⟨⟨bases, hbases⟩, hchain, -, -⟩ :=
      baseChain_exact hresolves (fun _ => false) (growingSymbol ⟨"A", 1⟩)
    have hread : growingBases ⟨"A", 1⟩ = some ["B<A<T>>", "A<B<A<T>>>"] := by decide +kernel
    rw [growingBases, hbases] at hread
    exact ⟨bases, (hchain bases).1 hbases, Option.some.inj hread⟩
  · obtain ⟨⟨bases, hbases⟩, hchain, -, -⟩ :=
      baseChain_exact hresolves (fun _ => false) (growingSymbol ⟨"Leaf", 0⟩)
    have hread : growingBases ⟨"Leaf", 0⟩ = some ["Middle", "Root"] := by decide +kernel
    rw [growingBases, hbases] at hread
    exact ⟨bases, (hchain bases).1 hbases, Option.some.inj hread⟩

end Environment

end Registrar
