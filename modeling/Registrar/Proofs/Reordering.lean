/-
Tables of the same units in two orders. Under each key stand symbols of the
same parts (`get?_cases`): the same declarations in another order, and with
them the same kind where they make one type. Where no name has two arities
and no alias two directives for all units, every header sees the same in both
orders (`seesAlike`).
-/
import Registrar.Proofs.Agreement

namespace Registrar

/-! ## Symbols of the same parts -/

namespace Symbol

/-- Two symbols that the same declarations make in different orders. -/
structure SameParts (s t : Symbol) : Prop where
  key : s.key = t.key
  isReference : s.isReference = t.isReference
  isAmbiguous : s.isAmbiguous = t.isAmbiguous
  declarations : s.declarations.Perm t.declarations
  kind : s.isAmbiguous = false → s.kind = t.kind
  typeParameters : (∀ d ∈ s.declarations, ∀ e ∈ s.declarations,
    d.typeParameters = e.typeParameters) → s.typeParameters = t.typeParameters

theorem SameParts.refl (s : Symbol) : s.SameParts s :=
  ⟨rfl, rfl, rfl, .refl _, fun _ => rfl, fun _ => rfl⟩

theorem sameParts_foldl_join (key : SymbolKey) {d e : TypeDeclaration}
    {ds es : List TypeDeclaration} (h : (d :: ds).Perm (e :: es)) :
    (ds.foldl join (ofDeclaration key d)).SameParts (es.foldl join (ofDeclaration key e)) := by
  have hmem : e ∈ d :: ds := h.mem_iff.2 (.head es)
  refine ⟨by simp [ofDeclaration], by simp [ofDeclaration], isAmbiguous_foldl_join_perm key h,
    by simpa [ofDeclaration] using h, ?_, ?_⟩
  · intro hclear
    rw [← Bool.not_eq_true, isAmbiguous_foldl_join_ofDeclaration, not_and_or, not_not] at hclear
    rw [foldl_join_kind, foldl_join_kind]
    rcases hclear with hsingle | hone
    · have hds : ds = [] := by
        rw [List.length_cons] at hsingle
        exact List.length_eq_zero_iff.1 (by omega)
      rw [hds, List.mem_singleton] at hmem
      rw [hmem]
    · exact hone.2 d (.head ds) e hmem
  · intro hparameters
    rw [foldl_join_typeParameters, foldl_join_typeParameters]
    refine hparameters d ?_ e ?_
    · simp [ofDeclaration]
    · rw [foldl_join_declarations]
      exact hmem

end Symbol

namespace Environment

variable {units others : List SourceUnit} {references : List Reference}

/-- Under a key stand symbols of the same parts in both orders, or none in either. -/
theorem get?_cases (h : units.Perm others) (references : List Reference) (key : SymbolKey) :
    ((build units references).table.get? key = none ∧
      (build others references).table.get? key = none) ∨
    ∃ s s', (build units references).table.get? key = some s ∧
      (build others references).table.get? key = some s' ∧ s.SameParts s' := by
  have hperm := declarationsUnder_perm h key
  rw [build_get?, build_get?]
  revert hperm
  generalize declarationsUnder units key = ds
  generalize declarationsUnder others key = es
  intro hperm
  match ds, es with
  | [], [] =>
    cases (references.filter (·.symbol.key == key)).getLast? with
    | none => exact .inl ⟨rfl, rfl⟩
    | some r => exact .inr ⟨r.symbol, r.symbol, rfl, rfl, .refl _⟩
  | d :: ds, e :: es => exact .inr ⟨_, _, rfl, rfl, Symbol.sameParts_foldl_join key hperm⟩
  | [], _ :: _ => cases hperm.length_eq
  | _ :: _, [] => cases hperm.length_eq

theorem exists_get?_perm (h : units.Perm others) {key : SymbolKey} {s : Symbol}
    (hs : (build units references).table.get? key = some s) :
    ∃ s', (build others references).table.get? key = some s' ∧ s.SameParts s' := by
  rcases get?_cases h references key with ⟨hnone, _⟩ | ⟨t, s', ht, hs', hsame⟩
  · rw [hs] at hnone
    cases hnone
  · rw [hs] at ht
    cases ht
    exact ⟨s', hs', hsame⟩

theorem get?_of_mem {s : Symbol} (h : s ∈ (build units references).table.symbols) :
    (build units references).table.get? s.key = some s :=
  (keyed_build units references).get?_eq_some_iff.2 ⟨h, rfl⟩

theorem exists_mem_perm (h : units.Perm others) {s : Symbol}
    (hs : s ∈ (build units references).table.symbols) :
    ∃ s' ∈ (build others references).table.symbols, s.SameParts s' := by
  obtain ⟨s', hs', hsame⟩ := exists_get?_perm h (get?_of_mem hs)
  exact ⟨s', SymbolTable.mem_of_get? hs', hsame⟩

/-! ## What headers see -/

/-- No qualified name has symbols of two arities. -/
def OneArity (env : Environment) : Prop :=
  ∀ s ∈ env.table.symbols, ∀ t ∈ env.table.symbols, s.key.name = t.key.name →
    s.key.arity = t.key.arity

theorem OneArity.key_eq {env : Environment} (h : env.OneArity) {s t : Symbol}
    (hs : s ∈ env.table.symbols) (ht : t ∈ env.table.symbols) (hname : s.key.name = t.key.name) :
    s.key = t.key := by
  have harity := h s hs t ht hname
  obtain ⟨key, _⟩ := s
  obtain ⟨key', _⟩ := t
  cases key
  cases key'
  cases hname
  cases harity
  rfl

theorem name_of_find_anyArity {env : Environment} {name : String} {arity : Int} {s : Symbol}
    (h : env.find .anyArity name arity = some s) : s.key.name = name :=
  (SymbolTable.mem_named.1 (List.mem_of_find?_eq_some h)).2

/-- A known symbol keeps its name from being unknown. -/
theorem exists_find_anyArity {env : Environment} {s : Symbol} (h : env.Known s) (arity : Int) :
    ∃ t, env.find .anyArity s.key.name arity = some t := by
  rw [← Option.isSome_iff_exists]
  refine List.find?_isSome.2 ⟨s, SymbolTable.mem_named.2 ⟨h.1, rfl⟩, ?_⟩
  rw [h.2]
  rfl

theorem exists_known_perm (h : units.Perm others) {s : Symbol}
    (hs : (build units references).Known s) :
    ∃ s', (build others references).Known s' ∧ s.SameParts s' := by
  obtain ⟨s', hs', hsame⟩ := exists_mem_perm h hs.1
  exact ⟨s', ⟨hs', hsame.isAmbiguous ▸ hs.2⟩, hsame⟩

theorem findsAlike (h : units.Perm others) (harity : (build units references).OneArity) :
    FindsAlike (build units references) (build others references) := by
  intro precision name arity
  cases precision with
  | exactArity =>
    rw [find, find]
    rcases get?_cases h references ⟨name, arity⟩ with ⟨hs, hs'⟩ | ⟨s, s', hs, hs', hsame⟩
    · rw [hs, hs']
    · rw [hs, hs', Option.filter_some, Option.filter_some, hsame.isAmbiguous]
      split
      · exact congrArg some hsame.key
      · rfl
  | anyArity =>
    cases hs : (build units references).find .anyArity name arity with
    | some s =>
      obtain ⟨s', hs', hsame⟩ := exists_known_perm h (known_of_find hs)
      obtain ⟨t', ht'⟩ := exists_find_anyArity hs' arity
      rw [← hsame.key, name_of_find_anyArity hs] at ht'
      rw [ht']
      -- What is found in the other order has a counterpart of this name here.
      obtain ⟨t, ht, htsame⟩ := exists_mem_perm h.symm (known_of_find ht').1
      have hname : s.key.name = t.key.name := by
        rw [name_of_find_anyArity hs, ← htsame.key, name_of_find_anyArity ht']
      rw [Option.map_some, Option.map_some, harity.key_eq (known_of_find hs).1 ht hname, htsame.key]
    | none =>
      cases ht' : (build others references).find .anyArity name arity with
      | none => rfl
      | some t' =>
        obtain ⟨t, ht, hsame⟩ := exists_known_perm h.symm (known_of_find ht')
        obtain ⟨s, hs'⟩ := exists_find_anyArity ht arity
        rw [← hsame.key, name_of_find_anyArity ht', hs] at hs'
        cases hs'

/-- The first directive of an alias does not depend on their order when no two have one alias. -/
theorem find?_alias_perm {ds es : List Directive} (h : ds.Perm es)
    (hnodup : (ds.filterMap (·.aliasName)).Nodup) (name : String) :
    ds.find? (·.aliasName == some name) = es.find? (·.aliasName == some name) := by
  induction h with
  | nil => rfl
  | cons d _ ih =>
    rw [List.find?_cons, List.find?_cons]
    split
    · rfl
    · exact ih (hnodup.sublist ((List.sublist_cons_self d _).filterMap _))
  | swap d e rest =>
    rw [List.find?_cons, List.find?_cons, List.find?_cons, List.find?_cons]
    split
    · next he =>
      split
      · next hd =>
        rw [List.filterMap_cons_some (eq_of_beq he), List.filterMap_cons_some (eq_of_beq hd)] at hnodup
        exact absurd (.head _) (List.nodup_cons.1 hnodup).1
      · rfl
    · rfl
  | trans hde _ ih ih' =>
    exact (ih hnodup).trans (ih' ((hde.filterMap _).nodup_iff.1 hnodup))

theorem globalDirectives_perm (h : units.Perm others) (references : List Reference) :
    (build units references).globalScope.directives.Perm
      (build others references).globalScope.directives :=
  h.flatMap_right _

theorem seesAlike (h : units.Perm others) (harity : (build units references).OneArity)
    (haliases : ((build units references).globalScope.directives.filterMap (·.aliasName)).Nodup)
    (d : TypeDeclaration) :
    SeesAlike (build units references) d (build others references) d := by
  have hdirectives := globalDirectives_perm h references
  have hglobal : (build units references).globalScope.BringsSame
      (build others references).globalScope := by
    refine ⟨rfl, fun name => ?_, fun imported => ?_⟩
    · rw [UsingScope.aliasTarget?, find?_alias_perm hdirectives haliases]
      rfl
    · exact ((hdirectives.filterMap _).filter _).mem_iff
  refine ⟨findsAlike h harity, rfl, rfl, fun _ => Iff.rfl, ?_⟩
  exact List.rel_append (List.forall₂_same.2 fun a _ => .refl a) (.cons hglobal .nil)

end Environment

end Registrar
