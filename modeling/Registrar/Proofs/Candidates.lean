/-
The candidates of an environment: which declarations they are at, and that
each unambiguous class occurs once among them (`candidates_nodup`) and none
is left out (`exists_candidate`).
-/
import Registrar.Proofs.Table

namespace Registrar

namespace Environment

variable {env : Environment}

theorem declaredSymbol?_eq_some_iff {d : TypeDeclaration} {s : Symbol} :
    env.declaredSymbol? d = some s ↔
      d.key? = some s.key ∧ env.table.get? s.key = some s ∧ s.isAmbiguous = false := by
  simp only [declaredSymbol?, Option.filter_eq_some_iff, Option.bind_eq_some_iff, Bool.not_eq_true']
  constructor
  · intro h
    obtain ⟨⟨key, hkey, hs⟩, hambiguous⟩ := h
    have := SymbolTable.get?_key hs
    subst this
    exact ⟨hkey, hs, hambiguous⟩
  · intro h
    obtain ⟨hkey, hs, hambiguous⟩ := h
    exact ⟨⟨s.key, hkey, hs⟩, hambiguous⟩

/-- All declarations with their units. -/
def located (env : Environment) : List (SourceUnit × TypeDeclaration) :=
  env.declared.flatMap fun (u, ds) => ds.map (u, ·)

theorem located_snd (env : Environment) :
    env.located.map Prod.snd = env.declared.flatMap Prod.snd := by
  simp [located, List.map_flatMap, Function.comp_def]

theorem build_located_snd (units : List SourceUnit) (references : List Reference) :
    (build units references).located.map Prod.snd = units.flatMap SourceUnit.declarations := by
  simp [located_snd, build, List.flatMap_map]

section

variable {seen : List SymbolKey} {places : List (SourceUnit × TypeDeclaration)}

/-- A candidate is a class at its place, with the symbol of its declaration, not seen before. -/
theorem candidatesFrom_spec {c : Candidate} (h : c ∈ env.candidatesFrom seen places) :
    (c.unit, c.declaration) ∈ places ∧ c.declaration.kind = .class ∧
      c.symbol = env.declaredSymbol? c.declaration ∧ ∀ s, c.symbol = some s → s.key ∉ seen := by
  induction places generalizing seen with
  | nil => cases h
  | cons place rest ih =>
    obtain ⟨u, d⟩ := place
    have later : ∀ seen', seen ⊆ seen' → c ∈ env.candidatesFrom seen' rest →
        (c.unit, c.declaration) ∈ (u, d) :: rest ∧ c.declaration.kind = .class ∧
          c.symbol = env.declaredSymbol? c.declaration ∧ ∀ s, c.symbol = some s → s.key ∉ seen := by
      intro seen' hsub hc
      obtain ⟨hplace, hkind, hsymbol, hseen⟩ := ih hc
      exact ⟨List.mem_cons_of_mem _ hplace, hkind, hsymbol, fun s hs hmem => hseen s hs (hsub hmem)⟩
    unfold candidatesFrom at h
    split at h
    · next hkind =>
      have hkind : d.kind = .class := by simpa using hkind
      split at h
      · next s hs =>
        split at h
        · exact later seen (List.Subset.refl seen) h
        · next hseen =>
          rcases List.mem_cons.1 h with rfl | h
          · refine ⟨.head _, hkind, hs.symm, fun s' hs' hmem => ?_⟩
            cases hs'
            exact hseen (by simpa using hmem)
          · exact later (s.key :: seen) (List.subset_cons_self _ _) h
      · next hs =>
        rcases List.mem_cons.1 h with rfl | h
        · exact ⟨.head _, hkind, hs.symm, fun s' hs' => by cases hs'⟩
        · exact later seen (List.Subset.refl seen) h
    · exact later seen (List.Subset.refl seen) h

/-- Every class whose symbol was not seen before has a candidate. -/
theorem exists_mem_candidatesFrom {u : SourceUnit} {d : TypeDeclaration} {s : Symbol}
    (h : (u, d) ∈ places) (hkind : d.kind = .class) (hs : env.declaredSymbol? d = some s)
    (hseen : s.key ∉ seen) : ∃ c ∈ env.candidatesFrom seen places, c.symbol = some s := by
  induction places generalizing seen with
  | nil => cases h
  | cons place rest ih =>
    obtain ⟨u', d'⟩ := place
    unfold candidatesFrom
    rcases List.mem_cons.1 h with heq | h
    · cases heq
      refine ⟨⟨u, d, some s⟩, ?_, rfl⟩
      simp [hkind, hs, hseen]
    · split
      · split
        · next s' hs' =>
          split
          · exact ih h hseen
          · by_cases hkey : s.key = s'.key
            · have hsame : s = s' := by
                have hget := (declaredSymbol?_eq_some_iff.1 hs).2.1
                rw [hkey, (declaredSymbol?_eq_some_iff.1 hs').2.1] at hget
                exact (Option.some.inj hget).symm
              exact ⟨_, .head _, by rw [hsame]⟩
            · have hseen' : s.key ∉ s'.key :: seen := by simp [hkey, hseen]
              obtain ⟨c, hc, hcs⟩ := ih h hseen'
              exact ⟨c, List.mem_cons_of_mem _ hc, hcs⟩
        · obtain ⟨c, hc, hcs⟩ := ih h hseen
          exact ⟨c, List.mem_cons_of_mem _ hc, hcs⟩
      · exact ih h hseen

theorem nodup_candidatesFrom (seen : List SymbolKey) (places : List (SourceUnit × TypeDeclaration)) :
    ((env.candidatesFrom seen places).filterMap fun c => c.symbol.map Symbol.key).Nodup := by
  induction places generalizing seen with
  | nil => exact List.nodup_nil
  | cons place rest ih =>
    unfold candidatesFrom
    split
    · split
      · next s hs =>
        split
        · exact ih seen
        · simp only [List.filterMap_cons, Option.map_some, List.nodup_cons]
          refine ⟨fun hmem => ?_, ih (s.key :: seen)⟩
          obtain ⟨c, hc, hcs⟩ := List.mem_filterMap.1 hmem
          obtain ⟨s', hs', hkey⟩ := Option.map_eq_some_iff.1 hcs
          exact (candidatesFrom_spec hc).2.2.2 s' hs' (by simp [hkey])
      · simp only [List.filterMap_cons, Option.map_none]
        exact ih seen
    · exact ih seen

end

theorem candidate_spec {c : Candidate} (h : c ∈ env.candidates) :
    (c.unit, c.declaration) ∈ env.located ∧ c.declaration.kind = .class ∧
      c.symbol = env.declaredSymbol? c.declaration := by
  obtain ⟨hplace, hkind, hsymbol, _⟩ := candidatesFrom_spec h
  exact ⟨hplace, hkind, hsymbol⟩

/-- The symbol of a candidate is unambiguous and stands in the table under the key of its declaration. -/
theorem candidate_symbol {c : Candidate} (h : c ∈ env.candidates) {s : Symbol} (hs : c.symbol = some s) :
    c.declaration.key? = some s.key ∧ env.table.get? s.key = some s ∧ s.isAmbiguous = false :=
  declaredSymbol?_eq_some_iff.1 ((candidate_spec h).2.2 ▸ hs)

theorem exists_candidate {u : SourceUnit} {d : TypeDeclaration} {s : Symbol}
    (h : (u, d) ∈ env.located) (hkind : d.kind = .class) (hs : env.declaredSymbol? d = some s) :
    ∃ c ∈ env.candidates, c.symbol = some s :=
  exists_mem_candidatesFrom h hkind hs List.not_mem_nil

/-- Each unambiguous class is a candidate once. -/
theorem candidates_nodup (env : Environment) :
    (env.candidates.filterMap fun c => c.symbol.map Symbol.key).Nodup :=
  nodup_candidatesFrom [] _

end Environment

end Registrar
