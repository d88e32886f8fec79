/-
Name lookup without its remarks: `symbolOf?` is the symbol that `lookupName`
ends with, and `tyOf` the type that `nameMeaning` makes of it, so both always
return. Whatever a lookup finds is an unambiguous symbol of the table
(`known_of_symbolOf?`), where each key has one symbol (`keyed_build`).
-/
import Registrar.Proofs.Table
import Registrar.Semantics.Resolve

namespace Registrar

namespace SymbolTable

theorem mem_of_get? {t : SymbolTable} {key : SymbolKey} {s : Symbol} (h : t.get? key = some s) :
    s ∈ t.symbols :=
  List.mem_of_find?_eq_some h

theorem mem_named {t : SymbolTable} {name : String} {s : Symbol} :
    s ∈ t.named name ↔ s ∈ t.symbols ∧ s.key.name = name := by
  simp [named]

/-! ## One symbol for each key -/

/-- No two symbols of the table have one key. -/
def Keyed (t : SymbolTable) : Prop :=
  (t.symbols.map Symbol.key).Nodup

theorem nodup_keys_concat {symbols : List Symbol} (h : (symbols.map Symbol.key).Nodup) {s : Symbol}
    (hs : s.key ∉ symbols.map Symbol.key) : ((symbols ++ [s]).map Symbol.key).Nodup := by
  rw [List.map_append, List.map_singleton]
  refine List.nodup_append.2 ⟨h, by simp, fun key hkey other hother heq => ?_⟩
  rw [List.mem_singleton] at hother
  exact hs (hother ▸ heq ▸ hkey)

theorem Keyed.insert {t : SymbolTable} (h : t.Keyed) (s : Symbol) : (t.insert s).Keyed := by
  unfold Keyed SymbolTable.insert
  split
  · have hkeys : (t.symbols.map fun other => if other.key == s.key then s else other).map Symbol.key =
        t.symbols.map Symbol.key := by
      rw [List.map_map]
      refine List.map_congr_left fun other _ => ?_
      by_cases hk : other.key = s.key <;> simp [hk]
    rw [hkeys]
    exact h
  · next hany =>
    exact nodup_keys_concat h (by simpa using hany)

theorem Keyed.declare {t : SymbolTable} (h : t.Keyed) (d : TypeDeclaration) : (t.declare d).Keyed := by
  unfold SymbolTable.declare
  split
  · exact h
  · split <;> exact h.insert _

theorem Keyed.declareAll {t : SymbolTable} (h : t.Keyed) (ds : List TypeDeclaration) :
    (t.declareAll ds).Keyed := by
  induction ds generalizing t with
  | nil => exact h
  | cons d ds ih => exact ih (h.declare d)

theorem keyed_ofReferences (references : List Reference) : (ofReferences references).Keyed := by
  have hfold : ∀ t : SymbolTable, t.Keyed →
      (references.foldl (fun t r => t.insert r.symbol) t).Keyed := by
    induction references with
    | nil => exact fun _ h => h
    | cons r rest ih => exact fun t h => ih _ (h.insert _)
  exact hfold empty List.nodup_nil

/-- In a table with distinct keys a symbol stands under its own key. -/
theorem Keyed.get?_eq_some_iff {t : SymbolTable} (h : t.Keyed) {key : SymbolKey} {s : Symbol} :
    t.get? key = some s ↔ s ∈ t.symbols ∧ s.key = key := by
  refine ⟨fun hs => ⟨mem_of_get? hs, get?_key hs⟩, ?_⟩
  intro hmem
  obtain ⟨hs, rfl⟩ := hmem
  obtain ⟨symbols⟩ := t
  unfold get?
  induction symbols with
  | nil => cases hs
  | cons other rest ih =>
    obtain ⟨hother, hrest⟩ := List.nodup_cons.1 h
    rcases List.mem_cons.1 hs with rfl | hs
    · simp
    · have hne : (other.key == s.key) = false := by
        rw [beq_eq_false_iff_ne]
        exact fun he => hother (he ▸ List.mem_map_of_mem hs)
      rw [List.find?_cons, hne]
      exact ih hrest hs

end SymbolTable

namespace Environment

theorem keyed_build (units : List SourceUnit) (references : List Reference) :
    (build units references).table.Keyed := by
  rw [build_table]
  exact (SymbolTable.keyed_ofReferences references).declareAll _

/-! ## What is found -/

/-- An unambiguous symbol of the table. -/
def Known (env : Environment) (s : Symbol) : Prop :=
  s ∈ env.table.symbols ∧ s.isAmbiguous = false

theorem known_of_find {env : Environment} {precision : Precision} {name : String} {arity : Int}
    {s : Symbol} (h : env.find precision name arity = some s) : env.Known s := by
  cases precision with
  | exactArity =>
    obtain ⟨hs, hambiguous⟩ := Option.filter_eq_some_iff.1 h
    exact ⟨SymbolTable.mem_of_get? hs, by simpa using hambiguous⟩
  | anyArity =>
    have hs : s ∈ env.table.named name := List.mem_of_find?_eq_some h
    exact ⟨(SymbolTable.mem_named.1 hs).1, by simpa using List.find?_some h⟩

/-- Among symbols, `distinct` keeps one of each key. -/
theorem distinct_spec (symbols : List Symbol) :
    (∀ s ∈ distinct symbols, s ∈ symbols) ∧ ((distinct symbols).map Symbol.key).Nodup ∧
      ∀ key, key ∈ (distinct symbols).map Symbol.key ↔ key ∈ symbols.map Symbol.key := by
  -- The symbols kept so far have different keys, whatever they are.
  have hfold : ∀ kept : List Symbol, (kept.map Symbol.key).Nodup →
      let all := symbols.foldl
        (fun kept s => if kept.any (·.key == s.key) then kept else kept ++ [s]) kept
      (∀ s ∈ all, s ∈ kept ∨ s ∈ symbols) ∧ (all.map Symbol.key).Nodup ∧
        ∀ key, key ∈ all.map Symbol.key ↔ key ∈ kept.map Symbol.key ∨ key ∈ symbols.map Symbol.key := by
    induction symbols with
    | nil => exact fun kept h => ⟨fun s hs => .inl hs, h, by simp⟩
    | cons s rest ih =>
      intro kept h
      rw [List.foldl_cons]
      by_cases hs : s.key ∈ kept.map Symbol.key
      · have hany : kept.any (·.key == s.key) = true := by simpa using hs
        rw [if_pos hany]
        obtain ⟨hmem, hnodup, hkeys⟩ := ih kept h
        refine ⟨fun t ht => (hmem t ht).imp_right (List.mem_cons_of_mem s), hnodup, fun key => ?_⟩
        rw [hkeys, List.map_cons, List.mem_cons]
        constructor
        · exact fun hkey => hkey.imp_right .inr
        · intro hkey
          rcases hkey with hkey | rfl | hkey
          · exact .inl hkey
          · exact .inl hs
          · exact .inr hkey
      · have hany : ¬ kept.any (·.key == s.key) = true := by simpa using hs
        rw [if_neg hany]
        obtain ⟨hmem, hnodup, hkeys⟩ := ih _ (SymbolTable.nodup_keys_concat h hs)
        refine ⟨fun t ht => ?_, hnodup, fun key => ?_⟩
        · have := hmem t ht
          rwa [List.mem_append, List.mem_singleton, or_assoc, ← List.mem_cons] at this
        · rw [hkeys, List.map_append, List.map_singleton, List.mem_append, List.mem_singleton,
            List.map_cons, List.mem_cons, or_assoc]
  obtain ⟨hmem, hnodup, hkeys⟩ := hfold [] List.nodup_nil
  exact ⟨fun s hs => (hmem s hs).resolve_left List.not_mem_nil, hnodup,
    fun key => (hkeys key).trans (or_iff_right List.not_mem_nil)⟩

theorem known_of_meaningAt {env : Environment} {scopes : List UsingScope} {precision : Precision}
    {name : String} {arity : Int} {level : String} {s : Symbol}
    (h : env.meaningAt scopes precision name arity level = .found s) : env.Known s := by
  unfold meaningAt at h
  split at h
  · next hfind =>
    cases h
    exact known_of_find hfind
  · split at h
    · cases h
    · next single hsingle =>
      cases h
      have hs := (distinct_spec _).1 s (hsingle ▸ List.mem_singleton_self s)
      obtain ⟨full, _, hfind⟩ := List.mem_filterMap.1 hs
      exact known_of_find hfind
    · cases h

theorem known_of_meaningIn {env : Environment} {scopes : List UsingScope} {precision : Precision}
    {name : String} {arity : Int} {levels : List String} {s : Symbol}
    (h : env.meaningIn scopes precision name arity levels = .found s) : env.Known s := by
  induction levels with
  | nil => cases h
  | cons level outer ih =>
    unfold meaningIn at h
    cases hlevel : env.meaningAt scopes precision name arity level with
    | found other =>
      rw [hlevel] at h
      cases h
      exact known_of_meaningAt hlevel
    | clash several => rw [hlevel] at h; cases h
    | missing => rw [hlevel] at h; exact ih h

theorem known_of_lookupSimple {env : Environment} {d : TypeDeclaration} {precision : Precision}
    {name : String} {arity : Int} {s : Symbol}
    (h : (env.lookupSimple d precision name arity).symbol? = some s) : env.Known s := by
  unfold lookupSimple at h
  split at h
  · next hnested =>
    cases h
    obtain ⟨container, _, hfind⟩ := List.exists_of_findSome?_eq_some hnested
    exact known_of_find hfind
  · cases hm : env.meaningIn (env.scopesOf d) precision name arity (Text.enclosing d.ns) with
    | found other =>
      rw [hm] at h
      cases h
      exact known_of_meaningIn hm
    | clash several => rw [hm] at h; cases h
    | missing => rw [hm] at h; cases h

/-! ## Names -/

/-- The symbol that a written name means in the header of `d`. -/
def symbolOf? (env : Environment) (d : TypeDeclaration) (precision : Precision) :
    Option String → List Segment → Segment → Option Symbol
  | some qualifier, path, last =>
    if qualifier = "global" then
      env.find precision (TypeExpr.dotted path last) last.arguments.length
    else none
  | none, [], last =>
    (env.lookupSimple d precision last.identifier last.arguments.length).symbol?
  | none, head :: inner, last =>
    ((env.lookupSimple d .exactArity head.identifier head.arguments.length).symbol?.bind fun s =>
        env.find precision (s.key.name ++ "." ++ TypeExpr.dotted inner last)
          last.arguments.length).or
      (((Text.enclosing d.ns).findSome? fun ns =>
        env.find precision (Text.qualify ns (TypeExpr.dotted (head :: inner) last))
          last.arguments.length).or
      (env.findBehindAlias d precision head.identifier (TypeExpr.dotted inner last)
        last.arguments.length))

theorem lookupName_result (env : Environment) (d : TypeDeclaration) (precision : Precision)
    (qualifier : Option String) (path : List Segment) (last : Segment) :
    (env.lookupName d precision qualifier path last : Noted ε _).result =
      .ok (env.symbolOf? d precision qualifier path last) := by
  cases qualifier with
  | some qualifier =>
    by_cases h : qualifier = "global" <;> simp [lookupName, symbolOf?, h]
  | none => cases path <;> simp [lookupName, symbolOf?, bind, Option.orElse_eq_or]

/-- The type that a written name means when it is neither parameter nor alias. -/
def tyOf (env : Environment) (d : TypeDeclaration) (qualifier : Option String)
    (path : List Segment) (last : Segment) (arguments : List Ty) : Ty :=
  match (env.symbolOf? d .exactArity qualifier path last).or
      (env.symbolOf? d .anyArity qualifier path last) with
  | some s => .named s.key arguments
  | none => .error (TypeExpr.dotted path last) arguments

theorem nameMeaning_result (env : Environment) (d : TypeDeclaration) (qualifier : Option String)
    (path : List Segment) (last : Segment) (arguments : List Ty) :
    (env.nameMeaning d qualifier path last arguments : Noted ε Ty).result =
      .ok (env.tyOf d qualifier path last arguments) := by
  rw [nameMeaning, Noted.result_bind_of_ok (lookupName_result env d .exactArity qualifier path last)]
  unfold tyOf
  cases env.symbolOf? d .exactArity qualifier path last with
  | some s => rfl
  | none =>
    dsimp only
    rw [Noted.result_bind_of_ok (lookupName_result env d .anyArity qualifier path last)]
    cases env.symbolOf? d .anyArity qualifier path last <;> rfl

theorem known_of_symbolOf? {env : Environment} {d : TypeDeclaration} {precision : Precision}
    {qualifier : Option String} {path : List Segment} {last : Segment} {s : Symbol}
    (h : env.symbolOf? d precision qualifier path last = some s) : env.Known s := by
  cases qualifier with
  | some qualifier =>
    rw [symbolOf?] at h
    split at h
    · exact known_of_find h
    · cases h
  | none =>
    cases path with
    | nil => exact known_of_lookupSimple h
    | cons head inner =>
      rw [symbolOf?, Option.or_eq_some_iff, Option.or_eq_some_iff] at h
      rcases h with h | ⟨_, h | ⟨_, h⟩⟩
      · obtain ⟨_, _, hfind⟩ := Option.bind_eq_some_iff.1 h
        exact known_of_find hfind
      · obtain ⟨_, _, hfind⟩ := List.exists_of_findSome?_eq_some h
        exact known_of_find hfind
      · obtain ⟨scope, _, hfind⟩ := List.exists_of_findSome?_eq_some h
        split at hfind
        · exact known_of_find hfind
        · cases hfind

/-- A name that means a type means a known symbol, with the arguments that are given. -/
theorem known_of_tyOf {env : Environment} {d : TypeDeclaration} {qualifier : Option String}
    {path : List Segment} {last : Segment} {arguments others : List Ty} {key : SymbolKey}
    (h : env.tyOf d qualifier path last arguments = .named key others) :
    ∃ s, env.Known s ∧ s.key = key := by
  unfold tyOf at h
  split at h
  · next s hs =>
    cases h
    rw [Option.or_eq_some_iff] at hs
    rcases hs with hs | ⟨_, hs⟩ <;> exact ⟨s, known_of_symbolOf? hs, rfl⟩
  · cases h

end Environment

end Registrar
