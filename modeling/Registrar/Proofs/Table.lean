/-
What the table of symbols holds after declarations were added to it one after
the other, key by key.

`get?_declare` says what one declaration does to the symbol under a key, and
`get?_declareAll` what a list of them does: the first declaration of a key
makes the symbol, in the place of a reference, and each further one joins it.
The joined symbol is known in closed form (`isAmbiguous_foldl_join`), and for
an environment `table_lists_declarations` puts this together: under each key
stand exactly the declarations of that key.
-/
import Registrar.Semantics.Environment

namespace Registrar

namespace TypeDeclaration

theorem key?_eq_some_iff {d : TypeDeclaration} {key : SymbolKey} :
    d.key? = some key ↔ d.qualifiedName? = some key.name ∧ (d.arity : Int) = key.arity := by
  simp only [key?, Option.map_eq_some_iff]
  constructor
  · intro h
    obtain ⟨name, hname, rfl⟩ := h
    exact ⟨hname, rfl⟩
  · intro ⟨hname, harity⟩
    exact ⟨key.name, hname, by rw [harity]⟩

/-- All are partial parts of one kind. -/
def OneType (ds : List TypeDeclaration) : Prop :=
  (∀ d ∈ ds, d.isPartial = true) ∧ ∀ d ∈ ds, ∀ e ∈ ds, d.kind = e.kind

theorem OneType.congr {ds es : List TypeDeclaration} (h : ∀ d, d ∈ ds ↔ d ∈ es) :
    OneType ds ↔ OneType es := by
  simp only [OneType, h]

end TypeDeclaration

namespace Symbol

open TypeDeclaration

/-! ## Joining declarations -/

@[simp] theorem foldl_join_key (s : Symbol) (ds : List TypeDeclaration) :
    (ds.foldl join s).key = s.key := by
  induction ds generalizing s with
  | nil => rfl
  | cons d ds ih => simp [ih, join]

@[simp] theorem foldl_join_kind (s : Symbol) (ds : List TypeDeclaration) :
    (ds.foldl join s).kind = s.kind := by
  induction ds generalizing s with
  | nil => rfl
  | cons d ds ih => simp [ih, join]

@[simp] theorem foldl_join_typeParameters (s : Symbol) (ds : List TypeDeclaration) :
    (ds.foldl join s).typeParameters = s.typeParameters := by
  induction ds generalizing s with
  | nil => rfl
  | cons d ds ih => simp [ih, join]

@[simp] theorem foldl_join_isReference (s : Symbol) (ds : List TypeDeclaration) :
    (ds.foldl join s).isReference = s.isReference := by
  induction ds generalizing s with
  | nil => rfl
  | cons d ds ih => simp [ih, join]

@[simp] theorem foldl_join_declarations (s : Symbol) (ds : List TypeDeclaration) :
    (ds.foldl join s).declarations = s.declarations ++ ds := by
  induction ds generalizing s with
  | nil => simp
  | cons d ds ih => simp [ih, join]

theorem admits_iff {s : Symbol} {d : TypeDeclaration} :
    s.admits d = true ↔
      d.isPartial = true ∧ s.kind = d.kind ∧ ∀ e ∈ s.declarations, e.isPartial = true := by
  simp [admits, and_assoc]

/-- A symbol stays unambiguous as long as all its declarations, old and new,
are partial and the new ones of its kind. -/
theorem isAmbiguous_foldl_join (s : Symbol) (ds : List TypeDeclaration) :
    (ds.foldl join s).isAmbiguous = false ↔
      s.isAmbiguous = false ∧ (ds = [] ∨ (∀ e ∈ s.declarations, e.isPartial = true) ∧
        ∀ d ∈ ds, d.isPartial = true ∧ s.kind = d.kind) := by
  induction ds generalizing s with
  | nil => simp
  | cons d ds ih =>
    have hjoin : (s.join d).isAmbiguous = false ↔ s.isAmbiguous = false ∧ s.admits d = true := by
      simp [join]
    have hparts : (∀ e ∈ (s.join d).declarations, e.isPartial = true) ↔
        (∀ e ∈ s.declarations, e.isPartial = true) ∧ d.isPartial = true := by
      simp [join, or_imp, forall_and]
    rw [List.foldl_cons, ih, hjoin, admits_iff, hparts, List.forall_mem_cons]
    constructor
    · rintro ⟨⟨hs, hd, hk, he⟩, rfl | ⟨_, hds⟩⟩
      · exact ⟨hs, .inr ⟨he, ⟨hd, hk⟩, by simp⟩⟩
      · exact ⟨hs, .inr ⟨he, ⟨hd, hk⟩, hds⟩⟩
    · rintro ⟨hs, h | ⟨he, ⟨hd, hk⟩, hds⟩⟩
      · cases h
      · exact ⟨⟨hs, hd, hk, he⟩, .inr ⟨⟨he, hd⟩, hds⟩⟩

/-- A symbol is ambiguous when it has several declarations that are not all
partial parts of one kind. -/
theorem isAmbiguous_foldl_join_ofDeclaration (key : SymbolKey) (d : TypeDeclaration)
    (ds : List TypeDeclaration) :
    (ds.foldl join (ofDeclaration key d)).isAmbiguous = true ↔
      2 ≤ (d :: ds).length ∧ ¬ OneType (d :: ds) := by
  rw [← Bool.not_eq_false, isAmbiguous_foldl_join]
  cases ds with
  | nil => simp [ofDeclaration]
  | cons e es =>
    have hlen : 2 ≤ (d :: e :: es).length := by simp
    simp only [hlen, true_and]
    refine not_congr ⟨fun h => ?_, fun h => ?_⟩
    · obtain ⟨_, h | ⟨hd, hes⟩⟩ := h
      · exact absurd h (by simp)
      · have hd : d.isPartial = true := hd d (by simp [ofDeclaration])
        have hkind : ∀ x ∈ d :: e :: es, d.kind = x.kind := by
          intro x hx
          rcases List.mem_cons.mp hx with rfl | hx
          · rfl
          · exact (hes x hx).2
        refine ⟨fun x hx => ?_, fun x hx y hy => (hkind x hx).symm.trans (hkind y hy)⟩
        rcases List.mem_cons.mp hx with rfl | hx
        · exact hd
        · exact (hes x hx).1
    · refine ⟨rfl, .inr ⟨fun x hx => ?_, fun x hx => ?_⟩⟩
      · simp only [ofDeclaration, List.mem_singleton] at hx
        exact hx ▸ h.1 d (by simp)
      · have hx : x ∈ d :: e :: es := List.mem_cons_of_mem d hx
        exact ⟨h.1 x hx, h.2 d (by simp) x hx⟩

theorem isAmbiguous_foldl_join_perm (key : SymbolKey) {d e : TypeDeclaration}
    {ds es : List TypeDeclaration} (h : (d :: ds).Perm (e :: es)) :
    (ds.foldl join (ofDeclaration key d)).isAmbiguous =
      (es.foldl join (ofDeclaration key e)).isAmbiguous := by
  rw [Bool.eq_iff_iff, isAmbiguous_foldl_join_ofDeclaration,
    isAmbiguous_foldl_join_ofDeclaration, h.length_eq, OneType.congr fun x => h.mem_iff]

end Symbol

namespace SymbolTable

/-! ## One declaration, and all of them -/

theorem get?_key {t : SymbolTable} {key : SymbolKey} {s : Symbol} (h : t.get? key = some s) :
    s.key = key := by
  simpa using List.find?_some h

/-- What a declaration of a key leaves under it, where `before` stood. -/
def extend (key : SymbolKey) (before : Option Symbol) (d : TypeDeclaration) : Symbol :=
  match before with
  | some s => if s.isReference then .ofDeclaration key d else s.join d
  | none => .ofDeclaration key d

theorem extend_key {t : SymbolTable} {key : SymbolKey} {d : TypeDeclaration} :
    (extend key (t.get? key) d).key = key := by
  cases h : t.get? key with
  | none => rfl
  | some s =>
    simp only [extend]
    split
    · rfl
    · show s.key = key
      exact get?_key h

/-- A declaration changes what stands under its own key and nothing else. -/
theorem get?_declare (t : SymbolTable) (d : TypeDeclaration) (key : SymbolKey) :
    (t.declare d).get? key =
      if d.key? = some key then some (extend key (t.get? key) d) else t.get? key := by
  cases hk : d.key? with
  | none => simp [declare, hk]
  | some k =>
    have hdeclare : t.declare d = t.insert (extend k (t.get? k) d) := by
      simp only [declare, hk, extend]
      cases t.get? k <;> rfl
    rw [hdeclare]
    by_cases h : k = key
    · subst h
      have hself := get?_insert_self t (extend k (t.get? k) d)
      rw [extend_key] at hself
      simp [hself]
    · rw [get?_insert_other]
      · simp [h]
      · rw [extend_key]
        exact fun he => h he.symm

theorem get?_declareAll_eq_foldl (t : SymbolTable) (ds : List TypeDeclaration) (key : SymbolKey) :
    (t.declareAll ds).get? key =
      (ds.filter (·.key? == some key)).foldl (fun o d => some (extend key o d)) (t.get? key) := by
  induction ds generalizing t with
  | nil => rfl
  | cons d ds ih =>
    have hcons : t.declareAll (d :: ds) = (t.declare d).declareAll ds := rfl
    rw [hcons, ih, get?_declare]
    by_cases h : d.key? = some key <;> simp [h]

/-- Once a symbol is declared, further declarations join it. -/
theorem foldl_extend {key : SymbolKey} {s : Symbol} (h : s.isReference = false)
    (ds : List TypeDeclaration) :
    ds.foldl (fun o d => some (extend key o d)) (some s) = some (ds.foldl Symbol.join s) := by
  induction ds generalizing s with
  | nil => rfl
  | cons d ds ih =>
    have hext : extend key (some s) d = s.join d := by simp [extend, h]
    rw [List.foldl_cons, hext, ih (s := s.join d) h, List.foldl_cons]

/-- Where at most a reference stood, the declarations of a key make its symbol. -/
theorem get?_declareAll {t : SymbolTable} {key : SymbolKey}
    (h : ∀ s, t.get? key = some s → s.isReference = true) (ds : List TypeDeclaration) :
    (t.declareAll ds).get? key =
      match ds.filter (·.key? == some key) with
      | [] => t.get? key
      | d :: rest => some (rest.foldl .join (.ofDeclaration key d)) := by
  rw [get?_declareAll_eq_foldl]
  cases ds.filter (·.key? == some key) with
  | nil => rfl
  | cons d rest =>
    have hfirst : extend key (t.get? key) d = .ofDeclaration key d := by
      cases hs : t.get? key with
      | none => rfl
      | some s => simp [extend, h s hs]
    rw [List.foldl_cons, hfirst, foldl_extend rfl]

/-! ## References -/

theorem get?_foldl_insert (references : List Reference) (t : SymbolTable) (key : SymbolKey) :
    (references.foldl (fun t r => t.insert r.symbol) t).get? key =
      ((references.filter (·.symbol.key == key)).getLast?.map Reference.symbol).or (t.get? key) := by
  induction references generalizing t with
  | nil => rfl
  | cons r rest ih =>
    rw [List.foldl_cons, ih]
    by_cases h : r.symbol.key = key
    · subst h
      rw [get?_insert_self, List.filter_cons_of_pos (by simp), List.getLast?_cons]
      cases (rest.filter (·.symbol.key == r.symbol.key)).getLast? <;> rfl
    · rw [get?_insert_other _ _ fun he => h he.symm, List.filter_cons_of_neg (by simpa using h)]

/-- A table of references holds the last one of each key. -/
theorem get?_ofReferences (references : List Reference) (key : SymbolKey) :
    (ofReferences references).get? key =
      (references.filter (·.symbol.key == key)).getLast?.map Reference.symbol := by
  rw [ofReferences, get?_foldl_insert]
  simp [get?, empty]

theorem isReference_of_get?_ofReferences {references : List Reference} {key : SymbolKey} {s : Symbol}
    (h : (ofReferences references).get? key = some s) : s.isReference = true := by
  rw [get?_ofReferences, Option.map_eq_some_iff] at h
  obtain ⟨r, _, rfl⟩ := h
  rfl

end SymbolTable

namespace Environment

open TypeDeclaration

/-! ## Environments -/

/-- The declarations of units under a key: in the order of the units and, within a unit, in the
order of the text. -/
def declarationsUnder (units : List SourceUnit) (key : SymbolKey) : List TypeDeclaration :=
  (units.flatMap SourceUnit.declarations).filter fun d =>
    d.qualifiedName? == some key.name && (d.arity : Int) == key.arity

theorem mem_declarationsUnder {units : List SourceUnit} {key : SymbolKey} {d : TypeDeclaration} :
    d ∈ declarationsUnder units key ↔
      d ∈ units.flatMap SourceUnit.declarations ∧ d.key? = some key := by
  simp [declarationsUnder, key?_eq_some_iff]

theorem declarationsUnder_eq_filter (units : List SourceUnit) (key : SymbolKey) :
    declarationsUnder units key =
      (units.flatMap SourceUnit.declarations).filter (·.key? == some key) := by
  refine List.filter_congr fun d _ => ?_
  rw [Bool.eq_iff_iff]
  simp [key?_eq_some_iff]

theorem declarationsUnder_perm {units others : List SourceUnit} (h : units.Perm others)
    (key : SymbolKey) : (declarationsUnder units key).Perm (declarationsUnder others key) :=
  (h.flatMap_right _).filter _

theorem build_table (units : List SourceUnit) (references : List Reference) :
    (build units references).table =
      (SymbolTable.ofReferences references).declareAll (units.flatMap SourceUnit.declarations) := by
  simp [build, List.flatMap_map]

/-- The symbol under a key of an environment, from the declarations of that key. -/
theorem build_get? (units : List SourceUnit) (references : List Reference) (key : SymbolKey) :
    (build units references).table.get? key =
      match declarationsUnder units key with
      | [] => (references.filter (·.symbol.key == key)).getLast?.map Reference.symbol
      | d :: rest => some (rest.foldl .join (.ofDeclaration key d)) := by
  rw [build_table, SymbolTable.get?_declareAll fun _ => SymbolTable.isReference_of_get?_ofReferences,
    ← declarationsUnder_eq_filter, SymbolTable.get?_ofReferences]

/-- Whether several declarations clash under a key does not depend on the order of the units. -/
theorem isAmbiguous_build_perm {units others : List SourceUnit} (h : units.Perm others)
    (references : List Reference) (key : SymbolKey) :
    ((build units references).table.get? key).any Symbol.isAmbiguous =
      ((build others references).table.get? key).any Symbol.isAmbiguous := by
  have hperm := declarationsUnder_perm h key
  rw [build_get?, build_get?]
  revert hperm
  generalize declarationsUnder units key = ds
  generalize declarationsUnder others key = es
  intro hperm
  match ds, es with
  | [], [] => rfl
  | d :: ds, e :: es => exact Symbol.isAmbiguous_foldl_join_perm key hperm
  | [], _ :: _ => cases hperm.length_eq
  | _ :: _, [] => cases hperm.length_eq

/-- The first declaration of a key gives its symbol the kind and the type
parameters, and all of them together decide whether it is ambiguous. -/
theorem exists_symbol_of_cons {units : List SourceUnit} (references : List Reference)
    {key : SymbolKey} {d : TypeDeclaration} {rest : List TypeDeclaration}
    (h : declarationsUnder units key = d :: rest) :
    ∃ s, (build units references).table.get? key = some s ∧ s.key = key ∧ s.isReference = false ∧
      s.declarations = d :: rest ∧ s.kind = d.kind ∧ s.typeParameters = d.typeParameters ∧
      (s.isAmbiguous = true ↔ 2 ≤ (d :: rest).length ∧ ¬ OneType (d :: rest)) := by
  have hs : (build units references).table.get? key =
      some (rest.foldl .join (.ofDeclaration key d)) := by
    rw [build_get?, h]
  refine ⟨_, hs, Symbol.foldl_join_key _ _, Symbol.foldl_join_isReference _ _, ?_,
    Symbol.foldl_join_kind _ _, Symbol.foldl_join_typeParameters _ _,
    Symbol.isAmbiguous_foldl_join_ofDeclaration key d rest⟩
  rw [Symbol.foldl_join_declarations]
  rfl

/-- The declarations of a symbol are those of the units under its key. -/
theorem mem_declarations_of_get? {units : List SourceUnit} {references : List Reference}
    {key : SymbolKey} {s : Symbol} (hs : (build units references).table.get? key = some s)
    {d : TypeDeclaration} :
    d ∈ s.declarations ↔ d ∈ units.flatMap SourceUnit.declarations ∧ d.key? = some key := by
  rw [← mem_declarationsUnder]
  cases hds : declarationsUnder units key with
  | nil =>
    rw [build_get?, hds] at hs
    obtain ⟨r, _, rfl⟩ := Option.map_eq_some_iff.1 hs
    exact Iff.rfl
  | cons e rest =>
    obtain ⟨s', hs', _, _, hdeclarations, _⟩ := exists_symbol_of_cons references hds
    rw [hs] at hs'
    cases hs'
    rw [hdeclarations]

/-- The symbol of a declaration is the one under its key, unless that is ambiguous. -/
theorem exists_symbol_of_mem {units : List SourceUnit} (references : List Reference)
    {d : TypeDeclaration} (hd : d ∈ units.flatMap SourceUnit.declarations) {name : String}
    (hname : d.qualifiedName? = some name) :
    ∃ s, (build units references).table.get? ⟨name, d.arity⟩ = some s ∧ s.isReference = false ∧
      d ∈ s.declarations ∧
      (build units references).declaredSymbol? d = if s.isAmbiguous then none else some s := by
  have hkey : d.key? = some ⟨name, d.arity⟩ := key?_eq_some_iff.2 ⟨hname, rfl⟩
  have hmem : d ∈ declarationsUnder units ⟨name, d.arity⟩ := mem_declarationsUnder.2 ⟨hd, hkey⟩
  obtain ⟨e, rest, hds⟩ := List.exists_cons_of_ne_nil (List.ne_nil_of_mem hmem)
  obtain ⟨s, hs, _, href, hdeclarations, _⟩ := exists_symbol_of_cons references hds
  refine ⟨s, hs, href, hdeclarations ▸ hds ▸ hmem, ?_⟩
  rw [declaredSymbol?, hkey, Option.bind_some, hs, Option.filter_some]
  cases s.isAmbiguous <;> rfl

/-- The declarations of a key make its symbol, and without any the last
reference of the key is it. The symbol is ambiguous when there are several
declarations that are not all partial parts of one kind, whatever the order
of the units. -/
theorem table_lists_declarations (units : List SourceUnit) (references : List Reference)
    (key : SymbolKey) :
    let env := build units references
    (match declarationsUnder units key with
      | [] => env.table.get? key =
          (references.filter (·.symbol.key == key)).getLast?.map Reference.symbol
      | d :: rest => ∃ s, env.table.get? key = some s ∧ s.key = key ∧ s.isReference = false ∧
          s.declarations = d :: rest ∧ s.kind = d.kind ∧ s.typeParameters = d.typeParameters ∧
          (s.isAmbiguous = true ↔ 2 ≤ (d :: rest).length ∧ ¬ OneType (d :: rest))) ∧
    (∀ d ∈ units.flatMap SourceUnit.declarations, ∀ name, d.qualifiedName? = some name →
      ∃ s, env.table.get? ⟨name, d.arity⟩ = some s ∧ s.isReference = false ∧ d ∈ s.declarations ∧
        env.declaredSymbol? d = if s.isAmbiguous then none else some s) ∧
    ∀ others : List SourceUnit, units.Perm others →
      ((build others references).table.get? key).any Symbol.isAmbiguous =
        (env.table.get? key).any Symbol.isAmbiguous := by
  intro env
  refine ⟨?_, fun d hd name hname => exists_symbol_of_mem references hd hname,
    fun others h => (isAmbiguous_build_perm h references key).symm⟩
  cases hds : declarationsUnder units key with
  | nil =>
    show env.table.get? key = _
    rw [build_get?, hds]
  | cons d rest => exact exists_symbol_of_cons references hds

end Environment

/-! ## Two files -/

namespace Sample

open Registrar.Tree

/-- A named node without children, which plays `role`. -/
def word (kind : Kind) (text : String) (role : Option Role) : Node :=
  .node kind text true role 0 []

/-- The declaration of a type with its modifiers, type parameters and base list. -/
def typeNode (keyword : TypeKind) (modifiers : List String) (name : String)
    (parameters : List String) (bases : List Node) : Node :=
  .node (.typeDeclaration keyword) "" true none 0
    (modifiers.map (word .modifier · none) ++
      [word .identifier name (some .name),
        .node .typeParameterList "" true none 0 (parameters.map fun parameter =>
          .node .typeParameter parameter true none 0 [word .identifier parameter (some .name)]),
        .node .baseList "" true none 0 bases])

/-- The declaration of a class without bases, around `members`. -/
def classAround (name : String) (parameters : List String) (members : List Node) : Node :=
  .node (.typeDeclaration .class) "" true none 0
    [word .identifier name (some .name),
      .node .typeParameterList "" true none 0 (parameters.map fun parameter =>
        .node .typeParameter parameter true none 0 [word .identifier parameter (some .name)]),
      .node .body "" true (some .body) 0 members]

def file (path : String) (members : List Node) : SourceUnit :=
  ⟨path, .node (.other "compilation_unit") "" true none 0 members, false⟩

/-- A partial class, and an interface of the same name that is partial too. -/
def clash : List SourceUnit :=
  [file "a.cs" [typeNode .class ["partial"] "A" [] []],
    file "b.cs" [typeNode .interface ["partial"] "A" [] []]]

/-- The part in `a.cs`. -/
def clashingClass : TypeDeclaration :=
  ⟨"a.cs", .class, some "A", [], [], "", [], [⟨"", []⟩], true, 1⟩

end Sample

namespace Environment

open TypeDeclaration

/-- Partial parts of two kinds clash in both orders of their files, and take the place of a
reference. -/
theorem table_lists_clash :
    Sample.clash.Perm Sample.clash.reverse ∧
      Sample.clashingClass ∈ Sample.clash.flatMap SourceUnit.declarations ∧
      Sample.clashingClass.qualifiedName? = some "A" ∧
      (∃ s, (build Sample.clash [⟨"A", 0, .class⟩]).table.get? ⟨"A", 0⟩ = some s ∧
        s.isReference = false ∧ Sample.clashingClass ∈ s.declarations ∧
        (build Sample.clash [⟨"A", 0, .class⟩]).declaredSymbol? Sample.clashingClass =
          if s.isAmbiguous then none else some s) ∧
      ((build Sample.clash.reverse [⟨"A", 0, .class⟩]).table.get? ⟨"A", 0⟩).any
          Symbol.isAmbiguous =
        ((build Sample.clash [⟨"A", 0, .class⟩]).table.get? ⟨"A", 0⟩).any Symbol.isAmbiguous := by
  have hperm : Sample.clash.Perm Sample.clash.reverse := (List.reverse_perm _).symm
  have hmem : Sample.clashingClass ∈ Sample.clash.flatMap SourceUnit.declarations := .head _
  have hname : Sample.clashingClass.qualifiedName? = some "A" := by decide
  have h := table_lists_declarations Sample.clash [⟨"A", 0, .class⟩] ⟨"A", 0⟩
  exact ⟨hperm, hmem, hname, h.2.1 _ hmem "A" hname, h.2.2 _ hperm⟩

end Environment

end Registrar
