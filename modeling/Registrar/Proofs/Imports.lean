/-
The imports of a generated module. Sets of directives are known by their
members: `mem_union`, `mem_without`, and for the directives of units
`mem_collectImports`. A run that returns imports every directive that a part of
a registered handler sees, but for the framework's own, and imports nothing else
(`imports_complete_and_sound`).
-/
import Registrar.Generation
import Registrar.Proofs.Handlers
import Registrar.Proofs.Scopes

namespace Registrar

namespace ImportSet

/-! ## Members of a set -/

theorem mem_ofList {item : String} {directives : List String} :
    item ∈ (ofList directives).items ↔ item ≠ "" ∧ ∃ d ∈ directives, Text.trim d = item := by
  simp only [ofList, itemsOf, List.mem_eraseDups, List.mem_filter, List.mem_map, ne_eq, decide_not,
    Bool.not_eq_true', decide_eq_false_iff_not]
  exact and_comm

theorem mem_union {item : String} {s : ImportSet} {directives : List String} :
    item ∈ (s.union directives).items ↔
      item ∈ s.items ∨ item ≠ "" ∧ ∃ d ∈ directives, Text.trim d = item := by
  rw [union, mem_ofList]
  constructor
  · intro ⟨hne, d, hd, htrim⟩
    rcases List.mem_append.1 hd with hd | hd
    · rw [(s.trimmed d hd).1] at htrim
      exact .inl (htrim ▸ hd)
    · exact .inr ⟨hne, d, hd, htrim⟩
  · intro h
    rcases h with h | ⟨hne, d, hd, htrim⟩
    · exact ⟨(s.trimmed item h).2, item, List.mem_append_left _ h, (s.trimmed item h).1⟩
    · exact ⟨hne, d, List.mem_append_right _ hd, htrim⟩

theorem mem_union_items {item : String} {s t : ImportSet} :
    item ∈ (s.union t.items).items ↔ item ∈ s.items ∨ item ∈ t.items := by
  rw [mem_union]
  refine or_congr_right ⟨fun ⟨_, d, hd, htrim⟩ => ?_, fun h => ?_⟩
  · exact htrim ▸ (t.trimmed d hd).1.symm ▸ hd
  · exact ⟨(t.trimmed item h).2, item, h, (t.trimmed item h).1⟩

theorem mem_without {item : String} {s : ImportSet} {directives : List String} :
    item ∈ (s.without directives).items ↔ item ∈ s.items ∧ item ∉ directives.map Text.trim := by
  have hfilter : ∀ d, d ∈ s.items.filter (fun item => !(directives.map Text.trim).contains item) ↔
      d ∈ s.items ∧ d ∉ directives.map Text.trim := by
    simp only [List.mem_filter, Bool.not_eq_true', List.contains_eq_mem, decide_eq_false_iff_not,
      implies_true]
  rw [without, mem_ofList]
  constructor
  · intro h
    obtain ⟨_, d, hd, htrim⟩ := h
    rw [hfilter] at hd
    rw [(s.trimmed d hd.1).1] at htrim
    exact htrim ▸ hd
  · intro h
    exact ⟨(s.trimmed item h.1).2, item, (hfilter item).2 h, (s.trimmed item h.1).1⟩

end ImportSet

/-! ## The directives of units -/

theorem mem_unitImports {item : String} {u : SourceUnit} :
    item ∈ (unitImports u).items ↔
      item ≠ "" ∧ ∃ dir ∈ u.directives, dir.isGlobal = false ∧ Text.trim dir.text = item := by
  simp only [unitImports, ImportSet.mem_ofList, List.mem_map, List.mem_filter, Bool.not_eq_true']
  refine and_congr_right fun _ => ?_
  constructor
  · rintro ⟨d, ⟨dir, ⟨hdir, hglobal⟩, rfl⟩, htrim⟩
    exact ⟨dir, hdir, hglobal, htrim⟩
  · rintro ⟨dir, hdir, hglobal, htrim⟩
    exact ⟨dir.text, ⟨dir, ⟨hdir, hglobal⟩, rfl⟩, htrim⟩

/-- The text of a directive has no blanks at its ends. -/
theorem trim_text_of_mem_directives {u : SourceUnit} {dir : Directive} (h : dir ∈ u.directives) :
    Text.trim dir.text = dir.text := by
  obtain ⟨n, rfl⟩ := exists_node_of_mem_allDirectives _ h
  exact Text.trim_trim n.text

/-- Units of one path are the same unit. -/
def PathsTellApart (units : List SourceUnit) : Prop :=
  ∀ u ∈ units, ∀ v ∈ units, u.path = v.path → u = v

/-- Units whose paths were seen before are left out, and all others add their directives. -/
theorem mem_collectFrom {item : String} {units : List SourceUnit} (h : PathsTellApart units)
    (seen : List String) (imports : ImportSet) :
    item ∈ (collectFrom seen imports units).items ↔
      item ∈ imports.items ∨ ∃ u ∈ units, u.path ∉ seen ∧ item ∈ (unitImports u).items := by
  induction units generalizing seen imports with
  | nil => simp [collectFrom]
  | cons u rest ih =>
    have hrest : PathsTellApart rest := fun v hv w hw => h v (.tail _ hv) w (.tail _ hw)
    rw [collectFrom]
    split
    · next hseen =>
      have hseen : u.path ∈ seen := by simpa using hseen
      simp [ih hrest, hseen]
    · next hseen =>
      have hseen : u.path ∉ seen := by simpa using hseen
      rw [ih hrest, ImportSet.mem_union_items, or_assoc]
      refine or_congr_right ?_
      constructor
      · rintro (hitem | ⟨v, hv, hpath, hitem⟩)
        · exact ⟨u, .head _, hseen, hitem⟩
        · exact ⟨v, .tail _ hv, fun hmem => hpath (.tail _ hmem), hitem⟩
      · rintro ⟨v, hv, hpath, hitem⟩
        by_cases hsame : v.path = u.path
        · exact .inl (h v hv u (.head _) hsame ▸ hitem)
        · refine .inr ⟨v, (List.mem_cons.1 hv).resolve_left fun he => hsame (he ▸ rfl), ?_, hitem⟩
          simp [hsame, hpath]

theorem mem_collectImports {item : String} {units : List SourceUnit} (h : PathsTellApart units)
    (start : ImportSet) :
    item ∈ (collectImports units start).items ↔
      item ∈ start.items ∨ ∃ u ∈ units, item ∈ (unitImports u).items := by
  simp [collectImports, mem_collectFrom h]

namespace Environment

theorem build_units (units : List SourceUnit) (references : List Reference) :
    (build units references).units = units := by
  simp [build, Environment.units, Function.comp_def]

/-- The units that declare a symbol are those with the paths of its declarations. -/
theorem mem_declaringUnits {units : List SourceUnit} (h : PathsTellApart units)
    (references : List Reference) {s : Symbol} {u : SourceUnit} :
    u ∈ (build units references).declaringUnits s ↔
      u ∈ units ∧ ∃ d ∈ s.declarations, d.unitPath = u.path := by
  have hunit : ∀ path, (build units references).unitAt? path = some u ↔ u ∈ units ∧ u.path = path := by
    intro path
    rw [unitAt?, build_units]
    constructor
    · intro hfind
      exact ⟨List.mem_reverse.1 (List.mem_of_find?_eq_some hfind), by simpa using List.find?_some hfind⟩
    · rintro ⟨hu, rfl⟩
      cases hfind : units.reverse.find? (·.path == u.path) with
      | none => exact absurd (List.find?_eq_none.1 hfind u (List.mem_reverse.2 hu)) (by simp)
      | some v =>
        have hv : v ∈ units := List.mem_reverse.1 (List.mem_of_find?_eq_some hfind)
        rw [h v hv u hu (by simpa using List.find?_some hfind)]
  simp only [declaringUnits, List.mem_filterMap, List.mem_eraseDups, List.mem_map, hunit]
  constructor
  · rintro ⟨_, ⟨d, hd, rfl⟩, hu, hpath⟩
    exact ⟨hu, d, hd, hpath.symm⟩
  · rintro ⟨hu, d, hd, hpath⟩
    exact ⟨_, ⟨d, hd, rfl⟩, hu, hpath.symm⟩

end Environment

/-! ## Runs -/

section

open Environment

variable {units : List SourceUnit} {names : ContractNames}

/-- The environment in which a run looks for handlers. -/
abbrev runEnvironment (units : List SourceUnit) (names : ContractNames) : Environment :=
  build units (Reference.contracts names.query names.command)

/-- The handlers that a run over units registers, with their symbols. -/
def Registers (units : List SourceUnit) (names : ContractNames)
    (handlers : List (Symbol × Entry)) : Prop :=
  ((runEnvironment units names).handlers
    (ContractSet.bind (runEnvironment units names) names.query names.command)).result = .ok handlers

theorem registrations_eq_ok_iff {entries : List Entry} {imports : ImportSet} :
    (registrations units names).result = .ok (entries, imports) ↔
      ∃ handlers, Registers units names handlers ∧ entries = handlers.map Prod.snd ∧
        imports = collectImports
          (handlers.flatMap fun h => (runEnvironment units names).declaringUnits h.1) .empty := by
  simp only [registrations, Noted.result_bind_eq_ok, Noted.result_noteAll, Noted.result_note,
    Noted.result_pure, Except.ok.injEq, Prod.mk.injEq, exists_const, true_and]
  refine exists_congr fun handlers => and_congr_right fun _ => ?_
  exact and_congr eq_comm eq_comm

theorem Module.of_ofEntries {template : Template} {ns : String} {entries : List Entry}
    {imports : ImportSet} {module : Module}
    (h : Module.ofEntries template ns entries imports = .ok module) :
    module.entries = entries ∧ module.imports = imports.without frameworkImports := by
  unfold Module.ofEntries at h
  dsimp only at h
  cases hrender : template.render ns (imports.without frameworkImports).items entries with
  | error e => rw [hrender] at h; cases h
  | ok text =>
    rw [hrender] at h
    cases h
    exact ⟨rfl, rfl⟩

/-- A module that is generated has the entries of the handlers that a run registers, and the
directives of the units that declare them. -/
theorem registers_of_generate {ns : String} {template : Template} {module : Module}
    (h : (generate units ns names template).result = .ok module) :
    ∃ handlers, Registers units names handlers ∧ module.entries = handlers.map Prod.snd ∧
      module.imports = (collectImports (handlers.flatMap fun h =>
        (runEnvironment units names).declaringUnits h.1) .empty).without frameworkImports := by
  rw [generate, Noted.result_bind_eq_ok] at h
  obtain ⟨⟨entries, imports⟩, hregistrations, hmodule⟩ := h
  rw [Noted.mapError] at hregistrations
  cases hfound : (registrations units names).result with
  | error e => rw [hfound] at hregistrations; cases hregistrations
  | ok found =>
    rw [hfound] at hregistrations
    obtain rfl : found = (entries, imports) := Except.ok.inj hregistrations
    obtain ⟨handlers, hhandlers, rfl, rfl⟩ := registrations_eq_ok_iff.1 hfound
    dsimp only [Noted.ofExcept] at hmodule
    cases hmade : Module.ofEntries template ns (handlers.map Prod.snd) (collectImports
        (handlers.flatMap fun h => (runEnvironment units names).declaringUnits h.1) .empty) with
    | error e => rw [hmade] at hmodule; cases hmodule
    | ok made =>
      rw [hmade] at hmodule
      obtain rfl : made = module := Except.ok.inj hmodule
      exact ⟨handlers, hhandlers, Module.of_ofEntries hmade⟩

theorem map_trim_frameworkImports : frameworkImports.map Text.trim = frameworkImports := by
  decide +kernel

/-- The imports of a module are the directives of the units that declare a
handler, without the framework's. -/
theorem mem_imports_iff (h : PathsTellApart units) {handlers : List (Symbol × Entry)}
    {item : String} :
    item ∈ ((collectImports (handlers.flatMap fun h =>
        (runEnvironment units names).declaringUnits h.1) .empty).without frameworkImports).items ↔
      (∃ h ∈ handlers, ∃ u ∈ units, (∃ d ∈ h.1.declarations, d.unitPath = u.path) ∧
        item ∈ (unitImports u).items) ∧ item ∉ frameworkImports := by
  have hunits : ∀ u, u ∈ (handlers.flatMap fun h => (runEnvironment units names).declaringUnits h.1) ↔
      ∃ h ∈ handlers, u ∈ units ∧ ∃ d ∈ h.1.declarations, d.unitPath = u.path := by
    simp only [List.mem_flatMap, mem_declaringUnits h, implies_true]
  have hapart : PathsTellApart
      (handlers.flatMap fun h => (runEnvironment units names).declaringUnits h.1) := by
    intro u hu v hv
    obtain ⟨_, _, hu, _⟩ := (hunits u).1 hu
    obtain ⟨_, _, hv, _⟩ := (hunits v).1 hv
    exact h u hu v hv
  have hempty : item ∉ ImportSet.empty.items := List.not_mem_nil
  rw [ImportSet.mem_without, map_trim_frameworkImports,
    mem_collectImports hapart, or_iff_right hempty]
  refine and_congr_left fun _ => ?_
  constructor
  · intro ⟨u, hu, hitem⟩
    obtain ⟨h, hh, hu, hd⟩ := (hunits u).1 hu
    exact ⟨h, hh, u, hu, hd, hitem⟩
  · intro ⟨h, hh, u, hu, hd, hitem⟩
    exact ⟨u, (hunits u).2 ⟨h, hh, hu, hd⟩, hitem⟩

/-- The declarations of a handler are those of the units under its key. -/
theorem Registers.mem_declarations {handlers : List (Symbol × Entry)}
    (hhandlers : Registers units names handlers) {h : Symbol × Entry} (hh : h ∈ handlers)
    {d : TypeDeclaration} (hd : d ∈ h.1.declarations) : ∃ u ∈ units, d ∈ u.declarations := by
  have hget := get?_of_mem_handlers hhandlers hh
  exact List.mem_flatMap.1 ((mem_declarations_of_get? hget).1 hd).1

/-- The import set holds what the parts of the handlers see, and no more than
the directives of the units that declare them; the framework's directives are
left out. -/
structure ImportsOf (units : List SourceUnit) (handlers : List (Symbol × Entry))
    (imports : ImportSet) : Prop where
  complete : ∀ h ∈ handlers, ∀ d ∈ h.1.declarations, ∀ scope ∈ d.scopes, ∀ dir ∈ scope.directives,
    dir.isGlobal = false → dir.text ≠ "" →
      Text.trim dir.text ∈ imports.items ∨ Text.trim dir.text ∈ frameworkImports
  sound : ∀ item ∈ imports.items, ∃ h ∈ handlers, ∃ u ∈ units, (∃ d ∈ h.1.declarations,
    d ∈ u.declarations) ∧ ∃ dir ∈ u.directives, dir.isGlobal = false ∧ Text.trim dir.text = item
  notFramework : ∀ item ∈ imports.items, item ∉ frameworkImports
  once : ∀ item ∈ imports.items, imports.items.count item = 1

/-- A run that returns a module imports, for every handler that it registers,
all directives in the scopes of all its parts that are not global, apart from
the framework's. Each import is such a directive of a unit that declares a
handler, and occurs once. -/
theorem imports_complete_and_sound (hpaths : (units.map SourceUnit.path).Nodup)
    (hbraced : ∀ u ∈ units, Tree.BracedNamespaces u.root.children)
    (houtside : ∀ u ∈ units, Tree.NamespacesOutsideTypes u.root.children)
    {ns : String} {template : Template} {module : Module}
    (hrun : (generate units ns names template).result = .ok module) :
    ∃ handlers, Registers units names handlers ∧ module.entries = handlers.map Prod.snd ∧
      ImportsOf units handlers module.imports := by
  obtain ⟨handlers, hhandlers, hentries, himports⟩ := registers_of_generate hrun
  have hapart : PathsTellApart units := fun u hu v hv => List.inj_on_of_nodup_map hpaths hu hv
  refine ⟨handlers, hhandlers, hentries, ?_⟩
  rw [himports]
  constructor
  case complete =>
    intro h hh d hd scope hscope dir hdir hglobal htext
    obtain ⟨u, hu, hdu⟩ := hhandlers.mem_declarations hh hd
    have hdir : dir ∈ u.directives :=
      SourceUnit.scope_directives_subset (hbraced u hu) (houtside u hu) hdu hscope hdir
    have hne : Text.trim dir.text ≠ "" := by rwa [trim_text_of_mem_directives hdir]
    by_cases hframework : Text.trim dir.text ∈ frameworkImports
    · exact .inr hframework
    · refine .inl ((mem_imports_iff hapart).2 ⟨⟨h, hh, u, hu, ?_, ?_⟩, hframework⟩)
      · exact ⟨d, hd, SourceUnit.unitPath_of_mem hdu⟩
      · exact mem_unitImports.2 ⟨hne, dir, hdir, hglobal, rfl⟩
  case sound =>
    intro item hitem
    obtain ⟨⟨h, hh, u, hu, ⟨d, hd, hpath⟩, hitem⟩, _⟩ := (mem_imports_iff hapart).1 hitem
    obtain ⟨v, hv, hdv⟩ := hhandlers.mem_declarations hh hd
    have hsame : v = u := hapart v hv u hu ((SourceUnit.unitPath_of_mem hdv).symm.trans hpath)
    exact ⟨h, hh, u, hu, ⟨d, hd, hsame ▸ hdv⟩, (mem_unitImports.1 hitem).2⟩
  case notFramework => exact fun item hitem => ((mem_imports_iff hapart).1 hitem).2
  case once => exact fun item hitem => List.count_eq_one_of_mem (ImportSet.distinct _) hitem

end

/-! ## A handler in two files -/

namespace Sample

open Registrar.Tree

def directive (text : String) : Node :=
  word .usingDirective text none

/-- The part of `Ping` that is written under `using App.Contracts;` inside the
braces of `namespace App`, its other part behind `namespace App;`, and a file
without a handler. -/
def split : List SourceUnit :=
  [file "a.cs"
      [directive "using System;",
        .node .namespaceBlock "" true none 0
          [word .identifier "App" (some .name),
            .node .body "" true (some .body) 0
              [directive "using App.Contracts;",
                typeNode .class ["partial"] "Ping" []
                  [generic "IQueryHandler"
                    [word .identifier "Ping" none, word .predefinedType "string" none]]]]],
    file "b.cs"
      [directive "using VContainer;", directive "using System;", directive "global using Data;",
        .node .namespaceFile "" true none 0
          [word .identifier "App" (some .name), directive "using System.Text;"],
        typeNode .class ["partial"] "Ping" [] []],
    file "c.cs" [directive "using Unused;", typeNode .class [] "Other" [] []]]

def names : ContractNames := ⟨["IQueryHandler"], ["ICommandHandler"]⟩

end Sample

theorem imports_complete_and_sound_split :
    (Sample.split.map SourceUnit.path).Nodup ∧
      (∀ u ∈ Sample.split, Tree.BracedNamespaces u.root.children) ∧
      (∀ u ∈ Sample.split, Tree.NamespacesOutsideTypes u.root.children) ∧
      ∃ module, (generate Sample.split "App" Sample.names .builtIn).result = .ok module ∧
        module.imports.items = ["using System;", "using App.Contracts;", "using System.Text;"] ∧
        ∃ handlers, Registers Sample.split Sample.names handlers ∧
          module.entries = handlers.map Prod.snd ∧
          ImportsOf Sample.split handlers module.imports := by
  have hpaths : (Sample.split.map SourceUnit.path).Nodup := by decide
  have hbraced : ∀ u ∈ Sample.split, Tree.BracedNamespaces u.root.children := by
    unfold Tree.BracedNamespaces
    decide +kernel
  have houtside : ∀ u ∈ Sample.split, Tree.NamespacesOutsideTypes u.root.children := by
    unfold Tree.NamespacesOutsideTypes
    decide +kernel
  have himports : (generate Sample.split "App" Sample.names .builtIn).result.toOption.map
      (·.imports.items) = some ["using System;", "using App.Contracts;", "using System.Text;"] := by
    decide +kernel
  cases hrun : (generate Sample.split "App" Sample.names .builtIn).result with
  | error e => rw [hrun] at himports; cases himports
  | ok module =>
    rw [hrun] at himports
    exact ⟨hpaths, hbraced, houtside, module, rfl, Option.some.inj himports,
      imports_complete_and_sound hpaths hbraced houtside hrun⟩

end Registrar
