/-
The type around each declaration. Declarations are listed with the types around
them but not with their positions, so these are found again from the depths: the
positions around the last declaration are kept, and the next one lies in the last
of them that is less deep (`parentPositions`).

What is kept is a `Lineage`: the position of a declaration, that of the innermost
type around it, and so on to the outermost. Declarations stand in the order of
the text, so what is around the next one is around the last one too or is that
one itself, and the lineage of the next one begins within that of the last one
(`Lineage.next`). So each position that is found is that of the innermost type
around a declaration, which stands in front of it and has its symbol when the
declaration is added to a table (`declarations_exact`).
-/
import Registrar.Proofs.DocumentOrder
import Registrar.Proofs.Table

namespace Registrar

open Registrar.Tree

/-! ## Between two addresses -/

/-- What stands in the order of the text between a node and one below it is below it too. -/
theorem Tree.Address.begins_of_between {outer p q : Address} (h : outer <+: q) (hfrom : ¬ p < outer)
    (hto : p < q) : outer <+: p := by
  induction outer generalizing p q with
  | nil => exact List.nil_prefix
  | cons i outer ih =>
    obtain ⟨rest, rfl⟩ := h
    cases p with
    | nil => exact absurd (List.nil_lt_cons i outer) hfrom
    | cons k p =>
      rw [List.cons_lt_cons_iff, not_or, not_and] at hfrom
      rw [List.cons_append, List.cons_lt_cons_iff] at hto
      -- `p` goes down no earlier than `outer` and no later than what extends it.
      obtain rfl : i = k := by omega
      have hto' : p < outer ++ rest := by
        rcases hto with hlt | ⟨_, hto⟩
        · exact absurd hlt (Nat.lt_irrefl i)
        · exact hto
      exact List.cons_prefix_cons.2 ⟨rfl, ih ⟨rest, rfl⟩ (hfrom.2 rfl) hto'⟩

namespace Site

/-! ## Lineages -/

/-- The sites stand in the order of the text, and the types noted around each are its own. -/
structure Listed (sites : List Site) : Prop where
  ordered : sites.Pairwise fun x y => x.address < y.address
  nested : ∀ x ∈ sites, Nested [] sites x

/-- The position of a site, of the innermost one around it, and so on to the outermost one. -/
inductive Lineage (sites : List Site) : List Nat → Prop
  | outermost {i : Nat} {x : Site} (hx : sites[i]? = some x)
    (hcontainers : x.declaration.containers = [])
    (hnone : ∀ y ∈ sites, ¬ y.address.Around x.address) : Lineage sites [i]
  | inside {i j : Nat} {rest : List Nat} {x y : Site} (hx : sites[i]? = some x)
    (hy : sites[j]? = some y)
    (hcontainers : x.declaration.containers =
      y.declaration.asContainer :: y.declaration.containers)
    (hnearest : Nearest sites y x) (h : Lineage sites (j :: rest)) : Lineage sites (i :: j :: rest)

/-- The positions kept in front of the site at `i`: none at first, and then the lineage of the site
before it. -/
def Kept (sites : List Site) (i : Nat) (around : List Nat) : Prop :=
  i = 0 ∧ around = [] ∨ ∃ last rest, i = last + 1 ∧ around = last :: rest ∧ Lineage sites around

variable {sites : List Site} {x y z : Site} {i j k : Nat} {rest around : List Nat}

theorem Listed.lt_of_lt (h : Listed sites) (hx : sites[i]? = some x) (hy : sites[j]? = some y)
    (hlt : i < j) : x.address < y.address := by
  obtain ⟨hi, rfl⟩ := List.getElem?_eq_some_iff.1 hx
  obtain ⟨hj, rfl⟩ := List.getElem?_eq_some_iff.1 hy
  exact List.pairwise_iff_getElem.1 h.ordered i j hi hj hlt

theorem Listed.not_lt_of_le (h : Listed sites) (hx : sites[i]? = some x) (hy : sites[j]? = some y)
    (hle : i ≤ j) : ¬ y.address < x.address := by
  rcases Nat.lt_or_eq_of_le hle with hlt | rfl
  · exact List.lt_asymm (h.lt_of_lt hx hy hlt)
  · cases hx.symm.trans hy
    exact List.lt_irrefl _

/-- What is around a site stands in front of it. -/
theorem Listed.lt_of_around (h : Listed sites) (hx : sites[i]? = some x) (hy : sites[j]? = some y)
    (haround : y.address.Around x.address) : j < i := by
  rw [← Nat.not_le]
  exact fun hle => h.not_lt_of_le hx hy hle haround.lt

theorem Listed.eq_of_address_eq (h : Listed sites) (hx : sites[i]? = some x)
    (hy : sites[j]? = some y) (heq : x.address = y.address) : i = j := by
  rcases Nat.lt_trichotomy i j with hlt | hij | hlt
  · exact absurd (h.lt_of_lt hx hy hlt) (heq ▸ List.lt_irrefl _)
  · exact hij
  · exact absurd (h.lt_of_lt hy hx hlt) (heq ▸ List.lt_irrefl _)

theorem Lineage.length_eq (h : Lineage sites (i :: rest)) (hx : sites[i]? = some x) :
    rest.length = x.declaration.containers.length := by
  generalize hall : i :: rest = all at h
  induction h generalizing i rest x with
  | outermost hx' hcontainers _ =>
    cases hall
    cases hx.symm.trans hx'
    rw [hcontainers]
    rfl
  | inside hx' hy hcontainers _ _ ih =>
    cases hall
    cases hx.symm.trans hx'
    rw [hcontainers, List.length_cons, List.length_cons, ih hy rfl]

theorem Lineage.of_append {front : List Nat} (h : Lineage sites (front ++ k :: rest)) :
    Lineage sites (k :: rest) := by
  induction front with
  | nil => exact h
  | cons i front ih =>
    generalize hall : i :: front ++ k :: rest = all at h
    cases h with
    | outermost => simp at hall
    | inside _ _ _ _ h =>
      cases front with
      | nil => cases hall; exact h
      | cons => cases hall; exact ih h

/-- All that is around the first site of a lineage is in it. -/
theorem Lineage.mem_of_begins (h : Lineage sites (i :: rest)) (hlisted : Listed sites)
    (hx : sites[i]? = some x) (hz : sites[k]? = some z) (hbegins : z.address <+: x.address) :
    k ∈ i :: rest := by
  generalize hall : i :: rest = all at h
  induction h generalizing i rest x with
  | @outermost _ x' hx' _ hnone =>
    cases hall
    cases hx.symm.trans hx'
    by_cases heq : z.address = x'.address
    · rw [hlisted.eq_of_address_eq hz hx heq]
      exact .head _
    · exact absurd ⟨hbegins, heq⟩ (hnone z (List.mem_of_getElem? hz))
  | @inside _ _ _ x' _ hx' hy _ hnearest _ ih =>
    cases hall
    cases hx.symm.trans hx'
    by_cases heq : z.address = x'.address
    · rw [hlisted.eq_of_address_eq hz hx heq]
      exact .head _
    · have hinner := hnearest.innermost z (List.mem_of_getElem? hz) ⟨hbegins, heq⟩
      exact .tail _ (ih hy hinner rfl)

/-- The part of a lineage that begins with `k` is found by its depth. -/
theorem Lineage.drop_eq (h : Lineage sites around) (hk : k ∈ around) (hy : sites[k]? = some y) :
    ∃ rest, around.drop (around.length - (y.declaration.containers.length + 1)) = k :: rest ∧
      Lineage sites (k :: rest) := by
  obtain ⟨front, rest, rfl⟩ := List.append_of_mem hk
  have hrest := h.of_append
  refine ⟨rest, ?_, hrest⟩
  have hlength : (front ++ k :: rest).length - (y.declaration.containers.length + 1) =
      front.length := by
    rw [List.length_append, List.length_cons, hrest.length_eq hy, Nat.add_sub_cancel]
  rw [hlength, List.drop_left]

/-- The lineage of the next site: its position, and what its depth leaves of those kept. -/
theorem Lineage.next (hlisted : Listed sites) (hkept : Kept sites i around)
    (hx : sites[i]? = some x) :
    Lineage sites (i :: around.drop (around.length - x.declaration.containers.length)) := by
  cases hlisted.nested x (List.mem_of_getElem? hx) with
  | outermost hcontainers hnone =>
    rw [hcontainers, List.length_nil, Nat.sub_zero, List.drop_length]
    exact .outermost hx hcontainers hnone
  | @inside y hy hcontainers hnearest =>
    obtain ⟨j, hj⟩ := List.getElem?_of_mem hy
    have hji : j < i := hlisted.lt_of_around hx hj hnearest.around
    rcases hkept with ⟨rfl, _⟩ | ⟨last, rest, rfl, rfl, hlineage⟩
    · exact absurd hji (Nat.not_lt_zero j)
    · have hlast : last < sites.length :=
        Nat.lt_of_succ_lt (List.getElem?_eq_some_iff.1 hx).1
      have hl : sites[last]? = some sites[last] := List.getElem?_eq_getElem hlast
      -- The type around `x` stands no later than the last site, so it is around that one or is it.
      have hbegins : y.address <+: (sites[last]).address :=
        Address.begins_of_between hnearest.around.1
          (hlisted.not_lt_of_le hj hl (Nat.le_of_lt_succ hji))
          (hlisted.lt_of_lt hl hx (Nat.lt_succ_self last))
      have hmem := hlineage.mem_of_begins hlisted hl hj hbegins
      obtain ⟨outer, houter, hlineage'⟩ := hlineage.drop_eq hmem hj
      have hdepth : x.declaration.containers.length = y.declaration.containers.length + 1 := by
        rw [hcontainers, List.length_cons]
      rw [hdepth, houter]
      exact .inside hx hj hcontainers hnearest hlineage'

/-! ## All positions -/

/-- Each position that is found in front of `sites.drop i` is the second one of a lineage. -/
theorem exists_lineage (hlisted : Listed sites) (hkept : Kept sites i around)
    {todo : List Site} (htodo : todo = sites.drop i) {t : Nat} (hx : todo[t]? = some x) :
    ∃ outer, Lineage sites ((i + t) :: outer) ∧
      (parentPositions.go around i (todo.map Site.declaration))[t]? = some outer.head? := by
  induction todo generalizing i around t with
  | nil => cases hx
  | cons first todo ih =>
    have hfirst : sites[i]? = some first := by
      have := congrArg List.head? htodo
      rw [List.head?_drop] at this
      exact this.symm
    have hlineage := Lineage.next hlisted hkept hfirst
    rw [List.map_cons, parentPositions.go]
    cases t with
    | zero => exact ⟨_, hlineage, rfl⟩
    | succ t =>
      have hrest : todo = sites.drop (i + 1) := by
        rw [← List.tail_drop, ← htodo, List.tail_cons]
      obtain ⟨outer, houter, hposition⟩ :=
        ih (.inr ⟨i, _, rfl, rfl, hlineage⟩) hrest hx
      rw [Nat.add_right_comm, Nat.add_assoc] at houter
      exact ⟨outer, houter, hposition⟩

theorem Nearest.position_eq (hlisted : Listed sites) (hy : sites[j]? = some y)
    (hz : sites[k]? = some z) (h : Nearest sites y x) (h' : Nearest sites z x) : j = k := by
  have hyz := h'.innermost y (List.mem_of_getElem? hy) h.around
  have hzy := h.innermost z (List.mem_of_getElem? hz) h'.around
  exact hlisted.eq_of_address_eq hy hz
    (hyz.eq_of_length (Nat.le_antisymm hyz.length_le hzy.length_le))

/-- The position found for a site is that of the innermost one around it. -/
theorem exists_parentPosition (hlisted : Listed sites) (hx : sites[i]? = some x) :
    ∃ parent, (parentPositions (sites.map Site.declaration))[i]? = some parent ∧
      (parent = none ↔ ∀ y ∈ sites, ¬ y.address.Around x.address) ∧
      (∀ j, parent = some j ↔ ∃ y, sites[j]? = some y ∧ Nearest sites y x) ∧
      ∀ j y, parent = some j → sites[j]? = some y →
        x.declaration.containers = y.declaration.asContainer :: y.declaration.containers := by
  obtain ⟨outer, hlineage, hposition⟩ := exists_lineage hlisted (.inl ⟨rfl, rfl⟩) rfl hx
  rw [Nat.zero_add] at hlineage
  refine ⟨outer.head?, hposition, ?_⟩
  cases hlineage with
  | outermost hx' _ hnone =>
    cases hx.symm.trans hx'
    refine ⟨iff_of_true rfl hnone, fun j => ?_, fun j y hparent => by cases hparent⟩
    refine iff_of_false (fun hparent => by cases hparent) ?_
    rintro ⟨y, hy, hnearest⟩
    exact hnone y (List.mem_of_getElem? hy) hnearest.around
  | inside hx' hy hcontainers hnearest _ =>
    cases hx.symm.trans hx'
    refine ⟨?_, fun k => ⟨?_, ?_⟩, ?_⟩
    · exact iff_of_false (fun hparent => by cases hparent)
        fun hnone => hnone _ (List.mem_of_getElem? hy) hnearest.around
    · intro hparent
      cases hparent
      exact ⟨_, hy, hnearest⟩
    · rintro ⟨z, hz, hz'⟩
      exact congrArg some (hnearest.position_eq hlisted hy hz hz')
    · intro k z hparent hz
      cases hparent
      cases hy.symm.trans hz
      exact hcontainers

end Site

theorem length_parentPositions (ds : List TypeDeclaration) :
    (parentPositions ds).length = ds.length := by
  have hgo : ∀ (around : List Nat) (i : Nat), (parentPositions.go around i ds).length = ds.length := by
    induction ds with
    | nil => exact fun _ _ => rfl
    | cons d rest ih =>
      intro around i
      rw [parentPositions.go, List.length_cons, List.length_cons, ih]
  exact hgo [] 0

/-! ## Symbols of the types around -/

theorem TypeDeclaration.containingKey?_eq {d e : TypeDeclaration}
    (h : d.containers = e.asContainer :: e.containers) : d.containingKey? = e.key? := by
  rw [containingKey?, h]
  rfl

namespace SymbolTable

/-- What was declared has a symbol of the sources. -/
theorem exists_symbol_of_declared (references : List Reference) {ds : List TypeDeclaration}
    {d : TypeDeclaration} (hd : d ∈ ds) {key : SymbolKey} (hkey : d.key? = some key) :
    ∃ s, ((ofReferences references).declareAll ds).get? key = some s ∧ s.isReference = false ∧
      d ∈ s.declarations := by
  have hmem : d ∈ ds.filter (·.key? == some key) := List.mem_filter.2 ⟨hd, beq_iff_eq.2 hkey⟩
  rw [get?_declareAll fun _ => isReference_of_get?_ofReferences]
  cases hds : ds.filter (·.key? == some key) with
  | nil =>
    rw [hds] at hmem
    cases hmem
  | cons first rest =>
    refine ⟨_, rfl, Symbol.foldl_join_isReference _ _, ?_⟩
    rw [Symbol.foldl_join_declarations]
    rw [hds] at hmem
    exact hmem

end SymbolTable

namespace SourceUnit

/-- The table to which the declaration at `i` of the unit is added: there are the references, what
the units `before` it declare, and what stands in front of the declaration. -/
def tableAt (u : SourceUnit) (references : List Reference) (before : List SourceUnit) (i : Nat) :
    SymbolTable :=
  (SymbolTable.ofReferences references).declareAll
    (before.flatMap declarations ++ u.declarations.take i)

theorem build_table_eq (u : SourceUnit) (references : List Reference)
    (before after : List SourceUnit) (i : Nat) :
    (Environment.build (before ++ u :: after) references).table =
      (u.tableAt references before i).declareAll
        (u.declarations.drop i ++ after.flatMap declarations) := by
  have hall : (before ++ u :: after).flatMap declarations =
      (before.flatMap declarations ++ u.declarations.take i) ++
        (u.declarations.drop i ++ after.flatMap declarations) := by
    rw [List.flatMap_append, List.flatMap_cons, List.append_assoc, ← List.append_assoc (u.declarations.take i),
      List.take_append_drop]
  rw [Environment.build_table, hall, tableAt, SymbolTable.declareAll, SymbolTable.declareAll,
    SymbolTable.declareAll, List.foldl_append]

/-- The declarations of a file are those of the types that are read in it, each once, in the order
of the text. The parent of each is the innermost type around it. It stands in front, it is what the
declaration notes of the types around it, and if it has a name, it has a symbol when the declaration
is added to the table of all units. -/
theorem declarations_exact (u : SourceUnit) :
    ∃ sites, Found [] (ReadsAt u.root.children) u.declarations sites ∧
      (parentPositions u.declarations).length = u.declarations.length ∧
      ∀ i x, sites[i]? = some x →
        ∃ parent, (parentPositions u.declarations)[i]? = some parent ∧
          (parent = none ↔ ∀ y ∈ sites, ¬ y.address.Around x.address) ∧
          (∀ j, parent = some j ↔ ∃ y, sites[j]? = some y ∧ Site.Nearest sites y x) ∧
          ∀ j y, parent = some j → sites[j]? = some y →
            j < i ∧
            x.declaration.containers = y.declaration.asContainer :: y.declaration.containers ∧
            ∀ references before after name, y.declaration.qualifiedName? = some name →
              (Environment.build (before ++ u :: after) references).table =
                (u.tableAt references before i).declareAll
                  (u.declarations.drop i ++ after.flatMap declarations) ∧
              x.declaration.containingKey? = some ⟨name, y.declaration.arity⟩ ∧
              ∃ s, (u.tableAt references before i).get? ⟨name, y.declaration.arity⟩ = some s ∧
                s.isReference = false ∧ y.declaration ∈ s.declarations := by
  obtain ⟨sites, hfound⟩ := u.exists_sites
  have hlisted : Site.Listed sites := ⟨hfound.ordered, hfound.nested⟩
  refine ⟨sites, hfound, length_parentPositions _, fun i x hx => ?_⟩
  obtain ⟨parent, hposition, hnone, hnearest, hcontainers⟩ := Site.exists_parentPosition hlisted hx
  rw [hfound.declared] at hposition
  refine ⟨parent, hposition, hnone, hnearest, fun j y hparent hy => ?_⟩
  have hji : j < i := by
    obtain ⟨z, hz, haround⟩ := (hnearest j).1 hparent
    exact hlisted.lt_of_around hx hz haround.around
  have hcontainers := hcontainers j y hparent hy
  refine ⟨hji, hcontainers, fun references before after name hname => ?_⟩
  have hkey : y.declaration.key? = some ⟨name, y.declaration.arity⟩ :=
    TypeDeclaration.key?_eq_some_iff.2 ⟨hname, rfl⟩
  have hdeclared : y.declaration ∈ u.declarations.take i := by
    have hj : u.declarations[j]? = some y.declaration := by
      rw [← hfound.declared, List.getElem?_map, hy]
      rfl
    rw [← List.getElem?_take_of_lt hji] at hj
    exact List.mem_of_getElem? hj
  refine ⟨u.build_table_eq references before after i, ?_, ?_⟩
  · rw [TypeDeclaration.containingKey?_eq hcontainers, hkey]
  · exact SymbolTable.exists_symbol_of_declared references (List.mem_append_right _ hdeclared) hkey

end SourceUnit

/-! ## Types in a file with errors -/

namespace Sample

/-- A namespace for the rest of the file, then `class Outer` around `class Inner` in a part that
could not be read, and `class Last`. -/
def tangled : SourceUnit :=
  file "tangled.cs"
    [.node .namespaceFile "" true none 0 [word .identifier "N" (some .name)],
      .node (.other "ERROR") "" true none 0
        [classAround "Outer" [] [typeNode .class [] "Inner" [] []]],
      typeNode .class [] "Last" [] []]

end Sample

namespace SourceUnit

open Sample

theorem declarations_exact_tangled :
    tangled.declarations.map (·.name) = [some "Outer", some "Inner", some "Last"] ∧
      parentPositions tangled.declarations = [none, some 0, none] ∧
      ∃ sites outer inner, Found [] (ReadsAt tangled.root.children) tangled.declarations sites ∧
        sites[0]? = some outer ∧ sites[1]? = some inner ∧ Site.Nearest sites outer inner ∧
        outer.declaration.qualifiedName? = some "N.Outer" ∧
        inner.declaration.containingKey? = some ⟨"N.Outer", outer.declaration.arity⟩ ∧
        ∃ s, (tangled.tableAt [] [] 1).get? ⟨"N.Outer", outer.declaration.arity⟩ = some s ∧
          outer.declaration ∈ s.declarations := by
  have hparents : parentPositions tangled.declarations = [none, some 0, none] := by decide +kernel
  refine ⟨by decide +kernel, hparents, ?_⟩
  obtain ⟨sites, hfound, -, hexact⟩ := declarations_exact tangled
  have hsite : ∀ (i : Nat) d, tangled.declarations[i]? = some d →
      ∃ x : Site, sites[i]? = some x ∧ x.declaration = d := by
    intro i d hd
    rwa [← hfound.declared, List.getElem?_map, Option.map_eq_some_iff] at hd
  obtain ⟨outer, houter, hdeclared⟩ := hsite 0 _ rfl
  obtain ⟨inner, hinner, -⟩ := hsite 1 _ rfl
  have hname : outer.declaration.qualifiedName? = some "N.Outer" := by
    rw [hdeclared]
    decide +kernel
  obtain ⟨parent, hposition, -, hnearest, hparent⟩ := hexact 1 inner hinner
  rw [hparents] at hposition
  obtain rfl : some 0 = parent := Option.some.inj hposition
  obtain ⟨-, -, hbuild⟩ := hparent 0 outer rfl houter
  obtain ⟨-, hkey, s, hs, -, hmem⟩ := hbuild [] [] [] "N.Outer" hname
  obtain ⟨y, hy, hyNearest⟩ := (hnearest 0).1 rfl
  cases houter.symm.trans hy
  exact ⟨sites, outer, inner, hfound, houter, hinner, hyNearest, hname, hkey, s, hs, hmem⟩

end SourceUnit

end Registrar
