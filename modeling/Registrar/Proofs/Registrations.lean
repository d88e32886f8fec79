/-
The candidates and the handlers of an environment, told exactly. A unit lists
its declarations as their nodes stand in the tree, a type before the types
inside it (`declarations_in_order`). The candidates follow that order from unit
to unit: each class whose symbol is unambiguous is there once, at its first
declaration (`map_place_candidatesOf`), and each class declaration without such a
symbol is there for itself (`candidates_without_symbol`).

The handlers are those candidates that the classifier takes for one, in the
same order (`handlers_eq_ok_iff`). That they are registered under different
names is checked nowhere: it holds because a key has one symbol, a symbol one
candidate, and a handler the arity zero.
-/
import Registrar.Proofs.Handlers
import Registrar.Proofs.Walk

namespace Registrar

open Registrar.Tree

/-! ## The order of the text -/

theorem Tree.Node.nodesAmong_children_sublist {n : Node} {ns : List Node} (h : n ∈ ns) :
    (nodesAmong n.children).Sublist (nodesAmong ns) := by
  induction ns with
  | nil => cases h
  | cons m rest ih =>
    rw [nodesAmong]
    rcases List.mem_cons.1 h with rfl | h
    · rw [nodes_eq_cons]
      exact ((List.Sublist.refl _).cons n).trans (List.sublist_append_left _ _)
    · exact (ih h).trans (List.sublist_append_right _ _)

theorem Enters.nodesAmong_sublist {here inner : Surroundings} {n : Node} {members : List Node}
    (h : Enters here n inner members) :
    (Node.nodesAmong members).Sublist (Node.nodesAmong n.children) := by
  rcases h.members_eq with rfl | ⟨body, hbody, rfl⟩
  · exact List.Sublist.refl _
  · exact Node.nodesAmong_children_sublist hbody

/-- Reading `members` comes to the node `n`, which declares `d` there. -/
def Declares (here : Surroundings) (members : List Node) (n : Node) (d : TypeDeclaration) : Prop :=
  ∃ there, Reaches here members there n ∧ ownDeclaration? there n = some d

theorem Declares.sibling {here : Surroundings} {m n : Node} {rest : List Node} {d : TypeDeclaration}
    (h : Declares (here.after m) rest n d) : Declares here (m :: rest) n d := by
  obtain ⟨there, hreaches, hown⟩ := h
  exact ⟨there, .sibling hreaches, hown⟩

theorem Declares.entered {here inner : Surroundings} {m n : Node} {members : List Node}
    {d : TypeDeclaration} (hnamed : m.isNamed = true) (henters : Enters here m inner members)
    (rest : List Node) (h : Declares inner members n d) : Declares here (m :: rest) n d := by
  obtain ⟨there, hreaches, hown⟩ := h
  exact ⟨there, .entered hnamed henters hreaches, hown⟩

/-- The walk lists the declarations as their nodes stand in the tree, each node before those below
it. -/
theorem exists_nodes_in_order (here : Surroundings) (members : List Node) :
    ∃ nodes : List Node, nodes.Sublist (Node.nodesAmong members) ∧
      List.Forall₂ (Declares here members) nodes (memberDeclarations here members) := by
  match members with
  | [] => exact ⟨[], .slnil, .nil⟩
  | m :: rest =>
    obtain ⟨behind, hbehind, hrest⟩ := exists_nodes_in_order (here.after m) rest
    have hrest : List.Forall₂ (Declares here (m :: rest)) behind
        (memberDeclarations (here.after m) rest) := hrest.imp fun _ _ h => h.sibling
    rw [memberDeclarations, Node.nodesAmong]
    by_cases hnamed : m.isNamed = true
    · obtain ⟨below, hbelow, hinner⟩ : ∃ below : List Node,
          below.Sublist (Node.nodesAmong m.children) ∧
          List.Forall₂ (Declares here (m :: rest)) below
            ((entered? here m).elim [] fun step => memberDeclarations step.1 step.2) := by
        cases hstep : entered? here m with
        | none => exact ⟨[], List.nil_sublist _, .nil⟩
        | some step =>
          have henters := entered?_eq_some_iff.1 hstep
          have hlt := henters.sizeOf_lt
          obtain ⟨below, hbelow, hinner⟩ := exists_nodes_in_order step.1 step.2
          exact ⟨below, hbelow.trans henters.nodesAmong_sublist,
            hinner.imp fun _ _ h => h.entered hnamed henters rest⟩
      have hboth := List.rel_append hinner hrest
      rw [if_pos hnamed, declarationsOf_eq, Node.nodes_eq_cons, List.append_assoc]
      cases hown : ownDeclaration? here m with
      | none => exact ⟨below ++ behind, (hbelow.append hbehind).cons m, hboth⟩
      | some d =>
        exact ⟨m :: (below ++ behind), (hbelow.append hbehind).cons_cons m,
          .cons ⟨here, .member hnamed, hown⟩ hboth⟩
    · rw [if_neg hnamed, List.nil_append]
      exact ⟨behind, hbehind.trans (List.sublist_append_right _ _), hrest⟩
termination_by sizeOf members
decreasing_by all_goals (rw [List.cons.sizeOf_spec]; omega)

namespace SourceUnit

/-- The surroundings in which the members of a file are read. -/
def surroundings (u : SourceUnit) : Surroundings :=
  ⟨u.path, "", [], [⟨"", ownDirectives u.root.children⟩]⟩

theorem declarations_in_order (u : SourceUnit) :
    ∃ nodes : List Node, nodes.Sublist (Node.nodesAmong u.root.children) ∧
      List.Forall₂ (Declares u.surroundings u.root.children) nodes u.declarations :=
  exists_nodes_in_order u.surroundings u.root.children

end SourceUnit

/-- Where a candidate was found. -/
def Candidate.place (c : Candidate) : SourceUnit × TypeDeclaration :=
  (c.unit, c.declaration)

namespace Environment

variable {env : Environment} {contracts : ContractSet}

/-! ## Candidates, place by place -/

section

variable {seen : List SymbolKey} {places : List (SourceUnit × TypeDeclaration)}

/-- A class declaration whose symbol has the key. -/
def isClassOf (env : Environment) (key : SymbolKey) (p : SourceUnit × TypeDeclaration) : Bool :=
  p.2.kind == .class && (env.declaredSymbol? p.2).any (·.key == key)

/-- The candidate has the symbol of a key. -/
def isOf (key : SymbolKey) (c : Candidate) : Bool :=
  c.symbol.any (·.key == key)

theorem candidatesFrom_sublist (env : Environment) (seen : List SymbolKey)
    (places : List (SourceUnit × TypeDeclaration)) :
    ((env.candidatesFrom seen places).map Candidate.place).Sublist places := by
  fun_induction candidatesFrom env seen places with
  | case1 => exact .slnil
  | case2 _ u d _ _ _ _ _ ih => exact ih.cons (u, d)
  | case3 _ u d _ _ _ _ _ ih => exact ih.cons_cons (u, d)
  | case4 _ u d _ _ _ ih => exact ih.cons_cons (u, d)
  | case5 _ u d _ _ ih => exact ih.cons (u, d)

/-- Every class without a symbol is kept. -/
theorem candidatesFrom_loose (env : Environment) (seen : List SymbolKey)
    (places : List (SourceUnit × TypeDeclaration)) :
    ((env.candidatesFrom seen places).filter (·.symbol.isNone)).map Candidate.place =
      places.filter fun p => p.2.kind == .class && (env.declaredSymbol? p.2).isNone := by
  fun_induction candidatesFrom env seen places with
  | case1 => rfl
  | case2 _ u d _ _ s hs _ ih => simp [hs, ih]
  | case3 _ u d _ _ s hs _ ih => simp [hs, ih]
  | case4 _ u d rest hkind hs ih =>
    have hloose : (d.kind == .class && (env.declaredSymbol? d).isNone) = true := by
      rw [hkind, hs]
      rfl
    rw [List.filter_cons_of_pos rfl, List.map_cons, ih, List.filter_cons, if_pos hloose,
      Candidate.place]
  | case5 _ u d _ hkind ih => simp [hkind, ih]

theorem isClassOf_iff {key : SymbolKey} {p : SourceUnit × TypeDeclaration} :
    env.isClassOf key p = true ↔
      p.2.kind = .class ∧ ∃ s, env.declaredSymbol? p.2 = some s ∧ s.key = key := by
  simp [isClassOf, Option.any_eq_true]

/-- Of the places of one class only the first is kept, and that only when the class is new. -/
theorem candidatesFrom_of_key (env : Environment) (key : SymbolKey) (seen : List SymbolKey)
    (places : List (SourceUnit × TypeDeclaration)) :
    ((env.candidatesFrom seen places).filter (isOf key)).map Candidate.place =
      if key ∈ seen then [] else (places.filter (env.isClassOf key)).take 1 := by
  fun_induction candidatesFrom env seen places with
  | case1 => exact (ite_self _).symm
  | case2 seen u d rest hkind s hs hseen ih =>
    rw [ih]
    by_cases hkey : s.key = key
    · have hmem : key ∈ seen := hkey ▸ List.contains_iff_mem.1 hseen
      rw [if_pos hmem, if_pos hmem]
    · have hother : ¬ env.isClassOf key (u, d) = true := by simp [isClassOf, hs, hkey]
      rw [List.filter_cons_of_neg hother]
  | case3 seen u d rest hkind s hs hseen ih =>
    by_cases hkey : s.key = key
    · -- the class itself: all later places of it are passed over
      subst hkey
      have hnew : s.key ∉ seen := fun hmem => hseen (List.contains_iff_mem.2 hmem)
      have hself : env.isClassOf s.key (u, d) = true := by simp [isClassOf, hkind, hs]
      have hof : isOf s.key ⟨u, d, some s⟩ = true := by simp [isOf]
      rw [List.filter_cons_of_pos hof, List.map_cons, ih, if_pos List.mem_cons_self, if_neg hnew,
        List.filter_cons_of_pos hself]
      rfl
    · have hother : ¬ env.isClassOf key (u, d) = true := by simp [isClassOf, hs, hkey]
      have hnot : ¬ isOf key ⟨u, d, some s⟩ = true := by simp [isOf, hkey]
      have hmem : key ∈ s.key :: seen ↔ key ∈ seen := by simp [Ne.symm hkey]
      rw [List.filter_cons_of_neg hnot, ih, List.filter_cons_of_neg hother, if_congr hmem rfl rfl]
  | case4 _ u d _ _ hs ih =>
    have hother : ¬ env.isClassOf key (u, d) = true := by simp [isClassOf, hs]
    rw [List.filter_cons_of_neg Bool.false_ne_true, ih, List.filter_cons_of_neg hother]
  | case5 _ u d _ hkind ih =>
    have hother : ¬ env.isClassOf key (u, d) = true := by simp [isClassOf, hkind]
    rw [ih, List.filter_cons_of_neg hother]

end

/-! ## The candidates of an environment -/

/-- The declarations of a symbol with their units, in the order of the units and their texts. -/
def placesOf (env : Environment) (s : Symbol) : List (SourceUnit × TypeDeclaration) :=
  env.located.filter (·.2.key? == some s.key)

/-- The candidates that have a symbol. -/
def candidatesOf (env : Environment) (s : Symbol) : List Candidate :=
  env.candidates.filter (isOf s.key)

/-- A class declaration that is unnamed, or whose symbol is ambiguous. -/
def isLoose (env : Environment) (p : SourceUnit × TypeDeclaration) : Bool :=
  p.2.kind == .class && p.2.key?.all fun key => (env.table.get? key).any Symbol.isAmbiguous

section

variable {units : List SourceUnit} {references : List Reference}

theorem build_located (units : List SourceUnit) (references : List Reference) :
    (build units references).located = units.flatMap fun u => u.declarations.map (u, ·) := by
  simp [located, build, List.flatMap_map]

theorem mem_declarations_of_mem_located {p : SourceUnit × TypeDeclaration}
    (h : p ∈ (build units references).located) : p.2 ∈ units.flatMap SourceUnit.declarations := by
  rw [← build_located_snd units references]
  exact List.mem_map_of_mem h

/-- A symbol's places are those of its declarations. -/
theorem build_placesOf_snd {s : Symbol}
    (hs : (build units references).table.get? s.key = some s) :
    ((build units references).placesOf s).map Prod.snd = s.declarations := by
  have hsnd : ((build units references).placesOf s).map Prod.snd =
      declarationsUnder units s.key := by
    rw [declarationsUnder_eq_filter, ← build_located_snd units references, List.filter_map]
    rfl
  rw [hsnd]
  cases hds : declarationsUnder units s.key with
  | nil =>
    rw [build_get?, hds] at hs
    obtain ⟨r, _, hr⟩ := Option.map_eq_some_iff.1 hs
    rw [← hr]
    rfl
  | cons d rest =>
    obtain ⟨s', hs', _, _, hdeclarations, _⟩ := exists_symbol_of_cons references hds
    rw [hs] at hs'
    cases hs'
    exact hdeclarations.symm

/-- The declarations of an unambiguous symbol are of its kind. -/
theorem kind_of_mem_declarations {s : Symbol}
    (hs : (build units references).table.get? s.key = some s) (hambiguous : s.isAmbiguous = false)
    {d : TypeDeclaration} (hd : d ∈ s.declarations) : d.kind = s.kind := by
  have hd' := (mem_declarations_of_get? hs).1 hd
  obtain ⟨e, rest, hds⟩ := List.exists_cons_of_ne_nil
    (List.ne_nil_of_mem (mem_declarationsUnder.2 hd'))
  obtain ⟨s', hs', _, _, hdeclarations, hkind, _, hone⟩ := exists_symbol_of_cons references hds
  rw [hs] at hs'
  cases hs'
  rw [hdeclarations] at hd
  rw [hkind]
  cases rest with
  | nil => rw [List.mem_singleton.1 hd]
  | cons f rest =>
    have hnot : ¬ s.isAmbiguous = true := by rw [hambiguous]; exact Bool.false_ne_true
    have hparts : TypeDeclaration.OneType (e :: f :: rest) := by
      by_contra hparts
      exact hnot (hone.2 ⟨by simp, hparts⟩)
    exact hparts.2 d hd e (.head _)

/-- The places of a symbol are those of a class exactly when it is an unambiguous class. -/
theorem filter_isClassOf {s : Symbol} (hs : (build units references).table.get? s.key = some s) :
    (build units references).located.filter ((build units references).isClassOf s.key) =
      if s.kind = .class ∧ s.isAmbiguous = false then (build units references).placesOf s
      else [] := by
  have hclass : ∀ p ∈ (build units references).located,
      (build units references).isClassOf s.key p = true ↔
        p.2.key? = some s.key ∧ s.kind = .class ∧ s.isAmbiguous = false := by
    intro p hp
    have hdeclared := mem_declarations_of_mem_located hp
    rw [isClassOf_iff]
    constructor
    · rintro ⟨hkind, s', hs', hkey⟩
      obtain ⟨hkey', hget, hambiguous⟩ := declaredSymbol?_eq_some_iff.1 hs'
      rw [hkey] at hkey' hget
      have hsame : s' = s := Option.some.inj (hget.symm.trans hs)
      subst hsame
      have hmem := (mem_declarations_of_get? hs).2 ⟨hdeclared, hkey'⟩
      exact ⟨hkey', (kind_of_mem_declarations hs hambiguous hmem).symm.trans hkind, hambiguous⟩
    · rintro ⟨hkey, hkind, hambiguous⟩
      have hmem := (mem_declarations_of_get? hs).2 ⟨hdeclared, hkey⟩
      exact ⟨(kind_of_mem_declarations hs hambiguous hmem).trans hkind, s,
        declaredSymbol?_eq_some_iff.2 ⟨hkey, hs, hambiguous⟩, rfl⟩
  split
  · next h =>
    refine List.filter_congr fun p hp => ?_
    rw [Bool.eq_iff_iff, hclass p hp, beq_iff_eq]
    exact ⟨fun hkey => hkey.1, fun hkey => ⟨hkey, h⟩⟩
  · next h =>
    refine List.filter_eq_nil_iff.2 fun p hp hself => ?_
    exact h ((hclass p hp).1 hself).2

/-- An unambiguous class has one candidate, at its first declaration; no other symbol has any. -/
theorem map_place_candidatesOf {s : Symbol}
    (hs : (build units references).table.get? s.key = some s) :
    ((build units references).candidatesOf s).map Candidate.place =
      if s.kind = .class ∧ s.isAmbiguous = false then
        ((build units references).placesOf s).take 1
      else [] := by
  have hfirst : ((build units references).candidatesOf s).map Candidate.place =
      ((build units references).located.filter
        ((build units references).isClassOf s.key)).take 1 := by
    have h := candidatesFrom_of_key (build units references) s.key []
      (build units references).located
    rwa [if_neg List.not_mem_nil] at h
  rw [hfirst, filter_isClassOf hs]
  split <;> rfl

theorem declaredSymbol?_isNone {d : TypeDeclaration}
    (hd : d ∈ units.flatMap SourceUnit.declarations) :
    ((build units references).declaredSymbol? d).isNone =
      d.key?.all fun key => ((build units references).table.get? key).any Symbol.isAmbiguous := by
  cases hname : d.qualifiedName? with
  | none => simp [declaredSymbol?, TypeDeclaration.key?, hname]
  | some name =>
    obtain ⟨s, hs, _, _, hdeclared⟩ := exists_symbol_of_mem references hd hname
    have hkey : d.key? = some ⟨name, d.arity⟩ := TypeDeclaration.key?_eq_some_iff.2 ⟨hname, rfl⟩
    rw [hdeclared, hkey, Option.all_some, hs, Option.any_some]
    cases s.isAmbiguous <;> rfl

/-- The candidates without a symbol are the unnamed and the ambiguous classes. -/
theorem candidates_without_symbol (units : List SourceUnit) (references : List Reference) :
    ((build units references).candidates.filter (·.symbol.isNone)).map Candidate.place =
      (build units references).located.filter (build units references).isLoose := by
  refine (candidatesFrom_loose _ [] _).trans (List.filter_congr fun p hp => ?_)
  rw [isLoose, declaredSymbol?_isNone (mem_declarations_of_mem_located hp)]

end

/-! ## The handlers among the candidates -/

/-- The classifier takes the class for a handler. -/
def isHandler (env : Environment) (contracts : ContractSet) (c : Candidate) : Bool :=
  match (env.classify contracts c).result with
  | .ok (some _) => true
  | _ => false

/-- What is registered for a candidate: its symbol, and an entry with its names, the handler that
it was found to be, and its file. -/
def RegisteredAs (env : Environment) (contracts : ContractSet) (c : Candidate)
    (registered : Symbol × Entry) : Prop :=
  c.symbol = some registered.1 ∧ ∃ handler,
    (env.classify contracts c).result = .ok (some handler) ∧
      registered.2 = ⟨c.name, registered.1.key.name, handler, c.unit.path⟩

theorem isHandler_iff {c : Candidate} :
    env.isHandler contracts c = true ↔
      ∃ handler, (env.classify contracts c).result = .ok (some handler) := by
  unfold isHandler
  split
  · next handler h => exact ⟨fun _ => ⟨handler, h⟩, fun _ => rfl⟩
  · next hnot => exact iff_of_false Bool.false_ne_true fun ⟨handler, h⟩ => hnot handler h

theorem registrationOf?_isSome {c : Candidate} :
    (env.registrationOf? contracts c).isSome = env.isHandler contracts c := by
  rw [Bool.eq_iff_iff, Option.isSome_iff_exists, isHandler_iff]
  constructor
  · rintro ⟨registered, h⟩
    obtain ⟨_, handler, hhandler, _⟩ := registrationOf?_eq_some_iff.1 h
    exact ⟨handler, hhandler⟩
  · rintro ⟨handler, hhandler⟩
    cases hs : c.symbol with
    | none => rw [classify_of_no_symbol hs] at hhandler; cases hhandler
    | some s =>
      exact ⟨(s, ⟨c.name, s.key.name, handler, c.unit.path⟩),
        registrationOf?_eq_some_iff.2 ⟨hs, handler, hhandler, rfl⟩⟩

/-- What is registered for some candidates is registered for the handlers among them, one by one. -/
theorem filterMap_registrationOf?_eq_iff {cs : List Candidate} {found : List (Symbol × Entry)} :
    cs.filterMap (env.registrationOf? contracts) = found ↔
      List.Forall₂ (env.RegisteredAs contracts) (cs.filter (env.isHandler contracts)) found := by
  induction cs generalizing found with
  | nil => exact ⟨fun h => h ▸ .nil, fun h => by cases h; rfl⟩
  | cons c rest ih =>
    cases hr : env.registrationOf? contracts c with
    | none =>
      have hnot : ¬ env.isHandler contracts c = true := by
        rw [← registrationOf?_isSome, hr]
        exact Bool.false_ne_true
      rw [List.filterMap_cons_none hr, List.filter_cons_of_neg hnot]
      exact ih
    | some registered =>
      have hhandler : env.isHandler contracts c = true := by
        rw [← registrationOf?_isSome, hr]
        rfl
      rw [List.filterMap_cons_some hr, List.filter_cons_of_pos hhandler]
      constructor
      · rintro rfl
        exact .cons (registrationOf?_eq_some_iff.1 hr) (ih.1 rfl)
      · intro h
        cases h with
        | cons hfirst hrest =>
          rw [registrationOf?_eq_some_iff.2 hfirst] at hr
          rw [Option.some.inj hr, ih.2 hrest]

/-- The handlers are found when every candidate can be classified, and then they are those of the
candidates that are handlers. -/
theorem handlers_eq_ok_iff {found : List (Symbol × Entry)} :
    (env.handlers contracts).result = .ok found ↔
      (∀ c ∈ env.candidates, (env.classify contracts c).Returns) ∧
        List.Forall₂ (env.RegisteredAs contracts)
          (env.candidates.filter (env.isHandler contracts)) found := by
  rw [← filterMap_registrationOf?_eq_iff]
  constructor
  · intro h
    exact ⟨classify_returns_of_handlersAmong ⟨found, h⟩, (eq_of_handlers_eq_ok h).symm⟩
  · rintro ⟨hreturns, rfl⟩
    exact handlers_result hreturns

/-- The candidates of an environment of some units lose no class and repeat none. -/
structure CandidatesExact (units : List SourceUnit) (env : Environment) : Prop where
  /-- They are declarations of the units, in the order of the units and, in each unit, as the nodes
  of the declarations stand in its tree. -/
  order : (env.candidates.map Candidate.place).Sublist
      (units.flatMap fun u => u.declarations.map (u, ·)) ∧
    ∀ u ∈ units, ∃ nodes : List Node, nodes.Sublist (Node.nodesAmong u.root.children) ∧
      List.Forall₂ (Declares u.surroundings u.root.children) nodes u.declarations
  /-- Each is a class, and its symbol is the unambiguous one in the table, if it has one. -/
  classes : ∀ c ∈ env.candidates, c.declaration.kind = .class ∧
    ∀ s, c.symbol = some s →
      c.declaration.key? = some s.key ∧ env.table.get? s.key = some s ∧ s.isAmbiguous = false
  /-- Each unambiguous class has one, at its first declaration, and no other symbol has any. -/
  once : ∀ s, env.table.get? s.key = some s →
    (env.placesOf s).map Prod.snd = s.declarations ∧
      (env.candidatesOf s).map Candidate.place =
        if s.kind = .class ∧ s.isAmbiguous = false then (env.placesOf s).take 1 else []
  /-- Those without a symbol are the unnamed and the ambiguous class declarations, each for
  itself. -/
  loose : (env.candidates.filter (·.symbol.isNone)).map Candidate.place =
    env.located.filter env.isLoose

theorem build_candidatesExact (units : List SourceUnit) (references : List Reference) :
    CandidatesExact units (build units references) where
  order := by
    rw [← build_located units references]
    exact ⟨candidatesFrom_sublist _ [] _, fun u _ => u.declarations_in_order⟩
  classes c hc := ⟨(candidate_spec hc).2.1, fun _ hs => candidate_symbol hc hs⟩
  once s hs := ⟨build_placesOf_snd hs, map_place_candidatesOf hs⟩
  loose := candidates_without_symbol units references

/-- No class is lost and none is repeated, neither among the candidates nor among the handlers:
those are the candidates that are classified as one, in their order, each with its symbol and
under a name of its own. -/
theorem candidates_and_handlers_exact (units : List SourceUnit) (references : List Reference)
    (contracts : ContractSet) :
    let env := build units references
    CandidatesExact units env ∧
    ∀ found, (env.handlers contracts).result = .ok found ↔
      (∀ c ∈ env.candidates, (env.classify contracts c).Returns) ∧
      List.Forall₂ (env.RegisteredAs contracts)
        (env.candidates.filter (env.isHandler contracts)) found ∧
      (found.map fun registered => registered.2.handlerType).Nodup := by
  intro env
  refine ⟨build_candidatesExact units references, fun found => ?_⟩
  rw [handlers_eq_ok_iff]
  constructor
  · rintro ⟨hreturns, hfound⟩
    refine ⟨hreturns, hfound, ?_⟩
    rw [← filterMap_registrationOf?_eq_iff.2 hfound]
    exact nodup_handlerType env contracts
  · rintro ⟨hreturns, hfound, _⟩
    exact ⟨hreturns, hfound⟩

end Environment

/-! ## Parts, namesakes and a class without a name -/

namespace Sample

/-- `partial class Ping : IQueryHandler<Ping, string>`, a `Ping<T>` beside it and a `Twice` in one
file; the other part of `Ping`, a second `Twice` and a class without a name in another. -/
def mixed : List SourceUnit :=
  [file "a.cs"
      [typeNode .class ["partial"] "Ping" []
          [generic "IQueryHandler"
            [word .identifier "Ping" none, word .predefinedType "string" none]],
        typeNode .class [] "Ping" ["T"]
          [generic "IQueryHandler"
            [word .identifier "T" none, word .predefinedType "string" none]],
        typeNode .class [] "Twice" [] []],
    file "b.cs"
      [typeNode .class ["partial"] "Ping" [] [], typeNode .class [] "Twice" [] [],
        typeNode .class [] "" [] []]]

/-- The environment of `mixed` with the usual contracts. -/
def mixedTypes : Environment :=
  .build mixed (Reference.contracts ["IQueryHandler"] ["ICommandHandler"])

def mixedContracts : ContractSet :=
  .bind mixedTypes ["IQueryHandler"] ["ICommandHandler"]

end Sample

namespace Environment

open Sample

/-- Of six class declarations five are candidates, and one of these is a handler. -/
theorem candidates_and_handlers_exact_mixed :
    mixedTypes.candidates.map (fun c => (c.unit.path, c.name, c.symbol.isSome)) =
        [("a.cs", "Ping", true), ("a.cs", "Ping", true), ("a.cs", "Twice", false),
          ("b.cs", "Twice", false), ("b.cs", "", false)] ∧
      ∃ found, (mixedTypes.handlers mixedContracts).result = .ok found ∧
        found.map registration = [("Ping", "Ping", .query "Ping" "string")] ∧
        (found.map fun registered => registered.2.handlerType).Nodup ∧
        List.Forall₂ (mixedTypes.RegisteredAs mixedContracts)
          (mixedTypes.candidates.filter (mixedTypes.isHandler mixedContracts)) found := by
  refine ⟨by decide +kernel, ?_⟩
  have hshown : (mixedTypes.handlers mixedContracts).result.toOption.map (·.map registration) =
      some [("Ping", "Ping", .query "Ping" "string")] := by decide +kernel
  cases hfound : (mixedTypes.handlers mixedContracts).result with
  | error e => rw [hfound] at hshown; cases hshown
  | ok found =>
    rw [hfound] at hshown
    obtain ⟨_, hregistered, hnodup⟩ := ((candidates_and_handlers_exact mixed
      (Reference.contracts ["IQueryHandler"] ["ICommandHandler"]) mixedContracts).2 found).1 hfound
    exact ⟨found, rfl, Option.some.inj hshown, hnodup, hregistered⟩

end Environment

end Registrar
