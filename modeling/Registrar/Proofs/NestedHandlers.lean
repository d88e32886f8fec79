/-
Handlers inside their requests. What is registered for a handler is its request
with its simple name behind a dot, and the handler's own name is that of the type
around it with the same behind it (`qualifiedName?_nested`), as long as both are
in one namespace. The walk keeps that so (`OneNamespace`): where no namespace lies
inside a type, the types around a declaration have its namespace.

So a handler is registered as itself exactly when its request is displayed as the
type around it, or, without one, as its namespace (`handlers_registered_inside`).
-/
import Registrar.Proofs.Identity
import Registrar.Proofs.ParentPositions
import Registrar.Proofs.Registrations
import Registrar.Proofs.Scopes
import Registrar.Proofs.Shadowing

namespace Registrar

open Registrar.Tree

/-! ## The namespace of the types around -/

/-- The types around have the namespace of the surroundings, and where there are any, no namespace
is among the members. -/
structure Surroundings.OneNamespace (here : Surroundings) (members : List Node) : Prop where
  same : ∀ around ∈ here.containers, around.ns = here.ns
  closed : here.containers = [] ∨ ∀ n ∈ Node.nodesAmong members, n.isNamespace = false

namespace Surroundings.OneNamespace

variable {here inner there : Surroundings} {m n : Node} {members rest : List Node}

/-- In front of a namespace there is no type around. -/
theorem containers_eq_nil (h : here.OneNamespace (m :: rest)) (hm : m.isNamespace = true) :
    here.containers = [] := by
  refine h.closed.resolve_right fun hnone => ?_
  rw [hnone m (Node.mem_nodesAmong_of_mem (.head _))] at hm
  cases hm

theorem of_containers_eq_nil (h : here.containers = []) (members : List Node) :
    here.OneNamespace members where
  same := fun _ haround => absurd (h ▸ haround) List.not_mem_nil
  closed := .inl h

theorem enter (h : here.containers = []) (ns : String) (nodes members : List Node) :
    (here.enter ns nodes).OneNamespace members :=
  have hnil : (here.enter ns nodes).containers = [] := h
  of_containers_eq_nil hnil members

theorem after (h : here.OneNamespace (m :: rest)) : (here.after m).OneNamespace rest := by
  have hrest : here.containers = [] ∨ ∀ n ∈ Node.nodesAmong rest, n.isNamespace = false :=
    h.closed.imp_right fun hnone n hn => hnone n (Node.nodesAmong_tail_subset m rest hn)
  unfold Surroundings.after
  split
  · exact enter (h.containers_eq_nil rfl) _ _ rest
  · exact ⟨h.same, hrest⟩

theorem entered (h : here.OneNamespace (m :: rest)) (houtside : NamespacesOutsideTypes (m :: rest))
    (henters : Enters here m inner members) : inner.OneNamespace members := by
  have hm : m ∈ Node.nodesAmong (m :: rest) := Node.mem_nodesAmong_of_mem (.head _)
  have hbelow := henters.nodesAmong_subset
  cases henters with
  | block hkind _ | file hkind =>
    have hnamespace : m.isNamespace = true := by simp [Node.isNamespace, hkind]
    exact enter (h.containers_eq_nil hnamespace) _ _ _
  | type hkind _ =>
    refine ⟨List.forall_mem_cons.2 ⟨rfl, h.same⟩, .inr fun n hn => ?_⟩
    exact houtside m hm (by simp [Node.declaresType, hkind]) n (hbelow hn)
  | plain _ _ _ _ _ =>
    refine ⟨h.same, h.closed.imp_right fun hnone n hn => ?_⟩
    exact hnone n (Node.nodesAmong_subset_of_mem (.head _) (hbelow hn))

end Surroundings.OneNamespace

/-- Wherever the walk comes to, the types around have the namespace there. -/
theorem Reaches.containers_ns {here there : Surroundings} {members : List Node} {n : Node}
    (h : Reaches here members there n) (houtside : NamespacesOutsideTypes members)
    (hone : here.OneNamespace members) : ∀ around ∈ there.containers, around.ns = there.ns := by
  induction h with
  | member _ => exact hone.same
  | @sibling _ _ m _ rest _ ih =>
    exact ih (houtside.mono (Node.nodesAmong_tail_subset m rest)) hone.after
  | entered _ henters _ ih =>
    refine ih (houtside.mono ?_) (hone.entered houtside henters)
    exact List.Subset.trans henters.nodesAmong_subset (Node.nodesAmong_subset_of_mem (.head _))

namespace SourceUnit

variable {u : SourceUnit} {d p : TypeDeclaration}

/-- Where no namespace lies inside a type, the types around a declaration have its namespace. -/
theorem containers_ns (houtside : NamespacesOutsideTypes u.root.children)
    (hd : d ∈ u.declarations) : ∀ around ∈ d.containers, around.ns = d.ns := by
  obtain ⟨there, n, hreaches, hown⟩ := mem_memberDeclarations.1 hd
  obtain ⟨_, hns, hcontainers, _⟩ := ownDeclaration?_surroundings hown
  rw [hns, hcontainers]
  exact hreaches.containers_ns houtside (.of_containers_eq_nil rfl _)

/-- In the file, `p` is the type directly around `d`. -/
def DirectlyAround (u : SourceUnit) (p d : TypeDeclaration) : Prop :=
  ∃ i j : Nat, u.declarations[i]? = some d ∧ u.declarations[j]? = some p ∧
    (parentPositions u.declarations)[i]? = some (some j)

theorem exists_listed (u : SourceUnit) :
    ∃ sites, Site.Listed sites ∧ sites.map Site.declaration = u.declarations := by
  obtain ⟨sites, hfound⟩ := u.exists_sites
  exact ⟨sites, ⟨hfound.ordered, hfound.nested⟩, hfound.declared⟩

theorem DirectlyAround.containers_eq (h : u.DirectlyAround p d) :
    d.containers = p.asContainer :: p.containers := by
  obtain ⟨sites, hlisted, hdeclared⟩ := u.exists_listed
  obtain ⟨i, j, hi, hj, hposition⟩ := h
  rw [← hdeclared] at hi hj hposition
  rw [List.getElem?_map, Option.map_eq_some_iff] at hi hj
  obtain ⟨x, hx, rfl⟩ := hi
  obtain ⟨y, hy, rfl⟩ := hj
  obtain ⟨parent, hparent, _, _, hcontainers⟩ := Site.exists_parentPosition hlisted hx
  obtain rfl : parent = some j := Option.some.inj (hparent.symm.trans hposition)
  exact hcontainers j y rfl hy

/-- A declaration has no types around it, or one of them is directly around it. -/
theorem exists_directlyAround (hd : d ∈ u.declarations) :
    d.containers = [] ∨ ∃ p, u.DirectlyAround p d := by
  obtain ⟨sites, hlisted, hdeclared⟩ := u.exists_listed
  rw [← hdeclared] at hd
  obtain ⟨x, hx, rfl⟩ := List.mem_map.1 hd
  cases hlisted.nested x hx with
  | outermost hcontainers _ => exact .inl hcontainers
  | @inside y hy _ hnearest =>
    obtain ⟨i, hi⟩ := List.getElem?_of_mem hx
    obtain ⟨j, hj⟩ := List.getElem?_of_mem hy
    obtain ⟨parent, hposition, _, hparent, _⟩ := Site.exists_parentPosition hlisted hi
    obtain rfl : parent = some j := (hparent j).2 ⟨y, hj, hnearest⟩
    refine .inr ⟨y.declaration, i, j, ?_, ?_, ?_⟩
    · rw [← hdeclared, List.getElem?_map, hi, Option.map_some]
    · rw [← hdeclared, List.getElem?_map, hj, Option.map_some]
    · rw [← hdeclared, hposition]

end SourceUnit

/-! ## Names of nested types -/

namespace Text

theorem lastPart_of_not_mem {name : List Char} (h : '.' ∉ name) : lastPart name = name := by
  rw [lastPart, ← List.append_nil name.reverse,
    List.takeWhile_append_of_pos (forall_ne_dot_of_not_mem h)]
  simp

theorem simpleName_append_dot (front : String) {name : String} (h : '.' ∉ name.toList) :
    simpleName (front ++ "." ++ name) = name := by
  have hchars : (front ++ "." ++ name).toList = front.toList ++ '.' :: name.toList := by simp
  rw [simpleName, hchars, lastPart_append h, String.ofList_toList]

theorem simpleName_qualify (ns : String) {name : String} (h : '.' ∉ name.toList) :
    simpleName (qualify ns name) = name := by
  unfold qualify
  split
  · rw [simpleName, lastPart_of_not_mem h, String.ofList_toList]
  · exact simpleName_append_dot ns h

end Text

namespace TypeDeclaration

variable {d p : TypeDeclaration} {full name : String}

theorem mapM_id_cons_eq_some_iff {o : Option String} {rest : List (Option String)}
    {names : List String} : (o :: rest).mapM id = some names ↔
      ∃ own around, o = some own ∧ rest.mapM id = some around ∧ names = own :: around := by
  rw [List.mapM_cons]
  cases o with
  | none => simp
  | some own => cases rest.mapM id <;> simp [eq_comm]

theorem qualifiedName?_eq_some_iff {name : Option String} {containers : List Enclosing}
    {ns : String} : Registrar.qualifiedName? name containers ns = some full ↔
      ∃ own around, name = some own ∧ (containers.map Enclosing.name).mapM id = some around ∧
        full = Text.dottedPath ns (own :: around) := by
  rw [Registrar.qualifiedName?, Option.map_eq_some_iff]
  constructor
  · rintro ⟨names, hnames, rfl⟩
    obtain ⟨own, around, hown, haround, rfl⟩ := mapM_id_cons_eq_some_iff.1 hnames
    exact ⟨own, around, hown, haround, rfl⟩
  · rintro ⟨own, around, hown, haround, rfl⟩
    exact ⟨_, mapM_id_cons_eq_some_iff.2 ⟨own, around, hown, haround, rfl⟩, rfl⟩

/-- A type that is not nested has the name of its namespace with its own behind it. -/
theorem qualifiedName?_outermost (hcontainers : d.containers = [])
    (h : d.qualifiedName? = some full) :
    ∃ name, d.name = some name ∧ full = Text.qualify d.ns name := by
  rw [qualifiedName?, hcontainers] at h
  obtain ⟨name, around, hname, haround, rfl⟩ := qualifiedName?_eq_some_iff.1 h
  obtain rfl : [] = around := Option.some.inj haround
  exact ⟨name, hname, Text.dottedPath_singleton d.ns name⟩

/-- A nested type has the name of the type around it with its own behind it. -/
theorem qualifiedName?_nested (hcontainers : d.containers = p.asContainer :: p.containers)
    (hns : p.ns = d.ns) (h : d.qualifiedName? = some full) :
    ∃ around name, p.qualifiedName? = some around ∧ d.name = some name ∧
      full = around ++ "." ++ name := by
  rw [qualifiedName?, hcontainers] at h
  obtain ⟨name, names, hname, hnames, rfl⟩ := qualifiedName?_eq_some_iff.1 h
  obtain ⟨own, outer, hown, houter, rfl⟩ := mapM_id_cons_eq_some_iff.1 hnames
  refine ⟨Text.dottedPath d.ns (own :: outer), name, ?_, hname,
    Text.dottedPath_cons d.ns name (List.cons_ne_nil own outer)⟩
  rw [qualifiedName?, hns]
  exact qualifiedName?_eq_some_iff.2 ⟨own, outer, hown, houter, rfl⟩

end TypeDeclaration

/-- The name of the type directly around, with the own one behind it. -/
theorem SourceUnit.DirectlyAround.exists_name {u : SourceUnit} {d p : TypeDeclaration}
    {full : String} (h : u.DirectlyAround p d) (houtside : NamespacesOutsideTypes u.root.children)
    (hd : d ∈ u.declarations) (hfull : d.qualifiedName? = some full) :
    ∃ around name, p.qualifiedName? = some around ∧ d.name = some name ∧
      full = around ++ "." ++ name :=
  have hns : p.ns = d.ns :=
    SourceUnit.containers_ns houtside hd p.asContainer (h.containers_eq ▸ .head _)
  TypeDeclaration.qualifiedName?_nested h.containers_eq hns hfull

/-! ## What a handler is registered for -/

namespace Environment

variable {units : List SourceUnit} {references : List Reference} {env : Environment}
  {query command : List String} {c : Candidate} {registered : Symbol × Entry}

/-- The first type argument of the contract that a candidate comes to. -/
def BindsFirst (env : Environment) (query command : List String) (c : Candidate) (request : Ty) :
    Prop :=
  ∃ last rest, env.ComesTo query command c last ∧
    (ContractSet.bind env query command).isContract last.symbol = true ∧
    last.arguments = request :: rest

/-- A candidate comes to one contract at most. -/
theorem ComesTo.unique {last last' : NamedType} (h : env.ComesTo query command c last)
    (h' : env.ComesTo query command c last')
    (hcontract : (ContractSet.bind env query command).isContract last.symbol = true)
    (hcontract' : (ContractSet.bind env query command).isContract last'.symbol = true) :
    last = last' := by
  have hbases : ∀ {last}, env.ComesTo query command c last →
      (ContractSet.bind env query command).isContract last.symbol = true →
      ∃ s passed, c.symbol = some s ∧
        (env.basesAbove (ContractSet.bind env query command).isContract
          (env.endsSearch (ContractSet.bind env query command)) maxChain [s.key]
          (declaredType s)).result = .ok (passed ++ [last]) := by
    rintro last ⟨s, passed, hs, _, _, hwalks, hup⟩ hcontract
    have hstop : env.endsSearch (ContractSet.bind env query command) last = true := by
      rw [endsSearch, hcontract, Bool.true_or]
    exact ⟨s, passed, hs, (walks_iff_searchTrail.1 hwalks).basesAbove_eq hup hstop⟩
  obtain ⟨s, passed, hs, hall⟩ := hbases h hcontract
  obtain ⟨s', passed', hs', hall'⟩ := hbases h' hcontract'
  cases hs.symm.trans hs'
  have hlast := congrArg List.getLast? (Except.ok.inj (hall.symm.trans hall'))
  rw [List.getLast?_concat, List.getLast?_concat] at hlast
  exact Option.some.inj hlast

theorem exists_of_ofArguments? {contract : Contract} {arguments : List String} {handler : Handler}
    (h : Handler.ofArguments? contract arguments = some handler) :
    ∃ rest, arguments = handler.request :: rest := by
  cases handler with
  | query q r => exact ⟨[r], (ofArguments?_eq_query_iff.1 h).2⟩
  | command q => exact ⟨[], (ofArguments?_eq_command_iff.1 h).2⟩

/-- A registration shows the one type that its contract has as the first argument. -/
theorem RegisteredAs.exists_request (hc : c ∈ env.candidates)
    (h : env.RegisteredAs (ContractSet.bind env query command) c registered) :
    ∃ request, (∀ t, env.BindsFirst query command c t ↔ t = request) ∧
      registered.2.handler.request = request.display := by
  obtain ⟨_, handler, hhandler, hentry⟩ := h
  obtain ⟨last, contract, hcomes, hcontract, _, hfit⟩ :=
    (classify_eq_some_iff_comesTo hc).1 hhandler
  have hisContract : (ContractSet.bind env query command).isContract last.symbol = true := by
    rw [ContractSet.isContract, hcontract]
    rfl
  obtain ⟨shown, hshown⟩ := exists_of_ofArguments? hfit
  obtain ⟨request, rest, harguments, hrequest, _⟩ := List.map_eq_cons_iff.1 hshown
  refine ⟨request, fun t => ?_, by rw [hentry, hrequest]⟩
  constructor
  · rintro ⟨last', rest', hcomes', hcontract', harguments'⟩
    cases hcomes.unique hcomes' hisContract hcontract'
    exact (List.cons.inj (harguments'.symm.trans harguments)).1
  · rintro rfl
    exact ⟨last, rest, hcomes, hisContract, harguments⟩

/-- A class whose own base is a contract binds the arguments of that base. -/
theorem bindsFirst_of_baseType (hc : c ∈ env.candidates) {s : Symbol} (hs : c.symbol = some s)
    (hplain : isGeneric c.declaration = false) {last : NamedType}
    (hbase : (env.baseType (ContractSet.bind env query command).isContract
      (declaredType s)).result = .ok (some last))
    (hcontract : (ContractSet.bind env query command).isContract last.symbol = true)
    {request : Ty} {rest : List Ty} (harguments : last.arguments = request :: rest) :
    env.BindsFirst query command c request :=
  have hwalks : env.Walks query command s [] :=
    walks_iff_searchTrail.2 (.nil (List.nodup_singleton s.key))
  ⟨last, rest, ⟨s, [], hs, (candidate_symbol hc hs).2.2, isGeneric_eq_false_iff.1 hplain, hwalks,
    hbase⟩, hcontract, harguments⟩

/-- No name that a type is declared under holds a dot. -/
def NamesWithoutDots (units : List SourceUnit) : Prop :=
  ∀ u ∈ units, ∀ d ∈ u.declarations, ∀ name ∈ d.name, '.' ∉ name.toList

/-- The declaration `d` in the file `u`, as a part of the class that the entry registers for the
type `request`. -/
structure RegisteredInside (u : SourceUnit) (d : TypeDeclaration) (request : Ty) (e : Entry) :
    Prop where
  handlerType : d.qualifiedName? = some e.handlerType
  /-- A type directly around it whose own symbol is the request. -/
  own : ∀ p key, u.DirectlyAround p d → p.key? = some key → request = .named key [] →
    e.registeredType = e.handlerType
  nested : ∀ p, u.DirectlyAround p d →
    (e.registeredType = e.handlerType ↔ p.qualifiedName? = some request.display)
  outermost : d.containers = [] →
    (e.registeredType = e.handlerType ↔ d.ns ≠ "" ∧ request.display = d.ns)
  covered : d.containers = [] ∨ ∃ p, u.DirectlyAround p d

section

variable {u : SourceUnit} {d : TypeDeclaration} {full : String}

/-- The simple name of a type is the last part of its qualified name. -/
theorem name_eq_simpleName (houtside : NamespacesOutsideTypes u.root.children)
    (hd : d ∈ u.declarations) (hdots : ∀ name ∈ d.name, '.' ∉ name.toList)
    (h : d.qualifiedName? = some full) : d.name = some (Text.simpleName full) := by
  rcases u.exists_directlyAround hd with hnil | ⟨p, hp⟩
  · obtain ⟨name, hname, rfl⟩ := TypeDeclaration.qualifiedName?_outermost hnil h
    rw [Text.simpleName_qualify d.ns (hdots name hname), hname]
  · obtain ⟨around, name, _, hname, rfl⟩ := hp.exists_name houtside hd h
    rw [Text.simpleName_append_dot around (hdots name hname), hname]

theorem registeredInside {request : Ty} {e : Entry}
    (houtside : NamespacesOutsideTypes u.root.children) (hd : d ∈ u.declarations)
    (hdots : ∀ name ∈ d.name, '.' ∉ name.toList) (hfull : d.qualifiedName? = some e.handlerType)
    (hname : d.name = some e.handlerName) (hrequest : e.handler.request = request.display) :
    RegisteredInside u d request e := by
  have hnested : ∀ p, u.DirectlyAround p d →
      (e.registeredType = e.handlerType ↔ p.qualifiedName? = some request.display) := by
    intro p hp
    obtain ⟨around, name, haround, hown, hfull⟩ := hp.exists_name houtside hd hfull
    obtain rfl : name = e.handlerName := Option.some.inj (hown.symm.trans hname)
    rw [Entry.registeredType, hrequest, hfull, haround, Option.some.injEq, String.append_left_inj,
      String.append_left_inj]
    exact eq_comm
  refine ⟨hfull, ?_, hnested, fun hnil => ?_, u.exists_directlyAround hd⟩
  · rintro p key hp hkey rfl
    rw [hnested p hp, (TypeDeclaration.key?_eq_some_iff.1 hkey).1, Ty.display, Ty.displayAll]
    simp [Ty.angled]
  · obtain ⟨name, hown, hfull⟩ := TypeDeclaration.qualifiedName?_outermost hnil hfull
    obtain rfl : name = e.handlerName := Option.some.inj (hown.symm.trans hname)
    rw [Entry.registeredType, hrequest, hfull, Text.qualify]
    split
    · next hns =>
      refine iff_of_false (fun h => ?_) fun h => h.1 (String.isEmpty_iff.1 hns)
      exact Text.ne_append_dot (hdots _ hname) h.symm
    · next hns =>
      rw [String.append_left_inj, String.append_left_inj]
      exact (and_iff_right fun hempty => hns (String.isEmpty_iff.2 hempty)).symm

end

theorem mem_declarations_of_candidate (hc : c ∈ (build units references).candidates) :
    c.unit ∈ units ∧ c.declaration ∈ c.unit.declarations := by
  have hplace := (candidate_spec hc).1
  rw [build_located, List.mem_flatMap] at hplace
  obtain ⟨u, hu, hmem⟩ := hplace
  obtain ⟨d, hd, heq⟩ := List.mem_map.1 hmem
  cases heq
  exact ⟨hu, hd⟩

/-- Every handler is registered for one type, the first argument of its contract, and each part of
its class tells when it is registered as itself: a nested one exactly when that type is displayed as
the type directly around it, as the type's own symbol without arguments is, and one that is not
nested exactly when it is displayed as its namespace. -/
theorem handlers_registered_inside (hdots : NamesWithoutDots units)
    (houtside : ∀ u ∈ units, NamespacesOutsideTypes u.root.children) {found : List (Symbol × Entry)}
    (hfound : ((build units references).handlers
      (ContractSet.bind (build units references) query command)).result = .ok found) :
    let env := build units references
    ∀ registered ∈ found, ∃ c ∈ env.candidates,
      env.RegisteredAs (ContractSet.bind env query command) c registered ∧
      ∃ request, (∀ t, env.BindsFirst query command c t ↔ t = request) ∧
        ∀ u ∈ units, ∀ d ∈ u.declarations, d.key? = some registered.1.key →
          RegisteredInside u d request registered.2 := by
  intro env registered hregistered
  rw [eq_of_handlers_eq_ok hfound] at hregistered
  obtain ⟨c, hc, hsome⟩ := List.mem_filterMap.1 hregistered
  have has : env.RegisteredAs (ContractSet.bind env query command) c registered :=
    registrationOf?_eq_some_iff.1 hsome
  obtain ⟨request, hbinds, hrequest⟩ := has.exists_request hc
  refine ⟨c, hc, has, request, hbinds, fun u hu d hd hkey => ?_⟩
  obtain ⟨hsymbol, handler, _, hentry⟩ := has
  have hfull : ∀ d : TypeDeclaration, d.key? = some registered.1.key →
      d.qualifiedName? = some registered.2.handlerType := by
    intro d hkey
    rw [hentry]
    exact (TypeDeclaration.key?_eq_some_iff.1 hkey).1
  -- All parts have the simple name of the part that the class was found at.
  have hsimple : registered.2.handlerName = Text.simpleName registered.2.handlerType := by
    obtain ⟨hcu, hcd⟩ := mem_declarations_of_candidate hc
    have hckey := (candidate_symbol hc hsymbol).1
    have hshown : registered.2.handlerName = c.declaration.name.getD "" := by
      rw [hentry, Candidate.name]
    have hcname := name_eq_simpleName (houtside _ hcu) hcd (hdots _ hcu _ hcd) (hfull _ hckey)
    rw [hshown, hcname, Option.getD_some]
  have hname := name_eq_simpleName (houtside u hu) hd (hdots u hu d hd) (hfull d hkey)
  exact registeredInside (houtside u hu) hd (hdots u hu d hd) (hfull d hkey)
    (hname.trans (congrArg some hsimple.symm)) hrequest

end Environment

/-! ## A handler in its query and one in a namespace -/

namespace Sample

open Registrar.Tree

/-- `class Ping` around `class PingHandler : IQueryHandler<Ping, string>` in the namespace `App`,
and `class Run : ICommandHandler<Save>` in the namespace `Save`, where no type is called `Save`. -/
def insideOut : SourceUnit :=
  file "inside.cs"
    [namespaceAround "App"
        [classAround "Ping" []
          [typeNode .class [] "PingHandler" []
            [generic "IQueryHandler"
              [word .identifier "Ping" none, word .predefinedType "string" none]]]],
      namespaceAround "Save"
        [typeNode .class [] "Run" []
          [generic "ICommandHandler" [word .identifier "Save" none]]]]

def insideOutTypes : Environment :=
  .build [insideOut] (Reference.contracts ["IQueryHandler"] ["ICommandHandler"])

def insideOutContracts : ContractSet :=
  .bind insideOutTypes ["IQueryHandler"] ["ICommandHandler"]

/-- The class `PingHandler`. -/
def pingHandler : Candidate :=
  insideOutTypes.candidates.get ⟨1, by decide +kernel⟩

/-- The symbol of the first argument of a base that is a contract, when that argument is a type
without arguments. -/
def firstSymbol? (contracts : ContractSet) (base : NamedType) : Option SymbolKey :=
  match base.arguments with
  | .named key [] :: _ => if contracts.isContract base.symbol then some key else none
  | _ => none

end Sample

namespace Environment

open Sample

/-- The query of `PingHandler` is the symbol of the class around it. -/
theorem bindsFirst_pingHandler :
    insideOutTypes.BindsFirst ["IQueryHandler"] ["ICommandHandler"] pingHandler
      (.named ⟨"App.Ping", 0⟩ []) := by
  have hc : pingHandler ∈ insideOutTypes.candidates := List.get_mem _ _
  have hfirst : (pingHandler.symbol.bind fun s =>
      (insideOutTypes.baseType insideOutContracts.isContract
        (declaredType s)).result.toOption.join.bind (firstSymbol? insideOutContracts)) =
        some ⟨"App.Ping", 0⟩ := by
    decide +kernel
  obtain ⟨s, hs, hfirst⟩ := Option.bind_eq_some_iff.1 hfirst
  obtain ⟨last, hlast, hfirst⟩ := Option.bind_eq_some_iff.1 hfirst
  have hbase : (insideOutTypes.baseType insideOutContracts.isContract
      (declaredType s)).result = .ok (some last) := by
    cases hresult : (insideOutTypes.baseType insideOutContracts.isContract
        (declaredType s)).result with
    | error e => rw [hresult] at hlast; cases hlast
    | ok base =>
      rw [hresult] at hlast
      exact congrArg Except.ok hlast
  unfold firstSymbol? at hfirst
  split at hfirst
  · next key rest harguments =>
    split at hfirst
    · next hcontract =>
      cases hfirst
      exact bindsFirst_of_baseType hc hs (by decide +kernel) hbase hcontract harguments
    · cases hfirst
  · cases hfirst

theorem handlers_registered_inside_ping :
    NamesWithoutDots [insideOut] ∧
      (∀ u ∈ [insideOut], NamespacesOutsideTypes u.root.children) ∧
      ∃ found, (insideOutTypes.handlers insideOutContracts).result = .ok found ∧
        found.map (fun r => (r.2.registeredType, r.2.handlerType)) =
          [("App.Ping.PingHandler", "App.Ping.PingHandler"), ("Save.Run", "Save.Run")] ∧
        (∃ p d, insideOut.DirectlyAround p d ∧ p.key? = some ⟨"App.Ping", 0⟩ ∧
          d.key? = some ⟨"App.Ping.PingHandler", 0⟩ ∧
          insideOutTypes.BindsFirst ["IQueryHandler"] ["ICommandHandler"] pingHandler
            (.named ⟨"App.Ping", 0⟩ [])) ∧
        ∀ registered ∈ found, ∃ c ∈ insideOutTypes.candidates,
          insideOutTypes.RegisteredAs insideOutContracts c registered ∧
          ∃ request, (∀ t, insideOutTypes.BindsFirst ["IQueryHandler"] ["ICommandHandler"] c t ↔
              t = request) ∧
            ∀ u ∈ [insideOut], ∀ d ∈ u.declarations, d.key? = some registered.1.key →
              RegisteredInside u d request registered.2 := by
  have hdots : NamesWithoutDots [insideOut] := by
    unfold NamesWithoutDots
    decide +kernel
  have houtside : ∀ u ∈ [insideOut], NamespacesOutsideTypes u.root.children := by
    unfold NamespacesOutsideTypes
    decide +kernel
  have hshown : (insideOutTypes.handlers insideOutContracts).result.toOption.map
      (·.map fun r => (r.2.registeredType, r.2.handlerType)) =
        some [("App.Ping.PingHandler", "App.Ping.PingHandler"), ("Save.Run", "Save.Run")] := by
    decide +kernel
  have haround : ∃ p d, insideOut.DirectlyAround p d ∧ p.key? = some ⟨"App.Ping", 0⟩ ∧
      d.key? = some ⟨"App.Ping.PingHandler", 0⟩ := by
    refine ⟨_, _, ⟨1, 0, rfl, rfl, ?_⟩, ?_, ?_⟩ <;> decide +kernel
  cases hfound : (insideOutTypes.handlers insideOutContracts).result with
  | error e => rw [hfound] at hshown; cases hshown
  | ok found =>
    rw [hfound] at hshown
    obtain ⟨p, d, haround, hp, hd⟩ := haround
    exact ⟨hdots, houtside, found, rfl, Option.some.inj hshown,
      ⟨p, d, haround, hp, hd, bindsFirst_pingHandler⟩,
      handlers_registered_inside hdots houtside hfound⟩

end Environment

end Registrar
