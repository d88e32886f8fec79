/-
What becomes of the type parameters that a base entry mentions. Where a
parameter in scope is written at a place that resolution visits, it occurs in
the resolved type (`mem_parameters_of_visits`), and a base is the resolved
entry with every parameter replaced by the argument bound to it (`Instance`).
So the types that a contract of a handler is bound to are closed because each
parameter on the way was bound to a closed type (`visited_parameters_survive`).

Two places are not visited: the type arguments of the segments before the
last one of a dotted name, and a type that is kept as text. What is written
there is lost (`unvisited_parameters_lost`).
-/
import Registrar.Proofs.Handlers
import Registrar.Proofs.Substitution

namespace Registrar

namespace Environment

open TypeExpr

variable {env : Environment} {d : TypeDeclaration}

/-! ## Resolution keeps what it visits -/

section

variable {expand : TypeExpr → Noted EndlessAlias Ty}

/-- Each resolved argument stands among the results. -/
theorem exists_mem_of_resolveArguments {written : List TypeExpr} {ts : List Ty}
    (h : (env.resolveArguments d expand written).result = .ok ts) {e : TypeExpr}
    (he : e ∈ written) : ∃ t ∈ ts, (env.resolveWith d expand e).result = .ok t := by
  induction written generalizing ts with
  | nil => cases he
  | cons first rest ih =>
    rw [resolveArguments, Noted.result_bind_eq_ok] at h
    obtain ⟨t, ht, h⟩ := h
    rw [Noted.result_bind_eq_ok] at h
    obtain ⟨others, hothers, h⟩ := h
    cases h
    rcases List.mem_cons.1 he with rfl | he
    · exact ⟨t, List.mem_cons_self, ht⟩
    · obtain ⟨other, hmem, hother⟩ := ih hothers he
      exact ⟨other, List.mem_cons_of_mem t hmem, hother⟩

theorem exists_mem_of_resolveElements {written : List (TypeExpr × Option String)}
    {elements : List (Ty × Option String)}
    (h : (env.resolveElements d expand written).result = .ok elements)
    {p : TypeExpr × Option String} (hp : p ∈ written) :
    ∃ element ∈ elements, (env.resolveWith d expand p.1).result = .ok element.1 := by
  induction written generalizing elements with
  | nil => cases hp
  | cons first rest ih =>
    rw [resolveElements, Noted.result_bind_eq_ok] at h
    obtain ⟨t, ht, h⟩ := h
    rw [Noted.result_bind_eq_ok] at h
    obtain ⟨others, hothers, h⟩ := h
    cases h
    rcases List.mem_cons.1 hp with rfl | hp
    · exact ⟨(t, _), List.mem_cons_self, ht⟩
    · obtain ⟨other, hmem, hother⟩ := ih hothers hp
      exact ⟨other, List.mem_cons_of_mem _ hmem, hother⟩

/-- A name keeps its arguments, whatever it is found to mean. -/
theorem parameters_tyOf (qualifier : Option String) (path : List Segment) (last : Segment)
    (arguments : List Ty) :
    (env.tyOf d qualifier path last arguments).parameters = Ty.parametersAmong arguments := by
  unfold tyOf
  split <;> rfl

theorem local?_of_arguments {qualifier : Option String} {path : List Segment} {identifier : String}
    {written : List TypeExpr} (h : written ≠ []) :
    env.local? d qualifier path (.segment identifier written) = none := by
  have hempty : written.isEmpty = false := by simpa using h
  simp [local?, Segment.arguments, hempty]

/-- A type parameter that is written at a visited place occurs in what the type means. -/
theorem mem_parameters_of_visits {e : TypeExpr} {name : String}
    (hvisits : Visits e (simple name [])) (hname : name ∈ d.parametersInScope) {t : Ty}
    (h : (env.resolveWith d expand e).result = .ok t) : name ∈ t.parameters := by
  generalize hp : simple name [] = p at hvisits
  -- By induction on the way down to the place: what is resolved there stands inside the result.
  induction hvisits generalizing t with
  | self =>
    subst hp
    have hlocal : env.local? d none [] (.segment name []) = some .parameter := by
      simp [local?, Segment.arguments, Segment.identifier, hname]
    rw [simple, resolveWith, resolveArguments, pure_bind, hlocal] at h
    cases h
    exact List.mem_singleton_self name
  | array _ ih =>
    rw [resolveWith, Noted.result_bind_eq_ok] at h
    obtain ⟨element, helement, h⟩ := h
    cases h
    rw [Ty.parameters]
    exact ih helement hp
  | nullable _ ih =>
    rw [resolveWith, Noted.result_bind_eq_ok] at h
    obtain ⟨inner, hinner, h⟩ := h
    cases h
    rw [Ty.parameters]
    exact ih hinner hp
  | tuple hmem _ ih =>
    rw [resolveWith, Noted.result_bind_eq_ok] at h
    obtain ⟨elements, helements, h⟩ := h
    cases h
    obtain ⟨element, helement, hresolve⟩ := exists_mem_of_resolveElements helements hmem
    rw [Ty.parameters, Ty.parametersOfElements_eq_flatMap]
    exact List.mem_flatMap.2 ⟨element, helement, ih hresolve hp⟩
  | @argument a _ _ _ last hmem _ ih =>
    obtain ⟨identifier, written⟩ := last
    have hmem : a ∈ written := hmem
    rw [resolveWith, Noted.result_bind_eq_ok] at h
    obtain ⟨ts, hts, h⟩ := h
    rw [local?_of_arguments (List.ne_nil_of_mem hmem)] at h
    dsimp only at h
    rw [nameMeaning_result] at h
    cases h
    obtain ⟨t, ht, hresolve⟩ := exists_mem_of_resolveArguments hts hmem
    rw [parameters_tyOf, Ty.parametersAmong_eq_flatMap]
    exact List.mem_flatMap.2 ⟨t, ht, ih hresolve hp⟩

end

theorem mem_parameters_of_resolve {e : TypeExpr} {name : String}
    (hvisits : Visits e (simple name [])) (hname : name ∈ d.parametersInScope) {t : Ty}
    (h : (env.resolve d e).result = .ok t) : name ∈ t.parameters := by
  obtain ⟨expand, hexpand⟩ := env.resolveWithin_eq d (env.aliasCount d)
  rw [resolve, hexpand] at h
  exact mem_parameters_of_visits hvisits hname h

/-- A type that is kept as text means an error type of that text, whatever the text mentions. -/
theorem resolve_raw (env : Environment) (d : TypeDeclaration) (text : String) :
    (env.resolve d (.raw text)).result = .ok (.error text []) := by
  obtain ⟨expand, hexpand⟩ := env.resolveWithin_eq d (env.aliasCount d)
  rw [resolve, hexpand]
  rfl

/-! ## A base is an instance of an entry -/

/-- The base of `t` is the first entry of the declaration `d` of its type, with
every type parameter replaced by the argument of `t` that is bound to it. -/
structure Instance (env : Environment) (t base : NamedType) (d : TypeDeclaration)
    (entry : TypeExpr) (bound : Bindings) : Prop where
  declared : ∃ s, env.table.get? t.symbol = some s ∧ d ∈ s.declarations ∧
    bound = Bindings.ofArguments s.typeParameters t.arguments
  first : d.bases.head? = some entry
  replaced : ∃ written, (env.resolve d entry).result = .ok written ∧
    base.toTy = written.substitute bound

theorem exists_instance_of_baseType {prefer : SymbolKey → Bool} {t base : NamedType}
    (h : (env.baseType prefer t).result = .ok (some base)) :
    ∃ d entry bound, env.Instance t base d entry bound := by
  obtain ⟨s, d, offer, hs, _, _, hd, hoffer, rfl⟩ := exists_offer_of_baseType h
  obtain ⟨entry, hfirst, hresolve⟩ := exists_entry_of_offer? hoffer
  exact ⟨d, entry, _, ⟨s, hs, hd, rfl⟩, hfirst, offer.toTy, hresolve, offer.toTy_substitute _⟩

/-- When the base is closed, every parameter that the entry mentions is bound to a closed type. -/
theorem Instance.closed_of_visits {t base : NamedType} {entry : TypeExpr} {bound : Bindings}
    (h : env.Instance t base d entry bound) (hclosed : base.arguments.any Ty.isOpen = false)
    {name : String} (hname : name ∈ d.parametersInScope)
    (hvisits : Visits entry (simple name [])) :
    ∃ b, bound.lookup name = some b ∧ b.isOpen = false := by
  obtain ⟨written, hresolve, hbase⟩ := h.replaced
  have hsubstitute : (written.substitute bound).isOpen = false := by
    rw [← hbase, NamedType.toTy, Ty.isOpen, Ty.anyOpen_eq_any]
    exact hclosed
  exact Ty.isOpen_substitute_eq_false_iff.1 hsubstitute name
    (mem_parameters_of_resolve hvisits hname hresolve)

/-! ## The arguments of a contract -/

theorem typeArguments_of_ofArguments? {contract : Contract} {arguments : List String}
    {handler : Handler} (h : Handler.ofArguments? contract arguments = some handler) :
    handler.typeArguments = arguments := by
  cases handler with
  | query q r => exact (ofArguments?_eq_query_iff.1 h).2.symm
  | command c => exact (ofArguments?_eq_command_iff.1 h).2.symm

/-- The contract at which the search for the handler `registered` ends, an
instance of `entry`, shows the types that the handler is for, and every
parameter that `entry` mentions was bound to a closed type. -/
structure BoundContract (env : Environment) (contracts : ContractSet)
    (registered : Symbol × Entry) (passed : List NamedType) (last : NamedType)
    (d : TypeDeclaration) (entry : TypeExpr) (bound : Bindings) : Prop where
  trail : env.SearchTrail contracts registered.1 passed
  reachesContract : contracts.isContract last.symbol = true
  lastStep : env.Instance (passed.getLastD (declaredType registered.1)) last d entry bound
  shown : registered.2.handler.typeArguments = last.arguments.map Ty.display
  closed : ∀ name ∈ d.parametersInScope, Visits entry (simple name []) →
    ∃ b, bound.lookup name = some b ∧ b.isOpen = false

theorem exists_boundContract {contracts : ContractSet} {found : List (Symbol × Entry)}
    (h : (env.handlers contracts).result = .ok found) {registered : Symbol × Entry}
    (hmem : registered ∈ found) :
    ∃ passed last d entry bound, env.BoundContract contracts registered passed last d entry bound := by
  rw [eq_of_handlers_eq_ok h] at hmem
  obtain ⟨c, _, hregistered⟩ := List.mem_filterMap.1 hmem
  obtain ⟨hs, handler, hhandler, hentry⟩ := registrationOf?_eq_some_iff.1 hregistered
  obtain ⟨s, passed, last, contract, hs', _, htrail, hup, hcontract, hclosed, hfit⟩ :=
    classify_eq_some_iff.1 hhandler
  obtain rfl : s = registered.1 := Option.some.inj (hs'.symm.trans hs)
  obtain ⟨d, entry, bound, hinstance⟩ := exists_instance_of_baseType hup
  refine ⟨passed, last, d, entry, bound, htrail, ?_, hinstance, ?_,
    fun name hname hvisits => hinstance.closed_of_visits hclosed hname hvisits⟩
  · rw [ContractSet.isContract, hcontract]
    rfl
  · rw [hentry]
    exact typeArguments_of_ofArguments? hfit

/-- A type parameter in scope that is written at a visited place makes the
resolved type open; a type kept as text is closed and stands for its text.
Every base replaces the parameters of an entry by the arguments bound to them,
and so do the contracts of the handlers, whose visited parameters were all
bound to closed types. -/
theorem visited_parameters_survive (env : Environment) :
    (∀ d e t, (env.resolve d e).result = .ok t → ∀ name ∈ d.parametersInScope,
      Visits e (simple name []) → name ∈ t.parameters ∧ t.isOpen = true) ∧
    (∀ d text, (env.resolve d (.raw text)).result = .ok (.error text [])) ∧
    (∀ prefer t base, (env.baseType prefer t).result = .ok (some base) →
      ∃ d entry bound, env.Instance t base d entry bound) ∧
    (∀ contracts found, (env.handlers contracts).result = .ok found → ∀ registered ∈ found,
      ∃ passed last d entry bound,
        env.BoundContract contracts registered passed last d entry bound) := by
  refine ⟨fun d e t h name hname hvisits => ?_, env.resolve_raw,
    fun _ _ _ => exists_instance_of_baseType,
    fun _ _ h _ hmem => exists_boundContract h hmem⟩
  have hmem := mem_parameters_of_resolve hvisits hname h
  exact ⟨hmem, Ty.isOpen_iff.2 ⟨name, hmem⟩⟩

end Environment

/-! ## Parameters that survive, and parameters that are lost -/

namespace Sample

open Registrar.Tree

/-- The class `Base` of `ping`, whose one base is `IQueryHandler<T, string[]>`. -/
def pingBase : TypeDeclaration :=
  (ping.declared.flatMap Prod.snd).get ⟨0, by decide⟩

def pingContracts : ContractSet :=
  .bind ping ["IQueryHandler"] ["ICommandHandler"]

/-- The written type `Box<T>.Item`. -/
def itemOfBox : Node :=
  .node .qualifiedName "Box<T>.Item" true none 0
    [generic "Box" [word .identifier "T" none], word .identifier "Item" none]

/-- The written type `T*`. -/
def pointer : Node :=
  word .otherType "T*" none

/-- `class Box<T>` around `class Item`, `class Mid<T> : IQueryHandler<Box<T>.Item, T*[]>` and
`class Handler : Mid<int>`. -/
def leak : Environment :=
  .build
    [file "box.cs"
      [classAround "Box" ["T"] [typeNode .class [] "Item" [] []],
        typeNode .class [] "Mid" ["T"]
          [generic "IQueryHandler" [itemOfBox, .node .arrayType "T*[]" true none 0 [pointer]]],
        typeNode .class [] "Handler" [] [generic "Mid" [word .predefinedType "int" none]]]]
    (Reference.contracts ["IQueryHandler"] ["ICommandHandler"])

/-- The class `Mid`. -/
def mid : TypeDeclaration :=
  (leak.declared.flatMap Prod.snd).get ⟨2, by decide⟩

end Sample

namespace Environment

open TypeExpr

/-- The base entry of `Base` mentions its parameter and is open, and the handler `Ping` is bound
to the type that stands for it. -/
theorem visited_parameters_survive_ping :
    ∃ entry t found, Sample.pingBase.bases = [entry] ∧ "T" ∈ Sample.pingBase.parametersInScope ∧
      Visits entry (simple "T" []) ∧
      (Sample.ping.resolve Sample.pingBase entry).result = .ok t ∧
      "T" ∈ t.parameters ∧ t.isOpen = true ∧
      (Sample.ping.handlers Sample.pingContracts).result = .ok found ∧
      found.map (·.2.handler) = [.query "Order" "string[]"] ∧
      ∀ registered ∈ found, ∃ passed last d entry bound,
        Sample.ping.BoundContract Sample.pingContracts registered passed last d entry bound := by
  have hname : "T" ∈ Sample.pingBase.parametersInScope := by decide
  have hvisits : Visits (.name none [] (.segment "IQueryHandler"
      [simple "T" [], .array (.predefined "string") 1])) (simple "T" []) :=
    .argument List.mem_cons_self .self
  obtain ⟨t, ht⟩ : ∃ t, (Sample.ping.resolve Sample.pingBase (.name none [] (.segment
      "IQueryHandler" [simple "T" [], .array (.predefined "string") 1]))).result = .ok t :=
    entryResolves_iff.2 (by decide +kernel : Sample.pingBase.bases.head?.all fun entry =>
      (Sample.ping.resolve Sample.pingBase entry).result.isOk) _ rfl
  have hfound : (Sample.ping.handlers Sample.pingContracts).result.toOption.map
      (·.map (·.2.handler)) = some [.query "Order" "string[]"] := by decide +kernel
  have h := Sample.ping.visited_parameters_survive
  have hopen := h.1 Sample.pingBase _ t ht "T" hname hvisits
  cases hrun : (Sample.ping.handlers Sample.pingContracts).result with
  | error e => rw [hrun] at hfound; cases hfound
  | ok found =>
    rw [hrun] at hfound
    exact ⟨_, t, found, rfl, hname, hvisits, ht, hopen.1, hopen.2, rfl, Option.some.inj hfound,
      h.2.2.2 Sample.pingContracts found hrun⟩

/-- The parameter of `Mid` is written among the arguments of a first segment
and in a type kept as text. Both types resolve to closed ones, and the handler
is bound to types that its argument `int` does not reach. -/
theorem unvisited_parameters_lost :
    "T" ∈ Sample.mid.parametersInScope ∧
      TypeExpr.ofNode Sample.itemOfBox =
        .name none [.segment "Box" [simple "T" []]] (.segment "Item" []) ∧
      TypeExpr.ofNode Sample.pointer = .raw "T*" ∧
      ([Sample.itemOfBox, Sample.pointer].map fun n =>
        (Sample.leak.resolve Sample.mid (TypeExpr.ofNode n)).result.toOption.map fun t =>
          (t.display, t.isOpen)) = [some ("Box.Item", false), some ("T*", false)] ∧
      (Sample.leak.handlers (.bind Sample.leak ["IQueryHandler"] ["ICommandHandler"])).result.toOption.map
        (·.map (·.2.handler)) = some [.query "Box.Item" "T*[]"] := by
  refine ⟨by decide, rfl, rfl, by decide +kernel, by decide +kernel⟩

end Environment

end Registrar
