/-
Chains of bases without type parameters. A base is the first entry of some
declaration with the type's arguments in the place of its parameters, so it is
closed when the type is, every parameter in scope of the entry is one of the
type's own, and each of these is bound (`baseType_closed`). A type that is
`FullyBound` has this of its symbol, hence a walk that starts at a class without
type parameters and comes by fully bound types only meets closed types
(`Climbs.closed`), and the search for a contract that takes such a way does not
end at an open one (`chain_closed`).
-/
import Registrar.Proofs.Registrations
import Registrar.Proofs.ResolvedTypes

namespace Registrar

namespace Bindings

/-! ## What parameters are bound to -/

theorem lookup_insert_self (bs : Bindings) (name : String) (t : Ty) :
    (bs.insert name t).lookup name = some t := by
  unfold insert
  split
  · next h =>
    induction bs with
    | nil => cases h
    | cons b rest ih =>
      rw [List.map_cons]
      by_cases hb : b.1 = name
      · rw [if_pos (beq_iff_eq.2 hb), List.lookup_cons_self]
      · rw [List.any_cons, beq_eq_false_iff_ne.2 hb, Bool.false_or] at h
        rw [if_neg (by simpa using hb), List.lookup_cons, beq_eq_false_iff_ne.2 (Ne.symm hb)]
        exact ih h
  · next h =>
    have hnone : bs.lookup name = none := by
      rw [List.lookup_eq_none_iff]
      intro b hb
      rw [bne_iff_ne]
      rintro rfl
      exact h (List.any_eq_true.2 ⟨b, hb, beq_self_eq_true _⟩)
    rw [List.lookup_append, hnone, List.lookup_cons_self, Option.none_or]

theorem lookup_insert_of_ne (bs : Bindings) {name other : String} (h : other ≠ name) (t : Ty) :
    (bs.insert name t).lookup other = bs.lookup other := by
  have hne : (other == name) = false := beq_eq_false_iff_ne.2 h
  unfold insert
  split
  · next hany =>
    clear hany
    induction bs with
    | nil => rfl
    | cons b rest ih =>
      rw [List.map_cons]
      by_cases hb : b.1 = name
      · rw [if_pos (beq_iff_eq.2 hb), List.lookup_cons, hne, List.lookup_cons, hb, hne]
        exact ih
      · rw [if_neg (by simpa using hb), List.lookup_cons, List.lookup_cons, ih]
  · rw [List.lookup_append, List.lookup_cons, hne, List.lookup_nil, Option.or_none]

/-- Of several arguments that are bound to one name the last one counts. -/
theorem lookup_foldl_insert (pairs : List (String × Ty)) (bs : Bindings) (name : String) :
    (pairs.foldl (fun bs b => bs.insert b.1 b.2) bs).lookup name =
      (pairs.reverse.lookup name).or (bs.lookup name) := by
  induction pairs generalizing bs with
  | nil => rfl
  | cons b rest ih =>
    rw [List.foldl_cons, ih, List.reverse_cons, List.lookup_append, Option.or_assoc]
    by_cases hname : name = b.1
    · rw [hname, lookup_insert_self, List.lookup_cons_self, Option.some_or]
    · rw [lookup_insert_of_ne bs hname, List.lookup_cons, beq_eq_false_iff_ne.2 hname,
        List.lookup_nil, Option.none_or]

/-- Each parameter is bound to one of the arguments when there are as many of them. -/
theorem exists_lookup_ofArguments {parameters : List String} {arguments : List Ty} {name : String}
    (hlength : parameters.length = arguments.length) (hname : name ∈ parameters) :
    ∃ a ∈ arguments, (ofArguments parameters arguments).lookup name = some a := by
  have hkeys : (parameters.zip arguments).map Prod.fst = parameters :=
    List.map_fst_zip (Nat.le_of_eq hlength)
  rw [ofArguments, lookup_foldl_insert, List.lookup_nil, Option.or_none]
  rw [← hkeys] at hname
  obtain ⟨pair, hpair, rfl⟩ := List.mem_map.1 hname
  have hbound : ((parameters.zip arguments).reverse.lookup pair.1).isSome = true :=
    List.lookup_isSome_iff.2 ⟨pair, List.mem_reverse.2 hpair, beq_self_eq_true _⟩
  obtain ⟨a, ha⟩ := Option.isSome_iff_exists.1 hbound
  obtain ⟨before, after, hsplit, _⟩ := List.lookup_eq_some_iff.1 ha
  have hmem : (pair.1, a) ∈ (parameters.zip arguments).reverse := by
    rw [hsplit]
    exact List.mem_append_right _ (.head _)
  exact ⟨a, (List.of_mem_zip (List.mem_reverse.1 hmem)).2, ha⟩

end Bindings

namespace Symbol

/-- No declaration of the symbol lies inside a generic type. -/
def OutsideGenerics (s : Symbol) : Prop :=
  ∀ d ∈ s.declarations, ∀ around ∈ d.containers, around.typeParameters = []

/-- All declarations of the symbol have the same type parameters. -/
def OneParameterList (s : Symbol) : Prop :=
  ∀ d ∈ s.declarations, ∀ e ∈ s.declarations, d.typeParameters = e.typeParameters

instance (s : Symbol) : Decidable s.OutsideGenerics :=
  inferInstanceAs (Decidable (∀ d ∈ s.declarations, ∀ around ∈ d.containers,
    around.typeParameters = []))

instance (s : Symbol) : Decidable s.OneParameterList :=
  inferInstanceAs (Decidable (∀ d ∈ s.declarations, ∀ e ∈ s.declarations,
    d.typeParameters = e.typeParameters))

end Symbol

namespace Environment

variable {units : List SourceUnit} {references : List Reference}

/-! ## Fully bound types -/

/-- If the type is declared in the sources, it has as many arguments as type parameters, its
declarations agree on these, and none lies inside a generic type. -/
def FullyBound (env : Environment) (t : NamedType) : Prop :=
  ∀ s ∈ env.table.get? t.symbol, s.isReference = false →
    (t.arguments.length : Int) = s.key.arity ∧ s.OutsideGenerics ∧ s.OneParameterList

instance (env : Environment) (t : NamedType) : Decidable (env.FullyBound t) :=
  inferInstanceAs (Decidable (∀ s ∈ env.table.get? t.symbol, s.isReference = false →
    (t.arguments.length : Int) = s.key.arity ∧ s.OutsideGenerics ∧ s.OneParameterList))

/-- A symbol is a reference, or it has the type parameters of one of its declarations, as many as its
arity. -/
theorem reference_or_declared {key : SymbolKey} {s : Symbol}
    (hs : (build units references).table.get? key = some s) :
    (∃ r : Reference, r.symbol = s) ∨
      ∃ d ∈ s.declarations, s.typeParameters = d.typeParameters ∧ (d.arity : Int) = key.arity := by
  cases hds : declarationsUnder units key with
  | nil =>
    rw [build_get?, hds] at hs
    obtain ⟨r, _, hr⟩ := Option.map_eq_some_iff.1 hs
    exact .inl ⟨r, hr⟩
  | cons d rest =>
    obtain ⟨s', hs', _, _, hdeclarations, _, hparameters, _⟩ := exists_symbol_of_cons references hds
    obtain rfl := Option.some.inj (hs.symm.trans hs')
    have hd : d ∈ declarationsUnder units key := by
      rw [hds]
      exact .head rest
    refine .inr ⟨d, by rw [hdeclarations]; exact .head rest, hparameters, ?_⟩
    exact (TypeDeclaration.key?_eq_some_iff.1 (mem_declarationsUnder.1 hd).2).2

theorem isOpen_toTy (t : NamedType) : t.toTy.isOpen = t.arguments.any Ty.isOpen := by
  rw [NamedType.toTy, Ty.isOpen, Ty.anyOpen_eq_any]

theorem isOpen_toTy_eq_false_iff {t : NamedType} :
    t.toTy.isOpen = false ↔ ∀ a ∈ t.arguments, a.isOpen = false := by
  rw [isOpen_toTy, List.any_eq_false]
  exact forall₂_congr fun a _ => Bool.not_eq_true _ ▸ Iff.rfl

/-! ## One base, and the walk -/

section

variable {prefer : SymbolKey → Bool} {t base : NamedType}

/-- The base of a closed, fully bound type is closed. -/
theorem baseType_closed (hclosed : t.toTy.isOpen = false)
    (hbound : (build units references).FullyBound t)
    (h : ((build units references).baseType prefer t).result = .ok (some base)) :
    base.toTy.isOpen = false := by
  obtain ⟨s, d, offer, hs, href, _, hd, hoffer, rfl⟩ := exists_offer_of_baseType h
  obtain ⟨harity, houtside, hsame⟩ := hbound s hs href
  have hreference : ¬ ∃ r : Reference, r.symbol = s := by
    rintro ⟨r, rfl⟩
    cases href
  obtain ⟨first, hfirst, hparameters, hfirstArity⟩ :=
    (reference_or_declared hs).resolve_left hreference
  obtain ⟨entry, _, hresolve⟩ := exists_entry_of_offer? hoffer
  rw [NamedType.toTy_substitute, Ty.isOpen_substitute_eq_false_iff]
  intro name hname
  -- A parameter in the offer is in scope of its declaration, so it is one of the symbol's.
  have hown : name ∈ s.typeParameters := by
    have hscope := (resolve_formed hresolve).parameters_subset hname
    rw [TypeDeclaration.parametersInScope, List.mem_append, List.mem_flatMap] at hscope
    rcases hscope with hown | ⟨around, haround, hmem⟩
    · rwa [hparameters, ← hsame d hd first hfirst]
    · rw [houtside d hd around haround] at hmem
      cases hmem
  have hlength : s.typeParameters.length = t.arguments.length := by
    rw [hparameters]
    rw [SymbolTable.get?_key hs, ← hfirstArity] at harity
    exact (Int.ofNat.inj harity).symm
  obtain ⟨a, ha, hlookup⟩ := Bindings.exists_lookup_ofArguments hlength hown
  exact ⟨a, hlookup, isOpen_toTy_eq_false_iff.1 hclosed a ha⟩

/-- All types on the way up from a closed type are closed, as long as those passed are fully bound. -/
theorem Climbs.closed {bases : List NamedType}
    (h : (build units references).Climbs prefer t bases) (hclosed : t.toTy.isOpen = false)
    (hbound : (build units references).FullyBound t)
    (hpassed : ∀ u ∈ bases.dropLast, (build units references).FullyBound u) :
    ∀ u ∈ bases, u.toTy.isOpen = false := by
  induction bases generalizing t with
  | nil => exact fun u hu => by cases hu
  | cons base rest ih =>
    have hbase := baseType_closed hclosed hbound h.1
    refine List.forall_mem_cons.2 ⟨hbase, ?_⟩
    cases rest with
    | nil => exact fun u hu => by cases hu
    | cons next further =>
      rw [List.dropLast_cons_cons, List.forall_mem_cons] at hpassed
      exact ih h.2 hbase hpassed.1 hpassed.2

theorem climbs_concat {env : Environment} {passed : List NamedType} {last : NamedType}
    (h : env.Climbs prefer t passed)
    (hlast : (env.baseType prefer (passed.getLastD t)).result = .ok (some last)) :
    env.Climbs prefer t (passed ++ [last]) := by
  induction passed generalizing t with
  | nil => exact ⟨hlast, trivial⟩
  | cons base rest ih =>
    rw [List.getLastD_cons] at hlast
    exact ⟨h.1, ih h.2 hlast⟩

/-- A chain of bases climbs from the type of its symbol. -/
theorem climbs_of_baseChain {env : Environment} {s : Symbol} {chain : List NamedType}
    (h : (env.baseChain prefer s).result = .ok chain) :
    env.Climbs prefer (declaredType s) chain := by
  by_cases hne : chain = []
  · rw [hne]
    exact trivial
  · obtain ⟨passed, last, rfl, htrail, hlast⟩ :=
      basesAbove_sound (List.nodup_singleton s.key) h hne
    exact climbs_concat htrail.climbs hlast

end

/-! ## Classes without type parameters -/

/-- A symbol of the table that has no type parameters and is not declared inside a generic type. -/
structure NonGeneric (env : Environment) (s : Symbol) : Prop where
  held : env.table.get? s.key = some s
  arity : s.key.arity = 0
  outside : s.OutsideGenerics

section

variable {s : Symbol}

theorem NonGeneric.typeParameters_eq_nil (h : (build units references).NonGeneric s)
    {d : TypeDeclaration} (hd : d ∈ s.declarations) : d.typeParameters = [] := by
  have hkey := ((mem_declarations_of_get? h.held).1 hd).2
  have harity := (TypeDeclaration.key?_eq_some_iff.1 hkey).2
  rw [h.arity] at harity
  exact List.length_eq_zero_iff.1 (Int.ofNat.inj harity)

theorem NonGeneric.symbol_typeParameters_eq_nil (h : (build units references).NonGeneric s) :
    s.typeParameters = [] := by
  rcases reference_or_declared h.held with ⟨r, rfl⟩ | ⟨d, hd, hparameters, _⟩
  · have harity : r.arity = 0 := h.arity
    rw [Reference.symbol, Reference.typeParameters, harity]
    rfl
  · rw [hparameters, h.typeParameters_eq_nil hd]

theorem NonGeneric.declaredType_closed (h : (build units references).NonGeneric s) :
    (declaredType s).toTy.isOpen = false := by
  rw [isOpen_toTy_eq_false_iff, declaredType, h.symbol_typeParameters_eq_nil]
  exact fun a ha => by cases ha

theorem NonGeneric.fullyBound (h : (build units references).NonGeneric s) :
    (build units references).FullyBound (declaredType s) := by
  intro s' hs' _
  obtain rfl : s = s' := Option.some.inj (h.held.symm.trans hs')
  refine ⟨?_, h.outside, fun d hd e he => ?_⟩
  · rw [declaredType, h.symbol_typeParameters_eq_nil, h.arity]
    rfl
  · rw [h.typeParameters_eq_nil hd, h.typeParameters_eq_nil he]

theorem NonGeneric.closed_of_climbs (h : (build units references).NonGeneric s)
    {prefer : SymbolKey → Bool} {bases : List NamedType}
    (hclimbs : (build units references).Climbs prefer (declaredType s) bases)
    (hpassed : ∀ t ∈ bases.dropLast, (build units references).FullyBound t) :
    ∀ t ∈ bases, t.toTy.isOpen = false :=
  hclimbs.closed h.declaredType_closed h.fullyBound hpassed

theorem NonGeneric.isGeneric_eq_false (h : (build units references).NonGeneric s) {c : Candidate}
    (hc : c ∈ (build units references).candidates) (hs : c.symbol = some s) :
    isGeneric c.declaration = false := by
  have hd : c.declaration ∈ s.declarations := (mem_declarations_of_get? h.held).2
    ⟨mem_declarations_of_mem_located (candidate_spec hc).1, (candidate_symbol hc hs).1⟩
  refine isGeneric_eq_false_iff.2 ⟨?_, fun around haround => ?_⟩
  · rw [TypeDeclaration.arity, h.typeParameters_eq_nil hd, List.length_nil]
  · rw [h.outside _ hd around haround, List.length_nil]

/-- Where the search comes to a contract, its arguments decide. -/
theorem classify_of_searchTrail {env : Environment} {contracts : ContractSet} {c : Candidate}
    {passed : List NamedType} {last : NamedType} {contract : Contract} (hs : c.symbol = some s)
    (hgeneric : isGeneric c.declaration = false) (htrail : env.SearchTrail contracts s passed)
    (hlast : (env.baseType contracts.isContract (passed.getLastD (declaredType s))).result =
      .ok (some last))
    (hcontract : contracts.contract? last.symbol = some contract) :
    (env.classify contracts c).result = .ok (if last.arguments.any Ty.isOpen then none
      else Handler.ofArguments? contract (last.arguments.map Ty.display)) := by
  have hstop : env.endsSearch contracts last = true := by
    simp [endsSearch, ContractSet.isContract, hcontract]
  have hfound : contractBase? contracts (passed ++ [last]) = some (contract, last) :=
    contractBase?_eq_some_iff.2 ⟨List.getLast?_concat, hcontract⟩
  refine (classify_eq_ok_iff hs hgeneric).2 ⟨_, htrail.basesAbove_eq hlast hstop, ?_⟩
  rw [hfound, Option.bind_some]

/-- From a class without type parameters that lies in no generic type, only closed types are met on
the way up, as long as all those passed are fully bound: along any part of the way, and so along the
whole chain of bases. When the search for a contract comes to one on such a way, the class is not
dropped as open: it is a handler if the contract has as many arguments as it takes. -/
theorem chain_closed (h : (build units references).NonGeneric s) :
    let env := build units references
    (∀ prefer bases, env.Climbs prefer (declaredType s) bases →
      (∀ t ∈ bases.dropLast, env.FullyBound t) → ∀ t ∈ bases, t.toTy.isOpen = false) ∧
    (∀ prefer chain, (env.baseChain prefer s).result = .ok chain →
      (∀ t ∈ chain.dropLast, env.FullyBound t) → ∀ t ∈ chain, t.toTy.isOpen = false) ∧
    ∀ contracts c passed last contract, c ∈ env.candidates → c.symbol = some s →
      env.SearchTrail contracts s passed →
      (env.baseType contracts.isContract (passed.getLastD (declaredType s))).result =
        .ok (some last) →
      contracts.contract? last.symbol = some contract → (∀ t ∈ passed, env.FullyBound t) →
      last.toTy.isOpen = false ∧ (env.classify contracts c).result =
        .ok (Handler.ofArguments? contract (last.arguments.map Ty.display)) := by
  intro env
  refine ⟨fun _ _ hclimbs hpassed => h.closed_of_climbs hclimbs hpassed,
    fun _ _ hchain hpassed => h.closed_of_climbs (climbs_of_baseChain hchain) hpassed, ?_⟩
  intro contracts c passed last contract hc hs htrail hlast hcontract hpassed
  have hclosed : last.toTy.isOpen = false := by
    refine h.closed_of_climbs (climbs_concat htrail.climbs hlast) ?_ last (by simp)
    rwa [List.dropLast_concat]
  refine ⟨hclosed, ?_⟩
  rw [isOpen_toTy] at hclosed
  rw [classify_of_searchTrail hs (h.isGeneric_eq_false hc hs) htrail hlast hcontract, hclosed]
  rfl

end

end Environment

/-! ## Two generic classes below a contract -/

namespace Sample

open Registrar.Tree

/-- `class Base<T> : IQueryHandler<T, string[]>`, `class Mid<A, B> : Base<B>` in two parts, and
`class Ping : Mid<int, Order>`. -/
def relayed : List SourceUnit :=
  [file "relay.cs"
    [typeNode .class [] "Base" ["T"]
        [generic "IQueryHandler" [word .identifier "T" none,
          .node .arrayType "" true none 0 [word .predefinedType "string" none]]],
      typeNode .class ["partial"] "Mid" ["A", "B"] [],
      typeNode .class ["partial"] "Mid" ["A", "B"] [generic "Base" [word .identifier "B" none]],
      typeNode .class [] "Ping" []
        [generic "Mid" [word .predefinedType "int" none, word .identifier "Order" none]]]]

/-- The environment of `relayed` with the usual contracts. -/
def relay : Environment :=
  .build relayed (Reference.contracts ["IQueryHandler"] ["ICommandHandler"])

def relayContracts : ContractSet :=
  .bind relay ["IQueryHandler"] ["ICommandHandler"]

/-- The class `Ping`. -/
def relayPing : Candidate :=
  relay.candidates.get ⟨2, by decide +kernel⟩

/-- The symbol of `Ping`. -/
def relayPingSymbol : Symbol :=
  .ofDeclaration ⟨"Ping", 0⟩ relayPing.declaration

/-- The bases are `Mid<int, Order>`, `Base<Order>` and the contract, and all of them fully bound. -/
def passesMid (bases : List NamedType) : Prop :=
  bases.map (·.toTy.display) = ["Mid<int, Order>", "Base<Order>", "IQueryHandler<Order, string[]>"] ∧
    ∀ t ∈ bases, relay.FullyBound t

instance : DecidablePred passesMid := fun _ => inferInstanceAs (Decidable (_ ∧ _))

theorem exists_ok_of_toOption {x : Except ε α} {p : α → Prop} [DecidablePred p]
    (h : x.toOption.any (p ·) = true) : ∃ a, x = .ok a ∧ p a := by
  cases x with
  | error e => cases h
  | ok a => exact ⟨a, rfl, of_decide_eq_true h⟩

end Sample

namespace Environment

open Sample

theorem chain_closed_relay :
    relay.NonGeneric relayPingSymbol ∧
      (∃ chain, (relay.baseChain relayContracts.isContract relayPingSymbol).result = .ok chain ∧
        passesMid chain ∧ ∀ t ∈ chain, t.toTy.isOpen = false) ∧
      ∃ passed last, relayPing ∈ relay.candidates ∧ relayPing.symbol = some relayPingSymbol ∧
        relay.SearchTrail relayContracts relayPingSymbol passed ∧ passesMid (passed ++ [last]) ∧
        (relay.baseType relayContracts.isContract
          (passed.getLastD (declaredType relayPingSymbol))).result = .ok (some last) ∧
        relayContracts.contract? last.symbol = some .query ∧ last.toTy.isOpen = false ∧
        (relay.classify relayContracts relayPing).result =
          .ok (some (.query "Order" "string[]")) := by
  have hnonGeneric : relay.NonGeneric relayPingSymbol :=
    ⟨rfl, rfl, by decide +kernel⟩
  obtain ⟨chain, hchain, hpasses⟩ : ∃ chain,
      (relay.baseChain relayContracts.isContract relayPingSymbol).result = .ok chain ∧
        passesMid chain := exists_ok_of_toOption (by decide +kernel)
  obtain ⟨bases, hbases, hpassed⟩ : ∃ bases,
      (relay.basesAbove relayContracts.isContract (relay.endsSearch relayContracts) maxChain
        [relayPingSymbol.key] (declaredType relayPingSymbol)).result = .ok bases ∧
        passesMid bases ∧ bases.getLast?.map (fun t => (t.symbol, t.arguments.map Ty.display)) =
          some (⟨"IQueryHandler", 2⟩, ["Order", "string[]"]) :=
    exists_ok_of_toOption (by decide +kernel)
  have hne : bases ≠ [] := by
    rintro rfl
    cases hpassed.2
  obtain ⟨passed, last, rfl, htrail, hlast⟩ :=
    basesAbove_sound (List.nodup_singleton relayPingSymbol.key) hbases hne
  obtain ⟨_, hclosed, hsearch⟩ := chain_closed hnonGeneric
  have hshape := hpassed.2
  rw [List.getLast?_concat, Option.map_some, Option.some.injEq, Prod.mk.injEq] at hshape
  have hcontract : relayContracts.contract? last.symbol = some .query := by
    rw [hshape.1]
    decide +kernel
  have hmem : relayPing ∈ relay.candidates := List.get_mem _ _
  obtain ⟨hlastClosed, hclassify⟩ := hsearch relayContracts relayPing passed last .query hmem rfl
    htrail hlast hcontract fun t ht => hpassed.1.2 t (List.mem_append_left _ ht)
  rw [hshape.2] at hclassify
  have hchainClosed := hclosed _ chain hchain fun t ht =>
    hpasses.2 t ((List.dropLast_sublist chain).subset ht)
  exact ⟨hnonGeneric, ⟨chain, hchain, hpasses, hchainClosed⟩, passed, last, hmem, rfl, htrail,
    hpassed.1, hlast, hcontract, hlastClosed, hclassify⟩

end Environment

end Registrar
