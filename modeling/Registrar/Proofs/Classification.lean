/-
Which classes are handlers. The classifier walks from a class along its bases
and stops at the first contract, at an interface, at a type that it has seen
before or after sixty-four steps; what the contract is bound to decides.
`AnswersQuery` and `AnswersCommand` say the same without a walk: there are
bases between the class and a contract, each the base of the one before it,
all different and none of them a contract or an interface, and the contract
has the right number of arguments without type parameters in them.
`classify_iff_reaches_contract` shows that these are the classes that the
classifier finds, with these arguments.
-/
import Registrar.Handler.Contract
import Registrar.Proofs.BaseChain
import Registrar.Proofs.Candidates

namespace Registrar

namespace Environment

variable {env : Environment} {contracts : ContractSet} {query command : List String}

/-! ## Contracts by name -/

/-- The type is an interface. -/
def IsInterface (env : Environment) (key : SymbolKey) : Prop :=
  ∃ s, env.table.get? key = some s ∧ s.kind = .interface

theorem mem_keysNamed {key : SymbolKey} {names : List String} :
    key ∈ ContractSet.keysNamed env names ↔
      (∃ s ∈ env.table.symbols, s.key = key) ∧ key.name ∈ names.map Text.trim := by
  simp only [ContractSet.keysNamed, List.mem_flatMap, List.mem_map, SymbolTable.mem_named]
  constructor
  · intro h
    obtain ⟨name, hname, s, ⟨hs, hsname⟩, rfl⟩ := h
    exact ⟨⟨s, hs, rfl⟩, name, hname, hsname.symm⟩
  · intro h
    obtain ⟨⟨s, hs, rfl⟩, name, hname, htrim⟩ := h
    exact ⟨name, hname, s, ⟨hs, htrim.symm⟩, rfl⟩

/-- A type of the table is a contract by its name alone, at every arity. -/
theorem contract?_bind {key : SymbolKey} (h : ∃ s, env.Known s ∧ s.key = key) :
    (ContractSet.bind env query command).contract? key =
      if key.name ∈ query.map Text.trim then some .query
      else if key.name ∈ command.map Text.trim then some .command else none := by
  obtain ⟨s, hs, hkey⟩ := h
  have hmem : ∃ s ∈ env.table.symbols, s.key = key := ⟨s, hs.1, hkey⟩
  simp [ContractSet.contract?, ContractSet.bind, mem_keysNamed, hmem]

theorem endsSearch_eq_false_iff {base : NamedType} (h : ∃ s, env.Known s ∧ s.key = base.symbol) :
    env.endsSearch (ContractSet.bind env query command) base = false ↔
      base.symbol.name ∉ query.map Text.trim ∧ base.symbol.name ∉ command.map Text.trim ∧
        ¬ env.IsInterface base.symbol := by
  have hinterface : (env.table.get? base.symbol).any (·.kind == .interface) = true ↔
      env.IsInterface base.symbol := by
    simp [Option.any_eq_true, IsInterface]
  rw [endsSearch, Bool.or_eq_false_iff, ContractSet.isContract, contract?_bind h, ← hinterface,
    Bool.not_eq_true]
  by_cases hq : base.symbol.name ∈ query.map Text.trim
  · simp [hq]
  · by_cases hc : base.symbol.name ∈ command.map Text.trim <;> simp [hq, hc]

/-- A base behind which the search goes on is no interface. -/
theorem isEligible_of_goesOn {base : NamedType} (h : env.endsSearch contracts base = false) :
    env.isEligible contracts.isContract base = true := by
  rw [endsSearch, Bool.or_eq_false_iff] at h
  unfold isEligible
  cases hs : env.table.get? base.symbol with
  | none => exact Bool.or_true _
  | some s =>
    rw [hs, Option.any_some] at h
    simp [bne, h.2]

/-! ## What the classifier finds -/

theorem isGeneric_eq_false_iff {d : TypeDeclaration} :
    isGeneric d = false ↔
      d.arity = 0 ∧ ∀ around ∈ d.containers, around.typeParameters.length = 0 := by
  simp [isGeneric, TypeDeclaration.arity]

theorem bindContract_result (name : String) (contract : Contract) (base : NamedType) :
    (bindContract name contract base).result =
      .ok (if base.arguments.any Ty.isOpen then none
        else Handler.ofArguments? contract (base.arguments.map Ty.display)) := by
  unfold bindContract
  cases base.arguments.any Ty.isOpen with
  | true => rfl
  | false => cases Handler.ofArguments? contract (base.arguments.map Ty.display) <;> rfl

theorem ofArguments?_eq_query_iff {contract : Contract} {arguments : List String} {q r : String} :
    Handler.ofArguments? contract arguments = some (.query q r) ↔
      contract = .query ∧ arguments = [q, r] := by
  unfold Handler.ofArguments?
  split <;> simp_all

theorem ofArguments?_eq_command_iff {contract : Contract} {arguments : List String} {x : String} :
    Handler.ofArguments? contract arguments = some (.command x) ↔
      contract = .command ∧ arguments = [x] := by
  unfold Handler.ofArguments?
  split <;> simp_all

/-- The bases that the search for a contract has passed from the class `s` on. -/
abbrev SearchTrail (env : Environment) (contracts : ContractSet) (s : Symbol)
    (passed : List NamedType) : Prop :=
  env.Trail contracts.isContract (env.endsSearch contracts) maxChain [s.key] (declaredType s) passed

theorem classify_of_no_symbol {c : Candidate} (h : c.symbol = none) :
    (env.classify contracts c).result = .ok none := by
  rw [classify, h]
  rfl

theorem classify_of_generic {c : Candidate} (h : isGeneric c.declaration = true) :
    (env.classify contracts c).result = .ok none := by
  cases hs : c.symbol with
  | none => exact classify_of_no_symbol hs
  | some s =>
    rw [classify, hs]
    simp only [h, if_true]
    rfl

theorem classify_eq_ok_iff {c : Candidate} {s : Symbol} (hs : c.symbol = some s)
    (hg : isGeneric c.declaration = false) {o : Option Handler} :
    (env.classify contracts c).result = .ok o ↔
      ∃ bases, (env.basesAbove contracts.isContract (env.endsSearch contracts) maxChain [s.key]
          (declaredType s)).result = .ok bases ∧
        o = (contractBase? contracts bases).bind fun (contract, base) =>
          if base.arguments.any Ty.isOpen then none
          else Handler.ofArguments? contract (base.arguments.map Ty.display) := by
  rw [classify, hs]
  simp only [hg, Bool.false_eq_true, if_false]
  rw [Noted.result_bind_eq_ok]
  refine exists_congr fun bases => and_congr_right fun _ => ?_
  cases contractBase? contracts bases with
  | none => exact ⟨fun h => (Except.ok.inj h).symm, fun h => h ▸ rfl⟩
  | some found =>
    dsimp only [Option.bind_some]
    rw [bindContract_result, Except.ok.injEq]
    exact eq_comm

theorem contractBase?_eq_some_iff {bases : List NamedType} {contract : Contract}
    {last : NamedType} :
    contractBase? contracts bases = some (contract, last) ↔
      bases.getLast? = some last ∧ contracts.contract? last.symbol = some contract := by
  unfold contractBase?
  rw [Option.bind_eq_some_iff]
  constructor
  · intro ⟨base, hbase, hcontract⟩
    obtain ⟨_, hcontract, heq⟩ := Option.map_eq_some_iff.1 hcontract
    cases heq
    exact ⟨hbase, hcontract⟩
  · intro ⟨hlast, hcontract⟩
    exact ⟨last, hlast, by rw [hcontract, Option.map_some]⟩

/-- A class is a handler when a trail ends at a contract whose arguments fit. -/
theorem classify_eq_some_iff {c : Candidate} {handler : Handler} :
    (env.classify contracts c).result = .ok (some handler) ↔
      ∃ s passed last contract, c.symbol = some s ∧ isGeneric c.declaration = false ∧
        env.SearchTrail contracts s passed ∧
        (env.baseType contracts.isContract (passed.getLastD (declaredType s))).result =
          .ok (some last) ∧
        contracts.contract? last.symbol = some contract ∧ last.arguments.any Ty.isOpen = false ∧
        Handler.ofArguments? contract (last.arguments.map Ty.display) = some handler := by
  constructor
  · intro h
    cases hs : c.symbol with
    | none => rw [classify_of_no_symbol hs] at h; cases h
    | some s =>
      cases hg : isGeneric c.declaration with
      | true => rw [classify_of_generic hg] at h; cases h
      | false =>
        obtain ⟨bases, hbases, hhandler⟩ := (classify_eq_ok_iff hs hg).1 h
        obtain ⟨⟨contract, last⟩, hfound, hfit⟩ := Option.bind_eq_some_iff.1 hhandler.symm
        obtain ⟨hlast, hcontract⟩ := contractBase?_eq_some_iff.1 hfound
        have hne : bases ≠ [] := List.ne_nil_of_mem (List.mem_of_getLast? hlast)
        obtain ⟨passed, last', rfl, htrail, hup⟩ :=
          basesAbove_sound (List.nodup_singleton s.key) hbases hne
        rw [List.getLast?_concat, Option.some.injEq] at hlast
        subst hlast
        dsimp only at hfit
        split at hfit
        · cases hfit
        · next hopen =>
          exact ⟨s, passed, last', contract, rfl, rfl, htrail, hup, hcontract,
            by simpa using hopen, hfit⟩
  · intro ⟨s, passed, last, contract, hs, hg, htrail, hup, hcontract, hopen, hfit⟩
    have hstop : env.endsSearch contracts last = true := by
      simp [endsSearch, ContractSet.isContract, hcontract]
    have hfound : contractBase? contracts (passed ++ [last]) = some (contract, last) :=
      contractBase?_eq_some_iff.2 ⟨List.getLast?_concat, hcontract⟩
    refine (classify_eq_ok_iff hs hg).2 ⟨_, htrail.basesAbove_eq hup hstop, ?_⟩
    rw [hfound, Option.bind_some]
    dsimp only
    rw [hopen]
    exact hfit.symm

/-- The classifier returns exactly when the base of every type that it comes to is known. -/
theorem classify_returns_iff {c : Candidate} :
    (env.classify contracts c).Returns ↔
      ∀ s passed, c.symbol = some s → isGeneric c.declaration = false →
        env.SearchTrail contracts s passed →
        (env.baseType contracts.isContract (passed.getLastD (declaredType s))).Returns := by
  constructor
  · rintro ⟨o, ho⟩ s passed hs hgeneric htrail
    obtain ⟨bases, hbases, _⟩ := (classify_eq_ok_iff hs hgeneric).1 ho
    exact htrail.baseType_returns ⟨bases, hbases⟩
  · intro h
    cases hs : c.symbol with
    | none => exact ⟨none, classify_of_no_symbol hs⟩
    | some s =>
      cases hgeneric : isGeneric c.declaration with
      | true => exact ⟨none, classify_of_generic hgeneric⟩
      | false =>
        obtain ⟨bases, hbases⟩ := basesAbove_returns (List.nodup_singleton s.key)
          fun passed htrail => h s passed hs hgeneric htrail
        exact ⟨_, (classify_eq_ok_iff hs hgeneric).2 ⟨bases, hbases, rfl⟩⟩

/-- The classifier returns when every base entry that it has to resolve can be resolved. -/
theorem classify_returns {c : Candidate}
    (h : ∀ s passed, c.symbol = some s → isGeneric c.declaration = false →
      env.SearchTrail contracts s passed →
      ∀ around, env.table.get? (passed.getLastD (declaredType s)).symbol = some around →
        ∀ d ∈ env.tried contracts.isContract around.declarations, env.EntryResolves d) :
    (env.classify contracts c).Returns := by
  refine classify_returns_iff.2 fun s passed hs hgeneric htrail => baseType_returns_iff.2 ?_
  exact fun around haround _ _ => h s passed hs hgeneric htrail around haround

/-! ## Reaching a contract -/

/-- The declaration and the types around it have no type parameters. -/
def Plain (d : TypeDeclaration) : Prop :=
  d.arity = 0 ∧ ∀ around ∈ d.containers, around.typeParameters.length = 0

/-- The bases `passed` lie one above the other over the class `s`: fewer than
sixty-four, the symbols of all of them and `s` different, and none of them a
contract or an interface. -/
structure Walks (env : Environment) (query command : List String) (s : Symbol)
    (passed : List NamedType) : Prop where
  climbs : env.Climbs (ContractSet.bind env query command).isContract (declaredType s) passed
  length_lt : passed.length < 64
  distinct : ((declaredType s :: passed).map NamedType.symbol).Nodup
  goesOn : ∀ base ∈ passed, base.symbol.name ∉ query.map Text.trim ∧
    base.symbol.name ∉ command.map Text.trim ∧ ¬ env.IsInterface base.symbol

/-- A candidate without type parameters comes to `last`, the base of the last one passed. -/
def ComesTo (env : Environment) (query command : List String) (c : Candidate)
    (last : NamedType) : Prop :=
  ∃ s passed, c.symbol = some s ∧ s.isAmbiguous = false ∧ Plain c.declaration ∧
    env.Walks query command s passed ∧
    (env.baseType (ContractSet.bind env query command).isContract
      (passed.getLastD (declaredType s))).result = .ok (some last)

/-- A candidate comes to a query contract of the closed types `q` and `r`. -/
def AnswersQuery (env : Environment) (query command : List String) (c : Candidate)
    (q r : String) : Prop :=
  ∃ last request result, env.ComesTo query command c last ∧
    last.symbol.name ∈ query.map Text.trim ∧ last.arguments = [request, result] ∧
    request.isOpen = false ∧ result.isOpen = false ∧ request.display = q ∧ result.display = r

/-- A candidate comes to a command contract, which is no query contract, of the closed type `q`. -/
def AnswersCommand (env : Environment) (query command : List String) (c : Candidate)
    (q : String) : Prop :=
  ∃ last request, env.ComesTo query command c last ∧
    last.symbol.name ∈ command.map Text.trim ∧ last.symbol.name ∉ query.map Text.trim ∧
    last.arguments = [request] ∧ request.isOpen = false ∧ request.display = q

/-- Where the walk from a candidate comes to, the first entries of base lists
that it looks at can be resolved. -/
def WalkResolves (env : Environment) (query command : List String) (c : Candidate) : Prop :=
  ∀ s passed, c.symbol = some s → Plain c.declaration → env.Walks query command s passed →
    ∀ around, env.table.get? (passed.getLastD (declaredType s)).symbol = some around →
      ∀ d ∈ env.tried (ContractSet.bind env query command).isContract around.declarations,
        env.EntryResolves d

theorem walks_iff_searchTrail {s : Symbol} {passed : List NamedType} :
    env.Walks query command s passed ↔
      env.SearchTrail (ContractSet.bind env query command) s passed := by
  constructor
  · intro ⟨hclimbs, hlength, hdistinct, hgoesOn⟩
    refine ⟨hclimbs, hlength, hdistinct, fun base hbase => ?_⟩
    exact (endsSearch_eq_false_iff (known_of_climbs hclimbs base hbase)).2 (hgoesOn base hbase)
  · intro ⟨hclimbs, hlength, hdistinct, hgoesOn⟩
    refine ⟨hclimbs, hlength, hdistinct, fun base hbase => ?_⟩
    exact (endsSearch_eq_false_iff (known_of_climbs hclimbs base hbase)).1 (hgoesOn base hbase)

theorem known_of_comesTo {c : Candidate} {last : NamedType}
    (h : env.ComesTo query command c last) : ∃ s, env.Known s ∧ s.key = last.symbol := by
  obtain ⟨s, passed, _, _, _, _, hup⟩ := h
  exact known_of_baseType hup

theorem contract?_eq_query_iff {key : SymbolKey} (h : ∃ s, env.Known s ∧ s.key = key) :
    (ContractSet.bind env query command).contract? key = some .query ↔
      key.name ∈ query.map Text.trim := by
  rw [contract?_bind h]
  by_cases hq : key.name ∈ query.map Text.trim
  · simp [hq]
  · by_cases hc : key.name ∈ command.map Text.trim <;> simp [hq, hc]

theorem contract?_eq_command_iff {key : SymbolKey} (h : ∃ s, env.Known s ∧ s.key = key) :
    (ContractSet.bind env query command).contract? key = some .command ↔
      key.name ∈ command.map Text.trim ∧ key.name ∉ query.map Text.trim := by
  rw [contract?_bind h]
  by_cases hq : key.name ∈ query.map Text.trim
  · simp [hq]
  · by_cases hc : key.name ∈ command.map Text.trim <;> simp [hq, hc]

/-- The handler of a candidate is what the contract that it comes to makes of its arguments. -/
theorem classify_eq_some_iff_comesTo {c : Candidate} (hc : c ∈ env.candidates) {handler : Handler} :
    (env.classify (ContractSet.bind env query command) c).result = .ok (some handler) ↔
      ∃ last contract, env.ComesTo query command c last ∧
        (ContractSet.bind env query command).contract? last.symbol = some contract ∧
        last.arguments.any Ty.isOpen = false ∧
        Handler.ofArguments? contract (last.arguments.map Ty.display) = some handler := by
  rw [classify_eq_some_iff]
  constructor
  · intro ⟨s, passed, last, contract, hs, hg, htrail, hup, hcontract, hopen, hfit⟩
    exact ⟨last, contract, ⟨s, passed, hs, (candidate_symbol hc hs).2.2,
      isGeneric_eq_false_iff.1 hg, walks_iff_searchTrail.2 htrail, hup⟩, hcontract, hopen, hfit⟩
  · intro ⟨last, contract, ⟨s, passed, hs, _, hg, hwalks, hup⟩, hcontract, hopen, hfit⟩
    exact ⟨s, passed, last, contract, hs, isGeneric_eq_false_iff.2 hg,
      walks_iff_searchTrail.1 hwalks, hup, hcontract, hopen, hfit⟩

theorem classify_eq_query_iff {c : Candidate} (hc : c ∈ env.candidates) {q r : String} :
    (env.classify (ContractSet.bind env query command) c).result = .ok (some (.query q r)) ↔
      env.AnswersQuery query command c q r := by
  rw [classify_eq_some_iff_comesTo hc]
  constructor
  · intro ⟨last, contract, hcomes, hcontract, hopen, hfit⟩
    obtain ⟨rfl, harguments⟩ := ofArguments?_eq_query_iff.1 hfit
    obtain ⟨request, rest, hlast, rfl, hrest⟩ := List.map_eq_cons_iff.1 harguments
    obtain ⟨result, rfl, rfl⟩ := List.map_eq_singleton_iff.1 hrest
    rw [hlast] at hopen
    simp only [List.any_cons, List.any_nil, Bool.or_false, Bool.or_eq_false_iff] at hopen
    exact ⟨last, request, result, hcomes,
      (contract?_eq_query_iff (known_of_comesTo hcomes)).1 hcontract, hlast, hopen.1, hopen.2,
      rfl, rfl⟩
  · intro h
    obtain ⟨last, request, result, hcomes, hname, hlast, hrequest, hresult, rfl, rfl⟩ := h
    refine ⟨last, .query, hcomes, (contract?_eq_query_iff (known_of_comesTo hcomes)).2 hname, ?_, ?_⟩
    · rw [hlast]
      simp [hrequest, hresult]
    · rw [hlast]
      rfl

theorem classify_eq_command_iff {c : Candidate} (hc : c ∈ env.candidates) {q : String} :
    (env.classify (ContractSet.bind env query command) c).result = .ok (some (.command q)) ↔
      env.AnswersCommand query command c q := by
  rw [classify_eq_some_iff_comesTo hc]
  constructor
  · intro ⟨last, contract, hcomes, hcontract, hopen, hfit⟩
    obtain ⟨rfl, harguments⟩ := ofArguments?_eq_command_iff.1 hfit
    obtain ⟨request, hlast, rfl⟩ := List.map_eq_singleton_iff.1 harguments
    rw [hlast] at hopen
    simp only [List.any_cons, List.any_nil, Bool.or_false] at hopen
    obtain ⟨hcommand, hquery⟩ :=
      (contract?_eq_command_iff (known_of_comesTo hcomes)).1 hcontract
    exact ⟨last, request, hcomes, hcommand, hquery, hlast, hopen, rfl⟩
  · intro h
    obtain ⟨last, request, hcomes, hcommand, hquery, hlast, hrequest, rfl⟩ := h
    refine ⟨last, .command, hcomes,
      (contract?_eq_command_iff (known_of_comesTo hcomes)).2 ⟨hcommand, hquery⟩, ?_, ?_⟩
    · rw [hlast]
      simp [hrequest]
    · rw [hlast]
      rfl

/-- A class is a query handler exactly when it comes to a query contract of
two closed types, and a command handler exactly when it comes to a command
contract of one. When all base entries on the way can be resolved, every
other class is found to be none. -/
theorem classify_iff_reaches_contract (env : Environment) (query command : List String)
    {c : Candidate} (hc : c ∈ env.candidates) :
    let outcome := (env.classify (ContractSet.bind env query command) c).result
    (∀ q r, outcome = .ok (some (.query q r)) ↔ env.AnswersQuery query command c q r) ∧
    (∀ q, outcome = .ok (some (.command q)) ↔ env.AnswersCommand query command c q) ∧
    (env.WalkResolves query command c → (∀ q r, ¬ env.AnswersQuery query command c q r) →
      (∀ q, ¬ env.AnswersCommand query command c q) → outcome = .ok none) := by
  refine ⟨fun q r => classify_eq_query_iff hc, fun q => classify_eq_command_iff hc,
    fun hwalk hquery hcommand => ?_⟩
  have hreturns : (env.classify (ContractSet.bind env query command) c).Returns :=
    classify_returns fun s passed hs hg htrail =>
      hwalk s passed hs (isGeneric_eq_false_iff.1 hg) (walks_iff_searchTrail.2 htrail)
  obtain ⟨o, ho⟩ := hreturns
  cases o with
  | none => exact ho
  | some handler =>
    cases handler with
    | query q r => exact absurd ((classify_eq_query_iff hc).1 ho) (hquery q r)
    | command q => exact absurd ((classify_eq_command_iff hc).1 ho) (hcommand q)

theorem walkResolves_of_forall {c : Candidate}
    (h : ∀ s ∈ env.table.symbols, ∀ d ∈ s.declarations, env.EntryResolves d) :
    env.WalkResolves query command c :=
  fun _ _ _ _ _ around haround d hd =>
    h around (SymbolTable.mem_of_get? haround) d (tried_subset _ _ hd)

end Environment

/-! ## A query behind a generic base -/

namespace Sample

open Registrar.Tree

/-- The written type `name<arguments>`. -/
def generic (name : String) (arguments : List Node) : Node :=
  .node .genericName "" true none 0
    [word .identifier name none, .node .typeArguments "" true none 0 arguments]

/-- `class Base<T> : IQueryHandler<T, string[]>` and `class Ping : Base<Order>`. -/
def ping : Environment :=
  .build
    [file "ping.cs"
      [typeNode .class [] "Base" ["T"]
          [generic "IQueryHandler" [word .identifier "T" none,
            .node .arrayType "" true none 0 [word .predefinedType "string" none]]],
        typeNode .class [] "Ping" [] [generic "Base" [word .identifier "Order" none]]]]
    (Reference.contracts ["IQueryHandler"] ["ICommandHandler"])

/-- The class `Ping`. -/
def pingClass : Candidate :=
  ping.candidates.get ⟨1, by decide⟩

end Sample

namespace Environment

theorem classify_iff_reaches_contract_ping :
    Sample.pingClass ∈ Sample.ping.candidates ∧
      Sample.ping.WalkResolves ["IQueryHandler"] ["ICommandHandler"] Sample.pingClass ∧
      Sample.ping.AnswersQuery ["IQueryHandler"] ["ICommandHandler"] Sample.pingClass
        "Order" "string[]" := by
  have hmem : Sample.pingClass ∈ Sample.ping.candidates := List.get_mem _ _
  have hresolves : Sample.ping.WalkResolves ["IQueryHandler"] ["ICommandHandler"]
      Sample.pingClass := walkResolves_of_forall (by decide +kernel)
  have h := classify_iff_reaches_contract Sample.ping ["IQueryHandler"] ["ICommandHandler"] hmem
  exact ⟨hmem, hresolves, (h.1 "Order" "string[]").1 (by decide +kernel)⟩

end Environment

end Registrar
