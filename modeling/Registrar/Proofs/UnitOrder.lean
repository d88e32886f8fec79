/-
The order of the units does not decide which handlers there are
(`handlers_perm`). It shows in many places: the first declaration of a symbol
gives it its kind and type parameters, a candidate is the first part of its
class, the parts of a class are asked for a base one after the other, and
directives and symbols stand in the order of their units. `Orderly` says when
none of this matters.

A base at which the search for a contract goes on or succeeds is then a base
in both orders (`baseType_perm`). A walk to a contract has no other bases, so
it can be walked in both (`searchTrail_perm`), and each class that is a
handler is one in both, perhaps found at another of its parts
(`classify_perm`).
-/
import Registrar.Proofs.Reordering
import Registrar.Proofs.Handlers

namespace Registrar

namespace Environment

open TypeDeclaration

variable {units others : List SourceUnit} {references : List Reference}
  {query command : List String}

/-- The contracts of the environment of some units. -/
abbrev contractsOf (units : List SourceUnit) (references : List Reference)
    (query command : List String) : ContractSet :=
  ContractSet.bind (build units references) query command

/-- Two declarations with one namespace, with types of the same names and
arities around them, and with the same type parameters. -/
def SameHeader (d e : TypeDeclaration) : Prop :=
  d.ns = e.ns ∧
    d.containers.map (fun around => (around.name, around.typeParameters.length)) =
      e.containers.map (fun around => (around.name, around.typeParameters.length)) ∧
    d.typeParameters = e.typeParameters

/-- No order of the units decides what a symbol or a base is: all first
entries of base lists can be resolved, no two global directives share an
alias, no name has two arities, and the declarations of an unambiguous symbol
have the same headers up to their bases, where no two offer different types
that are contracts or no interfaces. -/
structure Orderly (units : List SourceUnit) (references : List Reference)
    (query command : List String) : Prop where
  resolves : ∀ d ∈ units.flatMap SourceUnit.declarations, (build units references).EntryResolves d
  aliases : ((build units references).globalScope.directives.filterMap (·.aliasName)).Nodup
  arities : (build units references).OneArity
  headers : ∀ s ∈ (build units references).table.symbols, s.isAmbiguous = false →
    ∀ d ∈ s.declarations, ∀ e ∈ s.declarations, SameHeader d e
  bases : ∀ s ∈ (build units references).table.symbols, s.isAmbiguous = false →
    ∀ d ∈ s.declarations, ∀ e ∈ s.declarations, ∀ t u,
      (build units references).offer? d = some t → (build units references).offer? e = some u →
      (build units references).isEligible
        (contractsOf units references query command).isContract t = true →
      (build units references).isEligible
        (contractsOf units references query command).isContract u = true → t = u

/-! ## Contracts -/

theorem mem_keysNamed_perm (h : units.Perm others) {key : SymbolKey} {names : List String}
    (hkey : key ∈ ContractSet.keysNamed (build units references) names) :
    key ∈ ContractSet.keysNamed (build others references) names := by
  rw [mem_keysNamed] at hkey ⊢
  obtain ⟨⟨s, hs, rfl⟩, hname⟩ := hkey
  obtain ⟨s', hs', hsame⟩ := exists_mem_perm h hs
  exact ⟨⟨s', hs', hsame.key.symm⟩, hname⟩

theorem contract?_perm (h : units.Perm others) (references : List Reference)
    (query command : List String) :
    (contractsOf units references query command).contract? =
      (contractsOf others references query command).contract? := by
  have hcontains : ∀ names key,
      (ContractSet.keysNamed (build units references) names).contains key =
        (ContractSet.keysNamed (build others references) names).contains key := by
    intro names key
    rw [Bool.eq_iff_iff, List.contains_iff_mem, List.contains_iff_mem]
    exact ⟨mem_keysNamed_perm h, mem_keysNamed_perm h.symm⟩
  funext key
  unfold ContractSet.contract? contractsOf ContractSet.bind
  dsimp only
  rw [hcontains query key, hcontains command key]

theorem isContract_perm (h : units.Perm others) (references : List Reference)
    (query command : List String) :
    (contractsOf units references query command).isContract =
      (contractsOf others references query command).isContract := by
  funext key
  rw [ContractSet.isContract, ContractSet.isContract, contract?_perm h]

/-- A known symbol has its kind in both orders. -/
theorem kind_perm (h : units.Perm others) {key : SymbolKey}
    (hknown : ∃ s, (build units references).Known s ∧ s.key = key) :
    ∃ s s', (build units references).table.get? key = some s ∧
      (build others references).table.get? key = some s' ∧ s.kind = s'.kind := by
  obtain ⟨s, hs, rfl⟩ := hknown
  have hget := get?_of_mem hs.1
  obtain ⟨s', hs', hsame⟩ := exists_get?_perm h hget
  exact ⟨s, s', hget, hs', hsame.kind hs.2⟩

theorem isEligible_perm (h : units.Perm others) {offer : NamedType}
    (hknown : ∃ s, (build units references).Known s ∧ s.key = offer.symbol) :
    (build units references).isEligible (contractsOf units references query command).isContract
        offer =
      (build others references).isEligible (contractsOf others references query command).isContract
        offer := by
  obtain ⟨s, s', hs, hs', hkind⟩ := kind_perm h hknown
  rw [isEligible, isEligible, hs, hs', isContract_perm h]
  dsimp only
  rw [hkind]

theorem endsSearch_perm (h : units.Perm others) {base : NamedType}
    (hknown : ∃ s, (build units references).Known s ∧ s.key = base.symbol) :
    (build units references).endsSearch (contractsOf units references query command) base =
      (build others references).endsSearch (contractsOf others references query command) base := by
  obtain ⟨s, s', hs, hs', hkind⟩ := kind_perm h hknown
  rw [endsSearch, endsSearch, hs, hs', isContract_perm h, Option.any_some, Option.any_some, hkind]

/-! ## Bases -/

namespace Orderly

theorem seesAlike (ho : Orderly units references query command) (h : units.Perm others)
    (d : TypeDeclaration) : SeesAlike (build units references) d (build others references) d :=
  Environment.seesAlike h ho.arities ho.aliases d

/-- What is orderly in one order is so in all. -/
theorem perm (ho : Orderly units references query command) (h : units.Perm others) :
    Orderly others references query command where
  resolves := by
    intro d hd
    exact (ho.seesAlike h d).entryResolves rfl (ho.resolves d ((h.flatMap_right _).mem_iff.2 hd))
  aliases := ((globalDirectives_perm h references).filterMap _).nodup_iff.1 ho.aliases
  arities := by
    intro s' hs' t' ht' hname
    obtain ⟨s, hs, hsame⟩ := exists_mem_perm h.symm hs'
    obtain ⟨t, ht, htsame⟩ := exists_mem_perm h.symm ht'
    rw [hsame.key, htsame.key] at hname ⊢
    exact ho.arities s hs t ht hname
  headers := by
    intro s' hs' hambiguous d hd e he
    obtain ⟨s, hs, hsame⟩ := exists_mem_perm h.symm hs'
    rw [hsame.isAmbiguous] at hambiguous
    exact ho.headers s hs hambiguous d (hsame.declarations.mem_iff.1 hd) e
      (hsame.declarations.mem_iff.1 he)
  bases := by
    intro s' hs' hambiguous d hd e he t u ht hu heligible heligible'
    obtain ⟨s, hs, hsame⟩ := exists_mem_perm h.symm hs'
    rw [hsame.isAmbiguous] at hambiguous
    rw [← (ho.seesAlike h _).offer?_eq rfl] at ht hu
    rw [← isEligible_perm h (known_of_offer? ht)] at heligible
    rw [← isEligible_perm h (known_of_offer? hu)] at heligible'
    exact ho.bases s hs hambiguous d (hsame.declarations.mem_iff.1 hd) e
      (hsame.declarations.mem_iff.1 he) t u ht hu heligible heligible'

/-- The first entries of all declarations of a symbol can be resolved. -/
theorem entryResolves (ho : Orderly units references query command) {key : SymbolKey} {s : Symbol}
    (hs : (build units references).table.get? key = some s) {d : TypeDeclaration}
    (hd : d ∈ s.declarations) : (build units references).EntryResolves d :=
  ho.resolves d ((mem_declarations_of_get? hs).1 hd).1

theorem typeParameters_eq (ho : Orderly units references query command) {s s' : Symbol}
    (hs : s ∈ (build units references).table.symbols) (hambiguous : s.isAmbiguous = false)
    (hsame : s.SameParts s') : s.typeParameters = s'.typeParameters :=
  hsame.typeParameters fun d hd e he => (ho.headers s hs hambiguous d hd e he).2.2

/-- An eligible base is the base in both orders. -/
theorem baseType_perm (ho : Orderly units references query command) (h : units.Perm others)
    {t base : NamedType}
    (hbase : ((build units references).baseType
      (contractsOf units references query command).isContract t).result = .ok (some base))
    (heligible : (build units references).isEligible
      (contractsOf units references query command).isContract base = true) :
    ((build others references).baseType
      (contractsOf others references query command).isContract t).result = .ok (some base) := by
  obtain ⟨s, d, offer, hs, href, hambiguous, hd, hoffer, rfl⟩ := exists_offer_of_baseType hbase
  obtain ⟨s', hs', hsame⟩ := exists_get?_perm h hs
  have hoffer' := hoffer
  rw [(ho.seesAlike h d).offer?_eq rfl] at hoffer'
  have heligible' : (build others references).isEligible
      (contractsOf others references query command).isContract offer = true := by
    rw [← isEligible_perm h (known_of_offer? hoffer)]
    simpa [isEligible] using heligible
  have hmem : offer ∈ s'.declarations.filterMap (build others references).offer? :=
    List.mem_filterMap.2 ⟨d, hsame.declarations.mem_iff.1 hd, hoffer'⟩
  -- Any eligible offer found in the other order is this one.
  have hfind : (s'.declarations.filterMap (build others references).offer?).find?
      ((build others references).isEligible
        (contractsOf others references query command).isContract) = some offer := by
    obtain ⟨found, hfound⟩ :=
      Option.isSome_iff_exists.1 (List.find?_isSome.2 ⟨offer, hmem, heligible'⟩)
    obtain ⟨e, he, hefound⟩ := List.mem_filterMap.1 (List.mem_of_find?_eq_some hfound)
    rw [hfound]
    exact congrArg some ((ho.perm h).bases s' (SymbolTable.mem_of_get? hs')
      (hsame.isAmbiguous ▸ hambiguous) e he d (hsame.declarations.mem_iff.1 hd) found offer hefound
      hoffer' (List.find?_some hfound) heligible')
  rw [baseType_result hs' (hsame.isReference ▸ href) (hsame.isAmbiguous ▸ hambiguous)
      fun e he => (ho.perm h).entryResolves hs' (tried_subset _ _ he),
    hfind, ho.typeParameters_eq (SymbolTable.mem_of_get? hs) hambiguous hsame]
  rfl

/-! ## Walks -/

theorem climbs_perm (ho : Orderly units references query command) (h : units.Perm others)
    {t : NamedType} {passed : List NamedType}
    (hclimbs : (build units references).Climbs
      (contractsOf units references query command).isContract t passed)
    (heligible : ∀ base ∈ passed, (build units references).isEligible
      (contractsOf units references query command).isContract base = true) :
    (build others references).Climbs
      (contractsOf others references query command).isContract t passed := by
  induction passed generalizing t with
  | nil => trivial
  | cons base rest ih =>
    rw [List.forall_mem_cons] at heligible
    exact ⟨ho.baseType_perm h hclimbs.1 heligible.1, ih hclimbs.2 heligible.2⟩

/-- The declared type of a symbol is the same in both orders. -/
theorem declaredType_perm (ho : Orderly units references query command) {s s' : Symbol}
    (hs : s ∈ (build units references).table.symbols) (hambiguous : s.isAmbiguous = false)
    (hsame : s.SameParts s') : declaredType s = declaredType s' := by
  rw [declaredType, declaredType, hsame.key, ho.typeParameters_eq hs hambiguous hsame]

/-- A search that has passed some bases has passed them in both orders. -/
theorem searchTrail_perm (ho : Orderly units references query command) (h : units.Perm others)
    {s s' : Symbol} (hs : s ∈ (build units references).table.symbols)
    (hambiguous : s.isAmbiguous = false) (hsame : s.SameParts s') {passed : List NamedType}
    (htrail : (build units references).SearchTrail
      (contractsOf units references query command) s passed) :
    (build others references).SearchTrail
      (contractsOf others references query command) s' passed := by
  have hknown := known_of_climbs htrail.climbs
  unfold SearchTrail
  rw [← hsame.key, ← ho.declaredType_perm hs hambiguous hsame]
  refine ⟨ho.climbs_perm h htrail.climbs fun base hbase => ?_, htrail.length_lt, htrail.distinct,
    fun base hbase => ?_⟩
  · exact isEligible_of_goesOn (htrail.goesOn base hbase)
  · rw [← endsSearch_perm h (hknown base hbase)]
    exact htrail.goesOn base hbase

end Orderly

/-! ## Candidates -/

namespace SameHeader

variable {d e : TypeDeclaration}

/-- Declarations of one symbol with the same namespace and the same names
around them have the same name. -/
theorem name_eq (h : SameHeader d e) {key : SymbolKey} (hd : d.key? = some key)
    (he : e.key? = some key) : d.name = e.name := by
  have hnames : d.containers.map Enclosing.name = e.containers.map Enclosing.name := by
    have := congrArg (List.map Prod.fst) h.2.1
    rwa [List.map_map, List.map_map] at this
  have hd := (key?_eq_some_iff.1 hd).1
  have he := (key?_eq_some_iff.1 he).1
  unfold TypeDeclaration.qualifiedName? Registrar.qualifiedName? at hd he
  rw [← hnames, ← h.1] at he
  obtain ⟨ds, hds, hdname⟩ := Option.map_eq_some_iff.1 hd
  obtain ⟨es, hes, hename⟩ := Option.map_eq_some_iff.1 he
  simp only [List.mapM_cons, id_eq, Option.bind_eq_bind, Option.bind_eq_some_iff, Option.pure_def,
    Option.some.injEq] at hds hes
  obtain ⟨name, hname, around, haround, rfl⟩ := hds
  obtain ⟨name', hname', around', haround', rfl⟩ := hes
  cases haround.symm.trans haround'
  rw [← hename, List.reverse_cons, List.reverse_cons] at hdname
  rw [hname, hname', Text.eq_of_intercalate_concat_eq (Text.eq_of_qualify_eq hdname)]

theorem isGeneric_eq_false (h : SameHeader d e) (hd : isGeneric d = false) :
    isGeneric e = false := by
  rw [isGeneric_eq_false_iff, arity] at hd ⊢
  refine ⟨h.2.2 ▸ hd.1, fun around haround => ?_⟩
  have hmem := List.mem_map_of_mem (f := fun around : Enclosing =>
    (around.name, around.typeParameters.length)) haround
  rw [← h.2.1] at hmem
  obtain ⟨other, hother, heq⟩ := List.mem_map.1 hmem
  rw [← (Prod.mk.inj heq).2]
  exact hd.2 other hother

end SameHeader

theorem mem_located_perm (h : units.Perm others) {u : SourceUnit} {d : TypeDeclaration}
    (hd : (u, d) ∈ (build units references).located) :
    (u, d) ∈ (build others references).located :=
  ((h.map _).flatMap_right _).mem_iff.1 hd

/-- A class that is a candidate is one in both orders, perhaps at another of its parts. -/
theorem exists_candidate_perm (ho : Orderly units references query command) (h : units.Perm others)
    {c : Candidate} (hc : c ∈ (build units references).candidates) {s : Symbol}
    (hs : c.symbol = some s) :
    ∃ c' ∈ (build others references).candidates, ∃ s', c'.symbol = some s' ∧ s.SameParts s' ∧
      c'.name = c.name ∧ SameHeader c.declaration c'.declaration := by
  obtain ⟨hplace, hkind, _⟩ := candidate_spec hc
  obtain ⟨hkey, hget, hambiguous⟩ := candidate_symbol hc hs
  obtain ⟨s', hget', hsame⟩ := exists_get?_perm h hget
  have hdeclared : (build others references).declaredSymbol? c.declaration = some s' := by
    rw [declaredSymbol?_eq_some_iff, ← hsame.key]
    exact ⟨hkey, hget', hsame.isAmbiguous ▸ hambiguous⟩
  obtain ⟨c', hc', hs'⟩ := exists_candidate (mem_located_perm h hplace) hkind hdeclared
  obtain ⟨hkey', _, _⟩ := candidate_symbol hc' hs'
  have hpart : c.declaration ∈ s.declarations := by
    rw [mem_declarations_of_get? hget, ← build_located_snd units references]
    exact ⟨List.mem_map_of_mem hplace, hkey⟩
  have hpart' : c'.declaration ∈ s.declarations := by
    rw [hsame.declarations.mem_iff, mem_declarations_of_get? hget',
      ← build_located_snd others references, hsame.key]
    exact ⟨List.mem_map_of_mem (candidate_spec hc').1, hkey'⟩
  have hheader : SameHeader c.declaration c'.declaration :=
    ho.headers s (SymbolTable.mem_of_get? hget) hambiguous _ hpart _ hpart'
  have hname : c'.name = c.name := by
    rw [Candidate.name, Candidate.name, hheader.name_eq hkey (hsame.key ▸ hkey')]
  exact ⟨c', hc', s', hs', hsame, hname, hheader⟩

/-- A class that is a handler is one in both orders. -/
theorem classify_perm (ho : Orderly units references query command) (h : units.Perm others)
    {c : Candidate} (hc : c ∈ (build units references).candidates) {s : Symbol}
    (hs : c.symbol = some s) {handler : Handler}
    (hhandler : ((build units references).classify
      (contractsOf units references query command) c).result = .ok (some handler)) :
    ∃ c' ∈ (build others references).candidates, ∃ s', c'.symbol = some s' ∧ s'.key = s.key ∧
      c'.name = c.name ∧ ((build others references).classify
        (contractsOf others references query command) c').result = .ok (some handler) := by
  obtain ⟨c', hc', s', hs', hsame, hname, hheader⟩ := exists_candidate_perm ho h hc hs
  obtain ⟨_, hget, hambiguous⟩ := candidate_symbol hc hs
  obtain ⟨t, passed, last, contract, ht, hgeneric, htrail, hup, hcontract, hopen, hfit⟩ :=
    classify_eq_some_iff.1 hhandler
  cases hs.symm.trans ht
  have hmem := SymbolTable.mem_of_get? hget
  have heligible : (build units references).isEligible
      (contractsOf units references query command).isContract last = true := by
    simp [isEligible, ContractSet.isContract, hcontract]
  refine ⟨c', hc', s', hs', hsame.key.symm, hname, classify_eq_some_iff.2 ?_⟩
  refine ⟨s', passed, last, contract, hs', hheader.isGeneric_eq_false hgeneric,
    ho.searchTrail_perm h hmem hambiguous hsame htrail, ?_, ?_, hopen, hfit⟩
  · rw [← ho.declaredType_perm hmem hambiguous hsame]
    exact ho.baseType_perm h hup heligible
  · rw [← contract?_perm h]
    exact hcontract

/-- The candidates can all be classified. -/
theorem Orderly.classify_returns (ho : Orderly units references query command) (c : Candidate) :
    ((build units references).classify (contractsOf units references query command) c).Returns :=
  Environment.classify_returns fun _ _ _ _ _ _ haround _ hd =>
    ho.entryResolves haround (tried_subset _ _ hd)

theorem registration_mem_perm (ho : Orderly units references query command) (h : units.Perm others)
    {registered : String × String × Handler}
    (hmem : registered ∈ ((build units references).candidates.filterMap
      ((build units references).registrationOf?
        (contractsOf units references query command))).map registration) :
    registered ∈ ((build others references).candidates.filterMap
      ((build others references).registrationOf?
        (contractsOf others references query command))).map registration := by
  obtain ⟨found, hfound, rfl⟩ := List.mem_map.1 hmem
  obtain ⟨c, hc, hregistered⟩ := List.mem_filterMap.1 hfound
  obtain ⟨hs, handler, hhandler, hentry⟩ := registrationOf?_eq_some_iff.1 hregistered
  obtain ⟨c', hc', s', hs', hkey, hname, hhandler'⟩ := classify_perm ho h hc hs hhandler
  refine List.mem_map.2 ⟨(s', ⟨c'.name, s'.key.name, handler, c'.unit.path⟩), ?_, ?_⟩
  · exact List.mem_filterMap.2 ⟨c', hc', registrationOf?_eq_some_iff.2 ⟨hs', handler, hhandler', rfl⟩⟩
  · rw [registration, registration, hentry, hkey, hname]

/-- In whatever order the units are given, the same handlers are found under
the same names with the same contracts, each as often. -/
theorem handlers_perm (references : List Reference) (query command : List String)
    (h : units.Perm others) (ho : Orderly units references query command) :
    ∃ found found' : List (Symbol × Entry),
      ((build units references).handlers
        (ContractSet.bind (build units references) query command)).result = .ok found ∧
      ((build others references).handlers
        (ContractSet.bind (build others references) query command)).result = .ok found' ∧
      (found.map registration).Perm (found'.map registration) := by
  refine ⟨_, _, handlers_result fun c _ => ho.classify_returns c,
    handlers_result fun c _ => (ho.perm h).classify_returns c, ?_⟩
  refine (List.perm_ext_iff_of_nodup (nodup_registration _ _) (nodup_registration _ _)).2 ?_
  exact fun registered =>
    ⟨registration_mem_perm ho h, registration_mem_perm (ho.perm h) h.symm⟩

/-- The offers of a symbol agree where at most one of them is eligible. -/
theorem offers_eq_of_length_le_one {env : Environment} {prefer : SymbolKey → Bool}
    {ds : List TypeDeclaration}
    (h : ((ds.filterMap env.offer?).filter (env.isEligible prefer)).length ≤ 1)
    {d e : TypeDeclaration} (hd : d ∈ ds) (he : e ∈ ds) {t u : NamedType}
    (ht : env.offer? d = some t) (hu : env.offer? e = some u)
    (heligible : env.isEligible prefer t = true) (heligible' : env.isEligible prefer u = true) :
    t = u := by
  have htmem : t ∈ (ds.filterMap env.offer?).filter (env.isEligible prefer) :=
    List.mem_filter.2 ⟨List.mem_filterMap.2 ⟨d, hd, ht⟩, heligible⟩
  have humem : u ∈ (ds.filterMap env.offer?).filter (env.isEligible prefer) :=
    List.mem_filter.2 ⟨List.mem_filterMap.2 ⟨e, he, hu⟩, heligible'⟩
  revert h htmem humem
  generalize (ds.filterMap env.offer?).filter (env.isEligible prefer) = offers
  intro h htmem humem
  match offers with
  | [] => cases htmem
  | [offer] => rw [List.mem_singleton.1 htmem, List.mem_singleton.1 humem]
  | _ :: _ :: _ => simp at h

end Environment

/-! ## A handler in two parts -/

namespace Sample

/-- `interface IMarker` and `partial class Ping : IMarker` in one file, and
`partial class Ping : IQueryHandler<Ping, string>` in another. -/
def parts : List SourceUnit :=
  [file "a.cs"
      [typeNode .interface [] "IMarker" [] [],
        typeNode .class ["partial"] "Ping" [] [word .identifier "IMarker" none]],
    file "b.cs"
      [typeNode .class ["partial"] "Ping" []
        [generic "IQueryHandler"
          [word .identifier "Ping" none, word .predefinedType "string" none]]]]

def contracts : List Reference :=
  Reference.contracts ["IQueryHandler"] ["ICommandHandler"]

theorem parts_orderly :
    Environment.Orderly parts contracts ["IQueryHandler"] ["ICommandHandler"] where
  resolves := by decide +kernel
  aliases := by decide +kernel
  arities := by
    unfold Environment.OneArity
    decide +kernel
  headers := by
    unfold Environment.SameHeader
    decide +kernel
  bases := by
    intro s hs _ d hd e he t u ht hu heligible heligible'
    have hone : ∀ s ∈ (Environment.build parts contracts).table.symbols,
        ((s.declarations.filterMap (Environment.build parts contracts).offer?).filter
          ((Environment.build parts contracts).isEligible (ContractSet.bind
            (Environment.build parts contracts) ["IQueryHandler"] ["ICommandHandler"]).isContract)).length
          ≤ 1 := by decide +kernel
    exact Environment.offers_eq_of_length_le_one (hone s hs) hd he ht hu heligible heligible'

end Sample

namespace Environment

theorem handlers_perm_parts :
    Sample.parts.Perm Sample.parts.reverse ∧
      Orderly Sample.parts Sample.contracts ["IQueryHandler"] ["ICommandHandler"] ∧
      ∃ found found' : List (Symbol × Entry),
        ((build Sample.parts Sample.contracts).handlers (ContractSet.bind
          (build Sample.parts Sample.contracts) ["IQueryHandler"] ["ICommandHandler"])).result =
            .ok found ∧
        ((build Sample.parts.reverse Sample.contracts).handlers (ContractSet.bind
          (build Sample.parts.reverse Sample.contracts) ["IQueryHandler"]
            ["ICommandHandler"])).result = .ok found' ∧
        (found.map registration).Perm (found'.map registration) := by
  have hperm : Sample.parts.Perm Sample.parts.reverse := (List.reverse_perm _).symm
  exact ⟨hperm, Sample.parts_orderly, handlers_perm _ _ _ hperm Sample.parts_orderly⟩

example : ((build Sample.parts.reverse Sample.contracts).handlers (contractsOf Sample.parts.reverse
      Sample.contracts ["IQueryHandler"] ["ICommandHandler"])).result.toOption.map
        (·.map registration) = some [("Ping", "Ping", .query "Ping" "string")] := by
  decide +kernel

end Environment

end Registrar
