/-
The parts of a type and its base. A part offers the named type that its first
base entry means, and an offer is eligible when it is no interface, or when it
is preferred. The base is the first eligible offer, and only when there is none
the first offer (`baseType_from_parts`). So what the other parts say does not
matter as long as one of them is eligible: two environments that differ in the
parts of their types only (`SameButParts`) give a type the same base when the
eligible parts of the type are the same in both, in the same order.
-/
import Registrar.Proofs.Agreement
import Registrar.Proofs.Classification

namespace Registrar

namespace Environment

variable {env env' : Environment} {prefer : SymbolKey → Bool}

/-! ## What a part offers -/

/-- The first base entry of `d` means the type `offer`. -/
def Offers (env : Environment) (d : TypeDeclaration) (offer : NamedType) : Prop :=
  ∃ entry, d.bases.head? = some entry ∧ (env.resolve d entry).result = .ok offer.toTy

/-- The type may be a base whatever else is offered. -/
def Eligible (env : Environment) (prefer : SymbolKey → Bool) (offer : NamedType) : Prop :=
  prefer offer.symbol = true ∨ ∃ s, env.table.get? offer.symbol = some s ∧ s.kind ≠ .interface

/-- The part offers an eligible type. -/
def offersBase (env : Environment) (prefer : SymbolKey → Bool) (d : TypeDeclaration) : Bool :=
  (env.offer? d).any (env.isEligible prefer)

/-- `offer` is the first of the offers of `ds` that `p` admits. -/
def IsFirstOffer (env : Environment) (p : NamedType → Prop) (ds : List TypeDeclaration)
    (offer : NamedType) : Prop :=
  ∃ before d after, ds = before ++ d :: after ∧ env.Offers d offer ∧ p offer ∧
    ∀ e ∈ before, ∀ other, env.Offers e other → ¬ p other

theorem offer?_eq_some_iff {d : TypeDeclaration} {offer : NamedType} :
    env.offer? d = some offer ↔ env.Offers d offer := by
  constructor
  · exact exists_entry_of_offer?
  · intro h
    obtain ⟨entry, hentry, hresolve⟩ := h
    obtain ⟨rest, hbases⟩ := List.head?_eq_some_iff.1 hentry
    have hoffer : (env.baseOffer d).result = .ok (some offer) := by
      unfold baseOffer
      rw [hbases]
      dsimp only
      rw [Noted.result_bind_of_ok hresolve]
      rfl
    rw [offer?, hoffer]

theorem isEligible_iff {d : TypeDeclaration} {offer : NamedType} (h : env.Offers d offer) :
    env.isEligible prefer offer = true ↔ env.Eligible prefer offer := by
  obtain ⟨known, hknown, hkey⟩ := known_of_offer? (offer?_eq_some_iff.2 h)
  -- An offer is a symbol of the table, so the case without one does not arise.
  have hheld : (env.table.get? offer.symbol).isSome = true :=
    List.find?_isSome.2 ⟨known, hknown.1, by simpa using hkey⟩
  obtain ⟨s, hs⟩ := Option.isSome_iff_exists.1 hheld
  simp [isEligible, Eligible, hs]

theorem offersBase_iff {d : TypeDeclaration} :
    env.offersBase prefer d = true ↔ ∃ offer, env.Offers d offer ∧ env.Eligible prefer offer := by
  unfold offersBase
  rw [Option.any_eq_true]
  constructor
  · intro h
    obtain ⟨offer, hoffer, heligible⟩ := h
    have hoffers := offer?_eq_some_iff.1 hoffer
    exact ⟨offer, hoffers, (isEligible_iff hoffers).1 heligible⟩
  · intro h
    obtain ⟨offer, hoffers, heligible⟩ := h
    exact ⟨offer, offer?_eq_some_iff.2 hoffers, (isEligible_iff hoffers).2 heligible⟩

/-- Searching the offers of some declarations finds the first one that passes. -/
theorem find?_offers_eq_some_iff {p : NamedType → Bool} {q : NamedType → Prop}
    (hpq : ∀ d offer, env.Offers d offer → (p offer = true ↔ q offer)) {ds : List TypeDeclaration}
    {offer : NamedType} :
    (ds.filterMap env.offer?).find? p = some offer ↔ env.IsFirstOffer q ds offer := by
  rw [List.find?_filterMap, Option.bind_eq_some_iff]
  constructor
  · intro h
    obtain ⟨d, hfind, hoffer⟩ := h
    obtain ⟨hpass, before, after, hsplit, hbefore⟩ := List.find?_eq_some_iff_append.1 hfind
    rw [hoffer, Option.any_some] at hpass
    have hoffers := offer?_eq_some_iff.1 hoffer
    refine ⟨before, d, after, hsplit, hoffers, (hpq d offer hoffers).1 hpass, ?_⟩
    intro e he other hother hq
    have hskipped := hbefore e he
    rw [offer?_eq_some_iff.2 hother, Option.any_some, (hpq e other hother).2 hq] at hskipped
    cases hskipped
  · intro h
    obtain ⟨before, d, after, hsplit, hoffers, hq, hbefore⟩ := h
    have hoffer := offer?_eq_some_iff.2 hoffers
    refine ⟨d, List.find?_eq_some_iff_append.2 ⟨?_, before, after, hsplit, ?_⟩, hoffer⟩
    · rw [hoffer, Option.any_some]
      exact (hpq d offer hoffers).2 hq
    · intro e he
      cases hother : env.offer? e with
      | none => rfl
      | some other =>
        have hother := offer?_eq_some_iff.1 hother
        have hnot := hbefore e he other hother
        rw [← hpq e other hother, Bool.not_eq_true] at hnot
        rw [Option.any_some, hnot]
        rfl

theorem find?_isEligible_eq_some_iff {ds : List TypeDeclaration} {offer : NamedType} :
    (ds.filterMap env.offer?).find? (env.isEligible prefer) = some offer ↔
      env.IsFirstOffer (env.Eligible prefer) ds offer :=
  find?_offers_eq_some_iff fun _ _ => isEligible_iff

theorem find?_isEligible_eq_none_iff {ds : List TypeDeclaration} :
    (ds.filterMap env.offer?).find? (env.isEligible prefer) = none ↔
      ∀ d ∈ ds, ∀ offer, env.Offers d offer → ¬ env.Eligible prefer offer := by
  rw [List.find?_eq_none]
  constructor
  · intro h d hd offer hoffer heligible
    exact h offer (List.mem_filterMap.2 ⟨d, hd, offer?_eq_some_iff.2 hoffer⟩)
      ((isEligible_iff hoffer).2 heligible)
  · intro h offer hmem heligible
    obtain ⟨d, hd, hoffer⟩ := List.mem_filterMap.1 hmem
    have hoffer := offer?_eq_some_iff.1 hoffer
    exact h d hd offer hoffer ((isEligible_iff hoffer).1 heligible)

theorem head?_offers_eq_some_iff {ds : List TypeDeclaration} {offer : NamedType} :
    (ds.filterMap env.offer?).head? = some offer ↔ env.IsFirstOffer (fun _ => True) ds offer := by
  have hhead : (ds.filterMap env.offer?).head? = (ds.filterMap env.offer?).find? fun _ => true := by
    cases ds.filterMap env.offer? <;> rfl
  rw [hhead]
  exact find?_offers_eq_some_iff fun _ _ _ => by simp

theorem head?_offers_eq_none_iff {ds : List TypeDeclaration} :
    (ds.filterMap env.offer?).head? = none ↔ ∀ d ∈ ds, ∀ offer, ¬ env.Offers d offer := by
  rw [List.head?_eq_none_iff, List.filterMap_eq_nil_iff]
  simp only [Option.eq_none_iff_forall_ne_some, ne_eq, offer?_eq_some_iff]

/-! ## The same parts but for some that are not eligible -/

/-- The eligible parts are the same, in the same order; others may be added, taken away or moved. -/
def SameEligible (env : Environment) (prefer : SymbolKey → Bool) (ds es : List TypeDeclaration) :
    Prop :=
  ds.filter (env.offersBase prefer) = es.filter (env.offersBase prefer)

/-- A part that is not eligible may be added or taken away anywhere. -/
theorem sameEligible_insert (before after : List TypeDeclaration) {d : TypeDeclaration}
    (h : env.offersBase prefer d = false) :
    env.SameEligible prefer (before ++ d :: after) (before ++ after) := by
  simp [SameEligible, h]

/-- The first eligible offer is one of an eligible part. -/
theorem find?_offers_filter (ds : List TypeDeclaration) :
    ((ds.filter (env.offersBase prefer)).filterMap env.offer?).find? (env.isEligible prefer) =
      (ds.filterMap env.offer?).find? (env.isEligible prefer) := by
  rw [List.find?_filterMap, List.find?_filterMap, List.find?_filter]
  simp [offersBase]

end Environment

/-! ## Environments that differ in the parts of their types -/

/-- What a symbol is, without the declarations that make it. -/
def Symbol.profile (s : Symbol) : SymbolKey × TypeKind × List String × Bool × Bool :=
  (s.key, s.kind, s.typeParameters, s.isReference, s.isAmbiguous)

namespace Environment

variable {env env' : Environment} {prefer : SymbolKey → Bool}

/-- The environments have the same symbols in the same order, up to their declarations, and the
same global directives. -/
structure SameButParts (env env' : Environment) : Prop where
  symbols : env.table.symbols.map Symbol.profile = env'.table.symbols.map Symbol.profile
  globalScope : env.globalScope = env'.globalScope

namespace SameButParts

theorem get?_profile (h : SameButParts env env') (key : SymbolKey) :
    (env.table.get? key).map Symbol.profile = (env'.table.get? key).map Symbol.profile := by
  have hfind : ∀ symbols : List Symbol, (symbols.find? (·.key == key)).map Symbol.profile =
      (symbols.map Symbol.profile).find? (·.1 == key) := by
    intro symbols
    rw [List.find?_map]
    rfl
  rw [SymbolTable.get?, SymbolTable.get?, hfind, hfind, h.symbols]

theorem find_profile (h : SameButParts env env') (precision : Precision) (name : String)
    (arity : Int) :
    (env.find precision name arity).map Symbol.profile =
      (env'.find precision name arity).map Symbol.profile := by
  cases precision with
  | exactArity =>
    have hfilter : ∀ o : Option Symbol, (o.filter (!·.isAmbiguous)).map Symbol.profile =
        (o.map Symbol.profile).filter (!·.2.2.2.2) := by
      intro o
      cases o with
      | none => rfl
      | some s =>
        rw [Option.filter_some, Option.map_some, Option.filter_some]
        show Option.map _ _ = if !s.isAmbiguous then _ else _
        cases s.isAmbiguous <;> rfl
    rw [find, find, hfilter, hfilter, h.get?_profile]
  | anyArity =>
    have hfind : ∀ symbols : List Symbol,
        ((symbols.filter (·.key.name == name)).find? (!·.isAmbiguous)).map Symbol.profile =
          ((symbols.map Symbol.profile).filter (·.1.name == name)).find? (!·.2.2.2.2) := by
      intro symbols
      rw [List.filter_map, List.find?_map]
      rfl
    rw [find, find, SymbolTable.named, SymbolTable.named, hfind, hfind, h.symbols]

/-- Every header sees the same in both. -/
theorem seesAlike (h : SameButParts env env') (d : TypeDeclaration) : SeesAlike env d env' d := by
  refine ⟨fun precision name arity => ?_, rfl, rfl, fun _ => Iff.rfl, ?_⟩
  · have hkey := congrArg (Option.map Prod.fst) (h.find_profile precision name arity)
    rw [Option.map_map, Option.map_map] at hkey
    exact hkey
  · rw [scopesOf, scopesOf, h.globalScope]
    exact List.forall₂_same.2 fun scope _ => .refl scope

theorem offer?_eq (h : SameButParts env env') : env.offer? = env'.offer? :=
  funext fun d => (h.seesAlike d).offer?_eq rfl

theorem isEligible_eq (h : SameButParts env env') :
    env.isEligible prefer = env'.isEligible prefer := by
  funext offer
  have hprofile := h.get?_profile offer.symbol
  unfold isEligible
  cases hs : env.table.get? offer.symbol with
  | none =>
    rw [hs, Option.map_none, eq_comm, Option.map_eq_none_iff] at hprofile
    rw [hprofile]
  | some s =>
    rw [hs, Option.map_some, eq_comm, Option.map_eq_some_iff] at hprofile
    obtain ⟨s', hs', hprofile⟩ := hprofile
    have hkind : s'.kind = s.kind := congrArg (·.2.1) hprofile
    rw [hs']
    simp only [hkind]

end SameButParts

/-! ## The base -/

/-- The type that an offer is for `t`: the parameters of its symbol are replaced by its arguments. -/
def boundOffer (s : Symbol) (t offer : NamedType) : NamedType :=
  offer.substitute (Bindings.ofArguments s.typeParameters t.arguments)

section

variable {t : NamedType} {s : Symbol}

theorem baseType_eq_none_iff (hs : env.table.get? t.symbol = some s) (href : s.isReference = false)
    (hambiguous : s.isAmbiguous = false) (hresolves : ∀ d ∈ s.declarations, env.EntryResolves d) :
    (env.baseType prefer t).result = .ok none ↔
      ∀ d ∈ s.declarations, ∀ offer, ¬ env.Offers d offer := by
  rw [baseType_result hs href hambiguous fun d hd => hresolves d (tried_subset prefer _ hd),
    ← head?_offers_eq_none_iff, Except.ok.injEq, Option.map_eq_none_iff, Option.or_eq_none_iff]
  constructor
  · exact fun h => h.2
  · intro h
    rw [List.head?_eq_none_iff] at h
    simp [h]

theorem baseType_of_eligible (hs : env.table.get? t.symbol = some s) (href : s.isReference = false)
    (hambiguous : s.isAmbiguous = false) (hresolves : ∀ d ∈ s.declarations, env.EntryResolves d)
    {offer : NamedType} (h : env.IsFirstOffer (env.Eligible prefer) s.declarations offer) :
    (env.baseType prefer t).result = .ok (some (boundOffer s t offer)) := by
  rw [baseType_result hs href hambiguous fun d hd => hresolves d (tried_subset prefer _ hd),
    find?_isEligible_eq_some_iff.2 h]
  rfl

/-- Where some part of a type is eligible, parts that are not can be left out of account. -/
theorem baseType_eq_of_sameEligible (hsame : SameButParts env env')
    (hs : env.table.get? t.symbol = some s) (href : s.isReference = false)
    (hambiguous : s.isAmbiguous = false) (hresolves : ∀ d ∈ s.declarations, env.EntryResolves d)
    {offer : NamedType} (h : env.IsFirstOffer (env.Eligible prefer) s.declarations offer)
    {s' : Symbol} (hs' : env'.table.get? t.symbol = some s')
    (hresolves' : ∀ d ∈ s'.declarations, env'.EntryResolves d)
    (heligible : env.SameEligible prefer s.declarations s'.declarations) :
    (env'.baseType prefer t).result = (env.baseType prefer t).result := by
  have hprofile := hsame.get?_profile t.symbol
  rw [hs, hs', Option.map_some, Option.map_some, Option.some.injEq] at hprofile
  simp only [Symbol.profile, Prod.mk.injEq] at hprofile
  obtain ⟨_, _, hparameters, href', hambiguous'⟩ := hprofile
  have hfirst : (s'.declarations.filterMap env.offer?).find? (env.isEligible prefer) =
      some offer := by
    rw [← find?_offers_filter, ← heligible, find?_offers_filter]
    exact find?_isEligible_eq_some_iff.2 h
  rw [hsame.offer?_eq, hsame.isEligible_eq] at hfirst
  rw [baseType_of_eligible hs href hambiguous hresolves h,
    baseType_result hs' (href' ▸ href) (hambiguous' ▸ hambiguous)
      fun d hd => hresolves' d (tried_subset prefer _ hd), hfirst, ← hparameters]
  rfl

/-- Parts without a base do not hide one. Where some part of a type is eligible, the base is the
offer of the first such part in terms of the arguments of the type, and it stays so in an
environment in which other parts of the type are added, taken away or moved. Where none is
eligible, the base is the first offer, and there is no base exactly when there is no offer. -/
theorem baseType_from_parts (hs : env.table.get? t.symbol = some s) (href : s.isReference = false)
    (hambiguous : s.isAmbiguous = false) (hresolves : ∀ d ∈ s.declarations, env.EntryResolves d) :
    ((∃ d ∈ s.declarations, ∃ offer, env.Offers d offer ∧ env.Eligible prefer offer) →
      ∃ offer, env.IsFirstOffer (env.Eligible prefer) s.declarations offer ∧
        (env.baseType prefer t).result = .ok (some (boundOffer s t offer)) ∧
        ∀ env' s', SameButParts env env' → env'.table.get? t.symbol = some s' →
          (∀ d ∈ s'.declarations, env'.EntryResolves d) →
          env.SameEligible prefer s.declarations s'.declarations →
          (env'.baseType prefer t).result = .ok (some (boundOffer s t offer))) ∧
    ((∀ d ∈ s.declarations, ∀ offer, env.Offers d offer → ¬ env.Eligible prefer offer) →
      (∃ d ∈ s.declarations, ∃ offer, env.Offers d offer) →
      ∃ offer, env.IsFirstOffer (fun _ => True) s.declarations offer ∧
        (env.baseType prefer t).result = .ok (some (boundOffer s t offer))) ∧
    ((env.baseType prefer t).result = .ok none ↔
      ∀ d ∈ s.declarations, ∀ offer, ¬ env.Offers d offer) := by
  refine ⟨?_, ?_, baseType_eq_none_iff hs href hambiguous hresolves⟩
  · intro hsome
    obtain ⟨d, hd, offer, hoffer, heligible⟩ := hsome
    cases hfind : (s.declarations.filterMap env.offer?).find? (env.isEligible prefer) with
    | none => exact absurd heligible (find?_isEligible_eq_none_iff.1 hfind d hd offer hoffer)
    | some first =>
      have hfirst := find?_isEligible_eq_some_iff.1 hfind
      have hbase := baseType_of_eligible hs href hambiguous hresolves hfirst
      refine ⟨first, hfirst, hbase, ?_⟩
      intro env' s' hsame hs' hresolves' hsameEligible
      rw [← hbase]
      exact baseType_eq_of_sameEligible hsame hs href hambiguous hresolves hfirst hs' hresolves'
        hsameEligible
  · intro hnone hsome
    obtain ⟨d, hd, offer, hoffer⟩ := hsome
    cases hfind : (s.declarations.filterMap env.offer?).head? with
    | none => exact absurd hoffer (head?_offers_eq_none_iff.1 hfind d hd offer)
    | some first =>
      refine ⟨first, head?_offers_eq_some_iff.1 hfind, ?_⟩
      rw [baseType_result hs href hambiguous fun d hd => hresolves d (tried_subset prefer _ hd),
        find?_isEligible_eq_none_iff.2 hnone, hfind]
      rfl

end

end Environment

/-! ## A class whose base stands in its last part -/

namespace Sample

open Registrar.Tree

/-- The part of `class Relay<T>` with the base list `bases`. -/
def relayPart (bases : List Node) : Node :=
  typeNode .class ["partial"] "Relay" ["T"] bases

/-- The files with `IMarker`, `Base<T>` and the given parts of `Relay<T>`. -/
def relayUnits (here there : List Node) : List SourceUnit :=
  [file "a.cs"
      ([typeNode .interface [] "IMarker" [] [], typeNode .class [] "Base" ["T"] []] ++ here),
    file "b.cs" there]

/-- `Relay<T> : IMarker` in front of `Relay<T> : Base<T>`. -/
def marked : List SourceUnit :=
  relayUnits [relayPart [word .identifier "IMarker" none]]
    [relayPart [generic "Base" [word .identifier "T" none]]]

/-- The part with the marker last, and two more in front of that with the base: one without bases
and one with an unknown base. -/
def remarked : List SourceUnit :=
  relayUnits [relayPart []]
    [relayPart [word .identifier "Missing" none],
      relayPart [generic "Base" [word .identifier "T" none]],
      relayPart [word .identifier "IMarker" none]]

/-- `Relay<int>`. -/
def relayOfInt : NamedType :=
  ⟨⟨"Relay", 1⟩, [.predefined "int"]⟩

/-- The symbol that the parts of `Relay` make. -/
def relaySymbol (units : List SourceUnit) : Symbol :=
  ((Environment.build units []).table.get? relayOfInt.symbol).getD
    (Reference.symbol ⟨"Relay", 1, .class⟩)

/-- What a part of `Relay` declares. -/
def relayDeclared (path : String) (bases : List TypeExpr) : TypeDeclaration :=
  ⟨path, .class, some "Relay", ["T"], bases, "", [], [⟨"", []⟩], true, 1⟩

/-- The written name `name<arguments>`. -/
def written (name : String) (arguments : List TypeExpr) : TypeExpr :=
  .name none [] (.segment name arguments)

end Sample

namespace Environment

open Sample

theorem sameEligible_marked :
    (build marked []).SameEligible (fun _ => false) (relaySymbol marked).declarations
      (relaySymbol remarked).declarations := by
  let base := relayDeclared "b.cs" [written "Base" [written "T" []]]
  let bare := relayDeclared "a.cs" []
  let unknown := relayDeclared "b.cs" [written "Missing" []]
  let marker := relayDeclared "a.cs" [written "IMarker" []]
  let marker' := relayDeclared "b.cs" [written "IMarker" []]
  have hmarked : (relaySymbol marked).declarations = [marker, base] := rfl
  have hremarked : (relaySymbol remarked).declarations = [bare, unknown, base, marker'] := rfl
  have hskipped : ∀ d ∈ [bare, unknown, marker, marker'],
      (build marked []).offersBase (fun _ => false) d = false := by decide +kernel
  simp only [List.forall_mem_cons] at hskipped
  obtain ⟨hbare, hunknown, hmarker, hmarker', -⟩ := hskipped
  rw [hmarked, hremarked]
  -- Both lists come from the part with the base by adding parts that are not eligible.
  have hfrom : SameEligible _ _ [marker, base] [base] := sameEligible_insert [] _ hmarker
  have hto : SameEligible _ _ [bare, unknown, base, marker'] [base] :=
    (sameEligible_insert [] _ hbare).trans
      ((sameEligible_insert [] _ hunknown).trans (sameEligible_insert [base] [] hmarker'))
  exact hfrom.trans hto.symm

theorem baseType_from_parts_remarked :
    let env := build marked []
    let env' := build remarked []
    env.table.get? relayOfInt.symbol = some (relaySymbol marked) ∧
      (relaySymbol marked).isReference = false ∧ (relaySymbol marked).isAmbiguous = false ∧
      (∀ d ∈ (relaySymbol marked).declarations, env.EntryResolves d) ∧
      env'.table.get? relayOfInt.symbol = some (relaySymbol remarked) ∧
      (∀ d ∈ (relaySymbol remarked).declarations, env'.EntryResolves d) ∧
      SameButParts env env' ∧
      env.SameEligible (fun _ => false) (relaySymbol marked).declarations
        (relaySymbol remarked).declarations ∧
      ∃ base, (env.baseType (fun _ => false) relayOfInt).result = .ok (some base) ∧
        (env'.baseType (fun _ => false) relayOfInt).result = .ok (some base) ∧
        base.toTy.display = "Base<int>" := by
  intro env env'
  have hs : env.table.get? relayOfInt.symbol = some (relaySymbol marked) := rfl
  have href : (relaySymbol marked).isReference = false := by decide +kernel
  have hambiguous : (relaySymbol marked).isAmbiguous = false := by decide +kernel
  have hresolves : ∀ d ∈ (relaySymbol marked).declarations, env.EntryResolves d := by
    decide +kernel
  have hs' : env'.table.get? relayOfInt.symbol = some (relaySymbol remarked) := rfl
  have hresolves' : ∀ d ∈ (relaySymbol remarked).declarations, env'.EntryResolves d := by
    decide +kernel
  have hsame : SameButParts env env' := ⟨by decide +kernel, rfl⟩
  have hsome : ∃ d ∈ (relaySymbol marked).declarations, ∃ offer, env.Offers d offer ∧
      env.Eligible (fun _ => false) offer := by
    have hany : ∃ d ∈ (relaySymbol marked).declarations,
        env.offersBase (fun _ => false) d = true := by decide +kernel
    simpa only [offersBase_iff] using hany
  obtain ⟨hbase, -, -⟩ :=
    @baseType_from_parts env (fun _ => false) relayOfInt _ hs href hambiguous hresolves
  obtain ⟨offer, -, hresult, hresult'⟩ := hbase hsome
  refine ⟨hs, href, hambiguous, hresolves, hs', hresolves', hsame, sameEligible_marked, _, hresult,
    hresult' env' _ hsame hs' hresolves' sameEligible_marked, ?_⟩
  have hdisplay : (env.baseType (fun _ => false) relayOfInt).result.toOption.map
      (·.map (·.toTy.display)) = some (some "Base<int>") := by decide +kernel
  rw [hresult] at hdisplay
  exact Option.some.inj (Option.some.inj hdisplay)

end Environment

end Registrar
