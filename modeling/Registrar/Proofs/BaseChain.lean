/-
The base of a type and the walk along bases, in closed form.

`chooseBase_result`: among the declarations of a type the first eligible
offer is the base, and failing that the first offer; only the first entries
up to that offer are resolved (`tried`). A walk is a `Trail`: the bases
passed so far, none of which ends it. `basesAbove` returns a trail with one
more base behind it (`basesAbove_sound`), and every trail whose next base
ends the walk is returned (`Trail.basesAbove_eq`).
-/
import Registrar.Proofs.Expansion
import Registrar.Semantics.BaseChain

namespace Registrar

namespace Environment

variable {env : Environment}

/-! ## Named types come from the table -/

theorem resolveWithin_eq (env : Environment) (d : TypeDeclaration) (depth : Nat) :
    ∃ expand, env.resolveWithin d depth = env.resolveWith d expand := by
  cases depth <;> exact ⟨_, rfl⟩

/-- Only names mean named types. -/
theorem exists_name_of_resolveWith {d : TypeDeclaration}
    {expand : TypeExpr → Noted EndlessAlias Ty} {e : TypeExpr} {key : SymbolKey}
    {arguments : List Ty}
    (h : (env.resolveWith d expand e).result = .ok (.named key arguments)) :
    ∃ qualifier path last, e = .name qualifier path last := by
  cases e with
  | name qualifier path last => exact ⟨qualifier, path, last, rfl⟩
  | predefined _ => cases h
  | raw _ => cases h
  | array _ _ | nullable _ | tuple _ =>
    rw [resolveWith, Noted.result_bind_eq_ok] at h
    obtain ⟨_, _, h⟩ := h
    cases h

/-- A type that resolution names is a known symbol, or what an alias expands to. -/
theorem known_of_resolveWith {d : TypeDeclaration} {expand : TypeExpr → Noted EndlessAlias Ty}
    (hexpand : ∀ target key arguments, (expand target).result = .ok (.named key arguments) →
      ∃ s, env.Known s ∧ s.key = key)
    {e : TypeExpr} {key : SymbolKey} {arguments : List Ty}
    (h : (env.resolveWith d expand e).result = .ok (.named key arguments)) :
    ∃ s, env.Known s ∧ s.key = key := by
  obtain ⟨qualifier, path, ⟨identifier, written⟩, rfl⟩ := exists_name_of_resolveWith h
  rw [resolveWith, Noted.result_bind_eq_ok] at h
  obtain ⟨ts, _, h⟩ := h
  split at h
  · cases h
  · exact hexpand _ _ _ h
  · rw [nameMeaning_result] at h
    exact known_of_tyOf (Except.ok.inj h)

theorem known_of_expandWith {resolve : TypeExpr → Noted EndlessAlias Ty}
    (hresolve : ∀ e key arguments, (resolve e).result = .ok (.named key arguments) →
      ∃ s, env.Known s ∧ s.key = key)
    {target : TypeExpr} {key : SymbolKey} {arguments : List Ty}
    (h : (env.expandWith resolve target).result = .ok (.named key arguments)) :
    ∃ s, env.Known s ∧ s.key = key := by
  cases target with
  | name qualifier path last =>
    rw [expandWith, Noted.result_bind_eq_ok] at h
    obtain ⟨ts, _, h⟩ := h
    dsimp only at h
    split at h
    · next s hs =>
      cases h
      exact ⟨s, known_of_find hs, rfl⟩
    · cases h
  | _ => exact hresolve _ key arguments h

theorem known_of_resolveWithin {d : TypeDeclaration} (depth : Nat) (e : TypeExpr) (key : SymbolKey)
    (arguments : List Ty) (h : (env.resolveWithin d depth e).result = .ok (.named key arguments)) :
    ∃ s, env.Known s ∧ s.key = key := by
  induction depth generalizing e key arguments with
  | zero =>
    exact known_of_resolveWith (fun _ _ _ hfail => by cases hfail) h
  | succ depth ih =>
    exact known_of_resolveWith (fun _ _ _ => known_of_expandWith ih) h

/-! ## The base of a type -/

/-- The first base entry of `d`, if it has one, can be resolved. -/
def EntryResolves (env : Environment) (d : TypeDeclaration) : Prop :=
  ∀ entry, d.bases.head? = some entry → ∃ t, (env.resolve d entry).result = .ok t

theorem entryResolves_iff {d : TypeDeclaration} :
    env.EntryResolves d ↔ d.bases.head?.all fun entry => (env.resolve d entry).result.isOk := by
  unfold EntryResolves
  cases d.bases.head? with
  | none => simp
  | some entry => cases h : (env.resolve d entry).result <;> simp [h, Except.isOk, Except.toBool]

instance (env : Environment) (d : TypeDeclaration) : Decidable (env.EntryResolves d) :=
  decidable_of_iff _ entryResolves_iff.symm

/-- The offer of `d`, when its first base entry can be resolved. -/
def offer? (env : Environment) (d : TypeDeclaration) : Option NamedType :=
  match (env.baseOffer d).result with
  | .ok offer => offer
  | .error _ => none

theorem baseOffer_result {d : TypeDeclaration} (h : env.EntryResolves d) :
    (env.baseOffer d).result = .ok (env.offer? d) := by
  have hreturns : ∃ offer, (env.baseOffer d).result = .ok offer := by
    unfold baseOffer
    cases hb : d.bases with
    | nil => exact ⟨none, rfl⟩
    | cons entry rest =>
      obtain ⟨t, ht⟩ := h entry (by rw [hb]; rfl)
      dsimp only
      rw [Noted.result_bind_of_ok ht]
      cases t <;> exact ⟨_, rfl⟩
  obtain ⟨offer, hoffer⟩ := hreturns
  rw [offer?, hoffer]

/-- An offer is what the first entry of the base list resolves to. -/
theorem exists_entry_of_offer? {d : TypeDeclaration} {offer : NamedType}
    (h : env.offer? d = some offer) :
    ∃ entry, d.bases.head? = some entry ∧ (env.resolve d entry).result = .ok offer.toTy := by
  unfold offer? at h
  split at h
  · next hoffer =>
    subst h
    unfold baseOffer at hoffer
    split at hoffer
    · cases hoffer
    · next entry rest hbases =>
      rw [Noted.result_bind_eq_ok] at hoffer
      obtain ⟨t, ht, hoffer⟩ := hoffer
      cases t with
      | named key arguments =>
        cases hoffer
        exact ⟨entry, by rw [hbases]; rfl, ht⟩
      | _ => cases hoffer
  · cases h

theorem known_of_offer? {d : TypeDeclaration} {offer : NamedType} (h : env.offer? d = some offer) :
    ∃ s, env.Known s ∧ s.key = offer.symbol := by
  obtain ⟨entry, _, hresolve⟩ := exists_entry_of_offer? h
  exact known_of_resolveWithin _ entry offer.symbol offer.arguments hresolve

/-- The declarations whose first entry is resolved when a base is chosen: those up to the first
eligible offer. -/
def tried (env : Environment) (prefer : SymbolKey → Bool) : List TypeDeclaration → List TypeDeclaration
  | [] => []
  | d :: rest => d :: if (env.offer? d).any (env.isEligible prefer) then [] else tried env prefer rest

theorem tried_subset (prefer : SymbolKey → Bool) (ds : List TypeDeclaration) :
    env.tried prefer ds ⊆ ds := by
  induction ds with
  | nil => exact List.nil_subset []
  | cons d rest ih =>
    unfold tried
    refine List.cons_subset_cons d ?_
    split
    · exact List.nil_subset rest
    · exact ih

/-- The base is the first eligible offer, or else the first offer, `fallback` before all. -/
theorem chooseBase_result {prefer : SymbolKey → Bool} {ds : List TypeDeclaration}
    (h : ∀ d ∈ env.tried prefer ds, env.EntryResolves d) (fallback : Option NamedType) :
    (env.chooseBase prefer fallback ds).result =
      .ok (((ds.filterMap env.offer?).find? (env.isEligible prefer)).or
        (fallback.or (ds.filterMap env.offer?).head?)) := by
  induction ds generalizing fallback with
  | nil => simp [chooseBase]
  | cons d rest ih =>
    rw [tried, List.forall_mem_cons] at h
    obtain ⟨hd, hrest⟩ := h
    rw [chooseBase, Noted.result_bind_of_ok (baseOffer_result hd)]
    cases hoffer : env.offer? d with
    | none =>
      rw [hoffer, Option.any_none] at hrest
      simp only [ih hrest, List.filterMap_cons_none hoffer]
    | some offer =>
      rw [hoffer, Option.any_some] at hrest
      simp only [List.filterMap_cons_some hoffer, List.find?_cons, List.head?_cons]
      cases heligible : env.isEligible prefer offer with
      | true => rfl
      | false =>
        rw [heligible] at hrest
        simp only [Bool.false_eq_true, if_false] at hrest ⊢
        rw [ih hrest]
        cases fallback <;> simp

theorem baseType_result {prefer : SymbolKey → Bool} {t : NamedType} {s : Symbol}
    (hs : env.table.get? t.symbol = some s) (href : s.isReference = false)
    (hambiguous : s.isAmbiguous = false)
    (h : ∀ d ∈ env.tried prefer s.declarations, env.EntryResolves d) :
    (env.baseType prefer t).result =
      .ok ((((s.declarations.filterMap env.offer?).find? (env.isEligible prefer)).or
        (s.declarations.filterMap env.offer?).head?).map
          (·.substitute (Bindings.ofArguments s.typeParameters t.arguments))) := by
  unfold baseType
  rw [hs]
  simp only [href, hambiguous, Bool.or_self, Bool.false_eq_true, if_false]
  rw [Noted.result_bind_of_ok (chooseBase_result h none)]
  rfl

theorem entryResolves_of_baseOffer {d : TypeDeclaration} (h : (env.baseOffer d).Returns) :
    env.EntryResolves d := by
  intro entry hentry
  obtain ⟨offer, hoffer⟩ := h
  unfold baseOffer at hoffer
  cases hb : d.bases with
  | nil => rw [hb] at hentry; cases hentry
  | cons e rest =>
    rw [hb] at hentry hoffer
    cases hentry
    obtain ⟨t, ht, _⟩ := Noted.result_bind_eq_ok.1 hoffer
    exact ⟨t, ht⟩

/-- When a base is chosen, all entries that were looked at could be resolved. -/
theorem entryResolves_of_chooseBase {prefer : SymbolKey → Bool} {ds : List TypeDeclaration}
    {fallback : Option NamedType} (h : (env.chooseBase prefer fallback ds).Returns) :
    ∀ d ∈ env.tried prefer ds, env.EntryResolves d := by
  induction ds generalizing fallback with
  | nil => exact fun d hd => by cases hd
  | cons d rest ih =>
    rw [chooseBase, Noted.returns_bind] at h
    obtain ⟨offer, hoffer, h⟩ := h
    have hd := entryResolves_of_baseOffer ⟨offer, hoffer⟩
    have hoffer? : env.offer? d = offer := by rw [offer?, hoffer]
    rw [tried, List.forall_mem_cons, hoffer?]
    refine ⟨hd, ?_⟩
    cases offer with
    | none => exact ih h
    | some offer =>
      rw [Option.any_some]
      cases heligible : env.isEligible prefer offer with
      | true => exact fun d hd => by cases hd
      | false =>
        simp only [heligible, Bool.false_eq_true, if_false] at h
        exact ih h

/-- The base of a type is asked of its first entries only: it is known exactly when these can be
resolved. -/
theorem baseType_returns_iff {prefer : SymbolKey → Bool} {t : NamedType} :
    (env.baseType prefer t).Returns ↔
      ∀ s, env.table.get? t.symbol = some s → s.isReference = false → s.isAmbiguous = false →
        ∀ d ∈ env.tried prefer s.declarations, env.EntryResolves d := by
  constructor
  · intro h s hs href hambiguous
    have hchoose : (env.chooseBase prefer none s.declarations).Returns := by
      obtain ⟨o, ho⟩ := h
      unfold baseType at ho
      rw [hs] at ho
      simp only [href, hambiguous, Bool.or_self, Bool.false_eq_true, if_false] at ho
      obtain ⟨chosen, hchosen, _⟩ := Noted.result_bind_eq_ok.1 ho
      exact ⟨chosen, hchosen⟩
    exact entryResolves_of_chooseBase hchoose
  · intro h
    cases hs : env.table.get? t.symbol with
    | none => exact ⟨none, by simp [baseType, hs]⟩
    | some s =>
      by_cases hskip : (s.isReference || s.isAmbiguous) = true
      · exact ⟨none, by simp [baseType, hs, hskip]⟩
      · rw [Bool.not_eq_true, Bool.or_eq_false_iff] at hskip
        exact ⟨_, baseType_result hs hskip.1 hskip.2 (h s hs hskip.1 hskip.2)⟩

/-- A base is an offer of one of the declarations, in terms of the arguments of the type. -/
theorem exists_offer_of_baseType {prefer : SymbolKey → Bool} {t base : NamedType}
    (h : (env.baseType prefer t).result = .ok (some base)) :
    ∃ s d offer, env.table.get? t.symbol = some s ∧ s.isReference = false ∧ s.isAmbiguous = false ∧
      d ∈ s.declarations ∧ env.offer? d = some offer ∧
      base = offer.substitute (Bindings.ofArguments s.typeParameters t.arguments) := by
  cases hs : env.table.get? t.symbol with
  | none =>
    rw [baseType, hs] at h
    cases h
  | some s =>
    by_cases hskip : (s.isReference || s.isAmbiguous) = true
    · simp only [baseType, hs, hskip, if_true] at h
      cases h
    · rw [Bool.not_eq_true, Bool.or_eq_false_iff] at hskip
      have hresolves := baseType_returns_iff.1 ⟨_, h⟩ s hs hskip.1 hskip.2
      rw [baseType_result hs hskip.1 hskip.2 hresolves, Except.ok.injEq,
        Option.map_eq_some_iff] at h
      obtain ⟨offer, hoffer, rfl⟩ := h
      have hmem : offer ∈ s.declarations.filterMap env.offer? := by
        rcases Option.or_eq_some_iff.1 hoffer with hoffer | ⟨_, hoffer⟩
        · exact List.mem_of_find?_eq_some hoffer
        · exact List.mem_of_mem_head? hoffer
      obtain ⟨d, hd, hoffer⟩ := List.mem_filterMap.1 hmem
      exact ⟨s, d, offer, rfl, hskip.1, hskip.2, hd, hoffer, rfl⟩

@[simp] theorem substitute_symbol (bs : Bindings) (t : NamedType) :
    (t.substitute bs).symbol = t.symbol := by
  unfold NamedType.substitute
  split <;> rfl

theorem known_of_baseType {prefer : SymbolKey → Bool} {t base : NamedType}
    (h : (env.baseType prefer t).result = .ok (some base)) :
    ∃ s, env.Known s ∧ s.key = base.symbol := by
  obtain ⟨_, d, offer, _, _, _, _, hoffer, rfl⟩ := exists_offer_of_baseType h
  rw [substitute_symbol]
  exact known_of_offer? hoffer

/-! ## The walk along bases -/

/-- Each type of the list is the base of the one before it, and the first one that of `t`. -/
def Climbs (env : Environment) (prefer : SymbolKey → Bool) : NamedType → List NamedType → Prop
  | _, [] => True
  | t, base :: rest => (env.baseType prefer t).result = .ok (some base) ∧ Climbs env prefer base rest

/-- The walk from `t` can have passed these bases: fewer than `count` of them, all different from
one another and from what was `visited`, and none at which it stops. -/
structure Trail (env : Environment) (prefer : SymbolKey → Bool) (stop : NamedType → Bool)
    (count : Nat) (visited : List SymbolKey) (t : NamedType) (passed : List NamedType) : Prop where
  climbs : env.Climbs prefer t passed
  length_lt : passed.length < count
  distinct : (visited.reverse ++ passed.map NamedType.symbol).Nodup
  goesOn : ∀ base ∈ passed, stop base = false

section

variable {prefer : SymbolKey → Bool} {stop : NamedType → Bool} {count : Nat}
  {visited : List SymbolKey} {t base : NamedType} {passed : List NamedType}

theorem Trail.nil (hvisited : visited.Nodup) : env.Trail prefer stop (count + 1) visited t [] where
  climbs := trivial
  length_lt := Nat.succ_pos count
  distinct := by simpa using hvisited
  goesOn := by simp

theorem trail_cons_iff :
    env.Trail prefer stop (count + 1) visited t (base :: passed) ↔
      (env.baseType prefer t).result = .ok (some base) ∧ stop base = false ∧
        env.Trail prefer stop count (base.symbol :: visited) base passed := by
  have hkeys : visited.reverse ++ (base :: passed).map NamedType.symbol =
      (base.symbol :: visited).reverse ++ passed.map NamedType.symbol := by simp
  constructor
  · intro ⟨⟨hbase, hclimbs⟩, hlength, hdistinct, hgoesOn⟩
    rw [List.forall_mem_cons] at hgoesOn
    exact ⟨hbase, hgoesOn.1, hclimbs, Nat.lt_of_succ_lt_succ hlength, hkeys ▸ hdistinct, hgoesOn.2⟩
  · intro ⟨hbase, hstop, hclimbs, hlength, hdistinct, hgoesOn⟩
    exact ⟨⟨hbase, hclimbs⟩, Nat.succ_lt_succ hlength, hkeys ▸ hdistinct,
      List.forall_mem_cons.2 ⟨hstop, hgoesOn⟩⟩

theorem Trail.nodup_visited (h : env.Trail prefer stop count visited t passed) : visited.Nodup :=
  List.nodup_reverse.1 (List.nodup_append.1 h.distinct).1

theorem Trail.not_mem_visited
    (h : env.Trail prefer stop count (base.symbol :: visited) t passed) : base.symbol ∉ visited :=
  (List.nodup_cons.1 h.nodup_visited).1

/-- What the walk does at a type whose base is known. -/
theorem basesAbove_of_base (h : (env.baseType prefer t).result = .ok (some base)) :
    (env.basesAbove prefer stop (count + 1) visited t).result =
      if stop base = true ∨ base.symbol ∈ visited then .ok [base]
      else (env.basesAbove prefer stop count (base.symbol :: visited) base).result.map (base :: ·) := by
  rw [basesAbove, Noted.result_bind_of_ok h]
  by_cases hend : stop base = true ∨ base.symbol ∈ visited
  · have hif : (stop base || visited.contains base.symbol) = true := by simpa using hend
    simp only [hif, if_true, hend]
    rfl
  · have hif : (stop base || visited.contains base.symbol) = false := by simpa using hend
    simp only [hif, Bool.false_eq_true, if_false, hend, Noted.result_bind, Noted.result_pure]
    cases (env.basesAbove prefer stop count (base.symbol :: visited) base).result <;> rfl

theorem Trail.exists_count (h : env.Trail prefer stop count visited t passed) :
    ∃ rest, count = rest + 1 :=
  Nat.exists_eq_succ_of_ne_zero (Nat.ne_of_gt (Nat.zero_lt_of_lt h.length_lt))

/-- The walk goes on past the first type of a trail. -/
theorem Trail.basesAbove_cons
    (h : env.Trail prefer stop (count + 1) visited t (base :: passed)) :
    (env.basesAbove prefer stop (count + 1) visited t).result =
      (env.basesAbove prefer stop count (base.symbol :: visited) base).result.map (base :: ·) := by
  obtain ⟨hfirst, hgoesOn, hrest⟩ := trail_cons_iff.1 h
  have hend : ¬(stop base = true ∨ base.symbol ∈ visited) := by
    rw [not_or, Bool.not_eq_true]
    exact ⟨hgoesOn, hrest.not_mem_visited⟩
  rw [basesAbove_of_base hfirst, if_neg hend]

/-- A walk that returns bases has passed all but the last of them. -/
theorem basesAbove_sound {bases : List NamedType} (hvisited : visited.Nodup)
    (h : (env.basesAbove prefer stop count visited t).result = .ok bases) (hne : bases ≠ []) :
    ∃ passed last, bases = passed ++ [last] ∧ env.Trail prefer stop count visited t passed ∧
      (env.baseType prefer (passed.getLastD t)).result = .ok (some last) := by
  induction count generalizing visited t bases with
  | zero => cases h; exact absurd rfl hne
  | succ count ih =>
    have hreturns := h
    rw [basesAbove, Noted.result_bind_eq_ok] at h
    obtain ⟨o, hbase, h⟩ := h
    cases o with
    | none => cases h; exact absurd rfl hne
    | some base =>
      rw [basesAbove_of_base hbase] at hreturns
      split at hreturns
      · cases hreturns
        exact ⟨[], base, rfl, .nil hvisited, hbase⟩
      · next hend =>
        rw [not_or, Bool.not_eq_true] at hend
        have hnodup : (base.symbol :: visited).Nodup := List.nodup_cons.2 ⟨hend.2, hvisited⟩
        cases hrest : (env.basesAbove prefer stop count (base.symbol :: visited) base).result with
        | error _ => rw [hrest] at hreturns; cases hreturns
        | ok rest =>
          rw [hrest] at hreturns
          cases hreturns
          by_cases hrest_ne : rest = []
          · subst hrest_ne
            exact ⟨[], base, rfl, .nil hvisited, hbase⟩
          · obtain ⟨passed, last, rfl, htrail, hlast⟩ := ih hnodup hrest hrest_ne
            refine ⟨base :: passed, last, rfl, trail_cons_iff.2 ⟨hbase, hend.1, htrail⟩, ?_⟩
            rwa [List.getLastD_cons]

/-- A trail whose next base ends the walk is what the walk returns, with that base behind it. -/
theorem Trail.basesAbove_eq {last : NamedType} (h : env.Trail prefer stop count visited t passed)
    (hbase : (env.baseType prefer (passed.getLastD t)).result = .ok (some last))
    (hstop : stop last = true) :
    (env.basesAbove prefer stop count visited t).result = .ok (passed ++ [last]) := by
  induction passed generalizing count visited t with
  | nil =>
    obtain ⟨count, rfl⟩ := h.exists_count
    rw [List.getLastD_nil] at hbase
    rw [basesAbove_of_base hbase, if_pos (.inl hstop)]
    rfl
  | cons base rest ih =>
    obtain ⟨count, rfl⟩ := h.exists_count
    rw [List.getLastD_cons] at hbase
    rw [h.basesAbove_cons, ih (trail_cons_iff.1 h).2.2 hbase]
    rfl

/-- A walk that returns has found the base of every type that it came to. -/
theorem Trail.baseType_returns (h : env.Trail prefer stop count visited t passed)
    (hreturns : (env.basesAbove prefer stop count visited t).Returns) :
    (env.baseType prefer (passed.getLastD t)).Returns := by
  induction passed generalizing count visited t with
  | nil =>
    obtain ⟨count, rfl⟩ := h.exists_count
    rw [basesAbove, Noted.returns_bind] at hreturns
    obtain ⟨o, ho, _⟩ := hreturns
    exact ⟨o, ho⟩
  | cons base rest ih =>
    obtain ⟨count, rfl⟩ := h.exists_count
    obtain ⟨bases, hbases⟩ := hreturns
    rw [h.basesAbove_cons] at hbases
    rw [List.getLastD_cons]
    refine ih (trail_cons_iff.1 h).2.2 ?_
    cases habove : (env.basesAbove prefer stop count (base.symbol :: visited) base).result with
    | ok above => exact ⟨above, habove⟩
    | error e => rw [habove] at hbases; cases hbases

/-- The walk returns when the base of every type that it comes to is known. -/
theorem basesAbove_returns (hvisited : visited.Nodup)
    (h : ∀ passed, env.Trail prefer stop count visited t passed →
      (env.baseType prefer (passed.getLastD t)).Returns) :
    (env.basesAbove prefer stop count visited t).Returns := by
  induction count generalizing visited t with
  | zero => exact Noted.returns_pure []
  | succ count ih =>
    obtain ⟨o, ho⟩ := h [] (.nil hvisited)
    rw [List.getLastD_nil] at ho
    cases o with
    | none => exact ⟨[], by rw [basesAbove, Noted.result_bind_of_ok ho]; rfl⟩
    | some base =>
      unfold Noted.Returns
      rw [basesAbove_of_base ho]
      split
      · exact ⟨_, rfl⟩
      · next hend =>
        rw [not_or, Bool.not_eq_true] at hend
        have hnodup : (base.symbol :: visited).Nodup := List.nodup_cons.2 ⟨hend.2, hvisited⟩
        obtain ⟨bases, hbases⟩ := ih hnodup fun passed hpassed => by
          have := h (base :: passed) (trail_cons_iff.2 ⟨ho, hend.1, hpassed⟩)
          rwa [List.getLastD_cons] at this
        exact ⟨base :: bases, by rw [hbases]; rfl⟩

/-- What a walk has passed or come to is a known symbol. -/
theorem known_of_climbs (h : env.Climbs prefer t passed) :
    ∀ base ∈ passed, ∃ s, env.Known s ∧ s.key = base.symbol := by
  induction passed generalizing t with
  | nil => exact fun base hbase => by cases hbase
  | cons first rest ih => exact List.forall_mem_cons.2 ⟨known_of_baseType h.1, ih h.2⟩

end

end Environment

end Registrar
