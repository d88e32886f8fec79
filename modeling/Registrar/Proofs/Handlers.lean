/-
The handlers of an environment as a list: what each candidate is registered
as (`registrationOf?`), in the order of the candidates, and no class twice
(`nodup_handlers`). A handler has no type parameters, so its qualified name
alone tells it from all others (`handlers_key`).
-/
import Registrar.Proofs.Classification

namespace Registrar

namespace Environment

variable {env : Environment} {contracts : ContractSet}

/-- What a candidate is registered as, when it is a handler. -/
def registrationOf? (env : Environment) (contracts : ContractSet) (c : Candidate) :
    Option (Symbol × Entry) :=
  match c.symbol, (env.classify contracts c).result with
  | some s, .ok (some handler) => some (s, ⟨c.name, s.key.name, handler, c.unit.path⟩)
  | _, _ => none

theorem registrationOf?_eq_some_iff {c : Candidate} {registered : Symbol × Entry} :
    env.registrationOf? contracts c = some registered ↔
      c.symbol = some registered.1 ∧ ∃ handler,
        (env.classify contracts c).result = .ok (some handler) ∧
          registered.2 = ⟨c.name, registered.1.key.name, handler, c.unit.path⟩ := by
  obtain ⟨s, entry⟩ := registered
  unfold registrationOf?
  split
  · next s' handler hs hhandler =>
    rw [hs, hhandler]
    simp only [Option.some.injEq, Prod.mk.injEq, Except.ok.injEq, exists_eq_left']
    constructor
    · intro h
      obtain ⟨rfl, rfl⟩ := h
      exact ⟨rfl, rfl⟩
    · intro h
      obtain ⟨rfl, rfl⟩ := h
      exact ⟨rfl, rfl⟩
  · next hnot =>
    refine iff_of_false (fun h => by cases h) ?_
    intro ⟨hs, handler, hhandler, _⟩
    exact hnot s handler hs hhandler

theorem handlersAmong_result {cs : List Candidate}
    (h : ∀ c ∈ cs, (env.classify contracts c).Returns) :
    (env.handlersAmong contracts cs).result = .ok (cs.filterMap (env.registrationOf? contracts)) := by
  induction cs with
  | nil => rfl
  | cons c rest ih =>
    rw [List.forall_mem_cons] at h
    obtain ⟨o, ho⟩ := h.1
    rw [handlersAmong, Noted.result_bind_of_ok ho, Noted.result_bind_of_ok (ih h.2),
      List.filterMap_cons]
    unfold registrationOf?
    rw [ho]
    cases c.symbol with
    | none => rfl
    | some s => cases o <;> rfl

theorem registrations_sublist (cs : List Candidate) :
    ((cs.filterMap (env.registrationOf? contracts)).map fun r => r.1.key).Sublist
      (cs.filterMap fun c => c.symbol.map Symbol.key) := by
  induction cs with
  | nil => exact .slnil
  | cons c rest ih =>
    rw [List.filterMap_cons, List.filterMap_cons]
    cases hr : env.registrationOf? contracts c with
    | none =>
      cases c.symbol with
      | none => exact ih
      | some s => exact ih.cons s.key
    | some registered =>
      rw [(registrationOf?_eq_some_iff.1 hr).1]
      exact ih.cons_cons registered.1.key

/-- The handlers of an environment are those of its candidates, when all of these can be
classified. -/
theorem handlers_result (h : ∀ c ∈ env.candidates, (env.classify contracts c).Returns) :
    (env.handlers contracts).result =
      .ok (env.candidates.filterMap (env.registrationOf? contracts)) :=
  handlersAmong_result h

theorem classify_returns_of_handlersAmong {cs : List Candidate}
    (h : (env.handlersAmong contracts cs).Returns) : ∀ c ∈ cs, (env.classify contracts c).Returns := by
  induction cs with
  | nil => exact fun c hc => by cases hc
  | cons c rest ih =>
    rw [handlersAmong, Noted.returns_bind] at h
    obtain ⟨o, ho, h⟩ := h
    rw [Noted.returns_bind] at h
    obtain ⟨found, hfound, _⟩ := h
    exact List.forall_mem_cons.2 ⟨⟨o, ho⟩, ih ⟨found, hfound⟩⟩

/-- Handlers that are found are those of the candidates. -/
theorem eq_of_handlers_eq_ok {found : List (Symbol × Entry)}
    (h : (env.handlers contracts).result = .ok found) :
    found = env.candidates.filterMap (env.registrationOf? contracts) := by
  have hresult := handlers_result (classify_returns_of_handlersAmong ⟨found, h⟩)
  rw [h] at hresult
  exact Except.ok.inj hresult

/-- A handler has the symbol of a candidate, which stands in the table. -/
theorem get?_of_mem_handlers {found : List (Symbol × Entry)}
    (h : (env.handlers contracts).result = .ok found) {registered : Symbol × Entry}
    (hmem : registered ∈ found) : env.table.get? registered.1.key = some registered.1 := by
  rw [eq_of_handlers_eq_ok h] at hmem
  obtain ⟨c, hc, hregistered⟩ := List.mem_filterMap.1 hmem
  exact (candidate_symbol hc (registrationOf?_eq_some_iff.1 hregistered).1).2.1

/-- No class is registered twice. -/
theorem nodup_handlers (env : Environment) (contracts : ContractSet) :
    ((env.candidates.filterMap (env.registrationOf? contracts)).map fun r => r.1.key).Nodup :=
  (registrations_sublist env.candidates).nodup env.candidates_nodup

/-- A handler is registered under its qualified name, and has no type parameters. -/
theorem handlers_key {registered : Symbol × Entry}
    (h : registered ∈ env.candidates.filterMap (env.registrationOf? contracts)) :
    registered.1.key = ⟨registered.2.handlerType, 0⟩ := by
  obtain ⟨c, hc, hregistered⟩ := List.mem_filterMap.1 h
  obtain ⟨hs, handler, hhandler, hentry⟩ := registrationOf?_eq_some_iff.1 hregistered
  obtain ⟨_, _, _, _, _, hgeneric, _⟩ := classify_eq_some_iff.1 hhandler
  have harity : (0 : Int) = registered.1.key.arity := by
    rw [← (TypeDeclaration.key?_eq_some_iff.1 (candidate_symbol hc hs).1).2,
      (isGeneric_eq_false_iff.1 hgeneric).1]
    rfl
  rw [hentry, harity]

/-- No two handlers have the same qualified name. -/
theorem nodup_handlerType (env : Environment) (contracts : ContractSet) :
    ((env.candidates.filterMap (env.registrationOf? contracts)).map
      fun r => r.2.handlerType).Nodup := by
  have hkeys : (env.candidates.filterMap (env.registrationOf? contracts)).map (fun r => r.1.key) =
      ((env.candidates.filterMap (env.registrationOf? contracts)).map
        fun r => r.2.handlerType).map fun name => ⟨name, 0⟩ := by
    rw [List.map_map]
    exact List.map_congr_left fun registered h => handlers_key h
  have hnodup := env.nodup_handlers contracts
  rw [hkeys] at hnodup
  exact List.Nodup.of_map _ hnodup

/-- What a registration says of a handler, apart from the file that it is found in. -/
def registration (registered : Symbol × Entry) : String × String × Handler :=
  (registered.2.handlerName, registered.2.handlerType, registered.2.handler)

theorem nodup_registration (env : Environment) (contracts : ContractSet) :
    ((env.candidates.filterMap (env.registrationOf? contracts)).map registration).Nodup := by
  have hnames : ((env.candidates.filterMap (env.registrationOf? contracts)).map registration).map
      (fun r => r.2.1) = (env.candidates.filterMap (env.registrationOf? contracts)).map
        fun r => r.2.handlerType := by
    rw [List.map_map]
    rfl
  have hnodup := nodup_handlerType env contracts
  rw [← hnames] at hnodup
  exact List.Nodup.of_map _ hnodup

end Environment

end Registrar
