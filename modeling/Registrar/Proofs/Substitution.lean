/-
The type parameters of a type and what substitution does to them. `parameters`
lists them from left to right; a type is open when the list is not empty
(`isOpen_iff`), and substitution puts the parameters of each replacement in the
place of the one replaced (`parameters_substitute`). So a substituted type is
closed exactly when every parameter of the type is bound to a closed type
(`isOpen_substitute_eq_false_iff`).
-/
import Registrar.Semantics.Ty

namespace Registrar

/-- What stands for a type parameter: itself, when it is not bound. -/
def Bindings.value (bs : Bindings) (name : String) : Ty :=
  (bs.lookup name).getD (.param name)

namespace Ty

mutual

/-- The type parameters that occur in a type, from left to right. -/
def parameters : Ty → List String
  | named _ arguments => parametersAmong arguments
  | param name => [name]
  | predefined _ => []
  | array element _ => parameters element
  | nullable inner => parameters inner
  | tuple elements => parametersOfElements elements
  | error _ arguments => parametersAmong arguments

def parametersAmong : List Ty → List String
  | [] => []
  | t :: rest => parameters t ++ parametersAmong rest

def parametersOfElements : List (Ty × Option String) → List String
  | [] => []
  | (t, _) :: rest => parameters t ++ parametersOfElements rest

end

theorem parametersAmong_eq_flatMap (ts : List Ty) : parametersAmong ts = ts.flatMap parameters := by
  induction ts with
  | nil => rfl
  | cons t rest ih => simp [parametersAmong, ih]

theorem parametersOfElements_eq_flatMap (es : List (Ty × Option String)) :
    parametersOfElements es = es.flatMap fun e => parameters e.1 := by
  induction es with
  | nil => rfl
  | cons e rest ih => simp [parametersOfElements, ih]

/-! ## Open types -/

theorem not_isEmpty_append (names more : List String) :
    (!(names ++ more).isEmpty) = (!names.isEmpty || !more.isEmpty) := by
  cases names <;> simp

mutual

theorem isOpen_eq : ∀ t : Ty, t.isOpen = !t.parameters.isEmpty
  | named _ arguments | error _ arguments => anyOpen_eq arguments
  | param _ | predefined _ => rfl
  | array element _ => isOpen_eq element
  | nullable inner => isOpen_eq inner
  | tuple elements => anyOpenElement_eq elements

theorem anyOpen_eq : ∀ ts : List Ty, anyOpen ts = !(parametersAmong ts).isEmpty
  | [] => rfl
  | t :: rest => by
    rw [anyOpen, parametersAmong, isOpen_eq t, anyOpen_eq rest, not_isEmpty_append]

theorem anyOpenElement_eq : ∀ es : List (Ty × Option String),
    anyOpenElement es = !(parametersOfElements es).isEmpty
  | [] => rfl
  | (t, _) :: rest => by
    rw [anyOpenElement, parametersOfElements, isOpen_eq t, anyOpenElement_eq rest,
      not_isEmpty_append]

end

/-- A type is open when a type parameter occurs in it. -/
theorem isOpen_iff {t : Ty} : t.isOpen = true ↔ ∃ name, name ∈ t.parameters := by
  rw [isOpen_eq, Bool.not_eq_true', List.isEmpty_eq_false_iff_exists_mem]

/-! ## Substitution -/

theorem flatMap_value_nil (names : List String) :
    (names.flatMap fun name => (Bindings.value [] name).parameters) = names :=
  List.flatMap_singleton' names

mutual

/-- Substitution puts the parameters of what a parameter is bound to in its place. -/
theorem parameters_substitute (bs : Bindings) : ∀ t : Ty,
    (t.substitute bs).parameters = t.parameters.flatMap fun name => (bs.value name).parameters
  | named symbol arguments => by
    rw [substitute]
    split
    · next h =>
      rw [List.isEmpty_iff.1 h]
      exact (flatMap_value_nil _).symm
    · exact parametersAmong_substituteAll bs arguments
  | param name => by simp [substitute, parameters, Bindings.value]
  | predefined _ => rfl
  | array element _ => parameters_substitute bs element
  | nullable inner => parameters_substitute bs inner
  | tuple elements => parametersOfElements_substituteElements bs elements
  | error _ arguments => parametersAmong_substituteAll bs arguments

theorem parametersAmong_substituteAll (bs : Bindings) : ∀ ts : List Ty,
    parametersAmong (substituteAll bs ts) =
      (parametersAmong ts).flatMap fun name => (bs.value name).parameters
  | [] => rfl
  | t :: rest => by
    rw [substituteAll, parametersAmong, parametersAmong, List.flatMap_append,
      parameters_substitute bs t, parametersAmong_substituteAll bs rest]

theorem parametersOfElements_substituteElements (bs : Bindings) :
    ∀ es : List (Ty × Option String), parametersOfElements (substituteElements bs es) =
      (parametersOfElements es).flatMap fun name => (bs.value name).parameters
  | [] => rfl
  | (t, _) :: rest => by
    rw [substituteElements, parametersOfElements, parametersOfElements, List.flatMap_append,
      parameters_substitute bs t, parametersOfElements_substituteElements bs rest]

end

/-- A type becomes closed when each of its parameters is bound to a closed type. -/
theorem isOpen_substitute_eq_false_iff {bs : Bindings} {t : Ty} :
    (t.substitute bs).isOpen = false ↔
      ∀ name ∈ t.parameters, ∃ b, bs.lookup name = some b ∧ b.isOpen = false := by
  have hvalue : ∀ name, (bs.value name).parameters = [] ↔
      ∃ b, bs.lookup name = some b ∧ b.isOpen = false := by
    intro name
    unfold Bindings.value
    cases bs.lookup name with
    | none => simp [parameters]
    | some b => simp [isOpen_eq]
  rw [isOpen_eq, parameters_substitute, Bool.not_eq_false', List.isEmpty_iff,
    List.flatMap_eq_nil_iff]
  exact forall₂_congr fun name _ => hvalue name

end Ty

end Registrar
