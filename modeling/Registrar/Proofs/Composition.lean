/-
Substitutions one after the other. What a substitution makes of a type depends
on what it puts in the place of the parameters that occur in it, and on nothing
else (`substitute_eq_substitute_iff`): a closed type stays as it is. Two
substitutions one after the other are one, whose bindings are those of the
first with the second put into them, and the other bindings of the second
(`substitute_substitute`). That a type is left alone when nothing is bound is no
case of its own (`substitute_named`).
-/
import Registrar.Proofs.Substitution

namespace Registrar

namespace Bindings

/-! ## Bindings one after the other -/

/-- `ds` binds a name to what `bs` binds it to, with `cs` put into it, and else to what `cs` does. -/
def Composes (bs cs ds : Bindings) : Prop :=
  ∀ name, ds.lookup name = ((bs.lookup name).map (Ty.substitute cs)).or (cs.lookup name)

/-- The bindings of `bs`, with `cs` put into them, and those of `cs` for other names. -/
def andThen (bs cs : Bindings) : Bindings :=
  bs.map (fun b => (b.1, b.2.substitute cs)) ++ cs.filter fun c => !bs.any (·.1 == c.1)

theorem lookup_map_snd (f : Ty → Ty) (bs : Bindings) (name : String) :
    (bs.map fun b => (b.1, f b.2)).lookup name = (bs.lookup name).map f := by
  induction bs with
  | nil => rfl
  | cons b rest ih =>
    rw [List.map_cons, List.lookup_cons, List.lookup_cons, ih]
    cases name == b.1 <;> rfl

theorem lookup_filter_fst (p : String → Bool) {name : String} (hp : p name = true) (bs : Bindings) :
    (bs.filter fun b => p b.1).lookup name = bs.lookup name := by
  induction bs with
  | nil => rfl
  | cons b rest ih =>
    rw [List.filter_cons, List.lookup_cons]
    by_cases hname : name = b.1
    · rw [← hname, if_pos hp, List.lookup_cons, ← hname, beq_self_eq_true]
    · have hne : (name == b.1) = false := by simpa using hname
      split
      · rw [List.lookup_cons, hne, ih]
      · rw [hne, ih]

theorem composes_andThen (bs cs : Bindings) : Composes bs cs (bs.andThen cs) := by
  intro name
  rw [andThen, List.lookup_append, lookup_map_snd]
  cases hname : bs.lookup name with
  | some t => rfl
  | none =>
    have hother : (!bs.any (·.1 == name)) = true := by
      rw [Bool.not_eq_true', List.any_eq_false]
      intro b hb heq
      have hne := List.lookup_eq_none_iff.1 hname b hb
      rw [eq_of_beq heq, bne_self_eq_false] at hne
      cases hne
    exact lookup_filter_fst (fun other => !bs.any (·.1 == other)) hother cs

/-- What stands for a name after both is what stands for it after the first, with the second put
into it. -/
theorem Composes.value_eq {bs cs ds : Bindings} (h : Composes bs cs ds) (name : String) :
    ds.value name = (bs.value name).substitute cs := by
  rw [value, value, h]
  cases bs.lookup name <;> rfl

end Bindings

namespace Ty

/-! ## Nothing is bound -/

mutual

theorem substitute_nil : ∀ t : Ty, t.substitute [] = t
  | named _ _ | param _ | predefined _ => rfl
  | array element rank => congrArg (array · rank) (substitute_nil element)
  | nullable inner => congrArg nullable (substitute_nil inner)
  | tuple elements => congrArg tuple (substituteElements_nil elements)
  | error name arguments => congrArg (error name) (substituteAll_nil arguments)

theorem substituteAll_nil : ∀ ts : List Ty, substituteAll [] ts = ts
  | [] => rfl
  | t :: rest => by rw [substituteAll, substitute_nil t, substituteAll_nil rest]

theorem substituteElements_nil :
    ∀ es : List (Ty × Option String), substituteElements [] es = es
  | [] => rfl
  | (t, _) :: rest => by rw [substituteElements, substitute_nil t, substituteElements_nil rest]

end

/-- A named type is rewritten in its arguments, also when nothing is bound. -/
theorem substitute_named (bs : Bindings) (symbol : SymbolKey) (arguments : List Ty) :
    (named symbol arguments).substitute bs = named symbol (substituteAll bs arguments) := by
  rw [substitute]
  split
  · next h => rw [List.isEmpty_iff.1 h, substituteAll_nil]
  · rfl

theorem substitute_param (bs : Bindings) (name : String) :
    (param name).substitute bs = bs.value name := by
  rw [substitute, Bindings.value]

/-! ## What a substitution depends on -/

mutual

/-- Two substitutions make the same of a type exactly when they put the same in the place of every
parameter that occurs in it. -/
theorem substitute_eq_substitute_iff {bs cs : Bindings} : ∀ t : Ty,
    t.substitute bs = t.substitute cs ↔ ∀ name ∈ t.parameters, bs.value name = cs.value name
  | named symbol arguments => by
    rw [substitute_named, substitute_named, named.injEq, parameters,
      substituteAll_eq_substituteAll_iff arguments]
    exact and_iff_right rfl
  | param name => by
    rw [substitute_param, substitute_param, parameters, List.forall_mem_singleton]
  | predefined _ => by simp [substitute, parameters]
  | array element _ => by
    rw [substitute, substitute, array.injEq, parameters, substitute_eq_substitute_iff element]
    exact and_iff_left rfl
  | nullable inner => by
    rw [substitute, substitute, nullable.injEq, parameters, substitute_eq_substitute_iff inner]
  | tuple elements => by
    rw [substitute, substitute, tuple.injEq, parameters,
      substituteElements_eq_substituteElements_iff elements]
  | error _ arguments => by
    rw [substitute, substitute, error.injEq, parameters,
      substituteAll_eq_substituteAll_iff arguments]
    exact and_iff_right rfl

theorem substituteAll_eq_substituteAll_iff {bs cs : Bindings} : ∀ ts : List Ty,
    substituteAll bs ts = substituteAll cs ts ↔
      ∀ name ∈ parametersAmong ts, bs.value name = cs.value name
  | [] => by simp [substituteAll, parametersAmong]
  | t :: rest => by
    rw [substituteAll, substituteAll, List.cons.injEq, parametersAmong, List.forall_mem_append,
      substitute_eq_substitute_iff t, substituteAll_eq_substituteAll_iff rest]

theorem substituteElements_eq_substituteElements_iff {bs cs : Bindings} :
    ∀ es : List (Ty × Option String), substituteElements bs es = substituteElements cs es ↔
      ∀ name ∈ parametersOfElements es, bs.value name = cs.value name
  | [] => by simp [substituteElements, parametersOfElements]
  | (t, label) :: rest => by
    rw [substituteElements, substituteElements, List.cons.injEq, Prod.mk.injEq,
      parametersOfElements, List.forall_mem_append, substitute_eq_substitute_iff t,
      substituteElements_eq_substituteElements_iff rest]
    simp only [and_true]

end

/-- A substitution leaves a type as it is exactly when it binds every parameter in it to itself,
if at all. -/
theorem substitute_eq_self_iff {bs : Bindings} {t : Ty} :
    t.substitute bs = t ↔ ∀ name ∈ t.parameters, bs.value name = .param name := by
  have h : t.substitute bs = t.substitute [] ↔ _ := substitute_eq_substitute_iff t
  rwa [substitute_nil] at h

/-! ## One after the other -/

mutual

theorem substitute_substitute {bs cs ds : Bindings} (h : Bindings.Composes bs cs ds) :
    ∀ t : Ty, (t.substitute bs).substitute cs = t.substitute ds
  | named symbol arguments => by
    rw [substitute_named, substitute_named, substitute_named,
      substituteAll_substituteAll h arguments]
  | param name => by rw [substitute_param, substitute_param, h.value_eq]
  | predefined _ => rfl
  | array element rank => congrArg (array · rank) (substitute_substitute h element)
  | nullable inner => congrArg nullable (substitute_substitute h inner)
  | tuple elements => congrArg tuple (substituteElements_substituteElements h elements)
  | error name arguments => congrArg (error name) (substituteAll_substituteAll h arguments)

theorem substituteAll_substituteAll {bs cs ds : Bindings} (h : Bindings.Composes bs cs ds) :
    ∀ ts : List Ty, substituteAll cs (substituteAll bs ts) = substituteAll ds ts
  | [] => rfl
  | t :: rest => by
    rw [substituteAll, substituteAll, substituteAll, substitute_substitute h t,
      substituteAll_substituteAll h rest]

theorem substituteElements_substituteElements {bs cs ds : Bindings}
    (h : Bindings.Composes bs cs ds) : ∀ es : List (Ty × Option String),
    substituteElements cs (substituteElements bs es) = substituteElements ds es
  | [] => rfl
  | (t, _) :: rest => by
    rw [substituteElements, substituteElements, substituteElements, substitute_substitute h t,
      substituteElements_substituteElements h rest]

end

/-! ## The laws -/

/-- A substituted type is open when a parameter of the type is not bound, or bound to an open type. -/
theorem isOpen_substitute_iff {bs : Bindings} {t : Ty} :
    (t.substitute bs).isOpen = true ↔
      ∃ name ∈ t.parameters, bs.lookup name = none ∨
        ∃ b, bs.lookup name = some b ∧ b.isOpen = true := by
  rw [← Bool.not_eq_false, isOpen_substitute_eq_false_iff]
  simp only [Classical.not_forall, exists_prop]
  refine exists_congr fun name => and_congr_right fun _ => ?_
  cases bs.lookup name <;> simp

/-- Substitution leaves closed types alone; after it another one is put into the types bound by the
first, and else binds as it does; and what stays open is a parameter that is not bound, or is bound
to an open type. An empty substitution treats named types as any other does. -/
theorem substitution_laws (t : Ty) (bs cs : Bindings) :
    (t.isOpen = false → t.substitute bs = t) ∧
    (Bindings.Composes bs cs (bs.andThen cs) ∧
      ∀ ds, Bindings.Composes bs cs ds → (t.substitute bs).substitute cs = t.substitute ds) ∧
    ((t.substitute bs).isOpen = true ↔
      ∃ name ∈ t.parameters, bs.lookup name = none ∨
        ∃ b, bs.lookup name = some b ∧ b.isOpen = true) ∧
    ∀ symbol arguments, (named symbol arguments).substitute bs =
      named symbol (arguments.map (substitute bs)) := by
  refine ⟨fun hclosed => ?_, ⟨bs.composes_andThen cs, fun ds h => substitute_substitute h t⟩,
    isOpen_substitute_iff, fun symbol arguments => ?_⟩
  · refine substitute_eq_self_iff.2 fun name hname => ?_
    have hopen : t.isOpen = true := isOpen_iff.2 ⟨name, hname⟩
    rw [hclosed] at hopen
    cases hopen
  · rw [substitute_named, substituteAll_eq_map]

end Ty

/-! ## Two parameters that change places -/

namespace Sample

/-- `Pair<A, (B?, C[])>` with type parameters `A`, `B` and `C`. -/
def openPair : Ty :=
  .named ⟨"Pair", 2⟩
    [.param "A", .tuple [(.nullable (.param "B"), some "b"), (.array (.param "C") 1, none)]]

/-- `A` and `B` stand for each other. -/
def swap : Bindings :=
  [("A", .param "B"), ("B", .param "A")]

/-- `A` stands for `int` and `B` for `string`. -/
def fill : Bindings :=
  [("A", .predefined "int"), ("B", .predefined "string")]

/-- `B` stands for `int` and `A` for `string`. -/
def swapAndFill : Bindings :=
  [("B", .predefined "int"), ("A", .predefined "string")]

theorem composes_swap_fill : Bindings.Composes swap fill swapAndFill := by
  intro name
  by_cases ha : name = "A"
  · subst ha
    rfl
  · by_cases hb : name = "B"
    · subst hb
      rfl
    · have ha' : (name == "A") = false := by simpa using ha
      have hb' : (name == "B") = false := by simpa using hb
      simp only [swap, fill, swapAndFill, List.lookup_cons, ha', hb', List.lookup_nil,
        Option.map_none, Option.none_or]

end Sample

namespace Ty

open Sample

/-- Swapping before filling gives each parameter the type of the other one, `C` stays open, and
what is closed stays as it is. -/
theorem substitution_laws_swap :
    Bindings.Composes swap fill swapAndFill ∧
      (openPair.substitute swap).substitute fill = openPair.substitute swapAndFill ∧
      (openPair.substitute swapAndFill).display = "Pair<string, (int? b, C[])>" ∧
      (openPair.substitute swapAndFill).isOpen = true ∧
      (array (predefined "int") 1).isOpen = false ∧
      (array (predefined "int") 1).substitute swap = array (predefined "int") 1 := by
  obtain ⟨_, ⟨_, hcompose⟩, _, _⟩ := substitution_laws openPair swap fill
  obtain ⟨_, _, hopen, _⟩ := substitution_laws openPair swapAndFill []
  refine ⟨composes_swap_fill, hcompose _ composes_swap_fill, by decide, hopen.2 ?_, rfl,
    (substitution_laws (array (predefined "int") 1) swap []).1 rfl⟩
  exact ⟨"C", by decide, .inl rfl⟩

end Ty

end Registrar
