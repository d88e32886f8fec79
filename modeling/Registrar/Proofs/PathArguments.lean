/-
Type arguments in the middle of a dotted name. Each segment of a written name
may have type arguments, but a resolved type has one list of them, and it is
that of the last segment. Resolution reads of the segments before it their
identifiers, and of the first one how many arguments it has: names that agree
in these resolve to the same type (`lookupName_congr`), which is shown without
the arguments of the path (`display_tyOf`). So `A<int>.B` and `A<string>.B` are
one type (`inner_types_conflated`).
-/
import Registrar.Proofs.BaseChain

namespace Registrar

/-- The segments have the same identifiers and as many type arguments. -/
def SameNames (path path' : List Segment) : Prop :=
  List.Forall₂ (fun s s' => s.identifier = s'.identifier ∧
    s.arguments.length = s'.arguments.length) path path'

namespace SameNames

variable {path path' : List Segment}

theorem identifiers (h : SameNames path path') :
    path.map Segment.identifier = path'.map Segment.identifier := by
  induction h with
  | nil => rfl
  | cons hhead _ ih => rw [List.map_cons, List.map_cons, hhead.1, ih]

theorem dotted_eq (h : SameNames path path') (last : Segment) :
    TypeExpr.dotted path last = TypeExpr.dotted path' last := by
  rw [TypeExpr.dotted, TypeExpr.dotted, List.map_append, List.map_append, h.identifiers]

theorem ne_nil (h : SameNames path path') (hpath : path ≠ []) : path' ≠ [] := by
  rintro rfl
  cases h
  exact hpath rfl

end SameNames

namespace Environment

variable {env : Environment} {d : TypeDeclaration} {qualifier : Option String}
  {path path' : List Segment} {last : Segment}

/-! ## What resolution reads of a path -/

theorem lookupName_congr (h : SameNames path path') (precision : Precision) :
    (env.lookupName d precision qualifier path last : Noted ε (Option Symbol)) =
      env.lookupName d precision qualifier path' last := by
  cases qualifier with
  | some qualifier => rw [lookupName, lookupName, h.dotted_eq]
  | none =>
    cases h with
    | nil => rfl
    | @cons head head' inner inner' hhead hinner =>
      have hwhole := SameNames.dotted_eq (List.Forall₂.cons hhead hinner) last
      have hrest := SameNames.dotted_eq hinner last
      rw [lookupName, lookupName, hhead.1, hhead.2, hwhole, hrest]

theorem nameMeaning_congr (h : SameNames path path') (arguments : List Ty) :
    (env.nameMeaning d qualifier path last arguments : Noted ε Ty) =
      env.nameMeaning d qualifier path' last arguments := by
  rw [nameMeaning, nameMeaning, lookupName_congr h, lookupName_congr h, h.dotted_eq]

/-- Type arguments are resolved one by one. -/
theorem resolveArguments_eq_mapM {expand : TypeExpr → Noted EndlessAlias Ty} (es : List TypeExpr) :
    env.resolveArguments d expand es = es.mapM (env.resolveWith d expand) := by
  induction es with
  | nil => rw [resolveArguments, List.mapM_nil]
  | cons e rest ih => rw [resolveArguments, List.mapM_cons, ih]

/-! ## How the type is shown -/

/-- The name that a written name is shown under: that of its symbol, or the identifiers. -/
def shownName (env : Environment) (d : TypeDeclaration) (qualifier : Option String)
    (path : List Segment) (last : Segment) : String :=
  ((env.symbolOf? d .exactArity qualifier path last).or
    (env.symbolOf? d .anyArity qualifier path last)).elim (TypeExpr.dotted path last) (·.key.name)

theorem display_tyOf (arguments : List Ty) :
    (env.tyOf d qualifier path last arguments).display =
      env.shownName d qualifier path last ++ Ty.angled (arguments.map Ty.display) := by
  unfold tyOf shownName
  cases (env.symbolOf? d .exactArity qualifier path last).or
    (env.symbolOf? d .anyArity qualifier path last) <;>
      simp [Ty.display, Ty.displayAll_eq_map]

/-- A dotted name is neither a type parameter nor an alias. -/
theorem local?_of_path (hpath : path ≠ []) : env.local? d qualifier path last = none := by
  rw [local?, List.isEmpty_eq_false_iff.2 hpath]
  simp

/-- Dotted names that differ only in the type arguments of their paths resolve to the same type, or
they fail alike. The type is shown with the arguments of the last segment and no others, whether the
name is found or not. -/
theorem resolve_ignores_path_arguments (h : SameNames path path') (hpath : path ≠ []) :
    env.resolve d (.name qualifier path last) = env.resolve d (.name qualifier path' last) ∧
      ∀ t, (env.resolve d (.name qualifier path last)).result = .ok t →
        ∃ arguments, (last.arguments.mapM (env.resolve d)).result = .ok arguments ∧
          t.display = env.shownName d qualifier path last ++
            Ty.angled (arguments.map Ty.display) := by
  obtain ⟨expand, hexpand⟩ := resolveWithin_eq env d (env.aliasCount d)
  have hresolve : env.resolve d = env.resolveWith d expand := by
    funext e
    rw [resolve, hexpand]
  obtain ⟨identifier, written⟩ := last
  rw [hresolve]
  constructor
  · rw [resolveWith, resolveWith, local?_of_path hpath, local?_of_path (h.ne_nil hpath)]
    exact bind_congr fun arguments => nameMeaning_congr h arguments
  · intro t ht
    rw [resolveWith, local?_of_path hpath, Noted.result_bind_eq_ok] at ht
    obtain ⟨arguments, harguments, ht⟩ := ht
    rw [resolveArguments_eq_mapM] at harguments
    refine ⟨arguments, harguments, ?_⟩
    rw [nameMeaning_result] at ht
    rw [← Except.ok.inj ht, display_tyOf]

end Environment

/-! ## Types inside a generic class -/

namespace Sample

open Registrar.Tree

/-- The classes `B` and `C<U>` inside `class A<T>`. -/
def insideGeneric : Environment :=
  .build
    [file "a.cs"
      [classAround "A" ["T"] [typeNode .class [] "B" [] [], typeNode .class [] "C" ["U"] []],
        typeNode .class [] "User" [] []]]
    []

/-- The class `User` in the same file. -/
def user : TypeDeclaration :=
  (insideGeneric.declared.flatMap Prod.snd).get ⟨3, by decide⟩

/-- How a type that is written in the header of `User` is shown. -/
def shown (e : TypeExpr) : Option String :=
  (insideGeneric.resolve user e).result.toOption.map Ty.display

/-- The segment `identifier<keyword>`. -/
def segmentOf (identifier keyword : String) : Segment :=
  .segment identifier [.predefined keyword]

end Sample

namespace Environment

open Sample

/-- `A<int>.C<bool>` and `A<string>.C<bool>` are shown with the last argument only. -/
theorem resolve_ignores_path_arguments_bool :
    SameNames [segmentOf "A" "int"] [segmentOf "A" "string"] ∧ [segmentOf "A" "int"] ≠ [] ∧
      insideGeneric.resolve user (.name none [segmentOf "A" "int"] (segmentOf "C" "bool")) =
        insideGeneric.resolve user (.name none [segmentOf "A" "string"] (segmentOf "C" "bool")) ∧
      ∃ t, (insideGeneric.resolve user
        (.name none [segmentOf "A" "int"] (segmentOf "C" "bool"))).result = .ok t ∧
        t.display = "A.C<bool>" := by
  have hnames : SameNames [segmentOf "A" "int"] [segmentOf "A" "string"] := .cons ⟨rfl, rfl⟩ .nil
  have hne : [segmentOf "A" "int"] ≠ [] := List.cons_ne_nil _ _
  obtain ⟨hsame, hshown⟩ := @resolve_ignores_path_arguments insideGeneric user none _ _
    (segmentOf "C" "bool") hnames hne
  have hname : insideGeneric.shownName user none [segmentOf "A" "int"] (segmentOf "C" "bool") =
      "A.C" := by decide +kernel
  have hreturns : (insideGeneric.resolve user
      (.name none [segmentOf "A" "int"] (segmentOf "C" "bool"))).result.toOption.isSome = true := by
    decide +kernel
  refine ⟨hnames, hne, hsame, ?_⟩
  cases ht : (insideGeneric.resolve user
      (.name none [segmentOf "A" "int"] (segmentOf "C" "bool"))).result with
  | error e => rw [ht] at hreturns; cases hreturns
  | ok t =>
    obtain ⟨arguments, harguments, hdisplay⟩ := hshown t ht
    obtain rfl : [.predefined "bool"] = arguments := Except.ok.inj harguments
    exact ⟨t, rfl, by rw [hdisplay, hname]; rfl⟩

/-- `int` and `string` are shown apart, but `A<int>.B` and `A<string>.B` are not, and of
`Missing<int>.B`, which is not found, the argument is lost too. -/
theorem inner_types_conflated :
    shown (.predefined "int") = some "int" ∧ shown (.predefined "string") = some "string" ∧
      shown (.name none [segmentOf "A" "int"] (.segment "B" [])) = some "A.B" ∧
      shown (.name none [segmentOf "A" "string"] (.segment "B" [])) = some "A.B" ∧
      shown (.name none [segmentOf "Missing" "int"] (.segment "B" [])) = some "Missing.B" := by
  decide +kernel

end Environment

end Registrar
