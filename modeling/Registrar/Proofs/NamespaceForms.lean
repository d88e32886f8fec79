/-
The two forms of a namespace. A namespace with a body is entered for the
members in its braces, one without a body changes the surroundings of the nodes
behind it. `memberDeclarations_append` tells what reading a list of members does
when it is cut in two: the rest is read in the surroundings that the front
leaves behind. So both forms come to read the members in the same surroundings,
and a file declares the same types in both (`declarations_same_in_both_forms`),
as long as no using directive stands among the members: one would belong to the
namespace in the first form and to the file in the second.
-/
import Registrar.Proofs.Table
import Registrar.Proofs.Walk

namespace Registrar

open Registrar.Tree

/-! ## Reading members in turn -/

/-- The surroundings behind all of the nodes. -/
def Surroundings.afterAll (here : Surroundings) (members : List Node) : Surroundings :=
  members.foldl after here

/-- Only a named node can hold for the nodes behind it. -/
theorem Surroundings.after_of_unnamed (here : Surroundings) {n : Node}
    (h : n.isNamed = false) : here.after n = here := by
  obtain ⟨kind, text, named, role, row, children⟩ := n
  simp only [Node.isNamed] at h
  subst h
  cases kind <;> rfl

/-- A namespace without a body holds for the nodes behind it. -/
theorem Surroundings.after_file (here : Surroundings) {n : Node} (hkind : n.kind = .namespaceFile)
    (hnamed : n.isNamed = true) :
    here.after n = here.enter (Text.extend here.ns (namespaceName n.children)) n.children := by
  obtain ⟨kind, text, named, role, row, children⟩ := n
  simp only [Node.kind, Node.isNamed] at hkind hnamed
  subst hkind hnamed
  rfl

theorem memberDeclarations_append (here : Surroundings) (front behind : List Node) :
    memberDeclarations here (front ++ behind) =
      memberDeclarations here front ++ memberDeclarations (here.afterAll front) behind := by
  induction front generalizing here with
  | nil => simp [memberDeclarations, Surroundings.afterAll]
  | cons n rest ih =>
    have hafter : here.afterAll (n :: rest) = (here.after n).afterAll rest := rfl
    simp only [List.cons_append, memberDeclarations, ih, hafter, List.append_assoc]

/-- The words and signs among the members play no part. -/
theorem memberDeclarations_named (here : Surroundings) (members : List Node) :
    memberDeclarations here (members.filter Node.isNamed) = memberDeclarations here members := by
  induction members generalizing here with
  | nil => rfl
  | cons n rest ih =>
    cases hnamed : n.isNamed with
    | true => simp [hnamed, memberDeclarations, ih]
    | false => simp [hnamed, memberDeclarations, here.after_of_unnamed hnamed, ih]

theorem ownDirectives_append (front behind : List Node) :
    ownDirectives (front ++ behind) = ownDirectives front ++ ownDirectives behind := by
  simp [ownDirectives]

theorem ownDirectives_named (members : List Node) :
    ownDirectives (members.filter Node.isNamed) = ownDirectives members := by
  have hboth : ∀ n : Node, (n.isNamedOf (· == .usingDirective) && n.isNamed) =
      n.isNamedOf (· == .usingDirective) := by
    intro n
    simp only [Node.isNamedOf]
    cases n.isNamed <;> simp
  simp only [ownDirectives, List.filter_filter, hboth]

theorem ownDirectives_of_none {members : List Node}
    (h : ∀ n ∈ members, n.kind ≠ .usingDirective) : ownDirectives members = [] := by
  have hnone : members.filter (·.isNamedOf (· == .usingDirective)) = [] := by
    refine List.filter_eq_nil_iff.2 fun n hn => ?_
    have hkind := h n hn
    simp [Node.isNamedOf, hkind]
  rw [ownDirectives, hnone, List.map_nil]

/-- A name declares nothing. -/
theorem declarationsOf_of_isName (here : Surroundings) {n : Node} (h : n.kind.isName = true) :
    declarationsOf here n = [] := by
  obtain ⟨kind, text, named, role, row, children⟩ := n
  simp only [Node.kind] at h
  cases kind <;> first | rfl | cases h

/-! ## The two forms -/

/-- `braces` declares a namespace with `members` between its braces, and `line` declares the same
namespace for the nodes behind it, with its name as the only named node below it. -/
structure TwoForms (line braces : Node) (members : List Node) : Prop where
  lineNamed : line.isNamed = true
  lineKind : line.kind = .namespaceFile
  lineName : ∃ name, line.namedChildren = [name] ∧ name.kind.isName = true
  bracesNamed : braces.isNamed = true
  bracesKind : braces.kind = .namespaceBlock
  bracesBody : ∃ body, bodyOf? braces.children = some body ∧ body.namedChildren = members
  sameName : namespaceName line.children = namespaceName braces.children

namespace TwoForms

variable {line braces : Node} {members : List Node}

/-- The surroundings of the members in both forms: the namespace, without a directive. -/
def inside (here : Surroundings) (braces : Node) : Surroundings :=
  here.enter (Text.extend here.ns (namespaceName braces.children)) []

/-- The name of a namespace is no using directive. -/
theorem ownDirectives_line (h : TwoForms line braces members) :
    ownDirectives line.children = [] := by
  obtain ⟨name, hname, hkind⟩ := h.lineName
  have hchildren : line.children.filter Node.isNamed = [name] := hname
  rw [← ownDirectives_named, hchildren]
  refine ownDirectives_of_none fun n hn hdirective => ?_
  rw [List.mem_singleton.1 hn] at hdirective
  rw [hdirective] at hkind
  cases hkind

/-- Nothing is declared in the name of a namespace. -/
theorem declarationsOf_line (h : TwoForms line braces members) (here : Surroundings) :
    declarationsOf here line = [] := by
  obtain ⟨name, hname, hkind⟩ := h.lineName
  have hchildren : line.children.filter Node.isNamed = [name] := hname
  have hnone : ∀ there : Surroundings, memberDeclarations there line.children = [] := by
    intro there
    rw [← memberDeclarations_named, hchildren]
    simp [memberDeclarations, declarationsOf_of_isName there hkind]
  have henters : Enters here line _ _ := .file h.lineKind
  rw [declarationsOf_eq, entered?_eq_some_iff.2 henters, ownDeclaration?, h.lineKind]
  simp [hnone]

/-- What stands behind the line is read inside the namespace. -/
theorem after_line (h : TwoForms line braces members) (here : Surroundings) :
    here.after line = inside here braces := by
  rw [here.after_file h.lineKind h.lineNamed, h.sameName, inside, Surroundings.enter,
    Surroundings.enter, h.ownDirectives_line]
  rfl

/-- What stands between the braces is read inside the namespace. -/
theorem declarationsOf_braces (h : TwoForms line braces members)
    (hplain : ∀ m ∈ members, m.kind ≠ .usingDirective) (here : Surroundings) :
    declarationsOf here braces = memberDeclarations (inside here braces) members := by
  obtain ⟨body, hbody, hmembers⟩ := h.bracesBody
  have hchildren : body.children.filter Node.isNamed = members := hmembers
  have hdirectives : ownDirectives body.children = [] := by
    rw [← ownDirectives_named, hchildren]
    exact ownDirectives_of_none hplain
  have henters : Enters here braces _ _ := .block h.bracesKind hbody
  rw [declarationsOf_eq, entered?_eq_some_iff.2 henters, ownDeclaration?, h.bracesKind]
  have hinner : here.enter (Text.extend here.ns (namespaceName braces.children)) body.children =
      inside here braces := by
    rw [inside, Surroundings.enter, Surroundings.enter, hdirectives]
    rfl
  simp only [Option.toList_none, List.nil_append, Option.elim_some, hinner]
  rw [← memberDeclarations_named, hchildren]

/-- In any surroundings the members are read alike in the two forms, and nothing else is
declared. -/
theorem memberDeclarations_eq (h : TwoForms line braces members)
    (hplain : ∀ m ∈ members, m.kind ≠ .usingDirective) (here : Surroundings) :
    memberDeclarations here (line :: members) = memberDeclarations here [braces] := by
  have hline := h.declarationsOf_line here
  have hbraces := h.declarationsOf_braces hplain here
  calc memberDeclarations here (line :: members)
      = memberDeclarations (here.after line) members := by
        simp [memberDeclarations, h.lineNamed, hline]
    _ = memberDeclarations (inside here braces) members := by rw [h.after_line]
    _ = memberDeclarations here [braces] := by
        simp [memberDeclarations, h.bracesNamed, hbraces]

end TwoForms

/-- A file that declares a namespace on a line of its own, before its members, and one that has the
same members between the braces of the namespace, with the same nodes in front of it, make the same
declarations: kinds, names, type parameters, bases, namespaces, enclosing types, using scopes and
lines, and hence the same qualified names and positions of the types around them. The members may
hold namespaces of both forms, but none of them is a using directive. -/
theorem SourceUnit.declarations_same_in_both_forms {u v : SourceUnit} {line braces : Node}
    {front members : List Node} (hpath : u.path = v.path)
    (hu : u.root.namedChildren = front ++ line :: members)
    (hv : v.root.namedChildren = front ++ [braces]) (h : TwoForms line braces members)
    (hplain : ∀ m ∈ members, m.kind ≠ .usingDirective) :
    u.declarations = v.declarations ∧
      u.declarations.map TypeDeclaration.qualifiedName? =
        v.declarations.map TypeDeclaration.qualifiedName? ∧
      parentPositions u.declarations = parentPositions v.declarations := by
  have huChildren : u.root.children.filter Node.isNamed = front ++ line :: members := hu
  have hvChildren : v.root.children.filter Node.isNamed = front ++ [braces] := hv
  -- The line and the members bring no directive to the level of the file, nor do the braces.
  have hdirectives : ownDirectives (front ++ line :: members) = ownDirectives (front ++ [braces]) := by
    have hline : ownDirectives (line :: members) = [] := by
      refine ownDirectives_of_none (List.forall_mem_cons.2 ⟨?_, hplain⟩)
      simp [h.lineKind]
    have hbraces : ownDirectives [braces] = [] :=
      ownDirectives_of_none (List.forall_mem_singleton.2 (by simp [h.bracesKind]))
    rw [ownDirectives_append, ownDirectives_append, hline, hbraces]
  have hsame : u.declarations = v.declarations := by
    unfold SourceUnit.declarations
    rw [← memberDeclarations_named _ u.root.children, ← memberDeclarations_named _ v.root.children,
      ← ownDirectives_named u.root.children, ← ownDirectives_named v.root.children, huChildren,
      hvChildren, hpath, hdirectives, memberDeclarations_append, memberDeclarations_append,
      h.memberDeclarations_eq hplain]
  exact ⟨hsame, by rw [hsame], by rw [hsame]⟩

/-! ## A namespace around namespaces -/

namespace Sample

/-- A namespace with members between braces. -/
def bracedNamespace (name : String) (members : List Node) : Node :=
  .node .namespaceBlock "" true none 0
    [word .identifier name (some .name), .node .body "" true (some .body) 0 members]

/-- A namespace for the nodes behind it, with the semicolon that ends it. -/
def namespaceLine (name : String) : Node :=
  .node .namespaceFile "" true none 0
    [.node (.other "namespace") "namespace" false none 0 [], word .identifier name (some .name),
      .node (.other ";") ";" false none 0 []]

/-- A class in a class, a class in a conditional section, a namespace in braces, and a namespace
for the class behind it. -/
def mixedMembers : List Node :=
  [classAround "Ping" [] [typeNode .class [] "Handler" [] []],
    .node (.other "section") "" true none 0 [typeNode .class ["partial"] "Part" ["T"] []],
    bracedNamespace "Sub" [typeNode .interface [] "Mark" [] []],
    namespaceLine "Deep",
    typeNode .class [] "Last" [] []]

/-- What stands in front of the namespace `App`. -/
def beforeApp : List Node :=
  [word .usingDirective "using System;" none, typeNode .struct [] "Start" [] []]

def lineFile : SourceUnit :=
  file "app.cs" (beforeApp ++ namespaceLine "App" :: mixedMembers)

def bracesFile : SourceUnit :=
  file "app.cs" (beforeApp ++ [bracedNamespace "App" mixedMembers])

end Sample

open Sample in
/-- The two files declare the same six types. -/
theorem SourceUnit.declarations_same_in_both_forms_mixed :
    TwoForms (namespaceLine "App") (bracedNamespace "App" mixedMembers) mixedMembers ∧
      (∀ m ∈ mixedMembers, m.kind ≠ .usingDirective) ∧
      lineFile.declarations = bracesFile.declarations ∧
      bracesFile.declarations.map TypeDeclaration.qualifiedName? =
        [some "Start", some "App.Ping", some "App.Ping.Handler", some "App.Part",
          some "App.Sub.Mark", some "App.Deep.Last"] ∧
      parentPositions lineFile.declarations = [none, none, some 1, none, none, none] := by
  have hforms : TwoForms (namespaceLine "App") (bracedNamespace "App" mixedMembers) mixedMembers :=
    ⟨rfl, rfl, ⟨word .identifier "App" (some .name), rfl, rfl⟩, rfl, rfl, ⟨_, rfl, rfl⟩, rfl⟩
  have hplain : ∀ m ∈ mixedMembers, m.kind ≠ .usingDirective := by decide
  have hpath : lineFile.path = bracesFile.path := rfl
  have hline : lineFile.root.namedChildren =
      beforeApp ++ namespaceLine "App" :: mixedMembers := rfl
  have hbraces : bracesFile.root.namedChildren =
      beforeApp ++ [bracedNamespace "App" mixedMembers] := rfl
  obtain ⟨hsame, -, hparents⟩ :=
    SourceUnit.declarations_same_in_both_forms hpath hline hbraces hforms hplain
  have hpositions : parentPositions bracesFile.declarations =
      [none, none, some 1, none, none, none] := by decide +kernel
  exact ⟨hforms, hplain, hsame, by decide +kernel, hparents.trans hpositions⟩

end Registrar
