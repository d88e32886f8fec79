/-
The walk that finds the declarations of a tree, as a relation. `entered?` says
what the walk does at one node: which nodes it reads next, and in which
surroundings. `Reaches` follows these steps from one list of members to a node
below it, and the declarations that the walk finds are those of the type nodes
that it reaches (`mem_memberDeclarations`). So what holds of every declaration
is proved by one induction with three cases: the node at hand, its later
siblings, and what is entered below it.

The walk reads a part of the tree only (`Reaches.mem_nodes`), and it stays in
the file and, where no namespace is met, in the namespace that it begins in.
-/
import Registrar.SourceUnit

namespace Registrar

open Registrar.Tree

namespace Tree

/-- The body among the children of a declaration. -/
def bodyOf? (children : List Node) : Option Node :=
  (bodyIndex? children).bind (children[·]?)

namespace Node

mutual

/-- A node with all nodes below it. -/
def nodes : Node → List Node
  | .node kind text named role row children =>
    .node kind text named role row children :: nodesAmong children

/-- Nodes with all nodes below them. -/
def nodesAmong : List Node → List Node
  | [] => []
  | n :: rest => nodes n ++ nodesAmong rest

end

theorem nodes_eq_cons (n : Node) : n.nodes = n :: nodesAmong n.children := by
  cases n
  rw [nodes]
  rfl

theorem mem_nodesAmong {m : Node} {ns : List Node} : m ∈ nodesAmong ns ↔ ∃ n ∈ ns, m ∈ n.nodes := by
  induction ns with
  | nil => simp [nodesAmong]
  | cons n rest ih => simp [nodesAmong, ih]

theorem mem_nodes_self (n : Node) : n ∈ n.nodes := by
  rw [nodes_eq_cons]
  exact List.mem_cons_self

theorem mem_nodesAmong_of_mem {n : Node} {ns : List Node} (h : n ∈ ns) : n ∈ nodesAmong ns :=
  mem_nodesAmong.2 ⟨n, h, mem_nodes_self n⟩

theorem nodesAmong_subset_of_mem {n : Node} {ns : List Node} (h : n ∈ ns) :
    nodesAmong n.children ⊆ nodesAmong ns :=
  fun _ hm => mem_nodesAmong.2 ⟨n, h, by rw [nodes_eq_cons]; exact .tail _ hm⟩

theorem nodesAmong_tail_subset (n : Node) (rest : List Node) :
    nodesAmong rest ⊆ nodesAmong (n :: rest) :=
  List.subset_append_right _ _

end Node

theorem mem_of_bodyOf? {children : List Node} {body : Node} (h : bodyOf? children = some body) :
    body ∈ children := by
  obtain ⟨i, _, hi⟩ := Option.bind_eq_some_iff.1 h
  exact List.mem_of_getElem? hi

end Tree

/-! ## One step of the walk -/

/-- The declaration that a node itself makes, when it declares a type. -/
def ownDeclaration? (here : Surroundings) (n : Node) : Option TypeDeclaration :=
  match n.kind with
  | .typeDeclaration keyword => some (declarationOf here keyword n.row n.children)
  | _ => none

/-- A declaration keeps the surroundings in which it was met. -/
theorem ownDeclaration?_surroundings {here : Surroundings} {n : Node} {d : TypeDeclaration}
    (h : ownDeclaration? here n = some d) :
    d.unitPath = here.unitPath ∧ d.ns = here.ns ∧ d.containers = here.containers ∧
      d.scopes = here.scopes := by
  unfold ownDeclaration? at h
  split at h
  · cases h
    exact ⟨rfl, rfl, rfl, rfl⟩
  · cases h

/-- What is read below a node, and in which surroundings: the body of a
namespace or type, and the children of any other node that is entered. -/
def entered? (here : Surroundings) (n : Node) : Option (Surroundings × List Node) :=
  match n.kind with
  | .namespaceBlock => (bodyOf? n.children).map fun body =>
    (here.enter (Text.extend here.ns (namespaceName n.children)) body.children, body.children)
  | .namespaceFile =>
    some (here.enter (Text.extend here.ns (namespaceName n.children)) n.children, n.children)
  | .typeDeclaration keyword => (bodyOf? n.children).map fun body =>
    (here.inside (declarationOf here keyword n.row n.children), body.children)
  | kind => if kind.isClosed || kind.isType then none else some (here, n.children)

theorem bodyDeclarations_eq (here : List Node → Surroundings) (i : Option Nat) (ns : List Node) :
    bodyDeclarations here i ns =
      (i.bind (ns[·]?)).elim [] fun body => memberDeclarations (here body.children) body.children := by
  cases i with
  | none => simp [bodyDeclarations]
  | some i =>
    induction ns generalizing i with
    | nil => simp [bodyDeclarations]
    | cons n rest ih =>
      cases i with
      | zero => cases n; simp [bodyDeclarations, declarationsInBody, Node.children]
      | succ i => simpa [bodyDeclarations] using ih i

/-- What a node declares: itself, and then what is declared among the nodes entered below it. -/
theorem declarationsOf_eq (here : Surroundings) (n : Node) :
    declarationsOf here n = (ownDeclaration? here n).toList ++
      (entered? here n).elim [] fun step => memberDeclarations step.1 step.2 := by
  obtain ⟨kind, text, named, role, row, children⟩ := n
  cases kind
  case namespaceBlock =>
    simp only [declarationsOf, bodyDeclarations_eq, ownDeclaration?, entered?, Node.kind,
      Node.children, bodyOf?]
    cases (bodyIndex? children).bind (children[·]?) <;> rfl
  case typeDeclaration keyword =>
    simp only [declarationsOf, bodyDeclarations_eq, ownDeclaration?, entered?, Node.kind,
      Node.children, Node.row, bodyOf?]
    cases (bodyIndex? children).bind (children[·]?) <;> rfl
  all_goals rfl

/-- The walk reads the nodes `members` below `n` next, in the surroundings `inner`. -/
inductive Enters (here : Surroundings) (n : Node) : Surroundings → List Node → Prop
  | block (hkind : n.kind = .namespaceBlock) (hbody : bodyOf? n.children = some body) :
    Enters here n (here.enter (Text.extend here.ns (namespaceName n.children)) body.children)
      body.children
  | file (hkind : n.kind = .namespaceFile) :
    Enters here n (here.enter (Text.extend here.ns (namespaceName n.children)) n.children)
      n.children
  | type (hkind : n.kind = .typeDeclaration keyword) (hbody : bodyOf? n.children = some body) :
    Enters here n (here.inside (declarationOf here keyword n.row n.children)) body.children
  | plain (hblock : n.kind ≠ .namespaceBlock) (hfile : n.kind ≠ .namespaceFile)
    (htype : ∀ keyword, n.kind ≠ .typeDeclaration keyword) (hclosed : n.kind.isClosed = false)
    (hwritten : n.kind.isType = false) : Enters here n here n.children

theorem entered?_eq_some_iff {here inner : Surroundings} {n : Node} {members : List Node} :
    entered? here n = some (inner, members) ↔ Enters here n inner members := by
  constructor
  · intro h
    unfold entered? at h
    split at h
    · next hkind =>
      obtain ⟨body, hbody, heq⟩ := Option.map_eq_some_iff.1 h
      cases heq
      exact .block hkind hbody
    · next hkind =>
      cases h
      exact .file hkind
    · next keyword hkind =>
      obtain ⟨body, hbody, heq⟩ := Option.map_eq_some_iff.1 h
      cases heq
      exact .type hkind hbody
    · next hblock hfile htype =>
      split at h
      · cases h
      · next hopen =>
        cases h
        rw [Bool.not_eq_true, Bool.or_eq_false_iff] at hopen
        exact .plain hblock hfile htype hopen.1 hopen.2
  · intro h
    unfold entered?
    cases h with
    | block hkind hbody => simp [hkind, hbody]
    | file hkind => simp [hkind]
    | type hkind hbody => simp [hkind, hbody]
    | plain hblock hfile htype hclosed hwritten =>
      split
      · next hkind => exact absurd hkind hblock
      · next hkind => exact absurd hkind hfile
      · next keyword hkind => exact absurd hkind (htype keyword)
      · simp [hclosed, hwritten]

namespace Enters

variable {here inner : Surroundings} {n : Node} {members : List Node}

theorem members_eq (h : Enters here n inner members) :
    members = n.children ∨ ∃ body ∈ n.children, members = body.children := by
  cases h with
  | block _ hbody | type _ hbody => exact .inr ⟨_, mem_of_bodyOf? hbody, rfl⟩
  | file _ | plain _ _ _ _ _ => exact .inl rfl

theorem nodesAmong_subset (h : Enters here n inner members) :
    Node.nodesAmong members ⊆ Node.nodesAmong n.children := by
  rcases h.members_eq with rfl | ⟨body, hbody, rfl⟩
  · exact List.Subset.refl _
  · exact Node.nodesAmong_subset_of_mem hbody

theorem sizeOf_lt (h : Enters here n inner members) : sizeOf members < sizeOf n := by
  have hchildren : ∀ m : Node, sizeOf m.children < sizeOf m := by
    intro m
    cases m
    simp only [Node.children, Node.node.sizeOf_spec]
    omega
  rcases h.members_eq with rfl | ⟨body, hbody, rfl⟩
  · exact hchildren n
  · calc sizeOf body.children < sizeOf body := hchildren body
      _ < sizeOf n.children := List.sizeOf_lt_of_mem hbody
      _ < sizeOf n := hchildren n

end Enters

/-! ## The whole walk -/

/-- Reading `members` in the surroundings `here` comes to the node `n`, in the surroundings
`there`. -/
inductive Reaches : Surroundings → List Node → Surroundings → Node → Prop
  | member {here : Surroundings} {n : Node} {rest : List Node} (hnamed : n.isNamed = true) :
    Reaches here (n :: rest) here n
  | sibling {here there : Surroundings} {m n : Node} {rest : List Node}
    (h : Reaches (here.after m) rest there n) : Reaches here (m :: rest) there n
  | entered {here inner there : Surroundings} {m n : Node} {members rest : List Node}
    (hnamed : m.isNamed = true) (henters : Enters here m inner members)
    (h : Reaches inner members there n) : Reaches here (m :: rest) there n

theorem exists_reaches_of_mem {d : TypeDeclaration} (here : Surroundings) (members : List Node)
    (h : d ∈ memberDeclarations here members) :
    ∃ there n, Reaches here members there n ∧ ownDeclaration? there n = some d := by
  match members with
  | [] => cases h
  | m :: rest =>
    rw [memberDeclarations, List.mem_append] at h
    rcases h with h | h
    · split at h
      · next hnamed =>
        rw [declarationsOf_eq, List.mem_append] at h
        rcases h with h | h
        · exact ⟨here, m, .member hnamed, Option.mem_toList.1 h⟩
        · cases hstep : entered? here m with
          | none => rw [hstep] at h; cases h
          | some step =>
            obtain ⟨inner, below⟩ := step
            rw [hstep] at h
            have henters := entered?_eq_some_iff.1 hstep
            have hlt := henters.sizeOf_lt
            obtain ⟨there, n, hreaches, hown⟩ := exists_reaches_of_mem inner below h
            exact ⟨there, n, .entered hnamed henters hreaches, hown⟩
      · cases h
    · obtain ⟨there, n, hreaches, hown⟩ := exists_reaches_of_mem (here.after m) rest h
      exact ⟨there, n, .sibling hreaches, hown⟩
termination_by sizeOf members
decreasing_by all_goals (rw [List.cons.sizeOf_spec]; omega)

theorem Reaches.mem_memberDeclarations {here there : Surroundings} {members : List Node} {n : Node}
    (h : Reaches here members there n) {d : TypeDeclaration} (hd : ownDeclaration? there n = some d) :
    d ∈ memberDeclarations here members := by
  induction h with
  | member hnamed =>
    rw [memberDeclarations, if_pos hnamed, declarationsOf_eq, hd]
    exact List.mem_cons_self
  | sibling _ ih =>
    rw [memberDeclarations]
    exact List.mem_append_right _ (ih hd)
  | entered hnamed henters _ ih =>
    rw [memberDeclarations, if_pos hnamed, declarationsOf_eq, entered?_eq_some_iff.2 henters]
    exact List.mem_append_left _ (List.mem_append_right _ (ih hd))

/-- The declarations found are those of the type nodes that the walk comes to, each in the
surroundings in which it comes there. -/
theorem mem_memberDeclarations {here : Surroundings} {members : List Node} {d : TypeDeclaration} :
    d ∈ memberDeclarations here members ↔
      ∃ there n, Reaches here members there n ∧ ownDeclaration? there n = some d :=
  ⟨exists_reaches_of_mem here members, fun ⟨_, _, h, hd⟩ => h.mem_memberDeclarations hd⟩

namespace Reaches

variable {here there : Surroundings} {members : List Node} {n : Node}

theorem unitPath_eq (h : Reaches here members there n) : there.unitPath = here.unitPath := by
  have hafter : ∀ (here : Surroundings) (m : Node), (here.after m).unitPath = here.unitPath := by
    intro here m
    unfold Surroundings.after
    split <;> rfl
  induction h with
  | member _ => rfl
  | sibling _ ih => exact ih.trans (hafter _ _)
  | entered _ henters _ ih => cases henters <;> exact ih

end Reaches

/-- A declaration carries the path of its unit. -/
theorem SourceUnit.unitPath_of_mem {u : SourceUnit} {d : TypeDeclaration} (h : d ∈ u.declarations) :
    d.unitPath = u.path := by
  obtain ⟨there, n, hreaches, hown⟩ := mem_memberDeclarations.1 h
  exact (ownDeclaration?_surroundings hown).1.trans hreaches.unitPath_eq

end Registrar
