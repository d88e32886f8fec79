/-
The directives that a declaration sees are directives of its file.

Two walks over a tree have to agree for this. The walk to the declarations
gathers the using directives that stand directly in each namespace that it
enters (`ownDirectives`); the walk to the directives goes through the whole
tree but for types and closed parts (`allDirectives`). They agree as long as
the body of a namespace is a named pair of braces, which the second walk enters
too (`BracedNamespaces`), and no namespace lies inside a type, where only the
first one goes (`NamespacesOutsideTypes`). `Reaches.scope_directives_subset`
follows the first walk, and `SourceUnit.scope_directives_subset` is what it
says of a file.
-/
import Registrar.Proofs.Walk

namespace Registrar

open Registrar.Tree

/-! ## The directives of a tree -/

theorem mem_allDirectives {dir : Directive} {ns : List Node} :
    dir ∈ allDirectives ns ↔ ∃ n ∈ ns, n.isNamed = true ∧ dir ∈ directivesOf n := by
  induction ns with
  | nil => simp [allDirectives]
  | cons n rest ih => cases h : n.isNamed <;> simp [allDirectives, ih, h]

/-- Nodes that are no directives, types or closed parts are gone through. -/
theorem directivesOf_eq_allDirectives {n : Node} (htype : ∀ keyword, n.kind ≠ .typeDeclaration keyword)
    (hclosed : n.kind.isClosed = false) : directivesOf n = allDirectives n.children := by
  obtain ⟨kind, text, named, role, row, children⟩ := n
  simp only [Node.kind, Node.children] at htype hclosed ⊢
  unfold directivesOf
  split
  · cases hclosed
  · next keyword => exact absurd rfl (htype keyword)
  · simp [hclosed]

theorem ownDirectives_subset (ns : List Node) : ownDirectives ns ⊆ allDirectives ns := by
  intro dir hdir
  obtain ⟨n, hn, rfl⟩ := List.mem_map.1 hdir
  obtain ⟨hmem, husing⟩ := List.mem_filter.1 hn
  obtain ⟨kind, text, named, role, row, children⟩ := n
  simp only [Node.isNamedOf, Node.isNamed, Node.kind, Bool.and_eq_true, beq_iff_eq] at husing
  obtain ⟨rfl, rfl⟩ := husing
  exact mem_allDirectives.2 ⟨_, hmem, rfl, List.mem_singleton.2 rfl⟩

theorem allDirectives_tail_subset (n : Node) (rest : List Node) :
    allDirectives rest ⊆ allDirectives (n :: rest) :=
  List.subset_append_right _ _

theorem directivesOf_subset {n : Node} {ns : List Node} (hn : n ∈ ns) (hnamed : n.isNamed = true) :
    directivesOf n ⊆ allDirectives ns :=
  fun _ hdir => mem_allDirectives.2 ⟨n, hn, hnamed, hdir⟩

mutual

/-- A directive that is found is what one of the nodes reads as. -/
theorem exists_node_of_mem_directivesOf {dir : Directive} : ∀ n : Node, dir ∈ directivesOf n →
    ∃ m, dir = Directive.ofNode m
  | .node kind text named role row children, h => by
    unfold directivesOf at h
    split at h
    · exact ⟨_, List.mem_singleton.1 h⟩
    · cases h
    · split at h
      · cases h
      · exact exists_node_of_mem_allDirectives children h

theorem exists_node_of_mem_allDirectives {dir : Directive} : ∀ ns : List Node,
    dir ∈ allDirectives ns → ∃ m, dir = Directive.ofNode m
  | [], h => by cases h
  | n :: rest, h => by
    rw [allDirectives, List.mem_append] at h
    rcases h with h | h
    · split at h
      · exact exists_node_of_mem_directivesOf n h
      · cases h
    · exact exists_node_of_mem_allDirectives rest h

end

/-! ## Where namespaces stand -/

namespace Tree

/-- The node is a namespace, with a body or for the rest of the file. -/
def Node.isNamespace (n : Node) : Bool :=
  n.kind == .namespaceBlock || n.kind == .namespaceFile

/-- The node declares a type. -/
def Node.declaresType (n : Node) : Bool :=
  match n.kind with
  | .typeDeclaration _ => true
  | _ => false

/-- Every namespace with its members in a body has them in a named pair of braces. -/
def BracedNamespaces (ns : List Node) : Prop :=
  ∀ n ∈ Node.nodesAmong ns, n.kind = .namespaceBlock →
    ∀ body ∈ bodyOf? n.children, body.isNamed = true ∧ body.kind = .body

/-- No namespace lies inside a type. -/
def NamespacesOutsideTypes (ns : List Node) : Prop :=
  ∀ t ∈ Node.nodesAmong ns, t.declaresType = true →
    ∀ n ∈ Node.nodesAmong t.children, n.isNamespace = false

theorem BracedNamespaces.mono {ns ms : List Node} (h : BracedNamespaces ns)
    (hsub : Node.nodesAmong ms ⊆ Node.nodesAmong ns) : BracedNamespaces ms :=
  fun n hn => h n (hsub hn)

theorem NamespacesOutsideTypes.mono {ns ms : List Node} (h : NamespacesOutsideTypes ns)
    (hsub : Node.nodesAmong ms ⊆ Node.nodesAmong ns) : NamespacesOutsideTypes ms :=
  fun n hn => h n (hsub hn)

end Tree

/-! ## The scopes of what the walk reaches -/

/-- Behind a node there is at most one more scope, with directives of that node. -/
theorem mem_after_scopes {here : Surroundings} {n : Node} {scope : UsingScope}
    (h : scope ∈ (here.after n).scopes) :
    scope ∈ here.scopes ∨ n.isNamed = true ∧ scope.directives ⊆ directivesOf n := by
  unfold Surroundings.after at h
  split at h
  · next children =>
    rcases List.mem_cons.1 h with rfl | h
    · exact .inr ⟨rfl, ownDirectives_subset children⟩
    · exact .inl h
  · exact .inl h

namespace Enters

variable {here inner : Surroundings} {n : Node} {members : List Node}

/-- Below a node there is at most one more scope, with directives of what is read there. -/
theorem mem_scopes (h : Enters here n inner members) {scope : UsingScope}
    (hscope : scope ∈ inner.scopes) :
    scope ∈ here.scopes ∨ scope.directives ⊆ allDirectives members := by
  cases h with
  | block _ _ | file _ =>
    rcases List.mem_cons.1 hscope with rfl | hscope
    · exact .inr (ownDirectives_subset _)
    · exact .inl hscope
  | type _ _ | plain _ _ _ _ _ => exact .inl hscope

/-- What is read below a node other than a type has its directives. -/
theorem allDirectives_subset (h : Enters here n inner members) (htype : n.declaresType = false)
    (hbraced : n.kind = .namespaceBlock →
      ∀ body ∈ bodyOf? n.children, body.isNamed = true ∧ body.kind = .body) :
    allDirectives members ⊆ directivesOf n := by
  cases h with
  | @block body hkind hbody =>
    obtain ⟨hnamed, hbodyKind⟩ := hbraced hkind body hbody
    rw [directivesOf_eq_allDirectives (by simp [hkind]) (by rw [hkind]; rfl),
      ← directivesOf_eq_allDirectives (n := body) (by simp [hbodyKind]) (by rw [hbodyKind]; rfl)]
    exact directivesOf_subset (mem_of_bodyOf? hbody) hnamed
  | file hkind =>
    rw [directivesOf_eq_allDirectives (by simp [hkind]) (by rw [hkind]; rfl)]
    exact List.Subset.refl _
  | type hkind _ => simp [Node.declaresType, hkind] at htype
  | plain _ _ htype hclosed _ =>
    rw [directivesOf_eq_allDirectives htype hclosed]
    exact List.Subset.refl _

/-- A type adds no scope. -/
theorem scopes_eq_of_declaresType (h : Enters here n inner members) (htype : n.declaresType = true) :
    inner.scopes = here.scopes := by
  cases h with
  | block hkind _ | file hkind => simp [Node.declaresType, hkind] at htype
  | type _ _ | plain _ _ _ _ _ => rfl

end Enters

namespace Reaches

variable {here there : Surroundings} {members : List Node} {n : Node}

/-- Where there is no namespace, the walk keeps its scopes. -/
theorem scopes_eq (h : Reaches here members there n)
    (hnone : ∀ m ∈ Node.nodesAmong members, m.isNamespace = false) : there.scopes = here.scopes := by
  induction h with
  | member _ => rfl
  | @sibling here there m n rest _ ih =>
    rw [ih fun n hn => hnone n (Node.nodesAmong_tail_subset m rest hn)]
    have hm := hnone m (Node.mem_nodesAmong_of_mem (.head _))
    unfold Surroundings.after
    split
    · cases hm
    · rfl
  | @entered here inner there m n below rest _ henters _ ih =>
    rw [ih fun n hn => hnone n (Node.nodesAmong_subset_of_mem (.head _) (henters.nodesAmong_subset hn))]
    have hm := hnone m (Node.mem_nodesAmong_of_mem (.head _))
    cases henters with
    | block hkind _ | file hkind => simp [Node.isNamespace, hkind] at hm
    | type _ _ | plain _ _ _ _ _ => rfl

/-- The scopes that the walk gathers hold directives of the nodes that it goes through. -/
theorem scope_directives_subset (h : Reaches here members there n) (hbraced : BracedNamespaces members)
    (houtside : NamespacesOutsideTypes members) :
    ∀ scope ∈ there.scopes, scope ∈ here.scopes ∨ scope.directives ⊆ allDirectives members := by
  induction h with
  | member _ => exact fun scope hscope => .inl hscope
  | @sibling here there m n rest _ ih =>
    intro scope hscope
    rcases ih (hbraced.mono (Node.nodesAmong_tail_subset m rest))
      (houtside.mono (Node.nodesAmong_tail_subset m rest)) scope hscope with hscope | hsub
    · rcases mem_after_scopes hscope with hscope | ⟨hnamed, hm⟩
      · exact .inl hscope
      · exact .inr (List.Subset.trans hm (directivesOf_subset (.head _) hnamed))
    · exact .inr (List.Subset.trans hsub (allDirectives_tail_subset m rest))
  | @entered here inner there m n below rest hnamed henters hreaches ih =>
    intro scope hscope
    have hm : m ∈ Node.nodesAmong (m :: rest) := Node.mem_nodesAmong_of_mem (.head _)
    cases htype : m.declaresType with
    | true =>
      -- Inside a type there is no namespace, so the scopes are those in front of it.
      have hnone : ∀ p ∈ Node.nodesAmong below, p.isNamespace = false :=
        fun p hp => houtside m hm htype p (henters.nodesAmong_subset hp)
      rw [hreaches.scopes_eq hnone, henters.scopes_eq_of_declaresType htype] at hscope
      exact .inl hscope
    | false =>
      have hsub : Node.nodesAmong below ⊆ Node.nodesAmong (m :: rest) :=
        List.Subset.trans henters.nodesAmong_subset (Node.nodesAmong_subset_of_mem (.head _))
      have hdirectives : allDirectives below ⊆ allDirectives (m :: rest) :=
        List.Subset.trans (henters.allDirectives_subset htype (hbraced m hm))
          (directivesOf_subset (.head _) hnamed)
      rcases ih (hbraced.mono hsub) (houtside.mono hsub) scope hscope with hscope | hscope
      · exact (henters.mem_scopes hscope).imp_right fun h => List.Subset.trans h hdirectives
      · exact .inr (List.Subset.trans hscope hdirectives)

end Reaches

/-- The directives in the scopes of a declaration are directives of its unit. -/
theorem SourceUnit.scope_directives_subset {u : SourceUnit}
    (hbraced : BracedNamespaces u.root.children) (houtside : NamespacesOutsideTypes u.root.children)
    {d : TypeDeclaration} (hd : d ∈ u.declarations) {scope : UsingScope} (hscope : scope ∈ d.scopes) :
    scope.directives ⊆ u.directives := by
  obtain ⟨there, n, hreaches, hown⟩ := mem_memberDeclarations.1 hd
  rw [(ownDeclaration?_surroundings hown).2.2.2] at hscope
  rcases hreaches.scope_directives_subset hbraced houtside scope hscope with hroot | hsub
  · rw [List.mem_singleton.1 hroot]
    exact ownDirectives_subset u.root.children
  · exact hsub

end Registrar
