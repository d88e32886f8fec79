/-
The declarations of a tree in the order of the text. A node has an `Address`: its
position among the children of the node it lies in, behind the address of that
one. Addresses in lexical order are nodes in the order of the text, each node
before those below it, and the address of a node around another one is a prefix
of that of the other.

`ReadsAt` says which nodes are read, by their addresses and without the order in
which the walk comes to them: the named members, and what is read below those
that are opened. The walk finds the types among these nodes, in the order of
their addresses, and what it notes of the types around each are the types at the
prefixes of its address (`Found`, put together from the parts of a tree).
-/
import Registrar.Proofs.Scopes

namespace Registrar

open Registrar.Tree

namespace Tree

/-! ## Addresses -/

/-- Where a node stands below others: the positions to go down, from the outermost one. -/
abbrev Address := List Nat

namespace Address

/-- `outer` is the address of a node around the one at `p`. -/
def Around (outer p : Address) : Prop :=
  outer <+: p ∧ outer ≠ p

variable {p q outer : Address}

theorem Around.lt (h : outer.Around p) : outer < p := by
  obtain ⟨⟨rest, rfl⟩, hne⟩ := h
  cases rest with
  | nil => simp at hne
  | cons i rest => simpa using List.append_left_lt (List.nil_lt_cons i rest)

theorem Around.not_around (h : outer.Around p) : ¬ p.Around outer :=
  fun h' => h.2 (h.1.eq_of_length (Nat.le_antisymm h.1.length_le h'.1.length_le))

theorem around_append_iff (front : Address) :
    Address.Around (front ++ q) (front ++ p) ↔ q.Around p := by
  simp [Around]

theorem not_around_of_lt {i j : Nat} (h : i < j) :
    ¬ Address.Around (i :: p) (j :: q) ∧ ¬ Address.Around (j :: q) (i :: p) := by
  simp only [Around, List.cons_prefix_cons, ne_eq]
  omega

end Address

/-! ## The nodes that are read -/

namespace Node

/-- The node is a namespace or a type, with its members in a body. -/
def opensBody (n : Node) : Bool :=
  n.kind == .namespaceBlock || n.declaresType

end Node

/-- Reading goes on below `n` with the nodes `members`, the children of the one at `step` below it:
those of the body for a namespace or type, and its own for any other node that is neither closed nor
a written type. -/
inductive Descends (n : Node) : Address → List Node → Prop
  | body (hkind : n.opensBody = true) (hindex : bodyIndex? n.children = some b)
    (hbody : n.children[b]? = some body) : Descends n [b] body.children
  | children (hkind : n.opensBody = false) (hclosed : n.kind.isClosed = false)
    (hwritten : n.kind.isType = false) : Descends n [] n.children

/-- The node `n` at the address `p` below `members` is read. -/
inductive ReadsAt : List Node → Address → Node → Prop
  | member {members : List Node} {i : Nat} {n : Node} (hn : members[i]? = some n)
    (hnamed : n.isNamed = true) : ReadsAt members [i] n
  | inside {members inner : List Node} {i : Nat} {m n : Node} {step p : Address}
    (hm : members[i]? = some m) (hnamed : m.isNamed = true) (hdescends : Descends m step inner)
    (h : ReadsAt inner p n) : ReadsAt members (i :: (step ++ p)) n

theorem Descends.unique {n : Node} {step step' : Address} {members members' : List Node}
    (h : Descends n step members) (h' : Descends n step' members') :
    step = step' ∧ members = members' := by
  cases h with
  | body hkind hindex hbody =>
    cases h' with
    | body _ hindex' hbody' =>
      cases hindex.symm.trans hindex'
      cases hbody.symm.trans hbody'
      exact ⟨rfl, rfl⟩
    | children hkind' _ _ => cases hkind.symm.trans hkind'
  | children hkind _ _ =>
    cases h' with
    | body hkind' _ _ => cases hkind.symm.trans hkind'
    | children _ _ _ => exact ⟨rfl, rfl⟩

end Tree

theorem Tree.Node.declaresType_iff {n : Node} :
    n.declaresType = true ↔ ∃ keyword, n.kind = .typeDeclaration keyword := by
  unfold declaresType
  cases n.kind <;> simp

/-- Where the walk enters a node, reading descends to the same members. -/
theorem Enters.descends {here inner : Surroundings} {n : Node} {members : List Node}
    (h : Enters here n inner members) : ∃ step, Descends n step members := by
  cases h with
  | block hkind hbody =>
    obtain ⟨b, hindex, hbody⟩ := Option.bind_eq_some_iff.1 hbody
    exact ⟨[b], .body (by simp [Node.opensBody, hkind]) hindex hbody⟩
  | type hkind hbody =>
    obtain ⟨b, hindex, hbody⟩ := Option.bind_eq_some_iff.1 hbody
    exact ⟨[b], .body (by simp [Node.opensBody, Node.declaresType, hkind]) hindex hbody⟩
  | file hkind =>
    exact ⟨[], .children (by simp [Node.opensBody, Node.declaresType, hkind]) (by rw [hkind]; rfl)
      (by rw [hkind]; rfl)⟩
  | plain hblock hfile htype hclosed hwritten =>
    refine ⟨[], .children ?_ hclosed hwritten⟩
    have hnone : n.declaresType = false := by
      rw [← Bool.not_eq_true, Node.declaresType_iff, not_exists]
      exact htype
    simp [Node.opensBody, hblock, hnone]

/-- Where reading descends, the walk enters, whatever surrounds the node. -/
theorem Tree.Descends.entered {n : Node} {step : Address} {members : List Node}
    (h : Descends n step members) (here : Surroundings) : ∃ inner, Enters here n inner members := by
  cases h with
  | @body b body hkind hindex hbody =>
    have hbody : bodyOf? n.children = some body := by rw [bodyOf?, hindex]; exact hbody
    rw [Node.opensBody, Bool.or_eq_true, beq_iff_eq] at hkind
    rcases hkind with hkind | htype
    · exact ⟨_, .block hkind hbody⟩
    · obtain ⟨keyword, hkind⟩ := Node.declaresType_iff.1 htype
      exact ⟨_, .type hkind hbody⟩
  | children hkind hclosed hwritten =>
    rw [Node.opensBody, Bool.or_eq_false_iff, beq_eq_false_iff_ne] at hkind
    by_cases hfile : n.kind = .namespaceFile
    · exact ⟨_, .file hfile⟩
    · have htype : ¬ ∃ keyword, n.kind = .typeDeclaration keyword := by
        rw [← Node.declaresType_iff, hkind.2]
        exact Bool.false_ne_true
      exact ⟨_, .plain hkind.1 hfile (not_exists.1 htype) hclosed hwritten⟩

theorem ownDeclaration?_isSome (here : Surroundings) (n : Node) :
    (ownDeclaration? here n).isSome = n.declaresType := by
  unfold ownDeclaration? Node.declaresType
  cases n.kind <;> rfl

/-- What is read below a type lies in it, and in what it lies in. -/
theorem Enters.containers_eq {here inner : Surroundings} {n : Node} {members : List Node}
    (h : Enters here n inner members) :
    inner.containers = (ownDeclaration? here n).elim here.containers
      fun d => d.asContainer :: here.containers := by
  cases h with
  | block hkind _ | file hkind => simp [ownDeclaration?, hkind, Surroundings.enter]
  | type hkind _ => simp [ownDeclaration?, hkind, Surroundings.inside]
  | plain _ _ htype _ _ =>
    unfold ownDeclaration?
    split
    · next keyword hkind => exact absurd hkind (htype keyword)
    · rfl

/-! ## Sites -/

/-- A declaration and the address of its node. -/
structure Site where
  address : Address
  declaration : TypeDeclaration

namespace Site

/-- The site, when what it stands in stands at `front`. -/
def under (front : Address) (x : Site) : Site :=
  ⟨front ++ x.address, x.declaration⟩

/-- `y` is the innermost of the sites around `x`. -/
structure Nearest (sites : List Site) (y x : Site) : Prop where
  around : y.address.Around x.address
  innermost : ∀ z ∈ sites, z.address.Around x.address → z.address <+: y.address

/-- The types noted around `x` are the innermost of the sites around it and those noted there, or
`containers` when there is none. -/
inductive Nested (containers : List Enclosing) (sites : List Site) (x : Site) : Prop
  | outermost (hcontainers : x.declaration.containers = containers)
    (hnone : ∀ y ∈ sites, ¬ y.address.Around x.address)
  | inside {y : Site} (hy : y ∈ sites)
    (hcontainers : x.declaration.containers =
      y.declaration.asContainer :: y.declaration.containers)
    (hnearest : Nearest sites y x)

variable {containers : List Enclosing} {sites more : List Site} {x y : Site}

/-- Sites that are not around `x` do not matter for it. -/
theorem Nested.mono (h : Nested containers sites x) (hsub : sites ⊆ more)
    (hmore : ∀ y ∈ more, y.address.Around x.address → y ∈ sites) : Nested containers more x := by
  cases h with
  | outermost hcontainers hnone =>
    exact .outermost hcontainers fun y hy haround => hnone y (hmore y hy haround) haround
  | inside hy hcontainers hnearest =>
    refine .inside (hsub hy) hcontainers ⟨hnearest.around, fun z hz haround => ?_⟩
    exact hnearest.innermost z (hmore z hz haround) haround

theorem Nested.under (h : Nested containers sites x) (front : Address) :
    Nested containers (sites.map (Site.under front)) (x.under front) := by
  cases h with
  | outermost hcontainers hnone =>
    refine .outermost hcontainers fun y' hy' haround => ?_
    obtain ⟨y, hy, rfl⟩ := List.mem_map.1 hy'
    exact hnone y hy ((Address.around_append_iff front).1 haround)
  | inside hy hcontainers hnearest =>
    refine .inside (List.mem_map_of_mem hy) hcontainers ⟨?_, fun z' hz' haround => ?_⟩
    · exact (Address.around_append_iff front).2 hnearest.around
    · obtain ⟨z, hz, rfl⟩ := List.mem_map.1 hz'
      exact (List.prefix_append_right_inj front).2
        (hnearest.innermost z hz ((Address.around_append_iff front).1 haround))

/-- A type around all the sites is the one around those that none of them is around. -/
theorem Nested.cons (hy : y.declaration.containers = containers)
    (haround : ∀ x ∈ sites, y.address.Around x.address) (hx : x ∈ sites)
    (h : Nested (y.declaration.asContainer :: containers) sites x) :
    Nested containers (y :: sites) x := by
  cases h with
  | outermost hcontainers hnone =>
    refine .inside (.head _) (by rw [hcontainers, hy]) ⟨haround x hx, fun z hz hzx => ?_⟩
    rcases List.mem_cons.1 hz with rfl | hz
    · exact List.prefix_rfl
    · exact absurd hzx (hnone z hz)
  | @inside inner hinner hcontainers hnearest =>
    refine .inside (.tail _ hinner) hcontainers ⟨hnearest.around, fun z hz hzx => ?_⟩
    rcases List.mem_cons.1 hz with rfl | hz
    · exact (haround inner hinner).1
    · exact hnearest.innermost z hz hzx

end Site

/-- The sites are those of the declarations `ds`, in the order of the text: one for each type among
the nodes that are read, and `containers` are the types around all of them. -/
structure Found (containers : List Enclosing) (reads : Address → Node → Prop)
    (ds : List TypeDeclaration) (sites : List Site) : Prop where
  declared : sites.map Site.declaration = ds
  made : ∀ x ∈ sites, ∃ here n, reads x.address n ∧ ownDeclaration? here n = some x.declaration
  complete : ∀ p n, reads p n → n.declaresType = true → ∃ x ∈ sites, x.address = p
  ordered : sites.Pairwise fun x y => x.address < y.address
  nested : ∀ x ∈ sites, Site.Nested containers sites x

namespace Found

variable {containers : List Enclosing} {reads others : Address → Node → Prop}
  {ds es : List TypeDeclaration} {sites more : List Site}

theorem nil (hreads : ∀ p n, ¬ reads p n) : Found containers reads [] [] :=
  ⟨rfl, by simp, fun p n h _ => absurd h (hreads p n), .nil, by simp⟩

/-- It is the types among the nodes that count. -/
theorem congr (h : Found containers reads ds sites) (hall : ∀ p n, reads p n → others p n)
    (htypes : ∀ p n, others p n → n.declaresType = true → reads p n) :
    Found containers others ds sites where
  declared := h.declared
  made := fun x hx => by
    obtain ⟨here, n, hreads, hown⟩ := h.made x hx
    exact ⟨here, n, hall _ _ hreads, hown⟩
  complete := fun p n hreads htype => h.complete p n (htypes p n hreads htype) htype
  ordered := h.ordered
  nested := h.nested

/-- The sites of one node and those of the nodes behind it. -/
theorem append (h : Found containers reads ds sites) (h' : Found containers others es more)
    (hbefore : ∀ x ∈ sites, ∀ y ∈ more, ∃ i j p q,
      x.address = i :: p ∧ y.address = j :: q ∧ i < j) :
    Found containers (fun p n => reads p n ∨ others p n) (ds ++ es) (sites ++ more) := by
  have hapart : ∀ x ∈ sites, ∀ y ∈ more, x.address < y.address ∧
      ¬ x.address.Around y.address ∧ ¬ y.address.Around x.address := by
    intro x hx y hy
    obtain ⟨i, j, p, q, hxi, hyj, hij⟩ := hbefore x hx y hy
    rw [hxi, hyj]
    exact ⟨List.cons_lt_cons_iff.2 (.inl hij), Address.not_around_of_lt hij⟩
  constructor
  case declared => rw [List.map_append, h.declared, h'.declared]
  case made =>
    intro x hx
    rcases List.mem_append.1 hx with hx | hx
    · obtain ⟨here, n, hreads, hown⟩ := h.made x hx
      exact ⟨here, n, .inl hreads, hown⟩
    · obtain ⟨here, n, hreads, hown⟩ := h'.made x hx
      exact ⟨here, n, .inr hreads, hown⟩
  case complete =>
    intro p n hreads htype
    rcases hreads with hreads | hreads
    · obtain ⟨x, hx, hp⟩ := h.complete p n hreads htype
      exact ⟨x, List.mem_append_left _ hx, hp⟩
    · obtain ⟨x, hx, hp⟩ := h'.complete p n hreads htype
      exact ⟨x, List.mem_append_right _ hx, hp⟩
  case ordered =>
    exact List.pairwise_append.2 ⟨h.ordered, h'.ordered, fun x hx y hy => (hapart x hx y hy).1⟩
  case nested =>
    intro x hx
    rcases List.mem_append.1 hx with hx | hx
    · refine (h.nested x hx).mono (List.subset_append_left _ _) fun y hy haround => ?_
      exact (List.mem_append.1 hy).resolve_right fun hy => (hapart x hx y hy).2.2 haround
    · refine (h'.nested x hx).mono (List.subset_append_right _ _) fun y hy haround => ?_
      exact (List.mem_append.1 hy).resolve_left fun hy => (hapart y hy x hx).2.1 haround

/-- The sites of some nodes, in the place where these stand. -/
theorem under (h : Found containers reads ds sites) (front : Address) :
    Found containers (fun p n => ∃ q, p = front ++ q ∧ reads q n) ds
      (sites.map (Site.under front)) := by
  constructor
  case declared =>
    rw [List.map_map, ← h.declared]
    rfl
  case made =>
    intro x' hx'
    obtain ⟨x, hx, rfl⟩ := List.mem_map.1 hx'
    obtain ⟨here, n, hreads, hown⟩ := h.made x hx
    exact ⟨here, n, ⟨x.address, rfl, hreads⟩, hown⟩
  case complete =>
    intro p n hreads htype
    obtain ⟨q, rfl, hreads⟩ := hreads
    obtain ⟨x, hx, rfl⟩ := h.complete q n hreads htype
    exact ⟨x.under front, List.mem_map_of_mem hx, rfl⟩
  case ordered =>
    rw [List.pairwise_map]
    exact h.ordered.imp fun hlt => List.append_left_lt hlt
  case nested =>
    intro x' hx'
    obtain ⟨x, hx, rfl⟩ := List.mem_map.1 hx'
    exact (h.nested x hx).under front

/-- The sites in a type, and that of the type itself in front of them. -/
theorem cons {here : Surroundings} {n : Node} {x : Site}
    (h : Found (x.declaration.asContainer :: containers) reads ds sites)
    (hown : ownDeclaration? here n = some x.declaration)
    (hcontainers : x.declaration.containers = containers)
    (haround : ∀ y ∈ sites, x.address.Around y.address) :
    Found containers (fun p m => (p = x.address ∧ m = n) ∨ reads p m) (x.declaration :: ds)
      (x :: sites) := by
  constructor
  case declared => rw [List.map_cons, h.declared]
  case made =>
    rw [List.forall_mem_cons]
    refine ⟨⟨here, n, .inl ⟨rfl, rfl⟩, hown⟩, fun y hy => ?_⟩
    obtain ⟨there, m, hreads, hown⟩ := h.made y hy
    exact ⟨there, m, .inr hreads, hown⟩
  case complete =>
    intro p m hreads htype
    rcases hreads with ⟨rfl, -⟩ | hreads
    · exact ⟨x, .head _, rfl⟩
    · obtain ⟨y, hy, hp⟩ := h.complete p m hreads htype
      exact ⟨y, .tail _ hy, hp⟩
  case ordered =>
    exact List.pairwise_cons.2 ⟨fun y hy => (haround y hy).lt, h.ordered⟩
  case nested =>
    rw [List.forall_mem_cons]
    refine ⟨.outermost hcontainers ?_, fun y hy => .cons hcontainers haround hy (h.nested y hy)⟩
    rw [List.forall_mem_cons]
    exact ⟨fun hself => hself.2 rfl, fun y hy => (haround y hy).not_around⟩

end Found

/-! ## The sites of a tree -/

/-- The node `n` is read below `m`, at an address that goes on from `k`. -/
def ReadsBelow (k : Nat) (m : Node) (p : Address) (n : Node) : Prop :=
  ∃ step inner q, Descends m step inner ∧ p = k :: step ++ q ∧ ReadsAt inner q n

/-- The node `n` is read among `members`, the first of which stands at the position `k`. -/
def ReadsFrom (k : Nat) (members : List Node) (p : Address) (n : Node) : Prop :=
  ∃ i q, p = (k + i) :: q ∧ ReadsAt members (i :: q) n

theorem Tree.ReadsAt.exists_cons {members : List Node} {p : Address} {n : Node}
    (h : ReadsAt members p n) : ∃ i q, p = i :: q := by
  cases h <;> exact ⟨_, _, rfl⟩

theorem readsFrom_zero_iff {members : List Node} {p : Address} {n : Node} :
    ReadsFrom 0 members p n ↔ ReadsAt members p n := by
  constructor
  · intro h
    obtain ⟨i, q, rfl, h⟩ := h
    rwa [Nat.zero_add]
  · intro h
    obtain ⟨i, q, rfl⟩ := h.exists_cons
    exact ⟨i, q, by rw [Nat.zero_add], h⟩

/-- What is read at an address that begins with `i` is the node there, or is read below it. -/
theorem readsAt_cons_iff {members : List Node} {i : Nat} {q : Address} {n : Node} :
    ReadsAt members (i :: q) n ↔
      ∃ m, members[i]? = some m ∧ m.isNamed = true ∧
        ((q = [] ∧ n = m) ∨ ∃ step inner p, Descends m step inner ∧ q = step ++ p ∧
          ReadsAt inner p n) := by
  constructor
  · intro h
    generalize hp : i :: q = p at h
    cases h with
    | member hn hnamed =>
      cases hp
      exact ⟨n, hn, hnamed, .inl ⟨rfl, rfl⟩⟩
    | inside hm hnamed hdescends h =>
      cases hp
      exact ⟨_, hm, hnamed, .inr ⟨_, _, _, hdescends, rfl, h⟩⟩
  · intro h
    obtain ⟨m, hm, hnamed, ⟨rfl, rfl⟩ | ⟨step, inner, p, hdescends, rfl, h⟩⟩ := h
    · exact .member hm hnamed
    · exact .inside hm hnamed hdescends h

theorem readsAt_succ_iff {m n : Node} {rest : List Node} {i : Nat} {q : Address} :
    ReadsAt (m :: rest) ((i + 1) :: q) n ↔ ReadsAt rest (i :: q) n := by
  rw [readsAt_cons_iff, readsAt_cons_iff, List.getElem?_cons_succ]

theorem not_readsFrom_nil {k : Nat} {p : Address} {n : Node} : ¬ ReadsFrom k [] p n := by
  intro h
  obtain ⟨i, q, _, h⟩ := h
  obtain ⟨m, hm, _⟩ := readsAt_cons_iff.1 h
  cases hm

/-- What is read among nodes is the first one and what is read below it, if it is named, and what
is read among the others. -/
theorem readsFrom_cons_iff {k : Nat} {m n : Node} {rest : List Node} {p : Address} :
    ReadsFrom k (m :: rest) p n ↔
      (m.isNamed = true ∧ ((p = [k] ∧ n = m) ∨ ReadsBelow k m p n)) ∨
        ReadsFrom (k + 1) rest p n := by
  constructor
  · intro h
    obtain ⟨i, q, rfl, h⟩ := h
    cases i with
    | zero =>
      obtain ⟨_, hm, hnamed, h⟩ := readsAt_cons_iff.1 h
      cases hm
      refine .inl ⟨hnamed, h.imp ?_ ?_⟩
      · rintro ⟨rfl, rfl⟩
        exact ⟨rfl, rfl⟩
      · rintro ⟨step, inner, r, hdescends, rfl, hreads⟩
        exact ⟨step, inner, r, hdescends, rfl, hreads⟩
    | succ i =>
      exact .inr ⟨i, q, by rw [Nat.add_assoc, Nat.add_comm 1 i], readsAt_succ_iff.1 h⟩
  · intro h
    rcases h with ⟨hnamed, ⟨rfl, rfl⟩ | ⟨step, inner, q, hdescends, rfl, h⟩⟩ | ⟨i, q, rfl, h⟩
    · exact ⟨0, [], rfl, .member rfl hnamed⟩
    · exact ⟨0, step ++ q, rfl, .inside rfl hnamed hdescends h⟩
    · exact ⟨i + 1, q, by rw [Nat.add_assoc, Nat.add_comm 1 i], readsAt_succ_iff.2 h⟩

/-- What is found below one node, when what is found among the nodes that are entered is known. -/
theorem exists_found_below (here : Surroundings) (m : Node) (k : Nat)
    (hentered : ∀ inner members, Enters here m inner members →
      ∃ sites, Found inner.containers (ReadsAt members) (memberDeclarations inner members) sites) :
    ∃ sites, Found ((ownDeclaration? here m).elim here.containers
        fun d => d.asContainer :: here.containers) (ReadsBelow k m)
      ((entered? here m).elim [] fun step => memberDeclarations step.1 step.2) sites := by
  cases hstep : entered? here m with
  | none =>
    refine ⟨[], .nil fun p n hreads => ?_⟩
    obtain ⟨step, members, q, hdescends, _⟩ := hreads
    obtain ⟨inner, henters⟩ := hdescends.entered here
    rw [entered?_eq_some_iff.2 henters] at hstep
    cases hstep
  | some reached =>
    obtain ⟨inner, members⟩ := reached
    have henters := entered?_eq_some_iff.1 hstep
    obtain ⟨step, hdescends⟩ := henters.descends
    obtain ⟨sites, hfound⟩ := hentered inner members henters
    rw [henters.containers_eq] at hfound
    refine ⟨_, (hfound.under (k :: step)).congr ?_ ?_⟩
    · intro p n hreads
      obtain ⟨q, hp, hreads⟩ := hreads
      exact ⟨step, members, q, hdescends, hp, hreads⟩
    · intro p n hreads _
      obtain ⟨step', members', q, hdescends', hp, hreads⟩ := hreads
      obtain ⟨rfl, rfl⟩ := hdescends.unique hdescends'
      exact ⟨q, hp, hreads⟩

/-- What is found at one node is its own declaration, if it declares a type, and then what is found
below it. -/
theorem exists_found_at (here : Surroundings) (m : Node) (k : Nat)
    (hbelow : ∃ sites, Found ((ownDeclaration? here m).elim here.containers
        fun d => d.asContainer :: here.containers) (ReadsBelow k m)
      ((entered? here m).elim [] fun step => memberDeclarations step.1 step.2) sites) :
    ∃ sites, Found here.containers (fun p n => (p = [k] ∧ n = m) ∨ ReadsBelow k m p n)
      (declarationsOf here m) sites := by
  obtain ⟨sites, hfound⟩ := hbelow
  rw [declarationsOf_eq]
  cases hown : ownDeclaration? here m with
  | none =>
    rw [hown] at hfound
    refine ⟨sites, hfound.congr (fun p n => .inr) fun p n hreads htype => ?_⟩
    rcases hreads with ⟨-, rfl⟩ | hreads
    · rw [← ownDeclaration?_isSome here n, hown] at htype
      cases htype
    · exact hreads
  | some d =>
    rw [hown] at hfound
    have hcontainers := (ownDeclaration?_surroundings hown).2.2.1
    refine ⟨_, Found.cons (x := ⟨[k], d⟩) hfound hown hcontainers fun y hy => ?_⟩
    obtain ⟨_, n, ⟨step, inner, q, _, hp, hreads⟩, _⟩ := hfound.made y hy
    obtain ⟨i, q, rfl⟩ := hreads.exists_cons
    rw [hp]
    exact ⟨⟨step ++ i :: q, rfl⟩, by simp⟩

/-- The walk finds the types among the nodes that are read, in the order of the text. The recursion
is that of the walk: to the nodes behind one, and to those that are entered below it. -/
theorem exists_found (here : Surroundings) (members : List Node) (k : Nat) :
    ∃ sites, Found here.containers (ReadsFrom k members) (memberDeclarations here members)
      sites := by
  match members with
  | [] => exact ⟨[], .nil fun _ _ => not_readsFrom_nil⟩
  | m :: rest =>
    have hafter : (here.after m).containers = here.containers := by
      unfold Surroundings.after
      split <;> rfl
    obtain ⟨behind, hbehind⟩ := exists_found (here.after m) rest (k + 1)
    rw [hafter] at hbehind
    rw [memberDeclarations]
    by_cases hnamed : m.isNamed = true
    · obtain ⟨front, hfront⟩ := exists_found_at here m k <|
        exists_found_below here m k fun inner members henters => by
          have hlt := henters.sizeOf_lt
          obtain ⟨sites, hsites⟩ := exists_found inner members 0
          exact ⟨sites, hsites.congr (fun _ _ => readsFrom_zero_iff.1)
            fun _ _ h _ => readsFrom_zero_iff.2 h⟩
      rw [if_pos hnamed]
      refine ⟨front ++ behind, (hfront.append hbehind ?_).congr ?_ ?_⟩
      · intro x hx y hy
        obtain ⟨_, _, hxreads, _⟩ := hfront.made x hx
        obtain ⟨_, _, ⟨i, q, hq, _⟩, _⟩ := hbehind.made y hy
        -- What is found at the first node has its position in front, all the rest a later one.
        refine ⟨k, k + 1 + i, x.address.tail, q, ?_, hq, by omega⟩
        rcases hxreads with ⟨hp, _⟩ | ⟨step, inner, p, _, hp, _⟩ <;> rw [hp] <;> rfl
      · intro p n hreads
        exact readsFrom_cons_iff.2 (hreads.imp_left fun h => ⟨hnamed, h⟩)
      · intro p n hreads _
        exact (readsFrom_cons_iff.1 hreads).imp_left fun h => h.2
    · rw [if_neg hnamed, List.nil_append]
      refine ⟨behind, hbehind.congr (fun p n h => readsFrom_cons_iff.2 (.inr h)) ?_⟩
      intro p n hreads _
      exact (readsFrom_cons_iff.1 hreads).resolve_left fun h => hnamed h.1
termination_by sizeOf members
decreasing_by all_goals (rw [List.cons.sizeOf_spec]; omega)

/-- The declarations of a file are those of the types that are read in it. -/
theorem SourceUnit.exists_sites (u : SourceUnit) :
    ∃ sites, Found [] (ReadsAt u.root.children) u.declarations sites := by
  obtain ⟨sites, h⟩ :=
    exists_found ⟨u.path, "", [], [⟨"", ownDirectives u.root.children⟩]⟩ u.root.children 0
  exact ⟨sites, h.congr (fun _ _ => readsFrom_zero_iff.1) fun _ _ h _ => readsFrom_zero_iff.2 h⟩

end Registrar
