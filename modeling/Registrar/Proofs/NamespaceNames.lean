/-
What a namespace is called. A namespace declaration records the text of its
name without the blanks, while a written name reads as its identifiers, without
the sign that lets a keyword be one and without comments. `Spells` tells which
nodes spell a dotted name, `Spells.ofNode` how they read, and
`dropBlanks_eq_iff` when the recorded text is the same: when no such sign and
no comment is in it. Only then the types of the namespace are found under the
name that is written for it (`found_by_name_iff_plain`); a namespace `@event`
is recorded with the sign, and nothing written leads to the types in it
(`types_of_event_missed`).
-/
import Registrar.Proofs.Identity
import Registrar.Proofs.Lookup
import Registrar.Proofs.Walk

namespace Registrar

namespace Tree

/-! ## Nodes that spell a dotted name -/

/-- A word that can be an identifier, without the sign in front of it. -/
structure IsWord (s : String) : Prop where
  nonempty : s ≠ ""
  notBlank : ∀ c ∈ s.toList, Text.isBlank c = false
  noDot : '.' ∉ s.toList
  noSign : '@' ∉ s.toList
  noSlash : '/' ∉ s.toList

instance (s : String) : Decidable (IsWord s) :=
  decidable_of_iff (s ≠ "" ∧ s.toList.all (!Text.isBlank ·) = true ∧ '.' ∉ s.toList ∧
      '@' ∉ s.toList ∧ '/' ∉ s.toList)
    ⟨fun ⟨h, hblank, hdot, hsign, hslash⟩ => ⟨h, by simpa using hblank, hdot, hsign, hslash⟩,
      fun h => ⟨h.nonempty, by simpa using h.notBlank, h.noDot, h.noSign, h.noSlash⟩⟩

/-- Blanks and comments between the parts of a name. -/
inductive Gap : List Char → Prop
  | nil : Gap []
  | blank {c : Char} {cs : List Char} (hc : Text.isBlank c = true) (h : Gap cs) : Gap (c :: cs)
  | comment {text cs : List Char} (htext : text.head? = some '/') (h : Gap cs) : Gap (text ++ cs)

/-- The node is an identifier or a dotted name that is made of the words `names`. The children
between the two sides of a dotted name, the dot and comments, play no part. -/
inductive Spells : Node → List String → Prop
  | identifier {word text : String} {role : Option Role} {row : Nat} {children : List Node}
    (hword : IsWord word) (htext : text = word ∨ text = "@" ++ word) :
    Spells (.node .identifier text true role row children) [word]
  | qualified {left right : Node} {between : List Node} {gap gap' : List Char}
    {names names' : List String} {role : Option Role} {row : Nat}
    (hleft : Spells left names) (hqualifier : left.role = some .qualifier)
    (hbetween : ∀ m ∈ between, m.role = none) (hgap : Gap gap) (hgap' : Gap gap')
    (hright : Spells right names') (hname : right.role = some .name) :
    Spells (.node .qualifiedName
      (String.ofList (left.text.toList ++ gap ++ '.' :: gap' ++ right.text.toList)) true role row
      (left :: between ++ [right])) (names ++ names')

/-- No sign that lets a keyword be an identifier, and no comment, is in the text of the node. -/
def Node.Plain (n : Node) : Prop :=
  '@' ∉ n.text.toList ∧ '/' ∉ n.text.toList

instance (n : Node) : Decidable n.Plain :=
  inferInstanceAs (Decidable (_ ∧ _))

/-- Without a comment there are blanks only. -/
theorem Gap.filter_eq_nil {cs : List Char} (h : Gap cs) (hslash : '/' ∉ cs) :
    cs.filter (!Text.isBlank ·) = [] := by
  induction h with
  | nil => rfl
  | blank hc _ ih =>
    rw [List.mem_cons, not_or] at hslash
    simpa [hc] using ih hslash.2
  | comment htext _ _ =>
    exact absurd (List.mem_append_left _ (List.mem_of_mem_head? htext)) hslash

namespace Spells

variable {n : Node} {names : List String}

theorem ne_nil (h : Spells n names) : names ≠ [] := by
  induction h with
  | identifier => simp
  | qualified _ _ _ _ _ _ _ ih => simp [ih]

theorem isWord (h : Spells n names) : ∀ word ∈ names, IsWord word := by
  induction h with
  | identifier hword => simpa using hword
  | qualified _ _ _ _ _ _ _ ih ih' => exact List.forall_mem_append.2 ⟨ih, ih'⟩

end Spells

end Tree

namespace Text

theorem trim_eq_self {s : String} (h : ∀ c ∈ s.toList, isBlank c = false) : trim s = s := by
  have hdrop : ∀ cs : List Char, (∀ c ∈ cs, isBlank c = false) → cs.dropWhile isBlank = cs := by
    intro cs hcs
    cases cs with
    | nil => rfl
    | cons c rest => rw [List.dropWhile_cons, hcs c List.mem_cons_self, if_neg Bool.false_ne_true]
  rw [trim, trimStart, hdrop _ h, trimEnd, hdrop _ (by simpa using h), List.reverse_reverse,
    String.ofList_toList]

/-- A sign that is not blank stays when blanks are dropped. -/
theorem mem_dropBlanks {c : Char} (hc : isBlank c = false) {s : String} :
    c ∈ (dropBlanks s).toList ↔ c ∈ s.toList := by
  simp [dropBlanks, hc]

theorem not_mem_intercalate {c : Char} (hc : c ≠ '.') {names : List String}
    (h : ∀ name ∈ names, c ∉ name.toList) : c ∉ (".".intercalate names).toList := by
  induction names with
  | nil => simp
  | cons name rest ih =>
    rw [List.forall_mem_cons] at h
    cases rest with
    | nil => simpa using h.1
    | cons next others =>
      rw [String.intercalate_cons_cons]
      simpa [h.1, hc] using ih h.2

end Text

namespace Tree

namespace Spells

variable {n : Node} {names : List String}

/-- The text of a plain node without its blanks is the dotted name. -/
theorem dropBlanks_of_plain (h : Spells n names) (hplain : n.Plain) :
    Text.dropBlanks n.text = ".".intercalate names := by
  induction h with
  | @identifier word text _ _ _ hword htext =>
    rcases htext with rfl | rfl
    · have hall : text.toList.filter (!Text.isBlank ·) = text.toList :=
        List.filter_eq_self.2 fun c hc => by simp [hword.notBlank c hc]
      rw [Node.text, Text.dropBlanks, hall, String.ofList_toList, String.intercalate_singleton]
    · exact absurd (by simp [Node.text]) hplain.1
  | @qualified left right _ gap gap' _ _ _ _ hleft _ _ hblanks hblanks' hright _ ih ih' =>
    simp only [Node.Plain, Node.text, String.toList_ofList, List.mem_append, List.mem_cons,
      not_or] at hplain
    obtain ⟨⟨⟨hleftSign, _⟩, _, _⟩, hrightSign⟩ := hplain.1
    obtain ⟨⟨⟨hleftSlash, hgap⟩, _, hgap'⟩, hrightSlash⟩ := hplain.2
    have hdot : Text.isBlank '.' = false := by decide
    have hleftText := congrArg String.toList (ih ⟨hleftSign, hleftSlash⟩)
    have hrightText := congrArg String.toList (ih' ⟨hrightSign, hrightSlash⟩)
    rw [Text.dropBlanks, String.toList_ofList] at hleftText hrightText
    rw [Node.text, Text.dropBlanks, ← String.toList_inj]
    simp [hleftText, hrightText, hblanks.filter_eq_nil hgap, hblanks'.filter_eq_nil hgap', hdot,
      String.intercalate_append_of_ne_nil hleft.ne_nil hright.ne_nil]

/-- The text without its blanks is the dotted name for plain nodes only. -/
theorem dropBlanks_eq_iff (h : Spells n names) :
    Text.dropBlanks n.text = ".".intercalate names ↔ n.Plain := by
  refine ⟨fun htext => ?_, h.dropBlanks_of_plain⟩
  have hsign : '@' ∉ (Text.dropBlanks n.text).toList := by
    rw [htext]
    exact Text.not_mem_intercalate (by decide) fun word hword => (h.isWord word hword).noSign
  have hslash : '/' ∉ (Text.dropBlanks n.text).toList := by
    rw [htext]
    exact Text.not_mem_intercalate (by decide) fun word hword => (h.isWord word hword).noSlash
  rw [Text.mem_dropBlanks (by decide)] at hsign hslash
  exact ⟨hsign, hslash⟩

theorem identifierName_eq {word text : String} (hword : IsWord word)
    (htext : text = word ∨ text = "@" ++ word) : identifierName text = word := by
  rcases htext with rfl | rfl
  · rw [identifierName, Text.trim_eq_self hword.notBlank]
    split
    · next rest hrest =>
      refine absurd ?_ hword.noSign
      rw [hrest]
      exact List.mem_cons_self
    · rw [String.ofList_toList]
  · have hblank : ∀ c ∈ ("@" ++ word).toList, Text.isBlank c = false := by
      simpa using ⟨by decide, hword.notBlank⟩
    rw [identifierName, Text.trim_eq_self hblank]
    simp

end Spells

end Tree

namespace TypeExpr

open Registrar.Tree

/-- The one node that plays a part is found behind nodes that do not play it. -/
theorem sideIndex?_concat {part : Role} {fallback : Option Nat} {front : List Node} {n : Node}
    (hfront : ∀ m ∈ front, m.plays part = false) (hn : n.plays part = true) (behind : List Node) :
    sideIndex? part fallback (front ++ n :: behind) = some front.length := by
  have hnone : front.findIdx? (·.plays part) = none := List.findIdx?_eq_none_iff.2 hfront
  rw [sideIndex?, List.findIdx?_append, hnone, List.findIdx?_cons, if_pos hn]
  simp

/-- Names without type arguments. -/
def plainSegments (names : List String) : List Segment :=
  names.map (.segment · [])

/-- A node that spells a dotted name reads as that name. -/
theorem ofNode_of_spells {n : Node} {names : List String} (h : Spells n names) :
    ∃ path last, names = path ++ [last] ∧
      ofNode n = .name none (plainSegments path) (.segment last []) := by
  induction h with
  | @identifier word _ _ _ _ hword htext =>
    exact ⟨[], word, rfl, by rw [ofNode, Spells.identifierName_eq hword htext]; rfl⟩
  | @qualified left right between _ _ _ _ _ _ _ hqualifier hbetween _ _ _ hname ih ih' =>
    obtain ⟨path, last, rfl, hleft⟩ := ih
    obtain ⟨path', last', rfl, hright⟩ := ih'
    have hfront : ∀ m ∈ left :: between, m.plays .name = false := by
      refine List.forall_mem_cons.2 ⟨by rw [Node.plays, hqualifier]; rfl, fun m hm => ?_⟩
      rw [Node.plays, hbetween m hm]
      rfl
    have hleftIndex {fallback : Option Nat} :
        sideIndex? .qualifier fallback (left :: between ++ [right]) = some 0 :=
      sideIndex?_concat (List.forall_mem_nil _) (by rw [Node.plays, hqualifier]; rfl) _
    have hrightIndex {fallback : Option Nat} :
        sideIndex? .name fallback (left :: between ++ [right]) =
          some (left :: between).length :=
      sideIndex?_concat hfront (by rw [Node.plays, hname]; rfl) []
    have hnodes : (readings (left :: between ++ [right])).map Prod.fst =
        left :: between ++ [right] := by
      simp [readings_eq_map, Function.comp_def]
    have hleftChild : (readings (left :: between ++ [right]))[0]? = some (left, ofNode left) := rfl
    have hrightChild : (readings (left :: between ++ [right]))[(left :: between).length]? =
        some (right, ofNode right) := by
      rw [readings_eq_map, List.getElem?_map, List.getElem?_append_right (Nat.le_refl _)]
      simp
    have hapart : 0 ≠ (left :: between).length := by simp
    refine ⟨path ++ last :: path', last', by simp, ?_⟩
    rw [ofNode, joinSides]
    simp only [hnodes, hleftIndex, hrightIndex]
    rw [if_neg hapart, hleftChild, hrightChild, hleft, hright]
    simp [plainSegments]

end TypeExpr

namespace Text

theorem qualify_of_ne {ns : String} (h : ns ≠ "") (name : String) :
    qualify ns name = ns ++ "." ++ name :=
  if_neg (by simpa using h)

theorem extend_of_ne {name : String} (h : name ≠ "") (ns : String) :
    extend ns name = qualify ns name :=
  if_neg (by simpa using h)

theorem intercalate_ne {names : List String} (hnames : names ≠ [])
    (h : ∀ name ∈ names, name ≠ "") : ".".intercalate names ≠ "" := by
  obtain ⟨first, rest, rfl⟩ := List.exists_cons_of_ne_nil hnames
  have hfirst := h first List.mem_cons_self
  cases rest with
  | nil => simpa using hfirst
  | cons next others =>
    rw [String.intercalate_cons_cons]
    intro hempty
    simp [hfirst] at hempty

/-- The names of a namespace and of one inside it, joined with dots. -/
theorem intercalate_append {outer names : List String} (houter : ∀ name ∈ outer, name ≠ "")
    (hnames : names ≠ []) :
    ".".intercalate (outer ++ names) = qualify (".".intercalate outer) (".".intercalate names) := by
  by_cases hnil : outer = []
  · subst hnil
    rfl
  · rw [qualify_of_ne (intercalate_ne hnil houter), String.intercalate_append_of_ne_nil hnil hnames]

end Text

open Registrar.Tree

variable {here inner : Surroundings} {m n : Node} {names outer types : List String}

theorem Tree.Spells.dropBlanks_ne (h : Spells n names) : Text.dropBlanks n.text ≠ "" := by
  have hsome : ∃ c ∈ n.text.toList, Text.isBlank c = false := by
    induction h with
    | @identifier word text _ _ _ hword htext =>
      obtain ⟨c, hc⟩ := List.exists_mem_of_ne_nil word.toList (by simpa using hword.nonempty)
      refine ⟨c, ?_, hword.notBlank c hc⟩
      rcases htext with rfl | rfl
      · exact hc
      · simp [Node.text, hc]
    | qualified => exact ⟨'.', by simp [Node.text], by decide⟩
  obtain ⟨c, hc, hblank⟩ := hsome
  intro hempty
  have hmem := (Text.mem_dropBlanks hblank).2 hc
  rw [hempty] at hmem
  simp at hmem

/-- The surroundings in which the members of the namespace declaration `m` are read: the nodes
below it, and the nodes behind it when it has no body. -/
inductive Opens (here : Surroundings) (m : Node) : Surroundings → Prop
  | below {inner : Surroundings} {members : List Node}
    (hkind : m.kind = .namespaceBlock ∨ m.kind = .namespaceFile)
    (henters : Enters here m inner members) : Opens here m inner
  | behind (hkind : m.kind = .namespaceFile) (hnamed : m.isNamed = true) :
    Opens here m (here.after m)

namespace Opens

/-- The namespace that is recorded for the members of a namespace declaration. -/
theorem ns_eq (hopens : Opens here m inner) (hname : child? .name m.children = some n) :
    inner.ns = Text.extend here.ns (Text.dropBlanks n.text) := by
  have hns : namespaceName m.children = Text.dropBlanks n.text := by
    rw [namespaceName, hname]
    rfl
  cases hopens with
  | below hkind henters =>
    cases henters with
    | block | file => rw [Surroundings.enter, hns]
    | type htype => rw [htype] at hkind; simp at hkind
    | plain hblock hfile => exact absurd hkind (not_or.2 ⟨hblock, hfile⟩)
  | behind hkind hnamed =>
    obtain ⟨kind, text, named, role, row, children⟩ := m
    obtain rfl : kind = .namespaceFile := hkind
    obtain rfl : named = true := hnamed
    exact congrArg (Text.extend here.ns) hns

/-- The recorded namespace is the one that the words name for plain nodes only. -/
theorem ns_eq_iff_plain (hopens : Opens here m inner)
    (hname : child? .name m.children = some n) (h : Spells n names) :
    inner.ns = Text.extend here.ns (".".intercalate names) ↔ n.Plain := by
  have hnames := Text.intercalate_ne h.ne_nil fun word hword => (h.isWord word hword).nonempty
  rw [hopens.ns_eq hname, ← h.dropBlanks_eq_iff, Text.extend_of_ne h.dropBlanks_ne,
    Text.extend_of_ne hnames]
  exact ⟨Text.eq_of_qualify_eq, fun hsame => by rw [hsame]⟩

end Opens

namespace Environment

open TypeExpr

variable {env : Environment} {d : TypeDeclaration} {s : Symbol}

/-- The symbol of a declaration is found under the dotted name of the declaration only. -/
theorem find_eq_symbol_iff (hs : env.declaredSymbol? d = some s) {name : String} :
    env.find .exactArity name d.arity = some s ↔ d.qualifiedName? = some name := by
  obtain ⟨hget, hclear⟩ := Option.filter_eq_some_iff.1 hs
  obtain ⟨key, hkey, hget⟩ := Option.bind_eq_some_iff.1 hget
  obtain ⟨hname, harity⟩ := TypeDeclaration.key?_eq_some_iff.1 hkey
  have hself := SymbolTable.get?_key hget
  constructor
  · intro hfind
    have hfound := SymbolTable.get?_key (Option.filter_eq_some_iff.1 hfind).1
    rw [hname, ← hself, hfound]
  · intro hsame
    obtain rfl : key.name = name := Option.some.inj (hname.symm.trans hsame)
    refine Option.filter_eq_some_iff.2 ⟨?_, hclear⟩
    rw [harity]
    exact hget

theorem qualifiedName?_of_names
    (h : d.name :: d.containers.map Enclosing.name = types.map some) :
    d.qualifiedName? = some (Text.dottedPath d.ns types) := by
  have hmapM : ∀ names : List String, (names.map some).mapM id = some names := by
    intro names
    induction names with
    | nil => rfl
    | cons name rest ih =>
      rw [List.map_cons, List.mapM_cons, ih]
      rfl
  rw [TypeDeclaration.qualifiedName?, Registrar.qualifiedName?, h, hmapM]
  rfl

/-- A type in the namespace is found under the words that name it for plain nodes only. -/
theorem find_eq_symbol_iff_plain (hopens : Opens here m inner)
    (hname : child? .name m.children = some n) (h : Spells n names)
    (houter : ∀ word ∈ outer, IsWord word) (hhere : here.ns = ".".intercalate outer)
    (hns : d.ns = inner.ns) (htypes : d.name :: d.containers.map Enclosing.name = types.map some)
    (hs : env.declaredSymbol? d = some s) :
    env.find .exactArity (".".intercalate (outer ++ names ++ types.reverse)) d.arity = some s ↔
      n.Plain := by
  have hwords : ∀ word ∈ outer ++ names, word ≠ "" := fun word hword =>
    ((List.mem_append.1 hword).elim (houter word) (h.isWord word)).nonempty
  have htypesNe : types.reverse ≠ [] := by
    rintro hnil
    rw [List.reverse_eq_nil_iff.1 hnil] at htypes
    cases htypes
  have hnames := Text.intercalate_ne h.ne_nil fun word hword => (h.isWord word hword).nonempty
  have houterNe : ".".intercalate (outer ++ names) ≠ "" :=
    Text.intercalate_ne (List.append_ne_nil_of_right_ne_nil outer h.ne_nil) hwords
  have hwhole : ".".intercalate (outer ++ names) =
      Text.extend here.ns (".".intercalate names) := by
    rw [Text.extend_of_ne hnames, hhere]
    exact Text.intercalate_append (fun word hword => (houter word hword).nonempty) h.ne_nil
  have hinner : inner.ns ≠ "" := by
    rw [hopens.ns_eq hname, Text.extend_of_ne h.dropBlanks_ne, Text.qualify]
    split
    · exact h.dropBlanks_ne
    · simp
  rw [find_eq_symbol_iff hs, qualifiedName?_of_names htypes, Option.some.injEq, Text.dottedPath,
    hns, Text.intercalate_append hwords htypesNe, Text.qualify_of_ne hinner,
    Text.qualify_of_ne houterNe, String.append_left_inj, String.append_left_inj, hwhole]
  exact hopens.ns_eq_iff_plain hname h

/-- The namespace `imported` that a directive of the file names is the only one that it imports. -/
theorem importedNames_of_plain {u : Directive} {imported x : String}
    (hu : u.importedNamespace? = some imported) (himported : imported ≠ "") :
    importedNames [⟨"", [u]⟩] "" x = [imported ++ "." ++ x] := by
  have hreadings : readingsOf "" imported = [imported] := if_pos rfl
  simp [importedNames, UsingScope.namespaces, hu, himported, hreadings]

theorem dotted_plainSegments (path : List String) (last : String) :
    dotted (plainSegments path) (.segment last []) = ".".intercalate (path ++ [last]) := by
  simp [dotted, plainSegments, Segment.identifier, Function.comp_def]

/-- For every namespace declaration whose name is spelled by words, inside a namespace that is
called by the words `outer`: the recorded namespace is the dotted form of the written name, and the
unambiguous types of the namespace are found behind `global::` and by a using directive, exactly
when the name is written without the sign for keywords and without comments. -/
theorem found_by_name_iff_plain (hopens : Opens here m inner)
    (hname : child? .name m.children = some n) (h : Spells n names) :
    (∃ path last, ofNode n = .name none path last ∧
      (inner.ns = Text.extend here.ns (dotted path last) ↔ n.Plain)) ∧
    ∀ outer, (∀ word ∈ outer, IsWord word) → here.ns = ".".intercalate outer →
      ∀ (env : Environment) d types s, d.ns = inner.ns →
        d.name :: d.containers.map Enclosing.name = types.map some →
        env.declaredSymbol? d = some s →
          (∀ e path last,
            (path ++ [last]).map Segment.identifier = outer ++ names ++ types.reverse →
            last.arguments.length = d.arity →
              ((env.lookupName e .exactArity (some "global") path last :
                Noted EndlessAlias _).result = .ok (some s) ↔ n.Plain)) ∧
          ∀ x u target, types = [x] → u.aliasName = none → u.isStatic = false →
            u.target = some (ofNode target) → Spells target (outer ++ names) →
              (s ∈ (importedNames [⟨"", [u]⟩] "" x).filterMap
                (env.find .exactArity · d.arity) ↔ n.Plain) := by
  constructor
  · obtain ⟨path, last, hnames, hread⟩ := ofNode_of_spells h
    refine ⟨_, _, hread, ?_⟩
    rw [dotted_plainSegments, ← hnames]
    exact hopens.ns_eq_iff_plain hname h
  · intro outer houter hhere env d types s hns htypes hs
    have hfind := find_eq_symbol_iff_plain hopens hname h houter hhere hns htypes hs
    constructor
    · intro e path last hidentifiers harity
      rw [lookupName_result, Except.ok.injEq, symbolOf?, if_pos rfl, dotted, hidentifiers, harity]
      exact hfind
    · rintro x u target rfl halias hstatic htarget hspells
      obtain ⟨path, last, htargetNames, hread⟩ := ofNode_of_spells hspells
      have himported : u.importedNamespace? = some (".".intercalate (outer ++ names)) := by
        rw [Directive.importedNamespace?, halias, hstatic, htarget, hread, htargetNames]
        exact congrArg some (dotted_plainSegments path last)
      have hne := Text.intercalate_ne hspells.ne_nil
        fun word hword => (hspells.isWord word hword).nonempty
      have hfull : ".".intercalate (outer ++ names ++ [x].reverse) =
          ".".intercalate (outer ++ names) ++ "." ++ x := by
        rw [List.reverse_singleton, String.intercalate_append_of_ne_nil hspells.ne_nil (by simp),
          String.intercalate_singleton]
      rw [hfull] at hfind
      rw [importedNames_of_plain himported hne, List.mem_filterMap, ← hfind]
      simp

end Environment

/-! ## Names with blanks, with a sign and with a comment -/

namespace Sample

open Registrar.Tree

/-- A dotted name of two words with the nodes between them. -/
def twoWords (text first : String) (between : List Node) (last : String) : Node :=
  .node .qualifiedName text true (some .name) 0
    (word .identifier first (some .qualifier) :: between ++ [word .identifier last (some .name)])

def dot : Node :=
  .node (.other ".") "." false none 0 []

/-- `App . Data` -/
def spacedName : Node :=
  twoWords "App . Data" "App" [dot] "Data"

/-- `App/* core */.Data` -/
def commentedName : Node :=
  twoWords "App/* core */.Data" "App" [word .closed "/* core */" none, dot] "Data"

/-- `@event` -/
def eventName : Node :=
  word .identifier "@event" (some .name)

/-- A namespace for the rest of the file. -/
def namespaceOf (name : Node) : Node :=
  .node .namespaceFile "" true none 0 [name]

/-- A file with the class `Item` in a namespace. -/
def itemIn (name : Node) : SourceUnit :=
  file "item.cs" [namespaceOf name, typeNode .class [] "Item" [] []]

/-- Where the file begins. -/
def atStart : Surroundings :=
  ⟨"item.cs", "", [], [⟨"", []⟩]⟩

/-- The class `Item` of the file. -/
def itemOf (name : Node) : TypeDeclaration :=
  declarationOf (atStart.after (namespaceOf name)) .class 0
    (typeNode .class [] "Item" [] []).children

/-- The directive `using` with a target. -/
def usingOf (target : Node) : Directive :=
  ⟨"", some (TypeExpr.ofNode target), none, false, false⟩

theorem twoWords_spells {text first last : String} {gap gap' : List Char} {between : List Node}
    (hfirst : IsWord first) (hbetween : ∀ m ∈ between, m.role = none) (hgap : Gap gap)
    (hgap' : Gap gap') (hlast : IsWord last)
    (htext : text = String.ofList (first.toList ++ gap ++ '.' :: gap' ++ last.toList)) :
    Spells (twoWords text first between last) [first, last] := by
  subst htext
  let left := word .identifier first (some .qualifier)
  let right := word .identifier last (some .name)
  have hleft : Spells left [first] := .identifier hfirst (.inl rfl)
  have hright : Spells right [last] := .identifier hlast (.inl rfl)
  have h : Spells (.node .qualifiedName
      (String.ofList (left.text.toList ++ gap ++ '.' :: gap' ++ right.text.toList)) true
      (some .name) 0 (left :: between ++ [right])) ([first] ++ [last]) :=
    .qualified hleft rfl hbetween hgap hgap' hright rfl
  exact h

theorem spacedName_spells : Spells spacedName ["App", "Data"] :=
  have hgap : Gap [' '] := .blank (by decide) .nil
  twoWords_spells (by decide +kernel) (List.forall_mem_singleton.2 rfl) hgap hgap
    (by decide +kernel) (by decide +kernel)

end Sample

namespace Environment

open Registrar.Tree Sample TypeExpr

/-- With blanks in its name the namespace is recorded as it is written elsewhere. -/
theorem found_by_name_iff_plain_spaced :
    (atStart.after (namespaceOf spacedName)).ns = "App.Data" ∧
      ∃ s, (build [itemIn spacedName] []).declaredSymbol? (itemOf spacedName) = some s ∧
        ((build [itemIn spacedName] []).lookupName (itemOf spacedName) .exactArity (some "global")
          (plainSegments ["App", "Data"]) (.segment "Item" []) :
            Noted EndlessAlias _).result = .ok (some s) ∧
        s ∈ (importedNames [⟨"", [usingOf spacedName]⟩] "" "Item").filterMap
          ((build [itemIn spacedName] []).find .exactArity · 0) := by
  have hopens : Opens atStart (namespaceOf spacedName) (atStart.after (namespaceOf spacedName)) :=
    .behind rfl rfl
  have hplain : spacedName.Plain := by decide
  obtain ⟨⟨path, last, hread, hns⟩, hfound⟩ :=
    found_by_name_iff_plain hopens rfl spacedName_spells
  obtain ⟨s, hs⟩ : ∃ s, (build [itemIn spacedName] []).declaredSymbol? (itemOf spacedName) =
      some s := Option.isSome_iff_exists.1 (by decide +kernel)
  obtain ⟨hglobal, husing⟩ := hfound [] (by simp) rfl _ _ ["Item"] s rfl rfl hs
  refine ⟨by decide, s, hs, (hglobal _ _ _ rfl rfl).2 hplain, ?_⟩
  exact (husing "Item" (usingOf spacedName) spacedName rfl rfl rfl rfl spacedName_spells).2 hplain

/-- The class `Item` in a namespace that is spelled by `names` has a symbol of its own, but the
namespace is recorded as `recorded`, and what is written for it leads nowhere. -/
structure Misses (name : Node) (names : List String) (recorded : String) : Prop where
  spells : Spells name names
  ns : (itemOf name).ns = recorded
  differs : recorded ≠ ".".intercalate names
  symbol : ((build [itemIn name] []).declaredSymbol? (itemOf name)).isSome = true
  global : ((build [itemIn name] []).lookupName (itemOf name) .exactArity (some "global")
    (plainSegments names) (.segment "Item" []) : Noted EndlessAlias _).result = .ok none
  imported : (importedNames [⟨"", [usingOf name]⟩] "" "Item").filterMap
    ((build [itemIn name] []).find .exactArity · 0) = []

/-- The sign of `@event` and the comment of `App/* core */.Data` are recorded. -/
theorem types_of_event_missed :
    Misses eventName ["event"] "@event" ∧
      Misses commentedName ["App", "Data"] "App/*core*/.Data" := by
  have hcomment : Gap "/* core */".toList := by
    rw [← List.append_nil "/* core */".toList]
    exact .comment rfl .nil
  have hevent : IsWord "event" := by decide +kernel
  constructor
  · exact ⟨.identifier hevent (.inr rfl), by decide, by decide, by decide +kernel, by rfl, by rfl⟩
  · have hspells : Spells commentedName ["App", "Data"] :=
      twoWords_spells (by decide +kernel) (by simp [word, dot, Node.role]) hcomment .nil
        (by decide +kernel) (by decide +kernel)
    exact ⟨hspells, by decide, by decide, by decide +kernel, by rfl, by rfl⟩

end Environment

end Registrar
