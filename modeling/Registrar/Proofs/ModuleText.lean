/-
What the text of a generated module says. `Template.standardText_eq` gives the
text line by line, and as no line holds a line feed, its lines can be told apart
again (`Text.lines_unlines`). From them `Module.directiveLines` reads the using
directives, `Module.namespaceLine?` the line of the namespace and
`Module.statements` the registrations, and they find in a module's text what the
module was made of (`Module.ReadsBack`). So two modules with one text have the
same content. The registration class is in every text, whatever it is made of,
so a run misses it only where another template takes the place of the built-in
one.
-/
import Registrar.Proofs.Imports
import Registrar.Proofs.RunEffects

namespace Registrar

namespace Text

/-! ## Lines -/

/-- Lines one below the other, with a line feed behind each. -/
def unlines (ls : List String) : String :=
  String.join (ls.map (· ++ "\n"))

/-- The lines of a text: what stands between its line feeds. -/
def lines (s : String) : List String :=
  (s.toList.splitOn '\n').map String.ofList

/-- No line feed is in the text. -/
def OneLine (s : String) : Prop :=
  '\n' ∉ s.toList

instance (s : String) : Decidable (OneLine s) :=
  inferInstanceAs (Decidable (_ ∉ _))

theorem OneLine.append {s t : String} (hs : OneLine s) (ht : OneLine t) : OneLine (s ++ t) := by
  simp only [OneLine, String.toList_append, List.mem_append, not_or]
  exact ⟨hs, ht⟩

theorem unlines_nil : unlines [] = "" := rfl

theorem unlines_cons (l : String) (ls : List String) :
    unlines (l :: ls) = l ++ "\n" ++ unlines ls := by
  simp only [unlines, List.map_cons, String.join_cons]

theorem unlines_append (ls ms : List String) : unlines (ls ++ ms) = unlines ls ++ unlines ms := by
  simp only [unlines, List.map_append, String.join_append]

theorem unlines_flatMap (f : α → List String) (as : List α) :
    unlines (as.flatMap f) = String.join (as.map fun a => unlines (f a)) := by
  induction as with
  | nil => rfl
  | cons a rest ih =>
    rw [List.flatMap_cons, unlines_append, ih, List.map_cons, String.join_cons]

/-- Behind the last line feed there is an empty line. -/
theorem unlines_eq_intercalate (ls : List String) :
    unlines ls = "\n".intercalate (ls ++ [""]) := by
  induction ls with
  | nil => rfl
  | cons l rest ih =>
    rw [unlines_cons, ih]
    cases rest with
    | nil => simp [String.intercalate_cons_cons]
    | cons next others => simp only [List.cons_append, String.intercalate_cons_cons]

/-- Lines that are written one below the other are read back. -/
theorem lines_unlines {ls : List String} (h : ∀ l ∈ ls, OneLine l) :
    lines (unlines ls) = ls ++ [""] := by
  have hfree : ∀ cs ∈ (ls ++ [""]).map String.toList, '\n' ∉ cs := by
    intro cs hcs
    obtain ⟨l, hl, rfl⟩ := List.mem_map.1 hcs
    rcases List.mem_append.1 hl with hl | hl
    · exact h l hl
    · rw [List.mem_singleton.1 hl]
      simp
  have hsplit : (unlines ls).toList.splitOn '\n' = (ls ++ [""]).map String.toList := by
    rw [unlines_eq_intercalate, String.toList_intercalate]
    exact List.splitOn_intercalate '\n' hfree (by simp)
  rw [lines, hsplit, List.map_map]
  simp [Function.comp_def]

/-- What stands in a line between `front` and `behind`. -/
def between? (front behind line : String) : Option String := do
  let rest ← front.toList.isPrefixOf? line.toList
  let inner ← behind.toList.isSuffixOf? rest
  return String.ofList inner

theorem between?_append (front inner behind : String) :
    between? front behind (front ++ inner ++ behind) = some inner := by
  have hfront : front.toList.isPrefixOf? (front ++ inner ++ behind).toList =
      some (inner ++ behind).toList := by
    rw [List.isPrefixOf?_eq_some_iff_append_eq]
    simp
  have hbehind : behind.toList.isSuffixOf? (inner ++ behind).toList = some inner.toList := by
    rw [List.isSuffixOf?_eq_some_iff_append_eq]
    simp
  rw [between?, hfront, Option.bind_eq_bind, Option.bind_some, hbehind]
  simp

end Text

namespace Template

/-! ## The built-in template line by line -/

/-- The lines of the using directives; without any there is an empty line. -/
def importLines (imports : List String) : List String :=
  if imports = [] then [""] else imports

/-- The first line of a statement. -/
def builderLine : String :=
  "           builder"

/-- The lines of the statement that registers a handler. -/
def statementLines (e : Entry) : List String :=
  [builderLine,
    "              .Register<" ++ e.registeredType ++ ">(Lifetime.Transient)",
    "              .As(typeof(" ++ e.handler.contractType ++ "));"]

/-- The lines from the namespace to the first statement. -/
def openingLines (ns : String) : List String :=
  ["namespace " ++ ns, "\x7b", "    " ++ classMarker, "    \x7b",
    "        public static void RegisterMediatorHandlers(this IContainerBuilder builder)",
    "        \x7b"]

/-- The lines behind the last statement. -/
def closingLines : List String :=
  ["", "        \x7d", "    \x7d", "\x7d"]

def textLines (ns : String) (imports : List String) (entries : List Entry) : List String :=
  " // *** GENERATED ***" :: (frameworkImports ++ importLines imports ++
    "" :: (openingLines ns ++ entries.flatMap statementLines ++ closingLines))

theorem unlines_importLines (imports : List String) :
    Text.unlines (importLines imports) = "\n".intercalate imports ++ "\n" := by
  unfold importLines
  split
  · next hnil =>
    subst hnil
    rfl
  · next hne =>
    rw [Text.unlines_eq_intercalate, String.intercalate_append_of_ne_nil hne (by simp)]
    simp

theorem unlines_openingLines (ns : String) :
    Text.unlines (openingLines ns) = "namespace " ++ ns ++ "\n\x7b\n" ++ "    " ++ classMarker ++
      "\n    \x7b\n" ++
      "        public static void RegisterMediatorHandlers(this IContainerBuilder builder)\n" ++
      "        \x7b\n" := by
  have hbrace : "\n\x7b\n" = "\n" ++ ("\x7b" ++ "\n") := by decide
  have hclass : "\n    \x7b\n" = "\n" ++ ("    \x7b" ++ "\n") := by decide
  have hmethod : "        public static void RegisterMediatorHandlers(this IContainerBuilder builder)\n" =
      "        public static void RegisterMediatorHandlers(this IContainerBuilder builder)" ++ "\n" := by
    decide
  have hbody : "        \x7b\n" = "        \x7b" ++ "\n" := by decide
  rw [hbrace, hclass, hmethod, hbody]
  simp only [openingLines, Text.unlines_cons, Text.unlines_nil, String.append_assoc,
    String.append_empty]

theorem unlines_statementLines (e : Entry) : Text.unlines (statementLines e) = statement e := by
  have hbuilder : "           builder\n" = "           builder" ++ "\n" := by decide
  have hregister : ">(Lifetime.Transient)\n" = ">(Lifetime.Transient)" ++ "\n" := by decide
  have hcontract : "));\n" = "));" ++ "\n" := by decide
  unfold statement
  rw [hbuilder, hregister, hcontract]
  simp only [statementLines, builderLine, Text.unlines_cons, Text.unlines_nil, String.append_assoc,
    String.append_empty]

/-- The text of a module consists of its lines, with a line feed behind each. -/
theorem standardText_eq (ns : String) (imports : List String) (entries : List Entry) :
    standardText ns imports entries = Text.unlines (textLines ns imports entries) := by
  have hfirst : " // *** GENERATED ***\n" = " // *** GENERATED ***" ++ "\n" := by decide
  have hframework : String.join (frameworkImports.map (· ++ "\n")) =
      Text.unlines frameworkImports := rfl
  have hblank : "\n\n" = "\n" ++ ("" ++ "\n") := by decide
  have hclosing : "\n        \x7d\n    \x7d\n\x7d\n" = Text.unlines closingLines := by decide
  have hstatements : Text.unlines (entries.flatMap statementLines) =
      String.join (entries.map statement) := by
    simp only [Text.unlines_flatMap, unlines_statementLines]
  unfold standardText
  rw [hfirst, hframework, hblank, hclosing, ← hstatements]
  simp only [textLines, Text.unlines_cons, Text.unlines_append, unlines_importLines,
    unlines_openingLines, String.append_assoc]

/-- The content of a module: nothing in it reaches over the end of a line. -/
structure OneLined (ns : String) (imports : ImportSet) (entries : List Entry) : Prop where
  ns : Text.OneLine ns
  imports : ∀ d ∈ imports.items, Text.OneLine d
  entries : ∀ e ∈ entries, Text.OneLine e.registeredType ∧ Text.OneLine e.handler.contractType

theorem OneLined.without {ns : String} {imports : ImportSet} {entries : List Entry}
    (h : OneLined ns imports entries) (directives : List String) :
    OneLined ns (imports.without directives) entries where
  ns := h.ns
  imports := fun d hd => h.imports d (ImportSet.mem_without.1 hd).1
  entries := h.entries

/-- No line of the text holds a line feed. -/
theorem oneLine_textLines {ns : String} {imports : List String} {entries : List Entry}
    (hns : Text.OneLine ns) (himports : ∀ d ∈ imports, Text.OneLine d)
    (hentries : ∀ e ∈ entries,
      Text.OneLine e.registeredType ∧ Text.OneLine e.handler.contractType) :
    ∀ l ∈ textLines ns imports entries, Text.OneLine l := by
  have hfixed : ∀ l ∈ " // *** GENERATED ***" :: "" :: (frameworkImports ++ closingLines),
      Text.OneLine l := by decide
  have himport : ∀ l ∈ importLines imports, Text.OneLine l := by
    intro l hl
    unfold importLines at hl
    split at hl
    · rw [List.mem_singleton.1 hl]
      decide
    · exact himports l hl
  have hopening : ∀ l ∈ openingLines ns, Text.OneLine l := by
    have hrest : ∀ l ∈ (openingLines "").tail, Text.OneLine l := by decide
    exact List.forall_mem_cons.2 ⟨.append (by decide) hns, hrest⟩
  have hstatement : ∀ e ∈ entries, ∀ l ∈ statementLines e, Text.OneLine l := by
    intro e he
    obtain ⟨hregistered, hcontract⟩ := hentries e he
    simp only [statementLines, List.forall_mem_cons]
    refine ⟨by decide, .append (.append (by decide) hregistered) (by decide),
      .append (.append (by decide) hcontract) (by decide), List.forall_mem_nil _⟩
  intro l hl
  simp only [textLines, List.mem_cons, List.mem_append, List.mem_flatMap] at hl hfixed
  rcases hl with hl | (hl | hl) | hl | (hl | ⟨e, he, hl⟩) | hl
  · exact hfixed l (by simp [hl])
  · exact hfixed l (by simp [hl])
  · exact himport l hl
  · exact hfixed l (by simp [hl])
  · exact hopening l hl
  · exact hstatement e he l hl
  · exact hfixed l (by simp [hl])

end Template

namespace Module

/-! ## Reading a module back -/

/-- The using directives of a text: the lines from the second one up to an empty one. -/
def directiveLines (text : String) : List String :=
  ((Text.lines text).drop 1).takeWhile (· != "")

/-- The line behind the first empty lines. -/
def namespaceLine? (text : String) : Option String :=
  (((Text.lines text).dropWhile (· != "")).dropWhile (· == "")).head?

/-- The registered type and the contract of the statement that the first three of the lines make,
when they do. -/
def statement? : List String → Option (String × String)
  | first :: second :: third :: _ =>
    if first = Template.builderLine then do
      let registered ← Text.between? "              .Register<" ">(Lifetime.Transient)" second
      let contract ← Text.between? "              .As(typeof(" "));" third
      return (registered, contract)
    else none
  | _ => none

/-- The statements among lines, wherever one begins. -/
def statementsAmong : List String → List (String × String)
  | [] => []
  | l :: rest => (statement? (l :: rest)).toList ++ statementsAmong rest

def statements (text : String) : List (String × String) :=
  statementsAmong (Text.lines text)

/-- No statement begins on a line of another form. -/
theorem statementsAmong_append_of_ne {front : List String}
    (h : ∀ l ∈ front, l ≠ Template.builderLine) (rest : List String) :
    statementsAmong (front ++ rest) = statementsAmong rest := by
  induction front with
  | nil => rfl
  | cons l front ih =>
    obtain ⟨hl, hfront⟩ := List.forall_mem_cons.1 h
    have hnone : statement? (l :: (front ++ rest)) = none := by
      unfold statement?
      split
      · next heq =>
        rw [← (List.cons.inj heq).1, if_neg hl]
      · rfl
    rw [List.cons_append, statementsAmong, hnone, ih hfront]
    rfl

/-- A text that begins otherwise than a line is not that line. -/
theorem append_ne {front line : String} (h : front.toList.isPrefixOf line.toList = false)
    (rest : String) : front ++ rest ≠ line := by
  intro heq
  have hprefix : front.toList <+: line.toList := by
    rw [← heq, String.toList_append]
    exact List.prefix_append _ _
  rw [List.isPrefixOf_iff_prefix.2 hprefix] at h
  cases h

/-- A statement is read back. -/
theorem statementsAmong_statementLines (e : Entry) (rest : List String) :
    statementsAmong (Template.statementLines e ++ rest) =
      (e.registeredType, e.handler.contractType) :: statementsAmong rest := by
  have hfirst : statement? (Template.statementLines e ++ rest) =
      some (e.registeredType, e.handler.contractType) := by
    simp only [Template.statementLines, List.cons_append, List.nil_append, statement?, if_true,
      Text.between?_append]
    rfl
  have hothers : ∀ l ∈ (Template.statementLines e).tail, l ≠ Template.builderLine := by
    simp only [Template.statementLines, List.tail_cons, List.forall_mem_cons, String.append_assoc]
    exact ⟨append_ne (by decide) _, append_ne (by decide) _, List.forall_mem_nil _⟩
  have hcons : Template.statementLines e ++ rest =
      Template.builderLine :: ((Template.statementLines e).tail ++ rest) := rfl
  rw [hcons, statementsAmong, ← hcons, hfirst, statementsAmong_append_of_ne hothers]
  rfl

theorem statementsAmong_flatMap (entries : List Entry) (rest : List String) :
    statementsAmong (entries.flatMap Template.statementLines ++ rest) =
      entries.map (fun e => (e.registeredType, e.handler.contractType)) ++ statementsAmong rest := by
  induction entries with
  | nil => rfl
  | cons e entries ih =>
    rw [List.flatMap_cons, List.append_assoc, statementsAmong_statementLines, ih]
    rfl

/-- The directives are set off from the namespace by empty lines. -/
theorem exists_importLines_append (imports rest : List String) :
    ∃ blanks : List String, (∀ l ∈ blanks, l = "") ∧
      Template.importLines imports ++ "" :: rest = imports ++ "" :: (blanks ++ rest) := by
  unfold Template.importLines
  split
  · next hnil =>
    subst hnil
    exact ⟨[""], by simp, rfl⟩
  · exact ⟨[], by simp, rfl⟩

/-- The text shows what the module is made of: its directives behind those of the framework, each
once, its namespace, and a statement for each entry and no other one, in their order. -/
structure ReadsBack (m : Module) : Prop where
  directives : directiveLines m.text = frameworkImports ++ m.imports.items
  distinct : (directiveLines m.text).Nodup
  ns : namespaceLine? m.text = some ("namespace " ++ m.ns)
  statements : statements m.text =
    m.entries.map fun e => (e.registeredType, e.handler.contractType)

/-- A set of directives without those of the framework, behind them, has no directive twice. -/
theorem nodup_directives (imports : ImportSet) :
    (frameworkImports ++ (imports.without frameworkImports).items).Nodup := by
  have hframework : frameworkImports.Nodup := by decide
  refine List.nodup_append'.2 ⟨hframework, ImportSet.distinct _, fun d hd hitem => ?_⟩
  rw [ImportSet.mem_without, map_trim_frameworkImports] at hitem
  exact hitem.2 hd

/-- A trimmed directive is neither an empty line nor the first line of a statement. -/
theorem item_ne {imports : ImportSet} {d : String} (hd : d ∈ imports.items) :
    d ≠ "" ∧ d ≠ Template.builderLine := by
  obtain ⟨htrim, hne⟩ := imports.trimmed d hd
  refine ⟨hne, fun heq => ?_⟩
  have hblanks : Text.trim Template.builderLine ≠ Template.builderLine := by decide +kernel
  rw [heq] at htrim
  exact hblanks htrim

/-- The lines of a module's text. -/
theorem exists_lines {ns : String} {entries : List Entry} {imports : ImportSet}
    (h : Template.OneLined ns imports entries) :
    ∃ blanks : List String, (∀ l ∈ blanks, l = "") ∧
      Text.lines (Template.standardText ns imports.items entries) =
        " // *** GENERATED ***" :: (frameworkImports ++ imports.items ++ "" :: (blanks ++
          (Template.openingLines ns ++ (entries.flatMap Template.statementLines ++
            (Template.closingLines ++ [""]))))) := by
  obtain ⟨blanks, hblanks, hsplit⟩ := exists_importLines_append imports.items
    (Template.openingLines ns ++ (entries.flatMap Template.statementLines ++
      (Template.closingLines ++ [""])))
  refine ⟨blanks, hblanks, ?_⟩
  have hone := Template.oneLine_textLines h.ns h.imports h.entries
  rw [Template.standardText_eq, Text.lines_unlines hone, List.append_assoc, ← hsplit,
    Template.textLines]
  simp only [List.cons_append, List.append_assoc]

/-- What stands before the first empty line, apart from the first line. -/
theorem directive_ne (imports : ImportSet) :
    ∀ d ∈ frameworkImports ++ imports.items, d ≠ "" ∧ d ≠ Template.builderLine := by
  have hframework : ∀ d ∈ frameworkImports, d ≠ "" ∧ d ≠ Template.builderLine := by decide
  exact List.forall_mem_append.2 ⟨hframework, fun d hd => item_ne hd⟩

section

variable {ns : String} {entries : List Entry} {imports : ImportSet}
  (h : Template.OneLined ns imports entries)

include h

theorem directiveLines_standardText :
    directiveLines (Template.standardText ns imports.items entries) =
      frameworkImports ++ imports.items := by
  obtain ⟨blanks, -, hlines⟩ := exists_lines h
  have hkept : ∀ d ∈ frameworkImports ++ imports.items, (d != "") = true :=
    fun d hd => bne_iff_ne.2 (directive_ne imports d hd).1
  rw [directiveLines, hlines, List.drop_one, List.tail_cons, List.takeWhile_append_of_pos hkept]
  simp

theorem namespaceLine?_standardText :
    namespaceLine? (Template.standardText ns imports.items entries) =
      some ("namespace " ++ ns) := by
  obtain ⟨blanks, hblanks, hlines⟩ := exists_lines h
  let front := " // *** GENERATED ***" :: (frameworkImports ++ imports.items)
  let body := Template.openingLines ns ++ (entries.flatMap Template.statementLines ++
    (Template.closingLines ++ [""]))
  have hsplit : Text.lines (Template.standardText ns imports.items entries) =
      front ++ (("" :: blanks) ++ body) := by
    simp only [hlines, front, body, List.cons_append, List.append_assoc]
  have hfront : ∀ d ∈ front, (d != "") = true :=
    List.forall_mem_cons.2 ⟨by decide, fun d hd => bne_iff_ne.2 (directive_ne imports d hd).1⟩
  have hstop : (("" :: blanks) ++ body).dropWhile (· != "") = ("" :: blanks) ++ body := by simp
  have hempty : ∀ d ∈ "" :: blanks, (d == "") = true :=
    List.forall_mem_cons.2 ⟨rfl, fun d hd => beq_iff_eq.2 (hblanks d hd)⟩
  have hname : "namespace " ++ ns ≠ "" := append_ne (by decide) ns
  rw [namespaceLine?, hsplit, List.dropWhile_append_of_pos hfront, hstop,
    List.dropWhile_append_of_pos hempty]
  simp [body, Template.openingLines, hname]

theorem statements_standardText :
    statements (Template.standardText ns imports.items entries) =
      entries.map fun e => (e.registeredType, e.handler.contractType) := by
  obtain ⟨blanks, hblanks, hlines⟩ := exists_lines h
  have hblank : ∀ l ∈ "" :: blanks, l ≠ Template.builderLine := by
    simp only [List.forall_mem_cons]
    exact ⟨by decide, fun l hl => hblanks l hl ▸ by decide⟩
  have hopening : ∀ l ∈ Template.openingLines ns, l ≠ Template.builderLine := by
    have hrest : ∀ l ∈ (Template.openingLines "").tail, l ≠ Template.builderLine := by decide
    exact List.forall_mem_cons.2 ⟨append_ne (by decide) ns, hrest⟩
  have hclosing : ∀ l ∈ Template.closingLines ++ [""], l ≠ Template.builderLine := by decide
  have hfront : ∀ l ∈ " // *** GENERATED ***" :: (frameworkImports ++ imports.items ++
      (("" :: blanks) ++ Template.openingLines ns)), l ≠ Template.builderLine := by
    simp only [List.forall_mem_cons, List.forall_mem_append] at hblank ⊢
    have hdirective := List.forall_mem_append.1 (directive_ne imports)
    exact ⟨by decide, ⟨fun l hl => (hdirective.1 l hl).2, fun l hl => (hdirective.2 l hl).2⟩,
      hblank, hopening⟩
  have hsplit : Text.lines (Template.standardText ns imports.items entries) =
      (" // *** GENERATED ***" :: (frameworkImports ++ imports.items ++
        (("" :: blanks) ++ Template.openingLines ns))) ++
          (entries.flatMap Template.statementLines ++ (Template.closingLines ++ [""])) := by
    simp only [hlines, List.cons_append, List.append_assoc]
  have hnone : statementsAmong (Template.closingLines ++ [""]) = [] := by decide
  rw [statements, hsplit, statementsAmong_append_of_ne hfront, statementsAmong_flatMap, hnone,
    List.append_nil]

end

/-- A module from the built-in template is read back. -/
theorem readsBack_builtIn {ns : String} {entries : List Entry} {imports : ImportSet}
    (h : Template.OneLined ns imports entries) :
    ReadsBack (builtIn ns entries imports) := by
  have hwithout := h.without frameworkImports
  have hdirectives := directiveLines_standardText hwithout
  refine ⟨hdirectives, ?_, namespaceLine?_standardText hwithout,
    statements_standardText hwithout⟩
  have hnodup := nodup_directives imports
  rwa [← hdirectives] at hnodup

/-- What two modules that are read back from one text have in common. -/
theorem ReadsBack.content_eq {m m' : Module} (h : ReadsBack m) (h' : ReadsBack m')
    (htext : m.text = m'.text) :
    m.ns = m'.ns ∧ m.imports.items = m'.imports.items ∧
      m.entries.map (fun e => (e.registeredType, e.handler.contractType)) =
        m'.entries.map fun e => (e.registeredType, e.handler.contractType) := by
  have hns : "namespace " ++ m.ns = "namespace " ++ m'.ns :=
    Option.some.inj (by rw [← h.ns, ← h'.ns, htext])
  have hitems : frameworkImports ++ m.imports.items = frameworkImports ++ m'.imports.items := by
    rw [← h.directives, ← h'.directives, htext]
  refine ⟨(String.append_right_inj _).1 hns, List.append_cancel_left hitems, ?_⟩
  rw [← h.statements, ← h'.statements, htext]

end Module

/-! ## A text without the class -/

theorem Module.declaresClass_builtIn (ns : String) (entries : List Entry) (imports : ImportSet) :
    declaresClass (builtIn ns entries imports).text = true :=
  holds_iff.2 (Template.infix_standardText ns _ entries)

namespace Request

variable {m : Machine} {r : Request} {p : Plan} {s t : Session}

/-- Another template takes the place of the built-in one: the settings name a folder with a template
in it. -/
def Overridden (m : Machine) (r : Request) (s : Session) : Prop :=
  ∃ p folder, (r.plan m s).2 = .ok p ∧ p.config.templates = some folder ∧
    s.files.isFile (folder.child templateName) = true

theorem plan_ne_noMarker : (r.plan m s).2 ≠ .error .noMarker := by
  simp [plan_eq_error_iff]

theorem sources_ne_noMarker : (sources m p s).2 ≠ .error .noMarker := by
  simp [sources_eq_error_iff]

/-- Without another template the built-in one is used. -/
theorem template_eq_builtIn
    (h : ∀ folder, p.config.templates = some folder →
      s.files.isFile (folder.child templateName) = false) (files : List SourceFile) :
    template m p files s = .builtIn := by
  rw [template]
  cases htemplates : p.config.templates with
  | none => rfl
  | some folder =>
    have hquiet := quiet_analysed m p files s
    rw [Template.locate, hquiet.isFile_eq, h folder htemplates, if_neg Bool.false_ne_true]

theorem make_ne_noMarker
    (h : ∀ folder, p.config.templates = some folder →
      s.files.isFile (folder.child templateName) = false) :
    (r.make m p s).2 ≠ .error .noMarker := by
  intro hmake
  have hmade := made m r p s
  rw [hmake] at hmade
  cases hmade with
  | unscanned hsources => exact sources_ne_noMarker hsources
  | noMarker _ _ hmodule hclass =>
    rw [template_eq_builtIn h, Module.ofEntries_builtIn] at hmodule
    rw [← Except.ok.inj hmodule, Module.declaresClass_builtIn] at hclass
    cases hclass

/-- Taking the old output out brings no template to light. -/
theorem isFile_of_cleared {result : Except RunError Unit} (h : Cleared r p s t result) {q : Path}
    (hfile : t.files.isFile q = true) : s.files.isFile q = true := by
  cases h with
  | unreadable | dry | absent => exact hfile
  | blocked => rwa [(s.quiet_note _).isFile_eq] at hfile
  | @removed _ place _ _ _ hplace =>
    let noted := s.note (.removingOutput p.file.text)
    have hafter : (noted.files.remove place).isFile q = true := hfile
    have hbefore : noted.files.isFile q = true := by
      by_cases hne : place = []
      · rwa [hne, Files.remove, FileTree.remove] at hafter
      · have hwithin : (noted.files.remove place).root.Within noted.files.root :=
          Files.within_remove hne (Cleared.sightAt_ne_folder hplace _)
        exact Files.isFile_of_within (by rfl) hwithin hafter
    rwa [(s.quiet_note _).isFile_eq] at hbefore

/-- A run that misses the class in its text has taken it from another template. -/
theorem run_ne_noMarker (h : ¬r.Overridden m s) : (r.run m s).2 ≠ .error .noMarker := by
  intro hrun
  rcases hplan : r.plan m s with ⟨planned, e | p⟩
  · rw [run_of_plan_error hplan] at hrun
    obtain rfl : e = .noMarker := Except.error.inj hrun
    exact plan_ne_noMarker (congrArg Prod.snd hplan)
  · have hgoes := goes_of_plan hplan
    have hquiet := quiet_plan m r s
    rw [hplan] at hquiet
    rw [hrun] at hgoes
    generalize (r.run m s).1 = t at hgoes
    cases hgoes with
    | stopped hclear => cases hclear
    | failed hclear hmake =>
      refine make_ne_noMarker (fun folder htemplates => ?_) (congrArg Prod.snd hmake)
      rw [← Bool.not_eq_true]
      intro hfile
      have hbefore := isFile_of_cleared hclear hfile
      rw [hquiet.isFile_eq] at hbefore
      exact h ⟨p, folder, congrArg Prod.snd hplan, htemplates, hbefore⟩
    | delivered _ _ hdeliver =>
      cases hdeliver with
      | failed _ _ he => cases he

end Request

/-- From the text of a module everything that it is made of can be told, as long as nothing in it
reaches over the end of a line: the namespace, the directives that the framework does not bring
along, and what each entry registers. Whatever it is made of, the text declares the registration
class, so that no run without another template misses it, on whatever machine. -/
theorem Module.builtIn_text_exact :
    (∀ ns entries imports, Template.OneLined ns imports entries →
      ReadsBack (builtIn ns entries imports)) ∧
    (∀ ns ns' entries entries' imports imports',
      Template.OneLined ns imports entries → Template.OneLined ns' imports' entries' →
      (builtIn ns entries imports).text =
        (builtIn ns' entries' imports').text →
      ns = ns' ∧
        (imports.without frameworkImports).items = (imports'.without frameworkImports).items ∧
        entries.map (fun e => (e.registeredType, e.handler.contractType)) =
          entries'.map fun e => (e.registeredType, e.handler.contractType)) ∧
    (∀ ns entries imports,
      ofEntries .builtIn ns entries imports = .ok (builtIn ns entries imports) ∧
        declaresClass (builtIn ns entries imports).text = true) ∧
    ∀ (m : Machine) (r : Request) (s : Session), ¬r.Overridden m s →
      (r.run m s).2 ≠ .error .noMarker := by
  refine ⟨fun ns entries imports h => readsBack_builtIn h, ?_,
    fun ns entries imports => ⟨rfl, declaresClass_builtIn ns entries imports⟩,
    fun m r s h => Request.run_ne_noMarker h⟩
  intro ns ns' entries entries' imports imports' h h' htext
  exact (readsBack_builtIn h).content_eq (readsBack_builtIn h') htext

namespace Sample

/-- A query and a command that are registered together. -/
def pingAndSave : List Entry :=
  [⟨"Handler", "App.Ping.Handler", .query "App.Ping" "int", "a.cs"⟩,
    ⟨"Handler", "App.Save.Handler", .command "App.Save", "b.cs"⟩]

def withFramework : ImportSet :=
  .ofList ["using App.Queries;", "using VContainer;"]

def withoutFramework : ImportSet :=
  .ofList ["using App.Queries;"]

end Sample

open Sample in
/-- A directive of the framework makes no difference to the text, and so none to what is read from
it; the run of `fromSources` fails, but not for want of the class. -/
theorem Module.builtIn_text_exact_framework :
    Template.OneLined "App" withFramework pingAndSave ∧
      Template.OneLined "App" withoutFramework pingAndSave ∧
      (builtIn "App" pingAndSave withFramework).text =
        (builtIn "App" pingAndSave withoutFramework).text ∧
      (withFramework.without frameworkImports).items =
        (withoutFramework.without frameworkImports).items ∧
      statements (builtIn "App" pingAndSave withFramework).text =
        [("App.Ping.Handler", "IQueryHandler<App.Ping, int>"),
          ("App.Save.Handler", "ICommandHandler<App.Save>")] ∧
      ¬(fromSources false).Overridden bareMachine leftover ∧
      ((fromSources false).run bareMachine leftover).2 ≠ .error .noMarker := by
  have hentries : ∀ e ∈ pingAndSave,
      Text.OneLine e.registeredType ∧ Text.OneLine e.handler.contractType := by decide
  have hwith : Template.OneLined "App" withFramework pingAndSave :=
    ⟨by decide, by decide +kernel, hentries⟩
  have hwithout : Template.OneLined "App" withoutFramework pingAndSave :=
    ⟨by decide, by decide +kernel, hentries⟩
  have hitems : (withFramework.without frameworkImports).items =
      (withoutFramework.without frameworkImports).items := by decide +kernel
  have htext : (builtIn "App" pingAndSave withFramework).text =
      (builtIn "App" pingAndSave withoutFramework).text :=
    congrArg (fun items => Template.standardText "App" items pingAndSave) hitems
  have hplain : ¬(fromSources false).Overridden bareMachine leftover := by
    rintro ⟨p, folder, hplan, htemplates, -⟩
    have hdefault : ((fromSources false).plan bareMachine leftover).2 =
        .ok ⟨["src"], ["out"], .default ["src"]⟩ := by rfl
    obtain rfl := Except.ok.inj (hdefault.symm.trans hplan)
    cases htemplates
  obtain ⟨hread, hsame, -, hrun⟩ := Module.builtIn_text_exact
  refine ⟨hwith, hwithout, htext, ?_, ?_, hplain, hrun _ _ _ hplain⟩
  · exact (hsame "App" "App" pingAndSave pingAndSave _ _ hwith hwithout htext).2.1
  · exact (hread "App" pingAndSave withFramework hwith).statements

end Registrar
