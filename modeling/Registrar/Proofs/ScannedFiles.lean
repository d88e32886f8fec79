/-
What a scan returns, told file by file. A walk that turns back at folders which are left out reads
the files whose whole way from the top is allowed (`filesAmong_eq_leaves`), so a scan returns exactly
the files that `Takes` allows and that can be read, each once, in the order of their paths, whatever
the order in which the folders list their entries (`run_exact`).

Bytes that are no UTF-8 cannot be read, with one exception: a file that ends inside a byte order mark
is read as an empty text (`readText?_eq_some_iff`).
-/
import Mathlib.Data.List.Nodup
import Registrar.Proofs.FileLookup
import Registrar.Sources.Scan

namespace Registrar

/-! ## Paths below a folder -/

theorem relativePath_concat {around : List String} (h : around ≠ []) (name : String) :
    relativePath (around ++ [name]) = relativePath around ++ "/" ++ name := by
  rw [relativePath, relativePath, String.intercalate_append_of_ne_nil h (List.cons_ne_nil _ _),
    String.intercalate_singleton]

/-- Names without slashes can be read off their path. -/
theorem relativePath_inj {names names' : List String} (hne : names ≠ []) (hne' : names' ≠ [])
    (h : ∀ name ∈ names, '/' ∉ name.toList) (h' : ∀ name ∈ names', '/' ∉ name.toList)
    (heq : relativePath names = relativePath names') : names = names' := by
  have hread : ∀ {ns : List String}, ns ≠ [] → (∀ name ∈ ns, '/' ∉ name.toList) →
      (relativePath ns).toList.splitOn '/' = ns.map String.toList := by
    intro ns hns hslash
    have hslash : ∀ cs ∈ ns.map String.toList, '/' ∉ cs := by
      intro cs hcs
      obtain ⟨name, hname, rfl⟩ := List.mem_map.1 hcs
      exact hslash name hname
    have hchars : (relativePath ns).toList = ['/'].intercalate (ns.map String.toList) :=
      String.toList_intercalate
    rw [hchars, List.splitOn_intercalate '/' hslash (by simpa using hns)]
  have hchars : names.map String.toList = names'.map String.toList := by
    rw [← hread hne h, ← hread hne' h', heq]
  exact (List.map_inj_right fun _ _ h => String.toList_inj.1 h).1 hchars

/-- The last name on a path is the last of its names. -/
theorem lastName_relativePath (around : List String) {name : String} (h : '/' ∉ name.toList) :
    ExcludePattern.lastName (relativePath (around ++ [name])) = name := by
  have hall : ∀ c ∈ name.toList.reverse, decide (c ≠ '/') = true := by
    intro c hc
    rw [decide_eq_true_iff]
    exact fun he => h (he ▸ List.mem_reverse.1 hc)
  have htake : ∀ before : String, before.toList.reverse.takeWhile (decide <| · ≠ '/') = [] →
      ExcludePattern.lastName (before ++ name) = name := by
    intro before hbefore
    rw [ExcludePattern.lastName, String.toList_append, List.reverse_append,
      List.takeWhile_append_of_pos hall, hbefore, List.append_nil, List.reverse_reverse,
      String.ofList_toList]
  by_cases haround : around = []
  · subst haround
    have hname := htake "" rfl
    rwa [String.empty_append] at hname
  · rw [relativePath_concat haround]
    exact htake _ (by simp)

/-- The pattern fits what is called `name` in the folder `around`: its path from the top when the
pattern is rooted, and otherwise its name. -/
def ExcludePattern.Fits (p : ExcludePattern) (around : List String) (name : String) : Prop :=
  globMatches p.glob (if p.isRooted then relativePath (around ++ [name]) else name) = true

theorem ExcludePattern.excludes_iff {p : ExcludePattern} {around : List String} {name : String}
    (h : '/' ∉ name.toList) {isFolder : Bool} :
    p.excludes (relativePath (around ++ [name])) isFolder = true ↔
      (p.foldersOnly = true → isFolder = true) ∧ p.Fits around name := by
  rw [excludes, lastName_relativePath around h, Bool.and_eq_true, Fits]
  cases p.foldersOnly <;> simp

/-! ## The text of a file -/

namespace Text

/-- Bytes are the UTF-8 of a text, apart from a byte order mark in front and the line ends. -/
def DecodesAs (bytes : ByteArray) (text : String) : Prop :=
  ∃ decoded, decode? bytes = some decoded ∧
    text = String.ofList (unifyLineEnds (dropMark decoded.toList))

/-- The bytes are one or two of the three of a byte order mark, and nothing else. -/
def EndsInMark (bytes : ByteArray) : Prop :=
  bytes = ⟨#[0xEF]⟩ ∨ bytes = ⟨#[0xEF, 0xBB]⟩

/-- How the bytes of a file are read: as UTF-8, or as nothing when they end inside a byte order
mark. -/
def ReadsAs (bytes : ByteArray) (text : String) : Prop :=
  DecodesAs bytes text ∨ EndsInMark bytes ∧ text = ""

theorem EndsInMark.decode? {bytes : ByteArray} (h : EndsInMark bytes) : decode? bytes = none := by
  rcases h with rfl | rfl <;> decide +kernel

theorem beginsMark_iff {bytes : ByteArray} :
    beginsMark bytes = true ↔ bytes = ⟨#[]⟩ ∨ EndsInMark bytes ∨ bytes = ⟨#[0xEF, 0xBB, 0xBF]⟩ := by
  obtain ⟨⟨l⟩⟩ := bytes
  simp only [beginsMark, EndsInMark, List.isPrefixOf_iff_prefix, List.prefix_cons_iff,
    List.prefix_nil, ByteArray.mk.injEq, Array.mk.injEq]
  constructor
  · rintro (h | ⟨_, h, rfl | ⟨_, rfl, rfl | ⟨_, rfl, rfl⟩⟩⟩)
    · exact .inl h
    · exact .inr (.inl (.inl h))
    · exact .inr (.inl (.inr h))
    · exact .inr (.inr h)
  · rintro (rfl | (rfl | rfl) | rfl) <;> simp

theorem decodesAs_iff {bytes : ByteArray} {decoded : String} (h : decode? bytes = some decoded)
    {text : String} :
    DecodesAs bytes text ↔ text = String.ofList (unifyLineEnds (dropMark decoded.toList)) := by
  constructor
  · rintro ⟨decoded', hdecoded, htext⟩
    obtain rfl := Option.some.inj (h.symm.trans hdecoded)
    exact htext
  · exact fun htext => ⟨decoded, h, htext⟩

theorem not_decodesAs {bytes : ByteArray} (h : decode? bytes = none) (text : String) :
    ¬DecodesAs bytes text := by
  rintro ⟨decoded, hdecoded, _⟩
  rw [h] at hdecoded
  cases hdecoded

/-- A file can be read when its bytes are UTF-8 or end inside a byte order mark; in that case its
text is empty. -/
theorem readText?_eq_some_iff {bytes : ByteArray} {text : String} :
    readText? bytes = some text ↔ ReadsAs bytes text := by
  cases hmark : beginsMark bytes with
  | false =>
    have hends : ¬EndsInMark bytes := by
      intro h
      rw [beginsMark_iff.2 (.inr (.inl h))] at hmark
      cases hmark
    rw [readText?, hmark, if_neg Bool.false_ne_true]
    cases hdecoded : decode? bytes with
    | none => simp [ReadsAs, not_decodesAs hdecoded, hends]
    | some decoded => simp [ReadsAs, decodesAs_iff hdecoded, hends, eq_comm]
  | true =>
    have hread : readText? bytes = some text ↔ text = "" := by
      rw [readText?, hmark, if_pos rfl, Option.some.injEq]
      exact eq_comm
    rw [hread, ReadsAs]
    rcases beginsMark_iff.1 hmark with rfl | hends | rfl
    · have hempty : decode? ⟨#[]⟩ = some "" := by decide +kernel
      rw [decodesAs_iff hempty]
      exact ⟨.inl, fun h => h.elim id And.right⟩
    · rw [or_iff_right (not_decodesAs hends.decode? text), and_iff_right hends]
    · have hwhole : decode? ⟨#[0xEF, 0xBB, 0xBF]⟩ = some "\uFEFF" := by decide +kernel
      rw [decodesAs_iff hwhole]
      exact ⟨.inl, fun h => h.elim id And.right⟩

end Text

namespace FileTree

/-! ## All files of a tree -/

mutual

/-- The files of a tree with the names that lead to them. -/
def leaves : FileTree → List (List String × ByteArray)
  | file bytes => [([], bytes)]
  | folder entries => leavesAmong entries
  | link _ => []

/-- The files below the entries of a folder. -/
def leavesAmong : List (String × FileTree) → List (List String × ByteArray)
  | [] => []
  | (name, e) :: rest => (leaves e).map (fun leaf => (name :: leaf.1, leaf.2)) ++ leavesAmong rest

end

theorem mem_leavesAmong {entries : List (String × FileTree)} {names : List String}
    {bytes : ByteArray} :
    (names, bytes) ∈ leavesAmong entries ↔
      ∃ name e rest, (name, e) ∈ entries ∧ (rest, bytes) ∈ e.leaves ∧ names = name :: rest := by
  induction entries with
  | nil => simp [leavesAmong]
  | cons entry others ih =>
    obtain ⟨name, e⟩ := entry
    rw [leavesAmong, List.mem_append, ih]
    constructor
    · rintro (h | ⟨other, e', rest, he', hrest, rfl⟩)
      · obtain ⟨⟨rest, _⟩, hrest, heq⟩ := List.mem_map.1 h
        cases heq
        exact ⟨name, e, rest, .head _, hrest, rfl⟩
      · exact ⟨other, e', rest, .tail _ he', hrest, rfl⟩
    · rintro ⟨other, e', rest, he', hrest, hnames⟩
      rcases List.mem_cons.1 he' with heq | he'
      · cases heq
        exact .inl (List.mem_map.2 ⟨(rest, bytes), hrest, by rw [hnames]⟩)
      · exact .inr ⟨other, e', rest, he', hrest, hnames⟩

/-- The files of a tree are those that names lead to. -/
theorem mem_leaves {t : FileTree} (ht : t.NamesDistinct) {names : List String}
    {bytes : ByteArray} : (names, bytes) ∈ t.leaves ↔ t.at? names = some (.file bytes) := by
  induction names generalizing t with
  | nil =>
    cases t with
    | file content => simp [leaves, at?, eq_comm]
    | link target => simp [leaves, at?]
    | folder entries =>
      rw [leaves, mem_leavesAmong]
      simp [at?]
  | cons name rest ih =>
    cases t with
    | file | link => simp [leaves, at?]
    | folder entries =>
      rw [leaves, mem_leavesAmong, at?, Option.bind_eq_some_iff]
      constructor
      · rintro ⟨other, e, names, he, hnames, heq⟩
        cases heq
        exact ⟨e, lookup_of_mem ht.nodup he, (ih (ht.of_mem he)).1 hnames⟩
      · rintro ⟨e, he, hrest⟩
        have hmem := mem_of_lookup_eq_some he
        exact ⟨name, e, rest, hmem, (ih (ht.of_mem hmem)).2 hrest, rfl⟩

theorem ne_nil_of_mem_leavesAmong {entries : List (String × FileTree)}
    {leaf : List String × ByteArray} (h : leaf ∈ leavesAmong entries) : leaf.1 ≠ [] := by
  obtain ⟨_, _, _, _, _, hnames⟩ := mem_leavesAmong.1 h
  exact hnames ▸ List.cons_ne_nil _ _

theorem nodup_leavesAmong {entries : List (String × FileTree)}
    (hnames : (entries.map Prod.fst).Nodup)
    (h : ∀ entry ∈ entries, (entry.2.leaves.map Prod.fst).Nodup) :
    ((leavesAmong entries).map Prod.fst).Nodup := by
  induction entries with
  | nil => exact List.nodup_nil
  | cons entry others ih =>
    obtain ⟨name, e⟩ := entry
    rw [List.map_cons, List.nodup_cons] at hnames
    rw [List.forall_mem_cons] at h
    have hfirst : ((e.leaves.map fun leaf => (name :: leaf.1, leaf.2)).map Prod.fst) =
        (e.leaves.map Prod.fst).map (name :: ·) := by
      rw [List.map_map, List.map_map]
      rfl
    rw [leavesAmong, List.map_append, hfirst, List.nodup_append]
    refine ⟨h.1.map fun _ _ heq => (List.cons.inj heq).2, ih hnames.2 h.2, ?_⟩
    rintro _ hnamed names hothers rfl
    obtain ⟨rest, _, hrest⟩ := List.mem_map.1 hnamed
    obtain ⟨leaf, hleaf, heq⟩ := List.mem_map.1 hothers
    obtain ⟨other, e', _, he', _, hother⟩ := mem_leavesAmong.1 hleaf
    rw [heq, ← hrest, List.cons.injEq] at hother
    exact hnames.1 (hother.1 ▸ List.mem_map.2 ⟨_, he', rfl⟩)

/-- No name on the way to a file holds a slash. -/
def PlainNames (t : FileTree) : Prop :=
  ∀ names bytes, t.at? names = some (.file bytes) → ∀ name ∈ names, '/' ∉ name.toList

/-- No file is listed twice. -/
theorem nodup_leaves {t : FileTree} (ht : t.NamesDistinct) : (t.leaves.map Prod.fst).Nodup := by
  induction ht with
  | file bytes => exact List.nodup_singleton []
  | link target => exact List.nodup_nil
  | folder hnames _ ih => exact nodup_leavesAmong hnames ih

/-- There are no links below a folder without them. -/
theorem LinkFree.of_mem {entries : List (String × FileTree)} (h : (folder entries).LinkFree)
    (hdistinct : (folder entries).NamesDistinct) {name : String} {e : FileTree}
    (he : (name, e) ∈ entries) : e.LinkFree := by
  intro l target hl
  refine h (name :: l) target ?_
  rw [shapeAt, sightAt_cons, lookup_of_mem hdistinct.nodup he]
  exact hl

end FileTree

namespace Scan

variable {s : Scan} {root : Location}

/-! ## The walk -/

/-- Whether the walk that stands in the folder `around` comes to a file below it and reads it. -/
def allows (s : Scan) (root : Location) : (around names : List String) → Bool
  | _, [] => false
  | around, [name] => s.reads name (relativePath (around ++ [name])) (root ++ (around ++ [name]))
  | around, folder :: name :: rest =>
    s.enters folder (relativePath (around ++ [folder])) &&
      allows s root (around ++ [folder]) (name :: rest)

theorem allows_cons (s : Scan) (root : Location) (around : List String) (folder : String)
    {names : List String} (h : names ≠ []) :
    s.allows root around (folder :: names) =
      (s.enters folder (relativePath (around ++ [folder])) &&
        s.allows root (around ++ [folder]) names) := by
  cases names with
  | nil => exact absurd rfl h
  | cons name rest => rfl

mutual

theorem filesIn_eq_leaves (s : Scan) (fs : Files) (root : Location) (around : List String)
    (name : String) : ∀ e : FileTree, e.LinkFree → e.NamesDistinct →
      s.filesIn fs root around name e =
        (e.leaves.filter fun leaf => s.allows root around (name :: leaf.1)).map
          fun leaf => around ++ name :: leaf.1
  | .file bytes, _, _ => by
    rw [filesIn, FileTree.leaves, List.filter_singleton, allows]
    cases s.reads name (relativePath (around ++ [name])) (root ++ (around ++ [name])) <;> rfl
  | .link target, hlinks, _ => absurd rfl (hlinks [] target)
  | .folder entries, hlinks, hdistinct => by
    have hallows : ∀ leaf ∈ FileTree.leavesAmong entries,
        s.allows root around (name :: leaf.1) =
          (s.enters name (relativePath (around ++ [name])) &&
            s.allows root (around ++ [name]) leaf.1) :=
      fun leaf hleaf => allows_cons s root around name (FileTree.ne_nil_of_mem_leavesAmong hleaf)
    rw [filesIn, FileTree.leaves, List.filter_congr hallows,
      filesAmong_eq_leaves s fs root (around ++ [name]) entries
        fun entry hentry => ⟨hlinks.of_mem hdistinct hentry, hdistinct.of_mem hentry⟩]
    cases s.enters name (relativePath (around ++ [name])) with
    | false => simp
    | true => simp

/-- The walk below a folder without links finds the files there that it is allowed to come to and to
read. -/
theorem filesAmong_eq_leaves (s : Scan) (fs : Files) (root : Location) (around : List String) :
    ∀ entries : List (String × FileTree),
      (∀ entry ∈ entries, entry.2.LinkFree ∧ entry.2.NamesDistinct) →
      s.filesAmong fs root around entries =
        ((FileTree.leavesAmong entries).filter fun leaf => s.allows root around leaf.1).map
          fun leaf => around ++ leaf.1
  | [], _ => rfl
  | (name, e) :: rest, h => by
    rw [List.forall_mem_cons] at h
    rw [filesAmong, FileTree.leavesAmong, List.filter_append, List.map_append,
      filesAmong_eq_leaves s fs root around rest h.2,
      filesIn_eq_leaves s fs root around name e h.1.1 h.1.2, List.filter_map, List.map_map]
    rfl

end

/-- The walk comes to a file when it enters every folder on the way. -/
theorem allows_iff {outer around : List String} {name : String} :
    s.allows root outer (around ++ [name]) = true ↔
      (∀ before folder behind, around = before ++ folder :: behind →
        s.enters folder (relativePath (outer ++ before ++ [folder])) = true) ∧
      s.reads name (relativePath (outer ++ around ++ [name]))
        (root ++ (outer ++ around ++ [name])) = true := by
  induction around generalizing outer with
  | nil => simp [allows]
  | cons first rest ih =>
    rw [List.cons_append, allows_cons s root outer first (by simp), Bool.and_eq_true, ih]
    simp only [List.append_assoc, List.cons_append, List.nil_append]
    constructor
    · rintro ⟨hfirst, hrest, hreads⟩
      refine ⟨fun before folder behind heq => ?_, hreads⟩
      cases before with
      | nil =>
        cases heq
        exact hfirst
      | cons other before =>
        rw [List.cons_append, List.cons.injEq] at heq
        obtain ⟨rfl, heq⟩ := heq
        exact hrest before folder behind heq
    · rintro ⟨hentered, hreads⟩
      refine ⟨hentered [] first rest rfl, fun before folder behind heq => ?_, hreads⟩
      exact hentered (first :: before) folder behind (by rw [heq]; rfl)

/-- The scan of `root` takes the file called `name` in the folder `around`, if it can be read: no
folder on the way is left out by its name or by a pattern, no pattern excludes the file, it has one
of the endings, and it is not to be skipped. -/
structure Takes (s : Scan) (root : Location) (around : List String) (name : String) : Prop where
  entered : ∀ before folder behind, around = before ++ folder :: behind →
    folder ∉ unscannedFolders ∧ ∀ p ∈ s.patterns, ¬p.Fits before folder
  included : ∀ p ∈ s.patterns, p.foldersOnly = false → ¬p.Fits around name
  ending : Text.lower (nameSuffix name) ∈ s.extensions.map Text.lower
  notSkipped : root ++ (around ++ [name]) ∉ s.skipped

theorem enters_iff {around : List String} {folder : String} (h : '/' ∉ folder.toList) :
    s.enters folder (relativePath (around ++ [folder])) = true ↔
      folder ∉ unscannedFolders ∧ ∀ p ∈ s.patterns, ¬p.Fits around folder := by
  simp [enters, ExcludePattern.excludes_iff h]

theorem reads_iff {around : List String} {name : String} (h : '/' ∉ name.toList) {l : Location} :
    s.reads name (relativePath (around ++ [name])) l = true ↔
      (∀ p ∈ s.patterns, p.foldersOnly = false → ¬p.Fits around name) ∧
        Text.lower (nameSuffix name) ∈ s.extensions.map Text.lower ∧ l ∉ s.skipped := by
  simp [reads, ExcludePattern.excludes_iff h, and_assoc]

/-- The files that the walk from the top reads are those that the scan takes. -/
theorem allows_iff_takes {around : List String} {name : String}
    (h : ∀ n ∈ around ++ [name], '/' ∉ n.toList) :
    s.allows root [] (around ++ [name]) = true ↔ s.Takes root around name := by
  have hname : '/' ∉ name.toList := h name (by simp)
  have haround : ∀ before folder behind, around = before ++ folder :: behind →
      '/' ∉ folder.toList := fun before folder behind heq => h folder (by simp [heq])
  rw [allows_iff, List.nil_append, reads_iff hname]
  constructor
  · rintro ⟨hentered, hincluded, hending, hskipped⟩
    refine ⟨fun before folder behind heq => ?_, hincluded, hending, hskipped⟩
    exact (enters_iff (haround before folder behind heq)).1 (hentered before folder behind heq)
  · intro htakes
    refine ⟨fun before folder behind heq => ?_, htakes.included, htakes.ending, htakes.notSkipped⟩
    exact (enters_iff (haround before folder behind heq)).2
      (htakes.entered before folder behind heq)

/-! ## What a scan returns -/

section

variable {fs : Files} {l : Location} {entries : List (String × FileTree)}

theorem filesAmong_top (s : Scan) (fs : Files) (l : Location)
    (hlinks : (FileTree.folder entries).LinkFree)
    (hdistinct : (FileTree.folder entries).NamesDistinct) :
    s.filesAmong fs l [] entries =
      ((FileTree.leavesAmong entries).filter fun leaf => s.allows l [] leaf.1).map Prod.fst :=
  filesAmong_eq_leaves s fs l [] entries fun _ hentry =>
    ⟨hlinks.of_mem hdistinct hentry, hdistinct.of_mem hentry⟩

/-- What is to be read are the files that the walk is allowed to come to and to read. -/
theorem mem_found_iff (hlinks : (FileTree.folder entries).LinkFree)
    (hdistinct : (FileTree.folder entries).NamesDistinct) {names : List String} :
    names ∈ s.found fs l entries ↔
      (∃ bytes, (FileTree.folder entries).at? names = some (.file bytes)) ∧
        s.allows l [] names = true := by
  rw [found, (List.mergeSort_perm _ _).mem_iff, filesAmong_top s fs l hlinks hdistinct,
    List.mem_map]
  constructor
  · rintro ⟨⟨names, bytes⟩, hleaf, rfl⟩
    obtain ⟨hleaf, hallows⟩ := List.mem_filter.1 hleaf
    exact ⟨⟨bytes, (FileTree.mem_leaves hdistinct).1 hleaf⟩, hallows⟩
  · rintro ⟨⟨bytes, hat⟩, hallows⟩
    exact ⟨(names, bytes), List.mem_filter.2 ⟨(FileTree.mem_leaves hdistinct).2 hat, hallows⟩, rfl⟩

/-- The names on the way to a file that is to be read are plain. -/
theorem plain_of_mem_found (hlinks : (FileTree.folder entries).LinkFree)
    (hdistinct : (FileTree.folder entries).NamesDistinct)
    (hplain : (FileTree.folder entries).PlainNames) {names : List String}
    (h : names ∈ s.found fs l entries) : names ≠ [] ∧ ∀ name ∈ names, '/' ∉ name.toList := by
  obtain ⟨⟨bytes, hat⟩, _⟩ := (mem_found_iff hlinks hdistinct).1 h
  refine ⟨?_, hplain names bytes hat⟩
  rintro rfl
  cases hat

/-- The files to read stand in the strict order of their paths. -/
theorem found_sorted (hlinks : (FileTree.folder entries).LinkFree)
    (hdistinct : (FileTree.folder entries).NamesDistinct)
    (hplain : ∀ names ∈ s.found fs l entries, names ≠ [] ∧ ∀ name ∈ names, '/' ∉ name.toList) :
    (s.found fs l entries).Pairwise fun a b => relativePath a < relativePath b := by
  have hsorted : (s.found fs l entries).Pairwise
      fun a b => (!decide (relativePath b < relativePath a)) = true := by
    refine List.pairwise_mergeSort ?_ ?_ _
    · intro a b c hab hbc
      rw [Bool.not_eq_true', decide_eq_false_iff_not, String.not_lt] at *
      exact String.le_trans hab hbc
    · intro a b
      rw [Bool.or_eq_true, Bool.not_eq_true', Bool.not_eq_true', decide_eq_false_iff_not,
        decide_eq_false_iff_not, String.not_lt, String.not_lt]
      exact String.le_total (relativePath a) (relativePath b)
  have hnodup : (s.found fs l entries).Nodup := by
    rw [found, (List.mergeSort_perm _ _).nodup_iff, filesAmong_top s fs l hlinks hdistinct]
    exact (List.filter_sublist.map Prod.fst).nodup (FileTree.nodup_leaves hdistinct)
  refine List.Pairwise.imp_of_mem ?_ (hsorted.and hnodup)
  rintro a b ha hb ⟨hle, hne⟩
  rw [Bool.not_eq_true', decide_eq_false_iff_not, String.not_lt] at hle
  by_contra hlt
  obtain ⟨hnil, hslash⟩ := hplain a ha
  obtain ⟨hnil', hslash'⟩ := hplain b hb
  exact hne (relativePath_inj hnil hnil' hslash hslash'
    (String.le_antisymm hle (String.not_lt.1 hlt)))

/-- What a file holds, when names lead to one. -/
def contentAt (names : List String) (t : FileTree) : ByteArray :=
  match t.at? names with
  | some (.file bytes) => bytes
  | _ => .empty

/-- The sources that files give, which are those that can be read. -/
def sourcesOf (t : FileTree) (found : List (List String)) : List SourceFile :=
  found.filterMap fun names =>
    (Text.readText? (contentAt names t)).map fun text => ⟨relativePath names, text⟩

/-- Files that stay as they are while they are read give their sources. -/
theorem readAll_result {files : List Note → Files} {t : FileTree} {found : List (List String)}
    (h : ∀ made, ∀ names ∈ found, bytesAt (files made) l names = .ok (contentAt names t))
    (made : List Note) : (readAll files l made found).result = .ok (sourcesOf t found) := by
  induction found generalizing made with
  | nil => rfl
  | cons names rest ih =>
    have hrest := fun made => ih (fun made name hname => h made name (.tail _ hname)) made
    have hfirst := h made names List.mem_cons_self
    rw [readAll, sourcesOf, List.filterMap_cons, hfirst,
      Noted.result_bind_of_ok (a := contentAt names t) rfl]
    cases Text.readText? (contentAt names t) with
    | none => exact hrest _
    | some text =>
      dsimp only [Option.map_some]
      rw [Noted.result_bind_of_ok (hrest made)]
      rfl

/-- No file below a folder without links is a link. -/
theorem loop?_of_linkFree (hlinks : (FileTree.folder entries).LinkFree)
    (met : List (List String)) : loop? fs l entries met = none := by
  rw [loop?, List.findSome?_eq_none_iff]
  intro names _
  split
  · next target hat => exact absurd (FileTree.shapeAt_of_at? hat) (hlinks names target)
  · rfl

/-- A scan of files that stay as they are returns the sources among them. -/
theorem runWith_result (s : Scan) {files : List Note → Files} (shown : String)
    (h : (files []).find (.ofLocation l) = .ok (.folder entries))
    (hlinks : (FileTree.folder entries).LinkFree)
    (hbytes : ∀ made, ∀ names ∈ s.found (files []) l entries,
      bytesAt (files made) l names = .ok (contentAt names (.folder entries))) :
    (s.runWith files shown l).result =
      .ok (sourcesOf (.folder entries) (s.found (files []) l entries)) := by
  have hread := readAll_result hbytes []
  rw [runWith, Files.probe_eq_some_iff.2 h]
  simp only [loop?_of_linkFree hlinks]
  rw [Noted.result_bind_of_ok hread]
  rfl

theorem bytesAt_of_at? (h : fs.find (.ofLocation l) = .ok (.folder entries)) {names : List String}
    {bytes : ByteArray} (hat : (FileTree.folder entries).at? names = some (.file bytes)) :
    bytesAt fs l names = .ok bytes := by
  rw [bytesAt, h]
  simp only [Except.toOption, Option.bind_some, hat]

/-- A scan returns the sources among the files that it found. -/
theorem run_result (s : Scan) (shown : String)
    (h : fs.probe (.ofLocation l) = .ok (some (.folder entries)))
    (hlinks : (FileTree.folder entries).LinkFree)
    (hdistinct : (FileTree.folder entries).NamesDistinct) :
    (s.run fs shown l).result = .ok (sourcesOf (.folder entries) (s.found fs l entries)) := by
  have hfind := Files.probe_eq_some_iff.1 h
  refine runWith_result s shown hfind hlinks fun _ names hnames => ?_
  obtain ⟨⟨bytes, hat⟩, _⟩ := (mem_found_iff hlinks hdistinct).1 hnames
  rw [bytesAt_of_at? hfind hat, contentAt, hat]

theorem run_sorted (hlinks : (FileTree.folder entries).LinkFree)
    (hdistinct : (FileTree.folder entries).NamesDistinct)
    (hplain : (FileTree.folder entries).PlainNames) :
    (sourcesOf (.folder entries) (s.found fs l entries)).Pairwise
      fun a b => a.path < b.path := by
  refine List.pairwise_filterMap.2 ((found_sorted hlinks hdistinct fun _ h =>
    plain_of_mem_found hlinks hdistinct hplain h).imp ?_)
  intro f g hlt a ha b hb
  obtain ⟨_, _, rfl⟩ := Option.map_eq_some_iff.1 ha
  obtain ⟨_, _, rfl⟩ := Option.map_eq_some_iff.1 hb
  exact hlt

/-- The file is one below the folder `t` that the scan takes, and its bytes are read as its text. -/
def Returns (s : Scan) (reads : ByteArray → String → Prop) (l : Location) (t : FileTree)
    (file : SourceFile) : Prop :=
  ∃ around name bytes, t.at? (around ++ [name]) = some (.file bytes) ∧ s.Takes l around name ∧
    file.path = relativePath (around ++ [name]) ∧ reads bytes file.text

theorem mem_run_iff (hlinks : (FileTree.folder entries).LinkFree)
    (hdistinct : (FileTree.folder entries).NamesDistinct)
    (hplain : (FileTree.folder entries).PlainNames) {file : SourceFile} :
    file ∈ sourcesOf (.folder entries) (s.found fs l entries) ↔
      s.Returns Text.ReadsAs l (.folder entries) file := by
  rw [sourcesOf, List.mem_filterMap]
  constructor
  · rintro ⟨names, hnames, hread⟩
    obtain ⟨⟨bytes, hat⟩, hallows⟩ := (mem_found_iff hlinks hdistinct).1 hnames
    obtain ⟨text, htext, rfl⟩ := Option.map_eq_some_iff.1 hread
    rw [contentAt, hat, Text.readText?_eq_some_iff] at htext
    obtain ⟨around, name, rfl⟩ := (List.eq_nil_or_concat' names).resolve_left
      (plain_of_mem_found hlinks hdistinct hplain hnames).1
    exact ⟨around, name, bytes, hat, (allows_iff_takes (hplain _ _ hat)).1 hallows, rfl, htext⟩
  · rintro ⟨around, name, bytes, hat, htakes, hpath, htext⟩
    have hallows := (allows_iff_takes (hplain _ _ hat)).2 htakes
    refine ⟨around ++ [name], (mem_found_iff hlinks hdistinct).2 ⟨⟨bytes, hat⟩, hallows⟩, ?_⟩
    rw [contentAt, hat, Text.readText?_eq_some_iff.2 htext, Option.map_some, ← hpath]

/-- Increasing lists with the same members are equal. -/
theorem eq_of_sorted {α : Type} (path : α → String) {files others : List α}
    (h : files.Pairwise fun a b => path a < path b)
    (h' : others.Pairwise fun a b => path a < path b)
    (hmem : ∀ file, file ∈ files ↔ file ∈ others) : files = others := by
  have hnodup : ∀ {fs : List α}, (fs.Pairwise fun a b => path a < path b) → fs.Nodup := by
    intro fs hfs
    refine List.Pairwise.imp ?_ hfs
    rintro a _ hlt rfl
    exact String.lt_irrefl (path a) hlt
  refine List.Perm.eq_of_pairwise (fun a b _ _ hab hba => ?_) h h'
    ((List.perm_ext_iff_of_nodup (hnodup h) (hnodup h')).2 hmem)
  exact absurd (String.lt_trans hab hba) (String.lt_irrefl _)

/-- A scan of a folder without links returns the files below it that it takes and that can be read,
each once and in the strict order of their paths. So it does not depend on how the folders list their
entries: where the same files are, it returns the same. -/
theorem run_exact (s : Scan) {fs : Files} (shown : String)
    (h : fs.probe (.ofLocation l) = .ok (some (.folder entries)))
    (hlinks : (FileTree.folder entries).LinkFree)
    (hdistinct : (FileTree.folder entries).NamesDistinct)
    (hplain : (FileTree.folder entries).PlainNames) :
    ∃ files, (s.run fs shown l).result = .ok files ∧
      files.Pairwise (fun a b => a.path < b.path) ∧
      (∀ file, file ∈ files ↔ s.Returns Text.ReadsAs l (.folder entries) file) ∧
      ∀ (fs' : Files) (entries' : List (String × FileTree)),
        Files.probe fs' (.ofLocation l) = .ok (some (.folder entries')) →
        (FileTree.folder entries').LinkFree → (FileTree.folder entries').NamesDistinct →
        (∀ names bytes, (FileTree.folder entries').at? names = some (.file bytes) ↔
          (FileTree.folder entries).at? names = some (.file bytes)) →
        (s.run fs' shown l).result = .ok files := by
  refine ⟨_, run_result s shown h hlinks hdistinct, run_sorted hlinks hdistinct hplain,
    fun _ => mem_run_iff hlinks hdistinct hplain, ?_⟩
  intro fs' entries' h' hlinks' hdistinct' hsame
  have hplain' : (FileTree.folder entries').PlainNames :=
    fun names bytes hat => hplain names bytes ((hsame names bytes).1 hat)
  rw [run_result s shown h' hlinks' hdistinct']
  refine congrArg _ (eq_of_sorted SourceFile.path (run_sorted hlinks' hdistinct' hplain')
    (run_sorted hlinks hdistinct hplain) ?_)
  intro file
  rw [mem_run_iff hlinks' hdistinct' hplain', mem_run_iff hlinks hdistinct hplain]
  simp only [Returns, hsame]

end

end Scan

/-! ## A folder in two orders -/

namespace FileTree

variable {entries others : List (String × FileTree)}

theorem NamesDistinct.perm (h : entries.Perm others)
    (ht : (FileTree.folder entries).NamesDistinct) : (FileTree.folder others).NamesDistinct := by
  refine .folder ((h.map Prod.fst).nodup_iff.1 ht.nodup) fun entry hentry => ?_
  exact ht.of_mem (h.mem_iff.2 hentry)

/-- What names lead to does not depend on the order of the entries. -/
theorem at?_perm (h : entries.Perm others) (ht : (folder entries).NamesDistinct)
    (names : List String) (bytes : ByteArray) :
    (folder others).at? names = some (.file bytes) ↔
      (folder entries).at? names = some (.file bytes) := by
  rw [← mem_leaves ht, ← mem_leaves (ht.perm h), leaves, leaves, mem_leavesAmong, mem_leavesAmong]
  simp only [h.mem_iff]

end FileTree

namespace Sample

/-- A file with the bytes of a text. -/
def textFile (text : String) : FileTree :=
  .file text.toUTF8

/-- Sources at the top, in a folder, in one that a pattern excludes and in one for build output, and
one that holds the first byte of a byte order mark. -/
def sources : List (String × FileTree) :=
  [("Mark.cs", .file ⟨#[0xEF]⟩),
    ("Old", .folder [("Ping.cs", textFile "class Ping { }")]),
    ("Queries", .folder [("Ping.CS", textFile "class Ping { }"), ("notes.txt", textFile "-")]),
    ("Zeta.cs", textFile "class Zeta { }"),
    ("obj", .folder [("Copy.cs", textFile "class Copy { }")])]

/-- The first byte of a byte order mark alone in a file. -/
def broken : List (String × FileTree) :=
  [("Mark.cs", .file ⟨#[0xEF]⟩)]

/-- The files with a folder `in` of some entries. -/
def filesWith (entries : List (String × FileTree)) : Files :=
  ⟨.folder [("in", .folder entries)], []⟩

/-- A scan for C# that leaves out every folder `Old`. -/
def csharp : Scan :=
  ⟨[".cs"], ["Old/"], []⟩

theorem sources_distinct : (FileTree.folder sources).NamesDistinct := by
  refine .folder (by decide) ?_
  simp only [sources, textFile, List.forall_mem_cons, List.not_mem_nil, false_implies,
    implies_true, and_true]
  refine ⟨.file _, .folder (by decide) ?_, .folder (by decide) ?_, .file _,
    .folder (by decide) ?_⟩
  all_goals
    simp only [List.forall_mem_cons, List.not_mem_nil, false_implies, implies_true, and_true]
  · exact .file _
  · exact ⟨.file _, .file _⟩
  · exact .file _

theorem sources_plain : (FileTree.folder sources).PlainNames := by
  intro names bytes hat
  have hleaf := (FileTree.mem_leaves sources_distinct).2 hat
  have hall : ∀ leaf ∈ (FileTree.folder sources).leaves, ∀ name ∈ leaf.1, '/' ∉ name.toList := by
    decide +kernel
  exact hall _ hleaf

theorem sources_linkFree : (FileTree.folder sources).LinkFree :=
  FileTree.linkFree_of_linkCount (by decide)

end Sample

namespace Scan

open Sample

/-- A scan of `sources` in the reverse order returns what a scan of them in order does. -/
theorem run_exact_reversed :
    Files.probe (filesWith sources) (.ofLocation ["in"]) = .ok (some (.folder sources)) ∧
      (FileTree.folder sources).LinkFree ∧ (FileTree.folder sources).NamesDistinct ∧
      (FileTree.folder sources).PlainNames ∧
      (csharp.run (filesWith sources.reverse) "in" ["in"]).result =
        .ok [⟨"Mark.cs", ""⟩, ⟨"Queries/Ping.CS", "class Ping { }"⟩,
          ⟨"Zeta.cs", "class Zeta { }"⟩] := by
  have hentry : Files.probe (filesWith sources) (.ofLocation ["in"]) =
      .ok (some (.folder sources)) := rfl
  refine ⟨hentry, sources_linkFree, sources_distinct, sources_plain, ?_⟩
  obtain ⟨files, hfiles, _, _, hsame⟩ :=
    run_exact csharp "in" hentry sources_linkFree sources_distinct sources_plain
  have hreversed := (List.reverse_perm sources).symm
  rw [hsame (filesWith sources.reverse) sources.reverse rfl
    (FileTree.linkFree_of_linkCount (by decide)) (sources_distinct.perm hreversed)
    (FileTree.at?_perm hreversed sources_distinct), ← hfiles,
    run_result csharp "in" hentry sources_linkFree sources_distinct]
  have hwalk : csharp.filesAmong (filesWith sources) ["in"] [] sources =
      [["Mark.cs"], ["Queries", "Ping.CS"], ["Zeta.cs"]] := by decide +kernel
  rw [found, hwalk, List.mergeSort_of_pairwise (by decide +kernel)]
  decide +kernel

/-- The first byte of a byte order mark is no UTF-8, and still its file is returned. -/
theorem returns_no_text :
    ∃ files, (csharp.run (filesWith broken) "in" ["in"]).result = .ok files ∧
      files = [⟨"Mark.cs", ""⟩] ∧
      ¬∀ file, file ∈ files ↔ csharp.Returns Text.DecodesAs ["in"] (.folder broken) file := by
  have hdistinct : (FileTree.folder broken).NamesDistinct := by
    refine .folder (by decide) fun entry hentry => ?_
    rw [List.mem_singleton.1 hentry]
    exact .file _
  refine ⟨[⟨"Mark.cs", ""⟩], ?_, rfl, fun hdecoded => ?_⟩
  · have hentry : Files.probe (filesWith broken) (.ofLocation ["in"]) =
        .ok (some (.folder broken)) := rfl
    have hwalk : csharp.filesAmong (filesWith broken) ["in"] [] broken = [["Mark.cs"]] := by
      decide +kernel
    rw [run_result csharp "in" hentry (FileTree.linkFree_of_linkCount (by decide)) hdistinct,
      found, hwalk, List.mergeSort_singleton]
    decide +kernel
  · obtain ⟨around, name, bytes, hat, _, _, hdecodes⟩ := (hdecoded ⟨"Mark.cs", ""⟩).1 (.head _)
    have hleaf := (FileTree.mem_leaves hdistinct).2 hat
    obtain ⟨_, hbytes⟩ := Prod.mk.inj (List.mem_singleton.1 hleaf)
    have hends : Text.EndsInMark bytes := .inl hbytes
    exact Text.not_decodesAs hends.decode? _ hdecodes

end Scan

end Registrar
