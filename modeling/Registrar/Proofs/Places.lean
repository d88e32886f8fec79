/-
What stands where in a tree of files. `sightAt` is what is seen at a location: a folder, a file with
its bytes, or a link with its path. Taking a file or a link out and putting a file in change what is
seen at its own location and nowhere else (`sightAt_remove_of_ne`, `sightAt_put_of_ne`), and when no
folder has two entries of one name the one undoes the other (`remove_put`).
-/
import Registrar.Files.Tree

namespace Registrar

namespace FileTree

/-! ## Entries by name -/

theorem lookup_filter_self (entries : List (String × FileTree)) (name : String) :
    (entries.filter fun (n, _) => n ≠ name).lookup name = none := by
  rw [List.lookup_eq_none_iff]
  intro entry hentry
  have hne : entry.1 ≠ name := by simpa using (List.mem_filter.1 hentry).2
  exact bne_iff_ne.2 hne.symm

theorem lookup_filter_of_ne {name other : String} (h : other ≠ name)
    (entries : List (String × FileTree)) :
    (entries.filter fun (n, _) => n ≠ name).lookup other = entries.lookup other := by
  induction entries with
  | nil => rfl
  | cons entry rest ih =>
    obtain ⟨n, e⟩ := entry
    by_cases hn : n = name
    · subst hn
      simpa [List.lookup_cons, beq_false_of_ne h] using ih
    · simp only [ne_eq, hn, not_false_eq_true, decide_true, List.filter_cons_of_pos,
        List.lookup_cons]
      cases other == n
      · exact ih
      · rfl

theorem lookup_map (f : String → FileTree → FileTree) (entries : List (String × FileTree))
    (name : String) :
    (entries.map fun (n, e) => (n, f n e)).lookup name = (entries.lookup name).map (f name) := by
  induction entries with
  | nil => rfl
  | cons entry rest ih =>
    obtain ⟨n, e⟩ := entry
    by_cases h : name = n
    · subst h; simp
    · simpa [List.lookup_cons, beq_false_of_ne h] using ih

theorem lookup_insertIn_self (name : String) (e : FileTree) (entries : List (String × FileTree)) :
    (insertIn name e entries).lookup name = some e := by
  induction entries with
  | nil => simp [insertIn]
  | cons entry rest ih =>
    obtain ⟨n, old⟩ := entry
    by_cases h : n = name
    · simp [insertIn, h]
    · simpa [insertIn, h, List.lookup_cons, beq_false_of_ne (Ne.symm h)] using ih

theorem lookup_insertIn_of_ne {name other : String} (h : other ≠ name) (e : FileTree)
    (entries : List (String × FileTree)) :
    (insertIn name e entries).lookup other = entries.lookup other := by
  induction entries with
  | nil => simp [insertIn, List.lookup_cons, beq_false_of_ne h]
  | cons entry rest ih =>
    obtain ⟨n, old⟩ := entry
    by_cases hn : n = name
    · subst hn; simp [insertIn, List.lookup_cons, beq_false_of_ne h]
    · simp only [insertIn, hn, if_false, List.lookup_cons, ih]

/-! ## What is at a location -/

theorem at?_append (l m : Location) (t : FileTree) : (t.at? (l ++ m)) = (t.at? l).bind (at? m) := by
  induction l generalizing t with
  | nil => rfl
  | cons name rest ih =>
    cases t with
    | file | link => rfl
    | folder entries =>
      rw [List.cons_append, at?, at?]
      cases entries.lookup name with
      | none => rfl
      | some e => exact ih e

/-- Only the location itself leads to something in what is no folder. -/
theorem at?_of_not_isFolder {t : FileTree} (h : t.isFolder = false) {l : Location} (hl : l ≠ []) :
    t.at? l = none := by
  cases t with
  | file | link =>
    cases l with
    | nil => exact absurd rfl hl
    | cons => rfl
  | folder => cases h

/-- What is seen of an entry: that it is a folder, or what is in it. -/
inductive Sight where
  | folder
  | file (bytes : ByteArray)
  | link (target : Path)

def sight : FileTree → Sight
  | file bytes => .file bytes
  | folder _ => .folder
  | link target => .link target

theorem sight_eq_folder_iff {t : FileTree} : t.sight = .folder ↔ t.isFolder = true := by
  cases t <;> simp [sight, isFolder]

/-- What is seen at a location, if there is anything. -/
def sightAt (l : Location) (t : FileTree) : Option Sight :=
  (t.at? l).map sight

theorem sightAt_cons (name : String) (rest : Location) (entries : List (String × FileTree)) :
    (folder entries).sightAt (name :: rest) = (entries.lookup name).bind (sightAt rest) := by
  rw [sightAt, at?]
  cases entries.lookup name <;> rfl

/-- What kind of entry it is, and where it leads when it is a link. -/
inductive Shape where
  | folder
  | file
  | link (target : Path)

def Sight.shape : Sight → Shape
  | folder => .folder
  | file _ => .file
  | link target => .link target

/-- What kind of entry is at a location, if there is any. -/
def shapeAt (l : Location) (t : FileTree) : Option Shape :=
  (t.sightAt l).map Sight.shape

theorem shapeAt_of_at? {t e : FileTree} {l : Location} (h : t.at? l = some e) :
    t.shapeAt l = some e.sight.shape := by
  rw [shapeAt, sightAt, h]
  rfl

theorem shapeAt_eq_none_iff {t : FileTree} {l : Location} :
    t.shapeAt l = none ↔ t.at? l = none := by
  rw [shapeAt, sightAt, Option.map_eq_none_iff, Option.map_eq_none_iff]

theorem shapeAt_congr {t t' : FileTree} {l : Location} (h : t'.sightAt l = t.sightAt l) :
    t'.shapeAt l = t.shapeAt l := by
  rw [shapeAt, shapeAt, h]

theorem shapeAt_eq_folder_iff {t : FileTree} {l : Location} :
    t.shapeAt l = some .folder ↔ ∃ entries, t.at? l = some (folder entries) := by
  rw [shapeAt, sightAt]
  cases t.at? l with
  | none => simp
  | some e => cases e <;> simp [sight, Sight.shape]

theorem shapeAt_eq_file_iff {t : FileTree} {l : Location} :
    t.shapeAt l = some .file ↔ ∃ bytes, t.at? l = some (file bytes) := by
  rw [shapeAt, sightAt]
  cases t.at? l with
  | none => simp
  | some e => cases e <;> simp [sight, Sight.shape]

theorem any_isFolder_iff {t : FileTree} {l : Location} :
    (t.at? l).any isFolder = true ↔ t.shapeAt l = some .folder := by
  rw [shapeAt, sightAt]
  cases t.at? l with
  | none => simp
  | some e => cases e <;> simp [sight, Sight.shape, isFolder]

/-- What is around something is a folder. -/
theorem shapeAt_around {t e : FileTree} {around : Location} {name : String}
    (h : t.at? (around ++ [name]) = some e) : t.shapeAt around = some .folder := by
  rw [at?_append, Option.bind_eq_some_iff] at h
  obtain ⟨outer, houter, hname⟩ := h
  cases outer with
  | file | link => cases hname
  | folder entries => exact shapeAt_eq_folder_iff.2 ⟨entries, houter⟩

/-! ## Taking out -/

/-- Nothing but what is taken out changes, unless that is a folder. -/
theorem sightAt_remove_of_ne {l m : Location} {t : FileTree} (hl : t.sightAt l ≠ some .folder)
    (h : m ≠ l) : (t.remove l).sightAt m = t.sightAt m := by
  fun_induction remove l t generalizing m with
  | case1 => rfl
  | case4 => rfl
  | case2 name entries =>
    cases m with
    | nil => rfl
    | cons other rest =>
      rw [sightAt_cons, sightAt_cons]
      by_cases hname : other = name
      · subst hname
        rw [lookup_filter_self]
        have hrest : rest ≠ [] := by rintro rfl; exact h rfl
        cases hentry : entries.lookup other with
        | none => rfl
        | some e =>
          have hfile : e.isFolder = false := by
            rw [sightAt_cons, hentry] at hl
            simpa [sightAt, at?, sight_eq_folder_iff] using hl
          rw [Option.bind_none, Option.bind_some, sightAt, at?_of_not_isFolder hfile hrest,
            Option.map_none]
      · rw [lookup_filter_of_ne hname]
  | case3 name next below entries ih =>
    cases m with
    | nil => rfl
    | cons other rest =>
      rw [sightAt_cons, sightAt_cons,
        lookup_map (fun n e => if n = name then e.remove (next :: below) else e)]
      by_cases hname : other = name
      · subst hname
        cases hentry : entries.lookup other with
        | none => rfl
        | some e =>
          have hrest : rest ≠ next :: below := by rintro rfl; exact h rfl
          rw [sightAt_cons, hentry] at hl
          simpa using ih e hl hrest
      · cases entries.lookup other <;> simp [hname]

theorem at?_remove_self {l : Location} (hl : l ≠ []) (t : FileTree) :
    (t.remove l).at? l = none := by
  fun_induction remove l t with
  | case1 => exact absurd rfl hl
  | case2 name entries => rw [at?, lookup_filter_self, Option.bind_none]
  | case4 name rest t hlast hbelow =>
    cases t with
    | file | link => rfl
    | folder entries =>
      cases rest with
      | nil => exact absurd rfl (hlast entries rfl)
      | cons next below => exact absurd rfl (hbelow next below entries rfl)
  | case3 name next below entries ih =>
    rw [at?, lookup_map (fun n e => if n = name then e.remove (next :: below) else e)]
    cases entries.lookup name with
    | none => rfl
    | some e => simpa using ih e (List.cons_ne_nil _ _)

/-! ## Putting in -/

theorem exists_entries_of_sightAt {t : FileTree} {l : Location}
    (h : t.sightAt l = some .folder) : ∃ entries, t.at? l = some (folder entries) := by
  obtain ⟨e, he, hsight⟩ := Option.map_eq_some_iff.1 h
  cases e with
  | file | link => cases hsight
  | folder entries => exact ⟨entries, he⟩

theorem exists_folder_of_sightAt_nil {t : FileTree} (h : t.sightAt [] = some .folder) :
    ∃ entries, t = folder entries := by
  obtain ⟨entries, hentries⟩ := exists_entries_of_sightAt h
  exact ⟨entries, Option.some.inj hentries⟩

/-- The folder at the top of a location below which something is. -/
theorem exists_entry_of_sightAt {t : FileTree} {name : String} {l : Location}
    (h : t.sightAt (name :: l) = some .folder) :
    ∃ entries e, t = folder entries ∧ entries.lookup name = some e ∧
      e.sightAt l = some .folder := by
  cases t with
  | file | link => cases h
  | folder entries =>
    rw [sightAt_cons, Option.bind_eq_some_iff] at h
    obtain ⟨e, he, hl⟩ := h
    exact ⟨entries, e, rfl, he, hl⟩

theorem at?_put_self {around : Location} {name : String} {t e : FileTree}
    (hfolder : t.sightAt around = some .folder) :
    (put e (around ++ [name]) t).at? (around ++ [name]) = some e := by
  induction around generalizing t with
  | nil =>
    obtain ⟨entries, rfl⟩ := exists_folder_of_sightAt_nil hfolder
    rw [List.nil_append, put, put, at?, lookup_insertIn_self, Option.bind_some, at?]
  | cons first rest ih =>
    obtain ⟨entries, old, rfl, hold, hrest⟩ := exists_entry_of_sightAt hfolder
    rw [List.cons_append, put, hold, Option.getD_some, at?, lookup_insertIn_self, Option.bind_some]
    exact ih hrest

/-- Nothing but what is put in changes, if it is no folder and takes the place of none. -/
theorem sightAt_put_of_ne {around m : Location} {name : String} {t e : FileTree}
    (hfolder : t.sightAt around = some .folder)
    (hold : t.sightAt (around ++ [name]) ≠ some .folder)
    (he : e.isFolder = false) (h : m ≠ around ++ [name]) :
    (put e (around ++ [name]) t).sightAt m = t.sightAt m := by
  induction around generalizing t m with
  | nil =>
    obtain ⟨entries, rfl⟩ := exists_folder_of_sightAt_nil hfolder
    rw [List.nil_append, put, put]
    cases m with
    | nil => rfl
    | cons other rest =>
      rw [sightAt_cons, sightAt_cons]
      by_cases hname : other = name
      · subst hname
        have hrest : rest ≠ [] := by rintro rfl; exact h rfl
        rw [lookup_insertIn_self, Option.bind_some, sightAt, at?_of_not_isFolder he hrest]
        cases hentry : entries.lookup other with
        | none => rfl
        | some old =>
          have hfile : old.isFolder = false := by
            rw [List.nil_append, sightAt_cons, hentry] at hold
            simpa [sightAt, at?, sight_eq_folder_iff] using hold
          rw [Option.bind_some, sightAt, at?_of_not_isFolder hfile hrest]
      · rw [lookup_insertIn_of_ne hname]
  | cons first around ih =>
    obtain ⟨entries, old, rfl, hentry, haround⟩ := exists_entry_of_sightAt hfolder
    rw [List.cons_append, put, hentry, Option.getD_some]
    cases m with
    | nil => rfl
    | cons other rest =>
      rw [sightAt_cons, sightAt_cons]
      by_cases hname : other = first
      · subst hname
        rw [List.cons_append, sightAt_cons, hentry] at hold
        rw [lookup_insertIn_self, hentry]
        exact ih haround hold fun hrest => h (hrest ▸ rfl)
      · rw [lookup_insertIn_of_ne hname]

theorem sightAt_eq_folder_iff {t : FileTree} {l : Location} :
    t.sightAt l = some .folder ↔ t.shapeAt l = some .folder := by
  rw [shapeAt]
  cases t.sightAt l with
  | none => simp
  | some s => cases s <;> simp [Sight.shape]

/-- A file can be written at a location: there is one, or there is a folder with nothing under the
name. -/
inductive HasRoom (t : FileTree) : Location → Prop
  | old {l : Location} {bytes : ByteArray} (h : t.at? l = some (file bytes)) : HasRoom t l
  | new {around : Location} {name : String} (hfolder : t.shapeAt around = some .folder)
      (hnone : t.at? (around ++ [name]) = none) : HasRoom t (around ++ [name])

namespace HasRoom

variable {t : FileTree} {l m : Location}

/-- There is nothing around a file that is written at the root. -/
theorem cases_root (h : t.HasRoom l) :
    (l = [] ∧ ∃ bytes, t = file bytes) ∨
      ∃ around name, l = around ++ [name] ∧ t.sightAt around = some .folder ∧
        t.sightAt (around ++ [name]) ≠ some .folder := by
  cases h with
  | @old l bytes h =>
    rcases List.eq_nil_or_concat l with rfl | ⟨around, name, rfl⟩
    · exact .inl ⟨rfl, bytes, Option.some.inj h⟩
    · rw [List.concat_eq_append] at h ⊢
      refine .inr ⟨around, name, rfl, sightAt_eq_folder_iff.2 (shapeAt_around h), ?_⟩
      rw [sightAt, h]
      simp [sight]
  | @new around name hfolder hnone =>
    refine .inr ⟨around, name, rfl, sightAt_eq_folder_iff.2 hfolder, ?_⟩
    rw [sightAt, hnone]
    simp

theorem at?_put (h : t.HasRoom l) (bytes : ByteArray) :
    (put (file bytes) l t).at? l = some (file bytes) := by
  rcases h.cases_root with ⟨rfl, old, rfl⟩ | ⟨around, name, rfl, hfolder, _⟩
  · rfl
  · exact at?_put_self hfolder

theorem sightAt_put_of_ne (h : t.HasRoom l) (bytes : ByteArray) (hm : m ≠ l) :
    (put (file bytes) l t).sightAt m = t.sightAt m := by
  rcases h.cases_root with ⟨rfl, old, rfl⟩ | ⟨around, name, rfl, hfolder, hold⟩
  · rw [put, sightAt, sightAt, at?_of_not_isFolder rfl hm, at?_of_not_isFolder rfl hm]
  · exact FileTree.sightAt_put_of_ne hfolder hold rfl hm

end HasRoom

/-! ## Trees in which names are distinct -/

/-- No folder has two entries of one name. -/
inductive NamesDistinct : FileTree → Prop
  | file (bytes : ByteArray) : NamesDistinct (file bytes)
  | link (target : Path) : NamesDistinct (link target)
  | folder {entries : List (String × FileTree)} (hnames : (entries.map Prod.fst).Nodup)
    (hentries : ∀ entry ∈ entries, NamesDistinct entry.2) : NamesDistinct (folder entries)

namespace NamesDistinct

variable {entries : List (String × FileTree)}

theorem nodup (h : NamesDistinct (FileTree.folder entries)) : (entries.map Prod.fst).Nodup := by
  cases h with
  | folder hnames _ => exact hnames

theorem of_mem (h : NamesDistinct (FileTree.folder entries)) {name : String} {e : FileTree}
    (he : (name, e) ∈ entries) : NamesDistinct e := by
  cases h with
  | folder _ hentries => exact hentries _ he

end NamesDistinct

theorem mem_of_lookup_eq_some {entries : List (String × FileTree)} {name : String} {e : FileTree}
    (h : entries.lookup name = some e) : (name, e) ∈ entries := by
  obtain ⟨before, behind, rfl, _⟩ := List.lookup_eq_some_iff.1 h
  exact List.mem_append_right _ List.mem_cons_self

theorem lookup_of_mem {entries : List (String × FileTree)} (h : (entries.map Prod.fst).Nodup)
    {name : String} {e : FileTree} (he : (name, e) ∈ entries) : entries.lookup name = some e := by
  obtain ⟨before, behind, rfl⟩ := List.append_of_mem he
  rw [List.map_append, List.map_cons] at h
  refine List.lookup_eq_some_iff.2 ⟨before, behind, rfl, fun entry hentry => bne_iff_ne.2 ?_⟩
  exact ((List.nodup_append.1 h).2.2 _ (List.mem_map_of_mem hentry) _ List.mem_cons_self).symm

/-- Entries stay as they are when the one of the name `name` does. -/
theorem map_entry_eq_self {entries : List (String × FileTree)} (h : (entries.map Prod.fst).Nodup)
    {name : String} {f : FileTree → FileTree}
    (hf : ∀ e, entries.lookup name = some e → f e = e) :
    (entries.map fun (n, e) => (n, if n = name then f e else e)) = entries := by
  refine (List.map_congr_left fun entry hentry => ?_).trans (List.map_id entries)
  obtain ⟨n, e⟩ := entry
  by_cases hn : n = name
  · subst hn
    simp [hf e (lookup_of_mem h hentry)]
  · simp [hn]

theorem insertIn_of_absent {entries : List (String × FileTree)} {name : String} {e : FileTree}
    (h : entries.lookup name = none) : insertIn name e entries = entries ++ [(name, e)] := by
  induction entries with
  | nil => rfl
  | cons entry rest ih =>
    rw [List.lookup_eq_none_iff, List.forall_mem_cons] at h
    obtain ⟨hne, hrest⟩ := h
    rw [insertIn, if_neg (bne_iff_ne.1 hne).symm, ih (List.lookup_eq_none_iff.2 hrest),
      List.cons_append]

theorem insertIn_of_present {entries : List (String × FileTree)} (h : (entries.map Prod.fst).Nodup)
    {name : String} {old e : FileTree} (hold : entries.lookup name = some old) :
    insertIn name e entries = entries.map fun (n, x) => (n, if n = name then e else x) := by
  induction entries with
  | nil => cases hold
  | cons entry rest ih =>
    obtain ⟨n, x⟩ := entry
    obtain ⟨hn, hrest⟩ := List.nodup_cons.1 h
    by_cases hname : n = name
    · subst hname
      have hothers : ∀ p ∈ rest, p.1 ≠ n := by
        rintro p hp rfl
        exact hn (List.mem_map.2 ⟨p, hp, rfl⟩)
      rw [insertIn, if_pos rfl, List.map_cons]
      dsimp only
      rw [if_pos rfl]
      refine congrArg _ ((List.map_id rest).symm.trans (List.map_congr_left fun p hp => ?_))
      simp [hothers p hp]
    · rw [List.lookup_cons, beq_false_of_ne (Ne.symm hname)] at hold
      rw [insertIn, if_neg hname, List.map_cons, ih hrest hold]
      dsimp only
      rw [if_neg hname]

theorem lookup_of_at?_singleton {entries : List (String × FileTree)} {name : String}
    (h : (folder entries).at? [name] = none) : entries.lookup name = none := by
  rw [at?] at h
  cases hentry : entries.lookup name with
  | none => rfl
  | some e => rw [hentry] at h; cases h

/-- What is not there need not be taken out. -/
theorem remove_of_absent {l : Location} {t : FileTree} (ht : t.NamesDistinct)
    (h : t.at? l = none) : t.remove l = t := by
  fun_induction remove l t with
  | case1 => rfl
  | case4 => rfl
  | case2 name entries =>
    have hnone := lookup_of_at?_singleton h
    refine congrArg folder (List.filter_eq_self.2 fun entry hentry => ?_)
    simpa using (bne_iff_ne.1 (List.lookup_eq_none_iff.1 hnone entry hentry)).symm
  | case3 name next below entries ih =>
    refine congrArg folder (map_entry_eq_self ht.nodup fun e he => ?_)
    rw [at?, he] at h
    exact ih e (ht.of_mem (mem_of_lookup_eq_some he)) h

/-- Taking out what was put where nothing was gives the tree back. -/
theorem remove_put {around : Location} {name : String} {t e : FileTree} (ht : t.NamesDistinct)
    (hfolder : t.sightAt around = some .folder) (h : t.at? (around ++ [name]) = none) :
    (put e (around ++ [name]) t).remove (around ++ [name]) = t := by
  induction around generalizing t with
  | nil =>
    obtain ⟨entries, rfl⟩ := exists_folder_of_sightAt_nil hfolder
    have hnone := lookup_of_at?_singleton h
    have hself := remove_of_absent ht h
    rw [List.nil_append, remove, folder.injEq] at hself
    rw [List.nil_append, put, put, insertIn_of_absent hnone, remove, List.filter_append, hself]
    simp
  | cons first around ih =>
    obtain ⟨entries, old, rfl, hentry, haround⟩ := exists_entry_of_sightAt hfolder
    rw [List.cons_append, at?, hentry] at h
    have hold := ih (ht.of_mem (mem_of_lookup_eq_some hentry)) haround h
    obtain ⟨next, below, hbelow⟩ := List.exists_cons_of_ne_nil
      (List.append_ne_nil_of_right_ne_nil around (List.cons_ne_nil name []))
    rw [List.cons_append, put, hentry, Option.getD_some, insertIn_of_present ht.nodup hentry]
    rw [hbelow] at hold ⊢
    rw [remove, List.map_map]
    refine congrArg folder ((List.map_congr_left fun entry hmem => ?_).trans (List.map_id entries))
    obtain ⟨n, x⟩ := entry
    by_cases hn : n = first
    · subst hn
      obtain rfl : old = x := Option.some.inj (hentry.symm.trans (lookup_of_mem ht.nodup hmem))
      simp [hold]
    · simp [hn]

namespace NamesDistinct

theorem remove {t : FileTree} (ht : t.NamesDistinct) (l : Location) :
    (t.remove l).NamesDistinct := by
  fun_induction FileTree.remove l t with
  | case1 => exact ht
  | case4 => exact ht
  | case2 name entries =>
    refine .folder (ht.nodup.sublist (List.filter_sublist.map _)) fun entry hentry => ?_
    exact ht.of_mem (List.mem_filter.1 hentry).1
  | case3 name next below entries ih =>
    refine .folder ?_ fun entry hentry => ?_
    · rw [List.map_map]
      exact ht.nodup
    · obtain ⟨⟨n, e⟩, hmem, rfl⟩ := List.mem_map.1 hentry
      have he := ht.of_mem hmem
      dsimp only
      split
      · exact ih e he
      · exact he

theorem insertIn {entries : List (String × FileTree)} (h : NamesDistinct (.folder entries))
    {e : FileTree} (he : e.NamesDistinct) (name : String) :
    NamesDistinct (.folder (FileTree.insertIn name e entries)) := by
  cases hlookup : entries.lookup name with
  | none =>
    rw [insertIn_of_absent hlookup]
    refine .folder ?_ fun entry hentry => ?_
    · rw [List.map_append, List.map_singleton, List.nodup_append]
      refine ⟨h.nodup, by simp, fun n hn m hm => ?_⟩
      obtain ⟨entry, hentry, rfl⟩ := List.mem_map.1 hn
      rw [List.mem_singleton.1 hm]
      exact (bne_iff_ne.1 (List.lookup_eq_none_iff.1 hlookup entry hentry)).symm
    · rcases List.mem_append.1 hentry with hentry | hentry
      · exact h.of_mem hentry
      · rw [List.mem_singleton.1 hentry]
        exact he
  | some old =>
    rw [insertIn_of_present h.nodup hlookup]
    refine .folder ?_ fun entry hentry => ?_
    · rw [List.map_map]
      exact h.nodup
    · obtain ⟨⟨n, x⟩, hmem, rfl⟩ := List.mem_map.1 hentry
      dsimp only
      split
      · exact he
      · exact h.of_mem hmem

theorem put {t e : FileTree} (ht : t.NamesDistinct) (he : e.NamesDistinct) (l : Location) :
    (FileTree.put e l t).NamesDistinct := by
  fun_induction FileTree.put e l t with
  | case1 => exact he
  | case3 => exact ht
  | case2 name rest entries ih =>
    refine ht.insertIn (ih ?_) name
    cases hentry : entries.lookup name with
    | none => exact .folder List.nodup_nil (by simp)
    | some old => exact ht.of_mem (mem_of_lookup_eq_some hentry)

theorem at? {t e : FileTree} (ht : t.NamesDistinct) {l : Location} (h : t.at? l = some e) :
    e.NamesDistinct := by
  induction l generalizing t with
  | nil => exact Option.some.inj h ▸ ht
  | cons name rest ih =>
    cases t with
    | file | link => cases h
    | folder entries =>
      rw [FileTree.at?, Option.bind_eq_some_iff] at h
      obtain ⟨sub, hsub, hrest⟩ := h
      exact ih (ht.of_mem (mem_of_lookup_eq_some hsub)) hrest

end NamesDistinct

end FileTree

end Registrar
