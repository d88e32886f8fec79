/-
Where the output name of accepted settings leads. A name is read as a path of
its own (`Path.ofText`), and `DirectlyInside` says that behind any folder that
path leads to an entry of the folder: this is so for every name that is not
empty, holds no slash, and is neither a dot nor two dots (`directlyInside_iff`).
The check of the settings compares a name with the last name of its path, which
lets two dots pass (`isBareName_iff`): they lead to the folder around.
-/
import Registrar.Proofs.SettingsFaults

namespace Registrar

namespace Path

/-! ## A name behind a folder -/

theorem not_mem_of_mem_splitOn {c : Char} {cs part : List Char} (h : part ∈ cs.splitOn c) :
    c ∉ part := by
  induction cs generalizing part with
  | nil =>
    rw [List.splitOn_nil, List.mem_singleton] at h
    rw [h]
    exact List.not_mem_nil
  | cons first rest ih =>
    rw [List.splitOn_cons_eq_if_modifyHead] at h
    split at h
    · rcases List.mem_cons.1 h with rfl | h
      · exact List.not_mem_nil
      · exact ih h
    · next hfirst =>
      obtain ⟨head, tail, hrest⟩ := List.exists_cons_of_ne_nil (List.splitOn_ne_nil c rest)
      rw [hrest] at ih h
      rcases List.mem_cons.1 h with rfl | h
      · have hne : c ≠ first := fun he => hfirst (by rw [he]; exact beq_self_eq_true first)
        exact List.not_mem_cons_of_ne_of_not_mem hne (ih (.head _))
      · exact ih (.tail _ h)

/-- No name of a path is empty or a dot or holds a slash. -/
theorem mem_names_ofText {s name : String} (h : name ∈ (ofText s).names) :
    name ≠ "" ∧ name ≠ "." ∧ '/' ∉ name.toList := by
  rw [ofText, List.mem_filter, List.mem_map] at h
  obtain ⟨⟨part, hpart, rfl⟩, hkept⟩ := h
  rw [Bool.and_eq_true, decide_eq_true_iff, decide_eq_true_iff] at hkept
  refine ⟨hkept.1, hkept.2, ?_⟩
  rw [String.toList_ofList]
  exact not_mem_of_mem_splitOn hpart

/-- A text without slashes that is not empty and no dot is one name. -/
theorem ofText_name {s : String} (hne : s ≠ "") (hdot : s ≠ ".") (hslash : '/' ∉ s.toList) :
    ofText s = ⟨"", [s]⟩ := by
  have hsplit : s.toList.splitOn '/' = [s.toList] := by
    have hjoin : List.splitOn '/' (['/'].intercalate [s.toList]) = [s.toList] :=
      List.splitOn_intercalate '/' (by simpa using hslash) (List.cons_ne_nil _ _)
    rwa [List.intercalate_singleton] at hjoin
  have hnames : (ofText s).names = [s] := by
    rw [ofText, hsplit, List.map_singleton, String.ofList_toList]
    simp [hne, hdot]
  have hanchor : (ofText s).anchor = "" := by
    unfold ofText
    dsimp only
    -- A slash at the start would be one of the text.
    split
    · next hs => exact absurd (hs ▸ List.mem_cons_self) hslash
    · next hs => exact absurd (hs ▸ List.mem_cons_self) hslash
    · next hs => exact absurd (hs ▸ List.mem_cons_self) hslash
    · rfl
  rw [← hnames, ← hanchor]

theorem mem_follow {above names : List String} {name : String} (h : name ∈ follow above names) :
    name ∈ above ∨ name ∈ names := by
  induction names generalizing above with
  | nil => exact .inl h
  | cons first rest ih =>
    rw [follow] at h
    split at h
    · exact (ih h).imp List.mem_of_mem_tail (.tail _)
    · rcases ih h with h | h
      · rcases List.mem_cons.1 h with rfl | h
        · exact .inr (.head _)
        · exact .inl h
      · exact .inr (.tail _ h)

/-- Behind a folder, names are followed from there. -/
theorem resolve_join {folder : Location} (hfolder : ".." ∉ folder) (names : List String)
    (base : Location) :
    ((ofLocation folder).join ⟨"", names⟩).resolve base =
      (follow folder.reverse names).reverse := by
  have hjoin : (ofLocation folder).join ⟨"", names⟩ = ofLocation (folder ++ names) := rfl
  have hstart : (ofLocation (folder ++ names)).start base.reverse = [] := rfl
  rw [hjoin, resolve, hstart, ofLocation, follow_append, follow_of_plain hfolder, List.append_nil]

/-- Behind any folder, the path that is written as `name` leads to the entry `name` of that
folder. -/
def DirectlyInside (name : String) : Prop :=
  ∀ base folder : Location, ".." ∉ folder →
    ((ofLocation folder).join (ofText name)).resolve base = folder ++ [name]

theorem DirectlyInside.relative {name : String} (h : DirectlyInside name) :
    (ofText name).anchor = "" := by
  -- An absolute path leads from all folders to one place.
  refine Classical.byContradiction fun hanchor => ?_
  have habsolute : ∀ folder, (ofLocation folder).join (ofText name) = ofText name := by
    intro folder
    rw [join, if_neg (fun hempty => hanchor (String.isEmpty_iff.1 hempty))]
  have hroot := h [] [] List.not_mem_nil
  have hother := h [] ["x"] (by decide)
  rw [habsolute] at hroot hother
  cases hroot.symm.trans hother

theorem directlyInside_iff {name : String} :
    DirectlyInside name ↔ name ≠ "" ∧ name ≠ "." ∧ name ≠ ".." ∧ '/' ∉ name.toList := by
  constructor
  · intro h
    have hroot := h [] [] List.not_mem_nil
    have hpath : ofText name = ⟨"", (ofText name).names⟩ := by rw [← h.relative]
    rw [hpath, resolve_join List.not_mem_nil, List.reverse_nil, List.nil_append,
      ← List.reverse_inj, List.reverse_reverse, List.reverse_singleton] at hroot
    have hfollow : name ∈ follow [] (ofText name).names := by
      rw [hroot]
      exact .head _
    have hdots : name ≠ ".." := by
      rintro rfl
      exact not_mem_follow List.not_mem_nil _ hfollow
    obtain ⟨hne, hdot, hslash⟩ :=
      mem_names_ofText ((mem_follow hfollow).resolve_left List.not_mem_nil)
    exact ⟨hne, hdot, hdots, hslash⟩
  · rintro ⟨hne, hdot, hdots, hslash⟩ base folder hfolder
    rw [ofText_name hne hdot hslash, resolve_join hfolder,
      follow_of_plain (by simpa using Ne.symm hdots), List.reverse_append, List.reverse_reverse,
      List.reverse_reverse]

/-- Two dots lead to the folder around. -/
theorem resolve_doubleDot {folder : Location} (hfolder : ".." ∉ folder) (base : Location) :
    ((ofLocation folder).join (ofText "..")).resolve base = folder.dropLast := by
  rw [ofText_name (by decide) (by decide) (by decide), resolve_join hfolder, follow, if_pos rfl,
    follow, List.tail_reverse, List.reverse_reverse]

end Path

namespace Config

/-! ## Names that the settings accept -/

/-- The check lets a text pass that is empty, or that has no slash and is no dot. -/
theorem isBareName_iff {s : String} : isBareName s = true ↔ s = "" ∨ '/' ∉ s.toList ∧ s ≠ "." := by
  rw [isBareName, beq_iff_eq]
  constructor
  · intro h
    by_cases hempty : s = ""
    · exact .inl hempty
    · right
      have hlast : (Path.ofText s).names.getLast? = some s := by
        rw [Path.name] at h
        cases hnames : (Path.ofText s).names.getLast? with
        | none =>
          rw [hnames] at h
          exact absurd h.symm hempty
        | some last =>
          rw [hnames] at h
          exact congrArg some h
      obtain ⟨_, hdot, hslash⟩ := Path.mem_names_ofText (List.mem_of_getLast? hlast)
      exact ⟨hslash, hdot⟩
  · rintro (rfl | ⟨hslash, hdot⟩)
    · rfl
    · by_cases hempty : s = ""
      · rw [hempty]
        rfl
      · rw [Path.ofText_name hempty hdot hslash]
        rfl

/-- What is known of the output name of settings that are accepted. -/
structure OutputPlace (name : String) : Prop where
  nonempty : name ≠ ""
  notDot : name ≠ "."
  noSlash : '/' ∉ name.toList
  /-- Two dots are the one name that does not stay in the folder. -/
  inside_iff : Path.DirectlyInside name ↔ name ≠ ".."
  above : name = ".." → ∀ base folder : Location, ".." ∉ folder →
    ((Path.ofLocation folder).join (Path.ofText name)).resolve base = folder.dropLast

theorem outputPlace_of_isBareName {name : String} (hne : name ≠ "") (h : isBareName name = true) :
    OutputPlace name := by
  obtain ⟨hslash, hdot⟩ := (isBareName_iff.1 h).resolve_left hne
  refine ⟨hne, hdot, hslash, ?_, ?_⟩
  · rw [Path.directlyInside_iff]
    exact ⟨fun h => h.2.2.1, fun hdots => ⟨hne, hdot, hdots, hslash⟩⟩
  · rintro rfl base folder hfolder
    exact Path.resolve_doubleDot hfolder base

variable {m : Machine} {fs : Files} {p : Path} {root : Location} {c : Config} {entries : Section}

theorem outputPlace_default (root : Location) : OutputPlace (default root).outputName :=
  have hname : (default root).outputName = "GeneratedMediatorRegistrations.cs" := rfl
  hname ▸ outputPlace_of_isBareName (by decide) (by decide +kernel)

theorem ne_empty_of_text? {key s : String} (h : entries.text? key = .ok (some s)) : s ≠ "" := by
  obtain ⟨found, -, hfound⟩ := bind_eq_ok_iff.1 h
  have hfilter : found.filter (!·.isEmpty) = some s := Except.ok.inj hfound
  rw [Option.filter_eq_some_iff] at hfilter
  rintro rfl
  exact Bool.false_ne_true hfilter.2

/-- The entries of settings give the name of the output, or else it is the usual one. -/
theorem outputName_of_ofEntries (h : ofEntries root entries = .ok c) :
    ∃ name, (entries.inner "output").text? "file_name" = .ok name ∧
      name.all isBareName = true ∧ c.outputName = name.getD (default root).outputName := by
  unfold ofEntries at h
  dsimp only at h
  obtain ⟨name, hname, h⟩ := bind_eq_ok_iff.1 h
  refine ⟨name, mapError_eq_ok_iff.1 hname, ?_⟩
  cases hbare : name.all isBareName with
  | false =>
    rw [hbare] at h
    cases h
  | true =>
    rw [hbare, Bool.not_true, if_neg Bool.false_ne_true] at h
    -- The five texts that are asked for behind the name leave it as it is.
    iterate 5 obtain ⟨_, -, h⟩ := bind_eq_ok_iff.1 h
    cases h
    exact ⟨rfl, rfl⟩

theorem outputPlace_of_ofEntries (h : ofEntries root entries = .ok c) :
    OutputPlace c.outputName := by
  obtain ⟨name, hname, hbare, houtput⟩ := outputName_of_ofEntries h
  rw [houtput]
  cases name with
  | none => exact outputPlace_default root
  | some s => exact outputPlace_of_isBareName (ne_empty_of_text? hname) hbare

theorem outputPlace_of_ofText {name text : String} (h : ofText m root name text = .ok c) :
    OutputPlace c.outputName := by
  unfold ofText at h
  split at h
  · cases h
    exact outputPlace_default root
  split at h
  · cases h
  unfold ofValue at h
  split at h
  · exact outputPlace_of_ofEntries h
  split at h
  · cases h
    exact outputPlace_default root
  · cases h

theorem outputPlace_of_load (h : load m fs p = .ok c) : OutputPlace c.outputName := by
  have hloads := loads m fs p
  rw [h] at hloads
  generalize hresult : (.ok c : Except ConfigError Config) = result at hloads
  cases hloads with
  | unplaced | adrift | unreadable | notText => cases hresult
  | absent root =>
    cases hresult
    exact outputPlace_default root
  | text => exact outputPlace_of_ofText hresult.symm

/-! ## Names that they refuse -/

/-- There is a settings file, and it names the output by a dot or by a text with a slash. -/
def NamesPath (m : Machine) (fs : Files) (p : Path) : Prop :=
  ∃ l root bytes text, ∃ (entries : Section) (s : String),
    Holds m fs p l root bytes ∧ Text.readLines? bytes = some text ∧
      (Text.trim text).isEmpty = false ∧ m.load text = .ok (.mapping entries) ∧
      (entries.inner "output").text? "file_name" = .ok (some s) ∧ (s = "." ∨ '/' ∈ s.toList)

theorem ofEntries_eq_outputName_iff :
    ofEntries root entries = .error .outputName ↔
      ∃ s, (entries.inner "output").text? "file_name" = .ok (some s) ∧
        (s = "." ∨ '/' ∈ s.toList) := by
  have hcause : ¬(ConfigError.outputName = .tooLong ∧ WantsTooLong entries) := fun h => by cases h.1
  rw [ofEntries_eq_error_iff, or_iff_right hcause, and_iff_right rfl]
  constructor
  · rintro ⟨_ | s, hname, hbare⟩
    · cases hbare
    · refine ⟨s, hname, ?_⟩
      by_cases hdot : s = "."
      · exact .inl hdot
      · refine .inr (Classical.byContradiction fun hslash => ?_)
        rw [Option.all_some, isBareName_iff.2 (.inr ⟨hslash, hdot⟩)] at hbare
        cases hbare
  · rintro ⟨s, hname, hs⟩
    refine ⟨some s, hname, ?_⟩
    rw [Option.all_some, ← Bool.not_eq_true, isBareName_iff]
    rintro (hempty | ⟨hslash, hdot⟩)
    · exact ne_empty_of_text? hname hempty
    · exact hs.elim hdot hslash

theorem ofText_eq_outputName_iff {name text : String} :
    ofText m root name text = .error .outputName ↔
      (Text.trim text).isEmpty = false ∧ ∃ (entries : Section) (s : String),
        m.load text = .ok (.mapping entries) ∧
        (entries.inner "output").text? "file_name" = .ok (some s) ∧
        (s = "." ∨ '/' ∈ s.toList) := by
  have hraised : ∀ x, ConfigError.ofRaised name x ≠ .outputName := fun x => by
    rw [ConfigError.ofRaised]
    split <;> simp
  rw [ofText_eq_error_iff]
  refine and_congr_right fun _ => ?_
  constructor
  · rintro (⟨x, _, h⟩ | ⟨v, hload, h⟩)
    · exact absurd h (hraised x)
    · rcases ofValue_eq_error_iff.1 h with ⟨entries, rfl, h⟩ | ⟨h, _⟩
      · obtain ⟨s, hs⟩ := ofEntries_eq_outputName_iff.1 h
        exact ⟨entries, s, hload, hs⟩
      · cases h
  · rintro ⟨entries, s, hload, hs⟩
    exact .inr ⟨_, hload, ofEntries_eq_outputName_iff.2 ⟨s, hs⟩⟩

theorem load_eq_outputName_iff : load m fs p = .error .outputName ↔ NamesPath m fs p := by
  constructor
  · intro h
    have hloads := loads m fs p
    rw [h] at hloads
    generalize hresult : (.error .outputName : Except ConfigError Config) = result at hloads
    cases hloads with
    | unplaced | adrift | unreadable | notText | absent => cases hresult
    | text hholds htext =>
      obtain ⟨hblank, entries, s, hs⟩ := ofText_eq_outputName_iff.1 hresult.symm
      exact ⟨_, _, _, _, entries, s, hholds, htext, hblank, hs⟩
  · rintro ⟨l, root, bytes, text, entries, s, hholds, htext, hblank, hs⟩
    rw [load_of_holds hholds, htext]
    exact ofText_eq_outputName_iff.2 ⟨hblank, entries, s, hs⟩

end Config

/-! ## The output file of a run -/

/-- The path of the output file, dots taken away. -/
theorem Plan.resolve_file {p : Plan} (h : Config.OutputPlace p.config.outputName)
    (houtput : ".." ∉ p.output) (base : Location) :
    p.file.resolve base =
      if p.config.outputName = ".." then p.output.dropLast
      else p.output ++ [p.config.outputName] := by
  have hfile : p.file = (Path.ofLocation p.output).join (.ofText p.config.outputName) := by
    rw [Path.ofText_name h.nonempty h.notDot h.noSlash]
    rfl
  rw [hfile]
  split
  · next hdots => exact h.above hdots _ _ houtput
  · next hdots => exact h.inside_iff.2 hdots _ _ houtput

theorem Request.not_mem_output {m : Machine} {r : Request} {s : Session} {p : Plan}
    (hplan : (r.plan m s).2 = .ok p) (hcurrent : ".." ∉ s.files.current) : ".." ∉ p.output := by
  obtain ⟨-, hplace, -⟩ := plan_eq_ok_iff.1 hplan
  obtain ⟨q, -, hq⟩ := bind_eq_ok_iff.1 hplace
  have hresolve : p.output = s.files.resolve q := by
    unfold Files.place at hq
    split at hq
    · cases hq
    split at hq
    · cases hq
    split at hq
    · cases hq
    · exact (Except.ok.inj hq).symm
  rw [hresolve, Files.resolve]
  split <;> exact Path.not_mem_resolve hcurrent _

/-- Whatever the settings are read by: an output name that is accepted is not empty and no dot and
has no slash, and its path leads to an entry of any folder unless it is two dots, which lead to the
folder around. What is refused for its name is a dot or has a slash. So the output file of a run
lies in the output folder, or is the folder around it. -/
theorem Config.accepted_output_names (m : Machine) :
    (∀ fs p c, load m fs p = .ok c → OutputPlace c.outputName) ∧
      (∀ fs p, load m fs p = .error .outputName ↔ NamesPath m fs p) ∧
      ∀ (r : Request) (s : Session) (p : Plan), (r.plan m s).2 = .ok p →
        ".." ∉ s.files.current → ∀ base, p.file.resolve base =
          if p.config.outputName = ".." then p.output.dropLast
          else p.output ++ [p.config.outputName] := by
  refine ⟨fun fs p c => outputPlace_of_load, fun fs p => load_eq_outputName_iff, ?_⟩
  intro r s p hplan hcurrent base
  have hplace := outputPlace_of_load (Request.plan_eq_ok_iff.1 hplan).2.2
  exact p.resolve_file hplace (Request.not_mem_output hplan hcurrent) base

namespace Sample

/-- A machine on which settings give the output their text as its name. -/
def namingMachine : Machine :=
  { bareMachine with
    load := fun text => .ok (.mapping [("output", .mapping [("file_name", .text text)])]) }

/-- A folder of sources with settings of a text, and a folder for the output. -/
def named (text : String) : Session :=
  session [("src", .folder [(configName, .file text.toUTF8)]), ("out", .folder [])] none

/-- The settings that a text in the folder of sources gives. -/
def namedConfig (text : String) : Config :=
  { Config.default ["src"] with outputName := text }

end Sample

open Sample in
/-- A plain file name is accepted and stays in the output folder. -/
theorem Config.accepted_output_names_file :
    load namingMachine (named "Out.cs").files ⟨"/", ["src"]⟩ = .ok (namedConfig "Out.cs") ∧
      Path.DirectlyInside (namedConfig "Out.cs").outputName ∧
      ∃ p, ((fromSources false).plan namingMachine (named "Out.cs")).2 = .ok p ∧
        p.file.resolve [] = ["out", "Out.cs"] := by
  have hload : load namingMachine (named "Out.cs").files ⟨"/", ["src"]⟩ =
      .ok (namedConfig "Out.cs") := by rfl
  have hplan : ((fromSources false).plan namingMachine (named "Out.cs")).2 =
      .ok ⟨["src"], ["out"], namedConfig "Out.cs"⟩ := by rfl
  obtain ⟨haccepted, -, hfile⟩ := accepted_output_names namingMachine
  exact ⟨hload, (haccepted _ _ _ hload).inside_iff.2 (by decide), _, hplan,
    hfile _ _ _ hplan (by decide) []⟩

open Sample in
/-- Two dots are accepted, and lead out of the output folder. -/
theorem Config.doubleDot_accepted :
    load namingMachine (named "..").files ⟨"/", ["src"]⟩ = .ok (namedConfig "..") ∧
      (namedConfig "..").outputName = ".." ∧
      ¬Path.DirectlyInside (namedConfig "..").outputName ∧
      ((fromSources false).plan namingMachine (named "..")).2 =
        .ok ⟨["src"], ["out"], namedConfig ".."⟩ ∧
      (Plan.file ⟨["src"], ["out"], namedConfig ".."⟩).resolve [] = [] := by
  refine ⟨by rfl, rfl, ?_, by rfl, by decide⟩
  rw [Path.directlyInside_iff]
  exact fun h => h.2.2.1 rfl

end Registrar
