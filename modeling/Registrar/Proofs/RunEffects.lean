/-
What a run does to the files. Only two of its steps do more than look and make notes: `clear` takes
the old output out (`Cleared`), and `deliver` writes the new one (`Delivered`). `Goes` lists the
ways that a run can go with them, and from it `Request.run_effects` tells for every exit what is
left behind.
-/
import Registrar.Proofs.Sessions

namespace Registrar

theorem mapError_ok (f : ε → δ) (a : α) : (Except.ok a).mapError f = .ok a := rfl

theorem mapError_error (f : ε → δ) (e : ε) :
    (Except.error e : Except ε α).mapError f = .error (f e) := rfl

theorem mapError_eq_error_iff {x : Except ε α} {f : ε → δ} {d : δ} :
    x.mapError f = .error d ↔ ∃ e, x = .error e ∧ f e = d := by
  cases x <;> simp [mapError_ok, mapError_error]

theorem mapError_eq_ok_iff {x : Except ε α} {f : ε → δ} {a : α} :
    x.mapError f = .ok a ↔ x = .ok a := by
  cases x <;> simp [mapError_ok, mapError_error]

theorem bind_eq_ok_iff {x : Except ε α} {f : α → Except ε β} {b : β} :
    x >>= f = .ok b ↔ ∃ a, x = .ok a ∧ f a = .ok b := by
  cases x <;> simp [bind, Except.bind]

theorem bind_eq_error_iff {x : Except ε α} {f : α → Except ε β} {e : ε} :
    x >>= f = .error e ↔ x = .error e ∨ ∃ a, x = .ok a ∧ f a = .error e := by
  cases x <;> simp [bind, Except.bind]

namespace Module

theorem holds_iff {part text : List Char} : holds part text = true ↔ part <:+: text := by
  induction text with
  | nil => rw [holds, List.isEmpty_iff, List.infix_nil]
  | cons c rest ih =>
    rw [holds, Bool.or_eq_true, List.isPrefixOf_iff_prefix, ih, List.infix_cons_iff]

end Module

/-- The built-in template declares the registration class. -/
theorem Template.infix_standardText (ns : String) (imports : List String) (entries : List Entry) :
    classMarker.toList <:+: (standardText ns imports entries).toList := by
  unfold standardText
  -- Five parts follow the declaration.
  iterate 5
    rw [String.toList_append]
    refine List.IsInfix.trans ?_ (List.prefix_append _ _).isInfix
  rw [String.toList_append]
  exact (List.suffix_append _ _).isInfix

namespace Request

variable {m : Machine} {r : Request} {p : Plan} {s s' : Session}

/-! ## Steps that only look -/

theorem quiet_plan (m : Machine) (r : Request) : (r.plan m).Quiet :=
  .bind (.look _) fun _ => .bind (.look _) fun _ => .bind (.note _) fun _ =>
    .bind (.look _) fun _ => .pure _

theorem quiet_sources (m : Machine) (p : Plan) : (sources m p).Quiet :=
  .bind (.look _) fun _ => .bind (.look _) fun _ => .bind (.look _) fun _ =>
    .bind (.ensure _ _) fun _ => .noted _

theorem quiet_make (m : Machine) (r : Request) (p : Plan) : (r.make m p).Quiet := by
  unfold make
  refine .bind (quiet_sources m p) fun _ => .bind (.note _) fun _ => .bind (.ensure _ _) fun _ =>
    .bind (.noted _) fun _ => .bind (.look _) fun _ => .bind (.ensure _ _) fun _ => ?_
  exact .ite (.bind (.note _) fun _ => .pure _) (.pure _)

theorem quiet_of_make {made : Session} {x : Except RunError Module}
    (h : r.make m p s = (made, x)) : s.Quiet made := by
  have hquiet := quiet_make m r p s
  rwa [h] at hquiet

theorem plan_result (m : Machine) (r : Request) (s : Session) :
    (r.plan m s).2 = (do
      let input ← (m.place s.files r.input).mapError RunError.path
      let output ← (m.place s.files r.output).mapError RunError.path
      let u := s.note (.starting input.text r.ns)
      let config ← (Config.load m u.files (r.settingsPath input)).mapError RunError.settings
      return ⟨input, output, config⟩) := by
  unfold plan
  simp only [Job.bind_apply, Job.look_apply, Job.note_apply]
  cases (m.place s.files r.input).mapError RunError.path with
  | error e => rfl
  | ok input =>
    dsimp only [bind, Except.bind]
    cases (m.place s.files r.output).mapError RunError.path with
    | error e => rfl
    | ok output =>
      dsimp only
      cases (Config.load m (s.note (.starting input.text r.ns)).files
        (r.settingsPath input)).mapError RunError.settings <;> rfl

theorem plan_eq_error_iff {e : RunError} :
    (r.plan m s).2 = .error e ↔
      (∃ x, m.place s.files r.input = .error x ∧ .path x = e) ∨
        ∃ input, m.place s.files r.input = .ok input ∧
          ((∃ x, m.place s.files r.output = .error x ∧ .path x = e) ∨
            (∃ output, m.place s.files r.output = .ok output) ∧
              ∃ x, Config.load m (s.note (.starting input.text r.ns)).files
                (r.settingsPath input) = .error x ∧ .settings x = e) := by
  simp only [plan_result, bind_eq_error_iff, mapError_eq_error_iff, mapError_eq_ok_iff, pure,
    Except.pure, reduceCtorEq, and_false, exists_false, or_false, exists_and_right]

theorem plan_eq_ok_iff :
    (r.plan m s).2 = .ok p ↔
      m.place s.files r.input = .ok p.input ∧ m.place s.files r.output = .ok p.output ∧
        Config.load m (s.note (.starting p.input.text r.ns)).files (r.settingsPath p.input) =
          .ok p.config := by
  simp only [plan_result, bind_eq_ok_iff, mapError_eq_ok_iff, pure, Except.pure, Except.ok.injEq]
  constructor
  · rintro ⟨input, hinput, output, houtput, config, hconfig, rfl⟩
    exact ⟨hinput, houtput, hconfig⟩
  · rintro ⟨hinput, houtput, hconfig⟩
    exact ⟨_, hinput, _, houtput, _, hconfig, rfl⟩

theorem sources_result (m : Machine) (p : Plan) (s : Session) :
    (sources m p s).2 = (do
      let input ← (s.files.place (.ofLocation p.input)).mapError RunError.path
      let scan ← (p.scan s.files input).mapError RunError.path
      if m.walks (scan.depth s.files input) then
        ((scan.runWith (fun notes => (s.remark notes).files) p.input.text input).mapError
          RunError.input).result
      else .error .stack) := by
  unfold sources
  simp only [Job.bind_apply, Job.look_apply]
  cases (s.files.place (.ofLocation p.input)).mapError RunError.path with
  | error e => rfl
  | ok input =>
    dsimp only [bind, Except.bind]
    cases (p.scan s.files input).mapError RunError.path with
    | error e => rfl
    | ok scan =>
      dsimp only
      rw [Job.ensure_apply]
      cases m.walks (scan.depth s.files input) <;> rfl

theorem sources_eq_error_iff {e : RunError} :
    (sources m p s).2 = .error e ↔
      (∃ x, s.files.place (.ofLocation p.input) = .error x ∧ .path x = e) ∨
        ∃ input, s.files.place (.ofLocation p.input) = .ok input ∧
          ((∃ x, p.scan s.files input = .error x ∧ .path x = e) ∨
            ∃ scan, p.scan s.files input = .ok scan ∧
              (m.walks (scan.depth s.files input) = false ∧ .stack = e ∨
                m.walks (scan.depth s.files input) = true ∧
                  ∃ x, (scan.runWith (fun notes => (s.remark notes).files) p.input.text
                    input).result = .error x ∧ .input x = e)) := by
  simp only [sources_result, bind_eq_error_iff, mapError_eq_error_iff, mapError_eq_ok_iff]
  refine or_congr_right (exists_congr fun input => and_congr_right fun _ => or_congr_right
    (exists_congr fun scan => and_congr_right fun _ => ?_))
  cases m.walks (scan.depth s.files input) <;> simp [mapError_eq_error_iff]

/-- Sources come from a folder. -/
theorem exists_folder_of_sources {files : List SourceFile} (h : (sources m p s).2 = .ok files) :
    ∃ root scan entries, s.files.place (.ofLocation p.input) = .ok root ∧
      p.scan s.files root = .ok scan ∧ s.files.find (.ofLocation root) = .ok (.folder entries) := by
  rw [sources_result] at h
  cases hroot : s.files.place (.ofLocation p.input) with
  | error e => rw [hroot] at h; cases h
  | ok root =>
    rw [hroot] at h
    simp only [mapError_ok, bind, Except.bind] at h
    cases hscan : p.scan s.files root with
    | error e => rw [hscan] at h; cases h
    | ok scan =>
      rw [hscan] at h
      simp only [mapError_ok] at h
      split at h
      · unfold Scan.runWith at h
        split at h
        · cases h
        · cases h
        · next entries hprobe =>
          exact ⟨root, scan, entries, rfl, hscan, Files.probe_eq_some_iff.1 hprobe⟩
        · cases h
      · cases h

/-- The session in which the template is looked for when the sources have been analysed. -/
def analysed (m : Machine) (p : Plan) (files : List SourceFile) (s : Session) : Session :=
  (s.note (.discovered files.length)).remark
    (registrations (files.map m.unit) p.config.contracts).notes

theorem quiet_analysed (m : Machine) (p : Plan) (files : List SourceFile) (s : Session) :
    s.Quiet (analysed m p files (sources m p s).1) :=
  ((quiet_sources m p s).trans (Session.quiet_note _ _)).trans (Session.quiet_remark _ _)

theorem make_result (m : Machine) (r : Request) (p : Plan) (s : Session) :
    (r.make m p s).2 = (do
      let files ← (sources m p s).2
      if m.analyses (files.map m.unit) p.config.contracts then
        let found ← (registrations (files.map m.unit) p.config.contracts).result.mapError
          fun _ => RunError.endlessAlias
        let t := analysed m p files (sources m p s).1
        let template := Template.locate m t.moment t.files p.config.templates
        let module ← (Module.ofEntries template r.ns found.1 found.2).mapError RunError.template
        if Module.declaresClass module.text then .ok module else .error .noMarker
      else .error .stack) := by
  unfold make
  rw [Job.bind_apply]
  generalize sources m p s = scanned
  obtain ⟨t, result⟩ := scanned
  cases result with
  | error e => rfl
  | ok files =>
    simp only [Job.bind_apply, Job.note_apply]
    rw [Job.ensure_apply]
    dsimp only [bind, Except.bind]
    cases m.analyses (files.map m.unit) p.config.contracts with
    | false => rfl
    | true =>
      simp only [if_true, Job.noted_apply, Noted.mapError, Job.look_apply]
      cases (registrations (files.map m.unit) p.config.contracts).result.mapError
        fun _ => RunError.endlessAlias with
      | error e => rfl
      | ok found =>
        dsimp only [analysed]
        cases (Module.ofEntries _ r.ns found.1 found.2).mapError RunError.template with
        | error e => rfl
        | ok module =>
          dsimp only
          rw [Job.ensure_apply]
          cases Module.declaresClass module.text with
          | false => rfl
          | true => cases module.entries.isEmpty <;> rfl

/-- The template that a module is made with. -/
def template (m : Machine) (p : Plan) (files : List SourceFile) (s : Session) : Template :=
  let t := analysed m p files (sources m p s).1
  Template.locate m t.moment t.files p.config.templates

/-- There are sources, and the stack is large enough to analyse them. -/
structure Reads (m : Machine) (p : Plan) (s : Session) (files : List SourceFile) : Prop where
  sources : (sources m p s).2 = .ok files
  analyses : m.analyses (files.map m.unit) p.config.contracts = true

/-- How a module is made, and what keeps it from being made. -/
inductive Made (m : Machine) (r : Request) (p : Plan) (s : Session) :
    Except RunError Module → Prop
  | unscanned {e : RunError} (h : (sources m p s).2 = .error e) : Made m r p s (.error e)
  | stack {files : List SourceFile} (hsources : (sources m p s).2 = .ok files)
      (hlarge : m.analyses (files.map m.unit) p.config.contracts = false) :
      Made m r p s (.error .stack)
  | endlessAlias {files : List SourceFile} {e : EndlessAlias} (hreads : Reads m p s files)
      (h : (registrations (files.map m.unit) p.config.contracts).result = .error e) :
      Made m r p s (.error .endlessAlias)
  | template {files : List SourceFile} {found : List Entry × ImportSet} {x : Raised}
      (hreads : Reads m p s files)
      (hfound : (registrations (files.map m.unit) p.config.contracts).result = .ok found)
      (h : Module.ofEntries (template m p files s) r.ns found.1 found.2 = .error x) :
      Made m r p s (.error (.template x))
  | noMarker {files : List SourceFile} {found : List Entry × ImportSet} {module : Module}
      (hreads : Reads m p s files)
      (hfound : (registrations (files.map m.unit) p.config.contracts).result = .ok found)
      (h : Module.ofEntries (template m p files s) r.ns found.1 found.2 = .ok module)
      (hclass : Module.declaresClass module.text = false) : Made m r p s (.error .noMarker)
  | made {files : List SourceFile} {found : List Entry × ImportSet} {module : Module}
      (hreads : Reads m p s files)
      (hfound : (registrations (files.map m.unit) p.config.contracts).result = .ok found)
      (h : Module.ofEntries (template m p files s) r.ns found.1 found.2 = .ok module)
      (hclass : Module.declaresClass module.text = true) : Made m r p s (.ok module)

theorem made (m : Machine) (r : Request) (p : Plan) (s : Session) :
    Made m r p s (r.make m p s).2 := by
  rw [make_result]
  cases hsources : (sources m p s).2 with
  | error e => exact .unscanned hsources
  | ok files =>
    dsimp only [bind, Except.bind]
    cases hanalyses : m.analyses (files.map m.unit) p.config.contracts with
    | false => exact .stack hsources hanalyses
    | true =>
      have hreads : Reads m p s files := ⟨hsources, hanalyses⟩
      rw [if_pos rfl]
      cases hfound : (registrations (files.map m.unit) p.config.contracts).result with
      | error e => exact .endlessAlias hreads hfound
      | ok found =>
        rw [mapError_ok]
        dsimp only
        cases hmodule : Module.ofEntries (template m p files s) r.ns found.1 found.2 with
        | error x =>
          rw [template] at hmodule
          rw [hmodule]
          exact .template hreads hfound hmodule
        | ok module =>
          rw [template] at hmodule
          rw [hmodule, mapError_ok]
          dsimp only
          split
          · next hclass => exact .made hreads hfound hmodule hclass
          · next hclass =>
            exact .noMarker hreads hfound hmodule (Bool.eq_false_iff.2 hclass)

/-- A module is made of sources. -/
theorem exists_sources_of_make {module : Module} (h : (r.make m p s).2 = .ok module) :
    ∃ files, (sources m p s).2 = .ok files := by
  have hmade := made m r p s
  rw [h] at hmade
  cases hmade with
  | made hreads => exact ⟨_, hreads.sources⟩

/-- A module that is made declares the registration class. -/
theorem infix_of_make {module : Module} (h : (r.make m p s).2 = .ok module) :
    classMarker.toList <:+: module.text.toList := by
  have hmade := made m r p s
  rw [h] at hmade
  cases hmade with
  | made _ _ _ hclass => exact Module.holds_iff.1 hclass

/-! ## Taking the old output out -/

/-- What is left when the old output has been seen to. -/
inductive Cleared (r : Request) (p : Plan) (s : Session) :
    Session → Except RunError Unit → Prop
  | unreadable {e : PathError} (h : s.files.probe p.file = .error e) :
      Cleared r p s s (.error (.path e))
  | dry (hdry : r.dryRun = true) : Cleared r p s s (.ok ())
  | absent (hwet : r.dryRun = false) (h : ∀ e, s.files.find p.file ≠ .ok e) :
      Cleared r p s s (.ok ())
  | blocked {e : FileTree} {place : Location} (hwet : r.dryRun = false)
      (hfind : s.files.find p.file = .ok e) (hplace : s.files.entryPlace p.file = .ok place)
      (hfolder : s.files.root.shapeAt place = some .folder) :
      Cleared r p s (s.note (.removingOutput p.file.text)) (.error (.path ⟨.isFolder, p.file.text⟩))
  | removed {e : FileTree} {place : Location} (hwet : r.dryRun = false)
      (hfind : s.files.find p.file = .ok e) (hplace : s.files.entryPlace p.file = .ok place)
      (hfile : s.files.root.shapeAt place ≠ some .folder) :
      Cleared r p s ((s.note (.removingOutput p.file.text)).remove place) (.ok ())

theorem clear_apply (r : Request) (p : Plan) (s : Session) :
    r.clear p s =
      match s.files.probe p.file with
      | .error e => (s, .error (.path e))
      | .ok none => (s, .ok ())
      | .ok (some _) =>
        if r.dryRun then (s, .ok ())
        else
          let t := s.note (.removingOutput p.file.text)
          match t.files.entryPlace p.file with
          | .error fault => (t, .error (.path ⟨fault, p.file.text⟩))
          | .ok place =>
            if (t.files.root.at? place).any FileTree.isFolder then
              (t, .error (.path ⟨.isFolder, p.file.text⟩))
            else (t.remove place, .ok ()) := by
  unfold clear
  simp only [Job.bind_apply, Job.look_apply]
  cases s.files.probe p.file with
  | error e => rfl
  | ok old =>
    cases old with
    | none => rfl
    | some e =>
      cases r.dryRun with
      | true => rfl
      | false =>
        dsimp only [mapError_ok]
        rw [Job.ite_apply]
        simp only [Option.isSome_some, Bool.not_false, Bool.and_true, if_true, Job.bind_apply,
          Job.note_apply, Job.look_apply]
        cases (s.note (.removingOutput p.file.text)).files.entryPlace p.file with
        | error fault => rfl
        | ok place =>
          dsimp only [mapError_ok]
          rw [Job.ensure_apply]
          cases ((s.note (.removingOutput p.file.text)).files.root.at? place).any
            FileTree.isFolder <;> rfl

theorem cleared (r : Request) (p : Plan) (s : Session) :
    Cleared r p s (r.clear p s).1 (r.clear p s).2 := by
  rw [clear_apply]
  cases hprobe : s.files.probe p.file with
  | error e => exact .unreadable hprobe
  | ok old =>
    cases hdry : r.dryRun with
    | true => cases old <;> exact .dry hdry
    | false =>
      cases old with
      | none =>
        obtain ⟨fault, hfault, _⟩ := Files.probe_eq_none_iff.1 hprobe
        exact .absent hdry fun e he => by rw [hfault] at he; cases he
      | some e =>
        have hfind := Files.probe_eq_some_iff.1 hprobe
        obtain ⟨l, hl, _⟩ := Files.find_eq_ok_iff.1 hfind
        obtain ⟨place, hplace⟩ := Files.exists_entryPlace_of_locate hl
        have hnote := s.quiet_note (.removingOutput p.file.text)
        dsimp only
        rw [if_neg Bool.false_ne_true, (hnote.entryPlace_eq p.file).trans hplace]
        dsimp only
        split
        · next hfolder =>
          rw [FileTree.any_isFolder_iff, hnote.shape] at hfolder
          exact .blocked hdry hfind hplace hfolder
        · next hfile =>
          rw [FileTree.any_isFolder_iff, hnote.shape] at hfile
          exact .removed hdry hfind hplace hfile

namespace Cleared

variable {t : Session}

theorem sightAt_ne_folder {place : Location} (hfile : s.files.root.shapeAt place ≠ some .folder)
    (n : Note) : (s.note n).files.root.sightAt place ≠ some .folder := by
  rw [ne_eq, FileTree.sightAt_eq_folder_iff, (s.quiet_note n).shape]
  exact hfile

/-- Double dots never name what is taken out. -/
theorem name_ne_of_file {place : Location} (hplace : s.files.entryPlace p.file = .ok place)
    (hfile : s.files.root.shapeAt place ≠ some .folder) : p.config.outputName ≠ ".." := by
  intro hname
  rw [Plan.file, hname, Files.entryPlace, if_pos (.inr (by simp [Path.name, Path.child]))] at hplace
  exact hfile (Files.shapeAt_of_locate_doubleDot hplace)

/-- The file to write is not there when an output has been seen to that is not kept. -/
theorem absent_of_wet (h : Cleared r p s t (.ok ())) (hwet : r.dryRun = false) (e : FileTree) :
    t.files.find p.file ≠ .ok e := by
  cases h with
  | dry hdry => rw [hwet] at hdry; cases hdry
  | absent _ habsent => exact habsent e
  | removed _ _ hplace hfile =>
    have hplace' := ((s.quiet_note (.removingOutput p.file.text)).entryPlace_eq p.file).trans hplace
    exact Files.find_remove (name_ne_of_file hplace hfile) hplace' (sightAt_ne_folder hfile _) e

end Cleared

/-! ## Writing the new output -/

/-- Why a module cannot be written: the operating system refuses a path, the name of the file has a
null character in it, or the output folder is missing. -/
inductive CannotWrite (p : Plan) : RunError → Prop
  | path {e : PathError} (h : e.fault.system?.isSome = true ∨ p.file.hasNull = true) :
      CannotWrite p (.path e)
  | noFolder : CannotWrite p (.noOutputFolder (Path.ofLocation p.output).text)

/-- How a module is delivered. -/
inductive Delivered (r : Request) (p : Plan) (module : Module) (s : Session) :
    Session → Except RunError Outcome → Prop
  | dry (hdry : r.dryRun = true) : Delivered r p module s s (.ok ⟨module, p.file, false⟩)
  | failed {e : RunError} (hwet : r.dryRun = false)
      (h : s.files.isFolder (.ofLocation p.output) = .ok true → ∀ l, s.files.fileFor p.file ≠ .ok l)
      (he : CannotWrite p e) : Delivered r p module s s (.error e)
  | written {l : Location} (hwet : r.dryRun = false)
      (hfolder : s.files.isFolder (.ofLocation p.output) = .ok true)
      (hl : s.files.fileFor p.file = .ok l) :
      Delivered r p module s
        ((s.write l module.text.toUTF8).note (.wrote module.entries.length p.file.text))
        (.ok ⟨module, p.file, true⟩)

theorem delivered (r : Request) (p : Plan) (module : Module) (s : Session) :
    Delivered r p module s (r.deliver p module s).1 (r.deliver p module s).2 := by
  unfold deliver
  cases hdry : r.dryRun with
  | true => exact .dry hdry
  | false =>
    rw [if_neg Bool.false_ne_true]
    simp only [Job.bind_apply, Job.look_apply, Job.ensure_apply, Job.change_apply, Job.note_apply,
      Job.pure_apply]
    cases hfolder : s.files.isFolder (.ofLocation p.output) with
    | error e =>
      exact .failed hdry (fun h => by rw [hfolder] at h; cases h)
        (.path (.inl (Files.system?_of_isFolder hfolder)))
    | ok isThere =>
      cases isThere with
      | false => exact .failed hdry (fun h => by rw [hfolder] at h; cases h) .noFolder
      | true =>
        simp only [mapError_ok, if_true]
        cases hl : s.files.fileFor p.file with
        | error e =>
          exact .failed hdry (fun _ l h => by rw [hl] at h; cases h)
            (.path (Files.system?_of_fileFor hl))
        | ok l => exact .written hdry hfolder hl

/-! ## A whole run -/

/-- How a run under a plan can go: it is stopped at once by the old output, no module is made, or
one is made and delivered, or it cannot be. -/
inductive Goes (m : Machine) (r : Request) (p : Plan) (s : Session) :
    Session → Except RunError Outcome → Prop
  | stopped {t : Session} {e : RunError} (hclear : Cleared r p s t (.error e)) :
      Goes m r p s t (.error e)
  | failed {cleared t : Session} {e : RunError} (hclear : Cleared r p s cleared (.ok ()))
      (hmake : r.make m p cleared = (t, .error e)) : Goes m r p s t (.error e)
  | delivered {cleared made t : Session} {module : Module} {result : Except RunError Outcome}
      (hclear : Cleared r p s cleared (.ok ())) (hmake : r.make m p cleared = (made, .ok module))
      (hdeliver : Delivered r p module made t result) : Goes m r p s t result

theorem run_of_plan_error {planned : Session} {e : RunError}
    (hplan : r.plan m s = (planned, .error e)) : r.run m s = (planned, .error e) := by
  rw [run, Job.bind_apply, hplan]

theorem goes_of_plan {planned : Session} (hplan : r.plan m s = (planned, .ok p)) :
    Goes m r p planned (r.run m s).1 (r.run m s).2 := by
  rw [run, Job.bind_apply, hplan]
  dsimp only
  have hclear := cleared r p planned
  rw [Job.bind_apply]
  generalize r.clear p planned = found at hclear
  rcases found with ⟨cleared, e | _⟩
  · exact .stopped hclear
  dsimp only
  rw [Job.bind_apply]
  rcases hmake : r.make m p cleared with ⟨made, e | module⟩
  · exact .failed hclear hmake
  · exact .delivered hclear hmake (delivered r p module made)

end Request

/-! ## What is left behind -/

namespace Plan

/-- The file to write is a link that leads nowhere. -/
def IsLooseLink (p : Plan) (fs : Files) : Prop :=
  ∃ place target, fs.entryPlace p.file = .ok place ∧
    fs.root.shapeAt place = some (.link target) ∧ ∀ e, fs.find p.file ≠ .ok e

/-- There is a folder in the place of the file to write. -/
def IsBlocked (p : Plan) (fs : Files) : Prop :=
  ∃ place e, fs.entryPlace p.file = .ok place ∧ fs.root.shapeAt place = some .folder ∧
    fs.find p.file = .ok e

/-- The locations at which a run takes out or puts in something: that of the file to write, and the
end of the link when it is one that leads nowhere. -/
def Touches (p : Plan) (fs : Files) (l : Location) : Prop :=
  fs.entryPlace p.file = .ok l ∨ p.IsLooseLink fs ∧ fs.locate p.file = .ok l

section

variable {p : Plan} {s s' : Session}

theorem isLooseLink_iff (h : s.Quiet s') : p.IsLooseLink s'.files ↔ p.IsLooseLink s.files := by
  simp only [IsLooseLink, h.entryPlace_eq, h.shape, h.find_ne_ok_iff]

theorem touches_iff (h : s.Quiet s') (l : Location) :
    p.Touches s'.files l ↔ p.Touches s.files l := by
  rw [Touches, Touches, h.entryPlace_eq, isLooseLink_iff h, h.locate_eq]

theorem isBlocked_iff (h : s.Quiet s') : p.IsBlocked s'.files ↔ p.IsBlocked s.files := by
  have hfind := h.exists_find_iff p.file
  simp only [IsBlocked, h.entryPlace_eq, h.shape, exists_and_left, hfind]

/-- Where the path of the file to write leads to nothing, a run may put it in. -/
theorem touches_of_locate {fs : Files} {l : Location} (hl : fs.locate p.file = .ok l)
    (habsent : ∀ e, fs.find p.file ≠ .ok e) : p.Touches fs l := by
  by_cases hlink : p.IsLooseLink fs
  · exact .inr ⟨hlink, hl⟩
  · refine .inl (Files.entryPlace_of_locate hl ?_ fun place target hplace htarget => ?_)
    · intro hname
      rw [file, hname] at hl
      have hfolder := Files.shapeAt_of_locate_doubleDot hl
      obtain ⟨entries, hentries⟩ := FileTree.shapeAt_eq_folder_iff.1 hfolder
      rw [← hname] at hl
      exact habsent _ (Files.find_of_at? hl hentries)
    · exact hlink ⟨place, target, hplace, htarget, habsent⟩

end

end Plan

namespace Request

variable {m : Machine} {r : Request} {p : Plan} {s t : Session}

namespace Cleared

variable {result : Except RunError Unit}

theorem current (h : Cleared r p s t result) : t.files.current = s.files.current := by
  cases h with
  | unreadable | dry | absent => rfl
  | blocked => exact (s.quiet_note _).current
  | removed => exact (s.quiet_note _).current

theorem quiet_of_error {e : RunError} (h : Cleared r p s t (.error e)) : s.Quiet t := by
  cases h with
  | unreadable => exact .refl s
  | blocked => exact s.quiet_note _

theorem quiet_of_dry (h : Cleared r p s t result) (hdry : r.dryRun = true) : s.Quiet t := by
  cases h with
  | unreadable | dry => exact .refl s
  | absent hwet | blocked hwet | removed hwet => rw [hdry] at hwet; cases hwet

/-- The log may be without a file afterwards, and it has no other one. -/
theorem log (h : Cleared r p s t result) : t.log.file? = none ∨ t.log.file? = s.log.file? := by
  cases h with
  | unreadable | dry | absent => exact .inr rfl
  | blocked => exact .inr (congrArg Log.file? (s.quiet_note _).log)
  | @removed _ place =>
    have hnote := congrArg Log.file? (s.quiet_note (.removingOutput p.file.text)).log
    rcases Log.file?_release place (s.note (.removingOutput p.file.text)).log with
      hnone | ⟨hsame, _⟩
    · exact .inl hnone
    · exact .inr (hsame.trans hnote)

/-- Nothing but the output is taken out. -/
theorem elsewhere (h : Cleared r p s t result) {l : Location} (hlog : s.log.file? ≠ some l)
    (hl : s.files.entryPlace p.file ≠ .ok l) :
    t.files.root.sightAt l = s.files.root.sightAt l := by
  cases h with
  | unreadable | dry | absent => rfl
  | blocked => exact (s.quiet_note _).sight l hlog
  | @removed _ place _ _ hplace hfile =>
    have hne : l ≠ place := by
      rintro rfl
      exact hl hplace
    exact (FileTree.sightAt_remove_of_ne (sightAt_ne_folder hfile _) hne).trans
      ((s.quiet_note _).sight l hlog)

/-- Where the path of the file to write leads afterwards is touched by the run. -/
theorem touches (h : Cleared r p s t (.ok ())) (hwet : r.dryRun = false) {l : Location}
    (hl : t.files.locate p.file = .ok l) : p.Touches s.files l := by
  cases h with
  | dry hdry => rw [hwet] at hdry; cases hdry
  | absent _ habsent => exact Plan.touches_of_locate hl habsent
  | removed _ _ hplace hfile =>
    have hplace' := ((s.quiet_note (.removingOutput p.file.text)).entryPlace_eq p.file).trans hplace
    obtain rfl := Files.eq_of_locate_remove (name_ne_of_file hplace hfile) hplace'
      (sightAt_ne_folder hfile _) hl
    exact .inl hplace

end Cleared

namespace Delivered

variable {module : Module} {made : Session} {result : Except RunError Outcome}

theorem current (h : Delivered r p module s t result) : t.files.current = s.files.current := by
  cases h with
  | dry | failed => rfl
  | @written l => exact ((s.write l module.text.toUTF8).quiet_note _).current

/-- Nothing but the output is written. -/
theorem elsewhere (h : Delivered r p module s t result)
    {l : Location} (hlog : s.log.file? ≠ some l)
    (hl : r.dryRun = false → s.files.locate p.file ≠ .ok l) :
    t.files.root.sightAt l = s.files.root.sightAt l := by
  cases h with
  | dry | failed => rfl
  | @written place hwet _ hplace =>
    obtain ⟨hlocate, hroom⟩ := Files.hasRoom_of_fileFor (p := p.file) rfl hplace
    have hne : l ≠ place := by
      rintro rfl
      exact hl hwet hlocate
    have hlog' : (s.write place module.text.toUTF8).log.file? ≠ some l := by
      unfold Session.write
      dsimp only
      split
      · exact hlog
      · rcases Log.file?_release place s.log with hnone | ⟨hsame, _⟩
        · simp [hnone]
        · rwa [hsame]
    have hnote := (s.write place module.text.toUTF8).quiet_note
      (.wrote module.entries.length p.file.text)
    exact (hnote.sight l hlog').trans (hroom.sightAt_put_of_ne _ hne)

/-- What is written is found afterwards, when there was nothing before. -/
theorem find (h : Delivered r p module s t (.ok outcome)) (hwet : r.dryRun = false)
    (habsent : ∀ e, s.files.find p.file ≠ .ok e) :
    outcome = ⟨module, p.file, true⟩ ∧
      t.files.find p.file = .ok (.file module.text.toUTF8) := by
  cases h with
  | dry hdry => rw [hwet] at hdry; cases hdry
  | @written place _ _ hplace =>
    obtain ⟨hlocate, hroom⟩ := Files.hasRoom_of_fileFor (p := p.file) rfl hplace
    have hnone := Files.at?_eq_none_of_find hlocate habsent
    have hat : (s.write place module.text.toUTF8).files.root.at? place =
        some (.file module.text.toUTF8) := hroom.at?_put _
    -- The file is not the one that the log is written to.
    have hlog : (s.write place module.text.toUTF8).log.file? ≠ some place := by
      simp only [Session.write, hnone, Option.isSome_none, Bool.false_eq_true, if_false]
      rcases Log.file?_release place s.log with hnone | ⟨hsame, hne⟩
      · simp [hnone]
      · rwa [hsame]
    have hnote := (s.write place module.text.toUTF8).quiet_note
      (.wrote module.entries.length p.file.text)
    have hsame : s.files.SameBut (· = place) (s.write place module.text.toUTF8).files := by
      refine ⟨rfl, fun l hl => hroom.sightAt_put_of_ne _ hl, ?_, ?_⟩
      · rintro l rfl
        exact .inl (FileTree.shapeAt_eq_none_iff.2 hnone)
      · rintro l rfl
        exact .inr (FileTree.shapeAt_of_at? hat)
    refine ⟨rfl, ?_⟩
    have hsight := hnote.sight place hlog
    rw [FileTree.sightAt, FileTree.sightAt, hat] at hsight
    obtain ⟨e, he, hfile⟩ := Option.map_eq_some_iff.1 hsight
    cases e with
    | folder | link => cases hfile
    | file bytes =>
      cases hfile
      exact Files.find_of_at? ((hnote.locate_eq p.file).trans (hsame.locate_ok_iff.1 hlocate)) he

end Delivered

namespace Goes

variable {result : Except RunError Outcome}

theorem current (h : Goes m r p s t result) : t.files.current = s.files.current := by
  cases h with
  | stopped hclear => exact hclear.current
  | failed hclear hmake => exact (quiet_of_make hmake).current.trans hclear.current
  | delivered hclear hmake hdeliver =>
    exact hdeliver.current.trans ((quiet_of_make hmake).current.trans hclear.current)

theorem quiet_of_dry (h : Goes m r p s t result) (hdry : r.dryRun = true) : s.Quiet t := by
  cases h with
  | stopped hclear => exact hclear.quiet_of_error
  | failed hclear hmake => exact (hclear.quiet_of_dry hdry).trans (quiet_of_make hmake)
  | delivered hclear hmake hdeliver =>
    cases hdeliver with
    | dry => exact (hclear.quiet_of_dry hdry).trans (quiet_of_make hmake)
    | failed hwet | written hwet => rw [hdry] at hwet; cases hwet

theorem elsewhere (h : Goes m r p s t result) {l : Location} (hlog : s.log.file? ≠ some l)
    (hl : ¬p.Touches s.files l) : t.files.root.sightAt l = s.files.root.sightAt l := by
  have hentry : s.files.entryPlace p.file ≠ .ok l := fun h => hl (.inl h)
  have hmade : ∀ {cleared made : Session} {x : Except RunError Module},
      Cleared r p s cleared (.ok ()) → r.make m p cleared = (made, x) →
        made.files.root.sightAt l = s.files.root.sightAt l ∧ made.log.file? ≠ some l ∧
          made.files.locate p.file = cleared.files.locate p.file := by
    intro cleared made x hclear hmake
    have hquiet := quiet_of_make hmake
    have hlog' : cleared.log.file? ≠ some l := by
      rcases hclear.log with hnone | hsame
      · simp [hnone]
      · rwa [hsame]
    exact ⟨(hquiet.sight l hlog').trans (hclear.elsewhere hlog hentry), by rwa [hquiet.log],
      hquiet.locate_eq p.file⟩
  cases h with
  | stopped hclear => exact hclear.elsewhere hlog hentry
  | failed hclear hmake => exact (hmade hclear hmake).1
  | delivered hclear hmake hdeliver =>
    obtain ⟨hsight, hlog', hlocate⟩ := hmade hclear hmake
    refine (hdeliver.elsewhere hlog' fun hwet hplace => ?_).trans hsight
    exact hl (hclear.touches hwet (hlocate ▸ hplace))

theorem blocked (h : Goes m r p s t result) (hwet : r.dryRun = false)
    (hblocked : p.IsBlocked s.files) :
    s.Quiet t ∧ result = .error (.path ⟨.isFolder, p.file.text⟩) := by
  obtain ⟨place, e, hplace, hfolder, hfind⟩ := hblocked
  have hstopped : ∀ {cleared : Session}, ¬Cleared r p s cleared (.ok ()) := by
    intro cleared hclear
    cases hclear with
    | dry hdry => rw [hwet] at hdry; cases hdry
    | absent _ habsent => exact habsent e hfind
    | removed _ _ hplace' hfile =>
      obtain rfl := Except.ok.inj (hplace.symm.trans hplace')
      exact hfile hfolder
  cases h with
  | stopped hclear =>
    refine ⟨hclear.quiet_of_error, ?_⟩
    cases hclear with
    | unreadable h =>
      rw [(Files.probe_eq_error_iff.1 h).1] at hfind
      cases hfind
    | blocked => rfl
  | failed hclear => exact absurd hclear hstopped
  | delivered hclear => exact absurd hclear hstopped

theorem absent_of_error {e : RunError} (h : Goes m r p s t (.error e)) (hwet : r.dryRun = false)
    (hfree : ¬p.IsBlocked s.files) (found : FileTree) : t.files.find p.file ≠ .ok found := by
  have hmade : ∀ {cleared made : Session} {x : Except RunError Module},
      Cleared r p s cleared (.ok ()) → r.make m p cleared = (made, x) →
        ∀ e, made.files.find p.file ≠ .ok e := by
    intro cleared made x hclear hmake
    exact ((quiet_of_make hmake).find_ne_ok_iff p.file).2 (hclear.absent_of_wet hwet)
  cases h with
  | stopped hclear =>
    cases hclear with
    | unreadable h =>
      rw [(Files.probe_eq_error_iff.1 h).1]
      exact nofun
    | @blocked e place _ hfind hplace hfolder =>
      exact absurd ⟨place, e, hplace, hfolder, hfind⟩ hfree
  | failed hclear hmake => exact hmade hclear hmake found
  | delivered hclear hmake hdeliver =>
    cases hdeliver with
    | failed => exact hmade hclear hmake found

theorem returned {outcome : Outcome} (h : Goes m r p s t (.ok outcome)) (hwet : r.dryRun = false) :
    outcome.file = p.file ∧ outcome.written = true ∧
      t.files.find p.file = .ok (.file outcome.module.text.toUTF8) ∧
      classMarker.toList <:+: outcome.module.text.toList := by
  cases h with
  | delivered hclear hmake hdeliver =>
    have hmarker := infix_of_make (congrArg Prod.snd hmake)
    have habsent := ((quiet_of_make hmake).find_ne_ok_iff p.file).2 (hclear.absent_of_wet hwet)
    obtain ⟨rfl, hfind⟩ := hdeliver.find hwet habsent
    exact ⟨rfl, rfl, hfind, hmarker⟩

end Goes

/-! ## A whole run in a session -/

section

variable (hplan : (r.plan m s).2 = .ok p)

include hplan

theorem goes : Goes m r p (r.plan m s).1 (r.run m s).1 (r.run m s).2 :=
  goes_of_plan (Prod.ext rfl hplan)

theorem run_elsewhere {l : Location} (hlog : s.log.file? ≠ some l) (hl : ¬p.Touches s.files l) :
    (r.run m s).1.files.root.sightAt l = s.files.root.sightAt l := by
  have hquiet := quiet_plan m r s
  have hlog' : (r.plan m s).1.log.file? ≠ some l := by rwa [hquiet.log]
  exact ((goes hplan).elsewhere hlog' (mt (Plan.touches_iff hquiet l).1 hl)).trans
    (hquiet.sight l hlog)

theorem run_blocked (hwet : r.dryRun = false) (hblocked : p.IsBlocked s.files) :
    s.Quiet (r.run m s).1 ∧ (r.run m s).2 = .error (.path ⟨.isFolder, p.file.text⟩) := by
  have hquiet := quiet_plan m r s
  obtain ⟨hafter, hresult⟩ := (goes hplan).blocked hwet ((Plan.isBlocked_iff hquiet).2 hblocked)
  exact ⟨hquiet.trans hafter, hresult⟩

theorem run_returned (hwet : r.dryRun = false) {outcome : Outcome}
    (hrun : (r.run m s).2 = .ok outcome) :
    outcome.file = p.file ∧ outcome.written = true ∧
      (r.run m s).1.files.find p.file = .ok (.file outcome.module.text.toUTF8) ∧
      classMarker.toList <:+: outcome.module.text.toList :=
  Goes.returned (hrun ▸ goes hplan) hwet

end

theorem run_unplanned {e : RunError} (hplan : (r.plan m s).2 = .error e) :
    s.Quiet (r.run m s).1 ∧ (r.run m s).2 = .error e := by
  rw [run_of_plan_error (Prod.ext rfl hplan)]
  exact ⟨quiet_plan m r s, rfl⟩

/-- What a run does to the files, whatever comes of it. Of two sessions that are `Quiet` the second
differs from the first in the file that the log is written to. -/
structure Effects (m : Machine) (r : Request) (s : Session) : Prop where
  current : (r.run m s).1.files.current = s.files.current
  /-- A dry run changes nothing. -/
  dry : r.dryRun = true → s.Quiet (r.run m s).1
  /-- Without folders and settings nothing is done. -/
  unplanned : ∀ e, (r.plan m s).2 = .error e →
    s.Quiet (r.run m s).1 ∧ (r.run m s).2 = .error e
  /-- Nothing but the output file is made, changed or taken away, nor what it leads to unless that
  is nothing. -/
  elsewhere : ∀ p, (r.plan m s).2 = .ok p → ∀ l, s.log.file? ≠ some l → ¬p.Touches s.files l →
    (r.run m s).1.files.root.sightAt l = s.files.root.sightAt l
  /-- A folder in the place of the output file stays. -/
  blocked : ∀ p, (r.plan m s).2 = .ok p → r.dryRun = false → p.IsBlocked s.files →
    s.Quiet (r.run m s).1 ∧ (r.run m s).2 = .error (.path ⟨.isFolder, p.file.text⟩)
  /-- After any other error there is no output file. -/
  failed : ∀ p, (r.plan m s).2 = .ok p → r.dryRun = false → ¬p.IsBlocked s.files →
    ∀ e, (r.run m s).2 = .error e → ∀ found, (r.run m s).1.files.find p.file ≠ .ok found
  /-- What is returned is what the output file holds. -/
  returned : ∀ p, (r.plan m s).2 = .ok p → r.dryRun = false →
    ∀ outcome, (r.run m s).2 = .ok outcome →
      outcome.file = p.file ∧ outcome.written = true ∧
        (r.run m s).1.files.find p.file = .ok (.file outcome.module.text.toUTF8) ∧
        classMarker.toList <:+: outcome.module.text.toList

/-- For every machine, every request and every session this is what a run does to the files. -/
theorem run_effects (m : Machine) (r : Request) (s : Session) : r.Effects m s := by
  have hquiet := quiet_plan m r s
  exact {
    current := by
      cases hplan : (r.plan m s).2 with
      | error e => exact (run_unplanned hplan).1.current
      | ok p => exact (goes hplan).current.trans hquiet.current
    dry := fun hdry => by
      cases hplan : (r.plan m s).2 with
      | error e => exact (run_unplanned hplan).1
      | ok p => exact hquiet.trans ((goes hplan).quiet_of_dry hdry)
    unplanned := fun e hplan => run_unplanned hplan
    elsewhere := fun p hplan l hlog hl => run_elsewhere hplan hlog hl
    blocked := fun p hplan hwet hblocked => run_blocked hplan hwet hblocked
    failed := fun p hplan hwet hfree e he =>
      Goes.absent_of_error (he ▸ goes hplan) hwet (mt (Plan.isBlocked_iff hquiet).1 hfree)
    returned := fun p hplan hwet outcome houtcome => run_returned hplan hwet houtcome }

end Request

namespace Sample

/-- A machine on which nothing is found in a source, nothing is set, and no template can be
filled. -/
def bareMachine : Machine where
  home? := fun _ => none
  parse := fun text => (.node (.other "compilation_unit") text true none 0 [], false)
  load := fun _ => .ok .null
  render := fun _ _ _ _ _ _ => .error ⟨.system, "no template"⟩
  walks := fun _ => true
  analyses := fun _ _ => true
  prints := fun _ => true
  collects := false

/-- A session among the entries of the root, with a log that goes to a file or to none. -/
def session (entries : List (String × FileTree)) (logFile : Option Location) : Session where
  files := ⟨.folder entries, []⟩
  log := .opened .info logFile
  clock := fun _ => "12:00"
  moment := 0
  out := ""
  err := ""

/-- An earlier run has left its output next to a note, and there is no folder of sources. -/
def leftover : Session :=
  session [("out", .folder [
    ("GeneratedMediatorRegistrations.cs", .file "// old".toUTF8),
    ("note.txt", .file "keep".toUTF8)])] none

/-- A machine on which settings name a folder of templates, and these give the class alone. -/
def terseMachine : Machine :=
  { bareMachine with
    load := fun _ => .ok (.mapping [("output", .mapping [("templates_dir", .text "t")])])
    render := fun _ _ _ _ _ _ => .ok classMarker }

/-- Settings and a template, and no sources. -/
def templated : List (String × FileTree) :=
  [(configName, .file "-".toUTF8), ("t", .folder [(templateName, .file .empty)])]

/-- A link that leads nowhere stands in the place of the output. -/
def looseLink : Session :=
  session [("src", .folder templated), ("out", .folder [
    ("GeneratedMediatorRegistrations.cs", .link ⟨"", ["other.cs"]⟩)])] none

/-- The log goes to a file. -/
def logged : Session :=
  session [("src", .folder templated), ("out", .folder []), ("run.log", .file .empty)]
    (some ["run.log"])

/-- From the folder `/src` into the folder `/out`. -/
def fromSources (dryRun : Bool) : Request where
  input := ⟨"/", ["src"]⟩
  output := ⟨"/", ["out"]⟩
  ns := "App"
  config := none
  dryRun := dryRun

end Sample

namespace Request

open Sample

/-- Not only the output file changes in a run: a link that leads nowhere stands in its place, and
the file that is made is another one. Not even a dry run changes nothing: the log is written to. -/
theorem run_changes_other_files :
    ((fromSources false).run terseMachine looseLink).2.isOk = true ∧
      (looseLink.files.root.at? ["out", "other.cs"]).isSome = false ∧
      (((fromSources false).run terseMachine looseLink).1.files.root.at?
        ["out", "other.cs"]).isSome = true ∧
      (logged.files.read ⟨"/", ["run.log"]⟩).toOption.map ByteArray.size = some 0 ∧
      (((fromSources true).run terseMachine logged).1.files.read
        ⟨"/", ["run.log"]⟩).toOption.map ByteArray.size ≠ some 0 := by
  decide +kernel

/-- The sources are missing, so that the run ends with an error; the old output is gone by then, and
the note is still there. -/
theorem run_effects_leftover :
    ((fromSources false).run bareMachine leftover).2 = .error (.input (.missing "/src")) ∧
      (∀ found, ((fromSources false).run bareMachine leftover).1.files.find
        ⟨"/", ["out", "GeneratedMediatorRegistrations.cs"]⟩ ≠ .ok found) ∧
      ((fromSources false).run bareMachine leftover).1.files.root.sightAt ["out", "note.txt"] =
        leftover.files.root.sightAt ["out", "note.txt"] := by
  have heffects := run_effects bareMachine (fromSources false) leftover
  have hplan : ((fromSources false).plan bareMachine leftover).2 =
      .ok ⟨["src"], ["out"], .default ["src"]⟩ := by rfl
  have hresult : ((fromSources false).run bareMachine leftover).2 =
      .error (.input (.missing "/src")) := by rfl
  have hplace : leftover.files.entryPlace
      (Plan.file ⟨["src"], ["out"], .default ["src"]⟩) =
        .ok ["out", "GeneratedMediatorRegistrations.cs"] := by rfl
  have hfile : leftover.files.root.shapeAt ["out", "GeneratedMediatorRegistrations.cs"] =
      some .file := by rfl
  refine ⟨hresult, heffects.failed _ hplan rfl ?_ _ hresult, ?_⟩
  · rintro ⟨place, _, hplace', hfolder, _⟩
    obtain rfl := Except.ok.inj (hplace.symm.trans hplace')
    rw [hfile] at hfolder
    cases hfolder
  · refine heffects.elsewhere _ hplan _ nofun ?_
    rintro (hentry | ⟨⟨place, target, hplace', hlink, _⟩, _⟩)
    · exact absurd (Except.ok.inj (hplace.symm.trans hentry)) (by decide)
    · obtain rfl := Except.ok.inj (hplace.symm.trans hplace')
      rw [hfile] at hlink
      cases hlink

end Request

end Registrar
