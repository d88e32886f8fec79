/-
How a command can end. Some errors of a run the program has no words for: the fault of a path that
the operating system does not refuse, settings that break off (`Config.Unread`), a stack that is too
small, a using alias that leads back to itself where a base has to be resolved, and most of what a
template raises (`Request.run_breaks_iff`). With a log file that cannot be opened and an outcome
that cannot be told these are all the ways in which a command does not end with a code of its own
(`Session.command_endings`).
-/
import Registrar.Proofs.Imports
import Registrar.Proofs.SettingsFaults

namespace Registrar

namespace Environment

variable {env : Environment} {contracts : ContractSet}

/-! ## Classes that cannot be classified -/

/-- On the way from a class along its bases there is a declaration whose first base entry leads to
an alias that leads back to itself. -/
def MeetsCycle (env : Environment) (contracts : ContractSet) (c : Candidate) : Prop :=
  ∃ s passed around d entry x, c.symbol = some s ∧ isGeneric c.declaration = false ∧
    env.SearchTrail contracts s passed ∧
    env.table.get? (passed.getLastD (declaredType s)).symbol = some around ∧
    around.isReference = false ∧ around.isAmbiguous = false ∧
    d ∈ env.tried contracts.isContract around.declarations ∧ d.bases.head? = some entry ∧
    env.LeadsTo d entry x ∧ env.OnCycle d x

theorem not_entryResolves_iff {d : TypeDeclaration} :
    ¬env.EntryResolves d ↔
      ∃ entry x, d.bases.head? = some entry ∧ env.LeadsTo d entry x ∧ env.OnCycle d x := by
  have hentry : ∀ entry, ¬(∃ t, (env.resolve d entry).result = .ok t) ↔
      ∃ x, env.LeadsTo d entry x ∧ env.OnCycle d x := by
    intro entry
    have h := resolveWithin_returns_iff (Nat.le_refl (env.aliasCount d)) entry
    exact (not_congr h).trans not_not
  simp only [EntryResolves, not_forall, hentry, exists_prop, exists_and_left]

/-- A class cannot be classified exactly when the way along its bases meets such an alias. -/
theorem classify_fails_iff {c : Candidate} :
    ¬(env.classify contracts c).Returns ↔ env.MeetsCycle contracts c := by
  rw [classify_returns_iff]
  constructor
  · intro h
    by_contra hnone
    refine h fun s passed hs hgeneric htrail => baseType_returns_iff.2 ?_
    intro around haround href hambiguous d hd
    by_contra hentry
    obtain ⟨entry, x, hfirst, hleads, hcycle⟩ := not_entryResolves_iff.1 hentry
    exact hnone ⟨s, passed, around, d, entry, x, hs, hgeneric, htrail, haround, href, hambiguous,
      hd, hfirst, hleads, hcycle⟩
  · rintro ⟨s, passed, around, d, entry, x, hs, hgeneric, htrail, haround, href, hambiguous, hd,
      hfirst, hleads, hcycle⟩ h
    have hresolves := baseType_returns_iff.1 (h s passed hs hgeneric htrail) around haround href
      hambiguous d hd
    exact not_entryResolves_iff.2 ⟨entry, x, hfirst, hleads, hcycle⟩ hresolves

end Environment

/-- No registrations are found exactly when a candidate cannot be classified. -/
theorem registrations_fails_iff (units : List SourceUnit) (names : ContractNames)
    (e : EndlessAlias) :
    (registrations units names).result = .error e ↔
      ∃ c ∈ (runEnvironment units names).candidates, (runEnvironment units names).MeetsCycle
        (.bind (runEnvironment units names) names.query names.command) c := by
  have hreturns : (registrations units names).Returns ↔
      ∀ c ∈ (runEnvironment units names).candidates, ((runEnvironment units names).classify
        (.bind (runEnvironment units names) names.query names.command) c).Returns := by
    constructor
    · rintro ⟨found, hfound⟩
      obtain ⟨handlers, hhandlers, _⟩ := registrations_eq_ok_iff.1 hfound
      exact Environment.classify_returns_of_handlersAmong ⟨handlers, hhandlers⟩
    · intro h
      exact ⟨_, registrations_eq_ok_iff.2 ⟨_, Environment.handlers_result h, rfl, rfl⟩⟩
  have hfails : (registrations units names).result = .error e ↔
      ¬(registrations units names).Returns := by
    unfold Noted.Returns
    cases (registrations units names).result <;> simp
  rw [hfails, hreturns]
  simp only [not_forall, exists_prop, Environment.classify_fails_iff]

/-! ## Sources that cannot be read -/

theorem Raised.report?_eq_none_iff {e : Raised} :
    e.report? = none ↔ e.kind ≠ .missing ∧ e.kind ≠ .system := by
  rw [report?]
  cases e.kind <;> simp

/-- Why a scan breaks off: a file to read is a link that leads back to itself, or has a path that
the operating system is not even asked for. -/
inductive Scan.Unreadable (s : Scan) (files : List Note → Files) (l : Location) : PathError → Prop
  | linkLoop {entries : List (String × FileTree)} {x : PathError}
      (hfolder : (files []).find (.ofLocation l) = .ok (.folder entries))
      (hloop : loop? (files []) l entries (s.met (files []) l entries) = some x) :
      Unreadable s files l x
  | unread {entries : List (String × FileTree)} {x : PathError}
      (hfolder : (files []).find (.ofLocation l) = .ok (.folder entries))
      (hlinks : loop? (files []) l entries (s.met (files []) l entries) = none)
      (hread : (readAll files l [] (s.found (files []) l entries)).result = .error (.path x))
      (hfault : x.fault.system? = none) : Unreadable s files l x

theorem Scan.fault_of_loop? {fs : Files} {l : Location} {entries : List (String × FileTree)}
    {met : List (List String)} {x : PathError} (h : loop? fs l entries met = some x) :
    x.fault = .linkLoop := by
  obtain ⟨names, -, hnames⟩ := List.exists_of_findSome?_eq_some h
  split at hnames
  · rw [Files.loopAt?] at hnames
    split at hnames
    · rw [← Option.some.inj hnames]
    · cases hnames
  · cases hnames

/-- A scan of a folder ends as the reading of its files, unless one of them is such a link. -/
theorem Scan.result_runWith (s : Scan) {files : List Note → Files} (shown : String) {l : Location}
    {entries : List (String × FileTree)}
    (h : (files []).find (.ofLocation l) = .ok (.folder entries)) :
    (s.runWith files shown l).result =
      match loop? (files []) l entries (s.met (files []) l entries) with
      | some x => .error (.path x)
      | none => (readAll files l [] (s.found (files []) l entries)).result := by
  rw [runWith, Files.probe_eq_some_iff.2 h]
  dsimp only
  cases loop? (files []) l entries (s.met (files []) l entries) with
  | some x => rfl
  | none =>
    dsimp only
    rw [Noted.result_bind]
    cases (readAll files l [] (s.found (files []) l entries)).result <;> rfl

theorem Scan.runWith_unreadable_iff {s : Scan} {files : List Note → Files} {shown : String}
    {l : Location} {e : ScanError} :
    (s.runWith files shown l).result = .error e ∧ (RunError.input e).report? = none ↔
      ∃ x, e = .path x ∧ s.Unreadable files l x := by
  have hreported : ∀ {x : PathError}, (RunError.input (.path x)).report? = none ↔
      x.fault.system? = none := PathError.report?_eq_none_iff
  constructor
  · rintro ⟨h, hreport⟩
    cases e with
    | missing | notFolder => cases hreport
    | path x =>
      rw [hreported] at hreport
      cases hprobe : (files []).probe (.ofLocation l) with
      | error x' =>
        rw [runWith, hprobe] at h
        cases h
        rw [(Files.probe_eq_error_iff.1 hprobe).2] at hreport
        cases hreport
      | ok found =>
        rcases found with _ | (_ | entries | _)
        case none | some.file | some.link =>
          rw [runWith, hprobe] at h
          cases h
        have hfolder := Files.probe_eq_some_iff.1 hprobe
        rw [s.result_runWith shown hfolder] at h
        refine ⟨x, rfl, ?_⟩
        split at h
        · next hloop =>
          cases h
          exact .linkLoop hfolder hloop
        · next hlinks => exact .unread hfolder hlinks h hreport
  · rintro ⟨x, rfl, h⟩
    rw [hreported]
    cases h with
    | linkLoop hfolder hloop =>
      rw [s.result_runWith shown hfolder, hloop, fault_of_loop? hloop]
      exact ⟨rfl, rfl⟩
    | unread hfolder hlinks hread hfault =>
      rw [s.result_runWith shown hfolder, hlinks]
      exact ⟨hread, hfault⟩

namespace Request

variable {m : Machine} {r : Request} {p : Plan} {s t : Session} {e : RunError}

/-- What is scanned for under a plan, and where. -/
structure Scans (p : Plan) (fs : Files) (input : Location) (scan : Scan) : Prop where
  place : fs.place (.ofLocation p.input) = .ok input
  scan : p.scan fs input = .ok scan

/-- Why there are no sources, in a way that the program has no words for. -/
inductive Unscanned (m : Machine) (p : Plan) (s : Session) : RunError → Prop
  | input {x : PathError} (h : s.files.Misplaced (.ofLocation p.input) x) :
      Unscanned m p s (.path x)
  | output {input : Location} {x : PathError}
      (hinput : s.files.place (.ofLocation p.input) = .ok input)
      (hfolder : s.files.isFolder (.ofLocation input) = .ok true)
      (h : s.files.Misplaced p.file x) : Unscanned m p s (.path x)
  | stack {input : Location} {scan : Scan} (hscan : Scans p s.files input scan)
      (hdeep : m.walks (scan.depth s.files input) = false) : Unscanned m p s .stack
  | source {input : Location} {scan : Scan} {x : PathError} (hscan : Scans p s.files input scan)
      (hwalks : m.walks (scan.depth s.files input) = true)
      (h : scan.Unreadable (fun notes => (s.remark notes).files) input x) :
      Unscanned m p s (.input (.path x))

theorem scan_eq_error_iff {fs : Files} {input : Location} {x : PathError} :
    p.scan fs input = .error x ↔
      fs.isFolder (.ofLocation input) = .error x ∨
        fs.isFolder (.ofLocation input) = .ok true ∧ fs.place p.file = .error x := by
  unfold Plan.scan
  cases hfolder : fs.isFolder (.ofLocation input) with
  | error x' => simp [bind, Except.bind]
  | ok isFolder =>
    cases isFolder with
    | false => simp [bind, Except.bind, pure, Except.pure]
    | true => cases fs.place p.file <;> simp [bind, Except.bind, pure, Except.pure, Except.map]

theorem sources_unscanned_iff :
    (sources m p s).2 = .error e ∧ e.report? = none ↔ Unscanned m p s e := by
  have hreported : ∀ {x : PathError}, (RunError.path x).report? = none ↔ x.fault.system? = none :=
    PathError.report?_eq_none_iff
  rw [sources_eq_error_iff]
  constructor
  · rintro ⟨⟨x, hinput, rfl⟩ | ⟨input, hinput, ⟨x, hscan, rfl⟩ | ⟨scan, hscan, h⟩⟩, hreport⟩
    · exact .input (Files.place_misplaced_iff.1 ⟨hinput, hreported.1 hreport⟩)
    · rcases scan_eq_error_iff.1 hscan with hisFolder | ⟨hfolder, hfile⟩
      · have hsystem := Files.system?_of_isFolder hisFolder
        rw [hreported.1 hreport] at hsystem
        cases hsystem
      · exact .output hinput hfolder (Files.place_misplaced_iff.1 ⟨hfile, hreported.1 hreport⟩)
    · rcases h with ⟨hdeep, rfl⟩ | ⟨hwalks, x, hrun, rfl⟩
      · exact .stack ⟨hinput, hscan⟩ hdeep
      · obtain ⟨x, rfl, h⟩ := Scan.runWith_unreadable_iff.1 ⟨hrun, hreport⟩
        exact .source ⟨hinput, hscan⟩ hwalks h
  · intro h
    cases h with
    | input h =>
      obtain ⟨hinput, hfault⟩ := Files.place_misplaced_iff.2 h
      exact ⟨.inl ⟨_, hinput, rfl⟩, hreported.2 hfault⟩
    | output hinput hfolder h =>
      obtain ⟨hfile, hfault⟩ := Files.place_misplaced_iff.2 h
      have hscan := scan_eq_error_iff.2 (.inr ⟨hfolder, hfile⟩)
      exact ⟨.inr ⟨_, hinput, .inl ⟨_, hscan, rfl⟩⟩, hreported.2 hfault⟩
    | stack hscan hdeep =>
      exact ⟨.inr ⟨_, hscan.place, .inr ⟨_, hscan.scan, .inl ⟨hdeep, rfl⟩⟩⟩, rfl⟩
    | source hscan hwalks h =>
      obtain ⟨hrun, hreport⟩ := Scan.runWith_unreadable_iff.2 ⟨_, rfl, h⟩
      exact ⟨.inr ⟨_, hscan.place, .inr ⟨_, hscan.scan, .inr ⟨hwalks, _, hrun, rfl⟩⟩⟩, hreport⟩

/-! ## Modules that are not made -/

/-- Why no module is made, in a way that the program has no words for: there are no sources, they
are too much for the stack, a candidate meets an alias that leads back to itself, or the template
raises what is no error of the operating system. -/
inductive Unmade (m : Machine) (r : Request) (p : Plan) (s : Session) : RunError → Prop
  | unscanned {e : RunError} (h : Unscanned m p s e) : Unmade m r p s e
  | stack {files : List SourceFile} (hsources : (sources m p s).2 = .ok files)
      (hlarge : m.analyses (files.map m.unit) p.config.contracts = false) : Unmade m r p s .stack
  | endlessAlias {files : List SourceFile} {candidate : Candidate} (hreads : Reads m p s files)
      (hcandidate : candidate ∈ (runEnvironment (files.map m.unit) p.config.contracts).candidates)
      (hmeets : (runEnvironment (files.map m.unit) p.config.contracts).MeetsCycle
        (.bind (runEnvironment (files.map m.unit) p.config.contracts) p.config.contracts.query
          p.config.contracts.command) candidate) :
      Unmade m r p s .endlessAlias
  | template {files : List SourceFile} {entries : List Entry} {imports : ImportSet}
      {folder : Path} {t : Session} {x : Raised} (hreads : Reads m p s files)
      (hfound : (registrations (files.map m.unit) p.config.contracts).result =
        .ok (entries, imports))
      (ht : t = analysed m p files (sources m p s).1) (hfolder : p.config.templates = some folder)
      (hfile : t.files.isFile (folder.child templateName) = true)
      (hrender : m.render t.moment t.files folder r.ns (imports.without frameworkImports).items
        entries = .error x)
      (hkind : x.kind ≠ .missing ∧ x.kind ≠ .system) : Unmade m r p s (.template x)

/-- Only another template raises an error. -/
theorem ofEntries_locate_eq_error_iff {moment : Nat} {fs : Files} {templates : Option Path}
    {ns : String} {entries : List Entry} {imports : ImportSet} {x : Raised} :
    Module.ofEntries (Template.locate m moment fs templates) ns entries imports = .error x ↔
      ∃ folder, templates = some folder ∧ fs.isFile (folder.child templateName) = true ∧
        m.render moment fs folder ns (imports.without frameworkImports).items entries =
          .error x := by
  cases templates with
  | none => simp [Template.locate, Module.ofEntries_builtIn]
  | some folder =>
    rw [Template.locate]
    cases hfile : fs.isFile (folder.child templateName) with
    | false => simp [Module.ofEntries_builtIn, hfile]
    | true =>
      simp only [if_true, Module.ofEntries, Template.render, Option.some.injEq, exists_eq_left',
        hfile, true_and]
      cases m.render moment fs folder ns (imports.without frameworkImports).items entries <;>
        simp [Except.map]

theorem make_of_unmade (h : r.Unmade m p s e) : (r.make m p s).2 = .error e := by
  rw [make_result]
  cases h with
  | unscanned h => rw [(sources_unscanned_iff.2 h).1]; rfl
  | stack hsources hlarge =>
    rw [hsources]
    dsimp only [bind, Except.bind]
    rw [hlarge]
    rfl
  | endlessAlias hreads hcandidate hmeets =>
    have hendless := (registrations_fails_iff _ _ .endlessAlias).2 ⟨_, hcandidate, hmeets⟩
    rw [hreads.sources]
    dsimp only [bind, Except.bind]
    rw [hreads.analyses, hendless]
    rfl
  | template hreads hfound ht hfolder hfile hrender =>
    subst ht
    have hmodule := ofEntries_locate_eq_error_iff.2 ⟨_, hfolder, hfile, hrender⟩
    rw [hreads.sources]
    dsimp only [bind, Except.bind]
    rw [hreads.analyses, if_pos rfl, hfound, mapError_ok]
    dsimp only
    rw [hmodule]
    rfl

theorem make_unmade_iff :
    (r.make m p s).2 = .error e ∧ e.report? = none ↔ r.Unmade m p s e := by
  constructor
  · rintro ⟨hmake, hreport⟩
    have hmade := made m r p s
    rw [hmake] at hmade
    cases hmade with
    | unscanned h => exact .unscanned (sources_unscanned_iff.1 ⟨h, hreport⟩)
    | stack hsources hlarge => exact .stack hsources hlarge
    | endlessAlias hreads h =>
      obtain ⟨candidate, hcandidate, hmeets⟩ := (registrations_fails_iff _ _ _).1 h
      exact .endlessAlias hreads hcandidate hmeets
    | template hreads hfound h =>
      obtain ⟨folder, hfolder, hfile, hrender⟩ := ofEntries_locate_eq_error_iff.1 h
      exact .template hreads hfound rfl hfolder hfile hrender
        (Raised.report?_eq_none_iff.1 hreport)
    | noMarker => cases hreport
  · intro h
    refine ⟨make_of_unmade h, ?_⟩
    cases h with
    | unscanned h => exact (sources_unscanned_iff.2 h).2
    | stack | endlessAlias => rfl
    | template _ _ _ _ _ _ hkind => exact Raised.report?_eq_none_iff.2 hkind

/-! ## Runs that break off -/

/-- The folders and the settings are found, and the old output has been seen to, which leaves the
session `cleared`. -/
structure Clears (m : Machine) (r : Request) (s : Session) (p : Plan) (cleared : Session) :
    Prop where
  plan : (r.plan m s).2 = .ok p
  clear : r.clear p (r.plan m s).1 = (cleared, .ok ())

/-- What a run breaks off for without a word. -/
inductive Breaks (m : Machine) (r : Request) (s : Session) : RunError → Prop
  | input {x : PathError} (h : m.Misled s.files r.input x) : Breaks m r s (.path x)
  | output {input : Location} {x : PathError} (hinput : m.place s.files r.input = .ok input)
      (h : m.Misled s.files r.output x) : Breaks m r s (.path x)
  | settings {input output : Location} {e : ConfigError}
      (hinput : m.place s.files r.input = .ok input)
      (houtput : m.place s.files r.output = .ok output)
      (h : Config.Unread m (s.note (.starting input.text r.ns)).files (r.settingsPath input) e) :
      Breaks m r s (.settings e)
  | unmade {p : Plan} {cleared : Session} {e : RunError} (hclears : r.Clears m s p cleared)
      (h : r.Unmade m p cleared e) : Breaks m r s e

theorem plan_breaks_iff :
    (r.plan m s).2 = .error e ∧ e.report? = none ↔
      (∃ x, e = .path x ∧ m.Misled s.files r.input x) ∨
        ∃ input, m.place s.files r.input = .ok input ∧
          ((∃ x, e = .path x ∧ m.Misled s.files r.output x) ∨
            (∃ output, m.place s.files r.output = .ok output) ∧ ∃ x, e = .settings x ∧
              Config.Unread m (s.note (.starting input.text r.ns)).files (r.settingsPath input)
                x) := by
  have hpath : ∀ {q : Path},
      (∃ x, m.place s.files q = .error x ∧ .path x = e) ∧ e.report? = none ↔
        ∃ x, e = .path x ∧ m.Misled s.files q x := by
    intro q
    constructor
    · rintro ⟨⟨x, hplace, rfl⟩, hreport⟩
      exact ⟨x, rfl, Machine.place_misled_iff.1 ⟨hplace, PathError.report?_eq_none_iff.1 hreport⟩⟩
    · rintro ⟨x, rfl, h⟩
      obtain ⟨hplace, hfault⟩ := Machine.place_misled_iff.2 h
      exact ⟨⟨x, hplace, rfl⟩, PathError.report?_eq_none_iff.2 hfault⟩
  have hsettings : ∀ {fs : Files} {q : Path},
      (∃ x, Config.load m fs q = .error x ∧ .settings x = e) ∧ e.report? = none ↔
        ∃ x, e = .settings x ∧ Config.Unread m fs q x := by
    intro fs q
    constructor
    · rintro ⟨⟨x, hload, rfl⟩, hreport⟩
      exact ⟨x, rfl, Config.unread_iff.1 ⟨hload, hreport⟩⟩
    · rintro ⟨x, rfl, h⟩
      obtain ⟨hload, hreport⟩ := Config.unread_iff.2 h
      exact ⟨⟨x, hload, rfl⟩, hreport⟩
  rw [plan_eq_error_iff, or_and_right, hpath, exists_and_right.symm]
  simp only [and_assoc, or_and_right, hpath, hsettings]

/-- What takes the old output out has words for its errors. -/
theorem clear_reported {p : Plan} {cleared : Session} (h : r.clear p s = (cleared, .error e)) :
    e.report? ≠ none := by
  have hcleared := Request.cleared r p s
  rw [h] at hcleared
  cases hcleared with
  | unreadable hprobe =>
    rw [(Files.probe_eq_error_iff.1 hprobe).2]
    exact nofun
  | blocked => exact nofun

/-- The name of the output has no null character in it when there are sources. -/
theorem hasNull_of_sources {files : List SourceFile} (h : (sources m p s).2 = .ok files) :
    p.file.hasNull = false := by
  obtain ⟨root, scan, entries, -, hscan, hfolder⟩ := exists_folder_of_sources h
  have hisFolder := Files.isFolder_eq_true_iff.2 ⟨entries, hfolder⟩
  rw [← Bool.not_eq_true]
  intro hnull
  have hplace : s.files.place p.file = .error ⟨.nullCharacter, p.file.text⟩ := by
    rw [Files.place, if_pos hnull]
  rw [scan_eq_error_iff.2 (.inr ⟨hisFolder, hplace⟩)] at hscan
  cases hscan

/-- What delivers a module has words for its errors. -/
theorem deliver_reported {made after : Session} {module : Module}
    (hmake : (r.make m p s).2 = .ok module) (h : r.deliver p module made = (after, .error e)) :
    e.report? ≠ none := by
  have hdelivered := delivered r p module made
  rw [h] at hdelivered
  cases hdelivered with
  | failed _ _ he =>
    cases he with
    | noFolder => exact nofun
    | @path x hx =>
      obtain ⟨files, hfiles⟩ := exists_sources_of_make hmake
      rw [hasNull_of_sources hfiles] at hx
      rw [ne_eq, RunError.report?, PathError.report?_eq_none_iff]
      intro hfault
      rw [hfault] at hx
      rcases hx with hx | hx <;> cases hx

theorem run_of_clears {p : Plan} {cleared : Session} (hclears : r.Clears m s p cleared)
    (hmake : (r.make m p cleared).2 = .error e) : (r.run m s).2 = .error e := by
  have hplan : r.plan m s = ((r.plan m s).1, .ok p) := Prod.ext rfl hclears.plan
  have hmake' : r.make m p cleared = ((r.make m p cleared).1, .error e) := Prod.ext rfl hmake
  rw [run, Job.bind_apply, hplan]
  dsimp only
  rw [Job.bind_apply, hclears.clear]
  dsimp only
  rw [Job.bind_apply, hmake']

/-- A run ends with an error that the program has no words for exactly when it breaks off for one of
these causes. -/
theorem run_breaks_iff :
    (r.run m s).2 = .error e ∧ e.report? = none ↔ r.Breaks m s e := by
  constructor
  · rintro ⟨hrun, hreport⟩
    rcases hplan : r.plan m s with ⟨planned, e' | p⟩
    · rw [run_of_plan_error hplan] at hrun
      obtain rfl : e' = e := Except.error.inj hrun
      rcases plan_breaks_iff.1 ⟨congrArg Prod.snd hplan, hreport⟩ with
        ⟨x, rfl, h⟩ | ⟨input, hinput, ⟨x, rfl, h⟩ | ⟨⟨output, houtput⟩, x, rfl, h⟩⟩
      · exact .input h
      · exact .output hinput h
      · exact .settings hinput houtput h
    · rw [run, Job.bind_apply, hplan] at hrun
      dsimp only at hrun
      rw [Job.bind_apply] at hrun
      rcases hclear : r.clear p planned with ⟨cleared, e' | _⟩
      · rw [hclear] at hrun
        obtain rfl : e' = e := Except.error.inj hrun
        exact absurd hreport (clear_reported hclear)
      rw [hclear] at hrun
      dsimp only at hrun
      have hclears : r.Clears m s p cleared :=
        ⟨congrArg Prod.snd hplan, by rw [hplan]; exact hclear⟩
      rw [Job.bind_apply] at hrun
      rcases hmake : r.make m p cleared with ⟨made, e' | module⟩
      · rw [hmake] at hrun
        obtain rfl : e' = e := Except.error.inj hrun
        exact .unmade hclears (make_unmade_iff.1 ⟨congrArg Prod.snd hmake, hreport⟩)
      · rw [hmake] at hrun
        exact absurd hreport (deliver_reported (congrArg Prod.snd hmake) (Prod.ext rfl hrun))
  · intro h
    have hplanned : ∀ {e : RunError}, (r.plan m s).2 = .error e → (r.run m s).2 = .error e :=
      fun hplan => by rw [run_of_plan_error (Prod.ext rfl hplan)]
    cases h with
    | input h =>
      obtain ⟨hplan, hreport⟩ := plan_breaks_iff.2 (.inl ⟨_, rfl, h⟩)
      exact ⟨hplanned hplan, hreport⟩
    | output hinput h =>
      obtain ⟨hplan, hreport⟩ := plan_breaks_iff.2 (.inr ⟨_, hinput, .inl ⟨_, rfl, h⟩⟩)
      exact ⟨hplanned hplan, hreport⟩
    | settings hinput houtput h =>
      obtain ⟨hplan, hreport⟩ :=
        plan_breaks_iff.2 (.inr ⟨_, hinput, .inr ⟨⟨_, houtput⟩, _, rfl, h⟩⟩)
      exact ⟨hplanned hplan, hreport⟩
    | unmade hclears h =>
      obtain ⟨hmake, hreport⟩ := make_unmade_iff.2 h
      exact ⟨run_of_clears hclears hmake, hreport⟩

end Request

/-! ## How a command ends -/

namespace Session

open CommandLine

variable {m : Machine} {s opened : Session} {a : Arguments}

/-- The log is set up as the arguments ask for, and leaves the session `opened`. -/
def Starts (s : Session) (a : Arguments) (opened : Session) : Prop :=
  s.openLog (if a.verbose then .debug else .info) a.logFile = (opened, .ok ())

/-- The log file that the arguments ask for cannot be opened: its path is seen from the current
folder, which is gone, or there is no file at it and none can be made. -/
def NoLog (s : Session) (a : Arguments) (e : PathError) : Prop :=
  ∃ p, a.logFile = some p ∧
    (p.anchor.isEmpty = true ∧ s.files.isHere = false ∧ ⟨.noCurrent, p.text⟩ = e ∨
      (p.anchor.isEmpty = true → s.files.isHere = true) ∧
        s.files.fileFor (.ofLocation (p.resolve s.files.current)) = .error e)

theorem noLog_iff {level : Level} {e : PathError} :
    (s.openLog level a.logFile).2 = .error e ↔ s.NoLog a e := by
  unfold NoLog
  cases a.logFile with
  | none => simp [openLog]
  | some p =>
    have hopen : (s.openLog level (some p)).2 =
        if p.anchor.isEmpty && !s.files.isHere then .error ⟨.noCurrent, p.text⟩
        else (s.files.fileFor (.ofLocation (p.resolve s.files.current))).map fun _ => () := by
      unfold openLog
      dsimp only
      split
      · rfl
      · cases s.files.fileFor (.ofLocation (p.resolve s.files.current)) <;> rfl
    have hmap : ∀ {x : Except PathError Location},
        x.map (fun _ => ()) = .error e ↔ x = .error e := by
      intro x
      cases x <;> simp [Except.map]
    rw [hopen]
    simp only [Option.some.injEq, exists_eq_left']
    generalize p.anchor.isEmpty = relative
    cases relative <;> cases s.files.isHere <;> simp [hmap]

/-- What came of a run cannot be told: the file that is written would be named as seen from the
current folder, which is gone, or the console has not all characters of the text. -/
def Untold (m : Machine) (s : Session) (outcome : Outcome) : Prop :=
  outcome.written = true ∧ s.files.isHere = false ∨
    ∃ text, s.told? outcome = some text ∧ m.prints text = false

theorem untold_iff {outcome : Outcome} :
    (s.told? outcome).filter m.prints = none ↔ s.Untold m outcome := by
  have hnone : s.told? outcome = none ↔ outcome.written = true ∧ s.files.isHere = false := by
    rw [told?]
    cases outcome.written <;> cases s.files.isHere <;> simp
  rw [Untold, ← hnone]
  cases s.told? outcome <;> simp

/-- With its log a generation ends as its run does. -/
theorem generate_of_starts (h : s.Starts a opened) :
    (s.generate m a).2 =
      match (a.request.run m opened).2 with
      | .ok outcome =>
        if ((a.request.run m opened).1.told? outcome).filter m.prints = none then .untold
        else .exit 0
      | .error e => if e.report? = none then .broken e else .exit 1 := by
  unfold generate
  rw [h]
  dsimp only
  rcases a.request.run m opened with ⟨t, e | outcome⟩
  · dsimp only
    cases e.report? <;> rfl
  · dsimp only
    cases (t.told? outcome).filter m.prints <;> rfl

theorem generate_of_noLog {e : PathError} (h : s.NoLog a e) : (s.generate m a).2 = .noLog e := by
  have hopen : s.openLog (if a.verbose then .debug else .info) a.logFile =
      ((s.openLog (if a.verbose then .debug else .info) a.logFile).1, .error e) :=
    Prod.ext rfl (noLog_iff.2 h)
  rw [generate, hopen]

/-- How a command ends: the words are wrong, they ask for help, a module is generated and told of,
the run fails with an error that is reported, it breaks off, its outcome cannot be told, or there is
no log. -/
inductive Ends (m : Machine) (s : Session) (words : List String) : Ending → Prop
  | usage {e : UsageError} (hread : read m.collects words = .error e) : Ends m s words (.exit 2)
  | help (hread : read m.collects words = .ok .help) : Ends m s words (.exit 0)
  | generated {a : Arguments} {opened after : Session} {outcome : Outcome}
      (hread : read m.collects words = .ok (.generate a)) (hstarts : s.Starts a opened)
      (hrun : a.request.run m opened = (after, .ok outcome)) (htold : ¬after.Untold m outcome) :
      Ends m s words (.exit 0)
  | reported {a : Arguments} {opened : Session} {e : RunError}
      (hread : read m.collects words = .ok (.generate a)) (hstarts : s.Starts a opened)
      (hrun : (a.request.run m opened).2 = .error e) (hwords : ¬a.request.Breaks m opened e) :
      Ends m s words (.exit 1)
  | broken {a : Arguments} {opened : Session} {e : RunError}
      (hread : read m.collects words = .ok (.generate a)) (hstarts : s.Starts a opened)
      (hbreaks : a.request.Breaks m opened e) : Ends m s words (.broken e)
  | untold {a : Arguments} {opened after : Session} {outcome : Outcome}
      (hread : read m.collects words = .ok (.generate a)) (hstarts : s.Starts a opened)
      (hrun : a.request.run m opened = (after, .ok outcome)) (huntold : after.Untold m outcome) :
      Ends m s words .untold
  | noLog {a : Arguments} {e : PathError} (hread : read m.collects words = .ok (.generate a))
      (hlog : s.NoLog a e) : Ends m s words (.noLog e)

theorem Ends.eq {words : List String} {ending : Ending} (h : s.Ends m words ending) :
    (s.command m words).2 = ending := by
  have hgenerate : ∀ {a : Arguments}, read m.collects words = .ok (.generate a) →
      s.command m words = s.generate m a := fun hread => by rw [command, hread]
  cases h with
  | usage hread => rw [command, hread]
  | help hread => rw [command, hread]
  | generated hread hstarts hrun htold =>
    rw [hgenerate hread, generate_of_starts hstarts, hrun]
    exact if_neg (mt untold_iff.1 htold)
  | reported hread hstarts hrun hwords =>
    rw [hgenerate hread, generate_of_starts hstarts, hrun]
    exact if_neg fun hreport => hwords (Request.run_breaks_iff.1 ⟨hrun, hreport⟩)
  | broken hread hstarts hbreaks =>
    obtain ⟨hrun, hreport⟩ := Request.run_breaks_iff.2 hbreaks
    rw [hgenerate hread, generate_of_starts hstarts, hrun]
    exact if_pos hreport
  | untold hread hstarts hrun huntold =>
    rw [hgenerate hread, generate_of_starts hstarts, hrun]
    exact if_pos (untold_iff.2 huntold)
  | noLog hread hlog => rw [hgenerate hread, generate_of_noLog hlog]

end Session

namespace Sample

end Sample

end Registrar
