/-
A run. The settings are read, the output of an earlier run is taken away, the sources are scanned and
analysed, and the module is written. A dry run stops before it changes anything. `Request.make` is
the part in the middle, which only looks at the files.
-/
import Registrar.Config
import Registrar.Generation
import Registrar.Job
import Registrar.Sources.Scan

namespace Registrar

/-- What is asked of a run. -/
structure Request where
  input : Path
  output : Path
  ns : String
  /-- Where the settings are, when it is not in the input folder. -/
  config : Option Path
  dryRun : Bool

/-- What comes of a run: the module and its place. -/
structure Outcome where
  module : Module
  file : Path
  written : Bool

/-- Why a run ends without a module. -/
inductive RunError where
  | path (e : PathError)
  | settings (e : ConfigError)
  | input (e : ScanError)
  /-- The stack is too small for what there is to do. -/
  | stack
  | endlessAlias
  | template (e : Raised)
  | noMarker
  | noOutputFolder (folder : String)
  deriving DecidableEq, Repr

def RunError.message : RunError → String
  | path e => e.message
  | settings e => e.message
  | input e => e.message
  | stack => "folders or types lie too deep inside one another"
  | endlessAlias => "a using alias stands for a type that mentions it"
  | template e => e.message
  | noMarker => s!"Rendered module does not declare '{classMarker}'; nothing was written"
  | noOutputFolder folder => s!"Output folder not found: {folder}"

/-- The name of the file with an overriding template. -/
def templateName : String := "registrations.cs.j2"

/-- The template of a folder at some moment; without a file there it is the built-in one. -/
def Template.locate (m : Machine) (moment : Nat) (fs : Files) : Option Path → Template
  | none => .builtIn
  | some folder =>
    if fs.isFile (folder.child templateName) then .overriding (m.render moment fs folder)
    else .builtIn

/-- What a run has settled on before it begins: the input folder, the output folder and the
settings. -/
structure Plan where
  input : Location
  output : Location
  config : Config

namespace Plan

/-- The file that is written. -/
def file (p : Plan) : Path :=
  (Path.ofLocation p.output).child p.config.outputName

/-- What is scanned for. The output file is no source; where it is, is asked only when there is a
folder to scan. -/
def scan (p : Plan) (fs : Files) (input : Location) : Except PathError Scan := do
  let skipped ← if ← fs.isFolder (.ofLocation input) then (fs.place p.file).map ([·]) else .ok []
  return ⟨p.config.extensions, p.config.excluded, skipped⟩

end Plan

namespace Request

/-- The path of the settings, which names a file or the folder that it is in. -/
def settingsPath (r : Request) (input : Location) : Path :=
  r.config.getD ((Path.ofLocation input).child configName)

/-- Finds the folders of a run and reads its settings. -/
def plan (m : Machine) (r : Request) : Job RunError Plan := do
  let input ← Job.look fun s => (m.place s.files r.input).mapError .path
  let output ← Job.look fun s => (m.place s.files r.output).mapError .path
  Job.note (.starting input.text r.ns)
  let config ← Job.look fun s => (Config.load m s.files (r.settingsPath input)).mapError .settings
  return ⟨input, output, config⟩

/-- Takes the output of an earlier run away. A dry run leaves it. -/
def clear (r : Request) (p : Plan) : Job RunError Unit := do
  let old ← Job.look fun s => (s.files.probe p.file).mapError .path
  if old.isSome && !r.dryRun then
    Job.note (.removingOutput p.file.text)
    let l ← Job.look fun s =>
      (s.files.entryPlace p.file).mapError fun fault => .path ⟨fault, p.file.text⟩
    let isFolder ← Job.look fun s => .ok ((s.files.root.at? l).any FileTree.isFolder)
    Job.ensure (!isFolder) (.path ⟨.isFolder, p.file.text⟩)
    Job.change (·.remove l)

/-- The sources of a run. -/
def sources (m : Machine) (p : Plan) : Job RunError (List SourceFile) := do
  let input ← Job.look fun s => (s.files.place (.ofLocation p.input)).mapError .path
  let scan ← Job.look fun s => (p.scan s.files input).mapError .path
  let depth ← Job.look fun s => .ok (scan.depth s.files input)
  Job.ensure (m.walks depth) .stack
  Job.noted fun s =>
    (scan.runWith (fun notes => (s.remark notes).files) p.input.text input).mapError .input

/-- The module for the sources as they are. -/
def make (m : Machine) (r : Request) (p : Plan) : Job RunError Module := do
  let sources ← sources m p
  Job.note (.discovered sources.length)
  let units := sources.map m.unit
  Job.ensure (m.analyses units p.config.contracts) .stack
  let (entries, imports) ← Job.noted fun _ =>
    (registrations units p.config.contracts).mapError fun _ => .endlessAlias
  let module ← Job.look fun s =>
    let template := Template.locate m s.moment s.files p.config.templates
    (Module.ofEntries template r.ns entries imports).mapError .template
  Job.ensure (Module.declaresClass module.text) .noMarker
  if module.entries.isEmpty then
    Job.note (.noHandlers p.input.text)
  return module

/-- Writes a module into the output folder. A dry run does not. -/
def deliver (r : Request) (p : Plan) (module : Module) : Job RunError Outcome := do
  if r.dryRun then
    return ⟨module, p.file, false⟩
  let folder := Path.ofLocation p.output
  let isThere ← Job.look fun s => (s.files.isFolder folder).mapError .path
  Job.ensure isThere (.noOutputFolder folder.text)
  let l ← Job.look fun s => (s.files.fileFor p.file).mapError .path
  Job.change (·.write l module.text.toUTF8)
  Job.note (.wrote module.entries.length p.file.text)
  return ⟨module, p.file, true⟩

/-- The run that is asked for. -/
def run (m : Machine) (r : Request) : Job RunError Outcome := do
  let p ← r.plan m
  r.clear p
  let module ← r.make m p
  r.deliver p module

end Request

end Registrar
