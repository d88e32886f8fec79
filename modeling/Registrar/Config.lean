/-
The settings of a run. They stand in a file, each of them optional: where the output goes, which
files are read, which contracts count, and what is left out.
-/
import Registrar.Machine
import Registrar.Text.LowerCase
import Registrar.Text.Utf8

namespace Registrar

/-- The name of the file with the settings. -/
def configName : String := ".handlergen.yml"

structure Config where
  /-- The folder of the file with the settings. -/
  root : Location
  outputName : String
  templates : Option Path
  extensions : List String
  contracts : ContractNames
  excluded : List String

/-- Why there are no settings. -/
inductive ConfigError where
  | path (e : PathError)
  | notText
  /-- The text in the file of the given name is not well-formed. -/
  | malformed (name message : String)
  | raised (e : Raised)
  | tooLong
  | notMapping
  | outputName
  deriving DecidableEq, Repr

namespace ConfigError

def message : ConfigError → String
  | path e => e.message
  | notText => "not valid UTF-8"
  | malformed name message => s!"Failed to parse {name}: {message}"
  | raised e => e.message
  | tooLong =>
    s!"Exceeds the limit ({mostDigits} digits) for integer string conversion; " ++
      "use sys.set_int_max_str_digits() to increase the limit"
  | notMapping => configName ++ " must contain a mapping at the root"
  | outputName => "output.file_name must be a bare file name"

/-- The error when the text in the file of the given name gives no value. -/
def ofRaised (name : String) (e : Raised) : ConfigError :=
  if e.kind = .malformed then malformed name e.message else raised e

end ConfigError

namespace Config

/-- The settings when nothing is set. -/
def default (root : Location) : Config where
  root := root
  outputName := "GeneratedMediatorRegistrations.cs"
  templates := none
  extensions := [".cs"]
  contracts := .default
  excluded := []

/-- A file extension in small letters, with its point. -/
def extension (s : String) : String :=
  let small := Text.lower (Text.trim s)
  if small.startsWith "." then small else "." ++ small

/-- Whether a text is the name of a file and no other path. -/
def isBareName (s : String) : Bool :=
  (Path.ofText s).name == s

/-- The settings among the entries of a mapping. -/
def ofEntries (root : Location) (entries : Section) : Except ConfigError Config := do
  let output := entries.inner "output"
  let sources := entries.inner "sources"
  let contracts := entries.inner "contracts"
  let start := default root
  let texts := fun (part : Section) key => (part.texts key).mapError fun _ => ConfigError.tooLong
  let names := fun key default => if contracts.has key then texts contracts key else .ok default
  let outputName ← (output.text? "file_name").mapError fun _ => .tooLong
  if !(outputName.all isBareName) then throw .outputName
  let templates ← (output.text? "templates_dir").mapError fun _ => .tooLong
  let extensions ← texts sources "extensions"
  let queries ← names "query" start.contracts.query
  let commands ← names "command" start.contracts.command
  let excluded ← texts entries "exclude_paths"
  return {
    root := root
    outputName := outputName.getD start.outputName
    templates := templates.map fun s => (Path.ofLocation root).join (.ofText s)
    extensions := if extensions.isEmpty then start.extensions else extensions.map extension
    contracts := ⟨queries, commands⟩
    excluded := excluded }

/-- The settings that a value gives. -/
def ofValue (root : Location) : Value → Except ConfigError Config
  | .mapping entries => ofEntries root entries
  | value => if value.isBlank then .ok (default root) else .error .notMapping

/-- The settings that a text holds; `name` is that of its file. -/
def ofText (m : Machine) (root : Location) (name text : String) : Except ConfigError Config :=
  if (Text.trim text).isEmpty then .ok (default root)
  else
    match m.load text with
    | .error e => .error (.ofRaised name e)
    | .ok value => ofValue root value

/-- The location of the settings that a path names: a file, or a folder with the file in it. -/
def locate (m : Machine) (fs : Files) (p : Path) : Except PathError Location := do
  let p ← m.expand p
  fs.place (if ← fs.isFolder p then p.child configName else p)

/-- The settings that a path names; when there are none, nothing is set. -/
def load (m : Machine) (fs : Files) (p : Path) : Except ConfigError Config := do
  let l ← (locate m fs p).mapError .path
  let root ← (fs.place (.ofLocation l.dropLast)).mapError .path
  let file := Path.ofLocation l
  match ← (fs.probe file).mapError .path with
  | none => return default root
  | some _ =>
    let bytes ← (fs.read file).mapError .path
    match Text.readLines? bytes with
    | none => throw .notText
    | some text => ofText m root file.name text

end Config

end Registrar
