/-
What the program finds on the machine that it runs on: the home folders, and the parts that it calls
without containing them, which read C#, read settings and render templates. What is proved of the
program holds for all machines.
-/
import Registrar.Contracts
import Registrar.Files.Lookup
import Registrar.Handler.Contract
import Registrar.Raised
import Registrar.Value

namespace Registrar

structure Machine where
  /-- The home folder that a word with a tilde in front stands for. -/
  home? : String → Option Path
  /-- The syntax tree of a text, and whether the text departs from the grammar. -/
  parse : String → Tree.Node × Bool
  /-- The value that a settings text is read as. -/
  load : String → Except Raised Value
  /-- The text that the template in a folder gives for a namespace, directives and entries. A
  template may take in other files, and give another text at another moment; it changes no file. -/
  render : (moment : Nat) → Files → (folder : Path) → (ns : String) → (imports : List String) →
    List Entry → Except Raised String
  /-- Whether the stack is large enough to walk through folders nested so deep. -/
  walks : (depth : Nat) → Bool
  /-- Whether the stack is large enough to analyse units. -/
  analyses : List SourceUnit → ContractNames → Bool
  /-- Whether the console has all characters of a text. -/
  prints : String → Bool
  /-- Whether a letter that calls no flag, behind one that does, is put with the unknown words. It
  ends the reading of the command line otherwise. -/
  collects : Bool

namespace Machine

/-- The unit that a source file is read as. -/
def unit (m : Machine) (file : SourceFile) : SourceUnit :=
  ⟨file.path, (m.parse file.text).1, (m.parse file.text).2⟩

/-- A path with a home folder for the tilde in front. -/
def expand (m : Machine) (p : Path) : Except PathError Path :=
  match p.anchor.isEmpty, p.names with
  | true, name :: rest =>
    if name.toList.head? = some '~' then
      match m.home? name with
      | some home => .ok ⟨home.anchor, home.names ++ rest⟩
      | none => .error ⟨.noHome, p.text⟩
    else .ok p
  | _, _ => .ok p

/-- The location of a path that is given from outside. -/
def place (m : Machine) (fs : Files) (p : Path) : Except PathError Location := do
  fs.place (← m.expand p)

end Machine

end Registrar
