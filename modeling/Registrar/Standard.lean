/-
A machine to run the program on. The parts that the program calls are played by small ones of the
same kind: an outline of C#, a reader of settings, and templates in which nothing but the namespace
is filled in. Nothing that is proved of the program rests on them.
-/
import Registrar.CSharp.Outline
import Registrar.Run
import Registrar.Yaml.Load

namespace Registrar

/-! ## Settings -/

namespace Yaml

/-- What kind of error a fault is. -/
def Fault.kind : Fault → Raised.Kind
  | malformed => .malformed
  | noCharacter code => .other (if code < 0x80000000 then "ValueError" else "OverflowError")
  | emptyNumber => .other "IndexError"
  | notTruth _ => .other "KeyError"
  | tooManyParts => .other "OverflowError"
  | notMoment => .other "AttributeError"
  | _ => .other "ValueError"

namespace Document

/-- The value of a node, and of the nodes in it down to a depth. -/
def shown (d : Document) : (depth : Nat) → Yaml.Value → Registrar.Value
  | _, .null => .null
  | _, .truth b => .truth b
  | _, .int n => .int n
  | _, .float x => .float x
  | _, .text s => .text s
  | _, .bytes bs => .bytes bs
  | _, .moment => .other false
  | _, .group isEmpty => .other isEmpty
  | 0, .list items => .other items.isEmpty
  | 0, .mapping entries => .other entries.isEmpty
  | depth + 1, .list items =>
    .list (items.map fun n => d.shown depth ((d.value n).toOption.getD .null))
  | depth + 1, .mapping entries =>
    .mapping (entries.reverse.filterMap fun (k, v) =>
      match d.keyValue k with
      | .ok (.text key) => some (key, d.shown depth ((d.value v).toOption.getD .null))
      | _ => none)

end Document

/-- The value of a settings text, as deep as settings are looked into. -/
def settings (text : String) : Except Raised Registrar.Value :=
  match load text with
  | .ok (d, value) => .ok (d.shown 3 value)
  | .error fault => .error ⟨fault.kind, fault.message⟩

end Yaml

/-! ## Templates -/

namespace Template

/-- What follows a place for the namespace: the word between doubled braces, with blanks around
it. -/
def afterPlace? (cs : List Char) : Option (List Char) := do
  let inner ← ['\x7b', '\x7b'].isPrefixOf? cs
  let behind ← "namespace".toList.isPrefixOf? (Text.trimStart inner)
  ['\x7d', '\x7d'].isPrefixOf? (Text.trimStart behind)

/-- Fills the namespace in at each place for it; `skip` characters belong to a place that is
already filled. -/
def fillFrom (ns : List Char) : (skip : Nat) → List Char → List Char
  | _, [] => []
  | skip + 1, _ :: rest => fillFrom ns skip rest
  | 0, c :: rest =>
    match afterPlace? (c :: rest) with
    | some behind => ns ++ fillFrom ns (rest.length - behind.length) rest
    | none => c :: fillFrom ns 0 rest

def fill (ns text : String) : String :=
  String.ofList (fillFrom ns.toList 0 (Text.unifyLineEnds text.toList))

/-- The template in a folder, filled with the namespace. -/
def fillFile (fs : Files) (folder : Path) (ns : String) : Except Raised String :=
  match fs.read (folder.child templateName) with
  | .error e => .error ⟨.system, e.message⟩
  | .ok bytes =>
    match Text.readLines? bytes with
    | some text => .ok (fill ns text)
    | none => .error ⟨.other "UnicodeDecodeError", "not valid UTF-8"⟩

end Template

/-- The machine with the given home folder. -/
def Machine.standard (home : Option Path) (collects : Bool) : Machine where
  home? := fun word => if word = "~" then home else none
  parse := CSharp.parse
  load := Yaml.settings
  render := fun _ fs folder ns _ _ => Template.fillFile fs folder ns
  walks := fun _ => true
  analyses := fun _ _ => true
  prints := fun _ => true
  collects := collects

end Registrar
