/-
The tokens of a settings text. Indentation shows in them: what is indented deeper stands between
the token that begins a block and `blockEnd`.
-/
namespace Registrar.Yaml

inductive Token where
  | version (major : Nat)
  /-- A tag handle and what it stands for. -/
  | tagHandle (handle expansion : String)
  | otherDirective
  | documentStart
  | documentEnd
  | flowSequenceStart
  | flowSequenceEnd
  | flowMappingStart
  | flowMappingEnd
  | flowEntry
  | blockSequenceStart
  | blockMappingStart
  | blockEntry
  | blockEnd
  /-- A key of a mapping follows. -/
  | key
  /-- A value of a mapping follows. -/
  | value
  | aliasTo (name : String)
  | anchor (name : String)
  | tag (handle : Option String) (suffix : String)
  /-- A scalar, and whether it stands there without quotes. -/
  | scalar (isPlain : Bool) (text : String)
  deriving DecidableEq, Repr

end Registrar.Yaml
