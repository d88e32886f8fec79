/-
Errors of the parts that the program calls and does not contain, the reader of settings and the
renderer of templates.
-/
namespace Registrar

/-- What kind of error it is, as far as the program tells them apart. -/
inductive Raised.Kind where
  /-- The text of settings is not well-formed. -/
  | malformed
  /-- A file is missing, or there is no folder on the way to it. -/
  | missing
  /-- Another error of the operating system. -/
  | system
  | other (name : String)
  deriving DecidableEq, Repr

structure Raised where
  kind : Raised.Kind
  message : String
  deriving DecidableEq, Repr

end Registrar
