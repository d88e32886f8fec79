/-
Symbols: the identity of a declared type. All partial declarations of a type share one symbol, and
two types differ when their qualified names or their numbers of type parameters do.
-/
import Registrar.Declaration
import Registrar.Text.Quoted

namespace Registrar

/-- The identity of a type: its qualified name and how many type parameters it has. -/
structure SymbolKey where
  name : String
  arity : Int
  deriving DecidableEq, Repr, Inhabited

/-- A declared type, or a type from outside the sources. -/
structure Symbol where
  key : SymbolKey
  kind : TypeKind
  typeParameters : List String
  /-- In the order in which they were met. -/
  declarations : List TypeDeclaration
  /-- The type around it. -/
  containing : Option SymbolKey
  isReference : Bool
  isAmbiguous : Bool

namespace Symbol

/-- The name without namespace and enclosing types. -/
def simpleName (s : Symbol) : String :=
  Text.simpleName s.key.name

/-- The symbol in a debugging display. -/
def describe (s : Symbol) : String :=
  "TypeSymbol(" ++ Text.quoted s.key.name ++ s!", arity={s.key.arity}, kind=" ++
    Text.quoted s.kind.word ++ ")"

end Symbol

/-- A type that is known without being declared in the sources. -/
structure Reference where
  name : String
  arity : Int
  kind : TypeKind
  deriving DecidableEq, Repr

namespace Reference

/-- Type parameters are called `T`, or `T1`, `T2`, … when there are several. -/
def typeParameters (r : Reference) : List String :=
  if r.arity = 1 then ["T"] else (List.range r.arity.toNat).map fun i => s!"T{i + 1}"

def symbol (r : Reference) : Symbol where
  key := ⟨r.name, r.arity⟩
  kind := r.kind
  typeParameters := r.typeParameters
  declarations := []
  containing := none
  isReference := true
  isAmbiguous := false

/-- The names that are not blank, trimmed. -/
def contractNames (names : List String) : List String :=
  (names.map Text.trim).filter (!·.isEmpty)

/-- The contracts that handlers implement: queries take two type arguments, commands one. -/
def contracts (query command : List String) : List Reference :=
  (contractNames query).map (⟨·, 2, .class⟩) ++ (contractNames command).map (⟨·, 1, .class⟩)

end Reference

end Registrar
