/-
Semantic types: what a written type means in its context. `display` writes a type, `substitute`
replaces type parameters, and `isOpen` tells whether one is left.
-/
import Registrar.Semantics.Symbol

namespace Registrar

/-- What a written type means. -/
inductive Ty where
  | named (symbol : SymbolKey) (arguments : List Ty)
  | param (name : String)
  | predefined (keyword : String)
  | array (element : Ty) (rank : Int)
  | nullable (inner : Ty)
  | tuple (elements : List (Ty × Option String))
  /-- A name that stands for no known type; it is displayed as written. -/
  | error (name : String) (arguments : List Ty)
  deriving Inhabited

/-- Which types stand for which type parameters; each name occurs once. -/
abbrev Bindings := List (String × Ty)

namespace Bindings

/-- Binds `name`; an earlier binding of it keeps its place. -/
def insert (bs : Bindings) (name : String) (t : Ty) : Bindings :=
  if bs.any (·.1 == name) then bs.map fun b => if b.1 == name then (name, t) else b
  else bs ++ [(name, t)]

/-- Binds parameters to arguments in order, as far as both go. A name given twice is bound to the
later argument. -/
def ofArguments (parameters : List String) (arguments : List Ty) : Bindings :=
  (parameters.zip arguments).foldl (fun bs b => bs.insert b.1 b.2) []

end Bindings

namespace Ty

/-- Type arguments in angle brackets, or nothing when there are none. -/
def angled (arguments : List String) : String :=
  if arguments.isEmpty then "" else "<" ++ ", ".intercalate arguments ++ ">"

mutual

/-- The type as generated code writes it. -/
def display : Ty → String
  | named symbol arguments => symbol.name ++ angled (displayAll arguments)
  | param name => name
  | predefined keyword => keyword
  | array element rank =>
    display element ++ "[" ++ String.ofList (List.replicate (rank - 1).toNat ',') ++ "]"
  | nullable inner => display inner ++ "?"
  | tuple elements => "(" ++ ", ".intercalate (displayElements elements) ++ ")"
  | error name arguments => name ++ angled (displayAll arguments)

def displayAll : List Ty → List String
  | [] => []
  | t :: rest => display t :: displayAll rest

def displayElements : List (Ty × Option String) → List String
  | [] => []
  | (t, name) :: rest =>
    (match name with
      | some name => if name.isEmpty then display t else display t ++ " " ++ name
      | none => display t) :: displayElements rest

end

mutual

/-- Replaces the type parameters that are bound. -/
def substitute (bs : Bindings) : Ty → Ty
  | named symbol arguments =>
    if bs.isEmpty then named symbol arguments else named symbol (substituteAll bs arguments)
  | param name => (bs.lookup name).getD (param name)
  | predefined keyword => predefined keyword
  | array element rank => array (substitute bs element) rank
  | nullable inner => nullable (substitute bs inner)
  | tuple elements => tuple (substituteElements bs elements)
  | error name arguments => error name (substituteAll bs arguments)

def substituteAll (bs : Bindings) : List Ty → List Ty
  | [] => []
  | t :: rest => substitute bs t :: substituteAll bs rest

def substituteElements (bs : Bindings) : List (Ty × Option String) → List (Ty × Option String)
  | [] => []
  | (t, name) :: rest => (substitute bs t, name) :: substituteElements bs rest

end

mutual

/-- Whether a type parameter occurs anywhere in the type. -/
def isOpen : Ty → Bool
  | named _ arguments => anyOpen arguments
  | param _ => true
  | predefined _ => false
  | array element _ => isOpen element
  | nullable inner => isOpen inner
  | tuple elements => anyOpenElement elements
  | error _ arguments => anyOpen arguments

def anyOpen : List Ty → Bool
  | [] => false
  | t :: rest => isOpen t || anyOpen rest

def anyOpenElement : List (Ty × Option String) → Bool
  | [] => false
  | (t, _) :: rest => isOpen t || anyOpenElement rest

end

theorem displayAll_eq_map (ts : List Ty) : displayAll ts = ts.map display := by
  induction ts with
  | nil => rfl
  | cons t rest ih => simp [displayAll, ih]

theorem substituteAll_eq_map (bs : Bindings) (ts : List Ty) :
    substituteAll bs ts = ts.map (substitute bs) := by
  induction ts with
  | nil => rfl
  | cons t rest ih => simp [substituteAll, ih]

theorem substituteElements_eq_map (bs : Bindings) (es : List (Ty × Option String)) :
    substituteElements bs es = es.map fun e => (substitute bs e.1, e.2) := by
  induction es with
  | nil => rfl
  | cons e rest ih => simp [substituteElements, ih]

theorem anyOpen_eq_any (ts : List Ty) : anyOpen ts = ts.any isOpen := by
  induction ts with
  | nil => rfl
  | cons t rest ih => simp [anyOpen, ih]

theorem anyOpenElement_eq_any (es : List (Ty × Option String)) :
    anyOpenElement es = es.any fun e => isOpen e.1 := by
  induction es with
  | nil => rfl
  | cons e rest ih => simp [anyOpenElement, ih]

end Ty

/-- A symbol with type arguments. -/
structure NamedType where
  symbol : SymbolKey
  arguments : List Ty
  deriving Inhabited

namespace NamedType

def toTy (t : NamedType) : Ty :=
  .named t.symbol t.arguments

def substitute (bs : Bindings) (t : NamedType) : NamedType :=
  if bs.isEmpty then t else ⟨t.symbol, t.arguments.map (Ty.substitute bs)⟩

theorem toTy_substitute (bs : Bindings) (t : NamedType) :
    (t.substitute bs).toTy = t.toTy.substitute bs := by
  unfold substitute toTy
  split <;> simp_all [Ty.substitute, Ty.substituteAll_eq_map]

end NamedType

end Registrar
