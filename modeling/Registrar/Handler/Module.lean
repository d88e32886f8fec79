/-
The registration module that is generated from the handlers. `Template.builtIn` is the text with one
statement per handler; of an overriding template only what rendering it gives is known.
-/
import Registrar.Handler.Contract
import Registrar.ImportSet
import Registrar.Raised

namespace Registrar

/-- The directives that every generated module starts with. -/
def frameworkImports : List String :=
  ["using VContainer;", "using Mediator.Interfaces;"]

/-- The class that holds the registrations. -/
def registrationClass : String :=
  "VContainerCustomMediatorRegistration"

/-- The declaration that a generated module must contain. -/
def classMarker : String :=
  "public static class " ++ registrationClass

/-- What a module is generated from. -/
inductive Template where
  | builtIn
  /-- Another template, which is filled with a namespace, directives and entries. -/
  | overriding (fill : String → List String → List Entry → Except Raised String)

/-- A generated module. -/
structure Module where
  ns : String
  imports : ImportSet
  entries : List Entry
  text : String

namespace Template

/-- The statement that registers one handler. -/
def statement (e : Entry) : String :=
  "           builder\n" ++
    "              .Register<" ++ e.registeredType ++ ">(Lifetime.Transient)\n" ++
    "              .As(typeof(" ++ e.handler.contractType ++ "));\n"

/-- The built-in template filled in. -/
def standardText (ns : String) (imports : List String) (entries : List Entry) : String :=
  " // *** GENERATED ***\n" ++
    String.join (frameworkImports.map (· ++ "\n")) ++
    "\n".intercalate imports ++ "\n\n" ++
    "namespace " ++ ns ++ "\n\x7b\n" ++
    "    " ++ classMarker ++ "\n    \x7b\n" ++
    "        public static void RegisterMediatorHandlers(this IContainerBuilder builder)\n" ++
    "        \x7b\n" ++
    String.join (entries.map statement) ++
    "\n        \x7d\n    \x7d\n\x7d\n"

/-- The template filled in. -/
def render (template : Template) (ns : String) (imports : List String) (entries : List Entry) :
    Except Raised String :=
  match template with
  | builtIn => .ok (standardText ns imports entries)
  | overriding fill => fill ns imports entries

end Template

namespace Module

/-- The module for entries and imports; the framework's directives are not repeated. -/
def ofEntries (template : Template) (ns : String) (entries : List Entry) (imports : ImportSet) :
    Except Raised Module :=
  let imports := imports.without frameworkImports
  (template.render ns imports.items entries).map fun text => ⟨ns, imports, entries, text⟩

/-- The module from the built-in template. -/
def builtIn (ns : String) (entries : List Entry) (imports : ImportSet) : Module :=
  let imports := imports.without frameworkImports
  ⟨ns, imports, entries, Template.standardText ns imports.items entries⟩

@[simp] theorem ofEntries_builtIn (ns : String) (entries : List Entry) (imports : ImportSet) :
    ofEntries .builtIn ns entries imports = .ok (builtIn ns entries imports) := rfl

/-- Whether a text holds another one. -/
def holds (part : List Char) : List Char → Bool
  | [] => part.isEmpty
  | c :: rest => part.isPrefixOf (c :: rest) || holds part rest

/-- Whether a text declares the registration class. -/
def declaresClass (text : String) : Bool :=
  holds classMarker.toList text.toList

end Module

end Registrar
