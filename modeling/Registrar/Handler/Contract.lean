/-
The contracts that handlers implement, and the handlers of an environment. A class is a handler
when its chain of bases reaches a contract bound to closed types, as many as the contract takes.
-/
import Registrar.Semantics.BaseChain

namespace Registrar

/-- What a handler answers: queries have a result, commands have none. -/
inductive Contract where
  | query | command
  deriving DecidableEq, Repr

namespace Contract

def word : Contract → String
  | query => "query"
  | command => "command"

/-- How many type arguments the contract takes. -/
def arity : Contract → Nat
  | query => 2
  | command => 1

end Contract

/-- The contracts of a configuration as symbols of one environment, at every arity. -/
structure ContractSet where
  query : List SymbolKey
  command : List SymbolKey

namespace ContractSet

/-- The symbols that have one of the names. -/
def keysNamed (env : Environment) (names : List String) : List SymbolKey :=
  names.flatMap fun name => (env.table.named (Text.trim name)).map Symbol.key

def bind (env : Environment) (query command : List String) : ContractSet :=
  ⟨keysNamed env query, keysNamed env command⟩

/-- The contract that a symbol is; a query contract comes before a command contract. -/
def contract? (contracts : ContractSet) (key : SymbolKey) : Option Contract :=
  if contracts.query.contains key then some .query
  else if contracts.command.contains key then some .command
  else none

def isContract (contracts : ContractSet) (key : SymbolKey) : Bool :=
  (contracts.contract? key).isSome

end ContractSet

/-- A contract bound to the types that a handler is for. -/
inductive Handler where
  | query (request result : String)
  | command (request : String)
  deriving DecidableEq, Repr

namespace Handler

def contract : Handler → Contract
  | query .. => .query
  | command .. => .command

/-- The type that the handler answers. -/
def request : Handler → String
  | query q _ => q
  | command c => c

def typeArguments : Handler → List String
  | query q r => [q, r]
  | command c => [c]

/-- The interface under which a handler is registered. -/
def contractType : Handler → String
  | query q r => s!"IQueryHandler<{q}, {r}>"
  | command c => s!"ICommandHandler<{c}>"

/-- A contract bound to arguments, when there are as many as it takes. -/
def ofArguments? : Contract → List String → Option Handler
  | .query, [q, r] => some (query q r)
  | .command, [c] => some (command c)
  | _, _ => none

end Handler

/-- A class that will be registered. -/
structure Entry where
  handlerName : String
  handlerType : String
  handler : Handler
  unitPath : String
  deriving DecidableEq, Repr

namespace Entry

/-- The type that is registered: handlers are nested inside their request. -/
def registeredType (e : Entry) : String :=
  e.handler.request ++ "." ++ e.handlerName

end Entry

namespace Environment

/-- The base at which the search for a contract ends, when a search ends at one. -/
def contractBase? (contracts : ContractSet) (bases : List NamedType) :
    Option (Contract × NamedType) :=
  bases.getLast?.bind fun base => (contracts.contract? base.symbol).map (·, base)

/-- Whether the search for a contract ends behind a base: it is a contract or an interface. -/
def endsSearch (env : Environment) (contracts : ContractSet) (base : NamedType) : Bool :=
  contracts.isContract base.symbol || (env.table.get? base.symbol).any (·.kind == .interface)

/-- Whether a class or a type around it has type parameters. -/
def isGeneric (d : TypeDeclaration) : Bool :=
  !d.typeParameters.isEmpty || d.containers.any fun c => !c.typeParameters.isEmpty

/-- The handler that a contract reached with some arguments makes of the class `name`. -/
def bindContract (name : String) (contract : Contract) (base : NamedType) :
    Noted EndlessAlias (Option Handler) := do
  if base.arguments.any Ty.isOpen then
    Noted.note (.openContract name)
    return none
  match Handler.ofArguments? contract (base.arguments.map Ty.display) with
  | some handler => return some handler
  | none =>
    Noted.note (.contractArity name contract.word base.arguments.length contract.arity)
    return none

/-- What a class handles, if anything. -/
def classify (env : Environment) (contracts : ContractSet) (c : Candidate) :
    Noted EndlessAlias (Option Handler) := do
  match c.symbol with
  | none =>
    Noted.note (.noSymbol c.unit.path c.declaration.line)
    return none
  | some s =>
    if isGeneric c.declaration then
      Noted.note (.genericClass c.name)
      return none
    let bases ← env.basesAbove contracts.isContract (env.endsSearch contracts) maxChain [s.key]
      (declaredType s)
    match contractBase? contracts bases with
    | none => return none
    | some (contract, base) => bindContract c.name contract base

/-- The handlers among classes, in their order. -/
def handlersAmong (env : Environment) (contracts : ContractSet) :
    List Candidate → Noted EndlessAlias (List (Symbol × Entry))
  | [] => return []
  | c :: rest => do
    let handler ← env.classify contracts c
    let others ← handlersAmong env contracts rest
    match c.symbol, handler with
    | some s, some handler =>
      return (s, ⟨c.name, s.key.name, handler, c.unit.path⟩) :: others
    | _, _ => return others

/-- The handlers of an environment with their symbols. -/
def handlers (env : Environment) (contracts : ContractSet) :
    Noted EndlessAlias (List (Symbol × Entry)) :=
  env.handlersAmong contracts env.candidates

end Environment

end Registrar
