/-
The names of the contracts that make a class a handler.
-/
namespace Registrar

/-- The qualified names of the contracts for queries and commands. -/
structure ContractNames where
  query : List String
  command : List String
  deriving DecidableEq, Repr

namespace ContractNames

/-- The contracts that hold when none are configured. -/
def default : ContractNames where
  query := ["Mediator.Interfaces.IQueryHandler", "Mediator.Interfaces.QueryHandler"]
  command := ["Mediator.Interfaces.ICommandHandler", "Mediator.Interfaces.CommandHandler"]

end ContractNames

end Registrar
