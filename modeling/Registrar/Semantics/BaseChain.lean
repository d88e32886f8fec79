/-
The base of a type, and the chain of bases above it. Each declaration of a type offers the first
entry of its base list. The first offer that is no interface, or that is preferred, is the base;
failing that, the first offer that is a known type.
-/
import Registrar.Semantics.Resolve

namespace Registrar

namespace Environment

/-- The longest chain of bases that is followed. -/
def maxChain : Nat := 64

/-- Whether an offer is taken as the base without looking at further ones. -/
def isEligible (env : Environment) (prefer : SymbolKey → Bool) (offer : NamedType) : Bool :=
  prefer offer.symbol ||
    match env.table.get? offer.symbol with
    | some s => s.kind != .interface
    | none => true

/-- The known type that a declaration's first base entry means. -/
def baseOffer (env : Environment) (d : TypeDeclaration) : Noted EndlessAlias (Option NamedType) :=
  match d.bases with
  | [] => return none
  | entry :: _ => do
    match ← env.resolve d entry with
    | .named symbol arguments => return some ⟨symbol, arguments⟩
    | _ => return none

/-- The first eligible offer of the declarations, or else the first offer, `fallback` before all. -/
def chooseBase (env : Environment) (prefer : SymbolKey → Bool) (fallback : Option NamedType) :
    List TypeDeclaration → Noted EndlessAlias (Option NamedType)
  | [] => return fallback
  | d :: rest => do
    match ← env.baseOffer d with
    | some offer =>
      if env.isEligible prefer offer then return some offer
      else chooseBase env prefer (fallback <|> some offer) rest
    | none => chooseBase env prefer fallback rest

/-- The base of a type, in terms of its arguments. References and ambiguous types have none. -/
def baseType (env : Environment) (prefer : SymbolKey → Bool) (t : NamedType) :
    Noted EndlessAlias (Option NamedType) := do
  match env.table.get? t.symbol with
  | none => return none
  | some s =>
    if s.isReference || s.isAmbiguous then return none
    else
      let base ← env.chooseBase prefer none s.declarations
      return base.map (·.substitute (Bindings.ofArguments s.typeParameters t.arguments))

/-- A type with its own parameters as arguments. -/
def declaredType (s : Symbol) : NamedType :=
  ⟨s.key, s.typeParameters.map .param⟩

/-- The bases above `t`, at most `count` of them. The walk ends behind a base that `stop` accepts
and behind one whose symbol is among `visited`. -/
def basesAbove (env : Environment) (prefer : SymbolKey → Bool) (stop : NamedType → Bool) :
    (count : Nat) → (visited : List SymbolKey) → NamedType → Noted EndlessAlias (List NamedType)
  | 0, _, _ => return []
  | count + 1, visited, t => do
    match ← env.baseType prefer t with
    | none => return []
    | some base =>
      if stop base || visited.contains base.symbol then return [base]
      else return base :: (← basesAbove env prefer stop count (base.symbol :: visited) base)

/-- The chain of bases of a symbol, from the immediate base upwards. -/
def baseChain (env : Environment) (prefer : SymbolKey → Bool) (s : Symbol) :
    Noted EndlessAlias (List NamedType) :=
  env.basesAbove prefer (fun _ => false) maxChain [s.key] (declaredType s)

end Environment

end Registrar
