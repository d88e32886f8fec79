/-
The table of symbols. `declare` adds one declaration: the first one of a name and arity makes the
symbol, in the place of a reference of that name and arity if there is one; each further one joins
it, and leaves it ambiguous unless all of them are partial parts of one kind.
-/
import Registrar.Semantics.Symbol
import Registrar.Note

namespace Registrar

namespace TypeDeclaration

/-- The symbol that a declaration belongs to, when it and the types around it have names. -/
def key? (d : TypeDeclaration) : Option SymbolKey :=
  d.qualifiedName?.map (⟨·, d.arity⟩)

/-- The symbol of the type directly around a declaration. -/
def containingKey? (d : TypeDeclaration) : Option SymbolKey :=
  match d.containers with
  | [] => none
  | c :: rest =>
    (Registrar.qualifiedName? c.name rest c.ns).map (⟨·, c.typeParameters.length⟩)

end TypeDeclaration

namespace Symbol

/-- The symbol that its first declaration makes. -/
def ofDeclaration (key : SymbolKey) (d : TypeDeclaration) : Symbol where
  key := key
  kind := d.kind
  typeParameters := d.typeParameters
  declarations := [d]
  containing := d.containingKey?
  isReference := false
  isAmbiguous := false

/-- Whether a further declaration is one more part of the same type. -/
def admits (s : Symbol) (d : TypeDeclaration) : Bool :=
  d.isPartial && s.kind == d.kind && s.declarations.all (·.isPartial)

/-- The symbol with one more declaration. -/
def join (s : Symbol) (d : TypeDeclaration) : Symbol :=
  { s with
    declarations := s.declarations ++ [d]
    isAmbiguous := s.isAmbiguous || !s.admits d }

end Symbol

/-- Symbols under their keys, in the order in which the keys were first met. -/
structure SymbolTable where
  symbols : List Symbol

namespace SymbolTable

def empty : SymbolTable := ⟨[]⟩

/-- The symbol under a key. -/
def get? (t : SymbolTable) (key : SymbolKey) : Option Symbol :=
  t.symbols.find? (·.key == key)

/-- Puts a symbol under its key: in the place of the one that is there, or at the end. -/
def insert (t : SymbolTable) (s : Symbol) : SymbolTable :=
  ⟨if t.symbols.any (·.key == s.key) then
    t.symbols.map fun other => if other.key == s.key then s else other
  else t.symbols ++ [s]⟩

/-- The symbols of a name, whatever their arity, in the order of the table. -/
def named (t : SymbolTable) (name : String) : List Symbol :=
  t.symbols.filter (·.key.name == name)

/-- The table with one more declaration; one without a name changes nothing. -/
def declare (t : SymbolTable) (d : TypeDeclaration) : SymbolTable :=
  match d.key? with
  | none => t
  | some key =>
    match t.get? key with
    | some s => t.insert (if s.isReference then .ofDeclaration key d else s.join d)
    | none => t.insert (.ofDeclaration key d)

/-- What is remarked when a declaration is added: that it makes its symbol ambiguous. -/
def remarks (t : SymbolTable) (d : TypeDeclaration) : List Note :=
  match d.key? with
  | none => []
  | some key =>
    match t.get? key with
    | some s =>
      if !s.isReference && !s.admits d && !s.isAmbiguous then
        [.declaredTwice key.name d.unitPath d.line]
      else []
    | none => []

/-- A table of references. -/
def ofReferences (references : List Reference) : SymbolTable :=
  references.foldl (fun t r => t.insert r.symbol) empty

/-- Adds declarations one after the other. -/
def declareAll (t : SymbolTable) (ds : List TypeDeclaration) : SymbolTable :=
  ds.foldl declare t

/-- All that is remarked while declarations are added one after the other. -/
def allRemarks (t : SymbolTable) : List TypeDeclaration → List Note
  | [] => []
  | d :: rest => t.remarks d ++ (t.declare d).allRemarks rest

/-- A symbol is found under its key right after it is put there. -/
theorem get?_insert_self (t : SymbolTable) (s : Symbol) : (t.insert s).get? s.key = some s := by
  obtain ⟨symbols⟩ := t
  unfold insert get?
  split
  · rename_i h
    induction symbols with
    | nil => simp at h
    | cons other rest ih =>
      by_cases hk : other.key = s.key
      · simp [hk]
      · have hk' : (other.key == s.key) = false := by simpa using hk
        simp only [List.any_cons, hk', Bool.false_or] at h
        simpa [hk] using ih h
  · rename_i h
    rw [List.find?_append]
    have : symbols.find? (·.key == s.key) = none := by
      rw [List.find?_eq_none]
      intro x hx hxk
      exact h (List.any_eq_true.2 ⟨x, hx, hxk⟩)
    simp [this]

theorem get?_insert_other (t : SymbolTable) (s : Symbol) {key : SymbolKey} (h : key ≠ s.key) :
    (t.insert s).get? key = t.get? key := by
  obtain ⟨symbols⟩ := t
  unfold insert get?
  have hne : (s.key == key) = false := by simpa using fun e => h e.symm
  split
  · rename_i hany
    clear hany
    induction symbols with
    | nil => rfl
    | cons other rest ih =>
      by_cases hk : other.key = s.key
      · have : (other.key == key) = false := by rw [hk]; exact hne
        simpa [hk, hne] using ih
      · by_cases hkey : other.key = key
        · subst hkey; simp [hk]
        · have hok : (other.key == key) = false := by simpa using hkey
          simpa [hk, hok] using ih
  · rw [List.find?_append]
    cases symbols.find? (·.key == key) <;> simp [hne]

end SymbolTable

end Registrar
