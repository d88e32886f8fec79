/-
What a run remarks on while it works. A `Note` is one remark; its component, level and wording are
functions of it. `Noted ε α` is a computation that makes notes and ends with a value or an error.
-/
namespace Registrar

/-- The name of the program. -/
def programName : String := "handlergen"

/-- How much a remark matters, in rising order. -/
inductive Level where
  | debug | info | warning | error | critical
  deriving DecidableEq, Repr

namespace Level

def rank : Level → Nat
  | debug => 10
  | info => 20
  | warning => 30
  | error => 40
  | critical => 50

def label : Level → String
  | debug => "DEBUG"
  | info => "INFO"
  | warning => "WARNING"
  | error => "ERROR"
  | critical => "CRITICAL"

end Level

/-- The part of the program that makes a remark. -/
inductive Component where
  | orchestrator | scanner | parser | semantics | classifier
  deriving DecidableEq, Repr

def Component.label : Component → String
  | orchestrator => "orchestrator"
  | scanner => "source_scanner"
  | parser => "syntax"
  | semantics => "semantic"
  | classifier => "classifier"

/-- One remark. -/
inductive Note where
  | starting (folder ns : String)
  | removingOutput (file : String)
  | skippingFile (path reason : String)
  | found (count : Nat) (folder : String)
  | discovered (count : Nat)
  | brokenTree (path : String)
  | brokenTrees (paths : List String)
  | declaredTwice (name path : String) (line : Nat)
  | indexed (symbols units : Nat)
  | nameClash (name : String) (meanings : List String)
  | noSymbol (path : String) (line : Nat)
  | genericClass (name : String)
  | openContract (name : String)
  | contractArity (name contract : String) (count expected : Nat)
  | classified (count : Nat)
  | noHandlers (folder : String)
  | wrote (count : Nat) (file : String)
  deriving DecidableEq, Repr

namespace Note

def component : Note → Component
  | starting .. | removingOutput .. | discovered .. | brokenTrees .. | classified .. | noHandlers ..
  | wrote .. => .orchestrator
  | skippingFile .. | found .. => .scanner
  | brokenTree .. => .parser
  | declaredTwice .. | indexed .. | nameClash .. => .semantics
  | noSymbol .. | genericClass .. | openContract .. | contractArity .. => .classifier

def level : Note → Level
  | starting .. | wrote .. => .info
  | skippingFile .. | noHandlers .. => .warning
  | _ => .debug

def message : Note → String
  | starting folder ns => s!"Starting generation for {folder} (namespace={ns})"
  | removingOutput file => s!"Removing previous output {file}"
  | skippingFile path reason => s!"Skipping {path}: {reason}"
  | found count folder => s!"Scanner found {count} source files under {folder}"
  | discovered count => s!"Scanner discovered {count} source files"
  | brokenTree path => s!"Parsed {path} with syntax errors; keeping partial tree"
  | brokenTrees paths =>
    s!"{paths.length} files parsed with syntax errors: " ++ ", ".intercalate paths
  | declaredTwice name path line =>
    s!"Type {name} is declared more than once ({path}:{line}); treating as ambiguous"
  | indexed symbols units =>
    s!"Semantic environment indexed {symbols} symbols from {units} units"
  | nameClash name meanings => s!"Name {name} is ambiguous between " ++ ", ".intercalate meanings
  | noSymbol path line => s!"Skipping {path}:{line}; declared symbol could not be resolved"
  | genericClass name =>
    s!"Skipping {name}: generic classes cannot be registered as handlers"
  | openContract name =>
    s!"Skipping {name}: contract arguments are not closed over concrete types"
  | contractArity name contract count expected =>
    s!"Skipping {name}: {contract} contract bound with {count} type arguments, " ++
      s!"expected {expected}"
  | classified count => s!"Classified {count} handler classes"
  | noHandlers folder => s!"No query or command handlers found under {folder}"
  | wrote count file => s!"Wrote {count} registrations to {file}"

end Note

/-- A computation that makes notes, the first one in front, and ends with a value or an error. -/
structure Noted (ε α : Type) where
  notes : List Note
  result : Except ε α

namespace Noted

instance : Monad (Noted ε) where
  pure a := ⟨[], .ok a⟩
  bind x f := match x.result with
    | .ok a => ⟨x.notes ++ (f a).notes, (f a).result⟩
    | .error e => ⟨x.notes, .error e⟩

theorem bind_def (x : Noted ε α) (f : α → Noted ε β) :
    x >>= f = match x.result with
      | .ok a => ⟨x.notes ++ (f a).notes, (f a).result⟩
      | .error e => ⟨x.notes, .error e⟩ := rfl

instance : LawfulMonad (Noted ε) :=
  LawfulMonad.mk' (Noted ε)
    (by
      rintro α ⟨notes, result⟩
      cases result with
      | ok a => exact congrArg (Noted.mk · (.ok a)) (List.append_nil notes)
      | error e => rfl)
    (fun _ _ => rfl)
    (by
      rintro α β γ ⟨notes, result⟩ f g
      cases result with
      | error e => rfl
      | ok a =>
        simp only [bind_def]
        cases (f a).result <;> simp [List.append_assoc])

/-- Makes one note. -/
def note (n : Note) : Noted ε Unit := ⟨[n], .ok ()⟩

/-- Makes notes. -/
def noteAll (ns : List Note) : Noted ε Unit := ⟨ns, .ok ()⟩

/-- Ends with an error. -/
def fail (e : ε) : Noted ε α := ⟨[], .error e⟩

/-- Ends at once, without a note. -/
def ofExcept (x : Except ε α) : Noted ε α := ⟨[], x⟩

/-- Tells of an error in other terms. -/
def mapError (f : ε → δ) (x : Noted ε α) : Noted δ α := ⟨x.notes, x.result.mapError f⟩

@[simp] theorem result_pure (a : α) : (pure a : Noted ε α).result = .ok a := rfl

@[simp] theorem result_bind (x : Noted ε α) (f : α → Noted ε β) :
    (x >>= f).result = x.result >>= fun a => (f a).result := by
  cases h : x.result <;> simp [bind, Except.bind, h]

theorem result_bind_eq_ok {x : Noted ε α} {f : α → Noted ε β} {b : β} :
    (x >>= f).result = .ok b ↔ ∃ a, x.result = .ok a ∧ (f a).result = .ok b := by
  rw [result_bind]
  cases x.result <;> simp [bind, Except.bind]

/-- A computation that goes on from a known value has the outcome of what it goes on with. -/
theorem result_bind_of_ok {x : Noted ε α} {a : α} (h : x.result = .ok a) (f : α → Noted ε β) :
    (x >>= f).result = (f a).result := by
  rw [result_bind, h]
  rfl

@[simp] theorem result_note (n : Note) : (note n : Noted ε Unit).result = .ok () := rfl

@[simp] theorem result_noteAll (ns : List Note) : (noteAll ns : Noted ε Unit).result = .ok () := rfl

@[simp] theorem result_ofExcept (x : Except ε α) : (ofExcept x).result = x := rfl

@[simp] theorem result_mapError (f : ε → δ) (x : Noted ε α) :
    (x.mapError f).result = x.result.mapError f := rfl

@[simp] theorem result_fail (e : ε) : (fail e : Noted ε α).result = .error e := rfl

end Noted

end Registrar
