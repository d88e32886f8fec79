/-
Work in a session. A `Job` is given the session and leaves it behind with a value or an error. It is
made of steps that look at the session, steps that change it, and notes, which go to the log at
once.
-/
import Registrar.Session

namespace Registrar

def Job (ε α : Type) : Type := Session → Session × Except ε α

namespace Job

instance : Monad (Job ε) where
  pure a := fun s => (s, .ok a)
  bind x f := fun s =>
    match x s with
    | (after, .error e) => (after, .error e)
    | (after, .ok a) => f a after

/-- Learns something from the session. -/
def look (f : Session → Except ε α) : Job ε α := fun s => (s, f s)

/-- Changes the session. -/
def change (f : Session → Session) : Job ε Unit := fun s => (f s, .ok ())

/-- Ends with an error. -/
def fail (e : ε) : Job ε α := fun s => (s, .error e)

/-- Ends with an error unless something holds. -/
def ensure (holds : Bool) (e : ε) : Job ε Unit :=
  if holds then pure () else fail e

/-- Makes a note. -/
def note (n : Note) : Job ε Unit := change (·.note n)

/-- Learns something that is remarked on. -/
def noted (f : Session → Noted ε α) : Job ε α := fun s =>
  let made := f s
  (s.remark made.notes, made.result)

end Job

end Registrar
