/-
Dotted names. `qualify` puts a name behind a namespace, `extend` does so for a name that may be
empty, and `enclosing` lists a namespace with all that enclose it, the innermost first and the
global namespace `""` last.
-/
namespace Registrar.Text

/-- `name` as a member of the namespace `ns`; the global namespace is empty. -/
def qualify (ns name : String) : String :=
  if ns.isEmpty then name else ns ++ "." ++ name

/-- The namespace `name` inside `ns`; an empty name is `ns` itself. -/
def extend (ns name : String) : String :=
  if name.isEmpty then ns else qualify ns name

/-- Two members of one namespace with the same qualified name have the same name. -/
theorem eq_of_qualify_eq {ns name other : String} (h : qualify ns name = qualify ns other) :
    name = other := by
  unfold qualify at h
  split at h
  · exact h
  · exact (String.append_right_inj _).1 h

theorem eq_of_intercalate_concat_eq {separator name other : String} {names : List String}
    (h : separator.intercalate (names ++ [name]) = separator.intercalate (names ++ [other])) :
    name = other := by
  by_cases hnames : names = []
  · subst hnames
    simpa using h
  · rw [String.intercalate_append_of_ne_nil hnames (by simp),
      String.intercalate_append_of_ne_nil hnames (by simp), String.append_right_inj] at h
    simpa using h

/-- The characters after the last dot. -/
def lastPart (cs : List Char) : List Char :=
  (cs.reverse.takeWhile (· ≠ '.')).reverse

/-- The characters before the last dot, or none of them when there is no dot. -/
def beforeLastDot (cs : List Char) : List Char :=
  ((cs.reverse.dropWhile (· ≠ '.')).drop 1).reverse

/-- The simple name at the end of a dotted name. -/
def simpleName (s : String) : String :=
  String.ofList (lastPart s.toList)

theorem length_dropWhile_le (p : Char → Bool) (cs : List Char) :
    (cs.dropWhile p).length ≤ cs.length := by
  induction cs with
  | nil => exact Nat.le_refl _
  | cons c cs ih =>
    simp only [List.dropWhile_cons]
    split
    · exact Nat.le_succ_of_le ih
    · exact Nat.le_refl _

theorem beforeLastDot_length_lt (c : Char) (cs : List Char) :
    (beforeLastDot (c :: cs)).length < (c :: cs).length := by
  simp only [beforeLastDot, List.length_reverse, List.length_drop]
  have h := length_dropWhile_le (· ≠ '.') (c :: cs).reverse
  simp only [List.length_reverse, List.length_cons] at h ⊢
  omega

/-- A namespace and those that enclose it, as characters, without the global one. -/
def enclosingParts : List Char → List (List Char)
  | [] => []
  | c :: cs => (c :: cs) :: enclosingParts (beforeLastDot (c :: cs))
termination_by cs => cs.length
decreasing_by exact beforeLastDot_length_lt c cs

/-- A namespace and those that enclose it, innermost first; the global namespace comes last. -/
def enclosing (ns : String) : List String :=
  (enclosingParts ns.toList).map String.ofList ++ [""]

end Registrar.Text
