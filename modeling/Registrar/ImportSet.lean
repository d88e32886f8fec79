/-
Ordered sets of using directives: trimmed texts, none of them empty or repeated, in the order in
which they were first seen. `unitImports` and `collectImports` gather the directives of units; a
global directive already holds everywhere and is left out.
-/
import Registrar.SourceUnit
import Registrar.Text.Quoted

namespace Registrar

namespace Text

theorem dropWhile_eq_self_of_head {p : Char → Bool} {cs : List Char}
    (h : ∀ c, cs.head? = some c → p c = false) : cs.dropWhile p = cs := by
  cases cs with
  | nil => rfl
  | cons c rest => simp [h c rfl]

theorem head?_dropWhile_not (p : Char → Bool) (cs : List Char) :
    ∀ c, (cs.dropWhile p).head? = some c → p c = false := by
  induction cs with
  | nil => simp
  | cons c rest ih =>
    by_cases h : p c = true
    · simpa [h] using ih
    · intro d hd
      simp only [Bool.not_eq_true] at h
      simp only [List.dropWhile_cons, h, Bool.false_eq_true, if_false, List.head?_cons,
        Option.some.injEq] at hd
      exact hd ▸ h

theorem trimStart_trimStart (cs : List Char) : trimStart (trimStart cs) = trimStart cs :=
  dropWhile_eq_self_of_head (head?_dropWhile_not isBlank cs)

theorem trimEnd_trimEnd (cs : List Char) : trimEnd (trimEnd cs) = trimEnd cs := by
  simp only [trimEnd, List.reverse_reverse]
  exact congrArg List.reverse (trimStart_trimStart cs.reverse)

theorem trimEnd_isPrefix (cs : List Char) : trimEnd cs <+: cs := by
  rw [← List.reverse_suffix, trimEnd, List.reverse_reverse]
  exact List.dropWhile_suffix isBlank

/-- Taking blanks off the end leaves the start as it is. -/
theorem trimStart_trimEnd_trimStart (cs : List Char) :
    trimStart (trimEnd (trimStart cs)) = trimEnd (trimStart cs) := by
  apply dropWhile_eq_self_of_head
  intro c hc
  apply head?_dropWhile_not isBlank cs
  obtain ⟨rest, h⟩ := trimEnd_isPrefix (trimStart cs)
  have : (trimEnd (trimStart cs) ++ rest).head? = some c := by simp [List.head?_append, hc]
  rwa [h] at this

theorem trim_trim (s : String) : trim (trim s) = trim s := by
  simp [trim, trimStart_trimEnd_trimStart, trimEnd_trimEnd]

end Text

/-- Directives in the order in which they were first seen. -/
structure ImportSet where
  items : List String
  trimmed : ∀ d ∈ items, Text.trim d = d ∧ d ≠ ""
  distinct : items.Nodup

namespace ImportSet

theorem nodup_eraseDups (xs : List String) : xs.eraseDups.Nodup := by
  induction h : xs.length using Nat.strongRecOn generalizing xs with
  | ind n ih =>
    cases xs with
    | nil => simp
    | cons x rest =>
      rw [List.eraseDups_cons, List.nodup_cons]
      have hlt : (rest.filter fun b => !b == x).length < n := by
        subst h
        exact Nat.lt_succ_of_le (List.length_filter_le _ _)
      refine ⟨?_, ih _ hlt _ rfl⟩
      intro hx
      rw [List.mem_eraseDups] at hx
      simp at hx

/-- The trimmed texts that are not blank, each once. -/
def itemsOf (directives : List String) : List String :=
  ((directives.map Text.trim).filter (· ≠ "")).eraseDups

def ofList (directives : List String) : ImportSet where
  items := itemsOf directives
  trimmed d h := by
    simp only [itemsOf, List.mem_eraseDups, List.mem_filter, List.mem_map, ne_eq,
      decide_not, Bool.not_eq_true', decide_eq_false_iff_not] at h
    obtain ⟨⟨raw, _, rfl⟩, hne⟩ := h
    exact ⟨Text.trim_trim raw, hne⟩
  distinct := nodup_eraseDups _

def empty : ImportSet := ofList []

/-- The set with further directives behind its own. -/
def union (s : ImportSet) (directives : List String) : ImportSet :=
  ofList (s.items ++ directives)

/-- The set without some directives. -/
def without (s : ImportSet) (directives : List String) : ImportSet :=
  ofList (s.items.filter fun item => !(directives.map Text.trim).contains item)

def size (s : ImportSet) : Nat :=
  s.items.length

/-- Whether a directive is in the set, whatever the blanks around it. -/
def contains (s : ImportSet) (directive : String) : Bool :=
  s.items.contains (Text.trim directive)

instance : BEq ImportSet where
  beq s t := s.items == t.items

/-- The set in a debugging display. -/
def describe (s : ImportSet) : String :=
  "ImportSet([" ++ ", ".intercalate (s.items.map Text.quoted) ++ "])"

end ImportSet

/-- The directives of one unit that are not global. -/
def unitImports (u : SourceUnit) : ImportSet :=
  .ofList ((u.directives.filter (!·.isGlobal)).map Directive.text)

/-- Adds the directives of units to a set; a path that was met before counts once. -/
def collectFrom (seen : List String) (imports : ImportSet) : List SourceUnit → ImportSet
  | [] => imports
  | u :: rest =>
    if seen.contains u.path then collectFrom seen imports rest
    else collectFrom (u.path :: seen) (imports.union (unitImports u).items) rest

/-- The directives of units behind those of a set, in the order in which they are first seen. -/
def collectImports (units : List SourceUnit) (start : ImportSet) : ImportSet :=
  collectFrom [] start units

end Registrar
