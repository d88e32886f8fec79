/-
Shell patterns. `*` stands for any characters, `?` for one, and brackets for one of a set; a
pattern matches a text as a whole, and upper and lower case differ.

In brackets, `!` in front negates the set, `]` in front is a member, and `a-z` is a range. A range
whose ends are in the wrong order has no members. Brackets that are never closed are plain text.
-/
namespace Registrar.Glob

/-- A member of a set: one character, or all between two. -/
inductive Member where
  | one (c : Char)
  | range (first last : Char)
  deriving DecidableEq, Repr

def Member.has (c : Char) : Member → Bool
  | one d => d == c
  | range first last => first ≤ c && c ≤ last

/-- A piece of a pattern. -/
inductive Piece where
  | star
  | any
  | literal (c : Char)
  | set (negated : Bool) (members : List Member)
  deriving DecidableEq, Repr

/-- Whether a piece other than a star matches the character. -/
def Piece.admits (c : Char) : Piece → Bool
  | star => false
  | any => true
  | literal d => d == c
  | set negated members => members.any (·.has c) != negated

/-! ## Sets -/

/-- The members that the text between brackets lists. -/
def members : List Char → List Member
  | [] => []
  | c :: '-' :: d :: rest => .range c d :: members rest
  | c :: rest => .one c :: members rest

/-- Whether a member is a range with its ends in the wrong order. -/
def Member.isEmpty : Member → Bool
  | one _ => false
  | range first last => last < first

/-- The set between brackets. A `!` in front is no start of a range; ranges without members are
dropped, and then what begins with `!` is negated. -/
def set (inside : List Char) : Piece :=
  let listed : List Member := match inside with
    | '!' :: rest => .one '!' :: members rest
    | _ => members inside
  match listed.filter (!·.isEmpty) with
  | .one '!' :: rest => .set true rest
  | .range '!' last :: rest => .set true (.one '-' :: .one last :: rest)
  | kept => .set false kept

/-- The text up to the first closing bracket, and what is behind it. -/
def beforeClose : List Char → Option (List Char × List Char)
  | [] => none
  | ']' :: rest => some ([], rest)
  | c :: rest => (beforeClose rest).map fun (inside, behind) => (c :: inside, behind)

/-- What stands between brackets, given the text behind the opening one, and what is behind the
closing one. -/
def bracketed : List Char → Option (List Char × List Char)
  | '!' :: ']' :: rest =>
    (beforeClose rest).map fun (inside, behind) => ('!' :: ']' :: inside, behind)
  | '!' :: rest => (beforeClose rest).map fun (inside, behind) => ('!' :: inside, behind)
  | ']' :: rest => (beforeClose rest).map fun (inside, behind) => (']' :: inside, behind)
  | cs => beforeClose cs

theorem beforeClose_length {cs inside behind : List Char}
    (h : beforeClose cs = some (inside, behind)) : behind.length < cs.length := by
  induction cs generalizing inside with
  | nil => simp [beforeClose] at h
  | cons c rest ih =>
    rw [beforeClose.eq_def] at h
    split at h
    · simp at *
    · rename_i heq
      cases heq
      simp only [Option.some.injEq, Prod.mk.injEq] at h
      simp [h.2]
    · rename_i heq
      cases heq
      simp only [Option.map_eq_some_iff, Prod.exists, Prod.mk.injEq] at h
      obtain ⟨_, _, h, _, rfl⟩ := h
      exact Nat.lt_succ_of_lt (ih h)

theorem bracketed_length {cs inside behind : List Char}
    (h : bracketed cs = some (inside, behind)) : behind.length < cs.length := by
  unfold bracketed at h
  split at h
  all_goals first
    | exact beforeClose_length h
    | simp only [Option.map_eq_some_iff, Prod.exists, Prod.mk.injEq] at h
      obtain ⟨_, _, h, _, rfl⟩ := h
      have := beforeClose_length h
      simp only [List.length_cons]
      omega

/-! ## Patterns -/

/-- The pieces of a pattern. -/
def pieces : List Char → List Piece
  | [] => []
  | '*' :: rest => .star :: pieces rest
  | '?' :: rest => .any :: pieces rest
  | '[' :: rest =>
    match h : bracketed rest with
    | some (inside, behind) =>
      have := bracketed_length h
      set inside :: pieces behind
    | none => .literal '[' :: pieces rest
  | c :: rest => .literal c :: pieces rest
termination_by cs => cs.length

/-- What is left of a text behind each of its places, all of it first. -/
def suffixes : List Char → List (List Char)
  | [] => [[]]
  | c :: cs => (c :: cs) :: suffixes cs

/-- Whether the pieces, one after the other, match the whole text. -/
def accepts : List Piece → List Char → Bool
  | [], cs => cs.isEmpty
  | .star :: rest, cs => (suffixes cs).any (accepts rest)
  | _ :: _, [] => false
  | piece :: rest, c :: cs => piece.admits c && accepts rest cs

/-! ## Matching

All suffixes of a text are matched at once, against the last piece first, so that the work grows
with the length of the pattern times that of the text. -/

/-- For each place in a list, whether something from there on is true. -/
def orLater : List Bool → List Bool
  | [] => []
  | b :: bs =>
    let later := orLater bs
    (b || later.headD false) :: later

/-- For each suffix of a text, whether its first character is admitted and what is behind it is
matched; `bs` tells for each suffix whether it is. -/
def admitsThen (piece : Piece) : List Char → List Bool → List Bool
  | [], _ => [false]
  | c :: cs, bs => (piece.admits c && bs.tail.headD false) :: admitsThen piece cs bs.tail

/-- For each suffix of a text, all of it first, whether the pieces match it. -/
def acceptedSuffixes : List Piece → List Char → List Bool
  | [], cs => (suffixes cs).map List.isEmpty
  | .star :: rest, cs => orLater (acceptedSuffixes rest cs)
  | piece :: rest, cs => admitsThen piece cs (acceptedSuffixes rest cs)

@[simp] theorem headD_map_suffixes (f : List Char → Bool) (cs : List Char) (b : Bool) :
    ((suffixes cs).map f).headD b = f cs := by
  cases cs <;> rfl

theorem orLater_map_suffixes (f : List Char → Bool) (cs : List Char) :
    orLater ((suffixes cs).map f) = (suffixes cs).map fun s => (suffixes s).any f := by
  induction cs with
  | nil => simp [suffixes, orLater]
  | cons c cs ih =>
    simp only [suffixes, List.map_cons, orLater, ih, headD_map_suffixes, List.any_cons]

theorem admitsThen_map_suffixes (piece : Piece) (f g : List Char → Bool) (cs : List Char)
    (nil : f [] = false) (cons : ∀ c cs, f (c :: cs) = (piece.admits c && g cs)) :
    admitsThen piece cs ((suffixes cs).map g) = (suffixes cs).map f := by
  induction cs with
  | nil => simp [suffixes, admitsThen, nil]
  | cons c cs ih =>
    simp only [suffixes, List.map_cons, admitsThen, List.tail_cons, headD_map_suffixes, ih, cons]

/-- A suffix is accepted exactly if the pieces match it. -/
theorem acceptedSuffixes_eq_map (ps : List Piece) (cs : List Char) :
    acceptedSuffixes ps cs = (suffixes cs).map (accepts ps) := by
  induction ps with
  | nil => rfl
  | cons piece rest ih =>
    cases piece
    case star => rw [acceptedSuffixes, ih, orLater_map_suffixes]; rfl
    all_goals
      rw [acceptedSuffixes, ih]
      · exact admitsThen_map_suffixes _ _ _ cs rfl fun _ _ => rfl
      · exact nofun

end Registrar.Glob

namespace Registrar

/-- Whether a shell pattern matches a text. -/
def globMatches (pattern text : String) : Bool :=
  (Glob.acceptedSuffixes (Glob.pieces pattern.toList) text.toList).headD false

theorem globMatches_eq_accepts (pattern text : String) :
    globMatches pattern text = Glob.accepts (Glob.pieces pattern.toList) text.toList := by
  rw [globMatches, Glob.acceptedSuffixes_eq_map, Glob.headD_map_suffixes]

end Registrar
