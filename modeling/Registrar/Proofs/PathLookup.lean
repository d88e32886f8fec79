/-
Where names lead. Following them asks at each name only what kind of entry there is (`walk_cons`),
and goes on from where the names before it lead (`follow_append`). So they lead to the same place in
trees with the same kinds of entries (`follow_congr`), in trees that differ in files only
(`SameBut.follow`), and, where they lead to something at all, in a tree that has more entries
(`Within.follow`). Without links they lead where they say (`LinkFree.follow`).
-/
import Registrar.Files.Lookup
import Registrar.Proofs.Places

namespace Registrar

namespace Path

/-! ## Locations of paths -/

theorem follow_of_plain {above names : List String} (h : ".." ∉ names) :
    follow above names = names.reverse ++ above := by
  induction names generalizing above with
  | nil => rfl
  | cons name rest ih =>
    rw [List.mem_cons, not_or] at h
    rw [follow, if_neg (Ne.symm h.1), ih h.2, List.reverse_cons, List.append_assoc,
      List.singleton_append]

theorem follow_append (above names others : List String) :
    follow above (names ++ others) = follow (follow above names) others := by
  induction names generalizing above with
  | nil => rfl
  | cons name rest ih =>
    rw [List.cons_append, follow, follow]
    split <;> exact ih _

theorem not_mem_follow {above : List String} (h : ".." ∉ above) (names : List String) :
    ".." ∉ follow above names := by
  induction names generalizing above with
  | nil => exact h
  | cons name rest ih =>
    rw [follow]
    split
    · exact ih fun hmem => h (List.mem_of_mem_tail hmem)
    · next hname => exact ih (by simpa [Ne.symm hname] using h)

/-- Resolving leaves no double dots behind. -/
theorem not_mem_resolve {base : Location} (h : ".." ∉ base) (p : Path) :
    ".." ∉ p.resolve base := by
  rw [resolve, List.mem_reverse]
  refine not_mem_follow ?_ p.names
  rw [start]
  split
  · simpa using h
  · exact List.not_mem_nil

end Path

namespace FileTree

variable {t t' : FileTree} {above : List String}

/-! ## One name after the other -/

/-- Going on by a name asks what kind of entry there is so far, and what kind there is under the
name. -/
theorem walk_cons (t : FileTree) (above : List String) (name : String) (rest : List String) :
    t.walk above (name :: rest) =
      match t.shapeAt above.reverse with
      | none => .error .noEntry
      | some .file | some (.link _) => .error .notFolder
      | some .folder =>
        if name = ".." then t.walk above.tail rest
        else if 255 < name.utf8ByteSize then .error .nameTooLong
        else match t.shapeAt (name :: above).reverse with
          | none => if rest.isEmpty then .ok (.arrived (name :: above)) else .error .noEntry
          | some (.link target) => .ok (.link (target.start above) (target.names ++ rest))
          | some .folder | some .file => t.walk (name :: above) rest := by
  rw [walk.eq_def]
  dsimp only
  cases hat : t.at? above.reverse with
  | none => rw [shapeAt_eq_none_iff.2 hat]
  | some e =>
    rw [shapeAt_of_at? hat]
    cases e with
    | file | link => rfl
    | folder entries =>
      have hname : t.at? (name :: above).reverse = entries.lookup name := by
        rw [List.reverse_cons, at?_append, hat, Option.bind_some, at?]
        cases entries.lookup name <;> rfl
      dsimp only [sight, Sight.shape]
      cases hentry : entries.lookup name with
      | none => rw [shapeAt_eq_none_iff.2 (hname.trans hentry)]
      | some e =>
        rw [shapeAt_of_at? (hname.trans hentry)]
        cases e <;> rfl

/-- Names alone lead astray in three ways. -/
theorem walk_error {names : List String} {fault : PathFault}
    (h : t.walk above names = .error fault) :
    fault = .noEntry ∨ fault = .notFolder ∨ fault = .nameTooLong := by
  induction names generalizing above with
  | nil => cases h
  | cons name rest ih =>
    rw [walk_cons] at h
    rcases hshape : t.shapeAt above.reverse with _ | (_ | _ | _) <;> rw [hshape] at h
    case none => cases h; exact .inl rfl
    case some.file | some.link => cases h; exact .inr (.inl rfl)
    dsimp only at h
    split at h
    · exact ih h
    split at h
    · cases h; exact .inr (.inr rfl)
    rcases hname : t.shapeAt (name :: above).reverse with _ | (_ | _ | _) <;> rw [hname] at h
    case none =>
      dsimp only at h
      split at h
      · cases h
      · cases h; exact .inl rfl
    case some.link => cases h
    case some.folder | some.file => exact ih h

theorem follow_eq (t : FileTree) (links : Nat) (above names : List String) :
    t.follow links above names =
      match t.walk above names with
      | .error fault => .error fault
      | .ok (.arrived above) => .ok (above, links)
      | .ok (.link above names) =>
        match links with
        | 0 => .error .tooManyLinks
        | links + 1 => t.follow links above names :=
  (follow.eq_def t links above names).trans (by rfl)

/-- What is wrong with names in a tree, the operating system has words for. -/
theorem system?_of_follow {links : Nat} {names : List String} {fault : PathFault}
    (h : t.follow links above names = .error fault) : fault.system?.isSome = true := by
  induction links generalizing above names with
  | zero =>
    rw [follow_eq] at h
    split at h
    · next hwalk =>
      cases h
      rcases walk_error hwalk with rfl | rfl | rfl <;> rfl
    · cases h
    · cases h; rfl
  | succ links ih =>
    rw [follow_eq] at h
    split at h
    · next hwalk =>
      cases h
      rcases walk_error hwalk with rfl | rfl | rfl <;> rfl
    · cases h
    · exact ih h

/-- From where the first names lead, the others are followed, also when there is a link on the
way. -/
theorem walk_append (t : FileTree) (above names others : List String) :
    t.walk above (names ++ others) =
      match t.walk above names with
      | .error fault => .error fault
      | .ok (.arrived above) => t.walk above others
      | .ok (.link above names) => .ok (.link above (names ++ others)) := by
  induction names generalizing above with
  | nil => rfl
  | cons name rest ih =>
    rw [List.cons_append, walk_cons, walk_cons]
    cases hhere : t.shapeAt above.reverse with
    | none => rfl
    | some here =>
      cases here with
      | file | link => rfl
      | folder =>
        dsimp only
        by_cases hdots : name = ".."
        · rw [if_pos hdots, if_pos hdots, ih]
        by_cases hlong : 255 < name.utf8ByteSize
        · simp only [if_neg hdots, if_pos hlong]
        simp only [if_neg hdots, if_neg hlong]
        cases hnext : t.shapeAt (name :: above).reverse with
        | some next =>
          cases next with
          | link target => simp only [List.append_assoc]
          | folder | file => exact ih (name :: above)
        | none =>
          -- Behind a name that nothing stands under, there is nothing to follow.
          cases rest with
          | cons => rfl
          | nil =>
            cases others with
            | nil => rfl
            | cons other others =>
              have hother : t.walk (name :: above) (other :: others) = .error .noEntry := by
                rw [walk_cons, hnext]
              exact hother.symm

theorem follow_append (t : FileTree) (links : Nat) (above names others : List String) :
    t.follow links above (names ++ others) =
      match t.follow links above names with
      | .error fault => .error fault
      | .ok (above, links) => t.follow links above others := by
  induction links generalizing above names with
  | zero =>
    rw [follow_eq, walk_append, follow_eq t 0 above names]
    cases t.walk above names with
    | error fault => rfl
    | ok walked =>
      cases walked with
      | arrived above => exact (follow_eq t 0 above others).symm
      | link above names => rfl
  | succ links ih =>
    rw [follow_eq, walk_append, follow_eq t (links + 1) above names]
    cases t.walk above names with
    | error fault => rfl
    | ok walked =>
      cases walked with
      | arrived above => exact (follow_eq t (links + 1) above others).symm
      | link above names => exact ih above names

/-- Names are followed from a folder. -/
theorem shapeAt_of_follow_cons {links : Nat} {name : String} {rest : List String}
    {found : List String × Nat} (h : t.follow links above (name :: rest) = .ok found) :
    t.shapeAt above.reverse = some .folder := by
  rw [follow_eq, walk_cons] at h
  generalize t.shapeAt above.reverse = here at h ⊢
  rcases here with _ | (_ | _ | _)
  case none | some.file | some.link => cases h
  case some.folder => rfl

/-- One name from a folder leads to what is under it, when that is no link. -/
theorem follow_singleton {links links' : Nat} {name : String} {place : List String}
    (h : t.follow links above [name] = .ok (place, links')) (hdots : name ≠ "..")
    (hlink : ∀ target, t.shapeAt (name :: above).reverse ≠ some (.link target)) :
    place = name :: above := by
  have hhere := shapeAt_of_follow_cons h
  rw [follow_eq, walk_cons, hhere] at h
  dsimp only at h
  rw [if_neg hdots] at h
  by_cases hlong : 255 < name.utf8ByteSize
  · rw [if_pos hlong] at h
    cases h
  rw [if_neg hlong] at h
  rcases hnext : t.shapeAt (name :: above).reverse with _ | (_ | _ | target)
  case some.link => exact absurd hnext (hlink target)
  all_goals
    rw [hnext] at h
    exact (congrArg Prod.fst (Except.ok.inj h)).symm

/-- Double dots lead to the folder around. -/
theorem follow_doubleDot {links links' : Nat} {place : List String}
    (h : t.follow links above [".."] = .ok (place, links')) : place = above.tail := by
  have hhere := shapeAt_of_follow_cons h
  rw [follow_eq, walk_cons, hhere] at h
  exact (congrArg Prod.fst (Except.ok.inj h)).symm

/-! ## What there is around the end of a path -/

theorem shapeAt_tail (h : t.shapeAt above.reverse = some .folder) :
    t.shapeAt above.tail.reverse = some .folder := by
  cases above with
  | nil => exact h
  | cons name above =>
    obtain ⟨entries, hentries⟩ := shapeAt_eq_folder_iff.1 h
    rw [List.reverse_cons] at hentries
    exact shapeAt_around hentries

/-- Names lead to something, or to nothing in a folder, and a link on the way begins at
something. -/
theorem walk_end (h : t.shapeAt above.reverse ≠ none) (names : List String) :
    (∀ place, t.walk above names = .ok (.arrived place) →
      t.shapeAt place.reverse ≠ none ∨
        ∃ name around, place = name :: around ∧ t.shapeAt around.reverse = some .folder) ∧
      ∀ above' names', t.walk above names = .ok (.link above' names') →
        t.shapeAt above'.reverse ≠ none := by
  induction names generalizing above with
  | nil =>
    exact ⟨fun place hplace => by cases hplace; exact .inl h, fun _ _ hlink => by cases hlink⟩
  | cons name rest ih =>
    rw [walk_cons]
    cases hhere : t.shapeAt above.reverse with
    | none => exact absurd hhere h
    | some here =>
      cases here with
      | file | link => exact ⟨nofun, nofun⟩
      | folder =>
        dsimp only
        split
        · exact ih (by rw [shapeAt_tail hhere]; simp)
        split
        · exact ⟨nofun, nofun⟩
        cases hnext : t.shapeAt (name :: above).reverse with
        | none =>
          dsimp only
          split
          · refine ⟨fun place hplace => ?_, nofun⟩
            cases hplace
            exact .inr ⟨name, above, rfl, hhere⟩
          · exact ⟨nofun, nofun⟩
        | some next =>
          cases next with
          | folder | file => exact ih (by rw [hnext]; simp)
          | link target =>
            refine ⟨nofun, fun above' names' hlink => ?_⟩
            cases hlink
            rw [Path.start]
            split
            · exact h
            · rw [List.reverse_nil, shapeAt_of_at? (e := t) rfl]
              simp

theorem follow_end {links : Nat} (h : t.shapeAt above.reverse ≠ none) {names place : List String}
    {left : Nat} (hplace : t.follow links above names = .ok (place, left)) :
    t.shapeAt place.reverse ≠ none ∨
      ∃ name around, place = name :: around ∧ t.shapeAt around.reverse = some .folder := by
  induction links generalizing above names with
  | zero =>
    rw [follow_eq] at hplace
    cases hwalk : t.walk above names with
    | error fault => rw [hwalk] at hplace; cases hplace
    | ok walked =>
      rw [hwalk] at hplace
      cases walked with
      | arrived above' => cases hplace; exact (t.walk_end h names).1 _ hwalk
      | link => cases hplace
  | succ links ih =>
    rw [follow_eq] at hplace
    cases hwalk : t.walk above names with
    | error fault => rw [hwalk] at hplace; cases hplace
    | ok walked =>
      rw [hwalk] at hplace
      cases walked with
      | arrived above' => cases hplace; exact (t.walk_end h names).1 _ hwalk
      | link above' names' => exact ih ((t.walk_end h names).2 _ _ hwalk) hplace

/-! ## Trees with the same kinds of entries -/

theorem walk_congr (h : ∀ l, t'.shapeAt l = t.shapeAt l) (above names : List String) :
    t'.walk above names = t.walk above names := by
  induction names generalizing above with
  | nil => rfl
  | cons name rest ih => simp only [walk_cons, h, ih]

theorem follow_congr (h : ∀ l, t'.shapeAt l = t.shapeAt l) (links : Nat)
    (above names : List String) : t'.follow links above names = t.follow links above names := by
  induction links generalizing above names with
  | zero => rw [follow_eq, follow_eq t, walk_congr h]
  | succ links ih => simp only [follow_eq _ (links + 1), walk_congr h, ih]

/-- What there is in `t'` there is in `t`, and of the same kind. -/
def Within (t' t : FileTree) : Prop :=
  ∀ l, t'.shapeAt l = none ∨ t'.shapeAt l = t.shapeAt l

/-- Names have led to something. -/
def Walked.IsSomewhere (t : FileTree) : Walked → Prop
  | .arrived place => t.shapeAt place.reverse ≠ none
  | .link .. => True

theorem Within.walk (h : Within t' t) {names : List String} {walked : Walked}
    (hwalked : t'.walk above names = .ok walked) (hend : walked.IsSomewhere t') :
    t.walk above names = .ok walked := by
  induction names generalizing above with
  | nil => exact hwalked
  | cons name rest ih =>
    rw [walk_cons] at hwalked ⊢
    rcases h above.reverse with hhere | hhere
    · rw [hhere] at hwalked
      cases hwalked
    rw [hhere] at hwalked
    generalize t.shapeAt above.reverse = here at hwalked ⊢
    rcases here with _ | (_ | _ | _)
    case none | some.file | some.link => exact hwalked
    dsimp only at hwalked ⊢
    by_cases hdots : name = ".."
    · rw [if_pos hdots] at hwalked ⊢
      exact ih hwalked
    rw [if_neg hdots] at hwalked ⊢
    by_cases hlong : 255 < name.utf8ByteSize
    · rw [if_pos hlong] at hwalked
      cases hwalked
    rw [if_neg hlong] at hwalked ⊢
    rcases h (name :: above).reverse with hnext | hnext
    · -- Nothing is under the name, so that the names end here, and nowhere.
      rw [hnext] at hwalked
      dsimp only at hwalked
      split at hwalked
      · cases hwalked
        exact absurd hnext hend
      · cases hwalked
    rw [hnext] at hwalked
    generalize hshape : t.shapeAt (name :: above).reverse = next at hwalked ⊢
    rcases next with _ | (_ | _ | _)
    case none | some.link => exact hwalked
    case some.folder | some.file => exact ih hwalked

theorem Within.follow (h : Within t' t) {links left : Nat} {names place : List String}
    (hplace : t'.follow links above names = .ok (place, left))
    (hend : t'.shapeAt place.reverse ≠ none) : t.follow links above names = .ok (place, left) := by
  induction links generalizing above names with
  | zero =>
    rw [follow_eq] at hplace ⊢
    cases hwalk : t'.walk above names with
    | error fault => rw [hwalk] at hplace; cases hplace
    | ok walked =>
      rw [hwalk] at hplace
      cases walked with
      | arrived here =>
        cases hplace
        rw [h.walk hwalk hend]
      | link => cases hplace
  | succ links ih =>
    rw [follow_eq] at hplace ⊢
    cases hwalk : t'.walk above names with
    | error fault => rw [hwalk] at hplace; cases hplace
    | ok walked =>
      rw [hwalk] at hplace
      cases walked with
      | arrived here =>
        cases hplace
        rw [h.walk hwalk hend]
      | link here others =>
        rw [h.walk hwalk trivial]
        exact ih hplace

end FileTree

/-! ## Trees that differ in files only -/

/-- Faults of which a program learns no more than that there is nothing. -/
def PathFault.IsMissing (fault : PathFault) : Prop :=
  fault = .noEntry ∨ fault = .notFolder

/-- Two lookups that differ, if at all, in how they find that there is nothing. -/
inductive LookedUpAlike {α : Type} : Except PathFault α → Except PathFault α → Prop
  | same (x : Except PathFault α) : LookedUpAlike x x
  | missing {fault fault' : PathFault} (h : fault.IsMissing) (h' : fault'.IsMissing) :
      LookedUpAlike (.error fault) (.error fault')

theorem LookedUpAlike.ok_iff {α : Type} {x x' : Except PathFault α} (h : LookedUpAlike x x')
    (a : α) : x = .ok a ↔ x' = .ok a := by
  cases h with
  | same => rfl
  | missing => simp

namespace FileTree

/-- Away from some locations the same is seen in two trees, and at these there is at most a file. -/
structure SameBut (loose : Location → Prop) (t t' : FileTree) : Prop where
  elsewhere : ∀ l, ¬loose l → t'.sightAt l = t.sightAt l
  first : ∀ l, loose l → t.shapeAt l = none ∨ t.shapeAt l = some .file
  second : ∀ l, loose l → t'.shapeAt l = none ∨ t'.shapeAt l = some .file

namespace SameBut

variable {loose : Location → Prop} {t t' : FileTree} {above : List String}

theorem symm (h : SameBut loose t t') : SameBut loose t' t :=
  ⟨fun l hl => (h.elsewhere l hl).symm, h.second, h.first⟩

theorem trans {t'' : FileTree} (h : SameBut loose t t') (h' : SameBut loose t' t'') :
    SameBut loose t t'' :=
  ⟨fun l hl => (h'.elsewhere l hl).trans (h.elsewhere l hl), h.first, h'.second⟩

/-- At a location there is the same kind of entry, or there is no more than a file. -/
theorem shapeAt (h : SameBut loose t t') (l : Location) :
    t'.shapeAt l = t.shapeAt l ∨
      t.shapeAt l = none ∧ t'.shapeAt l = some .file ∨
      t.shapeAt l = some .file ∧ t'.shapeAt l = none := by
  by_cases hl : loose l
  · rcases h.first l hl with hfirst | hfirst <;> rcases h.second l hl with hsecond | hsecond <;>
      simp [hfirst, hsecond]
  · exact .inl (shapeAt_congr (h.elsewhere l hl))

theorem folder (h : SameBut loose t t') {l : Location} (hl : t.shapeAt l = some .folder) :
    t'.shapeAt l = some .folder := by
  rcases h.shapeAt l with heq | ⟨hnone, _⟩ | ⟨hfile, _⟩
  · rw [heq, hl]
  · rw [hnone] at hl
    cases hl
  · rw [hfile] at hl
    cases hl

/-- A file that is no more than loose may be taken out. -/
theorem remove (h : SameBut loose t t') {l : Location} (hl : loose l) :
    SameBut loose t (t'.remove l) := by
  by_cases hne : l = []
  · subst hne
    rwa [FileTree.remove]
  have hfile : t'.sightAt l ≠ some .folder := by
    rw [ne_eq, sightAt_eq_folder_iff]
    rcases h.second l hl with hnone | hfile
    · simp [hnone]
    · simp [hfile]
  refine ⟨fun m hm => ?_, h.first, fun m hm => ?_⟩
  · have hml : m ≠ l := fun heq => hm (heq ▸ hl)
    rw [sightAt_remove_of_ne hfile hml, h.elsewhere m hm]
  · by_cases hml : m = l
    · subst hml
      exact .inl (shapeAt_eq_none_iff.2 (at?_remove_self hne t'))
    · rw [shapeAt_congr (sightAt_remove_of_ne hfile hml)]
      exact h.second m hm

/-- A loose file may be put in. -/
theorem put (h : SameBut loose t t') {l : Location} (hl : loose l) (hroom : t'.HasRoom l)
    (bytes : ByteArray) : SameBut loose t (FileTree.put (file bytes) l t') := by
  refine ⟨fun m hm => ?_, h.first, fun m hm => ?_⟩
  · have hml : m ≠ l := fun heq => hm (heq ▸ hl)
    rw [hroom.sightAt_put_of_ne bytes hml, h.elsewhere m hm]
  · by_cases hml : m = l
    · subst hml
      exact .inr (shapeAt_of_at? (hroom.at?_put bytes))
    · rw [shapeAt_congr (hroom.sightAt_put_of_ne bytes hml)]
      exact h.second m hm

/-- Behind what is no more than a file there is nothing. -/
theorem walk_of_file (h : t.shapeAt above.reverse = none ∨ t.shapeAt above.reverse = some .file)
    (name : String) (rest : List String) :
    ∃ fault, t.walk above (name :: rest) = .error fault ∧ fault.IsMissing := by
  rw [walk_cons]
  rcases h with h | h <;> rw [h]
  · exact ⟨_, rfl, .inl rfl⟩
  · exact ⟨_, rfl, .inr rfl⟩

theorem walk (h : SameBut loose t t') (above names : List String) :
    LookedUpAlike (t.walk above names) (t'.walk above names) := by
  induction names generalizing above with
  | nil => exact .same _
  | cons name rest ih =>
    -- Where the trees differ, both lookups end.
    have hends : ∀ (here : List String) (first : String) (others : List String),
        t'.shapeAt here.reverse ≠ t.shapeAt here.reverse →
          LookedUpAlike (t.walk here (first :: others)) (t'.walk here (first :: others)) := by
      intro here first others hne
      have hfile : t.shapeAt here.reverse = none ∨ t.shapeAt here.reverse = some .file := by
        grind [h.shapeAt here.reverse]
      have hfile' : t'.shapeAt here.reverse = none ∨ t'.shapeAt here.reverse = some .file := by
        grind [h.shapeAt here.reverse]
      obtain ⟨fault, hfault, hmissing⟩ := walk_of_file hfile first others
      obtain ⟨fault', hfault', hmissing'⟩ := walk_of_file hfile' first others
      rw [hfault, hfault']
      exact .missing hmissing hmissing'
    by_cases hhere : t'.shapeAt above.reverse = t.shapeAt above.reverse
    · rw [walk_cons, walk_cons, hhere]
      rcases t.shapeAt above.reverse with _ | (_ | _ | _)
      case none | some.file | some.link => exact .same _
      dsimp only
      split
      · exact ih above.tail
      split
      · exact .same _
      by_cases hnext : t'.shapeAt (name :: above).reverse = t.shapeAt (name :: above).reverse
      · rw [hnext]
        rcases t.shapeAt (name :: above).reverse with _ | (_ | _ | _)
        case none | some.link => exact .same _
        case some.folder | some.file => exact ih (name :: above)
      · cases rest with
        | nil =>
          -- Nothing is asked of what the last name leads to.
          rcases (h.shapeAt _).resolve_left hnext with ⟨hone, htwo⟩ | ⟨hone, htwo⟩ <;>
            (rw [hone, htwo]; exact .same _)
        | cons other others =>
          have hothers := hends (name :: above) other others hnext
          rcases (h.shapeAt _).resolve_left hnext with ⟨hone, htwo⟩ | ⟨hone, htwo⟩
          · rw [walk_cons, hone] at hothers
            rw [hone, htwo]
            exact hothers
          · rw [walk_cons t', htwo] at hothers
            rw [hone, htwo]
            exact hothers
    · exact hends above name rest hhere

theorem follow (h : SameBut loose t t') (links : Nat) (above names : List String) :
    LookedUpAlike (t.follow links above names) (t'.follow links above names) := by
  induction links generalizing above names with
  | zero =>
    rw [follow_eq, follow_eq t']
    have hwalk := h.walk above names
    generalize t.walk above names = x at hwalk
    generalize t'.walk above names = x' at hwalk
    cases hwalk with
    | same => exact .same _
    | missing hmissing hmissing' => exact .missing hmissing hmissing'
  | succ links ih =>
    rw [follow_eq, follow_eq t']
    have hwalk := h.walk above names
    generalize t.walk above names = x at hwalk
    generalize t'.walk above names = x' at hwalk
    cases hwalk with
    | same =>
      rcases x with fault | (here | ⟨here, others⟩)
      case error | ok.arrived => exact .same _
      exact ih here others
    | missing hmissing hmissing' => exact .missing hmissing hmissing'

end SameBut

/-! ## Trees without links -/

/-- There is no link in the tree. -/
def LinkFree (t : FileTree) : Prop :=
  ∀ l target, t.shapeAt l ≠ some (.link target)

theorem linkCount_le_of_mem {entries : List (String × FileTree)} {entry : String × FileTree}
    (h : entry ∈ entries) : entry.2.linkCount ≤ linkCountAmong entries := by
  induction entries with
  | nil => cases h
  | cons first rest ih =>
    rw [linkCountAmong]
    rcases List.mem_cons.1 h with rfl | hrest
    · exact Nat.le_add_right _ _
    · exact Nat.le_trans (ih hrest) (Nat.le_add_left _ _)

/-- A tree in which no link is counted has none. -/
theorem linkFree_of_linkCount {t : FileTree} (h : t.linkCount = 0) : t.LinkFree := by
  intro l
  induction l generalizing t with
  | nil =>
    intro target hl
    rw [shapeAt_of_at? (e := t) rfl] at hl
    cases t with
    | file | folder => cases hl
    | link => cases h
  | cons name rest ih =>
    intro target hl
    cases t with
    | file | link => cases hl
    | folder entries =>
      rw [shapeAt, sightAt_cons] at hl
      cases hentry : entries.lookup name with
      | none => rw [hentry] at hl; cases hl
      | some e =>
        rw [hentry] at hl
        have hle := linkCount_le_of_mem (mem_of_lookup_eq_some hentry)
        exact ih (Nat.le_zero.1 (Nat.le_trans hle (Nat.le_of_eq h))) target hl

namespace LinkFree

variable {t : FileTree} {above : List String}

theorem of_sameBut {loose : Location → Prop} {t' : FileTree} (ht : t.LinkFree)
    (h : SameBut loose t t') : t'.LinkFree := by
  intro l target hl
  rcases h.shapeAt l with heq | ⟨_, hfile⟩ | ⟨_, hnone⟩
  · exact ht l target (heq ▸ hl)
  · rw [hfile] at hl
    cases hl
  · rw [hnone] at hl
    cases hl

theorem at? (ht : t.LinkFree) {l : Location} {e : FileTree} (h : t.at? l = some e) :
    e.LinkFree := by
  intro names target hnames
  refine ht (l ++ names) target ?_
  rwa [shapeAt, sightAt, at?_append, h]

/-- Names lead where they say. -/
theorem walk (ht : t.LinkFree) {names : List String} {walked : Walked}
    (h : t.walk above names = .ok walked) : walked = .arrived (Path.follow above names) := by
  induction names generalizing above with
  | nil => exact (Except.ok.inj h).symm
  | cons name rest ih =>
    rw [walk_cons] at h
    rw [Path.follow]
    generalize t.shapeAt above.reverse = here at h
    rcases here with _ | (_ | _ | _)
    case none | some.file | some.link => cases h
    dsimp only at h
    split at h
    · next hdots =>
      rw [if_pos hdots]
      exact ih h
    next hdots =>
    rw [if_neg hdots]
    split at h
    · cases h
    rcases hnext : t.shapeAt (name :: above).reverse with _ | (_ | _ | target)
    case none =>
      rw [hnext] at h
      cases rest with
      | nil => exact (Except.ok.inj h).symm
      | cons => cases h
    case some.link => exact absurd hnext (ht _ target)
    case some.folder | some.file =>
      rw [hnext] at h
      exact ih h

theorem follow (ht : t.LinkFree) (links : Nat) (above names : List String) :
    t.follow links above names =
      match t.walk above names with
      | .error fault => .error fault
      | .ok _ => .ok (Path.follow above names, links) := by
  rw [follow_eq]
  cases hwalk : t.walk above names with
  | error fault => rfl
  | ok walked => rw [ht.walk hwalk]

end LinkFree

end FileTree

end Registrar
