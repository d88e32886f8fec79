/-
What notes change in a session. Between two sessions that are `Quiet` nothing has happened but that
the log has been written to: every entry is of the same kind as before, and apart from the log file
every file holds the same. A `Job` whose steps only look at the session and make notes is quiet
(`Job.Quiet.bind`), and paths lead where they did (`Session.Quiet.locate_eq`).
-/
import Registrar.Proofs.FileLookup
import Registrar.Run

namespace Registrar

theorem Log.file?_release (l : Location) (log : Log) :
    (log.release l).file? = none ∨ (log.release l).file? = log.file? ∧ log.file? ≠ some l := by
  cases log with
  | unset => exact .inl rfl
  | opened level file =>
    cases file with
    | none => exact .inl rfl
    | some place =>
      rw [release]
      by_cases hprefix : l.isPrefixOf place
      · rw [if_pos hprefix]
        exact .inl rfl
      · rw [if_neg hprefix]
        refine .inr ⟨rfl, ?_⟩
        rintro heq
        obtain rfl : place = l := Option.some.inj heq
        exact hprefix (List.isPrefixOf_iff_prefix.2 List.prefix_rfl)

namespace Session

/-- Nothing has happened from one session to the other but that the log has been written to. -/
structure Quiet (s s' : Session) : Prop where
  log : s'.log = s.log
  current : s'.files.current = s.files.current
  unlogged : s.log.file? = none → s'.files = s.files
  sight : ∀ l, s.log.file? ≠ some l → s'.files.root.sightAt l = s.files.root.sightAt l
  shape : ∀ l, s'.files.root.shapeAt l = s.files.root.shapeAt l
  distinct : s.files.root.NamesDistinct → s'.files.root.NamesDistinct

namespace Quiet

variable {s s' s'' : Session}

theorem refl (s : Session) : s.Quiet s :=
  ⟨rfl, rfl, fun _ => rfl, fun _ _ => rfl, fun _ => rfl, id⟩

theorem trans (h : s.Quiet s') (h' : s'.Quiet s'') : s.Quiet s'' where
  log := h'.log.trans h.log
  current := h'.current.trans h.current
  unlogged hlog := (h'.unlogged (h.log ▸ hlog)).trans (h.unlogged hlog)
  sight l hl := (h'.sight l (h.log ▸ hl)).trans (h.sight l hl)
  shape l := (h'.shape l).trans (h.shape l)
  distinct hdistinct := h'.distinct (h.distinct hdistinct)

end Quiet

/-- What is appended to a file changes that file only. -/
theorem quiet_append {s : Session} {l : Location} (h : s.log.file? = some l) (text : String) :
    s.Quiet { s with files := s.files.append l text } := by
  rw [Files.append]
  split
  · next bytes hat =>
    have hroom : s.files.root.HasRoom l := .old hat
    have hsight : ∀ m, m ≠ l → (s.files.put l (.file (bytes ++ text.toUTF8))).root.sightAt m =
        s.files.root.sightAt m := fun m hm => hroom.sightAt_put_of_ne _ hm
    refine ⟨rfl, rfl, fun hnone => ?_, fun m hm => hsight m ?_, fun m => ?_,
      fun hdistinct => hdistinct.put (.file _) l⟩
    · rw [h] at hnone
      cases hnone
    · rintro rfl
      exact hm h
    · by_cases hm : m = l
      · subst hm
        have hput : (s.files.put m (.file (bytes ++ text.toUTF8))).root.at? m = some (.file _) :=
          hroom.at?_put _
        rw [FileTree.shapeAt_of_at? hat, FileTree.shapeAt_of_at? hput]
        rfl
      · exact FileTree.shapeAt_congr (hsight m hm)
  · exact .refl s

theorem quiet_record (s : Session) (r : Record) : s.Quiet (s.record r) := by
  unfold record
  dsimp only
  split
  · cases hlog : s.log.file? with
    | none =>
      simp only [complain, hlog]
      exact ⟨rfl, rfl, fun _ => rfl, fun _ _ => rfl, fun _ => rfl, id⟩
    | some l =>
      simp only [complain, hlog]
      have happend := quiet_append hlog (Log.fileLine (s.clock (s.moment + 1)) r)
      exact ⟨rfl, happend.current, happend.unlogged, happend.sight, happend.shape,
        happend.distinct⟩
  · exact ⟨rfl, rfl, fun _ => rfl, fun _ _ => rfl, fun _ => rfl, id⟩

theorem quiet_note (s : Session) (n : Note) : s.Quiet (s.note n) :=
  s.quiet_record n.record

theorem quiet_remark (s : Session) (ns : List Note) : s.Quiet (s.remark ns) := by
  induction ns generalizing s with
  | nil => exact .refl s
  | cons n rest ih => exact (s.quiet_note n).trans (ih (s.note n))

namespace Quiet

variable {s s' : Session}

theorem locate_eq (h : s.Quiet s') (p : Path) : s'.files.locate p = s.files.locate p :=
  Files.locate_congr h.current h.shape p

theorem entryPlace_eq (h : s.Quiet s') (p : Path) :
    s'.files.entryPlace p = s.files.entryPlace p := by
  rw [Files.entryPlace, Files.entryPlace, h.locate_eq, h.locate_eq]

theorem at?_eq_none_iff (h : s.Quiet s') (l : Location) :
    s'.files.root.at? l = none ↔ s.files.root.at? l = none := by
  rw [← FileTree.shapeAt_eq_none_iff, ← FileTree.shapeAt_eq_none_iff, h.shape]

/-- Where something is found, something was found before. -/
theorem exists_find_iff (h : s.Quiet s') (p : Path) :
    (∃ e, s'.files.find p = .ok e) ↔ ∃ e, s.files.find p = .ok e := by
  simp only [Files.exists_find_iff, h.locate_eq, ne_eq, h.at?_eq_none_iff]

theorem find_ne_ok_iff (h : s.Quiet s') (p : Path) :
    (∀ e, s'.files.find p ≠ .ok e) ↔ ∀ e, s.files.find p ≠ .ok e := by
  rw [← not_exists, ← not_exists, h.exists_find_iff]

theorem isFile_eq (h : s.Quiet s') (p : Path) : s'.files.isFile p = s.files.isFile p := by
  rw [Bool.eq_iff_iff, Files.isFile_iff, Files.isFile_iff]
  simp only [h.locate_eq, h.shape]

end Quiet

end Session

namespace Job

variable {ε α β : Type}

theorem bind_apply (x : Job ε α) (f : α → Job ε β) (s : Session) :
    (x >>= f) s =
      match x s with
      | (after, .error e) => (after, .error e)
      | (after, .ok a) => f a after := rfl

@[simp] theorem pure_apply (a : α) (s : Session) : (pure a : Job ε α) s = (s, .ok a) := rfl

@[simp] theorem look_apply (f : Session → Except ε α) (s : Session) : look f s = (s, f s) := rfl

@[simp] theorem change_apply (f : Session → Session) (s : Session) :
    (change f : Job ε Unit) s = (f s, .ok ()) := rfl

@[simp] theorem fail_apply (e : ε) (s : Session) : (fail e : Job ε α) s = (s, .error e) := rfl

theorem ite_apply (c : Prop) [Decidable c] (x y : Job ε α) (s : Session) :
    (if c then x else y) s = if c then x s else y s := by
  split <;> rfl

theorem ensure_apply (holds : Bool) (e : ε) (s : Session) :
    ensure holds e s = (s, if holds then .ok () else .error e) := by
  cases holds <;> rfl

@[simp] theorem note_apply (n : Note) (s : Session) :
    (note n : Job ε Unit) s = (s.note n, .ok ()) := rfl

@[simp] theorem noted_apply (f : Session → Noted ε α) (s : Session) :
    noted f s = (s.remark (f s).notes, (f s).result) := rfl

/-- The job looks at the session and makes notes, and it does nothing else. -/
def Quiet (x : Job ε α) : Prop :=
  ∀ s : Session, s.Quiet (x s).1

namespace Quiet

theorem pure (a : α) : Quiet (Pure.pure a : Job ε α) := fun s => .refl s

theorem look (f : Session → Except ε α) : Quiet (Job.look f) := fun s => .refl s

theorem fail (e : ε) : Quiet (Job.fail e : Job ε α) := fun s => .refl s

theorem ensure (holds : Bool) (e : ε) : Quiet (Job.ensure holds e) := by
  intro s
  rw [ensure_apply]
  exact .refl s

theorem note (n : Note) : Quiet (Job.note n : Job ε Unit) := fun s => s.quiet_note n

theorem noted (f : Session → Noted ε α) : Quiet (Job.noted f) := fun s => s.quiet_remark _

theorem bind {x : Job ε α} {f : α → Job ε β} (hx : Quiet x) (hf : ∀ a, Quiet (f a)) :
    Quiet (x >>= f) := by
  intro s
  have hfirst := hx s
  rw [bind_apply]
  generalize x s = found at hfirst
  obtain ⟨after, result⟩ := found
  cases result with
  | error e => exact hfirst
  | ok a => exact hfirst.trans (hf a after)

theorem ite {c : Prop} [Decidable c] {x y : Job ε α} (hx : Quiet x) (hy : Quiet y) :
    Quiet (if c then x else y) := by
  split
  · exact hx
  · exact hy

end Quiet

end Job

end Registrar
