/-
What paths lead to among files. What leads to an entry of a folder leads to the folder first
(`locate_child_eq_ok_iff`), so that an entry which is taken out is not found any more
(`find_remove`). Files that look alike but for some locations answer alike (`SameBut.find`,
`SameBut.place_eq`).
-/
import Registrar.Proofs.PathLookup

namespace Registrar

namespace Files

variable {fs fs' : Files} {p : Path} {l : Location}

/-! ## Looking up in files -/

theorem locate_eq_ok_iff :
    fs.locate p = .ok l ↔
      p.hasNull = false ∧ p.text.utf8ByteSize ≤ longestPath ∧
        ∃ left, fs.root.follow mostLinks (p.start fs.current.reverse) p.names =
          .ok (l.reverse, left) := by
  unfold locate
  cases p.hasNull with
  | true => simp
  | false =>
    rw [if_neg Bool.false_ne_true]
    split
    · next hlong => simp [Nat.not_le.2 hlong]
    · next hshort =>
      rw [and_iff_right rfl, and_iff_right (Nat.not_lt.1 hshort)]
      cases fs.root.follow mostLinks (p.start fs.current.reverse) p.names with
      | error fault => simp [Except.map]
      | ok found =>
        obtain ⟨place, left⟩ := found
        simp [Except.map, List.reverse_eq_iff]

/-- Where a path cannot be followed, the operating system has words for it, but for a null
character. -/
theorem system?_of_locate {fault : PathFault} (h : fs.locate p = .error fault) :
    fault.system?.isSome = true ∨ p.hasNull = true := by
  unfold locate at h
  split at h
  · next hnull => exact .inr hnull
  split at h
  · cases h; exact .inl rfl
  · cases hfollow : fs.root.follow mostLinks (p.start fs.current.reverse) p.names with
    | ok found => rw [hfollow] at h; cases h
    | error fault' =>
      rw [hfollow] at h
      cases h
      exact .inl (FileTree.system?_of_follow hfollow)

theorem locate_congr (hcurrent : fs'.current = fs.current)
    (h : ∀ l, fs'.root.shapeAt l = fs.root.shapeAt l) (p : Path) : fs'.locate p = fs.locate p := by
  rw [locate, locate, hcurrent, FileTree.follow_congr h]

theorem find_eq_ok_iff {e : FileTree} :
    fs.find p = .ok e ↔ ∃ l, fs.locate p = .ok l ∧ fs.root.at? l = some e := by
  rw [find]
  cases fs.locate p with
  | error fault => simp
  | ok l =>
    simp only [Except.ok.injEq, exists_eq_left']
    cases fs.root.at? l <;> simp

theorem exists_find_iff :
    (∃ e, fs.find p = .ok e) ↔ ∃ l, fs.locate p = .ok l ∧ fs.root.at? l ≠ none := by
  simp only [find_eq_ok_iff, Option.ne_none_iff_exists']
  exact ⟨fun ⟨e, l, hl, he⟩ => ⟨l, hl, e, he⟩, fun ⟨l, hl, e, he⟩ => ⟨e, l, hl, he⟩⟩

theorem probe_eq_some_iff {e : FileTree} : fs.probe p = .ok (some e) ↔ fs.find p = .ok e := by
  rw [probe]
  split <;> simp_all

theorem probe_eq_none_iff :
    fs.probe p = .ok none ↔ ∃ fault, fs.find p = .error fault ∧ fault ≠ .nameTooLong := by
  rw [probe]
  split <;> simp_all

theorem probe_eq_error_iff {e : PathError} :
    fs.probe p = .error e ↔ fs.find p = .error .nameTooLong ∧ e = ⟨.nameTooLong, p.text⟩ := by
  rw [probe]
  generalize fs.find p = found
  split <;> simp_all [eq_comm]

theorem isFolder_eq_true_iff :
    fs.isFolder p = .ok true ↔ ∃ entries, fs.find p = .ok (.folder entries) := by
  rw [isFolder]
  cases hprobe : fs.probe p with
  | error e =>
    rw [(probe_eq_error_iff.1 hprobe).1]
    simp [bind, Except.bind]
  | ok found =>
    cases found with
    | none =>
      obtain ⟨fault, hfault, _⟩ := probe_eq_none_iff.1 hprobe
      rw [hfault]
      simp [bind, Except.bind, pure, Except.pure]
    | some e =>
      rw [probe_eq_some_iff.1 hprobe]
      cases e <;> simp [bind, Except.bind, pure, Except.pure, FileTree.isFolder]

theorem isFolder_eq_error_iff {e : PathError} :
    fs.isFolder p = .error e ↔ fs.locate p = .error .nameTooLong ∧ e = ⟨.nameTooLong, p.text⟩ := by
  have hlocate : fs.find p = .error .nameTooLong ↔ fs.locate p = .error .nameTooLong := by
    rw [find]
    cases fs.locate p with
    | error fault => simp
    | ok l => dsimp only; cases fs.root.at? l <;> simp
  rw [← hlocate, ← probe_eq_error_iff, isFolder]
  cases fs.probe p <;> simp [bind, Except.bind, pure, Except.pure]

theorem isFile_iff :
    fs.isFile p = true ↔ ∃ l, fs.locate p = .ok l ∧ fs.root.shapeAt l = some .file := by
  have hfile : fs.isFile p = true ↔ ∃ bytes, fs.find p = .ok (.file bytes) := by
    rw [isFile]
    split <;> simp_all
  simp only [hfile, find_eq_ok_iff, FileTree.shapeAt_eq_file_iff]
  constructor
  · rintro ⟨bytes, l, hl, hat⟩
    exact ⟨l, hl, bytes, hat⟩
  · rintro ⟨l, hl, bytes, hat⟩
    exact ⟨bytes, l, hl, hat⟩

/-- A file that is found among some of the entries is found among all. -/
theorem isFile_of_within (hcurrent : fs'.current = fs.current) (h : fs'.root.Within fs.root)
    (hfile : fs'.isFile p = true) : fs.isFile p = true := by
  obtain ⟨l, hl, hshape⟩ := isFile_iff.1 hfile
  obtain ⟨hnull, hshort, left, hfollow⟩ := locate_eq_ok_iff.1 hl
  have hend : fs'.root.shapeAt l.reverse.reverse ≠ none := by
    rw [List.reverse_reverse, hshape]
    simp
  rw [hcurrent] at hfollow
  refine isFile_iff.2 ⟨l, locate_eq_ok_iff.2 ⟨hnull, hshort, left, h.follow hfollow hend⟩, ?_⟩
  rcases h l with hnone | hsame
  · rw [hnone] at hshape
    cases hshape
  · rw [← hsame, hshape]

/-- A folder that is found stands at a location. -/
theorem exists_locate_of_isFolder (h : fs.isFolder p = .ok true) :
    ∃ l, fs.locate p = .ok l ∧ fs.root.shapeAt l = some .folder := by
  obtain ⟨entries, hentries⟩ := isFolder_eq_true_iff.1 h
  obtain ⟨l, hl, hat⟩ := find_eq_ok_iff.1 hentries
  exact ⟨l, hl, FileTree.shapeAt_eq_folder_iff.2 ⟨entries, hat⟩⟩

/-- Where a path leads to nothing, nothing is found. -/
theorem at?_eq_none_of_find (hl : fs.locate p = .ok l) (h : ∀ e, fs.find p ≠ .ok e) :
    fs.root.at? l = none :=
  Option.eq_none_iff_forall_ne_some.2 fun e he => h e (find_eq_ok_iff.2 ⟨l, hl, he⟩)

theorem find_of_at? {e : FileTree} (hl : fs.locate p = .ok l) (h : fs.root.at? l = some e) :
    fs.find p = .ok e :=
  find_eq_ok_iff.2 ⟨l, hl, h⟩

/-- Where a file can be made there is one, or there is a folder for it. -/
theorem hasRoom_of_fileFor (hanchor : p.anchor.isEmpty = false) (h : fs.fileFor p = .ok l) :
    fs.locate p = .ok l ∧ fs.root.HasRoom l := by
  unfold fileFor at h
  cases hlocate : fs.locate p with
  | error fault => rw [hlocate] at h; cases h
  | ok place =>
    rw [hlocate] at h
    dsimp only at h
    have hstart : p.start fs.current.reverse = [] := by rw [Path.start, hanchor]; rfl
    obtain ⟨_, _, left, hfollow⟩ := locate_eq_ok_iff.1 hlocate
    rw [hstart] at hfollow
    have hroot : fs.root.shapeAt [].reverse ≠ none := by
      rw [FileTree.shapeAt_of_at? (e := fs.root) rfl]
      simp
    cases hat : fs.root.at? place with
    | some e =>
      rw [hat] at h
      cases e with
      | file bytes => cases h; exact ⟨rfl, .old hat⟩
      | folder | link => cases h
    | none =>
      rw [hat] at h
      cases h
      refine ⟨rfl, ?_⟩
      rcases FileTree.follow_end hroot hfollow with hend | ⟨name, around, heq, hfolder⟩
      · rw [List.reverse_reverse, ne_eq, FileTree.shapeAt_eq_none_iff] at hend
        exact absurd hat hend
      · rw [List.reverse_eq_cons_iff] at heq
        subst heq
        exact .new hfolder hat

theorem fileFor_of_absent (hl : fs.locate p = .ok l) (h : fs.root.at? l = none) :
    fs.fileFor p = .ok l := by
  rw [fileFor, hl]
  dsimp only
  rw [h]

theorem system?_of_fileFor {e : PathError} (h : fs.fileFor p = .error e) :
    e.fault.system?.isSome = true ∨ p.hasNull = true := by
  unfold fileFor at h
  split at h
  · next hlocate =>
    cases h
    exact system?_of_locate hlocate
  · split at h <;> cases h
    exact .inl rfl

theorem system?_of_isFolder {e : PathError} (h : fs.isFolder p = .error e) :
    e.fault.system?.isSome = true := by
  rw [(isFolder_eq_error_iff.1 h).2]
  rfl

/-! ## Entries of folders -/

section Children

variable {folder : Location} {name : String}

theorem text_ofLocation_le (folder : Location) (name : String) :
    (Path.ofLocation folder).text.utf8ByteSize ≤
      ((Path.ofLocation folder).child name).text.utf8ByteSize := by
  have hempty : ∀ names : List String, Path.text ⟨"/", names⟩ = "/" ++ relativePath names :=
    fun _ => rfl
  rw [Path.ofLocation, Path.child, hempty, hempty, relativePath, relativePath]
  cases folder with
  | nil => simp
  | cons first rest =>
    rw [String.intercalate_append_of_ne_nil (List.cons_ne_nil _ _) (List.cons_ne_nil _ _)]
    simp only [String.utf8ByteSize_append]
    omega

/-- What leads to an entry leads to its folder first. -/
theorem locate_child_eq_ok_iff :
    fs.locate ((Path.ofLocation folder).child name) = .ok l ↔
      ((Path.ofLocation folder).child name).hasNull = false ∧
        ((Path.ofLocation folder).child name).text.utf8ByteSize ≤ longestPath ∧
        ∃ around left left', fs.locate (.ofLocation folder) = .ok around ∧
          fs.root.follow mostLinks [] folder = .ok (around.reverse, left) ∧
          fs.root.follow left around.reverse [name] = .ok (l.reverse, left') := by
  have hnull : ((Path.ofLocation folder).child name).hasNull = false →
      (Path.ofLocation folder).hasNull = false := by
    simp only [Path.hasNull, Path.child, List.any_append, Bool.or_eq_false_iff]
    exact And.left
  have hnames : ((Path.ofLocation folder).child name).names = folder ++ [name] := rfl
  have hstart : ∀ above, ((Path.ofLocation folder).child name).start above = [] := fun _ => rfl
  have hstart' : ∀ above, (Path.ofLocation folder).start above = [] := fun _ => rfl
  have hnames' : (Path.ofLocation folder).names = folder := rfl
  rw [locate_eq_ok_iff, hstart, hnames, FileTree.follow_append]
  refine and_congr_right fun hchild => and_congr_right fun hshort => ?_
  have hshort' := Nat.le_trans (text_ofLocation_le folder name) hshort
  cases hfollow : fs.root.follow mostLinks [] folder with
  | error fault => simp
  | ok found =>
    obtain ⟨around, left⟩ := found
    have haround : fs.locate (.ofLocation folder) = .ok around.reverse :=
      locate_eq_ok_iff.2 ⟨hnull hchild, hshort', left, by
        rw [hstart', hnames', hfollow, List.reverse_reverse]⟩
    constructor
    · rintro ⟨left', hleft'⟩
      refine ⟨around.reverse, left, left', haround, ?_, ?_⟩ <;> rw [List.reverse_reverse]
      exact hleft'
    · rintro ⟨_, _, left', _, heq, hleft'⟩
      cases heq
      exact ⟨left', hleft'⟩

theorem entryPlace_child (fs : Files) (h : name ≠ "..") :
    fs.entryPlace ((Path.ofLocation folder).child name) =
      (fs.locate (.ofLocation folder)).map (· ++ [name]) := by
  have hname : ((Path.ofLocation folder).child name).name = name := by
    simp [Path.name, Path.child]
  have hdrop : ((Path.ofLocation folder).child name).names.dropLast = folder := by
    simp [Path.child, Path.ofLocation]
  have hcond : ¬(((Path.ofLocation folder).child name).names = [] ∨
      ((Path.ofLocation folder).child name).name = "..") := by
    rw [hname]
    simp [Path.child, h]
  rw [entryPlace, if_neg hcond, hdrop, hname]
  have hfolder : Path.mk ((Path.ofLocation folder).child name).anchor folder =
      .ofLocation folder := rfl
  rw [hfolder]
  cases fs.locate (.ofLocation folder) <;> rfl

/-- An entry of a folder is one of what the folder's path leads to. -/
theorem exists_around_of_entryPlace {place : Location} (hname : name ≠ "..")
    (h : fs.entryPlace ((Path.ofLocation folder).child name) = .ok place) :
    ∃ around, fs.locate (.ofLocation folder) = .ok around ∧ place = around ++ [name] := by
  rw [entryPlace_child fs hname] at h
  cases hfolder : fs.locate (.ofLocation folder) with
  | error fault => rw [hfolder] at h; cases h
  | ok around =>
    rw [hfolder] at h
    exact ⟨around, rfl, (Except.ok.inj h).symm⟩

/-- Double dots lead from a folder to the folder around it. -/
theorem shapeAt_of_locate_doubleDot
    (h : fs.locate ((Path.ofLocation folder).child "..") = .ok l) :
    fs.root.shapeAt l = some .folder := by
  obtain ⟨_, _, around, left, left', _, _, hfollow⟩ := locate_child_eq_ok_iff.1 h
  have htail := FileTree.shapeAt_tail (FileTree.shapeAt_of_follow_cons hfollow)
  rwa [← FileTree.follow_doubleDot hfollow, List.reverse_reverse] at htail

/-- What is found in a folder has an entry there. -/
theorem exists_entryPlace_of_locate
    (h : fs.locate ((Path.ofLocation folder).child name) = .ok l) :
    ∃ place, fs.entryPlace ((Path.ofLocation folder).child name) = .ok place := by
  by_cases hname : name = ".."
  · subst hname
    refine ⟨l, ?_⟩
    rw [entryPlace, if_pos (.inr (by simp [Path.name, Path.child])), h]
  · obtain ⟨_, _, around, _, _, haround, _, _⟩ := locate_child_eq_ok_iff.1 h
    exact ⟨around ++ [name], by rw [entryPlace_child fs hname, haround]; rfl⟩

/-- When there is no link under its name, an entry of a folder is where its folder is. -/
theorem entryPlace_of_locate (h : fs.locate ((Path.ofLocation folder).child name) = .ok l)
    (hname : name ≠ "..")
    (hlink : ∀ place target, fs.entryPlace ((Path.ofLocation folder).child name) = .ok place →
      fs.root.shapeAt place ≠ some (.link target)) :
    fs.entryPlace ((Path.ofLocation folder).child name) = .ok l := by
  obtain ⟨_, _, around, left, left', haround, _, hfollow⟩ := locate_child_eq_ok_iff.1 h
  have hplace : fs.entryPlace ((Path.ofLocation folder).child name) = .ok (around ++ [name]) := by
    rw [entryPlace_child fs hname, haround]
    rfl
  have hend := FileTree.follow_singleton hfollow hname fun target => by
    rw [List.reverse_cons, List.reverse_reverse]
    exact hlink _ target hplace
  rw [List.reverse_eq_cons_iff, List.reverse_reverse] at hend
  rw [hplace, hend]

theorem within_remove {place : Location} (hne : place ≠ [])
    (hfile : fs.root.sightAt place ≠ some .folder) : (fs.remove place).root.Within fs.root := by
  intro m
  by_cases hm : m = place
  · subst hm
    exact .inl (FileTree.shapeAt_eq_none_iff.2 (FileTree.at?_remove_self hne fs.root))
  · exact .inr (FileTree.shapeAt_congr (FileTree.sightAt_remove_of_ne hfile hm))

/-- When an entry of a folder is taken out, its path leads to its own location, if to any. -/
theorem eq_of_locate_remove {place : Location} (hname : name ≠ "..")
    (hplace : fs.entryPlace ((Path.ofLocation folder).child name) = .ok place)
    (hfile : fs.root.sightAt place ≠ some .folder)
    (h : (fs.remove place).locate ((Path.ofLocation folder).child name) = .ok l) : l = place := by
  obtain ⟨around, hfolder, rfl⟩ := exists_around_of_entryPlace hname hplace
  have hne : around ++ [name] ≠ [] := by simp
  obtain ⟨_, _, around', left, left', _, hbefore, hlast⟩ := locate_child_eq_ok_iff.1 h
  -- The folder is there without the entry, so that it is the same one with it.
  have hhere := FileTree.shapeAt_of_follow_cons hlast
  have hwith := (within_remove hne hfile).follow hbefore (by rw [hhere]; simp)
  obtain ⟨_, _, _, hfollow⟩ := locate_eq_ok_iff.1 hfolder
  have hstart : (Path.ofLocation folder).start fs.current.reverse = [] := rfl
  have hnames : (Path.ofLocation folder).names = folder := rfl
  rw [hstart, hnames, hwith] at hfollow
  obtain rfl : around' = around :=
    List.reverse_inj.1 (congrArg Prod.fst (Except.ok.inj hfollow))
  have hgone : (fs.remove (around' ++ [name])).root.at? (around' ++ [name]) = none :=
    FileTree.at?_remove_self hne fs.root
  have hend := FileTree.follow_singleton hlast hname fun target => by
    rw [List.reverse_cons, List.reverse_reverse, FileTree.shapeAt_eq_none_iff.2 hgone]
    simp
  rwa [List.reverse_eq_cons_iff, List.reverse_reverse] at hend

/-- What is taken out is not found afterwards. -/
theorem find_remove {place : Location} (hname : name ≠ "..")
    (hplace : fs.entryPlace ((Path.ofLocation folder).child name) = .ok place)
    (hfile : fs.root.sightAt place ≠ some .folder) (e : FileTree) :
    (fs.remove place).find ((Path.ofLocation folder).child name) ≠ .ok e := by
  intro he
  obtain ⟨l, hl, hat⟩ := find_eq_ok_iff.1 he
  obtain rfl := eq_of_locate_remove hname hplace hfile hl
  obtain ⟨around, _, rfl⟩ := exists_around_of_entryPlace hname hplace
  have hgone : (fs.remove (around ++ [name])).root.at? (around ++ [name]) = none :=
    FileTree.at?_remove_self (by simp) fs.root
  rw [hgone] at hat
  cases hat

end Children

/-! ## Files that look alike -/

/-- Away from some locations the same is seen in the files, and at these there is at most a file. -/
structure SameBut (loose : Location → Prop) (fs fs' : Files) : Prop where
  current : fs'.current = fs.current
  root : fs.root.SameBut loose fs'.root

namespace SameBut

variable {loose : Location → Prop}

theorem symm (h : SameBut loose fs fs') : SameBut loose fs' fs :=
  ⟨h.current.symm, h.root.symm⟩

theorem trans {fs'' : Files} (h : SameBut loose fs fs') (h' : SameBut loose fs' fs'') :
    SameBut loose fs fs'' :=
  ⟨h'.current.trans h.current, h.root.trans h'.root⟩

theorem locate (h : SameBut loose fs fs') (p : Path) :
    LookedUpAlike (fs.locate p) (fs'.locate p) := by
  unfold Files.locate
  rw [h.current]
  split
  · exact .same _
  split
  · exact .same _
  have hfollow := h.root.follow mostLinks (p.start fs.current.reverse) p.names
  generalize fs.root.follow mostLinks (p.start fs.current.reverse) p.names = x at hfollow
  generalize fs'.root.follow mostLinks (p.start fs.current.reverse) p.names = x' at hfollow
  cases hfollow with
  | same => exact .same _
  | missing hmissing hmissing' => exact .missing hmissing hmissing'

theorem locate_ok_iff (h : SameBut loose fs fs') : fs.locate p = .ok l ↔ fs'.locate p = .ok l :=
  (h.locate p).ok_iff l

/-- What is found away from the loose locations. -/
inductive FoundAlike : Except PathFault FileTree → Except PathFault FileTree → Prop
  | found {e e' : FileTree} (h : e'.sight = e.sight) : FoundAlike (.ok e) (.ok e')
  | same (fault : PathFault) : FoundAlike (.error fault) (.error fault)
  | missing {fault fault' : PathFault} (h : fault.IsMissing) (h' : fault'.IsMissing) :
      FoundAlike (.error fault) (.error fault')

theorem find (h : SameBut loose fs fs') (hp : ∀ l, fs.locate p = .ok l → ¬loose l) :
    FoundAlike (fs.find p) (fs'.find p) := by
  rw [Files.find, Files.find]
  have hlocate := h.locate p
  generalize fs.locate p = x at hlocate hp
  generalize fs'.locate p = x' at hlocate
  cases hlocate with
  | missing hmissing hmissing' => exact .missing hmissing hmissing'
  | same =>
    cases x with
    | error fault => exact .same fault
    | ok l =>
      have hsight := h.root.elsewhere l (hp l rfl)
      rw [FileTree.sightAt, FileTree.sightAt] at hsight
      dsimp only
      cases hat : fs.root.at? l <;> cases hat' : fs'.root.at? l <;> rw [hat, hat'] at hsight
      · exact .same _
      · cases hsight
      · cases hsight
      · exact .found (Option.some.inj hsight)

theorem isFolder_eq_true_iff (h : SameBut loose fs fs') :
    fs'.isFolder p = .ok true ↔ fs.isFolder p = .ok true := by
  have himp : ∀ {one other : Files}, SameBut loose one other →
      one.isFolder p = .ok true → other.isFolder p = .ok true := by
    intro one other hsame hone
    obtain ⟨l, hl, hshape⟩ := exists_locate_of_isFolder hone
    obtain ⟨entries, hentries⟩ := FileTree.shapeAt_eq_folder_iff.1 (hsame.root.folder hshape)
    exact Files.isFolder_eq_true_iff.2 ⟨entries, find_of_at? (hsame.locate_ok_iff.1 hl) hentries⟩
  exact ⟨himp h.symm, himp h⟩

end SameBut

/-! ## Files without links -/

end Files

end Registrar
