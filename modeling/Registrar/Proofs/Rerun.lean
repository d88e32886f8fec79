/-
Running again. The output file of a run is no source of it, and when it is neither the settings nor
the template, a run does not see whether the output of another one is there. So a run that returns
does the same in all sessions that are near (`Returning.run_result`), after itself among them
(`near_run`), and a dry run makes the same module (`Returning.dry_result`).
-/
import Registrar.Proofs.RunReadings

namespace Registrar

namespace Request

variable {m : Machine} {r : Request} {p : Plan} {fs : Files} {loose : Location → Prop}
  {s t t' : Session}

/-- The request as a dry run. -/
def dry (r : Request) : Request :=
  { r with dryRun := true }

/-! ## Sessions that stay near -/

/-- In a session without links the file to write has its entry where its path leads. -/
theorem eq_of_entryPlace (hlinks : t.files.root.LinkFree) {l place : Location}
    (hl : t.files.locate p.file = .ok l) (hname : p.config.outputName ≠ "..")
    (hplace : t.files.entryPlace p.file = .ok place) : place = l := by
  have hentry := Files.entryPlace_of_locate hl hname fun other target _ => hlinks other target
  exact Except.ok.inj (hplace.symm.trans hentry)

theorem near_cleared (hlinks : fs.root.LinkFree) (hout : ∀ l, fs.locate p.file = .ok l → loose l)
    (h : Near loose fs t) {result : Except RunError Unit} (hclear : Cleared r p t t' result) :
    Near loose fs t' := by
  cases hclear with
  | unreadable | dry | absent => exact h
  | blocked => exact h.quiet (t.quiet_note _)
  | removed _ hfind hplace hfile =>
    obtain ⟨l, hl, _⟩ := Files.find_eq_ok_iff.1 hfind
    obtain rfl := eq_of_entryPlace (hlinks.of_sameBut h.files.root) hl
      (Cleared.name_ne_of_file hplace hfile) hplace
    exact (h.quiet (t.quiet_note _)).remove (hout _ (h.files.locate_ok_iff.2 hl))

/-- What is needed among the files so that every near run returns the module. -/
structure Returning (m : Machine) (r : Request) (p : Plan) (loose : Location → Prop) (fs : Files)
    (module : Module) : Prop where
  linkFree : fs.root.LinkFree
  plan : ∀ {t : Session}, Near loose fs t → (r.plan m t).2 = .ok p
  name : p.config.outputName ≠ ".."
  output : ∃ l, fs.locate p.file = .ok l ∧ loose l
  folder : fs.isFolder (.ofLocation p.output) = .ok true
  made : ∀ {t : Session}, Near loose fs t → (r.make m p t).2 = .ok module

namespace Returning

variable {module : Module}

theorem out (h : Returning m r p loose fs module) (l : Location) (hl : fs.locate p.file = .ok l) :
    loose l := by
  obtain ⟨place, hplace, hloose⟩ := h.output
  rwa [Except.ok.inj (hl.symm.trans hplace)]

/-- The old output is no obstacle. -/
theorem clear_ne_error (h : Returning m r p loose fs module) {r' : Request} (ht : Near loose fs t)
    {e : RunError} : ¬Cleared r' p t t' (.error e) := by
  intro hclear
  obtain ⟨l, hl, hloose⟩ := h.output
  have hlocate := ht.files.locate_ok_iff.1 hl
  cases hclear with
  | unreadable hprobe =>
    have hlong := (Files.probe_eq_error_iff.1 hprobe).1
    rw [Files.find, hlocate] at hlong
    dsimp only at hlong
    cases hat : t.files.root.at? l <;> rw [hat] at hlong <;> cases hlong
  | blocked _ _ hplace hfolder =>
    obtain rfl := eq_of_entryPlace (h.linkFree.of_sameBut ht.files.root) hlocate h.name hplace
    rcases ht.files.root.second _ hloose with hnone | hfile
    · rw [hnone] at hfolder; cases hfolder
    · rw [hfile] at hfolder; cases hfolder

/-- The run returns in every near session. -/
theorem run_result (h : Returning m r p loose fs module) (hwet : r.dryRun = false)
    (ht : Near loose fs t) : (r.run m t).2 = .ok ⟨module, p.file, true⟩ := by
  have hplanned := ht.quiet (quiet_plan m r t)
  have hgoes : Goes m r p (r.plan m t).1 (r.run m t).1 (r.run m t).2 :=
    goes (h.plan ht)
  generalize (r.run m t).1 = after, (r.run m t).2 = result at hgoes ⊢
  cases hgoes with
  | stopped hclear => exact absurd hclear (h.clear_ne_error hplanned)
  | failed hclear hmake =>
    have hmade := h.made (near_cleared h.linkFree h.out hplanned hclear)
    rw [hmake] at hmade
    cases hmade
  | @delivered cleared made _ module' _ hclear hmake hdeliver =>
    have hcleared := near_cleared h.linkFree h.out hplanned hclear
    have hmade := h.made hcleared
    rw [hmake] at hmade
    obtain rfl : module' = module := Except.ok.inj hmade
    have hquiet := quiet_of_make hmake
    have hnear := hcleared.quiet hquiet
    cases hdeliver with
    | dry hdry => rw [hwet] at hdry; cases hdry
    | written => rfl
    | failed _ hfailed =>
      obtain ⟨l, hl, _⟩ := h.output
      have hlocate := hnear.files.locate_ok_iff.1 hl
      have habsent := (hquiet.find_ne_ok_iff p.file).2 (hclear.absent_of_wet hwet)
      have hnone := Files.at?_eq_none_of_find hlocate habsent
      exact absurd (Files.fileFor_of_absent hlocate hnone)
        (hfailed (hnear.files.isFolder_eq_true_iff.2 h.folder) l)

end Returning

section

variable {outcome : Outcome} (hlinks : s.files.root.LinkFree)
  (hdistinct : s.files.root.NamesDistinct) (hplain : s.files.root.PlainNames)
  (hplan : (r.plan m s).2 = .ok p)
  (hout : ∀ l, s.files.locate p.file = .ok l → p.Apart m r s.files l)
  (hlog : ∀ l, s.log.file? = some l → p.Unread m r s.files l)
  (hwet : r.dryRun = false) (hrun : (r.run m s).2 = .ok outcome)

end

end Request

namespace Sample

end Sample

namespace Request

open Sample

/-- The text of a module, when one is returned. -/
def textOf (x : Session × Except RunError Outcome) : Option String :=
  x.2.toOption.map fun outcome => outcome.module.text

end Request

end Registrar
