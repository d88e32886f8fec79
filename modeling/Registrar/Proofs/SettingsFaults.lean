/-
What settings are refused for. The entries of a mapping are refused for a whole number that has to
be written as a text and is too long for it, or for the name of the output
(`Section.ofEntries_eq_error_iff`); before that their file must be found, be a text, and have a
value. `Config.unread_iff` picks out the causes that the program has no words for. A path without a
location is one of them when it is not the operating system that refuses it
(`Machine.place_misled_iff`).
-/
import Registrar.Command
import Registrar.Proofs.RunEffects

namespace Registrar

theorem PathError.report?_eq_none_iff {e : PathError} :
    e.report? = none ↔ e.fault.system? = none := by
  obtain ⟨fault, path⟩ := e
  cases fault <;> simp [report?, PathFault.system?]

theorem bind_pure_eq_error_iff {x : Except ε α} {f : α → β} {e : ε} :
    (x >>= fun a => pure (f a)) = .error e ↔ x = .error e := by
  simp [bind_eq_error_iff, pure, Except.pure]

/-! ## Paths without a location -/

/-- What leaves a path without a location, apart from what the operating system has words for: a
null character, or links that lead back to themselves. -/
inductive Files.Misplaced (fs : Files) (p : Path) : PathError → Prop
  | nullCharacter (hnull : p.hasNull = true) : Misplaced fs p ⟨.nullCharacter, p.text⟩
  | linkLoop (hnull : p.hasNull = false) (hhere : p.anchor.isEmpty = true → fs.isHere = true)
      (hloop : fs.locate (.ofLocation (fs.resolve p)) = .error .tooManyLinks) :
      Misplaced fs p ⟨.linkLoop, Location.text (fs.resolve p)⟩

/-- A path begins in a home folder that is not known. -/
def Machine.Homeless (m : Machine) (p : Path) : Prop :=
  p.anchor.isEmpty = true ∧ ∃ name rest, p.names = name :: rest ∧
    name.toList.head? = some '~' ∧ m.home? name = none

/-- What leaves a path from outside without a location. -/
inductive Machine.Misled (m : Machine) (fs : Files) (p : Path) : PathError → Prop
  | noHome (h : m.Homeless p) : Misled m fs p ⟨.noHome, p.text⟩
  | misplaced {q : Path} {e : PathError} (hexpand : m.expand p = .ok q) (h : fs.Misplaced q e) :
      Misled m fs p e

theorem Machine.expand_eq_error_iff {m : Machine} {p : Path} {e : PathError} :
    m.expand p = .error e ↔ e = ⟨.noHome, p.text⟩ ∧ m.Homeless p := by
  unfold expand Homeless
  constructor
  · intro h
    split at h
    · next name rest hanchor hnames =>
      split at h
      · next htilde =>
        split at h
        · cases h
        · next hhome =>
          cases h
          exact ⟨rfl, hanchor, name, rest, hnames, htilde, hhome⟩
      · cases h
    · cases h
  · rintro ⟨rfl, hanchor, name, rest, hnames, htilde, hhome⟩
    rw [hanchor, hnames]
    dsimp only
    rw [if_pos htilde, hhome]

theorem Files.place_misplaced_iff {fs : Files} {p : Path} {e : PathError} :
    fs.place p = .error e ∧ e.fault.system? = none ↔ fs.Misplaced p e := by
  constructor
  · rintro ⟨h, hfault⟩
    unfold place at h
    split at h
    · next hnull =>
      cases h
      exact .nullCharacter hnull
    next hnull =>
    split at h
    · cases h; cases hfault
    next hhere =>
    rw [loopAt?] at h
    split at h
    · next hloop =>
      split at hloop
      · next hlocate =>
        cases hloop
        cases h
        refine .linkLoop (by simpa using hnull) (fun hanchor => ?_) hlocate
        simpa [hanchor] using hhere
      · cases hloop
    · cases h
  · intro h
    cases h with
    | nullCharacter hnull => exact ⟨by rw [place, if_pos hnull], rfl⟩
    | linkLoop hnull hhere hloop =>
      refine ⟨?_, rfl⟩
      have hthere : (p.anchor.isEmpty && !fs.isHere) = false := by
        cases hanchor : p.anchor.isEmpty <;> simp [hhere, hanchor]
      rw [place, hnull, hthere, loopAt?, hloop]
      rfl

theorem Machine.place_misled_iff {m : Machine} {fs : Files} {p : Path} {e : PathError} :
    m.place fs p = .error e ∧ e.fault.system? = none ↔ m.Misled fs p e := by
  rw [place, bind_eq_error_iff]
  constructor
  · rintro ⟨hexpand | ⟨q, hexpand, h⟩, hfault⟩
    · obtain ⟨rfl, hhome⟩ := expand_eq_error_iff.1 hexpand
      exact .noHome hhome
    · exact .misplaced hexpand (Files.place_misplaced_iff.1 ⟨h, hfault⟩)
  · intro h
    cases h with
    | noHome h => exact ⟨.inl (expand_eq_error_iff.2 ⟨rfl, h⟩), rfl⟩
    | misplaced hexpand h =>
      obtain ⟨hplace, hfault⟩ := Files.place_misplaced_iff.2 h
      exact ⟨.inr ⟨_, hexpand, hplace⟩, hfault⟩

/-! ## Numbers that are too long -/

namespace Value

/-- A whole number with more digits than are written. -/
def IsTooLong (v : Value) : Prop :=
  ∃ n, v = .int n ∧ mostDigits < (Nat.toDigits 10 n.natAbs).length

/-- A list with such a number in it. -/
def HoldsTooLong (v : Value) : Prop :=
  ∃ items, v = .list items ∧ ∃ item ∈ items, item.IsTooLong

theorem text?_eq_error_iff {v : Value} {e : TooLong} : v.text? = .error e ↔ v.IsTooLong := by
  cases v with
  | int n =>
    rw [text?]
    split
    · next hlong => exact iff_of_true rfl ⟨n, rfl, hlong⟩
    · next hshort =>
      refine iff_of_false (fun h => by cases h) ?_
      rintro ⟨_, ⟨rfl⟩, hlong⟩
      exact hshort hlong
  | null | truth | float | text | bytes | list | mapping | other =>
    refine iff_of_false (fun h => by cases h) ?_
    rintro ⟨_, h, _⟩
    cases h

theorem mapM_text?_eq_error_iff {items : List Value} {e : TooLong} :
    items.mapM text? = .error e ↔ ∃ item ∈ items, item.IsTooLong := by
  induction items with
  | nil => simp [pure, Except.pure]
  | cons item rest ih =>
    simp only [List.mapM_cons, bind_eq_error_iff, text?_eq_error_iff, ih, List.mem_cons,
      exists_eq_or_imp, pure, Except.pure, reduceCtorEq, and_false, exists_false, or_false]
    -- The rest is looked at only when the first one has a text.
    by_cases hlong : item.IsTooLong
    · simp [hlong]
    · have hok : ∃ o, item.text? = .ok o := by
        cases htext : item.text? with
        | ok o => exact ⟨o, rfl⟩
        | error e => exact absurd (text?_eq_error_iff.1 htext) hlong
      simp [hlong, hok]

theorem texts_eq_error_iff {v : Value} {e : TooLong} : v.texts = .error e ↔ v.HoldsTooLong := by
  cases v with
  | list items =>
    rw [texts, bind_pure_eq_error_iff, mapM_text?_eq_error_iff]
    simp [HoldsTooLong]
  | null | truth | int | float | text | bytes | mapping | other =>
    refine iff_of_false (fun h => by cases h) ?_
    rintro ⟨_, h, _⟩
    cases h

end Value

theorem Section.text?_eq_error_iff {entries : Section} {key : String} {e : TooLong} :
    entries.text? key = .error e ↔ (entries.under key).IsTooLong :=
  bind_pure_eq_error_iff.trans Value.text?_eq_error_iff

theorem Text.readLines?_eq_none_iff {bytes : ByteArray} :
    Text.readLines? bytes = none ↔ Text.decode? bytes = none :=
  Option.map_eq_none_iff

namespace Config

variable {m : Machine} {fs : Files} {p : Path} {l root : Location} {bytes : ByteArray}
  {entries : Section} {e : ConfigError}

/-! ## Settings that are refused -/

/-- A whole number that is too long to be written is asked for as a text. The name of the output is
asked for first, and the others only when it is one. -/
def WantsTooLong (entries : Section) : Prop :=
  ((entries.inner "output").under "file_name").IsTooLong ∨
    (∃ name, (entries.inner "output").text? "file_name" = .ok name ∧ name.all isBareName = true) ∧
      (((entries.inner "output").under "templates_dir").IsTooLong ∨
        ((entries.inner "sources").under "extensions").HoldsTooLong ∨
        ((entries.inner "contracts").under "query").HoldsTooLong ∨
        ((entries.inner "contracts").under "command").HoldsTooLong ∨
        (entries.under "exclude_paths").HoldsTooLong)

theorem text_error_iff {part : Section} {key : String} :
    (part.text? key).mapError (fun _ => ConfigError.tooLong) = .error e ↔
      e = .tooLong ∧ (part.under key).IsTooLong := by
  simp only [mapError_eq_error_iff, Section.text?_eq_error_iff]
  exact ⟨fun ⟨_, hlong, he⟩ => ⟨he.symm, hlong⟩, fun ⟨he, hlong⟩ => ⟨{}, hlong, he.symm⟩⟩

theorem texts_error_iff {part : Section} {key : String} :
    (part.texts key).mapError (fun _ => ConfigError.tooLong) = .error e ↔
      e = .tooLong ∧ (part.under key).HoldsTooLong := by
  simp only [mapError_eq_error_iff, Section.texts, Value.texts_eq_error_iff]
  exact ⟨fun ⟨_, hlong, he⟩ => ⟨he.symm, hlong⟩, fun ⟨he, hlong⟩ => ⟨{}, hlong, he.symm⟩⟩

/-- The names of contracts are asked for when there is something under their key. -/
theorem names_error_iff {part : Section} {key : String} {names : List String} :
    (if part.has key then (part.texts key).mapError (fun _ => ConfigError.tooLong)
      else .ok names) = .error e ↔ e = .tooLong ∧ (part.under key).HoldsTooLong := by
  split
  · exact texts_error_iff
  · next hnone =>
    refine iff_of_false (fun h => by cases h) ?_
    rintro ⟨_, items, hitems, _⟩
    rw [Section.has, Option.not_isSome_iff_eq_none] at hnone
    rw [Section.under, hnone] at hitems
    cases hitems

/-- A step that fails for one cause, in front of others that fail for theirs. -/
theorem bind_error_iff {x : Except ConfigError α} {f : α → Except ConfigError β}
    {here later : Prop} (hx : ∀ e, x = .error e ↔ e = .tooLong ∧ here)
    (hf : ∀ a e, f a = .error e ↔ e = .tooLong ∧ later) (e : ConfigError) :
    x >>= f = .error e ↔ e = .tooLong ∧ (here ∨ later) := by
  cases x with
  | error e' =>
    obtain ⟨rfl, hhere⟩ := (hx e').1 rfl
    simp [bind_eq_error_iff, hhere, eq_comm]
  | ok a =>
    have hhere : ¬here := fun h => by cases (hx .tooLong).2 ⟨rfl, h⟩
    simp [bind_eq_error_iff, hf, hhere]

/-- The entries of settings are refused for a number that is too long, or for the name of the
output. -/
theorem ofEntries_eq_error_iff :
    ofEntries root entries = .error e ↔
      e = .tooLong ∧ WantsTooLong entries ∨
        e = .outputName ∧ ∃ name, (entries.inner "output").text? "file_name" = .ok name ∧
          name.all isBareName = false := by
  unfold ofEntries WantsTooLong
  dsimp only
  cases hname : (entries.inner "output").text? "file_name" with
  | error fault =>
    have hlong := Section.text?_eq_error_iff.1 hname
    constructor
    · intro h
      exact .inl ⟨(Except.error.inj h).symm, .inl hlong⟩
    · rintro (⟨rfl, _⟩ | ⟨_, _, h, _⟩)
      · rfl
      · cases h
  | ok name =>
    have hshort : ¬((entries.inner "output").under "file_name").IsTooLong := fun h => by
      cases hname.symm.trans (Section.text?_eq_error_iff.2 h : _ = .error {})
    rw [or_iff_right hshort, mapError_ok]
    cases hbare : name.all isBareName with
    | false =>
      constructor
      · intro h
        dsimp only [bind, Except.bind] at h
        rw [hbare] at h
        exact .inr ⟨(Except.error.inj h).symm, name, rfl, hbare⟩
      · rintro (⟨_, ⟨other, h, hother⟩, _⟩ | ⟨rfl, _⟩)
        · obtain rfl := Except.ok.inj h
          rw [hbare] at hother
          cases hother
        · dsimp only [bind, Except.bind]
          rw [hbare]
          rfl
    | true =>
      have hgoes : ∀ f : Option String → Except ConfigError Config,
          (.ok name >>= f) = f name := fun _ => rfl
      rw [hgoes, hbare, Bool.not_true, if_neg Bool.false_ne_true]
      -- Five texts are asked for, one after the other.
      refine Iff.trans (bind_error_iff (fun _ => text_error_iff) (fun _ =>
        bind_error_iff (fun _ => texts_error_iff) fun _ =>
          bind_error_iff (fun _ => names_error_iff) fun _ =>
            bind_error_iff (fun _ => names_error_iff) fun _ _ =>
              bind_pure_eq_error_iff.trans texts_error_iff) e) ?_
      simp [hbare]

theorem ofValue_eq_error_iff {v : Value} :
    ofValue root v = .error e ↔
      (∃ entries, v = .mapping entries ∧ ofEntries root entries = .error e) ∨
        e = .notMapping ∧ v.isBlank = false ∧ ∀ entries, v ≠ .mapping entries := by
  have hother : (if v.isBlank then .ok (default root) else .error .notMapping :
      Except ConfigError Config) = .error e ↔ e = .notMapping ∧ v.isBlank = false := by
    cases v.isBlank <;> simp [eq_comm]
  cases v with
  | mapping entries => simp [ofValue]
  | null | truth | int | float | text | bytes | list | other => simpa [ofValue] using hother

theorem ofText_eq_error_iff {name text : String} :
    ofText m root name text = .error e ↔
      (Text.trim text).isEmpty = false ∧
        ((∃ x, m.load text = .error x ∧ .ofRaised name x = e) ∨
          ∃ v, m.load text = .ok v ∧ ofValue root v = .error e) := by
  unfold ofText
  cases (Text.trim text).isEmpty with
  | true => simp
  | false => cases m.load text <;> simp

/-! ## Settings in a file -/

/-- The settings are at `l`, in the folder `root`, in a file of these bytes. -/
structure Holds (m : Machine) (fs : Files) (p : Path) (l root : Location) (bytes : ByteArray) :
    Prop where
  located : locate m fs p = .ok l
  around : fs.place (.ofLocation l.dropLast) = .ok root
  file : fs.find (.ofLocation l) = .ok (.file bytes)

/-- How settings are loaded. -/
inductive Loads (m : Machine) (fs : Files) (p : Path) : Except ConfigError Config → Prop
  | unplaced {x : PathError} (h : locate m fs p = .error x) : Loads m fs p (.error (.path x))
  | adrift {l : Location} {x : PathError} (hl : locate m fs p = .ok l)
      (h : fs.place (.ofLocation l.dropLast) = .error x) : Loads m fs p (.error (.path x))
  | unreadable {x : PathError} (h : x.fault.system?.isSome = true) : Loads m fs p (.error (.path x))
  | absent (root : Location) : Loads m fs p (.ok (default root))
  | notText {l root : Location} {bytes : ByteArray} (h : Holds m fs p l root bytes)
      (htext : Text.readLines? bytes = none) : Loads m fs p (.error .notText)
  | text {l root : Location} {bytes : ByteArray} {text : String} (h : Holds m fs p l root bytes)
      (htext : Text.readLines? bytes = some text) :
      Loads m fs p (ofText m root (Path.ofLocation l).name text)

theorem load_of_holds (h : Holds m fs p l root bytes) :
    load m fs p =
      match Text.readLines? bytes with
      | none => .error .notText
      | some text => ofText m root (Path.ofLocation l).name text := by
  have hprobe := Files.probe_eq_some_iff.2 h.file
  have hread : fs.read (.ofLocation l) = .ok bytes := by rw [Files.read, h.file]
  simp only [load, h.located, h.around, hprobe, hread, mapError_ok, bind, Except.bind]
  rfl

theorem loads (m : Machine) (fs : Files) (p : Path) : Loads m fs p (load m fs p) := by
  cases hlocate : locate m fs p with
  | error x =>
    rw [load, hlocate]
    exact .unplaced hlocate
  | ok l =>
    cases hroot : fs.place (.ofLocation l.dropLast) with
    | error x =>
      simp only [load, hlocate, hroot, mapError_ok, bind, Except.bind]
      exact .adrift hlocate hroot
    | ok root =>
      cases hprobe : fs.probe (.ofLocation l) with
      | error x =>
        simp only [load, hlocate, hroot, hprobe, mapError_ok, bind, Except.bind]
        refine .unreadable ?_
        rw [(Files.probe_eq_error_iff.1 hprobe).2]
        rfl
      | ok found =>
        cases found with
        | none =>
          simp only [load, hlocate, hroot, hprobe, mapError_ok, bind, Except.bind]
          exact .absent root
        | some found =>
          have hfind := Files.probe_eq_some_iff.1 hprobe
          cases found with
          | file bytes =>
            have hholds : Holds m fs p l root bytes := ⟨hlocate, hroot, hfind⟩
            rw [load_of_holds hholds]
            cases htext : Text.readLines? bytes with
            | none => exact .notText hholds htext
            | some text => exact .text hholds htext
          | folder | link =>
            simp only [load, hlocate, hroot, hprobe, Files.read, hfind, mapError_ok, bind,
              Except.bind]
            exact .unreadable rfl

/-! ## Settings that break off -/

/-- Why settings are refused in a way that the program has no words for. -/
inductive Unread (m : Machine) (fs : Files) (p : Path) : ConfigError → Prop
  | noHome (h : m.Homeless p) : Unread m fs p (.path ⟨.noHome, p.text⟩)
  | misplaced {q : Path} {isFolder : Bool} {x : PathError} (hq : m.expand p = .ok q)
      (hfolder : fs.isFolder q = .ok isFolder)
      (h : fs.Misplaced (if isFolder then q.child configName else q) x) : Unread m fs p (.path x)
  | adrift {l : Location} {x : PathError} (hl : locate m fs p = .ok l)
      (h : fs.Misplaced (.ofLocation l.dropLast) x) : Unread m fs p (.path x)
  | notText {l root : Location} {bytes : ByteArray} (h : Holds m fs p l root bytes)
      (htext : Text.decode? bytes = none) : Unread m fs p .notText
  | raised {l root : Location} {bytes : ByteArray} {text name : String} {x : Raised}
      (h : Holds m fs p l root bytes) (htext : Text.readLines? bytes = some text)
      (hblank : (Text.trim text).isEmpty = false) (hload : m.load text = .error x)
      (hkind : x.kind = .other name) : Unread m fs p (.raised x)
  | tooLong {l root : Location} {bytes : ByteArray} {text : String} {entries : Section}
      (h : Holds m fs p l root bytes) (htext : Text.readLines? bytes = some text)
      (hblank : (Text.trim text).isEmpty = false) (hload : m.load text = .ok (.mapping entries))
      (hlong : WantsTooLong entries) : Unread m fs p .tooLong

theorem locate_eq_error_iff {x : PathError} :
    locate m fs p = .error x ↔
      m.expand p = .error x ∨ ∃ q, m.expand p = .ok q ∧
        (fs.isFolder q = .error x ∨ ∃ isFolder, fs.isFolder q = .ok isFolder ∧
          fs.place (if isFolder then q.child configName else q) = .error x) := by
  simp only [locate, bind_eq_error_iff]

theorem unread_of_unplaced {x : PathError} (h : locate m fs p = .error x)
    (hfault : x.fault.system? = none) : Unread m fs p (.path x) := by
  rcases locate_eq_error_iff.1 h with hhome | ⟨q, hq, hisFolder | ⟨isFolder, hfolder, hplace⟩⟩
  · obtain ⟨rfl, hhomeless⟩ := Machine.expand_eq_error_iff.1 hhome
    exact .noHome hhomeless
  · have hsystem := Files.system?_of_isFolder hisFolder
    rw [hfault] at hsystem
    cases hsystem
  · exact .misplaced hq hfolder (Files.place_misplaced_iff.1 ⟨hplace, hfault⟩)

/-- The settings that a text holds break off for what the reader raises, or for a number that is too
long. -/
theorem ofText_unread_iff {name text : String} :
    ofText m root name text = .error e ∧ (RunError.settings e).report? = none ↔
      (Text.trim text).isEmpty = false ∧
        ((∃ x kind, e = .raised x ∧ m.load text = .error x ∧ x.kind = .other kind) ∨
          e = .tooLong ∧ ∃ entries, m.load text = .ok (.mapping entries) ∧
            WantsTooLong entries) := by
  rw [ofText_eq_error_iff, and_assoc]
  refine and_congr_right fun _ => ?_
  constructor
  · rintro ⟨⟨x, hload, rfl⟩ | ⟨v, hload, h⟩, hreport⟩
    · rw [ConfigError.ofRaised] at hreport ⊢
      split at hreport
      · cases hreport
      next hwellFormed =>
      rw [if_neg hwellFormed]
      cases hkind : x.kind with
      | other kind => exact .inl ⟨x, kind, rfl, hload, hkind⟩
      | malformed => exact absurd hkind hwellFormed
      | missing | system => simp [RunError.report?, Raised.report?, hkind] at hreport
    · rcases ofValue_eq_error_iff.1 h with ⟨entries, rfl, h⟩ | ⟨rfl, _⟩
      · rcases ofEntries_eq_error_iff.1 h with ⟨rfl, hlong⟩ | ⟨rfl, _⟩
        · exact .inr ⟨rfl, entries, hload, hlong⟩
        · cases hreport
      · cases hreport
  · rintro (⟨x, kind, rfl, hload, hkind⟩ | ⟨rfl, entries, hload, hlong⟩)
    · refine ⟨.inl ⟨x, hload, ?_⟩, ?_⟩
      · rw [ConfigError.ofRaised, hkind]
        rfl
      · simp [RunError.report?, Raised.report?, hkind]
    · exact ⟨.inr ⟨_, hload, ofEntries_eq_error_iff.2 (.inl ⟨rfl, hlong⟩)⟩, rfl⟩

theorem load_of_unread (h : Unread m fs p e) : load m fs p = .error e := by
  have hunplaced : ∀ {x : PathError}, locate m fs p = .error x → load m fs p = .error (.path x) :=
    fun h => by rw [load, h]; rfl
  cases h with
  | noHome h =>
    exact hunplaced (locate_eq_error_iff.2 (.inl (Machine.expand_eq_error_iff.2 ⟨rfl, h⟩)))
  | misplaced hq hfolder h =>
    have hplace := (Files.place_misplaced_iff.2 h).1
    exact hunplaced (locate_eq_error_iff.2 (.inr ⟨_, hq, .inr ⟨_, hfolder, hplace⟩⟩))
  | adrift hl h =>
    simp only [load, hl, (Files.place_misplaced_iff.2 h).1, mapError_ok, bind, Except.bind]
    rfl
  | notText h htext => rw [load_of_holds h, Text.readLines?_eq_none_iff.2 htext]
  | raised h htext hblank hload hkind =>
    rw [load_of_holds h, htext]
    exact (ofText_unread_iff.2 ⟨hblank, .inl ⟨_, _, rfl, hload, hkind⟩⟩).1
  | tooLong h htext hblank hload hlong =>
    rw [load_of_holds h, htext]
    exact (ofText_unread_iff.2 ⟨hblank, .inr ⟨rfl, _, hload, hlong⟩⟩).1

theorem unread_iff :
    load m fs p = .error e ∧ (RunError.settings e).report? = none ↔ Unread m fs p e := by
  constructor
  · rintro ⟨hload, hreport⟩
    have hloads := loads m fs p
    rw [hload] at hloads
    generalize hresult : (.error e : Except ConfigError Config) = result at hloads
    cases hloads with
    | unplaced h =>
      cases hresult
      exact unread_of_unplaced h (PathError.report?_eq_none_iff.1 hreport)
    | adrift hl h =>
      cases hresult
      exact .adrift hl (Files.place_misplaced_iff.1 ⟨h, PathError.report?_eq_none_iff.1 hreport⟩)
    | unreadable h =>
      cases hresult
      rw [PathError.report?_eq_none_iff.1 hreport] at h
      cases h
    | absent => cases hresult
    | notText h htext =>
      cases hresult
      exact .notText h (Text.readLines?_eq_none_iff.1 htext)
    | text h htext =>
      obtain ⟨hblank, hcause⟩ := ofText_unread_iff.1 ⟨hresult.symm, hreport⟩
      rcases hcause with ⟨x, kind, rfl, hx, hkind⟩ | ⟨rfl, entries, hentries, hlong⟩
      · exact .raised h htext hblank hx hkind
      · exact .tooLong h htext hblank hentries hlong
  · intro h
    refine ⟨load_of_unread h, ?_⟩
    cases h with
    | misplaced _ _ h | adrift _ h =>
      exact PathError.report?_eq_none_iff.2 (Files.place_misplaced_iff.2 h).2
    | noHome | notText | tooLong => rfl
    | raised _ _ _ _ hkind => simp [RunError.report?, Raised.report?, hkind]

end Config

end Registrar
