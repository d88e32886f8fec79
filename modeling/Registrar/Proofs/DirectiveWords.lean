/-
How the words of a directive are read, one by one. Before a word there is a lead:
blanks, and behind them a comment or white space that is not blank (`IsLead`).
Without its blanks a lead is empty, or it begins with a character that begins
neither a word nor blanks (`IsStop`). So a word is read when a blank is behind
it, and else it is not (`afterWord?_append`), and a name is an alias when nothing
but blanks are between it and the equals sign (`aliasName?_append`).
-/
import Mathlib.Data.List.TakeWhile
import Registrar.Proofs.TypeShapes
import Registrar.Using

namespace Registrar

namespace Text

/-! ## What stands between words -/

def allBlank (s : String) : Bool :=
  s.toList.all isBlank

def startsBlank (s : String) : Bool :=
  s.toList.head?.any isBlank

/-- What may stand between two words: blanks and, behind them, a comment or white space that is not
blank. -/
def IsLead (s : String) : Prop :=
  ∀ c ∈ (trimStart s.toList).head?, c = '/' ∨ isGap c = true

instance (s : String) : Decidable (IsLead s) :=
  inferInstanceAs (Decidable (∀ c ∈ (trimStart s.toList).head?, c = '/' ∨ isGap c = true))

/-- Where a text begins that is neither blank nor an equals sign. -/
def IsSolid (cs : List Char) : Prop :=
  ∃ c rest, cs = c :: rest ∧ isBlank c = false ∧ c ≠ '='

/-- A character that no word and no blanks begin with. -/
structure IsStop (c : Char) : Prop where
  notBlank : isBlank c = false
  notWord : isInWord c = false
  notEquals : c ≠ '='

/-- The codes of white space. -/
def gapCodes : List Nat :=
  [9, 10, 11, 12, 13, 28, 29, 30, 31, 32, 0x85, 0xA0, 0x1680, 0x2000, 0x2001, 0x2002, 0x2003, 0x2004,
    0x2005, 0x2006, 0x2007, 0x2008, 0x2009, 0x200A, 0x2028, 0x2029, 0x202F, 0x205F, 0x3000, 0xFEFF]

theorem toNat_mem_gapCodes {c : Char} (h : isGap c = true) : c.toNat ∈ gapCodes := by
  simp only [isGap, isBlank, CSharp.isSpace, Bool.or_eq_true, Bool.and_eq_true, decide_eq_true_eq,
    beq_iff_eq] at h
  simp only [gapCodes, List.mem_cons]
  omega

/-- White space is no part of a word, and neither are signs. -/
theorem isInWord_of_isWordChar {c : Char} (h : isWordChar c = true) : isInWord c = true := by
  have hgap : isGap c = false := by
    refine Bool.eq_false_iff.2 fun hgap => ?_
    have hcodes : ∀ n ∈ gapCodes, inRanges wordRanges n = false := by decide +kernel
    rw [isWordChar, hcodes _ (toNat_mem_gapCodes hgap)] at h
    cases h
  have hsign : CSharp.isSign c = false := by
    refine Bool.eq_false_iff.2 fun hsign => ?_
    have hsigns : ∀ c ∈ "\x7b\x7d()[].,:;+-*/%&|^!~=<>?".toList, isWordChar c = false := by
      decide +kernel
    rw [CSharp.isSign, List.contains_iff_mem] at hsign
    rw [hsigns c hsign] at h
    cases h
  rw [isInWord, hgap, hsign]
  rfl

theorem isWordChar_of_notInWord {c : Char} (h : isInWord c = false) : isWordChar c = false :=
  Bool.eq_false_iff.2 fun hword => Bool.eq_false_iff.1 h (isInWord_of_isWordChar hword)

theorem head_notWordChar {cs : List Char} (h : ∀ c ∈ cs.head?, isInWord c = false) :
    ∀ c ∈ cs.head?, isWordChar c = false :=
  fun c hc => isWordChar_of_notInWord (h c hc)

/-- What is left of a lead without its blanks. -/
theorem isStop_of_lead {c : Char} (hlead : c = '/' ∨ isGap c = true) (hblank : isBlank c = false) :
    IsStop c := by
  rcases hlead with rfl | hgap
  · exact ⟨hblank, by decide, by decide⟩
  · refine ⟨hblank, by rw [isInWord, hgap]; rfl, ?_⟩
    rintro rfl
    exact absurd hgap (by decide)

theorem isSolid_append {cs : List Char} (h : IsSolid cs) (rest : List Char) :
    IsSolid (cs ++ rest) := by
  obtain ⟨c, more, rfl, hc⟩ := h
  exact ⟨c, more ++ rest, rfl, hc⟩

theorem trimStart_of_solid {cs : List Char} (h : IsSolid cs) : trimStart cs = cs := by
  obtain ⟨c, rest, rfl, hblank, -⟩ := h
  rw [trimStart, List.dropWhile_cons_of_neg (by simp [hblank])]

theorem trimStart_blanks {lead : String} (h : allBlank lead = true) {cs : List Char}
    (hcs : IsSolid cs) : trimStart (lead.toList ++ cs) = cs := by
  rw [trimStart, List.dropWhile_append_of_pos (by simpa [allBlank] using h), ← trimStart,
    trimStart_of_solid hcs]

theorem exists_trimStart_stop {lead : String} (hlead : IsLead lead) (h : allBlank lead = false)
    (cs : List Char) : ∃ c rest, trimStart (lead.toList ++ cs) = c :: rest ∧ IsStop c := by
  have hne : lead.toList.dropWhile isBlank ≠ [] := by
    rw [ne_eq, List.dropWhile_eq_nil_iff]
    rw [allBlank, List.all_eq_false] at h
    obtain ⟨c, hc, hblank⟩ := h
    exact fun hall => hblank (hall c hc)
  obtain ⟨c, rest, hrest⟩ := List.exists_cons_of_ne_nil hne
  have hblank : isBlank c = false := by
    have hhead := List.head?_dropWhile_not isBlank lead.toList
    rw [hrest] at hhead
    simpa using hhead
  have hstop := hlead c (by rw [trimStart, hrest]; rfl)
  refine ⟨c, rest ++ cs, ?_, isStop_of_lead hstop hblank⟩
  rw [trimStart, List.dropWhile_append, hrest]
  rfl

/-- Without a blank in front there is nothing, or what no blanks begin with. -/
theorem eq_empty_or_stop {lead : String} (hlead : IsLead lead) (h : startsBlank lead = false) :
    lead = "" ∨ ∃ c rest, lead.toList = c :: rest ∧ IsStop c := by
  cases hcs : lead.toList with
  | nil => exact .inl (by simpa using hcs)
  | cons c rest =>
    have hblank : isBlank c = false := by simpa [startsBlank, hcs] using h
    have hstop := hlead c (by rw [hcs, trimStart, List.dropWhile_cons_of_neg (by simp [hblank])]; rfl)
    exact .inr ⟨c, rest, rfl, isStop_of_lead hstop hblank⟩

/-- Behind a word a lead ends it. -/
theorem head_notInWord {lead : String} (hlead : IsLead lead) {cs : List Char}
    (hcs : ∀ c ∈ cs.head?, isInWord c = false) :
    ∀ c ∈ (lead.toList ++ cs).head?, isInWord c = false := by
  cases hstart : startsBlank lead with
  | true =>
    cases hchars : lead.toList with
    | nil => simp [startsBlank, hchars] at hstart
    | cons first rest =>
      have hblank : isBlank first = true := by simpa [startsBlank, hchars] using hstart
      simp [isInWord, isGap, hblank]
  | false =>
    rcases eq_empty_or_stop hlead hstart with rfl | ⟨first, rest, hfirst, hstop⟩
    · exact hcs
    · simp [hfirst, hstop.notWord]

/-- What comes first behind a lead is an equals sign only when the lead is blank. -/
theorem head?_trimStart_lead {lead : String} (hlead : IsLead lead) {c : Char}
    (hc : isBlank c = false) (cs : List Char) :
    ((trimStart (lead.toList ++ c :: cs)).head? == some '=') = (allBlank lead && c == '=') := by
  cases h : allBlank lead with
  | true =>
    rw [trimStart, List.dropWhile_append_of_pos (by simpa [allBlank] using h),
      List.dropWhile_cons_of_neg (by simp [hc])]
    rfl
  | false =>
    obtain ⟨d, rest, hrest, hstop⟩ := exists_trimStart_stop hlead h (c :: cs)
    rw [hrest]
    simpa using hstop.notEquals

/-- A text without blanks at its ends. -/
theorem trim_of_ends {s : String} (hfirst : ∀ c ∈ s.toList.head?, isBlank c = false)
    (hlast : ∀ c ∈ s.toList.getLast?, isBlank c = false) : trim s = s := by
  have hdrop : ∀ cs : List Char, (∀ c ∈ cs.head?, isBlank c = false) →
      cs.dropWhile isBlank = cs := by
    intro cs hcs
    cases cs with
    | nil => rfl
    | cons c rest => rw [List.dropWhile_cons_of_neg (by simp [hcs c rfl])]
  rw [trim, trimStart, hdrop _ hfirst, trimEnd, hdrop s.toList.reverse (by simpa using hlast),
    List.reverse_reverse, String.ofList_toList]

section

variable {p : Char → Bool} {word rest : List Char}

/-- A run of characters that ends. -/
theorem takeWhile_append_end (hword : ∀ c ∈ word, p c = true) (hrest : ∀ c ∈ rest.head?, p c = false) :
    (word ++ rest).takeWhile p = word := by
  rw [List.takeWhile_append_of_pos hword]
  cases rest with
  | nil => simp
  | cons c more => simp [hrest c rfl]

theorem dropWhile_append_end (hword : ∀ c ∈ word, p c = true) (hrest : ∀ c ∈ rest.head?, p c = false) :
    (word ++ rest).dropWhile p = rest := by
  rw [List.dropWhile_append_of_pos hword]
  cases rest with
  | nil => rfl
  | cons c more => simp [hrest c rfl]

end

/-- A run of characters begins with the first of them. -/
theorem takeWhile_ne {p : Char → Bool} {c : Char} {word : List Char} (hne : word ≠ [])
    (h : word.head? ≠ some c) (cs : List Char) : (c :: cs).takeWhile p ≠ word := by
  rintro rfl
  rw [List.takeWhile_cons] at h hne
  cases hc : p c <;> simp_all

end Text

namespace Tree.IsBareWord

variable {word : String}

theorem isSolid (h : IsBareWord word) : Text.IsSolid word.toList := by
  obtain ⟨c, cs, hcs, hc, -⟩ := h.exists_cons
  refine ⟨c, cs, hcs, h.isBlank c (hcs ▸ List.mem_cons_self), ?_⟩
  rintro rfl
  exact absurd hc (by decide)

theorem head_ne_sign (h : IsBareWord word) (rest : List Char) :
    (word.toList ++ rest).head? ≠ some '@' := by
  obtain ⟨c, cs, hcs, -, hsign⟩ := h.exists_cons
  rw [hcs, List.cons_append, List.head?_cons]
  exact fun hc => hsign (Option.some.inj hc)

end Tree.IsBareWord

namespace Directive

open Registrar.Text Registrar.Tree

/-! ## Words -/

section

variable {word lead : String} {cs : List Char}

/-- A word is read when a blank is behind it. -/
theorem afterWord?_append (hlead : IsLead lead) (hcs : IsSolid cs) (word : String) :
    afterWord? word (word.toList ++ (lead.toList ++ cs)) =
      if startsBlank lead then some (trimStart (lead.toList ++ cs)) else none := by
  have hprefix : word.toList.isPrefixOf? (word.toList ++ (lead.toList ++ cs)) =
      some (lead.toList ++ cs) := by
    rw [List.isPrefixOf?_eq_some_iff_append_eq]
  rw [afterWord?, hprefix]
  cases hstart : startsBlank lead with
  | true =>
    cases hchars : lead.toList with
    | nil => simp [startsBlank, hchars] at hstart
    | cons c rest =>
      have hblank : isBlank c = true := by simpa [startsBlank, hchars] using hstart
      simp only [List.cons_append, hblank, if_true]
      rw [trimStart, trimStart, List.dropWhile_cons_of_pos hblank]
  | false =>
    obtain ⟨c, rest, hrest, hblank⟩ :
        ∃ c rest, lead.toList ++ cs = c :: rest ∧ isBlank c = false := by
      rcases eq_empty_or_stop hlead hstart with rfl | ⟨c, rest, hcons, hstop⟩
      · obtain ⟨c, rest, rfl, hblank, -⟩ := hcs
        exact ⟨c, rest, rfl, hblank⟩
      · exact ⟨c, rest ++ cs, by rw [hcons]; rfl, hstop.notBlank⟩
    simp [hrest, hblank]

/-- Another word is not taken for a word. -/
theorem afterWord?_of_ne (hword : IsBareWord word) (h : cs.takeWhile isInWord ≠ word.toList) :
    afterWord? word cs = none := by
  unfold afterWord?
  split
  · next c rest hprefix =>
    split
    · next hblank =>
      refine absurd ?_ h
      have hout : isInWord c = false := by simp [isInWord, isGap, hblank]
      rw [← List.isPrefixOf?_eq_some_iff_append_eq.1 hprefix]
      exact takeWhile_append_end hword.inWord (by simpa using hout)
    · rfl
  · rfl

theorem optionalWord_of_ne (hword : IsBareWord word) (h : cs.takeWhile isInWord ≠ word.toList) :
    optionalWord word cs = (false, cs) := by
  rw [optionalWord, afterWord?_of_ne hword h]

theorem afterWord?_of_stop (hword : IsBareWord word) {c : Char} (h : IsStop c) :
    afterWord? word (c :: cs) = none := by
  refine afterWord?_of_ne hword ?_
  rw [List.takeWhile_cons_of_neg (by simp [h.notWord])]
  exact fun hempty => hword.nonempty (by simpa using hempty.symm)

theorem optionalWord_of_stop (hword : IsBareWord word) {c : Char} (h : IsStop c) :
    optionalWord word (c :: cs) = (false, c :: cs) := by
  rw [optionalWord, afterWord?_of_stop hword h]

end

/-! ## Names with an equals sign -/

theorem aliasName?_of_bare {cs : List Char} (h : cs.head? ≠ some '@') :
    aliasName? cs =
      match cs.takeWhile Text.isWordChar, trimStart (cs.dropWhile Text.isWordChar) with
      | _ :: _, '=' :: _ => some (String.ofList (cs.takeWhile Text.isWordChar))
      | _, _ => none := by
  unfold aliasName?
  split
  · exact absurd rfl h
  · rfl

theorem aliasName?_verbatim {cs : List Char} (h : cs.head? ≠ some '@') :
    aliasName? ('@' :: cs) = aliasName? cs := by
  rw [aliasName?_of_bare h]
  rfl

/-- A word is an alias when it has word characters only and an equals sign behind it. -/
theorem aliasName?_append {word : String} (hword : IsBareWord word) {rest : List Char}
    (hrest : ∀ c ∈ rest.head?, Text.isWordChar c = false) :
    aliasName? (word.toList ++ rest) =
      if word.toList.all Text.isWordChar && (trimStart rest).head? == some '=' then some word
      else none := by
  rw [aliasName?_of_bare (hword.head_ne_sign rest)]
  cases hall : word.toList.all Text.isWordChar with
  | true =>
    obtain ⟨first, others, hfirst, -⟩ := hword.exists_cons
    have hchars : ∀ c ∈ word.toList, Text.isWordChar c = true := by simpa using hall
    rw [takeWhile_append_end hchars hrest, dropWhile_append_end hchars hrest, String.ofList_toList,
      hfirst]
    split
    · next hequals => simp [hequals]
    · next hother =>
      have hne : (trimStart rest).head? ≠ some '=' := by
        intro hequals
        obtain ⟨more, hmore⟩ := List.head?_eq_some_iff.1 hequals
        exact hother _ _ _ rfl hmore
      simp [hne]
  | false =>
    -- The reading ends inside of the word, and no equals sign is there.
    have hinside : word.toList.dropWhile Text.isWordChar ≠ [] := by
      rw [ne_eq, List.dropWhile_eq_nil_iff]
      simpa using hall
    obtain ⟨c, more, hmore⟩ := List.exists_cons_of_ne_nil hinside
    have hmem : c ∈ word.toList := (List.dropWhile_suffix _).subset (hmore ▸ List.mem_cons_self)
    have hblank := hword.isBlank c hmem
    have hdrop : trimStart ((word.toList ++ rest).dropWhile Text.isWordChar) = c :: (more ++ rest) := by
      rw [List.dropWhile_append, hmore]
      exact List.dropWhile_cons_of_neg (by simp [hblank])
    rw [hdrop]
    split
    · next heq =>
      obtain rfl : c = '=' := (List.cons.inj heq).1
      exact absurd (hword.inWord '=' hmem) (by decide)
    · rfl

theorem aliasName?_of_stop {c : Char} (h : IsStop c) (rest : List Char) :
    aliasName? (c :: rest) = none := by
  have hc : c ≠ '@' := by
    rintro rfl
    exact absurd h.notWord (by decide)
  have hword := isWordChar_of_notInWord h.notWord
  unfold aliasName?
  simp [hc, hword]

end Directive

end Registrar
