/-
The words and signs of a using directive, as the children of its node tell them
(`Form`, `IsWritten`), and what its text says (`Form.seen`). The text is read as
`seen` says for all white space and all comments between the words
(`read_eq_seen`), from the last word to the first: each step reads one word, or
stops at what is not blank behind it.
-/
import Registrar.Proofs.DirectiveWords

namespace Registrar

open Registrar.CSharp

namespace Directive

open Registrar.Text Registrar.Tree

/-! ## Directives word by word -/

/-- The name that a directive gives to its target, and the equals sign behind it. -/
structure Naming where
  word : String
  name : Part
  equals : Part

/-- The words and signs of a directive in their order, each with what stands before it. -/
structure Form where
  globalWord : Option Part
  usingWord : Part
  staticWord : Option Part
  unsafeWord : Option Part
  naming : Option Naming
  target : Part
  semicolon : Part

namespace Form

def behindUnsafe (f : Form) : List Part :=
  (f.naming.elim [] fun a => [a.name, a.equals]) ++ [f.target, f.semicolon]

def behindStatic (f : Form) : List Part :=
  f.unsafeWord.toList ++ f.behindUnsafe

def behindUsing (f : Form) : List Part :=
  f.staticWord.toList ++ f.behindStatic

def parts (f : Form) : List Part :=
  f.globalWord.toList ++ f.usingWord :: f.behindUsing

end Form

/-- A word or sign of the language. -/
structure IsToken (word : String) (p : Part) : Prop where
  text : p.node.text = word
  unnamed : p.node.isNamed = false
  kind : p.node.kind = Kind.ofLabel word

/-- The keywords that may stand before a target. -/
def targetKeywords : List String :=
  ["static", "unsafe"]

/-- A type begins with a word that is no keyword of directives, and no equals sign stands behind it,
or with a bracket. -/
inductive BeginsType : String → Prop
  | word {word rest : String} (hword : IsBareWord word) (hkeyword : word ∉ targetKeywords)
    (hrest : ∀ c ∈ rest.toList.head?, isInWord c = false)
    (hequals : (trimStart rest.toList).head? ≠ some '=') : BeginsType (word ++ rest)
  | verbatim {word rest : String} (hword : IsBareWord word)
    (hrest : ∀ c ∈ rest.toList.head?, isInWord c = false)
    (hequals : (trimStart rest.toList).head? ≠ some '=') : BeginsType ("@" ++ (word ++ rest))
  | bracket (rest : String) : BeginsType ("(" ++ rest)

structure IsNaming (a : Naming) : Prop where
  isIdentifier : a.name.node.isNamedOf (· == .identifier) = true
  word : IsBareWord a.word
  text : a.name.node.text = a.word ∧ a.word ∉ targetKeywords ∨ a.name.node.text = "@" ++ a.word
  equals : IsToken "=" a.equals

/-- Where nothing stands between two parts they do not run on into each other; the sign in front of
an identifier may follow a word. -/
def Separate (p q : Part) : Prop :=
  q.lead = "" → ∀ a ∈ p.node.text.toList.getLast?, ∀ b ∈ q.node.text.toList.head?,
    b = '@' ∨ runsOn a b = false

instance (p q : Part) : Decidable (Separate p q) :=
  inferInstanceAs (Decidable (_ → ∀ a ∈ p.node.text.toList.getLast?,
    ∀ b ∈ q.node.text.toList.head?, b = '@' ∨ runsOn a b = false))

/-- The node is a directive that consists of these words and signs, with white space and comments
between them. -/
structure IsWritten (n : Node) (f : Form) : Prop where
  text : n.text = Part.textOf f.parts
  children : n.children.filter (·.kind != .closed) = f.parts.map Part.node
  leads : ∀ p ∈ f.parts, IsLead p.lead
  apart : f.parts.IsChain Separate
  globalWord : ∀ p ∈ f.globalWord, IsToken "global" p
  usingWord : IsToken "using" f.usingWord
  staticWord : ∀ p ∈ f.staticWord, IsToken "static" p
  unsafeWord : ∀ p ∈ f.unsafeWord, IsToken "unsafe" p
  naming : ∀ a ∈ f.naming, IsNaming a
  /-- What is static gets no name. -/
  exclusive : f.staticWord = none ∨ f.naming = none
  isType : f.target.node.isNamedOf Kind.isType = true
  begins : BeginsType f.target.node.text
  semicolon : IsToken ";" f.semicolon

/-! ## What the text of a directive says -/

/-- What stands before the first of some parts. -/
def leadOf (parts : List Part) : String :=
  (parts.head?.map Part.lead).getD ""

/-- Whether there are blanks, and nothing but blanks. -/
def bySpace (lead : String) : Bool :=
  startsBlank lead && allBlank lead

namespace Form

/-- The alias that the text shows: nothing but blanks are between the words up to the equals sign,
and the name consists of word characters. -/
def seenAlias (f : Form) : Option String :=
  f.naming.bind fun a =>
    if (f.unsafeWord.all fun _ => bySpace a.name.lead) && allBlank a.equals.lead &&
        a.word.toList.all Text.isWordChar then some a.word
    else none

/-- What the text shows from `using` on. -/
def seenFrom (f : Form) (isGlobal : Bool) : Head :=
  if startsBlank (leadOf f.behindUsing) then
    if allBlank (leadOf f.behindUsing) then
      ⟨isGlobal, f.staticWord.isSome && startsBlank (leadOf f.behindStatic), f.seenAlias⟩
    else ⟨isGlobal, false, none⟩
  else ⟨false, false, none⟩

/-- What the text shows. -/
def seen (f : Form) : Head :=
  if f.globalWord.all fun _ => allBlank f.usingWord.lead then f.seenFrom f.globalWord.isSome
  else ⟨false, false, none⟩

end Form

/-! ## Reading word by word -/

/-- Parts that the reading can come to. -/
inductive Opens : List Part → Prop
  | parts {first : Part} {rest : List Part} (hlead : IsLead first.lead)
    (hsolid : IsSolid first.node.text.toList) : Opens (first :: rest)

theorem toList_textOf {p : Part} {parts : List Part} (hparts : parts ≠ []) :
    (Part.textOf (p :: parts)).toList =
      p.node.text.toList ++ ((leadOf parts).toList ++ (Part.textOf parts).toList) := by
  obtain ⟨q, rest, rfl⟩ := List.exists_cons_of_ne_nil hparts
  rw [Part.textOf_cons_cons, String.toList_append, String.toList_append]
  rfl

theorem textOf_concat {parts : List Part} (hparts : parts ≠ []) (p : Part) :
    Part.textOf (parts ++ [p]) = Part.textOf parts ++ (p.lead ++ p.node.text) := by
  obtain ⟨q, rest, rfl⟩ := List.exists_cons_of_ne_nil hparts
  simp [Part.textOf, String.append_assoc]

namespace Opens

variable {parts : List Part}

theorem ne_nil (h : Opens parts) : parts ≠ [] := by
  cases h
  simp

theorem lead (h : Opens parts) : IsLead (leadOf parts) := by
  cases h with
  | parts hlead => exact hlead

theorem solid (h : Opens parts) : IsSolid (Part.textOf parts).toList := by
  cases h with
  | parts _ hsolid =>
    rw [Part.textOf, String.toList_append]
    exact isSolid_append hsolid _

theorem trimStart_eq (h : Opens parts) (hblank : allBlank (leadOf parts) = true) :
    trimStart ((leadOf parts).toList ++ (Part.textOf parts).toList) = (Part.textOf parts).toList :=
  trimStart_blanks hblank h.solid

theorem exists_stop (h : Opens parts) (hblank : allBlank (leadOf parts) = false) :
    ∃ c rest, trimStart ((leadOf parts).toList ++ (Part.textOf parts).toList) = c :: rest ∧
      IsStop c :=
  exists_trimStart_stop h.lead hblank _

end Opens

/-! ## Where a name or the target stands -/

/-- No keyword of a target comes first, and the alias is `found`. -/
structure ReadsAs (cs : List Char) (found : Option String) : Prop where
  noKeyword : ∀ word ∈ targetKeywords, cs.takeWhile isInWord ≠ word.toList
  aliasName : aliasName? cs = found

theorem noKeyword_of_head {c : Char}
    (h : ∀ word ∈ targetKeywords, word.toList ≠ [] ∧ word.toList.head? ≠ some c) (cs : List Char) :
    ∀ word ∈ targetKeywords, (c :: cs).takeWhile isInWord ≠ word.toList :=
  fun word hword => takeWhile_ne (h word hword).1 (h word hword).2 cs

section

variable {word : String} {rest : List Char}

theorem readsAs_word (hword : IsBareWord word) (hkeyword : word ∉ targetKeywords)
    (hrest : ∀ c ∈ rest.head?, isInWord c = false) :
    ReadsAs (word.toList ++ rest)
      (if word.toList.all Text.isWordChar && (trimStart rest).head? == some '=' then some word
        else none) := by
  refine ⟨fun keyword hmem htake => ?_, aliasName?_append hword (head_notWordChar hrest)⟩
  rw [takeWhile_append_end hword.inWord hrest, String.toList_inj] at htake
  exact hkeyword (htake ▸ hmem)

/-- With the sign in front a keyword is a name. -/
theorem readsAs_verbatim (hword : IsBareWord word) (hrest : ∀ c ∈ rest.head?, isInWord c = false) :
    ReadsAs ('@' :: (word.toList ++ rest))
      (if word.toList.all Text.isWordChar && (trimStart rest).head? == some '=' then some word
        else none) where
  noKeyword := noKeyword_of_head (by decide) _
  aliasName := by
    rw [aliasName?_verbatim (hword.head_ne_sign rest)]
    exact aliasName?_append hword (head_notWordChar hrest)

end

theorem isSolid_sign (cs : List Char) : IsSolid ('@' :: cs) :=
  ⟨'@', cs, rfl, by decide, by decide⟩

namespace IsNaming

variable {a : Naming}

theorem isSolid (h : IsNaming a) : IsSolid a.name.node.text.toList := by
  rcases h.text with ⟨htext, -⟩ | htext
  · rw [htext]
    exact h.word.isSolid
  · rw [htext, String.toList_append]
    exact isSolid_sign _

theorem readsAs (h : IsNaming a) (hlead : IsLead a.equals.lead) (cs : List Char) :
    ReadsAs (a.name.node.text.toList ++ (a.equals.lead.toList ++ '=' :: cs))
      (if allBlank a.equals.lead && a.word.toList.all Text.isWordChar then some a.word else none) := by
  have hend : ∀ c ∈ (a.equals.lead.toList ++ '=' :: cs).head?, isInWord c = false := by
    refine head_notInWord hlead fun c hc => ?_
    obtain rfl : '=' = c := by simpa using hc
    decide
  have hequals : ((trimStart (a.equals.lead.toList ++ '=' :: cs)).head? == some '=') =
      allBlank a.equals.lead := by
    rw [head?_trimStart_lead hlead (by decide) cs]
    simp
  rw [Bool.and_comm, ← hequals]
  rcases h.text with ⟨htext, hkeyword⟩ | htext
  · rw [htext]
    exact readsAs_word h.word hkeyword hend
  · rw [htext, String.toList_append]
    exact readsAs_verbatim h.word hend

end IsNaming

namespace BeginsType

variable {text : String}

theorem isSolid (h : BeginsType text) : IsSolid text.toList := by
  cases h with
  | word hword =>
    rw [String.toList_append]
    exact isSolid_append hword.isSolid _
  | verbatim =>
    rw [String.toList_append]
    exact isSolid_sign _
  | bracket =>
    rw [String.toList_append]
    exact ⟨'(', _, rfl, by decide, by decide⟩

/-- Neither the rest of a type nor the semicolon behind it begins with an equals sign. -/
theorem behind_word {rest lead : String} (hrest : ∀ c ∈ rest.toList.head?, isInWord c = false)
    (hequals : (trimStart rest.toList).head? ≠ some '=') (hlead : IsLead lead) :
    (∀ c ∈ (rest.toList ++ (lead.toList ++ [';'])).head?, isInWord c = false) ∧
      ((trimStart (rest.toList ++ (lead.toList ++ [';']))).head? == some '=') = false := by
  have hbehind : ∀ c ∈ (lead.toList ++ [';']).head?, isInWord c = false := by
    refine head_notInWord hlead fun c hc => ?_
    obtain rfl : ';' = c := by simpa using hc
    decide
  refine ⟨?_, ?_⟩
  · cases hchars : rest.toList with
    | nil => exact hbehind
    | cons c more =>
      rw [hchars] at hrest
      exact hrest
  · rw [trimStart, List.dropWhile_append]
    split
    · have hsemicolon : isBlank ';' = false := by decide
      rw [← trimStart, head?_trimStart_lead hlead hsemicolon]
      exact Bool.and_false _
    · next hne =>
      obtain ⟨c, more, hmore⟩ := List.exists_cons_of_ne_nil (l := rest.toList.dropWhile isBlank)
        (by simpa using hne)
      rw [trimStart, hmore] at hequals
      rw [hmore]
      simpa using hequals

theorem readsAs (h : BeginsType text) {lead : String} (hlead : IsLead lead) :
    ReadsAs (text.toList ++ (lead.toList ++ [';'])) none := by
  cases h with
  | word hword hkeyword hrest hequals =>
    obtain ⟨hend, hne⟩ := behind_word hrest hequals hlead
    rw [String.toList_append, List.append_assoc]
    simpa [hne] using readsAs_word hword hkeyword hend
  | verbatim hword hrest hequals =>
    obtain ⟨hend, hne⟩ := behind_word hrest hequals hlead
    rw [String.toList_append, String.toList_append, List.append_assoc, List.append_assoc]
    simpa [hne] using readsAs_verbatim hword hend
  | bracket rest =>
    have hstop : IsStop '(' := ⟨by decide, by decide, by decide⟩
    rw [String.toList_append, List.append_assoc]
    exact ⟨noKeyword_of_head (by decide) _, aliasName?_of_stop hstop _⟩

end BeginsType

/-! ## Keywords -/

theorem IsToken.isSolid {word : String} {p : Part} (h : IsToken word p) (hword : IsBareWord word) :
    IsSolid p.node.text.toList := by
  rw [h.text]
  exact hword.isSolid

/-- What follows a word without anything between begins no word characters. -/
theorem Separate.notWordChar {p q : Part} (h : Separate p q) (hlead : q.lead = "")
    (hword : IsBareWord p.node.text) {c : Char} (hc : q.node.text.toList.head? = some c) :
    Text.isWordChar c = false := by
  obtain ⟨last, hlast⟩ : ∃ last, p.node.text.toList.getLast? = some last := by
    rw [← Option.isSome_iff_exists, List.getLast?_isSome]
    simpa using hword.nonempty
  have hlastIn : isInWord last = true := hword.inWord last (List.mem_of_getLast? hlast)
  rcases h hlead last hlast c hc with rfl | hruns
  · decide +kernel
  · refine Bool.eq_false_iff.2 fun hletter => ?_
    rw [runsOn, hlastIn, isInWord_of_isWordChar hletter] at hruns
    cases hruns

section

variable {p : Part} {parts : List Part} {word other : String}

/-- A keyword is not another one. -/
theorem takeWhile_keyword (hp : IsToken word p) (hword : IsBareWord word) (hother : IsBareWord other)
    (hhead : other.toList.head? ≠ word.toList.head?) (parts : List Part) :
    (Part.textOf (p :: parts)).toList.takeWhile isInWord ≠ other.toList := by
  obtain ⟨c, cs, hcs, -⟩ := hword.exists_cons
  rw [hcs, List.head?_cons] at hhead
  rw [Part.textOf, String.toList_append, hp.text, hcs]
  exact takeWhile_ne (by simpa using hother.nonempty) hhead _

/-- A keyword is read when a blank is behind it. -/
theorem optionalWord_keyword (hp : IsToken word p) (h : Opens parts) :
    optionalWord word (Part.textOf (p :: parts)).toList =
      if startsBlank (leadOf parts) then
        (true, trimStart ((leadOf parts).toList ++ (Part.textOf parts).toList))
      else (false, (Part.textOf (p :: parts)).toList) := by
  rw [toList_textOf h.ne_nil, hp.text, optionalWord, afterWord?_append h.lead h.solid]
  cases startsBlank (leadOf parts) <;> rfl

/-- Behind a keyword without a blank there is neither a word nor an equals sign. -/
theorem exists_behind_keyword (hp : IsToken word p) (hword : IsBareWord word) (h : Opens parts)
    (hblank : startsBlank (leadOf parts) = false) (hapart : ∀ q ∈ parts.head?, Separate p q) :
    ∃ c rest, (leadOf parts).toList ++ (Part.textOf parts).toList = c :: rest ∧
      Text.isWordChar c = false ∧ isBlank c = false ∧ c ≠ '=' := by
  rcases eq_empty_or_stop h.lead hblank with hempty | ⟨c, rest, hcons, hstop⟩
  · cases h with
    | @parts first more _ hsolid =>
      obtain ⟨c, rest, hc, hstart⟩ := hsolid
      have hletter : Text.isWordChar c = false :=
        (hapart first rfl).notWordChar hempty (hp.text ▸ hword) (by rw [hc]; rfl)
      refine ⟨c, rest ++ (String.join (more.map fun p => p.lead ++ p.node.text)).toList, ?_, hletter,
        hstart⟩
      rw [hempty, Part.textOf, String.toList_append, hc]
      rfl
  · refine ⟨c, rest ++ (Part.textOf parts).toList, by rw [hcons]; rfl, ?_, hstop.notBlank,
      hstop.notEquals⟩
    exact isWordChar_of_notInWord hstop.notWord

/-- A keyword without a blank behind it is no name. -/
theorem aliasName?_keyword (hp : IsToken word p) (hword : IsBareWord word) (h : Opens parts)
    (hblank : startsBlank (leadOf parts) = false) (hapart : ∀ q ∈ parts.head?, Separate p q) :
    aliasName? (Part.textOf (p :: parts)).toList = none := by
  obtain ⟨c, rest, hrest, hletter, hstart, hequals⟩ :=
    exists_behind_keyword hp hword h hblank hapart
  rw [toList_textOf h.ne_nil, hp.text, hrest, aliasName?_append hword (by simpa using hletter),
    trimStart, List.dropWhile_cons_of_neg (by simp [hstart])]
  simp [hequals]

/-- The alias behind a keyword: the keyword and blanks are read, and nothing else is. -/
theorem aliasName?_optionalWord (hp : IsToken word p) (hword : IsBareWord word) (h : Opens parts)
    (hapart : ∀ q ∈ parts.head?, Separate p q) :
    aliasName? (optionalWord word (Part.textOf (p :: parts)).toList).2 =
      if bySpace (leadOf parts) then aliasName? (Part.textOf parts).toList else none := by
  rw [optionalWord_keyword hp h, bySpace]
  cases hstart : startsBlank (leadOf parts) with
  | false => exact aliasName?_keyword hp hword h hstart hapart
  | true =>
    cases hblank : allBlank (leadOf parts) with
    | true => simp [h.trimStart_eq hblank]
    | false =>
      obtain ⟨c, rest, hrest, hstop⟩ := h.exists_stop hblank
      simp [hrest, aliasName?_of_stop hstop]

end

/-! ## The whole reading -/

/-- What is read from `using` on. -/
def readFrom (isGlobal : Bool) (cs : List Char) : Head :=
  match afterWord? "using" cs with
  | none => ⟨false, false, none⟩
  | some rest =>
    ⟨isGlobal, (optionalWord "static" rest).1,
      aliasName? (optionalWord "unsafe" (optionalWord "static" rest).2).2⟩

theorem read_eq_readFrom (cs : List Char) :
    Head.read cs = readFrom (optionalWord "global" cs).1 (optionalWord "global" cs).2 := rfl

namespace IsWritten

variable {n : Node} {f : Form}

theorem isLead (h : IsWritten n f) {p : Part} (hp : p ∈ f.behindUsing) : IsLead p.lead := by
  refine h.leads p ?_
  rw [Form.parts]
  exact List.mem_append_right _ (List.mem_cons_of_mem _ hp)

theorem behindStatic_mem {p : Part} (hp : p ∈ f.behindStatic) : p ∈ f.behindUsing :=
  List.mem_append_right _ hp

theorem behindUnsafe_mem {p : Part} (hp : p ∈ f.behindUnsafe) : p ∈ f.behindUsing :=
  behindStatic_mem (List.mem_append_right _ hp)

theorem apart_behindUsing (h : IsWritten n f) : (f.usingWord :: f.behindUsing).IsChain Separate :=
  (List.isChain_append.1 h.apart).2.1

theorem apart_behindStatic (h : IsWritten n f) : f.behindStatic.IsChain Separate :=
  (List.isChain_append.1 h.apart_behindUsing.tail).2.1

/-- What is read behind all keywords. -/
theorem read_behindUnsafe (h : IsWritten n f) :
    Opens f.behindUnsafe ∧ ReadsAs (Part.textOf f.behindUnsafe).toList
      (f.naming.bind fun a =>
        if allBlank a.equals.lead && a.word.toList.all Text.isWordChar then some a.word else none) := by
  have hlead (p : Part) (hp : p ∈ f.behindUnsafe) : IsLead p.lead := h.isLead (behindUnsafe_mem hp)
  cases hnaming : f.naming with
  | none =>
    have hparts : f.behindUnsafe = [f.target, f.semicolon] := by simp [Form.behindUnsafe, hnaming]
    rw [hparts] at hlead ⊢
    have htext : (Part.textOf [f.target, f.semicolon]).toList =
        f.target.node.text.toList ++ (f.semicolon.lead.toList ++ [';']) := by
      rw [toList_textOf (by simp)]
      simp [leadOf, Part.textOf, h.semicolon.text]
    rw [htext]
    exact ⟨.parts (hlead _ (by simp)) h.begins.isSolid,
      h.begins.readsAs (hlead f.semicolon (by simp))⟩
  | some a =>
    have hparts : f.behindUnsafe = [a.name, a.equals, f.target, f.semicolon] := by
      simp [Form.behindUnsafe, hnaming]
    rw [hparts] at hlead ⊢
    have ha := h.naming a hnaming
    obtain ⟨cs, hcs⟩ : ∃ cs, (Part.textOf [a.equals, f.target, f.semicolon]).toList = '=' :: cs := by
      rw [Part.textOf, ha.equals.text, String.toList_append]
      exact ⟨_, rfl⟩
    have htext : (Part.textOf [a.name, a.equals, f.target, f.semicolon]).toList =
        a.name.node.text.toList ++ (a.equals.lead.toList ++ '=' :: cs) := by
      rw [toList_textOf (by simp), hcs]
      rfl
    rw [htext]
    exact ⟨.parts (hlead _ (by simp)) ha.isSolid, ha.readsAs (hlead a.equals (by simp)) cs⟩

/-- What is read where `unsafe` may stand. -/
theorem read_behindStatic (h : IsWritten n f) :
    Opens f.behindStatic ∧
      (Part.textOf f.behindStatic).toList.takeWhile isInWord ≠ "static".toList ∧
      aliasName? (optionalWord "unsafe" (Part.textOf f.behindStatic).toList).2 = f.seenAlias := by
  obtain ⟨hopens, hreads⟩ := h.read_behindUnsafe
  cases hpresent : f.unsafeWord with
  | none =>
    have hparts : f.behindStatic = f.behindUnsafe := by simp [Form.behindStatic, hpresent]
    rw [hparts]
    refine ⟨hopens, hreads.noKeyword _ (by decide), ?_⟩
    rw [optionalWord_of_ne (by decide) (hreads.noKeyword _ (by decide)), hreads.aliasName,
      Form.seenAlias]
    simp [hpresent]
  | some u =>
    have hparts : f.behindStatic = u :: f.behindUnsafe := by simp [Form.behindStatic, hpresent]
    have hu := h.unsafeWord u hpresent
    have hseen : f.seenAlias =
        if bySpace (leadOf f.behindUnsafe) then aliasName? (Part.textOf f.behindUnsafe).toList
        else none := by
      rw [hreads.aliasName, Form.seenAlias, hpresent]
      cases hnaming : f.naming with
      | none => simp
      | some a => cases hspace : bySpace a.name.lead <;> simp [leadOf, Form.behindUnsafe, hnaming, hspace]
    have hlead : IsLead u.lead := h.isLead (behindStatic_mem (hparts ▸ List.mem_cons_self))
    have hapart := (hparts ▸ h.apart_behindStatic).rel_head?
    rw [hparts, hseen]
    exact ⟨.parts hlead (hu.isSolid (by decide)),
      takeWhile_keyword hu (by decide) (by decide) (by decide) _,
      aliasName?_optionalWord hu (by decide) hopens hapart⟩

/-- What is read where `static` may stand. -/
theorem read_behindUsing (h : IsWritten n f) :
    Opens f.behindUsing ∧
      (optionalWord "static" (Part.textOf f.behindUsing).toList).1 =
        (f.staticWord.isSome && startsBlank (leadOf f.behindStatic)) ∧
      aliasName? (optionalWord "unsafe"
        (optionalWord "static" (Part.textOf f.behindUsing).toList).2).2 = f.seenAlias := by
  obtain ⟨hopens, hkeyword, hread⟩ := h.read_behindStatic
  cases hstatic : f.staticWord with
  | none =>
    have hparts : f.behindUsing = f.behindStatic := by simp [Form.behindUsing, hstatic]
    rw [hparts, optionalWord_of_ne (by decide) hkeyword]
    exact ⟨hopens, by simp, hread⟩
  | some s =>
    have hparts : f.behindUsing = s :: f.behindStatic := by simp [Form.behindUsing, hstatic]
    have hs := h.staticWord s hstatic
    have hseen : f.seenAlias = none := by
      have hnaming : f.naming = none := h.exclusive.resolve_left (by simp [hstatic])
      rw [Form.seenAlias, hnaming, Option.bind_none]
    have hapart := (hparts ▸ h.apart_behindUsing.tail).rel_head?
    rw [hparts, hseen, optionalWord_keyword hs hopens]
    refine ⟨.parts (h.isLead (hparts ▸ List.mem_cons_self)) (hs.isSolid (by decide)), ?_⟩
    cases hstart : startsBlank (leadOf f.behindStatic) with
    | false =>
      have hother := takeWhile_keyword hs (by decide) (by decide : IsBareWord "unsafe") (by decide)
        f.behindStatic
      rw [if_neg (by simp), optionalWord_of_ne (by decide) hother]
      exact ⟨rfl, aliasName?_keyword hs (by decide) hopens hstart hapart⟩
    | true =>
      rw [if_pos rfl]
      refine ⟨rfl, ?_⟩
      cases hblank : allBlank (leadOf f.behindStatic) with
      | true => rw [hopens.trimStart_eq hblank, hread, hseen]
      | false =>
        obtain ⟨c, rest, hrest, hstop⟩ := hopens.exists_stop hblank
        rw [hrest, optionalWord_of_stop (by decide) hstop, aliasName?_of_stop hstop]

theorem readFrom_eq_seenFrom (h : IsWritten n f) (isGlobal : Bool) :
    readFrom isGlobal (Part.textOf (f.usingWord :: f.behindUsing)).toList = f.seenFrom isGlobal := by
  obtain ⟨hopens, hstatic, halias⟩ := h.read_behindUsing
  rw [readFrom, Form.seenFrom, toList_textOf hopens.ne_nil, h.usingWord.text,
    afterWord?_append hopens.lead hopens.solid]
  cases startsBlank (leadOf f.behindUsing) with
  | false => rfl
  | true =>
    cases hblank : allBlank (leadOf f.behindUsing) with
    | true =>
      simp only [if_true]
      rw [hopens.trimStart_eq hblank, hstatic, halias]
    | false =>
      obtain ⟨c, rest, hrest, hstop⟩ := hopens.exists_stop hblank
      simp only [if_true, Bool.false_eq_true, if_false]
      rw [hrest, optionalWord_of_stop (by decide) hstop, optionalWord_of_stop (by decide) hstop,
        aliasName?_of_stop hstop]

theorem opens_using (h : IsWritten n f) : Opens (f.usingWord :: f.behindUsing) :=
  .parts (h.leads f.usingWord (List.mem_append_right _ List.mem_cons_self))
    (h.usingWord.isSolid (by decide))

/-- Without a blank in front of `using` there is a comment. -/
theorem not_allBlank_using (h : IsWritten n f) {g : Part} (hglobal : f.globalWord = some g)
    (hstart : startsBlank f.usingWord.lead = false) : allBlank f.usingWord.lead = false := by
  have hlead : IsLead f.usingWord.lead := h.opens_using.lead
  rcases eq_empty_or_stop hlead hstart with hempty | ⟨c, rest, hcons, hstop⟩
  · have hparts : f.parts = g :: f.usingWord :: f.behindUsing := by simp [Form.parts, hglobal]
    have hapart : Separate g f.usingWord := (hparts ▸ h.apart).rel
    have hletter := hapart.notWordChar hempty (c := 'u')
      (by rw [(h.globalWord g hglobal).text]; decide) (by rw [h.usingWord.text]; rfl)
    exact absurd hletter (by decide +kernel)
  · simp [allBlank, hcons, hstop.notBlank]

/-- The text is read as its words and what stands between them say. -/
theorem read_eq_seen (h : IsWritten n f) : Head.read (Part.textOf f.parts).toList = f.seen := by
  have hopens := h.opens_using
  rw [read_eq_readFrom, Form.seen]
  cases hglobal : f.globalWord with
  | none =>
    have hparts : f.parts = f.usingWord :: f.behindUsing := by simp [Form.parts, hglobal]
    have hother := takeWhile_keyword h.usingWord (by decide) (by decide : IsBareWord "global")
      (by decide) f.behindUsing
    rw [hparts, optionalWord_of_ne (by decide) hother, h.readFrom_eq_seenFrom]
    rfl
  | some g =>
    have hparts : f.parts = g :: f.usingWord :: f.behindUsing := by simp [Form.parts, hglobal]
    have hg := h.globalWord g hglobal
    have hlead : leadOf (f.usingWord :: f.behindUsing) = f.usingWord.lead := rfl
    rw [hparts, optionalWord_keyword hg hopens, Option.all_some, hlead]
    cases hstart : startsBlank f.usingWord.lead with
    | false =>
      have hother := takeWhile_keyword hg (by decide) (by decide : IsBareWord "using") (by decide)
        (f.usingWord :: f.behindUsing)
      rw [h.not_allBlank_using hglobal hstart, if_neg (by simp), readFrom,
        afterWord?_of_ne (by decide) hother]
      rfl
    | true =>
      rw [if_pos rfl]
      cases hblank : allBlank f.usingWord.lead with
      | true =>
        rw [← hlead, hopens.trimStart_eq hblank, h.readFrom_eq_seenFrom]
        rfl
      | false =>
        obtain ⟨c, rest, hrest, hstop⟩ := hopens.exists_stop hblank
        rw [← hlead, hrest, readFrom, afterWord?_of_stop (by decide) hstop]
        rfl

end IsWritten

end Directive

end Registrar
