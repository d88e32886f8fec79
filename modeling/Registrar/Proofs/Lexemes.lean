/-
The words and signs that a text consists of. `Text.lexemes` drops the white space
of a text and keeps together what belongs together; two texts that do not run on
into each other have the lexemes of both (`lexemes_append`). With that the
lexemes of a text that covers parts are those of its parts (`Covers.lexemes_eq`).
-/
import Mathlib.Data.List.Chain
import Registrar.CSharp.TypeTree

namespace Registrar

namespace Text

/-! ## Lexemes -/

/-- White space between words. -/
def isGap (c : Char) : Bool :=
  isBlank c || CSharp.isSpace c

/-- What a word consists of: anything but white space and signs. -/
def isInWord (c : Char) : Bool :=
  !isGap c && !CSharp.isSign c

/-- Whether characters that follow each other belong to one lexeme: those of a word do, and two
colons do. -/
def runsOn (a b : Char) : Bool :=
  (isInWord a && isInWord b) || (a == ':' && b == ':')

/-- The words and signs among characters. -/
def lexemesOf : List Char → List (List Char)
  | [] => []
  | c :: rest =>
    if isGap c then lexemesOf rest
    else if rest.head?.any (runsOn c) then
      (c :: (lexemesOf rest).headD []) :: (lexemesOf rest).tail
    else [c] :: lexemesOf rest

/-- The words and signs of a text. -/
def lexemes (s : String) : List String :=
  (lexemesOf s.toList).map String.ofList

/-- What holds of characters is decided by going through those of the list, not through all there
are. -/
instance decidableForallMem (cs : List Char) (p : Char → Prop) [DecidablePred p] :
    Decidable (∀ c ∈ cs, p c) :=
  List.decidableBAll p cs

instance decidableForallMemOption (o : Option Char) (p : Char → Prop) [DecidablePred p] :
    Decidable (∀ c ∈ o, p c) :=
  Option.decidableForallMem o

/-- No lexeme reaches from the first text into the second one. -/
def Apart (s t : String) : Prop :=
  ∀ a ∈ s.toList.getLast?, ∀ b ∈ t.toList.head?, runsOn a b = false

instance (s t : String) : Decidable (Apart s t) :=
  inferInstanceAs (Decidable (∀ a ∈ s.toList.getLast?, ∀ b ∈ t.toList.head?, runsOn a b = false))

/-- A sign that is a lexeme of its own, whatever stands around it. -/
def isLoneSign (s : String) : Bool :=
  match s.toList with
  | [c] => CSharp.isSign c && !isGap c && c != ':'
  | _ => false

theorem isGap_of_isInWord {c : Char} (h : isInWord c = true) : isGap c = false := by
  simp only [isInWord, Bool.and_eq_true, Bool.not_eq_true'] at h
  exact h.1

theorem isGap_of_runsOn {a b : Char} (h : runsOn a b = true) : isGap b = false := by
  simp only [runsOn, Bool.or_eq_true, Bool.and_eq_true, beq_iff_eq] at h
  rcases h with ⟨-, hb⟩ | ⟨-, rfl⟩
  · exact isGap_of_isInWord hb
  · decide

theorem lexemesOf_cons (c : Char) (rest : List Char) :
    lexemesOf (c :: rest) =
      if isGap c then lexemesOf rest
      else if rest.head?.any (runsOn c) then
        (c :: (lexemesOf rest).headD []) :: (lexemesOf rest).tail
      else [c] :: lexemesOf rest := rfl

theorem lexemesOf_ne_nil {c : Char} {rest : List Char} (h : isGap c = false) :
    lexemesOf (c :: rest) ≠ [] := by
  rw [lexemesOf_cons, h]
  split
  · contradiction
  · split <;> simp

theorem lexemesOf_append {s t : List Char}
    (h : ∀ a ∈ s.getLast?, ∀ b ∈ t.head?, runsOn a b = false) :
    lexemesOf (s ++ t) = lexemesOf s ++ lexemesOf t := by
  induction s with
  | nil => rfl
  | cons c rest ih =>
    cases rest with
    | nil =>
      have hend : t.head?.any (runsOn c) = false := by
        cases t with
        | nil => rfl
        | cons b behind => simpa using h c rfl b rfl
      rw [List.singleton_append, lexemesOf_cons, lexemesOf_cons, hend]
      cases isGap c <;> rfl
    | cons next others =>
      have hrest := ih (by simpa using h)
      rw [List.cons_append, lexemesOf_cons, hrest, lexemesOf_cons c (next :: others)]
      simp only [List.cons_append, List.head?_cons, Option.any_some]
      cases isGap c with
      | true => rfl
      | false =>
        by_cases hruns : runsOn c next = true
        · have hne : lexemesOf (next :: others) ≠ [] := lexemesOf_ne_nil (isGap_of_runsOn hruns)
          obtain ⟨first, more, hfirst⟩ := List.exists_cons_of_ne_nil hne
          simp [hruns, hfirst]
        · simp [hruns]

@[simp] theorem lexemes_empty : lexemes "" = [] := rfl

theorem lexemes_append {s t : String} (h : Apart s t) :
    lexemes (s ++ t) = lexemes s ++ lexemes t := by
  rw [lexemes, String.toList_append, lexemesOf_append h, List.map_append]
  rfl

/-- White space has no lexemes. -/
theorem lexemes_gap_append {gap : String} (h : ∀ c ∈ gap.toList, isGap c = true) (t : String) :
    lexemes (gap ++ t) = lexemes t := by
  have hchars : ∀ cs : List Char, (∀ c ∈ cs, isGap c = true) →
      lexemesOf (cs ++ t.toList) = lexemesOf t.toList := by
    intro cs
    induction cs with
    | nil => intro _; rfl
    | cons c rest ih =>
      intro hcs
      obtain ⟨hc, hrest⟩ := List.forall_mem_cons.1 hcs
      rw [List.cons_append, lexemesOf, if_pos hc, ih hrest]
  rw [lexemes, String.toList_append, hchars _ h]
  rfl

/-- White space keeps what stands before it apart. -/
theorem apart_gap {gap : String} (h : ∀ c ∈ gap.toList, isGap c = true) (s : String) :
    Apart s gap := by
  intro a _ b hb
  have hgap := h b (List.mem_of_mem_head? hb)
  refine Bool.eq_false_iff.2 fun hruns => ?_
  rw [isGap_of_runsOn hruns] at hgap
  cases hgap

theorem apart_gap_append {gap : String} (h : ∀ c ∈ gap.toList, isGap c = true) (hne : gap ≠ "")
    (s t : String) : Apart s (gap ++ t) := by
  obtain ⟨c, cs, hcs⟩ := List.exists_cons_of_ne_nil (l := gap.toList) (by simpa using hne)
  have hgap := apart_gap h s
  simpa only [Apart, String.toList_append, hcs, List.cons_append, List.head?_cons] using hgap

theorem lexemes_append_gap {gap : String} (h : ∀ c ∈ gap.toList, isGap c = true) (s : String) :
    lexemes (s ++ gap) = lexemes s := by
  have hgap : lexemes gap = [] := by simpa using lexemes_gap_append h ""
  rw [lexemes_append (apart_gap h s), hgap, List.append_nil]

/-- A word is a lexeme. -/
theorem lexemes_word {word : String} (hne : word ≠ "") (h : ∀ c ∈ word.toList, isInWord c = true) :
    lexemes word = [word] := by
  have hchars : ∀ c cs, (∀ b ∈ c :: cs, isInWord b = true) → lexemesOf (c :: cs) = [c :: cs] := by
    intro c cs
    induction cs generalizing c with
    | nil =>
      intro hcs
      have hgap := isGap_of_isInWord (hcs c (by simp))
      simp [lexemesOf, hgap]
    | cons next others ih =>
      intro hcs
      obtain ⟨hc, hrest⟩ := List.forall_mem_cons.1 hcs
      have hruns : runsOn c next = true := by
        simp [runsOn, hc, hrest next]
      rw [lexemesOf_cons, ih next hrest]
      simp [isGap_of_isInWord hc, hruns]
  obtain ⟨c, cs, hcs⟩ := List.exists_cons_of_ne_nil (l := word.toList) (by simpa using hne)
  rw [lexemes, hcs, hchars c cs (hcs ▸ h), ← hcs]
  simp

theorem lexemes_append_sign {sign : String} (h : isLoneSign sign = true) (s t : String) :
    lexemes (s ++ (sign ++ t)) = lexemes s ++ sign :: lexemes t := by
  unfold isLoneSign at h
  split at h
  · next c hc =>
    simp only [Bool.and_eq_true, Bool.not_eq_true', bne_iff_ne, ne_eq] at h
    obtain ⟨⟨hsign, hgap⟩, hcolon⟩ := h
    have hword : isInWord c = false := by simp [isInWord, hsign]
    have hleft (a : Char) : runsOn a c = false := by simp [runsOn, hword, hcolon]
    have hright (b : Char) : runsOn c b = false := by simp [runsOn, hword, hcolon]
    have hself : lexemes sign = [sign] := by
      have hlist : lexemesOf [c] = [[c]] := by simp [lexemesOf, hgap]
      rw [lexemes, hc, hlist, ← hc]
      simp
    have hfront : Apart s (sign ++ t) := by simp [Apart, hc, hleft]
    have hbehind : Apart sign t := by simp [Apart, hc, hright]
    rw [lexemes_append hfront, lexemes_append hbehind, hself]
    rfl
  · cases h

theorem lexemes_sign_append {sign : String} (h : isLoneSign sign = true) (t : String) :
    lexemes (sign ++ t) = sign :: lexemes t := by
  simpa using lexemes_append_sign h "" t

theorem lexemes_sign {sign : String} (h : isLoneSign sign = true) : lexemes sign = [sign] := by
  simpa using lexemes_sign_append h ""

/-- What stands between two signs. -/
theorem lexemes_between {left right : String} (hleft : isLoneSign left = true)
    (hright : isLoneSign right = true) (s t : String) :
    lexemes (s ++ (left ++ (t ++ right))) = lexemes s ++ left :: (lexemes t ++ [right]) := by
  have hend : lexemes (t ++ right) = lexemes t ++ [right] := by
    simpa using lexemes_append_sign hright t ""
  rw [lexemes_append_sign hleft, hend]

/-- Texts with commas between them. -/
theorem lexemes_intercalate (texts : List String) :
    lexemes (",".intercalate texts) = [","].intercalate (texts.map lexemes) := by
  induction texts with
  | nil => rfl
  | cons first rest ih =>
    cases rest with
    | nil => simp
    | cons next others =>
      rw [String.intercalate_cons_cons, String.append_assoc,
        lexemes_append_sign (by decide) first, ih]
      simp only [List.map_cons, List.intercalate_cons_cons, List.append_assoc, List.cons_append,
        List.nil_append]

end Text

namespace CSharp.Part

/-! ## Texts that cover parts -/

/-- The second part is not empty, and where nothing stands between the two they do not run on into
each other. -/
def KeptApart (p q : Part) : Prop :=
  q.node.text ≠ "" ∧ (q.lead = "" → Text.Apart p.node.text q.node.text)

instance (p q : Part) : Decidable (KeptApart p q) :=
  inferInstanceAs (Decidable (_ ∧ (_ → _)))

/-- The text consists of parts with white space between them. -/
structure Covers (text : String) (parts : List Part) : Prop where
  text_eq : text = textOf parts
  gaps : ∀ p ∈ parts, ∀ c ∈ p.lead.toList, Text.isGap c = true
  apart : parts.IsChain KeptApart

theorem textOf_cons_cons (p q : Part) (rest : List Part) :
    textOf (p :: q :: rest) = p.node.text ++ (q.lead ++ textOf (q :: rest)) := by
  simp only [textOf, List.map_cons, String.join_cons, String.append_assoc]

theorem KeptApart.apart {p q : Part} (h : KeptApart p q)
    (hgap : ∀ c ∈ q.lead.toList, Text.isGap c = true) (rest : List Part) :
    Text.Apart p.node.text (q.lead ++ textOf (q :: rest)) := by
  by_cases hempty : q.lead = ""
  · intro a ha b hb
    obtain ⟨c, cs, hcs⟩ := List.exists_cons_of_ne_nil (l := q.node.text.toList) (by simpa using h.1)
    rw [hempty, textOf, String.empty_append, String.toList_append, hcs, List.cons_append,
      List.head?_cons] at hb
    exact h.2 hempty a ha b (by rwa [hcs])
  · exact Text.apart_gap_append hgap hempty _ _

/-- A text has the lexemes of its parts. -/
theorem lexemes_textOf {parts : List Part}
    (hgaps : ∀ p ∈ parts, ∀ c ∈ p.lead.toList, Text.isGap c = true)
    (hapart : parts.IsChain KeptApart) :
    Text.lexemes (textOf parts) = parts.flatMap fun p => Text.lexemes p.node.text := by
  induction parts with
  | nil => rfl
  | cons p rest ih =>
    cases rest with
    | nil => simp [textOf]
    | cons q others =>
      obtain ⟨hpq, hrest⟩ := List.isChain_cons_cons.1 hapart
      obtain ⟨-, hrestGaps⟩ := List.forall_mem_cons.1 hgaps
      have hlead := hrestGaps q List.mem_cons_self
      rw [textOf_cons_cons, Text.lexemes_append (hpq.apart hlead others),
        Text.lexemes_gap_append hlead, ih hrestGaps hrest]
      rfl

/-- A character that is not white space stands in the parts only. -/
theorem count_textOf {c : Char} (hc : Text.isGap c = false) {parts : List Part}
    (hgaps : ∀ p ∈ parts, ∀ c ∈ p.lead.toList, Text.isGap c = true) :
    (textOf parts).toList.count c = (parts.flatMap fun p => p.node.text.toList).count c := by
  induction parts with
  | nil => rfl
  | cons p rest ih =>
    cases rest with
    | nil => simp [textOf]
    | cons q others =>
      obtain ⟨-, hrest⟩ := List.forall_mem_cons.1 hgaps
      have hlead : q.lead.toList.count c = 0 := by
        refine List.count_eq_zero.2 fun hmem => ?_
        rw [hrest q List.mem_cons_self c hmem] at hc
        cases hc
      rw [textOf_cons_cons, String.toList_append, String.toList_append, List.count_append,
        List.count_append, hlead, ih hrest, Nat.zero_add, ← List.count_append]
      rfl

theorem Covers.lexemes_eq {text : String} {parts : List Part} (h : Covers text parts) :
    Text.lexemes text = parts.flatMap fun p => Text.lexemes p.node.text := by
  rw [h.text_eq, lexemes_textOf h.gaps h.apart]

end CSharp.Part

end Registrar
