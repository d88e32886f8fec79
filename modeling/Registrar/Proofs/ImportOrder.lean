/-
Import sets as the order in which directives are first seen. A set is the list
of its texts without repeats, so what is built from a list is known up to
repeats: `union_union` puts lists one behind the other, and `without_union`
takes texts out of both. Collecting the directives of units is one such union
(`collectImports_eq`), whatever units come twice (`import_sets_fold`).
-/
import Mathlib.Data.List.Induction
import Registrar.Proofs.Imports

namespace Registrar

namespace ImportSet

/-! ## Lists without repeats -/

theorem filter_eraseDups (p : String → Bool) (xs : List String) :
    xs.eraseDups.filter p = (xs.filter p).eraseDups := by
  induction h : xs.length using Nat.strongRecOn generalizing xs with
  | ind n ih =>
    cases xs with
    | nil => rfl
    | cons x rest =>
      have hlt : (rest.filter fun y => !y == x).length < n := by
        subst h
        exact Nat.lt_succ_of_le (List.length_filter_le _ _)
      have hrest := ih _ hlt _ rfl
      rw [List.filter_comm] at hrest
      rw [List.eraseDups_cons, List.filter_cons, List.filter_cons, hrest]
      split
      · rw [List.eraseDups_cons]
      · next hx =>
        -- no text that passes is `x`, so that nothing is left to take out
        rw [List.filter_eq_self.2]
        intro y hy
        have hne : y ≠ x := fun he => hx (he ▸ List.of_mem_filter hy)
        simpa using hne

theorem eraseDups_eq_self {xs : List String} (h : xs.Nodup) : xs.eraseDups = xs := by
  induction xs with
  | nil => rfl
  | cons x rest ih =>
    obtain ⟨hx, hrest⟩ := List.nodup_cons.1 h
    have hkeep : (rest.filter fun y => !y == x) = rest := by
      refine List.filter_eq_self.2 fun y hy => ?_
      have hne : y ≠ x := fun he => hx (he ▸ hy)
      simpa using hne
    rw [List.eraseDups_cons, hkeep, ih hrest]

theorem eraseDups_append_left (xs ys : List String) :
    (xs.eraseDups ++ ys).eraseDups = (xs ++ ys).eraseDups := by
  have hsame : ys.removeAll xs.eraseDups = ys.removeAll xs := by
    simp [List.removeAll, List.elem_eq_contains]
  rw [List.eraseDups_append, List.eraseDups_append, hsame, eraseDups_eq_self (nodup_eraseDups xs)]

theorem eraseDups_append_right (xs ys : List String) :
    (xs ++ ys.eraseDups).eraseDups = (xs ++ ys).eraseDups := by
  rw [List.eraseDups_append, List.eraseDups_append, List.removeAll, List.removeAll,
    filter_eraseDups, eraseDups_eq_self (nodup_eraseDups _)]

theorem eraseDups_append_of_subset {xs ys : List String} (h : ys ⊆ xs) :
    (xs ++ ys).eraseDups = xs.eraseDups := by
  have hnil : ys.removeAll xs = [] := by
    simpa [List.removeAll, List.filter_eq_nil_iff] using fun y hy => h hy
  rw [List.eraseDups_append, hnil, List.eraseDups_nil, List.append_nil]

/-- What is left of a list stands in the order of the first places. -/
theorem eraseDups_pairwise_idxOf (xs : List String) :
    xs.eraseDups.Pairwise fun x y => xs.idxOf x < xs.idxOf y := by
  induction xs using List.reverseRecOn with
  | nil => exact .nil
  | append_singleton xs x ih =>
    have hold : ∀ y ∈ xs.eraseDups, (xs ++ [x]).idxOf y = xs.idxOf y := by
      intro y hy
      rw [List.idxOf_append, if_pos (List.mem_eraseDups.1 hy)]
    by_cases hx : x ∈ xs
    · rw [eraseDups_append_of_subset (by simpa using hx)]
      exact ih.imp_of_mem fun hy hz hlt => by rwa [hold _ hy, hold _ hz]
    · have hlast : [x].removeAll xs = [x] := by simp [List.removeAll, hx]
      rw [List.eraseDups_append, hlast, eraseDups_eq_self (List.nodup_singleton x),
        List.pairwise_append]
      refine ⟨ih.imp_of_mem fun hy hz hlt => by rwa [hold _ hy, hold _ hz],
        List.pairwise_singleton _ _, ?_⟩
      intro y hy z hz
      rw [List.mem_singleton.1 hz, hold y hy, List.idxOf_append, if_neg hx]
      exact Nat.lt_add_left _ (List.idxOf_lt_length_iff.2 (List.mem_eraseDups.1 hy))

/-! ## Sets and lists of directives -/

/-- The texts that directives bring into a set: trimmed, and none of them blank. -/
def texts (directives : List String) : List String :=
  (directives.map Text.trim).filter (· ≠ "")

theorem items_ofList (directives : List String) :
    (ofList directives).items = (texts directives).eraseDups :=
  rfl

theorem texts_append (a b : List String) : texts (a ++ b) = texts a ++ texts b := by
  rw [texts, List.map_append, List.filter_append, texts, texts]

theorem texts_subset {a b : List String} (h : a ⊆ b) : texts a ⊆ texts b :=
  List.filter_subset _ (List.map_subset Text.trim h)

theorem texts_of_trimmed {xs : List String} (h : ∀ d ∈ xs, Text.trim d = d ∧ d ≠ "") :
    texts xs = xs := by
  have htrim : xs.map Text.trim = xs :=
    (List.map_congr_left fun d hd => (h d hd).1).trans (List.map_id _)
  rw [texts, htrim]
  exact List.filter_eq_self.2 fun d hd => by simpa using (h d hd).2

theorem texts_items (s : ImportSet) : texts s.items = s.items :=
  texts_of_trimmed s.trimmed

theorem eq_of_items {s t : ImportSet} (h : s.items = t.items) : s = t := by
  cases s
  cases t
  cases h
  rfl

theorem ofList_items (s : ImportSet) : ofList s.items = s :=
  eq_of_items (by rw [items_ofList, texts_items, eraseDups_eq_self s.distinct])

theorem items_union (s : ImportSet) (ds : List String) :
    (s.union ds).items = (s.items ++ texts ds).eraseDups := by
  rw [union, items_ofList, texts_append, texts_items]

theorem union_ofList (a b : List String) : (ofList a).union b = ofList (a ++ b) :=
  eq_of_items (by rw [items_union, items_ofList, items_ofList, texts_append, eraseDups_append_left])

theorem union_union (s : ImportSet) (a b : List String) :
    (s.union a).union b = s.union (a ++ b) := by
  rw [show s.union a = ofList (s.items ++ a) from rfl, union_ofList, List.append_assoc, ← union]

/-- The directives of a set are as good as the list it is built from. -/
theorem union_items_ofList (s : ImportSet) (ds : List String) :
    s.union (ofList ds).items = s.union ds :=
  eq_of_items (by rw [items_union, items_union, texts_items, items_ofList, eraseDups_append_right])

theorem union_eq_self {s : ImportSet} {ds : List String} (h : texts ds ⊆ s.items) :
    s.union ds = s :=
  eq_of_items (by rw [items_union, eraseDups_append_of_subset h, eraseDups_eq_self s.distinct])

theorem items_without (s : ImportSet) (e : List String) :
    (s.without e).items = s.items.filter fun item => !(e.map Text.trim).contains item := by
  rw [without, items_ofList, texts_of_trimmed fun d hd => s.trimmed d (List.mem_of_mem_filter hd),
    eraseDups_eq_self (s.distinct.filter _)]

theorem without_union (a b e : List String) :
    ((ofList a).union b).without e = ((ofList a).without e).union ((ofList b).without e).items := by
  apply eq_of_items
  rw [items_without, items_union, items_union, texts_items, items_without, items_without,
    items_ofList, items_ofList, eraseDups_append_left, filter_eraseDups, filter_eraseDups,
    filter_eraseDups, List.filter_append, eraseDups_append_left, eraseDups_append_right]

/-- A set shows the texts of directives, in the order in which they are first seen. -/
structure FirstSeen (directives : List String) (s : ImportSet) : Prop where
  mem : ∀ t, t ∈ s.items ↔ t ∈ texts directives
  order : s.items.Pairwise fun x y => (texts directives).idxOf x < (texts directives).idxOf y

theorem firstSeen_ofList (directives : List String) : FirstSeen directives (ofList directives) :=
  ⟨fun _ => List.mem_eraseDups, eraseDups_pairwise_idxOf _⟩

end ImportSet

open ImportSet

/-! ## The directives of units -/

/-- The texts of the directives of a unit that are not global, in document order. -/
def SourceUnit.localTexts (u : SourceUnit) : List String :=
  (u.directives.filter (!·.isGlobal)).map Directive.text

theorem unitImports_eq (u : SourceUnit) : unitImports u = ofList u.localTexts :=
  rfl

/-- Units that were met before have left their directives in the set, so a set takes in the
directives of all units, those met before included. -/
theorem collectFrom_eq {units : List SourceUnit} (hapart : PathsTellApart units)
    {seen : List String} {imports : ImportSet}
    (hseen : ∀ u ∈ units, u.path ∈ seen → texts u.localTexts ⊆ imports.items) :
    collectFrom seen imports units = imports.union (units.flatMap SourceUnit.localTexts) := by
  induction units generalizing seen imports with
  | nil => exact (union_eq_self (List.nil_subset _)).symm
  | cons u rest ih =>
    have hrest : PathsTellApart rest := fun v hv w hw => hapart v (.tail _ hv) w (.tail _ hw)
    rw [collectFrom, List.flatMap_cons, ← union_union]
    split
    · next hmet =>
      have hmet : u.path ∈ seen := by simpa using hmet
      rw [union_eq_self (hseen u (.head _) hmet)]
      exact ih hrest fun v hv hpath => hseen v (.tail _ hv) hpath
    · rw [unitImports_eq, union_items_ofList]
      refine ih hrest fun v hv hpath t ht => ?_
      rw [items_union, List.mem_eraseDups, List.mem_append]
      rcases List.mem_cons.1 hpath with hsame | hpath
      · exact .inr (hapart v (.tail _ hv) u (.head _) hsame ▸ ht)
      · exact .inl (hseen v (.tail _ hv) hpath ht)

theorem collectImports_eq {units : List SourceUnit} (hapart : PathsTellApart units)
    (start : ImportSet) :
    collectImports units start = start.union (units.flatMap SourceUnit.localTexts) :=
  collectFrom_eq hapart fun _ _ hpath => absurd hpath List.not_mem_nil

theorem PathsTellApart.of_subset {units more : List SourceUnit} (h : PathsTellApart units)
    (hsub : more ⊆ units) : PathsTellApart more :=
  fun u hu v hv => h u (hsub hu) v (hsub hv)

/-- Units that come again bring nothing new. -/
theorem collectImports_append_of_subset {units again : List SourceUnit}
    (hapart : PathsTellApart units) (hagain : again ⊆ units) (start : ImportSet) :
    collectImports (units ++ again) start = collectImports units start := by
  have hall : PathsTellApart (units ++ again) :=
    hapart.of_subset (List.append_subset.2 ⟨List.Subset.refl _, hagain⟩)
  rw [collectImports_eq hall, collectImports_eq hapart, List.flatMap_append, ← union_union]
  have hsub : again.flatMap SourceUnit.localTexts ⊆ units.flatMap SourceUnit.localTexts := by
    intro t ht
    obtain ⟨u, hu, ht⟩ := List.mem_flatMap.1 ht
    exact List.mem_flatMap.2 ⟨u, hagain hu, ht⟩
  refine union_eq_self fun t ht => ?_
  rw [items_union, List.mem_eraseDups]
  exact List.mem_append_right _ (texts_subset hsub ht)

theorem collectImports_append {before after : List SourceUnit}
    (hapart : PathsTellApart (before ++ after)) (start : ImportSet) :
    collectImports (before ++ after) start =
      collectImports after (collectImports before start) := by
  have hbefore := hapart.of_subset (List.subset_append_left before after)
  have hafter := hapart.of_subset (List.subset_append_right before after)
  rw [collectImports_eq hapart, collectImports_eq hafter, collectImports_eq hbefore, union_union,
    List.flatMap_append]

/-- A set is its own list, sets of lists are joined and thinned out as the lists are, and a set
keeps the order in which its texts are first seen. Collecting the directives of units in two steps
or in one gives the set of all their texts behind those of the start; units that come again change
nothing. -/
theorem import_sets_fold :
    (∀ s : ImportSet, (∀ d ∈ s.items, Text.trim d = d ∧ d ≠ "") ∧ s.items.Nodup ∧
      ofList s.items = s) ∧
    (∀ a b e : List String, (ofList a).union b = ofList (a ++ b) ∧
      ((ofList a).union b).without e =
        ((ofList a).without e).union ((ofList b).without e).items) ∧
    (∀ directives : List String, FirstSeen directives (ofList directives)) ∧
    ∀ (before after : List SourceUnit) (start : ImportSet), PathsTellApart (before ++ after) →
      collectImports (before ++ after) start =
        collectImports after (collectImports before start) ∧
      collectImports (before ++ after) start =
        ofList (start.items ++ (before ++ after).flatMap SourceUnit.localTexts) ∧
      ∀ again ⊆ before ++ after,
        collectImports (before ++ after ++ again) start =
          collectImports (before ++ after) start := by
  refine ⟨fun s => ⟨s.trimmed, s.distinct, ofList_items s⟩,
    fun a b e => ⟨union_ofList a b, without_union a b e⟩, firstSeen_ofList, ?_⟩
  intro before after start hapart
  exact ⟨collectImports_append hapart start, collectImports_eq hapart start,
    fun again hagain => collectImports_append_of_subset hapart hagain start⟩

namespace Sample

/-- Two files that share a directive; the second one has a global directive too. -/
def sharing : List SourceUnit :=
  [file "a.cs" [directive "using System;", directive "using App.Data;"],
    file "b.cs" [directive "global using Shared;", directive "using App.Text;",
      directive "using System;"]]

end Sample

/-- The two files behind a set that has one of their directives, and then once more from the last
to the first. -/
theorem import_sets_fold_sharing :
    PathsTellApart (Sample.sharing ++ Sample.sharing.reverse) ∧
      collectImports (Sample.sharing ++ Sample.sharing.reverse) (ofList [" using App.Text; "]) =
        ofList ["using App.Text;", "using System;", "using App.Data;"] := by
  have hpaths : (Sample.sharing.map SourceUnit.path).Nodup := by decide
  have hapart : PathsTellApart (Sample.sharing ++ Sample.sharing.reverse) := by
    intro u hu v hv
    simp only [List.mem_append, List.mem_reverse, or_self] at hu hv
    exact List.inj_on_of_nodup_map hpaths hu hv
  refine ⟨hapart, ?_⟩
  rw [(import_sets_fold.2.2.2 _ _ _ hapart).2.1]
  exact eq_of_items (by decide +kernel)

end Registrar
