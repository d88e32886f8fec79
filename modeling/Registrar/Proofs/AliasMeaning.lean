/-
What a using alias means at different places. The name that an alias stands
for is taken as it stands, so it finds the same type everywhere; but its type
arguments are read in the header that uses the alias (`resolve_alias_result`),
through the namespace, the enclosing types and the type parameters there. So
an alias means one type at two places exactly when what it leaves to be read
is read alike at both (`alias_agrees_iff`), and an alias of one file means
several types when its arguments are captured (`alias_means_several`).
-/
import Registrar.Proofs.Classification
import Registrar.Proofs.Shadowing

namespace Registrar

namespace Environment

open TypeExpr

variable {env : Environment} {d d' : TypeDeclaration} {x : String} {target : TypeExpr}

/-! ## What an alias resolves to -/

/-- An alias resolves to its target, of which the open parts are resolved where it is used. -/
theorem resolve_alias_result (hx : x ∉ d.parametersInScope)
    (h : env.aliasTarget? d x = some target) :
    (env.resolve d (simple x [])).result = (env.expandWith (env.resolve d) target).result := by
  -- One expansion more than there are aliases changes nothing, and it is the one of `x`.
  rw [← resolveWithin_result d (simple x []) 1, resolveWithin, resolveWith_simple hx, h]
  rfl

/-- The type that the name in a target means, with the arguments that were read for it. -/
def targetTy (env : Environment) (path : List Segment) (last : Segment) (arguments : List Ty) :
    Ty :=
  match env.find .exactArity (dotted path last) last.arguments.length with
  | some s => .named s.key arguments
  | none => .error (dotted path last) arguments

theorem targetTy_inj {path : List Segment} {last : Segment} {arguments others : List Ty} :
    env.targetTy path last arguments = env.targetTy path last others ↔ arguments = others := by
  unfold targetTy
  cases env.find .exactArity (dotted path last) last.arguments.length <;> simp

theorem expandWith_name_eq_ok_iff {resolve : TypeExpr → Noted EndlessAlias Ty}
    {qualifier : Option String} {path : List Segment} {last : Segment} {t : Ty} :
    (env.expandWith resolve (.name qualifier path last)).result = .ok t ↔
      ∃ arguments, (last.arguments.mapM resolve).result = .ok arguments ∧
        env.targetTy path last arguments = t := by
  rw [expandWith, Noted.result_bind_eq_ok]
  refine exists_congr fun arguments => and_congr_right fun _ => ?_
  unfold targetTy
  dsimp only
  cases env.find .exactArity (dotted path last) last.arguments.length <;>
    simp only [Noted.result_pure, Except.ok.injEq]

/-! ## The same alias at two places -/

/-- Lists that are read item by item are the same exactly when all items are read alike. -/
theorem mapM_agrees_iff {f g : TypeExpr → Noted EndlessAlias Ty} {es : List TypeExpr}
    {ts us : List Ty} (hts : (es.mapM f).result = .ok ts) (hus : (es.mapM g).result = .ok us) :
    ts = us ↔ ∀ e ∈ es, (f e).result = (g e).result := by
  induction es generalizing ts us with
  | nil =>
    obtain rfl := Except.ok.inj hts
    obtain rfl := Except.ok.inj hus
    simp
  | cons e rest ih =>
    rw [List.mapM_cons, Noted.result_bind_eq_ok] at hts hus
    obtain ⟨t, ht, hts⟩ := hts
    obtain ⟨u, hu, hus⟩ := hus
    obtain ⟨ts', hts', hts⟩ := Noted.result_bind_eq_ok.1 hts
    obtain ⟨us', hus', hus⟩ := Noted.result_bind_eq_ok.1 hus
    obtain rfl := Except.ok.inj hts
    obtain rfl := Except.ok.inj hus
    rw [List.cons.injEq, ih hts' hus', List.forall_mem_cons, ht, hu, Except.ok.injEq]

/-- A keyword is read alike everywhere. -/
theorem resolve_predefined (d : TypeDeclaration) (keyword : String) :
    (env.resolve d (.predefined keyword)).result = .ok (.predefined keyword) := by
  obtain ⟨expand, hexpand⟩ := env.resolveWithin_eq d (env.aliasCount d)
  rw [resolve, hexpand]
  rfl

/-- What the target of an alias means in the header of `d`: the type of its name with the arguments
that are read there, or, if it is no name, what is read there as a whole. -/
def ReadAs (env : Environment) (d : TypeDeclaration) (target : TypeExpr) (t : Ty) : Prop :=
  match target with
  | .name _ path last => ∃ arguments,
    (last.arguments.mapM (env.resolve d)).result = .ok arguments ∧
      env.targetTy path last arguments = t
  | target => (env.resolve d target).result = .ok t

theorem resolve_alias_eq_ok_iff (hx : x ∉ d.parametersInScope)
    (h : env.aliasTarget? d x = some target) {t : Ty} :
    (env.resolve d (simple x [])).result = .ok t ↔ env.ReadAs d target t := by
  rw [resolve_alias_result hx h]
  cases target with
  | name => exact expandWith_name_eq_ok_iff
  | predefined | array | nullable | tuple | raw => exact Iff.rfl

theorem ReadAs.agrees_iff {t t' : Ty} (ht : env.ReadAs d target t) (ht' : env.ReadAs d' target t') :
    t = t' ↔ ∀ e ∈ target.openParts, (env.resolve d e).result = (env.resolve d' e).result := by
  cases target with
  | name qualifier path last =>
    obtain ⟨arguments, harguments, rfl⟩ := ht
    obtain ⟨arguments', harguments', rfl⟩ := ht'
    rw [targetTy_inj]
    exact mapM_agrees_iff harguments harguments'
  | predefined | array | nullable | tuple | raw =>
    refine Iff.trans ?_ List.forall_mem_singleton.symm
    have hread : (env.resolve d _).result = .ok t := ht
    have hread' : (env.resolve d' _).result = .ok t' := ht'
    rw [hread, hread', Except.ok.injEq]

/-- Where two headers find one target for an alias, the name in the target is the same type for
both, and the alias means the same in both exactly when the open parts of the target do: the type
arguments of a name, or all of another type. -/
theorem alias_agrees_iff (hx : x ∉ d.parametersInScope) (hx' : x ∉ d'.parametersInScope)
    (h : env.aliasTarget? d x = some target) (h' : env.aliasTarget? d' x = some target) {t t' : Ty}
    (ht : (env.resolve d (simple x [])).result = .ok t)
    (ht' : (env.resolve d' (simple x [])).result = .ok t') :
    (env.ReadAs d target t ∧ env.ReadAs d' target t') ∧
      (t = t' ↔ ∀ e ∈ target.openParts, (env.resolve d e).result = (env.resolve d' e).result) := by
  have hread := (resolve_alias_eq_ok_iff hx h).1 ht
  have hread' := (resolve_alias_eq_ok_iff hx' h').1 ht'
  exact ⟨⟨hread, hread'⟩, hread.agrees_iff hread'⟩

/-- The nearest scope that gives the alias `x` a target. -/
def aliasScope? (env : Environment) (d : TypeDeclaration) (x : String) : Option UsingScope :=
  (env.scopesOf d).find? fun scope => (scope.aliasTarget? x).isSome

/-- The alias `x` has one meaning: all headers that find it in one scope resolve it to one type. -/
def OneMeaning (env : Environment) (x : String) : Prop :=
  ∀ d d' scope t t', x ∉ d.parametersInScope → x ∉ d'.parametersInScope →
    env.aliasScope? d x = some scope → env.aliasScope? d' x = some scope →
    (env.resolve d (simple x [])).result = .ok t →
    (env.resolve d' (simple x [])).result = .ok t' → t = t'

end Environment

/-! ## Captured type arguments -/

namespace Sample

open Registrar.Tree

/-- The written type `Lib.Box<argument>`. -/
def boxOf (argument : Node) : Node :=
  .node .qualifiedName "" true none 0 [word .identifier "Lib" none, generic "Box" [argument]]

/-- A file with aliases `Items` for `Lib.Box<Item>` and `Texts` for `Lib.Box<string>`, a class
`Item` outside all namespaces and one in `Near`, and three classes whose base is `Items`: one in
`Near`, `Plain` outside, and `Open<Item>` with a type parameter. -/
def capturing : Environment :=
  .build
    [file "items.cs"
      [aliasDirective "using Items = Lib.Box<Item>;" "Items" (boxOf (word .identifier "Item" none)),
        aliasDirective "using Texts = Lib.Box<string>;" "Texts"
          (boxOf (word .predefinedType "string" none)),
        typeNode .class [] "Item" [] [],
        namespaceAround "Lib" [typeNode .class [] "Box" ["T"] []],
        namespaceAround "Near"
          [typeNode .class [] "Item" [] [],
            typeNode .class [] "Handler" [] [word .identifier "Items" none]],
        typeNode .class [] "Plain" [] [word .identifier "Items" none],
        typeNode .class [] "Open" ["Item"] [word .identifier "Items" none]]]
    []

/-- The class `Handler` in `Near`. -/
def insideNear : TypeDeclaration :=
  (capturing.declared.flatMap Prod.snd).get ⟨3, by decide⟩

/-- The class `Plain`. -/
def plainUser : TypeDeclaration :=
  (capturing.declared.flatMap Prod.snd).get ⟨4, by decide⟩

/-- The class `Open<Item>`. -/
def openUser : TypeDeclaration :=
  (capturing.declared.flatMap Prod.snd).get ⟨5, by decide⟩

/-- What `Texts` stands for. -/
def textsTarget : TypeExpr :=
  .name none [.segment "Lib" []] (.segment "Box" [.predefined "string"])

/-- How the alias `x` is shown in the header of a class, and whether it is open there. -/
def aliasShown (x : String) (d : TypeDeclaration) : Option (String × Bool) :=
  (capturing.resolve d (TypeExpr.simple x [])).result.toOption.map fun t => (t.display, t.isOpen)

theorem exists_type_of_aliasShown {x shown : String} {isOpen : Bool} {d : TypeDeclaration}
    (h : aliasShown x d = some (shown, isOpen)) :
    ∃ t, (capturing.resolve d (TypeExpr.simple x [])).result = .ok t ∧ t.display = shown := by
  obtain ⟨t, ht, hshown⟩ := Option.map_eq_some_iff.1 h
  refine ⟨t, ?_, congrArg Prod.fst hshown⟩
  cases hresult : (capturing.resolve d (TypeExpr.simple x [])).result with
  | error e => rw [hresult] at ht; cases ht
  | ok found => rw [hresult] at ht; exact congrArg Except.ok (Option.some.inj ht)

end Sample

namespace Environment

open TypeExpr Sample

/-- The alias `Texts` means a box of `string` wherever it is found. -/
theorem resolve_texts {d : TypeDeclaration} (hx : "Texts" ∉ d.parametersInScope)
    (h : capturing.aliasTarget? d "Texts" = some textsTarget) :
    (capturing.resolve d (simple "Texts" [])).result =
      .ok (capturing.targetTy [.segment "Lib" []] (.segment "Box" [.predefined "string"])
        [.predefined "string"]) := by
  refine (resolve_alias_eq_ok_iff hx h).2 ⟨[.predefined "string"], ?_, rfl⟩
  rw [Segment.arguments, List.mapM_cons, Noted.result_bind_of_ok (resolve_predefined d "string")]
  rfl

/-- `string` is read alike everywhere, so `Texts` is one type. -/
theorem alias_agrees_iff_texts :
    ("Texts" ∉ plainUser.parametersInScope ∧ "Texts" ∉ insideNear.parametersInScope) ∧
      capturing.aliasTarget? plainUser "Texts" = some textsTarget ∧
      capturing.aliasTarget? insideNear "Texts" = some textsTarget ∧
      ∃ t t', (capturing.resolve plainUser (simple "Texts" [])).result = .ok t ∧
        (capturing.resolve insideNear (simple "Texts" [])).result = .ok t' ∧ t = t' ∧
        t.display = "Lib.Box<string>" := by
  have hx : "Texts" ∉ plainUser.parametersInScope := by decide
  have hx' : "Texts" ∉ insideNear.parametersInScope := by decide
  have htarget : capturing.aliasTarget? plainUser "Texts" = some textsTarget := rfl
  have htarget' : capturing.aliasTarget? insideNear "Texts" = some textsTarget := rfl
  have ht := resolve_texts hx htarget
  have ht' := resolve_texts hx' htarget'
  refine ⟨⟨hx, hx'⟩, htarget, htarget', _, _, ht, ht', ?_, by decide +kernel⟩
  refine (alias_agrees_iff hx hx' htarget htarget' ht ht').2.2 fun e he => ?_
  rw [List.mem_singleton.1 he, resolve_predefined, resolve_predefined]

/-- `Items` is found in one scope, but its argument is `Item`, `Near.Item` or a type parameter. -/
theorem alias_means_several :
    ¬capturing.OneMeaning "Items" ∧
      [plainUser, insideNear, openUser].map (aliasShown "Items") =
        [some ("Lib.Box<Item>", false), some ("Lib.Box<Near.Item>", false),
          some ("Lib.Box<Item>", true)] := by
  have hshown : [plainUser, insideNear, openUser].map (aliasShown "Items") =
      [some ("Lib.Box<Item>", false), some ("Lib.Box<Near.Item>", false),
        some ("Lib.Box<Item>", true)] := by decide +kernel
  refine ⟨fun hone => ?_, hshown⟩
  obtain ⟨hplain, hrest⟩ := List.cons.inj hshown
  obtain ⟨hnear, _⟩ := List.cons.inj hrest
  obtain ⟨t, ht, hdisplay⟩ := exists_type_of_aliasShown hplain
  obtain ⟨t', ht', hdisplay'⟩ := exists_type_of_aliasShown hnear
  obtain ⟨scope, hscope⟩ : ∃ scope, capturing.aliasScope? plainUser "Items" = some scope :=
    ⟨_, rfl⟩
  have hsame := hone plainUser insideNear scope t t' (by decide) (by decide) hscope hscope ht ht'
  rw [hsame, hdisplay'] at hdisplay
  exact absurd hdisplay (by decide)

end Environment

end Registrar
