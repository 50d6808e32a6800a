import Mathlib.Data.List.Forall2
import Mathlib.Logic.Function.Iterate
import NodeDecl.TypeExpr.Resolution

/-!
# Which validators stand for a type

Validators of arrays may be nested to any depth.  Below all of them is the core, a validator
of another form, and it alone decides: if it lists some alternatives, they make up the type,
within as many arrays as stand around the core, and otherwise the core is to blame.  The
types that come out of this are made of names and literals only, in at most one union.
-/

namespace NodeDecl

/-! ## Forms of types -/

namespace TypeExpr

/-- The type of a name: four names are those of primitive values, and every other name is
that of a node. -/
inductive IsNamed : String → TypeExpr → Prop
  | value {name : String} (primitive : name ∈ ["null", "string", "number", "boolean"]) :
      IsNamed name (.value name)
  | nodeRef {name : String} (other : name ∉ ["null", "string", "number", "boolean"]) :
      IsNamed name (.nodeRef name)

/-- A type without parts. -/
inductive IsAtom : TypeExpr → Prop
  | value (name : String) : IsAtom (.value name)
  | nodeRef (name : String) : IsAtom (.nodeRef name)
  | literal (text : String) : IsAtom (.literal text)

/-- The type of one of some alternatives.  A single one is the type itself. -/
inductive IsOneOf : List TypeExpr → TypeExpr → Prop
  | single (arm : TypeExpr) : IsOneOf [arm] arm
  | union {arms : List TypeExpr} (several : 2 ≤ arms.length) : IsOneOf arms (.union arms)

/-- A type occurs in another one as a part of it, or as the whole. -/
inductive Occurs (part : TypeExpr) : TypeExpr → Prop
  | whole : Occurs part part
  | arm {arm : TypeExpr} {arms : List TypeExpr} (member : arm ∈ arms) (inside : Occurs part arm) :
      Occurs part (.union arms)
  | item {item : TypeExpr} (inside : Occurs part item) : Occurs part (.readOnlyArray item)

/-- A type in which nothing is left open or taken over verbatim, and in which each union has
two arms at least and no union among them. -/
structure Tidy (type : TypeExpr) : Prop where
  not_mixed : ¬ Occurs .mixed type
  not_verbatim : ∀ text, ¬ Occurs (.verbatim text) type
  several : ∀ arms, Occurs (.union arms) type → 2 ≤ arms.length
  flat : ∀ arms, Occurs (.union arms) type → ∀ arm ∈ arms, ∀ inner, arm ≠ .union inner

theorem isNamed_named (name : String) : IsNamed name (named name) := by
  rw [named]
  split
  · next primitive => exact .value primitive
  · next other => exact .nodeRef other

theorem IsNamed.eq_named {name : String} {type : TypeExpr} (isNamed : IsNamed name type) :
    type = named name := by
  cases isNamed with
  | value primitive => exact (if_pos primitive).symm
  | nodeRef other => exact (if_neg other).symm

theorem IsNamed.isAtom {name : String} {type : TypeExpr} (isNamed : IsNamed name type) :
    type.IsAtom := by
  cases isNamed with
  | value => exact .value name
  | nodeRef => exact .nodeRef name

theorem isOneOf_ofArms {arms : List TypeExpr} (nonempty : arms ≠ []) :
    IsOneOf arms (ofArms arms) := by
  match arms with
  | [arm] => exact .single arm
  | first :: second :: rest => exact .union (by simp)

/-- Nothing but itself occurs in a type without parts. -/
theorem IsAtom.eq_of_occurs {part type : TypeExpr} (atom : type.IsAtom)
    (occurs : Occurs part type) : part = type := by
  cases atom <;> cases occurs <;> rfl

/-- What occurs in a type of alternatives without parts is that type or one of them. -/
theorem IsOneOf.of_occurs {arms : List TypeExpr} {part type : TypeExpr}
    (isOneOf : IsOneOf arms type) (atoms : ∀ arm ∈ arms, IsAtom arm)
    (occurs : Occurs part type) : part ∈ arms ∨ 2 ≤ arms.length ∧ part = .union arms := by
  cases isOneOf with
  | single =>
      left
      rw [(atoms type List.mem_cons_self).eq_of_occurs occurs]
      exact List.mem_cons_self
  | union several =>
      cases occurs with
      | whole => exact .inr ⟨several, rfl⟩
      | arm member inside =>
          left
          rwa [(atoms _ member).eq_of_occurs inside]

/-- What occurs in nested arrays is an array or occurs in the items of the innermost. -/
theorem occurs_iterate_readOnlyArray {depth : Nat} {part base : TypeExpr}
    (occurs : Occurs part (readOnlyArray^[depth] base)) :
    (∃ item, part = .readOnlyArray item) ∨ Occurs part base := by
  induction depth with
  | zero => exact .inr occurs
  | succ depth ih =>
      rw [Function.iterate_succ_apply'] at occurs
      cases occurs with
      | whole => exact .inl ⟨_, rfl⟩
      | item inside => exact ih inside

/-- Arrays of alternatives without parts are tidy. -/
theorem IsOneOf.tidy {arms : List TypeExpr} {base : TypeExpr} (isOneOf : IsOneOf arms base)
    (atoms : ∀ arm ∈ arms, arm.IsAtom) (depth : Nat) : (readOnlyArray^[depth] base).Tidy := by
  have parts : ∀ {part}, Occurs part (readOnlyArray^[depth] base) →
      (∃ item, part = .readOnlyArray item) ∨ part.IsAtom ∨
        2 ≤ arms.length ∧ part = .union arms := by
    intro part occurs
    refine (occurs_iterate_readOnlyArray occurs).imp_right fun inside => ?_
    exact (isOneOf.of_occurs atoms inside).imp_left (atoms part)
  constructor
  case not_mixed =>
    intro occurs
    rcases parts occurs with ⟨_, array⟩ | atom | ⟨-, union⟩ <;> contradiction
  case not_verbatim =>
    intro text occurs
    rcases parts occurs with ⟨_, array⟩ | atom | ⟨-, union⟩ <;> contradiction
  case several =>
    intro others occurs
    rcases parts occurs with ⟨_, array⟩ | atom | ⟨several, union⟩
    · contradiction
    · contradiction
    · cases union
      exact several
  case flat =>
    intro others occurs arm member inner isUnion
    rcases parts occurs with ⟨_, array⟩ | atom | ⟨-, union⟩
    · contradiction
    · contradiction
    · cases union
      have atom := atoms arm member
      rw [isUnion] at atom
      contradiction

end TypeExpr

/-! ## Validators -/

namespace Validator

open TypeExpr (IsNamed IsAtom IsOneOf Tidy readOnlyArray)

/-- The validator of arrays with items that a validator takes. -/
def arrayOf (item : Validator) : Validator :=
  .chainOf [.exactType "array", .each item]

/-- The validator of strings out of a choice. -/
def stringOf (literals : List Json.Value) : Validator :=
  .chainOf [.exactType "string", .oneOfLiterals literals]

/-- The validators that stand for a type. -/
inductive Resolvable : Validator → Prop
  | exactType (name : String) : Resolvable (.exactType name)
  | oneOfNodeTypes {names : List String} (nonempty : names ≠ []) :
      Resolvable (.oneOfNodeTypes names)
  | oneOfNodeOrValueTypes {names : List String} (nonempty : names ≠ []) :
      Resolvable (.oneOfNodeOrValueTypes names)
  | oneOfLiterals {literals : List Json.Value} (nonempty : literals ≠ []) :
      Resolvable (.oneOfLiterals literals)
  | string {literals : List Json.Value} (nonempty : literals ≠ []) :
      Resolvable (stringOf literals)
  | array {item : Validator} (inside : Resolvable item) : Resolvable (arrayOf item)

/-- The alternatives that a validator lists, in the same order. -/
inductive Lists : Validator → List TypeExpr → Prop
  | exactType {name : String} {arm : TypeExpr} (named : IsNamed name arm) :
      Lists (.exactType name) [arm]
  | oneOfNodeTypes {names : List String} {arms : List TypeExpr}
      (named : List.Forall₂ IsNamed names arms) : Lists (.oneOfNodeTypes names) arms
  | oneOfNodeOrValueTypes {names : List String} {arms : List TypeExpr}
      (named : List.Forall₂ IsNamed names arms) : Lists (.oneOfNodeOrValueTypes names) arms
  | oneOfLiterals (literals : List Json.Value) :
      Lists (.oneOfLiterals literals)
        (literals.map fun literal => .literal (Literal.text literal))
  | string (literals : List Json.Value) :
      Lists (stringOf literals) (literals.map fun literal => .literal literal.toText)

variable {validator core : Validator} {arms : List TypeExpr} {type : TypeExpr}

/-- No alternative has parts. -/
theorem Lists.isAtom (lists : Lists validator arms) : ∀ arm ∈ arms, arm.IsAtom := by
  have ofNames : ∀ {names arms}, List.Forall₂ IsNamed names arms → ∀ arm ∈ arms, arm.IsAtom := by
    intro names arms named
    induction named with
    | nil => simp
    | cons isNamed _ ih => exact List.forall_mem_cons.2 ⟨isNamed.isAtom, ih⟩
  cases lists with
  | exactType named => simpa using named.isAtom
  | oneOfNodeTypes named => exact ofNames named
  | oneOfNodeOrValueTypes named => exact ofNames named
  | oneOfLiterals literals => exact List.forall_mem_map.2 fun literal _ => .literal _
  | string literals => exact List.forall_mem_map.2 fun literal _ => .literal _

theorem forall₂_isNamed_iff {names : List String} :
    List.Forall₂ IsNamed names arms ↔ arms = names.map TypeExpr.named := by
  constructor
  · intro named
    induction named with
    | nil => rfl
    | cons isNamed _ ih => rw [List.map_cons, ih, isNamed.eq_named]
  · rintro rfl
    rw [List.forall₂_map_right_iff, List.forall₂_same]
    exact fun name _ => TypeExpr.isNamed_named name

/-- Alternatives without any are no type. -/
theorem alternatives?_nil (whole : Validator) : alternatives? whole [] = .error ⟨whole.toJson⟩ :=
  rfl

theorem alternatives?_of_ne_nil (whole : Validator) (nonempty : arms ≠ []) :
    alternatives? whole arms = .ok (.ofArms arms) := by
  rw [alternatives?]
  exact nonempty

/-! ### Resolving -/

/-- A validator of arrays stands for arrays of what its items stand for. -/
theorem resolve_arrayOf (item : Validator) :
    (arrayOf item).resolve = item.resolve.map readOnlyArray := by
  rw [arrayOf, resolve, if_pos rfl]

/-- The same for arrays within arrays. -/
theorem resolve_iterate_arrayOf (depth : Nat) (core : Validator) :
    (arrayOf^[depth] core).resolve = core.resolve.map readOnlyArray^[depth] := by
  induction depth with
  | zero =>
      rw [Function.iterate_zero_apply, Function.iterate_zero]
      cases core.resolve <;> rfl
  | succ depth ih =>
      rw [Function.iterate_succ_apply', resolve_arrayOf, ih, Function.iterate_succ']
      cases core.resolve <;> rfl

/-- A validator that lists alternatives stands for them, unless there are none. -/
theorem Lists.resolve_eq (lists : Lists validator arms) :
    validator.resolve = alternatives? validator arms := by
  cases lists with
  | exactType named => rw [resolve, named.eq_named, alternatives?_of_ne_nil _ (by simp)]; rfl
  | oneOfNodeTypes named => rw [resolve, forall₂_isNamed_iff.1 named]
  | oneOfNodeOrValueTypes named => rw [resolve, forall₂_isNamed_iff.1 named]
  | oneOfLiterals literals => rw [resolve]
  | string literals => rw [stringOf, resolve, if_pos rfl]

/-- A validator that neither lists alternatives nor is one of arrays is to blame itself. -/
theorem resolve_of_not_lists (notArray : ∀ item, validator ≠ arrayOf item)
    (none : ∀ arms, ¬ Lists validator arms) : validator.resolve = .error ⟨validator.toJson⟩ := by
  fun_cases resolve validator with
  | case1 name => exact absurd (.exactType (TypeExpr.isNamed_named name)) (none _)
  | case2 names => exact absurd (.oneOfNodeTypes (forall₂_isNamed_iff.2 rfl)) (none _)
  | case3 names => exact absurd (.oneOfNodeOrValueTypes (forall₂_isNamed_iff.2 rfl)) (none _)
  | case4 literals => exact absurd (.oneOfLiterals literals) (none _)
  | case5 item => exact absurd rfl (notArray item)
  | case6 => rfl
  | case7 literals => exact absurd (.string literals) (none _)
  | case8 => rfl
  | case9 => rfl

/-- Below all arrays there is a validator that is not one of arrays. -/
theorem exists_core (validator : Validator) :
    ∃ depth core, validator = arrayOf^[depth] core ∧ ∀ item, core ≠ arrayOf item := by
  fun_induction resolve validator with
  | case5 item ih =>
      obtain ⟨depth, core, equal, notArray⟩ := ih
      refine ⟨depth + 1, core, ?_, notArray⟩
      rw [Function.iterate_succ_apply', ← equal, arrayOf]
  | case6 first item other =>
      refine ⟨0, _, rfl, fun inner equal => other ?_⟩
      cases equal
      rfl
  | case9 validator _ _ _ _ other _ =>
      exact ⟨0, validator, rfl, fun inner equal => other "array" inner equal⟩
  | _ => exact ⟨0, _, rfl, fun inner equal => by simp [arrayOf] at equal⟩

/-- Arrays around a core stand for arrays of the alternatives that the core lists, or they
fail as the core itself does. -/
theorem resolve_arrays (notArray : ∀ item, core ≠ arrayOf item) (depth : Nat) :
    (∃ arms, arms ≠ [] ∧ Lists core arms ∧
      (arrayOf^[depth] core).resolve = .ok (readOnlyArray^[depth] (.ofArms arms))) ∨
    core.resolve = .error ⟨core.toJson⟩ ∧
      (arrayOf^[depth] core).resolve = .error ⟨core.toJson⟩ := by
  have ofError : core.resolve = .error ⟨core.toJson⟩ →
      (arrayOf^[depth] core).resolve = .error ⟨core.toJson⟩ := by
    intro failed
    rw [resolve_iterate_arrayOf, failed]
    rfl
  by_cases given : ∃ arms, Lists core arms
  · obtain ⟨arms, lists⟩ := given
    have resolved := lists.resolve_eq
    by_cases empty : arms = []
    · rw [empty, alternatives?_nil] at resolved
      exact .inr ⟨resolved, ofError resolved⟩
    · rw [alternatives?_of_ne_nil core empty] at resolved
      refine .inl ⟨arms, empty, lists, ?_⟩
      rw [resolve_iterate_arrayOf, resolved]
      rfl
  · have failed := resolve_of_not_lists notArray fun arms lists => given ⟨arms, lists⟩
    exact .inr ⟨failed, ofError failed⟩

/-! ### The resolvable validators -/

theorem Lists.resolvable (lists : Lists core arms) (nonempty : arms ≠ []) : core.Resolvable := by
  cases lists with
  | exactType named => exact .exactType _
  | oneOfNodeTypes named =>
      rw [forall₂_isNamed_iff.1 named, ne_eq, List.map_eq_nil_iff] at nonempty
      exact .oneOfNodeTypes nonempty
  | oneOfNodeOrValueTypes named =>
      rw [forall₂_isNamed_iff.1 named, ne_eq, List.map_eq_nil_iff] at nonempty
      exact .oneOfNodeOrValueTypes nonempty
  | oneOfLiterals literals => exact .oneOfLiterals fun empty => nonempty (by rw [empty]; rfl)
  | string literals => exact .string fun empty => nonempty (by rw [empty]; rfl)

/-- A resolvable validator stands for a type. -/
theorem Resolvable.exists_resolve_eq_ok (resolvable : validator.Resolvable) :
    ∃ type, validator.resolve = .ok type := by
  have ofLists : ∀ {validator arms}, Lists validator arms → arms ≠ [] →
      ∃ type, validator.resolve = .ok type := by
    intro validator arms lists nonempty
    exact ⟨_, lists.resolve_eq.trans (alternatives?_of_ne_nil validator nonempty)⟩
  induction resolvable with
  | exactType name => exact ofLists (.exactType (TypeExpr.isNamed_named name)) (by simp)
  | oneOfNodeTypes nonempty =>
      exact ofLists (.oneOfNodeTypes (forall₂_isNamed_iff.2 rfl)) (by simpa using nonempty)
  | oneOfNodeOrValueTypes nonempty =>
      exact ofLists (.oneOfNodeOrValueTypes (forall₂_isNamed_iff.2 rfl)) (by simpa using nonempty)
  | oneOfLiterals nonempty => exact ofLists (.oneOfLiterals _) (by simpa using nonempty)
  | string nonempty => exact ofLists (.string _) (by simpa using nonempty)
  | array _ ih =>
      obtain ⟨type, resolved⟩ := ih
      exact ⟨.readOnlyArray type, by rw [resolve_arrayOf, resolved]; rfl⟩

theorem Resolvable.iterate (resolvable : core.Resolvable) (depth : Nat) :
    (Validator.arrayOf^[depth] core).Resolvable := by
  induction depth with
  | zero => exact resolvable
  | succ depth ih =>
      rw [Function.iterate_succ_apply']
      exact .array ih

/-- Only resolvable validators stand for a type. -/
theorem resolvable_iff : validator.Resolvable ↔ ∃ type, validator.resolve = .ok type := by
  refine ⟨Resolvable.exists_resolve_eq_ok, ?_⟩
  rintro ⟨type, resolved⟩
  obtain ⟨depth, core, rfl, notArray⟩ := exists_core validator
  rcases resolve_arrays notArray depth with ⟨arms, nonempty, lists, -⟩ | ⟨-, failed⟩
  · exact (lists.resolvable nonempty).iterate depth
  · rw [failed] at resolved
    contradiction

/-- The types that validators stand for are tidy. -/
theorem tidy_of_resolve (resolved : validator.resolve = .ok type) : type.Tidy := by
  obtain ⟨depth, core, rfl, notArray⟩ := exists_core validator
  rcases resolve_arrays notArray depth with ⟨arms, nonempty, lists, arrays⟩ | ⟨-, failed⟩
  · obtain rfl := Except.ok.inj (arrays.symm.trans resolved)
    exact (TypeExpr.isOneOf_ofArms nonempty).tidy lists.isAtom depth
  · rw [failed] at resolved
    contradiction

/-- A validator stands for a type exactly if it is resolvable.  Below the arrays that stand
around it there is a core.  If resolving fails, the core is what is blamed: it is not
resolvable, and resolving it fails in the same way.  Otherwise the core lists alternatives,
none of which has parts, and the type is made of them within the same number of arrays. -/
theorem resolve_verdict (validator : Validator) :
    ((∃ type, validator.resolve = .ok type) ↔ validator.Resolvable) ∧
    ∃ depth core, validator = arrayOf^[depth] core ∧ (∀ item, core ≠ arrayOf item) ∧
      (∀ shape, validator.resolve = .error shape →
        shape.payload = core.toJson ∧ ¬ core.Resolvable ∧ core.resolve = .error shape) ∧
      ∀ type, validator.resolve = .ok type →
        ∃ arms base, Lists core arms ∧ (∀ arm ∈ arms, arm.IsAtom) ∧ IsOneOf arms base ∧
          type = readOnlyArray^[depth] base ∧ type.Tidy := by
  refine ⟨resolvable_iff.symm, ?_⟩
  obtain ⟨depth, core, rfl, notArray⟩ := exists_core validator
  refine ⟨depth, core, rfl, notArray, ?_⟩
  rcases resolve_arrays notArray depth with ⟨arms, nonempty, lists, resolved⟩ | ⟨own, failed⟩
  · constructor
    · intro shape failed
      rw [resolved] at failed
      contradiction
    · intro type found
      obtain rfl := Except.ok.inj (resolved.symm.trans found)
      exact ⟨arms, .ofArms arms, lists, lists.isAtom, TypeExpr.isOneOf_ofArms nonempty, rfl,
        tidy_of_resolve found⟩
  · constructor
    · intro shape blamed
      obtain rfl := Except.error.inj (failed.symm.trans blamed)
      refine ⟨rfl, fun resolvable => ?_, own⟩
      obtain ⟨type, resolved⟩ := resolvable.exists_resolve_eq_ok
      rw [own] at resolved
      contradiction
    · intro type found
      rw [failed] at found
      contradiction

/-- Inside of arrays a validator without a meaning is blamed alone, in other chains the whole
chain is. -/
example (payload : Json.Value) :
    (arrayOf (arrayOf (.unrecognized payload))).resolve = .error ⟨payload⟩ ∧
      (chainOf [.exactType "number", .each (.unrecognized payload)]).resolve =
        .error ⟨(chainOf [.exactType "number", .each (.unrecognized payload)]).toJson⟩ :=
  ⟨rfl, rfl⟩

end Validator

end NodeDecl
