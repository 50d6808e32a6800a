import NodeDecl.Proofs.Bindings
import NodeDecl.Proofs.Json.Values
import NodeDecl.Proofs.Schema.DecidingKey

/-!
# Writing validators

A validator is written as the member that decided it, or as the payload that fitted no
form.  Reading what was written gives a validator again exactly if nothing in it is kept in a
form that would be read in another one.  What was read is always such, though the members
that played no part are gone.
-/

namespace NodeDecl.Validator

open Json (Value Storable)

/-! ## The forms of a validator -/

theorem asString?_eq_some {value : Value} {name : String} (found : value.asString? = some name) :
    value = .string name := by
  cases value with
  | string text =>
      cases found
      rfl
  | null | bool _ | number _ | array _ | object _ => contradiction

theorem asArray?_eq_some {value : Value} {items : List Value}
    (found : value.asArray? = some items) : value = .array items := by
  cases value with
  | array items =>
      cases found
      rfl
  | null | bool _ | number _ | string _ | object _ => contradiction

/-- An array of strings is written from its strings. -/
theorem asStrings?_eq_some {value : Value} {names : List String}
    (found : value.asStrings? = some names) : value = .strings names := by
  have texts : ∀ (items : List Value) (names : List String),
      items.mapM Value.asString? = some names → items = names.map .string := by
    intro items
    induction items with
    | nil =>
        intro names all
        cases all
        rfl
    | cons item rest ih =>
        intro names all
        simp only [List.mapM_cons, Option.bind_eq_bind, Option.bind_eq_some_iff,
          Option.pure_def, Option.some.injEq] at all
        rcases all with ⟨name, text, others, rested, rfl⟩
        rw [asString?_eq_some text, ih others rested, List.map_cons]
  rcases Option.bind_eq_some_iff.1 found with ⟨items, array, all⟩
  rw [asArray?_eq_some array, Value.strings, texts items names all]

/-- An array of scalars is its scalars. -/
theorem scalars?_eq_some {value : Value} {literals : List Value}
    (found : scalars? value = some literals) : value = .array literals := by
  rcases Option.bind_eq_some_iff.1 found with ⟨items, array, all⟩
  split at all
  · cases all
    exact asArray?_eq_some array
  · contradiction

/-- A validator is written as one member, and read from it again. -/
def KeptUnder (key : String) (value : Value) (validator : Validator) : Prop :=
  validator.toJson = .object [(key, value)] ∧ ofJson (.object [(key, value)]) = validator

theorem exactType_kept {value : Value} {validator : Validator}
    (decided : value.asString?.map .exactType = some validator) :
    KeptUnder "type" value validator := by
  rcases Option.map_eq_some_iff.1 decided with ⟨name, found, rfl⟩
  cases asString?_eq_some found
  exact ⟨rfl, rfl⟩

theorem oneOfNodeTypes_kept {value : Value} {validator : Validator}
    (decided : value.asStrings?.map .oneOfNodeTypes = some validator) :
    KeptUnder "oneOfNodeTypes" value validator := by
  rcases Option.map_eq_some_iff.1 decided with ⟨names, found, rfl⟩
  refine ⟨by rw [toJson, asStrings?_eq_some found], ?_⟩
  simp [ofJson, lookup_cons_eq_ite, found]

theorem oneOfNodeOrValueTypes_kept {value : Value} {validator : Validator}
    (decided : value.asStrings?.map .oneOfNodeOrValueTypes = some validator) :
    KeptUnder "oneOfNodeOrValueTypes" value validator := by
  rcases Option.map_eq_some_iff.1 decided with ⟨names, found, rfl⟩
  refine ⟨by rw [toJson, asStrings?_eq_some found], ?_⟩
  simp [ofJson, lookup_cons_eq_ite, found]

theorem oneOfLiterals_kept {value : Value} {validator : Validator}
    (decided : (scalars? value).map .oneOfLiterals = some validator) :
    KeptUnder "oneOf" value validator := by
  rcases Option.map_eq_some_iff.1 decided with ⟨literals, found, rfl⟩
  refine ⟨by rw [toJson, scalars?_eq_some found], ?_⟩
  simp [ofJson, lookup_cons_eq_ite, found]

/-- What an object with some members can be read as. -/
inductive Classified (members : List (String × Value)) : Validator → Prop
  /-- A form that is written as the member that decided it. -/
  | kept {key : String} {value : Value} {validator : Validator}
      (found : members.lookup key = some value) (kept : KeptUnder key value validator) :
      Classified members validator
  | chainOf {items : List Value} (found : members.lookup "chainOf" = some (.array items)) :
      Classified members (.chainOf (items.map ofJson))
  | each {value : Value} (found : members.lookup "each" = some value) :
      Classified members (.each (ofJson value))
  | unrecognized : Classified members (.unrecognized (.object members))

/-- Every object is read as one of these. -/
theorem classified (members : List (String × Value)) :
    Classified members (ofJson (.object members)) := by
  rcases ofJson_object_cases members with ⟨key, value, decided, fits⟩ | same
  · have found := decided.found
    rw [form?.eq_def] at fits
    split at fits
    · exact .kept found (exactType_kept fits)
    · exact .kept found (oneOfNodeTypes_kept fits)
    · exact .kept found (oneOfNodeOrValueTypes_kept fits)
    · exact .kept found (oneOfLiterals_kept fits)
    · obtain ⟨items, isArray, equal⟩ := Option.map_eq_some_iff.1 fits
      rw [asArray?_eq_some isArray] at found
      rw [← equal]
      exact .chainOf found
    · rw [← Option.some.inj fits]
      exact .each found
    · contradiction
  · rw [same]
    exact .unrecognized

/-! ## Reading again -/

theorem ofJson_chainOf (items : List Value) :
    ofJson (.object [("chainOf", .array items)]) = .chainOf (items.map ofJson) := by
  simp [ofJson, lookup_cons_eq_ite, chainIn_eq_lookup, Value.asArray?]

theorem ofJson_each (value : Value) :
    ofJson (.object [("each", value)]) = .each (ofJson value) := by
  simp [ofJson, lookup_cons_eq_ite, chainIn_eq_lookup, eachIn_eq_lookup]

theorem asStrings?_strings (names : List String) :
    (Value.strings names).asStrings? = some names := by
  rw [Value.asStrings?, Value.strings, Value.asArray?, Option.bind_some]
  induction names with
  | nil => rfl
  | cons name names ih => simp [Value.asString?, ih]

theorem ofJson_oneOfLiterals_iff {literals : List Value} :
    ofJson (oneOfLiterals literals).toJson = .oneOfLiterals literals ↔
      ∀ literal ∈ literals, literal.isScalar = true := by
  have decided : DecidedBy [("oneOf", .array literals)] "oneOf" (.array literals) :=
    deciding?_eq_some_iff.1 rfl
  rw [toJson, ofJson_of_decidedBy decided, form?, scalars?, Value.asArray?, Option.bind_some,
    ← List.all_eq_true]
  split
  · next all => simp [all]
  · next mixed => simp [mixed]

/-- The validators that are read from their JSON form again.  At no depth do they keep a
payload that is of a known form, or a literal that is no scalar. -/
inductive Canonical : Validator → Prop
  | exactType (name : String) : Canonical (.exactType name)
  | oneOfNodeTypes (names : List String) : Canonical (.oneOfNodeTypes names)
  | oneOfNodeOrValueTypes (names : List String) : Canonical (.oneOfNodeOrValueTypes names)
  | oneOfLiterals {literals : List Value}
      (scalars : ∀ literal ∈ literals, literal.isScalar = true) :
      Canonical (.oneOfLiterals literals)
  | chainOf {steps : List Validator} (canonical : ∀ step ∈ steps, Canonical step) :
      Canonical (.chainOf steps)
  | each {item : Validator} (canonical : Canonical item) : Canonical (.each item)
  | unrecognized {payload : Value} (kept : ∃ raw, ofJson payload = .unrecognized raw) :
      Canonical (.unrecognized payload)

theorem canonical_chainOf_iff {steps : List Validator} :
    Canonical (.chainOf steps) ↔ ∀ step ∈ steps, Canonical step := by
  constructor
  · rintro ⟨⟩
    assumption
  · exact .chainOf

theorem canonical_each_iff {item : Validator} : Canonical (.each item) ↔ Canonical item := by
  constructor
  · rintro ⟨⟩
    assumption
  · exact .each

/-- A validator is read from its JSON form again exactly if it is canonical. -/
theorem ofJson_toJson_eq_iff :
    ∀ validator : Validator, ofJson validator.toJson = validator ↔ Canonical validator
  | .exactType name => iff_of_true rfl (.exactType name)
  | .oneOfNodeTypes names => by
      have decided : DecidedBy [("oneOfNodeTypes", .strings names)] "oneOfNodeTypes"
          (.strings names) := deciding?_eq_some_iff.1 rfl
      refine iff_of_true ?_ (.oneOfNodeTypes names)
      rw [toJson, ofJson_of_decidedBy decided, form?, asStrings?_strings]
      rfl
  | .oneOfNodeOrValueTypes names => by
      have decided : DecidedBy [("oneOfNodeOrValueTypes", .strings names)]
          "oneOfNodeOrValueTypes" (.strings names) := deciding?_eq_some_iff.1 rfl
      refine iff_of_true ?_ (.oneOfNodeOrValueTypes names)
      rw [toJson, ofJson_of_decidedBy decided, form?, asStrings?_strings]
      rfl
  | .oneOfLiterals literals => by
      rw [ofJson_oneOfLiterals_iff]
      constructor
      · exact .oneOfLiterals
      · rintro ⟨⟩
        assumption
  | .chainOf steps => by
      have each : ∀ step ∈ steps, (ofJson step.toJson = step ↔ Canonical step) :=
        fun step _ => ofJson_toJson_eq_iff step
      rw [toJson, stepsToJson_eq_map, ofJson_chainOf, chainOf.injEq, List.map_map,
        canonical_chainOf_iff, ← forall₂_congr each]
      nth_rewrite 2 [← List.map_id steps]
      exact List.map_inj_left
  | .each item => by
      rw [toJson, ofJson_each, each.injEq, canonical_each_iff]
      exact ofJson_toJson_eq_iff item
  | .unrecognized payload => by
      rw [toJson]
      constructor
      · intro again
        exact .unrecognized ⟨payload, again⟩
      · rintro ⟨⟩
        rename_i kept
        obtain ⟨raw, kept⟩ := kept
        rwa [eq_of_ofJson_eq_unrecognized kept] at kept

theorem sizeOf_lt_of_lookup_eq_some {members : List (String × Value)} {key : String}
    {value : Value} (found : members.lookup key = some value) :
    sizeOf value < sizeOf (Value.object members) := by
  have smaller := List.sizeOf_lt_of_mem (mem_of_lookup_eq_some found)
  simp only [Prod.mk.sizeOf_spec] at smaller
  simp only [Value.object.sizeOf_spec]
  omega

/-- Whatever a value is read as is canonical. -/
theorem canonical_ofJson : ∀ value : Value, Canonical (ofJson value)
  | .object members => by
      have form := classified members
      generalize same : ofJson (.object members) = validator at form ⊢
      cases form with
      | kept _ kept => exact (ofJson_toJson_eq_iff _).1 (by rw [kept.1, kept.2])
      | @chainOf items found =>
          apply Canonical.chainOf
          intro step member
          obtain ⟨item, inside, rfl⟩ := List.mem_map.1 member
          have smaller := List.sizeOf_lt_of_mem inside
          have below := sizeOf_lt_of_lookup_eq_some found
          have unfolded := Value.array.sizeOf_spec items
          exact canonical_ofJson item
      | each found =>
          have smaller := sizeOf_lt_of_lookup_eq_some found
          exact .each (canonical_ofJson _)
      | unrecognized => exact .unrecognized ⟨_, same⟩
  | .null | .bool _ | .number _ | .string _ | .array _ => .unrecognized ⟨_, rfl⟩
termination_by value => sizeOf value
decreasing_by all_goals omega

/-- Reading and writing a validator is stable: exactly the canonical validators come back from
their JSON form, and what is read is canonical.  So whatever is written of a value that was
read is read as the same validator, and written in the same way. -/
theorem wire_stable :
    (∀ validator : Validator, ofJson validator.toJson = validator ↔ Canonical validator) ∧
    (∀ raw, Canonical (ofJson raw)) ∧
    (∀ raw, ofJson (ofJson raw).toJson = ofJson raw) ∧
    ∀ raw, (ofJson (ofJson raw).toJson).toJson = (ofJson raw).toJson := by
  have again : ∀ raw, ofJson (ofJson raw).toJson = ofJson raw :=
    fun raw => (ofJson_toJson_eq_iff _).2 (canonical_ofJson raw)
  refine ⟨ofJson_toJson_eq_iff, canonical_ofJson, again, ?_⟩
  intro raw
  rw [again]

/-! ## Storing what was read -/

/-- What is written of a validator can be stored, and it is read as the validator. -/
structure Rereads (levels : Nat) (validator : Validator) : Prop where
  storable : Storable levels validator.toJson
  again : ofJson validator.toJson = validator

/-- An object with a single member can be stored if the value of the member can. -/
theorem storable_single {levels : Nat} (key : String) {value : Value}
    (storable : Storable levels value) : Storable (levels + 1) (.object [(key, value)]) := by
  apply Storable.object (by simp)
  intro member single
  cases List.mem_singleton.1 single
  exact storable

theorem storable_chainOf {levels : Nat} {steps : List Validator}
    (storable : ∀ step ∈ steps, Storable levels step.toJson) :
    Storable (levels + 2) (chainOf steps).toJson := by
  rw [toJson, stepsToJson_eq_map]
  apply storable_single
  apply Storable.array
  intro item written
  rcases List.mem_map.1 written with ⟨step, member, rfl⟩
  exact storable step member

/-- What is written of a value that was read is nested no deeper than the value. -/
theorem storable_toJson_ofJson {levels : Nat} {value : Value} (storable : Storable levels value) :
    Storable levels (ofJson value).toJson := by
  -- The steps of a chain are the items of an array, so they are two levels down.
  have general : Storable levels (ofJson value).toJson ∧
      ∀ below items, levels = below + 1 → value = .array items →
        ∀ item ∈ items, Storable below (ofJson item).toJson := by
    induction storable with
    | null => exact ⟨.null, by rintro _ _ _ ⟨⟩⟩
    | bool value => exact ⟨.bool value, by rintro _ _ _ ⟨⟩⟩
    | number inRange => exact ⟨.number inRange, by rintro _ _ _ ⟨⟩⟩
    | string value => exact ⟨.string value, by rintro _ _ _ ⟨⟩⟩
    | @array levels items storable ih =>
        refine ⟨.array storable, ?_⟩
        intro below _ equal equal' item member
        cases equal
        cases equal'
        exact (ih item member).1
    | @object levels members distinct storable ih =>
        refine ⟨?_, by rintro _ _ _ ⟨⟩⟩
        have form := classified members
        generalize ofJson (.object members) = validator at form ⊢
        cases form with
        | kept found kept =>
            rw [kept.1]
            exact storable_single _ (storable _ (mem_of_lookup_eq_some found))
        | @chainOf items found =>
            have member := mem_of_lookup_eq_some found
            have stored := storable _ member
            cases stored with
            | array _ =>
                apply storable_chainOf
                intro step inside
                rcases List.mem_map.1 inside with ⟨item, among, rfl⟩
                exact (ih _ member).2 _ items rfl rfl item among
        | each found =>
            rw [toJson]
            exact storable_single "each" (ih _ (mem_of_lookup_eq_some found)).1
        | unrecognized => exact .object distinct storable
  exact general.1

/-- Whatever a value is read as can be written and read again. -/
theorem rereads_ofJson {levels : Nat} {value : Value} (storable : Storable levels value) :
    Rereads levels (ofJson value) where
  storable := storable_toJson_ofJson storable
  again := (ofJson_toJson_eq_iff _).2 (canonical_ofJson value)

/-- Only `null` is written as `null` again. -/
theorem toJson_ofJson_ne_null {value : Value} (notNull : value ≠ .null) :
    (ofJson value).toJson ≠ .null := by
  cases value with
  | object members =>
      have form := classified members
      generalize ofJson (.object members) = validator at form ⊢
      cases form with
      | kept _ kept =>
          rw [kept.1]
          simp
      | chainOf _ => simp [toJson]
      | each _ => simp [toJson]
      | unrecognized => simp [toJson]
  | null | bool _ | number _ | string _ | array _ => exact notNull

end NodeDecl.Validator
