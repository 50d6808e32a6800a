import NodeDecl.Json.Record
import NodeDecl.Proofs.Json.Values

/-!
# What reading gives

A property of everything that a reader gives follows from properties of what its parts
give: of a loop from an invariant of its steps, of an object from what each member does
to the members before it.  Reading a value gives one that a document can hold.
-/

namespace NodeDecl.Json

variable {α β σ : Type}

/-- Whatever a reader gives has a property. -/
def Reader.Yields (reader : Reader α) (holds : α → Prop) : Prop :=
  ∀ text value rest, reader.run text = .ok (value, rest) → holds value

namespace Reader.Yields

variable {reader : Reader α} {holds : α → Prop}

/-- What a changed value is depends on what it was. -/
theorem map (yields : reader.Yields holds) {change : α → β} {after : β → Prop}
    (changed : ∀ value, holds value → after (change value)) :
    (reader.map change).Yields after := by
  intro text value rest accepted
  rw [Reader.map] at accepted
  simp only at accepted
  split at accepted
  · next inner =>
      cases accepted
      exact changed _ (yields _ _ _ inner)
  · contradiction

theorem within (yields : reader.Yields holds) (segment : Segment) :
    (reader.within segment).Yields holds := by
  intro text value rest accepted
  rw [Reader.within] at accepted
  simp only at accepted
  split at accepted
  · next inner =>
      cases accepted
      exact yields _ _ _ inner
  · contradiction

/-- A loop gives what its steps give from states that satisfy an invariant. -/
theorem loop (invariant : σ → Prop) {step : σ → Reader (σ ⊕ α)} {start : σ}
    (begins : invariant start)
    (steps : ∀ state, invariant state → (step state).Yields (Sum.elim invariant holds)) :
    (Reader.loop step start).Yields holds := by
  have general : ∀ state text value rest, invariant state →
      iterate step state text = .ok (value, rest) → holds value := by
    intro state text value rest kept accepted
    fun_induction iterate step state text with
    | case1 => contradiction
    | case2 state text last behind inner =>
        cases accepted
        exact steps state kept _ _ _ inner
    | case3 state text next behind inner _ ih => exact ih (steps state kept _ _ _ inner) accepted
  intro text value rest accepted
  exact general start text value rest begins accepted

/-- Nothing is said of what is read. -/
theorem anything (reader : Reader α) : reader.Yields fun _ => True :=
  fun _ _ _ _ => trivial

/-- A reader that accepts nothing gives nothing. -/
theorem refuse (failure : List Char → Failure) : (Reader.refuse failure).Yields holds := by
  intro text value rest accepted
  contradiction

/-- Something with brackets gives what its inside gives, anything else what is read
outside. -/
theorem dispatch {opens : Char → Bool} {body? : Option (Char → Reader α)}
    (inside : ∀ body, body? = some body → ∀ c, opens c = true → (body c).Yields holds)
    (outside : reader.Yields holds) : (Reader.dispatch opens body? reader).Yields holds := by
  intro text value rest accepted
  rw [Reader.dispatch] at accepted
  simp only at accepted
  split at accepted
  · exact outside _ _ _ accepted
  · split at accepted
    · next bracket =>
        split at accepted
        · contradiction
        · exact inside _ rfl _ bracket _ _ _ accepted
    · exact outside _ _ _ accepted

/-- The same with a level of nesting left. -/
theorem nested {opens : Char → Bool} {body : Nat → Char → Reader α} {levels : Nat}
    (inside : ∀ c, opens c = true → (body levels c).Yields holds)
    (outside : reader.Yields holds) :
    (Reader.nested opens body reader (levels + 1)).Yields holds := by
  rw [Reader.nested]
  refine dispatch ?_ outside
  intro _ equal
  cases equal
  exact inside

end Reader.Yields

/-! ## Lists, objects and records -/

variable {holds : α → Prop} {invariant : σ → Prop}

/-- A list gives the items that its reader gives. -/
theorem listBody_yields {item : Reader α} (yields : item.Yields holds) :
    (listBody item).Yields fun items => ∀ value ∈ items, holds value := by
  refine Reader.Yields.loop (fun items => ∀ value ∈ items, holds value) (by simp) ?_
  intro items kept text result rest accepted
  rw [itemStep] at accepted
  simp only at accepted
  split at accepted
  · contradiction
  · cases accepted
    intro value member
    exact kept value (List.mem_reverse.1 member)
  · rcases Outcome.map_eq_ok accepted with ⟨value, inner, rfl⟩
    intro other member
    rcases List.mem_cons.1 member with rfl | earlier
    · exact yields.within _ _ _ _ inner
    · exact kept other earlier

theorem memberValue_yields {key : String} {reader : Reader (Except Reason σ)}
    {text rest : List Char} {state : σ}
    (yields : reader.Yields fun result => ∀ next, result = .ok next → invariant next)
    (accepted : memberValue key reader text = .ok (state, rest)) : invariant state := by
  rw [memberValue] at accepted
  split at accepted
  · contradiction
  · split at accepted
    · contradiction
    · next inner =>
        cases accepted
        exact yields.within _ _ _ _ inner _ rfl
    · contradiction

/-- One turn of reading an object keeps what its members keep. -/
theorem memberStep_yields {take : σ → String → Member σ} {state : Bool × σ}
    (kept : invariant state.2)
    (takes : ∀ state key reader, invariant state → take state key = .value reader →
      reader.Yields fun result => ∀ next, result = .ok next → invariant next) :
    (memberStep take state).Yields (Sum.elim (fun next => invariant next.2) invariant) := by
  intro text result rest accepted
  rw [memberStep] at accepted
  simp only at accepted
  split at accepted
  · contradiction
  · cases accepted
    exact kept
  · split at accepted
    · contradiction
    · next taken =>
        rcases Outcome.map_eq_ok accepted with ⟨next, inner, rfl⟩
        show invariant next
        exact memberValue_yields (takes _ _ _ kept taken) inner

/-- An object gives a state that its members lead to. -/
theorem objectBody_yields {take : σ → String → Member σ} {start : σ}
    (begins : invariant start)
    (takes : ∀ state key reader, invariant state → take state key = .value reader →
      reader.Yields fun result => ∀ next, result = .ok next → invariant next) :
    (objectBody take start).Yields invariant :=
  Reader.Yields.loop (fun state => invariant state.2) begins
    fun _ kept => memberStep_yields kept takes

/-- A map gives the values that their reader gives. -/
theorem mapBody_yields {value : Reader α} (yields : value.Yields holds) :
    (mapBody value).Yields fun map => ∀ entry ∈ map.entries, holds entry.2 := by
  refine objectBody_yields (by simp) ?_
  intro map key _ kept equal
  cases equal
  refine yields.map ?_
  intro read sound _ equal entry member
  cases equal
  rcases OrderedMap.mem_entries_insert member with rfl | earlier
  · exact sound
  · exact kept entry earlier

namespace Record

/-- The items of a list keep what holds of a record if the changes of its fields do. -/
theorem takeItems_yields {levels position : Nat} {state result : σ}
    {fields : List (RecordField σ)} {text rest : List Char} (kept : invariant state)
    (keeps : ∀ field ∈ fields, (field.reader levels).Yields
      fun change => ∀ state, invariant state → invariant (change state))
    (accepted : takeItems levels position state fields text = .ok (result, rest)) :
    invariant result := by
  induction fields generalizing position state text with
  | nil =>
      rcases Outcome.map_eq_ok accepted with ⟨_, _, rfl⟩
      exact kept
  | cons field fields ih =>
      rw [takeItems] at accepted
      split at accepted
      · contradiction
      · cases accepted
        exact kept
      · split at accepted
        · contradiction
        · next inner =>
            apply ih _ (fun field member => keeps field (List.mem_cons_of_mem _ member)) accepted
            exact (keeps field List.mem_cons_self).within _ _ _ _ inner _ kept

/-- The object form keeps what holds of a record if the changes of its fields do. -/
theorem objectReader_yields {levels : Nat} {fields : List (RecordField σ)} {start : σ}
    (begins : invariant start)
    (keeps : ∀ field ∈ fields, (field.reader levels).Yields
      fun change => ∀ state, invariant state → invariant (change state)) :
    (objectReader fields start levels).Yields invariant := by
  have gathered : (objectBody (takeMember fields levels) ([], start)).Yields
      fun state => invariant state.2 := by
    refine objectBody_yields begins ?_
    intro state key reader kept taken
    rw [takeMember] at taken
    split at taken
    · cases taken
      refine (Reader.Yields.anything skip).map ?_
      intro _ _ _ equal
      cases equal
      exact kept
    · next field found =>
        split at taken
        · contradiction
        · cases taken
          refine (keeps field (List.mem_of_find?_eq_some found)).map ?_
          intro change sound _ equal
          cases equal
          exact sound _ kept
  exact gathered.map fun state kept => kept

/-- Either form of a record keeps what holds of it if the changes of its fields do. -/
theorem reader_yields {record : Record σ} {start : σ} {levels : Nat} (begins : invariant start)
    (keeps : ∀ field ∈ record.fields, (field.reader levels).Yields
      fun change => ∀ state, invariant state → invariant (change state)) :
    (record.reader start (levels + 1)).Yields invariant := by
  refine Reader.Yields.nested ?_ (Reader.Yields.refuse _)
  intro opening _
  by_cases list : opening = '['
  · rw [if_pos list]
    intro text value rest accepted
    exact takeItems_yields begins keeps accepted
  · rw [if_neg list]
    exact objectReader_yields begins keeps

end Record

/-! ## Numbers -/

variable {negative : Bool} {significand extra : Nat} {power : Int} {text rest : List Char}
  {value : Number}

theorem finishNumber_inRange
    (accepted : finishNumber negative significand power text = .ok (value, rest)) :
    value.InRange := by
  rw [finishNumber] at accepted
  split at accepted
  · cases accepted
    trivial
  · contradiction

theorem exponentPart_inRange
    (accepted : exponentPart negative significand power text = .ok (value, rest)) :
    value.InRange := by
  rw [exponentPart] at accepted
  split at accepted
  split at accepted
  · contradiction
  · split at accepted
    · split at accepted
      · exact finishNumber_inRange accepted
      · split at accepted
        · contradiction
        · cases accepted
          trivial
    · contradiction

theorem afterFraction_inRange
    (accepted : afterFraction negative significand power text = .ok (value, rest)) :
    value.InRange := by
  rw [afterFraction.eq_def] at accepted
  split at accepted
  · exact exponentPart_inRange accepted
  · exact exponentPart_inRange accepted
  · exact finishNumber_inRange accepted

theorem fractionPart_inRange
    (accepted : fractionPart negative significand power text = .ok (value, rest)) :
    value.InRange := by
  rw [fractionPart.eq_def] at accepted
  simp only at accepted
  split at accepted
  · split at accepted <;> contradiction
  · exact afterFraction_inRange accepted

/-- An integer is as large as its significand allows. -/
theorem afterInteger_inRange (bounded : significand < significandBound)
    (accepted : afterInteger negative significand extra text = .ok (value, rest)) :
    value.InRange := by
  rw [afterInteger.eq_def] at accepted
  split at accepted
  · exact fractionPart_inRange accepted
  · exact exponentPart_inRange accepted
  · exact exponentPart_inRange accepted
  · split at accepted
    · cases accepted
      exact ⟨by omega, by omega⟩
    · split at accepted
      · next small =>
          cases accepted
          exact ⟨by omega, by omega⟩
      · exact finishNumber_inRange accepted

/-- Digits are taken as long as the significand stays below its bound. -/
theorem takeDigits_lt {start : Nat} (bounded : start < significandBound) (text : List Char) :
    (takeDigits start text).1 < significandBound := by
  fun_induction takeDigits start text with
  | case1 => exact bounded
  | case2 start c rest next taken total count behind equal ih =>
      rw [equal] at ih
      exact ih taken.2
  | case3 => exact bounded

/-- A digit is below the bound. -/
theorem digitValue_lt {c : Char} (digit : c.isDigit = true) : digitValue c < significandBound := by
  have atMost : c.toNat ≤ '9'.toNat := (Char.isDigit_iff_toNat.1 digit).2
  rw [digitValue]
  exact Nat.lt_of_le_of_lt (Nat.le_trans (Nat.sub_le _ _) atMost) (by decide)

/-- A number that is read is in range. -/
theorem number_inRange (accepted : number negative text = .ok (value, rest)) :
    value.InRange := by
  rw [number.eq_def] at accepted
  split at accepted
  · contradiction
  · next c behind =>
      split at accepted
      · split at accepted
        · exact afterInteger_inRange (by decide) accepted
        · contradiction
      · split at accepted
        · next digit =>
            have bounded := takeDigits_lt (digitValue_lt digit) behind
            exact afterInteger_inRange bounded accepted
        · contradiction

/-! ## Values -/

/-- A scalar can be stored at any depth. -/
theorem scalar?_storable {value : Value}
    (accepted : scalar? text = some (.ok (value, rest))) (levels : Nat) :
    Storable levels value := by
  have word_eq : ∀ {result : Value} {letters text : List Char},
      word result letters text = .ok (value, rest) → value = result := by
    intro result letters text accepted
    fun_induction word result letters text with
    | case1 =>
        cases accepted
        rfl
    | case2 => contradiction
    | case3 _ _ _ ih => exact ih accepted
    | case4 => contradiction
  rw [scalar?.eq_def] at accepted
  split at accepted
  · rw [word_eq (Option.some.inj accepted)]
    exact .null
  · rw [word_eq (Option.some.inj accepted)]
    exact .bool true
  · rw [word_eq (Option.some.inj accepted)]
    exact .bool false
  · rcases Outcome.map_eq_ok (Option.some.inj accepted) with ⟨number, inner, rfl⟩
    exact .number (number_inRange inner)
  · rcases Outcome.map_eq_ok (Option.some.inj accepted) with ⟨string, inner, rfl⟩
    exact .string string
  · split at accepted
    · rcases Outcome.map_eq_ok (Option.some.inj accepted) with ⟨number, inner, rfl⟩
      exact .number (number_inRange inner)
    · contradiction
  · contradiction

/-- Reading a value gives one that a document can hold. -/
theorem readValue_yields (levels : Nat) : (readValue levels).Yields (Storable levels) := by
  have outside : ∀ levels, readAnyScalar.Yields (Storable levels) := by
    intro levels text value rest accepted
    rw [readAnyScalar] at accepted
    simp only at accepted
    split at accepted
    · next found =>
        subst accepted
        exact scalar?_storable found levels
    · contradiction
  induction levels with
  | zero =>
      rw [readValue]
      refine Reader.Yields.dispatch ?_ (outside 0)
      intro _ none
      contradiction
  | succ levels ih =>
      rw [readValue]
      refine Reader.Yields.dispatch ?_ (outside (levels + 1))
      intro _ equal opening _
      cases equal
      by_cases list : opening = '['
      · rw [valueBody, if_pos list]
        exact (listBody_yields ih).map fun items storable => .array storable
      · rw [valueBody, if_neg list]
        exact (mapBody_yields ih).map fun map storable => .object map.keys_nodup storable

end NodeDecl.Json
