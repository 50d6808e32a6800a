import NodeDecl.Proofs.Json.Reading

/-!
# Strict and lax readers

Two readers may take texts apart in the same way while one of them checks more.  The strict
one then fails wherever the lax one does, and where it refuses a text that the lax one
accepts, the reason is to be found in what the lax one gives.  This relation between
readers is kept by all ways of making readers from others.
-/

namespace NodeDecl.Json

variable {α β γ δ σ τ : Type}

/-- What a strict reader comes to, beside what a lax one comes to on the same text. -/
inductive Stricter (agree : α → β → Prop) (excuse : Reason → β → Prop) :
    Outcome α → Outcome β → Prop
  | accepts {strict : α} {lax : β} (agrees : agree strict lax) (rest : List Char) :
      Stricter agree excuse (.ok (strict, rest)) (.ok (lax, rest))
  | fails (failure : Failure) : Stricter agree excuse (.error failure) (.error failure)
  | refuses {failure : Failure} {outcome : Outcome β}
      (excused : ∀ lax rest, outcome = .ok (lax, rest) → excuse failure.reason lax) :
      Stricter agree excuse (.error failure) outcome

/-- A reader that is stricter than another one. -/
def Reader.Refines (strict : Reader α) (lax : Reader β) (agree : α → β → Prop)
    (excuse : Reason → β → Prop) : Prop :=
  ∀ text, Stricter agree excuse (strict.run text) (lax.run text)

namespace Reader.Refines

variable {strict : Reader α} {lax : Reader β} {agree : α → β → Prop}
  {excuse : Reason → β → Prop}

/-- A reader is as strict as itself. -/
theorem refl (reader : Reader α) : reader.Refines reader Eq fun _ _ => False := by
  intro text
  cases reader.run text with
  | ok result => exact .accepts rfl result.2
  | error failure => exact .fails failure

theorem map (refines : strict.Refines lax agree excuse) {change : α → γ} {change' : β → δ}
    {agree' : γ → δ → Prop} {excuse' : Reason → δ → Prop}
    (agrees : ∀ value lax, agree value lax → agree' (change value) (change' lax))
    (excuses : ∀ reason lax, excuse reason lax → excuse' reason (change' lax)) :
    (strict.map change).Refines (lax.map change') agree' excuse' := by
  intro text
  rw [Reader.map, Reader.map]
  dsimp only
  have turn := refines text
  generalize strict.run text = outcome, lax.run text = outcome' at turn ⊢
  cases turn with
  | accepts agreed rest => exact .accepts (agrees _ _ agreed) rest
  | fails failure => exact .fails failure
  | refuses excused =>
      apply Stricter.refuses
      intro value rest accepted
      split at accepted
      · cases accepted
        exact excuses _ _ (excused _ _ rfl)
      · contradiction

theorem within (refines : strict.Refines lax agree excuse) (segment : Segment) :
    (strict.within segment).Refines (lax.within segment) agree excuse := by
  intro text
  rw [Reader.within, Reader.within]
  dsimp only
  have turn := refines text
  generalize strict.run text = outcome, lax.run text = outcome' at turn ⊢
  cases turn with
  | accepts agreed rest => exact .accepts agreed rest
  | fails failure => exact .fails _
  | refuses excused =>
      apply Stricter.refuses
      intro value rest accepted
      split at accepted
      · cases accepted
        exact excused _ _ rfl
      · contradiction

/-- Readers of something with brackets are related as those of its inside are. -/
theorem dispatch {opens : Char → Bool} {body : Char → Reader α} {body' : Char → Reader β}
    (inside : ∀ c, opens c = true → (body c).Refines (body' c) agree excuse)
    (outside : strict.Refines lax agree excuse) :
    (Reader.dispatch opens (some body) strict).Refines
      (Reader.dispatch opens (some body') lax) agree excuse := by
  intro text
  rw [Reader.dispatch, Reader.dispatch]
  dsimp only
  split
  · exact outside []
  · next c rest _ =>
      split
      · next bracket => exact inside c bracket rest
      · exact outside (c :: rest)

/-- Readers that accept nothing are as strict as each other. -/
theorem refuse (failure : List Char → Failure) :
    (Reader.refuse failure : Reader α).Refines (Reader.refuse failure) agree excuse :=
  fun text => .fails (failure text)

/-- Loops are related if their steps are, as long as an excuse remains one in the steps that
the lax loop still takes. -/
theorem loop (related : σ → τ → Prop) (spoiled : Reason → τ → Prop)
    {step : σ → Reader (σ ⊕ α)} {step' : τ → Reader (τ ⊕ β)} {start : σ} {start' : τ}
    (begins : related start start')
    (steps : ∀ state state', related state state' →
      (step state).Refines (step' state') (Sum.LiftRel related agree)
        fun reason => Sum.elim (spoiled reason) (excuse reason))
    (kept : ∀ reason state', spoiled reason state' →
      (step' state').Yields (Sum.elim (spoiled reason) (excuse reason))) :
    (Reader.loop step start).Refines (Reader.loop step' start') agree excuse := by
  intro text
  change Stricter agree excuse (iterate step start text) (iterate step' start' text)
  induction length : text.length using Nat.strongRecOn generalizing text start start' with
  | ind size ih =>
      rw [iterate_eq, iterate_eq step']
      have turn := steps start start' begins text
      have shorter : ∀ next rest, (step start).run text = .ok (next, rest) →
          rest.length < text.length := fun _ _ => (step start).consumes
      generalize (step start).run text = outcome, (step' start').run text = outcome'
        at turn shorter ⊢
      cases turn with
      | accepts agreed rest =>
          cases agreed with
          | inl still => exact ih _ (length ▸ shorter _ _ rfl) still rest rfl
          | inr done => exact .accepts done rest
      | fails failure => exact .fails failure
      | @refuses failure _ excused =>
          apply Stricter.refuses
          intro value rest accepted
          split at accepted
          · contradiction
          · cases accepted
            exact excused _ _ rfl
          · have loops := Reader.Yields.loop (spoiled failure.reason)
              (excused _ _ rfl) (kept failure.reason)
            exact loops _ _ _ accepted

end Reader.Refines

/-! ## Objects -/

section

variable {related : σ → τ → Prop} {spoiled : Reason → τ → Prop}

/-- What becomes of a member in a strict object, beside a lax one. -/
inductive Settles (related : σ → τ → Prop) (spoiled : Reason → τ → Prop) :
    Except Reason σ → Except Reason τ → Prop
  | takes {state : σ} {state' : τ} (still : related state state') :
      Settles related spoiled (.ok state) (.ok state')
  | refuses {reason : Reason} {state' : τ} (excused : spoiled reason state') :
      Settles related spoiled (.error reason) (.ok state')

/-- Members that are refused alike, or whose values are read alike. -/
inductive MemberRefines (related : σ → τ → Prop) (spoiled : Reason → τ → Prop) :
    Member σ → Member τ → Prop
  | refused (reason : Reason) : MemberRefines related spoiled (.refused reason) (.refused reason)
  | value {strict : Reader (Except Reason σ)} {lax : Reader (Except Reason τ)}
      (refines : strict.Refines lax (Settles related spoiled)
        fun reason result => ∀ state', result = .ok state' → spoiled reason state') :
      MemberRefines related spoiled (.value strict) (.value lax)

theorem memberValue_refines {strict : Reader (Except Reason σ)}
    {lax : Reader (Except Reason τ)}
    (refines : strict.Refines lax (Settles related spoiled)
      fun reason result => ∀ state', result = .ok state' → spoiled reason state')
    (key : String) (text : List Char) :
    Stricter related spoiled (memberValue key strict text) (memberValue key lax text) := by
  rw [memberValue, memberValue]
  split
  · exact .fails _
  · next rest _ =>
      have turn := refines.within (.key key) rest
      generalize (strict.within _).run rest = outcome, (lax.within _).run rest = outcome'
        at turn ⊢
      cases turn with
      | accepts settled behind =>
          cases settled with
          | takes still => exact .accepts still behind
          | refuses excused =>
              apply Stricter.refuses
              rintro _ _ ⟨⟩
              rw [settled_reason]
              exact excused
      | fails failure => exact .fails failure
      | refuses excused =>
          apply Stricter.refuses
          intro state' behind accepted
          split at accepted
          · contradiction
          · cases accepted
            exact excused _ _ rfl _ rfl
          · contradiction

/-- One turn of reading objects. -/
theorem memberStep_refines {take : σ → String → Member σ} {take' : τ → String → Member τ}
    (isFirst : Bool) {state : σ} {state' : τ} (still : related state state')
    (members : ∀ key, MemberRefines related spoiled (take state key) (take' state' key)) :
    (memberStep take (isFirst, state)).Refines (memberStep take' (isFirst, state'))
      (Sum.LiftRel (fun next next' => next.1 = next'.1 ∧ related next.2 next'.2) related)
      fun reason => Sum.elim (fun next' => spoiled reason next'.2) (spoiled reason) := by
  intro text
  rw [memberStep, memberStep]
  dsimp only
  split
  · exact .fails _
  · exact .accepts (.inr still) _
  · next key rest _ =>
      have member := members key
      generalize take state key = taken, take' state' key = taken' at member ⊢
      cases member with
      | refused reason => exact .fails _
      | @value strict lax refines =>
          have turn := memberValue_refines refines key rest
          dsimp only
          generalize memberValue key strict rest = outcome, memberValue key lax rest = outcome'
            at turn ⊢
          cases turn with
          | accepts still behind => exact .accepts (.inl ⟨rfl, still⟩) behind
          | fails failure => exact .fails failure
          | refuses excused =>
              apply Stricter.refuses
              intro next behind accepted
              obtain ⟨inner, read, rfl⟩ := Outcome.map_eq_ok accepted
              exact excused inner behind read

/-- Objects are related if their members are. -/
theorem objectBody_refines {take : σ → String → Member σ} {take' : τ → String → Member τ}
    {start : σ} {start' : τ} (begins : related start start')
    (members : ∀ state state' key, related state state' →
      MemberRefines related spoiled (take state key) (take' state' key))
    (kept : ∀ reason state' key reader, spoiled reason state' → take' state' key = .value reader →
      reader.Yields fun result => ∀ next, result = .ok next → spoiled reason next) :
    (objectBody take start).Refines (objectBody take' start') related spoiled := by
  apply Reader.Refines.loop (fun state state' => state.1 = state'.1 ∧ related state.2 state'.2)
    (fun reason state' => spoiled reason state'.2) ⟨rfl, begins⟩
  · rintro ⟨isFirst, state⟩ ⟨_, state'⟩ ⟨rfl, still⟩
    exact memberStep_refines isFirst still fun key => members state state' key still
  · intro reason state' spoilt
    exact memberStep_yields spoilt (kept reason)

end

/-! ## Records -/

namespace Record

variable {start : σ} {start' : τ} {field : RecordField σ} {field' : RecordField τ}
  {agree : σ → τ → Prop} {excuse : Reason → τ → Prop} {levels : Nat}

theorem listReader_refines (begins : agree start start')
    (refines : (field.reader levels).Refines (field'.reader levels)
      (fun change change' => agree (change start) (change' start'))
      fun reason change' => excuse reason (change' start')) :
    (listReader [field] start levels).Refines (listReader [field'] start' levels) agree
      excuse := by
  intro text
  change Stricter agree excuse (takeItems levels 0 start [field] text)
    (takeItems levels 0 start' [field'] text)
  rw [takeItems, takeItems]
  split
  · exact .fails _
  · exact .accepts begins _
  · next front _ =>
      have turn := refines.within (.index 0) front
      generalize ((field.reader levels).within _).run front = outcome,
        ((field'.reader levels).within _).run front = outcome' at turn ⊢
      cases turn with
      | accepts agreed rest =>
          dsimp only
          rw [takeItems, takeItems]
          cases listEnd rest with
          | ok result => exact .accepts agreed result.2
          | error failure => exact .fails failure
      | fails failure => exact .fails failure
      | refuses excused =>
          apply Stricter.refuses
          intro value behind accepted
          split at accepted
          · contradiction
          · obtain ⟨_, _, rfl⟩ := Outcome.map_eq_ok accepted
            exact excused _ _ rfl

/-- Records with a single field are related if their fields are.  In an object the field is
taken up at most once, so an excuse that it gives remains. -/
theorem objectReader_refines (sameName : field.name = field'.name)
    (begins : agree start start')
    (refines : (field.reader levels).Refines (field'.reader levels)
      (fun change change' => agree (change start) (change' start'))
      fun reason change' => excuse reason (change' start')) :
    (objectReader [field] start levels).Refines (objectReader [field'] start' levels) agree
      excuse := by
  let related : List String × σ → List String × τ → Prop := fun state state' =>
    (state = ([], start) ∧ state' = ([], start')) ∨
      (state.1 = [field'.name] ∧ state'.1 = [field'.name] ∧ agree state.2 state'.2)
  let spoiled : Reason → List String × τ → Prop := fun reason state' =>
    state'.1 = [field'.name] ∧ excuse reason state'.2
  have gathered : (objectBody (takeMember [field] levels) ([], start)).Refines
      (objectBody (takeMember [field'] levels) ([], start')) related spoiled := by
    apply objectBody_refines (.inl ⟨rfl, rfl⟩)
    · intro state state' key still
      by_cases named : field'.name = key
      · have known : [field].find? (·.name = key) = some field := by simp [sameName, named]
        have known' : [field'].find? (·.name = key) = some field' := by simp [named]
        obtain ⟨rfl, rfl⟩ | ⟨names, names', -⟩ := still
        · rw [takeMember_known known List.not_mem_nil, takeMember_known known' List.not_mem_nil]
          apply MemberRefines.value
          apply refines.map
          · intro change change' agreed
            exact .takes (.inr ⟨by rw [named], by rw [named], agreed⟩)
          · rintro reason change' excused _ ⟨⟩
            exact ⟨by rw [named], excused⟩
        · rw [takeMember_again known (by simp [names, named]),
            takeMember_again known' (by simp [names', named])]
          exact .refused _
      · rw [takeMember_unknown (by simp [sameName, named]), takeMember_unknown (by simp [named])]
        apply MemberRefines.value
        apply (Reader.Refines.refl skip).map
        · intro _ _ _
          exact .takes still
        · intro _ _ never
          exact never.elim
    · intro reason state' key reader spoilt taken
      by_cases named : field'.name = key
      · have known' : [field'].find? (·.name = key) = some field' := by simp [named]
        rw [takeMember_again known' (by simp [spoilt.1, named])] at taken
        contradiction
      · rw [takeMember_unknown (by simp [named])] at taken
        cases taken
        refine (Reader.Yields.anything skip).map ?_
        intro _ _ _ equal
        cases equal
        exact spoilt
  apply gathered.map
  · rintro _ _ (⟨rfl, rfl⟩ | ⟨-, -, agreed⟩)
    · exact begins
    · exact agreed
  · intro reason state' spoilt
    exact spoilt.2

/-- Records with a single field, in either form, are related if their fields are. -/
theorem reader_refines {record : Record σ} {record' : Record τ} (title : record.name = record'.name)
    (fields : record.fields = [field]) (fields' : record'.fields = [field'])
    (sameName : field.name = field'.name) (begins : agree start start')
    (refines : (field.reader levels).Refines (field'.reader levels)
      (fun change change' => agree (change start) (change' start'))
      fun reason change' => excuse reason (change' start')) :
    (record.reader start (levels + 1)).Refines (record'.reader start' (levels + 1)) agree
      excuse := by
  rw [reader, reader, Reader.nested, Reader.nested, title, fields, fields']
  apply Reader.Refines.dispatch
  · intro opening _
    by_cases list : opening = '['
    · rw [if_pos list, if_pos list]
      exact listReader_refines begins refines
    · rw [if_neg list, if_neg list]
      exact objectReader_refines sameName begins refines
  · exact Reader.Refines.refuse _

end Record

end NodeDecl.Json
