import NodeDecl.Proofs.Json.Verdicts

/-!
# Shapes of documents

A shape says which kind of value stands where in a document, down to the places where any
value may stand.  A reader follows a shape if it accepts the values that fit it and refuses
every other value at the first place, in the order of the document, where it does not fit.
Each way of making readers makes one that follows the shape made in the same way.
-/

namespace NodeDecl.Json

variable {α β σ : Type}

/-- What a value must look like. -/
inductive Shape where
  | any
  | bool
  | string
  | list (item : Shape)
  /-- An object with values of one shape. -/
  | map (value : Shape)
  /-- An object in which the name of a member says what its value must look like. -/
  | record (field : String → Shape)

namespace Shape

/-- The values of a shape.  Every member of a record may be left out. -/
inductive Fits : Shape → Value → Prop
  | any (value : Value) : Fits .any value
  | bool (value : Bool) : Fits .bool (.bool value)
  | string (value : String) : Fits .string (.string value)
  | list {item : Shape} {items : List Value} (fits : ∀ value ∈ items, Fits item value) :
      Fits (.list item) (.array items)
  | map {value : Shape} {members : List (String × Value)}
      (fits : ∀ member ∈ members, Fits value member.2) : Fits (.map value) (.object members)
  | record {field : String → Shape} {members : List (String × Value)}
      (fits : ∀ member ∈ members, Fits (field member.1) member.2) :
      Fits (.record field) (.object members)

/-- The paths of the values that are not of the kind that their place asks for, in the order
of the document. -/
def offences : Shape → Value → List (List Segment)
  | .any, _ | .bool, .bool _ | .string, .string _ => []
  | .list item, .array items =>
      items.zipIdx.flatMap fun part => (item.offences part.1).map (.index part.2 :: ·)
  | .map value, .object members =>
      members.flatMap fun entry => (value.offences entry.2).map (.key entry.1 :: ·)
  | .record field, .object members =>
      members.flatMap fun entry => ((field entry.1).offences entry.2).map (.key entry.1 :: ·)
  | _, _ => [[]]

/-- No list stands in the place of a record. -/
def Keyed : Shape → Value → Prop
  | .list item, .array items => ∀ value ∈ items, item.Keyed value
  | .map value, .object members => ∀ member ∈ members, value.Keyed member.2
  | .record field, .object members => ∀ member ∈ members, (field member.1).Keyed member.2
  | .record _, .array _ => False
  | _, _ => True

theorem flatMap_key_eq_nil {members : List (String × Value)}
    {wrong : String × Value → List (List Segment)} :
    (members.flatMap fun entry => (wrong entry).map (Segment.key entry.1 :: ·)) = [] ↔
      ∀ member ∈ members, wrong member = [] := by
  simp only [List.flatMap_eq_nil_iff, List.map_eq_nil_iff]

theorem flatMap_index_eq_nil {items : List Value} {wrong : Value → List (List Segment)} :
    (items.zipIdx.flatMap fun part => (wrong part.1).map (Segment.index part.2 :: ·)) = [] ↔
      ∀ value ∈ items, wrong value = [] := by
  simp only [List.flatMap_eq_nil_iff, List.map_eq_nil_iff]
  constructor
  · intro none value member
    rw [← List.zipIdx_map_fst 0 items] at member
    obtain ⟨part, inside, rfl⟩ := List.mem_map.1 member
    exact none part inside
  · intro none part inside
    exact none part.1 (List.fst_mem_of_mem_zipIdx inside)

/-- A value fits exactly if nothing in it is of the wrong kind. -/
theorem fits_iff_offences_eq_nil {shape : Shape} {value : Value} :
    shape.Fits value ↔ shape.offences value = [] := by
  constructor
  · intro fits
    induction fits with
    | any | bool _ | string _ => rfl
    | list _ ih => exact flatMap_index_eq_nil.2 ih
    | map _ ih => exact flatMap_key_eq_nil.2 ih
    | record _ ih => exact flatMap_key_eq_nil.2 ih
  · induction shape generalizing value with
    | any =>
        intro _
        exact .any value
    | bool =>
        cases value with
        | bool value =>
            intro _
            exact .bool value
        | null | number _ | string _ | array _ | object _ => simp [offences]
    | string =>
        cases value with
        | string value =>
            intro _
            exact .string value
        | null | bool _ | number _ | array _ | object _ => simp [offences]
    | list item ih =>
        cases value with
        | array items =>
            intro none
            apply Fits.list
            intro value member
            exact ih (flatMap_index_eq_nil.1 none value member)
        | null | bool _ | number _ | string _ | object _ => simp [offences]
    | map shape ih =>
        cases value with
        | object members =>
            intro none
            apply Fits.map
            intro member inside
            exact ih (flatMap_key_eq_nil.1 none member inside)
        | null | bool _ | number _ | string _ | array _ => simp [offences]
    | record field ih =>
        cases value with
        | object members =>
            intro none
            apply Fits.record
            intro member inside
            exact ih member.1 (flatMap_key_eq_nil.1 none member inside)
        | null | bool _ | number _ | string _ | array _ => simp [offences]

end Shape

/-! ## Readers that follow a shape -/

/-- A reader accepts the values of a shape, and refuses another one at the first place where
it does not fit. -/
def Follows (reader : Nat → Reader α) (shape : Shape) : Prop :=
  ∀ levels value text, TreeText value text → Storable levels value → shape.Keyed value →
    Judges (reader levels) text (shape.offences value)

theorem Follows.map {reader : Nat → Reader α} {shape : Shape} (follows : Follows reader shape)
    (change : α → β) : Follows (fun levels => (reader levels).map change) shape :=
  fun levels value text spelled storable keyed =>
    (follows levels value text spelled storable keyed).map change

theorem readValue_follows : Follows readValue .any :=
  fun _ _ _ spelled storable _ => (spelled.readValue storable).judges

/-! ## Scalars -/

/-- Where a scalar of one kind is asked for, everything else is refused. -/
theorem readScalar_judges {value : Value} {text : List Char} (spelled : TreeText value text)
    (expected : String) (pick : Value → Option α)
    (scalars : ∀ picked, pick value = some picked → value.isScalar = true) :
    Judges (readScalar expected pick) text (if (pick value).isSome then [] else [[]]) := by
  cases scalar : value.isScalar with
  | true =>
      have denotes := spelled.denotes scalar
      cases picks : pick value with
      | some picked => exact (denotes.readScalar expected picks).judges
      | none =>
          refine ⟨spelled.opens, ?_⟩
          intro gap rest blank delimited
          rw [readScalar]
          simp only [denotes.dropBlank_eq blank, denotes.scalar rest delimited, picks]
          exact ⟨_, rfl, rfl⟩
  | false =>
      have refused : pick value = none := by
        cases picks : pick value with
        | none => rfl
        | some picked =>
            rw [scalars picked picks] at scalar
            contradiction
      refine ⟨spelled.opens, ?_⟩
      intro gap rest blank delimited
      have path := spelled.mismatch_path delimited expected
      rw [refused, readScalar]
      cases spelled with
      | array _ _ =>
          simp only [List.cons_append, dropBlank_token (c := '[') rfl blank]
          exact ⟨_, rfl, path⟩
      | object _ _ _ =>
          simp only [List.cons_append, dropBlank_token (c := '{') rfl blank]
          exact ⟨_, rfl, path⟩
      | null | bool _ | number _ _ | string _ => contradiction

theorem readBool_follows : Follows (fun _ => readBool) .bool := by
  intro levels value text spelled _ _
  have judges := readScalar_judges spelled "a boolean" Value.asBool? (by
    cases value <;> simp [Value.asBool?, Value.isScalar])
  cases value <;> exact judges

theorem readString_follows : Follows (fun _ => readString) .string := by
  intro levels value text spelled _ _
  have judges := readScalar_judges spelled "a string" Value.asString? (by
    cases value <;> simp [Value.asString?, Value.isScalar])
  cases value <;> exact judges

/-! ## Lists -/

theorem readList_follows {item : Nat → Reader α} {shape : Shape} (follows : Follows item shape) :
    Follows (readList item) (.list shape) := by
  intro levels value text spelled storable keyed
  cases value with
  | array items =>
      cases storable with
      | @array levels _ storable =>
          cases spelled with
          | @array parts _ spelled body =>
              apply Judges.dispatch rfl rfl
              apply listBody_judges _ body
              intro part member
              have among : part.1 ∈ parts.map (·.1) := List.mem_map_of_mem member
              exact follows levels _ _ (spelled part member) (storable _ among) (keyed _ among)
  | null | bool _ | number _ | string _ | object _ =>
      apply spelled.judges_nested
      intro c behind first
      apply decide_eq_false
      intro opening
      obtain ⟨items, equal⟩ := (spelled.front first).1 opening
      contradiction

theorem readStrings_follows : Follows readStrings (.list .string) :=
  readList_follows readString_follows

/-! ## Objects -/

section

variable {take : Nat → σ → String → Member σ} {awaits : σ → List String → Prop}
  {field : String → Shape} {start : σ}

/-- An object takes up members with values of certain shapes. -/
def TakesShapes (take : Nat → σ → String → Member σ) (awaits : σ → List String → Prop)
    (field : String → Shape) : Prop :=
  ∀ levels name value text, TreeText value text → Storable levels value →
    (field name).Keyed value →
    TakesUp (take levels) awaits name text ((field name).offences value)

/-- An object behind its opening bracket is refused at the first of its values that does not
fit. -/
theorem TakesShapes.objectBody (takes : TakesShapes take awaits field)
    (begins : ∀ names, names.Nodup → awaits start names) {levels : Nat}
    {members : List ((String × Value) × MemberText)} {text : List Char}
    (keys : ∀ member ∈ members, StringText member.1.1 member.2.key)
    (spelled : ∀ member ∈ members, TreeText member.1.2 member.2.value)
    (body : BodyText '}' (members.map (·.2.text)) text)
    (distinct : ((members.map (·.1)).map (·.1)).Nodup)
    (storable : ∀ member ∈ members.map (·.1), Storable levels member.2)
    (keyed : ∀ member ∈ members.map (·.1), (field member.1).Keyed member.2) :
    JudgesInside (Json.objectBody (take levels) start) text
      ((members.map (·.1)).flatMap fun entry =>
        ((field entry.1).offences entry.2).map (.key entry.1 :: ·)) := by
  rw [List.map_map] at distinct
  apply objectBody_judges keys _ (begins _ distinct) body
  intro member inside
  have among : member.1 ∈ members.map (·.1) := List.mem_map_of_mem inside
  exact takes levels _ _ _ (spelled member inside) (storable _ among) (keyed _ among)

/-- An object with values of one shape. -/
theorem TakesShapes.map {shape : Shape} (takes : TakesShapes take awaits fun _ => shape)
    (begins : ∀ names, names.Nodup → awaits start names) (expected : String) :
    Follows (.nested (· = '{') (fun levels _ => Json.objectBody (take levels) start)
      (.refuse (mismatch expected))) (.map shape) := by
  intro levels value text spelled storable keyed
  cases value with
  | object members =>
      cases storable with
      | object distinct storable =>
          cases spelled with
          | object keys spelled body =>
              apply Judges.dispatch rfl rfl
              exact takes.objectBody begins keys spelled body distinct storable keyed
  | null | bool _ | number _ | string _ | array _ =>
      apply spelled.judges_nested
      intro c behind first
      apply decide_eq_false
      intro opening
      obtain ⟨members, equal⟩ := (spelled.front first).2 opening
      contradiction

end

theorem readMap_follows {value : Nat → Reader α} {shape : Shape} (follows : Follows value shape) :
    Follows (readMap value) (.map shape) := by
  have takes : TakesShapes (fun levels => takeEntry (value levels)) (fun _ _ => True)
      fun _ => shape := by
    intro levels name item text spelled storable keyed sofar names _
    refine ⟨_, rfl, (follows levels item text spelled storable keyed).map _, ?_⟩
    refine (Reader.Yields.anything (value levels)).map ?_
    intro read _
    exact ⟨_, rfl, trivial⟩
  exact takes.map (fun _ _ => trivial) "a map"

/-! ## Records -/

variable {fields : List (RecordField σ)} {field : String → Shape}

/-- The members of a record are taken up as its fields say, as long as no name comes again. -/
theorem takeMember_takesShapes
    (follows : ∀ known ∈ fields, Follows known.reader (field known.name))
    (others : ∀ name, name ∉ fields.map (·.name) → field name = .any) :
    TakesShapes (Record.takeMember fields) (fun state names => (state.1 ++ names).Nodup)
      field := by
  intro levels name value text spelled storable keyed state names awaited
  -- A known name moves from those that are awaited to those that have been taken up.
  have moved : (state.1 ++ name :: names).Perm (name :: state.1 ++ names) := List.perm_middle
  have distinct := moved.nodup_iff.1 awaited
  cases found : fields.find? (·.name = name) with
  | none =>
      have unknown : name ∉ fields.map (·.name) := by simpa using found
      rw [others name unknown]
      refine ⟨_, Record.takeMember_unknown found, spelled.wellFormed.readsBack.judges.map _, ?_⟩
      refine (Reader.Yields.anything skip).map ?_
      intro _ _
      exact ⟨_, rfl, distinct.of_cons⟩
  | some known =>
      have same : known.name = name := by simpa using List.find?_some found
      have fresh : name ∉ state.1 := fun given =>
        (List.nodup_cons.1 distinct).1 (List.mem_append_left names given)
      have judges := follows known (List.mem_of_find?_eq_some found) levels value text spelled
        storable (same ▸ keyed)
      rw [same] at judges
      refine ⟨_, Record.takeMember_known found fresh, judges.map _, ?_⟩
      refine (Reader.Yields.anything (known.reader levels)).map ?_
      intro change _
      exact ⟨_, rfl, distinct⟩

/-- A record follows the shapes of its fields. -/
theorem Record.reader_follows {record : Record σ} (start : σ)
    (follows : ∀ known ∈ record.fields, Follows known.reader (field known.name))
    (others : ∀ name, name ∉ record.fields.map (·.name) → field name = .any) :
    Follows (record.reader start) (.record field) := by
  intro levels value text spelled storable keyed
  cases value with
  | object members =>
      cases storable with
      | object distinct storable =>
          cases spelled with
          | object keys spelled body =>
              have begins : ∀ names : List String, names.Nodup →
                  ((([] : List String), start).1 ++ names).Nodup := fun _ distinct => distinct
              have inside := (takeMember_takesShapes follows others).objectBody begins keys
                spelled body distinct storable keyed
              exact Judges.dispatch rfl rfl (inside.map (·.2))
  | array items => exact keyed.elim
  | null | bool _ | number _ | string _ =>
      apply spelled.judges_nested
      intro c behind first
      exact spelled.isBracket_eq_false rfl first

end NodeDecl.Json
