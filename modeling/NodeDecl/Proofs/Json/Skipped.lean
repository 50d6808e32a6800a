import NodeDecl.Proofs.Json.Extent

/-!
# What skipping takes

Skipping accepts nothing but well-formed values.  Each state of skipping asks for a certain
text in front: a value, a member, what is left of a list or an object behind its opening
bracket or behind one of its parts.  A run that succeeds has met these demands one after the
other, from the innermost open bracket outwards.
-/

namespace NodeDecl.Json

variable {whole rest : List Char}

/-- A text is what is left of it behind some blanks. -/
theorem exists_blank (text : List Char) : ∃ gap, Blank gap ∧ text = gap ++ dropBlank text :=
  ⟨text.takeWhile isBlank, List.all_eq_true.1 List.all_takeWhile,
    (List.takeWhile_append_dropWhile ..).symm⟩

theorem colon_eq_ok (accepted : colon whole = .ok ((), rest)) : whole = ':' :: rest := by
  rw [colon.eq_def] at accepted
  split at accepted
  · cases accepted
  · cases accepted
    rfl
  · cases accepted

namespace Skip

variable {frames outer : List Frame} {frame : Frame} {state : State}

/-- The parts of a list or an object. -/
inductive Part : Frame → List Char → Prop
  | item {text : List Char} (wellFormed : WellFormed text) : Part .list text
  | member (member : MemberText) {inside : List Char} (quoted : member.key = '"' :: inside)
      (loose : LooseText inside) (wellFormed : WellFormed member.value) :
      Part .object member.text

/-- The text that a state asks for. -/
inductive Demands : State → List Char → Prop
  | value {frames : List Frame} {gap text : List Char} (blank : Blank gap)
      (wellFormed : WellFormed text) : Demands (.value frames) (gap ++ text)
  | member {outer : List Frame} {gap text : List Char} (blank : Blank gap)
      (part : Part .object text) : Demands (.member outer) (gap ++ text)
  | opened {frame : Frame} {outer : List Frame} {parts : List (List Char)} {text : List Char}
      (each : ∀ part ∈ parts, Part frame part) (body : BodyText frame.closing parts text) :
      Demands (.opened frame outer) text
  | behindValue {frame : Frame} {outer : List Frame} {parts : List (List Char)}
      {text : List Char} (each : ∀ part ∈ parts, Part frame part)
      (tail : TailText frame.closing parts text) : Demands (.behindValue frame outer) text

/-- The frames that are open still when a state has what it asks for. -/
def State.around : State → List Frame
  | .value frames => frames
  | .member outer => .object :: outer
  | .opened _ outer | .behindValue _ outer => outer

/-- A text begins with what a state asks for, and skipping goes on behind it. -/
def Meets (state : State) (whole rest : List Char) : Prop :=
  ∃ text behind, Demands state text ∧ whole = text ++ behind ∧
    leave state.around behind = .ok ((), rest)

/-- A run that succeeds takes a step. -/
theorem exists_turn (accepted : goOn state whole = .ok ((), rest)) :
    ∃ next left, advance state (dropBlank whole) = .ok (next, left) := by
  rw [goOn, Reader.iterate_eq, step] at accepted
  simp only at accepted
  split at accepted
  · cases accepted
  · next left turn => exact ⟨_, left, turn⟩
  · next next left turn => exact ⟨_, left, turn⟩

/-- No state is content with the end of the text. -/
theorem exists_front (accepted : goOn state whole = .ok ((), rest)) :
    ∃ c behind, dropBlank whole = c :: behind ∧ behind.length < whole.length := by
  rcases exists_turn accepted with ⟨next, left, turn⟩
  cases front : dropBlank whole with
  | nil =>
      rw [front] at turn
      cases state with
      | value frames => cases turn
      | member outer => cases turn
      | opened frame outer => cases turn
      | behindValue frame outer => cases turn
  | cons c behind =>
      have shorter := dropBlank_length_le whole
      rw [front] at shorter
      exact ⟨c, behind, rfl, shorter⟩

/-- The parts of an object are its members. -/
theorem exists_members {parts : List (List Char)} (each : ∀ part ∈ parts, Part .object part) :
    ∃ members : List MemberText, members.map (·.text) = parts ∧
      (∀ member ∈ members, ∃ inside, member.key = '"' :: inside ∧ LooseText inside) ∧
      ∀ member ∈ members, WellFormed member.value := by
  induction parts with
  | nil => exact ⟨[], rfl, by simp, by simp⟩
  | cons part parts ih =>
      rcases List.forall_mem_cons.1 each with ⟨first, others⟩
      rcases ih others with ⟨members, rfl, keys, wellFormed⟩
      cases first with
      | member member quoted loose value =>
          exact ⟨member :: members, rfl, List.forall_mem_cons.2 ⟨⟨_, quoted, loose⟩, keys⟩,
            List.forall_mem_cons.2 ⟨value, wellFormed⟩⟩

/-- A list or an object is well-formed if its parts are. -/
theorem Demands.wellFormed {opening : Char} {text : List Char}
    (bracket : (opening, frame) = ('[', .list) ∨ (opening, frame) = ('{', .object))
    (demands : Demands (.opened frame outer) text) : WellFormed (opening :: text) := by
  cases demands with
  | @opened _ _ parts _ each body =>
      rcases bracket with list | object
      · cases list
        refine .array (fun item member => ?_) body
        cases each item member with
        | item wellFormed => exact wellFormed
      · cases object
        rcases exists_members each with ⟨members, rfl, keys, values⟩
        exact .object keys values body

/-- What is no list and no object is a scalar. -/
theorem valueStep_takes {next : State ⊕ Unit} {left : List Char}
    (turn : valueStep frames whole = .ok (next, left)) (notList : whole.head? ≠ some '[')
    (notObject : whole.head? ≠ some '{') :
    next = behind frames ∧ ∃ text, WellFormed text ∧ whole = text ++ left := by
  rw [valueStep.eq_def] at turn
  split at turn
  · cases turn
  · exact absurd rfl notList
  · exact absurd rfl notObject
  · split at turn
    · next found =>
      rcases Outcome.map_eq_ok turn with ⟨_, rfl, rfl⟩
      exact ⟨rfl, scalar?_takes found⟩
    · cases turn

/-- The key of a member and its colon. -/
theorem memberStep_takes {next : State ⊕ Unit} {left : List Char}
    (turn : memberStep outer whole = .ok (next, left)) :
    next = .inl (.value (.object :: outer)) ∧
      ∃ inside gap, LooseText inside ∧ Blank gap ∧
        whole = '"' :: (inside ++ (gap ++ ':' :: left)) := by
  rw [memberStep.eq_def] at turn
  split at turn
  · cases turn
  · split at turn
    · cases turn
    · next text taken =>
      rcases Outcome.map_eq_ok turn with ⟨_, separated, rfl⟩
      rcases stringBody_takes taken with ⟨inside, loose, rfl⟩
      rcases exists_blank text with ⟨gap, blank, cut⟩
      rw [colon_eq_ok separated] at cut
      exact ⟨rfl, inside, gap, loose, blank, by rw [cut]⟩
  · cases turn

/-- A part of a frame begins with a token. -/
theorem Part.opens {text : List Char} (part : Part frame text) : Opens text := by
  cases part with
  | item wellFormed => exact wellFormed.passes.opens
  | member member quoted loose wellFormed =>
      rw [MemberText.text, quoted]
      exact opens_cons rfl _

/-- What comes next inside a frame is a part of it. -/
theorem Demands.part {text : List Char} (demands : Demands (inside outer frame) text) :
    ∃ gap part, Blank gap ∧ Part frame part ∧ text = gap ++ part := by
  cases frame with
  | list =>
      cases demands with
      | value blank wellFormed => exact ⟨_, _, blank, .item wellFormed, rfl⟩
  | object =>
      cases demands with
      | member blank part => exact ⟨_, _, blank, part, rfl⟩

theorem around_inside : (inside outer frame).around = frame :: outer := by
  cases frame with
  | list => rfl
  | object => rfl

/-- Skipping goes on with a part of a frame where the frame is not closed. -/
theorem goOn_opened_of_ne {c : Char} {behindText : List Char}
    (front : dropBlank whole = c :: behindText) (goes : c ≠ frame.closing) :
    goOn (.opened frame outer) whole = goOn (inside outer frame) whole := by
  rw [goOn, goOn, Reader.iterate_eq, Reader.iterate_eq step (inside outer frame), step, step]
  simp only [front]
  cases frame with
  | list => simp only [advance, if_neg goes, inside]
  | object => simp only [advance, if_neg goes, inside]

section

variable (shorter : ∀ state text, text.length < whole.length →
  goOn state text = .ok ((), rest) → Meets state text rest)

include shorter

/-- Behind an opening bracket the rest of a list or an object is taken. -/
theorem meets_bracket {opening : Char} {behindText : List Char}
    (bracket : (opening, frame) = ('[', .list) ∨ (opening, frame) = ('{', .object))
    (front : dropBlank whole = opening :: behindText)
    (accepted : goOn (.value frames) whole = .ok ((), rest)) :
    Meets (.value frames) whole rest := by
  rcases exists_blank whole with ⟨gap, blank, cut⟩
  have entered : goOn (.value frames) whole = goOn (.opened frame frames) behindText := by
    apply goOn_of_advance
    rw [front]
    rcases bracket with list | object
    · cases list
      rfl
    · cases object
      rfl
  have fewer : behindText.length < whole.length := by
    have less := dropBlank_length_le whole
    rwa [front] at less
  rcases shorter _ _ fewer (entered ▸ accepted) with ⟨text, left, demands, rfl, goes⟩
  refine ⟨_, left, .value blank (demands.wellFormed bracket), ?_, goes⟩
  rw [cut, front, List.append_assoc, List.cons_append]

/-- Where a value comes next, a well-formed one is taken. -/
theorem meets_value (accepted : goOn (.value frames) whole = .ok ((), rest)) :
    Meets (.value frames) whole rest := by
  rcases exists_front accepted with ⟨c, behindText, front, -⟩
  by_cases list : c = '['
  · exact meets_bracket shorter (.inl (by rw [list])) front accepted
  · by_cases object : c = '{'
    · exact meets_bracket shorter (.inr (by rw [object])) front accepted
    · rcases exists_blank whole with ⟨gap, blank, cut⟩
      rcases exists_turn accepted with ⟨next, left, turn⟩
      have scalar := turn
      rw [front, advance] at scalar
      rcases valueStep_takes scalar (by simpa using list) (by simpa using object) with
        ⟨rfl, text, wellFormed, taken⟩
      refine ⟨_, left, .value blank wellFormed, ?_, goOn_of_behind turn ▸ accepted⟩
      rw [cut, front, taken, List.append_assoc]

/-- Where a member comes next, one is taken with its value. -/
theorem meets_member (accepted : goOn (.member outer) whole = .ok ((), rest)) :
    Meets (.member outer) whole rest := by
  rcases exists_front accepted with ⟨c, behindText, front, -⟩
  rcases exists_blank whole with ⟨gap, blank, cut⟩
  rcases exists_turn accepted with ⟨next, left, turn⟩
  have keyed := turn
  rw [front, advance, ← front] at keyed
  rcases memberStep_takes keyed with ⟨rfl, inside, before, loose, beforeBlank, taken⟩
  have fewer : left.length < whole.length := by
    rw [cut, taken]
    simp only [List.length_append, List.length_cons]
    omega
  rcases shorter _ _ fewer (goOn_of_advance turn ▸ accepted) with ⟨text, behind, demands, rfl, goes⟩
  cases demands with
  | @value _ after value afterBlank wellFormed =>
      let member : MemberText :=
        { key := '"' :: inside, beforeColon := before, afterColon := after, value
          beforeColon_blank := beforeBlank, afterColon_blank := afterBlank }
      refine ⟨gap ++ member.text, behind, .member blank (.member member rfl loose wellFormed), ?_,
        goes⟩
      rw [cut, taken, MemberText.text]
      simp only [member, List.append_assoc, List.cons_append]

/-- Where a part of a frame comes next, one is taken, and what is left of the frame. -/
theorem meets_inside (accepted : goOn (inside outer frame) whole = .ok ((), rest)) :
    Meets (inside outer frame) whole rest := by
  cases frame with
  | list => exact meets_value shorter accepted
  | object => exact meets_member shorter accepted

/-- Behind a part of a frame the others are taken, and the closing bracket. -/
theorem exists_tailText (met : Meets (inside outer frame) whole rest) :
    ∃ gap part text parts left, Blank gap ∧ (∀ part' ∈ part :: parts, Part frame part') ∧
      TailText frame.closing parts text ∧ whole = gap ++ (part ++ (text ++ left)) ∧
      leave outer left = .ok ((), rest) := by
  rcases met with ⟨_, behindPart, demands, rfl, goes⟩
  rcases demands.part with ⟨gap, part, blank, isPart, rfl⟩
  rw [around_inside] at goes
  have fewer : behindPart.length < (gap ++ part ++ behindPart).length := by
    rcases isPart.opens with ⟨c, others, rfl, -⟩
    simp only [List.length_append, List.length_cons]
    omega
  rcases shorter _ _ fewer goes with ⟨text, left, demands, rfl, leaves⟩
  cases demands with
  | @behindValue _ _ parts _ each tail =>
      refine ⟨gap, part, text, parts, left, blank, List.forall_mem_cons.2 ⟨isPart, each⟩, tail, ?_,
        leaves⟩
      simp only [List.append_assoc]

/-- Behind an opening bracket all parts of the frame are taken. -/
theorem meets_opened (accepted : goOn (.opened frame outer) whole = .ok ((), rest)) :
    Meets (.opened frame outer) whole rest := by
  rcases exists_front accepted with ⟨c, left, front, -⟩
  by_cases closes : c = frame.closing
  · subst closes
    rcases exists_blank whole with ⟨gap, blank, cut⟩
    have turn : advance (.opened frame outer) (dropBlank whole) = .ok (behind outer, left) := by
      rw [front]
      exact if_pos rfl
    refine ⟨_, left, .opened (by simp) (.empty blank), ?_, goOn_of_behind turn ▸ accepted⟩
    rw [cut, front, List.append_assoc, List.singleton_append]
  · rw [goOn_opened_of_ne front closes] at accepted
    rcases exists_tailText shorter (meets_inside shorter accepted) with
      ⟨gap, part, text, parts, left, blank, each, tail, cut, goes⟩
    refine ⟨_, left, .opened each (.parts blank tail), ?_, goes⟩
    rw [cut]
    simp only [List.append_assoc]

/-- Behind a part the frame is closed, or there are a comma and another part. -/
theorem meets_behindValue (accepted : goOn (.behindValue frame outer) whole = .ok ((), rest)) :
    Meets (.behindValue frame outer) whole rest := by
  rcases exists_front accepted with ⟨c, left, front, fewer⟩
  rcases exists_blank whole with ⟨gap, blank, cut⟩
  rcases exists_turn accepted with ⟨next, _, turn⟩
  by_cases closes : c = frame.closing
  · subst closes
    have turn :
        advance (.behindValue frame outer) (dropBlank whole) = .ok (behind outer, left) := by
      rw [front]
      exact if_pos rfl
    refine ⟨_, left, .behindValue (by simp) (.close blank), ?_, goOn_of_behind turn ▸ accepted⟩
    rw [cut, front, List.append_assoc, List.singleton_append]
  · rw [front, advance.eq_def] at turn
    dsimp only at turn
    rw [if_neg closes] at turn
    split at turn
    · next comma =>
      subst comma
      have turn : advance (.behindValue frame outer) (dropBlank whole) =
          .ok (.inl (inside outer frame), left) := by
        rw [front, advance.eq_def]
        dsimp only
        rw [if_neg closes, if_pos rfl]
        cases frame with
        | list => rfl
        | object => rfl
      rw [goOn_of_advance turn] at accepted
      rcases exists_tailText
          (fun state text few => shorter state text (Nat.lt_trans few fewer))
          (shorter _ _ fewer accepted) with
        ⟨after, part, text, parts, left, afterBlank, each, tail, behindComma, goes⟩
      refine ⟨_, left, .behindValue each (.more blank afterBlank tail), ?_, goes⟩
      rw [cut, front, behindComma]
      simp only [List.append_assoc, List.cons_append]
    · cases turn

end

/-- A run that succeeds finds what its state asks for. -/
theorem meets_of_goOn (accepted : goOn state whole = .ok ((), rest)) : Meets state whole rest := by
  induction length : whole.length using Nat.strongRecOn generalizing state whole with
  | ind size ih =>
      have shorter : ∀ state text, text.length < whole.length →
          goOn state text = .ok ((), rest) → Meets state text rest :=
        fun state text few accepted => ih _ (length ▸ few) accepted rfl
      cases state with
      | value frames => exact meets_value shorter accepted
      | member outer => exact meets_member shorter accepted
      | opened frame outer => exact meets_opened shorter accepted
      | behindValue frame outer => exact meets_behindValue shorter accepted

end Skip

/-- What is skipped is a well-formed value behind some blanks. -/
theorem skip_takes (accepted : skip.run whole = .ok ((), rest)) :
    ∃ gap text, Blank gap ∧ WellFormed text ∧ whole = gap ++ (text ++ rest) := by
  rcases Skip.meets_of_goOn accepted with ⟨_, left, demands, rfl, goes⟩
  cases demands with
  | value blank wellFormed =>
      cases goes
      exact ⟨_, _, blank, wellFormed, List.append_assoc ..⟩

/-- Well-formed values in front of delimiters do not overlap: a text begins with one of them
at most. -/
theorem WellFormed.unique {left right leftRest rightRest : List Char} (wellFormed : WellFormed left)
    (other : WellFormed right) (leftDelimited : Delimited leftRest)
    (rightDelimited : Delimited rightRest) (same : left ++ leftRest = right ++ rightRest) :
    left = right ∧ leftRest = rightRest := by
  have first := wellFormed.readsBack.run_append leftDelimited
  rw [same, other.readsBack.run_append rightDelimited] at first
  cases first
  exact ⟨List.append_cancel_right same, rfl⟩

/-- Blanks in front of what a value may begin with are dropped. -/
theorem Opens.dropBlank {gap text : List Char} (opens : Opens text) (blank : Blank gap)
    (rest : List Char) : Json.dropBlank (gap ++ (text ++ rest)) = text ++ rest := by
  rcases dropBlank_opens blank opens rest with ⟨_, _, front, same, -⟩
  rw [front, same]

/-! ## Lists and objects end by themselves -/

/-- A text that is a list or an object. -/
structure Enclosed (text : List Char) : Prop where
  wellFormed : WellFormed text
  bracket : ∃ opening inside, text = opening :: inside ∧ isBracket opening = true

namespace Enclosed

variable {gap gap' text text' rest rest' : List Char}

/-- A list or an object is skipped, whatever stands behind. -/
theorem skip_append (enclosed : Enclosed text) (rest : List Char) :
    skip.run (text ++ rest) = .ok ((), rest) := by
  rcases enclosed with ⟨wellFormed, opening, inside, same, bracket⟩
  show Skip.goOn (.value []) _ = _
  cases wellFormed with
  | null => cases same; cases bracket
  | true => cases same; cases bracket
  | false => cases same; cases bracket
  | string => cases same; cases bracket
  | number isNumber =>
      rcases (Skip.scalar_number isNumber).opens with ⟨c, behind, front, -, other⟩
      cases same ▸ front
      rw [bracket] at other
      cases other
  | array items body =>
      have parts := fun item member => (items item member).passes.item
      exact Skip.goOn_bracket rfl (fun _ _ => rfl) parts body [] rest
  | object keys values body =>
      have parts := Skip.passesIn_members keys fun member inside => (values member inside).passes
      exact Skip.goOn_bracket rfl (fun _ _ => rfl) parts body [] rest

/-- A text begins with one list or object at most. -/
theorem unique (enclosed : Enclosed text) (other : Enclosed text')
    (same : text ++ rest = text' ++ rest') : text = text' ∧ rest = rest' := by
  have skipped := enclosed.skip_append rest
  rw [same, other.skip_append] at skipped
  cases skipped
  exact ⟨List.append_cancel_right same, rfl⟩

/-- What begins like a list or an object is one, if it is well-formed. -/
theorem of_wellFormed (enclosed : Enclosed text) (wellFormed : WellFormed text')
    (same : text ++ rest = text' ++ rest') : Enclosed text' := by
  rcases enclosed.bracket with ⟨opening, inside, rfl, bracket⟩
  rcases wellFormed.passes.opens with ⟨c, behind, rfl, -⟩
  cases (List.cons.inj same).1
  exact ⟨wellFormed, _, _, rfl, bracket⟩

/-- Behind its blanks a text begins with one value at most, if one is a list or an object. -/
theorem unique_behind (enclosed : Enclosed text) (wellFormed : WellFormed text')
    (blank : Blank gap) (blank' : Blank gap')
    (same : gap ++ (text ++ rest) = gap' ++ (text' ++ rest')) :
    gap = gap' ∧ text = text' ∧ rest = rest' := by
  have fronts : dropBlank (gap ++ (text ++ rest)) = dropBlank (gap' ++ (text' ++ rest')) := by
    rw [same]
  rw [enclosed.wellFormed.passes.opens.dropBlank blank,
    wellFormed.passes.opens.dropBlank blank'] at fronts
  rcases enclosed.unique (enclosed.of_wellFormed wellFormed fronts) fronts with ⟨rfl, rfl⟩
  exact ⟨List.append_cancel_right same, rfl, rfl⟩

end Enclosed

end NodeDecl.Json
