import Mathlib.Data.List.Forall2
import NodeDecl.Glob.Expansion
import NodeDecl.Proofs.Disk.Order
import NodeDecl.Proofs.Host.Runs

/-!
# What globs stand for

A text stands for itself, or as a glob for the paths that its walk yields; or it is refused.
Which of these happens is said here by the pattern and by its walk alone, and a list of texts
comes to what its texts come to, one behind the other.  Nothing is used of the walk but that
it only looks at the files.
-/

namespace NodeDecl.Glob

variable {σ γ : Type} [Host (StateM σ)] {observe : σ → γ}

/-! ## Expansion only looks -/

namespace Search

theorem keeps_finish (looks : Looks observe) (directoriesOnly : Bool) (path : Path) :
    Keeps observe (ExceptT.run
      (finish directoriesOnly path : ExceptT GlobFailure (StateM σ) (List Path))) := by
  rw [finish]
  split
  · apply (looks.run_isDirectory path).run_bind
    intro found
    split <;> exact keeps_run_pure _
  · exact keeps_run_pure _

/-- The walk through directories, by induction on the number of its steps. -/
theorem keeps_walk (looks : Looks observe) (directoriesOnly : Bool) (steps : Nat)
    (patterns : List Pattern) (path : Path) :
    Keeps observe (ExceptT.run
      (walk directoriesOnly steps patterns path : ExceptT GlobFailure (StateM σ) (List Path))) := by
  induction steps generalizing patterns path with
  | zero => exact keeps_run_pure _
  | succ steps ih =>
      cases patterns with
      | nil => exact keeps_finish looks directoriesOnly path
      | cons pattern rest =>
          rw [walk]
          split
          · dsimp only
            split
            · apply (looks.run_isDirectory path).run_bind
              intro reached
              split
              · exact ih rest _
              · exact keeps_run_pure _
            · apply (looks.run_contains _).run_bind
              intro reached
              split
              · exact ih rest _
              · exact keeps_run_pure _
          · apply (looks.run_isDirectory path).run_bind
            intro found
            split
            · apply Keeps.run_bind
              · apply keeps_run_mapM
                intro dotted _
                exact ih rest _
              · intro dotted
                apply (looks.run_entryNames path).run_bind
                intro listed
                split
                · exact keeps_run_throw _
                · apply Keeps.run_bind
                  · apply keeps_run_mapM
                    intro name _
                    dsimp only
                    -- the branches of one entry: it is entered, matched or passed over
                    with_reducible repeat' first
                      | exact keeps_run_pure _
                      | exact ih _ _
                      | exact looks.run_isDirectory _
                      | apply Keeps.run_bind
                      | intro _
                      | split
                  · intro matched
                    exact keeps_run_pure _
            · exact keeps_run_pure _

/-- The paths that a search comes to, in the order in which it comes to them. -/
def found (search : Search) : ExceptT GlobFailure (StateM σ) (List Path) :=
  walk search.directoriesOnly (deepestPath + search.components.length) search.components
    search.start

theorem keeps_expand (looks : Looks observe) (search : Search) :
    Keeps observe (ExceptT.run
      (search.expand : ExceptT GlobFailure (StateM σ) (List Path))) := by
  apply (keeps_walk looks _ _ _ _).run_bind
  intro found
  exact keeps_run_pure _

end Search

theorem keeps_expandText (looks : Looks observe) (text : String) :
    Keeps observe (ExceptT.run
      (expandText text : ExceptT GlobFailure (StateM σ) (List Path))) := by
  rw [expandText]
  split
  · split
    · exact keeps_run_throw _
    · next search _ =>
      apply (search.keeps_expand looks).run_bind
      intro paths
      split
      · exact keeps_run_throw _
      · exact keeps_run_pure _
  · exact keeps_run_pure _

theorem keeps_expandAll (looks : Looks observe) (texts : List String) :
    Keeps observe (ExceptT.run
      (expandAll texts : ExceptT GlobFailure (StateM σ) (List Path))) := by
  induction texts with
  | nil => exact keeps_run_pure _
  | cons text rest ih =>
      apply (keeps_expandText looks text).run_bind
      intro paths
      apply ih.run_bind
      intro others
      exact keeps_run_pure _

/-! ## One text -/

/-- A text with one of the characters that make it a glob. -/
def IsGlob (text : String) : Prop :=
  ∃ c ∈ text.toList, c = '*' ∨ c = '?' ∨ c = '[' ∨ c = '{'

theorem any_isGlobChar_iff {text : String} :
    text.toList.any isGlobChar = true ↔ IsGlob text := by
  simp [IsGlob, isGlobChar, or_assoc]

/-- A text is a valid glob, and its walk meets no error and yields some paths. -/
def Yields (state : σ) (text : String) (found : List Path) : Prop :=
  ∃ search, Search.parse text = .ok search ∧ (outcomeIn state search.found).1 = .ok found

/-- What a text stands for: itself, or as a glob the paths that it yields, which have to be
some, in the order of paths. -/
inductive StandsFor (state : σ) (text : String) : List Path → Prop
  | itself (plain : ¬ IsGlob text) : StandsFor state text [⟨text⟩]
  | arranged {found paths : List Path} (glob : IsGlob text) (yields : Yields state text found)
      (some : found ≠ []) (arranged : Path.Arranged found paths) : StandsFor state text paths

/-- Why a text stands for nothing: it is a glob, and its pattern is invalid, its walk meets
an error, or its walk yields no path. -/
inductive Refused (state : σ) (text : String) : GlobFailure → Prop
  | invalid {error : PatternError} (glob : IsGlob text)
      (parsed : Search.parse text = .error error) : Refused state text (.invalid error)
  | stopped {search : Search} {failure : GlobFailure} (glob : IsGlob text)
      (parsed : Search.parse text = .ok search)
      (failed : (outcomeIn state search.found).1 = .error failure) : Refused state text failure
  | noMatch (glob : IsGlob text) (yields : Yields state text []) :
      Refused state text (.noMatch text)

variable {state : σ} {text : String} {texts : List String} {paths : List Path}
  {failure : GlobFailure}

/-- A text stands for some paths, or it is refused. -/
theorem standsFor_or_refused (state : σ) (text : String) :
    (∃ paths, StandsFor state text paths) ∨ ∃ failure, Refused state text failure := by
  by_cases glob : IsGlob text
  · cases parsed : Search.parse text with
    | error error => exact .inr ⟨_, .invalid glob parsed⟩
    | ok search =>
        cases walked : (outcomeIn state search.found).1 with
        | error failure => exact .inr ⟨_, .stopped glob parsed walked⟩
        | ok found =>
            cases found with
            | nil => exact .inr ⟨_, .noMatch glob ⟨search, parsed, walked⟩⟩
            | cons path rest =>
                exact .inl ⟨_, .arranged glob ⟨search, parsed, walked⟩ (List.cons_ne_nil _ _)
                  (Path.arranged_mergeSort _)⟩
  · exact .inl ⟨_, .itself glob⟩

/-- A text stands for some paths exactly if it is no glob or a valid one, whose walk meets no
error and yields a path. -/
theorem exists_standsFor_iff :
    (∃ paths, StandsFor state text paths) ↔
      (IsGlob text → ∃ found, Yields state text found ∧ found ≠ []) := by
  constructor
  · intro stands glob
    obtain ⟨paths, stands⟩ := stands
    cases stands with
    | itself plain => exact absurd glob plain
    | arranged _ yields some _ => exact ⟨_, yields, some⟩
  · intro yields
    by_cases glob : IsGlob text
    · obtain ⟨found, yields, some⟩ := yields glob
      exact ⟨_, .arranged glob yields some (Path.arranged_mergeSort found)⟩
    · exact ⟨_, .itself glob⟩

/-- A search gives the paths that it comes to, sorted. -/
theorem outcomeIn_expand (still : Looks (fun state : σ => state)) (state : σ)
    (search : Search) :
    outcomeIn state search.expand =
      ((outcomeIn state search.found).1.map (List.mergeSort · Path.le), state) := by
  apply Prod.ext
  · rw [Search.expand, outcomeIn_bind_pure]
    rfl
  · exact search.keeps_expand still state

/-- A valid glob comes to what its search comes to. -/
theorem expandText_of_parse {search : Search} (glob : IsGlob text)
    (parsed : Search.parse text = .ok search) :
    (expandText text : ExceptT GlobFailure (StateM σ) (List Path)) = (do
      let paths ← search.expand
      if paths.isEmpty then throw (.noMatch text) else return paths) := by
  rw [expandText, if_pos (any_isGlobChar_iff.2 glob), parsed]

/-- A text gives what it stands for. -/
theorem expandText_of_standsFor (still : Looks (fun state : σ => state))
    (stands : StandsFor state text paths) :
    outcomeIn state (expandText text) = (.ok paths, state) := by
  cases stands with
  | itself plain =>
      rw [expandText, if_neg (mt any_isGlobChar_iff.1 plain)]
      rfl
  | @arranged found _ glob yields some arranged =>
      obtain ⟨search, parsed, walked⟩ := yields
      have expanded : outcomeIn state search.expand = (.ok paths, state) := by
        rw [outcomeIn_expand still, walked,
          ← (Path.arranged_mergeSort found).unique arranged]
        rfl
      have filled : paths ≠ [] := by
        rintro rfl
        exact some arranged.perm.nil_eq.symm
      rw [expandText_of_parse glob parsed, outcomeIn_bind_of_ok expanded,
        if_neg (by simpa using filled)]
      rfl

/-- A text stands for one list of paths only. -/
theorem StandsFor.unique (still : Looks (fun state : σ => state)) {others : List Path}
    (first : StandsFor state text paths) (second : StandsFor state text others) :
    paths = others := by
  have same := (expandText_of_standsFor still first).symm.trans
    (expandText_of_standsFor still second)
  exact Except.ok.inj (Prod.mk.inj same).1

/-- A text that is refused gives the reason. -/
theorem expandText_of_refused (still : Looks (fun state : σ => state))
    (refused : Refused state text failure) :
    outcomeIn state (expandText text) = (.error failure, state) := by
  cases refused with
  | invalid glob parsed =>
      rw [expandText, if_pos (any_isGlobChar_iff.2 glob), parsed]
      rfl
  | @stopped search _ glob parsed failed =>
      have expanded : outcomeIn state search.expand = (.error failure, state) := by
        rw [outcomeIn_expand still, failed]
        rfl
      rw [expandText_of_parse glob parsed]
      exact outcomeIn_bind_of_error expanded _
  | noMatch glob yields =>
      obtain ⟨search, parsed, walked⟩ := yields
      have expanded : outcomeIn state search.expand = (.ok [], state) := by
        rw [outcomeIn_expand still, walked]
        exact congrArg (fun paths => (Except.ok paths, state)) List.mergeSort_nil
      rw [expandText_of_parse glob parsed, outcomeIn_bind_of_ok expanded]
      rfl

/-! ## Several texts -/

/-- The first of some texts that is refused, and why.  The texts behind it play no part. -/
def Blames (state : σ) (texts : List String) (failure : GlobFailure) : Prop :=
  ∃ before text behind, texts = before ++ text :: behind ∧
    (∀ other ∈ before, ∃ paths, StandsFor state other paths) ∧ Refused state text failure

/-- Expanding texts one list behind the other. -/
theorem expandAll_append (texts more : List String) :
    (expandAll (texts ++ more) : ExceptT GlobFailure (StateM σ) (List Path)) = (do
      let paths ← expandAll texts
      let others ← expandAll more
      return paths ++ others) := by
  induction texts with
  | nil => simp [expandAll]
  | cons text rest ih =>
      simp only [List.cons_append, expandAll, ih, bind_assoc, pure_bind, List.append_assoc]

/-- Every text stands for some paths, or the first that is refused is to blame. -/
theorem standFor_or_blames (state : σ) (texts : List String) :
    (∃ parts, List.Forall₂ (StandsFor state) texts parts) ∨
      ∃ failure, Blames state texts failure := by
  induction texts with
  | nil => exact .inl ⟨[], .nil⟩
  | cons text rest ih =>
      cases standsFor_or_refused state text with
      | inr refused =>
          obtain ⟨failure, refused⟩ := refused
          exact .inr ⟨failure, [], text, rest, rfl, by simp, refused⟩
      | inl stands =>
          obtain ⟨paths, stands⟩ := stands
          cases ih with
          | inl all =>
              obtain ⟨parts, all⟩ := all
              exact .inl ⟨paths :: parts, .cons stands all⟩
          | inr blames =>
              obtain ⟨failure, before, culprit, behind, rfl, fine, refused⟩ := blames
              refine .inr ⟨failure, text :: before, culprit, behind, rfl, ?_, refused⟩
              rw [List.forall_mem_cons]
              exact ⟨⟨paths, stands⟩, fine⟩

/-- All texts stand for some paths exactly if each of them does. -/
theorem exists_standFor_iff :
    (∃ parts, List.Forall₂ (StandsFor state) texts parts) ↔
      ∀ text ∈ texts, ∃ paths, StandsFor state text paths := by
  induction texts with
  | nil => simp
  | cons text rest ih =>
      rw [List.forall_mem_cons, ← ih]
      constructor
      · intro stand
        obtain ⟨parts, stand⟩ := stand
        cases stand with
        | cons stands all => exact ⟨⟨_, stands⟩, _, all⟩
      · intro both
        obtain ⟨⟨_, stands⟩, _, all⟩ := both
        exact ⟨_, .cons stands all⟩

/-- Texts give what they stand for, one behind the other. -/
theorem expandAll_of_standFor (still : Looks (fun state : σ => state))
    {parts : List (List Path)} (stand : List.Forall₂ (StandsFor state) texts parts) :
    outcomeIn state (expandAll texts) = (.ok parts.flatten, state) := by
  induction stand with
  | nil => rfl
  | cons stands _ ih =>
      rw [expandAll, outcomeIn_bind_of_ok (expandText_of_standsFor still stands),
        outcomeIn_bind_of_ok ih]
      rfl

/-- Some of the texts stand for a part of the whole. -/
theorem exists_sublist_of_standFor {some : List String} {parts : List (List Path)}
    (stand : List.Forall₂ (StandsFor state) texts parts) (inOrder : some.Sublist texts) :
    ∃ chosen, List.Forall₂ (StandsFor state) some chosen ∧ chosen.Sublist parts := by
  induction inOrder generalizing parts with
  | slnil => exact ⟨[], .nil, List.nil_sublist _⟩
  | cons text _ ih =>
      cases stand with
      | cons _ rest =>
          obtain ⟨chosen, all, kept⟩ := ih rest
          exact ⟨chosen, all, kept.cons _⟩
  | cons_cons text _ ih =>
      cases stand with
      | cons stands rest =>
          obtain ⟨chosen, all, kept⟩ := ih rest
          exact ⟨_, .cons stands all, kept.cons_cons _⟩

/-- Texts give the reason why the first of them is refused. -/
theorem expandAll_of_blames (still : Looks (fun state : σ => state))
    (blames : Blames state texts failure) :
    outcomeIn state (expandAll texts) = (.error failure, state) := by
  obtain ⟨before, text, behind, rfl, fine, refused⟩ := blames
  induction before with
  | nil => exact outcomeIn_bind_of_error (expandText_of_refused still refused) _
  | cons other before ih =>
      rw [List.forall_mem_cons] at fine
      obtain ⟨⟨paths, stands⟩, fine⟩ := fine
      rw [List.cons_append, expandAll,
        outcomeIn_bind_of_ok (expandText_of_standsFor still stands)]
      exact outcomeIn_bind_of_error (ih fine) _

/-- Texts can be expanded exactly if all of them stand for some paths, and give these. -/
theorem expandAll_eq_ok_iff (still : Looks (fun state : σ => state)) :
    outcomeIn state (expandAll texts) = (.ok paths, state) ↔
      ∃ parts, List.Forall₂ (StandsFor state) texts parts ∧ paths = parts.flatten := by
  constructor
  · intro done
    cases standFor_or_blames state texts with
    | inl stand =>
        obtain ⟨parts, stand⟩ := stand
        rw [expandAll_of_standFor still stand] at done
        exact ⟨parts, stand, (Except.ok.inj (Prod.mk.inj done).1).symm⟩
    | inr blames =>
        obtain ⟨failure, blames⟩ := blames
        rw [expandAll_of_blames still blames] at done
        cases (Prod.mk.inj done).1
  · intro stand
    obtain ⟨parts, stand, rfl⟩ := stand
    exact expandAll_of_standFor still stand

/-- Texts cannot be expanded exactly if one of them is to blame, which gives the reason. -/
theorem expandAll_eq_error_iff (still : Looks (fun state : σ => state)) :
    outcomeIn state (expandAll texts) = (.error failure, state) ↔ Blames state texts failure := by
  constructor
  · intro failed
    cases standFor_or_blames state texts with
    | inl stand =>
        obtain ⟨parts, stand⟩ := stand
        rw [expandAll_of_standFor still stand] at failed
        cases (Prod.mk.inj failed).1
    | inr blames =>
        obtain ⟨failure', blames⟩ := blames
        rw [expandAll_of_blames still blames] at failed
        cases (Prod.mk.inj failed).1
        exact blames
  · exact expandAll_of_blames still

/-- Texts can be expanded exactly if the globs among them are valid, and their walks meet no
error and yield a path. -/
theorem exists_expandAll_eq_ok_iff (still : Looks (fun state : σ => state)) :
    (∃ paths, outcomeIn state (expandAll texts) = (.ok paths, state)) ↔
      ∀ text ∈ texts, IsGlob text → ∃ found, Yields state text found ∧ found ≠ [] := by
  simp only [← exists_standsFor_iff, ← exists_standFor_iff, expandAll_eq_ok_iff still]
  constructor
  · intro expanded
    obtain ⟨_, parts, stand, -⟩ := expanded
    exact ⟨parts, stand⟩
  · intro stand
    obtain ⟨parts, stand⟩ := stand
    exact ⟨_, parts, stand, rfl⟩

end NodeDecl.Glob
