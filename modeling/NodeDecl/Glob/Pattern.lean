/-!
# Glob patterns

The text of a pattern as tokens. A star stands for any characters, a question mark
for one, and a bracket for one out of a set; two stars between slashes stand for
any number of directories. A pattern is checked as a whole and again for each of
its components.
-/

namespace NodeDecl.Glob

/-- A member of a set of characters. -/
inductive Specifier where
  | single (c : Char)
  | range (first last : Char)
deriving DecidableEq, Repr

/-- A token of a pattern. -/
inductive Token where
  | char (c : Char)
  | anyChar
  | anySequence
  /-- Any number of directories. -/
  | recursive
  | within (set : List Specifier)
  | except (set : List Specifier)
deriving DecidableEq, Repr

/-- What is wrong with a pattern. -/
inductive Mistake where
  | wildcards
  | recursiveWildcards
  | invalidRange
deriving DecidableEq, Repr

namespace Mistake

/-- The words for a mistake. -/
def text : Mistake → String
  | .wildcards => "wildcards are either regular `*` or recursive `**`"
  | .recursiveWildcards => "recursive wildcards must form a single path component"
  | .invalidRange => "invalid range pattern"

end Mistake

/-- A mistake and the position of the character near which it was made. -/
structure PatternError where
  position : Nat
  mistake : Mistake
deriving DecidableEq, Repr

namespace PatternError

/-- The words for a refused pattern. -/
def text (error : PatternError) : String :=
  "Pattern syntax error near position " ++ error.position.repr ++ ": " ++ error.mistake.text

end PatternError

/-- The members of a set between brackets. A dash between two characters makes a
range. -/
def specifiers : List Char → List Specifier
  | first :: '-' :: last :: rest => .range first last :: specifiers rest
  | c :: rest => .single c :: specifiers rest
  | [] => []

/-- The text up to the next closing bracket, and the text behind it. -/
def splitBracket? : List Char → Option (List Char × List Char)
  | [] => none
  | c :: rest =>
      if c = ']' then some ([], rest)
      else (splitBracket? rest).map fun (inside, behind) => (c :: inside, behind)

theorem splitBracket?_length_lt {text inside behind : List Char}
    (found : splitBracket? text = some (inside, behind)) : behind.length < text.length := by
  induction text generalizing inside with
  | nil => simp [splitBracket?] at found
  | cons c rest ih =>
    rw [splitBracket?] at found
    split at found
    · simp_all
    · obtain ⟨⟨_, _⟩, inner, equal⟩ := Option.map_eq_some_iff.1 found
      simp only [Prod.mk.injEq] at equal
      exact Nat.lt_succ_of_lt (ih (equal.2 ▸ inner))

/-- The set behind an opening bracket and the text behind the set. The first
character of a set may be the closing bracket itself, and an exclamation mark in
front of it takes the complement. -/
def bracketSet? : List Char → Option (Token × List Char)
  | '!' :: first :: rest =>
      (splitBracket? rest).map fun (inside, behind) =>
        (.except (specifiers (first :: inside)), behind)
  | '!' :: [] => none
  | first :: rest =>
      (splitBracket? rest).map fun (inside, behind) =>
        (.within (specifiers (first :: inside)), behind)
  | [] => none

theorem bracketSet?_length_lt {text behind : List Char} {token : Token}
    (found : bracketSet? text = some (token, behind)) : behind.length < text.length := by
  unfold bracketSet? at found
  split at found
  · obtain ⟨⟨_, _⟩, inner, equal⟩ := Option.map_eq_some_iff.1 found
    simp only [Prod.mk.injEq] at equal
    have := splitBracket?_length_lt (equal.2 ▸ inner)
    simp only [List.length_cons]
    omega
  · simp at found
  · obtain ⟨⟨_, _⟩, inner, equal⟩ := Option.map_eq_some_iff.1 found
    simp only [Prod.mk.injEq] at equal
    exact Nat.lt_succ_of_lt (splitBracket?_length_lt (equal.2 ▸ inner))
  · simp at found

/-- The tokens of a pattern from a position on, given the character before it. -/
def tokens (before : Option Char) (position : Nat) : List Char → Except PatternError (List Token)
  | [] => .ok []
  | '?' :: rest => (tokens (some '?') (position + 1) rest).map (.anyChar :: ·)
  | '*' :: '*' :: '*' :: _ => .error { position := position + 2, mistake := .wildcards }
  | '*' :: '*' :: rest =>
      if before = none ∨ before = some '/' then
        match rest with
        | [] => .ok [.recursive]
        | '/' :: behind => (tokens (some '/') (position + 3) behind).map (.recursive :: ·)
        | _ => .error { position := position + 2, mistake := .recursiveWildcards }
      else .error { position := position - 1, mistake := .recursiveWildcards }
  | '*' :: rest => (tokens (some '*') (position + 1) rest).map (.anySequence :: ·)
  | '[' :: rest =>
      match found : bracketSet? rest with
      | some (token, behind) =>
          have := bracketSet?_length_lt found
          (tokens (some ']') (position + 1 + (rest.length - behind.length)) behind).map (token :: ·)
      | none => .error { position, mistake := .invalidRange }
  | c :: rest => (tokens (some c) (position + 1) rest).map (.char c :: ·)
termination_by text => text.length

/-- The character of a token that stands for itself. -/
def Token.char? : Token → Option Char
  | .char c => some c
  | _ => none

/-- A component of a pattern. -/
structure Pattern where
  tokens : List Token
deriving DecidableEq, Repr

namespace Pattern

/-- The pattern of a text. -/
def parse (text : List Char) : Except PatternError Pattern :=
  (Glob.tokens none 0 text).map Pattern.mk

/-- Whether a pattern stands for any number of directories. -/
def isRecursive (pattern : Pattern) : Bool :=
  pattern.tokens = [.recursive]

/-- The only name that a pattern without wildcards stands for. -/
def literal? (pattern : Pattern) : Option String :=
  (pattern.tokens.mapM Token.char?).map String.ofList

end Pattern

/-- Whether a character belongs to a set. -/
def inSet (set : List Specifier) (c : Char) : Bool :=
  set.any fun
    | .single other => c = other
    | .range first last => first ≤ c && c ≤ last

/-- Whether a token stands for a character. -/
def Token.matchesChar : Token → Char → Bool
  | .char other, c => c = other
  | .anyChar, _ => true
  | .within set, c => inSet set c
  | .except set, c => !inSet set c
  | .anySequence, _ | .recursive, _ => false

/-- Whether a star in front of a test stands for the front of a text. -/
def matchesSequence (test : List Char → Bool) : List Char → Bool
  | [] => test []
  | c :: rest => test (c :: rest) || matchesSequence test rest

/-- Whether tokens stand for a name as a whole. -/
def matchesTokens : List Token → List Char → Bool
  | [], text => text.isEmpty
  | .anySequence :: tokens, text | .recursive :: tokens, text =>
      matchesSequence (matchesTokens tokens) text
  | token :: tokens, c :: rest => token.matchesChar c && matchesTokens tokens rest
  | _ :: _, [] => false

namespace Pattern

/-- Whether a pattern stands for a name. -/
def accepts (pattern : Pattern) (name : String) : Bool :=
  matchesTokens pattern.tokens name.toList

end Pattern

end NodeDecl.Glob
