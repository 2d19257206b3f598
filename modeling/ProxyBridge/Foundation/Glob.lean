import ProxyBridge.Foundation.Text

namespace Foundation
namespace Glob

open Text

/-!
# Glob patterns

A glob is a list of tokens: a letter, which is compared without ASCII case, and a
token for any string, the empty one included.  A pattern text has two readings.
In the first every `*` is a token for any string.  In the other only an outer one
is, the last character or, failing that, the first, and every other `*` is a
letter.  What matches in the other reading also matches in the first.
-/

inductive Token where
  | any
  | letter (c : Char)
  deriving DecidableEq

def matchesTokens : List Token -> Str -> Bool
  | [], s => s.isEmpty
  | .any :: rest, s => s.tails.any (fun tail => matchesTokens rest tail)
  | .letter _ :: _, [] => false
  | .letter c :: rest, d :: s => d.toLower == c.toLower && matchesTokens rest s

theorem matchesTokens_any_iff (rest : List Token) (s : Str) :
    matchesTokens (.any :: rest) s = true <->
      Exists fun left => Exists fun right => s = left ++ right ∧
        matchesTokens rest right = true := by
  rw [matchesTokens, List.any_eq_true]
  constructor
  · rintro ⟨right, member, matched⟩
    rcases (List.mem_tails _ _).mp member with ⟨left, whole⟩
    exact ⟨left, right, whole.symm, matched⟩
  · rintro ⟨left, right, whole, matched⟩
    exact ⟨right, (List.mem_tails _ _).mpr ⟨left, whole.symm⟩, matched⟩

theorem matchesTokens_letter_iff (c : Char) (rest : List Token) (s : Str) :
    matchesTokens (.letter c :: rest) s = true <->
      Exists fun d => Exists fun tail => s = d :: tail ∧ d.toLower = c.toLower ∧
        matchesTokens rest tail = true := by
  cases s with
  | nil =>
      refine iff_of_false Bool.false_ne_true ?_
      rintro ⟨d, tail, impossible, _⟩
      cases impossible
  | cons d tail =>
      rw [matchesTokens, Bool.and_eq_true, beq_iff_eq]
      constructor
      · rintro ⟨same, matched⟩
        exact ⟨d, tail, rfl, same, matched⟩
      · rintro ⟨_, _, whole, same, matched⟩
        cases whole
        exact ⟨same, matched⟩

/-- A word in front of a glob. -/
theorem matchesTokens_word_iff (word : Str) (rest : List Token) (s : Str) :
    matchesTokens (word.map .letter ++ rest) s = true <->
      Exists fun left => Exists fun right => s = left ++ right ∧
        toAsciiLowercase left = toAsciiLowercase word ∧ matchesTokens rest right = true := by
  induction word generalizing s with
  | nil =>
      constructor
      · intro matched
        exact ⟨[], s, rfl, rfl, matched⟩
      · rintro ⟨left, right, whole, empty, matched⟩
        rw [List.map_eq_nil_iff.mp empty] at whole
        rw [whole]
        exact matched
  | cons c word ih =>
      rw [List.map_cons, List.cons_append, matchesTokens_letter_iff]
      constructor
      · rintro ⟨d, tail, whole, same, matched⟩
        rcases (ih tail).mp matched with ⟨left, right, split, lower, rested⟩
        refine ⟨d :: left, right, ?_, ?_, rested⟩
        · rw [whole, split, List.cons_append]
        · exact congrArg₂ List.cons same lower
      · rintro ⟨left, right, whole, lower, rested⟩
        rcases List.map_eq_cons_iff.mp lower with ⟨d, tail, leftSame, same, tailLower⟩
        rw [leftSame, List.cons_append] at whole
        exact ⟨d, tail ++ right, whole, same, (ih _).mpr ⟨tail, right, rfl, tailLower, rested⟩⟩

/-- Every `*` stands for any string. -/
def starToken (c : Char) : Token :=
  if c = '*' then .any else .letter c

def everyStar (pattern : Str) : List Token :=
  pattern.map starToken

/-- Only a `*` at one end stands for any string. -/
def outerStar (pattern : Str) : List Token :=
  if pattern.getLast? = some '*' then pattern.dropLast.map .letter ++ [.any]
  else if pattern.head? = some '*' then .any :: pattern.tail.map .letter
  else pattern.map .letter

/-- A letter `*` becomes a token for any string. -/
def widen : Token -> Token
  | .any => .any
  | .letter c => starToken c

theorem matchesTokens_widen {tokens : List Token} {s : Str}
    (matched : matchesTokens tokens s = true) : matchesTokens (tokens.map widen) s = true := by
  induction tokens generalizing s with
  | nil => exact matched
  | cons token rest ih =>
      cases token with
      | any =>
          rcases (matchesTokens_any_iff rest s).mp matched with ⟨left, right, whole, later⟩
          exact (matchesTokens_any_iff _ s).mpr ⟨left, right, whole, ih later⟩
      | letter c =>
          rcases (matchesTokens_letter_iff c rest s).mp matched with ⟨d, tail, whole, same, later⟩
          change matchesTokens (starToken c :: rest.map widen) s = true
          by_cases star : c = '*'
          · rw [starToken, if_pos star]
            exact (matchesTokens_any_iff _ s).mpr ⟨[d], tail, whole, ih later⟩
          · rw [starToken, if_neg star]
            exact (matchesTokens_letter_iff c _ s).mpr ⟨d, tail, whole, same, ih later⟩

theorem map_widen_letters (word : Str) : (word.map Token.letter).map widen = everyStar word :=
  List.map_map

theorem everyStar_eq (pattern : Str) : everyStar pattern = (outerStar pattern).map widen := by
  unfold outerStar
  by_cases last : pattern.getLast? = some '*'
  · rcases List.getLast?_eq_some_iff.mp last with ⟨front, whole⟩
    rw [if_pos last, List.map_append, map_widen_letters, whole, List.dropLast_concat, everyStar,
      List.map_append]
    rfl
  · rw [if_neg last]
    by_cases first : pattern.head? = some '*'
    · rcases List.head?_eq_some_iff.mp first with ⟨tail, whole⟩
      rw [if_pos first, whole, List.map_cons, List.tail_cons, map_widen_letters]
      rfl
    · rw [if_neg first, map_widen_letters]

/-- What matches with an outer star alone matches as a glob. -/
theorem everyStar_of_outerStar {pattern s : Str}
    (matched : matchesTokens (outerStar pattern) s = true) :
    matchesTokens (everyStar pattern) s = true := by
  rw [everyStar_eq]
  exact matchesTokens_widen matched

end Glob
end Foundation
