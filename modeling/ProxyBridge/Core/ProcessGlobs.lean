import ProxyBridge.Core.RuleLanguage
import ProxyBridge.Foundation.Glob

namespace ProxyBridge

open Foundation Text Glob

/-!
# Process patterns as globs

A process pattern may start or end with one wildcard; any other `*` is a
character of the name.  So whatever the matcher accepts matches as a glob with
every `*` a wildcard, but not the other way round.
-/

/-- The trimmed elements of a process list. -/
def processElements (processList : Str) : List Str :=
  (split (fun c => c == ';') processList).map trim

/-- What a pattern is compared with: the full path when it contains a slash, the
last component otherwise. -/
def matchTarget (pattern path : Str) : Str :=
  if pattern.contains '/' then path else fileNameOf path

theorem matchesTokens_single_any (s : Str) : matchesTokens [.any] s = true :=
  (matchesTokens_any_iff [] s).mpr ⟨s, [], (List.append_nil s).symm, rfl⟩

theorem matchesTokens_letters_iff (word s : Str) :
    matchesTokens (word.map .letter) s = true <-> toAsciiLowercase s = toAsciiLowercase word := by
  have matched := matchesTokens_word_iff word [] s
  rw [List.append_nil] at matched
  rw [matched]
  constructor
  · rintro ⟨left, right, whole, same, empty⟩
    rw [whole, List.isEmpty_iff.mp empty, List.append_nil]
    exact same
  · intro same
    exact ⟨s, [], (List.append_nil s).symm, same, rfl⟩

/-- The three branches of the matcher are one reading of the pattern. -/
theorem matchProcessPattern_iff (pattern path : Str) :
    matchProcessPattern pattern path = true <->
      matchesTokens (outerStar pattern) (matchTarget pattern path) = true := by
  rw [@matchProcessPattern_of_target pattern path (matchTarget pattern path) rfl]
  by_cases star : pattern = "*".toList
  · rw [if_pos star, star]
    exact iff_of_true rfl (matchesTokens_single_any _)
  · rw [if_neg star, outerStar]
    by_cases last : pattern.getLast? = some '*'
    · rw [if_pos last, if_pos last, getTo_any_iff, matchesTokens_word_iff]
      constructor
      · rintro ⟨head, ⟨tail, whole⟩, same⟩
        exact ⟨head, tail, whole.symm, same, matchesTokens_single_any tail⟩
      · rintro ⟨head, tail, whole, same, _⟩
        exact ⟨head, ⟨tail, whole.symm⟩, same⟩
    · rw [if_neg last, if_neg last]
      by_cases first : pattern.head? = some '*'
      · rw [if_pos first, if_pos first, getFrom_any_iff, matchesTokens_any_iff]
        constructor
        · rintro ⟨tail, ⟨head, whole⟩, same⟩
          exact ⟨head, tail, whole.symm, (matchesTokens_letters_iff _ _).mpr same⟩
        · rintro ⟨head, tail, whole, matched⟩
          exact ⟨tail, ⟨head, whole.symm⟩, (matchesTokens_letters_iff _ _).mp matched⟩
      · rw [if_neg first, if_neg first, matchesTokens_letters_iff, eqIgnoreAsciiCase_iff]

/-- A list accepts exactly what one of its elements matches with its outer `*`,
the last character or else the first, as the only wildcard.  That element then
matches as a glob as well. -/
theorem matchProcessList_globs (processList path : Str) :
    (matchProcessList processList path = true <->
      Exists fun element => element ∈ processElements processList ∧
        matchesTokens (outerStar element) (matchTarget element path) = true) ∧
    (matchProcessList processList path = true ->
      Exists fun element => element ∈ processElements processList ∧
        matchesTokens (everyStar element) (matchTarget element path) = true) := by
  have exactly : matchProcessList processList path = true <->
      Exists fun element => element ∈ processElements processList ∧
        matchesTokens (outerStar element) (matchTarget element path) = true := by
    rw [matchProcessList_eq_any, List.any_eq_true]
    constructor
    · rintro ⟨piece, member, matched⟩
      exact ⟨trim piece, List.mem_map_of_mem member, (matchProcessPattern_iff _ _).mp matched⟩
    · rintro ⟨element, member, matched⟩
      rcases List.mem_map.mp member with ⟨piece, listed, same⟩
      rw [← same] at matched
      exact ⟨piece, listed, (matchProcessPattern_iff _ _).mpr matched⟩
  refine ⟨exactly, ?_⟩
  intro accepted
  rcases exactly.mp accepted with ⟨element, member, matched⟩
  exact ⟨element, member, everyStar_of_outerStar matched⟩

/-- `f*x` and `*fire*` match `firefox` as globs, and the matcher refuses both. -/
theorem matchProcessList_is_no_glob :
    Not (matchProcessList "f*x".toList "/usr/bin/firefox".toList = true <->
      Exists fun element => element ∈ processElements "f*x".toList ∧
        matchesTokens (everyStar element) (matchTarget element "/usr/bin/firefox".toList) = true) ∧
    Not (matchProcessList "*fire*".toList "/usr/bin/firefox".toList = true <->
      Exists fun element => element ∈ processElements "*fire*".toList ∧
        matchesTokens (everyStar element) (matchTarget element "/usr/bin/firefox".toList) = true) := by
  constructor
  · intro globs
    have same := globs.mpr ⟨"f*x".toList, by decide, by decide⟩
    revert same
    decide
  · intro globs
    have same := globs.mpr ⟨"*fire*".toList, by decide, by decide⟩
    revert same
    decide

end ProxyBridge
