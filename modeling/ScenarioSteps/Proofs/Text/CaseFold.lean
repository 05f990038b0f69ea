import Mathlib.Data.Bool.AllAny
import ScenarioSteps.Regex.CharSet
import ScenarioSteps.Text.Uppercase

/-!
# `ScenarioSteps.Proofs.Text.CaseFold`: three notions of case

An expression matches a letter by simple case folding (`foldChar`). Code that compares
a captured word takes the lower case of ASCII letters (`sameAscii`), and code that writes
one takes the full upper case (`upperChar`). For a letter of ASCII the characters that
match it are listed here, and the notions compared on each.

They differ in two characters. The Kelvin sign folds to `k` and the long s to `s`, but
neither has a lower case in ASCII (`toLower_of_mem_anyCase`). The upper case of the long s
is `S`, while the Kelvin sign is a capital letter of its own (`upperChar_of_mem_anyCase`).
-/

set_option autoImplicit false

namespace ScenarioSteps

namespace CharSet

/-- The characters of a set, as a list. -/
def members (s : CharSet) : List Char :=
  s.intervals.flatMap fun i => (List.range' i.1 (i.2 + 1 - i.1)).map Char.ofNat

/-- A number within some intervals is within one of them. -/
theorem exists_of_within {intervals : List (Nat × Nat)} {n : Nat}
    (h : Text.within intervals n = true) : ∃ i ∈ intervals, i.1 ≤ n ∧ n ≤ i.2 := by
  induction intervals with
  | nil => cases h
  | cons i intervals ih =>
      rw [Text.within] at h
      split at h
      · cases h
      -- The number is not below the interval, so it is inside or further up.
      · next hlo =>
          rw [Bool.or_eq_true, decide_eq_true_iff] at h
          rcases h with hhi | h
          · exact ⟨i, List.mem_cons_self, Nat.le_of_not_lt hlo, hhi⟩
          · obtain ⟨j, hj, hn⟩ := ih h
            exact ⟨j, List.mem_cons_of_mem i hj, hn⟩

/-- The characters of a set are all listed. -/
theorem mem_members {s : CharSet} {c : Char} (h : s.mem c = true) : c ∈ s.members := by
  obtain ⟨i, hi, hlo, hhi⟩ := exists_of_within h
  refine List.mem_flatMap.mpr ⟨i, hi, List.mem_map.mpr ⟨c.toNat, ?_, Char.ofNat_toNat c⟩⟩
  rw [List.mem_range'_1]
  omega

end CharSet

namespace Text

/-- What stands for a character and all that differ from it in case only. -/
def foldChar (c : Char) : Nat :=
  shifted foldRuns c.toNat

/-- Whether two texts are the same up to case, character by character. -/
def sameFolded (a b : String) : Bool :=
  a.toList.map foldChar == b.toList.map foldChar

/-- The characters of other scripts that match a letter of ASCII. -/
def foreignLetters : List Char :=
  ['\u212A', '\u017F']

/-- The letters of ASCII. -/
def asciiLetters : List Char :=
  "ABCDEFGHIJKLMNOPQRSTUVWXYZabcdefghijklmnopqrstuvwxyz".toList

section

variable {c d : Char}

/-- A relation between the letters and what matches them is checked over the lists of both.
As a statement about all characters it would be decided character by character. -/
theorem of_mem_anyCase {p : Char → Char → Prop} [∀ c, DecidablePred (p c)]
    (h : (asciiLetters.all fun c =>
      (CharSet.single c).anyCase.members.all fun d => decide (p c d)) = true)
    (hc : c ∈ asciiLetters) (hd : (CharSet.single c).anyCase.mem d = true) : p c d :=
  List.all_iff_forall_prop.mp (List.all_eq_true.mp h c hc) d (CharSet.mem_members hd)

/-- What matches a letter in any case is folded to the same character. -/
theorem foldChar_of_mem_anyCase (hc : c ∈ asciiLetters)
    (hd : (CharSet.single c).anyCase.mem d = true) : foldChar d = foldChar c :=
  of_mem_anyCase (p := fun c d => foldChar d = foldChar c) (by decide +kernel) hc hd

/-- Unless it is a foreign letter, it has the same small form in ASCII. -/
theorem toLower_of_mem_anyCase (hc : c ∈ asciiLetters)
    (hd : (CharSet.single c).anyCase.mem d = true) :
    d ∉ foreignLetters → d.toLower = c.toLower :=
  of_mem_anyCase (p := fun c d => d ∉ foreignLetters → d.toLower = c.toLower)
    (by decide) hc hd

/-- Unless the letter is a `k`, it has the same full upper case. -/
theorem upperChar_of_mem_anyCase (hc : c ∈ asciiLetters)
    (hd : (CharSet.single c).anyCase.mem d = true) :
    c.toLower ≠ 'k' → upperChar d = [c.toUpper] :=
  of_mem_anyCase (p := fun c d => c.toLower ≠ 'k' → upperChar d = [c.toUpper])
    (by decide) hc hd

end

end Text

end ScenarioSteps
