import Mathlib.Data.List.Forall2
import ScenarioSteps.Proofs.Regex.Groups
import ScenarioSteps.Proofs.Regex.Template
import ScenarioSteps.Proofs.Text.CaseFold

/-!
# `ScenarioSteps.Proofs.Regex.Spelling`: groups that choose between words

An expression without loops has a list of words, each a sequence of sets, and it reads
what spells one of them (`exists_spells_of_reads`). If the body of a group has such a
list, the group captures the spelling of a word (`exists_spells_of_captures?`).

Where a loop stands behind some words, what is read begins with one of them
(`exists_opening_of_reads`), and so does what the group captures
(`exists_opening_of_captures?`).
-/

set_option autoImplicit false

namespace ScenarioSteps

/-- A text that has a character of each of some sets, in their order. -/
def Text.Spells (word : List CharSet) (text : List Char) : Prop :=
  List.Forall₂ (fun chars c => chars.mem c = true) word text

namespace Text

/-- What holds of all members of the sets holds of a spelling. -/
theorem forall_of_spells {word : List CharSet} {text : List Char} {p : Char → Bool}
    (hword : (word.all fun chars => chars.members.all p) = true) (h : Spells word text) :
    ∀ c ∈ text, p c = true := by
  induction h with
  | nil => exact List.forall_mem_nil _
  | cons hc _ ih =>
      rw [List.all_cons, Bool.and_eq_true] at hword
      exact List.forall_mem_cons.mpr
        ⟨List.all_eq_true.mp hword.1 _ (CharSet.mem_members hc), ih hword.2⟩

/-- A text that begins with a word begins with a spelling of it. -/
theorem exists_spells_of_begins {word : List CharSet} {text : List Char}
    (h : Begins word text) : ∃ front rest, text = front ++ rest ∧ Spells word front := by
  induction word generalizing text with
  | nil => exact ⟨[], text, rfl, .nil⟩
  | cons chars word ih =>
      cases text with
      | nil => cases h
      | cons c text =>
          obtain ⟨front, rest, rfl, hspells⟩ := ih h.2
          exact ⟨c :: front, rest, rfl, .cons h.1 hspells⟩

end Text

/-- A word behind a word. -/
def productWords (words words' : List (List CharSet)) : List (List CharSet) :=
  words.flatMap fun word => words'.map (word ++ ·)

namespace Regex

/-- The words of an expression, if it has no loop and sets no condition on a place. -/
def words? : Regex → Option (List (List CharSet))
  | empty => some [[]]
  | literal text => some [text.map .single]
  | set chars => some [[chars]]
  | anchor _ => none
  | seq a b => a.words?.bind fun words => b.words?.map (productWords words)
  | alt a b => a.words?.bind fun words => b.words?.map (words ++ ·)
  | .repeat count body =>
    if count.most? = some count.least then
      body.words?.map fun words => Nat.repeat (productWords words) count.least [[]]
    else none
  | group _ body => body.words?

/-- A fixed text spells itself. -/
theorem spells_literal (text : List Char) : Text.Spells (text.map .single) text := by
  rw [Text.Spells, List.forall₂_map_left_iff, List.forall₂_same]
  exact fun c _ => mem_single_iff.mpr rfl

/-- What spells a word of one list, and then a word of another, spells a word of their
product. -/
theorem exists_spells_product {words words' : List (List CharSet)} {first rest : List Char}
    (h : ∃ word ∈ words, Text.Spells word first) (h' : ∃ word ∈ words', Text.Spells word rest) :
    ∃ word ∈ productWords words words', Text.Spells word (first ++ rest) := by
  obtain ⟨word, hword, hspells⟩ := h
  obtain ⟨word', hword', hspells'⟩ := h'
  exact ⟨word ++ word', List.mem_flatMap.mpr ⟨word, hword, List.mem_map_of_mem hword'⟩,
    List.rel_append hspells hspells'⟩

/-- What is read spells a word. -/
theorem exists_spells_of_reads {r : Regex} {words : List (List CharSet)} (h : r.words? = some words)
    {position : Nat} {text : List Char} {marks : Trail} (hreads : r.Reads position text marks) :
    ∃ word ∈ words, Text.Spells word text := by
  induction r generalizing words position text marks with
  | empty =>
      cases h
      rw [hreads.1]
      exact ⟨[], List.mem_cons_self, .nil⟩
  | literal fixed =>
      cases h
      rw [hreads.1]
      exact ⟨_, List.mem_cons_self, spells_literal fixed⟩
  | set chars =>
      cases h
      obtain ⟨-, c, hc, rfl⟩ := hreads
      exact ⟨_, List.mem_cons_self, .cons hc .nil⟩
  | anchor _ => cases h
  | seq a b iha ihb =>
      obtain ⟨words, ha, h⟩ := Option.bind_eq_some_iff.mp h
      obtain ⟨words', hb, rfl⟩ := Option.map_eq_some_iff.mp h
      obtain ⟨first, rest, before, behind, rfl, -, hfirst, hrest⟩ := hreads
      exact exists_spells_product (iha ha hfirst) (ihb hb hrest)
  | alt a b iha ihb =>
      obtain ⟨words, ha, h⟩ := Option.bind_eq_some_iff.mp h
      obtain ⟨words', hb, rfl⟩ := Option.map_eq_some_iff.mp h
      rcases hreads with hreads | hreads
      · obtain ⟨word, hword, hspells⟩ := iha ha hreads
        exact ⟨word, List.mem_append_left _ hword, hspells⟩
      · obtain ⟨word, hword, hspells⟩ := ihb hb hreads
        exact ⟨word, List.mem_append_right _ hword, hspells⟩
  | «repeat» count body ih =>
      rw [words?] at h
      split at h
      · next hmost =>
          obtain ⟨words, hbody, rfl⟩ := Option.map_eq_some_iff.mp h
          obtain ⟨rounds, ⟨hleast, hbound⟩, htimes⟩ := hreads
          obtain rfl : rounds = count.least := by
            have := hbound _ hmost
            omega
          -- With the number of rounds fixed, each round puts one more word in front.
          generalize count.least = rounds at htimes ⊢
          induction rounds generalizing position text marks with
          | zero =>
              rw [htimes.1]
              exact ⟨[], List.mem_cons_self, .nil⟩
          | succ rounds ihRounds =>
              obtain ⟨first, rest, before, behind, rfl, -, hfirst, hrest⟩ := htimes
              exact exists_spells_product (ih hbody hfirst) (ihRounds hrest)
      · cases h
  | group i body ih =>
      obtain ⟨inner, hbody, -⟩ := hreads
      exact ih h hbody

/-- The body of the only group with a number, if no group of this number is inside. -/
def groupBody? (index : Nat) (r : Regex) : Option Regex :=
  match r.groupBodies index with
  | [body] => if body.groupBodies index = [] then some body else none
  | _ => none

/-- The words that a group chooses between. -/
def groupWords? (index : Nat) (r : Regex) : Option (List (List CharSet)) :=
  match r.groupBodies index with
  | [body] => if body.groupBodies index = [] then body.words? else none
  | _ => none

/-- The words of a group are those of its body. -/
theorem groupWords?_eq (index : Nat) (r : Regex) :
    r.groupWords? index = (r.groupBody? index).bind words? := by
  unfold groupWords? groupBody?
  split
  · split <;> rfl
  · rfl

/-- What the group captures in a match is what its body reads. -/
theorem exists_reads_of_captures? {r : Regex} (hloops : r.loopsConsume = true) {index : Nat}
    {body : Regex} (hbody : r.groupBody? (index + 1) = some body) {sentence : String}
    {values : List (Option String)} (h : r.captures? sentence = some values) :
    ∀ text ∈ values[index]?.join, ∃ position marks, body.Reads position text.toList marks := by
  intro text htext
  obtain ⟨other, hother, position, lead, marks, hreads, hlead⟩ :=
    groupReads_of_captures? hloops h text htext
  rw [groupBody?] at hbody
  split at hbody
  · next only honly =>
      obtain rfl : other = only := by rwa [honly, List.mem_singleton] at hother
      split at hbody
      · next hnil =>
          -- No group of this number is inside, so what was captured is all that was read.
          obtain rfl := hlead hnil
          cases hbody
          exact ⟨position, marks, hreads⟩
      · cases hbody
  · cases hbody

/-- What the group captures in a match spells one of its words. -/
theorem exists_spells_of_captures? {r : Regex} (hloops : r.loopsConsume = true) {index : Nat}
    {words : List (List CharSet)} (hwords : r.groupWords? (index + 1) = some words)
    {sentence : String} {values : List (Option String)} (h : r.captures? sentence = some values) :
    ∀ text ∈ values[index]?.join, ∃ word ∈ words, Text.Spells word text.toList := by
  intro text htext
  rw [groupWords?_eq] at hwords
  obtain ⟨body, hbody, hwords⟩ := Option.bind_eq_some_iff.mp hwords
  obtain ⟨position, marks, hreads⟩ := exists_reads_of_captures? hloops hbody h text htext
  exact exists_spells_of_reads hwords hreads

/-! ### How a text that is read begins -/

/-- Words of which one begins any text that the expression reads, given such words for the
text behind it. Nothing is known of the texts behind a loop. -/
def openings : Regex → List (List CharSet) → List (List CharSet)
  | empty, behind | anchor _, behind => behind
  | literal text, behind => behind.map (text.map .single ++ ·)
  | set chars, behind => behind.map (chars :: ·)
  | seq a b, behind => a.openings (b.openings behind)
  | alt a b, behind => a.openings behind ++ b.openings behind
  | .repeat ⟨0, some 1, _⟩ body, behind => body.openings behind ++ behind
  | .repeat _ _, _ => [[]]
  | group _ body, behind => body.openings behind

/-- A text that begins with a word behind the spelling of another one begins with both. -/
theorem begins_append {word word' : List CharSet} {text rest : List Char}
    (h : Text.Spells word text) (h' : Text.Begins word' rest) :
    Text.Begins (word ++ word') (text ++ rest) := by
  induction h with
  | nil => exact h'
  | cons hc _ ih => exact ⟨hc, ih⟩

/-- What an expression reads in front of a text that begins with some word begins with one of
its openings. -/
theorem exists_opening_of_reads {r : Regex} {behind : List (List CharSet)} {position : Nat}
    {text rest : List Char} {marks : Trail} (hreads : r.Reads position text marks)
    (hrest : ∃ word ∈ behind, Text.Begins word rest) :
    ∃ word ∈ r.openings behind, Text.Begins word (text ++ rest) := by
  induction r generalizing behind position text rest marks with
  | empty | anchor _ =>
      rw [hreads.1]
      exact hrest
  | literal fixed =>
      obtain ⟨word, hword, hbegins⟩ := hrest
      rw [hreads.1]
      exact ⟨_, List.mem_map_of_mem hword, begins_append (spells_literal fixed) hbegins⟩
  | set chars =>
      obtain ⟨word, hword, hbegins⟩ := hrest
      obtain ⟨-, c, hc, rfl⟩ := hreads
      exact ⟨_, List.mem_map_of_mem hword, hc, hbegins⟩
  | seq a b iha ihb =>
      obtain ⟨first, second, before, later, rfl, -, hfirst, hsecond⟩ := hreads
      rw [List.append_assoc]
      exact iha hfirst (ihb hsecond hrest)
  | alt a b iha ihb =>
      rcases hreads with hreads | hreads
      · obtain ⟨word, hword, hbegins⟩ := iha hreads hrest
        exact ⟨word, List.mem_append_left _ hword, hbegins⟩
      · obtain ⟨word, hword, hbegins⟩ := ihb hreads hrest
        exact ⟨word, List.mem_append_right _ hword, hbegins⟩
  | «repeat» count body ih =>
      rw [openings.eq_def]
      split
      all_goals try contradiction
      · next heq =>
          obtain ⟨rfl, rfl⟩ := Regex.repeat.inj heq
          obtain ⟨rounds, ⟨-, hmost⟩, htimes⟩ := hreads
          -- The optional part stands in front of the rest, or the rest stands alone.
          match rounds, hmost 1 rfl with
          | 0, _ =>
              obtain ⟨word, hword, hbegins⟩ := hrest
              rw [htimes.1]
              exact ⟨word, List.mem_append_right _ hword, hbegins⟩
          | 1, _ =>
              obtain ⟨first, none, before, later, rfl, -, hfirst, rfl, -⟩ := htimes
              obtain ⟨word, hword, hbegins⟩ := ih hfirst hrest
              rw [List.append_nil]
              exact ⟨word, List.mem_append_left _ hword, hbegins⟩
      · exact ⟨[], List.mem_cons_self, trivial⟩
  | group index body ih =>
      obtain ⟨inner, hbody, -⟩ := hreads
      exact ih hbody hrest

/-- What the group captures in a match begins with one of its openings. -/
theorem exists_opening_of_captures? {r : Regex} (hloops : r.loopsConsume = true) {index : Nat}
    {body : Regex} (hbody : r.groupBody? (index + 1) = some body) {sentence : String}
    {values : List (Option String)} (h : r.captures? sentence = some values) :
    ∀ text ∈ values[index]?.join, ∃ word ∈ body.openings [[]], Text.Begins word text.toList := by
  intro text htext
  obtain ⟨position, marks, hreads⟩ := exists_reads_of_captures? hloops hbody h text htext
  have hnothing : ∃ word ∈ [[]], Text.Begins word [] := ⟨[], List.mem_cons_self, trivial⟩
  have hopening := exists_opening_of_reads hreads hnothing
  rwa [List.append_nil] at hopening

end Regex

end ScenarioSteps
