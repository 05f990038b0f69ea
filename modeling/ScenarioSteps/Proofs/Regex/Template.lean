import Mathlib.Data.List.Infix
import ScenarioSteps.Proofs.Regex.Language

/-!
# `ScenarioSteps.Proofs.Regex.Template`: matches in texts with gaps

A template is a text with gaps, which stand for texts without quotation marks.
Some words can be excluded from the beginning of a gap.

`Regex.ends` computes what may be left of a template behind a match that
starts at its beginning, whatever stands in the gaps (`exists_ends_of_reads`).
If nothing can be left, there is no such match. In this way it is settled once
for all texts in the gaps whether a match can touch the text around them
(`Regex.occursIn_between_iff`).
-/

set_option autoImplicit false

namespace ScenarioSteps

/-- A character or a gap with a number. No text in the gap begins with one of
the words in `avoid`, of which each place is a set of characters. -/
inductive Piece where
  | char (c : Char)
  | gap (index : Nat) (avoid : List (List CharSet))
deriving DecidableEq

/-- A text with gaps. -/
abbrev Template :=
  List Piece

/-- Whether a text begins with a word. -/
def Text.Begins : List CharSet → List Char → Prop
  | [], _ => True
  | _ :: _, [] => False
  | chars :: word, c :: text => chars.mem c = true ∧ Text.Begins word text

/-- The texts that can stand in a gap. -/
def Text.FillsGap (avoid : List (List CharSet)) (text : List Char) : Prop :=
  '"' ∉ text ∧ ∀ word ∈ avoid, ¬ Text.Begins word text

namespace Template

/-- The texts that a template stands for. -/
def Shows : Template → List Char → Prop
  | [], text => text = []
  | .char c :: rest, text => ∃ behind, text = c :: behind ∧ Shows rest behind
  | .gap _ avoid :: rest, text => ∃ inside behind, text = inside ++ behind
    ∧ Text.FillsGap avoid inside ∧ Shows rest behind

/-- What is left to avoid behind a character of a set. -/
def avoidBehind (chars : CharSet) (avoid : List (List CharSet)) : List (List CharSet) :=
  avoid.filterMap fun
    | [] => none
    | first :: word => if first = chars then some word else none

/-- What is left of a template behind a character of a set. Behind a gap's
character the gap goes on. -/
def eat (chars : CharSet) : Template → List Template
  | [] => []
  | .char c :: rest => if chars.mem c then [rest] else []
  | .gap index avoid :: rest =>
    let behind := avoidBehind chars avoid
    (if chars = .single '"' ∨ [] ∈ behind then [] else [.gap index behind :: rest])
      ++ eat chars rest

/-- What is left of a template behind a fixed text. -/
def eatAll : List Char → Template → List Template
  | [], τ => [τ]
  | c :: text, τ => (eat (.single c) τ).flatMap (eatAll text)

/-- What is left of a template behind any number of characters of a set. -/
def skim (chars : CharSet) : Template → List Template
  | [] => [[]]
  | .char c :: rest => (.char c :: rest) :: if chars.mem c then skim chars rest else []
  | .gap index avoid :: rest =>
    (.gap index avoid :: rest)
      :: ((if avoid = [] then [] else [.gap index [] :: rest]) ++ skim chars rest)

/-- What is left after so many steps. -/
def iterate (step : Template → List Template) : Nat → Template → List Template
  | 0, τ => [τ]
  | n + 1, τ => (step τ).flatMap (iterate step n)

/-- What is left after at most so many steps. -/
def iterateUpTo (step : Template → List Template) : Nat → Template → List Template
  | 0, τ => [τ]
  | n + 1, τ => τ :: (step τ).flatMap (iterateUpTo step n)

end Template

/-- What may be left of a template behind a match that starts at its beginning. -/
def Regex.ends : Regex → Template → List Template
  | empty, τ | anchor _, τ => [τ]
  | literal text, τ => τ.eatAll text
  | set chars, τ => τ.eat chars
  | seq a b, τ => (a.ends τ).flatMap b.ends
  | alt a b, τ => a.ends τ ++ b.ends τ
  | .repeat ⟨_, none, _⟩ (set chars), τ => τ.skim chars
  | .repeat ⟨_, none, _⟩ _, τ => τ.skim .all
  | .repeat ⟨least, some most, _⟩ body, τ =>
    (Template.iterate body.ends least τ).flatMap (Template.iterateUpTo body.ends (most - least))
  | group _ body, τ => body.ends τ

namespace Template

/-- Without excluded words, any text without quotation marks fills a gap. -/
theorem fillsGap_nil {text : List Char} (h : '"' ∉ text) : Text.FillsGap [] text :=
  ⟨h, fun _ hword => absurd hword List.not_mem_nil⟩

/-- What is excluded behind a character was excluded with it in front. -/
theorem mem_avoidBehind {chars : CharSet} {avoid : List (List CharSet)} {word : List CharSet}
    (h : word ∈ avoidBehind chars avoid) : chars :: word ∈ avoid := by
  obtain ⟨full, hfull, hword⟩ := List.mem_filterMap.mp h
  cases full with
  | nil => cases hword
  | cons first rest =>
      simp only at hword
      split at hword
      · next heq =>
          cases hword
          exact heq ▸ hfull
      · cases hword

/-- Behind the first character of a gap's text, less is left to avoid. -/
theorem fillsGap_behind {chars : CharSet} {avoid : List (List CharSet)} {c : Char}
    {text : List Char} (h : Text.FillsGap avoid (c :: text)) (hc : chars.mem c = true) :
    [] ∉ avoidBehind chars avoid ∧ Text.FillsGap (avoidBehind chars avoid) text := by
  have hword : ∀ word ∈ avoidBehind chars avoid, ¬ Text.Begins word text :=
    fun word hword hbegins => h.2 _ (mem_avoidBehind hword) ⟨hc, hbegins⟩
  refine ⟨fun hnil => hword [] hnil ?_, fun hquote => h.1 (List.mem_cons_of_mem _ hquote), hword⟩
  cases text <;> trivial

/-- What is left of a text behind a character is shown by some rest of the template. -/
theorem exists_mem_eat {chars : CharSet} {c : Char} (hc : chars.mem c = true) {τ : Template}
    {text : List Char} (h : τ.Shows (c :: text)) : ∃ τ' ∈ τ.eat chars, τ'.Shows text := by
  induction τ with
  | nil => cases h
  | cons piece rest ih =>
      cases piece with
      | char d =>
          obtain ⟨behind, hsplit, hbehind⟩ := h
          cases hsplit
          exact ⟨rest, by simp [eat, hc], hbehind⟩
      | gap index avoid =>
          obtain ⟨inside, behind, hsplit, hinside, hbehind⟩ := h
          cases inside with
          | nil =>
              -- An empty gap, so the character stands behind it.
              rw [List.nil_append] at hsplit
              subst hsplit
              obtain ⟨τ', hτ', hshows⟩ := ih hbehind
              exact ⟨τ', List.mem_append_right _ hτ', hshows⟩
          | cons d inside =>
              cases hsplit
              obtain ⟨hfree, hfills⟩ := fillsGap_behind hinside hc
              -- The gap goes on behind its first character, which is no quotation mark.
              have hquote : chars ≠ .single '"' := by
                rintro rfl
                exact hinside.1 (by simp [Regex.mem_single_iff.mp hc])
              refine ⟨.gap index (avoidBehind chars avoid) :: rest, ?_, inside, behind, rfl, hfills,
                hbehind⟩
              simp [eat, hquote, hfree]

/-- So is what is left behind a fixed text. -/
theorem exists_mem_eatAll {fixed : List Char} {τ : Template} {text : List Char}
    (h : τ.Shows (fixed ++ text)) : ∃ τ' ∈ τ.eatAll fixed, τ'.Shows text := by
  induction fixed generalizing τ with
  | nil => exact ⟨τ, List.mem_singleton_self τ, h⟩
  | cons c fixed ih =>
      obtain ⟨τ', hτ', hshows⟩ := exists_mem_eat (Regex.mem_single_iff.mpr rfl) h
      obtain ⟨τ'', hτ'', hshows'⟩ := ih hshows
      exact ⟨τ'', List.mem_flatMap.mpr ⟨τ', hτ', hτ''⟩, hshows'⟩

/-- So is what is left behind any number of characters of a set. -/
theorem exists_mem_skim {chars : CharSet} {taken : List Char}
    (htaken : ∀ c ∈ taken, chars.mem c = true) {τ : Template} {text : List Char}
    (h : τ.Shows (taken ++ text)) : ∃ τ' ∈ τ.skim chars, τ'.Shows text := by
  induction τ generalizing taken with
  | nil =>
      obtain ⟨-, rfl⟩ := List.append_eq_nil_iff.mp h
      exact ⟨[], List.mem_singleton_self [], rfl⟩
  | cons piece rest ih =>
      cases taken with
      | nil => cases piece <;> exact ⟨_, List.mem_cons_self, h⟩
      | cons d taken =>
          have hd := htaken d List.mem_cons_self
          cases piece with
          | char c =>
              obtain ⟨behind, hsplit, hbehind⟩ := h
              cases hsplit
              obtain ⟨τ', hτ', hshows⟩ := ih (fun e he => htaken e (List.mem_cons_of_mem _ he)) hbehind
              exact ⟨τ', by simp [skim, hd, hτ'], hshows⟩
          | gap index avoid =>
              obtain ⟨inside, behind, hsplit, hinside, hbehind⟩ := h
              -- What is taken ends inside the gap, or takes the whole gap and goes on behind it.
              rcases List.append_eq_append_iff.mp hsplit with ⟨more, rfl, rfl⟩ | ⟨more, hmore, rfl⟩
              · -- The match ends within the gap.
                have hgap : .gap index [] :: rest ∈ skim chars (.gap index avoid :: rest) := by
                  by_cases havoid : avoid = [] <;> simp [skim, havoid]
                refine ⟨.gap index [] :: rest, hgap, more, behind, rfl,
                  fillsGap_nil fun hquote => hinside.1 (List.mem_append_right _ hquote), hbehind⟩
              · obtain ⟨τ', hτ', hshows⟩ :=
                  ih (fun e he => htaken e (hmore ▸ List.mem_append_right _ he)) hbehind
                exact ⟨τ', by simp [skim, hτ'], hshows⟩

/-- What a step leaves of a template includes what is left behind a text that is
read. -/
def Takes (reads : Regex.Reading) (step : Template → List Template) : Prop :=
  ∀ {position : Nat} {taken text : List Char} {marks : Regex.Trail} {τ : Template},
    reads position taken marks → τ.Shows (taken ++ text) → ∃ τ' ∈ step τ, τ'.Shows text

namespace Takes

variable {reads : Regex.Reading} {step : Template → List Template}

/-- Steps that go over what is read can be repeated a fixed number of times. -/
theorem iterate (h : Takes reads step) (n : Nat) :
    Takes (Regex.Reading.times reads n) (Template.iterate step n) := by
  induction n with
  | zero =>
      rintro position _ text _ τ ⟨rfl, rfl⟩ hshows
      exact ⟨τ, List.mem_singleton_self τ, hshows⟩
  | succ n ih =>
      rintro position _ text _ τ ⟨first, rest, before, behind, rfl, rfl, hfirst, hrest⟩ hshows
      rw [List.append_assoc] at hshows
      obtain ⟨τ', hτ', hshows'⟩ := h hfirst hshows
      obtain ⟨τ'', hτ'', hshows''⟩ := ih hrest hshows'
      exact ⟨τ'', List.mem_flatMap.mpr ⟨τ', hτ', hτ''⟩, hshows''⟩

/-- They can be repeated up to a number of times. -/
theorem iterateUpTo (h : Takes reads step) {n most : Nat} (hn : n ≤ most) :
    Takes (Regex.Reading.times reads n) (Template.iterateUpTo step most) := by
  induction n generalizing most with
  | zero =>
      rintro position _ text _ τ ⟨rfl, rfl⟩ hshows
      exact ⟨τ, by cases most <;> simp [Template.iterateUpTo], hshows⟩
  | succ n ih =>
      obtain ⟨most, rfl⟩ : ∃ m, most = m + 1 := ⟨most - 1, by omega⟩
      rintro position _ text _ τ ⟨first, rest, before, behind, rfl, rfl, hfirst, hrest⟩ hshows
      rw [List.append_assoc] at hshows
      obtain ⟨τ', hτ', hshows'⟩ := h hfirst hshows
      obtain ⟨τ'', hτ'', hshows''⟩ := ih (Nat.le_of_succ_le_succ hn) hrest hshows'
      exact ⟨τ'', List.mem_cons_of_mem _ (List.mem_flatMap.mpr ⟨τ', hτ', hτ''⟩), hshows''⟩

end Takes

end Template

namespace CharSet

/-- All characters are in the set of all. -/
theorem mem_all (c : Char) : CharSet.all.mem c = true := by
  have hall : CharSet.all.intervals = [(0, 0xd7ff), (0xe000, 0x10ffff)] := by decide
  have hvalid : c.toNat < 0xd800 ∨ (0xdfff < c.toNat ∧ c.toNat < 0x110000) := c.valid
  simp only [mem, hall, Text.within]
  split <;> simp <;> omega

end CharSet

namespace Regex

/-- The characters of a repeated set are in the set. -/
theorem forall_mem_of_times_set {chars : CharSet} {n position : Nat} {text : List Char}
    {marks : Trail} (h : Reading.times (set chars).Reads n position text marks) :
    ∀ c ∈ text, chars.mem c = true := by
  induction n generalizing position text marks with
  | zero =>
      rw [h.1]
      simp
  | succ n ih =>
      obtain ⟨_, rest, before, behind, rfl, rfl, ⟨-, c, hc, rfl⟩, hrest⟩ := h
      rw [List.singleton_append, List.forall_mem_cons]
      exact ⟨hc, ih hrest⟩

/-- Whatever stands in the gaps, `ends` has what is left behind a match. -/
theorem exists_ends_of_reads (r : Regex) : Template.Takes r.Reads r.ends := by
  induction r with
  | empty =>
      rintro position _ text _ τ ⟨rfl, rfl⟩ hshows
      exact ⟨τ, List.mem_singleton_self τ, hshows⟩
  | literal fixed =>
      rintro position _ text _ τ ⟨rfl, rfl⟩ hshows
      exact Template.exists_mem_eatAll hshows
  | set chars =>
      rintro position _ text _ τ ⟨rfl, c, hc, rfl⟩ hshows
      exact Template.exists_mem_eat hc hshows
  | anchor condition =>
      rintro position _ text _ τ ⟨rfl, rfl⟩ hshows
      exact ⟨τ, List.mem_singleton_self τ, hshows⟩
  | seq a b iha ihb =>
      rintro position _ text _ τ ⟨first, rest, before, behind, rfl, rfl, hfirst, hrest⟩ hshows
      rw [List.append_assoc] at hshows
      obtain ⟨τ', hτ', hshows'⟩ := iha hfirst hshows
      obtain ⟨τ'', hτ'', hshows''⟩ := ihb hrest hshows'
      exact ⟨τ'', List.mem_flatMap.mpr ⟨τ', hτ', hτ''⟩, hshows''⟩
  | alt a b iha ihb =>
      rintro position taken text marks τ (h | h) hshows
      · obtain ⟨τ', hτ', hshows'⟩ := iha h hshows
        exact ⟨τ', List.mem_append_left _ hτ', hshows'⟩
      · obtain ⟨τ', hτ', hshows'⟩ := ihb h hshows
        exact ⟨τ', List.mem_append_right _ hτ', hshows'⟩
  | «repeat» count body ih =>
      rintro position taken text marks τ ⟨rounds, ⟨hleast, hmost⟩, hreads⟩ hshows
      obtain ⟨least, most?, greedy⟩ := count
      cases most? with
      | none =>
          cases body with
          -- Without a bound, only the characters of a set are known, and of other bodies nothing.
          | set chars => exact Template.exists_mem_skim (forall_mem_of_times_set hreads) hshows
          | _ => exact Template.exists_mem_skim (fun c _ => CharSet.mem_all c) hshows
      | some most =>
          obtain ⟨n, rfl⟩ := Nat.exists_eq_add_of_le hleast
          have hn : n ≤ most - least := by
            have := hmost most rfl
            simp only at this
            omega
          -- First the rounds that are required, and then some of those that are not.
          obtain ⟨u, v, before, behind, rfl, rfl, hu, hv⟩ := Reading.exists_of_times_add hreads
          rw [List.append_assoc] at hshows
          obtain ⟨τ', hτ', hshows'⟩ := Template.Takes.iterate ih least hu hshows
          obtain ⟨τ'', hτ'', hshows''⟩ := Template.Takes.iterateUpTo ih hn hv hshows'
          exact ⟨τ'', List.mem_flatMap.mpr ⟨τ', hτ', hτ''⟩, hshows''⟩
  | group index body ih =>
      rintro position taken text _ τ ⟨inner, hbody, rfl⟩ hshows
      exact ih hbody hshows

/-- Sets of characters, one of which has the first character of any match. There
are none if a match can be empty. -/
def firsts? : Regex → Option (List CharSet)
  | literal (c :: _) => some [.single c]
  | set chars => some [chars]
  | seq a _ => a.firsts?
  | alt a b => a.firsts?.bind fun first => b.firsts?.map (first ++ ·)
  | group _ body => body.firsts?
  | _ => none

/-- Whether a template begins with a character that no match begins with. -/
def missesAt (r : Regex) : Template → Bool
  | .char c :: _ => r.firsts?.any fun sets => sets.all fun chars => !chars.mem c
  | _ => false

/-- As `ends`, but looks at the first character before all else. -/
def endsAt (r : Regex) (τ : Template) : List Template :=
  if r.missesAt τ then [] else r.ends τ

/-- A text that an expression reads begins with a character of its first sets, if these are
known. -/
theorem exists_first_of_reads {r : Regex} {sets : List CharSet} (hfirsts : r.firsts? = some sets)
    {position : Nat} {text : List Char} {marks : Trail} (h : r.Reads position text marks) :
    ∃ c rest, text = c :: rest ∧ ∃ chars ∈ sets, chars.mem c = true := by
  induction r generalizing sets position text marks with
  | empty | anchor condition | «repeat» count body ih => cases hfirsts
  | literal fixed =>
      obtain ⟨rfl, -⟩ := h
      cases text with
      | nil => cases hfirsts
      | cons c rest =>
          cases hfirsts
          exact ⟨c, rest, rfl, _, List.mem_singleton_self _, mem_single_iff.mpr rfl⟩
  | set chars =>
      cases hfirsts
      obtain ⟨-, c, hc, rfl⟩ := h
      exact ⟨c, [], rfl, chars, List.mem_singleton_self _, hc⟩
  | seq a b iha ihb =>
      -- The first half is not empty, so the text begins as it does.
      obtain ⟨first, rest, before, behind, rfl, rfl, hfirst, -⟩ := h
      obtain ⟨c, more, rfl, hc⟩ := iha hfirsts hfirst
      exact ⟨c, more ++ rest, rfl, hc⟩
  | alt a b iha ihb =>
      obtain ⟨setsa, ha, hrest⟩ := Option.bind_eq_some_iff.mp hfirsts
      obtain ⟨setsb, hb, rfl⟩ := Option.map_eq_some_iff.mp hrest
      rcases h with h | h
      · obtain ⟨c, rest, htext, chars, hchars, hc⟩ := iha ha h
        exact ⟨c, rest, htext, chars, List.mem_append_left _ hchars, hc⟩
      · obtain ⟨c, rest, htext, chars, hchars, hc⟩ := ihb hb h
        exact ⟨c, rest, htext, chars, List.mem_append_right _ hchars, hc⟩
  | group index body ih =>
      obtain ⟨inner, hbody, -⟩ := h
      exact ih hfirsts hbody

/-- Behind what an expression reads, one of its ends shows the rest. -/
theorem exists_endsAt_of_reads (r : Regex) : Template.Takes r.Reads r.endsAt := by
  intro position taken text marks τ hreads hshows
  -- A template that begins with a character that no match begins with has no match.
  have hhits : ¬ r.missesAt τ = true := by
    intro hmisses
    unfold missesAt at hmisses
    split at hmisses
    · next c rest =>
        obtain ⟨behind, hsplit, -⟩ := hshows
        cases hfirsts : r.firsts? with
        | none =>
            rw [hfirsts] at hmisses
            cases hmisses
        | some sets =>
            rw [hfirsts, Option.any_some, List.all_eq_true] at hmisses
            obtain ⟨d, more, rfl, chars, hchars, hd⟩ := exists_first_of_reads hfirsts hreads
            cases hsplit
            simpa [hd] using hmisses chars hchars
    · cases hmisses
  rw [endsAt, if_neg hhits]
  exact exists_ends_of_reads r hreads hshows

/-- Whether a match in a text that begins with `front` and ends with `back` is
sure to lie between the two, whatever stands in the gaps between them. -/
def staysBetween (r : Regex) (front : List Char) (middle : Template) (back : List Char) : Bool :=
  let behind := middle ++ back.map .char
  (front.tails.all fun tail => tail.isEmpty || (r.endsAt (tail.map .char ++ behind)).isEmpty)
    && (behind.skim .all).all fun τ => (r.endsAt τ).all (back.map .char).isSuffixOf

end Regex

namespace Template

/-- Fixed characters in front show themselves. -/
theorem shows_chars_append {front : List Char} {τ : Template} {text : List Char} :
    Shows (front.map .char ++ τ) (front ++ text) ↔ τ.Shows text := by
  induction front with
  | nil => rfl
  | cons c front ih =>
      rw [← ih]
      constructor
      · rintro ⟨behind, hsplit, h⟩
        cases hsplit
        exact h
      · exact fun h => ⟨_, rfl, h⟩

/-- A text that two templates show together has a part for each. -/
theorem shows_append {σ τ : Template} {text : List Char} :
    Shows (σ ++ τ) text ↔ ∃ first rest, text = first ++ rest ∧ σ.Shows first ∧ τ.Shows rest := by
  induction σ generalizing text with
  | nil =>
      constructor
      · exact fun h => ⟨[], text, rfl, rfl, h⟩
      · rintro ⟨_, rest, rfl, rfl, h⟩
        exact h
  | cons piece σ ih =>
      cases piece with
      | char c =>
          constructor
          · rintro ⟨behind, rfl, h⟩
            obtain ⟨first, rest, rfl, hfirst, hrest⟩ := ih.mp h
            exact ⟨c :: first, rest, rfl, ⟨first, rfl, hfirst⟩, hrest⟩
          · rintro ⟨_, rest, rfl, ⟨first, rfl, hfirst⟩, hrest⟩
            exact ⟨first ++ rest, rfl, ih.mpr ⟨first, rest, rfl, hfirst, hrest⟩⟩
      | gap index avoid =>
          constructor
          · rintro ⟨inside, behind, rfl, hinside, h⟩
            obtain ⟨first, rest, rfl, hfirst, hrest⟩ := ih.mp h
            exact ⟨inside ++ first, rest, by simp, ⟨inside, first, rfl, hinside, hfirst⟩, hrest⟩
          · rintro ⟨_, rest, rfl, ⟨inside, first, rfl, hinside, hfirst⟩, hrest⟩
            exact ⟨inside, first ++ rest, by simp, hinside, ih.mpr ⟨first, rest, rfl, hfirst, hrest⟩⟩

/-- Fixed characters show themselves and nothing else. -/
theorem shows_chars {back text : List Char} : Shows (back.map .char) text ↔ text = back := by
  induction back generalizing text with
  | nil => exact Iff.rfl
  | cons c back ih =>
      constructor
      · rintro ⟨behind, rfl, hbehind⟩
        rw [ih.mp hbehind]
      · rintro rfl
        exact ⟨back, rfl, ih.mpr rfl⟩

end Template

namespace Regex

/-- If matches stay between the ends of a text, then there is one in the whole
text if and only if there is one between them. -/
theorem occursIn_between_iff {r : Regex} (hloops : r.loopsConsume = true)
    (hplain : r.isUnconditional = true) {front back : List Char} {middle : Template}
    (hstays : r.staysBetween front middle back = true) {inner : List Char}
    (hinner : middle.Shows inner) :
    r.occursIn (String.ofList (front ++ inner ++ back)) = true
      ↔ r.occursIn (String.ofList inner) = true := by
  rw [occursIn_iff hloops hplain, occursIn_iff hloops hplain, String.toList_ofList,
    String.toList_ofList]
  constructor
  · rintro ⟨skipped, found, rest, marks, hsplit, hreads⟩
    simp only [staysBetween, Bool.and_eq_true, List.all_eq_true, List.mem_tails, Bool.or_eq_true,
      List.isEmpty_iff] at hstays
    obtain ⟨hfront, hbehind⟩ := hstays
    have hshows : Template.Shows (middle ++ back.map .char) (inner ++ back) :=
      Template.shows_append.mpr ⟨inner, back, rfl, hinner, Template.shows_chars.mpr rfl⟩
    rw [List.append_assoc, List.append_assoc] at hsplit
    obtain ⟨more, rfl, htail⟩ | ⟨tail, hne, rfl, htail⟩ :
        (∃ more, skipped = front ++ more ∧ inner ++ back = more ++ (found ++ rest))
          ∨ ∃ tail ≠ [], front = skipped ++ tail ∧ found ++ rest = tail ++ (inner ++ back) := by
      rcases List.append_eq_append_iff.mp hsplit with ⟨more, h, h'⟩ | ⟨tail, h, h'⟩
      · exact .inl ⟨more, h, h'⟩
      · cases tail with
        | nil => exact .inl ⟨[], by simpa using h.symm, by simpa using h'.symm⟩
        | cons c tail => exact .inr ⟨c :: tail, List.cons_ne_nil c tail, h, h'⟩
    · -- The match starts behind the front.
      rw [htail] at hshows
      obtain ⟨τ, hτ, hshowsτ⟩ :=
        Template.exists_mem_skim (fun c _ => CharSet.mem_all c) hshows
      obtain ⟨τ', hτ', hshowsτ'⟩ := exists_endsAt_of_reads r hreads hshowsτ
      -- What is left behind the match ends with the back, which can be cut off.
      obtain ⟨σ, rfl⟩ := List.isSuffixOf_iff_suffix.mp (hbehind τ hτ τ' hτ')
      obtain ⟨before, last, rfl, -, hlast⟩ := Template.shows_append.mp hshowsτ'
      rw [Template.shows_chars.mp hlast] at htail
      obtain ⟨marks', hreads'⟩ := exists_reads_at hreads more.length
      refine ⟨more, found, before, marks', ?_, hreads'⟩
      have hcancel : inner ++ back = (more ++ found ++ before) ++ back := by
        rw [htail]
        simp
      exact List.append_cancel_right hcancel
    · -- The match cannot start in the front.
      have hends := (hfront tail (List.suffix_append skipped tail)).resolve_left hne
      have hshowsτ : Template.Shows (tail.map .char ++ (middle ++ back.map .char))
          (found ++ rest) := by
        rw [htail]
        exact Template.shows_chars_append.mpr hshows
      obtain ⟨τ', hτ', -⟩ := exists_endsAt_of_reads r hreads hshowsτ
      rw [hends] at hτ'
      cases hτ'
  · rintro ⟨skipped, found, rest, marks, rfl, hreads⟩
    obtain ⟨marks', hreads'⟩ := exists_reads_at hreads (front ++ skipped).length
    exact ⟨front ++ skipped, found, rest ++ back, marks', by simp, hreads'⟩

end Regex

end ScenarioSteps
