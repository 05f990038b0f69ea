import Mathlib.Data.List.Forall2
import ScenarioSteps.Proofs.Pattern.Dispatch

/-!
# `ScenarioSteps.Proofs.Pattern.Differing`: registries that differ in one generator

Two registries may hold the same entries in the same order but for the generator under one
key (`Registry.SameBut`). Dispatch never runs a generator, so both recognise a sentence by
the same key and with the same captures (`Registry.resolve?_sameBut`). A sentence that goes
to another key gets the very same entry (`Registry.resolve?_eq_of_ne`).

An entry carries the expression that its source reads as. So entries with one source have
one expression (`Entry.SameBut.regex_eq`), and the registries need not be compared by it.
-/

set_option autoImplicit false

namespace ScenarioSteps

variable {key : String}

namespace Entry

/-- Two entries that are the same but for their generators, and these are the same too
unless the entries stand under a certain key. -/
structure SameBut (key : String) (e e' : Entry) : Prop where
  key_eq : e'.key = e.key
  pattern_eq : e'.pattern = { e.pattern with generator := e'.pattern.generator }
  generator_eq : e.key ≠ key → e'.pattern.generator = e.pattern.generator

/-- The entry with another generator. No check of an entry looks at its generator. -/
def withGenerator (e : Entry) (generator : Generator) : Entry :=
  { e with pattern := { e.pattern with generator } }

/-- An entry with another generator is the same but for that. -/
theorem sameBut_withGenerator (e : Entry) (generator : Generator) :
    e.SameBut e.key (e.withGenerator generator) :=
  ⟨rfl, rfl, fun hne => absurd rfl hne⟩

namespace SameBut

variable {e e' : Entry}

/-- The sources are the same, so they read as the same expression. -/
theorem regex_eq (h : e.SameBut key e') : e'.regex = e.regex := by
  have hsource : e'.pattern.source = e.pattern.source := by rw [h.pattern_eq]
  have hreads := e'.reads
  rw [hsource, e.reads] at hreads
  exact (Except.ok.inj hreads).symm

/-- Under other keys, the entries are the same. -/
theorem eq_of_ne (h : e.SameBut key e') (hne : e.key ≠ key) : e' = e := by
  have hkey := h.key_eq
  have hregex := h.regex_eq
  have hpattern : e'.pattern = e.pattern := by rw [h.pattern_eq, h.generator_eq hne]
  cases e
  cases e'
  cases hkey
  cases hregex
  cases hpattern
  rfl

end SameBut

end Entry

/-- Two matches with the same captures, of entries that are the same but for a generator. -/
structure Match.SameBut (key : String) (m m' : Match) : Prop where
  entry : m.entry.SameBut key m'.entry
  captures_eq : m'.captures = m.captures

/-- Under other keys, the matches are the same. -/
theorem Match.SameBut.eq_of_ne {m m' : Match} (h : m.SameBut key m') (hne : m.key ≠ key) :
    m' = m := by
  have hentry := h.entry.eq_of_ne hne
  have hcaptures := h.captures_eq
  cases m
  cases m'
  cases hentry
  cases hcaptures
  rfl

/-- Such entries recognise the same sentences. -/
theorem Entry.recognise?_sameBut {e e' : Entry} (h : e.SameBut key e') (sentence : String) :
    Option.Rel (Match.SameBut key) (e.recognise? sentence) (e'.recognise? sentence) := by
  rw [recognise?, recognise?, h.regex_eq]
  cases e.regex.captures? sentence with
  | none => exact .none
  | some captures => exact .some ⟨h, rfl⟩

namespace Registry

/-- Two registries with the same entries in the same order, but for the generator under a
certain key. -/
def SameBut (key : String) (r r' : Registry) : Prop :=
  List.Forall₂ (Entry.SameBut key) r.entries r'.entries

variable {r r' : Registry}

/-- A sentence goes to the same place in both. -/
theorem resolve?_sameBut (h : r.SameBut key r') (sentence : String) :
    Option.Rel (Match.SameBut key) (r.resolve? sentence) (r'.resolve? sentence) := by
  have hlists : ∀ {entries entries' : List Entry},
      List.Forall₂ (Entry.SameBut key) entries entries' →
      Option.Rel (Match.SameBut key)
        (entries.findSome? (·.recognise? (Text.trimmed sentence)))
        (entries'.findSome? (·.recognise? (Text.trimmed sentence))) := by
    intro entries entries' h
    induction h with
    | nil => exact .none
    | @cons e e' _ _ hentry _ ih =>
        rw [List.findSome?_cons, List.findSome?_cons]
        -- The first entry recognises the sentence in both registries or in neither.
        have hfirst := Entry.recognise?_sameBut hentry (Text.trimmed sentence)
        revert hfirst
        cases e.recognise? (Text.trimmed sentence) <;>
          cases e'.recognise? (Text.trimmed sentence) <;> intro hfirst
        · exact ih
        · cases hfirst
        · cases hfirst
        · exact hfirst
  exact hlists h

/-- A sentence goes to the same key in both. -/
theorem map_key_resolve?_of_sameBut (h : r.SameBut key r') (sentence : String) :
    (r'.resolve? sentence).map Match.key = (r.resolve? sentence).map Match.key := by
  have hrel := resolve?_sameBut h sentence
  revert hrel
  cases r.resolve? sentence <;> cases r'.resolve? sentence <;> intro hrel
  · rfl
  · cases hrel
  · cases hrel
  · cases hrel with
    | some hmatch => exact congrArg some hmatch.entry.key_eq

/-- A sentence that goes to another key goes to the same entry in both. -/
theorem resolve?_eq_of_ne (h : r.SameBut key r') {sentence : String}
    (hne : (r.resolve? sentence).map Match.key ≠ some key) :
    r'.resolve? sentence = r.resolve? sentence := by
  have hrel := resolve?_sameBut h sentence
  revert hrel hne
  cases r.resolve? sentence <;> cases r'.resolve? sentence <;> intro hne hrel
  · rfl
  · cases hrel
  · cases hrel
  · cases hrel with
    | some hmatch => rw [hmatch.eq_of_ne fun heq => hne (congrArg some heq)]

end Registry

end ScenarioSteps
