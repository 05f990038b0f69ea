import Mathlib.Data.Bool.AllAny
import ScenarioSteps.Literal.Escape

/-!
# `ScenarioSteps.Proofs.Literal.Escape`: escaped text reads back and stays on its line

The three escapes share one reader, `unescapeChars`. An escape `ReadsBack`
if the reader takes off exactly what the escape wrote for a character,
whatever stands behind it. From one character the law goes over to texts
(`ReadsBack.unescapeChars_flatMap`).

* `readsBack_regexChar` and `readsBack_commentChar` hold as they stand.
* `readsBack_stringChar` needs a quote that is not one of `n`, `r`, `t`
  and `u`, which mean something else behind a backslash.

`unescape_escape` puts this together for whole texts, and says that those
four letters are the only quotes that fail.

No escape writes a character that ends a line of JavaScript (`lineEnds`),
so an escaped text stands on one line.
-/

set_option autoImplicit false

namespace ScenarioSteps.Literal

/-- The characters that end a line of JavaScript. -/
def lineEnds : List Char :=
  ['\n', '\r', '\u2028', '\u2029']

/-- What an escape writes for a character is read as that character, and the
reader goes on right behind it. -/
def ReadsBack (escape : Char → List Char) : Prop :=
  ∀ (c : Char) (rest : List Char), unescapeChars (escape c ++ rest) = c :: unescapeChars rest

/-- A text reads back if its characters do. -/
theorem ReadsBack.unescapeChars_flatMap {escape : Char → List Char} (h : ReadsBack escape)
    (cs : List Char) : unescapeChars (cs.flatMap escape) = cs := by
  induction cs with
  | nil => simp [unescapeChars]
  | cons c cs ih => rw [List.flatMap_cons, h c, ih]

/-! ### The reader on single characters -/

/-- A character that is not escaped stands for itself. -/
theorem unescapeChars_cons {c : Char} (hc : c ≠ '\\') (rest : List Char) :
    unescapeChars (c :: rest) = c :: unescapeChars rest := by
  rw [unescapeChars.eq_def]
  split <;> simp_all

/-- A backslash before a character that names no other one is dropped. -/
theorem unescapeChars_backslash {c : Char} (hc : c ∉ ['n', 'r', 't', 'u'])
    (rest : List Char) : unescapeChars ('\\' :: c :: rest) = c :: unescapeChars rest := by
  simp only [List.mem_cons, List.not_mem_nil, or_false, not_or] at hc
  obtain ⟨hn, hr, ht, hu⟩ := hc
  rw [unescapeChars]
  · exact hn
  · exact hr
  · exact ht
  · rintro _ _ _ _ _ rfl
    contradiction

/-- Four hexadecimal digits behind `u` are read as the character that they name. -/
theorem unescapeChars_hex {a b c d named : Char} (h : hexChar? a b c d = some named)
    (rest : List Char) :
    unescapeChars ('\\' :: 'u' :: a :: b :: c :: d :: rest) = named :: unescapeChars rest := by
  rw [unescapeChars, h]

/-! ### The three escapes -/

/-- In a string literal, the four letters that mean something behind a backslash have to be
excluded as quotes. -/
theorem readsBack_stringChar {quote : Char} (hquote : quote ∉ ['n', 'r', 't', 'u']) :
    ReadsBack (stringChar quote) := by
  intro c rest
  unfold stringChar
  split
  · exact unescapeChars_backslash (by decide) rest
  · rfl
  · rfl
  · rfl
  · exact unescapeChars_hex (by decide) rest
  · exact unescapeChars_hex (by decide) rest
  · rename_i hc _ _ _ _ _
    split
    · rename_i heq
      rw [beq_iff_eq] at heq
      exact unescapeChars_backslash (heq ▸ hquote) rest
    · exact unescapeChars_cons hc rest

/-- A regular expression escapes its own marks, so nothing is to be excluded. -/
theorem readsBack_regexChar : ReadsBack regexChar := by
  intro c rest
  unfold regexChar
  split
  · rfl
  · rfl
  · rfl
  · exact unescapeChars_hex (by decide) rest
  · exact unescapeChars_hex (by decide) rest
  · split
    · rename_i hmeta
      have hplain : ∀ m ∈ regexMeta, m ∉ ['n', 'r', 't', 'u'] :=
        List.all_iff_forall_prop.mp (by decide)
      exact unescapeChars_backslash (hplain c (by simpa using hmeta)) rest
    · rename_i hmeta
      exact unescapeChars_cons (by rintro rfl; exact hmeta rfl) rest

/-- Nor is there in a comment, where backslashes and line ends are escaped. -/
theorem readsBack_commentChar : ReadsBack commentChar := by
  intro c rest
  unfold commentChar
  split
  · exact unescapeChars_backslash (by decide) rest
  · rfl
  · rfl
  · exact unescapeChars_hex (by decide) rest
  · exact unescapeChars_hex (by decide) rest
  · rename_i hc _ _ _ _
    exact unescapeChars_cons hc rest

/-! ### Whole texts -/

/-- What an escape that reads back writes for a text is read as that text. -/
theorem ReadsBack.unescape_escapeWith {escape : Char → List Char} (h : ReadsBack escape)
    (text : String) : unescape (escapeWith escape text) = text := by
  rw [unescape, escapeWith, String.toList_ofList, h.unescapeChars_flatMap, String.ofList_toList]

/-- Literals of different texts differ. -/
theorem quoted_injective : Function.Injective quoted := by
  intro a b h
  have hinside : escapeString '\'' a = escapeString '\'' b :=
    (String.append_right_inj _).mp ((String.append_left_inj _).mp h)
  have hreads : ∀ text, unescape (escapeString '\'' text) = text :=
    (readsBack_stringChar (by decide)).unescape_escapeWith
  rw [← hreads a, hinside, hreads b]

/-- A letter that names another character behind a backslash is no quote from which all
texts read back. The four digits are for the `u`, which stands for itself without them. -/
theorem unescapeChars_stringChar_ne {quote : Char} (hquote : quote ∈ ['n', 'r', 't', 'u']) :
    unescapeChars ([quote, '0', '0', '4', '1'].flatMap (stringChar quote))
      ≠ [quote, '0', '0', '4', '1'] := by
  have hletters : ∀ letter ∈ ['n', 'r', 't', 'u'],
      unescapeChars ([letter, '0', '0', '4', '1'].flatMap (stringChar letter))
        ≠ [letter, '0', '0', '4', '1'] := List.all_iff_forall_prop.mp (by decide)
  exact hletters quote hquote

/-- Every text reads back from a comment and from a regular expression. From a literal
between quotes every text reads back if and only if the quote is none of the letters that
name other characters behind a backslash. -/
theorem unescape_escape :
    (∀ text, unescape (escapeComment text) = text)
      ∧ (∀ text, unescape (escapeRegex text) = text)
      ∧ ∀ quote, (∀ text, unescape (escapeString quote text) = text)
          ↔ quote ∉ ['n', 'r', 't', 'u'] := by
  refine ⟨readsBack_commentChar.unescape_escapeWith, readsBack_regexChar.unescape_escapeWith,
    fun quote => ⟨fun h hquote => ?_, fun hquote => ?_⟩⟩
  · have htext := congrArg String.toList (h (String.ofList [quote, '0', '0', '4', '1']))
    simp only [unescape, escapeString, escapeWith, String.toList_ofList] at htext
    exact unescapeChars_stringChar_ne hquote htext
  · exact (readsBack_stringChar hquote).unescape_escapeWith

/-! ### No escape ends a line -/

/-- What stands in a string literal does not end its line. -/
theorem stringChar_not_lineEnd {quote : Char} (hquote : quote ∉ lineEnds) (c : Char) :
    ∀ d ∈ stringChar quote c, d ∉ lineEnds := by
  unfold stringChar
  split
  all_goals try exact List.all_iff_forall_prop.mp (by decide)
  split
  · rename_i heq
    rw [beq_iff_eq] at heq
    subst heq
    intro d hd
    rcases List.mem_cons.mp hd with rfl | hd
    · decide
    · rw [List.mem_singleton.mp hd]
      exact hquote
  · intro d hd
    rw [List.mem_singleton.mp hd]
    simp_all [lineEnds]

/-- What stands in a regular expression does not end its line either. -/
theorem regexChar_not_lineEnd (c : Char) : ∀ d ∈ regexChar c, d ∉ lineEnds := by
  unfold regexChar
  split
  all_goals try exact List.all_iff_forall_prop.mp (by decide)
  split <;> simp_all [lineEnds]

/-- What stands in a comment does not end the comment, which is one line. -/
theorem commentChar_not_lineEnd (c : Char) : ∀ d ∈ commentChar c, d ∉ lineEnds := by
  unfold commentChar
  split
  all_goals try exact List.all_iff_forall_prop.mp (by decide)
  simp_all [lineEnds]

/-- An escaped text stays on its line if its characters do. -/
theorem escapeWith_not_lineEnd {escape : Char → List Char}
    (h : ∀ c, ∀ d ∈ escape c, d ∉ lineEnds) (text : String) :
    ∀ c ∈ (escapeWith escape text).toList, c ∉ lineEnds := by
  intro c hc
  rw [escapeWith, String.toList_ofList] at hc
  obtain ⟨d, -, hd⟩ := List.mem_flatMap.mp hc
  exact h d c hd

/-- Text in a comment stays on its line. -/
theorem escapeComment_not_lineEnd (text : String) :
    ∀ c ∈ (escapeComment text).toList, c ∉ lineEnds :=
  escapeWith_not_lineEnd commentChar_not_lineEnd text

end ScenarioSteps.Literal
