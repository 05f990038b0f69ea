import ScenarioSteps.Proofs.Literal.Escape

/-!
# `ScenarioSteps.Proofs.Source.Lexer`: a reader of JavaScript source

The reader knows what is needed to tell whether source hangs together: line
comments, literals in single and in double quotes, regular expressions, and
three kinds of brackets. A slash right behind an opening parenthesis begins a
regular expression, unless a second slash makes it a comment. A line end in a
literal is an error, and so is a bracket that closes another one than the
innermost.

Source `LexesCleanly` if the reader gets to its end with all literals and all
brackets closed.

* `run_under`: the reader never looks below the brackets that a text opens
  itself, so what it does with fixed code can be computed without any.
* `Steady`: a text that leaves the reader as it was. Texts of scripts are steady
  in literals and comments when they are escaped, and a comment on a line of its
  own is steady in code.
* `IsTerm`: a text that can stand wherever code can, such as a literal.
-/

set_option autoImplicit false

namespace ScenarioSteps.Lexer

open Literal (lineEnds)

/-- What a reader is in the middle of. -/
inductive Mode where
  | code
  /-- Right behind an opening parenthesis. -/
  | opened
  /-- Behind a slash. -/
  | slash
  /-- Behind a slash that stands right behind an opening parenthesis. -/
  | openedSlash
  | comment
  /-- In a literal that ends at `quote`. -/
  | literal (quote : Char)
  /-- Behind a backslash in such a literal. -/
  | escape (quote : Char)
deriving Repr, DecidableEq

/-- Whether no literal is open. -/
def Mode.isClosed : Mode → Bool
  | code | opened | slash | comment => true
  | openedSlash | literal _ | escape _ => false

/-- What a reader knows of the source before it. -/
structure State where
  mode : Mode
  /-- The brackets that have to come, the innermost first. -/
  closers : List Char
deriving Repr, DecidableEq

namespace State

/-- Before the first character. -/
def start : State :=
  ⟨.code, []⟩

/-- The same with more brackets to come. -/
def under (s : State) (closers : List Char) : State :=
  ⟨s.mode, s.closers ++ closers⟩

end State

/-- The characters that mean something outside of comments and literals. -/
def specials : List Char :=
  ['/', '\'', '"', '(', ')', '[', ']', '\x7b', '\x7d']

/-- A character outside of comments and literals. -/
def readCode (closers : List Char) (c : Char) : Option State :=
  match c with
  | '/' => some ⟨.slash, closers⟩
  | '\'' | '"' => some ⟨.literal c, closers⟩
  | '(' => some ⟨.opened, ')' :: closers⟩
  | '[' => some ⟨.code, ']' :: closers⟩
  | '\x7b' => some ⟨.code, '\x7d' :: closers⟩
  | ')' | ']' | '\x7d' =>
    match closers with
    | [] => none
    | closer :: closers => if c = closer then some ⟨.code, closers⟩ else none
  | _ => some ⟨.code, closers⟩

/-- A character in a literal. -/
def readLiteral (quote : Char) (closers : List Char) (c : Char) : Option State :=
  if c ∈ lineEnds then none
  else if c = '\\' then some ⟨.escape quote, closers⟩
  else if c = quote then some ⟨.code, closers⟩
  else some ⟨.literal quote, closers⟩

/-- Reads a character. -/
def step (s : State) (c : Char) : Option State :=
  match s.mode with
  | .code => readCode s.closers c
  | .opened => if c = '/' then some ⟨.openedSlash, s.closers⟩ else readCode s.closers c
  | .slash => if c = '/' then some ⟨.comment, s.closers⟩ else readCode s.closers c
  | .openedSlash => if c = '/' then some ⟨.comment, s.closers⟩ else readLiteral '/' s.closers c
  | .comment => some ⟨if c ∈ lineEnds then .code else .comment, s.closers⟩
  | .literal quote => readLiteral quote s.closers c
  | .escape quote => if c ∈ lineEnds then none else some ⟨.literal quote, s.closers⟩

/-- Reads a text. -/
def run (s : State) : List Char → Option State
  | [] => some s
  | c :: text => (step s c).bind (run · text)

/-- Source in which literals and brackets are closed properly. -/
def LexesCleanly (source : List Char) : Prop :=
  ∃ s, run .start source = some s ∧ s.mode.isClosed = true ∧ s.closers = []

/-- The reader goes on where the first of two texts leaves it. -/
theorem run_append (s : State) (first rest : List Char) :
    run s (first ++ rest) = (run s first).bind (run · rest) := by
  induction first generalizing s with
  | nil => rfl
  | cons c first ih =>
      rw [List.cons_append, run, run]
      cases step s c with
      | none => rfl
      | some s' => exact ih s'

/-- The same, where the first text is known to lead somewhere. -/
theorem run_append_of {s s' : State} {first : List Char} (h : run s first = some s')
    (rest : List Char) : run s (first ++ rest) = run s' rest := by
  rw [run_append, h, Option.bind_some]

/-! ### Brackets further out -/

/-- A character of code is read the same over more open brackets. -/
theorem readCode_under {closers : List Char} {c : Char} {s : State}
    (h : readCode closers c = some s) (more : List Char) :
    readCode (closers ++ more) c = some (s.under more) := by
  unfold readCode at h ⊢
  split at h
  case h_7 | h_8 | h_9 =>
    -- A closing bracket takes its own opening one off.
    cases closers with
    | nil => cases h
    | cons closer closers =>
        simp only [List.cons_append] at h ⊢
        split at h
        · next hc =>
            cases h
            rw [if_pos hc]
            rfl
        · cases h
  all_goals
    cases h
    rfl

/-- So is a character of a literal. -/
theorem readLiteral_under {quote : Char} {closers : List Char} {c : Char} {s : State}
    (h : readLiteral quote closers c = some s) (more : List Char) :
    readLiteral quote (closers ++ more) c = some (s.under more) := by
  unfold readLiteral at h ⊢
  by_cases hend : c ∈ lineEnds
  · rw [if_pos hend] at h
    cases h
  · rw [if_neg hend] at h ⊢
    by_cases hescape : c = '\\'
    · rw [if_pos hescape] at h ⊢
      cases h
      rfl
    · rw [if_neg hescape] at h ⊢
      by_cases hquote : c = quote
      · rw [if_pos hquote] at h ⊢
        cases h
        rfl
      · rw [if_neg hquote] at h ⊢
        cases h
        rfl

/-- So is any character. -/
theorem step_under {s s' : State} {c : Char} (h : step s c = some s') (more : List Char) :
    step (s.under more) c = some (s'.under more) := by
  obtain ⟨mode, closers⟩ := s
  -- A mode that does not read the character as code passes the closers on as they are.
  cases mode with
  | code => exact readCode_under h more
  | opened | slash =>
      simp only [step, State.under] at h ⊢
      by_cases hslash : c = '/'
      · rw [if_pos hslash] at h ⊢
        cases h
        rfl
      · rw [if_neg hslash] at h ⊢
        exact readCode_under h more
  | openedSlash =>
      simp only [step, State.under] at h ⊢
      by_cases hslash : c = '/'
      · rw [if_pos hslash] at h ⊢
        cases h
        rfl
      · rw [if_neg hslash] at h ⊢
        exact readLiteral_under h more
  | comment =>
      cases h
      rfl
  | literal quote => exact readLiteral_under h more
  | escape quote =>
      simp only [step, State.under] at h ⊢
      by_cases hend : c ∈ lineEnds
      · rw [if_pos hend] at h
        cases h
      · rw [if_neg hend] at h ⊢
        cases h
        rfl

/-- Brackets further out do not matter. -/
theorem run_under {s s' : State} {text : List Char} (h : run s text = some s')
    (more : List Char) : run (s.under more) text = some (s'.under more) := by
  induction text generalizing s with
  | nil =>
      cases h
      rfl
  | cons c text ih =>
      obtain ⟨next, hstep, hrest⟩ := Option.bind_eq_some_iff.mp h
      rw [run, step_under hstep more]
      exact ih hrest

/-! ### Texts that leave the reader as it was -/

/-- In a mode, a text is read without any effect. -/
def Steady (mode : Mode) (text : List Char) : Prop :=
  ∀ closers, run ⟨mode, closers⟩ text = some ⟨mode, closers⟩

/-- The empty text is steady. -/
theorem steady_nil (mode : Mode) : Steady mode [] :=
  fun _ => rfl

/-- Two steady texts are steady together. -/
theorem Steady.append {mode : Mode} {first rest : List Char} (hfirst : Steady mode first)
    (hrest : Steady mode rest) : Steady mode (first ++ rest) := fun closers => by
  rw [run_append_of (hfirst closers)]
  exact hrest closers

/-- So are any number of them. -/
theorem Steady.flatMap {α : Type} {mode : Mode} {list : List α} {text : α → List Char}
    (h : ∀ a ∈ list, Steady mode (text a)) : Steady mode (list.flatMap text) := by
  induction list with
  | nil => exact steady_nil mode
  | cons a list ih =>
      rw [List.forall_mem_cons] at h
      exact h.1.append (ih h.2)

/-- So are steady parts with a steady separator. -/
theorem Steady.intercalate {mode : Mode} {separator : List Char} {parts : List (List Char)}
    (hseparator : Steady mode separator) (hparts : ∀ part ∈ parts, Steady mode part) :
    Steady mode (separator.intercalate parts) := by
  induction parts with
  | nil => exact steady_nil mode
  | cons part rest ih =>
      rw [List.forall_mem_cons] at hparts
      cases rest with
      | nil =>
          rw [List.intercalate_singleton]
          exact hparts.1
      | cons next rest =>
          rw [List.intercalate_cons_cons]
          exact (hparts.1.append hseparator).append (ih hparts.2)

/-- Whether a text is steady can be computed without brackets around it. -/
theorem steady_of_run {mode : Mode} {text : List Char}
    (h : run ⟨mode, []⟩ text = some ⟨mode, []⟩) : Steady mode text :=
  fun closers => run_under h closers

/-- A text that opens brackets, a steady one, and a text that closes them again. -/
theorem Steady.enclosed {mode inner : Mode} {closers before text behind : List Char}
    (hbefore : run ⟨mode, []⟩ before = some ⟨inner, closers⟩) (htext : Steady inner text)
    (hbehind : run ⟨inner, closers⟩ behind = some ⟨mode, []⟩) :
    Steady mode (before ++ text ++ behind) := by
  refine steady_of_run ?_
  rw [List.append_assoc, run_append_of hbefore, run_append_of (htext closers)]
  exact hbehind

/-- Steady code lexes cleanly. -/
theorem Steady.lexesCleanly {source : List Char} (h : Steady .code source) :
    LexesCleanly source :=
  ⟨.start, h [], rfl, rfl⟩

/-! ### Inside of literals -/

section

variable {quote c : Char}

/-- A character that neither ends a literal nor escapes anything. -/
theorem steady_literal (hend : c ∉ lineEnds) (hescape : c ≠ '\\') (hquote : c ≠ quote) :
    Steady (.literal quote) [c] := by
  intro closers
  show (readLiteral quote closers c).bind _ = _
  rw [readLiteral, if_neg hend, if_neg hescape, if_neg hquote]
  rfl

/-- An escaped character. -/
theorem steady_escaped (quote : Char) (hend : c ∉ lineEnds) :
    Steady (.literal quote) ['\\', c] := by
  intro closers
  show (if c ∈ lineEnds then none else some (State.mk (.literal quote) closers)).bind _ = _
  rw [if_neg hend]
  rfl

/-- The separators of lines are written with four digits. -/
theorem steady_named (hquote : quote ∉ ['u', '2', '0', '8', '9']) (hlast : c ∈ ['8', '9']) :
    Steady (.literal quote) ['\\', 'u', '2', '0', '2', c] := by
  -- Behind the backslash and its letter, four digits stand for themselves.
  have hdigit : ∀ d ∈ ['2', '0', '8', '9'], Steady (.literal quote) [d] := by
    intro d hd
    have hends : ∀ d ∈ ['2', '0', '8', '9'], d ∉ lineEnds ∧ d ≠ '\\' :=
      List.all_iff_forall_prop.mp (by decide)
    refine steady_literal (hends d hd).1 (hends d hd).2 ?_
    rintro rfl
    exact hquote (List.mem_cons_of_mem _ hd)
  have hlast : Steady (.literal quote) [c] :=
    hdigit c (List.mem_cons_of_mem _ (List.mem_cons_of_mem _ hlast))
  exact (steady_escaped quote (c := 'u') (by decide)).append
    ((hdigit '2' (by decide)).append ((hdigit '0' (by decide)).append
      ((hdigit '2' (by decide)).append hlast)))

/-- An escaped character is steady in a literal. -/
theorem steady_stringChar (hquote : quote ∈ ['\'', '"']) (c : Char) :
    Steady (.literal quote) (Literal.stringChar quote c) := by
  have hquotes : ∀ q ∈ ['\'', '"'], q ∉ ['u', '2', '0', '8', '9'] ∧ q ∉ lineEnds :=
    List.all_iff_forall_prop.mp (by decide)
  have hplain := hquotes quote hquote
  unfold Literal.stringChar
  split
  -- Four characters have an escape of their own, and two are written by number.
  · exact steady_escaped quote (by decide)
  · exact steady_escaped quote (by decide)
  · exact steady_escaped quote (by decide)
  · exact steady_escaped quote (by decide)
  · exact steady_named hplain.1 (by decide)
  · exact steady_named hplain.1 (by decide)
  · split
    · next heq =>
        rw [beq_iff_eq] at heq
        exact steady_escaped quote (heq ▸ hplain.2)
    · next hescape _ _ _ _ _ hne =>
        refine steady_literal ?_ hescape (by simpa using hne)
        simp_all [lineEnds]

/-- So is one in a regular expression. -/
theorem steady_regexChar (c : Char) : Steady (.literal '/') (Literal.regexChar c) := by
  unfold Literal.regexChar
  split
  · exact steady_escaped '/' (by decide)
  · exact steady_escaped '/' (by decide)
  · exact steady_escaped '/' (by decide)
  · exact steady_named (by decide) (by decide)
  · exact steady_named (by decide) (by decide)
  · have hend : c ∉ lineEnds := by simp_all [lineEnds]
    split
    · exact steady_escaped '/' hend
    · next hmeta =>
        -- Slash and backslash are among the characters that are escaped.
        refine steady_literal hend ?_ ?_
        · rintro rfl
          exact hmeta rfl
        · rintro rfl
          exact hmeta rfl

end

/-- A text between the quotes of a literal. -/
theorem steady_escapeString {quote : Char} (hquote : quote ∈ ['\'', '"']) (text : String) :
    Steady (.literal quote) (Literal.escapeString quote text).toList := by
  rw [Literal.escapeString, Literal.escapeWith, String.toList_ofList]
  exact Steady.flatMap fun c _ => steady_stringChar hquote c

/-- A text between the slashes of a regular expression. -/
theorem steady_escapeRegex (text : String) :
    Steady (.literal '/') (Literal.escapeRegex text).toList := by
  rw [Literal.escapeRegex, Literal.escapeWith, String.toList_ofList]
  exact Steady.flatMap fun c _ => steady_regexChar c

/-! ### Comments -/

/-- A text without line ends is steady in a comment. -/
theorem steady_comment {text : List Char} (h : ∀ c ∈ text, c ∉ lineEnds) :
    Steady .comment text := by
  induction text with
  | nil => exact steady_nil _
  | cons c text ih =>
      rw [List.forall_mem_cons] at h
      intro closers
      show run ⟨if c ∈ lineEnds then .code else .comment, closers⟩ text = _
      rw [if_neg h.1]
      exact ih h.2 closers

/-- A comment on a line of its own. -/
theorem steady_commentLine {comment : List Char} (hcomment : ['/', '/'] <+: comment)
    (hends : ∀ c ∈ comment, c ∉ lineEnds) : Steady .code (comment ++ ['\n']) := by
  obtain ⟨text, rfl⟩ := hcomment
  rw [List.forall_mem_append] at hends
  intro closers
  show run ⟨.comment, closers⟩ (text ++ ['\n']) = _
  rw [run_append_of (steady_comment hends.2 closers)]
  rfl

/-- The same with a text in it that stays on its line. -/
theorem steady_commentLine_around {before text behind : List Char}
    (hcomment : ['/', '/'] <+: before) (hbefore : ∀ c ∈ before, c ∉ lineEnds)
    (htext : ∀ c ∈ text, c ∉ lineEnds) (hbehind : ∀ c ∈ behind, c ∉ lineEnds) :
    Steady .code (before ++ text ++ (behind ++ ['\n'])) := by
  rw [← List.append_assoc]
  refine steady_commentLine ?_ ?_
  · rw [List.append_assoc]
    exact hcomment.trans (List.prefix_append _ _)
  · simp only [List.forall_mem_append]
    exact ⟨⟨hbefore, htext⟩, hbehind⟩

/-! ### Code without brackets -/

/-- A character that is not special leaves the reader in code. -/
theorem readCode_of_not_special {c : Char} (hc : c ∉ specials) (closers : List Char) :
    readCode closers c = some ⟨.code, closers⟩ := by
  unfold readCode
  split
  case h_10 => rfl
  all_goals exact absurd (by decide) hc

/-- Code in which nothing is opened or closed. -/
theorem steady_code {text : List Char} (h : ∀ c ∈ text, c ∉ specials) : Steady .code text := by
  induction text with
  | nil => exact steady_nil _
  | cons c text ih =>
      rw [List.forall_mem_cons] at h
      intro closers
      show (readCode closers c).bind _ = _
      rw [readCode_of_not_special h.1]
      exact ih h.2 closers

/-- A text that stands for a value. Right behind an opening parenthesis or
elsewhere in code, it is read without any effect on the brackets. -/
def IsTerm (text : List Char) : Prop :=
  ∀ mode ∈ [Mode.code, .opened], ∀ closers, run ⟨mode, closers⟩ text = some ⟨.code, closers⟩

/-- A term is steady in code. -/
theorem IsTerm.steady {text : List Char} (h : IsTerm text) : Steady .code text :=
  h .code (by decide)

/-- A term begins with a character that means the same in both places. -/
theorem isTerm_cons {c : Char} (hc : c ≠ '/') {text : List Char}
    (h : Steady .code (c :: text)) : IsTerm (c :: text) := by
  intro mode hmode closers
  have hstep : step ⟨mode, closers⟩ c = step ⟨.code, closers⟩ c := by
    simp only [List.mem_cons, List.not_mem_nil, or_false] at hmode
    rcases hmode with rfl | rfl
    · rfl
    · simp only [step, if_neg hc]
  rw [run, hstep]
  exact h closers

/-- A word or a number. -/
theorem isTerm_of_not_special {text : List Char} (hne : text ≠ [])
    (h : ∀ c ∈ text, c ∉ specials) : IsTerm text := by
  cases text with
  | nil => contradiction
  | cons c text =>
      refine isTerm_cons ?_ (steady_code h)
      rintro rfl
      exact h '/' List.mem_cons_self (by decide)

/-- A literal in single quotes. -/
theorem isTerm_quoted (text : String) : IsTerm (Literal.quoted text).toList := by
  have hlist : (Literal.quoted text).toList
      = '\'' :: ((Literal.escapeString '\'' text).toList ++ ['\'']) := by
    simp [Literal.quoted]
  rw [hlist]
  refine isTerm_cons (by decide) ?_
  intro closers
  show run ⟨.literal '\'', closers⟩ _ = _
  rw [run_append_of (steady_escapeString (by decide) text closers)]
  rfl

end ScenarioSteps.Lexer
