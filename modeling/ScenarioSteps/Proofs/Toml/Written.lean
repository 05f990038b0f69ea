import Mathlib.Algebra.Group.Nat.Defs
import ScenarioSteps.Toml.Read

/-!
# `ScenarioSteps.Proofs.Toml.Written`: a document for every text

Every text can stand under a key of a document: `written` writes each of its characters as
an escape of eight digits, and `read_written` reads that document back. Reading is followed
step by step: a `run` equation says what one step takes off the front of the document.
-/

set_option autoImplicit false

namespace ScenarioSteps.Toml

/-! ### Writing -/

/-- The last `k` hexadecimal digits of a number. -/
def codeDigits : Nat → Nat → List Char
  | 0, _ => []
  | k + 1, n => codeDigits k (n / 16) ++ [Nat.digitChar (n % 16)]

/-- A character as an escape of eight digits. -/
def escaped (c : Char) : List Char :=
  '\\' :: 'U' :: codeDigits 8 c.toNat

/-- A text as a value at the end of a line. -/
def quoted (text : String) : List Char :=
  '"' :: (text.toList.flatMap escaped ++ ['"', '\n'])

/-- A document with a text under a key. -/
def written (key text : String) : String :=
  String.ofList (key.toList ++ '=' :: quoted text)

/-- A code has as many digits as it is written with. -/
theorem length_codeDigits (k n : Nat) : (codeDigits k n).length = k := by
  induction k generalizing n with
  | zero => rfl
  | succ k ih => rw [codeDigits, List.length_append, ih, List.length_singleton]

/-- Digits read as the number that they write. -/
theorem hexNumber?_codeDigits (k n : Nat) :
    Text.hexNumber? (codeDigits k n) = some (n % 16 ^ k) := by
  have hdigit : ∀ d < 16, Text.hexDigit? (Nat.digitChar d) = some d := by decide
  induction k generalizing n with
  | zero => rw [Nat.pow_zero, Nat.mod_one]; rfl
  | succ k ih =>
      -- The last digit stands alone, and the digits before it write the number of sixteens.
      unfold Text.hexNumber? at ih ⊢
      rw [codeDigits, List.foldlM_append, ih]
      show ((Text.hexDigit? (Nat.digitChar (n % 16))).map _ >>= _) = _
      rw [hdigit _ (Nat.mod_lt n (by decide)), Nat.pow_succ', Nat.mod_mul, Nat.add_comm]
      rfl

/-! ### Steps of reading -/

namespace Scan

variable {α β : Type}

/-- Behind a scan that succeeds, the next one goes on. -/
theorem run_bind_of_run {scan : Scan α} {cursor cursor' : Cursor} {a : α}
    (h : scan.run cursor = .ok (a, cursor')) (next : α → Scan β) :
    (scan >>= next).run cursor = (next a).run cursor' := by
  rw [StateT.run_bind, h]
  rfl

/-- What is left of the document can be looked at without reading it. -/
theorem run_rest (cs : List Char) (line : Nat) :
    rest.run ⟨cs, line⟩ = .ok (cs, ⟨cs, line⟩) := rfl

/-- So can the number of the line. -/
theorem run_line (cs : List Char) (line : Nat) :
    Scan.line.run ⟨cs, line⟩ = .ok (line, ⟨cs, line⟩) := rfl

/-- Characters can be skipped if there are so many. -/
theorem run_skip {taken : List Char} {n : Nat} (h : taken.length = n) (after : List Char)
    (line : Nat) : (skip n).run ⟨taken ++ after, line⟩ = .ok ((), ⟨after, line⟩) := by
  show Except.ok ((), (⟨(taken ++ after).drop n, line⟩ : Cursor)) = _
  rw [List.drop_left' h]

/-- So can one character. -/
theorem run_skip_one (c : Char) (cs : List Char) (line : Nat) :
    (skip 1).run ⟨c :: cs, line⟩ = .ok ((), ⟨cs, line⟩) := rfl

/-- A character that stands there is accepted. -/
theorem run_accept (c : Char) (cs : List Char) (line : Nat) :
    (accept c).run ⟨c :: cs, line⟩ = .ok (true, ⟨cs, line⟩) := by
  rw [accept, run_bind_of_run (run_rest _ _), if_pos (by simp)]
  rfl

/-- Another one is not, and stays where it is. -/
theorem run_accept_of_ne {c d : Char} (h : d ≠ c) (cs : List Char) (line : Nat) :
    (accept c).run ⟨d :: cs, line⟩ = .ok (false, ⟨d :: cs, line⟩) := by
  rw [accept, run_bind_of_run (run_rest _ _), if_neg (by simpa using h)]
  rfl

/-- A character that is expected is read. -/
theorem run_expect (c : Char) (cs : List Char) (line : Nat) :
    (expect c).run ⟨c :: cs, line⟩ = .ok ((), ⟨cs, line⟩) := by
  rw [expect, run_bind_of_run (run_accept c cs line)]
  rfl

/-- Characters are taken up to the first that is not of the sort. -/
theorem run_takeWhile {p : Char → Bool} {taken : List Char} (htaken : ∀ c ∈ taken, p c = true)
    {d : Char} (hd : p d = false) (cs : List Char) (line : Nat) :
    (takeWhile p).run ⟨taken ++ d :: cs, line⟩ = .ok (taken, ⟨d :: cs, line⟩) := by
  have hfront : (taken ++ d :: cs).takeWhile p = taken := by
    rw [List.takeWhile_append_of_pos htaken, List.takeWhile_cons_of_neg (by simp [hd]),
      List.append_nil]
  rw [takeWhile, run_bind_of_run (run_rest _ _)]
  simp only [hfront]
  rw [run_bind_of_run (run_skip rfl (d :: cs) line)]
  rfl

/-- Where no gap begins, none is read. -/
theorem run_gap {d : Char} (hd : isGap d = false) (cs : List Char) (line : Nat) :
    gap.run ⟨d :: cs, line⟩ = .ok ((), ⟨d :: cs, line⟩) := by
  have hnone : (takeWhile isGap).run ⟨d :: cs, line⟩ = .ok ([], ⟨d :: cs, line⟩) :=
    run_takeWhile (List.forall_mem_nil _) hd cs line
  rw [gap, run_bind_of_run hnone]
  rfl

/-- An escape of eight digits is read as its character. -/
theorem run_escape (c : Char) (after : List Char) (line : Nat) :
    escape.run ⟨'U' :: (codeDigits 8 c.toNat ++ after), line⟩ = .ok (c, ⟨after, line⟩) := by
  have hlength := length_codeDigits 8 c.toNat
  have htake : (codeDigits 8 c.toNat ++ after).take 8 = codeDigits 8 c.toNat := by
    rw [List.take_left' hlength]
  have hcode : (Text.hexNumber? (codeDigits 8 c.toNat)).bind Text.charOfCode? = some c := by
    have hvalid : c.toNat.isValidChar := c.valid
    have hsmall : c.toNat < 16 ^ 8 := by
      rcases hvalid with h | h <;> omega
    rw [hexNumber?_codeDigits, Nat.mod_eq_of_lt hsmall, Option.bind_some, Text.charOfCode?,
      if_pos hvalid, Char.ofNat_toNat]
  rw [escape, run_bind_of_run (run_rest _ _)]
  show (skip 1 >>= fun _ => codePoint 8).run _ = _
  rw [run_bind_of_run (run_skip_one _ _ line), codePoint, run_bind_of_run (run_rest _ _)]
  simp only [htake, hcode, hlength, beq_self_eq_true, if_true]
  rw [run_bind_of_run (run_skip hlength after line)]
  rfl

/-- Escapes up to the closing quote are read as the characters that they stand for. The
induction is on these characters, and each takes one unit of fuel. -/
theorem run_oneLine (cs after : List Char) (line : Nat) {fuel : Nat} (hfuel : cs.length < fuel) :
    (oneLine '"' fuel).run ⟨cs.flatMap escaped ++ '"' :: after, line⟩
      = .ok (cs, ⟨after, line⟩) := by
  induction cs generalizing fuel with
  | nil =>
      cases fuel with
      | zero => cases hfuel
      | succ fuel =>
          rw [oneLine, run_bind_of_run (run_rest _ _)]
          rfl
  | cons c cs ih =>
      cases fuel with
      | zero => cases hfuel
      | succ fuel =>
          have hrest := ih (Nat.lt_of_succ_lt_succ hfuel)
          rw [List.flatMap_cons, List.append_assoc, oneLine, run_bind_of_run (run_rest _ _)]
          -- The character is escaped, so the branch is the one behind a backslash.
          show (skip 1 >>= fun _ => escape >>= fun c => oneLine '"' fuel >>= fun cs =>
            pure (c :: cs)).run ⟨'\\' :: 'U' :: (codeDigits 8 c.toNat ++ _), line⟩ = _
          rw [run_bind_of_run (run_skip_one _ _ line), run_bind_of_run (run_escape c _ line),
            run_bind_of_run hrest]
          rfl

/-- Quoted escapes at the end of a line are read as a text. -/
theorem run_quotedText (text : String) (line : Nat) :
    (quotedText '"').run ⟨quoted text, line⟩ = .ok (text, ⟨['\n'], line⟩) := by
  have hone : ['"', '"', '"'].isPrefixOf (quoted text) = false := by
    unfold quoted
    cases text.toList with
    | nil => rfl
    | cons c cs => rfl
  -- The fuel is the length of what is left, and every character is written with ten.
  have hfuel : text.toList.length
      < (text.toList.flatMap escaped ++ ['"', '\n']).length + 1 := by
    have hflat : text.toList.length ≤ (text.toList.flatMap escaped).length := by
      induction text.toList with
      | nil => exact Nat.le_refl 0
      | cons c cs ih =>
          rw [List.flatMap_cons, List.length_append, List.length_cons]
          simp only [escaped, List.length_cons]
          omega
    rw [List.length_append]
    omega
  rw [quotedText, run_bind_of_run (run_rest _ _), hone, if_neg Bool.false_ne_true, quotedLine,
    quoted, run_bind_of_run (run_skip_one _ _ line), run_bind_of_run (run_rest _ _),
    run_bind_of_run (run_oneLine text.toList ['\n'] line hfuel), String.ofList_toList]
  rfl

/-- A quoted text is a value. -/
theorem run_value (text : String) (line room : Nat) :
    (value (room + 1)).run ⟨quoted text, line⟩ = .ok (.scalar (.string text), ⟨['\n'], line⟩) := by
  have hscalar : scalar.run ⟨quoted text, line⟩ = .ok (.string text, ⟨['\n'], line⟩) := by
    rw [scalar, run_bind_of_run (run_rest _ _)]
    show (quotedText '"' >>= fun text => pure (Scalar.string text)).run _ = _
    rw [run_bind_of_run (run_quotedText text line)]
    rfl
  have hnone : ∀ c, c ≠ '"' →
      (accept c).run ⟨quoted text, line⟩ = .ok (false, ⟨quoted text, line⟩) :=
    fun c hc => run_accept_of_ne (Ne.symm hc) _ line
  rw [value, run_bind_of_run (hnone '[' (by decide)), if_neg Bool.false_ne_true,
    run_bind_of_run (hnone '{' (by decide)), if_neg Bool.false_ne_true,
    run_bind_of_run hscalar]
  rfl

/-- The end of a line ends a statement. -/
theorem run_statementEnd (line : Nat) :
    statementEnd.run ⟨['\n'], line⟩ = .ok ((), ⟨[], line + 1⟩) := rfl

section

variable {first : Char} {others : List Char} (hfirst : isKeyChar first = true)
  (hothers : ∀ c ∈ others, isKeyChar c = true)
include hfirst

/-- The first character of a key is none of those that cannot stand in one. -/
theorem ne_of_isKeyChar {c : Char} (hc : isKeyChar c = false) : first ≠ c := by
  rintro rfl
  rw [hc] at hfirst
  cases hfirst

/-- So no gap begins there. -/
theorem isGap_of_isKeyChar : isGap first = false := by
  have hspace : first ≠ ' ' := ne_of_isKeyChar hfirst (by decide)
  have htab : first ≠ '\t' := ne_of_isKeyChar hfirst (by decide)
  simp [isGap, hspace, htab]

include hothers

/-- A key without quotes reads as its name. -/
theorem run_key (cs : List Char) (line room : Nat) :
    (key (room + 1)).run ⟨first :: (others ++ '=' :: cs), line⟩
      = .ok (([], ⟨String.ofList (first :: others), line⟩), ⟨'=' :: cs, line⟩) := by
  have hname : ∀ c ∈ first :: others, isKeyChar c = true :=
    List.forall_mem_cons.mpr ⟨hfirst, hothers⟩
  have htake : (takeWhile isKeyChar).run ⟨first :: (others ++ '=' :: cs), line⟩
      = .ok (first :: others, ⟨'=' :: cs, line⟩) :=
    run_takeWhile hname (by decide) cs line
  have hpart : keyPart.run ⟨first :: (others ++ '=' :: cs), line⟩
      = .ok (⟨String.ofList (first :: others), line⟩, ⟨'=' :: cs, line⟩) := by
    rw [keyPart, run_bind_of_run (run_gap (isGap_of_isKeyChar hfirst) _ line),
      run_bind_of_run (run_line _ line), run_bind_of_run (run_rest _ _), List.head?_cons]
    split
    -- A character of a key is no quote, so the key is not a quoted one.
    · next hquote =>
        cases hquote
        cases hfirst
    · next hquote =>
        cases hquote
        cases hfirst
    · show (takeWhile isKeyChar >>= _).run _ = _
      rw [run_bind_of_run htake]
      show (gap >>= fun _ => pure _).run _ = _
      rw [run_bind_of_run (run_gap (by decide) cs line)]
      rfl
  rw [key, run_bind_of_run hpart, run_bind_of_run (run_accept_of_ne (by decide) cs line)]
  rfl

/-- An assignment of a text in a document without any. -/
theorem run_assignment (text : String) :
    (assignment {}).run ⟨first :: (others ++ '=' :: quoted text), 1⟩
      = .ok (⟨[(⟨String.ofList (first :: others), 1⟩, .scalar (.string text))], []⟩, ⟨[], 2⟩) := by
  have hkey : (key (keyLimit - 1)).run ⟨first :: (others ++ '=' :: quoted text), 1⟩ = _ :=
    run_key hfirst hothers (quoted text) 1 _
  have hgap : gap.run ⟨quoted text, 1⟩ = .ok ((), ⟨quoted text, 1⟩) :=
    run_gap (by decide) _ 1
  have hvalue : (value nestingLimit).run ⟨quoted text, 1⟩ = _ := run_value text 1 _
  rw [assignment, run_bind_of_run (run_line _ 1), run_bind_of_run hkey]
  show (expect '=' >>= _).run _ = _
  rw [run_bind_of_run (run_expect '=' _ 1), run_bind_of_run hgap, run_bind_of_run hvalue,
    run_bind_of_run (run_statementEnd 1)]
  rfl

/-- The one statement of a document. -/
theorem run_statements (text : String) (fuel : Nat) :
    (statements (fuel + 2) {}).run ⟨first :: (others ++ '=' :: quoted text), 1⟩
      = .ok (⟨[(⟨String.ofList (first :: others), 1⟩, .scalar (.string text))], []⟩, ⟨[], 2⟩) := by
  rw [statements, run_bind_of_run (run_gap (isGap_of_isKeyChar hfirst) _ 1),
    run_bind_of_run (run_rest _ 1), List.head?_cons]
  split
  · next hnone => cases hnone
  -- Nor is it a bracket, which would begin the header of a table.
  · next hbracket =>
      cases hbracket
      cases hfirst
  · next c _ hc =>
      cases hc
      have hfeed : first ≠ '\n' := ne_of_isKeyChar hfirst (by decide)
      have hreturn : first ≠ '\r' := ne_of_isKeyChar hfirst (by decide)
      have hmark : first ≠ '#' := ne_of_isKeyChar hfirst (by decide)
      rw [if_neg (by simp [hfeed, hreturn, hmark]),
        run_bind_of_run (run_assignment hfirst hothers text)]
      rfl

end

end Scan

/-- A text under a key is read back. -/
theorem read_written {key : String} (hkey : ∀ c ∈ key.toList, isKeyChar c = true)
    (hne : key.toList ≠ []) (text : String) :
    read (written key text) = .ok [(⟨key, 1⟩, .scalar (.string text))] := by
  obtain ⟨first, others, hcs⟩ := List.exists_cons_of_ne_nil hne
  rw [hcs] at hkey
  obtain ⟨hfirst, hothers⟩ := List.forall_mem_cons.mp hkey
  have hname : String.ofList (first :: others) = key := by rw [← hcs, String.ofList_toList]
  have htext : (written key text).toList = first :: (others ++ '=' :: quoted text) := by
    rw [written, String.toList_ofList, hcs, List.cons_append]
  have hrun := Scan.run_statements hfirst hothers text (others ++ '=' :: quoted text).length
  rw [hname] at hrun
  unfold read
  rw [htext]
  split
  -- The byte order mark is no character of a key.
  · next hmark =>
      cases hmark
      cases hfirst
  · simp only [List.length_cons, hrun]
    rfl

end ScenarioSteps.Toml
