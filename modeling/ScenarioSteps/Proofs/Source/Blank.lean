import Mathlib.Data.List.Forall2
import ScenarioSteps.Proofs.Source.Fragment

/-!
# `ScenarioSteps.Proofs.Source.Blank`: source without the contents of its literals

`blankLiterals` empties every literal in single quotes. Its reader knows literals and
backslashes in them and nothing else, so it can be asked what a text of a script may
change in a body: what is left after blanking is the code around the literals.

* `blankFrom_quoted`: a text that is quoted leaves two quotes behind, whatever it is.
* `Code.Alike`: two fragments that differ in quoted texts only, and whose fixed code
  leaves no literal open. It is built piece by piece, on the characters of fixed code.
* `Code.Alike.blankLiterals_eq`: such fragments are the same after blanking.
-/

set_option autoImplicit false

namespace ScenarioSteps

/-- What a reader of literals in single quotes is in the middle of. -/
inductive Quotation where
  | outside
  | literal
  /-- Behind a backslash in a literal. -/
  | escape
deriving Repr, DecidableEq

namespace Quotation

/-- Reads a character. -/
def next (q : Quotation) (c : Char) : Quotation :=
  match q with
  | .outside => if c = '\'' then .literal else .outside
  | .literal => if c = '\\' then .escape else if c = '\'' then .outside else .literal
  | .escape => .literal

/-- Reads a text. -/
def read (q : Quotation) (text : List Char) : Quotation :=
  text.foldl next q

/-- The reader goes on where the first of two texts leaves it. -/
theorem read_append (q : Quotation) (first rest : List Char) :
    q.read (first ++ rest) = (q.read first).read rest :=
  List.foldl_append

end Quotation

/-- Drops what stands between the quotes of literals. A quote stays, as the reader is
outside before it or behind it. -/
def blankFrom (q : Quotation) : List Char → List Char
  | [] => []
  | c :: text =>
    if q = .outside ∨ q.next c = .outside then c :: blankFrom (q.next c) text
    else blankFrom (q.next c) text

/-- Source with the contents of its literals in single quotes blanked. -/
def blankLiterals (source : String) : String :=
  String.ofList (blankFrom .outside source.toList)

/-- Blanking goes on with the second of two texts where the first leaves the reader. -/
theorem blankFrom_append (q : Quotation) (first rest : List Char) :
    blankFrom q (first ++ rest) = blankFrom q first ++ blankFrom (q.read first) rest := by
  induction first generalizing q with
  | nil => rfl
  | cons c first ih =>
      rw [List.cons_append, blankFrom, blankFrom, ih]
      split
      · rfl
      · rfl

/-- Text without a quote leaves no literal open, and stays as it is. -/
theorem blankFrom_of_not_quote {text : List Char} (h : ∀ c ∈ text, c ≠ '\'') :
    Quotation.read .outside text = .outside ∧ blankFrom .outside text = text := by
  induction text with
  | nil => exact ⟨rfl, rfl⟩
  | cons c text ih =>
      rw [List.forall_mem_cons] at h
      have hnext : Quotation.next .outside c = .outside := if_neg h.1
      obtain ⟨hread, hblank⟩ := ih h.2
      rw [blankFrom, if_pos (.inl rfl), hnext, hblank]
      exact ⟨by rwa [Quotation.read, List.foldl_cons, hnext], rfl⟩

/-! ### Quoted texts -/

/-- An escaped character is read within the literal, and nothing of it is left. -/
theorem blankFrom_stringChar (c : Char) :
    Quotation.read .literal (Literal.stringChar '\'' c) = .literal
      ∧ blankFrom .literal (Literal.stringChar '\'' c) = [] := by
  unfold Literal.stringChar
  split
  -- Only here the character may stand for itself: six others have a fixed escape.
  case h_7 hescape _ _ _ _ _ =>
    split
    · next hquote =>
        obtain rfl := eq_of_beq hquote
        decide
    · next hquote =>
        have hnext : Quotation.next .literal c = .literal := by
          rw [Quotation.next, if_neg hescape, if_neg (by simpa using hquote)]
        refine ⟨hnext, ?_⟩
        rw [blankFrom, hnext]
        rfl
  all_goals decide

/-- So is a whole text. -/
theorem blankFrom_escapeString (cs : List Char) :
    Quotation.read .literal (cs.flatMap (Literal.stringChar '\'')) = .literal
      ∧ blankFrom .literal (cs.flatMap (Literal.stringChar '\'')) = [] := by
  induction cs with
  | nil => exact ⟨rfl, rfl⟩
  | cons c cs ih =>
      obtain ⟨hread, hblank⟩ := blankFrom_stringChar c
      rw [List.flatMap_cons, Quotation.read_append, blankFrom_append, hread, hblank]
      exact ih

/-- Of a quoted text the quotes are left. -/
theorem blankFrom_quoted (text : String) :
    Quotation.read .outside (Literal.quoted text).toList = .outside
      ∧ blankFrom .outside (Literal.quoted text).toList = ['\'', '\''] := by
  obtain ⟨hread, hblank⟩ := blankFrom_escapeString text.toList
  have htext : (Literal.quoted text).toList
      = '\'' :: (text.toList.flatMap (Literal.stringChar '\'') ++ ['\'']) := by
    simp [Literal.quoted, Literal.escapeString, Literal.escapeWith]
  rw [htext]
  constructor
  · show Quotation.read .literal _ = _
    rw [Quotation.read_append, hread]
    rfl
  · show '\'' :: blankFrom .literal _ = _
    rw [blankFrom_append, hread, hblank]
    rfl

/-! ### Fragments that differ in quoted texts -/

/-- Two pieces that differ in a quoted text at most. In fixed code, which is given by its
characters, every literal is closed. -/
inductive CodePiece.Alike : CodePiece → CodePiece → Prop
  | fixed {text : List Char} (htext : Quotation.read .outside text = .outside) :
      Alike (.fixed (String.ofList text)) (.fixed (String.ofList text))
  | quoted {text text' : String} : Alike (.quoted text) (.quoted text')

namespace CodePiece

/-- Fixed code that is not known by its characters. -/
theorem alike_fixed {code : String} (h : Quotation.read .outside code.toList = .outside) :
    Alike (.fixed code) (.fixed code) := by
  have hchars := Alike.fixed h
  rwa [String.ofList_toList] at hchars

/-- No literal is open behind the first of two such pieces. -/
theorem Alike.read_render {piece piece' : CodePiece} (h : piece.Alike piece') :
    Quotation.read .outside piece.render.toList = .outside := by
  cases h with
  | fixed htext =>
      rw [render, String.toList_ofList]
      exact htext
  | quoted => exact (blankFrom_quoted _).1

/-- The two pieces are the same after blanking. -/
theorem Alike.blankFrom_eq {piece piece' : CodePiece} (h : piece.Alike piece') :
    blankFrom .outside piece.render.toList = blankFrom .outside piece'.render.toList := by
  cases h with
  | fixed _ => rfl
  | quoted => exact (blankFrom_quoted _).2.trans (blankFrom_quoted _).2.symm

/-- A literal is open behind neither of them. -/
theorem Alike.symm {piece piece' : CodePiece} (h : piece.Alike piece') : piece'.Alike piece := by
  cases h with
  | fixed htext => exact .fixed htext
  | quoted => exact .quoted

end CodePiece

namespace Code

/-- Two fragments that differ in quoted texts only. Their fixed code leaves no literal
open, so each quoted text stands in a literal of its own. -/
structure Alike (a b : Code) : Prop where
  pieces : List.Forall₂ CodePiece.Alike a.pieces b.pieces

/-- The first of two such fragments leaves the reader outside. -/
theorem Alike.read_render {a b : Code} (h : a.Alike b) :
    Quotation.read .outside a.render.toList = .outside := by
  obtain ⟨hpieces⟩ := h
  rw [toList_render]
  generalize a.pieces = pieces, b.pieces = pieces' at hpieces
  induction hpieces with
  | nil => rfl
  | cons hpiece _ ih =>
      rw [List.flatMap_cons, Quotation.read_append, hpiece.read_render]
      exact ih

/-- The fragments are the same after blanking. -/
theorem Alike.blankLiterals_eq {a b : Code} (h : a.Alike b) :
    blankLiterals a.render = blankLiterals b.render := by
  obtain ⟨hpieces⟩ := h
  rw [blankLiterals, blankLiterals, toList_render, toList_render]
  refine congrArg String.ofList ?_
  generalize a.pieces = pieces, b.pieces = pieces' at hpieces
  induction hpieces with
  | nil => rfl
  | cons hpiece _ ih =>
      rw [List.flatMap_cons, List.flatMap_cons, blankFrom_append, blankFrom_append,
        hpiece.read_render, hpiece.symm.read_render, hpiece.blankFrom_eq, ih]

/-- What stands behind fragments that differ in quoted texts only may differ likewise. -/
theorem Alike.append {a b a' b' : Code} (h : a.Alike b) (h' : a'.Alike b') :
    (a ++ a').Alike (b ++ b') where
  pieces := List.rel_append h.pieces h'.pieces

/-- As many fragments on one side as on the other, each made from a text. -/
theorem alike_join {f : String → Code} (hf : ∀ a b, (f a).Alike (f b)) :
    ∀ {as bs : List String}, as.length = bs.length →
      (join "" (as.map f)).Alike (join "" (bs.map f)) := by
  have hnone : Code.Alike ⟨[]⟩ ⟨[]⟩ := ⟨.nil⟩
  have hseparator : Code.Alike (fixed "") (fixed "") := by repeat' constructor
  intro as
  induction as with
  | nil =>
      intro bs hlength
      rw [List.eq_nil_of_length_eq_zero hlength.symm]
      exact hnone
  | cons a as ih =>
      intro bs hlength
      cases bs with
      | nil => cases hlength
      | cons b bs =>
          have hrest := ih (Nat.succ.inj hlength)
          -- Only a fragment that is not the last one has a separator behind it.
          cases as with
          | nil =>
              rw [List.eq_nil_of_length_eq_zero (Nat.succ.inj hlength).symm]
              exact hf a b
          | cons a' as =>
              cases bs with
              | nil => cases hlength
              | cons b' bs => exact ((hf a b).append hseparator).append hrest

/-- Text without a quote between two fragments is left by blanking, if the first one closes
its literals. -/
theorem blankLiterals_around {front back : Code} (hfront : front.Alike front) {text : String}
    (htext : ∀ c ∈ text.toList, c ≠ '\'') :
    blankLiterals (front ++ fixed text ++ back).render
      = blankLiterals front.render ++ text ++ blankLiterals back.render := by
  obtain ⟨hread, hblank⟩ := blankFrom_of_not_quote htext
  refine String.toList_inj.mp ?_
  simp only [blankLiterals, String.toList_append, String.toList_ofList, render_append, render_fixed,
    blankFrom_append, Quotation.read_append, hfront.read_render, hread, hblank]

end Code

end ScenarioSteps
