import Mathlib.Data.List.Infix
import ScenarioSteps.Command.Files

/-!
# `ScenarioSteps.Proofs.Command.Files`: what a write changes

A write puts content at the place that its path leads to (`exists_of_write`). Afterwards
the path reads as what was written (`read_of_write`), and at all other places there is
what was there before (`find?_of_write`).

For a path to lead to the same place afterwards, a write must make no directory. It does
not, because a path only leads to places in directories that exist
(`directories_of_follow`). What carries the proof is that the directories of a tree are
closed under going up, at every step of following a path.
-/

set_option autoImplicit false

namespace ScenarioSteps.Files

/-! ### Directories -/

/-- A directory is the root, or one of those above the working directory, or has
something below it. -/
theorem isDirectory_iff (files : Files) (path : List String) :
    files.isDirectory path = true
      ↔ (path = ["/"] ∨ ∀ name ∈ path, name = up)
        ∨ ∃ other ∈ files.contents.map Prod.fst, path <+: other ∧ path ≠ other := by
  simp [isDirectory]

section

variable {files : Files} {directory above place : List String}

/-- What is above a directory is a directory. -/
theorem isDirectory_of_prefix (h : files.isDirectory directory = true)
    (habove : above <+: directory) : files.isDirectory above = true := by
  rw [isDirectory_iff] at h ⊢
  rcases h with (rfl | hup) | ⟨other, hother, hbelow, hne⟩
  · -- Above the root there is only the path without names.
    rcases List.prefix_concat_iff.mp (show above <+: [] ++ ["/"] from habove) with heq | hnil
    · exact .inl (.inl heq)
    · rw [List.prefix_nil.mp hnil]
      exact .inl (.inr (List.forall_mem_nil _))
  · exact .inl (.inr fun name hname => hup name (habove.subset hname))
  · refine .inr ⟨other, hother, habove.trans hbelow, ?_⟩
    rintro rfl
    exact hne (hbelow.eq_of_length_le habove.length_le)

/-- Whatever contains a directory is one. -/
theorem isDirectory_parent (h : files.isDirectory directory = true) :
    files.isDirectory (parent directory) = true := by
  unfold parent
  split
  · exact h
  · split
    · next hup =>
        refine (isDirectory_iff files _).mpr (.inl (.inr fun name hname => ?_))
        rcases List.mem_append.mp hname with hname | hname
        · exact eq_of_beq (List.all_eq_true.mp hup name hname)
        · exact List.mem_singleton.mp hname
    · exact isDirectory_of_prefix h (List.dropLast_prefix directory)

/-- A place that a path leads to lies in directories that exist. -/
theorem directories_of_follow {names : List String}
    (hdirectory : files.isDirectory directory = true)
    (h : files.follow directory names = .ok place) :
    ∀ above, above <+: place → above ≠ place → files.isDirectory above = true := by
  induction names generalizing directory with
  | nil =>
      cases h
      exact fun above habove _ => isDirectory_of_prefix hdirectory habove
  | cons name rest ih =>
      simp only [follow] at h
      -- A name stays, goes up, ends the path or leads further down. The other branches fail.
      split_ifs at h with hstay hup hlength hlast hnext
      · exact ih hdirectory h
      · exact ih (isDirectory_parent hdirectory) h
      · -- Here the path ends, one name below a directory.
        cases h
        intro above habove hne
        rcases List.prefix_concat_iff.mp habove with heq | habove
        · exact absurd heq hne
        · exact isDirectory_of_prefix hdirectory habove
      · exact ih hnext h

/-- Which place a path leads to depends on the directories only. -/
theorem follow_of_directories {files' : Files} {names : List String}
    (hsame : ∀ path, files'.isDirectory path = files.isDirectory path)
    (h : files.follow directory names = .ok place) :
    files'.follow directory names = .ok place := by
  induction names generalizing directory with
  | nil => exact h
  | cons name rest ih =>
      simp only [follow, hsame] at h ⊢
      split_ifs at h ⊢ with hstay hup hlength hlast hnext
      · exact ih h
      · exact ih h
      · exact h
      · exact ih h

end

/-! ### Putting content at a place -/

/-- Content is found where it was put, and elsewhere what was there before. -/
theorem find?_put (files : Files) (place path : List String) (content : Option String) :
    (files.put place content).find? path
      = if path = place then some content else files.find? path := by
  -- Taking out one place leaves what is found at others.
  have hothers : ∀ contents : List (List String × Option String),
      (contents.filter (·.1 != place)).lookup path
        = if path = place then none else contents.lookup path := by
    intro contents
    split
    · next heq =>
        subst heq
        rw [List.lookup_eq_none_iff]
        intro entry hentry
        have hother : entry.1 ≠ path := by simpa using (List.mem_filter.mp hentry).2
        exact bne_iff_ne.mpr hother.symm
    · next hne =>
        induction contents with
        | nil => rfl
        | cons entry contents ih =>
            by_cases hentry : entry.1 = place
            · have hpath : (path == entry.1) = false := by simpa [hentry] using hne
              rw [List.filter_cons_of_neg (by simpa using hentry), ih, List.lookup_cons, hpath]
            · rw [List.filter_cons_of_pos (by simpa using hentry), List.lookup_cons,
                List.lookup_cons, ih]
  rw [find?, put, List.lookup_append, hothers]
  split
  · next heq => simp [heq]
  · next hne =>
      have hlast : List.lookup path [(place, content)] = none := by
        simpa [List.lookup_eq_none_iff] using hne
      rw [hlast, Option.or_none]
      rfl

/-- In directories that exist, content at a place makes no directory. -/
theorem isDirectory_put {files : Files} {place : List String} (content : Option String)
    (habove : ∀ above, above <+: place → above ≠ place → files.isDirectory above = true)
    (path : List String) :
    (files.put place content).isDirectory path = files.isDirectory path := by
  rw [Bool.eq_iff_iff]
  by_cases hfixed : path = ["/"] ∨ ∀ name ∈ path, name = up
  · simp only [isDirectory_iff, hfixed, true_or]
  constructor
  · intro h
    rw [isDirectory_iff] at h
    rcases h with h | ⟨other, hother, hbelow, hne⟩
    · exact absurd h hfixed
    · by_cases hplace : other = place
      · subst hplace
        exact habove path hbelow hne
      · refine (isDirectory_iff files path).mpr (.inr ⟨other, ?_, hbelow, hne⟩)
        simpa [put, hplace] using hother
  · intro h
    rw [isDirectory_iff] at h
    rcases h with h | ⟨other, hother, hbelow, hne⟩
    · exact absurd h hfixed
    · refine (isDirectory_iff _ path).mpr (.inr ⟨other, ?_, hbelow, hne⟩)
      -- What was at the place itself is there again.
      by_cases hplace : other = place
      · subst hplace
        simp [put]
      · simpa [put, hplace] using hother

/-- A short path is followed from the working directory if no slash begins it. -/
theorem locate_of_relative (files : Files) {path : String} (hzero : path.contains '\x00' = false)
    (hsize : path.utf8ByteSize ≤ 4095) (hempty : path.isEmpty = false)
    (hroot : path.startsWith "/" = false) :
    files.locate path = files.follow [] (names path) := by
  rw [locate, hzero, hempty, hroot, if_neg Bool.false_ne_true, if_neg (Nat.not_lt.mpr hsize),
    if_neg Bool.false_ne_true, if_neg Bool.false_ne_true]

/-! ### Writing -/

/-- The directories on the way of a path exist. -/
theorem directories_of_locate {files : Files} {path : String} {place : List String}
    (h : files.locate path = .ok place) :
    ∀ above, above <+: place → above ≠ place → files.isDirectory above = true := by
  have hstart : files.isDirectory (if path.startsWith "/" then ["/"] else []) = true := by
    split <;> simp [isDirectory]
  unfold locate at h
  split_ifs at h hstart
  · exact directories_of_follow hstart h
  · exact directories_of_follow hstart h

/-- A path leads to the same place after content was put there. -/
theorem locate_put {files : Files} {path : String} {place : List String}
    (h : files.locate path = .ok place) (content : Option String) :
    (files.put place content).locate path = .ok place := by
  have hsame := isDirectory_put content (directories_of_locate h)
  unfold locate at h ⊢
  split_ifs at h ⊢
  · exact follow_of_directories hsame h
  · exact follow_of_directories hsame h

/-- A write puts its text at the place of the path, and would put any other text there. -/
theorem exists_of_write {files files' : Files} {path text : String}
    (h : files.write path text = .ok files') :
    ∃ place, files.locate path = .ok place ∧ files' = files.put place (some text)
      ∧ ∀ other, files.write path other = .ok (files.put place (some other)) := by
  simp only [write] at h ⊢
  generalize hbare : String.ofList (path.toList.reverse.dropWhile (· == '/')).reverse = bare at h ⊢
  cases hlocate : files.locate (if bare.isEmpty = true then path else bare) with
  | error obstacle =>
      rw [hlocate] at h
      cases h
  | ok place =>
      rw [hlocate] at h
      by_cases hrefused : (decide (bare.length < path.length) || files.isDirectory place) = true
      · simp only [bind, Except.bind, if_pos hrefused] at h
        cases h
      · simp only [bind, Except.bind, if_neg hrefused] at h ⊢
        -- No slash was taken off the end, so what is located is the path itself.
        have hlength : path.length ≤ bare.length := by
          simp only [Bool.or_eq_true, decide_eq_true_eq, not_or] at hrefused
          omega
        have hpath : bare = path := by
          have hsuffix : path.toList.reverse.dropWhile (· == '/') <:+ path.toList.reverse :=
            List.dropWhile_suffix _
          have hall := hsuffix.eq_of_length_le (by
            simpa [← hbare, String.length_toList] using hlength)
          rw [← hbare, hall, List.reverse_reverse, String.ofList_toList]
        rw [hpath, ite_self] at hlocate
        cases h
        exact ⟨place, hlocate, rfl, fun other => rfl⟩

/-- A path to which something can be written. -/
def Writable (files : Files) (path : String) : Prop :=
  ∃ text files', files.write path text = .ok files'

section

variable {files files' : Files} {path text : String}

/-- Whatever can be written to a path, anything else can be written to it too. -/
theorem Writable.exists_write (h : files.Writable path) (text : String) :
    ∃ files', files.write path text = .ok files' := by
  obtain ⟨other, files', hwrite⟩ := h
  obtain ⟨place, -, -, hany⟩ := exists_of_write hwrite
  exact ⟨_, hany text⟩

/-- What was written is read back. -/
theorem read_of_write (h : files.write path text = .ok files') : files'.read path = .ok text := by
  obtain ⟨place, hlocate, rfl, -⟩ := exists_of_write h
  rw [read, locate_put hlocate]
  simp only [bind, Except.bind, find?_put, if_true]
  rfl

/-- At other places there is what was there before. -/
theorem find?_of_write (h : files.write path text = .ok files') {place : List String}
    (hother : files.locate path ≠ .ok place) : files'.find? place = files.find? place := by
  obtain ⟨target, hlocate, rfl, -⟩ := exists_of_write h
  rw [find?_put, if_neg]
  rintro rfl
  exact hother hlocate

end

end ScenarioSteps.Files
