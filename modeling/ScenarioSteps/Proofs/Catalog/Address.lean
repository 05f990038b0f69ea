import ScenarioSteps.Proofs.Catalog.PagePath
import ScenarioSteps.Proofs.Catalog.Words
import ScenarioSteps.Proofs.Text.Lowercase

/-!
# `ScenarioSteps.Proofs.Catalog.Address`: paths and addresses stay as they are written

A sentence that opens a literal path or address goes to a pattern of its own, so that it is
not taken for the name of a page. The pattern reads the beginning `http://` or `https://` in
any case. But the generator asks a second time whether its text is a path or an address
(`pagePath`), and there it knows the beginnings in small letters only.

So an address stays as it is exactly if it begins as `addressStarts` are written. Any other
one is long enough not to be the page `home` (`length_le_slug`), and its words are put
together to the path of a page (`Registry.address_kept_iff`).
-/

set_option autoImplicit false

namespace ScenarioSteps

/-! ### Slugs -/

/-- Each character has a small form. -/
theorem Text.length_le_lowerFrom (before cs : List Char) :
    cs.length ≤ (lowerFrom before cs).length := by
  induction cs generalizing before with
  | nil => exact Nat.zero_le _
  | cons c rest ih =>
      have hpos := List.length_pos_iff.mpr (lowerChar_ne_nil before c rest)
      have hrest := ih (c :: before)
      rw [lowerFrom, List.length_append, List.length_cons]
      omega

/-- The first of some parts is not longer than all of them with their separators. -/
theorem length_le_intercalate {α : Type} (separator first : List α) (rest : List (List α)) :
    first.length ≤ (separator.intercalate (first :: rest)).length := by
  cases rest with
  | nil => rw [List.intercalate_singleton]
  | cons second rest =>
      rw [List.intercalate_cons_cons, List.length_append, List.length_append]
      omega

/-- A slug is at least as long as what the name begins with before its first blank. -/
theorem length_le_slug {name : String} {front rest : List Char}
    (hname : name.toList = front ++ rest) (hfront : ∀ c ∈ front, Text.isBlank c = false)
    (hne : front ≠ []) : front.length ≤ (slug name).toList.length := by
  obtain ⟨part, hpart⟩ := Text.splitBy_append_of_forall Text.isBlank front rest hfront
  obtain ⟨others, hwords⟩ : ∃ others, Text.words name.toList = (front ++ part) :: others := by
    rw [Text.words, hname, hpart, List.filter_cons_of_pos (by simp [hne])]
    exact ⟨_, rfl⟩
  have hlower := Text.length_le_lowerFrom [] (front ++ part)
  rw [List.length_append] at hlower
  rw [slug, hwords, String.toList_intercalate, List.map_cons, List.map_cons]
  refine Nat.le_trans ?_ (length_le_intercalate _ _ _)
  rw [Text.lower, String.toList_ofList, String.toList_ofList]
  omega

/-! ### Paths of pages -/

/-- A name that begins as a path or an address is written stays as it is, trimmed. -/
theorem pagePath_of_start {name start : String} (hstart : start ∈ addressStarts)
    (h : start.toList <+: (Text.trimmed name).toList) : pagePath name = Text.trimmed name :=
  pagePath_of_address ⟨start, hstart, h⟩

/-- A name that is longer than `home` is a path of its words. -/
theorem pagePath_of_no_start {name : String}
    (h : ∀ start ∈ addressStarts, ¬ start.toList <+: (Text.trimmed name).toList)
    (hlength : 4 < (slug (Text.trimmed name)).toList.length) :
    pagePath name = "/" ++ slug (Text.trimmed name) := by
  rw [slug_trimmed] at hlength ⊢
  have hhome : slug name ≠ "home" := fun heq => absurd hlength (by rw [heq]; decide)
  rw [pagePath_of_words fun ⟨start, hstart, hprefix⟩ => h start hstart hprefix, if_neg hhome]

/-! ### How addresses begin -/

/-- The beginning of a path or an address, in any case, has no blank. It is a slash, or it is
longer than `home`. -/
theorem of_spells_start {start : String} (hstart : start ∈ addressStarts) {front : List Char}
    (h : Text.Spells (caseless start) front) :
    front ≠ [] ∧ (∀ c ∈ front, Text.isBlank c = false)
      ∧ (front = start.toList ∨ 4 < front.length) := by
  have hlength := List.Forall₂.length_eq h
  -- The sets of characters are checked, and with them all spellings at once.
  have hchecked : ∀ start ∈ addressStarts,
      (caseless start).length ≠ 0
        ∧ (caseless start).all (fun chars => chars.members.all (!Text.isBlank ·)) = true
        ∧ ((caseless start).all (fun chars => chars.members.all (· == '/')) = true
            ∧ start.toList = ['/'] ∧ (caseless start).length = 1
          ∨ 4 < (caseless start).length) := by
    decide
  obtain ⟨hne, hblank, hlong⟩ := hchecked start hstart
  refine ⟨?_, ?_, hlong.imp ?_ (hlength ▸ ·)⟩
  · rintro rfl
    exact hne hlength
  · intro c hc
    simpa using Text.forall_of_spells hblank h c hc
  · rintro ⟨hslash, htext, hone⟩
    obtain ⟨c, rfl⟩ := List.length_eq_one_iff.mp (hlength.symm.trans hone)
    have hc := Text.forall_of_spells hslash h c List.mem_cons_self
    rw [htext, beq_iff_eq.mp hc]

/-- A text that begins as a path or an address in any case keeps its beginning when it is
trimmed. It begins as one is written, or its slug is longer than `home`. -/
theorem of_begins_start {name : String}
    (h : ∃ start ∈ addressStarts, Text.Begins (caseless start) name.toList) :
    (∀ start ∈ addressStarts,
        start.toList <+: (Text.trimmed name).toList ↔ start.toList <+: name.toList)
      ∧ ((∃ start ∈ addressStarts, start.toList <+: name.toList)
        ∨ 4 < (slug (Text.trimmed name)).toList.length) := by
  obtain ⟨start, hstart, hbegins⟩ := h
  obtain ⟨front, rest, hname, hspells⟩ := Text.exists_spells_of_begins hbegins
  obtain ⟨hne, hblank, hlong⟩ := of_spells_start hstart hspells
  have hkept (mark : List Char) (hmark : ∀ c ∈ mark, Text.isBlank c = false) :
      mark <+: (Text.trimmed name).toList ↔ mark <+: name.toList := by
    rw [Text.trimmed, String.toList_ofList, Text.prefix_trim_iff hmark, hname]
    -- The text has no blank in front, so nothing is dropped there.
    obtain ⟨c, front, rfl⟩ := List.exists_cons_of_ne_nil hne
    rw [Text.trimStart, List.cons_append, List.dropWhile_cons_of_neg]
    rw [hblank c List.mem_cons_self]
    exact Bool.false_ne_true
  have hstarts : ∀ start ∈ addressStarts, start.toList.all (!Text.isBlank ·) = true := by
    decide
  refine ⟨fun start hstart => hkept _ (by simpa using hstarts start hstart), hlong.imp ?_ ?_⟩
  · rintro rfl
    exact ⟨start, hstart, rest, hname.symm⟩
  · intro hlong
    obtain ⟨rest', htrimmed⟩ := (hkept front hblank).mpr ⟨rest, hname.symm⟩
    exact Nat.lt_of_lt_of_le hlong (length_le_slug htrimmed.symm hblank hne)

/-! ### The pattern and its code -/

namespace Navigation

/-- The code in front of an address and behind it. -/
structure AddressFrame where
  front : String
  back : String

/-- What stands around the address in the code that opens it. -/
def visitFrame : ExecutionTarget → AddressFrame
  | .playwright => ⟨"await page.goto(", ");"⟩
  | .componentMount => ⟨"await router.push(", ");\nawait router.isReady();"⟩

/-- The code that opens an address. -/
def visitCode (target : ExecutionTarget) (address : String) : String :=
  (visitFrame target).front ++ Literal.quoted address ++ (visitFrame target).back

/-- The code shows which address it opens. -/
theorem visitCode_inj {target : ExecutionTarget} {a b : String} :
    visitCode target a = visitCode target b ↔ a = b := by
  refine ⟨fun h => Literal.quoted_injective ?_, congrArg _⟩
  exact (String.append_right_inj _).mp ((String.append_left_inj _).mp h)

/-- The generator opens the path of the page whose name it has captured. -/
theorem yields_visit {values : List (Option String)} {name : String}
    (h : values[0]? = some (some name)) (target : ExecutionTarget) :
    Yields values (fun code => code.render = visitCode target (pagePath name)) (visit target) := by
  refine (yields_captured h).bind ?_
  rintro name rfl
  cases target <;> refine yields_pure ?_
  all_goals
    simp [Code.render, CodePiece.render, String.join, String.append_assoc, visitCode, visitFrame]

/-- What is known of the expression for paths and addresses. How the text of its group can
begin is read off it. -/
structure ReadsAddress (regex : Regex) : Prop where
  listed : InCatalog "navigation/visit-url" regex visit
  count : regex.groupCount = 1
  passes : regex.alwaysPasses 1 = true
  openings : ∃ body, regex.groupBody? 1 = some body
    ∧ body.openings [[]] ⊆ addressStarts.map caseless

/-- The pattern for paths and addresses has such an expression. -/
theorem exists_readsAddress : ∃ regex, ReadsAddress regex := by
  refine ⟨_, .of_find? rfl rfl, ?_, ?_, _, rfl, ?_⟩
  all_goals decide

/-- What the pattern captures begins as a path or an address, in any case. -/
theorem ReadsAddress.begins_of_captures? {regex : Regex} (hregex : ReadsAddress regex)
    (hloops : regex.loopsConsume = true) {sentence : String} {values : List (Option String)}
    (h : regex.captures? sentence = some values) :
    ∃ name, values = [some name]
      ∧ ∃ start ∈ addressStarts, Text.Begins (caseless start) name.toList := by
  obtain ⟨body, hbody, hwords⟩ := hregex.openings
  obtain ⟨name, hname⟩ :=
    Regex.exists_captured hloops h (hregex.count ▸ Nat.zero_lt_one) hregex.passes
  have hvalues : values = [some name] := by
    have hlength := (Regex.length_of_captures? h).trans hregex.count
    obtain ⟨value, rfl⟩ := List.length_eq_one_iff.mp hlength
    rw [List.getElem?_cons_zero, Option.some_inj] at hname
    rw [hname]
  obtain ⟨word, hword, hbegins⟩ :=
    Regex.exists_opening_of_captures? hloops hbody h name (by rw [hname]; rfl)
  obtain ⟨start, hstart, rfl⟩ := List.mem_map.mp (hwords hword)
  exact ⟨name, hvalues, start, hstart, hbegins⟩

end Navigation

namespace Registry

variable {r : Registry} {sentence : String} {m : Match}

/-- A sentence that opens a literal path or address captures a text that begins as one in
any case. The address in the code is this text, trimmed, exactly if it begins as one is
written, and otherwise it is the path of a page whose name the text is taken for. -/
theorem address_kept_iff (hr : standard = .ok r) (hm : r.resolve? sentence = some m)
    (hkey : m.key = "navigation/visit-url") (options : Options) :
    ∃ name body, m.captures = [some name]
      ∧ (∃ start ∈ addressStarts, Text.Begins (caseless start) name.toList)
      ∧ (m.generate options).1 = .body body
      ∧ (body = Navigation.visitCode options.execution (Text.trimmed name)
        ↔ ∃ start ∈ addressStarts, start.toList <+: name.toList)
      ∧ ((¬ ∃ start ∈ addressStarts, start.toList <+: name.toList) →
        body = Navigation.visitCode options.execution ("/" ++ slug (Text.trimmed name))) := by
  obtain ⟨regex, hregex⟩ := Navigation.exists_readsAddress
  obtain ⟨hloops, hcaptures, hgenerate⟩ := run_of_resolve? hr hm hregex.listed hkey
  obtain ⟨name, hvalues, hbegins⟩ := hregex.begins_of_captures? hloops hcaptures
  obtain ⟨hkept, hlong⟩ := of_begins_start hbegins
  have hbody : (m.generate options).1
      = .body (Navigation.visitCode options.execution (pagePath name)) := by
    rw [hgenerate]
    have hvalue : m.captures[0]? = some (some name) := by rw [hvalues]; rfl
    exact congrArg Outcome.body (Navigation.yields_visit hvalue _ { values := m.captures } rfl).1
  have hpage (hnone : ¬ ∃ start ∈ addressStarts, start.toList <+: name.toList) :
      pagePath name = "/" ++ slug (Text.trimmed name) :=
    pagePath_of_no_start
      (fun start hstart h => hnone ⟨start, hstart, (hkept start hstart).mp h⟩)
      (hlong.resolve_left hnone)
  refine ⟨name, _, hvalues, hbegins, hbody, ?_, fun hnone => by rw [hpage hnone]⟩
  rw [Navigation.visitCode_inj]
  constructor
  · intro heq
    by_contra hnone
    -- The path of a page begins with a slash, and then so does the text.
    refine hnone ⟨"/", by decide, (hkept "/" (by decide)).mp ?_⟩
    rw [← heq, hpage hnone, String.toList_append]
    exact List.prefix_append _ _
  · rintro ⟨start, hstart, hprefix⟩
    exact pagePath_of_start hstart ((hkept start hstart).mpr hprefix)

/-- An address that is kept, up to the blank behind it. -/
theorem visit_address_with_blank :
    ∃ r m, standard = .ok r ∧ r.resolve? "I visit \"https://a.b/C d \"" = some m
      ∧ m.key = "navigation/visit-url"
      ∧ ∃ name body, m.captures = [some name]
        ∧ (∃ start ∈ addressStarts, Text.Begins (caseless start) name.toList)
        ∧ (m.generate {}).1 = .body body
        ∧ (body = Navigation.visitCode .playwright (Text.trimmed name)
          ↔ ∃ start ∈ addressStarts, start.toList <+: name.toList)
        ∧ ((¬ ∃ start ∈ addressStarts, start.toList <+: name.toList) →
          body = Navigation.visitCode .playwright ("/" ++ slug (Text.trimmed name))) := by
  obtain ⟨r, m, hr, hm, hkey, -⟩ := exists_resolve?_standard
    "I visit \"https://a.b/C d \"" "navigation/visit-url" [some "https://a.b/C d "]
    (by decide +kernel)
  exact ⟨r, m, hr, hm, hkey, address_kept_iff hr hm hkey {}⟩

/-- An address in capital letters is taken for the name of a page. -/
theorem capital_address_is_page :
    ∃ r m, standard = .ok r ∧ r.resolve? "I visit \"HTTP://A.B/C\"" = some m
      ∧ m.key = "navigation/visit-url" ∧ m.captures = [some "HTTP://A.B/C"]
      ∧ (m.generate {}).1 = .body "await page.goto('/http://a.b/c');"
      ∧ "await page.goto('/http://a.b/c');"
        ≠ Navigation.visitCode .playwright (Text.trimmed "HTTP://A.B/C") := by
  obtain ⟨r, m, hr, hm, hkey, hvalues⟩ := exists_resolve?_standard
    "I visit \"HTTP://A.B/C\"" "navigation/visit-url" [some "HTTP://A.B/C"] (by decide +kernel)
  obtain ⟨regex, hregex⟩ := Navigation.exists_readsAddress
  obtain ⟨-, -, hgenerate⟩ := run_of_resolve? hr hm hregex.listed hkey
  refine ⟨r, m, hr, hm, hkey, hvalues, ?_, by decide⟩
  rw [hgenerate, hvalues]
  exact congrArg Outcome.body (by decide)

end Registry

end ScenarioSteps
