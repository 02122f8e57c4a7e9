import FlashBench.Upkeep.LicenseHeader
import Mathlib.Data.List.Infix

/-!
# Where the license is found

`hasHeader` goes over the top lines once and remembers that a block comment was opened. What it
finds is said here without that memory, by the comments of a text: a line that starts with a line
comment, and a block comment from where a line opens it to the first `*/` behind.

* **`licensePhrase_infix_iff`**: the phrase lies in front of a `*/` or behind it, never across.
* **`hasHeader_iff_comments`**: the header is found exactly if the phrase stands in a comment, or
  **behind** a block comment that a line opened. The scan does not see where a block ends.
-/

namespace FlashBench.Upkeep

variable {style : CommentStyle} {lines : List (List Char)} {line body : List Char}

/-! ## The comments of a text -/

/-- What stands in front of the first `*/`, everything if there is none. -/
def upToClose : List Char → List Char
  | [] => []
  | '*' :: '/' :: _ => []
  | c :: rest => c :: upToClose rest

/-- What stands behind the first `*/`, nothing if there is none. -/
def behindClose : List Char → List Char
  | [] => []
  | '*' :: '/' :: rest => rest
  | _ :: rest => behindClose rest

/-- A line opens a block comment, and `body` is all that comes after the opening: the rest of the
line and the lines below. -/
inductive BlockOpened : List (List Char) → List Char → Prop
  | here (opening : List Char) (below : List (List Char)) :
      BlockOpened (('/' :: '*' :: opening) :: below) (['\n'].intercalate (opening :: below))
  | later {lines : List (List Char)} {body : List Char} (line : List Char)
      (h : BlockOpened lines body) : BlockOpened (line :: lines) body

/-- Some line that starts with a line comment names the license. -/
def InLineComment (style : CommentStyle) (lines : List (List Char)) : Prop :=
  ∃ line ∈ lines, style.lineComment.toList <+: line ∧ licensePhrase.toList <:+: line

/-- A block comment that a line opens names the license. -/
def InBlock (style : CommentStyle) (lines : List (List Char)) : Prop :=
  style = .slashes ∧ ∃ body, BlockOpened lines body ∧ licensePhrase.toList <:+: upToClose body

/-- The license is named behind the end of a block comment that a line opens. -/
def BehindBlock (style : CommentStyle) (lines : List (List Char)) : Prop :=
  style = .slashes ∧ ∃ body, BlockOpened lines body ∧ licensePhrase.toList <:+: behindClose body

/-- The lines name the license in comment text. -/
def InComment (style : CommentStyle) (lines : List (List Char)) : Prop :=
  InLineComment style lines ∨ InBlock style lines

/-! ## Occurrences -/

section Infix

variable {α : Type} {needle front back : List α} {c : α}

/-- What does not hold the character lies in front of it if it starts there. -/
theorem prefix_of_prefix_append_cons (front : List α) (hc : c ∉ needle)
    (h : needle <+: front ++ c :: back) : needle <+: front := by
  rcases List.prefix_or_prefix_of_prefix h (List.prefix_append front _) with hfront | ⟨rest, rfl⟩
  · exact hfront
  · rw [List.prefix_append_right_inj] at h
    cases rest with
    | nil => simp
    | cons first rest =>
        obtain ⟨rfl, _⟩ := List.cons_prefix_cons.mp h
        simp at hc

/-- **A character that does not occur separates:** what does not hold it lies in front of it or
behind. -/
theorem infix_append_cons_iff (hc : c ∉ needle) :
    needle <:+: front ++ c :: back ↔ needle <:+: front ∨ needle <:+: back := by
  constructor
  · intro h
    induction front with
    | nil =>
        rcases List.infix_cons_iff.mp h with hfirst | hback
        · exact .inl (prefix_of_prefix_append_cons [] hc hfirst).isInfix
        · exact .inr hback
    | cons first front ih =>
        rcases List.infix_cons_iff.mp h with hfirst | hrest
        · exact .inl (prefix_of_prefix_append_cons (first :: front) hc hfirst).isInfix
        · exact (ih hrest).imp_left List.infix_cons
  · rintro (hfront | hback)
    · exact hfront.trans (List.prefix_append _ _).isInfix
    · exact hback.trans ((List.suffix_cons c back).trans (List.suffix_append front _)).isInfix

theorem infix_cons_iff_of_notMem (hc : c ∉ needle) (hsome : needle ≠ []) :
    needle <:+: c :: back ↔ needle <:+: back := by
  have h : needle <:+: [] ++ c :: back ↔ _ := infix_append_cons_iff hc
  simpa [hsome] using h

end Infix

/-- Either nothing is closed, or the first `*/` stands between two parts of the text. -/
theorem upToClose_behindClose (body : List Char) :
    (upToClose body = body ∧ behindClose body = []) ∨
      body = upToClose body ++ '*' :: '/' :: behindClose body := by
  induction body using upToClose.induct with
  | case1 => exact .inl ⟨rfl, rfl⟩
  | case2 rest => exact .inr rfl
  | case3 c rest hopen ih =>
      have hup : upToClose (c :: rest) = c :: upToClose rest := by
        rw [upToClose]
        exact hopen
      have hbehind : behindClose (c :: rest) = behindClose rest := by
        rw [behindClose]
        exact hopen
      rw [hup, hbehind]
      rcases ih with ⟨hall, hnothing⟩ | hsplit
      · exact .inl ⟨by rw [hall], hnothing⟩
      · exact .inr (by rw [List.cons_append, ← hsplit])

theorem licensePhrase_ne_nil : licensePhrase.toList ≠ [] := by decide

/-- **The phrase lies in front of a `*/` or behind it.** -/
theorem licensePhrase_infix_iff (body : List Char) :
    licensePhrase.toList <:+: body ↔
      licensePhrase.toList <:+: upToClose body ∨ licensePhrase.toList <:+: behindClose body := by
  have hstar : '*' ∉ licensePhrase.toList := by decide
  have hslash : '/' ∉ licensePhrase.toList := by decide
  rcases upToClose_behindClose body with ⟨hall, hnothing⟩ | hsplit
  · rw [hall, hnothing, List.infix_nil, or_iff_left licensePhrase_ne_nil]
  · have hclose : licensePhrase.toList <:+: '/' :: behindClose body ↔ _ :=
      infix_cons_iff_of_notMem hslash licensePhrase_ne_nil
    rw [← hclose, ← infix_append_cons_iff hstar, ← hsplit]

/-- The phrase does not run across the end of a line. -/
theorem licensePhrase_infix_intercalate (lines : List (List Char)) :
    licensePhrase.toList <:+: ['\n'].intercalate lines ↔
      ∃ line ∈ lines, licensePhrase.toList <:+: line := by
  have hfeed : '\n' ∉ licensePhrase.toList := by decide
  induction lines with
  | nil => simpa [List.intercalate] using licensePhrase_ne_nil
  | cons first rest ih =>
      cases rest with
      | nil => simp [List.intercalate]
      | cons second rest =>
          have hjoin : ['\n'].intercalate (first :: second :: rest) =
              first ++ '\n' :: ['\n'].intercalate (second :: rest) := by
            simp [List.intercalate]
          rw [hjoin, infix_append_cons_iff hfeed]
          exact (or_congr_right ih).trans (by simp)

/-- The opening of a block is no part of the phrase. -/
theorem licensePhrase_infix_opening (opening : List Char) :
    licensePhrase.toList <:+: '/' :: '*' :: opening ↔ licensePhrase.toList <:+: opening := by
  have hslash : '/' ∉ licensePhrase.toList := by decide
  have hstar : '*' ∉ licensePhrase.toList := by decide
  rw [infix_cons_iff_of_notMem hslash licensePhrase_ne_nil,
    infix_cons_iff_of_notMem hstar licensePhrase_ne_nil]

/-! ## The scan -/

theorem namesLicense_iff (line : List Char) :
    namesLicense line = true ↔ licensePhrase.toList <:+: line := by
  induction line with
  | nil => decide
  | cons c rest ih => simp [namesLicense, List.infix_cons_iff, ih]

/-- Once a block is opened any line counts. -/
theorem anyHeader_inBlock (style : CommentStyle) (lines : List (List Char)) :
    anyHeader style true lines = true ↔ ∃ line ∈ lines, licensePhrase.toList <:+: line := by
  induction lines with
  | nil => simp [anyHeader]
  | cons line rest ih => simp [anyHeader, namesLicense_iff, ih]

theorem opensBlock_iff :
    opensBlock style line = true ↔ style = .slashes ∧ ∃ opening, line = '/' :: '*' :: opening := by
  have hprefix : "/*".toList <+: line ↔ ∃ opening, line = '/' :: '*' :: opening :=
    ⟨fun ⟨opening, h⟩ => ⟨opening, h.symm⟩, fun ⟨opening, h⟩ => ⟨opening, h.symm⟩⟩
  simp only [opensBlock, Bool.and_eq_true, beq_iff_eq, List.isPrefixOf_iff_prefix, hprefix]

/-- What names the license behind an opening stands in one of the lines. -/
theorem BlockOpened.exists_line (h : BlockOpened lines body)
    (hbody : licensePhrase.toList <:+: body) :
    ∃ line ∈ lines, licensePhrase.toList <:+: line := by
  induction h with
  | here opening below =>
      obtain ⟨line, hmem, hline⟩ := (licensePhrase_infix_intercalate _).mp hbody
      rcases List.mem_cons.mp hmem with rfl | hmem
      · exact ⟨_, List.mem_cons_self, (licensePhrase_infix_opening _).mpr hline⟩
      · exact ⟨line, List.mem_cons_of_mem _ hmem, hline⟩
  | later line h ih =>
      obtain ⟨other, hmem, hother⟩ := ih hbody
      exact ⟨other, List.mem_cons_of_mem _ hmem, hother⟩

/-- **The scan** finds the phrase on a line that starts with a line comment, and anywhere behind the
opening of a block. The flag it carries is that opening. -/
theorem anyHeader_iff :
    anyHeader style false lines = true ↔ InLineComment style lines ∨
      (style = .slashes ∧ ∃ body, BlockOpened lines body ∧ licensePhrase.toList <:+: body) := by
  induction lines with
  | nil =>
      simp only [anyHeader, Bool.false_eq_true, false_iff, InLineComment, List.not_mem_nil,
        false_and, exists_false, false_or]
      rintro ⟨_, body, hopened, _⟩
      cases hopened
  | cons line rest ih =>
      by_cases hopens : opensBlock style line = true
      · -- from here on every line counts, and there is nothing that does not
        obtain ⟨rfl, opening, rfl⟩ := opensBlock_iff.mp hopens
        have hscan : anyHeader .slashes false (('/' :: '*' :: opening) :: rest) =
            anyHeader .slashes true (('/' :: '*' :: opening) :: rest) := by
          simp [anyHeader, hopens]
        rw [hscan, anyHeader_inBlock]
        constructor
        · intro hfound
          refine .inr ⟨rfl, _, .here opening rest, (licensePhrase_infix_intercalate _).mpr ?_⟩
          simpa [licensePhrase_infix_opening] using hfound
        · rintro (⟨other, hmem, _, hother⟩ | ⟨_, body, hopened, hbody⟩)
          · exact ⟨other, hmem, hother⟩
          · exact hopened.exists_line hbody
      · have hbody : ∀ body, style = .slashes →
            (BlockOpened (line :: rest) body ↔ BlockOpened rest body) := by
          intro body hstyle
          constructor
          · intro hopened
            cases hopened with
            | here opening => exact absurd (opensBlock_iff.mpr ⟨hstyle, opening, rfl⟩) hopens
            | later _ hlater => exact hlater
          · exact .later line
        have hscan : anyHeader style false (line :: rest) = true ↔
            (style.lineComment.toList <+: line ∧ licensePhrase.toList <:+: line) ∨
              anyHeader style false rest = true := by
          simp [anyHeader, hopens, namesLicense_iff]
        have hline : InLineComment style (line :: rest) ↔
            (style.lineComment.toList <+: line ∧ licensePhrase.toList <:+: line) ∨
              InLineComment style rest := by
          simp [InLineComment]
        rw [hscan, ih, hline, or_assoc]
        refine or_congr_right (or_congr_right (and_congr_right fun hstyle => ?_))
        exact exists_congr fun body => and_congr_left' (hbody body hstyle).symm

theorem anyHeader_iff_comments :
    anyHeader style false lines = true ↔ InComment style lines ∨ BehindBlock style lines := by
  rw [anyHeader_iff, InComment, InBlock, BehindBlock, or_assoc, ← and_or_left, ← exists_or]
  simp only [← and_or_left, ← licensePhrase_infix_iff]

/-- **Where the license is found:** in comment text near the top, or behind a block comment that was
opened there. The second part is no comment, and a block that is closed makes it a header all the
same. -/
theorem hasHeader_iff_comments (style : CommentStyle) (text : String) :
    hasHeader style text = true ↔
      InComment style (topLines text) ∨ BehindBlock style (topLines text) :=
  anyHeader_iff_comments

/-- A file whose banner is closed before the license is named, in code. -/
def closedBanner : String :=
  "/* Flash bench. */\nconst NOTICE: &str = \"Licensed under the Apache-2.0 license\";\n"

theorem topLines_closedBanner : topLines closedBanner =
    ["/* Flash bench. */".toList,
      "const NOTICE: &str = \"Licensed under the Apache-2.0 license\";".toList, []] := by
  decide

theorem not_inComment_closedBanner : ¬ InComment .slashes (topLines closedBanner) := by
  rw [topLines_closedBanner]
  rintro (⟨line, hmem, hstarts, hnames⟩ | ⟨-, body, hopened, hnames⟩)
  · revert hstarts hnames
    simp only [List.mem_cons, List.not_mem_nil, or_false] at hmem
    rcases hmem with rfl | rfl | rfl <;> decide
  · -- only the first line opens a block, and that block ends on it
    cases hopened with
    | here opening below => revert hnames; decide
    | later _ hopened =>
        cases hopened with
        | later _ hopened =>
          cases hopened with
          | later _ hopened => cases hopened

theorem hasHeader_closedBanner : hasHeader .slashes closedBanner = true := by
  rw [hasHeader, topLines_closedBanner]
  decide

/-- Code below a banner that is closed counts as a header. -/
theorem code_behind_banner_counts :
    hasHeader .slashes closedBanner = true ∧ ¬ InComment .slashes (topLines closedBanner) :=
  ⟨hasHeader_closedBanner, not_inComment_closedBanner⟩

end FlashBench.Upkeep
