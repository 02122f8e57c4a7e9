import FlashBench.Upkeep.LicenseHeader

/-!
# Headers and their texts

`hasHeader` looks for a header and `withHeader` writes one, each in its own way. They agree:
**what was written is found** (`hasHeader_withHeader`), in either style and in front of any text.
-/

namespace FlashBench.Upkeep

variable {style : CommentStyle} {old new text : String}

/-- The comment that names the license, as a line of its own. -/
def headerLine (style : CommentStyle) : String := style.lineComment ++ " " ++ licensePhrase

/-- `Headed style old new` says that `new` is the text `old` behind a header: the comment line, an
empty line, the text. -/
inductive Headed (style : CommentStyle) : String → String → Prop
  /-- The empty line comes with the header. -/
  | apart {old : String} (hfirst : old.toList.head? ≠ some '\n') :
      Headed style old (headerLine style ++ "\n\n" ++ old)
  /-- A text that starts with a line feed brings the empty line itself. -/
  | joined (rest : String) : Headed style ("\n" ++ rest) (headerLine style ++ "\n\n" ++ rest)

theorem headed_withHeader (style : CommentStyle) (text : String) :
    Headed style text (withHeader style text) := by
  by_cases hgap : text.startsWith "\n" = true
  · obtain ⟨rest, hrest⟩ := String.startsWith_string_iff.mp hgap
    have htext : text = "\n" ++ String.ofList rest := by
      apply String.toList_inj.mp
      simp [← hrest]
    have hnew : withHeader style text = headerLine style ++ "\n\n" ++ String.ofList rest := by
      apply String.toList_inj.mp
      simp [withHeader, headerLine, hgap, ← hrest]
    rw [hnew, htext]
    exact .joined _
  · have hfirst : text.toList.head? ≠ some '\n' := by
      intro hfirst
      obtain ⟨rest, hrest⟩ := List.head?_eq_some_iff.mp hfirst
      exact hgap (String.startsWith_string_iff.mpr ⟨rest, by simp [hrest]⟩)
    have hnew : withHeader style text = headerLine style ++ "\n\n" ++ text := by
      apply String.toList_inj.mp
      simp [withHeader, headerLine, hgap]
    rw [hnew]
    exact .apart hfirst

/-- The comment line is found when it stands in front. -/
theorem anyHeader_headerLine (style : CommentStyle) (lines : List (List Char)) :
    anyHeader style false (trimmed (headerLine style).toList :: lines) = true := by
  have hline : trimmed (headerLine style).toList = (headerLine style).toList := by
    cases style <;> decide
  have hcomment : style.lineComment.toList.isPrefixOf (headerLine style).toList = true := by
    cases style <;> decide
  have hnames : namesLicense (headerLine style).toList = true := by
    cases style <;> decide
  simp [anyHeader, hline, hcomment, hnames]

theorem Headed.hasHeader (h : Headed style old new) : hasHeader style new = true := by
  obtain ⟨rest, rfl⟩ : ∃ rest, new = headerLine style ++ "\n" ++ rest := by
    cases h with
    | apart => exact ⟨"\n" ++ old, by apply String.toList_inj.mp; simp⟩
    | joined rest => exact ⟨"\n" ++ rest, by apply String.toList_inj.mp; simp⟩
  have hline : '\n' ∉ (headerLine style).toList := by
    cases style <;> decide
  have hsplit : (headerLine style ++ "\n" ++ rest).toList.splitOn '\n' =
      (headerLine style).toList :: rest.toList.splitOn '\n' := by
    simpa using List.splitOn_append_cons_self_of_not_mem hline rest.toList
  simp only [Upkeep.hasHeader, topLines, hsplit]
  exact anyHeader_headerLine style _

/-- **What was written is found.** -/
theorem hasHeader_withHeader (style : CommentStyle) (text : String) :
    hasHeader style (withHeader style text) = true :=
  (headed_withHeader style text).hasHeader

end FlashBench.Upkeep
