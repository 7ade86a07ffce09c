import AdTemplates.Proofs.Text.Lines
import AdTemplates.Text.Whitespace
import Mathlib.Data.List.TakeWhile

/-! Trimming cuts off what is blank at the two ends and nothing else, so blanks around a
text, a carriage return before a line end among them, never show in the trimmed text. -/
namespace AdTemplates.Text

variable {cs pad before after : List Char}

/-- Blanks in front of a text are cut off. -/
theorem trimChars_blank_append (hpad : ∀ c ∈ pad, isBlank c = true) (cs : List Char) :
    trimChars (pad ++ cs) = trimChars cs := by
  rw [trimChars, trimChars, List.dropWhile_append_of_pos hpad]

/-- Blanks behind a text are cut off. -/
theorem trimChars_append_blank (hpad : ∀ c ∈ pad, isBlank c = true) (cs : List Char) :
    trimChars (cs ++ pad) = trimChars cs := by
  rw [trimChars, trimChars, List.dropWhile_append]
  split
  · rename_i hempty
    rw [List.isEmpty_iff.mp hempty, List.dropWhile_eq_nil_iff.mpr hpad]
  · have hreverse : ∀ c ∈ pad.reverse, isBlank c = true :=
      fun c hc => hpad c (List.mem_reverse.mp hc)
    rw [List.reverse_append, List.dropWhile_append_of_pos hreverse]

/-- A text is what trimming leaves of it between blanks. -/
theorem exists_blanks_trimChars (cs : List Char) :
    ∃ before after, (∀ c ∈ before, isBlank c = true) ∧ (∀ c ∈ after, isBlank c = true) ∧
      cs = before ++ trimChars cs ++ after := by
  let rest := cs.dropWhile isBlank
  have hrest : rest.reverse.takeWhile isBlank ++ rest.reverse.dropWhile isBlank = rest.reverse :=
    List.takeWhile_append_dropWhile
  refine ⟨cs.takeWhile isBlank, (rest.reverse.takeWhile isBlank).reverse,
    fun c hc => List.mem_takeWhile_imp hc,
    fun c hc => List.mem_takeWhile_imp (List.mem_reverse.mp hc), ?_⟩
  have htail : trimChars cs ++ (rest.reverse.takeWhile isBlank).reverse = rest := by
    rw [trimChars, ← List.reverse_append, hrest, List.reverse_reverse]
  rw [List.append_assoc, htail]
  exact List.takeWhile_append_dropWhile.symm

/-- Trimming a second time cuts off nothing. -/
theorem trimChars_trimChars (cs : List Char) : trimChars (trimChars cs) = trimChars cs := by
  obtain ⟨before, after, hbefore, hafter, hcs⟩ := exists_blanks_trimChars cs
  calc trimChars (trimChars cs)
      = trimChars (before ++ trimChars cs ++ after) := by
        rw [trimChars_append_blank hafter, trimChars_blank_append hbefore]
    _ = trimChars cs := by rw [← hcs]

theorem mem_of_mem_trimChars {c : Char} (h : c ∈ trimChars cs) : c ∈ cs := by
  obtain ⟨before, after, _, _, hcs⟩ := exists_blanks_trimChars cs
  rw [hcs]
  exact List.mem_append_left after (List.mem_append_right before h)

theorem trimChars_append_return (cs : List Char) :
    trimChars (cs ++ ['\r']) = trimChars cs :=
  trimChars_append_blank (List.forall_mem_singleton.mpr (by decide)) cs

/-- A carriage return that belongs to a line end is blank. -/
theorem trimChars_chomp (cs : List Char) : trimChars (chomp '\r' cs) = trimChars cs := by
  rcases chomp_cases '\r' cs with hcs | hcs
  · rw [← hcs]
  · rw [hcs, trimChars_append_return, ← hcs]

theorem trim_eq_trim_iff {s t : String} :
    trim s = trim t ↔ trimChars s.toList = trimChars t.toList :=
  String.ofList_inj

@[simp] theorem trim_trim (s : String) : trim (trim s) = trim s := by
  rw [trim_eq_trim_iff, toList_trim, trimChars_trimChars]

/-- A newline at the end of a text may end a line that was none before, which is blank then. -/
theorem exists_map_trimChars_splitLines (cs : List Char) :
    ∃ blank : List (List Char), (∀ line ∈ blank, line = []) ∧
      (splitLines '\n' '\r' (cs ++ ['\n'])).map trimChars =
        (splitLines '\n' '\r' cs ++ blank).map trimChars := by
  induction cs using lineInduction '\n' with
  | last w hw =>
    rw [splitLines_append_newline hw, splitLines, List.map_singleton, trimChars_chomp]
    by_cases hempty : w = []
    · subst hempty
      exact ⟨[[]], by simp, rfl⟩
    · rw [splitLines_of_notMem hw hempty]
      exact ⟨[], by simp, rfl⟩
  | line w more hw ih =>
    obtain ⟨blank, hblank, hmore⟩ := ih
    refine ⟨blank, hblank, ?_⟩
    rw [List.append_assoc, List.cons_append, splitLines_append_newline hw,
      splitLines_append_newline hw, List.map_cons, hmore, List.cons_append, List.map_cons]

theorem exists_map_trim_lines (text : String) :
    ∃ blank : List String, (∀ line ∈ blank, line = "") ∧
      (lines (text ++ "\n")).map trim = (lines text ++ blank).map trim := by
  obtain ⟨blank, hblank, hlines⟩ := exists_map_trimChars_splitLines text.toList
  have htrim (l : List (List Char)) :
      (l.map String.ofList).map trim = (l.map trimChars).map String.ofList := by
    rw [List.map_map, List.map_map]
    exact List.map_congr_left fun cs _ => congrArg (String.ofList ∘ trimChars) String.toList_ofList
  refine ⟨blank.map String.ofList, ?_, ?_⟩
  · intro line hline
    obtain ⟨cs, hcs, rfl⟩ := List.mem_map.mp hline
    rw [hblank cs hcs]
  · have hnewline : "\n".toList = ['\n'] := rfl
    rw [lines, lines, String.toList_append, hnewline, ← List.map_append, htrim, htrim, hlines]

end AdTemplates.Text
