import AdTemplates.Text.Lines

/-! Splitting into lines, described from the text: a text without newline is at most one
line, and a newline ends what stands before it, less a carriage return. -/
namespace AdTemplates.Text

variable {α : Type} [DecidableEq α] {newline ret : α}

/-- A line without the carriage return that belongs to its end. -/
def chomp (ret : α) (line : List α) : List α :=
  if line.getLast? = some ret then line.dropLast else line

@[simp] theorem chomp_nil : chomp ret [] = [] := rfl

theorem chomp_append_singleton (w : List α) (a : α) :
    chomp ret (w ++ [a]) = if a = ret then w else w ++ [a] := by
  rw [chomp, List.getLast?_concat, List.dropLast_concat]
  simp only [Option.some.injEq]

/-- What stands in front of a line end is the line, or the line and a carriage return. -/
theorem chomp_cases (ret : α) (w : List α) : w = chomp ret w ∨ w = chomp ret w ++ [ret] := by
  rcases List.eq_nil_or_concat w with rfl | ⟨init, a, rfl⟩
  · exact .inl rfl
  · rw [List.concat_eq_append, chomp_append_singleton]
    by_cases ha : a = ret
    · rw [if_pos ha, ha]
      exact .inr rfl
    · rw [if_neg ha]
      exact .inl rfl

theorem chomp_cons_cons (a b : α) (w : List α) :
    chomp ret (a :: b :: w) = a :: chomp ret (b :: w) := by
  simp only [chomp, List.getLast?_cons_cons, List.dropLast_cons_cons]
  split <;> rfl

/-- What follows the last newline is one line, whatever carriage returns it holds. -/
theorem splitLines_of_notMem {w : List α} (hw : newline ∉ w) (hne : w ≠ []) :
    splitLines newline ret w = [w] := by
  induction w with
  | nil => exact absurd rfl hne
  | cons a w ih =>
    have ha : a ≠ newline := fun ha => hw (ha ▸ List.mem_cons_self)
    have hw : newline ∉ w := fun h => hw (List.mem_cons_of_mem a h)
    cases w with
    | nil => rw [splitLines, if_neg ha]
    | cons b w =>
      have hb : b ≠ newline := fun hb => hw (hb ▸ List.mem_cons_self)
      rw [splitLines, if_neg ha, if_neg (fun h => hb h.2),
        ih hw (List.cons_ne_nil b w), consFirst]

/-- A newline ends the line before it. -/
theorem splitLines_append_newline {w : List α} (hw : newline ∉ w) (rest : List α) :
    splitLines newline ret (w ++ newline :: rest) =
      chomp ret w :: splitLines newline ret rest := by
  induction w with
  | nil =>
    cases rest with
    | nil => simp [splitLines]
    | cons b rest => simp [splitLines]
  | cons a w ih =>
    have ha : a ≠ newline := fun ha => hw (ha ▸ List.mem_cons_self)
    have hw : newline ∉ w := fun h => hw (List.mem_cons_of_mem a h)
    have hrest := ih hw
    cases w with
    | nil =>
      rw [List.cons_append, List.nil_append, splitLines, if_neg ha]
      by_cases hret : a = ret
      · rw [if_pos ⟨hret, rfl⟩, hret]
        simp [chomp]
      · rw [if_neg (fun h => hret h.1), ← List.nil_append (newline :: rest), hrest, consFirst]
        simp [chomp, hret]
    | cons b w =>
      have hb : b ≠ newline := fun hb => hw (hb ▸ List.mem_cons_self)
      rw [List.cons_append, List.cons_append, splitLines, if_neg ha,
        if_neg (fun h => hb h.2), ← List.cons_append, hrest, consFirst, chomp_cons_cons]

/-! The same for `List.splitOn`, which leaves carriage returns alone and counts what stands
after the last newline as a line even if it is empty. -/

theorem splitOn_of_notMem {w : List α} (hw : newline ∉ w) : w.splitOn newline = [w] := by
  rw [List.splitOn_eq_splitOnP]
  apply List.splitOnP_eq_singleton
  intro a ha
  exact beq_eq_false_iff_ne.mpr fun h => hw (h ▸ ha)

theorem splitOn_append_newline {w : List α} (hw : newline ∉ w) (rest : List α) :
    (w ++ newline :: rest).splitOn newline = w :: rest.splitOn newline := by
  rw [List.splitOn_eq_splitOnP, List.splitOn_eq_splitOnP]
  apply List.splitOnP_append_cons_of_forall_mem
  · intro a ha
    exact beq_eq_false_iff_ne.mpr fun h => hw (h ▸ ha)
  · exact beq_self_eq_true newline

omit [DecidableEq α] in
/-- A text is what follows its last newline, or a line and a shorter text. -/
theorem lineInduction {motive : List α → Prop} (newline : α)
    (last : ∀ w, newline ∉ w → motive w)
    (line : ∀ w rest, newline ∉ w → motive rest → motive (w ++ newline :: rest))
    (text : List α) : motive text := by
  by_cases hmem : newline ∈ text
  · obtain ⟨w, rest, htext, hw⟩ := List.eq_append_cons_of_mem hmem
    rw [htext]
    exact line w rest hw (lineInduction newline last line rest)
  · exact last text hmem
termination_by text.length
decreasing_by
  rw [htext, List.length_append, List.length_cons]
  omega

theorem newline_notMem_of_mem_splitLines {text line : List α}
    (h : line ∈ splitLines newline ret text) : newline ∉ line := by
  induction text using lineInduction newline with
  | last w hw =>
    by_cases hempty : w = []
    · rw [hempty] at h
      exact absurd h List.not_mem_nil
    · rw [splitLines_of_notMem hw hempty] at h
      rw [List.mem_singleton.mp h]
      exact hw
  | line w rest hw ih =>
    rw [splitLines_append_newline hw] at h
    rcases List.mem_cons.mp h with rfl | h
    · rcases chomp_cases ret w with hw' | hw'
      · exact hw' ▸ hw
      · exact fun hmem => hw (hw' ▸ List.mem_append_left [ret] hmem)
    · exact ih h

/-! ### Joining texts -/

/-- What follows a newline is split on its own. -/
theorem splitLines_append_cons (text rest : List α) :
    splitLines newline ret (text ++ newline :: rest) =
      splitLines newline ret (text ++ [newline]) ++ splitLines newline ret rest := by
  induction text using lineInduction newline with
  | last w hw =>
    rw [splitLines_append_newline hw, splitLines_append_newline hw, splitLines]
    rfl
  | line w more hw ih =>
    rw [List.append_assoc, List.append_assoc, List.cons_append, List.cons_append,
      splitLines_append_newline hw, splitLines_append_newline hw, ih, List.cons_append]

/-- Each newline ends one line. -/
theorem length_splitLines_append_newline (text : List α) :
    (splitLines newline ret (text ++ [newline])).length = text.count newline + 1 := by
  induction text using lineInduction newline with
  | last w hw =>
    rw [splitLines_append_newline hw, splitLines, List.length_singleton,
      List.count_eq_zero_of_not_mem hw]
  | line w more hw ih =>
    rw [List.append_assoc, List.cons_append, splitLines_append_newline hw, List.length_cons, ih,
      List.count_append, List.count_eq_zero_of_not_mem hw, List.count_cons_self, Nat.zero_add]

theorem lines_append (first second : String) :
    lines (first ++ "\n" ++ second) = lines (first ++ "\n") ++ lines second := by
  have hnewline : "\n".toList = ['\n'] := rfl
  rw [lines, lines, lines, String.toList_append, String.toList_append, hnewline,
    List.append_assoc, List.singleton_append, splitLines_append_cons, List.map_append]

theorem length_lines_append_newline (text : String) :
    (lines (text ++ "\n")).length = text.toList.count '\n' + 1 := by
  have hnewline : "\n".toList = ['\n'] := rfl
  rw [lines, List.length_map, String.toList_append, hnewline, length_splitLines_append_newline]

end AdTemplates.Text
