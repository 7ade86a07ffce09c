import AdTemplates.Output
import AdTemplates.Proofs.FileTree.Destination
import AdTemplates.Proofs.Path.Components

/-! The output of an input for which none is named. It stands in the directory of the input under
the file name of the input and a suffix, which is an extension that selects a format. So two
inputs have the same output only if they are the same, as paths and as places in a tree. -/
namespace AdTemplates.Output

open FileTree (follow)
open AdTemplates.Path (IsName)
open Text.Utf8 (encode)

variable {t : FileTree} {input other directory : Path} {name otherName : List UInt8}

theorem isName_unnamed : IsName (unnamed ++ suffix) := by decide

theorem isName_append_suffix (h : input.fileName? = some name) :
    IsName (name ++ suffix) :=
  (Path.isName_of_fileName? h).append (by decide) (by decide)

theorem defaultPath_of_fileName (h : input.fileName? = some name)
    (hparent : input.parent? = some directory) :
    defaultPath input = directory.join ⟨name ++ suffix⟩ := by
  rw [defaultPath, h, Path.withFileName, h, hparent]
  rfl

/-! ### The format of the output -/

theorem exists_defaultPath_eq_join (input : Path) :
    ∃ (directory : Path) (name : List UInt8), name ≠ [] ∧ IsName (name ++ suffix) ∧
      defaultPath input = directory.join ⟨name ++ suffix⟩ := by
  cases h : input.fileName? with
  | none =>
    refine ⟨input, unnamed, by decide, isName_unnamed, ?_⟩
    rw [defaultPath, Path.withFileName, h]
    rfl
  | some name =>
    obtain ⟨directory, hparent, _⟩ := Path.exists_directory h
    exact ⟨directory, name, (Path.isName_of_fileName? h).ne_nil, isName_append_suffix h,
      defaultPath_of_fileName h hparent⟩

/-- The suffix is an extension, as there is a name before it. -/
theorem formatName_defaultPath (input : Path) (fallback : String) :
    formatName (defaultPath input) fallback = "csv" := by
  obtain ⟨directory, name, hne, hname, hjoin⟩ := exists_defaultPath_eq_join input
  have hextension : (defaultPath input).extension? = some (encode "csv") := by
    have hsuffix : name ++ suffix = name ++ Path.dot :: encode "csv" := by
      rw [show suffix = Path.dot :: encode "csv" by decide]
    rw [hjoin, Path.extension?, Path.fileName?_join_name directory hname, Option.bind_some,
      hsuffix, Path.splitExtension_append hne (by decide)]
  rw [formatName, hextension, Option.bind_some, Text.Utf8.decode?_encode]
  rfl

/-! ### The components of the output -/

theorem fileName?_defaultPath (h : input.fileName? = some name) :
    (defaultPath input).fileName? = some (name ++ suffix) := by
  obtain ⟨directory, hparent, _⟩ := Path.exists_directory h
  rw [defaultPath_of_fileName h hparent]
  exact Path.fileName?_join_name directory (isName_append_suffix h)

/-- The output has the components of the input, but for the last one. -/
theorem components_of_fileName (h : input.fileName? = some name) :
    ∃ before, input.components = before ++ [.normal name] ∧
      (defaultPath input).components = before ++ [.normal (name ++ suffix)] := by
  obtain ⟨directory, hparent, hinput⟩ := Path.exists_directory h
  refine ⟨directory.components, hinput, ?_⟩
  rw [defaultPath_of_fileName h hparent,
    Path.components_join_name directory (isName_append_suffix h)]

theorem append_suffix_eq_iff {α : Type} {before after : List α} {wrap : List UInt8 → α}
    (hwrap : Function.Injective wrap) :
    before ++ [wrap (name ++ suffix)] = after ++ [wrap (otherName ++ suffix)] ↔
      before ++ [wrap name] = after ++ [wrap otherName] := by
  simp only [List.append_singleton_inj, hwrap.eq_iff, List.append_cancel_right_eq]

/-! ### The place of the output -/

theorem origin_defaultPath (t : FileTree) (input : Path) :
    t.origin (defaultPath input) = t.origin input := by
  have habsolute : (defaultPath input).isAbsolute = input.isAbsolute := by
    unfold defaultPath
    cases h : input.fileName? with
    | none => exact Path.isAbsolute_withFileName input isName_unnamed
    | some name => exact Path.isAbsolute_withFileName input (isName_append_suffix h)
  rw [FileTree.origin, habsolute]
  rfl

/-- The output stands in the directory of the input. -/
theorem destination_of_fileName (h : input.fileName? = some name) :
    ∃ directory, t.destination input = directory ++ [name] ∧
      t.destination (defaultPath input) = directory ++ [name ++ suffix] := by
  have hname := isName_append_suffix h
  obtain ⟨before, hinput, houtput⟩ := Path.moves_withFileName_of_fileName h hname
  have hmoves : (defaultPath input).moves = before ++ [name ++ suffix] := by
    rw [defaultPath, h]
    exact houtput
  refine ⟨before.foldl follow (t.origin input), ?_, ?_⟩
  · exact FileTree.destination_of_moves hinput (Path.isName_of_fileName? h)
  · rw [FileTree.destination_of_moves hmoves hname, origin_defaultPath]

/-- Whatever the input, its default output selects csv and no other format. Where the input has
a file name the output has the same parent and that name with the suffix behind it, so it is
another path. Two such inputs have the same output only if they have the same components, and
their outputs lead to the same place only if they do. -/
theorem defaultPath_beside :
    (∀ (input : Path) (fallback : String), formatName (defaultPath input) fallback = "csv") ∧
    (∀ (input : Path) (name : List UInt8), input.fileName? = some name →
      (defaultPath input).fileName? = some (name ++ encode ".csv") ∧
      (defaultPath input).parent?.map Path.components = input.parent?.map Path.components ∧
      (defaultPath input).components =
        input.components.dropLast ++ [.normal (name ++ encode ".csv")] ∧
      (defaultPath input).components ≠ input.components) ∧
    ∀ (input other : Path) (name otherName : List UInt8),
      input.fileName? = some name → other.fileName? = some otherName →
      ((defaultPath input).components = (defaultPath other).components ↔
        input.components = other.components) ∧
      ∀ t : FileTree, t.destination (defaultPath input) = t.destination (defaultPath other) ↔
        t.destination input = t.destination other := by
  refine ⟨formatName_defaultPath, ?_, ?_⟩
  · intro input name h
    obtain ⟨before, hinput, houtput⟩ := components_of_fileName h
    have hname := fileName?_defaultPath h
    refine ⟨hname, ?_, ?_, ?_⟩
    · rw [Path.map_components_parent? hname, Path.map_components_parent? h, houtput, hinput,
        List.dropLast_concat, List.dropLast_concat]
    · rw [houtput, hinput, List.dropLast_concat]
      rfl
    · rw [houtput, hinput]
      intro heq
      rw [List.append_cancel_left_eq, List.singleton_inj, Path.Component.normal.injEq,
        List.append_right_eq_self] at heq
      exact absurd heq (by decide)
  · intro input other name otherName h hother
    constructor
    · obtain ⟨_, hinput, houtput⟩ := components_of_fileName h
      obtain ⟨_, hinput', houtput'⟩ := components_of_fileName hother
      rw [houtput, houtput', hinput, hinput']
      exact append_suffix_eq_iff fun _ _ => Path.Component.normal.inj
    · intro t
      obtain ⟨_, hinput, houtput⟩ := destination_of_fileName (t := t) h
      obtain ⟨_, hinput', houtput'⟩ := destination_of_fileName (t := t) hother
      rw [houtput, houtput', hinput, hinput']
      exact append_suffix_eq_iff Function.injective_id

/-- Two paths to a hidden file that differ in a dot at their beginning. -/
theorem defaultPath_beside_hidden :
    let input := Path.ofString ".//ads/./.dg/."
    let other := Path.ofString "ads/.dg"
    input.fileName? = some (encode ".dg") ∧ other.fileName? = some (encode ".dg") ∧
      (defaultPath input).fileName? = some (encode ".dg.csv") ∧
      (defaultPath input).components ≠ (defaultPath other).components := by
  intro input other
  have hinput : input.fileName? = some (encode ".dg") := by decide
  have hother : other.fileName? = some (encode ".dg") := by decide
  have hne : input.components ≠ other.components := by decide
  obtain ⟨_, hone, htwo⟩ := defaultPath_beside
  refine ⟨hinput, hother, ?_, ?_⟩
  · rw [(hone input _ hinput).1]
    decide
  · exact fun heq => hne ((htwo input other _ _ hinput hother).1.mp heq)

end AdTemplates.Output
