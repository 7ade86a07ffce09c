import AdTemplates.Proofs.Config.File
import AdTemplates.Proofs.Config.Reading

/-! The built-in settings. They are those of a YAML text, and a loader that is told nothing comes
to them. -/
namespace AdTemplates.Config

/-- The text that the built-in settings are written in. -/
def defaultText : String :=
  "# Built-in defaults for dg. A user file passed with --config only needs the keys it changes.

limits:
  # Maximum characters in a generated title / text when long records are skipped
  title: 35
  text: 75

generation:
  skip_long: false

parser:
  # Fail on bracketed header lines that are not [Ключи], [Заголовки] or [Тексты]
  strict_markers: false

output:
  # Format used when the output extension is neither .csv nor .json/.jsonl
  default_format: tsv
"

/-- The tokens of a key with a scalar. -/
def entryTokens (key value : String) : List Yaml.Token :=
  [.key, .scalar true key, .value, .scalar true value]

/-- The tokens of a key with a block mapping. -/
def sectionTokens (key : String) (entries : List Yaml.Token) : List Yaml.Token :=
  [.key, .scalar true key, .value, .blockMappingStart] ++ entries ++ [.blockEnd]

set_option maxRecDepth 4000 in
theorem scan?_defaultText : Yaml.Token.scan? defaultText.toList =
    some ([.blockMappingStart] ++
      sectionTokens "limits" (entryTokens "title" "35" ++ entryTokens "text" "75") ++
      sectionTokens "generation" (entryTokens "skip_long" "false") ++
      sectionTokens "parser" (entryTokens "strict_markers" "false") ++
      sectionTokens "output" (entryTokens "default_format" "tsv") ++
      [.blockEnd, .streamEnd]) := by
  -- The characters are written out first: taking them out of the bytes of a long text is slow.
  have hchars : defaultText.toList = _ := String.toList_ofList
  rw [hchars]
  decide +kernel

theorem read?_defaultText : Yaml.Node.read? defaultText = some [.mapping [
    (.string "limits", .mapping [(.string "title", .integer 35), (.string "text", .integer 75)]),
    (.string "generation", .mapping [(.string "skip_long", .boolean false)]),
    (.string "parser", .mapping [(.string "strict_markers", .boolean false)]),
    (.string "output", .mapping [(.string "default_format", .string "tsv")])]] := by
  rw [Yaml.Node.read?, scan?_defaultText]
  rfl

/-- The lowest layer is what this text gives, wherever it is read from. -/
theorem readTable_defaultText (source : String) :
    readTable source defaultText = .ok (defaultEntries (some source)) :=
  readTable_of_node read?_defaultText rfl

theorem readsAs_defaultLayer : defaultLayer.ReadsAs {} where
  title := rfl
  text := rfl
  skipLong := rfl
  strictMarkers := rfl
  defaultFormat := rfl

/-- Without files and single values everything keeps its default, and the defaults are valid. -/
theorem Loader.build_nothing (t : FileTree) (o : Traversal) : ({} : Loader).build t o = .ok {} := by
  have hnone : o.overrides [] = [] := (o.overrides_perm []).eq_nil
  have hlayers : ({} : Loader).layers t o = .ok defaultLayer := by
    rw [layers, hnone]
    rfl
  have hread : Settings.read defaultLayer o = .ok {} :=
    Value.read_eq_ok_iff.mpr readsAs_defaultLayer
  exact bind_eq_ok_iff.mpr ⟨_, hlayers, bind_eq_ok_iff.mpr ⟨_, hread, rfl⟩⟩

end AdTemplates.Config
