import AdTemplates.Output
import AdTemplates.Proofs.Path.LastComponent

/-! The format that the path of an output selects. It is read off the extension of the last
component, byte for byte, and nothing else of the path is of any account: neither what stands
for nothing at its end nor the directory in front. -/
namespace AdTemplates.Output

open AdTemplates.Path (IsName dot slash)
open Text.Utf8 (encode)

variable {p q : Path} {name extension : List UInt8} {fallback format : String}

/-- The format of an extension as it is written, or else the fallback. -/
def formatOfBytes (extension : List UInt8) (fallback : String) : String :=
  if extension = encode "csv" then "csv"
  else if extension = encode "tsv" then "tsv"
  else if extension = encode "json" ∨ extension = encode "jsonl" then "jsonl"
  else fallback

/-- The format that a path selects, by what it ends in. -/
inductive Selects (p : Path) (fallback : String) : String → Prop where
  /-- The last component goes on behind a dot that is not its first character. -/
  | byExtension (stem extension : List UInt8) (hname : IsName (stem ++ dot :: extension))
      (hends : p.EndsIn (stem ++ dot :: extension)) (hstem : stem ≠ []) (hdot : dot ∉ extension) :
      Selects p fallback (formatOfBytes extension fallback)
  /-- The last component has no dot, or only one at its beginning. -/
  | plain (name : List UInt8) (hname : IsName name) (hends : p.EndsIn name)
      (hplain : ∀ stem extension, name = stem ++ dot :: extension → dot ∉ extension → stem = []) :
      Selects p fallback fallback
  | unnamed (h : p.IsUnnamed) : Selects p fallback fallback

/-! ### Reading the extension -/

theorem decode?_bind_formatOfExtension? (extension : List UInt8) (fallback : String) :
    ((Text.Utf8.decode? extension).bind formatOfExtension?).getD fallback =
      formatOfBytes extension fallback := by
  simp only [formatOfBytes, ← Text.Utf8.decode?_eq_some_iff]
  cases Text.Utf8.decode? extension with
  | none => rfl
  | some written =>
    simp only [Option.bind_some, formatOfExtension?, Option.some.injEq]
    repeat' split
    all_goals rfl

theorem formatName_of_fileName (h : p.fileName? = some name) :
    formatName p fallback = (((Path.splitExtension name).2.bind Text.Utf8.decode?).bind
      formatOfExtension?).getD fallback := by
  rw [formatName, Path.extension?, h, Option.bind_some]

theorem formatName_of_none (h : p.fileName? = none) : formatName p fallback = fallback := by
  rw [formatName, Path.extension?, h]
  rfl

theorem formatName_congr (h : p.fileName? = q.fileName?) :
    formatName p fallback = formatName q fallback := by
  rw [formatName, formatName, Path.extension?, Path.extension?, h]

theorem Selects.formatName_eq (h : Selects p fallback format) :
    formatName p fallback = format := by
  cases h with
  | byExtension stem extension hname hends hstem hdot =>
    rw [formatName_of_fileName (Path.fileName?_of_endsIn hends hname),
      Path.splitExtension_append hstem hdot, Option.bind_some, decode?_bind_formatOfExtension?]
  | plain name hname hends hplain =>
    have hnone : (Path.splitExtension name).2 = none := by
      rw [Option.eq_none_iff_forall_ne_some]
      intro extension hsome
      obtain ⟨stem, hstem, hdot, heq⟩ := Path.splitExtension_eq_some_iff.mp hsome
      exact hstem (hplain stem extension heq hdot)
    rw [formatName_of_fileName (Path.fileName?_of_endsIn hends hname), hnone]
    rfl
  | unnamed h => exact formatName_of_none (Path.fileName?_eq_none_iff.mpr h)

theorem selects_formatName (p : Path) (fallback : String) :
    Selects p fallback (formatName p fallback) := by
  cases h : p.fileName? with
  | none =>
    rw [formatName_of_none h]
    exact .unnamed (Path.fileName?_eq_none_iff.mp h)
  | some name =>
    obtain ⟨hname, hends⟩ := Path.fileName?_eq_some_iff_endsIn.mp h
    rw [formatName_of_fileName h]
    cases hextension : (Path.splitExtension name).2 with
    | none =>
      refine .plain name hname hends fun stem extension heq hdot => ?_
      refine Decidable.byContradiction fun hstem => ?_
      rw [Path.splitExtension_eq_some_iff.mpr ⟨stem, hstem, hdot, heq⟩] at hextension
      cases hextension
    | some extension =>
      obtain ⟨stem, hstem, hdot, rfl⟩ := Path.splitExtension_eq_some_iff.mp hextension
      rw [Option.bind_some, decode?_bind_formatOfExtension?]
      exact .byExtension stem extension hname hends hstem hdot

/-- A path either has no name in its end or exactly one. -/
theorem unnamed_or_named (p : Path) :
    p.IsUnnamed ∧ (∀ name, IsName name → ¬ p.EndsIn name) ∨
      ¬ p.IsUnnamed ∧ ∃ name, IsName name ∧ p.EndsIn name ∧
        ∀ other, IsName other → p.EndsIn other → other = name := by
  rw [← Path.fileName?_eq_none_iff]
  cases h : p.fileName? with
  | none =>
    refine .inl ⟨rfl, fun name hname hends => ?_⟩
    rw [Path.fileName?_of_endsIn hends hname] at h
    cases h
  | some name =>
    obtain ⟨hname, hends⟩ := Path.fileName?_eq_some_iff_endsIn.mp h
    refine .inr ⟨Option.some_ne_none name, name, hname, hends, fun other hother hends' => ?_⟩
    exact Option.some.inj ((Path.fileName?_of_endsIn hends' hother).symm.trans h)

/-- The format of a path is what its last component selects, if it has one: a path has a last
component, and only one, unless it is empty or only the root, only a dot, or ends in two dots.
Paths that end in the same component have the same format. So it does not change when a path
goes on with what stands for nothing, nor when one with a file name is put into a directory. -/
theorem formatName_eq_iff_selects (p : Path) (fallback : String) :
    (∀ format, formatName p fallback = format ↔ Selects p fallback format) ∧
    (p.IsUnnamed ∧ (∀ name, IsName name → ¬ p.EndsIn name) ∨
      ¬ p.IsUnnamed ∧ ∃ name, IsName name ∧ p.EndsIn name ∧
        ∀ other, IsName other → p.EndsIn other → other = name) ∧
    (∀ q : Path, (∀ name, IsName name → (p.EndsIn name ↔ q.EndsIn name)) →
      formatName q fallback = formatName p fallback) ∧
    (∀ ending, Path.Ending ending →
      formatName ⟨p.bytes ++ ending⟩ fallback = formatName p fallback) ∧
    ∀ name, IsName name → p.EndsIn name → ∀ directory : Path,
      formatName (directory.join p) fallback = formatName p fallback ∧
      formatName ⟨directory.bytes ++ slash :: p.bytes⟩ fallback = formatName p fallback := by
  refine ⟨fun format => ⟨?_, Selects.formatName_eq⟩, unnamed_or_named p, ?_, ?_, ?_⟩
  · rintro rfl
    exact selects_formatName p fallback
  · intro q hsame
    refine formatName_congr (Option.ext fun name => ?_)
    rw [Path.fileName?_eq_some_iff_endsIn, Path.fileName?_eq_some_iff_endsIn]
    exact and_congr_right fun hname => (hsame name hname).symm
  · intro ending hending
    exact formatName_congr (Path.fileName?_append_ending hending p)
  · intro name hname hends directory
    have h := Path.fileName?_of_endsIn hends hname
    exact ⟨formatName_congr ((Path.fileName?_join directory h).trans h.symm),
      formatName_congr ((Path.fileName?_append_slash directory.bytes h).trans h.symm)⟩

/-- A hidden file with an extension, in a directory and put into one that looks like a file. -/
theorem formatName_eq_iff_selects_hidden :
    let p := Path.ofString "ads//.list.json/./"
    let q := Path.ofString "./.list.json"
    let name := encode ".list.json"
    let ending := encode "/./"
    (∀ other, IsName other → (p.EndsIn other ↔ q.EndsIn other)) ∧ Path.Ending ending ∧
      IsName name ∧ p.EndsIn name ∧ formatName p "tsv" = "jsonl" ∧ formatName q "tsv" = "jsonl" ∧
      formatName ⟨p.bytes ++ ending⟩ "tsv" = "jsonl" ∧
      formatName ((Path.ofString "a.csv").join p) "tsv" = "jsonl" := by
  intro p q name ending
  have hname : IsName name := by decide
  have hending : Path.Ending ending := by
    rw [show ending = [slash, dot, slash] by decide]
    exact .slashDot (.slash .nil)
  have hends : p.EndsIn name :=
    ⟨encode "ads//", ending, by decide, .inr (by decide), hname.slash_notMem, hending⟩
  have hsame (other : List UInt8) (hother : IsName other) : p.EndsIn other ↔ q.EndsIn other := by
    have hfile : p.fileName? = some other ↔ q.fileName? = some other := by
      rw [show p.fileName? = q.fileName? by decide]
    simpa only [Path.fileName?_eq_some_iff_endsIn, hother, true_and] using hfile
  obtain ⟨hselects, _, hcongr, hmore, hdirectory⟩ := formatName_eq_iff_selects p "tsv"
  have hformat : formatName p "tsv" = "jsonl" :=
    (hselects "jsonl").mpr (.byExtension (encode ".list") (encode "json") hname hends (by decide)
      (by decide))
  exact ⟨hsame, hending, hname, hends, hformat, (hcongr q hsame).trans hformat,
    (hmore ending hending).trans hformat,
    (hdirectory name hname hends (Path.ofString "a.csv")).1.trans hformat⟩

end AdTemplates.Output
