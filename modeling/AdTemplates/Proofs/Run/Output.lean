import AdTemplates.Proofs.Combinations.Drain
import AdTemplates.Proofs.Document.Bytes
import AdTemplates.Proofs.FileTree.Create
import AdTemplates.Proofs.Format.Rows
import AdTemplates.Run

/-! What a successful run leaves behind: in the output the rows of all advertisements of
the document that was there before the run, and everywhere else what was there. The output
may be a file that the run has read. -/
namespace AdTemplates

namespace Run

/-- The advertisements that a run is to write. -/
def advertisements (s : Config.Settings) (d : Document) : List Record :=
  (expansion d.keywords d.titles d.texts).filter fun r =>
    s.skipLong = false ∨ (r.title.length ≤ s.limits.title ∧ r.text.length ≤ s.limits.text)

theorem filter_keeps_expansion (s : Config.Settings) (d : Document) :
    (expansion d.keywords d.titles d.texts).filter s.expandOptions.keeps = advertisements s d := by
  apply List.filter_congr
  intro r _
  have hkeeps : s.expandOptions.keeps r = (!s.skipLong ||
      (decide (r.title.length ≤ s.limits.title) && decide (r.text.length ≤ s.limits.text))) := rfl
  rw [hkeeps, Bool.eq_iff_iff]
  simp

theorem drain_combinations (s : Config.Settings) (d : Document) :
    (d.combinations s.expandOptions).drain.1 = advertisements s d := by
  rw [← filter_keeps_expansion]
  exact Combinations.records_drain_start _ _ _ _

/-- Whatever is not to be written is counted as skipped. -/
theorem skipped_drain_combinations (s : Config.Settings) (d : Document) :
    (d.combinations s.expandOptions).drain.2.skipped =
      d.keywords.length * d.titles.length * d.texts.length - (advertisements s d).length := by
  have hskipped : (d.combinations s.expandOptions).drain.2.skipped =
      ((expansion d.keywords d.titles d.texts).filter (!s.expandOptions.keeps ·)).length :=
    Combinations.skipped_drain_start _ _ _ _
  have hlength := List.length_eq_length_filter_add (l := expansion d.keywords d.titles d.texts)
    s.expandOptions.keeps
  rw [Combinations.length_expansion] at hlength
  rw [hskipped, hlength, filter_keeps_expansion, Nat.add_sub_cancel_left]

theorem findFormatter_eq_ok {name : String} {f : Format.Formatter}
    (h : findFormatter name = .ok f) :
    ∃ b : Format.Builtin, b.name = name ∧ b.formatter = f := by
  unfold findFormatter at h
  split at h
  · cases h
  · rename_i hget
    cases h
    exact Format.Registry.get?_defaults hget

theorem readDocument_eq_ok {t : FileTree} {path : Path} {strict : Bool} {d : Document}
    (h : readDocument t path strict = .ok d) :
    ∃ source, t.read path = .ok (Text.Utf8.encode source) ∧
      Document.parse strict source = .ok d := by
  unfold readDocument at h
  split at h
  · cases h
  · cases h
  · rename_i content hread
    split at h
    · cases h
    · cases h
    · rename_i hdocument
      cases h
      obtain ⟨source, hsource, hparse⟩ := Document.read_eq_ok_iff.mp hdocument
      rw [List.flatten_singleton] at hsource
      exact ⟨source, hsource ▸ hread, hparse⟩

/-- Nothing has happened yet when the settings are at fault. -/
theorem run_of_settings_eq_error {r : Request} {t : FileTree} {o : Config.Traversal}
    {e : Config.Error} (h : r.settings t o = .error e) : run r t o = (.error (.config e), t) := by
  rw [run, Request.plan, h]
  rfl

theorem plan_of_settings {r : Request} {t : FileTree} {o : Config.Traversal} {s : Config.Settings}
    (hs : r.settings t o = .ok s) :
    r.plan t o = (findFormatter (r.formatName s)).bind fun f =>
      (readDocument t r.input s.strictMarkers).bind fun d =>
        .ok ⟨r.outputPath, r.formatName s, f, d, s.expandOptions⟩ := by
  rw [Request.plan, hs]
  rfl

theorem plan_eq_ok {r : Request} {t : FileTree} {o : Config.Traversal} {p : Plan}
    (h : r.plan t o = .ok p) :
    ∃ s formatter document, r.settings t o = .ok s ∧
      findFormatter (r.formatName s) = .ok formatter ∧
      readDocument t r.input s.strictMarkers = .ok document ∧
      p = ⟨r.outputPath, r.formatName s, formatter, document, s.expandOptions⟩ := by
  cases hsettings : r.settings t o with
  | error e => rw [Request.plan, hsettings] at h; cases h
  | ok s =>
    rw [plan_of_settings hsettings] at h
    cases hformatter : findFormatter (r.formatName s) with
    | error e => rw [hformatter] at h; cases h
    | ok formatter =>
      cases hdocument : readDocument t r.input s.strictMarkers with
      | error e => rw [hformatter, hdocument] at h; cases h
      | ok document =>
        rw [hformatter, hdocument] at h
        cases h
        exact ⟨s, formatter, document, rfl, hformatter, hdocument, rfl⟩

/-- A run that succeeds has come through all its stages. -/
theorem run_eq_ok {r : Request} {t t' : FileTree} {o : Config.Traversal} {summary : Summary}
    (h : run r t o = (.ok summary, t')) :
    ∃ p place opened n sink, r.plan t o = .ok p ∧ t.create p.output = .ok (place, opened) ∧
      p.formatter.write (p.document.combinations p.options).drain.1 (sinkAt opened place) =
        .ok (n, sink) ∧
      summary =
        ⟨p.output, p.format, n, (p.document.combinations p.options).drain.2.skipped⟩ ∧
      t' = store opened place sink.written := by
  unfold run at h
  split at h
  · cases h
  · rename_i p hplan
    split at h
    · cases h
    · rename_i place opened hcreate
      unfold Plan.write at h
      simp only at h
      split at h
      · cases h
      · cases h
      · rename_i n sink hwrite
        cases h
        exact ⟨p, place, opened, n, sink, hplan, hcreate, hwrite, rfl, rfl⟩

/-- Into an open file all rows are written, and the file is where the output path leads. -/
theorem output_of_write {t opened t' : FileTree} {output : Path} {place : Place} {n : Nat}
    {b : Format.Builtin} {records : List Record} {sink : Format.Sink}
    (hcreate : t.create output = .ok (place, opened))
    (hwrite : b.formatter.write records (sinkAt opened place) = .ok (n, sink))
    (hstore : t' = store opened place sink.written) (hfile : t'.isFile output = true) :
    n = records.length ∧ t'.locate output = .ok place ∧
      t'.find? place = some (.file (records.flatMap b.row)) ∧
      ∀ other, other ≠ place → t'.find? other = t.find? other := by
  obtain ⟨htarget, ⟨hfull, rfl⟩ | ⟨hfull, rfl⟩⟩ := FileTree.create_eq_ok hcreate
  · -- The full device is no regular file.
    have hlocate : opened.locate output = .ok place :=
      FileTree.locate_of_target htarget (by rw [hfull]; rfl)
    rw [store, hfull] at hstore
    rw [hstore, FileTree.isFile, hlocate] at hfile
    simp only [hfull] at hfile
    cases hfile
  · have hopened : (t.set place (.file [])).find? place = some (.file []) :=
      FileTree.find?_set_self htarget
    rw [sinkAt, hopened, b.write_unlimited records rfl, List.nil_append] at hwrite
    cases hwrite
    rw [store, hopened] at hstore
    simp only [FileTree.set_set] at hstore
    subst hstore
    exact ⟨rfl, FileTree.locate_set_of_target htarget, FileTree.find?_set_self htarget,
      fun other hother => FileTree.find?_set_of_ne htarget hother⟩

/-- What a run leaves behind that has written a file. The settings `s`, with tables gone through
as `o` tells, and the document `d` with its text `source` are those of the tree before the run;
the output path leads to `place` in the tree after it. -/
structure Delivered (r : Request) (t : FileTree) (o : Config.Traversal) (t' : FileTree)
    (summary : Summary) (s : Config.Settings) (source : String) (d : Document)
    (b : Format.Builtin) (place : Place) : Prop where
  settings : r.settings t o = .ok s
  input : t.read r.input = .ok (Text.Utf8.encode source)
  document : Document.parse s.strictMarkers source = .ok d
  output : summary.output = r.outputPath
  format : summary.format = r.formatName s
  formatter : b.name = summary.format
  location : t'.locate summary.output = .ok place
  content : t'.find? place = some (.file ((advertisements s d).flatMap b.row))
  unchanged : ∀ other, other ≠ place → t'.find? other = t.find? other
  written : summary.written = (advertisements s d).length
  skipped : summary.skipped =
    d.keywords.length * d.titles.length * d.texts.length - (advertisements s d).length

/-- A run that succeeds with a regular file as output has put the rows of all
advertisements there, in the order of the document and without those that are too long if
these are to be left out, and nothing else. Its counts are exact, and every other place
holds what it held. No condition keeps the output apart from the files that the run reads. -/
theorem run_writes_advertisements {r : Request} {t t' : FileTree} {o : Config.Traversal}
    {summary : Summary} (hrun : run r t o = (.ok summary, t'))
    (hfile : t'.isFile summary.output = true) :
    ∃ s source d b place, Delivered r t o t' summary s source d b place := by
  obtain ⟨p, place, opened, n, sink, hplan, hcreate, hwrite, rfl, hstore⟩ := run_eq_ok hrun
  obtain ⟨s, formatter, d, hsettings, hformatter, hdocument, rfl⟩ := plan_eq_ok hplan
  obtain ⟨b, hname, rfl⟩ := findFormatter_eq_ok hformatter
  obtain ⟨source, hread, hparse⟩ := readDocument_eq_ok hdocument
  simp only [drain_combinations] at hwrite
  obtain ⟨hwritten, hlocate, hfind, hothers⟩ := output_of_write hcreate hwrite hstore hfile
  refine ⟨s, source, d, b, place, ?_⟩
  exact {
    settings := hsettings
    input := hread
    document := hparse
    output := rfl
    format := rfl
    formatter := hname
    location := hlocate
    content := hfind
    unchanged := hothers
    written := hwritten
    skipped := skipped_drain_combinations s d }

/-- A request to write over the input. -/
def inPlaceRequest : Request where
  input := .ofString "a"
  output := some (.ofString "a")
  format := some "csv"
  skipLong := true

/-- A tree with a single file. -/
def singleFile (content : String) : FileTree where
  entries := [([Text.Utf8.encode "a"], .file (Text.Utf8.encode content))]
  workingDirectory := []

def inPlaceSource : String := "[Ключи]\nк\n[Заголовки]\n[k]\n[Тексты]\nА, [k]"

/-- The document is read before its file is emptied. -/
theorem run_in_place :
    run inPlaceRequest (singleFile inPlaceSource) =
        (.ok ⟨.ofString "a", "csv", 1, 0⟩, singleFile "к,\"А, к\"\n") ∧
      ∃ s source d b place, Delivered inPlaceRequest (singleFile inPlaceSource) .asWritten
        (singleFile "к,\"А, к\"\n") ⟨.ofString "a", "csv", 1, 0⟩ s source d b place := by
  have hrun : run inPlaceRequest (singleFile inPlaceSource) =
      (.ok ⟨.ofString "a", "csv", 1, 0⟩, singleFile "к,\"А, к\"\n") := by decide +kernel
  exact ⟨hrun, run_writes_advertisements hrun (by decide +kernel)⟩

end Run
end AdTemplates
