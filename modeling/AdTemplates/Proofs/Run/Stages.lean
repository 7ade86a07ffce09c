import AdTemplates.Proofs.Run.Output

/-! How a run fails. It goes through five stages, and what it reports is the fault of the
first stage that has one, whatever the later ones would have met. Up to the moment at which
the output is open nothing in the tree has changed. -/
namespace AdTemplates

namespace Format.Builtin

theorem exists_name_eq_iff {name : String} :
    (∃ b : Builtin, b.name = name) ↔ name = "csv" ∨ name = "tsv" ∨ name = "jsonl" := by
  constructor
  · rintro ⟨b, rfl⟩
    cases b with
    | csv => exact .inl rfl
    | tsv => exact .inr (.inl rfl)
    | jsonl => exact .inr (.inr rfl)
  · rintro (rfl | rfl | rfl)
    · exact ⟨.csv, rfl⟩
    · exact ⟨.tsv, rfl⟩
    · exact ⟨.jsonl, rfl⟩

/-- Every row has at least its line end. -/
theorem row_ne_nil (b : Builtin) (r : Record) : b.row r ≠ [] := by
  have hencode {cs : List Char} (h : cs ≠ []) : Text.Utf8.encode (String.ofList cs) ≠ [] := by
    obtain ⟨c, more, rfl⟩ := List.exists_cons_of_ne_nil h
    rw [Text.Utf8.encode_ofList, List.flatMap_cons]
    exact List.append_ne_nil_of_left_ne_nil String.utf8EncodeChar_ne_nil _
  cases b with
  | csv => exact hencode (List.append_ne_nil_of_right_ne_nil _ (by simp))
  | tsv => exact hencode (List.append_ne_nil_of_right_ne_nil _ (by simp))
  | jsonl => exact hencode (List.append_ne_nil_of_right_ne_nil _ (by simp))

end Format.Builtin

namespace Run

variable {r : Request} {t opened : FileTree} {o : Config.Traversal} {s : Config.Settings}
  {name : String}

/-- The stages of a run. -/
inductive Stage where
  | settings
  | format
  | document
  | creation
  | rows
  deriving DecidableEq, Repr

/-- The place of a stage in a run. -/
def Stage.number : Stage → Nat
  | .settings => 1
  | .format => 2
  | .document => 3
  | .creation => 4
  | .rows => 5

/-- The format is the one asked for, or else the one that the extension of the output
selects, or else the one of the settings. -/
inductive ChoosesFormat (r : Request) (s : Config.Settings) : String → Prop where
  | asked {name : String} (h : r.format = some name) : ChoosesFormat r s name
  | selected {extension name : String} (h : r.format = none)
      (hextension : r.outputPath.extension? = some (Text.Utf8.encode extension))
      (hname : Output.formatOfExtension? extension = some name) : ChoosesFormat r s name
  | configured (h : r.format = none)
      (hextension : ∀ extension, r.outputPath.extension? = some (Text.Utf8.encode extension) →
        Output.formatOfExtension? extension = none) : ChoosesFormat r s s.defaultFormat

private theorem selected_eq_some_iff :
    (r.outputPath.extension?.bind Text.Utf8.decode?).bind Output.formatOfExtension? = some name ↔
      ∃ extension, r.outputPath.extension? = some (Text.Utf8.encode extension) ∧
        Output.formatOfExtension? extension = some name := by
  simp only [Option.bind_eq_some_iff, Text.Utf8.decode?_eq_some_iff]
  constructor
  · rintro ⟨extension, ⟨bytes, hbytes, rfl⟩, hname⟩
    exact ⟨extension, hbytes, hname⟩
  · rintro ⟨extension, hbytes, hname⟩
    exact ⟨extension, ⟨_, hbytes, rfl⟩, hname⟩

theorem choosesFormat_iff : ChoosesFormat r s name ↔ name = r.formatName s := by
  unfold Request.formatName Output.formatName
  constructor
  · intro h
    cases h with
    | asked h => rw [h, Option.getD_some]
    | selected h hextension hname =>
      rw [h, Option.getD_none, selected_eq_some_iff.mpr ⟨_, hextension, hname⟩, Option.getD_some]
    | configured h hextension =>
      have hselected : (r.outputPath.extension?.bind Text.Utf8.decode?).bind
          Output.formatOfExtension? = none := by
        rw [Option.eq_none_iff_forall_ne_some]
        intro name hname
        obtain ⟨extension, hbytes, hname⟩ := selected_eq_some_iff.mp hname
        rw [hextension extension hbytes] at hname
        cases hname
      rw [h, Option.getD_none, hselected, Option.getD_none]
  · rintro rfl
    cases hformat : r.format with
    | some name => exact .asked hformat
    | none =>
      rw [Option.getD_none]
      cases hselected : (r.outputPath.extension?.bind Text.Utf8.decode?).bind
          Output.formatOfExtension? with
      | some name =>
        obtain ⟨extension, hbytes, hname⟩ := selected_eq_some_iff.mp hselected
        exact .selected hformat hbytes hname
      | none =>
        refine .configured hformat fun extension hbytes => ?_
        rw [Option.eq_none_iff_forall_ne_some] at hselected ⊢
        exact fun name hname => hselected name (selected_eq_some_iff.mpr ⟨_, hbytes, hname⟩)

/-- What can go wrong in a stage. It says what the stage needs from earlier ones and leaves
open whether these have faults of their own. -/
inductive Fault (r : Request) (t : FileTree) (o : Config.Traversal) : Stage → Error → Prop where
  | settings {e : Config.Error} (h : r.settings t o = .error e) : Fault r t o .settings (.config e)
  | format {s : Config.Settings} {name : String} (hs : r.settings t o = .ok s)
      (hname : ChoosesFormat r s name) (h : ¬ (name = "csv" ∨ name = "tsv" ∨ name = "jsonl")) :
      Fault r t o .format (.format (.formatNotFound name))
  | document {s : Config.Settings} {e : Error} (hs : r.settings t o = .ok s)
      (h : readDocument t r.input s.strictMarkers = .error e) : Fault r t o .document e
  | creation {cause : IoError} (h : t.create r.outputPath = .error cause) :
      Fault r t o .creation (.outputFailure r.outputPath cause)
  | rows {s : Config.Settings} {d : Document} {place : Place} {opened : FileTree}
      (hs : r.settings t o = .ok s) (hd : readDocument t r.input s.strictMarkers = .ok d)
      (hopen : t.create r.outputPath = .ok (place, opened))
      (hfull : opened.find? place = some .full) (h : advertisements s d ≠ []) :
      Fault r t o .rows (.outputFailure r.outputPath .noSpace)

/-- A fault of the first stage that has one. -/
def FirstFault (r : Request) (t : FileTree) (o : Config.Traversal) (stage : Stage) (e : Error) :
    Prop :=
  Fault r t o stage e ∧
    ∀ earlier : Stage, earlier.number < stage.number → ∀ e', ¬ Fault r t o earlier e'

theorem findFormatter_name (b : Format.Builtin) : findFormatter b.name = .ok b.formatter := by
  cases b <;> rfl

theorem findFormatter_eq_error (h : ¬ (name = "csv" ∨ name = "tsv" ∨ name = "jsonl")) :
    findFormatter name = .error (.format (.formatNotFound name)) := by
  unfold findFormatter
  split
  · rfl
  · rename_i hget
    obtain ⟨b, hname, _⟩ := Format.Registry.get?_defaults hget
    exact absurd (Format.Builtin.exists_name_eq_iff.mp ⟨b, hname⟩) h

/-- Writing fails on the full device if there is something to write, and nowhere else. -/
theorem write_sinkAt (b : Format.Builtin) (records : List Record) (place : Place) :
    (opened.find? place = some .full ∧ records ≠ [] ∧
      b.formatter.write records (sinkAt opened place) = .error (.io .noSpace)) ∨
    (¬ (opened.find? place = some .full ∧ records ≠ []) ∧
      ∃ n sink, b.formatter.write records (sinkAt opened place) = .ok (n, sink)) := by
  by_cases hfull : opened.find? place = some .full
  · have hsink : sinkAt opened place = { capacity := some 0, refusal := .noSpace } := by
      rw [sinkAt, hfull]
    rw [hsink, b.write_eq records rfl]
    cases records with
    | nil => exact .inr ⟨fun h => h.2 rfl, 0, _, rfl⟩
    | cons r more =>
      refine .inl ⟨hfull, List.cons_ne_nil r more, ?_⟩
      have hrows : (r :: more).flatMap b.row ≠ [] := by
        rw [List.flatMap_cons]
        exact List.append_ne_nil_of_left_ne_nil (b.row_ne_nil r) _
      have hroom : ¬ Format.Sink.hasRoom { capacity := some 0, refusal := .noSpace }
          ((r :: more).flatMap b.row).length = true := by
        have hlength := List.length_pos_iff.mpr hrows
        simp only [Format.Sink.hasRoom, List.length_nil, decide_eq_true_eq]
        omega
      rw [Format.Sink.push, if_neg hroom]
  · refine .inr ⟨fun h => hfull h.1, ?_⟩
    have hcapacity : (sinkAt opened place).capacity = none := by
      unfold sinkAt
      split
      · rename_i h
        exact absurd h hfull
      · rfl
    exact ⟨_, _, b.write_unlimited records hcapacity⟩

/-! Each stage is reached if those before it have no fault. -/

theorem not_fault_settings (hs : r.settings t o = .ok s) (e : Error) :
    ¬ Fault r t o .settings e := by
  intro hfault
  cases hfault with
  | settings h => rw [hs] at h; cases h

theorem not_fault_format (hs : r.settings t o = .ok s) {b : Format.Builtin}
    (hb : b.name = r.formatName s) (e : Error) : ¬ Fault r t o .format e := by
  intro hfault
  cases hfault with
  | format hs' hname h =>
    cases hs.symm.trans hs'
    exact h (Format.Builtin.exists_name_eq_iff.mp ⟨b, hb.trans (choosesFormat_iff.mp hname).symm⟩)

theorem not_fault_document {d : Document} (hs : r.settings t o = .ok s)
    (hd : readDocument t r.input s.strictMarkers = .ok d) (e : Error) :
    ¬ Fault r t o .document e := by
  intro hfault
  cases hfault with
  | document hs' h => cases hs.symm.trans hs'; cases hd.symm.trans h

theorem not_fault_creation {place : Place} (ho : t.create r.outputPath = .ok (place, opened))
    (e : Error) : ¬ Fault r t o .creation e := by
  intro hfault
  cases hfault with
  | creation h => cases ho.symm.trans h

theorem not_fault_rows {place : Place} {d : Document} (hs : r.settings t o = .ok s)
    (hd : readDocument t r.input s.strictMarkers = .ok d)
    (ho : t.create r.outputPath = .ok (place, opened))
    (h : ¬ (opened.find? place = some .full ∧ advertisements s d ≠ [])) (e : Error) :
    ¬ Fault r t o .rows e := by
  intro hfault
  cases hfault with
  | rows hs' hd' ho' hfull hne =>
    cases hs.symm.trans hs'
    cases hd.symm.trans hd'
    cases ho.symm.trans ho'
    exact h ⟨hfull, hne⟩

theorem run_of_settings {e : Config.Error} (hs : r.settings t o = .error e) :
    FirstFault r t o .settings (.config e) ∧ run r t o = (.error (.config e), t) := by
  refine ⟨⟨.settings hs, ?_⟩, run_of_settings_eq_error hs⟩
  intro earlier h
  exact absurd h (by cases earlier <;> decide)

theorem run_of_format (hs : r.settings t o = .ok s)
    (h : ¬ (r.formatName s = "csv" ∨ r.formatName s = "tsv" ∨ r.formatName s = "jsonl")) :
    FirstFault r t o .format (.format (.formatNotFound (r.formatName s))) ∧
      run r t o = (.error (.format (.formatNotFound (r.formatName s))), t) := by
  refine ⟨⟨.format hs (choosesFormat_iff.mpr rfl) h, ?_⟩, ?_⟩
  · intro earlier hearlier
    cases earlier with
    | settings => exact not_fault_settings hs
    | format | document | creation | rows => exact absurd hearlier (by decide)
  · rw [run, plan_of_settings hs, findFormatter_eq_error h]
    rfl

theorem run_of_document {b : Format.Builtin} {e : Error} (hs : r.settings t o = .ok s)
    (hb : b.name = r.formatName s) (hd : readDocument t r.input s.strictMarkers = .error e) :
    FirstFault r t o .document e ∧ run r t o = (.error e, t) := by
  refine ⟨⟨.document hs hd, ?_⟩, ?_⟩
  · intro earlier hearlier
    cases earlier with
    | settings => exact not_fault_settings hs
    | format => exact not_fault_format hs hb
    | document | creation | rows => exact absurd hearlier (by decide)
  · rw [run, plan_of_settings hs, ← hb, findFormatter_name, hd]
    rfl

theorem plan_of_document {b : Format.Builtin} {d : Document} (hs : r.settings t o = .ok s)
    (hb : b.name = r.formatName s) (hd : readDocument t r.input s.strictMarkers = .ok d) :
    r.plan t o = .ok ⟨r.outputPath, r.formatName s, b.formatter, d, s.expandOptions⟩ := by
  rw [plan_of_settings hs, ← hb, findFormatter_name, hd]
  rfl

theorem run_of_creation {b : Format.Builtin} {d : Document} {cause : IoError}
    (hs : r.settings t o = .ok s) (hb : b.name = r.formatName s)
    (hd : readDocument t r.input s.strictMarkers = .ok d)
    (ho : t.create r.outputPath = .error cause) :
    FirstFault r t o .creation (.outputFailure r.outputPath cause) ∧
      run r t o = (.error (.outputFailure r.outputPath cause), t) := by
  refine ⟨⟨.creation ho, ?_⟩, ?_⟩
  · intro earlier hearlier
    cases earlier with
    | settings => exact not_fault_settings hs
    | format => exact not_fault_format hs hb
    | document => exact not_fault_document hs hd
    | creation | rows => exact absurd hearlier (by decide)
  · rw [run, plan_of_document hs hb hd]
    simp only [ho]

/-- Once the output is open only the rows can fail. -/
theorem run_of_open {b : Format.Builtin} {d : Document} {place : Place}
    (hs : r.settings t o = .ok s) (hb : b.name = r.formatName s)
    (hd : readDocument t r.input s.strictMarkers = .ok d)
    (ho : t.create r.outputPath = .ok (place, opened)) :
    (FirstFault r t o .rows (.outputFailure r.outputPath .noSpace) ∧
      (run r t o).1 = .error (.outputFailure r.outputPath .noSpace)) ∨
    ((∀ stage e, ¬ Fault r t o stage e) ∧ ∃ summary, (run r t o).1 = .ok summary) := by
  rcases write_sinkAt b (advertisements s d) place with
    ⟨hfull, hne, hwrite⟩ | ⟨hroom, n, sink, hwrite⟩
  · refine .inl ⟨⟨.rows hs hd ho hfull hne, ?_⟩, ?_⟩
    · intro earlier hearlier
      cases earlier with
      | settings => exact not_fault_settings hs
      | format => exact not_fault_format hs hb
      | document => exact not_fault_document hs hd
      | creation => exact not_fault_creation ho
      | rows => exact absurd hearlier (by decide)
    · rw [run, plan_of_document hs hb hd]
      simp only [ho, Plan.write, drain_combinations, hwrite]
  · refine .inr ⟨?_, ?_⟩
    · intro stage
      cases stage with
      | settings => exact not_fault_settings hs
      | format => exact not_fault_format hs hb
      | document => exact not_fault_document hs hd
      | creation => exact not_fault_creation ho
      | rows => exact not_fault_rows hs hd ho hroom
    · rw [run, plan_of_document hs hb hd]
      simp only [ho, Plan.write, drain_combinations, hwrite]
      exact ⟨_, rfl⟩

/-- Either some stage has a fault, and then the run fails with that of the first one, or none
has, and then it succeeds. -/
theorem run_cases (r : Request) (t : FileTree) (o : Config.Traversal) :
    (∃ stage e, FirstFault r t o stage e ∧ (run r t o).1 = .error e ∧
      (stage ≠ .rows → (run r t o).2 = t)) ∨
    ((∀ stage e, ¬ Fault r t o stage e) ∧ ∃ summary, (run r t o).1 = .ok summary) := by
  cases hs : r.settings t o with
  | error e =>
    obtain ⟨hfirst, hrun⟩ := run_of_settings hs
    exact .inl ⟨_, _, hfirst, by rw [hrun], fun _ => by rw [hrun]⟩
  | ok s =>
    by_cases hname : r.formatName s = "csv" ∨ r.formatName s = "tsv" ∨ r.formatName s = "jsonl"
    · obtain ⟨b, hb⟩ := Format.Builtin.exists_name_eq_iff.mpr hname
      cases hd : readDocument t r.input s.strictMarkers with
      | error e =>
        obtain ⟨hfirst, hrun⟩ := run_of_document hs hb hd
        exact .inl ⟨_, _, hfirst, by rw [hrun], fun _ => by rw [hrun]⟩
      | ok d =>
        cases ho : t.create r.outputPath with
        | error cause =>
          obtain ⟨hfirst, hrun⟩ := run_of_creation hs hb hd ho
          exact .inl ⟨_, _, hfirst, by rw [hrun], fun _ => by rw [hrun]⟩
        | ok result =>
          rcases run_of_open hs hb hd ho with ⟨hfirst, hrun⟩ | hok
          · exact .inl ⟨_, _, hfirst, hrun, fun h => absurd rfl h⟩
          · exact .inr hok
    · obtain ⟨hfirst, hrun⟩ := run_of_format hs hname
      exact .inl ⟨_, _, hfirst, by rw [hrun], fun _ => by rw [hrun]⟩

/-- A stage has one fault at most. -/
theorem Fault.unique {stage : Stage} {e e' : Error} (h : Fault r t o stage e)
    (h' : Fault r t o stage e') : e = e' := by
  cases h with
  | settings h => cases h' with | settings h' => cases h.symm.trans h'; rfl
  | format hs hname _ =>
    cases h' with
    | format hs' hname' _ =>
      cases hs.symm.trans hs'
      rw [choosesFormat_iff.mp hname, choosesFormat_iff.mp hname']
  | document hs h =>
    cases h' with
    | document hs' h' => cases hs.symm.trans hs'; cases h.symm.trans h'; rfl
  | creation h => cases h' with | creation h' => cases h.symm.trans h'; rfl
  | rows => cases h' with | rows => rfl

theorem FirstFault.unique {stage stage' : Stage} {e e' : Error} (h : FirstFault r t o stage e)
    (h' : FirstFault r t o stage' e') : stage = stage' ∧ e = e' := by
  have hstage : stage = stage' := by
    have hnumber : stage.number = stage'.number := by
      rcases Nat.lt_trichotomy stage.number stage'.number with hlt | heq | hgt
      · exact absurd h.1 (h'.2 stage hlt e)
      · exact heq
      · exact absurd h'.1 (h.2 stage' hgt e')
    cases stage <;> cases stage' <;> first | rfl | cases hnumber
  subst hstage
  exact ⟨rfl, h.1.unique h'.1⟩

/-- A run succeeds if no stage has a fault. Otherwise it fails with the fault of the first
stage that has one, whether or not later ones have faults as well, and if that stage is not
the writing of rows then the tree is as it was. -/
theorem run_fails_at_first_fault (r : Request) (t : FileTree) (o : Config.Traversal) :
    ((∃ summary, (run r t o).1 = .ok summary) ↔ ∀ stage e, ¬ Fault r t o stage e) ∧
    (∀ e, (run r t o).1 = .error e ↔ ∃ stage, FirstFault r t o stage e) ∧
    (∀ stage e, FirstFault r t o stage e → stage ≠ .rows → (run r t o).2 = t) := by
  rcases run_cases r t o with ⟨stage, e, hfirst, hrun, htree⟩ | ⟨hnone, summary, hrun⟩
  · refine ⟨?_, ?_, ?_⟩
    · exact iff_of_false (fun ⟨summary, hok⟩ => by rw [hrun] at hok; cases hok)
        fun h => h stage e hfirst.1
    · intro e'
      rw [hrun, Except.error.injEq]
      exact ⟨fun he => ⟨stage, he ▸ hfirst⟩, fun ⟨stage', h⟩ => (hfirst.unique h).2⟩
    · intro stage' e' h hrows
      obtain ⟨rfl, _⟩ := hfirst.unique h
      exact htree hrows
  · refine ⟨iff_of_true ⟨summary, hrun⟩ hnone, ?_, ?_⟩
    · intro e
      rw [hrun]
      exact iff_of_false nofun fun ⟨stage, h⟩ => hnone stage e h.1
    · exact fun stage e h => absurd h.1 (hnone stage e)

/-- A request for an unknown format, whose input is missing as well. -/
def unknownFormatRequest : Request where
  input := .ofString "a"
  output := some (.ofString "o")
  format := some "xml"

/-- A tree with an output of an earlier run. -/
def earlierOutput : FileTree := ⟨[([Text.Utf8.encode "o"], .file (Text.Utf8.encode "x,y\n"))], []⟩

/-- The format is looked up before the input, and the earlier output stays. -/
theorem run_unknown_format :
    Fault unknownFormatRequest earlierOutput .asWritten .document (.inputNotFound (.ofString "a")) ∧
      FirstFault unknownFormatRequest earlierOutput .asWritten .format
        (.format (.formatNotFound "xml")) ∧
      (run unknownFormatRequest earlierOutput).1 = .error (.format (.formatNotFound "xml")) ∧
      (run unknownFormatRequest earlierOutput).2 = earlierOutput := by
  have hs : unknownFormatRequest.settings earlierOutput = .ok {} := by decide +kernel
  have hd : readDocument earlierOutput (.ofString "a") false =
      .error (.inputNotFound (.ofString "a")) := by decide +kernel
  have hfirst : FirstFault unknownFormatRequest earlierOutput .asWritten .format
      (.format (.formatNotFound "xml")) := (run_of_format hs (by decide)).1
  obtain ⟨_, herror, htree⟩ :=
    run_fails_at_first_fault unknownFormatRequest earlierOutput .asWritten
  exact ⟨.document hs hd, hfirst, (herror _).mpr ⟨_, hfirst⟩, htree _ _ hfirst (by decide)⟩

end Run
end AdTemplates
