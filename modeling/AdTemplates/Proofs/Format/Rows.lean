import AdTemplates.Format.Registry
import AdTemplates.Proofs.Text.Utf8

/-! What formatters leave in a sink. However rows are collected and cut before they are
written out, the sink gets them one after the other, or refuses as soon as they do not fit.
The registry's own formatters each write one row per advertisement and nothing else, and no
refusal is lost. -/
namespace AdTemplates.Format

namespace Sink

variable {s t : Sink}

theorem hasRoom_mono {m n : Nat} (hle : m ≤ n) (h : s.hasRoom n = true) : s.hasRoom m = true := by
  unfold hasRoom at h ⊢
  cases hc : s.capacity with
  | none => rfl
  | some limit =>
    rw [hc] at h
    simp only [decide_eq_true_eq] at h ⊢
    omega

theorem hasRoom_written (bytes : List UInt8) (n : Nat) :
    hasRoom { s with written := s.written ++ bytes } n = s.hasRoom (bytes.length + n) := by
  unfold hasRoom
  cases s.capacity with
  | none => rfl
  | some limit => simp only [List.length_append, Nat.add_assoc]

theorem push_nil (h : s.hasRoom 0 = true) : s.push [] = .ok s := by
  rw [push, List.length_nil, if_pos h, List.append_nil]

/-- A write in two parts is a write of both. -/
theorem push_append (s : Sink) (a b : List UInt8) :
    s.push (a ++ b) =
      match s.push a with
      | .error e => .error e
      | .ok t => t.push b := by
  unfold push
  rw [List.length_append]
  by_cases ha : s.hasRoom a.length = true
  · rw [if_pos ha]
    simp only [hasRoom_written, List.append_assoc]
  · have hab : ¬ s.hasRoom (a.length + b.length) = true := fun h =>
      ha (hasRoom_mono (Nat.le_add_right _ _) h)
    rw [if_neg ha, if_neg hab]

theorem hasRoom_of_push {bytes : List UInt8} (h : s.push bytes = .ok t) : t.hasRoom 0 = true := by
  unfold push at h
  split at h
  · rename_i hroom
    cases h
    rw [hasRoom_written]
    exact hroom
  · cases h

end Sink

namespace Delimited

variable {delimiter : Char} {w : Writer}

namespace Writer

/-- What becomes of a writer that takes in bytes. Whatever comes after them, the sink gets
what had been collected, then the bytes and then the rest, or refuses. -/
def TakesIn (w : Writer) (bytes : List UInt8) : Except IoError Writer → Prop
  | .error cause => ∀ more, w.sink.push (w.buffer ++ (bytes ++ more)) = .error cause
  | .ok v => v.width = w.width ∧
    ∀ more, w.sink.push (w.buffer ++ (bytes ++ more)) = v.sink.push (v.buffer ++ more)

/-- Where the bytes are cut, when a buffer is full, is never seen. -/
theorem takesIn_collect (w : Writer) (bytes : List UInt8) : TakesIn w bytes (w.collect bytes) := by
  have hsplit (w : Writer) (bytes more : List UInt8) : w.buffer ++ (bytes ++ more) =
      (w.buffer ++ bytes).take bufferSize ++ ((w.buffer ++ bytes).drop bufferSize ++ more) := by
    rw [← List.append_assoc, ← List.append_assoc, List.take_append_drop]
  fun_induction collect w bytes with
  | case1 w bytes held h => exact ⟨rfl, fun more => by rw [List.append_assoc]⟩
  | case2 w bytes held h cause hpush =>
    intro more
    rw [hsplit, Sink.push_append, hpush]
  | case3 w bytes held h sink hpush ih =>
    have hrest (more : List UInt8) : w.sink.push (w.buffer ++ (bytes ++ more)) =
        sink.push (held.drop bufferSize ++ more) := by
      rw [hsplit, Sink.push_append, hpush]
    cases hresult : collect { w with sink, buffer := [] } (held.drop bufferSize) with
    | error cause =>
      rw [hresult] at ih
      exact fun more => (hrest more).trans (ih more)
    | ok v =>
      rw [hresult] at ih
      exact ⟨ih.1, fun more => (hrest more).trans (ih.2 more)⟩

/-- A row with as many fields as the first one is written, unless the sink refuses. -/
theorem writeRow_cases (fields : List (List Char)) (hwidth : ∀ n ∈ w.width, n = fields.length) :
    let bytes := Text.Utf8.encode (String.ofList (joined delimiter fields)) ++ lineEnd
    (∃ cause, w.writeRow delimiter fields = .error (.io cause) ∧
      ∀ more, w.sink.push (w.buffer ++ (bytes ++ more)) = .error cause) ∨
    ∃ v, w.writeRow delimiter fields = .ok v ∧ v.width = some fields.length ∧
      ∀ more, w.sink.push (w.buffer ++ (bytes ++ more)) = v.sink.push (v.buffer ++ more) := by
  intro bytes
  have hfields := takesIn_collect w (Text.Utf8.encode (String.ofList (joined delimiter fields)))
  unfold writeRow
  cases hcollect : w.collect (Text.Utf8.encode (String.ofList (joined delimiter fields))) with
  | error cause =>
    rw [hcollect] at hfields
    refine .inl ⟨cause, rfl, fun more => ?_⟩
    rw [List.append_assoc]
    exact hfields _
  | ok v =>
    rw [hcollect] at hfields
    obtain ⟨hsame, hfields⟩ := hfields
    have hlength : v.width.getD fields.length = fields.length := by
      rw [hsame]
      cases hw : w.width with
      | none => rfl
      | some n => exact hwidth n hw
    have hend := takesIn_collect { v with width := some fields.length } lineEnd
    simp only [hlength, if_true]
    cases hcollect : collect { v with width := some fields.length } lineEnd with
    | error cause =>
      rw [hcollect] at hend
      refine .inl ⟨cause, rfl, fun more => ?_⟩
      rw [List.append_assoc, hfields]
      exact hend more
    | ok u =>
      rw [hcollect] at hend
      refine .inr ⟨u, rfl, hend.1, fun more => ?_⟩
      rw [List.append_assoc, hfields]
      exact hend.2 more

end Writer

theorem rowBytes_eq (r : Record) : rowBytes delimiter r =
    Text.Utf8.encode (String.ofList (joined delimiter (fields r))) ++ lineEnd := by
  rw [rowBytes, row, String.ofList_append, Text.Utf8.encode_append]
  rfl

theorem writeRows_cases (records : List Record) (hwidth : ∀ n ∈ w.width, n = 2) :
    (∃ cause, writeRows delimiter w records = .error (.io cause) ∧
      w.sink.push (w.buffer ++ records.flatMap (rowBytes delimiter)) = .error cause) ∨
    ∃ v, writeRows delimiter w records = .ok v ∧
      w.sink.push (w.buffer ++ records.flatMap (rowBytes delimiter)) = v.flush := by
  induction records generalizing w with
  | nil => exact .inr ⟨w, rfl, by rw [List.flatMap_nil, List.append_nil, Writer.flush]⟩
  | cons r more ih =>
    rw [writeRows, List.flatMap_cons, rowBytes_eq]
    rcases Writer.writeRow_cases (fields r) hwidth with
      ⟨cause, hrow, hpush⟩ | ⟨v, hrow, hsame, hpush⟩
    · rw [hrow]
      exact .inl ⟨cause, rfl, hpush _⟩
    · rw [hrow, hpush]
      exact ih (by rw [hsame]; rintro n ⟨⟩; rfl)

/-- The rows reach the sink as one text, or it refuses them. Since every row has two fields,
nothing else can go wrong. -/
theorem writeRecords_eq (records : List Record) (s : Sink) :
    writeRecords delimiter records s =
      match s.push (records.flatMap (rowBytes delimiter)) with
      | .error cause => .error (.io cause)
      | .ok t => .ok (records.length, t) := by
  unfold writeRecords
  rcases writeRows_cases (w := { sink := s }) records (by simp) with
    ⟨cause, hrows, hpush⟩ | ⟨v, hrows, hpush⟩
  · rw [List.nil_append] at hpush
    rewrite [hrows, hpush]
    rfl
  · rw [List.nil_append] at hpush
    rewrite [hrows, hpush]
    rfl

end Delimited

namespace JsonLines

theorem writeLines_eq (records : List Record) {s : Sink} (h : s.hasRoom 0 = true) :
    writeLines s records = (s.push (records.flatMap rowBytes)).mapError .io := by
  induction records generalizing s with
  | nil => rw [writeLines, List.flatMap_nil, Sink.push_nil h]; rfl
  | cons r more ih =>
    have hbytes : rowBytes r = Text.Utf8.encode (String.ofList (object r)) ++ lineEnd := by
      rw [rowBytes, String.ofList_append, Text.Utf8.encode_append]
      rfl
    rw [writeLines, List.flatMap_cons, hbytes, List.append_assoc, Sink.push_append]
    cases hobject : s.push (Text.Utf8.encode (String.ofList (object r))) with
    | error cause =>
      rewrite [writeObject, hobject]
      rfl
    | ok t =>
      have hwrite : writeObject s r = .ok t := congrArg (Except.mapError ObjectError.io) hobject
      rw [hwrite]
      dsimp only
      rw [Sink.push_append]
      cases hend : t.push lineEnd with
      | error cause => rfl
      | ok u => exact ih (Sink.hasRoom_of_push hend)

end JsonLines

/-- The formats that the registry knows from the beginning. -/
inductive Builtin where
  | csv
  | tsv
  | jsonl
  deriving DecidableEq, Repr

namespace Builtin

def formatter : Builtin → Formatter
  | .csv => Delimited.csv
  | .tsv => Delimited.tsv
  | .jsonl => JsonLines.jsonl

def name (b : Builtin) : String := b.formatter.name

/-- The row of an advertisement. -/
def row : Builtin → Record → List UInt8
  | .csv => Delimited.rowBytes ','
  | .tsv => Delimited.rowBytes '\t'
  | .jsonl => JsonLines.rowBytes

/-- Writing puts the rows into the sink in their order and counts them. -/
theorem write_eq (b : Builtin) (records : List Record) {s : Sink} (h : s.hasRoom 0 = true) :
    b.formatter.write records s =
      match s.push (records.flatMap b.row) with
      | .error e => .error (.io e)
      | .ok t => .ok (records.length, t) := by
  cases b with
  | csv => exact Delimited.writeRecords_eq records s
  | tsv => exact Delimited.writeRecords_eq records s
  | jsonl =>
    change JsonLines.writeRecords records s = _
    rw [JsonLines.writeRecords, JsonLines.writeLines_eq records h]
    change ((s.push (records.flatMap JsonLines.rowBytes)).mapError Error.io).map _ =
      match s.push (records.flatMap JsonLines.rowBytes) with
      | .error e => .error (.io e)
      | .ok t => .ok (records.length, t)
    cases s.push (records.flatMap JsonLines.rowBytes) <;> rfl

/-- A sink without a limit gets all rows. -/
theorem write_unlimited (b : Builtin) (records : List Record) {s : Sink} (h : s.capacity = none) :
    b.formatter.write records s =
      .ok (records.length, { s with written := s.written ++ records.flatMap b.row }) := by
  have hroom (n : Nat) : s.hasRoom n = true := by
    unfold Sink.hasRoom
    rw [h]
  rw [b.write_eq records (hroom 0), Sink.push, if_pos (hroom _)]

/-- On a sink of limited capacity writing succeeds if all rows fit, and then the sink holds
the rows one after the other and nothing else. If they do not fit the refusal of the sink is
reported, and no other error ever is. A row is what is written for an advertisement alone. -/
theorem write_limited (b : Builtin) (records : List Record) (limit : Nat) (cause : IoError) :
    let sink : Sink := { capacity := some limit, refusal := cause }
    let rows := records.flatMap b.row
    (∀ n t, b.formatter.write records sink = .ok (n, t) ↔
      rows.length ≤ limit ∧ n = records.length ∧ t = { sink with written := rows }) ∧
    (∀ e, b.formatter.write records sink = .error e ↔ limit < rows.length ∧ e = .io cause) ∧
    (∀ reason, b.formatter.write records sink ≠ .error (.serialization reason)) ∧
    ∀ r, b.formatter.write [r] {} = .ok (1, { written := b.row r }) := by
  intro sink rows
  have hroom (n : Nat) : sink.hasRoom n = true ↔ n ≤ limit := by
    simp only [sink, Sink.hasRoom, List.length_nil, Nat.zero_add, decide_eq_true_eq]
  have hwrite := b.write_eq records ((hroom 0).mpr (Nat.zero_le limit))
  have hrow (r : Record) : b.formatter.write [r] {} = .ok (1, { written := b.row r }) := by
    rw [b.write_unlimited [r] rfl, List.flatMap_singleton]
    rfl
  by_cases hfits : rows.length ≤ limit
  · have hok : b.formatter.write records sink =
        .ok (records.length, { sink with written := rows }) := by
      rw [hwrite, Sink.push, if_pos ((hroom _).mpr hfits)]
      rfl
    rw [hok]
    refine ⟨fun n t => ?_, fun e => ?_, nofun, hrow⟩
    · rw [Except.ok.injEq, Prod.mk.injEq]
      exact ⟨fun h => ⟨hfits, h.1.symm, h.2.symm⟩, fun h => ⟨h.2.1.symm, h.2.2.symm⟩⟩
    · exact iff_of_false nofun fun h => absurd hfits (Nat.not_le.mpr h.1)
  · have herror : b.formatter.write records sink = .error (.io cause) := by
      rw [hwrite, Sink.push, if_neg fun h => hfits ((hroom _).mp h)]
    rw [herror]
    refine ⟨fun n t => ?_, fun e => ?_, nofun, hrow⟩
    · exact iff_of_false nofun fun h => hfits h.1
    · rw [Except.error.injEq]
      exact ⟨fun h => ⟨Nat.not_le.mp hfits, h.symm⟩, fun h => h.2.symm⟩

end Builtin

theorem Registry.get?_defaults {name : String} {f : Formatter}
    (h : defaults.get? name = some f) : ∃ b : Builtin, b.name = name ∧ b.formatter = f := by
  rw [defaults, get?_register, get?_register, get?_register] at h
  split at h
  · rename_i hname
    exact ⟨.jsonl, hname, Option.some.inj h⟩
  · split at h
    · rename_i hname
      exact ⟨.tsv, hname, Option.some.inj h⟩
    · split at h
      · rename_i hname
        exact ⟨.csv, hname, Option.some.inj h⟩
      · cases h

end AdTemplates.Format
