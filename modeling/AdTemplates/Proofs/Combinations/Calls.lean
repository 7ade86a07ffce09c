import AdTemplates.Proofs.Combinations.Drain

/-! A cursor that is consumed bit by bit. Calls for the next advertisement, for one further
on, for several and for the number of those left may come in any order. Each reads on in
the enumeration from where the one before stopped, and no further than it has to. -/
namespace AdTemplates.Combinations

/-- A way to consume a cursor. -/
inductive Call where
  | next
  | nth (n : Nat)
  | take (n : Nat)
  | count
  deriving DecidableEq, Repr

/-- What a call returns. -/
inductive Answer where
  | record (r : Option Record)
  | records (rs : List Record)
  | number (n : Nat)
  deriving DecidableEq, Repr

namespace Call

def run : Call → Combinations → Answer × Combinations
  | .next, c => (.record c.next.1, c.next.2)
  | .nth n, c => (.record (c.nth n).1, (c.nth n).2)
  | .take n, c => (.records (c.take n).1, (c.take n).2)
  | .count, c => (.number c.count.1, c.count.2)

/-- How many advertisements a call consumes if there are as many. -/
def wanted : Call → Option Nat
  | .next => some 1
  | .nth n => some (n + 1)
  | .take n => some n
  | .count => none

/-- What a call returns that has consumed some advertisements. -/
def answer : Call → List Record → Answer
  | .next, taken => .record taken.head?
  | .nth n, taken => .record taken[n]?
  | .take _, taken => .records taken
  | .count, taken => .number taken.length

theorem consumes {c : Combinations} (call : Call) (h : c.WellPlaced) :
    ∃ taken, Consumes c call.wanted taken (call.run c).2 ∧ (call.run c).1 = call.answer taken := by
  cases call with
  | next => exact ⟨c.next.1.toList, h.consumes_next, by rw [run, answer]; cases c.next.1 <;> rfl⟩
  | nth n =>
    obtain ⟨taken, htaken, hresult⟩ := h.consumes_nth n
    exact ⟨taken, htaken, congrArg Answer.record hresult⟩
  | take n => exact ⟨_, h.consumes_take n, rfl⟩
  | count => exact ⟨_, h.consumes_drain, rfl⟩

end Call

/-- The answers to calls that come one after the other, each with the number of combinations
that have been left out by then. -/
def runCalls : List Call → Combinations → List (Answer × Nat) × Combinations
  | [], c => ([], c)
  | call :: calls, c =>
    let (answer, d) := call.run c
    let (answers, last) := runCalls calls d
    ((answer, d.skipped) :: answers, last)

/-- Calls, their answers and what they consume, while a place moves along an enumeration. -/
inductive Session (all : List Record) (keep : Record → Bool) :
    Nat → List Call → List (Answer × Nat) → List Record → Nat → Prop where
  | done (p : Nat) : Session all keep p [] [] [] p
  | call {p q last : Nat} {call : Call} {calls : List Call} {answers : List (Answer × Nat)}
      {taken more : List Record} (h : Reads all keep call.wanted p taken q)
      (hmore : Session all keep q calls answers more last) :
      Session all keep p (call :: calls) ((call.answer taken, rejected all keep q) :: answers)
        (taken ++ more) last

/-- Whatever the calls were, together they have consumed the kept records between the place
they started from and the place they stopped at. -/
theorem Session.passed {all : List Record} {keep : Record → Bool} {p q : Nat} {calls : List Call}
    {answers : List (Answer × Nat)} {taken : List Record}
    (h : Session all keep p calls answers taken q) :
    p ≤ q ∧ (all.extract p q).filter keep = taken := by
  induction h with
  | done p => exact ⟨Nat.le_refl p, by rw [extract_self, List.filter_nil]⟩
  | call h _ ih =>
    obtain ⟨hle, hmore⟩ := ih
    refine ⟨Nat.le_trans h.le hle, ?_⟩
    rw [← extract_append_extract h.le hle, List.filter_append, h.passed, hmore]

/-- The calls on a cursor follow its offset, and the cursor has counted what it left out. -/
theorem session_runCalls {c : Combinations} (h : c.WellPlaced)
    (hskipped : c.skipped = rejected c.all c.options.keeps c.offset) (calls : List Call) :
    ∃ taken last, (runCalls calls c).2 = last ∧ last.WellPlaced ∧ last.input = c.input ∧
      last.skipped = rejected c.all c.options.keeps last.offset ∧
      Session c.all c.options.keeps c.offset calls (runCalls calls c).1 taken last.offset := by
  induction calls generalizing c with
  | nil => exact ⟨[], c, rfl, h, rfl, hskipped, .done _⟩
  | cons call calls ih =>
    obtain ⟨taken, htaken, hanswer⟩ := call.consumes h
    have hcount : (call.run c).2.skipped =
        rejected c.all c.options.keeps (call.run c).2.offset := by
      rw [htaken.skipped, hskipped, rejected_add htaken.reads.le]
    have hstep := ih htaken.wellPlaced (by
      rw [all_congr htaken.input, options_congr htaken.input]
      exact hcount)
    rw [all_congr htaken.input, options_congr htaken.input] at hstep
    obtain ⟨more, last, hlast, hplaced, hinput, hcounted, hmore⟩ := hstep
    refine ⟨taken ++ more, last, hlast, hplaced, hinput.trans htaken.input, hcounted, ?_⟩
    have hanswers : (runCalls (call :: calls) c).1 =
        (call.answer taken, rejected c.all c.options.keeps (call.run c).2.offset) ::
          (runCalls calls (call.run c).2).1 := by
      rw [← hanswer, ← hcount]
      rfl
    rw [hanswers]
    exact .call htaken.reads hmore

theorem rejected_of_not_skipLong {options : ExpandOptions} (h : options.skipLong = false)
    (all : List Record) (p : Nat) : rejected all options.keeps p = 0 := by
  rw [rejected, length_filter_not_keeps, h]
  rfl

theorem Session.skipped_eq_zero {all : List Record} {options : ExpandOptions} {p q : Nat}
    {calls : List Call} {answers : List (Answer × Nat)} {taken : List Record}
    (h : Session all options.keeps p calls answers taken q) (hs : options.skipLong = false) :
    ∀ answer ∈ answers, answer.2 = 0 := by
  induction h with
  | done p => exact List.forall_mem_nil _
  | call _ _ ih => exact List.forall_mem_cons.mpr ⟨rejected_of_not_skipLong hs _ _, ih⟩

/-- After any calls there is a place in the enumeration that all of them have moved to, one
after the other. Each has consumed the next advertisements to keep and stopped right behind
the last of these, or at the end if it wanted more; after each the count of what was left
out is that of the combinations in front of the place. Together the calls have consumed what
is to be kept in front of the last place, in order, and the walk can go on to the rest.
While nothing is left out the count stays at zero. -/
theorem runCalls_start (keywords titles texts : List String) (options : ExpandOptions)
    (calls : List Call) :
    let all := expansion keywords titles texts
    let session := runCalls calls (start keywords titles texts options)
    ∃ p taken, p ≤ all.length ∧
      Session all options.keeps 0 calls session.1 taken p ∧
      taken = (all.take p).filter options.keeps ∧
      taken ++ session.2.drain.1 = all.filter options.keeps ∧
      session.2.skipped = rejected all options.keeps p ∧
      (options.skipLong = false →
        session.2.skipped = 0 ∧ ∀ answer ∈ session.1, answer.2 = 0) := by
  intro all session
  have hplaced := wellPlaced_start keywords titles texts options
  have hall : (start keywords titles texts options).all = all := all_start _ _ _ _
  have hoffset : (start keywords titles texts options).offset = 0 := by
    simp only [offset, start, Nat.zero_mul, Nat.add_zero]
  have hcalls := session_runCalls hplaced (by rw [hoffset]; rfl) calls
  rw [hall, hoffset] at hcalls
  obtain ⟨taken, last, hlast, hlastPlaced, hinput, hskipped, hsession⟩ := hcalls
  have hlastAll : last.all = all := (all_congr hinput).trans hall
  have htaken : taken = (all.take last.offset).filter options.keeps := by
    rw [← hsession.passed.2, List.extract, List.drop_zero, Nat.sub_zero]
    rfl
  refine ⟨last.offset, taken, ?_, hsession, htaken, ?_, ?_, ?_⟩
  · rw [← hlastAll, length_all]
    exact hlastPlaced.offset_le
  · have hrest : session.2.drain.1 = (all.drop last.offset).filter options.keeps := by
      rw [show session.2 = last from hlast, hlastPlaced.drain.records, ahead, hlastAll,
        options_congr hinput]
      rfl
    rw [htaken, hrest, ← List.filter_append, List.take_append_drop]
  · rw [show session.2 = last from hlast]
    exact hskipped
  · intro hs
    refine ⟨?_, hsession.skipped_eq_zero hs⟩
    rw [show session.2 = last from hlast, hskipped]
    exact rejected_of_not_skipLong hs _ _

end AdTemplates.Combinations
