/-
# The audit log as a file

`audit` appends one JSON object and a line feed; `audit_events` splits the file into lines and
reads the last 200 of them.  The writer escapes every line break below U+0020, but `splitlines`
also breaks at U+0085, U+2028 and U+2029, which JSON leaves as they are and which the agent accepts
in scope identifiers and actors.

The two agree as long as none of the events that are read back has such a character
(`auditEvents_eq_iff`).  Where one has, the file is not read at all: what is behind the break is
not a JSON text, and `json.loads` raises.

`audit` is called under the agent's lock or writes one line at once, so a log is the result of a
sequence of calls.  What `chmod` and `fsync` do is not part of the text.
-/
import ZtPlanet.Agent.State
import ZtPlanet.Python.JsonRoundTrip
import ZtPlanet.Python.Lines

namespace ZtPlanet.Agent.AuditLog

open ZtPlanet.Lib ZtPlanet.Python

/-! ## 1. Writing and reading -/

/-- `MAX_AUDIT_RESULTS`. -/
def maxAuditResults : Nat := 200

/-- A call of `audit`, and `utc_now()` when it is made.  The details are a `dict` of texts,
integers and lists, as every caller passes. -/
structure Call where
  time : PyStr
  action : PyStr
  actor : PyStr
  details : List (PyStr × Json)
  plain : (Json.obj details).plain = true

/-- `event`. -/
def Call.event (call : Call) : Json :=
  .obj [(py "time", .str call.time), (py "action", .str call.action),
    (py "actor", .str (call.actor.take 128)), (py "details", .obj call.details)]

section

variable (floatText : Option ℚ → PyStr) (floatOf : PyStr → Option ℚ)

/-- What is written for a call. -/
def Call.line (call : Call) : PyStr := dumps floatText call.event ++ [ch '\n']

/-- `audit`, on the text of the file if there is one.  A line that has no encoding is not written,
but the file has been opened and is there. -/
def audit (log : Option PyStr) (call : Call) : Except PyError Unit × Option PyStr :=
  let text := log.getD []
  if encodable (call.line floatText) then (.ok (), some (text ++ call.line floatText))
  else (.error .unicodeEncodeError, some text)

/-- The file after a sequence of calls. -/
def written (calls : List Call) : Option PyStr :=
  calls.foldl (fun log call => (audit floatText log call).2) none

/-- The events that the calls have recorded. -/
def recorded (calls : List Call) : List Json :=
  (calls.filter fun call => encodable (call.line floatText)).map Call.event

/-- `audit_events`, `none` for a `JSONDecodeError`. -/
def auditEvents (log : Option PyStr) : Option (List Json) :=
  match log with
  | none => some []
  | some text =>
    let lines := splitlines (universalNewlines text)
    let last := lines.drop (lines.length - maxAuditResults)
    (last.reverse.filter fun line => line ≠ []).mapM (loads floatOf)

end

/-! ## 2. The line of an event -/

/-- The line breaks that JSON does not escape: NEL, LINE SEPARATOR and PARAGRAPH SEPARATOR. -/
def Separator (c : CodePoint) : Prop := c.val = 0x85 ∨ c.val = 0x2028 ∨ c.val = 0x2029

/-- None of the texts of a value has one. -/
def OneLine (v : Json) : Prop := ∀ t ∈ v.texts, ∀ c ∈ t, ¬ Separator c

theorem isLineBreak_iff {c : CodePoint} (hc : 32 ≤ c.val) :
    isLineBreak c = true ↔ Separator c := by
  unfold isLineBreak Separator
  simp only [Bool.or_eq_true, Bool.and_eq_true, decide_eq_true_eq, beq_iff_eq]
  omega

theorem Separator.high {c : CodePoint} (h : Separator c) : 128 ≤ c.val := by
  rcases h with h | h | h <;> omega

theorem Call.event_plain (call : Call) : call.event.plain = true := by
  have hdetails := call.plain
  simp only [Json.plain, Bool.and_eq_true] at hdetails
  simp only [event, Json.plain, Json.plainMembers, hdetails, Bool.and_true,
    List.map_cons, List.map_nil]
  decide

variable {floatText : Option ℚ → PyStr} {floatOf : PyStr → Option ℚ} {v : Json}

/-- There is a break in the text of a value exactly if there is a separator in the value. -/
theorem oneLine_iff (hv : v.plain = true) :
    OneLine v ↔ ∀ c ∈ dumps floatText v, isLineBreak c = false := by
  constructor
  · intro h c hc
    obtain ⟨hlow, htexts⟩ := written_of_mem_dumps v hv c hc
    rw [← Bool.not_eq_true, isLineBreak_iff hlow]
    intro hsep
    obtain ⟨t, ht, hmem⟩ := htexts hsep.high
    exact h t ht c hmem hsep
  · intro h t ht c hc hsep
    have hhigh := hsep.high
    have hbreak := (isLineBreak_iff (by omega)).mpr hsep
    have hmem := @mem_dumps_of_mem floatText _ hhigh v t ht hc
    exact absurd (h c hmem) (by simp [hbreak])

theorem no_carriage_return (hv : v.plain = true) : ch '\r' ∉ dumps floatText v := by
  intro hc
  exact absurd (written_of_mem_dumps v hv _ hc).1 (by decide)

/-- The lines that a value is read back from. -/
def linesOf (floatText : Option ℚ → PyStr) (v : Json) : List PyStr :=
  splitlines (dumps floatText v ++ [ch '\n'])

theorem linesOf_of_oneLine (hv : v.plain = true) (h : OneLine v) :
    linesOf floatText v = [dumps floatText v] :=
  splitlines_line ((oneLine_iff hv).mp h)

/-- The last break of a text. -/
theorem exists_last_break {s : PyStr} (h : ¬ ∀ c ∈ s, isLineBreak c = false) :
    ∃ p c tail, s = p ++ c :: tail ∧ isLineBreak c = true ∧ ∀ d ∈ tail, isLineBreak d = false := by
  induction s with
  | nil => exact absurd (fun c hc => by cases hc) h
  | cons c s ih =>
    by_cases hs : ∀ d ∈ s, isLineBreak d = false
    · refine ⟨[], c, s, rfl, ?_, hs⟩
      by_contra hc
      refine h fun d hd => ?_
      rcases List.mem_cons.mp hd with rfl | hd
      · exact Bool.not_eq_true _ ▸ hc
      · exact hs d hd
    · obtain ⟨p, d, tail, rfl, hd, htail⟩ := ih hs
      exact ⟨c :: p, d, tail, rfl, hd, htail⟩

/-- **The last line of a value with a separator is not a JSON text.** -/
theorem linesOf_of_not_oneLine (hv : v.plain = true) (h : ¬ OneLine v) :
    ∃ before tail, linesOf floatText v = before ++ [tail] ∧ tail ≠ [] ∧
      loads floatOf tail = none := by
  rw [@oneLine_iff floatText _ hv] at h
  obtain ⟨p, c, tail, htext, hbreak, htail⟩ := exists_last_break h
  have hreturn := @no_carriage_return floatText _ hv
  have hc : c ∈ dumps floatText v := by
    rw [htext]
    simp
  have hhigh : 128 ≤ c.val :=
    ((isLineBreak_iff (written_of_mem_dumps v hv c hc).1).mp hbreak).high
  have hload : loads floatOf (p ++ c :: tail) = some v := htext ▸ loads_dumps hv
  refine ⟨splitlines (p ++ [c]), tail, ?_, ?_, loads_tail_eq_none hhigh hload⟩
  · have hp : ch '\r' ∉ p := fun hmem => hreturn (by simp [htext, hmem])
    have hne : c ≠ ch '\r' := fun heq => hreturn (heq ▸ hc)
    rw [linesOf, htext, List.append_assoc, List.cons_append, splitlines_append hp hne hbreak,
      splitlines_line htail]
  · -- the string that the separator stands in is still to be closed
    rintro rfl
    obtain ⟨-, hinside⟩ := Quotes.inside_of_run hhigh (outside_of_loads hload)
    cases hinside

/-! ## 3. The file -/

/-- The lines of a log are those of its events. -/
theorem splitlines_flatMap {events : List Json} (h : ∀ v ∈ events, v.plain = true) :
    splitlines (events.flatMap fun v => dumps floatText v ++ [ch '\n']) =
      events.flatMap (linesOf floatText) := by
  induction events with
  | nil => rfl
  | cons v events ih =>
    rw [List.flatMap_cons, List.flatMap_cons, List.append_assoc, List.cons_append, List.nil_append,
      splitlines_append (no_carriage_return (h v (by simp))) (by decide) (by decide),
      ih fun w hw => h w (List.mem_cons_of_mem v hw)]
    rfl

theorem recorded_cons (call : Call) (calls : List Call) :
    recorded floatText (call :: calls) =
      if encodable (call.line floatText) then call.event :: recorded floatText calls
      else recorded floatText calls := by
  unfold recorded
  rw [List.filter_cons]
  split
  · rfl
  · rfl

/-- What the calls leave behind. -/
theorem foldl_audit (calls : List Call) (log : Option PyStr) :
    (calls.foldl (fun log call => (audit floatText log call).2) log).getD [] =
      log.getD [] ++
        (recorded floatText calls).flatMap fun v => dumps floatText v ++ [ch '\n'] := by
  induction calls generalizing log with
  | nil => simp [recorded]
  | cons call calls ih =>
    rw [List.foldl_cons, ih, recorded_cons]
    have hflat (events : List Json) :
        (call.event :: events).flatMap (fun v => dumps floatText v ++ [ch '\n']) =
          call.line floatText ++ events.flatMap fun v => dumps floatText v ++ [ch '\n'] := rfl
    unfold audit
    by_cases h : encodable (call.line floatText) = true
    · simp only [if_pos h, Option.getD_some, hflat, List.append_assoc]
    · simp only [if_neg h, Option.getD_some]

theorem written_getD (calls : List Call) :
    (written floatText calls).getD [] =
      (recorded floatText calls).flatMap fun v => dumps floatText v ++ [ch '\n'] :=
  (foldl_audit calls none).trans (List.nil_append _)

theorem plain_of_mem_recorded {calls : List Call} {v : Json} (h : v ∈ recorded floatText calls) :
    v.plain = true := by
  obtain ⟨call, -, rfl⟩ := List.mem_map.mp h
  exact call.event_plain

/-- A missing file has no lines. -/
theorem auditEvents_eq (log : Option PyStr) :
    auditEvents floatOf log =
      (((splitlines (universalNewlines (log.getD []))).reverse.take maxAuditResults).filter
        fun line => line ≠ []).mapM (loads floatOf) := by
  cases log with
  | none => rfl
  | some text =>
    unfold auditEvents
    rw [Option.getD_some, List.take_reverse]

/-- What is read of a log, newest line first. -/
theorem auditEvents_written (calls : List Call) :
    auditEvents floatOf (written floatText calls) =
      ((((recorded floatText calls).reverse.flatMap fun v => (linesOf floatText v).reverse).take
        maxAuditResults).filter fun line => line ≠ []).mapM (loads floatOf) := by
  have hreturn : ch '\r' ∉
      (recorded floatText calls).flatMap fun v => dumps floatText v ++ [ch '\n'] := by
    intro hmem
    obtain ⟨v, hv, hmem⟩ := List.mem_flatMap.mp hmem
    rcases List.mem_append.mp hmem with hmem | hmem
    · exact no_carriage_return (plain_of_mem_recorded hv) hmem
    · exact absurd (List.mem_singleton.mp hmem) (by decide)
  rw [auditEvents_eq, written_getD, universalNewlines_eq hreturn,
    splitlines_flatMap fun v hv => plain_of_mem_recorded hv, List.reverse_flatMap]
  rfl

/-! ## 4. Reading back -/

/-- The newest `n` lines are the newest `n` events as long as these are one line each, and the
first that is not stops the reader. -/
theorem mapM_loads_eq_iff {events : List Json} (h : ∀ v ∈ events, v.plain = true) (n : Nat) :
    (((events.flatMap fun v => (linesOf floatText v).reverse).take n).filter
        fun line => line ≠ []).mapM (loads floatOf) = some (events.take n) ↔
      ∀ v ∈ events.take n, OneLine v := by
  induction events generalizing n with
  | nil => simp
  | cons v events ih =>
    cases n with
    | zero => simp
    | succ n =>
      have hv := h v (by simp)
      have ih := ih (fun w hw => h w (List.mem_cons_of_mem v hw)) n
      rw [List.flatMap_cons, List.take_succ_cons, List.forall_mem_cons, ← ih]
      by_cases hline : OneLine v
      · have hne : dumps floatText v ≠ [] := by
          obtain ⟨c, t, htext, -⟩ := @starts_dumps floatText _ hv
          rw [htext]
          simp
        rw [linesOf_of_oneLine hv hline, List.reverse_singleton, List.singleton_append,
          List.take_succ_cons, List.filter_cons_of_pos (by simpa using hne), List.mapM_cons,
          loads_dumps hv]
        generalize (((events.flatMap _).take n).filter _).mapM (loads floatOf) = read
        cases read with
        | none => simp [hline]
        | some read => simp [hline]
      · obtain ⟨before, tail, hlines, hne, hload⟩ :=
          @linesOf_of_not_oneLine floatText floatOf _ hv hline
        rw [hlines, List.reverse_append, List.reverse_singleton, List.append_assoc,
          List.singleton_append, List.take_succ_cons, List.filter_cons_of_pos (by simpa using hne),
          List.mapM_cons, hload]
        simp [hline]

/-- **The log is read back exactly if its last 200 events are one line each.**  Then
`audit_events` returns them, newest first, as they were recorded. -/
theorem auditEvents_eq_iff (floatText : Option ℚ → PyStr) (floatOf : PyStr → Option ℚ)
    (calls : List Call) :
    auditEvents floatOf (written floatText calls) =
        some ((recorded floatText calls).reverse.take maxAuditResults) ↔
      ∀ v ∈ (recorded floatText calls).reverse.take maxAuditResults, OneLine v := by
  rw [auditEvents_written]
  exact mapM_loads_eq_iff (fun v hv => plain_of_mem_recorded (List.mem_reverse.mp hv)) _

/-- What `apply` records for a listener on `::` in a zone whose name is a line separator. -/
def scopedListener : Call where
  time := py "2026-01-01T00:00:00+00:00"
  action := py "apply"
  actor := py "admin"
  details := [(py "revision", .int 2), (py "services", .arr [.str (py "gateway")]),
    (py "warnings", .arr [.str (py "management listener ::%" ++ 0x2028 ::
      py ":3443 accepts every local interface")])]
  plain := by decide

/-- That event is recorded, and no log is returned after it. -/
theorem scoped_listener_hides_log :
    encodable (scopedListener.line fun _ => []) = true ∧
      (auditEvents (fun _ => none) (written (fun _ => []) [scopedListener])).isNone = true := by
  decide +kernel

end ZtPlanet.Agent.AuditLog
