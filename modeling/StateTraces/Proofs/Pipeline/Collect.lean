import Mathlib.Data.List.Induction
import StateTraces.Pipeline.Phase
import StateTraces.Proofs.Order

/-
Collecting the traces of a source. Every trace is written as a line, and a line is kept when it is first
seen; what is told meanwhile is never an error.
-/

namespace StateTraces.Pipeline

/-! ## Errors among what is told -/

/-- The errors about a source among what a phase tells. -/
def errorsIn (source : String) (entries : List Entry) : List Notice :=
  errorsFor source (entries.filterMap Entry.notice?)

/-- An entry that is no error. -/
def Entry.Calm : Entry → Prop
  | .notice n => n.severity ≠ .error
  | .log _ => True

/-- An entry of a phase about a source; records for the log name neither. -/
def Entry.From (phase : Phase) (source : String) : Entry → Prop
  | .notice n => n.phase = phase.name ∧ n.source = source
  | .log _ => True

theorem errorsFor_append (source : String) (old new : List Notice) :
    errorsFor source (old ++ new) = errorsFor source old ++ errorsFor source new :=
  List.filter_append ..

theorem errorsIn_append (source : String) (entries more : List Entry) :
    errorsIn source (entries ++ more) = errorsIn source entries ++ errorsIn source more := by
  rw [errorsIn, List.filterMap_append, errorsFor_append]
  rfl

theorem errorsIn_of_calm {source : String} {entries : List Entry} (h : ∀ e ∈ entries, e.Calm) :
    errorsIn source entries = [] := by
  refine List.filter_eq_nil_iff.2 fun n hn => ?_
  obtain ⟨e, he, hnotice⟩ := List.mem_filterMap.1 hn
  cases e with
  | log r => cases hnotice
  | notice m =>
    cases hnotice
    have hcalm : n.severity ≠ .error := h _ he
    simp [hcalm]

namespace Source

variable {s : Source}

@[simp] theorem log_from (r : Log.Record) (phase : Phase) (source : String) : (Entry.log r).From phase source := trivial

@[simp] theorem notice_from (phase : Phase) (severity : Severity) (text : String) :
    (s.notice phase severity text).From phase s.text := ⟨rfl, rfl⟩

@[simp] theorem failure_from (phase : Phase) (what : String) (r : Report) :
    (s.failure phase what r).From phase s.text := ⟨rfl, rfl⟩

theorem notice_calm (phase : Phase) {severity : Severity} (text : String) (h : severity ≠ .error) :
    (s.notice phase severity text).Calm := h

/-! ## Distinct lines -/

/-- Lines that are recorded one after another are kept in order of first sight. -/
theorem addTraces_eq (h : s.traces = []) (lines : List String) :
    lines.foldl addTrace s = { s with traces := lines.eraseDups } := by
  induction lines using List.reverseRecOn with
  | nil => rw [List.foldl_nil, List.eraseDups_nil, ← h]
  | append_singleton lines line ih =>
    rw [List.foldl_append, ih, List.foldl_cons, List.foldl_nil, eraseDups_append_singleton, addTrace]
    simp only [List.mem_eraseDups]
    split <;> rfl

/-! ## Events -/

/-- What one event of the enumeration does to the source. -/
def receive (s : Source) (e : Enumeration.Event Atom (List Atom)) : Source :=
  e.value?.elim s fun trace => s.addTrace (lineOf trace)

theorem take_source (showTraces : Bool) (acc : Source × List Entry) (e : Enumeration.Event Atom (List Atom)) :
    (take showTraces acc e).1 = acc.1.receive e := by
  cases e with
  | result depth trace =>
    obtain ⟨s, told⟩ := acc
    show (if lineOf trace ∈ s.traces then (s, told) else _).1 = s.addTrace (lineOf trace)
    unfold addTrace
    split <;> rfl
  | _ => rfl

theorem addTrace_keeps (s : Source) (trace : String) :
    s.addTrace trace = { s with traces := (s.addTrace trace).traces } := by
  unfold addTrace
  split <;> rfl

theorem receive_keeps (s : Source) (e : Enumeration.Event Atom (List Atom)) :
    s.receive e = { s with traces := (s.receive e).traces } := by
  unfold receive
  cases e.value? with
  | none => rfl
  | some trace => exact addTrace_keeps s (lineOf trace)

section Told

variable {P : Entry → Prop} {acc : Source × List Entry}

/-- An event is told by records for the log and by news about the source. -/
theorem take_told {showTraces : Bool} (e : Enumeration.Event Atom (List Atom)) (hlog : ∀ r, P (.log r))
    (hnews : ∀ text, P (acc.1.notice .generateCombinations .info text)) (h : ∀ entry ∈ acc.2, P entry) :
    ∀ entry ∈ (take showTraces acc e).2, P entry := by
  obtain ⟨s, told⟩ := acc
  cases e with
  | result depth trace =>
    unfold take
    dsimp only
    split
    · exact h
    · split
      · intro entry hentry
        rcases List.mem_cons.1 hentry with rfl | hentry
        · exact hnews _
        · exact h entry hentry
      · exact h
  | _ =>
    intro entry hentry
    rcases List.mem_append.1 hentry with hentry | hentry
    · obtain ⟨r, -, rfl⟩ := List.mem_map.1 hentry
      exact hlog r
    · exact h entry hentry

end Told

/-! ## All traces -/

/-- The distinct lines of the traces of a graph inside a window, in order of first sight. -/
def distinctLines (g : AtomGraph) (window : Option DepthWindow) : List String :=
  ((Enumeration.allTraces g window).map lineOf).eraseDups

theorem foldl_receive (events : List (Enumeration.Event Atom (List Atom))) (s : Source) :
    events.foldl receive s = ((events.filterMap Enumeration.Event.value?).map lineOf).foldl addTrace s := by
  induction events generalizing s with
  | nil => rfl
  | cons e events ih =>
    rw [List.foldl_cons, ih]
    cases e <;> rfl

/-- One event, with the tally that runs beside the source. -/
def collectStep (showTraces : Bool) (acc : (Source × List Entry) × Enumeration.Tally)
    (e : Enumeration.Event Atom (List Atom)) : (Source × List Entry) × Enumeration.Tally :=
  (take showTraces acc.1 e, acc.2.note e)

theorem foldl_receive_keeps (events : List (Enumeration.Event Atom (List Atom))) (s : Source) :
    events.foldl receive s = { s with traces := (events.foldl receive s).traces } := by
  induction events generalizing s with
  | nil => rfl
  | cons e events ih => rw [List.foldl_cons, ih, receive_keeps]

theorem foldl_collectStep {P : Entry → Prop} (hlog : ∀ r, P (.log r)) (showTraces : Bool)
    (events : List (Enumeration.Event Atom (List Atom))) (acc : (Source × List Entry) × Enumeration.Tally)
    (hnews : ∀ text, P (acc.1.1.notice .generateCombinations .info text)) (h : ∀ entry ∈ acc.1.2, P entry) :
    (events.foldl (collectStep showTraces) acc).1.1 = events.foldl receive acc.1.1 ∧
      ∀ entry ∈ (events.foldl (collectStep showTraces) acc).1.2, P entry := by
  induction events generalizing acc with
  | nil => exact ⟨rfl, h⟩
  | cons e events ih =>
    have hsource : (collectStep showTraces acc e).1.1 = acc.1.1.receive e := take_source ..
    -- the news are about the same file whatever traces the source has by now
    have hnews' : ∀ text, P ((collectStep showTraces acc e).1.1.notice .generateCombinations .info text) := by
      intro text
      rw [hsource, receive_keeps]
      exact hnews text
    obtain ⟨hfold, htold⟩ := ih (collectStep showTraces acc e) hnews' (take_told e hlog hnews h)
    refine ⟨?_, htold⟩
    rw [List.foldl_cons, hfold, List.foldl_cons, hsource]

theorem collect_eq (window : Option DepthWindow) (showTraces : Bool) : s.collect window showTraces =
    let r := (Enumeration.traceEvents (s.graph.getD .empty) window).toList.foldl (collectStep showTraces) ((s, []), {})
    (r.1.1, r.1.2, r.2) := by
  simp only [collect, Feed.foldl_eq]
  rfl

theorem collect_told {P : Entry → Prop} (hlog : ∀ r, P (.log r))
    (hnews : ∀ text, P (s.notice .generateCombinations .info text)) (window : Option DepthWindow)
    (showTraces : Bool) : ∀ entry ∈ (s.collect window showTraces).2.1, P entry := by
  rw [collect_eq]
  exact (foldl_collectStep hlog showTraces _ ((s, []), {}) hnews fun _ h => by cases h).2

theorem collect_foldl (window : Option DepthWindow) (showTraces : Bool) : (s.collect window showTraces).1 =
    (Enumeration.traceEvents (s.graph.getD .empty) window).toList.foldl receive s := by
  rw [collect_eq]
  exact (foldl_collectStep (P := fun _ => True) (fun _ => trivial) showTraces _ ((s, []), {}) (fun _ => trivial)
    fun _ _ => trivial).1

/-- Collecting changes nothing but the traces. -/
theorem collect_keeps (window : Option DepthWindow) (showTraces : Bool) : (s.collect window showTraces).1 =
    { s with traces := (s.collect window showTraces).1.traces } := by
  rw [collect_foldl]
  exact foldl_receive_keeps _ s

/-- A source without traces collects the distinct lines of its graph. -/
theorem collect_source (h : s.traces = []) (window : Option DepthWindow) (showTraces : Bool) :
    (s.collect window showTraces).1 = { s with traces := distinctLines (s.graph.getD .empty) window } := by
  rw [collect_foldl, foldl_receive]
  exact addTraces_eq h _

/-- The empty graph has no traces. -/
theorem distinctLines_empty (window : Option DepthWindow) : distinctLines .empty window = [] := rfl

end Source

end StateTraces.Pipeline
