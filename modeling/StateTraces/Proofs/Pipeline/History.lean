import StateTraces.Proofs.Pipeline.Answers

/-
Histories. Sources are made, processed once or several times and by several pipelines, whole lists of paths
are run, and in between the directory is edited at will. All pipelines tell the same listener, which then
holds what each call told in its turn. The outcome of a call lists the errors of the whole history.
-/

namespace StateTraces

open Files (Disk FilePath)

namespace Pipeline

/-! ## Worlds -/

/-- A directory and a listener, and the sources that were made, in order. -/
structure World where
  session : Session
  sources : List Source := []

/-- Something that happens in a world. -/
inductive Move where
  /-- A source is made. -/
  | make (path : FilePath) (suffix : String)
  /-- A pipeline processes one of the sources. -/
  | process (p : Pipeline) (i : Nat)
  /-- A pipeline runs a list of paths. -/
  | run (p : Pipeline) (paths : List FilePath)
  /-- The directory is edited, whatever it was before. -/
  | edit (disk : Disk)

namespace World

/-- The world in which nothing has happened yet. -/
def new (disk : Disk) : World := { session := { disk } }

/-- The world after a move. -/
def step (w : World) : Move → World
  | .make path suffix => { w with sources := w.sources ++ [{ path, suffix }] }
  | .process p i =>
    match w.sources[i]? with
    | none => w
    | some s =>
      { session := (p.process s w.session).1, sources := w.sources.set i (p.process s w.session).2.1 }
  | .run p paths => { w with session := (p.run w.session paths).1 }
  | .edit disk => { w with session := { w.session with disk } }

/-- What a move tells. -/
def told (w : World) : Move → List Notice
  | .make _ _ => []
  | .process p i => w.sources[i]?.elim [] fun s => p.tells s w.session.disk
  | .run p paths => (p.run { disk := w.session.disk } paths).1.notices
  | .edit _ => []

/-- The world after several moves. -/
def replay (w : World) (moves : List Move) : World := moves.foldl step w

/-- What several moves tell, one after another. -/
def toldBy (w : World) : List Move → List Notice
  | [] => []
  | move :: moves => w.told move ++ (w.step move).toldBy moves

section Step

variable {w : World} {p : Pipeline} {i : Nat} {s : Source}

theorem step_process (h : w.sources[i]? = some s) : w.step (.process p i) =
    { session := (p.process s w.session).1, sources := w.sources.set i (p.process s w.session).2.1 } := by
  simp only [step, h]

theorem step_process_none (h : w.sources[i]? = none) : w.step (.process p i) = w := by
  simp only [step, h]

theorem told_process (h : w.sources[i]? = some s) : w.told (.process p i) = p.tells s w.session.disk := by
  simp only [told, h, Option.elim]

theorem told_process_none (h : w.sources[i]? = none) : w.told (.process p i) = [] := by
  simp only [told, h, Option.elim]

end Step

end World

/-! ## What was told -/

section Told

variable (p : Pipeline) (past now : Session)

/-- A run does what it would do with a new listener. -/
theorem run_followedBy (paths : List FilePath) :
    (p.run (past.followedBy now) paths).1 = past.followedBy (p.run now paths).1 := by
  induction paths generalizing now with
  | nil => rfl
  | cons path paths ih =>
    have hsession : (p.process (p.source path) (past.followedBy now)).1 =
        past.followedBy (p.process (p.source path) now).1 := by
      rw [process_eq, process_eq, advance_followedBy]
    obtain ⟨crash, hbreaks⟩ | hcalm := em (∃ crash, p.Breaks path now.disk crash)
    · have hresult : p.result (path, past.followedBy now) = .error crash := process_of_breaks hbreaks
      have hresult' : p.result (path, now) = .error crash := process_of_breaks hbreaks
      rw [run_cons_crash hresult, run_cons_crash hresult', hsession]
    · have hcalm : ∀ crash, ¬p.Breaks path now.disk crash := not_exists.1 hcalm
      obtain ⟨o, ho⟩ : ∃ o, p.result (path, past.followedBy now) = .ok o := process_answers_iff.2 hcalm
      obtain ⟨o', ho'⟩ : ∃ o, p.result (path, now) = .ok o := process_answers_iff.2 hcalm
      rw [run_cons_ok ho, run_cons_ok ho', hsession, ih]

end Told

namespace World

theorem notices_step (w : World) (move : Move) :
    (w.step move).session.notices = w.session.notices ++ w.told move := by
  cases move with
  | make path suffix => exact (List.append_nil _).symm
  | process p i =>
    cases hs : w.sources[i]? with
    | none => rw [step_process_none hs, told_process_none hs, List.append_nil]
    | some s => rw [step_process hs, told_process hs, process_session]; rfl
  | run p paths =>
    have hrun := p.run_followedBy w.session { disk := w.session.disk } paths
    rw [Session.followedBy_new] at hrun
    exact congrArg Session.notices hrun
  | edit disk => exact (List.append_nil _).symm

/-- The listener holds what was told, in order. -/
theorem notices_replay (w : World) (moves : List Move) :
    (w.replay moves).session.notices = w.session.notices ++ w.toldBy moves := by
  induction moves generalizing w with
  | nil => exact (List.append_nil _).symm
  | cons move moves ih =>
    rw [replay, List.foldl_cons, ← replay, ih, notices_step, toldBy, List.append_assoc]

theorem errorsFor_replay (disk : Disk) (moves : List Move) (source : String) :
    ((new disk).replay moves).session.errorsFor source = errorsFor source ((new disk).toldBy moves) := by
  rw [Session.errorsFor, notices_replay]
  rfl

end World

/-! ## Outcomes in a history -/

section Outcomes

variable {p : Pipeline} {path : FilePath} {before : Session}

theorem execute_crash_undone {phase : Phase} {s : Source} {crash : Crash} (hphase : phase ∉ s.completed)
    (h : (p.execute phase s before).2.2 = some crash) : phase ∉ (p.execute phase s before).2.1.completed := by
  rw [execute_crash p before hphase] at h
  rw [execute_completed p phase s before hphase, h, Option.isNone_some, if_neg Bool.false_ne_true]
  exact hphase

/-- A call that crashes leaves a phase undone. -/
theorem advance_crash_undone {crash : Crash} {phases : List Phase} {s : Source}
    (h : (p.advance s before phases).2.2 = some crash) :
    ∃ phase ∈ phases, phase ∉ (p.advance s before phases).2.1.completed := by
  induction phases generalizing s before with
  | nil => cases h
  | cons phase phases ih =>
    by_cases hphase : phase ∈ s.completed
    · rw [advance_skip p phases before hphase] at h ⊢
      obtain ⟨other, hmem, hother⟩ := ih h
      exact ⟨other, List.mem_cons_of_mem _ hmem, hother⟩
    · rw [advance_cons p phases before hphase] at h ⊢
      split at h
      · obtain ⟨other, hmem, hother⟩ := ih h
        exact ⟨other, List.mem_cons_of_mem _ hmem, by rwa [if_pos ‹_›]⟩
      · rw [if_neg ‹_›]
        exact ⟨phase, List.mem_cons_self, execute_crash_undone hphase h⟩

/-- Of the endings without a crash only the last one tells no error. -/
theorem Ends.eq_written {d : Disk} {e : Ending} (h : p.Ends path { disk := d } e) (hne : e ≠ .crashed)
    (hnow : errorsFor path.text (p.tells (p.source path) d) = []) : e = .written := by
  have hquiet : ∀ {o : Outcome} {completed : List Phase} {after : Disk} {n : Notice},
      p.Leaves path { disk := d } completed after o → o.errors ≠ [n] := fun hleaves herrors =>
    List.cons_ne_nil _ [] (herrors.symm.trans (hleaves.errors_eq.symm.trans hnow))
  cases e with
  | rejected =>
    obtain ⟨_, o, -, hleaves, ⟨⟨n, herrors, -⟩, -, -⟩, -⟩ := h
    exact absurd herrors (hquiet hleaves)
  | refused =>
    obtain ⟨_, _, _, o, -, -, hleaves, ⟨⟨n, herrors, -⟩, -, -⟩, -⟩ := h
    exact absurd herrors (hquiet hleaves)
  | unwritable =>
    obtain ⟨_, _, o, -, -, -, -, hleaves, ⟨⟨n, herrors, -⟩, -, -⟩⟩ := h
    exact absurd herrors (hquiet hleaves)
  | written => rfl
  | crashed => exact absurd rfl hne

/-- A new source for which both phases are done without an error has a traces file, and its outcome names the
file unless there were errors before. -/
theorem outcome_of_done (hdone : (p.process (p.source path) before).2.1.completed = Phase.all)
    (hnow : errorsFor path.text (p.tells (p.source path) before.disk) = []) :
    ∃ o target, (p.process (p.source path) before).2.2 = .ok o ∧ target.text = path.text ++ p.suffix ∧
      (p.process (p.source path) before).1.disk.read target = .ok (.text (linesText o.traces)) ∧
      o.errors = before.errorsFor path.text ∧
      o.tracesPath = if before.errorsFor path.text = [] then some target else none := by
  obtain ⟨crash, hbreaks⟩ | ⟨e, hne, hends⟩ := breaks_or_ends p path before.disk
  · obtain ⟨phase, hmem, hundone⟩ := advance_crash_undone (advance_of_breaks hbreaks)
    rw [process_eq] at hdone
    rw [← hdone] at hmem
    exact absurd hmem hundone
  obtain rfl := hends.eq_written hne hnow
  obtain ⟨target, _, d, o, -, htext, -, -, hread, hleaves, ⟨herrors, -, htarget⟩⟩ := hends
  have hdisk : (p.process (p.source path) before).1.disk = d := by
    rw [process_session]
    exact hleaves.disk_eq
  rw [hdisk]
  by_cases hpast : before.errorsFor path.text = []
  · simp only [hpast]
    exact ⟨o, target, (process_quiet hpast).trans hleaves.outcome_eq, htext, hread, herrors, htarget⟩
  · simp only [if_neg hpast]
    refine ⟨_, target, process_loud hpast hleaves.outcome_eq, htext, hread, ?_, rfl⟩
    rw [herrors, List.append_nil]
    rfl

end Outcomes

/-- After any history, the listener holds what the history told and then what the call tells, and the outcome of
the call lists the errors about the source in that order. So it lists just those of the call if there were none
before, and it is well only if there are none at all. A new source for which both phases are done without an error
in the call has its traces written, but its outcome names the file only if the history holds no error about it. -/
theorem outcome_of_history (p : Pipeline) (disk : Disk) (moves : List Move) :
    let w := (World.new disk).replay moves
    let past := fun name => errorsFor name ((World.new disk).toldBy moves)
    (∀ s, (p.process s w.session).1.notices = (World.new disk).toldBy moves ++ p.tells s w.session.disk) ∧
    (∀ s o, (p.process s w.session).2.2 = .ok o →
      let now := errorsFor s.text (p.tells s w.session.disk)
      o.errors = past s.text ++ now ∧ (o.errors = now ↔ past s.text = []) ∧
        (o.ok = true ↔ past s.text = [] ∧ now = [])) ∧
    ∀ path, (p.process (p.source path) w.session).2.1.completed = Phase.all →
      errorsFor path.text (p.tells (p.source path) w.session.disk) = [] →
      ∃ o target, (p.process (p.source path) w.session).2.2 = .ok o ∧ target.text = path.text ++ p.suffix ∧
        (p.process (p.source path) w.session).1.disk.read target = .ok (.text (linesText o.traces)) ∧
        (o.ok = true ↔ past path.text = []) ∧ o.tracesPath = if past path.text = [] then some target else none := by
  intro w past
  have hpast : ∀ name, w.session.errorsFor name = past name := World.errorsFor_replay disk moves
  refine ⟨fun s => ?_, fun s o ho => ?_, fun path hdone hnow => ?_⟩
  · rw [process_session]
    exact congrArg (· ++ p.tells s w.session.disk) (World.notices_replay (World.new disk) moves)
  · have herrors := (process_ok ho).2.2
    rw [hpast] at herrors
    refine ⟨herrors, ?_, ?_⟩
    · rw [herrors]
      simp
    · rw [Outcome.ok, herrors, List.isEmpty_iff, List.append_eq_nil_iff]
  · obtain ⟨o, target, ho, htext, hread, herrors, htarget⟩ := outcome_of_done hdone hnow
    rw [hpast] at herrors htarget
    exact ⟨o, target, ho, htext, hread, by rw [Outcome.ok, herrors, List.isEmpty_iff], htarget⟩

/-- A file that is missing at first and written later: its traces are written without an error, and the outcome
lists the old error and names no traces file. -/
theorem outcome_lists_old_error :
    let p : Pipeline := {}
    let path := FilePath.ofText "a.dot"
    let d : Disk := { files := [(["a.dot"], .text "digraph \x7b \"a\" -> \"b\" [label=\"go\"]; \x7d")] }
    let w := (World.new {}).replay [.run p [path], .edit d]
    (p.process (p.source path) w.session).2.1.completed = Phase.all ∧
      errorsFor path.text (p.tells (p.source path) w.session.disk) = [] ∧
      ∃ o, (p.process (p.source path) w.session).2.2 = .ok o ∧ o.errors ≠ [] ∧ o.ok = false ∧
        o.tracesPath = none := by
  intro p path d w
  have hends : p.Ends path { disk := {} } .rejected := ends_rejected rfl (missing_rejected p rfl List.not_mem_nil)
  obtain ⟨_, o, -, hleaves, ⟨⟨n, herrors, -⟩, -⟩, -⟩ := hends
  have hpast : w.session.errorsFor path.text = [n] := by
    have hrun : (p.run { disk := {} } [path]).1 = (p.process (p.source path) { disk := {} }).1 :=
      congrArg Prod.fst (run_cons_ok hleaves.outcome_eq)
    show (p.run { disk := {} } [path]).1.errorsFor path.text = [n]
    rw [hrun, hleaves.errors_eq, herrors]
  have hread : d.read path = .ok (.text "digraph \x7b \"a\" -> \"b\" [label=\"go\"]; \x7d") := by
    rw [Disk.read_of_locate (Disk.locate_name (by decide +kernel) d)]
    rfl
  obtain ⟨_, o', hleaves', hnone, -⟩ := leaves_edge (d := d) List.not_mem_nil hread
  have hdone : (p.process (p.source path) w.session).2.1.completed = Phase.all := by
    rw [process_source]
    exact congrArg Source.completed hleaves'.source_eq
  have hnow : errorsFor path.text (p.tells (p.source path) w.session.disk) = [] :=
    hleaves'.errors_eq.trans hnone
  obtain ⟨o'', target, ho, -, -, herrors', hnamed⟩ := outcome_of_done hdone hnow
  rw [hpast] at herrors' hnamed
  exact ⟨hdone, hnow, o'', ho, by simp [herrors'], by simp [Outcome.ok, herrors'], by simpa using hnamed⟩

end Pipeline

end StateTraces
