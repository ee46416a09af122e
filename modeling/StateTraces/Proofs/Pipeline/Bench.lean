import StateTraces.Proofs.Pipeline.Answers
import StateTraces.Proofs.Pipeline.Bounds
import StateTraces.Proofs.Pipeline.Work

/-
What holds on a bench whatever is done on it. Files only grow: no trace and no completed phase is ever
taken back or repeated, and the phase that a file names as its last one is the last that it completed. After
every step, raised or not, both phases are idle and the context is the old one.
-/

namespace StateTraces.Pipeline

open Files (Disk FilePath)

/-! ## Growing lists -/

/-- The second list is the first with more behind it, and nothing is there twice unless it was before. -/
structure Prolongs {α : Type} (old new : List α) : Prop where
  isPrefix : old <+: new
  nodup : old.Nodup → new.Nodup

namespace Prolongs

variable {α : Type} {old new newer : List α}

theorem refl (old : List α) : Prolongs old old := ⟨List.prefix_refl old, id⟩

theorem trans (h : Prolongs old new) (h' : Prolongs new newer) : Prolongs old newer :=
  ⟨h.isPrefix.trans h'.isPrefix, fun hnodup => h'.nodup (h.nodup hnodup)⟩

theorem concat {a : α} (h : a ∉ old) : Prolongs old (old ++ [a]) :=
  ⟨List.prefix_append old [a], fun hnodup => by simpa using hnodup.concat h⟩

end Prolongs

namespace Source

theorem prolongs_addTrace (s : Source) (trace : String) : Prolongs s.traces (s.addTrace trace).traces := by
  unfold addTrace
  split
  · exact .refl _
  · rename_i hnew
    exact .concat hnew

theorem prolongs_addTraces (lines : List String) (s : Source) :
    Prolongs s.traces (lines.foldl addTrace s).traces := by
  induction lines generalizing s with
  | nil => exact .refl _
  | cons line lines ih => exact (prolongs_addTrace s line).trans (ih _)

theorem prolongs_complete (s : Source) (phase : Phase) : Prolongs s.completed (s.complete phase).completed := by
  unfold complete
  split
  · exact .refl _
  · rename_i hnew
    exact .concat hnew

theorem prolongs_generate (s : Source) (bounds : Option Bounds) (showTraces : Bool) (d : Disk) :
    Prolongs s.traces (s.generate bounds showTraces d).source.traces := by
  cases hresolve : bounds.mapM Bounds.resolve with
  | error fault =>
    cases fault <;>
      · simp only [generate, hresolve]
        exact .refl _
  | ok window =>
    have htraces : s.enumerated bounds = .ok (Enumeration.allTraces (s.graph.getD .empty) window) := by
      rw [enumerated, hresolve]
      rfl
    rw [generate_traces htraces]
    exact prolongs_addTraces _ s

theorem prolongs_apply (p : Pipeline) (phase : Phase) (s : Source) (d : Disk) :
    Prolongs s.traces (p.apply phase s d).source.traces := by
  cases phase with
  | parseFile =>
    show Prolongs s.traces (s.parse d).source.traces
    rw [parse_traces]
    exact .refl _
  | generateCombinations => exact prolongs_generate s p.bounds p.showTraces d

end Source

/-! ## Growing files -/

namespace SourceFile

variable {f g h : SourceFile}

/-- No trace and no phase is there twice, and the phase named as the last one is the last that is done. -/
structure Sound (f : SourceFile) : Prop where
  traces_nodup : f.source.traces.Nodup
  completed_nodup : f.source.completed.Nodup
  last_eq : f.last = f.source.completed.getLast?

/-- The second file is the first with more traces and phases, if any. -/
structure Grows (f g : SourceFile) : Prop where
  traces : Prolongs f.source.traces g.source.traces
  completed : Prolongs f.source.completed g.source.completed
  last_eq : f.last = f.source.completed.getLast? → g.last = g.source.completed.getLast?

theorem Grows.refl (f : SourceFile) : f.Grows f := ⟨.refl _, .refl _, id⟩

theorem Grows.trans (hfg : f.Grows g) (hgh : g.Grows h) : f.Grows h :=
  ⟨hfg.traces.trans hgh.traces, hfg.completed.trans hgh.completed, fun hlast => hgh.last_eq (hfg.last_eq hlast)⟩

theorem Grows.sound (hfg : f.Grows g) (hsound : f.Sound) : g.Sound :=
  ⟨hfg.traces.nodup hsound.traces_nodup, hfg.completed.nodup hsound.completed_nodup, hfg.last_eq hsound.last_eq⟩

/-- Nothing but the traces of a file grew. -/
theorem grows_of_traces {s : Source} (htraces : Prolongs f.source.traces s.traces)
    (hcompleted : s.completed = f.source.completed) : f.Grows { f with source := s } :=
  ⟨htraces, hcompleted ▸ .refl _, fun hlast => hcompleted ▸ hlast⟩

theorem grows_markCompleted (f : SourceFile) (phase : Phase) : f.Grows (f.markCompleted phase) := by
  refine ⟨?_, ?_, fun hlast => ?_⟩
  · rw [markCompleted_source, Source.complete_traces]
    exact .refl _
  · rw [markCompleted_source]
    exact Source.prolongs_complete f.source phase
  · unfold markCompleted
    split
    · exact hlast
    · rename_i hnew
      show some phase = (f.source.complete phase).completed.getLast?
      rw [Source.complete, if_neg hnew]
      exact List.getLast?_concat.symm

theorem sound_new (path : FilePath) (suffix : String) : Sound { source := { path, suffix } } :=
  ⟨List.nodup_nil, List.nodup_nil, rfl⟩

end SourceFile

namespace Bench

variable {α β : Type} {p : Pipeline} {b c d : Bench} {i : Nat} {f : SourceFile}

/-! ## Benches that follow one another -/

/-- The second bench comes from the first: the context and the idle phases are the same, every file is in its
place and has grown, and files that were made are sound. -/
structure Follows (b c : Bench) : Prop where
  scope_eq : c.scope = b.scope
  busy_eq : c.busy = b.busy
  grows : ∀ (i : Nat) (f : SourceFile), b.files[i]? = some f → ∃ g, c.files[i]? = some g ∧ f.Grows g
  sound : (∀ f ∈ b.files, f.Sound) → ∀ f ∈ c.files, f.Sound

theorem Follows.trans (hbc : b.Follows c) (hcd : c.Follows d) : b.Follows d where
  scope_eq := hcd.scope_eq.trans hbc.scope_eq
  busy_eq := hcd.busy_eq.trans hbc.busy_eq
  grows := fun i f hf => by
    obtain ⟨g, hg, hfg⟩ := hbc.grows i f hf
    obtain ⟨h, hh, hgh⟩ := hcd.grows i g hg
    exact ⟨h, hh, hfg.trans hgh⟩
  sound := fun hsound => hcd.sound (hbc.sound hsound)

/-- Nothing but the session changed. -/
theorem follows_session (b : Bench) (session : Session) : b.Follows { b with session } :=
  ⟨rfl, rfl, fun _ f hf => ⟨f, hf, .refl f⟩, id⟩

theorem Follows.refl (b : Bench) : b.Follows b := follows_session b b.session

/-- A file grew and nothing else changed but the session. -/
theorem follows_set {g : SourceFile} (hf : b.files[i]? = some f) (hgrows : f.Grows g) (session : Session) :
    b.Follows { b with session, files := b.files.set i g } where
  scope_eq := rfl
  busy_eq := rfl
  grows := fun j e he => by
    by_cases hij : i = j
    · subst hij
      rw [hf] at he
      cases he
      exact ⟨g, List.getElem?_set_self (List.getElem?_eq_some_iff.1 hf).1, hgrows⟩
    · exact ⟨e, (List.getElem?_set_ne hij).trans he, .refl e⟩
  sound := fun hsound e he => by
    rcases List.mem_or_eq_of_mem_set he with he | rfl
    · exact hsound e he
    · exact hgrows.sound (hsound f (List.mem_of_getElem? hf))

theorem follows_concat (b : Bench) (hsound : f.Sound) : b.Follows { b with files := b.files ++ [f] } where
  scope_eq := rfl
  busy_eq := rfl
  grows := fun i e he => ⟨e, List.getElem?_append_left (List.getElem?_eq_some_iff.1 he).1 |>.trans he, .refl e⟩
  sound := fun hold e he => by
    rcases List.mem_append.1 he with he | he
    · exact hold e he
    · exact List.mem_singleton.1 he ▸ hsound

/-! ## Work that keeps the order -/

/-- The bench after some work, raised or not. -/
def after (work : Work α) (b : Bench) : Bench :=
  match work.run b with
  | .ok _ c => c
  | .error _ c => c

/-- Both phases are idle. -/
def Resting (b : Bench) : Prop := ∀ phase, b.busy phase = none

/-- Wherever both phases are idle, the work leaves a bench that follows. -/
def Keeps (work : Work α) : Prop := ∀ b : Bench, b.Resting → b.Follows (after work b)

theorem Follows.resting (h : b.Follows c) (hresting : b.Resting) : c.Resting :=
  fun phase => (congrFun h.busy_eq phase).trans (hresting phase)

theorem keeps_pure (a : α) : Keeps (pure a : Work α) := fun b _ => .refl b

theorem keeps_throw (e : Raised) : Keeps (throw e : Work α) := fun b _ => .refl b

theorem keeps_get : Keeps (get : Work Bench) := fun b _ => .refl b

theorem Keeps.bind {work : Work α} {next : α → Work β} (hwork : Keeps work) (hnext : ∀ a, Keeps (next a)) :
    Keeps (work >>= next) := by
  intro b hresting
  have hfirst := hwork b hresting
  unfold after at hfirst ⊢
  rw [EStateM.run_bind]
  cases hrun : work.run b with
  | error e c =>
    rw [hrun] at hfirst
    exact hfirst
  | ok a c =>
    rw [hrun] at hfirst
    exact hfirst.trans (hnext a c (hfirst.resting hresting))

theorem keeps_file (i : Nat) : Keeps (file i) :=
  keeps_get.bind fun b => by
    cases b.files[i]? with
    | none => exact keeps_throw _
    | some f => exact keeps_pure f

theorem keeps_tell (entries : List Entry) : Keeps (tell entries) :=
  fun b _ => follows_session b (b.session.tell b.scope.current entries)

theorem keeps_edit (disk : Disk) : Keeps (edit disk) :=
  fun b _ => follows_session b { b.session with disk }

theorem keeps_settle (answer : Except Crash α) : Keeps (settle answer) := by
  cases answer with
  | ok a => exact keeps_pure a
  | error crash => exact keeps_throw _

/-- Replacing the file at a position by one into which it grew. -/
theorem keeps_update {next : SourceFile → SourceFile} {rest : SourceFile → Work α}
    (hgrows : ∀ f : SourceFile, f.Grows (next f)) (hrest : ∀ f, Keeps (rest f)) : Keeps (do
      let f ← file i
      store i (next f)
      rest f) := by
  intro b hresting
  unfold after
  rw [EStateM.run_bind, run_file]
  cases hf : b.files[i]? with
  | none => exact .refl b
  | some f =>
    have hset := follows_set hf (hgrows f) b.session
    exact hset.trans (hrest f _ (hset.resting hresting))

/-- Executing a phase keeps the order whichever way it goes. -/
theorem keeps_execute (p : Pipeline) (phase : Phase) (i : Nat) : Keeps (execute p phase i) := by
  intro b hresting
  unfold after
  cases hf : b.files[i]? with
  | none =>
    rw [run_execute_unknown hf]
    exact .refl b
  | some f =>
    by_cases hdone : phase ∈ f.source.completed
    · rw [run_execute_done hf hdone]
      exact follows_session b _
    · -- while the phase is busy the bench does not rest, so its work is told as a whole
      rw [run_execute hf hdone (hresting phase)]
      have hkin : f.source.Kin (p.apply phase f.source b.session.disk).source := apply_kin p phase f.source _
      have hgrows : f.Grows { f with source := (p.apply phase f.source b.session.disk).source } :=
        SourceFile.grows_of_traces (Source.prolongs_apply p phase f.source _) hkin.completed_eq
      dsimp only
      cases (p.apply phase f.source b.session.disk).crash with
      | none => exact follows_set hf (hgrows.trans (SourceFile.grows_markCompleted _ phase)) _
      | some crash => exact follows_set hf hgrows _

theorem keeps_errorCount (i : Nat) : Keeps (errorCount i) :=
  (keeps_file i).bind fun _ => keeps_get.bind fun _ => keeps_pure _

theorem keeps_advance (p : Pipeline) (i : Nat) (phases : List Phase) : Keeps (advance p i phases) := by
  induction phases with
  | nil => exact keeps_pure ()
  | cons phase phases ih =>
    rw [advance]
    refine (keeps_file i).bind fun f => ?_
    split
    · exact ih
    · refine (keeps_errorCount i).bind fun before => (keeps_execute p phase i).bind fun _ =>
        (keeps_errorCount i).bind fun after => ?_
      split
      · exact keeps_pure ()
      · exact ih

theorem keeps_make (path : FilePath) (suffix : String) : Keeps (make path suffix) :=
  fun b _ => follows_concat b (SourceFile.sound_new path suffix)

theorem keeps_process (p : Pipeline) (i : Nat) : Keeps (process p i) :=
  (keeps_advance p i Phase.all).bind fun _ => (keeps_file i).bind fun _ => keeps_get.bind fun _ => keeps_settle _

theorem keeps_run (p : Pipeline) (paths : List FilePath) : Keeps (run p paths) := by
  induction paths with
  | nil => exact keeps_pure []
  | cons path paths ih =>
    exact (keeps_make path p.suffix).bind fun i => (keeps_process p i).bind fun o => ih.bind fun rest => keeps_pure _

theorem keeps_write (i : Nat) : Keeps (write i) := by
  refine (keeps_file i).bind fun f => keeps_get.bind fun b => ?_
  cases f.source.write b.session.disk with
  | error fault => exact keeps_throw _
  | ok written => exact (keeps_edit written.1).bind fun _ => (keeps_tell _).bind fun _ => keeps_pure _

theorem keeps_addTrace (i : Nat) (trace : String) : Keeps (addTrace i trace) :=
  keeps_update (fun f => SourceFile.grows_of_traces (f.source.prolongs_addTrace trace)
    (by rw [f.source.addTrace_keeps trace])) fun _ => keeps_pure _

theorem keeps_setGraph (i : Nat) (graph : Option AtomGraph) : Keeps (setGraph i graph) :=
  keeps_update (fun _ => SourceFile.grows_of_traces (.refl _) rfl) fun _ => keeps_pure ()

theorem Keeps.discard {work : Work α} (h : Keeps work) : Keeps (discard work) := h.bind fun _ => keeps_pure ()

/-- Whatever is done from outside keeps the order. -/
theorem keeps_step (p : Pipeline) (step : Step) : Keeps (step.work p) := by
  cases step with
  | make path suffix => exact (keeps_make path suffix).discard
  | execute phase i => exact keeps_execute p phase i
  | process i => exact (keeps_process p i).discard
  | run paths => exact (keeps_run p paths).discard
  | addTrace i trace => exact (keeps_addTrace i trace).discard
  | write i => exact (keeps_write i).discard
  | setGraph i graph => exact keeps_setGraph i graph
  | notify notice => exact keeps_tell [.notice notice]
  | edit disk => exact keeps_edit disk

/-! ## Runs of steps -/

/-- The bench after several steps, each of which may have been raised from. -/
def replay (p : Pipeline) (b : Bench) (steps : List Step) : Bench :=
  steps.foldl (fun b step => after (step.work p) b) b

theorem follows_replay (p : Pipeline) (steps : List Step) (hresting : b.Resting) : b.Follows (replay p b steps) := by
  induction steps generalizing b with
  | nil => exact .refl b
  | cons step steps ih =>
    have hstep := keeps_step p step b hresting
    exact hstep.trans (ih (hstep.resting hresting))

/-- A phase that is done changes nothing. -/
theorem execute_done (hf : b.files[i]? = some f) {phase : Phase} (hdone : phase ∈ f.source.completed) :
    ∃ r, (execute p phase i).run b =
      .ok () { b with session := { b.session with log := b.session.log ++ [r] } } := by
  refine ⟨{ Log.Record.debug logger s!"{phase.name} already completed for {f.source.text}" with
    context := b.scope.current }, ?_⟩
  rw [run_execute_done hf hdone]
  simp [Session.tell, Entry.notice?, Entry.record]

/-- A phase that raises does not count as done. -/
theorem execute_raised {phase : Phase} {e : Raised} (hresting : b.Resting)
    (h : (execute p phase i).run b = .error e c) :
    c.files.map (fun f => (f.source.completed, f.last)) = b.files.map fun f => (f.source.completed, f.last) := by
  cases hf : b.files[i]? with
  | none =>
    rw [run_execute_unknown hf] at h
    cases h
    rfl
  | some f =>
    by_cases hdone : phase ∈ f.source.completed
    · rw [run_execute_done hf hdone] at h
      cases h
    · rw [run_execute hf hdone (hresting phase)] at h
      have hkin : f.source.Kin (p.apply phase f.source b.session.disk).source := apply_kin p phase f.source _
      dsimp only at h
      cases hcrash : (p.apply phase f.source b.session.disk).crash with
      | none =>
        rw [hcrash] at h
        cases h
      | some crash =>
        rw [hcrash] at h
        cases h
        obtain ⟨hi, rfl⟩ := List.getElem?_eq_some_iff.1 hf
        show (b.files.set i _).map _ = _
        rw [List.map_set, hkin.completed_eq, ← List.map_set, List.set_getElem_self]

/-- What holds of a bench at any time. -/
structure Orderly (p : Pipeline) (scope : Log.Scope) (b : Bench) : Prop where
  sound : ∀ f ∈ b.files, f.Sound
  scope_eq : b.scope = scope
  /-- Both phases are idle: whoever asks one for its source file is refused. -/
  idle : ∀ phase, ∃ e, (sourceFile phase).run b = .error e b ∧ e.kind = "RuntimeError" ∧ e.message? = some phase.idle
  /-- Every file stays in its place and keeps its traces in front, whatever is done next. -/
  traces_kept : ∀ (step : Step) (i : Nat) (f : SourceFile), b.files[i]? = some f →
    ∃ g, (after (step.work p) b).files[i]? = some g ∧ f.source.traces <+: g.source.traces
  /-- Executing a phase that is done ends well and leaves everything but the log as it was. -/
  done_idle : ∀ (phase : Phase) (i : Nat) (f : SourceFile), b.files[i]? = some f → phase ∈ f.source.completed →
    ∃ r, (execute p phase i).run b = .ok () { b with session := { b.session with log := b.session.log ++ [r] } }
  /-- A phase that raises does not count as done, for any file. -/
  raised_undone : ∀ (phase : Phase) (i : Nat) (e : Raised) (c : Bench), (execute p phase i).run b = .error e c →
    c.files.map (fun f => (f.source.completed, f.last)) = b.files.map fun f => (f.source.completed, f.last)

/-- Whatever is done with a pipeline, the bench is in order after it. -/
theorem replay_orderly (p : Pipeline) (disk : Disk) (scope : Log.Scope) (steps : List Step) :
    (replay p (.new disk scope) steps).Orderly p scope := by
  have hnew : (Bench.new disk scope).Resting := fun _ => rfl
  have hfollows := follows_replay p steps hnew
  have hresting := hfollows.resting hnew
  refine ⟨hfollows.sound fun f hf => absurd hf List.not_mem_nil, hfollows.scope_eq, fun phase => ?_,
    fun step i f hf => ?_, fun phase i f hf hdone => execute_done hf hdone,
    fun phase i e c h => execute_raised hresting h⟩
  · refine ⟨.idle phase, ?_, rfl, rfl⟩
    rw [sourceFile, EStateM.run_bind, run_held, hresting phase]
    rfl
  · obtain ⟨g, hg, hgrows⟩ := (keeps_step p step _ hresting).grows i f hf
    exact ⟨g, hg, hgrows.traces.isPrefix⟩

/-- A missing file was parsed, and the next file is of bytes that are no text. -/
theorem replay_orderly_undecodable :
    let b := replay {} (.new { files := [(["b.dot"], .binary [0xff])] } {})
      [.make (.ofText "a.dot") ".traces", .make (.ofText "b.dot") ".traces", .execute .parseFile 0]
    ∃ f r c, b.files[0]? = some f ∧ .parseFile ∈ f.source.completed ∧
      (execute {} .parseFile 0).run b = .ok () { b with session := { b.session with log := b.session.log ++ [r] } } ∧
      (execute {} .parseFile 1).run b = .error (.fault (.crash .undecodable)) c ∧
      c.files.map (fun f => (f.source.completed, f.last)) = b.files.map fun f => (f.source.completed, f.last) := by
  intro b
  let disk : Disk := { files := [(["b.dot"], .binary [0xff])] }
  let missing := source {} (.ofText "a.dot")
  let binary := source {} (.ofText "b.dot")
  let made : Bench := { session := { disk }, files := [{ source := missing }, { source := binary }] }
  obtain ⟨n, -, hdoes⟩ := Source.parse_rejected (missing_rejected {} (d := disk) rfl List.not_mem_nil)
  let f : SourceFile := { source := (missing.parse disk).source }
  have hb : b = made.received .parseFile 0 missing (missing.parse disk) (f.markCompleted .parseFile) := by
    show after (execute {} .parseFile 0) made = _
    rw [after, run_execute (f := { source := missing }) rfl List.not_mem_nil rfl]
    dsimp only
    rw [show (apply {} .parseFile missing made.session.disk).crash = none from hdoes.crash_eq]
    rfl
  have horderly : b.Orderly {} {} := replay_orderly {} disk {} [.make (.ofText "a.dot") ".traces",
    .make (.ofText "b.dot") ".traces", .execute .parseFile 0]
  clear_value b
  have hf : b.files[0]? = some (f.markCompleted .parseFile) := by rw [hb]; rfl
  have hdone : .parseFile ∈ (f.markCompleted .parseFile).source.completed := by
    rw [SourceFile.markCompleted_source, show f.source = _ from hdoes.source_eq]
    decide
  obtain ⟨r, hskip⟩ := horderly.done_idle .parseFile 0 _ hf hdone
  have hlocate : disk.locate (.ofText "b.dot") = .ok ["b.dot"] := Disk.locate_name (by decide +kernel) disk
  have hread : disk.read binary.path = .ok (.binary [0xff]) := by
    rw [show binary.path = .ofText "b.dot" from rfl, Disk.read_of_locate hlocate]
    rfl
  have hcrashed : binary.readText disk = .error (.crash .undecodable) :=
    Source.readText_crash.2 (.inr ⟨rfl, _, hread⟩)
  have hdisk : b.session.disk = disk := by
    rw [hb]
    exact hdoes.disk_eq
  have hcrash : (apply {} .parseFile binary b.session.disk).crash = some .undecodable := by
    show (binary.parse b.session.disk).crash = _
    rw [hdisk, Source.parse_crashed hcrashed]
  have hraised : ∃ c, (execute {} .parseFile 1).run b = .error (.fault (.crash .undecodable)) c := by
    have hsecond : b.files[1]? = some { source := binary } := by rw [hb]; rfl
    rw [run_execute hsecond List.not_mem_nil (by rw [hb]; rfl)]
    dsimp only
    rw [hcrash]
    exact ⟨_, rfl⟩
  obtain ⟨c, hrun⟩ := hraised
  exact ⟨_, r, c, hf, hdone, hskip, hrun, horderly.raised_undone .parseFile 1 _ c hrun⟩

end Bench

end StateTraces.Pipeline
