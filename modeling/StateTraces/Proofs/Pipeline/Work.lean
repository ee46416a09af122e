import StateTraces.Pipeline.Bench
import StateTraces.Proofs.Graph
import StateTraces.Proofs.Pipeline.Listener

/-
Work on a bench, and what it comes to. A phase that is executed leaves the bench as it was but for the
session and the file, whether it ends or is stopped. So processing a file on a bench does to the session
and to the source what processing the source does.
-/

namespace StateTraces.Pipeline

theorem SourceFile.markCompleted_source (f : SourceFile) (phase : Phase) :
    (f.markCompleted phase).source = f.source.complete phase := by
  unfold markCompleted Source.complete
  split <;> rfl

namespace Bench

open Files (Disk FilePath)

variable {α β : Type} {b : Bench} {i : Nat} {f : SourceFile}

/-! ## Running -/

theorem run_file : (file i).run b = (b.files[i]?).elim (.error (.unknown i) b) (.ok · b) := by
  have hget : (get : Work Bench).run b = .ok b b := rfl
  rw [file, EStateM.run_bind, hget]
  dsimp only
  cases b.files[i]? <;> rfl

theorem run_held (phase : Phase) :
    (held phase).run b = (b.busy phase).elim (.error (.idle phase) b) (.ok · b) := by
  have hget : (get : Work Bench).run b = .ok b b := rfl
  rw [held, EStateM.run_bind, hget]
  dsimp only
  cases b.busy phase <;> rfl

theorem run_errorCount (h : b.files[i]? = some f) :
    (errorCount i).run b = .ok (b.session.errorsFor f.source.text).length b := by
  rw [errorCount, EStateM.run_bind, run_file, h]
  rfl

theorem run_raise (crash : Option Crash) (b : Bench) :
    (raise crash).run b = crash.elim (.ok () b) fun crash => .error (.fault (.crash crash)) b := by
  cases crash <;> rfl

/-- What is done finally is done also when something was raised. -/
theorem run_tryFinally (work : Work α) {clean : Bench → Bench} :
    (tryFinally work (modify clean)).run b = match work.run b with
      | .ok a c => .ok a (clean c)
      | .error e c => .error e (clean c) := by
  simp only [tryFinally, tryFinally', EStateM.run, Functor.map, EStateM.map]
  cases work b <;> rfl

/-- A block is left in the end, also when something is raised in it. -/
theorem run_within (fields : Table String Json) (work : Work α) :
    (within fields work).run b = match work.run { b with scope := b.scope.enter fields } with
      | .ok a c => .ok a { c with scope := c.scope.leave }
      | .error e c => .error e { c with scope := c.scope.leave } :=
  run_tryFinally work

/-! ## Executing -/

/-- The bench after a phase has had its effect on the file at a position, which then is `g`. -/
def received (b : Bench) (phase : Phase) (i : Nat) (s : Source) (effect : Effect) (g : SourceFile) : Bench :=
  { b with
    session := { b.session with disk := effect.disk }.tell
      (b.scope.current.merge [("source", .str s.text), ("phase", .str phase.name)]) effect.entries
    files := b.files.set i g }

variable {p : Pipeline} {phase : Phase}

theorem run_executePhase (hheld : b.busy phase = some i) (hfile : b.files[i]? = some f) :
    (executePhase p phase).run b =
      let effect := p.apply phase f.source b.session.disk
      let after : Bench :=
        { b with
          session := { b.session with disk := effect.disk }.tell b.scope.current effect.entries
          files := b.files.set i { f with source := effect.source } }
      effect.crash.elim (.ok () after) fun crash => .error (.fault (.crash crash)) after := by
  rw [executePhase, EStateM.run_bind, run_held, hheld]
  dsimp only [Option.elim]
  rw [EStateM.run_bind, run_file, hfile]
  exact run_raise _ _

theorem run_markCompleted (h : b.files[i]? = some f) : (markCompleted phase i).run b =
    .ok () { b with files := b.files.set i (f.markCompleted phase) } := by
  rw [markCompleted, EStateM.run_bind, run_file, h]
  rfl

theorem run_execute_unknown (h : b.files[i]? = none) : (execute p phase i).run b = .error (.unknown i) b := by
  rw [execute, EStateM.run_bind, run_file, h]
  rfl

/-- A phase that is done leaves nothing but a record in the log. -/
theorem run_execute_done (h : b.files[i]? = some f) (hdone : phase ∈ f.source.completed) :
    (execute p phase i).run b = .ok ()
      { b with
        session := b.session.tell b.scope.current
          [.log (.debug logger s!"{phase.name} already completed for {f.source.text}")] } := by
  rw [execute, EStateM.run_bind, run_file, h]
  dsimp only [Option.elim]
  rw [if_pos hdone]
  rfl

/-- In its block a phase has its effect on the file that it is processing. -/
theorem run_block (hheld : b.busy phase = some i) (h : b.files[i]? = some f) :
    (within [("source", .str f.source.text), ("phase", .str phase.name)] (executePhase p phase)).run b =
      let effect := p.apply phase f.source b.session.disk
      let after := b.received phase i f.source effect { f with source := effect.source }
      effect.crash.elim (.ok () after) fun crash => .error (.fault (.crash crash)) after := by
  let entered : Bench :=
    { b with scope := b.scope.enter [("source", .str f.source.text), ("phase", .str phase.name)] }
  rw [run_within, run_executePhase (b := entered) hheld h]
  dsimp only
  cases (p.apply phase f.source entered.session.disk).crash <;> rfl

/-- A phase that is not done is idle again afterwards and in the old context. Its effect stays; it is done
unless it crashed. -/
theorem run_execute (h : b.files[i]? = some f) (hnew : phase ∉ f.source.completed) (hidle : b.busy phase = none) :
    (execute p phase i).run b =
      let effect := p.apply phase f.source b.session.disk
      let g : SourceFile := { f with source := effect.source }
      effect.crash.elim (.ok () (b.received phase i f.source effect (g.markCompleted phase)))
        fun crash => .error (.fault (.crash crash)) (b.received phase i f.source effect g) := by
  let working : Bench := { b with busy := fun other => if other = phase then some i else b.busy other }
  -- letting go of the phase leaves all phases as they were
  have hfree : (fun other => if other = phase then none else working.busy other) = b.busy := by
    funext other
    by_cases hother : other = phase
    · rw [if_pos hother, hother, hidle]
    · rw [if_neg hother]
      exact if_neg hother
  have hstart : (execute p phase i).run b = (tryFinally (do
      within [("source", .str f.source.text), ("phase", .str phase.name)] (executePhase p phase)
      markCompleted phase i : Work Unit) (hold phase none)).run working := by
    rw [execute, EStateM.run_bind, run_file, h]
    dsimp only [Option.elim]
    rw [if_neg hnew]
    rfl
  refine (hstart.trans (run_tryFinally _)).trans ?_
  rw [EStateM.run_bind, run_block (b := working) (if_pos rfl) h]
  dsimp only
  cases (p.apply phase f.source working.session.disk).crash with
  | none =>
    have hplace (g : SourceFile) : (b.files.set i g)[i]? = some g :=
      List.getElem?_set_self (List.getElem?_eq_some_iff.1 h).1
    dsimp only [Option.elim]
    rw [run_markCompleted (b := working.received ..) (hplace _)]
    simp only [received, hfree, List.set_set]
    rfl
  | some crash =>
    simp only [Option.elim, received, hfree]
    rfl

/-! ## Processing -/

/-- The bench after something was done to the session and to the source of the file at a position. -/
def turned (b : Bench) (i : Nat) (session : Session) (s : Source) (last : Option Phase) : Bench :=
  { b with session, files := b.files.set i { source := s, last } }

theorem turned_self (h : b.files[i]? = some f) (session : Session) :
    b.turned i session f.source f.last = { b with session } := by
  obtain ⟨hi, rfl⟩ := List.getElem?_eq_some_iff.1 h
  rw [turned, List.set_getElem_self hi]

theorem file_turned {session : Session} {s : Source} {last : Option Phase} (h : b.files[i]? = some f) :
    (b.turned i session s last).files[i]? = some { source := s, last } :=
  List.getElem?_set_self (List.getElem?_eq_some_iff.1 h).1

theorem turned_turned (i : Nat) (session session' : Session) (s s' : Source) (last last' : Option Phase) :
    (b.turned i session s last).turned i session' s' last' = b.turned i session' s' last' := by
  simp only [turned, List.set_set]

/-- Executing a phase on a bench without a context does what executing it on the source does. -/
theorem execute_turns (h : b.files[i]? = some f) (hidle : b.busy phase = none) (hplain : b.scope.current = []) :
    let r := p.execute phase f.source b.session
    ∃ last, (execute p phase i).run b = (raise r.2.2).run (b.turned i r.1 r.2.1 last) := by
  by_cases hdone : phase ∈ f.source.completed
  · have hskip : p.execute phase f.source b.session = (b.session.tell []
        [.log (.debug logger s!"{phase.name} already completed for {f.source.text}")], f.source, none) :=
      if_pos hdone
    exact ⟨f.last, by rw [run_execute_done h hdone, hskip, hplain, turned_self h]; rfl⟩
  · have hcontext : b.scope.current.merge [("source", .str f.source.text), ("phase", .str phase.name)] =
        [("source", .str f.source.text), ("phase", .str phase.name)] := by rw [hplain]; rfl
    let g : SourceFile := { f with source := (p.apply phase f.source b.session.disk).source }
    have hmarked : g.markCompleted phase = ⟨g.source.complete phase, (g.markCompleted phase).last⟩ := by
      rw [← SourceFile.markCompleted_source]
    rw [run_execute h hdone hidle, execute_eq p b.session hdone]
    dsimp only
    cases (p.apply phase f.source b.session.disk).crash with
    | some crash =>
      refine ⟨f.last, ?_⟩
      simp only [received, hcontext]
      rfl
    | none =>
      refine ⟨(g.markCompleted phase).last, ?_⟩
      simp only [received, hcontext]
      rw [hmarked]
      rfl

variable (p) in
/-- Advancing a file on a bench does what advancing the source does. -/
theorem advance_turns (phases : List Phase) (h : b.files[i]? = some f) (hidle : ∀ phase, b.busy phase = none)
    (hplain : b.scope.current = []) :
    let r := p.advance f.source b.session phases
    ∃ last, (advance p i phases).run b = (raise r.2.2).run (b.turned i r.1 r.2.1 last) := by
  induction phases generalizing b f with
  | nil => exact ⟨f.last, by rw [advance, Pipeline.advance, turned_self h]; rfl⟩
  | cons phase phases ih =>
    by_cases hdone : phase ∈ f.source.completed
    · have hskip : (advance p i (phase :: phases)).run b = (advance p i phases).run b := by
        rw [advance, EStateM.run_bind, run_file, h]
        dsimp only [Option.elim]
        rw [if_pos hdone]
      rw [hskip, advance_skip p phases b.session hdone]
      exact ih h hidle hplain
    · obtain ⟨last, hexecute⟩ := execute_turns (p := p) h (hidle phase) hplain
      have htext : (p.execute phase f.source b.session).2.1.text = f.source.text :=
        congrArg FilePath.text (execute_keeps p phase f.source b.session hdone).1
      have hrun : (advance p i (phase :: phases)).run b = (do
          execute p phase i
          let after ← errorCount i
          if (b.session.errorsFor f.source.text).length < after then pure () else advance p i phases).run b := by
        rw [advance, EStateM.run_bind, run_file, h]
        dsimp only [Option.elim]
        rw [if_neg hdone, EStateM.run_bind, run_errorCount h]
      rw [hrun, EStateM.run_bind, hexecute, Pipeline.advance, if_neg hdone]
      generalize p.execute phase f.source b.session = r at htext
      obtain ⟨session, s, crash⟩ := r
      cases crash with
      | some crash => exact ⟨last, rfl⟩
      | none =>
        -- the errors are counted about the name of the source, which the phase has kept
        have hcount : (errorCount i).run (b.turned i session s last) =
            .ok (session.errorsFor f.source.text).length (b.turned i session s last) := by
          rw [run_errorCount (file_turned h), show s.text = f.source.text from htext]
          rfl
        rw [run_raise]
        dsimp only [Option.elim]
        rw [EStateM.run_bind, hcount]
        dsimp only
        by_cases hfailed : (b.session.errorsFor f.source.text).length < (session.errorsFor f.source.text).length
        · rw [if_pos hfailed, if_pos (Or.inr hfailed)]
          exact ⟨last, rfl⟩
        · have hcalm : (none : Option Crash).isSome ≠ true := Bool.false_ne_true
          rw [if_neg hfailed, if_neg (not_or.2 ⟨hcalm, hfailed⟩)]
          obtain ⟨last', hrest⟩ := ih (file_turned h) hidle hplain
          exact ⟨last', hrest.trans (by rw [turned_turned]; rfl)⟩

/-- Processing a file on a bench does to the session and to the source what processing the source does, and
ends alike. -/
theorem process_turns (h : b.files[i]? = some f) (hidle : ∀ phase, b.busy phase = none)
    (hplain : b.scope.current = []) :
    let r := p.process f.source b.session
    ∃ last, (process p i).run b = (settle r.2.2).run (b.turned i r.1 r.2.1 last) := by
  obtain ⟨last, hadvance⟩ := advance_turns p Phase.all h hidle hplain
  refine ⟨last, ?_⟩
  rw [process, EStateM.run_bind, hadvance, Pipeline.process]
  obtain ⟨session, s, crash⟩ := p.advance f.source b.session Phase.all
  cases crash with
  | some crash => rfl
  | none =>
    rw [run_raise]
    dsimp only [Option.elim]
    rw [EStateM.run_bind, run_file, file_turned h]
    rfl

/-- Running paths on a bench does to the session what running them does, and ends alike. -/
theorem run_turns (paths : List FilePath) (hidle : ∀ phase, b.busy phase = none) (hplain : b.scope.current = []) :
    let r := p.run b.session paths
    ∃ files, (run p paths).run b = (settle r.2).run { b with session := r.1, files } := by
  induction paths generalizing b with
  | nil => exact ⟨b.files, rfl⟩
  | cons path paths ih =>
    let made : Bench := { b with files := b.files ++ [{ source := p.source path }] }
    have hplace : made.files[b.files.length]? = some { source := p.source path } := List.getElem?_concat_length
    have hrun : (run p (path :: paths)).run b = (do
        let o ← process p b.files.length
        return o :: (← run p paths)).run made := rfl
    obtain ⟨last, hprocess⟩ : ∃ last, (process p b.files.length).run made =
        (settle (p.process (p.source path) b.session).2.2).run (made.turned b.files.length
          (p.process (p.source path) b.session).1 (p.process (p.source path) b.session).2.1 last) :=
      process_turns hplace hidle hplain
    rw [hrun, EStateM.run_bind, hprocess, Pipeline.run]
    obtain ⟨session, s, answer⟩ := p.process (p.source path) b.session
    cases answer with
    | error crash => exact ⟨_, rfl⟩
    | ok o =>
      let processed : Bench := made.turned b.files.length session s last
      obtain ⟨files, hrest⟩ := ih (b := processed) hidle hplain
      have hnext : (settle (.ok o) : Work Outcome).run processed = .ok o processed := rfl
      have hsession : processed.session = session := rfl
      refine ⟨files, ?_⟩
      rw [hnext]
      dsimp only
      rw [EStateM.run_bind, hrest, hsession]
      obtain ⟨session', rest⟩ := p.run session paths
      cases rest <;> rfl

end Bench

end StateTraces.Pipeline
