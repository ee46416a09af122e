import StateTraces.Config.Settings
import StateTraces.Pipeline.Run
import StateTraces.Proofs.Dot.Printing
import StateTraces.Proofs.Files.FilePath
import StateTraces.Proofs.Pipeline.Phases

/-
How processing a new source ends. There are five endings, and exactly one of them comes true: the text is
rejected, the bounds are refused, the traces file is closed to writing, or the file is written; and a path
or a suffix with a NUL character crashes the run where it is used, as does a negative bound that is too long
to be told. What is left behind tells them apart.
-/

namespace StateTraces

open Files (Disk FilePath)

namespace Pipeline

/-! ## Suffixes -/

theorem isPlainSuffix_iff {suffix : String} : Config.isPlainSuffix suffix = true ↔
    suffix ≠ "" ∧ '/' ∉ suffix.toList ∧ '\\' ∉ suffix.toList := by
  simp only [Config.isPlainSuffix, Bool.and_eq_true, Bool.not_eq_true', decide_eq_true_eq,
    String.contains_char_eq, decide_eq_false_iff_not, and_assoc]

/-- A path with a name takes every suffix that the settings allow. -/
theorem addSuffix_of_isPlain {path : FilePath} {suffix : String} (hname : path.name ≠ "")
    (hslash : '/' ∉ path.name.toList) (h : Config.isPlainSuffix suffix = true) :
    ∃ target, path.addSuffix suffix = .ok target := by
  obtain ⟨hne, hsuffix, -⟩ := isPlainSuffix_iff.1 h
  exact ⟨_, FilePath.addSuffix_eq hname hslash hne hsuffix⟩

/-! ## Executing phases -/

/-- Neither a crash nor an error about a source. -/
def Effect.Quiet (f : Effect) (name : String) : Prop := f.crash = none ∧ errorsIn name f.entries = []

instance (f : Effect) (name : String) : Decidable (f.Quiet name) := inferInstanceAs (Decidable (_ ∧ _))

section Executing

variable (p : Pipeline) {phase : Phase} (phases : List Phase) {s : Source} (before : Session)

theorem errorsFor_tell (session : Session) (context : Table String Json) (entries : List Entry) (name : String) :
    (session.tell context entries).errorsFor name = session.errorsFor name ++ errorsIn name entries :=
  errorsFor_append ..

theorem execute_eq (h : phase ∉ s.completed) : p.execute phase s before =
    let f := p.apply phase s before.disk
    ({ before with disk := f.disk }.tell [("source", .str s.text), ("phase", .str phase.name)] f.entries,
      if f.crash.isNone then f.source.complete phase else f.source, f.crash) :=
  if_neg h

theorem execute_errorsFor (h : phase ∉ s.completed) : (p.execute phase s before).1.errorsFor s.text =
    before.errorsFor s.text ++ errorsIn s.text (p.apply phase s before.disk).entries := by
  rw [execute_eq p before h]
  exact errorsFor_tell ..

theorem execute_crash (h : phase ∉ s.completed) :
    (p.execute phase s before).2.2 = (p.apply phase s before.disk).crash := by
  rw [execute_eq p before h]

theorem advance_skip (h : phase ∈ s.completed) : p.advance s before (phase :: phases) = p.advance s before phases := by
  rw [advance, if_pos h]

/-- A phase that neither crashes nor tells an error is followed by the others, and else it is the last one. -/
theorem advance_cons (h : phase ∉ s.completed) : p.advance s before (phase :: phases) =
    if (p.apply phase s before.disk).Quiet s.text then
      p.advance (p.execute phase s before).2.1 (p.execute phase s before).1 phases
    else p.execute phase s before := by
  -- the errors of the phase are those that are counted after it and not before
  have hstop : ((p.execute phase s before).2.2.isSome ∨ (before.errorsFor s.text).length <
      ((p.execute phase s before).1.errorsFor s.text).length) ↔ ¬(p.apply phase s before.disk).Quiet s.text := by
    rw [execute_crash p before h, execute_errorsFor p before h, List.length_append, Effect.Quiet,
      ← List.length_eq_zero_iff, not_and_or, Option.isSome_iff_ne_none]
    exact or_congr_right (by omega)
  rw [advance, if_neg h]
  generalize p.execute phase s before = r at hstop ⊢
  obtain ⟨after, src, crash⟩ := r
  dsimp only at hstop ⊢
  by_cases hquiet : (p.apply phase s before.disk).Quiet s.text
  · rw [if_pos hquiet, if_neg fun hstopped => hstop.1 hstopped hquiet]
  · rw [if_neg hquiet, if_pos (hstop.2 hquiet)]

/-- A phase that tells an error is the last one. -/
theorem advance_last (h : phase ∉ s.completed) (herrors : errorsIn s.text (p.apply phase s before.disk).entries ≠ []) :
    p.advance s before (phase :: phases) = p.execute phase s before := by
  rw [advance_cons p phases before h, if_neg fun hquiet => herrors hquiet.2]

theorem advance_singleton (h : phase ∉ s.completed) : p.advance s before [phase] = p.execute phase s before := by
  rw [advance_cons p [] before h]
  split
  · rename_i hquiet
    rw [advance, ← hquiet.1, ← execute_crash p before h]
  · rfl

section Does

variable {p before} {src : Source} {disk : Disk} {errors : List Notice}

/-- Executing a phase notes its errors and marks it done. -/
theorem execute_does (hphase : phase ∉ s.completed)
    (h : (p.apply phase s before.disk).Does s.text disk src errors) :
    ∃ after, p.execute phase s before = (after, src.complete phase, none) ∧ after.disk = disk ∧
      after.errorsFor s.text = before.errorsFor s.text ++ errors := by
  rw [execute_eq p before hphase]
  dsimp only
  rw [h.crash_eq, h.source_eq]
  exact ⟨_, rfl, h.disk_eq, by rw [errorsFor_tell, h.errors_eq]; rfl⟩

/-- A phase without errors is followed by the other phases. -/
theorem advance_on (hphase : phase ∉ s.completed) (h : (p.apply phase s before.disk).Does s.text disk src []) :
    ∃ after, p.advance s before (phase :: phases) = p.advance (src.complete phase) after phases ∧ after.disk = disk ∧
      after.errorsFor s.text = before.errorsFor s.text := by
  obtain ⟨after, hexecute, hdisk, herrors⟩ := execute_does hphase h
  rw [List.append_nil] at herrors
  refine ⟨after, ?_, hdisk, herrors⟩
  rw [advance_cons p phases before hphase, if_pos ⟨h.crash_eq, h.errors_eq⟩, hexecute]

/-- A phase with the first errors about its source is the last one. -/
theorem advance_stop (hphase : phase ∉ s.completed) (hquiet : before.errorsFor s.text = [])
    (herrors : errors ≠ []) (h : (p.apply phase s before.disk).Does s.text disk src errors) : ∃ after,
      p.advance s before (phase :: phases) = (after, src.complete phase, none) ∧ after.disk = disk ∧
      after.errorsFor s.text = errors := by
  obtain ⟨after, hexecute, hdisk, hafter⟩ := execute_does hphase h
  rw [hquiet, List.nil_append] at hafter
  refine ⟨after, ?_, hdisk, hafter⟩
  rw [advance_last p phases before hphase (by rwa [h.errors_eq]), hexecute]

theorem advance_crash {crash : Crash} (hphase : phase ∉ s.completed)
    (h : (p.apply phase s before.disk).crash = some crash) :
    (p.advance s before (phase :: phases)).2.2 = some crash := by
  have hloud : ¬(p.apply phase s before.disk).Quiet s.text := fun hquiet =>
    Option.some_ne_none crash (h.symm.trans hquiet.1)
  rw [advance_cons p phases before hphase, if_neg hloud, execute_crash p before hphase, h]

end Does

end Executing

/-! ## Endings -/

/-- How processing a source may end. -/
inductive Ending where
  /-- The file cannot be read, or its text is no graph. -/
  | rejected
  /-- The graph is read, and one of the raw bounds is negative. -/
  | refused
  /-- The traces are collected, and the traces file cannot be opened. -/
  | unwritable
  /-- The traces are collected and written. -/
  | written
  /-- A path with a NUL character is used, or a negative bound is too long to be told. -/
  | crashed
  deriving DecidableEq, Repr

/-- One error of a phase, with a code, and no traces file. -/
structure Outcome.Failed (o : Outcome) (phase : Phase) (code : Report.Code) : Prop where
  errors_eq : ∃ n : Notice, o.errors = [n] ∧ n.Reports phase o.path.text code
  not_ok : o.ok = false
  tracesPath_eq : o.tracesPath = none

/-- No error, and a traces file. -/
structure Outcome.Succeeded (o : Outcome) (target : FilePath) : Prop where
  errors_eq : o.errors = []
  ok : o.ok = true
  tracesPath_eq : o.tracesPath = some target

/-- What processing a new source leaves behind: the phases that are done, the tree and the outcome. The
source has the traces of the outcome and an empty graph, and the errors of the outcome are those about
the source. -/
structure Leaves (p : Pipeline) (path : FilePath) (before : Session) (completed : List Phase) (disk : Disk)
    (o : Outcome) : Prop where
  outcome_eq : (p.process (p.source path) before).2.2 = .ok o
  path_eq : o.path = path
  source_eq : (p.process (p.source path) before).2.1 =
    { path, suffix := p.suffix, graph := some .empty, traces := o.traces, completed }
  disk_eq : (p.process (p.source path) before).1.disk = disk
  errors_eq : (p.process (p.source path) before).1.errorsFor path.text = o.errors
  count_eq : (o.members true).get? "trace_count" = some (.int o.traces.length)

/-- Each trace and a newline after it. -/
def linesText (traces : List String) : String := String.join (traces.map (· ++ "\n"))

/-- The file is accepted, no bound is negative, and the traces are the distinct ones of its graph. -/
def Generates (p : Pipeline) (path : FilePath) (d : Disk) (traces : List String) : Prop :=
  ∃ g, (p.source path).Accepted d g ∧ Admitted p.bounds ∧
    traces = Source.distinctLines g (windowOf p.bounds)

/-- When each ending comes about, and what it leaves behind. -/
def Ends (p : Pipeline) (path : FilePath) (before : Session) : Ending → Prop
  | .rejected => ∃ code o, (p.source path).Rejected before.disk code ∧
      p.Leaves path before [.parseFile] before.disk o ∧ o.Failed .parseFile code ∧ o.traces = []
  | .refused => ∃ g minimum maximum o, (p.source path).Accepted before.disk g ∧
      Refused p.bounds minimum maximum ∧ p.Leaves path before Phase.all before.disk o ∧
      o.Failed .generateCombinations (refusalCode minimum) ∧ o.traces = []
  | .unwritable => ∃ target fault o, p.Generates path before.disk o.traces ∧
      target.text = path.text ++ p.suffix ∧ before.disk.write target (.text (linesText o.traces)) = .error fault ∧
      fault ≠ .nulCharacter ∧ p.Leaves path before Phase.all before.disk o ∧
      o.Failed .generateCombinations .traceWriteFailed
  | .written => ∃ target loc disk o, p.Generates path before.disk o.traces ∧
      target.text = path.text ++ p.suffix ∧ before.disk.locate target = .ok loc ∧
      disk = { before.disk with files := before.disk.files.set loc (.text (linesText o.traces)) } ∧
      disk.read target = .ok (.text (linesText o.traces)) ∧ p.Leaves path before Phase.all disk o ∧
      o.Succeeded target
  | .crashed => ('\x00' ∈ path.text.toList ∨
      (∃ traces, p.Generates path before.disk traces) ∧ '\x00' ∈ p.suffix.toList) ∧
      (p.process (p.source path) before).2.2 = .error .nulCharacter ∨
    (∃ g, (p.source path).Accepted before.disk g) ∧ Overlong p.bounds ∧
      (p.process (p.source path) before).2.2 = .error (.unreported .unwritable)

/-- The ending, told from what is left behind. -/
def Ending.ofResult (r : Session × Source × Except Crash Outcome) : Ending :=
  match r.2.2 with
  | .error _ => .crashed
  | .ok o =>
    if r.2.1.completed = [.parseFile] then .rejected
    else match o.errors with
      | [] => .written
      | n :: _ => if n.report.map Report.code = some .traceWriteFailed then .unwritable else .refused

section Endings

variable {p : Pipeline} {path : FilePath} {before : Session}

theorem Ends.ofResult_eq {e : Ending} (h : p.Ends path before e) :
    Ending.ofResult (p.process (p.source path) before) = e := by
  cases e with
  | rejected =>
    obtain ⟨code, o, -, hleaves, -⟩ := h
    rw [Ending.ofResult, hleaves.outcome_eq, hleaves.source_eq]
    rfl
  | refused =>
    obtain ⟨g, minimum, maximum, o, -, -, hleaves, ⟨⟨n, herrors, hreports⟩, -⟩, -⟩ := h
    have hcode : refusalCode minimum ≠ .traceWriteFailed := by unfold refusalCode; split <;> decide
    rw [Ending.ofResult, hleaves.outcome_eq, hleaves.source_eq]
    simp [herrors, hreports.code_eq, hcode, Phase.all]
  | unwritable =>
    obtain ⟨target, fault, o, -, -, -, -, hleaves, ⟨⟨n, herrors, hreports⟩, -⟩⟩ := h
    rw [Ending.ofResult, hleaves.outcome_eq, hleaves.source_eq]
    simp [herrors, hreports.code_eq, Phase.all]
  | written =>
    obtain ⟨target, loc, disk, o, -, -, -, -, -, hleaves, hsucceeded⟩ := h
    rw [Ending.ofResult, hleaves.outcome_eq, hleaves.source_eq]
    simp [hsucceeded.errors_eq, Phase.all]
  | crashed =>
    obtain ⟨-, hcrash⟩ | ⟨-, -, hcrash⟩ := h <;> rw [Ending.ofResult, hcrash]

/-! ## Reaching an ending -/

theorem process_of_advance {s src : Source} {after : Session}
    (h : p.advance s before Phase.all = (after, src, none)) :
    p.process s before = (after, src, outcome src after) := by
  rw [process, h]

theorem process_crash {s : Source} {crash : Crash} (h : (p.advance s before Phase.all).2.2 = some crash) :
    (p.process s before).2.2 = .error crash := by
  unfold process
  generalize p.advance s before Phase.all = r at h ⊢
  obtain ⟨after, src, c⟩ := r
  cases h
  rfl

theorem outcome_of_errors {src : Source} {after : Session} {n : Notice} (h : after.errorsFor src.text = [n]) :
    outcome src after = .ok { path := src.path, traces := src.traces, tracesPath := none, errors := [n] } := by
  simp [outcome, h, pure, Except.pure, bind, Except.bind]

theorem outcome_of_none {src : Source} {after : Session} {target : FilePath} (h : after.errorsFor src.text = [])
    (hdone : .generateCombinations ∈ src.completed) (htarget : src.tracesPath = .ok target) :
    outcome src after = .ok { path := src.path, traces := src.traces, tracesPath := some target, errors := [] } := by
  simp [outcome, h, hdone, htarget, Except.mapError, Except.map, pure, Except.pure, bind, Except.bind]

/-- A run that stops with one error of a phase. -/
theorem leaves_failed {after : Session} {src : Source} {completed : List Phase} {traces : List String} {n : Notice}
    {phase : Phase} {code : Report.Code} (hreports : n.Reports phase path.text code)
    (hadvance : p.advance (p.source path) before Phase.all = (after, src, none))
    (hsource : src = { path, suffix := p.suffix, graph := some .empty, traces, completed })
    (herrors : after.errorsFor path.text = [n]) :
    ∃ o, p.Leaves path before completed after.disk o ∧ o.Failed phase code ∧ o.traces = traces := by
  subst hsource
  have hprocess := process_of_advance hadvance
  rw [outcome_of_errors herrors] at hprocess
  refine ⟨_, ⟨by rw [hprocess], rfl, by rw [hprocess], by rw [hprocess], by rw [hprocess]; exact herrors, rfl⟩,
    ⟨⟨n, rfl, hreports⟩, rfl, rfl⟩, rfl⟩

/-- A run that does both phases without an error. -/
theorem leaves_succeeded {after : Session} {src : Source} {traces : List String} {target : FilePath}
    (htarget : path.addSuffix p.suffix = .ok target)
    (hadvance : p.advance (p.source path) before Phase.all = (after, src, none))
    (hsource : src = { path, suffix := p.suffix, graph := some .empty, traces, completed := Phase.all })
    (herrors : after.errorsFor path.text = []) :
    ∃ o, p.Leaves path before Phase.all after.disk o ∧ o.Succeeded target ∧ o.traces = traces := by
  have hdone : Phase.generateCombinations ∈ src.completed := by
    rw [hsource]; exact List.mem_cons_of_mem _ (List.mem_singleton_self _)
  have hpath : src.tracesPath = .ok target := by rw [hsource]; exact htarget
  have hnone : after.errorsFor src.text = [] := by rw [hsource]; exact herrors
  have hprocess := process_of_advance hadvance
  rw [outcome_of_none hnone hdone hpath] at hprocess
  subst hsource
  refine ⟨_, ⟨by rw [hprocess], rfl, by rw [hprocess], by rw [hprocess], by rw [hprocess]; exact herrors, rfl⟩,
    ⟨rfl, rfl, rfl⟩, rfl⟩

theorem not_completed_source (phase : Phase) : phase ∉ (p.source path).completed := List.not_mem_nil

theorem ends_rejected (hquiet : before.errorsFor path.text = []) {code : Report.Code}
    (h : (p.source path).Rejected before.disk code) : p.Ends path before .rejected := by
  obtain ⟨n, hreports, hparse⟩ := Source.parse_rejected h
  have hdoes : (p.apply .parseFile (p.source path) before.disk).Does path.text before.disk
      { path, suffix := p.suffix, graph := some .empty } [n] := hparse
  obtain ⟨after, hadvance, hdisk, herrors⟩ := advance_stop [.generateCombinations] (not_completed_source _) hquiet
    (List.cons_ne_nil n []) hdoes
  obtain ⟨o, hleaves, hfailed, htraces⟩ := leaves_failed hreports hadvance rfl herrors
  rw [hdisk] at hleaves
  exact ⟨code, o, h, hleaves, hfailed, htraces⟩

section Accepted

/-- The source after it was parsed. -/
def parsed (p : Pipeline) (path : FilePath) (g : AtomGraph) : Source :=
  { path, suffix := p.suffix, graph := some g, completed := [.parseFile] }

variable {g : AtomGraph} (hquiet : before.errorsFor path.text = []) (hgraph : (p.source path).Accepted before.disk g)

theorem not_completed_parsed : Phase.generateCombinations ∉ (p.parsed path g).completed := by
  simp [parsed]

include hquiet hgraph

/-- A graph that is accepted is handed on; nothing has changed until then. -/
theorem advance_accepted : ∃ between : Session,
    p.advance (p.source path) before Phase.all = p.advance (p.parsed path g) between [.generateCombinations] ∧
      between.disk = before.disk ∧ between.errorsFor path.text = [] := by
  obtain ⟨between, hadvance, hdisk, herrors⟩ := advance_on [.generateCombinations]
    (not_completed_source .parseFile) (Source.parse_accepted hgraph)
  exact ⟨between, hadvance, hdisk, herrors.trans hquiet⟩

/-- A run whose generating tells an error. -/
theorem leaves_of_generate {src : Source} {n : Notice} {code : Report.Code}
    (hreports : n.Reports .generateCombinations path.text code)
    (hdoes : (p.apply .generateCombinations (p.parsed path g) before.disk).Does path.text before.disk src [n])
    {traces : List String} (hsource : src.complete .generateCombinations =
      { path, suffix := p.suffix, graph := some .empty, traces, completed := Phase.all }) :
    ∃ o, p.Leaves path before Phase.all before.disk o ∧ o.Failed .generateCombinations code ∧ o.traces = traces := by
  obtain ⟨between, hparsed, hdisk, hnone⟩ := advance_accepted hquiet hgraph
  rw [← hdisk] at hdoes
  obtain ⟨after, hadvance, hafter, herrors⟩ := advance_stop [] not_completed_parsed hnone (List.cons_ne_nil n [])
    hdoes
  have hleaves := leaves_failed hreports (hparsed.trans hadvance) hsource herrors
  rwa [hafter, hdisk] at hleaves

theorem ends_refused {minimum maximum : Int} (hbounds : Refused p.bounds minimum maximum) :
    p.Ends path before .refused := by
  obtain ⟨n, hreports, hgenerate⟩ := Source.generate_refused (s := p.parsed path g) (d := before.disk)
    p.showTraces hbounds
  obtain ⟨o, hleaves, hfailed, htraces⟩ := leaves_of_generate hquiet hgraph hreports hgenerate rfl
  exact ⟨g, minimum, maximum, o, hgraph, hbounds, hleaves, hfailed, htraces⟩

theorem ends_overlong (hbounds : Overlong p.bounds) : p.Ends path before .crashed := by
  obtain ⟨between, hparsed, -, -⟩ := advance_accepted hquiet hgraph
  have hgenerate : (p.apply .generateCombinations (p.parsed path g) between.disk).crash =
      some (.unreported .unwritable) :=
    congrArg Effect.crash (Source.generate_overlong (s := p.parsed path g) p.showTraces hbounds)
  have hcrash := advance_crash [] not_completed_parsed hgenerate
  rw [← hparsed] at hcrash
  exact .inr ⟨⟨g, hgraph⟩, hbounds, process_crash hcrash⟩

variable (hbounds : Admitted p.bounds) {target : FilePath}
  (htarget : path.addSuffix p.suffix = .ok target)

include hbounds htarget

theorem ends_unwritable {fault : Files.Fault} (hne : fault ≠ .nulCharacter) (hwrite : before.disk.write target
    (.text (linesText (Source.distinctLines g (windowOf p.bounds)))) = .error fault) :
    p.Ends path before .unwritable := by
  obtain ⟨n, hreports, hgenerate⟩ := Source.generate_unwritable (s := p.parsed path g) p.showTraces hbounds rfl rfl
    htarget hwrite hne
  obtain ⟨o, hleaves, hfailed, htraces⟩ := leaves_of_generate hquiet hgraph hreports hgenerate rfl
  have htraces : o.traces = Source.distinctLines g (windowOf p.bounds) := htraces
  rw [← htraces] at hwrite
  exact ⟨target, fault, o, ⟨g, hgraph, hbounds, htraces⟩, FilePath.text_addSuffix htarget, hwrite, hne, hleaves,
    hfailed⟩

theorem ends_written {disk : Disk} (hwrite : before.disk.write target
    (.text (linesText (Source.distinctLines g (windowOf p.bounds)))) = .ok disk) :
    p.Ends path before .written := by
  obtain ⟨between, hparsed, hdisk, hnone⟩ := advance_accepted hquiet hgraph
  have hgenerate := Source.generate_written (s := p.parsed path g) p.showTraces hbounds rfl rfl
    htarget hwrite
  rw [← hdisk] at hgenerate
  obtain ⟨after, hadvance, hafter, herrors⟩ := advance_on [] not_completed_parsed hgenerate
  obtain ⟨o, hleaves, hsucceeded, htraces⟩ := leaves_succeeded htarget (hparsed.trans hadvance) rfl
    (herrors.trans hnone)
  have htraces : o.traces = Source.distinctLines g (windowOf p.bounds) := htraces
  rw [hafter] at hleaves
  rw [← htraces] at hwrite
  obtain ⟨loc, hloc, -, hset⟩ := Disk.write_ok hwrite
  exact ⟨target, loc, disk, o, ⟨g, hgraph, hbounds, htraces⟩, FilePath.text_addSuffix htarget, hloc, hset,
    Disk.read_of_write hwrite, hleaves, hsucceeded⟩

theorem ends_crashed (hnul : '\x00' ∈ p.suffix.toList) : p.Ends path before .crashed := by
  have htext : '\x00' ∈ target.text.toList := by
    rw [FilePath.text_addSuffix htarget, String.toList_append]
    exact List.mem_append_right _ hnul
  obtain ⟨between, hparsed, -, -⟩ := advance_accepted hquiet hgraph
  have hgenerate : (p.apply .generateCombinations (p.parsed path g) between.disk).crash = some .nulCharacter :=
    Source.generate_nulCharacter (s := p.parsed path g) p.showTraces hbounds rfl rfl htarget htext
  have hcrash := advance_crash [] not_completed_parsed hgenerate
  rw [← hparsed] at hcrash
  exact .inl ⟨.inr ⟨⟨_, g, hgraph, hbounds, rfl⟩, hnul⟩, process_crash hcrash⟩

end Accepted

end Endings

/-- Processing a new source ends in exactly one way, which is told by its text, the bounds and the traces file.
Only a NUL character in the path or in the suffix crashes it, or a negative bound that is too long to be told. -/
theorem process_ends (p : Pipeline) (file : String) (before : Session) (hname : (FilePath.ofText file).name ≠ "")
    (hsuffix : Config.isPlainSuffix p.suffix = true) (htexts : ∀ r ∈ before.disk.files, ∃ t, r.2 = .text t)
    (hquiet : before.errorsFor (FilePath.ofText file).text = []) :
    (∃! e, p.Ends (FilePath.ofText file) before e) ∧
      ('\x00' ∉ (FilePath.ofText file).text.toList → '\x00' ∉ p.suffix.toList → ¬Overlong p.bounds →
        ¬p.Ends (FilePath.ofText file) before .crashed) := by
  generalize hpath : FilePath.ofText file = path at *
  have hslash : '/' ∉ path.name.toList := by rw [← hpath]; exact FilePath.not_mem_name_ofText file
  -- each way in which a phase may go reaches an ending
  obtain ⟨e, hends⟩ : ∃ e, p.Ends path before e := by
    by_cases hnul : '\x00' ∈ path.text.toList
    · have hcrash : (p.apply .parseFile (p.source path) before.disk).crash = some .nulCharacter :=
        Source.parse_nulCharacter hnul
      exact ⟨.crashed, .inl ⟨.inl hnul, process_crash (advance_crash _ (not_completed_source _) hcrash)⟩⟩
    obtain ⟨code, hrejected⟩ | ⟨g, hgraph⟩ := Source.rejected_or_accepted (s := p.source path) htexts hnul
    · exact ⟨.rejected, ends_rejected hquiet hrejected⟩
    obtain ⟨minimum, maximum, hrefused⟩ | hoverlong | hbounds := refused_overlong_or_admitted p.bounds
    · exact ⟨.refused, ends_refused hquiet hgraph hrefused⟩
    · exact ⟨.crashed, ends_overlong hquiet hgraph hoverlong⟩
    obtain ⟨target, htarget⟩ := addSuffix_of_isPlain hname hslash hsuffix
    by_cases hnul' : '\x00' ∈ p.suffix.toList
    · exact ⟨.crashed, ends_crashed hquiet hgraph hbounds htarget hnul'⟩
    cases hwrite : before.disk.write target (.text (linesText (Source.distinctLines g (windowOf p.bounds)))) with
    | ok disk => exact ⟨.written, ends_written hquiet hgraph hbounds htarget hwrite⟩
    | error fault =>
      have hne : fault ≠ .nulCharacter := by
        rintro rfl
        have htext := Disk.write_nulCharacter.1 hwrite
        rw [FilePath.text_addSuffix htarget, String.toList_append, List.mem_append] at htext
        exact htext.elim hnul hnul'
      exact ⟨.unwritable, ends_unwritable hquiet hgraph hbounds htarget hne hwrite⟩
  -- what is left behind tells the ending, so no two of them come true
  refine ⟨⟨e, hends, fun e' hends' => hends'.ofResult_eq.symm.trans hends.ofResult_eq⟩, ?_⟩
  rintro hnul hnul' hshort (⟨h | h, -⟩ | ⟨-, h, -⟩)
  · exact hnul h
  · exact hnul' h.2
  · exact hshort h

/-- A source in a directory below, with raw bounds in reverse order. -/
theorem process_ends_login :
    let p : Pipeline := { bounds := some (.raw 3 1) }
    let before : Session :=
      { disk := { directories := [["graphs"]], files := [(["graphs", "login.dot"], .text "digraph \x7b a -> b \x7d")] } }
    (∃! e, p.Ends (FilePath.ofText "graphs/login.dot") before e) ∧
      ¬p.Ends (FilePath.ofText "graphs/login.dot") before .crashed := by
  intro p before
  have htexts : ∀ r ∈ before.disk.files, ∃ t, r.2 = .text t := by
    intro r hr
    rw [List.mem_singleton.1 hr]
    exact ⟨_, rfl⟩
  obtain ⟨hends, hcrashed⟩ := process_ends p "graphs/login.dot" before (by decide +kernel)
    (isPlainSuffix_iff.2 (by decide +kernel)) htexts rfl
  have hadmitted : Admitted p.bounds := by
    rintro _ _ _ ⟨⟨⟩, hneg, -⟩
    exact absurd hneg (by decide)
  exact ⟨hends, hcrashed (by decide +kernel) (by decide +kernel) fun hoverlong => hoverlong.not_admitted hadmitted⟩

/-- A suffix that the settings allow, and none of the endings without a crash. -/
theorem process_ends_nul_suffix :
    let p : Pipeline := { suffix := "\x00" }
    let before : Session :=
      { disk := { files := [(["a.dot"], .text "digraph \x7b \"a\" -> \"b\" [label=\"go\"]; \x7d")] } }
    let path := FilePath.ofText "a.dot"
    path.name ≠ "" ∧ Config.isPlainSuffix p.suffix = true ∧ (∀ r ∈ before.disk.files, ∃ t, r.2 = .text t) ∧
      before.errorsFor path.text = [] ∧ ∀ e, e ≠ .crashed → ¬p.Ends path before e := by
  intro p before path
  have hname : path.name ≠ "" := by decide +kernel
  have hsuffix : Config.isPlainSuffix p.suffix = true := isPlainSuffix_iff.2 (by decide +kernel)
  have htexts : ∀ r ∈ before.disk.files, ∃ t, r.2 = .text t := by
    intro r hr
    rw [List.mem_singleton.1 hr]
    exact ⟨_, rfl⟩
  -- the text is a printed edge, and the general law of printed texts reads it
  let ops : List Dot.Operation := [.addEdge "a" "b" "go"]
  have hdocument : Dot.Document.ofText (Dot.printed [' '] ops) = .ok ⟨none, ops.map Dot.Operation.statement⟩ :=
    Dot.ofText_printed (by simp [Dot.Gap, Dot.isBlank]) (by simp [ops, Dot.Operation.Printable]; decide +kernel)
  have hstart : Disk.start path.text = .ok ([], ["a.dot"]) := by
    unfold Disk.start
    rw [String.contains_char_eq]
    decide +kernel
  have hlocate : before.disk.locate path = .ok ["a.dot"] := by
    rw [Disk.locate, Disk.locateText, hstart]
    rfl
  have htext : "digraph \x7b \"a\" -> \"b\" [label=\"go\"]; \x7d" = Dot.printed [' '] ops := by decide +kernel
  have hlines : (Files.Content.text (Dot.printed [' '] ops)).lines? = some (Dot.printed [' '] ops) := by
    decide +kernel
  have hfile : before.disk.read path = .ok (.text (Dot.printed [' '] ops)) := by
    rw [← htext, Disk.read_of_locate hlocate]
    rfl
  have hread : (p.source path).readText before.disk = .ok (Dot.printed [' '] ops) := by
    rw [Source.readText, show before.disk.read (p.source path).path = _ from hfile]
    simp only [hlines, Option.elim]
  have hgraph : (p.source path).Accepted before.disk _ := ⟨_, _, hread, hdocument, rfl⟩
  obtain ⟨target, htarget⟩ := addSuffix_of_isPlain hname (FilePath.not_mem_name_ofText _) hsuffix
  have hbounds : Admitted p.bounds := admitted_none
  have hcrashed : p.Ends path before .crashed := ends_crashed rfl hgraph hbounds htarget (by decide +kernel)
  refine ⟨hname, hsuffix, htexts, rfl, fun e hne hends => hne ?_⟩
  exact hends.ofResult_eq.symm.trans hcrashed.ofResult_eq

end Pipeline

end StateTraces
