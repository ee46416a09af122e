import StateTraces.Proofs.Files.Lookup
import StateTraces.Proofs.Pipeline.Listener

/-
Runs that answer. A run gives one outcome for every path, in order, unless processing one of the paths
crashes, and what can crash is told by the path, the tree and the bounds alone: a path with a NUL
character, a file of bytes that are no text, a negative bound that is too long to be told, and a traces file
that cannot be named. Everything else that is wrong with a file is an error in its outcome.
-/

namespace StateTraces

open Files (Disk FilePath)

namespace Pipeline

/-! ## Crashes of a new source -/

/-- The crash of processing a new source: its file cannot be looked up or holds no text, it has a graph and
the first negative bound cannot be told, or it has traces and the file for them cannot be named or looked up. -/
def Breaks (p : Pipeline) (path : FilePath) (d : Disk) (crash : Crash) : Prop :=
  (p.source path).readText d = .error (.crash crash) ∨
    ((∃ g, (p.source path).Accepted d g) ∧ Overlong p.bounds ∧ crash = .unreported .unwritable) ∨
    (∃ traces, p.Generates path d traces) ∧
      ((∃ fault, path.addSuffix p.suffix = .error fault ∧ crash = .unnameable fault) ∨
        ∃ target, path.addSuffix p.suffix = .ok target ∧ '\x00' ∈ target.text.toList ∧ crash = .nulCharacter)

/-- A printed text is accepted. -/
theorem Source.accepted_of_printed {s : Source} {d : Disk} {gap : List Char} {ops : List Dot.Operation}
    (hgap : Dot.Gap gap) (hops : ∀ op ∈ ops, op.Printable)
    (hread : d.read s.path = .ok (.text (Dot.printed gap ops))) (hlines : '\r' ∉ (Dot.printed gap ops).toList) :
    s.Accepted d (AtomGraph.ofTexts (Dot.Document.graph ⟨none, ops.map Dot.Operation.statement⟩)) := by
  refine ⟨Dot.printed gap ops, _, ?_, Dot.ofText_printed hgap hops, rfl⟩
  rw [readText, hread]
  simp only [Disk.lines?_of_not_mem hlines, Option.elim]

/-- A text with one edge, which is its only trace. -/
theorem Source.accepted_edge {s : Source} {d : Disk}
    (hread : d.read s.path = .ok (.text "digraph \x7b \"a\" -> \"b\" [label=\"go\"]; \x7d")) :
    ∃ g, s.Accepted d g ∧ distinctLines g none = ["go"] := by
  have htext : "digraph \x7b \"a\" -> \"b\" [label=\"go\"]; \x7d" = Dot.printed [' '] [.addEdge "a" "b" "go"] := by
    decide +kernel
  rw [htext] at hread
  refine ⟨_, accepted_of_printed ?_ ?_ hread (by decide +kernel), by decide +kernel⟩
  · simp [Dot.Gap, Dot.isBlank]
  · simp [Dot.Operation.Printable]
    decide +kernel

section NewSource

variable {p : Pipeline} {path : FilePath} {before : Session} {d : Disk} {crash : Crash} {o : Outcome}

theorem advance_of_breaks (h : p.Breaks path before.disk crash) :
    (p.advance (p.source path) before Phase.all).2.2 = some crash := by
  -- a crash of generating is one of the whole advance once the graph is read
  have hgenerate : ∀ {g}, (p.source path).Accepted before.disk g →
      (∀ d, ((p.parsed path g).generate p.bounds p.showTraces d).crash = some crash) →
      (p.advance (p.source path) before Phase.all).2.2 = some crash := by
    intro g hgraph hcrash
    obtain ⟨between, hadvance, -⟩ := advance_on [.generateCombinations] (not_completed_source .parseFile)
      (Source.parse_accepted hgraph)
    exact (congrArg (·.2.2) hadvance).trans
      (advance_crash [] (p := p) (s := p.parsed path g) not_completed_parsed (hcrash _))
  obtain hread | ⟨⟨g, hgraph⟩, hoverlong, rfl⟩ | ⟨⟨traces, g, hgraph, hbounds, -⟩, hname⟩ := h
  · refine advance_crash _ (not_completed_source .parseFile) ?_
    show ((p.source path).parse before.disk).crash = some crash
    rw [Source.parse_crashed hread]
  · exact hgenerate hgraph fun d => congrArg Effect.crash (Source.generate_overlong p.showTraces hoverlong)
  · refine hgenerate hgraph fun d => ?_
    obtain ⟨fault, htarget, rfl⟩ | ⟨target, htarget, hnul, rfl⟩ := hname
    · rw [Source.generate_eq p.showTraces hbounds rfl rfl,
        Source.write_unnameable (s := (p.parsed path g).filled g (windowOf p.bounds)) htarget]
    · exact Source.generate_nulCharacter p.showTraces hbounds rfl rfl htarget hnul

/-- A new source either crashes or comes to one of the other endings. -/
theorem breaks_or_ends (p : Pipeline) (path : FilePath) (d : Disk) :
    (∃ crash, p.Breaks path d crash) ∨ ∃ e, e ≠ .crashed ∧ p.Ends path { disk := d } e := by
  have hquiet : ({ disk := d } : Session).errorsFor path.text = [] := rfl
  obtain ⟨crash, hread⟩ | ⟨code, hrejected⟩ | ⟨g, hgraph⟩ :=
    Source.crashed_rejected_or_accepted (p.source path) d
  · exact .inl ⟨crash, .inl hread⟩
  · exact .inr ⟨.rejected, by decide, ends_rejected hquiet hrejected⟩
  obtain ⟨minimum, maximum, hrefused⟩ | hoverlong | hbounds := refused_overlong_or_admitted p.bounds
  · exact .inr ⟨.refused, by decide, ends_refused hquiet hgraph hrefused⟩
  · exact .inl ⟨_, .inr (.inl ⟨⟨g, hgraph⟩, hoverlong, rfl⟩)⟩
  have hgenerates : ∃ traces, p.Generates path d traces := ⟨_, g, hgraph, hbounds, rfl⟩
  cases htarget : path.addSuffix p.suffix with
  | error fault => exact .inl ⟨_, .inr (.inr ⟨hgenerates, .inl ⟨fault, htarget, rfl⟩⟩)⟩
  | ok target =>
    by_cases hnul : '\x00' ∈ target.text.toList
    · exact .inl ⟨_, .inr (.inr ⟨hgenerates, .inr ⟨target, htarget, hnul, rfl⟩⟩)⟩
    cases hwrite : d.write target (.text (linesText (Source.distinctLines g (windowOf p.bounds)))) with
    | ok disk => exact .inr ⟨.written, by decide, ends_written hquiet hgraph hbounds htarget hwrite⟩
    | error fault =>
      have hne : fault ≠ .nulCharacter := by
        rintro rfl
        exact hnul (Disk.write_nulCharacter.1 hwrite)
      exact .inr ⟨.unwritable, by decide, ends_unwritable hquiet hgraph hbounds htarget hne hwrite⟩

theorem Ends.answers {e : Ending} (h : p.Ends path before e) (hne : e ≠ .crashed) :
    ∃ o, (p.process (p.source path) before).2.2 = .ok o := by
  cases e with
  | rejected => obtain ⟨_, o, -, hleaves, -⟩ := h; exact ⟨o, hleaves.outcome_eq⟩
  | refused => obtain ⟨_, _, _, o, -, -, hleaves, -⟩ := h; exact ⟨o, hleaves.outcome_eq⟩
  | unwritable => obtain ⟨_, _, o, -, -, -, -, hleaves, -⟩ := h; exact ⟨o, hleaves.outcome_eq⟩
  | written => obtain ⟨_, _, _, o, -, -, -, -, -, hleaves, -⟩ := h; exact ⟨o, hleaves.outcome_eq⟩
  | crashed => exact absurd rfl hne

theorem process_of_breaks (h : p.Breaks path before.disk crash) :
    (p.process (p.source path) before).2.2 = .error crash :=
  process_crash (advance_of_breaks h)

/-- A new source has an outcome, whatever was told before, exactly if nothing crashes. -/
theorem process_answers_iff : (∃ o, (p.process (p.source path) before).2.2 = .ok o) ↔
    ∀ crash, ¬p.Breaks path before.disk crash := by
  refine ⟨fun ⟨o, ho⟩ crash hcrash => ?_, fun h => ?_⟩
  · rw [process_of_breaks hcrash] at ho
    cases ho
  · obtain ⟨e, hne, hends⟩ := (breaks_or_ends p path before.disk).resolve_left fun ⟨crash, hcrash⟩ => h crash hcrash
    obtain ⟨o, ho⟩ := hends.answers hne
    by_cases hquiet : before.errorsFor (p.source path).text = []
    · exact ⟨o, (process_quiet hquiet).trans ho⟩
    · exact ⟨_, process_loud hquiet ho⟩

end NewSource

/-- A missing file is rejected. -/
theorem missing_rejected (p : Pipeline) {d : Disk} (h : d.files.get? ["a.dot"] = none)
    (hdir : ["a.dot"] ∉ d.directories) : (p.source (.ofText "a.dot")).Rejected d .sourceNotFound := by
  have hlocate : d.locate (.ofText "a.dot") = .ok ["a.dot"] := Disk.locate_name (by decide +kernel) d
  have hkind : d.kind? ["a.dot"] = none := by
    rw [Disk.kind?, if_neg (not_or.2 ⟨by decide, hdir⟩), h]
    rfl
  have hread : d.read (.ofText "a.dot") = .error .notFound := by rw [Disk.read_of_locate hlocate, hkind]
  exact Source.rejected_of_fault hread (by decide)

/-- A file with a graph, processed with the default settings. -/
theorem leaves_accepted {d : Disk} {g : AtomGraph} (hdir : ["a.dot.traces"] ∉ d.directories)
    (hgraph : (source {} (.ofText "a.dot")).Accepted d g) :
    ∃ content o, Leaves {} (.ofText "a.dot") { disk := d } Phase.all (d.set ["a.dot.traces"] content) o ∧
      o.errors = [] ∧ o.traces = Source.distinctLines g none := by
  have hbounds : Admitted ({} : Pipeline).bounds := admitted_none
  have htarget : (FilePath.ofText "a.dot").addSuffix ".traces" = .ok (.ofText "a.dot.traces") := by rfl
  have hlocate : d.locate (.ofText "a.dot.traces") = .ok ["a.dot.traces"] := Disk.locate_name (by decide +kernel) d
  have hwrite : d.write (.ofText "a.dot.traces") (.text (linesText (Source.distinctLines g none))) =
      .ok (d.set ["a.dot.traces"] (.text (linesText (Source.distinctLines g none)))) :=
    (Disk.write_of_locate hlocate).trans (if_neg (not_or.2 ⟨by decide, hdir⟩))
  have hends : Ends {} (.ofText "a.dot") { disk := d } .written := ends_written rfl hgraph hbounds htarget hwrite
  obtain ⟨target, loc, _, o, ⟨g', hgraph', -, htraces⟩, htext, hloc, rfl, -, hleaves, hsucceeded⟩ := hends
  -- the traces file has this text and so this place
  rw [← FilePath.text_addSuffix htarget] at htext
  rw [Disk.locate, htext, ← Disk.locate, hlocate] at hloc
  obtain rfl := Except.ok.inj hloc
  rw [hgraph'.unique hgraph] at htraces
  exact ⟨_, o, hleaves, hsucceeded.errors_eq, htraces⟩

/-- A file with one edge, processed with the default settings. -/
theorem leaves_edge {d : Disk} (hdir : ["a.dot.traces"] ∉ d.directories)
    (hread : d.read (.ofText "a.dot") = .ok (.text "digraph \x7b \"a\" -> \"b\" [label=\"go\"]; \x7d")) :
    ∃ content o, Leaves {} (.ofText "a.dot") { disk := d } Phase.all (d.set ["a.dot.traces"] content) o ∧
      o.errors = [] ∧ o.traces = ["go"] := by
  obtain ⟨g, hgraph, hlines⟩ := Source.accepted_edge (s := source {} (.ofText "a.dot")) hread
  rw [← hlines]
  exact leaves_accepted hdir hgraph

/-! ## Turns of a run -/

/-- The paths of a run, each with the session in which its turn comes. -/
def turns (p : Pipeline) (before : Session) : List FilePath → List (FilePath × Session)
  | [] => []
  | path :: paths => (path, before) :: turns p (p.process (p.source path) before).1 paths

/-- What comes out of a turn. -/
def result (p : Pipeline) (turn : FilePath × Session) : Except Crash Outcome :=
  (p.process (p.source turn.1) turn.2).2.2

section Turns

variable {p : Pipeline} {before : Session} {path : FilePath} {paths : List FilePath} {o : Outcome}
  {outcomes : List Outcome}

theorem map_fst_turns (p : Pipeline) (before : Session) (paths : List FilePath) :
    (p.turns before paths).map Prod.fst = paths := by
  induction paths generalizing before with
  | nil => rfl
  | cons path paths ih => rw [turns, List.map_cons, ih]

theorem run_cons : p.run before (path :: paths) =
    match p.process (p.source path) before with
    | (after, _, .error crash) => (after, .error crash)
    | (after, _, .ok o) => ((p.run after paths).1, (p.run after paths).2.map (o :: ·)) := rfl

theorem run_cons_crash {crash : Crash} (h : p.result (path, before) = .error crash) :
    p.run before (path :: paths) = ((p.process (p.source path) before).1, .error crash) := by
  unfold result at h
  rw [run_cons]
  generalize p.process (p.source path) before = r at h ⊢
  obtain ⟨after, src, result⟩ := r
  cases h
  rfl

theorem run_cons_ok (h : p.result (path, before) = .ok o) : p.run before (path :: paths) =
    ((p.run (p.process (p.source path) before).1 paths).1,
      (p.run (p.process (p.source path) before).1 paths).2.map (o :: ·)) := by
  unfold result at h
  rw [run_cons]
  generalize p.process (p.source path) before = r at h ⊢
  obtain ⟨after, src, result⟩ := r
  cases h
  rfl

/-- A run answers with what comes out of the turns. -/
theorem run_ok_iff : (p.run before paths).2 = .ok outcomes ↔
    List.Forall₂ (fun turn o => p.result turn = .ok o) (p.turns before paths) outcomes := by
  induction paths generalizing before outcomes with
  | nil =>
    rw [turns, show p.run before [] = (before, .ok []) from rfl]
    cases outcomes <;> simp
  | cons path paths ih =>
    rw [turns]
    cases hresult : p.result (path, before) with
    | error crash => cases outcomes <;> simp [run_cons_crash hresult, hresult]
    | ok o =>
      rw [run_cons_ok hresult]
      cases outcomes with
      | nil => cases (p.run (p.process (p.source path) before).1 paths).2 <;> simp [Except.map]
      | cons o' outcomes =>
        rw [List.forall₂_cons, ← ih, hresult]
        cases (p.run (p.process (p.source path) before).1 paths).2 <;> simp [Except.map]

theorem turns_withTexts {turn : FilePath × Session} (h : turn ∈ p.turns before paths) :
    before.disk.WithTexts turn.2.disk := by
  induction paths generalizing before with
  | nil => cases h
  | cons path paths ih =>
    rcases List.mem_cons.1 h with rfl | h
    · exact .refl before.disk
    · exact (process_withTexts p (p.source path) before).trans (ih h)

/-- Every outcome names its path. -/
theorem map_path_of_run (h : (p.run before paths).2 = .ok outcomes) : outcomes.map Outcome.path = paths := by
  have hpaths : List.Forall₂ (fun (turn : FilePath × Session) (o : Outcome) => turn.1 = o.path)
      (p.turns before paths) outcomes := (run_ok_iff.1 h).imp fun {turn o} ho => (process_ok ho).1.symm
  rw [← map_fst_turns p before paths, eq_comm, ← List.forall₂_eq_eq_eq, List.forall₂_map_left_iff,
    List.forall₂_map_right_iff]
  exact hpaths

theorem mem_of_mem_turns {turn : FilePath × Session} (h : turn ∈ p.turns before paths) : turn.1 ∈ paths := by
  rw [← map_fst_turns p before paths]
  exact List.mem_map_of_mem h

/-- A run answers exactly if nothing crashes in any turn. -/
theorem run_answers_iff : (∃ outcomes, (p.run before paths).2 = .ok outcomes) ↔
    ∀ turn ∈ p.turns before paths, ∀ crash, ¬p.Breaks turn.1 turn.2.disk crash := by
  have hresult : ∀ turn : FilePath × Session,
      (∃ o, p.result turn = .ok o) ↔ ∀ crash, ¬p.Breaks turn.1 turn.2.disk crash := fun turn => process_answers_iff
  simp only [run_ok_iff, ← hresult]
  generalize p.turns before paths = turns
  induction turns with
  | nil => exact ⟨fun _ _ h => absurd h List.not_mem_nil, fun _ => ⟨[], .nil⟩⟩
  | cons turn turns ih =>
    simp only [List.forall_mem_cons, ← ih]
    constructor
    · rintro ⟨outcomes, h⟩
      cases h with
      | cons ho houtcomes => exact ⟨⟨_, ho⟩, _, houtcomes⟩
    · rintro ⟨⟨o, ho⟩, outcomes, houtcomes⟩
      exact ⟨o :: outcomes, .cons ho houtcomes⟩

end Turns

/-! ## Bad files -/

/-- The path is one, and its file, if there is one, holds a text. -/
def Legible (path : FilePath) (d : Disk) : Prop :=
  '\x00' ∉ path.text.toList ∧ ∀ bytes, d.read path ≠ .ok (.binary bytes)

/-- The outcome of a file that cannot be read or parsed: an error of parsing, and no traces file. -/
structure Outcome.Refuses (o : Outcome) (path : FilePath) (code : Report.Code) : Prop where
  reported : ∃ n ∈ o.errors, n.Reports .parseFile path.text code
  not_ok : o.ok = false
  tracesPath_eq : o.tracesPath = none

section BadFiles

variable {p : Pipeline} {path : FilePath} {before : Session} {d e : Disk} {o : Outcome}

theorem Legible.withTexts (h : Legible path d) (hwith : d.WithTexts e) : Legible path e :=
  ⟨h.1, fun bytes hread => h.2 bytes (hwith.read_binary hread)⟩

theorem not_breaks_of_legible {crash : Crash} (hlegible : Legible path d) (hname : path.name ≠ "")
    (hslash : '/' ∉ path.name.toList) (hsuffix : Config.isPlainSuffix p.suffix = true)
    (hnul : '\x00' ∉ p.suffix.toList) (hbounds : ¬Overlong p.bounds) : ¬p.Breaks path d crash := by
  rintro (hread | ⟨-, hoverlong, -⟩ | ⟨-, ⟨fault, htarget, -⟩ | ⟨target, htarget, hmem, -⟩⟩)
  · obtain ⟨-, hpath⟩ | ⟨-, bytes, hbytes⟩ := Source.readText_crash.1 hread
    · exact hlegible.1 hpath
    · exact hlegible.2 bytes hbytes
  · exact hbounds hoverlong
  · obtain ⟨target, hok⟩ := addSuffix_of_isPlain hname hslash hsuffix
    rw [htarget] at hok
    cases hok
  · rw [FilePath.text_addSuffix htarget, String.toList_append, List.mem_append] at hmem
    exact hmem.elim hlegible.1 hnul

/-- Whatever was told before, a file that cannot be read or parsed has an error in its outcome. -/
theorem refuses_of_rejected {code : Report.Code} (h : (p.source path).Rejected before.disk code)
    (ho : p.result (path, before) = .ok o) : o.Refuses path code := by
  have hends : p.Ends path { disk := before.disk } .rejected := ends_rejected rfl h
  obtain ⟨code', o', hrejected, hleaves, ⟨⟨n, herrors, hreports⟩, hok, htarget⟩, -⟩ := hends
  obtain rfl := h.unique hrejected
  rw [hleaves.path_eq] at hreports
  by_cases hquiet : before.errorsFor (p.source path).text = []
  · obtain rfl : o' = o := Except.ok.inj (hleaves.outcome_eq.symm.trans ((process_quiet hquiet).symm.trans ho))
    exact ⟨⟨n, by rw [herrors]; exact List.mem_singleton_self n, hreports⟩, hok, htarget⟩
  · have hloud := Except.ok.inj (ho.symm.trans (process_loud hquiet hleaves.outcome_eq))
    rw [herrors] at hloud
    subst hloud
    exact ⟨⟨n, List.mem_append_right _ (List.mem_singleton_self n), hreports⟩, by simp [Outcome.ok], rfl⟩

end BadFiles

/-- A run answers exactly if nothing crashes in any turn, and so it does if every file named in it is legible
at the start and no negative bound is too long to be told. It gives one outcome for each path, in order, and
every file that cannot be read or parsed when its turn comes has an error in its outcome. -/
theorem run_answers (p : Pipeline) (before : Session) (files : List String) :
    let paths := files.map FilePath.ofText
    ((∃ outcomes, (p.run before paths).2 = .ok outcomes) ↔
        ∀ turn ∈ p.turns before paths, ∀ crash, ¬p.Breaks turn.1 turn.2.disk crash) ∧
      (Config.isPlainSuffix p.suffix = true → '\x00' ∉ p.suffix.toList → ¬Overlong p.bounds →
        (∀ path ∈ paths, path.name ≠ "" ∧ Legible path before.disk) →
        ∃ outcomes, (p.run before paths).2 = .ok outcomes) ∧
      ∀ outcomes, (p.run before paths).2 = .ok outcomes → outcomes.map Outcome.path = paths ∧
        List.Forall₂ (fun turn o => ∀ code, (p.source turn.1).Rejected turn.2.disk code → o.Refuses turn.1 code)
          (p.turns before paths) outcomes := by
  intro paths
  refine ⟨run_answers_iff, fun hsuffix hnul hbounds hpaths => ?_, fun outcomes h => ?_⟩
  · refine run_answers_iff.2 fun turn hturn crash => ?_
    have hmem := mem_of_mem_turns hturn
    obtain ⟨hname, hlegible⟩ := hpaths _ hmem
    obtain ⟨file, -, hfile⟩ := List.mem_map.1 hmem
    have hslash : '/' ∉ turn.1.name.toList := by rw [← hfile]; exact FilePath.not_mem_name_ofText file
    -- the turns before only wrote texts
    exact not_breaks_of_legible (hlegible.withTexts (turns_withTexts hturn)) hname hslash hsuffix hnul hbounds
  · refine ⟨map_path_of_run h, (run_ok_iff.1 h).imp ?_⟩
    exact fun {turn o} ho code hrejected => refuses_of_rejected hrejected ho

/-- Bytes that are no text stop a run. -/
theorem run_undecodable :
    let before : Session := { disk := { files := [(["a.dot"], .binary [0xff])] } }
    let path := FilePath.ofText "a.dot"
    path.name ≠ "" ∧ (({} : Pipeline).run before [path]).2 = .error .undecodable := by
  intro before path
  have hlocate : before.disk.locate path = .ok ["a.dot"] := Disk.locate_name (by decide +kernel) _
  have hread : before.disk.read path = .ok (.binary [0xff]) := by
    rw [Disk.read_of_locate hlocate]
    rfl
  have hbreaks : ({} : Pipeline).Breaks path before.disk .undecodable :=
    .inl (Source.readText_crash.2 (.inr ⟨rfl, _, hread⟩))
  exact ⟨by decide +kernel, congrArg Prod.snd (run_cons_crash (process_of_breaks hbreaks))⟩

end Pipeline

end StateTraces
