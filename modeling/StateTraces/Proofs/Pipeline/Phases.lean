import StateTraces.Proofs.Files.Disk
import StateTraces.Proofs.Pipeline.Collect

/-
What the two phases do to a source, with one lemma for each way in which a phase may go. Parsing rejects
the file or accepts its graph. Generating refuses the bounds, or it collects the traces and then finds the
traces file closed to writing or writes it. A path with a NUL character is no path to the system and
crashes the phase that uses it; a negative bound that is too long to be told crashes generating.
-/

namespace StateTraces

open Files (Disk FilePath)

namespace Pipeline

/-! ## Effects of phases -/

/-- What a phase did that did not crash, with the errors that it told about a source. -/
structure Effect.Does (f : Effect) (name : String) (disk : Disk) (source : Source) (errors : List Notice) :
    Prop where
  disk_eq : f.disk = disk
  source_eq : f.source = source
  crash_eq : f.crash = none
  errors_eq : errorsIn name f.entries = errors

/-- The same file, the same traces file, and the same phases done. -/
structure Source.Kin (s t : Source) : Prop where
  path_eq : t.path = s.path
  suffix_eq : t.suffix = s.suffix
  completed_eq : t.completed = s.completed

/-- An error notice of a phase about a source, with a code. -/
structure Notice.Reports (n : Notice) (phase : Phase) (source : String) (code : Report.Code) : Prop where
  severity_eq : n.severity = .error
  phase_eq : n.phase = phase.name
  source_eq : n.source = source
  code_eq : n.report.map Report.code = some code

namespace Source

variable {s : Source} {d : Disk}

theorem does_calm {f : Effect} (name : String) (hcalm : ∀ e ∈ f.entries, e.Calm) (hcrash : f.crash = none) :
    f.Does name f.disk f.source [] :=
  ⟨rfl, rfl, hcrash, errorsIn_of_calm hcalm⟩

/-- A phase that tells an error at its end, and none before. -/
theorem does_failure {f : Effect} {entries : List Entry} {phase : Phase} {what : String} {r : Report}
    (hcalm : ∀ e ∈ entries, e.Calm) (hentries : f.entries = entries ++ [s.failure phase what r])
    (hcrash : f.crash = none) :
    ∃ n : Notice, n.Reports phase s.text r.code ∧ f.Does s.text f.disk f.source [n] := by
  let n : Notice := { severity := .error, phase := phase.name, source := s.text, text := s!"{what}: {r.message}"
                      report := some { r with context := { r.context with
                        phase := r.context.phase.orElse fun _ => some phase.name } } }
  have hfailure : errorsIn s.text [s.failure phase what r] = [n] := by
    simp [errorsIn, errorsFor, failure, Entry.notice?, n]
  refine ⟨n, ⟨rfl, rfl, rfl, rfl⟩, rfl, rfl, hcrash, ?_⟩
  rw [hentries, errorsIn_append, errorsIn_of_calm hcalm, hfailure, List.nil_append]

/-! ## Parsing -/

/-- The file of the source cannot be read, or its text is no graph. -/
def Rejected (s : Source) (d : Disk) (code : Report.Code) : Prop :=
  (∃ r, s.readText d = .error (.reported r) ∧ code = .sourceNotFound) ∨
    ∃ text fault, s.readText d = .ok text ∧ Dot.Document.ofText text = .error fault ∧ code = .syntaxError

/-- The file of the source holds the text of a graph. -/
def Accepted (s : Source) (d : Disk) (g : AtomGraph) : Prop :=
  ∃ text document, s.readText d = .ok text ∧ Dot.Document.ofText text = .ok document ∧
    g = AtomGraph.ofTexts document.graph

theorem Rejected.unique {code other : Report.Code} (h : s.Rejected d code) (h' : s.Rejected d other) :
    code = other := by
  obtain ⟨r, hread, rfl⟩ | ⟨text, fault, hread, -, rfl⟩ := h <;>
    obtain ⟨r', hread', rfl⟩ | ⟨text', fault', hread', -, rfl⟩ := h'
  · rfl
  · rw [hread] at hread'; cases hread'
  · rw [hread] at hread'; cases hread'
  · rfl

theorem Rejected.not_accepted {code : Report.Code} {g : AtomGraph} (h : s.Rejected d code) : ¬s.Accepted d g := by
  rintro ⟨text, document, hread, hdocument, -⟩
  obtain ⟨r, hread', -⟩ | ⟨text', fault, hread', hfault, -⟩ := h
  · rw [hread] at hread'; cases hread'
  · rw [hread] at hread'; cases hread'
    rw [hdocument] at hfault; cases hfault

theorem Accepted.unique {g g' : AtomGraph} (h : s.Accepted d g) (h' : s.Accepted d g') : g = g' := by
  obtain ⟨text, document, hread, hdocument, rfl⟩ := h
  obtain ⟨text', document', hread', hdocument', rfl⟩ := h'
  rw [hread] at hread'; cases hread'
  rw [hdocument] at hdocument'; cases hdocument'
  rfl

theorem readText_reported {r : Report} (h : s.readText d = .error (.reported r)) : r.code = .sourceNotFound := by
  unfold readText at h
  split at h
  · cases h
  · cases h; rfl
  · rename_i content _
    cases hlines : content.lines? <;> rw [hlines] at h <;> cases h

/-- A file that the system does not open is reported. -/
theorem readText_of_fault {fault : Files.Fault} (hread : d.read s.path = .error fault) (hne : fault ≠ .nulCharacter) :
    ∃ r, s.readText d = .error (.reported r) ∧ r.message = s!"Cannot read {s.text}: {fault.message}" := by
  unfold readText
  rw [hread]
  cases fault with
  | nulCharacter => exact absurd rfl hne
  | _ => exact ⟨_, rfl, rfl⟩

theorem rejected_of_fault {fault : Files.Fault} (hread : d.read s.path = .error fault) (hne : fault ≠ .nulCharacter) :
    s.Rejected d .sourceNotFound := by
  obtain ⟨r, hr, -⟩ := readText_of_fault hread hne
  exact .inl ⟨r, hr, rfl⟩

/-- Reading crashes at a path with a NUL character and at bytes that are no text. -/
theorem readText_crash {crash : Crash} : s.readText d = .error (.crash crash) ↔
    crash = .nulCharacter ∧ '\x00' ∈ s.text.toList ∨
      crash = .undecodable ∧ ∃ bytes, d.read s.path = .ok (.binary bytes) := by
  rw [show '\x00' ∈ s.text.toList ↔ d.read s.path = .error .nulCharacter from Disk.read_nulCharacter.symm, readText]
  cases hread : d.read s.path with
  | error fault => cases fault <;> simp [eq_comm]
  | ok content => cases content <;> simp [Files.Content.lines?, eq_comm]

theorem readText_nulCharacter (h : '\x00' ∈ s.text.toList) :
    s.readText d = .error (.crash .nulCharacter) :=
  readText_crash.2 (.inl ⟨rfl, h⟩)

/-- Parsing goes one of three ways. -/
theorem crashed_rejected_or_accepted (s : Source) (d : Disk) :
    (∃ crash, s.readText d = .error (.crash crash)) ∨ (∃ code, s.Rejected d code) ∨ ∃ g, s.Accepted d g := by
  cases hread : s.readText d with
  | ok text =>
    cases hdocument : Dot.Document.ofText text with
    | error fault => exact .inr (.inl ⟨_, .inr ⟨text, fault, hread, hdocument, rfl⟩⟩)
    | ok document => exact .inr (.inr ⟨_, text, document, hread, hdocument, rfl⟩)
  | error fault =>
    cases fault with
    | reported r => exact .inr (.inl ⟨_, .inl ⟨r, hread, rfl⟩⟩)
    | crash crash => exact .inl ⟨crash, rfl⟩

/-- Without a NUL character in the path and without bytes that are no text, parsing goes one of two ways. -/
theorem rejected_or_accepted (htexts : ∀ r ∈ d.files, ∃ t, r.2 = .text t) (hpath : '\x00' ∉ s.text.toList) :
    (∃ code, s.Rejected d code) ∨ ∃ g, s.Accepted d g := by
  refine (crashed_rejected_or_accepted s d).resolve_left fun ⟨crash, hcrash⟩ => ?_
  obtain ⟨-, hnul⟩ | ⟨-, bytes, hbytes⟩ := readText_crash.1 hcrash
  · exact hpath hnul
  · obtain ⟨loc, hmem⟩ := Disk.mem_files_of_read hbytes
    obtain ⟨t, ht⟩ := htexts _ hmem
    cases ht

theorem parse_crashed {crash : Crash} (h : s.readText d = .error (.crash crash)) : s.parse d =
    { disk := d, source := s, entries := [s.notice .parseFile .info "Parsing file"], crash := some crash } := by
  simp only [parse, h]

/-- Everything that parsing tells is told about the source. -/
theorem parse_from : ∀ e ∈ (s.parse d).entries, e.From .parseFile s.text := by
  unfold parse
  split
  · simp
  · simp
  · split
    · simp
    · dsimp only
      split <;> simp

theorem parse_kin : s.Kin (s.parse d).source := by
  unfold parse
  split
  · exact ⟨rfl, rfl, rfl⟩
  · exact ⟨rfl, rfl, rfl⟩
  · split <;> exact ⟨rfl, rfl, rfl⟩

theorem parse_disk : (s.parse d).disk = d := by
  unfold parse
  split
  · rfl
  · rfl
  · split <;> rfl

theorem parsing_calm : ∀ e ∈ [s.notice .parseFile .info "Parsing file"], e.Calm := by
  simp [notice, Entry.Calm]

theorem parse_rejected {code : Report.Code} (h : s.Rejected d code) : ∃ n : Notice,
    n.Reports .parseFile s.text code ∧ (s.parse d).Does s.text d { s with graph := some .empty } [n] := by
  obtain ⟨r, hread, rfl⟩ | ⟨text, fault, hread, hfault, rfl⟩ := h
  · have heffect := does_failure (s := s) (f := s.parse d) parsing_calm (r := r)
      (by simp only [parse, hread]; rfl) (by simp only [parse, hread])
    rw [readText_reported hread] at heffect
    simpa only [parse, hread] using heffect
  · have heffect := does_failure (s := s) (f := s.parse d) parsing_calm (r := fault.report s.text)
      (by simp only [parse, hread, hfault]; rfl) (by simp only [parse, hread, hfault])
    have hcode : (fault.report (some s.text)).code = .syntaxError := rfl
    rw [hcode] at heffect
    simpa only [parse, hread, hfault] using heffect

/-- The error about a file that the system does not open says why. -/
theorem parse_of_fault {fault : Files.Fault} (hread : d.read s.path = .error fault) (hne : fault ≠ .nulCharacter) :
    (errorsIn s.text (s.parse d).entries).map Notice.text =
      ["Failed to parse file: " ++ s!"Cannot read {s.text}: {fault.message}"] := by
  obtain ⟨r, hr, hmessage⟩ := readText_of_fault hread hne
  have hstart : errorsIn s.text [s.notice .parseFile .info "Parsing file"] = [] := errorsIn_of_calm parsing_calm
  have hentries : (s.parse d).entries = [s.notice .parseFile .info "Parsing file"] ++
      [s.failure .parseFile "Failed to parse file" r] := by
    simp only [parse, hr]
    rfl
  rw [hentries, errorsIn_append, hstart, List.nil_append, ← hmessage]
  have htext : "Failed to parse file" ++ ": " = "Failed to parse file: " := by decide +kernel
  simp [errorsIn, errorsFor, failure, Entry.notice?, ← htext, toString]

theorem parse_accepted {g : AtomGraph} (h : s.Accepted d g) :
    (s.parse d).Does s.text d { s with graph := some g } [] := by
  obtain ⟨text, document, hread, hdocument, rfl⟩ := h
  have hcalm : ∀ e ∈ (s.parse d).entries, e.Calm := by
    simp only [parse, hread, hdocument]
    split <;> simp [notice, Entry.Calm]
  have heffect := does_calm s.text hcalm (by simp only [parse, hread, hdocument])
  simpa only [parse, hread, hdocument] using heffect

/-- Parsing tells no error about a file that it does not reject. -/
theorem parse_calm (h : ∀ code, ¬s.Rejected d code) : errorsIn s.text (s.parse d).entries = [] := by
  obtain ⟨crash, hread⟩ | ⟨code, hrejected⟩ | ⟨g, hgraph⟩ := crashed_rejected_or_accepted s d
  · rw [parse_crashed hread]
    exact errorsIn_of_calm parsing_calm
  · exact absurd hrejected (h code)
  · exact (parse_accepted hgraph).errors_eq

/-- A crash of parsing leaves the source as it is. -/
theorem parse_source_of_crash (h : (s.parse d).crash ≠ none) : (s.parse d).source = s := by
  obtain ⟨crash, hread⟩ | ⟨code, hrejected⟩ | ⟨g, hgraph⟩ := crashed_rejected_or_accepted s d
  · rw [parse_crashed hread]
  · obtain ⟨n, -, hdoes⟩ := parse_rejected hrejected
    exact absurd hdoes.crash_eq h
  · exact absurd (parse_accepted hgraph).crash_eq h

theorem parse_nulCharacter (h : '\x00' ∈ s.text.toList) : (s.parse d).crash = some .nulCharacter := by
  rw [parse_crashed (readText_nulCharacter h)]

end Source

/-! ## Bounds -/

/-- The bounds are given as integers, and this is the first negative one; the minimum comes first. -/
def Negates (bounds : Option Bounds) (minimum maximum value : Int) : Prop :=
  bounds = some (.raw minimum maximum) ∧ (minimum < 0 ∨ maximum < 0) ∧
    value = if minimum < 0 then minimum else maximum

/-- The first negative bound is told. -/
def Refused (bounds : Option Bounds) (minimum maximum : Int) : Prop :=
  ∃ value, Negates bounds minimum maximum value ∧ Text.isShort value = true

/-- The first negative bound is too long to be told. -/
def Overlong (bounds : Option Bounds) : Prop :=
  ∃ minimum maximum value, Negates bounds minimum maximum value ∧ Text.isShort value = false

/-- No bound is negative. -/
def Admitted (bounds : Option Bounds) : Prop := ∀ minimum maximum value, ¬Negates bounds minimum maximum value

/-- The window that bounds stand for; raw ones are put in order. -/
def windowOf : Option Bounds → Option DepthWindow
  | none => none
  | some (.window w) => some w
  | some (.raw minimum maximum) => some (.between minimum.toNat maximum.toNat)

/-- The code of the report of a negative bound: the minimum comes first. -/
def refusalCode (minimum : Int) : Report.Code :=
  if minimum < 0 then .invalidMinimumDepth else .invalidMaximumDepth

theorem resolve_negates {bounds : Option Bounds} {minimum maximum value : Int}
    (h : Negates bounds minimum maximum value) : ∃ bound,
    (DepthWindow.negativeBound bound value).code = refusalCode minimum ∧
      bounds.mapM Bounds.resolve = .error (Bounds.fault (.ofNegative bound value)) := by
  obtain ⟨rfl, hneg, rfl⟩ := h
  by_cases hmin : minimum < 0
  · refine ⟨.minimum, (if_pos hmin).symm, ?_⟩
    simp [Bounds.resolve, DepthWindow.ofBounds, DepthWindow.checkBounds, hmin, Except.mapError]
  · have hmax : maximum < 0 := hneg.resolve_left hmin
    refine ⟨.maximum, (if_neg hmin).symm, ?_⟩
    simp [Bounds.resolve, DepthWindow.ofBounds, DepthWindow.checkBounds, hmin, hmax, Except.mapError]

theorem resolve_refused {bounds : Option Bounds} {minimum maximum : Int} (h : Refused bounds minimum maximum) :
    ∃ r, bounds.mapM Bounds.resolve = .error (.reported r) ∧ r.code = refusalCode minimum := by
  obtain ⟨value, hnegates, hshort⟩ := h
  obtain ⟨bound, hcode, hresolve⟩ := resolve_negates hnegates
  rw [DepthWindow.ofNegative_of_isShort hshort] at hresolve
  exact ⟨_, hresolve, hcode⟩

/-- A bound that is too long to be told leaves the phase by a crash. -/
theorem resolve_overlong {bounds : Option Bounds} (h : Overlong bounds) :
    bounds.mapM Bounds.resolve = .error (.crash (.unreported .unwritable)) := by
  obtain ⟨minimum, maximum, value, hnegates, hlong⟩ := h
  obtain ⟨bound, -, hresolve⟩ := resolve_negates hnegates
  rw [hresolve, DepthWindow.ofNegative_of_not_isShort hlong]
  rfl

theorem resolve_admitted {bounds : Option Bounds} (h : Admitted bounds) :
    bounds.mapM Bounds.resolve = .ok (windowOf bounds) := by
  match bounds with
  | none => rfl
  | some (.window w) => rfl
  | some (.raw minimum maximum) =>
    have hmin : ¬minimum < 0 := fun hmin => h minimum maximum _ ⟨rfl, .inl hmin, rfl⟩
    have hmax : ¬maximum < 0 := fun hmax => h minimum maximum _ ⟨rfl, .inr hmax, rfl⟩
    simp [Bounds.resolve, DepthWindow.ofBounds, DepthWindow.checkBounds, hmin, hmax, windowOf, Except.mapError]

theorem Refused.not_admitted {bounds : Option Bounds} {minimum maximum : Int} (h : Refused bounds minimum maximum) :
    ¬Admitted bounds := by
  obtain ⟨value, hnegates, -⟩ := h
  exact fun hadmitted => hadmitted minimum maximum value hnegates

theorem Overlong.not_admitted {bounds : Option Bounds} (h : Overlong bounds) : ¬Admitted bounds := by
  obtain ⟨minimum, maximum, value, hnegates, -⟩ := h
  exact fun hadmitted => hadmitted minimum maximum value hnegates

/-- Bounds that are no integers are admitted. -/
theorem admitted_of_ne_raw {bounds : Option Bounds} (h : ∀ minimum maximum, bounds ≠ some (.raw minimum maximum)) :
    Admitted bounds := fun minimum maximum _ hnegates => h minimum maximum hnegates.1

theorem admitted_none : Admitted none := admitted_of_ne_raw fun _ _ => nofun

theorem refused_overlong_or_admitted (bounds : Option Bounds) :
    (∃ minimum maximum, Refused bounds minimum maximum) ∨ Overlong bounds ∨ Admitted bounds := by
  by_cases h : ∃ minimum maximum value, Negates bounds minimum maximum value
  · obtain ⟨minimum, maximum, value, hnegates⟩ := h
    cases hshort : Text.isShort value with
    | true => exact .inl ⟨minimum, maximum, value, hnegates, hshort⟩
    | false => exact .inr (.inl ⟨minimum, maximum, value, hnegates, hshort⟩)
  · exact .inr (.inr fun minimum maximum value hnegates => h ⟨minimum, maximum, value, hnegates⟩)

/-! ## Generating -/

namespace Source

variable {s : Source} {d : Disk} {bounds : Option Bounds} (showTraces : Bool)

/-- Refused bounds clear the graph, and nothing else is done. -/
theorem generate_eq_of_refused {minimum maximum : Int} (h : Refused bounds minimum maximum) : ∃ r,
    r.code = refusalCode minimum ∧ s.generate bounds showTraces d =
      { disk := d, source := s.clearGraph
        entries := [s.notice .generateCombinations .info "Generating combinations",
          s.failure .generateCombinations "Invalid depth" r] } := by
  obtain ⟨r, hresolve, hcode⟩ := resolve_refused h
  exact ⟨r, hcode, by simp only [generate, hresolve]⟩

/-- Bounds that are too long to be told crash generating before it does anything. -/
theorem generate_overlong (h : Overlong bounds) : s.generate bounds showTraces d =
    { disk := d, source := s, entries := [s.notice .generateCombinations .info "Generating combinations"]
      crash := some (.unreported .unwritable) } := by
  simp only [generate, resolve_overlong h]

theorem generate_refused {minimum maximum : Int} (h : Refused bounds minimum maximum) : ∃ n : Notice,
    n.Reports .generateCombinations s.text (refusalCode minimum) ∧
      (s.generate bounds showTraces d).Does s.text d s.clearGraph [n] := by
  obtain ⟨r, hcode, heq⟩ := generate_eq_of_refused (s := s) (d := d) showTraces h
  have hcalm : ∀ e ∈ [s.notice .generateCombinations .info "Generating combinations"], e.Calm := by
    simp [notice, Entry.Calm]
  have heffect := does_failure (s := s) (f := s.generate bounds showTraces d) hcalm (r := r)
    (by rw [heq]; rfl) (by rw [heq])
  rw [hcode] at heffect
  rwa [heq] at heffect ⊢

/-- The source with the lines of the traces of a graph. -/
def filled (s : Source) (g : AtomGraph) (window : Option DepthWindow) : Source :=
  { s with traces := distinctLines g window }

section Writing

variable {g : AtomGraph} {target : FilePath}

/-- What generating tells before the traces are written. -/
def telling (s : Source) (window : Option DepthWindow) (showTraces : Bool) : List Entry :=
  let (filled, told, tally) := s.collect window showTraces
  s.notice .generateCombinations .info "Generating combinations" :: told.reverse ++
    [.log (.debug logger (s!"{s.text}: {tally.combinations} combinations, " ++
      s!"{tally.emitted} traces before deduplication")),
      s.notice .generateCombinations .info s!"Generated {filled.traces.length} traces"]

theorem telling_told {P : Entry → Prop} (hlog : ∀ r, P (.log r))
    (hnews : ∀ text, P (s.notice .generateCombinations .info text)) (window : Option DepthWindow) :
    ∀ e ∈ s.telling window showTraces, P e := by
  have hcollect := collect_told hlog hnews window showTraces
  intro e he
  unfold telling at he
  rcases List.mem_append.1 he with he | he
  · rcases List.mem_cons.1 he with rfl | he
    · exact hnews _
    · exact hcollect e (List.mem_reverse.1 he)
  · simp only [List.mem_cons, List.not_mem_nil, or_false] at he
    rcases he with rfl | rfl
    · exact hlog _
    · exact hnews _

theorem telling_calm (window : Option DepthWindow) : ∀ e ∈ s.telling window showTraces, e.Calm :=
  telling_told showTraces (fun _ => trivial) (fun text => notice_calm _ text (by decide)) window

/-- Generating inside admitted bounds is collecting and then writing. -/
theorem generate_admitted (hbounds : Admitted bounds) : s.generate bounds showTraces d =
    match (s.collect (windowOf bounds) showTraces).1.write d with
    | .ok (d', target) =>
      { disk := d', source := (s.collect (windowOf bounds) showTraces).1.clearGraph
        entries := s.telling (windowOf bounds) showTraces ++
          [.log ((s.collect (windowOf bounds) showTraces).1.written target)] }
    | .error (.reported r) =>
      { disk := d, source := (s.collect (windowOf bounds) showTraces).1.clearGraph
        entries := s.telling (windowOf bounds) showTraces ++
          [s.failure .generateCombinations "Failed to write traces" r] }
    | .error (.crash crash) =>
      { disk := d, source := (s.collect (windowOf bounds) showTraces).1
        entries := s.telling (windowOf bounds) showTraces, crash } := by
  unfold generate telling
  rewrite [resolve_admitted hbounds]
  rfl

/-- Generating for a source without traces. -/
theorem generate_eq (hbounds : Admitted bounds) (hgraph : s.graph = some g)
    (htraces : s.traces = []) : s.generate bounds showTraces d =
    match (s.filled g (windowOf bounds)).write d with
    | .ok (d', target) =>
      { disk := d', source := (s.filled g (windowOf bounds)).clearGraph
        entries := s.telling (windowOf bounds) showTraces ++
          [.log ((s.filled g (windowOf bounds)).written target)] }
    | .error (.reported r) =>
      { disk := d, source := (s.filled g (windowOf bounds)).clearGraph
        entries := s.telling (windowOf bounds) showTraces ++
          [s.failure .generateCombinations "Failed to write traces" r] }
    | .error (.crash crash) =>
      { disk := d, source := s.filled g (windowOf bounds)
        entries := s.telling (windowOf bounds) showTraces, crash } := by
  have hlines : distinctLines (s.graph.getD .empty) (windowOf bounds) = distinctLines g (windowOf bounds) := by
    rw [hgraph]; rfl
  have hfilled : (s.collect (windowOf bounds) showTraces).1 = s.filled g (windowOf bounds) := by
    rw [collect_source htraces, hlines]; rfl
  rw [generate_admitted showTraces hbounds, hfilled]

/-- Everything that generating tells is told about the source. -/
theorem generate_from : ∀ e ∈ (s.generate bounds showTraces d).entries, e.From .generateCombinations s.text := by
  obtain ⟨minimum, maximum, hrefused⟩ | hoverlong | hbounds := refused_overlong_or_admitted bounds
  · obtain ⟨r, -, heq⟩ := generate_eq_of_refused (s := s) (d := d) showTraces hrefused
    rw [heq]
    simp
  · rw [generate_overlong showTraces hoverlong]
    simp
  · have htelling : ∀ e ∈ s.telling (windowOf bounds) showTraces, e.From .generateCombinations s.text :=
      telling_told showTraces (fun _ => trivial) (fun _ => ⟨rfl, rfl⟩) _
    rw [generate_admitted showTraces hbounds]
    split
    · simpa [or_imp, forall_and] using htelling
    · simpa [or_imp, forall_and] using htelling
    · exact htelling

theorem generate_kin : s.Kin (s.generate bounds showTraces d).source := by
  obtain ⟨minimum, maximum, hrefused⟩ | hoverlong | hbounds := refused_overlong_or_admitted bounds
  · obtain ⟨r, -, heq⟩ := generate_eq_of_refused (s := s) (d := d) showTraces hrefused
    rw [heq]
    exact ⟨rfl, rfl, rfl⟩
  · rw [generate_overlong showTraces hoverlong]
    exact ⟨rfl, rfl, rfl⟩
  · rw [generate_admitted showTraces hbounds, collect_keeps]
    split <;> exact ⟨rfl, rfl, rfl⟩

theorem write_ok {e : Disk} (h : s.write d = .ok (e, target)) :
    s.tracesPath = .ok target ∧ d.write target (.text s.traceLines) = .ok e := by
  unfold write at h
  split at h
  · cases h
  · rename_i target' htarget
    split at h
    · rename_i e' hwrite
      cases h
      exact ⟨htarget, hwrite⟩
    · cases h
    · cases h

/-- Generating writes one text at most. -/
theorem generate_withTexts : d.WithTexts (s.generate bounds showTraces d).disk := by
  obtain ⟨minimum, maximum, hrefused⟩ | hoverlong | hbounds := refused_overlong_or_admitted bounds
  · obtain ⟨r, -, heq⟩ := generate_eq_of_refused (s := s) (d := d) showTraces hrefused
    rw [heq]
    exact .refl d
  · rw [generate_overlong showTraces hoverlong]
    exact .refl d
  · rw [generate_admitted showTraces hbounds]
    split
    · rename_i e target hwrite
      exact Disk.withTexts_of_write (write_ok hwrite).2
    · exact .refl d
    · exact .refl d

theorem write_of_ok {e : Disk} (htarget : s.tracesPath = .ok target)
    (hwrite : d.write target (.text s.traceLines) = .ok e) : s.write d = .ok (e, target) := by
  simp only [write, htarget, hwrite]

theorem write_of_fault {fault : Files.Fault} (htarget : s.tracesPath = .ok target)
    (hwrite : d.write target (.text s.traceLines) = .error fault) (hne : fault ≠ .nulCharacter) :
    ∃ r, s.write d = .error (.reported r) ∧ r.code = .traceWriteFailed := by
  simp only [write, htarget, hwrite]
  cases fault with
  | nulCharacter => exact absurd rfl hne
  | _ => exact ⟨_, rfl, rfl⟩

theorem write_unnameable {fault : FilePath.NameFault} (htarget : s.tracesPath = .error fault) :
    s.write d = .error (.crash (.unnameable fault)) := by
  simp only [write, htarget]

theorem write_nulCharacter (htarget : s.tracesPath = .ok target) (h : '\x00' ∈ target.text.toList) :
    s.write d = .error (.crash .nulCharacter) := by
  simp only [write, htarget, Disk.write_nulCharacter.2 h]

section Outcomes

variable (hbounds : Admitted bounds) (hgraph : s.graph = some g)
  (htraces : s.traces = []) (htarget : s.tracesPath = .ok target)

include hbounds hgraph htraces htarget

theorem generate_written {e : Disk}
    (hwrite : d.write target (.text (s.filled g (windowOf bounds)).traceLines) = .ok e) :
    (s.generate bounds showTraces d).Does s.text e (s.filled g (windowOf bounds)).clearGraph [] := by
  have heq := generate_eq (d := d) showTraces hbounds hgraph htraces
  rw [write_of_ok (s := s.filled g (windowOf bounds)) htarget hwrite] at heq
  have hcalm : ∀ entry ∈ (s.generate bounds showTraces d).entries, entry.Calm := by
    rw [heq]
    intro entry h
    rcases List.mem_append.1 h with h | h
    · exact telling_calm showTraces _ entry h
    · rw [List.mem_singleton.1 h]; exact trivial
  have heffect := does_calm s.text hcalm (by rw [heq])
  rwa [heq] at heffect ⊢

theorem generate_unwritable {fault : Files.Fault}
    (hwrite : d.write target (.text (s.filled g (windowOf bounds)).traceLines) = .error fault)
    (hne : fault ≠ .nulCharacter) : ∃ n : Notice, n.Reports .generateCombinations s.text .traceWriteFailed ∧
      (s.generate bounds showTraces d).Does s.text d (s.filled g (windowOf bounds)).clearGraph [n] := by
  obtain ⟨r, hr, hcode⟩ := write_of_fault (s := s.filled g (windowOf bounds)) htarget hwrite hne
  have heq := generate_eq (d := d) showTraces hbounds hgraph htraces
  rw [hr] at heq
  have heffect := does_failure (s := s) (f := s.generate bounds showTraces d) (r := r)
    (telling_calm showTraces (windowOf bounds)) (by rw [heq]) (by rw [heq])
  rw [hcode] at heffect
  rwa [heq] at heffect ⊢

theorem generate_nulCharacter (h : '\x00' ∈ target.text.toList) :
    (s.generate bounds showTraces d).crash = some .nulCharacter := by
  rw [generate_eq showTraces hbounds hgraph htraces, write_nulCharacter (s := s.filled g (windowOf bounds)) htarget h]

end Outcomes

end Writing

end Source

end Pipeline

end StateTraces
