import StateTraces.Cli.Run
import StateTraces.Proofs.Cli.Tools
import StateTraces.Proofs.Config.Priority
import StateTraces.Proofs.Pipeline.Document

/-
Calls of the command that writes traces files. The exit code, the document and the tree tell the same about
a run: all is well exactly if a source was found and no error was told, and then every source has its traces
file. A lone bound is refused before anything is looked at. A run that cannot be told, because a bound is too
long to be written, ends badly with its traces files written. How the command line is read and how settings
are found enters by what is documented of it.
-/

namespace StateTraces.Cli

open Config (Library)
open Files (Disk FilePath)
open Pipeline (Calm Found Outcome)

/-! ## Command lines -/

/-- A command line that asks for traces files, with the settings, the choices and the files that it comes to. -/
def Asks (lib : Library) (tools : Tools) (d : Disk) (env : Environment) (args : List String)
    (settings : Config.Settings) (c : Choices) (files : List String) : Prop :=
  ∃ common rest, tools.group d args = .ok (common, .generate, rest) ∧ settingsOf lib d env common = .ok settings ∧
    tools.own d .generate rest = .ok (.generate c files)

/-- The sources that a call finds. -/
def sourcesOf (d : Disk) (settings : Config.Settings) (c : Choices) (files : List String) :
    Except Files.Fault (List FilePath) :=
  Pipeline.discover d (files.map .ofText) (includesOf settings c) settings.filePattern

/-- The pipeline of a call within bounds. -/
def pipelineOf (settings : Config.Settings) (c : Choices) (bounds : Option Pipeline.Bounds) : Pipeline :=
  { bounds, showTraces := c.showTraces || settings.showTraces, suffix := settings.tracesSuffix }

/-- One bound is on the command line, and the other is not. -/
def Choices.Lone (c : Choices) : Prop := c.minimum.isSome ≠ c.maximum.isSome

section Asks

variable {lib : Library} {tools : Tools} {d : Disk} {env : Environment} {args : List String}
  {settings : Config.Settings} {c : Choices} {files : List String} {bounds : Option Pipeline.Bounds}
  {log : List Log.Record}

theorem Asks.run_eq (h : Asks lib tools d env args settings c files) :
    runWith lib tools d env args = generate tools d settings (sinkOf settings) c files := by
  obtain ⟨common, rest, hgroup, hsettings, hown⟩ := h
  simp only [runWith, hgroup, hsettings, hown]
  rfl

theorem Asks.isPlainSuffix (hlib : lib.Documented) (h : Asks lib tools d env args settings c files) :
    Config.isPlainSuffix settings.tracesSuffix = true := by
  obtain ⟨common, rest, -, hsettings, -⟩ := h
  unfold settingsOf at hsettings
  cases hload : (lib.load d env (common.config.map .ofText)).1 with
  | error fault =>
    rw [hload] at hsettings
    cases hsettings
  | ok s =>
    rw [hload] at hsettings
    cases hsettings
    show Config.isPlainSuffix s.tracesSuffix = true
    exact Config.isPlainSuffix_of_load hlib hload

theorem Asks.short (htools : tools.Documented) (h : Asks lib tools d env args settings c files) : c.Short := by
  obtain ⟨_, _, -, -, hown⟩ := h
  exact htools.own_short hown

theorem boundsOf?_lone (h : c.Lone) : boundsOf? settings c = none := by
  unfold Choices.Lone at h
  unfold boundsOf?
  cases hmin : c.minimum <;> cases hmax : c.maximum
  · simp [hmin, hmax] at h
  · rfl
  · rfl
  · simp [hmin, hmax] at h

theorem exists_boundsOf? (settings : Config.Settings) (h : ¬c.Lone) :
    ∃ bounds log, boundsOf? settings c = some (bounds, log) := by
  unfold Choices.Lone at h
  unfold boundsOf?
  cases hmin : c.minimum <;> cases hmax : c.maximum
  · exact ⟨_, _, rfl⟩
  · simp [hmin, hmax] at h
  · simp [hmin, hmax] at h
  · exact ⟨_, _, rfl⟩

/-- A negative bound comes from the command line, so it can be told. -/
theorem not_overlong_of_boundsOf? (hshort : c.Short) (h : boundsOf? settings c = some (bounds, log)) :
    ¬Pipeline.Overlong bounds := by
  rintro ⟨minimum, maximum, value, ⟨rfl, -, hvalue⟩, hlong⟩
  suffices hgiven : c.minimum = some minimum ∧ c.maximum = some maximum by
    rw [hshort value (by rw [hvalue]; split; exacts [.inl hgiven.1, .inr hgiven.2])] at hlong
    cases hlong
  unfold boundsOf? at h
  cases hmin : c.minimum <;> cases hmax : c.maximum <;> rw [hmin, hmax] at h
  · cases hwindow : settings.window? <;> simp [hwindow] at h
  · cases h
  · cases h
  · obtain ⟨hraw, -⟩ := Prod.mk.inj (Option.some.inj h)
    obtain ⟨rfl, rfl⟩ := Pipeline.Bounds.raw.inj (Option.some.inj hraw)
    exact ⟨rfl, rfl⟩

theorem sourcesOf_found (hnamed : d.Named) {found : List FilePath} (h : sourcesOf d settings c files = .ok found) :
    found.Nodup ∧ ∀ source ∈ found, Found d source := by
  refine Pipeline.discover_found hnamed (fun path hpath => ?_) (fun path hpath => ?_) h
  · obtain ⟨file, -, rfl⟩ := List.mem_map.1 hpath
    exact FilePath.plain_ofText file
  · obtain ⟨directory, -, rfl⟩ := List.mem_map.1 hpath
    exact FilePath.plain_ofText directory

end Asks

/-! ## What a call leaves behind -/

section Accounts

variable {tools : Tools} {d : Disk} {p : Pipeline} {settings : Config.Settings} {c : Choices} {files : List String}
  {found : List FilePath} {outcomes : List Outcome} {bounds : Option Pipeline.Bounds} {log : List Log.Record}

/-- What the document says about a source: the errors that are told about it or, without errors, its traces file. -/
structure Describes (p : Pipeline) (d : Disk) (source : FilePath) (entry : Table String Json) : Prop where
  path_eq : entry.get? "path" = some (.str source.text)
  errors_eq : entry.get? "errors" =
    some (.arr ((Pipeline.errorsFor source.text (p.tells (p.source source) d)).map Pipeline.Notice.toJson))
  tracesPath_null_iff : entry.get? "traces_path" = some .null ↔ entry.get? "errors" ≠ some (.arr [])
  tracesPath_eq : entry.get? "errors" = some (.arr []) →
    entry.get? "traces_path" = some (.str (source.text ++ p.suffix))

/-- What a call leaves behind where these sources were found. -/
structure Accounts (d : Disk) (p : Pipeline) (format : Format) (found? : Except Files.Fault (List FilePath))
    (r : Result) : Prop where
  /-- All is well if there are sources and the run tells no error. -/
  code_iff : r.code = 0 ↔ ∃ found, found? = .ok found ∧ found ≠ [] ∧ Calm (p.run { disk := d } found).1.notices
  /-- Then every source has a traces file with its traces. -/
  traces_written : r.code = 0 → ∀ found, found? = .ok found → ∀ source ∈ found, ∃ target traces,
    target.text = source.text ++ p.suffix ∧ p.Generates source d traces ∧
    r.disk.read target = .ok (.text (Pipeline.linesText traces))
  /-- What is printed is one document with an entry for every source, in order, and it says whether all is well. -/
  document : format = .json → ∀ found, found? = .ok found → found ≠ [] → ∃ entries : List (Table String Json),
    Json.read? r.out = some (.obj [("depth_window", boundsJson p.bounds), ("files", .arr (entries.map .obj))]) ∧
    List.Forall₂ (Describes p d) found entries ∧
    (r.code = 0 ↔ ∀ entry ∈ entries, entry.get? "errors" = some (.arr []))

/-- What is told about a run can be written. -/
def CanTell (format : Format) (showTraces : Bool) (bounds : Option Pipeline.Bounds) (outcomes : List Outcome) : Prop :=
  match format with
  | .text => (boundsText? bounds).isSome = true
  | .json => (runJson showTraces bounds outcomes).isWritable = true

/-- What there is to tell about a call can be written: the run over the sources that it finds. -/
def Tellable (d : Disk) (p : Pipeline) (format : Format) (found? : Except Files.Fault (List FilePath)) : Prop :=
  ∀ found outcomes, found? = .ok found → found ≠ [] → (p.run { disk := d } found).2 = .ok outcomes →
    CanTell format p.showTraces p.bounds outcomes

/-- What a call leaves behind that cannot be told: its traces files are written, and there is no document. -/
structure Untold (d : Disk) (p : Pipeline) (format : Format) (found? : Except Files.Fault (List FilePath))
    (r : Result) : Prop where
  code_eq : r.code = 1
  failure_eq : r.failure = some "ValueError"
  disk_eq : ∃ found, found? = .ok found ∧ r.disk = (p.run { disk := d } found).1.disk
  out_eq : format = .json → r.out = ""

theorem complete_tell_iff (t : Terminal) {format : Format} {showTraces : Bool} :
    (t.tell format showTraces bounds outcomes).complete = true ↔ CanTell format showTraces bounds outcomes := by
  cases format with
  | text =>
    simp only [Terminal.tell, Terminal.runText, CanTell]
    cases boundsText? bounds <;> simp
  | json =>
    simp only [Terminal.tell, CanTell, Json.page?]
    cases (runJson showTraces bounds outcomes).isWritable <;> simp

theorem members_errors (o : Outcome) (showTraces : Bool) :
    (o.members showTraces).get? "errors" = some (.arr (o.errors.map Pipeline.Notice.toJson)) := by
  cases showTraces <;> rfl

theorem members_errors_nil {o : Outcome} {showTraces : Bool} :
    (o.members showTraces).get? "errors" = some (.arr []) ↔ o.errors = [] := by
  rw [members_errors, Option.some.injEq, Json.arr.injEq, List.map_eq_nil_iff]

theorem describes_members {source : FilePath} {o : Outcome} (h : p.Comes d source o) (showTraces : Bool) :
    Describes p d source (o.members showTraces) := by
  have hpath : (o.members showTraces).get? "path" = some (.str source.text) := by rw [← h.path_eq]; rfl
  have htarget : (o.members showTraces).get? "traces_path" = some (.ofText? (o.tracesPath.map FilePath.text)) := rfl
  refine ⟨hpath, by rw [members_errors, h.errors_eq], ?_, ?_⟩
  · rw [ne_eq, members_errors_nil, htarget]
    obtain ⟨hne, hfailed⟩ | ⟨hnil, target, loc, hwritten, -⟩ := h.failed_or_written
    · rw [hfailed]
      exact iff_of_true rfl hne
    · rw [hwritten]
      exact iff_of_false (by simp [Json.ofText?]) (not_not_intro hnil)
  · rw [members_errors_nil, htarget]
    intro hnil
    obtain ⟨hne, -⟩ | ⟨-, target, loc, hwritten, htext, -⟩ := h.failed_or_written
    · exact absurd hnil hne
    · rw [hwritten, ← htext]
      rfl

theorem plain_boundsJson (bounds : Option Pipeline.Bounds) : Json.Plain (boundsJson bounds) := by
  have hpair : ∀ a b : Int, Json.Plain (.arr [.int a, .int b]) := fun a b => .arr fun j hj => by
    rcases List.mem_pair.1 hj with rfl | rfl
    · exact .int a
    · exact .int b
  match bounds with
  | none => exact .null
  | some (.window w) => exact hpair _ _
  | some (.raw a b) => exact hpair a b

/-- The document about a run over sources that were found can be read back. -/
theorem read?_runJson (hcomes : List.Forall₂ (p.Comes d) found outcomes) :
    Json.read? ((runJson p.showTraces bounds outcomes).page .ascii ++ "\n") =
      some (runJson p.showTraces bounds outcomes) := by
  refine Json.read?_page .ascii (.obj (by simp [Table.keys]) ?_)
  simp only [List.forall_mem_cons]
  refine ⟨plain_boundsJson bounds, .arr fun j hj => ?_, fun _ hm => by cases hm⟩
  obtain ⟨o, ho, rfl⟩ := List.mem_map.1 hj
  obtain ⟨source, -, hcomes⟩ := Pipeline.exists_of_forall₂ hcomes.flip ho
  exact hcomes.plain_members p.showTraces

/-- What is done with sources that were found, if the run answers and can be told. -/
theorem generate_told (htools : tools.Documented) (sink : Log.Sink) (hbounds : boundsOf? settings c = some (bounds, log))
    (hfound : sourcesOf d settings c files = .ok found) (hne : found ≠ [])
    (hrun : ((pipelineOf settings c bounds).run { disk := d } found).2 = .ok outcomes)
    (hcan : CanTell c.format (pipelineOf settings c bounds).showTraces bounds outcomes) :
    let r := generate tools d settings sink c files
    let p := pipelineOf settings c bounds
    r.code = (if outcomes.all (·.ok) then 0 else 1) ∧ r.disk = (p.run { disk := d } found).1.disk ∧
      (c.format = .json → r.out = (runJson p.showTraces bounds outcomes).page .ascii ++ "\n") := by
  obtain ⟨-, hdisk, hresult⟩ := Pipeline.run_log (pipelineOf settings c bounds) d
    (log ++ Pipeline.missing files (includesOf settings c) found) found
  rw [← hresult] at hrun
  have hcomplete := (complete_tell_iff tools.terminal).2 hcan
  unfold sourcesOf at hfound
  unfold pipelineOf at hrun hcomplete hdisk hcan ⊢
  obtain ⟨source, rest, rfl⟩ := List.exists_cons_of_ne_nil hne
  simp only [generate, hbounds, hfound, hrun, hcomplete, if_true]
  refine ⟨trivial, hdisk, fun hjson => ?_⟩
  rw [hjson] at hcan ⊢
  simp only [Terminal.tell, Json.page?, show Json.isWritable _ = true from hcan, if_true]
  exact htools.echo_eq _

/-- What is done if the run answers and cannot be told. -/
theorem generate_untold (sink : Log.Sink) (hbounds : boundsOf? settings c = some (bounds, log))
    (hfound : sourcesOf d settings c files = .ok found) (hne : found ≠ [])
    (hrun : ((pipelineOf settings c bounds).run { disk := d } found).2 = .ok outcomes)
    (hcannot : ¬CanTell c.format (pipelineOf settings c bounds).showTraces bounds outcomes) :
    Untold d (pipelineOf settings c bounds) c.format (sourcesOf d settings c files)
      (generate tools d settings sink c files) := by
  obtain ⟨-, hdisk, hresult⟩ := Pipeline.run_log (pipelineOf settings c bounds) d
    (log ++ Pipeline.missing files (includesOf settings c) found) found
  rw [← hresult] at hrun
  have hincomplete := Bool.not_eq_true _ ▸ mt (complete_tell_iff tools.terminal).1 hcannot
  have hsources := hfound
  unfold sourcesOf at hfound
  unfold pipelineOf at hrun hincomplete hdisk hcannot ⊢
  obtain ⟨source, rest, rfl⟩ := List.exists_cons_of_ne_nil hne
  simp only [generate, hbounds, hfound, hrun, hincomplete, Bool.false_eq_true, if_false]
  refine ⟨rfl, rfl, ⟨_, hsources, hdisk⟩, fun hjson => ?_⟩
  rw [hjson] at hcannot ⊢
  simp only [Terminal.tell, Json.page?, if_neg (show ¬Json.isWritable _ = true from hcannot)]

/-- A run that crashes leaves no results, and nobody handles what was raised. -/
theorem generate_crashed (sink : Log.Sink) (hbounds : boundsOf? settings c = some (bounds, log))
    (hfound : sourcesOf d settings c files = .ok found) (hne : found ≠ []) {crash : Pipeline.Crash}
    (hrun : ((pipelineOf settings c bounds).run { disk := d } found).2 = .error crash) :
    let r := generate tools d settings sink c files
    r.code = 1 ∧ r.out = "" ∧ r.failure = some crash.kind := by
  rw [← (Pipeline.run_log (pipelineOf settings c bounds) d
    (log ++ Pipeline.missing files (includesOf settings c) found) found).2.2] at hrun
  unfold sourcesOf at hfound
  unfold pipelineOf at hrun
  obtain ⟨source, rest, rfl⟩ := List.exists_cons_of_ne_nil hne
  simp only [generate, hbounds, hfound, hrun]
  exact ⟨trivial, trivial, trivial⟩

/-- Without sources a call does not end well. -/
theorem generate_unfound (sink : Log.Sink) (hbounds : boundsOf? settings c = some (bounds, log))
    (hnone : ∀ found, sourcesOf d settings c files = .ok found → found = []) :
    (generate tools d settings sink c files).code = 1 := by
  unfold sourcesOf at hnone
  cases hfound : Pipeline.discover d (files.map .ofText) (includesOf settings c) settings.filePattern with
  | error fault =>
    simp only [generate, hbounds, hfound]
    rfl
  | ok found =>
    obtain rfl := hnone found hfound
    simp only [generate, hbounds, hfound]

/-- A call that has found sources gives an account of the run over them, if it can be told. -/
theorem accounts_of_found (htools : tools.Documented) (sink : Log.Sink)
    (hbounds : boundsOf? settings c = some (bounds, log)) (hfound : sourcesOf d settings c files = .ok found)
    (hne : found ≠ []) (hrun : ((pipelineOf settings c bounds).run { disk := d } found).2 = .ok outcomes)
    (hcan : CanTell c.format (pipelineOf settings c bounds).showTraces bounds outcomes)
    (hcomes : List.Forall₂ ((pipelineOf settings c bounds).Comes d) found outcomes)
    (hsettled : (pipelineOf settings c bounds).Settled d found
      ((pipelineOf settings c bounds).run { disk := d } found).1.disk) :
    Accounts d (pipelineOf settings c bounds) c.format (sourcesOf d settings c files)
      (generate tools d settings sink c files) := by
  obtain ⟨hcode, hdisk, hout⟩ := generate_told htools sink hbounds hfound hne hrun hcan
  have hwell : (generate tools d settings sink c files).code = 0 ↔ ∀ o ∈ outcomes, o.errors = [] := by
    rw [hcode]
    simp [Outcome.ok]
  have hsame : ∀ found', sourcesOf d settings c files = .ok found' → found' = found := fun found' h =>
    Except.ok.inj (h.symm.trans hfound)
  have hcalm : Calm ((pipelineOf settings c bounds).run { disk := d } found).1.notices ↔
      ∀ o ∈ outcomes, o.errors = [] := by
    rw [Pipeline.run_calm_iff hrun]
    exact and_iff_right fun n hn => absurd hn List.not_mem_nil
  refine ⟨?_, fun hzero found' hfound' source hsource => ?_, fun hjson found' hfound' _ => ?_⟩
  · rw [hwell, ← hcalm]
    constructor
    · intro h
      exact ⟨found, hfound, hne, h⟩
    · rintro ⟨found', hfound', -, h⟩
      rwa [hsame found' hfound'] at h
  · rw [hsame found' hfound'] at hsource
    obtain ⟨o, ho, hcomes⟩ := Pipeline.exists_of_forall₂ hcomes hsource
    obtain ⟨hfailed, -⟩ | ⟨-, _, loc, -, -, hgenerates, hwrites⟩ := hcomes.failed_or_written
    · exact absurd (hwell.1 hzero o ho) hfailed
    · obtain ⟨target, -, htarget, -⟩ := id hwrites
      refine ⟨target, o.traces, FilePath.text_addSuffix htarget, hgenerates, ?_⟩
      rw [hdisk]
      exact hsettled.read hsource hwrites htarget
  · rw [hsame found' hfound']
    refine ⟨outcomes.map fun o => o.members (pipelineOf settings c bounds).showTraces, ?_, ?_, ?_⟩
    · rw [hout hjson, read?_runJson hcomes, List.map_map]
      rfl
    · exact List.forall₂_map_right_iff.2 (hcomes.imp fun _ _ h => describes_members h _)
    · rw [hwell, List.forall_mem_map]
      exact forall₂_congr fun o _ => members_errors_nil.symm

/-- A call that has found no sources gives an account of that. -/
theorem accounts_of_unfound (sink : Log.Sink) (hbounds : boundsOf? settings c = some (bounds, log))
    (hnone : ∀ found, sourcesOf d settings c files = .ok found → found = []) :
    Accounts d (pipelineOf settings c bounds) c.format (sourcesOf d settings c files)
      (generate tools d settings sink c files) := by
  have hcode : (generate tools d settings sink c files).code ≠ 0 := by
    rw [generate_unfound sink hbounds hnone]
    decide
  refine ⟨iff_of_false hcode ?_, fun hzero => absurd hzero hcode, fun _ found hfound hne => ?_⟩
  · rintro ⟨found, hfound, hne, -⟩
    exact hne (hnone found hfound)
  · exact absurd (hnone found hfound) hne

end Accounts

/-- A call with a lone bound is refused and leaves the tree as it is. Every other call tells by its exit code, its
document and the tree whether all sources that were found were processed without an error, as long as they hold
text, no traces file is another source, and the suffix has no NUL character. If what is told has an integer that is
too long to be written, the call ends badly instead, with the traces files of its run. -/
theorem generate_accounts (lib : Library) (hlib : lib.Documented) (tools : Tools) (htools : tools.Documented)
    (d : Disk) (env : Environment) (args : List String) (settings : Config.Settings) (c : Choices)
    (files : List String) (hasks : Asks lib tools d env args settings c files) :
    let r := runWith lib tools d env args
    (c.Lone → r.code = 2 ∧ r.disk = d) ∧
    (¬c.Lone → ∃ bounds log, boundsOf? settings c = some (bounds, log) ∧
      (d.Named → '\x00' ∉ settings.tracesSuffix.toList →
        (∀ found, sourcesOf d settings c files = .ok found →
          (∀ source ∈ found, ∀ bytes, d.read source ≠ .ok (.binary bytes)) ∧
            (pipelineOf settings c bounds).Foreign d found) →
        let p := pipelineOf settings c bounds
        let found? := sourcesOf d settings c files
        (Tellable d p c.format found? → Accounts d p c.format found? r) ∧
          (¬Tellable d p c.format found? → Untold d p c.format found? r))) := by
  intro r
  have hr : r = generate tools d settings (sinkOf settings) c files := hasks.run_eq
  rw [hr]
  refine ⟨fun hlone => ?_, fun hpair => ?_⟩
  · simp only [generate, boundsOf?_lone hlone]
    exact ⟨htools.usageError_code .., htools.usageError_disk ..⟩
  · obtain ⟨bounds, log, hbounds⟩ := exists_boundsOf? settings hpair
    refine ⟨bounds, log, hbounds, fun hnamed hnul hsources => ?_⟩
    intro p found?
    by_cases hfound : ∃ found, sourcesOf d settings c files = .ok found ∧ found ≠ []
    · obtain ⟨found, hfound, hne⟩ := hfound
      obtain ⟨htexts, hforeign⟩ := hsources found hfound
      obtain ⟨hnodup, hplaces⟩ := sourcesOf_found hnamed hfound
      obtain ⟨outcomes, hrun, hcomes, hsettled⟩ := Pipeline.run_found (p := p) (hasks.isPlainSuffix hlib) hnul
        (not_overlong_of_boundsOf? (hasks.short htools) hbounds) hnodup hplaces htexts hforeign []
      refine ⟨fun htellable => ?_, fun huntellable => ?_⟩
      · exact accounts_of_found htools _ hbounds hfound hne hrun (htellable found outcomes hfound hne hrun) hcomes
          hsettled
      · refine generate_untold _ hbounds hfound hne hrun fun hcan => huntellable ?_
        intro found' outcomes' hfound' _ hrun'
        obtain rfl := Except.ok.inj (hfound.symm.trans hfound')
        obtain rfl := Except.ok.inj (hrun.symm.trans hrun')
        exact hcan
    · have hnone : ∀ found, sourcesOf d settings c files = .ok found → found = [] := fun found h =>
        by_contra fun hne => hfound ⟨found, h, hne⟩
      refine ⟨fun _ => accounts_of_unfound _ hbounds hnone, fun huntellable => absurd ?_ huntellable⟩
      intro found _ h hne
      exact absurd (hnone found h) hne

/-- Without any values the settings of a run have their defaults. -/
theorem settingsOf_default {lib : Library} (hlib : lib.Documented) {d : Disk} (hfile : Config.NoEnvFile d) :
    settingsOf lib d [] {} = .ok {} := by
  have hload : (lib.load d [] none).1 = .ok {} := Config.make_default hlib hfile
  rw [settingsOf, show (({} : Common).config.map FilePath.ofText) = none from rfl, hload]
  rfl

/-- A document about one outcome without errors can be written if the number of its traces can. -/
theorem isWritable_runJson {o : Outcome} (herrors : o.errors = []) (hcount : Text.isShort o.traces.length = true) :
    (runJson false none [o]).isWritable = true := by
  rw [runJson, List.map_singleton, Outcome.members, herrors]
  cases o.tracesPath <;>
    simp [Json.isWritable, Json.areWritable, Json.membersAreWritable, boundsJson, Json.ofText?,
      Text.isSome_writeInteger?, hcount]

/-- A file with an edge, and a lone bound. -/
theorem generate_accounts_edge :
    let d : Disk := { files := [(["a.dot"], .text "digraph \x7b \"a\" -> \"b\" [label=\"go\"]; \x7d")] }
    let c : Choices := { includePaths := some ".", format := .json }
    let r := run d [] ["generate", "a.dot", "-I", ".", "-f", "json"]
    Tellable d (pipelineOf {} c none) .json (sourcesOf d {} c ["a.dot"]) ∧
      Accounts d (pipelineOf {} c none) .json (sourcesOf d {} c ["a.dot"]) r ∧
      sourcesOf d {} c ["a.dot"] = .ok [.ofText "a.dot"] ∧ r.code = 0 ∧
      (run d [] ["generate", "--min", "1"]).code = 2 ∧ (run d [] ["generate", "--min", "1"]).disk = d := by
  intro d c r
  have hlib := Config.Library.usual_documented
  have htools := Tools.usual_documented
  have hsettings : settingsOf .usual d [] {} = .ok {} := settingsOf_default hlib fun _ => nofun
  have hasks : Asks .usual .usual d [] ["generate", "a.dot", "-I", ".", "-f", "json"] {} c ["a.dot"] :=
    ⟨{}, _, rfl, hsettings, rfl⟩
  have hlone : Asks .usual .usual d [] ["generate", "--min", "1"] {} { minimum := some 1 } [] :=
    ⟨{}, _, rfl, hsettings, rfl⟩
  have hpath : Disk.IsName "a.dot" := by decide +kernel
  have hfound : sourcesOf d {} c ["a.dot"] = .ok [.ofText "a.dot"] := Pipeline.discover_name hpath rfl _
  have hread : d.read (.ofText "a.dot") = .ok (.text "digraph \x7b \"a\" -> \"b\" [label=\"go\"]; \x7d") := by
    rw [Disk.read_of_locate (Disk.locate_name hpath d)]
    rfl
  obtain ⟨bounds, log, hbounds, haccounts⟩ :=
    (generate_accounts .usual hlib .usual htools d [] _ {} c ["a.dot"] hasks).2 fun h => h rfl
  obtain ⟨rfl, rfl⟩ := Prod.mk.inj (Option.some.inj hbounds)
  have hr := haccounts (by decide +kernel) (by decide +kernel) fun found h => by
    obtain rfl := Except.ok.inj (hfound.symm.trans h)
    refine ⟨fun source hsource bytes hbytes => ?_, Pipeline.foreign_singleton _ d _⟩
    rw [List.mem_singleton.1 hsource, hread] at hbytes
    cases hbytes
  obtain ⟨content, o, hleaves, herrors, htraces⟩ := Pipeline.leaves_edge (d := d) List.not_mem_nil hread
  have hrun : (Pipeline.run {} { disk := d } [.ofText "a.dot"]).2 = .ok [o] :=
    Pipeline.run_singleton hleaves.outcome_eq
  have htellable : Tellable d (pipelineOf {} c none) .json (sourcesOf d {} c ["a.dot"]) := by
    intro found outcomes hfound' _ hrun'
    obtain rfl := Except.ok.inj (hfound.symm.trans hfound')
    obtain rfl := Except.ok.inj (hrun.symm.trans hrun')
    exact isWritable_runJson herrors (by rw [htraces]; decide +kernel)
  have haccount := hr.1 htellable
  refine ⟨htellable, haccount, hfound, haccount.code_iff.2 ⟨_, hfound, List.cons_ne_nil _ _, ?_⟩,
    (generate_accounts .usual hlib .usual htools d [] _ {} _ [] hlone).1 (fun h => by cases h)⟩
  refine (Pipeline.run_calm_iff hrun).2 ⟨fun n hn => absurd hn List.not_mem_nil, fun o' ho' => ?_⟩
  rw [List.mem_singleton.1 ho', herrors]

/-! ## A suffix with a NUL character -/

/-- A file with an edge, and a settings file. -/
def nulTree : Disk :=
  { files := [(["a.dot"], .text "digraph \x7b \"a\" -> \"b\" [label=\"go\"]; \x7d"),
      (["c.yaml"], .text "traces_suffix: \"\\0\"\n")] }

theorem findText_nulTree : nulTree.findText "c.yaml" = .ok (.file (.text "traces_suffix: \"\\0\"\n")) := by
  have hname : Disk.IsName "c.yaml" := by decide +kernel
  have hlocate : nulTree.locateText "c.yaml" = .ok ["c.yaml"] := by
    have h := Disk.locate_name hname nulTree
    rwa [Disk.locate, show (FilePath.ofText "c.yaml").text = "c.yaml" by decide +kernel] at h
  rw [Disk.findText, hlocate]
  rfl

theorem readGroup_nulTree (rest : List String) : readGroup nulTree ("-c" :: "c.yaml" :: "generate" :: rest) =
    .ok ({ config := some "c.yaml" }, .generate, rest) := by
  have hread : Switch.read commonSwitches false ("-c" :: "c.yaml" :: "generate" :: rest) =
      .ok ([(.config, "c.yaml")], "generate" :: rest) := rfl
  have htake : Switches.take nulTree {} (.config, "c.yaml") = .ok { config := some "c.yaml" } := by
    simp only [Switches.take, readPresent, findText_nulTree]
    rfl
  have hswitches : Switches.ofSettings nulTree [(.config, "c.yaml")] = .ok { config := some "c.yaml" } := by
    show [(Meaning.config, "c.yaml")].foldlM (Switches.take nulTree) {} = _
    rw [List.foldlM_cons, htake]
    rfl
  simp only [readGroup, hread, hswitches, bind, Except.bind, Except.mapError]
  rfl

theorem read_nul : Yaml.read "traces_suffix: \"\\0\"\n" = .ok (.table [(.text "traces_suffix", .text "\x00")]) := by
  have hallowed : "traces_suffix: \"\\0\"\n".toList.all Yaml.isAllowed = true := by decide +kernel
  have htokens : Yaml.tokens "traces_suffix: \"\\0\"\n" = [.mappingStart, .key, .scalar "traces_suffix" true, .value,
      .scalar "\x00" false, .blockEnd, .finish] := by decide +kernel
  rw [Yaml.read, hallowed, htokens]
  rfl

theorem isPlainSuffix_nul : Config.isPlainSuffix "\x00" = true := Pipeline.isPlainSuffix_iff.2 (by decide +kernel)

theorem settingsOf_nulTree :
    settingsOf .usual nulTree [] { config := some "c.yaml" } = .ok { tracesSuffix := "\x00" } := by
  have hlib := Config.Library.usual_documented
  have hfile : Config.readFile .usual nulTree (.ofText "c.yaml") =
      .ok ([(.text "traces_suffix", .text "\x00")], []) := by
    have htext : (FilePath.ofText "c.yaml").text = "c.yaml" := by decide +kernel
    have hlines : (Files.Content.text "traces_suffix: \"\\0\"\n").lines? = some "traces_suffix: \"\\0\"\n" :=
      Disk.lines?_of_not_mem (by decide +kernel)
    simp only [Config.readFile, Disk.find, htext, findText_nulTree, hlines, Option.elim, pure, Except.pure, bind,
      Except.bind, show Library.usual.readYaml = Yaml.read from rfl, read_nul]
    rfl
  have hbare : Config.Bare [("traces_suffix", Value.text "\x00")] := fun name hname =>
    Table.get?_eq_none.2 fun hmem => by
      rw [List.mem_singleton.1 hmem] at hname
      exact Config.not_isOption_name .tracesSuffix hname
  obtain ⟨found, hfind, hbeneath⟩ := Config.exists_find_distinct hlib (d := nulTree) hbare (fun _ => nofun)
    Config.distinct_nil
  have hrows : Library.usual.ofRows nulTree [] [(.text "traces_suffix", .text "\x00")] =
      .ok { tracesSuffix := "\x00" } := by
    refine (Config.ofRows_ok_iff hlib).2 ⟨[("traces_suffix", .text "\x00")], found, rfl, hfind, fun f => ?_⟩
    rw [hbeneath]
    cases f with
    | tracesSuffix =>
      exact congrArg (Except.map Except.ok) (if_pos isPlainSuffix_nul)
    | _ => rfl
  have hload : Library.usual.load nulTree [] ((some "c.yaml").map .ofText) = (.ok { tracesSuffix := "\x00" }, []) :=
    Config.load_ok_iff.2 ⟨_, hfile, hrows⟩
  rw [settingsOf, hload]
  rfl

theorem run_nulTree {p : Pipeline} (hsuffix : p.suffix = "\x00") (hbounds : Pipeline.Admitted p.bounds) :
    (p.run { disk := nulTree } [.ofText "a.dot"]).2 = .error .nulCharacter := by
  have hname : Disk.IsName "a.dot" := by decide +kernel
  have hread : nulTree.read (.ofText "a.dot") = .ok (.text "digraph \x7b \"a\" -> \"b\" [label=\"go\"]; \x7d") := by
    rw [Disk.read_of_locate (Disk.locate_name hname nulTree)]
    rfl
  obtain ⟨g, hgraph, -⟩ := Pipeline.Source.accepted_edge (s := p.source (.ofText "a.dot")) hread
  obtain ⟨target, htarget⟩ : ∃ target, (FilePath.ofText "a.dot").addSuffix p.suffix = .ok target :=
    Pipeline.addSuffix_of_isPlain (by decide +kernel) (FilePath.not_mem_name_ofText _) (hsuffix ▸ isPlainSuffix_nul)
  have hnul : '\x00' ∈ target.text.toList := by
    rw [FilePath.text_addSuffix htarget, hsuffix, String.toList_append, List.mem_append]
    exact .inr (by decide)
  have hbreaks : p.Breaks (.ofText "a.dot") nulTree .nulCharacter :=
    .inr (.inr ⟨⟨_, g, hgraph, hbounds, rfl⟩, .inr ⟨target, htarget, hnul, rfl⟩⟩)
  exact congrArg Prod.snd (Pipeline.run_cons_crash (Pipeline.process_of_breaks hbreaks))

/-- A settings file may set a suffix with a NUL character. The traces file cannot be looked up then, and no document
is written. -/
theorem generate_nul_suffix :
    let settings : Config.Settings := { tracesSuffix := "\x00" }
    let c : Choices := { includePaths := some ".", format := .json }
    let asked := ["-c", "c.yaml", "generate", "a.dot", "-I", ".", "-f", "json"]
    Asks .usual .usual nulTree [] asked settings c ["a.dot"] ∧ ¬c.Lone ∧ nulTree.Named ∧
      (∀ r ∈ nulTree.files, ∃ t, r.2 = .text t) ∧ sourcesOf nulTree settings c ["a.dot"] = .ok [.ofText "a.dot"] ∧
      (pipelineOf settings c none).Foreign nulTree [.ofText "a.dot"] ∧
      ∀ lib tools env args, Asks lib tools nulTree env args settings c ["a.dot"] →
        Json.read? (runWith lib tools nulTree env args).out = none := by
  intro settings c asked
  have hpath : Disk.IsName "a.dot" := by decide +kernel
  have hasks : Asks .usual .usual nulTree [] asked settings c ["a.dot"] :=
    ⟨{ config := some "c.yaml" }, _, readGroup_nulTree _, settingsOf_nulTree, rfl⟩
  have hfound : sourcesOf nulTree settings c ["a.dot"] = .ok [.ofText "a.dot"] := Pipeline.discover_name hpath rfl _
  refine ⟨hasks, fun h => h rfl, by decide +kernel, ?_, hfound, Pipeline.foreign_singleton _ nulTree _, ?_⟩
  · intro r hr
    rcases List.mem_pair.1 hr with rfl | rfl
    · exact ⟨_, rfl⟩
    · exact ⟨_, rfl⟩
  · intro lib tools env args h
    rw [h.run_eq, (generate_crashed (sinkOf settings) rfl hfound (List.cons_ne_nil _ _)
      (run_nulTree rfl Pipeline.admitted_none)).2.1]
    exact Json.read?_empty

end StateTraces.Cli
