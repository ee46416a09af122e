import StateTraces.Proofs.Pipeline.History

/-
Sources whose file was rejected. The call that tells the parse error writes nothing. But the failed phase
counts as done and its errors count only in its own call, so the next call goes on to generate the traces
of an empty graph, and an older traces file is emptied. After that call the source is done for good.
-/

namespace StateTraces.Pipeline

open Files (Disk FilePath)

/-! ## Sources in their order -/

/-- A source that is not parsed is as it was made. -/
def Source.Orderly (s : Source) : Prop := .parseFile ∉ s.completed → s.completed = [] ∧ s.traces = []

section Orderly

variable (p : Pipeline) (s : Source) (before : Session)

/-- Parsing crashes and leaves the source as it is, or it is done after the call. -/
theorem process_parses : .parseFile ∈ (p.process s before).2.1.completed ∨ (p.process s before).2.1 = s := by
  rw [process_eq]
  by_cases hparse : .parseFile ∈ s.completed
  · exact .inl ((advance_keeps p Phase.all s before).2.2 _ hparse)
  have hexecute : .parseFile ∈ (p.execute .parseFile s before).2.1.completed ∨
      (p.execute .parseFile s before).2.1 = s ∧ (p.apply .parseFile s before.disk).crash ≠ none := by
    by_cases hcrash : (p.apply .parseFile s before.disk).crash = none
    · refine .inl ?_
      rw [execute_completed p .parseFile s before hparse, hcrash]
      exact List.mem_append_right _ (List.mem_singleton_self _)
    · refine .inr ⟨?_, hcrash⟩
      rw [execute_eq p before hparse]
      dsimp only
      rw [if_neg (by rwa [Option.isNone_iff_eq_none])]
      exact Source.parse_source_of_crash hcrash
  rw [Phase.all, advance_cons p [.generateCombinations] before hparse]
  split
  · rename_i hcalm
    obtain hmem | ⟨-, hcrash⟩ := hexecute
    · exact .inl ((advance_keeps p _ _ _).2.2 _ hmem)
    · exact absurd hcalm.1 hcrash
  · exact hexecute.imp_right And.left

variable {s}

theorem Source.Orderly.process (h : s.Orderly) : (p.process s before).2.1.Orderly := by
  obtain hmem | hsame := process_parses p s before
  · exact fun hparse => absurd hmem hparse
  · rwa [hsame]

end Orderly

/-! ## Parse errors -/

section ParseErrors

variable {p : Pipeline} {s : Source} {d : Disk}

theorem Phase.name_injective {phase other : Phase} (h : phase.name = other.name) : phase = other := by
  cases phase <;> cases other <;> first | rfl | exact absurd h (by decide)

/-- A parse error is told only if the file is rejected in the call. -/
theorem rejected_of_tells {n : Notice} (hn : n ∈ p.tells s d) (hseverity : n.severity = .error)
    (hphase : n.phase = Phase.parseFile.name) : .parseFile ∉ s.completed ∧ ∃ code, s.Rejected d code := by
  rw [tells, call, process_eq] at hn
  dsimp only at hn
  obtain hnil | ⟨hsource, phase, -, hparse, hname⟩ := advance_notices p Phase.all s { disk := d } hn
  · cases hnil
  obtain rfl : phase = .parseFile := Phase.name_injective (hname.symm.trans hphase)
  refine ⟨hparse, ?_⟩
  -- without a rejection parsing tells no error, and after it only generating tells anything
  by_contra hnone
  have herrors : (p.execute .parseFile s { disk := d }).1.errorsFor s.text = [] := by
    rw [execute_errorsFor p { disk := d } hparse]
    exact Source.parse_calm fun code hrejected => hnone ⟨code, hrejected⟩
  have hsilent : n ∉ (p.execute .parseFile s { disk := d }).1.notices := by
    intro hmem
    have herror : n ∈ (p.execute .parseFile s { disk := d }).1.errorsFor s.text :=
      List.mem_filter.2 ⟨hmem, decide_eq_true ⟨hseverity, hsource⟩⟩
    rw [herrors] at herror
    cases herror
  rw [Phase.all, advance_cons p [.generateCombinations] { disk := d } hparse] at hn
  split at hn
  · obtain hmem | ⟨-, other, hmem, -, hother⟩ := advance_notices p _ _ _ hn
    · exact hsilent hmem
    · rw [List.mem_singleton.1 hmem] at hother
      exact absurd (Phase.name_injective (hother.symm.trans hphase)) (by decide)
  · exact hsilent hn

/-- A file that is rejected is told as a parse error. -/
theorem tells_of_rejected {path : FilePath} {code : Report.Code} (h : (p.source path).Rejected d code) :
    ∃ n ∈ p.tells (p.source path) d, n.severity = .error ∧ n.phase = Phase.parseFile.name := by
  have hends : p.Ends path { disk := d } .rejected := ends_rejected rfl h
  obtain ⟨_, o, -, hleaves, ⟨⟨n, herrors, hreports⟩, -⟩, -⟩ := hends
  have hmem : n ∈ errorsFor path.text (p.tells (p.source path) d) := by
    rw [show errorsFor path.text (p.tells (p.source path) d) = [n] from hleaves.errors_eq.trans herrors]
    exact List.mem_singleton_self n
  exact ⟨n, (List.mem_filter.1 hmem).1, hreports.severity_eq, hreports.phase_eq⟩

/-- The call in which the file is rejected only parses, and the tree stays as it is. -/
theorem call_of_rejected {code : Report.Code} (hnew : s.completed = []) (h : s.Rejected d code) :
    (p.call s d).1.disk = d ∧ (p.call s d).2.1 = { s with graph := some .empty, completed := [.parseFile] } ∧
      ∀ n ∈ p.tells s d, n.phase = Phase.parseFile.name := by
  have hparse : .parseFile ∉ s.completed := by rw [hnew]; exact List.not_mem_nil
  obtain ⟨n, -, hdoes⟩ := Source.parse_rejected h
  have happly : (p.apply .parseFile s ({ disk := d } : Session).disk).Does s.text d
      { s with graph := some .empty } [n] := hdoes
  obtain ⟨after, hexecute, hdisk, -⟩ := execute_does hparse happly
  have herrors : errorsIn s.text (p.apply .parseFile s d).entries ≠ [] := by
    rw [show errorsIn s.text (p.apply .parseFile s d).entries = [n] from hdoes.errors_eq]
    exact List.cons_ne_nil n []
  have hadvance : p.advance s { disk := d } Phase.all = p.execute .parseFile s { disk := d } :=
    advance_last p _ { disk := d } hparse herrors
  rw [tells, call, process_eq, hadvance]
  refine ⟨by rw [hexecute]; exact hdisk, ?_, fun m hm => ?_⟩
  · rw [hexecute]
    simp [Source.complete, hnew]
  · obtain hnil | ⟨hname, -⟩ := execute_notices p .parseFile s { disk := d } hparse hm
    · cases hnil
    · exact hname

end ParseErrors

/-! ## Empty graphs -/

/-- What generating does to the tree for a source with an empty graph and no traces: the traces file is emptied
if no bound is negative and the file can be written, and else nothing is changed. -/
inductive Source.Blanks (t : Source) (bounds : Option Bounds) (d : Disk) : Disk → Prop where
  | emptied {target : FilePath} {e : Disk} (hbounds : Admitted bounds) (htarget : t.tracesPath = .ok target)
    (hwrite : d.write target (.text "") = .ok e) : Blanks t bounds d e
  | kept (hclosed : Admitted bounds → ∀ target e, t.tracesPath = .ok target → d.write target (.text "") ≠ .ok e) :
    Blanks t bounds d d

/-- A file that can be written is emptied. -/
theorem Source.Blanks.read_target {t : Source} {bounds : Option Bounds} {d e e' : Disk} {target : FilePath}
    (h : t.Blanks bounds d e) (hbounds : Admitted bounds) (htarget : t.tracesPath = .ok target)
    (hwrite : d.write target (.text "") = .ok e') : e.read target = .ok (.text "") := by
  cases h with
  | emptied _ htarget' hwrite' =>
    obtain rfl := Except.ok.inj (htarget.symm.trans htarget')
    exact Disk.read_of_write hwrite'
  | kept hclosed => exact absurd hwrite (hclosed hbounds target e' htarget)

/-- The source after its file was rejected: its graph is empty and its traces are none, and the phases are
done in order. -/
structure Source.Drained (s t : Source) : Prop where
  path_eq : t.path = s.path
  suffix_eq : t.suffix = s.suffix
  graph_eq : t.graph = some .empty
  traces_eq : t.traces = []
  completed_eq : t.completed = [.parseFile] ∨ t.completed = Phase.all

section Drained

variable {p : Pipeline} {s t : Source} {d : Disk} {before : Session}

/-- Generating says that it starts. -/
theorem Source.generate_starts (s : Source) (bounds : Option Bounds) (showTraces : Bool) (d : Disk) :
    s.notice .generateCombinations .info "Generating combinations" ∈ (s.generate bounds showTraces d).entries := by
  unfold generate
  split
  · exact List.mem_cons_self
  · exact List.mem_cons_self
  · dsimp only
    split <;> simp

/-- An empty graph has no traces to collect, so the source stays as it is, and a crash comes before writing. -/
theorem Source.generate_blank (hgraph : t.graph = some .empty) (htraces : t.traces = []) (bounds : Option Bounds)
    (showTraces : Bool) (d : Disk) : (t.generate bounds showTraces d).source = t ∧
      t.Blanks bounds d (t.generate bounds showTraces d).disk ∧
        ((t.generate bounds showTraces d).crash ≠ none → (t.generate bounds showTraces d).disk = d) := by
  have hclear : t.clearGraph = t := by
    rw [clearGraph, hgraph, Option.map_some, ← hgraph]
  obtain ⟨minimum, maximum, hrefused⟩ | hoverlong | hbounds := refused_overlong_or_admitted bounds
  · obtain ⟨r, -, heq⟩ := generate_eq_of_refused (s := t) (d := d) showTraces hrefused
    rw [heq]
    exact ⟨hclear, .kept fun hbounds => absurd hbounds hrefused.not_admitted, fun h => absurd rfl h⟩
  · rw [generate_overlong showTraces hoverlong]
    exact ⟨rfl, .kept fun hbounds => absurd hbounds hoverlong.not_admitted, fun _ => rfl⟩
  have hfilled : t.filled .empty (windowOf bounds) = t := by
    rw [filled, distinctLines_empty, ← htraces]
  have hlines : t.traceLines = "" := by rw [traceLines, htraces]; rfl
  rw [generate_eq showTraces hbounds hgraph htraces, hfilled, hclear]
  have hclosed : (∀ e target, t.write d ≠ .ok (e, target)) → t.Blanks bounds d d := by
    intro hclosed
    refine .kept fun _ target e htarget hwrite => hclosed e target (write_of_ok htarget ?_)
    rwa [hlines]
  cases hwrite : t.write d with
  | ok written =>
    obtain ⟨e, target⟩ := written
    obtain ⟨htarget, hwritten⟩ := write_ok hwrite
    rw [hlines] at hwritten
    exact ⟨rfl, .emptied hbounds htarget hwritten, fun h => absurd rfl h⟩
  | error fault =>
    have hkept := hclosed fun e target h => by rw [hwrite] at h; cases h
    cases fault with
    | reported r => exact ⟨rfl, hkept, fun _ => rfl⟩
    | crash crash => exact ⟨rfl, hkept, fun _ => rfl⟩

/-- A source that is done stays as it is, and nothing is told or written. -/
theorem process_done (h : t.completed = Phase.all) :
    (p.process t before).1 = before ∧ (p.process t before).2.1 = t := by
  have hparse : .parseFile ∈ t.completed := by rw [h]; decide
  have hgenerate : .generateCombinations ∈ t.completed := by rw [h]; decide
  rw [process_eq, Phase.all, advance_skip p _ _ hparse, advance_skip p _ _ hgenerate]
  exact ⟨rfl, rfl⟩

/-- What a call does to a source with an empty graph and no traces that is parsed only: it generates, and when
it has changed the tree the source is done. -/
structure Blanking (p : Pipeline) (s t : Source) (before : Session) : Prop where
  tells : ∃ n ∈ p.tells t before.disk, n.phase = Phase.generateCombinations.name
  blanks : t.Blanks p.bounds before.disk (p.process t before).1.disk
  drained : s.Drained (p.process t before).2.1
  done : (p.process t before).1.disk ≠ before.disk → (p.process t before).2.1.completed = Phase.all

theorem Source.Drained.blanking (h : s.Drained t) (hcompleted : t.completed = [.parseFile]) :
    p.Blanking s t before := by
  have hparse : .parseFile ∈ t.completed := by rw [hcompleted]; decide
  have hgenerate : .generateCombinations ∉ t.completed := by rw [hcompleted]; decide
  obtain ⟨hsource, hblanks, hcrash⟩ := Source.generate_blank h.graph_eq h.traces_eq p.bounds p.showTraces before.disk
  have hadvance : ∀ session, p.advance t session Phase.all = p.execute .generateCombinations t session := by
    intro session
    rw [Phase.all, advance_skip p _ _ hparse, advance_singleton p _ hgenerate]
  have hdisk : (p.process t before).1.disk = (t.generate p.bounds p.showTraces before.disk).disk := by
    rw [process_eq, hadvance, execute_eq p _ hgenerate]
    rfl
  have htells : p.tells t before.disk =
      (t.generate p.bounds p.showTraces before.disk).entries.filterMap Entry.notice? := by
    rw [tells, call, process_eq, hadvance, execute_eq p _ hgenerate]
    rfl
  have hsource' : (p.process t before).2.1 = if (t.generate p.bounds p.showTraces before.disk).crash.isNone then
      { t with completed := Phase.all } else t := by
    rw [process_eq, hadvance, execute_eq p _ hgenerate]
    show (if (t.generate p.bounds p.showTraces before.disk).crash.isNone then
      (t.generate p.bounds p.showTraces before.disk).source.complete .generateCombinations
      else (t.generate p.bounds p.showTraces before.disk).source) = _
    rw [hsource, Source.complete, if_neg hgenerate, hcompleted]
    rfl
  refine ⟨?_, by rwa [hdisk], ?_, fun hchanged => ?_⟩
  · rw [htells]
    exact ⟨_, List.mem_filterMap.2 ⟨_, Source.generate_starts t p.bounds p.showTraces before.disk, rfl⟩, rfl⟩
  · rw [hsource']
    split
    · exact ⟨h.path_eq, h.suffix_eq, h.graph_eq, h.traces_eq, .inr rfl⟩
    · exact h
  · rw [hdisk] at hchanged
    have hnone : (t.generate p.bounds p.showTraces before.disk).crash = none :=
      not_ne_iff.1 fun hsome => hchanged (hcrash hsome)
    rw [hsource', hnone]
    rfl

theorem Source.Drained.process (h : s.Drained t) (p : Pipeline) (before : Session) :
    s.Drained (p.process t before).2.1 := by
  obtain hparsed | hdone := h.completed_eq
  · exact (h.blanking hparsed).drained
  · rwa [(process_done hdone).2]

end Drained

/-! ## Histories -/

namespace World

variable {w : World} {i : Nat} {s t : Source}

/-- A move leaves a source as it is, unless the source is processed. -/
theorem sources_step (move : Move) (h : w.sources[i]? = some t) : (w.step move).sources[i]? = some t ∨
    ∃ p, move = .process p i ∧ (w.step move).sources[i]? = some (p.process t w.session).2.1 := by
  cases move with
  | make path suffix =>
    refine .inl ((List.getElem?_append_left ?_).trans h)
    exact (List.getElem?_eq_some_iff.1 h).1
  | process p j =>
    cases hs : w.sources[j]? with
    | none => rw [step_process_none hs]; exact .inl h
    | some u =>
      rw [step_process hs]
      by_cases hij : j = i
      · subst hij
        obtain rfl : u = t := Option.some.inj (hs.symm.trans h)
        exact .inr ⟨p, rfl, List.getElem?_set_self (List.getElem?_eq_some_iff.1 h).1⟩
      · exact .inl ((List.getElem?_set_ne hij).trans h)
  | run p paths => exact .inl h
  | edit disk => exact .inl h

/-- A move in which the file of a new source is rejected. -/
theorem step_rejected {p : Pipeline} {code : Report.Code} (hs : w.sources[i]? = some s) (hnew : s.completed = [])
    (h : s.Rejected w.session.disk code) : (w.step (.process p i)).session.disk = w.session.disk ∧
      (w.step (.process p i)).sources[i]? = some { s with graph := some .empty, completed := [.parseFile] } := by
  obtain ⟨hdisk, hsource, -⟩ := call_of_rejected (p := p) hnew h
  rw [step_process hs, process_session, process_source, hsource]
  exact ⟨hdisk, List.getElem?_set_self (List.getElem?_eq_some_iff.1 hs).1⟩

theorem orderly_step (move : Move) (h : ∀ s ∈ w.sources, s.Orderly) : ∀ s ∈ (w.step move).sources, s.Orderly := by
  cases move with
  | make path suffix =>
    intro s hs
    rcases List.mem_append.1 hs with hs | hs
    · exact h s hs
    · rw [List.mem_singleton.1 hs]
      exact fun _ => ⟨rfl, rfl⟩
  | process p j =>
    cases hj : w.sources[j]? with
    | none => rwa [step_process_none hj]
    | some u =>
      rw [step_process hj]
      intro s hs
      obtain hs | rfl := List.mem_or_eq_of_mem_set hs
      · exact h s hs
      · exact (h u (List.mem_of_getElem? hj)).process p w.session
  | run p paths => exact h
  | edit disk => exact h

theorem orderly_replay (disk : Disk) (moves : List Move) : ∀ s ∈ ((new disk).replay moves).sources, s.Orderly := by
  induction moves using List.reverseRecOn with
  | nil => exact fun s hs => absurd hs List.not_mem_nil
  | append_singleton moves move ih =>
    rw [replay, List.foldl_append]
    exact orderly_step move ih

/-- A drained source stays drained, and it is not taken further unless it is processed. -/
theorem drained_replay (moves : List Move) (h : w.sources[i]? = some t) (hdrained : s.Drained t) :
    ∃ u, (w.replay moves).sources[i]? = some u ∧ s.Drained u ∧ ((∀ p, .process p i ∉ moves) → u = t) := by
  induction moves generalizing w t with
  | nil => exact ⟨t, h, hdrained, fun _ => rfl⟩
  | cons move moves ih =>
    obtain hsame | ⟨p, rfl, hcall⟩ := sources_step move h
    · obtain ⟨u, hu, hkeeps, hidle⟩ := ih hsame hdrained
      exact ⟨u, hu, hkeeps, fun hmoves => hidle fun p hp => hmoves p (List.mem_cons_of_mem _ hp)⟩
    · obtain ⟨u, hu, hkeeps, -⟩ := ih hcall (hdrained.process p w.session)
      exact ⟨u, hu, hkeeps, fun hmoves => absurd List.mem_cons_self (hmoves p)⟩

end World

/-- A call that tells a parse error only parses, and the tree stays as it is. From then on the source has an empty
graph and no traces, whatever happens. But the next call goes on to generate, and it empties the traces file if it
can; when a call has done so the source is done, and no later call tells or writes anything. -/
theorem calls_after_rejection (disk : Disk) (moves later : List Move) (p q : Pipeline) (i : Nat) (s : Source) :
    let w := (World.new disk).replay moves
    let next := w.step (.process p i)
    let now := next.replay later
    w.sources[i]? = some s →
    (∃ n ∈ w.told (.process p i), n.severity = .error ∧ n.phase = Phase.parseFile.name) →
    next.session.disk = w.session.disk ∧ (∀ n ∈ w.told (.process p i), n.phase = Phase.parseFile.name) ∧
      ∃ t, now.sources[i]? = some t ∧ s.Drained t ∧
        ((∀ r, .process r i ∉ later) → t.completed = [.parseFile]) ∧
        (t.completed = [.parseFile] → q.Blanking s t now.session) ∧
        (t.completed = Phase.all → (q.process t now.session).1 = now.session ∧ (q.process t now.session).2.1 = t) := by
  intro w next now hs herror
  obtain ⟨n, hn, hseverity, hphase⟩ := herror
  have htold : w.told (.process p i) = p.tells s w.session.disk := World.told_process hs
  rw [htold] at hn ⊢
  -- the file was rejected in this call, so the source was new
  obtain ⟨hparse, code, hrejected⟩ := rejected_of_tells hn hseverity hphase
  obtain ⟨hnew, htraces⟩ := World.orderly_replay disk moves s (List.mem_of_getElem? hs) hparse
  obtain ⟨-, -, hphases⟩ := call_of_rejected (p := p) hnew hrejected
  obtain ⟨hdisk, hnext⟩ := World.step_rejected (p := p) hs hnew hrejected
  have hdrained : s.Drained { s with graph := some .empty, completed := [.parseFile] } :=
    ⟨rfl, rfl, rfl, htraces, .inl rfl⟩
  obtain ⟨t, ht, hkeeps, hidle⟩ := World.drained_replay later hnext hdrained
  refine ⟨hdisk, hphases, t, ht, hkeeps, fun hlater => ?_, fun hparsed => hkeeps.blanking hparsed, process_done⟩
  rw [hidle hlater]

/-- A missing file beside an old traces file, and two calls. -/
theorem calls_after_rejection_missing :
    let disk : Disk := { files := [(["a.dot.traces"], .text "old\n")] }
    let p : Pipeline := {}
    let s := p.source (.ofText "a.dot")
    let w := (World.new disk).replay [.make (.ofText "a.dot") ".traces"]
    let next := w.step (.process p 0)
    w.sources[0]? = some s ∧
      (∃ n ∈ w.told (.process p 0), n.severity = .error ∧ n.phase = Phase.parseFile.name) ∧
      next.session.disk = disk ∧ ∃ t, next.sources[0]? = some t ∧ p.Blanking s t next.session := by
  intro disk p s w next
  have hs : w.sources[0]? = some s := rfl
  have herror : ∃ n ∈ w.told (.process p 0), n.severity = .error ∧ n.phase = Phase.parseFile.name :=
    tells_of_rejected (missing_rejected p (by decide +kernel) List.not_mem_nil)
  obtain ⟨hdisk, -, t, ht, -, hidle, hblanking, -⟩ :=
    calls_after_rejection disk [.make (.ofText "a.dot") ".traces"] [] p p 0 s hs herror
  exact ⟨hs, herror, hdisk, t, ht, hblanking (hidle fun _ => List.not_mem_nil)⟩

/-- The second call for a missing file generates, and the old traces are gone. -/
theorem second_call_empties :
    let disk : Disk := { files := [(["a.dot.traces"], .text "old\n")] }
    let p : Pipeline := {}
    let target := FilePath.ofText "a.dot.traces"
    let w := (World.new disk).replay [.make (.ofText "a.dot") ".traces"]
    let next := w.step (.process p 0)
    (∃ n ∈ w.told (.process p 0), n.severity = .error ∧ n.phase = Phase.parseFile.name) ∧
      next.session.disk.read target = .ok (.text "old\n") ∧
      (∃ n ∈ next.told (.process p 0), n.phase = Phase.generateCombinations.name) ∧
      (next.step (.process p 0)).session.disk.read target = .ok (.text "") := by
  intro disk p target w next
  have hs : w.sources[0]? = some (p.source (.ofText "a.dot")) := rfl
  have hrejected := missing_rejected p (d := disk) (by decide +kernel) List.not_mem_nil
  obtain ⟨hnext, ht⟩ := World.step_rejected (p := p) hs rfl hrejected
  have hblanking : p.Blanking (p.source (.ofText "a.dot"))
      { p.source (.ofText "a.dot") with graph := some .empty, completed := [.parseFile] } next.session :=
    Source.Drained.blanking ⟨rfl, rfl, rfl, rfl, .inl rfl⟩ rfl
  have hlocate : disk.locate target = .ok ["a.dot.traces"] := Disk.locate_name (by decide +kernel) disk
  have hread : disk.read target = .ok (.text "old\n") := by
    rw [Disk.read_of_locate hlocate]
    rfl
  -- nothing keeps the second call from writing
  have htarget : Source.tracesPath { p.source (.ofText "a.dot") with
      graph := some .empty, completed := [.parseFile] } = .ok target := by
    show (FilePath.ofText "a.dot").addSuffix ".traces" = .ok (.ofText "a.dot.traces")
    rfl
  have hwrite : next.session.disk.write target (.text "") = .ok (disk.set ["a.dot.traces"] (.text "")) := by
    show (w.step (.process p 0)).session.disk.write target (.text "") = _
    rw [hnext]
    exact (Disk.write_of_locate hlocate).trans (if_neg (by decide))
  refine ⟨tells_of_rejected hrejected, ?_, ?_, ?_⟩
  · show (w.step (.process p 0)).session.disk.read target = _
    rw [hnext]
    exact hread
  · rw [World.told_process ht]
    exact hblanking.tells
  · rw [World.step_process ht]
    exact hblanking.blanks.read_target admitted_none htarget hwrite

end StateTraces.Pipeline
