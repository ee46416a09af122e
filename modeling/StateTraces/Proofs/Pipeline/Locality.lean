import StateTraces.Proofs.Pipeline.Answers

/-
What a call depends on and what it changes. It reads what the way to its path passes, and it writes one
file beside the path at most. So in two trees that agree on the way a call tells the same and ends in the
same way, and the trees agree on the way afterwards.
-/

namespace StateTraces.Pipeline

open Files (Disk FilePath)

/-! ## Trees that agree on the way -/

namespace Source

variable {s : Source} {d e : Disk}

theorem parse_agree (hpath : s.path.Plain) (h : d.Agree e s.path) : s.parse e = { s.parse d with disk := e } := by
  have hread : s.readText e = s.readText d := by rw [readText, readText, h.read_eq hpath]
  unfold parse
  rw [hread]
  split
  · rfl
  · rfl
  · split <;> rfl

section Writing

variable (hpath : s.path.Plain) (hne : s.suffix ≠ "") (hslash : '/' ∉ s.suffix.toList)

include hpath hne hslash

theorem write_agree (h : d.Agree e s.path) : (∃ fault, s.write d = .error fault ∧ s.write e = .error fault) ∨
    ∃ target d' e', s.write d = .ok (d', target) ∧ s.write e = .ok (e', target) ∧ d'.Agree e' s.path := by
  unfold write
  cases htarget : s.tracesPath with
  | error fault => exact .inl ⟨_, rfl, rfl⟩
  | ok target =>
    dsimp only
    obtain ⟨fault, hd, he⟩ | ⟨loc, hd, he⟩ := h.write_beside hpath hne hslash htarget (.text s.traceLines)
    · rw [hd, he]
      cases fault <;> exact .inl ⟨_, rfl, rfl⟩
    · rw [hd, he]
      exact .inr ⟨target, _, _, rfl, rfl, h.set loc _⟩

theorem generate_agree (h : d.Agree e s.path) (bounds : Option Bounds) (showTraces : Bool) : ∃ e',
    s.generate bounds showTraces e = { s.generate bounds showTraces d with disk := e' } ∧
      (s.generate bounds showTraces d).disk.Agree e' s.path := by
  unfold generate
  cases bounds.mapM Bounds.resolve with
  | error fault => cases fault <;> exact ⟨e, rfl, h⟩
  | ok window =>
    dsimp only
    have hkeeps := collect_keeps (s := s) window showTraces
    generalize s.collect window showTraces = r at hkeeps ⊢
    obtain ⟨filled, told, tally⟩ := r
    have hkeeps : filled = { s with traces := filled.traces } := hkeeps
    have hp : filled.path = s.path := by rw [hkeeps]
    have hs : filled.suffix = s.suffix := by rw [hkeeps]
    rw [← hp] at hpath h
    rw [← hs] at hne hslash
    obtain ⟨fault, hd, he⟩ | ⟨target, d', e', hd, he, hagree⟩ := write_agree hpath hne hslash h
    · dsimp only
      rw [hd, he, ← hp]
      cases fault with
      | reported r => exact ⟨e, rfl, h⟩
      | crash crash => exact ⟨e, rfl, h⟩
    · dsimp only
      rw [hd, he, ← hp]
      exact ⟨e', rfl, hagree⟩

end Writing

end Source

section Agree

variable (p : Pipeline) {s : Source} (was : Session) {e : Disk} (hpath : s.path.Plain) (hne : s.suffix ≠ "")
  (hslash : '/' ∉ s.suffix.toList)

include hpath hne hslash

theorem apply_agree {d : Disk} (h : d.Agree e s.path) (phase : Phase) : ∃ e',
    p.apply phase s e = { p.apply phase s d with disk := e' } ∧ (p.apply phase s d).disk.Agree e' s.path := by
  cases phase with
  | parseFile => exact ⟨e, Source.parse_agree hpath h, by rwa [apply, Source.parse_disk]⟩
  | generateCombinations => exact Source.generate_agree hpath hne hslash h p.bounds p.showTraces

theorem execute_agree {phase : Phase} (hphase : phase ∉ s.completed) (h : was.disk.Agree e s.path) : ∃ e',
    p.execute phase s { was with disk := e } =
      ({ (p.execute phase s was).1 with disk := e' }, (p.execute phase s was).2) ∧
      (p.execute phase s was).1.disk.Agree e' s.path := by
  obtain ⟨e', heffect, hagree⟩ := p.apply_agree hpath hne hslash h phase
  rw [execute_eq p _ hphase, execute_eq p was hphase]
  dsimp only
  rw [heffect]
  exact ⟨e', rfl, hagree⟩

theorem advance_agree (h : was.disk.Agree e s.path) (phases : List Phase) : ∃ e',
    p.advance s { was with disk := e } phases =
      ({ (p.advance s was phases).1 with disk := e' }, (p.advance s was phases).2) ∧
      (p.advance s was phases).1.disk.Agree e' s.path := by
  induction phases generalizing s was e with
  | nil => exact ⟨e, rfl, h⟩
  | cons phase phases ih =>
    by_cases hphase : phase ∈ s.completed
    · rw [advance_skip p phases _ hphase, advance_skip p phases _ hphase]
      exact ih was hpath hne hslash h
    · obtain ⟨e', hexecute, hagree⟩ := p.execute_agree was hpath hne hslash hphase h
      obtain ⟨hsame, hsuffix, -⟩ := execute_keeps p phase s was hphase
      have hquiet : (p.apply phase s e).Quiet s.text ↔ (p.apply phase s was.disk).Quiet s.text := by
        obtain ⟨_, heffect, -⟩ := p.apply_agree hpath hne hslash h phase
        rw [heffect]
        rfl
      rw [advance_cons p phases _ hphase, advance_cons p phases was hphase, hexecute, if_congr hquiet rfl rfl]
      split
      · rw [← hsuffix] at hne hslash
        rw [← hsame] at hpath hagree ⊢
        exact ih _ hpath hne hslash hagree
      · exact ⟨e', rfl, hagree⟩

theorem call_agree {d : Disk} (h : d.Agree e s.path) : ∃ e',
    p.call s e = ({ (p.call s d).1 with disk := e' }, (p.call s d).2) := by
  obtain ⟨e', hadvance, -⟩ := p.advance_agree { disk := d } hpath hne hslash h Phase.all
  refine ⟨e', ?_⟩
  rw [call, call, process_eq, process_eq]
  dsimp only at hadvance ⊢
  rw [hadvance]
  rfl

end Agree

/-! ## What is written -/

/-- A call for a new source writes this text at this place. -/
def Writes (p : Pipeline) (path : FilePath) (d : Disk) (loc : Files.Location) (content : Files.Content) : Prop :=
  ∃ target traces, path.addSuffix p.suffix = .ok target ∧ p.Generates path d traces ∧ d.locate target = .ok loc ∧
    ¬(Disk.isAbove loc ∨ loc ∈ d.directories) ∧ content = .text (linesText traces)

theorem Source.readText_ok {s : Source} {d : Disk} {text : String} :
    s.readText d = .ok text ↔ ∃ content, d.read s.path = .ok content ∧ content.lines? = some text := by
  unfold readText
  cases d.read s.path with
  | error fault => cases fault <;> simp
  | ok content => cases content <;> simp [Files.Content.lines?]

/-- A graph is told by what is read. -/
theorem Source.Accepted.congr {s t : Source} {d e : Disk} {g : AtomGraph} (hread : d.read s.path = e.read t.path)
    (h : s.Accepted d g) : t.Accepted e g := by
  obtain ⟨text, document, htext, hdocument, rfl⟩ := h
  rw [readText_ok, hread, ← readText_ok] at htext
  exact ⟨text, document, htext, hdocument, rfl⟩

section Writes

variable {p : Pipeline} {path other : FilePath} {d e : Disk} {traces traces' : List String} {loc : Files.Location}
  {content content' : Files.Content}

theorem Generates.congr (hread : d.read path = e.read other) (h : p.Generates path d traces) :
    p.Generates other e traces := by
  obtain ⟨g, hgraph, hbounds, htraces⟩ := h
  exact ⟨g, Source.Accepted.congr (s := p.source path) (t := p.source other) hread hgraph, hbounds, htraces⟩

theorem Generates.unique (h : p.Generates path d traces) (h' : p.Generates path d traces') : traces = traces' := by
  obtain ⟨g, hgraph, -, rfl⟩ := h
  obtain ⟨g', hgraph', -, rfl⟩ := h'
  rw [hgraph.unique hgraph']

theorem Writes.mono (hpath : path.Plain) (hne : p.suffix ≠ "") (hslash : '/' ∉ p.suffix.toList) (h : d.Agree e path)
    (hwrites : p.Writes path d loc content) : p.Writes path e loc content := by
  obtain ⟨target, traces, htarget, hgenerates, hloc, hdir, rfl⟩ := hwrites
  refine ⟨target, traces, htarget, hgenerates.congr (h.read_eq hpath), ?_, ?_, rfl⟩
  · rwa [← h.locate_beside hpath hne hslash htarget]
  · rwa [← h.directories_eq]

/-- The paths of one traces file lie at one place, so what is written there is the same for all of them. -/
theorem Writes.unique (hpath : path.Plain) (hother : other.Plain) (hne : p.suffix ≠ "") (hslash : '/' ∉ p.suffix.toList)
    (h : p.Writes path d loc content) (h' : p.Writes other d loc content') : content = content' := by
  obtain ⟨target, traces, htarget, hgenerates, hloc, -, rfl⟩ := h
  obtain ⟨target', traces', htarget', hgenerates', hloc', -, rfl⟩ := h'
  have hplace : d.locate path = d.locate other :=
    Disk.locate_eq_of_beside hpath hne hslash htarget hother htarget' hloc hloc'
  rw [(hgenerates.congr (Disk.read_congr hplace)).unique hgenerates']

/-- A call that ends well writes the traces of its outcome. -/
theorem Ends.writes (h : p.Ends path { disk := d } .written) (hcalm : ∀ crash, ¬p.Breaks path d crash) :
    ∃ target loc o, target.text = path.text ++ p.suffix ∧ p.Writes path d loc (.text (linesText o.traces)) ∧
      p.Generates path d o.traces ∧
      p.Leaves path { disk := d } Phase.all (d.set loc (.text (linesText o.traces))) o ∧ o.Succeeded target := by
  obtain ⟨target, loc, disk, o, hgenerates, htext, hloc, rfl, hread, hleaves, hsucceeded⟩ := h
  refine ⟨target, loc, o, htext, ?_, hgenerates, hleaves, hsucceeded⟩
  cases htarget' : path.addSuffix p.suffix with
  | error fault =>
    exact (hcalm (.unnameable fault) (.inr (.inr ⟨⟨_, hgenerates⟩, .inl ⟨fault, htarget', rfl⟩⟩))).elim
  | ok target' =>
    have hsame : target'.text = target.text := by rw [htext, FilePath.text_addSuffix htarget']
    refine ⟨target', o.traces, htarget', hgenerates, ?_, ?_, rfl⟩
    · rwa [Disk.locate, hsame]
    · obtain ⟨loc', hloc', hdir, -⟩ := Disk.get?_of_read hread
      have hplace : (d.set loc (.text (linesText o.traces))).locate target = .ok loc :=
        Disk.locateText_of_directories (d := d) (e := d.set loc _) rfl hloc
      obtain rfl : loc = loc' := Except.ok.inj (hplace.symm.trans hloc')
      exact hdir

/-- A call for a new source that does not crash writes its file, or it leaves the tree as it is. -/
theorem call_disk (h : ∀ crash, ¬p.Breaks path d crash) :
    (∃ loc content, p.Writes path d loc content ∧ (p.call (p.source path) d).1.disk = d.set loc content) ∨
      (∀ loc content, ¬p.Writes path d loc content) ∧ (p.call (p.source path) d).1.disk = d := by
  obtain ⟨crash, hbreaks⟩ | ⟨e, hne, hends⟩ := breaks_or_ends p path d
  · exact absurd hbreaks (h crash)
  cases e with
  | rejected =>
    obtain ⟨code, o, hrejected, hleaves, -⟩ := hends
    refine .inr ⟨?_, hleaves.disk_eq⟩
    rintro loc content ⟨-, -, -, ⟨g, hgraph, -⟩, -⟩
    exact hrejected.not_accepted hgraph
  | refused =>
    obtain ⟨g, minimum, maximum, o, -, hrefused, hleaves, -⟩ := hends
    refine .inr ⟨?_, hleaves.disk_eq⟩
    rintro loc content ⟨-, -, -, ⟨-, -, hbounds, -⟩, -⟩
    exact hrefused.not_admitted hbounds
  | unwritable =>
    obtain ⟨target, fault, o, -, htext, hwrite, -, hleaves, -⟩ := hends
    refine .inr ⟨?_, hleaves.disk_eq⟩
    rintro loc content ⟨target', traces, htarget', -, hloc, hdir, -⟩
    have hsame : target.text = target'.text := by rw [htext, FilePath.text_addSuffix htarget']
    rw [Disk.write, hsame, ← Disk.write, Disk.write_of_locate hloc, if_neg hdir] at hwrite
    cases hwrite
  | written =>
    obtain ⟨_, loc, o, -, hwrites, -, hleaves, -⟩ := hends.writes h
    exact .inl ⟨loc, _, hwrites, hleaves.disk_eq⟩
  | crashed => exact absurd rfl hne

end Writes

end StateTraces.Pipeline
