import StateTraces.Proofs.Enumeration.Renaming
import StateTraces.Proofs.Enumeration.Traces
import StateTraces.Proofs.Path.Simple
import StateTraces.Proofs.Pipeline.History
import StateTraces.Proofs.Pipeline.Locality
import StateTraces.Proofs.Pipeline.News

/-
The traces file, line by line. A trace is written as its labels with blanks between them and a line
break behind them, and nothing inside a label is escaped. So the file gives the traces of the graph back
if no label holds a blank or a line break, and it has one line for each trace only if no label of a trace
holds a line break.
-/

namespace StateTraces

open Files (Disk FilePath)

/-! ## Labels of traces -/

namespace Enumeration

open StateTraces.Path

variable {V L : Type} [DecidableEq V] {g : Graph V L} {window : Option DepthWindow} {t : List L}

theorem ne_nil_of_mem_allTraces (h : t ∈ allTraces g window) : t ≠ [] := by
  obtain ⟨-, root, steps, hne, -, rfl⟩ := mem_allTraces.1 h
  simpa using hne

/-- The labels of a trace are labels of edges between different vertices. -/
theorem exists_edge_of_mem_trace (h : t ∈ allTraces g window) {l : L} (hl : l ∈ t) :
    ∃ e ∈ g.edges, e.1 ≠ e.2.1 ∧ e.2.2 = l := by
  obtain ⟨-, root, steps, -, hadm, rfl⟩ := mem_allTraces.1 h
  rw [← map_snd_legs root steps, List.map_map] at hl
  obtain ⟨d, hd, rfl⟩ := List.mem_map.1 hl
  exact ⟨d, isPath_iff_legs.1 hadm.path d hd, hadm.simple.ne_of_mem_legs hd, rfl⟩

/-- An edge between different vertices is a trace by itself, if the window reports the first depth. -/
theorem singleton_mem_allTraces (hwindow : reported window 1 = true) {e : V × V × L} (he : e ∈ g.edges)
    (hne : e.1 ≠ e.2.1) : [e.2.2] ∈ allTraces g window := by
  obtain ⟨before, after, hsplit⟩ := List.append_of_mem (g.mem_edges.1 he)
  refine mem_allTraces.2 ⟨hwindow, e.1, [e.2], List.cons_ne_nil _ _, admissible_cons.2 ⟨⟨before, ?_, ?_⟩, ?_, ?_⟩, rfl⟩
  · exact mem_splits.2 ⟨after, hsplit⟩
  · exact fun w hw => absurd hw List.not_mem_nil
  · simpa using hne
  · exact admissible_nil g _

end Enumeration

namespace Pipeline

open Enumeration (allTraces reported)

/-- The lines of a graph of texts are its traces, each joined by blanks. -/
theorem Source.distinctLines_ofTexts (g : Graph String String) (window : Option DepthWindow) :
    distinctLines (AtomGraph.ofTexts g) window = ((allTraces g window).map " ".intercalate).eraseDups := by
  have hinj : Function.Injective Atom.text := fun a b h => by cases h; rfl
  have hline : lineOf ∘ List.map Atom.text = " ".intercalate := by
    funext t
    simp [lineOf, Function.comp_def, Atom.shown]
  rw [distinctLines, AtomGraph.ofTexts, Enumeration.allTraces_rename hinj, List.map_map, hline]

/-! ## Calls without an error -/

/-- A new source is processed without an error: the call answers, and it tells no error about the
source. -/
structure Clean (p : Pipeline) (path : FilePath) (before : Session) : Prop where
  answers : ∃ o, (p.process (p.source path) before).2.2 = .ok o
  quiet : errorsFor path.text (p.tells (p.source path) before.disk) = []

section Clean

variable {p : Pipeline} {path : FilePath} {before : Session}

/-- Such a call has collected the lines of its graph and has written them. -/
theorem Clean.written (h : p.Clean path before) : ∃ o target,
    (p.process (p.source path) before).2.2 = .ok o ∧ target.text = path.text ++ p.suffix ∧
      (p.process (p.source path) before).1.disk.read target = .ok (.text (linesText o.traces)) ∧
      p.Generates path before.disk o.traces := by
  obtain ⟨crash, hbreaks⟩ | ⟨e, hne, hends⟩ := breaks_or_ends p path before.disk
  · obtain ⟨o, ho⟩ := h.answers
    have hcrash := process_of_breaks hbreaks
    rw [ho] at hcrash
    cases hcrash
  obtain rfl := hends.eq_written hne h.quiet
  obtain ⟨_, _, _, o, hgenerates, -, -, -, -, hleaves, -⟩ := hends
  have hsource : (p.process (p.source path) before).2.1 =
      { path, suffix := p.suffix, graph := some .empty, traces := o.traces, completed := Phase.all } := by
    rw [process_source]
    exact hleaves.source_eq
  obtain ⟨o', target, ho, htext, hread, -⟩ := outcome_of_done (congrArg Source.completed hsource) h.quiet
  have htraces : o'.traces = o.traces := by
    rw [(process_ok ho).2.1, ← process_source]
    exact congrArg Source.traces hsource
  exact ⟨o', target, ho, htext, hread, htraces ▸ hgenerates⟩

/-- With the text of the source at hand, the lines are those of the graph in it. -/
theorem Clean.written_text (h : p.Clean path before) {text : String} {document : Dot.Document}
    (hread : (p.source path).readText before.disk = .ok text) (hdocument : Dot.Document.ofText text = .ok document) :
    ∃ o target, (p.process (p.source path) before).2.2 = .ok o ∧ target.text = path.text ++ p.suffix ∧
      (p.process (p.source path) before).1.disk.read target = .ok (.text (linesText o.traces)) ∧
      o.traces = ((allTraces document.graph (windowOf p.bounds)).map " ".intercalate).eraseDups ∧
      news (p.tells (p.source path) before.disk) = newsOf p.showTraces o.traces := by
  obtain ⟨o, target, ho, htext, hfile, g, hgraph, hbounds, htraces⟩ := h.written
  have hg : g = AtomGraph.ofTexts document.graph := hgraph.unique ⟨text, document, hread, hdocument, rfl⟩
  refine ⟨o, target, ho, htext, hfile, ?_, ?_⟩
  · rw [htraces, hg, Source.distinctLines_ofTexts]
  · rw [news_tells hgraph hbounds, htraces]

end Clean

/-- A file with one edge, whose label may be any text that can stand between quotes, is processed without
an error. -/
theorem clean_edge (text label : String) (htext : text = Dot.printed [' '] [.addEdge "a" "b" label])
    (hlabel : Dot.Quotable label.toList) (hreturn : '\r' ∉ text.toList) :
    let path := FilePath.ofText "a.dot"
    let before : Session := { disk := { files := [(["a.dot"], .text text)] } }
    Clean {} path before ∧ (source {} path).readText before.disk = .ok text ∧
      Dot.Document.ofText text = .ok ⟨none, [(Dot.Operation.addEdge "a" "b" label).statement]⟩ := by
  intro path before
  have hfile : before.disk.read path = .ok (.text text) := by
    rw [Disk.read_of_locate (Disk.locate_name (by decide +kernel) before.disk)]
    rfl
  have hread : (source {} path).readText before.disk = .ok text :=
    Source.readText_ok.2 ⟨_, hfile, Disk.lines?_of_not_mem hreturn⟩
  have hops : ∀ op ∈ [Dot.Operation.addEdge "a" "b" label], op.Printable := by
    simpa [Dot.Operation.Printable, hlabel] using by decide +kernel
  have hgap : Dot.Gap [' '] := by simp [Dot.Gap, Dot.isBlank]
  have hdocument := Dot.ofText_printed hgap hops
  rw [← htext] at hdocument
  obtain ⟨content, o, hleaves, herrors, -⟩ := leaves_accepted (d := before.disk) List.not_mem_nil
    ⟨text, _, hread, hdocument, rfl⟩
  exact ⟨⟨⟨o, hleaves.outcome_eq⟩, hleaves.errors_eq.trans herrors⟩, hread, hdocument⟩

/-! ## Lines of the file -/

theorem split_linesText (traces : List String) :
    Text.split '\n' (linesText traces) = traces.flatMap (Text.split '\n') ++ [""] :=
  Text.split_join (show "\n".toList = ['\n'] from rfl) traces

section Lines

variable {g : Graph String String} {window : Option DepthWindow}

/-- A trace whose labels hold no blank is read back from its line. -/
theorem split_line {t : List String} (ht : t ∈ allTraces g window)
    (hblank : ∀ e ∈ g.edges, ' ' ∉ e.2.2.toList) : Text.split ' ' (" ".intercalate t) = t := by
  have hblanks : " ".toList = [' '] := rfl
  refine Text.split_intercalate hblanks (Enumeration.ne_nil_of_mem_allTraces ht) fun l hl => ?_
  obtain ⟨e, he, -, rfl⟩ := Enumeration.exists_edge_of_mem_trace ht hl
  exact hblank e he

/-- Without blanks in labels, different traces have different lines. -/
theorem eraseDups_lines (hblank : ∀ e ∈ g.edges, ' ' ∉ e.2.2.toList) :
    ((allTraces g window).map " ".intercalate).eraseDups =
      (allTraces g window).eraseDups.map " ".intercalate := by
  refine eraseDups_map _ _ fun t ht u hu heq => ?_
  rw [← split_line ht hblank, heq, split_line hu hblank]

theorem map_split_lines (hblank : ∀ e ∈ g.edges, ' ' ∉ e.2.2.toList) :
    (((allTraces g window).map " ".intercalate).eraseDups).map (Text.split ' ') = (allTraces g window).eraseDups := by
  rw [eraseDups_lines hblank, List.map_map]
  refine (List.map_congr_left fun t ht => ?_).trans (List.map_id _)
  exact split_line (List.mem_eraseDups.1 ht) hblank

/-- A line is broken exactly if a label in it is. -/
theorem newline_mem_line {t : List String} : '\n' ∈ (" ".intercalate t).toList ↔ ∃ l ∈ t, '\n' ∈ l.toList :=
  Text.mem_intercalate (show " ".toList = [' '] from rfl) (by decide)

theorem newline_free_lines :
    (∀ line ∈ ((allTraces g window).map " ".intercalate).eraseDups, '\n' ∉ line.toList) ↔
      ∀ t ∈ allTraces g window, ∀ l ∈ t, '\n' ∉ l.toList := by
  simp only [List.mem_eraseDups, List.forall_mem_map, newline_mem_line, not_exists, not_and]

theorem newline_free_traces (hwindow : reported window 1 = true) :
    (∀ t ∈ allTraces g window, ∀ l ∈ t, '\n' ∉ l.toList) ↔
      ∀ e ∈ g.edges, e.1 ≠ e.2.1 → '\n' ∉ e.2.2.toList := by
  constructor
  · intro h e he hne
    exact h _ (Enumeration.singleton_mem_allTraces hwindow he hne) _ (List.mem_singleton_self _)
  · intro h t ht l hl
    obtain ⟨e, he, hne, rfl⟩ := Enumeration.exists_edge_of_mem_trace ht hl
    exact h e he hne

end Lines

/-! ## The file as a whole -/

/-- A new source is processed without an error, and no label of its graph holds a blank or a line break.
The traces file cut at line breaks, and each line at blanks, gives the distinct traces of the graph inside
the window, in order of first mention; the count is their number, and with traces shown the news are the
same lines in the same order. -/
theorem file_gives_traces (p : Pipeline) (path : FilePath) (before : Session) (text : String)
    (document : Dot.Document) (hclean : p.Clean path before)
    (hread : (p.source path).readText before.disk = .ok text) (hdocument : Dot.Document.ofText text = .ok document)
    (hlabels : ∀ e ∈ document.graph.edges, ' ' ∉ e.2.2.toList ∧ '\n' ∉ e.2.2.toList) :
    ∃ o target content lines, (p.process (p.source path) before).2.2 = .ok o ∧
      target.text = path.text ++ p.suffix ∧
      (p.process (p.source path) before).1.disk.read target = .ok (.text content) ∧
      Text.split '\n' content = lines ++ [""] ∧
      lines.map (Text.split ' ') = (allTraces document.graph (windowOf p.bounds)).eraseDups ∧
      (lines.map (Text.split ' ')).Nodup ∧
      o.traces = lines ∧ (o.members true).get? "trace_count" = some (.int lines.length) ∧
      (p.process (p.source path) before).1.notices = before.notices ++ p.tells (p.source path) before.disk ∧
      news (p.tells (p.source path) before.disk) = if p.showTraces then lines.map ("Generated: " ++ ·) else [] := by
  obtain ⟨o, target, ho, htext, hfile, htraces, hnews⟩ := hclean.written_text hread hdocument
  have hblank : ∀ e ∈ document.graph.edges, ' ' ∉ e.2.2.toList := fun e he => (hlabels e he).1
  have hbreak : ∀ line ∈ o.traces, '\n' ∉ line.toList := by
    rw [htraces, newline_free_lines]
    intro t ht l hl
    obtain ⟨e, he, -, rfl⟩ := Enumeration.exists_edge_of_mem_trace ht hl
    exact (hlabels e he).2
  have htuples : o.traces.map (Text.split ' ') = (allTraces document.graph (windowOf p.bounds)).eraseDups := by
    rw [htraces, map_split_lines hblank]
  refine ⟨o, target, _, o.traces, ho, htext, hfile, ?_, htuples, ?_, rfl, rfl, ?_, hnews⟩
  · rw [split_linesText, Text.flatMap_split_eq hbreak]
  · rw [htuples]
    exact nodup_eraseDups _
  · rw [process_session]
    rfl

/-- An edge with a plain label, and traces shown. -/
theorem file_gives_traces_edge :
    let text := "digraph \x7b \"a\" -> \"b\" [label=\"go\"]; \x7d"
    let path := FilePath.ofText "a.dot"
    let before : Session := { disk := { files := [(["a.dot"], .text text)] } }
    let document : Dot.Document := ⟨none, [(Dot.Operation.addEdge "a" "b" "go").statement]⟩
    Clean {} path before ∧ (source {} path).readText before.disk = .ok text ∧ Dot.Document.ofText text = .ok document ∧
      (∀ e ∈ document.graph.edges, ' ' ∉ e.2.2.toList ∧ '\n' ∉ e.2.2.toList) ∧
      ∃ content lines, (∃ o target, (process {} (source {} path) before).2.2 = .ok o ∧ target.text = "a.dot.traces" ∧
        (process {} (source {} path) before).1.disk.read target = .ok (.text content)) ∧
        Text.split '\n' content = lines ++ [""] ∧ lines.map (Text.split ' ') = [["go"]] := by
  intro text path before document
  obtain ⟨hclean, hread, hdocument⟩ := clean_edge text "go" (by decide +kernel)
    (by decide +kernel) (by decide +kernel)
  have hlabels : ∀ e ∈ document.graph.edges, ' ' ∉ e.2.2.toList ∧ '\n' ∉ e.2.2.toList := by decide +kernel
  obtain ⟨o, target, content, lines, ho, htext, hfile, hsplit, htuples, -⟩ :=
    file_gives_traces {} path before text document hclean hread hdocument hlabels
  have htraces : (allTraces document.graph none).eraseDups = [["go"]] := by decide +kernel
  exact ⟨hclean, hread, hdocument, hlabels, content, lines, ⟨o, target, ho, htext, hfile⟩, hsplit,
    htuples.trans htraces⟩

/-- The traces file of a new source that is processed without an error holds the lines of each of its
traces, one after another. It has as many lines as there are traces, and they are then the traces, only
if no label of a trace holds a line break; where the window reports the first depth, that is only if no
edge between different vertices has such a label. -/
theorem file_has_lines (p : Pipeline) (path : FilePath) (before : Session) (text : String)
    (document : Dot.Document) (hclean : p.Clean path before)
    (hread : (p.source path).readText before.disk = .ok text) (hdocument : Dot.Document.ofText text = .ok document) :
    ∃ o target content lines, (p.process (p.source path) before).2.2 = .ok o ∧
      target.text = path.text ++ p.suffix ∧
      (p.process (p.source path) before).1.disk.read target = .ok (.text content) ∧
      Text.split '\n' content = lines ++ [""] ∧ lines = o.traces.flatMap (Text.split '\n') ∧
      (o.members true).get? "trace_count" = some (.int o.traces.length) ∧
      let whole := ∀ t ∈ allTraces document.graph (windowOf p.bounds), ∀ l ∈ t, '\n' ∉ l.toList
      (lines.length = o.traces.length ↔ whole) ∧ (lines = o.traces ↔ whole) ∧
      (reported (windowOf p.bounds) 1 = true →
        (whole ↔ ∀ e ∈ document.graph.edges, e.1 ≠ e.2.1 → '\n' ∉ e.2.2.toList)) := by
  obtain ⟨o, target, ho, htext, hfile, htraces, -⟩ := hclean.written_text hread hdocument
  have hwhole : (∀ line ∈ o.traces, '\n' ∉ line.toList) ↔
      ∀ t ∈ allTraces document.graph (windowOf p.bounds), ∀ l ∈ t, '\n' ∉ l.toList := by
    rw [htraces]
    exact newline_free_lines
  refine ⟨o, target, _, _, ho, htext, hfile, split_linesText _, rfl, rfl, ?_, ?_, newline_free_traces⟩
  · rw [Text.length_flatMap_split]
    exact hwhole
  · rw [← hwhole]
    exact ⟨fun heq => Text.length_flatMap_split.1 (congrArg List.length heq), Text.flatMap_split_eq⟩

/-- An edge with a plain label, which makes one line. -/
theorem file_has_lines_edge :
    let text := "digraph \x7b \"a\" -> \"b\" [label=\"go\"]; \x7d"
    let path := FilePath.ofText "a.dot"
    let before : Session := { disk := { files := [(["a.dot"], .text text)] } }
    let document : Dot.Document := ⟨none, [(Dot.Operation.addEdge "a" "b" "go").statement]⟩
    Clean {} path before ∧ (source {} path).readText before.disk = .ok text ∧ Dot.Document.ofText text = .ok document ∧
      reported (windowOf ({} : Pipeline).bounds) 1 = true ∧
      ∃ o content, (process {} (source {} path) before).2.2 = .ok o ∧
        Text.split '\n' content = o.traces ++ [""] := by
  intro text path before document
  obtain ⟨hclean, hread, hdocument⟩ := clean_edge text "go" (by decide +kernel)
    (by decide +kernel) (by decide +kernel)
  obtain ⟨o, target, content, lines, ho, -, -, hsplit, -, -, -, hwhole, hedges⟩ :=
    file_has_lines {} path before text document hclean hread hdocument
  have hfree : ∀ e ∈ document.graph.edges, e.1 ≠ e.2.1 → '\n' ∉ e.2.2.toList := by decide +kernel
  have hlines : lines = o.traces := hwhole.2 ((hedges rfl).2 hfree)
  exact ⟨hclean, hread, hdocument, rfl, o, content, ho, hlines ▸ hsplit⟩

/-- A quoted label with a line break: there is one trace, and the file has two lines. -/
theorem file_of_broken_label :
    let text := "digraph \x7b \"a\" -> \"b\" [label=\"x\ny\"]; \x7d"
    let path := FilePath.ofText "a.dot"
    let before : Session := { disk := { files := [(["a.dot"], .text text)] } }
    Clean {} path before ∧ ∃ o target content, (process {} (source {} path) before).2.2 = .ok o ∧
      target.text = "a.dot.traces" ∧
      (process {} (source {} path) before).1.disk.read target = .ok (.text content) ∧
      o.traces = ["x\ny"] ∧ Text.split '\n' content = ["x", "y", ""] := by
  intro text path before
  obtain ⟨hclean, hread, hdocument⟩ := clean_edge text "x\ny" (by decide +kernel)
    (by decide +kernel) (by decide +kernel)
  obtain ⟨o, target, ho, htext, hfile, htraces, -⟩ := hclean.written_text hread hdocument
  have hone : o.traces = ["x\ny"] := by
    rw [htraces]
    decide +kernel
  refine ⟨hclean, o, target, _, ho, htext, hfile, hone, ?_⟩
  rw [hone]
  decide +kernel

end Pipeline

end StateTraces
