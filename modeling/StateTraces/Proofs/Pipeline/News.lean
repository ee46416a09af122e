import StateTraces.Proofs.Pipeline.Listener

/-
News of traces. With traces shown, generating tells every trace when it is first kept, in that order,
and nothing else that it or parsing tells reads like such a notice.
-/

namespace StateTraces.Pipeline

open Files (Disk FilePath)

/-! ## News among notices -/

/-- What the news of a trace begins with. -/
def newsHead : String := "Generated: "

/-- An informative notice that begins like the news of a trace. -/
def Notice.isNews (n : Notice) : Bool :=
  decide (n.severity = .info) && newsHead.toList.isPrefixOf n.text.toList

/-- The texts of the news among notices. -/
def news (notices : List Notice) : List String := (notices.filter Notice.isNews).map Notice.text

/-- The texts of the news among entries. -/
def newsIn (entries : List Entry) : List String := news (entries.filterMap Entry.notice?)

theorem newsIn_append (entries more : List Entry) : newsIn (entries ++ more) = newsIn entries ++ newsIn more := by
  simp [newsIn, news]

theorem newsIn_eq_nil {entries : List Entry} (h : ∀ e ∈ entries, newsIn [e] = []) : newsIn entries = [] := by
  induction entries with
  | nil => rfl
  | cons e entries ih =>
    obtain ⟨he, hrest⟩ := List.forall_mem_cons.1 h
    rw [← List.singleton_append, newsIn_append, he, ih hrest]
    rfl

@[simp] theorem newsIn_log (r : Log.Record) : newsIn [.log r] = [] := rfl

/-- News that go with kept traces. -/
def newsOf (showTraces : Bool) (traces : List String) : List String :=
  if showTraces then traces.map (newsHead ++ ·) else []

theorem newsOf_append (showTraces : Bool) (traces more : List String) :
    newsOf showTraces (traces ++ more) = newsOf showTraces traces ++ newsOf showTraces more := by
  cases showTraces <;> simp [newsOf]

namespace Source

variable {s : Source}

theorem newsIn_news (line : String) :
    newsIn [s.notice .generateCombinations .info s!"Generated: {line}"] = [newsHead ++ line] := by
  rw [show s!"Generated: {line}" = newsHead ++ line from rfl]
  simp [newsIn, news, notice, Entry.notice?, Notice.isNews]

theorem newsIn_other (phase : Phase) (severity : Severity) {text : String}
    (h : newsHead.toList.isPrefixOf text.toList = false) : newsIn [s.notice phase severity text] = [] := by
  simp [newsIn, news, notice, Entry.notice?, Notice.isNews, h]

/-! ## What collecting tells -/

/-- An event is told as news exactly if its trace is new. -/
theorem take_news (showTraces : Bool) (acc : Source × List Entry) (e : Enumeration.Event Atom (List Atom)) :
    ∃ fresh, (take showTraces acc e).1.traces = acc.1.traces ++ fresh ∧
      newsIn (take showTraces acc e).2.reverse = newsIn acc.2.reverse ++ newsOf showTraces fresh := by
  obtain ⟨s, told⟩ := acc
  have hquiet : newsOf showTraces [] = [] := by cases showTraces <;> rfl
  cases e with
  | result depth trace =>
    unfold take
    dsimp only
    split
    · exact ⟨[], (List.append_nil _).symm, by rw [hquiet, List.append_nil]⟩
    · rename_i hnew
      refine ⟨[lineOf trace], by rw [addTrace, if_neg hnew], ?_⟩
      cases showTraces with
      | false => exact (List.append_nil _).symm
      | true =>
        rw [if_pos rfl, List.reverse_cons, newsIn_append, newsIn_news]
        rfl
  | _ =>
    refine ⟨[], (List.append_nil _).symm, ?_⟩
    have hlog : ∀ records : List Log.Record, newsIn (records.map .log).reverse = [] := fun records =>
      newsIn_eq_nil fun e he => by
        obtain ⟨r, -, rfl⟩ := List.mem_map.1 (List.mem_reverse.1 he)
        rfl
    simp only [take, List.reverse_append, newsIn_append, hlog, hquiet]

theorem foldl_news (showTraces : Bool) (events : List (Enumeration.Event Atom (List Atom)))
    (acc : (Source × List Entry) × Enumeration.Tally) : ∃ fresh,
      (events.foldl (collectStep showTraces) acc).1.1.traces = acc.1.1.traces ++ fresh ∧
      newsIn (events.foldl (collectStep showTraces) acc).1.2.reverse =
        newsIn acc.1.2.reverse ++ newsOf showTraces fresh := by
  induction events generalizing acc with
  | nil => exact ⟨[], (List.append_nil _).symm, by cases showTraces <;> exact (List.append_nil _).symm⟩
  | cons e events ih =>
    obtain ⟨fresh, htraces, hnews⟩ := take_news showTraces acc.1 e
    obtain ⟨later, htraces', hnews'⟩ := ih (collectStep showTraces acc e)
    refine ⟨fresh ++ later, ?_, ?_⟩
    · rw [List.foldl_cons, htraces', ← List.append_assoc, ← htraces]
      rfl
    · rw [List.foldl_cons, hnews', newsOf_append, ← List.append_assoc, ← hnews]
      rfl

/-- A source without traces tells those that it collects. -/
theorem collect_news (h : s.traces = []) (window : Option DepthWindow) (showTraces : Bool) :
    newsIn (s.collect window showTraces).2.1.reverse = newsOf showTraces (s.collect window showTraces).1.traces := by
  rw [collect_eq]
  obtain ⟨fresh, htraces, hnews⟩ := foldl_news showTraces
    (Enumeration.traceEvents (s.graph.getD .empty) window).toList ((s, []), {})
  rw [h, List.nil_append] at htraces
  dsimp only
  rw [hnews, htraces]
  rfl

theorem telling_news (h : s.traces = []) (window : Option DepthWindow) (showTraces : Bool) :
    newsIn (s.telling window showTraces) = newsOf showTraces (s.collect window showTraces).1.traces := by
  have hcounted : newsHead.toList.isPrefixOf
      s!"Generated {(s.collect window showTraces).1.traces.length} traces".toList = false := by
    rw [show s!"Generated {(s.collect window showTraces).1.traces.length} traces" =
      "Generated " ++ (toString (s.collect window showTraces).1.traces.length ++ " traces") from String.append_assoc ..,
      String.toList_append]
    rfl
  have hstart : newsIn [s.notice .generateCombinations .info "Generating combinations"] = [] :=
    newsIn_other _ _ (by decide +kernel)
  have htotal := newsIn_other (s := s) .generateCombinations .info hcounted
  -- the record for the log between them is no notice
  obtain ⟨counted, htelling⟩ : ∃ counted, s.telling window showTraces =
      [s.notice .generateCombinations .info "Generating combinations"] ++
        ((s.collect window showTraces).2.1.reverse ++ ([.log counted] ++
          [s.notice .generateCombinations .info
            s!"Generated {(s.collect window showTraces).1.traces.length} traces"])) := ⟨_, rfl⟩
  rw [htelling, newsIn_append, hstart, List.nil_append, newsIn_append, newsIn_append, htotal, collect_news h]
  exact List.append_nil _

/-! ## What a call tells -/

/-- Parsing tells no news. -/
theorem parse_news (s : Source) (d : Disk) : newsIn (s.parse d).entries = [] := by
  have hstart : newsIn [s.notice .parseFile .info "Parsing file"] = [] := newsIn_other _ _ (by decide +kernel)
  have hwarning : newsIn [s.notice .parseFile .warning "Graph has no vertices"] = [] :=
    newsIn_other _ _ (by decide +kernel)
  have hfailure : ∀ r, newsIn [s.failure .parseFile "Failed to parse file" r] = [] := fun r => by
    simp [newsIn, news, failure, Entry.notice?, Notice.isNews]
  refine newsIn_eq_nil ?_
  unfold parse
  split
  · simp [hstart]
  · simp [hstart, hfailure]
  · split
    · simp [hstart, hfailure]
    · dsimp only
      split <;> simp [hstart, hwarning]

/-- Generating tells every line that it keeps. -/
theorem generate_news {bounds : Option Bounds} (hbounds : Admitted bounds) (h : s.traces = []) (showTraces : Bool)
    (d : Disk) : newsIn (s.generate bounds showTraces d).entries =
      newsOf showTraces (s.collect (windowOf bounds) showTraces).1.traces := by
  have hfailure : ∀ r, newsIn [s.failure .generateCombinations "Failed to write traces" r] = [] := fun r => by
    simp [newsIn, news, failure, Entry.notice?, Notice.isNews]
  rw [← telling_news h, generate_admitted showTraces hbounds]
  split
  · rw [newsIn_append, newsIn_log, List.append_nil]
  · rw [newsIn_append, hfailure, List.append_nil]
  · rfl

end Source

section Call

variable {p : Pipeline} {path : FilePath} {g : AtomGraph} {d : Disk}

/-- A new source whose graph is accepted is told about by both phases, one after the other. -/
theorem tells_accepted (hgraph : (p.source path).Accepted d g) : p.tells (p.source path) d =
    ((p.source path).parse d).entries.filterMap Entry.notice? ++
      ((p.parsed path g).generate p.bounds p.showTraces d).entries.filterMap Entry.notice? := by
  have hdoes : (p.apply .parseFile (p.source path) d).Does path.text d { p.source path with graph := some g } [] :=
    Source.parse_accepted hgraph
  have hquiet : (p.apply .parseFile (p.source path) d).Quiet (p.source path).text :=
    ⟨hdoes.crash_eq, hdoes.errors_eq⟩
  have hsource : (p.execute .parseFile (p.source path) { disk := d }).2.1 = p.parsed path g := by
    rw [execute_eq p _ (not_completed_source .parseFile)]
    dsimp only
    rw [hdoes.crash_eq, hdoes.source_eq]
    rfl
  have hdisk : (p.execute .parseFile (p.source path) { disk := d }).1.disk = d := by
    rw [execute_eq p _ (not_completed_source .parseFile)]
    exact hdoes.disk_eq
  rw [tells, call, process_eq, Phase.all, advance_cons p _ _ (not_completed_source .parseFile), if_pos hquiet, hsource,
    advance_singleton p _ not_completed_parsed, execute_eq p _ not_completed_parsed, hdisk,
    execute_eq p _ (not_completed_source .parseFile)]
  rfl

/-- With traces shown, the news of a call are the lines of the graph, in order. -/
theorem news_tells (hgraph : (p.source path).Accepted d g) (hbounds : Admitted p.bounds) :
    news (p.tells (p.source path) d) = newsOf p.showTraces (Source.distinctLines g (windowOf p.bounds)) := by
  have hparse := Source.parse_news (p.source path) d
  have hgenerate := Source.generate_news (s := p.parsed path g) hbounds rfl p.showTraces d
  rw [Source.collect_source (s := p.parsed path g) rfl] at hgenerate
  rw [tells_accepted hgraph, news, List.filter_append, List.map_append]
  refine (congrArg₂ (· ++ ·) hparse hgenerate).trans ?_
  exact List.nil_append _

end Call

end StateTraces.Pipeline
