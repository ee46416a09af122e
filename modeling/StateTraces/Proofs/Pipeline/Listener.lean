import StateTraces.Proofs.Pipeline.Process

/-
What was told before. The listener keeps everything that it is told, but no phase asks it: a call does
to a source and to the tree what it would do with a new listener, and what it tells is put behind what
was told before. Only the outcome looks back, as it lists every error about the source.
-/

namespace StateTraces.Pipeline

open Files (Disk FilePath)

/-! ## Sessions one after another -/

namespace Session

/-- The second session as the continuation of the first: its tree, and what was told in both. -/
def followedBy (past now : Session) : Session :=
  { disk := now.disk, notices := past.notices ++ now.notices, log := past.log ++ now.log }

variable (past now : Session)

theorem followedBy_new : past.followedBy { disk := past.disk } = past := by
  simp [followedBy]

theorem tell_followedBy (context : Table String Json) (entries : List Entry) :
    (past.followedBy now).tell context entries = past.followedBy (now.tell context entries) := by
  simp [followedBy, tell]

theorem errorsFor_followedBy (source : String) :
    (past.followedBy now).errorsFor source = past.errorsFor source ++ now.errorsFor source :=
  errorsFor_append ..

end Session

/-! ## Phases and earlier notices -/

section Past

variable (p : Pipeline) (past : Session)

theorem execute_followedBy (phase : Phase) (s : Source) (now : Session) :
    p.execute phase s (past.followedBy now) =
      (past.followedBy (p.execute phase s now).1, (p.execute phase s now).2) := by
  unfold execute
  split
  · simp only [Session.tell_followedBy]
  · simp only [← Session.tell_followedBy]
    rfl

theorem advance_followedBy (phases : List Phase) (s : Source) (now : Session) :
    p.advance s (past.followedBy now) phases =
      (past.followedBy (p.advance s now phases).1, (p.advance s now phases).2) := by
  induction phases generalizing s now with
  | nil => rfl
  | cons phase phases ih =>
    by_cases hphase : phase ∈ s.completed
    · rw [advance_skip p phases _ hphase, advance_skip p phases _ hphase]
      exact ih s now
    · -- only the errors of the phase itself stop the call
      rw [advance_cons p phases _ hphase, advance_cons p phases now hphase, execute_followedBy,
        show (past.followedBy now).disk = now.disk from rfl]
      split
      · exact ih _ _
      · rfl

end Past

/-! ## Calls with a new listener -/

/-- A call with a new listener. -/
def call (p : Pipeline) (s : Source) (d : Disk) : Session × Source × Except Crash Outcome :=
  p.process s { disk := d }

/-- What a call tells. -/
def tells (p : Pipeline) (s : Source) (d : Disk) : List Notice := (p.call s d).1.notices

section Call

variable (p : Pipeline) (s : Source) (before : Session)

theorem process_eq : p.process s before =
    let r := p.advance s before Phase.all
    (r.1, r.2.1, r.2.2.elim (outcome r.2.1 r.1) .error) := by
  unfold process
  generalize p.advance s before Phase.all = r
  obtain ⟨after, src, _ | crash⟩ := r <;> rfl

theorem advance_eq_call (phases : List Phase) : p.advance s before phases =
    (before.followedBy (p.advance s { disk := before.disk } phases).1,
      (p.advance s { disk := before.disk } phases).2) := by
  rw [← advance_followedBy, Session.followedBy_new]

theorem process_session : (p.process s before).1 = before.followedBy (p.call s before.disk).1 := by
  rw [call, process_eq, process_eq, advance_eq_call]

theorem process_source : (p.process s before).2.1 = (p.call s before.disk).2.1 := by
  rw [call, process_eq, process_eq, advance_eq_call]

end Call

/-! ## What stays -/

section Keeps

variable (p : Pipeline) (phase : Phase) (phases : List Phase) (s : Source) (before : Session) (d : Disk)

theorem apply_kin : s.Kin (p.apply phase s d).source := by
  cases phase with
  | parseFile => exact Source.parse_kin
  | generateCombinations => exact Source.generate_kin p.showTraces

theorem apply_from : ∀ e ∈ (p.apply phase s d).entries, e.From phase s.text := by
  cases phase with
  | parseFile => exact Source.parse_from
  | generateCombinations => exact Source.generate_from p.showTraces

theorem apply_withTexts : d.WithTexts (p.apply phase s d).disk := by
  cases phase with
  | parseFile =>
    rw [show (p.apply .parseFile s d).disk = d from Source.parse_disk]
    exact .refl d
  | generateCombinations => exact Source.generate_withTexts p.showTraces

theorem complete_names : (s.complete phase).path = s.path ∧ (s.complete phase).suffix = s.suffix := by
  unfold Source.complete
  split <;> exact ⟨rfl, rfl⟩

/-- Which phases are done after a phase is executed. -/
theorem execute_completed (h : phase ∉ s.completed) : (p.execute phase s before).2.1.completed =
    if (p.apply phase s before.disk).crash.isNone then s.completed ++ [phase] else s.completed := by
  have hcompleted := (apply_kin p phase s before.disk).completed_eq
  rw [execute_eq p before h]
  dsimp only
  split
  · rw [Source.complete, hcompleted, if_neg h]
  · exact hcompleted

/-- Executing a phase leaves the names of the source alone, and every phase that is done. -/
theorem execute_keeps (h : phase ∉ s.completed) : (p.execute phase s before).2.1.path = s.path ∧
    (p.execute phase s before).2.1.suffix = s.suffix ∧
      ∀ other ∈ s.completed, other ∈ (p.execute phase s before).2.1.completed := by
  have hkin := apply_kin p phase s before.disk
  refine ⟨?_, ?_, fun other hother => ?_⟩
  · rw [execute_eq p before h, apply_ite Source.path, (complete_names _ _).1, ite_self, hkin.path_eq]
  · rw [execute_eq p before h, apply_ite Source.suffix, (complete_names _ _).2, ite_self, hkin.suffix_eq]
  · rw [execute_completed p phase s before h]
    split
    · exact List.mem_append_left _ hother
    · exact hother

theorem execute_withTexts (h : phase ∉ s.completed) : before.disk.WithTexts (p.execute phase s before).1.disk := by
  rw [execute_eq p before h]
  exact apply_withTexts p phase s before.disk

/-- What is told after a phase is executed was told before, or the phase tells it. -/
theorem mem_notices_execute {n : Notice} (h : phase ∉ s.completed) (hn : n ∈ (p.execute phase s before).1.notices) :
    n ∈ before.notices ∨ .notice n ∈ (p.apply phase s before.disk).entries := by
  rw [execute_eq p before h] at hn
  refine (List.mem_append.1 hn).imp_right fun hn => ?_
  obtain ⟨e, he, hnotice⟩ := List.mem_filterMap.1 hn
  cases e with
  | log r => cases hnotice
  | notice m =>
    cases hnotice
    exact he

theorem execute_notices {n : Notice} (h : phase ∉ s.completed) (hn : n ∈ (p.execute phase s before).1.notices) :
    n ∈ before.notices ∨ n.phase = phase.name ∧ n.source = s.text :=
  (mem_notices_execute p phase s before h hn).imp_right (apply_from p phase s before.disk _)

theorem advance_keeps : (p.advance s before phases).2.1.path = s.path ∧
    (p.advance s before phases).2.1.suffix = s.suffix ∧
      ∀ other ∈ s.completed, other ∈ (p.advance s before phases).2.1.completed := by
  induction phases generalizing s before with
  | nil => exact ⟨rfl, rfl, fun _ => id⟩
  | cons phase phases ih =>
    by_cases hphase : phase ∈ s.completed
    · rw [advance_skip p phases before hphase]
      exact ih s before
    · have hexecute := execute_keeps p phase s before hphase
      rw [advance_cons p phases before hphase]
      split
      · obtain ⟨hpath, hsuffix, hcompleted⟩ := hexecute
        obtain ⟨hpath', hsuffix', hcompleted'⟩ := ih (p.execute phase s before).2.1 (p.execute phase s before).1
        exact ⟨hpath'.trans hpath, hsuffix'.trans hsuffix, fun other h => hcompleted' other (hcompleted other h)⟩
      · exact hexecute

/-- The tree changes by texts that are written. -/
theorem advance_withTexts : before.disk.WithTexts (p.advance s before phases).1.disk := by
  induction phases generalizing s before with
  | nil => exact .refl before.disk
  | cons phase phases ih =>
    by_cases hphase : phase ∈ s.completed
    · rw [advance_skip p phases before hphase]
      exact ih s before
    · have hexecute := execute_withTexts p phase s before hphase
      rw [advance_cons p phases before hphase]
      split
      · exact hexecute.trans (ih _ _)
      · exact hexecute

/-- Only the given phases tell anything, those that are not done, and only about the source. -/
theorem advance_notices {n : Notice} (h : n ∈ (p.advance s before phases).1.notices) : n ∈ before.notices ∨
    n.source = s.text ∧ ∃ phase ∈ phases, phase ∉ s.completed ∧ n.phase = phase.name := by
  induction phases generalizing s before with
  | nil => exact .inl h
  | cons phase phases ih =>
    by_cases hphase : phase ∈ s.completed
    · rw [advance_skip p phases before hphase] at h
      obtain h | ⟨hsource, other, hmem, hother⟩ := ih s before h
      · exact .inl h
      · exact .inr ⟨hsource, other, List.mem_cons_of_mem _ hmem, hother⟩
    · obtain ⟨hpath, -, hcompleted⟩ := execute_keeps p phase s before hphase
      have htold : n ∈ (p.execute phase s before).1.notices → n ∈ before.notices ∨
          n.source = s.text ∧ ∃ other ∈ phase :: phases, other ∉ s.completed ∧ n.phase = other.name := by
        intro h
        obtain h | ⟨hname, hsource⟩ := execute_notices p phase s before hphase h
        · exact .inl h
        · exact .inr ⟨hsource, phase, List.mem_cons_self, hphase, hname⟩
      rw [advance_cons p phases before hphase] at h
      split at h
      · obtain h | ⟨hsource, other, hmem, hother, hname⟩ := ih _ _ h
        · exact htold h
        · rw [Source.text, hpath] at hsource
          exact .inr ⟨hsource, other, List.mem_cons_of_mem _ hmem, fun h => hother (hcompleted other h), hname⟩
      · exact htold h

theorem process_withTexts : before.disk.WithTexts (p.process s before).1.disk := by
  rw [process_eq]
  exact advance_withTexts p Phase.all s before

theorem call_source_text : (p.call s d).2.1.text = s.text := by
  rw [call, process_eq]
  exact congrArg FilePath.text (advance_keeps p Phase.all s _).1

end Keeps

/-! ## Outcomes and earlier errors -/

section Outcomes

variable {p : Pipeline} {s src : Source} {before after : Session} {o : Outcome}

theorem outcome_ok (h : outcome src after = .ok o) :
    o.path = src.path ∧ o.traces = src.traces ∧ o.errors = after.errorsFor src.text := by
  unfold outcome at h
  dsimp only at h
  split at h
  · cases htarget : (src.tracesPath.mapError Crash.unnameable).map some with
    | error crash => rw [htarget] at h; cases h
    | ok target => rw [htarget] at h; cases h; exact ⟨rfl, rfl, rfl⟩
  · cases h; exact ⟨rfl, rfl, rfl⟩

theorem outcome_of_errors_ne_nil (h : after.errorsFor src.text ≠ []) : outcome src after =
    .ok { path := src.path, traces := src.traces, tracesPath := none, errors := after.errorsFor src.text } := by
  simp [outcome, h, pure, Except.pure, bind, Except.bind]

theorem outcome_congr (h : before.errorsFor src.text = after.errorsFor src.text) :
    outcome src before = outcome src after := by
  unfold outcome
  rw [h]

/-- The outcome lists every error about the source, those of the call last. -/
theorem process_ok (h : (p.process s before).2.2 = .ok o) : o.path = s.path ∧
    o.traces = (p.call s before.disk).2.1.traces ∧
      o.errors = before.errorsFor s.text ++ errorsFor s.text (p.tells s before.disk) := by
  have hsession := process_session p s before
  have hsource := process_source p s before
  have htext := call_source_text p s before.disk
  rw [← hsource] at htext ⊢
  rw [process_eq] at h hsession htext ⊢
  dsimp only at h hsession htext ⊢
  cases hcrash : (p.advance s before Phase.all).2.2 with
  | some crash => rw [hcrash] at h; cases h
  | none =>
    rw [hcrash] at h
    obtain ⟨hpath, htraces, herrors⟩ := outcome_ok h
    rw [hsession, htext, Session.errorsFor_followedBy] at herrors
    exact ⟨hpath.trans (advance_keeps p Phase.all s before).1, htraces, herrors⟩

/-- Without earlier errors about the source a call ends as with a new listener. -/
theorem process_quiet (h : before.errorsFor s.text = []) :
    (p.process s before).2.2 = (p.call s before.disk).2.2 := by
  have htext := call_source_text p s before.disk
  rw [call, process_eq] at htext ⊢
  rw [process_eq, advance_eq_call]
  dsimp only at htext ⊢
  refine congrArg (fun answer => Option.elim _ answer Except.error) (outcome_congr ?_)
  rw [htext, Session.errorsFor_followedBy, h, List.nil_append]

/-- Earlier errors about the source come first in the outcome, and the traces file is left out. -/
theorem process_loud (h : before.errorsFor s.text ≠ []) (ho : (p.call s before.disk).2.2 = .ok o) :
    (p.process s before).2.2 = .ok { o with errors := before.errorsFor s.text ++ o.errors, tracesPath := none } := by
  have htext := call_source_text p s before.disk
  rw [call, process_eq] at ho htext
  rw [process_eq, advance_eq_call]
  dsimp only at ho htext ⊢
  cases hcrash : (p.advance s { disk := before.disk } Phase.all).2.2 with
  | some crash => rw [hcrash] at ho; cases ho
  | none =>
    rw [hcrash] at ho
    obtain ⟨hpath, htraces, herrors⟩ := outcome_ok ho
    rw [htext] at herrors
    refine (outcome_of_errors_ne_nil ?_).trans ?_
    · rw [htext, Session.errorsFor_followedBy]
      exact List.append_ne_nil_of_left_ne_nil h _
    · rw [htext, Session.errorsFor_followedBy, ← herrors, ← hpath, ← htraces]

end Outcomes

end StateTraces.Pipeline
