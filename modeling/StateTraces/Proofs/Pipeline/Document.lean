import StateTraces.Proofs.Json.Layout
import StateTraces.Proofs.Pipeline.Found

/-
Outcomes as parts of a document. A report that a phase makes has its own fields only, so what is said about
an outcome has no key twice and no floating-point value, and can be read back from its text.
-/

namespace StateTraces

open Json (Plain)

/-! ## Plain values -/

theorem Json.plain_ofText? (s : Option String) : Plain (.ofText? s) := by
  cases s
  · exact .null
  · exact .str _

theorem Json.plain_texts (texts : List String) : Plain (.arr (texts.map .str)) :=
  .arr fun j hj => by
    obtain ⟨s, -, rfl⟩ := List.mem_map.1 hj
    exact .str s

/-- Rows with these names, some of which may be missing. -/
theorem Json.plain_rows {rows : List (Option (String × Json))} {names : List String}
    (h : List.Forall₂ (fun row name => ∀ r ∈ row, r.1 = name ∧ Plain r.2) rows names) (hnames : names.Nodup) :
    Plain (.obj (rows.filterMap id)) := by
  have hrows : (Table.keys (rows.filterMap id)).Sublist names ∧ ∀ r ∈ rows.filterMap id, Plain r.2 := by
    clear hnames
    induction h with
    | nil => exact ⟨.slnil, fun _ hr => by cases hr⟩
    | @cons row name rows names hrow _ ih =>
      cases row with
      | none => exact ⟨ih.1.cons name, ih.2⟩
      | some r =>
        obtain ⟨rfl, hvalue⟩ := hrow r rfl
        exact ⟨ih.1.cons_cons r.1, List.forall_mem_cons.2 ⟨hvalue, ih.2⟩⟩
  exact .obj (hrows.1.nodup hnames) hrows.2

theorem Report.Context.plain_toJson {c : Report.Context} (h : c.extra = []) : Plain c.toJson := by
  have htext : ∀ (name : String) (s : Option String), ∀ r ∈ s.map fun s => (name, Json.str s),
      r.1 = name ∧ Plain r.2 := by
    rintro name (_ | s) r ⟨⟩
    exact ⟨rfl, .str s⟩
  have hnumber : ∀ (name : String) (n : Option Int), ∀ r ∈ n.map fun n => (name, Json.int n),
      r.1 = name ∧ Plain r.2 := by
    rintro name (_ | n) r ⟨⟩
    exact ⟨rfl, .int n⟩
  have hextra : ∀ r ∈ some ("extra", Json.obj c.extra), r.1 = "extra" ∧ Plain r.2 := by
    rintro r ⟨⟩
    rw [h]
    exact ⟨rfl, .obj List.nodup_nil fun _ hm => by cases hm⟩
  exact Json.plain_rows (.cons (htext _ _) (.cons (htext _ _) (.cons (hnumber _ _) (.cons (hnumber _ _)
    (.cons hextra .nil))))) (by decide)

theorem Report.plain_toJson {r : Report} (h : r.context.extra = []) : Plain r.toJson := by
  refine .obj (by simp [Table.keys]) ?_
  simp only [List.forall_mem_cons]
  exact ⟨.str _, .str _, .str _, Json.plain_texts _, Report.Context.plain_toJson h, Json.plain_ofText? _,
    fun _ hm => by cases hm⟩

namespace Pipeline

open Files (Disk FilePath)

/-! ## Reports of phases -/

/-- The report behind the notice, if there is one, has nothing but its own fields. -/
def Notice.Regular (n : Notice) : Prop := ∀ r ∈ n.report, r.context.extra = []

/-- A notice among what a phase tells is regular. -/
def Entry.Regular : Entry → Prop
  | .notice n => n.Regular
  | .log _ => True

theorem Notice.plain_toJson {n : Notice} (h : n.Regular) : Plain n.toJson := by
  have herror : ∀ m ∈ n.report.toList.map fun r => ("error", r.toJson), Plain m.2 := by
    intro m hm
    obtain ⟨r, hr, rfl⟩ := List.mem_map.1 hm
    exact Report.plain_toJson (h r (Option.mem_toList.1 hr))
  refine .obj ?_ (List.forall_mem_append.2 ⟨?_, herror⟩)
  · cases n.report <;> simp [Table.keys]
  · simp only [List.forall_mem_cons]
    exact ⟨.str _, .str _, .str _, .str _, fun _ hm => by cases hm⟩

theorem Outcome.plain_members {o : Outcome} (h : ∀ n ∈ o.errors, n.Regular) (showTraces : Bool) :
    Plain (.obj (o.members showTraces)) := by
  have herrors : Plain (.arr (o.errors.map Notice.toJson)) := .arr fun j hj => by
    obtain ⟨n, hn, rfl⟩ := List.mem_map.1 hj
    exact Notice.plain_toJson (h n hn)
  cases showTraces with
  | false =>
    refine .obj (by simp [Outcome.members, Table.keys]) ?_
    simp only [Outcome.members, Bool.false_eq_true, if_false, List.cons_append, List.nil_append, List.append_nil,
      List.forall_mem_cons]
    exact ⟨.str _, .int _, Json.plain_ofText? _, herrors, fun _ hm => by cases hm⟩
  | true =>
    refine .obj (by simp [Outcome.members, Table.keys]) ?_
    simp only [Outcome.members, if_true, List.cons_append, List.nil_append, List.forall_mem_cons]
    exact ⟨.str _, .int _, Json.plain_ofText? _, Json.plain_texts _, herrors, fun _ hm => by cases hm⟩

namespace Source

variable {s : Source} {d : Disk} {r : Report}

@[simp] theorem log_regular (record : Log.Record) : (Entry.log record).Regular := trivial

@[simp] theorem notice_regular (phase : Phase) (severity : Severity) (text : String) :
    (s.notice phase severity text).Regular := fun _ hr => by cases hr

theorem failure_regular (phase : Phase) (what : String) (h : r.context.extra = []) :
    (s.failure phase what r).Regular := by
  rintro r ⟨⟩
  exact h

theorem readText_regular (h : s.readText d = .error (.reported r)) : r.context.extra = [] := by
  unfold readText at h
  split at h
  · cases h
  · cases h
    rfl
  · rename_i content _
    cases hlines : content.lines? <;> rw [hlines] at h <;> cases h

theorem write_regular (h : s.write d = .error (.reported r)) : r.context.extra = [] := by
  unfold write at h
  split at h
  · cases h
  · split at h
    · cases h
    · cases h
    · cases h
      rfl

theorem resolve_regular {bounds : Option Bounds} (h : bounds.mapM Bounds.resolve = .error (.reported r)) :
    r.context.extra = [] := by
  match bounds, h with
  | some (.raw minimum maximum), h =>
    cases hbounds : DepthWindow.ofBounds minimum maximum with
    | ok window =>
      simp only [Option.mapM_some, Bounds.resolve, hbounds] at h
      cases h
    | error refusal =>
      simp only [Option.mapM_some, Bounds.resolve, hbounds] at h
      cases refusal with
      | negative => cases h; rfl
      | reversed | loneBound | unwritable => cases h

theorem parse_regular : ∀ e ∈ (s.parse d).entries, e.Regular := by
  unfold parse
  split
  · simp
  · rename_i r hread
    simp [failure_regular _ _ (readText_regular hread)]
  · split
    · rename_i fault _
      have hfault : (fault.report s.text).context.extra = [] := rfl
      simp [failure_regular _ _ hfault]
    · dsimp only
      split <;> simp

theorem generate_regular {bounds : Option Bounds} (showTraces : Bool) :
    ∀ e ∈ (s.generate bounds showTraces d).entries, e.Regular := by
  obtain ⟨minimum, maximum, hrefused⟩ | hoverlong | hbounds := refused_overlong_or_admitted bounds
  · obtain ⟨r, hresolve, -⟩ := resolve_refused hrefused
    simp [generate, hresolve, failure_regular _ _ (resolve_regular hresolve)]
  · simp [generate_overlong showTraces hoverlong]
  · have htelling : ∀ e ∈ s.telling (windowOf bounds) showTraces, e.Regular :=
      telling_told showTraces (fun _ => trivial) (fun _ => notice_regular _ _ _) _
    rw [generate_admitted showTraces hbounds]
    split
    · simpa [or_imp, forall_and] using htelling
    · rename_i r hwrite
      simpa [or_imp, forall_and, failure_regular _ _ (write_regular hwrite)] using htelling
    · exact htelling

end Source

/-! ## Notices of calls -/

variable {p : Pipeline} {s : Source} {d : Disk} {n : Notice}

theorem apply_regular (phase : Phase) : ∀ e ∈ (p.apply phase s d).entries, e.Regular := by
  cases phase with
  | parseFile => exact Source.parse_regular
  | generateCombinations => exact Source.generate_regular p.showTraces

theorem execute_regular {phase : Phase} {before : Session} (h : phase ∉ s.completed)
    (hn : n ∈ (p.execute phase s before).1.notices) : n ∈ before.notices ∨ n.Regular :=
  (mem_notices_execute p phase s before h hn).imp_right (apply_regular phase _)

theorem advance_regular {phases : List Phase} {before : Session} (h : n ∈ (p.advance s before phases).1.notices) :
    n ∈ before.notices ∨ n.Regular := by
  induction phases generalizing s before with
  | nil => exact .inl h
  | cons phase phases ih =>
    by_cases hphase : phase ∈ s.completed
    · rw [advance_skip p phases before hphase] at h
      exact ih h
    · rw [advance_cons p phases before hphase] at h
      split at h
      · exact (ih h).elim (execute_regular hphase) .inr
      · exact execute_regular hphase h

/-- The notices of a call are regular. -/
theorem tells_regular (h : n ∈ p.tells s d) : n.Regular := by
  rw [tells, call, process_eq] at h
  exact (advance_regular h).resolve_left List.not_mem_nil

/-- What is said about a source that was found can be read back. -/
theorem Comes.plain_members {path : FilePath} {o : Outcome} (h : p.Comes d path o) (showTraces : Bool) :
    Plain (.obj (o.members showTraces)) :=
  Outcome.plain_members (fun _ hn => tells_regular (List.mem_of_mem_filter (h.errors_eq ▸ hn))) showTraces

end Pipeline

end StateTraces
