import StateTraces.Enumeration.Enumerator
import StateTraces.Proofs.Enumeration.Branch

/-
Enumerations that are stopped. A suspended search has certain events still before it, which are those of the
search that it is suspended in; each of its steps takes off the first of them, or none. So wherever an
iteration is stopped, and whatever a consumer raises, the results handed out are the first ones and the
counts are those of the events up to there. Leaving a branch takes its label off again, so a search that is
closed has no labels left.
-/

namespace StateTraces.Enumeration

variable {V L : Type} [DecidableEq V] {mode : Mode}

/-! ## What is before a search -/

section Pending

variable (g : Graph V L) (window : Option DepthWindow)

/-- What happens from the expansion of a vertex on. -/
def below (labels : List L) (v : V) (fresh : List V) (depth : Nat) :
    (mode : Mode) → mode.Branch V L → List (Event V (mode.Result V L))
  | .traces, _ => (traces g window v fresh labels depth).toList
  | .subgraphs, branch => (subgraphs g window v fresh branch depth).toList

/-- What happens from a step at a vertex on. -/
def ahead {bound : Nat} (v : V) (depth : Nat) (labels : List L) :
    (mode : Mode) → mode.Branch V L → Step V L bound → List (Event V (mode.Result V L))
  | .traces, _, .choose _ => [.choose]
  | .traces, _, .enter _ target label fresh _ =>
    (report window depth (labels ++ [label])).toList ++
      (traces g window target fresh (labels ++ [label]) (depth + 1)).toList
  | .subgraphs, branch, .choose chosen => .choose :: (report window depth (branch.addEdges v chosen)).toList
  | .subgraphs, branch, .enter chosen target _ fresh _ =>
    (subgraphs g window target fresh (branch.addEdges v chosen) (depth + 1)).toList

/-- What happens while a task is done. -/
def Task.pending (labels : List L) : Task V L (mode.Branch V L) → List (Event V (mode.Result V L))
  | .expand v fresh branch depth => below g window labels v fresh depth mode branch
  | .follow v branch depth left => left.toList.flatMap (ahead g window v depth labels mode branch)
  | .hand branch depth => (report window depth (mode.found labels branch)).toList
  | .leave => []

/-- What happens while tasks are done, one after another. -/
def pendingTasks (labels : List L) : List (Task V L (mode.Branch V L)) → List (Event V (mode.Result V L))
  | [] => []
  | task :: tasks => task.pending g window labels ++ pendingTasks (task.unwind labels) tasks

/-- What happens while a vertex is the root. -/
def rootEvents (mode : Mode) (root : V) : List (Event V (mode.Result V L)) :=
  .root root (g.outDegree root) :: below g window [] root (g.vertices.filter (· ≠ root)) 1 mode mode.start

/-- What happens until a search ends. -/
def Search.pending (s : Search V L (mode.Branch V L)) : List (Event V (mode.Result V L)) :=
  pendingTasks g window s.labels s.tasks ++ s.roots.flatMap (rootEvents g window mode)

theorem below_eq (labels : List L) (v : V) (fresh : List V) (depth : Nat) (branch : mode.Branch V L) :
    below g window labels v fresh depth mode branch =
      if within window depth then
        .expand depth :: (steps (g.outEdges v) fresh).toList.flatMap (ahead g window v depth labels mode branch)
      else [] := by
  cases mode with
  | traces =>
    rw [below, traces]
    split
    · rw [Feed.toList_next, Feed.toList_flatMap]
      congr 2
      funext s
      cases s <;> simp [ahead]
    · rfl
  | subgraphs =>
    rw [below, subgraphs]
    split
    · rw [Feed.toList_next, Feed.toList_flatMap]
      congr 2
      funext s
      cases s <;> rfl
    · rfl

theorem pendingTasks_append (labels : List L) (tasks rest : List (Task V L (mode.Branch V L))) :
    pendingTasks g window labels (tasks ++ rest) =
      pendingTasks g window labels tasks ++ pendingTasks g window (tasks.foldl Task.unwind labels) rest := by
  induction tasks generalizing labels with
  | nil => rfl
  | cons task tasks ih => rw [List.cons_append, pendingTasks, ih, pendingTasks, List.append_assoc, List.foldl_cons]

/-- All that is to be done after a step at a vertex leaves the labels as they were before it. -/
theorem unwind_follow {bound : Nat} (v : V) (depth : Nat) (labels : List L) (branch : mode.Branch V L)
    (s : Step V L bound) :
    (mode.follow v depth labels branch s).tasks.foldl Task.unwind (mode.follow v depth labels branch s).labels =
      labels := by
  cases mode <;> cases s <;> simp [Mode.follow, Task.unwind]

/-- All that is to be done after a task leaves the labels as the task itself does. -/
theorem unwind_perform (labels : List L) (task : Task V L (mode.Branch V L)) :
    (task.perform g window labels).tasks.foldl Task.unwind (task.perform g window labels).labels =
      task.unwind labels := by
  cases task with
  | expand v fresh branch depth =>
    rw [Task.perform]
    split <;> rfl
  | follow v branch depth left =>
    cases left with
    | done => rfl
    | next s rest =>
      simp only [Task.perform, List.foldl_append, unwind_follow]
      rfl
  | hand branch depth => rfl
  | leave => rfl

/-- A step at a vertex is its event and what is to be done then. -/
theorem ahead_eq {bound : Nat} (v : V) (depth : Nat) (labels : List L) (branch : mode.Branch V L)
    (s : Step V L bound) :
    ahead g window v depth labels mode branch s =
      (mode.follow v depth labels branch s).event?.toList ++
        pendingTasks g window (mode.follow v depth labels branch s).labels
          (mode.follow v depth labels branch s).tasks := by
  cases mode <;> cases s <;>
    simp [ahead, Mode.follow, pendingTasks, Task.pending, Task.unwind, below, Mode.found]

/-- A task is its event and what is to be done then. -/
theorem pending_perform (labels : List L) (task : Task V L (mode.Branch V L)) :
    task.pending g window labels =
      (task.perform g window labels).event?.toList ++
        pendingTasks g window (task.perform g window labels).labels (task.perform g window labels).tasks := by
  cases task with
  | expand v fresh branch depth =>
    rw [Task.pending, below_eq, Task.perform]
    split
    · simp [pendingTasks, Task.pending]
    · rfl
  | follow v branch depth left =>
    cases left with
    | done => rfl
    | next s rest =>
      simp only [Task.pending, Task.perform, Feed.toList_next, List.flatMap_cons, pendingTasks_append,
        unwind_follow, pendingTasks, List.append_nil, ahead_eq g window v depth labels branch s, List.append_assoc]
  | hand branch depth =>
    simp only [Task.pending, Task.perform, report, pendingTasks, List.append_nil]
    split <;> rfl
  | leave => rfl

/-! ## Steps -/

variable {g window} {s s' : Search V L (mode.Branch V L)}

theorem pending_of_ended (h : s.step g window = none) : s.pending g window = [] := by
  obtain ⟨roots, labels, tasks⟩ := s
  cases tasks with
  | cons task tasks => cases h
  | nil =>
    cases roots with
    | cons root roots => cases h
    | nil => rfl

/-- A step takes the first of the events that are before a search, or none. -/
theorem pending_step {event? : Option (Event V (mode.Result V L))} (h : s.step g window = some (event?, s')) :
    s.pending g window = event?.toList ++ s'.pending g window := by
  obtain ⟨roots, labels, tasks⟩ := s
  cases tasks with
  | cons task tasks =>
    cases h
    simp only [Search.pending, pendingTasks, pending_perform g window labels task, pendingTasks_append, unwind_perform,
      List.append_assoc]
  | nil =>
    cases roots with
    | cons root roots =>
      cases h
      simp [Search.pending, pendingTasks, Task.pending, rootEvents]
    | nil => cases h

/-- A step keeps to what is closed without labels. -/
theorem close_step {event? : Option (Event V (mode.Result V L))} (h : s.step g window = some (event?, s'))
    (hs : s.close = ⟨[], [], []⟩) : s'.close = ⟨[], [], []⟩ := by
  obtain ⟨roots, labels, tasks⟩ := s
  cases tasks with
  | cons task tasks =>
    cases h
    simp only [Search.close, List.foldl_append, unwind_perform]
    exact hs
  | nil =>
    cases roots with
    | cons root roots => cases h; rfl
    | nil => cases h

end Pending

/-! ## Events up to a result -/

section Events

variable {V R : Type}

/-- The results among some events. -/
def handed (l : List (Event V R)) : List R := l.filterMap Event.value?

/-- The events up to and with the `n`th result; all of them if there are fewer. -/
def upToResult : Nat → List (Event V R) → List (Event V R)
  | 0, _ => []
  | _ + 1, [] => []
  | n + 1, e :: l => e :: upToResult (if e.isResult then n else n + 1) l

/-- The first result, the events up to it, and those behind it. -/
def firstResult : List (Event V R) → Option R × List (Event V R) × List (Event V R)
  | [] => (none, [], [])
  | e :: l =>
    match e.value? with
    | some r => (some r, [e], l)
    | none =>
      let (r?, passed, left) := firstResult l
      (r?, e :: passed, left)

@[simp] theorem upToResult_zero (l : List (Event V R)) : upToResult 0 l = [] := by
  cases l <;> rfl

@[simp] theorem upToResult_nil (n : Nat) : upToResult n ([] : List (Event V R)) = [] := by
  cases n <;> rfl

theorem isResult_eq (e : Event V R) : e.isResult = e.value?.isSome := by
  cases e <;> rfl

theorem toList_untilResult (n : Nat) (events : Feed (Event V R)) :
    (untilResult n events).toList = upToResult n events.toList := by
  induction events generalizing n with
  | done =>
    rw [Feed.toList_done, upToResult_nil]
    cases n <;> rfl
  | next e rest ih =>
    cases n with
    | zero => rfl
    | succ n => exact congrArg (e :: ·) (ih () _)

/-- The first events hold the first results. -/
theorem handed_upToResult (n : Nat) (l : List (Event V R)) : handed (upToResult n l) = (handed l).take n := by
  induction l generalizing n with
  | nil => simp [handed]
  | cons e l ih =>
    cases n with
    | zero => rfl
    | succ n =>
      rw [upToResult, handed, List.filterMap_cons, isResult_eq]
      cases hvalue : e.value? with
      | none => simpa [handed, hvalue] using ih (n + 1)
      | some r => simpa [handed, hvalue] using ih n

/-- Up to a later result there are more events. -/
theorem upToResult_mono {m n : Nat} (h : m ≤ n) (l : List (Event V R)) : upToResult m l <+: upToResult n l := by
  induction l generalizing m n with
  | nil => rw [upToResult_nil, upToResult_nil]
  | cons e l ih =>
    cases m with
    | zero => exact List.nil_prefix
    | succ m =>
      obtain ⟨n, rfl⟩ := Nat.exists_eq_add_of_le' (Nat.le_trans (Nat.le_add_left 1 m) h)
      refine List.cons_prefix_cons.2 ⟨rfl, ih ?_⟩
      split <;> omega

theorem upToResult_self_mono (n : Nat) (l : List (Event V R)) : upToResult n l <+: l := by
  induction l generalizing n with
  | nil => rw [upToResult_nil]
  | cons e l ih =>
    cases n with
    | zero => exact List.nil_prefix
    | succ n => exact List.cons_prefix_cons.2 ⟨rfl, ih _⟩

/-- One result more is the first result and those behind it. -/
theorem upToResult_succ (n : Nat) (l : List (Event V R)) :
    upToResult (n + 1) l = (firstResult l).2.1 ++ upToResult n (firstResult l).2.2 := by
  induction l with
  | nil => rw [upToResult_nil, firstResult, upToResult_nil]; rfl
  | cons e l ih =>
    rw [upToResult, firstResult, isResult_eq]
    cases e.value? with
    | none => exact congrArg (e :: ·) ih
    | some r => rfl

theorem handed_eq (l : List (Event V R)) : handed l = (firstResult l).1.toList ++ handed (firstResult l).2.2 := by
  induction l with
  | nil => rfl
  | cons e l ih =>
    rw [handed, List.filterMap_cons, firstResult]
    cases e.value? with
    | none => exact ih
    | some r => rfl

theorem append_firstResult (l : List (Event V R)) : (firstResult l).2.1 ++ (firstResult l).2.2 = l := by
  induction l with
  | nil => rfl
  | cons e l ih =>
    rw [firstResult]
    cases e.value? with
    | none => exact congrArg (e :: ·) ih
    | some r => rfl

theorem left_of_no_result {l : List (Event V R)} (h : (firstResult l).1 = none) : (firstResult l).2.2 = [] := by
  induction l with
  | nil => rfl
  | cons e l ih =>
    rw [firstResult] at h ⊢
    cases hvalue : e.value? with
    | none =>
      rw [hvalue] at h
      exact ih h
    | some r =>
      rw [hvalue] at h
      cases h

end Events

/-! ## Iterations -/

/-- A search that is resumed goes to the first of the results before it. -/
theorem resume_spec (g : Graph V L) (window : Option DepthWindow) (t : Tally)
    (s : Search V L (mode.Branch V L)) :
    (s.resume g window t).1 = (firstResult (s.pending g window)).1 ∧
      (s.resume g window t).2.1.pending g window = (firstResult (s.pending g window)).2.2 ∧
      (s.resume g window t).2.2 = (firstResult (s.pending g window)).2.1.foldl Tally.note t := by
  fun_induction Search.resume g window t s with
  | case1 t s hstep =>
    rw [pending_of_ended hstep]
    exact ⟨rfl, rfl, rfl⟩
  | case2 t s event? s' hstep _ t' r hr =>
    obtain ⟨e, rfl, hvalue⟩ := Option.bind_eq_some_iff.1 hr
    rw [pending_step hstep, Option.toList_some, List.singleton_append, firstResult, hvalue]
    exact ⟨rfl, rfl, rfl⟩
  | case3 t s event? s' hstep _ t' hr ih =>
    rw [pending_step hstep]
    cases event? with
    | none => exact ih
    | some e =>
      have hvalue : e.value? = none := hr
      rw [Option.toList_some, List.singleton_append, firstResult, hvalue]
      exact ih

theorem close_resume {g : Graph V L} {window : Option DepthWindow} (t : Tally) (s : Search V L (mode.Branch V L))
    (h : s.close = ⟨[], [], []⟩) : (s.resume g window t).2.1.close = ⟨[], [], []⟩ := by
  fun_induction Search.resume g window t s with
  | case1 t s hstep => exact h
  | case2 t s event? s' hstep _ t' r hr => exact close_step hstep h
  | case3 t s event? s' hstep _ t' hr ih => exact ih (close_step hstep h)

theorem pending_ofGraph (g : Graph V L) (window : Option DepthWindow) :
    (Search.ofGraph g : Search V L (mode.Branch V L)).pending g window = (mode.events g window).toList := by
  cases mode with
  | traces =>
    rw [Mode.events, traceEvents, fromRoots, Feed.toList_flatMap, Feed.toList_ofList]
    rfl
  | subgraphs =>
    rw [Mode.events, subgraphEvents, fromRoots, Feed.toList_flatMap, Feed.toList_ofList]
    rfl

/-! ## Counts -/

namespace Tally

/-- One tally counts no more than another one. -/
structure AtMost (t t' : Tally) : Prop where
  roots : t.roots ≤ t'.roots
  combinations : t.combinations ≤ t'.combinations
  emitted : t.emitted ≤ t'.emitted
  deepest : t.deepest ≤ t'.deepest

theorem AtMost.refl (t : Tally) : t.AtMost t := ⟨le_rfl, le_rfl, le_rfl, le_rfl⟩

theorem AtMost.trans {t t' t'' : Tally} (h : t.AtMost t') (h' : t'.AtMost t'') : t.AtMost t'' :=
  ⟨h.roots.trans h'.roots, h.combinations.trans h'.combinations, h.emitted.trans h'.emitted,
    h.deepest.trans h'.deepest⟩

variable {V R : Type}

theorem atMost_note (t : Tally) (e : Event V R) : t.AtMost (t.note e) := by
  cases e <;> constructor <;> simp [note]

theorem atMost_foldl (t : Tally) (l : List (Event V R)) : t.AtMost (l.foldl note t) := by
  induction l generalizing t with
  | nil => exact .refl t
  | cons e l ih => exact (t.atMost_note e).trans (ih _)

theorem atMost_foldl_mono {l l' : List (Event V R)} (h : l <+: l') (t : Tally) :
    (l.foldl note t).AtMost (l'.foldl note t) := by
  obtain ⟨rest, rfl⟩ := h
  rw [List.foldl_append]
  exact atMost_foldl ..

theorem emitted_foldl (t : Tally) (l : List (Event V R)) :
    (l.foldl note t).emitted = t.emitted + (handed l).length := by
  induction l generalizing t with
  | nil => rfl
  | cons e l ih =>
    rw [List.foldl_cons, ih, handed, handed, List.filterMap_cons]
    cases e <;> simp [note, Event.value?, Nat.add_assoc, Nat.add_comm 1]

end Tally

/-! ## Consumers -/

section Consumers

variable {R ε σ : Type} {consumer : R → EStateM ε σ Unit}

/-- A consumer that collects what it is handed. -/
def collect (r : R) : EStateM ε (List R) Unit := modify (· ++ [r])

/-- A consumer together with a record of what it is handed. -/
def recording (consumer : R → EStateM ε σ Unit) (r : R) : EStateM ε (List R × σ) Unit := fun (record, state) =>
  match consumer r state with
  | .ok _ state => .ok () (record ++ [r], state)
  | .error x state => .error x (record ++ [r], state)

theorem forM_cons (r : R) (rs : List R) (state : σ) :
    (r :: rs).forM consumer state =
      match consumer r state with
      | .ok _ state => rs.forM consumer state
      | .error x state => .error x state := by
  change EStateM.bind (consumer r) (fun _ => rs.forM consumer) state = _
  unfold EStateM.bind
  cases consumer r state <;> rfl

theorem forM_cons_ok {r : R} {rs : List R} {state state' : σ}
    (h : (r :: rs).forM consumer state = .ok () state') :
    ∃ between, consumer r state = .ok () between ∧ rs.forM consumer between = .ok () state' := by
  rw [forM_cons] at h
  split at h
  · exact ⟨_, ‹_›, h⟩
  · cases h

theorem forM_collect (rs record : List R) :
    rs.forM collect record = (.ok () (record ++ rs) : EStateM.Result ε (List R) Unit) := by
  induction rs generalizing record with
  | nil =>
    rw [List.append_nil]
    rfl
  | cons r rs ih =>
    rw [List.append_cons, ← ih]
    rfl

theorem forM_recording {rs : List R} {state state' : σ} (h : rs.forM consumer state = .ok () state')
    (record : List R) :
    rs.forM (recording consumer) (record, state) = .ok () (record ++ rs, state') := by
  induction rs generalizing record state with
  | nil =>
    cases h
    rw [List.append_nil]
    rfl
  | cons r rs ih =>
    obtain ⟨between, hr, hrest⟩ := forM_cons_ok h
    rw [forM_cons, recording, hr, List.append_cons record r rs]
    exact ih hrest _

end Consumers

/-! ## Enumerators -/

namespace Enumerator

/-- What happens until an iteration ends. -/
def pending (e : Enumerator V L mode) (it : Iteration V L (mode.Branch V L)) : List (Event V (mode.Result V L)) :=
  (it.search e.graph).pending e.graph e.window

/-- An iteration goes to the first of the results before it and counts what it passes. -/
theorem next_eq (e : Enumerator V L mode) (it : Iteration V L (mode.Branch V L)) :
    ∃ s, e.next it = ((firstResult (e.pending it)).1, .suspended s,
        { e with stats := (firstResult (e.pending it)).2.1.foldl Tally.note (e.counts it) }) ∧
      s.pending e.graph e.window = (firstResult (e.pending it)).2.2 ∧
      ((it.search e.graph).close = ⟨[], [], []⟩ → s.close = ⟨[], [], []⟩) := by
  obtain ⟨hresult, hleft, hcounts⟩ := resume_spec e.graph e.window (e.counts it) (it.search e.graph)
  refine ⟨_, ?_, hleft, close_resume (e.counts it) (it.search e.graph)⟩
  unfold next pending
  rw [← hresult, ← hcounts]

/-- What is pulled are the first of the results before an iteration; only the events up to the last one are
counted. -/
theorem pull_eq (n : Nat) (e : Enumerator V L mode) (it : Iteration V L (mode.Branch V L))
    (h : e.counts it = e.stats) :
    (e.pull it n).results = (handed (e.pending it)).take n ∧
      (e.pull it n).enumerator = { e with stats := (upToResult n (e.pending it)).foldl Tally.note e.stats } ∧
      ((it.search e.graph).close = ⟨[], [], []⟩ →
        ((e.pull it n).iteration.search e.graph).close = ⟨[], [], []⟩) := by
  -- once begun, an iteration goes on with the counts of the enumerator; so the hypothesis holds from there on
  induction n generalizing e it with
  | zero =>
    rw [upToResult_zero]
    exact ⟨rfl, rfl, id⟩
  | succ n ih =>
    obtain ⟨s, hnext, hleft, hclose⟩ := e.next_eq it
    rw [pull, hnext, handed_eq, upToResult_succ, List.foldl_append, ← h]
    cases hresult : (firstResult (e.pending it)).1 with
    | none =>
      rw [left_of_no_result hresult, upToResult_nil]
      exact ⟨rfl, rfl, hclose⟩
    | some r =>
      obtain ⟨hresults, hcounts, hclosed⟩ :=
        ih { e with stats := (firstResult (e.pending it)).2.1.foldl Tally.note (e.counts it) } (.suspended s) rfl
      rw [← hleft]
      exact ⟨congrArg (r :: ·) hresults, hcounts, fun hs => hclosed (hclose hs)⟩

/-- Asking for a result either comes to the end, having counted all events, or to the first of the results. -/
theorem next_cases (e : Enumerator V L mode) (it : Iteration V L (mode.Branch V L)) :
    (∃ it', handed (e.pending it) = [] ∧
      e.next it = (none, it', { e with stats := (e.pending it).foldl Tally.note (e.counts it) })) ∨
    (∃ r s stats, e.next it = (some r, .suspended s, { e with stats }) ∧
      handed (e.pending it) = r :: handed (s.pending e.graph e.window) ∧
      (e.pending it).foldl Tally.note (e.counts it) = (s.pending e.graph e.window).foldl Tally.note stats) := by
  obtain ⟨s, hnext, hleft, -⟩ := e.next_eq it
  have hall := append_firstResult (e.pending it)
  have hhanded := handed_eq (e.pending it)
  rw [hnext]
  cases hresult : (firstResult (e.pending it)).1 with
  | none =>
    rw [left_of_no_result hresult, List.append_nil] at hall
    rw [left_of_no_result hresult, hresult] at hhanded
    rw [hall]
    exact .inl ⟨_, hhanded, rfl⟩
  | some r =>
    rw [hresult, ← hleft] at hhanded
    refine .inr ⟨r, _, _, rfl, hhanded, ?_⟩
    rw [← List.foldl_append, hleft, hall]

/-! ### Runs -/

section Runs

variable {ε σ : Type} {consumer : mode.Result V L → EStateM ε σ Unit} {e e' : Enumerator V L mode}
  {it it' : Iteration V L (mode.Branch V L)}

theorem feed_of_end (state : σ) (h : e.next it = (none, it', e')) :
    feed consumer e it state = .ok e'.stats (e', state) := by
  rw [feed]
  split <;> rename_i hnext <;> cases h.symm.trans hnext
  rfl

theorem feed_of_next {r : mode.Result V L} (state : σ) (h : e.next it = (some r, it', e')) :
    feed consumer e it state =
      match consumer r state with
      | .ok _ state => feed consumer e' it' state
      | .error x state => .error x (e', state) := by
  rw [feed]
  split <;> rename_i hnext <;> cases h.symm.trans hnext
  rfl

/-- A consumer that accepts all results is handed all of them, and all events are counted. -/
theorem feed_of_accepted {state state' : σ}
    (h : (handed (e.pending it)).forM consumer state = .ok () state') :
    feed consumer e it state =
      .ok ((e.pending it).foldl Tally.note (e.counts it))
        ({ e with stats := (e.pending it).foldl Tally.note (e.counts it) }, state') := by
  -- by the results that are before the iteration: each request takes off the first of them
  generalize hrs : handed (e.pending it) = rs at h
  induction rs generalizing e it state with
  | nil =>
    cases h
    obtain ⟨it', -, hnext⟩ | ⟨r, s, stats, -, hhanded, -⟩ := e.next_cases it
    · rw [feed_of_end _ hnext]
    · cases hrs.symm.trans hhanded
  | cons r rs ih =>
    obtain ⟨between, hr, hrest⟩ := forM_cons_ok h
    obtain ⟨it', hhanded, -⟩ | ⟨r', s, stats, hnext, hhanded, hcounts⟩ := e.next_cases it
    · cases hrs.symm.trans hhanded
    · cases hrs.symm.trans hhanded
      rw [feed_of_next state hnext, hr, hcounts]
      exact ih rfl hrest

/-- A consumer that raises something at a result has been handed the results up to it, and the enumerator is
left as by an iteration that is stopped there. -/
theorem feed_of_raised {n : Nat} {state between state' : σ} {r : mode.Result V L} {x : ε}
    (haccepted : ((handed (e.pending it)).take n).forM consumer state = .ok () between)
    (hr : (handed (e.pending it))[n]? = some r) (hraised : consumer r between = .error x state') :
    feed consumer e it state = .error x ((e.pull it (n + 1)).enumerator, state') := by
  induction n generalizing e it state with
  | zero =>
    cases haccepted
    obtain ⟨it', hhanded, -⟩ | ⟨r', s, stats, hnext, hhanded, -⟩ := e.next_cases it
    · rw [hhanded] at hr
      cases hr
    · rw [hhanded] at hr
      cases hr
      rw [feed_of_next _ hnext, hraised, pull, hnext]
      rfl
  | succ n ih =>
    obtain ⟨it', hhanded, -⟩ | ⟨r', s, stats, hnext, hhanded, -⟩ := e.next_cases it
    · rw [hhanded] at hr
      cases hr
    · rw [hhanded] at hr haccepted
      obtain ⟨after, hfirst, hrest⟩ := forM_cons_ok haccepted
      rw [feed_of_next state hnext, hfirst, pull, hnext]
      exact ih hrest hr

end Runs

/-! ### New iterations -/

section New

variable {ε σ : Type} {consumer : mode.Result V L → EStateM ε σ Unit} (e : Enumerator V L mode)

theorem handed_new : handed (e.pending .new) = results (mode.events e.graph e.window) :=
  congrArg handed (pending_ofGraph e.graph e.window)

theorem counts_new :
    (e.pending .new).foldl Tally.note (e.counts .new) = Tally.ofEvents (mode.events e.graph e.window) :=
  (congrArg (List.foldl Tally.note {}) (pending_ofGraph e.graph e.window)).trans (Feed.foldl_eq ..).symm

variable {e}

/-- A consumer that accepts all results is handed all of them. -/
theorem run_of_accepted {state state' : σ}
    (h : (results (mode.events e.graph e.window)).forM consumer state = .ok () state') :
    let total := Tally.ofEvents (mode.events e.graph e.window)
    e.run consumer state = .ok total ({ e with stats := total }, state') := by
  rw [← handed_new] at h
  rw [run, feed_of_accepted h, counts_new]

/-- If the consumer raises something at a result, the enumerator is left as by an iteration that is stopped
there. -/
theorem run_of_raised {n : Nat} {state between state' : σ} {r : mode.Result V L} {x : ε}
    (haccepted : ((results (mode.events e.graph e.window)).take n).forM consumer state = .ok () between)
    (hr : (results (mode.events e.graph e.window))[n]? = some r) (hraised : consumer r between = .error x state') :
    e.run consumer state = .error x ((e.take (n + 1)).enumerator, state') := by
  rw [← handed_new] at haccepted hr
  exact feed_of_raised haccepted hr hraised

/-- A run does not depend on the counts it begins with. -/
theorem run_again (stats : Tally) (state : σ) : { e with stats }.run consumer state = e.run consumer state := by
  obtain ⟨it', -, hnext⟩ | ⟨r, s, counts, hnext, -⟩ := e.next_cases .new
  · exact (feed_of_end (e := { e with stats }) state hnext).trans (feed_of_end state hnext).symm
  · exact (feed_of_next (e := { e with stats }) state hnext).trans (feed_of_next state hnext).symm

/-- Nor does an iteration, once a result is asked for. -/
theorem take_again (stats : Tally) (n : Nat) : { e with stats }.take (n + 1) = e.take (n + 1) := rfl

end New

end Enumerator

/-! ## Stopping -/

/-- An iteration may be stopped after any number of results, and a consumer may raise something at any of
them. A complete run hands out certain results and ends with certain counts. An iteration that is stopped
has handed out the first of these results and counted what happened up to there; its counts do not decrease
with the number of results and do not exceed those of the complete run, and closing it leaves no labels. A
consumer that raises something at a result has received the results up to it, and the enumerator is left as
by an iteration that is stopped there. All runs on an enumerator that is left so are as on a new one, and so
are all iterations that ask for a result; one that asks for none leaves the counts of the iteration before. -/
theorem stops_anywhere {ε σ : Type} (g : Graph V L) (window : Option DepthWindow) (mode : Mode) :
    let e : Enumerator V L mode := { graph := g, window }
    let all := results (mode.events g window)
    let total := Tally.ofEvents (mode.events g window)
    e.run collect [] = (.ok total ({ e with stats := total }, all) : EStateM.Result ε _ _) ∧
    (∀ n, let stop := e.take n
      stop.results = all.take n ∧
      stop.results.length = min n all.length ∧
      stop.enumerator.stats = Tally.ofEvents (untilResult n (mode.events g window)) ∧
      stop.enumerator.stats.emitted = min n all.length ∧
      stop.enumerator.stats.AtMost total ∧
      (∀ m ≤ n, (e.take m).enumerator.stats.AtMost stop.enumerator.stats) ∧
      (stop.iteration.search g).close = ⟨[], [], []⟩ ∧
      (∀ (consumer : mode.Result V L → EStateM ε σ Unit) (state : σ),
        stop.enumerator.run consumer state = e.run consumer state) ∧
      ∀ k, stop.enumerator.take (k + 1) = e.take (k + 1)) ∧
    ∀ (n : Nat) (consumer : mode.Result V L → EStateM ε σ Unit) (state between state' : σ)
      (r : mode.Result V L) (x : ε),
      (all.take n).forM consumer state = .ok () between → all[n]? = some r → consumer r between = .error x state' →
        let left := (e.take (n + 1)).enumerator
        e.run consumer state = .error x (left, state') ∧
          e.run (recording consumer) ([], state) = .error x (left, all.take (n + 1), state') := by
  intro e all total
  have htake := fun n => Enumerator.pull_eq n e .new rfl
  have hresults : ∀ n, (e.take n).results = all.take n := fun n => by
    rw [Enumerator.take, (htake n).1, e.handed_new]
  have hleft : ∀ n, (e.take n).enumerator =
      { e with stats := (upToResult n (e.pending .new)).foldl Tally.note {} } := fun n => (htake n).2.1
  have htotal : (e.pending .new).foldl Tally.note {} = total := e.counts_new
  refine ⟨Enumerator.run_of_accepted (forM_collect all []), fun n =>
    ⟨hresults n, ?_, ?_, ?_, ?_, fun m hmn => ?_, (htake n).2.2 rfl, fun consumer state => ?_, fun k => ?_⟩, ?_⟩
  · rw [hresults, List.length_take]
  · rw [hleft, Tally.ofEvents, Feed.foldl_eq, toList_untilResult]
    exact congrArg (fun l => (upToResult n l).foldl Tally.note {}) (pending_ofGraph g window)
  · rw [hleft, Tally.emitted_foldl, handed_upToResult, e.handed_new, List.length_take]
    exact Nat.zero_add _
  · rw [hleft, ← htotal]
    exact Tally.atMost_foldl_mono (upToResult_self_mono ..) _
  · rw [hleft, hleft]
    exact Tally.atMost_foldl_mono (upToResult_mono hmn _) _
  · rw [hleft]
    exact Enumerator.run_again ..
  · rw [hleft]
    exact Enumerator.take_again ..
  · intro n consumer state between state' r x haccepted hr hraised
    have hlast : recording consumer r ([] ++ all.take n, between) = .error x (all.take (n + 1), state') := by
      rw [recording, hraised, List.take_add_one, hr]
      rfl
    exact ⟨Enumerator.run_of_raised haccepted hr hraised,
      Enumerator.run_of_raised (forM_recording haccepted []) hr hlast⟩

/-- On a chain of two edges, with a consumer that counts traces and refuses those of two labels. -/
theorem stops_anywhere_chain :
    let g : Graph Nat Nat := .ofEdges [(0, 1, 7), (1, 2, 8)]
    let e : Enumerator Nat Nat .traces := { graph := g }
    let consumer : List Nat → EStateM String Nat Unit := fun trace =>
      if trace.length < 2 then modify (· + 1) else throw "refused"
    let left := (e.take 2).enumerator
    ([[7]].forM consumer 0 = .ok () 1 ∧ (e.take 2).results = [[7], [7, 8]] ∧
      consumer [7, 8] 1 = .error "refused" 1) ∧
    (e.run consumer 0 = .error "refused" (left, 1) ∧
      e.run (recording consumer) ([], 0) = .error "refused" (left, [[7], [7, 8]], 1)) ∧
    (1 ≤ 2 ∧ (e.take 1).enumerator.stats.AtMost left.stats) := by
  intro g e consumer left
  have hall : results (Mode.events g none .traces) = [[7], [7, 8], [8]] := by decide +kernel
  obtain ⟨-, hstop, hraise⟩ := stops_anywhere (ε := String) (σ := Nat) g none .traces
  obtain ⟨hresults, -, -, -, -, hmono, -⟩ := hstop 2
  have hfirst : [[7]].forM consumer 0 = .ok () 1 := rfl
  have hlast : consumer [7, 8] 1 = .error "refused" 1 := rfl
  have hraised := hraise 1 consumer 0 1 1 [7, 8] "refused"
  rw [hall] at hresults hraised
  exact ⟨⟨hfirst, hresults, hlast⟩, hraised hfirst rfl hlast, by decide, hmono 1 (by decide)⟩

end StateTraces.Enumeration
