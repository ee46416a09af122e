import StateTraces.Enumeration.Search

/-
Enumerators. A search that is asked for its results one at a time is suspended between two of them: it
holds the roots it has not taken up, the labels along its branch, and its tasks, the next one first. A
label is on the stack from the moment a branch is entered until it is left; leaving is a task like any
other, and the only one that is still done when a search is closed. The counts belong to the enumerator and
not to the search.
-/

namespace StateTraces.Enumeration

variable {V L ε σ : Type} [DecidableEq V]

/-- What is reported of a graph. -/
inductive Mode where
  | traces
  | subgraphs
  deriving DecidableEq, Repr

namespace Mode

/-- A result: the labels along a branch, or what was chosen along it. -/
abbrev Result (V L : Type) [DecidableEq V] : Mode → Type
  | .traces => List L
  | .subgraphs => Graph V L

/-- What is handed down a branch: nothing for traces, whose labels are on the stack. -/
abbrev Branch (V L : Type) [DecidableEq V] : Mode → Type
  | .traces => Unit
  | .subgraphs => Graph V L

/-- What is handed down from a root. -/
def start : (mode : Mode) → mode.Branch V L
  | .traces => ()
  | .subgraphs => .empty

/-- The result at a branch. -/
def found (labels : List L) : (mode : Mode) → mode.Branch V L → mode.Result V L
  | .traces, _ => labels
  | .subgraphs, branch => branch

/-- Everything that happens while a graph is enumerated. -/
def events (g : Graph V L) (window : Option DepthWindow) : (mode : Mode) → Feed (Event V (mode.Result V L))
  | .traces => traceEvents g window
  | .subgraphs => subgraphEvents g window

end Mode

/-! ## Tasks -/

/-- What a search has to do: expand a vertex, go through what is left of the steps at a vertex, hand out
the result at a branch, leave a branch. -/
inductive Task (V L B : Type) where
  | expand (vertex : V) (fresh : List V) (branch : B) (depth : Nat)
  | follow {bound : Nat} (vertex : V) (branch : B) (depth : Nat) (left : Feed (Step V L bound))
  | hand (branch : B) (depth : Nat)
  | leave

/-- What comes of a task: what is counted, the labels afterwards, and what has to be done next. -/
structure Outcome (V L : Type) [DecidableEq V] (mode : Mode) where
  event? : Option (Event V (mode.Result V L)) := none
  labels : List L
  tasks : List (Task V L (mode.Branch V L)) := []

/-- Takes a step at a vertex. A trace is handed out when its branch is entered, a subgraph when it is
chosen. -/
def Mode.follow {bound : Nat} (vertex : V) (depth : Nat) (labels : List L) :
    (mode : Mode) → mode.Branch V L → Step V L bound → Outcome V L mode
  | .traces, _, .choose _ => { event? := some .choose, labels }
  | .traces, _, .enter _ target label fresh _ =>
    -- the label stays on the stack until all below the target is done
    { labels := labels ++ [label], tasks := [.hand () depth, .expand target fresh () (depth + 1), .leave] }
  | .subgraphs, branch, .choose chosen =>
    { event? := some .choose, labels, tasks := [.hand (branch.addEdges vertex chosen) depth] }
  | .subgraphs, branch, .enter chosen target _ fresh _ =>
    { labels, tasks := [.expand target fresh (branch.addEdges vertex chosen) (depth + 1)] }

/-- The labels when a branch may have been left. -/
def Task.unwind {B : Type} (labels : List L) : Task V L B → List L
  | .leave => labels.dropLast
  | _ => labels

/-- Does a task. -/
def Task.perform {mode : Mode} (g : Graph V L) (window : Option DepthWindow) (labels : List L) :
    Task V L (mode.Branch V L) → Outcome V L mode
  | .expand v fresh branch depth =>
    if within window depth then
      { event? := some (.expand depth), labels, tasks := [.follow v branch depth (steps (g.outEdges v) fresh)] }
    else { labels }
  | .follow _ _ _ .done => { labels }
  | .follow v branch depth (.next s rest) =>
    let taken := mode.follow v depth labels branch s
    { taken with tasks := taken.tasks ++ [.follow v branch depth (rest ())] }
  | .hand branch depth =>
    { event? := if reported window depth then some (.result depth (mode.found labels branch)) else none, labels }
  | .leave => { labels := labels.dropLast }

/-! ## Searches -/

/-- A suspended search. -/
structure Search (V L B : Type) where
  roots : List V
  labels : List L := []
  tasks : List (Task V L B) := []

namespace Search

variable {mode : Mode}

/-- A search that has not begun. -/
def ofGraph {B : Type} (g : Graph V L) : Search V L B where
  roots := g.vertices

/-- Does the next task, or takes up the next root with no labels; nothing if there is none. -/
def step (g : Graph V L) (window : Option DepthWindow) (s : Search V L (mode.Branch V L)) :
    Option (Option (Event V (mode.Result V L)) × Search V L (mode.Branch V L)) :=
  match s.tasks, s.roots with
  | task :: tasks, _ =>
    let done := task.perform g window s.labels
    some (done.event?, { s with labels := done.labels, tasks := done.tasks ++ tasks })
  | [], root :: roots =>
    some (some (.root root (g.outDegree root)),
      { roots, tasks := [.expand root (g.vertices.filter (· ≠ root)) mode.start 1] })
  | [], [] => none

/-- Closes a search: all branches it is on are left and nothing else is done. -/
def close {B : Type} (s : Search V L B) : Search V L B where
  roots := []
  labels := s.tasks.foldl Task.unwind s.labels

/-! ### Termination -/

/-- The sum of a number for each element. -/
def sumOf {α : Type} (f : α → Nat) : List α → Nat
  | [] => 0
  | a :: l => f a + sumOf f l

theorem sumOf_append {α : Type} (f : α → Nat) (l l' : List α) : sumOf f (l ++ l') = sumOf f l + sumOf f l' := by
  induction l with
  | nil => simp [sumOf]
  | cons a l ih => simp [sumOf, ih, Nat.add_assoc]

theorem sumOf_map {α β : Type} (f : β → Nat) (k : α → β) (l : List α) : sumOf f (l.map k) = sumOf (fun a => f (k a)) l := by
  induction l with
  | nil => rfl
  | cons a l ih => simp [sumOf, ih]

/-- The steps that are taken from the expansion of a vertex on. -/
def expandWork (g : Graph V L) (v : V) (fresh : List V) : Nat :=
  2 + sumOf (fun
    | .choose _ => 2
    | .enter _ target _ fresh' _ => 4 + expandWork g target fresh') (steps (g.outEdges v) fresh).toList
termination_by fresh.length

/-- The steps that are taken from a step at a vertex on. -/
def stepWork (g : Graph V L) {bound : Nat} : Step V L bound → Nat
  | .choose _ => 2
  | .enter _ target _ fresh _ => 4 + expandWork g target fresh

def taskWork (g : Graph V L) {B : Type} : Task V L B → Nat
  | .expand v fresh _ _ => expandWork g v fresh
  | .follow _ _ _ left => 1 + sumOf (stepWork g) left.toList
  | .hand .. => 1
  | .leave => 1

/-- More steps than a search will take. -/
def work (g : Graph V L) {B : Type} (s : Search V L B) : Nat :=
  sumOf (taskWork g) s.tasks + sumOf (fun root => 1 + expandWork g root (g.vertices.filter (· ≠ root))) s.roots

theorem expandWork_eq (g : Graph V L) (v : V) (fresh : List V) :
    expandWork g v fresh = 2 + sumOf (stepWork g) (steps (g.outEdges v) fresh).toList := by
  rw [expandWork]
  congr 2
  funext s
  cases s <;> rfl

theorem taskWork_follow (g : Graph V L) {bound : Nat} (vertex : V) (depth : Nat) (labels : List L)
    (branch : mode.Branch V L) (s : Step V L bound) :
    sumOf (taskWork g) (mode.follow vertex depth labels branch s).tasks < stepWork g s := by
  cases mode <;> cases s <;> simp only [Mode.follow, sumOf, taskWork, stepWork] <;> omega

theorem taskWork_perform (g : Graph V L) (window : Option DepthWindow) (labels : List L)
    (task : Task V L (mode.Branch V L)) :
    sumOf (taskWork g) (task.perform g window labels).tasks < taskWork g task := by
  cases task with
  | expand v fresh branch depth =>
    rw [Task.perform, taskWork, expandWork_eq]
    split
    · simp only [sumOf, taskWork]
      omega
    · exact Nat.lt_of_lt_of_le Nat.zero_lt_two (Nat.le_add_right ..)
  | follow v branch depth left =>
    cases left with
    | done => exact Nat.zero_lt_succ _
    | next s rest =>
      have := taskWork_follow g v depth labels branch s
      simp only [Task.perform, taskWork, Feed.toList_next, sumOf_append, sumOf]
      omega
  | hand branch depth => exact Nat.zero_lt_one
  | leave => exact Nat.zero_lt_one

/-- Every step is one of a bounded number. -/
theorem work_step_lt {g : Graph V L} {window : Option DepthWindow} {s s' : Search V L (mode.Branch V L)}
    {event? : Option (Event V (mode.Result V L))} (h : s.step g window = some (event?, s')) :
    s'.work g < s.work g := by
  obtain ⟨roots, labels, tasks⟩ := s
  cases tasks with
  | cons task tasks =>
    cases h
    have := taskWork_perform g window labels task
    simp only [work, sumOf_append, sumOf]
    omega
  | nil =>
    cases roots with
    | cons root roots =>
      cases h
      simp only [work, sumOf, taskWork]
      omega
    | nil => cases h

/-! ### Resuming -/

/-- Goes on to the next result, and counts on the way. -/
def resume (g : Graph V L) (window : Option DepthWindow) (t : Tally) (s : Search V L (mode.Branch V L)) :
    Option (mode.Result V L) × Search V L (mode.Branch V L) × Tally :=
  match h : s.step g window with
  | none => (none, s, t)
  | some (event?, s') =>
    have := work_step_lt h
    let t := event?.elim t t.note
    match event?.bind Event.value? with
    | some r => (some r, s', t)
    | none => s'.resume g window t
termination_by s.work g

/-- A search that hands out a result has less to do afterwards. -/
theorem work_resume_lt {g : Graph V L} {window : Option DepthWindow} {t : Tally}
    {s : Search V L (mode.Branch V L)} (h : (s.resume g window t).1.isSome) :
    (s.resume g window t).2.1.work g < s.work g := by
  fun_induction resume g window t s with
  | case1 t s hstep => cases h
  | case2 t s event? s' hstep this t' r hr => exact this
  | case3 t s event? s' hstep this t' hr ih => exact Nat.lt_trans (ih h) this

end Search

/-! ## Enumerators -/

/-- What is enumerated, and the counts of the run or iteration that was begun last. -/
structure Enumerator (V L : Type) [DecidableEq V] (mode : Mode) where
  graph : Graph V L
  window : Option DepthWindow := none
  stats : Tally := {}

/-- An iteration: new, or suspended after a result or at the end. -/
inductive Iteration (V L B : Type) where
  | new
  | suspended (search : Search V L B)

/-- The search that an iteration goes on with. -/
def Iteration.search {B : Type} (g : Graph V L) : Iteration V L B → Search V L B
  | .new => .ofGraph g
  | .suspended s => s

/-- What there is where an iteration is stopped. -/
structure Stop (V L : Type) [DecidableEq V] (mode : Mode) where
  results : List (mode.Result V L) := []
  iteration : Iteration V L (mode.Branch V L)
  enumerator : Enumerator V L mode

namespace Enumerator

variable {mode : Mode}

/-- The counts that an iteration goes on with. -/
def counts (e : Enumerator V L mode) : Iteration V L (mode.Branch V L) → Tally
  | .new => {}
  | .suspended _ => e.stats

/-- Asks an iteration for its next result. A new one begins only now, with all counts at zero. -/
def next (e : Enumerator V L mode) (it : Iteration V L (mode.Branch V L)) :
    Option (mode.Result V L) × Iteration V L (mode.Branch V L) × Enumerator V L mode :=
  let (r?, s, stats) := (it.search e.graph).resume e.graph e.window (e.counts it)
  (r?, .suspended s, { e with stats })

/-- Asks an iteration for so many results, as long as there are any. -/
def pull (e : Enumerator V L mode) (it : Iteration V L (mode.Branch V L)) : Nat → Stop V L mode
  | 0 => { iteration := it, enumerator := e }
  | n + 1 =>
    match e.next it with
    | (none, it, e) => { iteration := it, enumerator := e }
    | (some r, it, e) =>
      let stop := e.pull it n
      { stop with results := r :: stop.results }

/-- The first results of a new iteration, which is stopped there. -/
def take (e : Enumerator V L mode) (n : Nat) : Stop V L mode := e.pull .new n

/-- An iteration that hands out a result has less to do afterwards. -/
theorem work_next_lt {e e' : Enumerator V L mode} {it it' : Iteration V L (mode.Branch V L)}
    {r : mode.Result V L} (h : e.next it = (some r, it', e')) :
    (it'.search e'.graph).work e'.graph < (it.search e.graph).work e.graph := by
  simp only [next, Prod.mk.injEq] at h
  obtain ⟨hr, rfl, rfl⟩ := h
  exact Search.work_resume_lt (Option.isSome_of_eq_some hr)

/-- Hands what is left of an iteration to the consumer; gives the counts in the end. If something is raised,
the iteration is closed, which touches nothing but its own labels, and the counts stay as they are. -/
def feed (consumer : mode.Result V L → EStateM ε σ Unit) (e : Enumerator V L mode)
    (it : Iteration V L (mode.Branch V L)) (state : σ) : EStateM.Result ε (Enumerator V L mode × σ) Tally :=
  match h : e.next it with
  | (none, _, e') => .ok e'.stats (e', state)
  | (some r, it', e') =>
    match consumer r state with
    | .ok _ state => have := work_next_lt h; feed consumer e' it' state
    | .error x state => .error x (e', state)
termination_by (it.search e.graph).work e.graph

/-- Hands every result to the consumer. -/
def run (e : Enumerator V L mode) (consumer : mode.Result V L → EStateM ε σ Unit) (state : σ) :
    EStateM.Result ε (Enumerator V L mode × σ) Tally := feed consumer e .new state

end Enumerator

end StateTraces.Enumeration
