import StateTraces.Enumeration.Enumerator
import StateTraces.Path

/-
Tours of the paths from a root. All of a tour shares one set of vertices and one stack of labels, those of the
path that it is on. Which edges lead on is looked up when a vertex is visited, before the first of them is
taken; a target and its label are put on the path before the target is visited, and taken off it when all
behind it is done. Where no edge leads on, the labels are a result. A tour is suspended between two tasks.
-/

namespace StateTraces.Path

variable {V L : Type}

/-- What a tour has to do. -/
inductive Task (V L : Type) where
  | visit (vertex : V)
  | enter (target : V) (label : L)
  | leave (target : V)

/-- The tasks for an edge that leads on. -/
def Task.along (e : V × L) : List (Task V L) := [.enter e.1 e.2, .visit e.1, .leave e.1]

/-- A suspended tour: the set of vertices and the stack of labels, the results, and the tasks that are left, the
next one first. -/
structure Tour (V L : Type) where
  onPath : List V
  labels : List L := []
  found : List (List L) := []
  tasks : List (Task V L) := []

namespace Tour

open Enumeration.Search (sumOf sumOf_map)

/-- A tour that has not begun. -/
def start (root : V) : Tour V L := { onPath := [root], tasks := [.visit root] }

variable [DecidableEq V]

/-- The out-edges to vertices that are not on the path. -/
def leadingOn (g : Graph V L) (v : V) (onPath : List V) : List (V × L) :=
  (g.outEdges v).filter fun e => e.1 ∉ onPath

/-- Does the next task, if there is one. -/
def step (g : Graph V L) (t : Tour V L) : Option (Tour V L) :=
  match t.tasks with
  | .visit v :: tasks =>
    let next := leadingOn g v t.onPath
    some { t with
      found := if next.isEmpty && !t.labels.isEmpty then t.found ++ [t.labels] else t.found
      tasks := next.flatMap Task.along ++ tasks }
  | .enter v l :: tasks => some { t with onPath := t.onPath.insert v, labels := t.labels ++ [l], tasks }
  | .leave v :: tasks => some { t with onPath := t.onPath.filter (· ≠ v), labels := t.labels.dropLast, tasks }
  | [] => none

/-! ## Termination -/

/-- The vertices of a graph that are not on a path. -/
def offPath (g : Graph V L) (onPath : List V) : List V := g.vertices.filter (· ∉ onPath)

theorem mem_leadingOn {g : Graph V L} {v : V} {onPath : List V} {e : V × L} :
    e ∈ leadingOn g v onPath ↔ e ∈ g.outEdges v ∧ e.1 ∉ onPath := by
  simp [leadingOn]

theorem offPath_insert (g : Graph V L) (onPath : List V) (v : V) :
    offPath g (onPath.insert v) = (offPath g onPath).filter (· ≠ v) := by
  unfold offPath
  rw [List.filter_filter]
  refine List.filter_congr fun w _ => ?_
  simp

/-- Where an edge leads on, fewer vertices are left. -/
theorem length_offPath_lt {g : Graph V L} {v : V} {onPath : List V} {e : V × L} (h : e ∈ leadingOn g v onPath) :
    (offPath g (onPath.insert e.1)).length < (offPath g onPath).length := by
  obtain ⟨he, hnew⟩ := mem_leadingOn.1 h
  have hmem : e.1 ∈ offPath g onPath := List.mem_filter.2 ⟨g.mem_vertices_of_mem_outEdges he, by simpa using hnew⟩
  rw [offPath_insert]
  exact Enumeration.length_filter_lt hmem (by simp) (Nat.le_refl _)

/-- A vertex that is put on a path is taken off it again. -/
theorem filter_insert {onPath : List V} {v : V} (h : v ∉ onPath) :
    (onPath.insert v).filter (· ≠ v) = onPath := by
  rw [List.insert_of_not_mem h, List.filter_cons_of_neg (by simp)]
  exact List.filter_eq_self.2 fun w hw => by simpa using fun he : w = v => h (he ▸ hw)

/-- The steps that are taken from the visit of a vertex on, until all behind it is done. -/
def visitWork (g : Graph V L) (v : V) (onPath : List V) : Nat :=
  1 + sumOf (fun e => 2 + visitWork g e.1.1 (onPath.insert e.1.1)) (leadingOn g v onPath).attach
termination_by (offPath g onPath).length
decreasing_by exact length_offPath_lt e.2

/-- The steps that tasks take, one after another, on a path. -/
def taskWork (g : Graph V L) : List V → List (Task V L) → Nat
  | onPath, .visit v :: tasks => visitWork g v onPath + taskWork g onPath tasks
  | onPath, .enter v _ :: tasks => 1 + taskWork g (onPath.insert v) tasks
  | onPath, .leave v :: tasks => 1 + taskWork g (onPath.filter (· ≠ v)) tasks
  | _, [] => 0

/-- The steps that are left. -/
def work (g : Graph V L) (t : Tour V L) : Nat := taskWork g t.onPath t.tasks

theorem visitWork_eq (g : Graph V L) (v : V) (onPath : List V) :
    visitWork g v onPath = 1 + sumOf (fun e => 2 + visitWork g e.1 (onPath.insert e.1)) (leadingOn g v onPath) := by
  rw [visitWork, ← sumOf_map (fun e : V × L => 2 + visitWork g e.1 (onPath.insert e.1)) Subtype.val,
    List.attach_map_subtype_val]

theorem taskWork_along (g : Graph V L) (onPath : List V) (tasks : List (Task V L)) (es : List (V × L))
    (h : ∀ e ∈ es, e.1 ∉ onPath) :
    taskWork g onPath (es.flatMap Task.along ++ tasks) =
      sumOf (fun e => 2 + visitWork g e.1 (onPath.insert e.1)) es + taskWork g onPath tasks := by
  induction es with
  | nil => simp [sumOf]
  | cons e es ih =>
    simp only [List.flatMap_cons, Task.along, List.cons_append, List.nil_append, sumOf, taskWork,
      filter_insert (h e (List.mem_cons_self ..)), ih fun d hd => h d (List.mem_cons_of_mem _ hd)]
    omega

/-- A step is one of those that are left. -/
theorem work_step {g : Graph V L} {t t' : Tour V L} (h : t.step g = some t') : t.work g = t'.work g + 1 := by
  obtain ⟨onPath, labels, found, tasks⟩ := t
  match tasks with
  | .visit v :: tasks =>
    cases h
    have hnew : ∀ e ∈ leadingOn g v onPath, e.1 ∉ onPath := fun e he => (mem_leadingOn.1 he).2
    have hwork := visitWork_eq g v onPath
    have htasks := taskWork_along g onPath tasks _ hnew
    simp only [work, taskWork]
    omega
  | .enter v l :: tasks =>
    cases h
    rw [work, taskWork, work, Nat.add_comm]
  | .leave v :: tasks =>
    cases h
    rw [work, taskWork, work, Nat.add_comm]
  | [] => cases h

/-! ## Touring -/

/-- Does all tasks. -/
def run (g : Graph V L) (t : Tour V L) : Tour V L :=
  match h : t.step g with
  | none => t
  | some t' =>
    have : t'.work g < t.work g := by rw [work_step h]; exact Nat.lt_succ_self _
    run g t'
termination_by t.work g

/-- The results of a tour from a root. -/
def traces (g : Graph V L) (root : V) : List (List L) := ((start root).run g).found

end Tour

end StateTraces.Path
