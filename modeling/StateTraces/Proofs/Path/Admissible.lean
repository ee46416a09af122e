import Mathlib.Data.List.Nodup
import StateTraces.Proofs.Graph
import StateTraces.Proofs.Order

/-
Admissible paths, stated without any search: paths of distinct vertices where no vertex but the next
one is an out-neighbour listed before the next one. A path is a root and the out-edges that lead on
from it. An admissible path is taken apart at its root: the first step, and an admissible path that
keeps away from the root and from the targets listed before the first step.
-/

namespace StateTraces.Path

variable {V L : Type}

/-! ## Vertices of a path -/

/-- The vertices that steps lead to. -/
def entered (steps : List (V × L)) : List V := steps.map Prod.fst

/-- The vertices of a path, the root first. -/
def vertices (root : V) (steps : List (V × L)) : List V := root :: entered steps

@[simp] theorem entered_nil : entered ([] : List (V × L)) = [] := rfl

@[simp] theorem entered_cons (e : V × L) (steps : List (V × L)) : entered (e :: steps) = e.1 :: entered steps :=
  rfl

theorem vertices_cons (root : V) (e : V × L) (steps : List (V × L)) :
    vertices root (e :: steps) = root :: vertices e.1 steps := rfl

variable [DecidableEq V]

/-! ## Paths -/

/-- The steps are out-edges that lead on from `v`, one after another. -/
def IsPath (g : Graph V L) : V → List (V × L) → Prop
  | _, [] => True
  | v, e :: steps => e ∈ g.outEdges v ∧ IsPath g e.1 steps

/-- Among the out-neighbours of `v`, `w` is listed before `u`. -/
def ListedBefore (g : Graph V L) (v w u : V) : Prop :=
  ∃ p ∈ splits (g.outEdges v), p.2.1 = u ∧ w ∈ entered p.1

/-- A path of distinct vertices on which no vertex after the next one is listed before the next. -/
structure Admissible (g : Graph V L) (root : V) (steps : List (V × L)) : Prop where
  path : IsPath g root steps
  distinct : (vertices root steps).Nodup
  direct : ∀ i j v u w, i + 1 < j → (vertices root steps)[i]? = some v →
    (vertices root steps)[i + 1]? = some u → (vertices root steps)[j]? = some w → ¬ ListedBefore g v w u

/-! ## Taking a path apart -/

/-- The out-edge to a target and the edges before it are determined by the target. -/
theorem split_unique {g : Graph V L} {v : V} {p q : List (V × L) × (V × L)}
    (hp : p ∈ splits (g.outEdges v)) (hq : q ∈ splits (g.outEdges v)) (h : p.2.1 = q.2.1) : p = q := by
  have hnd : ((splits (g.outEdges v)).map fun p => p.2.1).Nodup := by
    rw [show (fun p : List (V × L) × (V × L) => p.2.1) = Prod.fst ∘ Prod.snd from rfl, ← List.map_map,
      map_snd_splits]
    exact g.nodup_outEdges v
  exact List.inj_on_of_nodup_map hnd hp hq h

theorem admissible_nil (g : Graph V L) (root : V) : Admissible g root [] := by
  refine ⟨trivial, List.nodup_singleton _, fun i j v u w hij _ hu => ?_⟩
  simp [vertices] at hu

theorem admissible_cons {g : Graph V L} {root : V} {e : V × L} {steps : List (V × L)} :
    Admissible g root (e :: steps) ↔
      (∃ before, (before, e) ∈ splits (g.outEdges root) ∧ ∀ w ∈ entered steps, w ∉ entered before) ∧
        root ∉ entered (e :: steps) ∧ Admissible g e.1 steps := by
  constructor
  · rintro ⟨⟨he, hpath⟩, hnd, hdir⟩
    obtain ⟨before, after, hsplit⟩ := List.append_of_mem he
    have hp : (before, e) ∈ splits (g.outEdges root) := mem_splits.2 ⟨after, hsplit⟩
    refine ⟨⟨before, hp, fun w hw hb => ?_⟩, (List.nodup_cons.1 hnd).1, hpath, (List.nodup_cons.1 hnd).2,
      fun i j v u w hij hv hu hw => ?_⟩
    · obtain ⟨k, hk, rfl⟩ := List.getElem_of_mem hw
      exact hdir 0 (k + 2) root e.1 _ (by omega) rfl rfl (List.getElem?_eq_getElem hk) ⟨_, hp, rfl, hb⟩
    · exact hdir (i + 1) (j + 1) v u w (by omega) hv hu hw
  · rintro ⟨⟨before, hp, hbefore⟩, hroot, hpath, hnd, hdir⟩
    refine ⟨⟨mem_of_mem_splits hp, hpath⟩, List.nodup_cons.2 ⟨hroot, hnd⟩,
      fun i j v u w hij hv hu hw => ?_⟩
    cases i with
    | zero =>
      obtain ⟨k, rfl⟩ : ∃ k, j = k + 2 := ⟨j - 2, by omega⟩
      cases hv; cases hu
      -- the first step is the only out-edge to its target
      rintro ⟨q, hq, hqe, hwq⟩
      have hpq := split_unique hq hp hqe
      subst hpq
      exact hbefore w (List.mem_of_getElem? hw) hwq
    | succ i =>
      obtain ⟨k, rfl⟩ : ∃ k, j = k + 1 := ⟨j - 1, by omega⟩
      exact hdir i k v u w (by omega) hv hu hw

end StateTraces.Path
