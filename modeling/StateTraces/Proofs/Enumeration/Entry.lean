import Mathlib.Data.Finset.Basic
import StateTraces.Enumeration.Search
import StateTraces.Proofs.Order
import StateTraces.Proofs.Subset

/-
The entries at a vertex: which target is entered, from which choice, and which vertices are still
fresh after it. Over all choices of one size, in order, every fresh target is entered exactly once,
in order of the out-edges, and after it the targets up to its own are fresh no longer. So every
size enters the same targets with the same fresh vertices; only the choices differ, and each is the
first one of its size that holds the edge.
-/

namespace StateTraces.Enumeration

variable {V L : Type}

/-! ## Attempts -/

/-- An edge whose target is entered, the choice it comes from and the vertices fresh afterwards. -/
structure Entry (V L : Type) where
  chosen : List (V × L)
  edge : V × L
  fresh : List V

/-- An edge of a choice, which is entered if its target is fresh. -/
abbrev Attempt (V L : Type) := List (V × L) × (V × L)

/-- The targets of attempts. -/
def targets (as : List (Attempt V L)) : List V := as.map (·.2.1)

theorem targets_cons (a : Attempt V L) (as : List (Attempt V L)) : targets (a :: as) = a.2.1 :: targets as := rfl

/-- The attempts of choices: each edge of each choice, in order. -/
def attempts (choices : List (List (V × L))) : List (Attempt V L) :=
  choices.flatMap fun c => c.map fun e => (c, e)

theorem attempts_append (c d : List (List (V × L))) : attempts (c ++ d) = attempts c ++ attempts d :=
  List.flatMap_append

theorem mem_targets_attempts {choices : List (List (V × L))} {v : V} :
    v ∈ targets (attempts choices) ↔ ∃ c ∈ choices, v ∈ c.map Prod.fst := by
  simp only [targets, attempts, List.mem_map, List.mem_flatMap]
  constructor
  · rintro ⟨_, ⟨c, hc, e, he, rfl⟩, rfl⟩; exact ⟨c, hc, e, he, rfl⟩
  · rintro ⟨c, hc, e, he, rfl⟩; exact ⟨(c, e), ⟨c, hc, e, he, rfl⟩, rfl⟩

/-- The attempts of the first choice of one size that holds each edge, where every choice starts
with the edges `before`: all edges of the very first choice, then one new last edge at a time. -/
def firstAttempts (size : Nat) (before edges : List (V × L)) : List (Attempt V L) :=
  (before ++ edges.take (size + 1)).map (fun e => (before ++ edges.take (size + 1), e)) ++
    (edges.drop (size + 1)).map fun e => (before ++ edges.take size ++ [e], e)

theorem targets_firstAttempts (size : Nat) (before edges : List (V × L)) :
    targets (firstAttempts size before edges) = (before ++ edges).map Prod.fst := by
  simp only [targets, firstAttempts, List.map_append, List.map_map, Function.comp_def]
  rw [List.append_assoc, ← List.map_append, List.take_append_drop]

/-- The first choice of `size` edges that holds a given edge: the first `size` edges if it is among
them, else one edge fewer and the edge itself. -/
def firstChoice (edges : List (V × L)) (size : Nat) (p : List (V × L) × (V × L)) : List (V × L) :=
  if p.1.length < size then edges.take size else edges.take (size - 1) ++ [p.2]

theorem firstAttempts_nil {size : Nat} {edges : List (V × L)} (h : size < edges.length) :
    firstAttempts size [] edges =
      (splits edges).map fun p => (firstChoice edges (size + 1) p, p.2) := by
  have hsplit := splits_append (edges.take (size + 1)) (edges.drop (size + 1))
  rw [List.take_append_drop] at hsplit
  have hlen : (edges.take (size + 1)).length = size + 1 := List.length_take_of_le h
  have htake : (splits (edges.take (size + 1))).map
      (fun p => (firstChoice edges (size + 1) p, p.2)) =
        (edges.take (size + 1)).map fun e => (edges.take (size + 1), e) := by
    conv_rhs => rw [← map_snd_splits (edges.take (size + 1)), List.map_map]
    refine List.map_congr_left fun p hp => ?_
    obtain ⟨after, ha⟩ := mem_splits.1 hp
    have : p.1.length < size + 1 := by
      have := congrArg List.length ha
      rw [hlen, List.length_append, List.length_cons] at this; omega
    simp [firstChoice, this, map_snd_splits]
  have hdrop : (splits (edges.drop (size + 1))).map
      ((fun p => (firstChoice edges (size + 1) p, p.2)) ∘ fun p => (edges.take (size + 1) ++ p.1, p.2)) =
        (edges.drop (size + 1)).map fun e => (edges.take size ++ [e], e) := by
    conv_rhs => rw [← map_snd_splits (edges.drop (size + 1)), List.map_map]
    refine List.map_congr_left fun p _ => ?_
    have : ¬ (edges.take (size + 1) ++ p.1).length < size + 1 := by
      rw [List.length_append, hlen]; omega
    simp only [Function.comp_apply, firstChoice, if_neg this, Nat.add_sub_cancel]
  rw [hsplit, List.map_append, List.map_map, htake, hdrop]; rfl

variable [DecidableEq V]

/-! ## Fresh vertices -/

/-- The fresh vertices without those that are gone. -/
def without (fresh gone : List V) : List V := fresh.filter (· ∉ gone)

theorem mem_without {fresh gone : List V} {v : V} : v ∈ without fresh gone ↔ v ∈ fresh ∧ v ∉ gone := by
  simp [without]

@[simp] theorem without_nil (fresh : List V) : without fresh [] = fresh := by simp [without]

theorem without_cons (fresh gone : List V) (v : V) :
    without fresh (v :: gone) = without (fresh.filter (· ≠ v)) gone := by
  simp [without, List.filter_filter, Bool.and_comm]

theorem filter_ne_of_not_mem {fresh : List V} {v : V} (h : v ∉ fresh) : fresh.filter (· ≠ v) = fresh :=
  List.filter_eq_self.2 fun w hw => by
    simp only [ne_eq, decide_not, Bool.not_eq_true', decide_eq_false_iff_not]
    rintro rfl; exact h hw

/-! ## Visited vertices -/

/-- The vertices outside a visited set. -/
def outside (all : List V) (visited : Finset V) : List V := all.filter (· ∉ visited)

/-- The visited vertices and the targets of edges. -/
def withTargets (visited : Finset V) (edges : List (V × L)) : Finset V := visited ∪ (edges.map Prod.fst).toFinset

theorem mem_outside {all : List V} {visited : Finset V} {v : V} : v ∈ outside all visited ↔ v ∈ all ∧ v ∉ visited := by simp [outside]

theorem mem_withTargets {visited : Finset V} {edges : List (V × L)} {v : V} : v ∈ withTargets visited edges ↔ v ∈ visited ∨ v ∈ edges.map Prod.fst := by
  simp only [withTargets, Finset.mem_union, List.mem_toFinset]

theorem without_outside (all : List V) (visited : Finset V) (edges : List (V × L)) :
    without (outside all visited) (edges.map Prod.fst) = outside all (withTargets visited edges) := by
  rw [without, outside, outside, List.filter_filter]
  refine List.filter_congr fun v _ => ?_
  rw [← Bool.decide_and, decide_eq_decide, mem_withTargets]
  tauto

/-! ## Entering -/

/-- The entries that come of attempts made in order. -/
def enterAll : List (Attempt V L) → List V → List (Entry V L)
  | [], _ => []
  | (c, e) :: as, fresh =>
    if e.1 ∈ fresh then ⟨c, e, fresh.filter (· ≠ e.1)⟩ :: enterAll as (fresh.filter (· ≠ e.1))
    else enterAll as fresh

theorem enterAll_append (as bs : List (Attempt V L)) (fresh : List V) :
    enterAll (as ++ bs) fresh = enterAll as fresh ++ enterAll bs (without fresh (targets as)) := by
  induction as generalizing fresh with
  | nil => simp [enterAll, targets]
  | cons a as ih =>
    obtain ⟨c, e⟩ := a
    rw [targets_cons, without_cons]
    by_cases h : e.1 ∈ fresh
    · simp [enterAll, h, ih]
    · rw [filter_ne_of_not_mem h]; simp [enterAll, h, ih]

theorem enterAll_eq_nil {as : List (Attempt V L)} {fresh : List V} (h : ∀ v ∈ targets as, v ∉ fresh) :
    enterAll as fresh = [] := by
  induction as with
  | nil => rfl
  | cons a as ih =>
    obtain ⟨c, e⟩ := a
    rw [enterAll, if_neg (h e.1 (List.mem_cons_self ..))]
    exact ih fun v hv => h v (List.mem_cons_of_mem _ hv)

/-- A fresh vertex is entered exactly when some attempt aims at it. -/
theorem mem_entered {as : List (Attempt V L)} {fresh : List V} {v : V} (hv : v ∈ fresh) :
    v ∈ (enterAll as fresh).map (·.edge.1) ↔ v ∈ targets as := by
  induction as generalizing fresh with
  | nil => simp [enterAll, targets]
  | cons a as ih =>
    obtain ⟨c, e⟩ := a
    rw [targets_cons, List.mem_cons]
    by_cases hve : v = e.1
    · subst hve; simp [enterAll, hv]
    · by_cases h : e.1 ∈ fresh
      · have hv' : v ∈ fresh.filter (· ≠ e.1) := by simp [hv, hve]
        simp [enterAll, h, hve, ← ih hv']
      · simp [enterAll, h, hve, ← ih hv]

/-- Only the fresh vertices among the targets matter for what is left. -/
theorem without_targets_congr {as bs : List (Attempt V L)} {fresh : List V}
    (h : enterAll as fresh = enterAll bs fresh) :
    without fresh (targets as) = without fresh (targets bs) := by
  refine List.filter_congr fun v hv => ?_
  have : v ∈ targets as ↔ v ∈ targets bs := by rw [← mem_entered hv, ← mem_entered hv, h]
  simp [this]

/-! ## Steps as attempts -/

namespace Step

variable {bound : Nat}

def entered? : Step V L bound → Option (Entry V L)
  | .choose _ => none
  | .enter chosen target label fresh _ => some ⟨chosen, (target, label), fresh⟩

def choice? : Step V L bound → Option (List (V × L))
  | .choose chosen => some chosen
  | .enter .. => none

variable {chosen : List (V × L)} {target : V} {label : L} {fresh : List V} {smaller : fresh.length < bound}

omit [DecidableEq V]

@[simp] theorem entered?_choose : (choose chosen : Step V L bound).entered? = none := rfl

@[simp] theorem entered?_enter :
    (enter chosen target label fresh smaller).entered? = some ⟨chosen, (target, label), fresh⟩ := rfl

@[simp] theorem choice?_choose : (choose chosen : Step V L bound).choice? = some chosen := rfl

@[simp] theorem choice?_enter : (enter chosen target label fresh smaller).choice? = none := rfl

end Step

theorem enterFresh_spec {bound : Nat} (chosen es : List (V × L)) (fresh : Fresh V bound) :
    (enterFresh chosen es fresh).1.filterMap Step.entered? =
        enterAll (es.map fun e => (chosen, e)) fresh.1 ∧
      (enterFresh chosen es fresh).1.filterMap Step.choice? = [] ∧
      (enterFresh chosen es fresh).2.1 = without fresh.1 (targets (es.map fun e => (chosen, e))) := by
  induction es generalizing fresh with
  | nil => simp [enterFresh, enterAll, targets]
  | cons e es ih =>
    obtain ⟨t, l⟩ := e
    rw [List.map_cons, targets_cons, without_cons]
    by_cases h : t ∈ fresh.1
    · obtain ⟨h1, h2, h3⟩ := ih ⟨fresh.1.filter (· ≠ t), Nat.le_of_lt (length_filter_lt h (by simp) fresh.2)⟩
      simp only [enterFresh, h, enterAll, ↓reduceDIte, ↓reduceIte]
      refine ⟨?_, ?_, h3⟩
      · simp only [List.filterMap_cons, Step.entered?_enter, h1]
      · simp only [List.filterMap_cons, Step.choice?_enter, h2]
    · simp only [enterFresh, h, enterAll, ↓reduceDIte, ↓reduceIte, filter_ne_of_not_mem h]
      exact ih fresh

/-- Going through choices makes every choice, and the entries of all their attempts in order. -/
theorem through_chooseAndEnter {bound : Nat} (choices : Feed (List (V × L))) (fresh : Fresh V bound) :
    (choices.through chooseAndEnter fresh).toList.filterMap Step.entered? =
        enterAll (attempts choices.toList) fresh.1 ∧
      (choices.through chooseAndEnter fresh).toList.filterMap Step.choice? = choices.toList := by
  induction choices generalizing fresh with
  | done => exact ⟨rfl, rfl⟩
  | next c rest ih =>
    obtain ⟨h1, h2, h3⟩ := enterFresh_spec c c fresh
    obtain ⟨i1, i2⟩ := ih () (chooseAndEnter fresh c).2
    rw [Feed.toList_through_next, List.filterMap_append, List.filterMap_append, i1, i2]
    constructor
    · simp [chooseAndEnter, List.filterMap_cons, h1, h3, attempts, enterAll_append]
    · simp [chooseAndEnter, h2]

/-! ## One size -/

theorem enterAll_append_of_gone {as bs : List (Attempt V L)} {fresh : List V}
    (h : ∀ v ∈ targets as, v ∉ fresh) : enterAll (as ++ bs) fresh = enterAll bs fresh := by
  rw [enterAll_append, enterAll_eq_nil h, List.nil_append]
  congr 1
  exact List.filter_eq_self.2 fun v hv => by simpa using fun hg => h v hg hv

/-- Choices of one more edge, when what they start with is gone. -/
theorem enterAll_ofSize_one {edges before : List (V × L)} {fresh : List V}
    (h : ∀ v ∈ before.map Prod.fst, v ∉ fresh) :
    enterAll (attempts ((Subset.ofSize 1 edges).toList.map (before ++ ·))) fresh =
      enterAll (edges.map fun e => (before ++ [e], e)) fresh := by
  induction edges generalizing fresh with
  | nil => rfl
  | cons e es ih =>
    have hfirst : enterAll ((before ++ [e]).map fun d => (before ++ [e], d)) fresh =
        enterAll [(before ++ [e], e)] fresh := by
      rw [List.map_append, enterAll_append_of_gone]
      · rfl
      · simpa [targets, Function.comp_def] using h
    have hgone := without_targets_congr hfirst
    rw [Subset.toList_ofSize_cons, List.map_append, attempts_append, enterAll_append, List.map_cons,
      ← List.singleton_append, enterAll_append, ← hfirst, ← hgone]
    simp only [Subset.toList_ofSize_zero, List.map_cons, List.map_nil, attempts, List.flatMap_cons,
      List.flatMap_nil, List.append_nil] at ih ⊢
    rw [ih]
    exact fun v hv hf => h v hv (mem_without.1 hf).1

/-- In order of positions, only the first choice that holds an edge can enter it. -/
theorem enterAll_ofSize {size : Nat} {edges : List (V × L)} (h : size < edges.length)
    (before : List (V × L)) (fresh : List V) :
    enterAll (attempts ((Subset.ofSize (size + 1) edges).toList.map (before ++ ·))) fresh =
      enterAll (firstAttempts size before edges) fresh := by
  induction edges generalizing size before fresh with
  | nil => simp at h
  | cons e es ih =>
    rw [Subset.toList_ofSize_cons, List.map_append, attempts_append, enterAll_append]
    cases size with
    | zero =>
      -- the first choice enters all of `before` and the head; the others add one edge each
      rw [enterAll_ofSize_one, firstAttempts, enterAll_append]
      · simp [attempts]
      · intro v hv hf
        refine (mem_without.1 hf).2 (mem_targets_attempts.2 ⟨before ++ [e], by simp, ?_⟩)
        rw [List.map_append]; exact List.mem_append_left _ hv
    | succ size =>
      -- the choices with the head enter everything, so those without it enter nothing
      have hhead : enterAll (attempts (((Subset.ofSize (size + 1) es).toList.map (e :: ·)).map
          (before ++ ·))) fresh = enterAll (firstAttempts (size + 1) before (e :: es)) fresh := by
        have := ih (Nat.lt_of_succ_lt_succ h) (before ++ [e]) fresh
        simpa [firstAttempts, Function.comp_def] using this
      have hrest : enterAll (attempts ((Subset.ofSize (size + 2) es).toList.map (before ++ ·)))
          (without fresh (targets (firstAttempts (size + 1) before (e :: es)))) = [] := by
        refine enterAll_eq_nil fun v hv hf => (mem_without.1 hf).2 ?_
        rw [targets_firstAttempts]
        obtain ⟨_, hmem, hv⟩ := mem_targets_attempts.1 hv
        obtain ⟨c, hc, rfl⟩ := List.mem_map.1 hmem
        have hsub := ((Subset.mem_ofSize.1 hc).1.cons e).append_left before
        exact (hsub.map Prod.fst).subset hv
      rw [without_targets_congr hhead, hhead, hrest, List.append_nil]

/-- Entering all edges in order enters those whose targets are fresh and not among the targets before, each
without the targets up to its own. -/
theorem enterAll_splits (edges : List (V × L)) (choice : List (V × L) × (V × L) → List (V × L)) (fresh : List V) :
    enterAll ((splits edges).map fun p => (choice p, p.2)) fresh =
      ((splits edges).filter fun p => p.2.1 ∈ without fresh (p.1.map Prod.fst)).map fun p =>
        ⟨choice p, p.2, without fresh ((p.1 ++ [p.2]).map Prod.fst)⟩ := by
  induction edges generalizing choice fresh with
  | nil => rfl
  | cons e es ih =>
    -- behind the head, its target is fresh no longer
    have hrest := ih (fun p => choice (e :: p.1, p.2)) (fresh.filter (· ≠ e.1))
    simp only [← without_cons] at hrest
    by_cases he : e.1 ∈ fresh
    · simp only [splits, List.map_cons, List.map_map, Function.comp_def, List.filter_map, enterAll, he,
        ↓reduceIte, hrest, decide_true, List.filter_cons_of_pos, List.map_nil, without_nil, List.nil_append,
        List.cons_append, without_cons]
    · rw [filter_ne_of_not_mem he] at hrest
      simp only [splits, List.map_cons, List.map_map, Function.comp_def, List.filter_map, enterAll, he,
        ↓reduceIte, hrest, decide_false, Bool.false_eq_true, not_false_eq_true, List.map_nil, without_nil,
        List.filter_cons_of_neg, List.cons_append]

/-- The entries of one size are those of all edges in order, each from the first choice that holds it. -/
theorem entered_sizeGroup (edges : List (V × L)) (fresh : List V) {size : Nat} (hpos : 1 ≤ size)
    (hle : size ≤ edges.length) :
    (sizeGroup edges fresh size).toList.filterMap Step.entered? =
      enterAll ((splits edges).map fun p => (firstChoice edges size p, p.2)) fresh := by
  obtain ⟨n, rfl⟩ : ∃ n, size = n + 1 := ⟨size - 1, by omega⟩
  have := enterAll_ofSize hle [] fresh
  simp only [List.nil_append, List.map_id'] at this
  rw [sizeGroup, (through_chooseAndEnter _ _).1, this, firstAttempts_nil hle]

/-- The entries of one size: every fresh target in order of the out-edges, from the first choice
that holds its edge, and without the targets up to its own. -/
def groupEntries (edges : List (V × L)) (fresh : List V) (size : Nat) : List (Entry V L) :=
  ((splits edges).filter fun p => p.2.1 ∈ fresh).map fun p =>
    ⟨firstChoice edges size p, p.2, without fresh ((p.1 ++ [p.2]).map Prod.fst)⟩

theorem entries_sizeGroup {edges : List (V × L)} (h : (edges.map Prod.fst).Nodup) (fresh : List V)
    {size : Nat} (hpos : 1 ≤ size) (hle : size ≤ edges.length) :
    (sizeGroup edges fresh size).toList.filterMap Step.entered? = groupEntries edges fresh size := by
  rw [entered_sizeGroup edges fresh hpos hle, enterAll_splits, groupEntries]
  congr 1
  refine List.filter_congr fun p hp => ?_
  -- distinct targets are none of those before
  obtain ⟨after, rfl⟩ := mem_splits.1 hp
  rw [List.map_append, List.map_cons] at h
  have hnew : p.2.1 ∉ p.1.map Prod.fst := fun hmem => (List.nodup_append.1 h).2.2 _ hmem _ (List.mem_cons_self ..) rfl
  simp only [mem_without, hnew, not_false_eq_true, and_true]

/-! ## All steps -/

theorem entries_steps {edges : List (V × L)} (h : (edges.map Prod.fst).Nodup) (fresh : List V) :
    (steps edges fresh).toList.filterMap Step.entered? =
      (List.range' 1 edges.length).flatMap (groupEntries edges fresh) := by
  rw [steps, Feed.toList_flatMap, Feed.toList_ofList, List.filterMap_flatMap]
  refine List.flatMap_congr fun size hsize => ?_
  obtain ⟨h1, h2⟩ := List.mem_range'_1.1 hsize
  exact entries_sizeGroup h fresh h1 (by omega)

theorem choices_steps (edges : List (V × L)) (fresh : List V) :
    (steps edges fresh).toList.filterMap Step.choice? = (Subset.nonEmpty edges).toList := by
  rw [steps, Feed.toList_flatMap, Feed.toList_ofList, List.filterMap_flatMap, Subset.toList_nonEmpty]
  exact List.flatMap_congr fun size _ => (through_chooseAndEnter _ _).2

end StateTraces.Enumeration
