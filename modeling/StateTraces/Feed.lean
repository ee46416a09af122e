/-
Sequences handed over one element at a time. The rest of a `Feed` is a function, so a search that
could yield millions of results costs only what its consumer asks for. `toList` is the view, and
every operation has one equation through it.
-/

namespace StateTraces

/-- A sequence whose rest is computed when it is asked for. -/
inductive Feed (α : Type) where
  | done
  | next (head : α) (rest : Unit → Feed α)

namespace Feed

variable {α β σ : Type}

/-- All elements, in order. -/
def toList : Feed α → List α
  | .done => []
  | .next a r => a :: toList (r ())

/-- The sequence of one element. -/
def one (a : α) : Feed α := .next a fun _ => .done

def ofList : List α → Feed α
  | [] => .done
  | a :: l => .next a fun _ => ofList l

/-- The elements of the first sequence, then those of the second. -/
def append : Feed α → (Unit → Feed α) → Feed α
  | .done, t => t ()
  | .next a r, t => .next a fun _ => append (r ()) t

def map (f : α → β) : Feed α → Feed β
  | .done => .done
  | .next a r => .next (f a) fun _ => map f (r ())

/-- Each element is replaced by a sequence. -/
def flatMap (f : α → Feed β) : Feed α → Feed β
  | .done => .done
  | .next a r => (f a).append fun _ => flatMap f (r ())

/-- Each element is replaced by a list, which depends on a state that the elements change. -/
def through (f : σ → α → List β × σ) (s : σ) : Feed α → Feed β
  | .done => .done
  | .next a r => (ofList (f s a).1).append fun _ => through f (f s a).2 (r ())

/-- Stops right after the `n`th element that satisfies `p`. -/
def upTo (p : α → Bool) : Nat → Feed α → Feed α
  | 0, _ => .done
  | _ + 1, .done => .done
  | n + 1, .next a r => .next a fun _ => upTo p (if p a then n else n + 1) (r ())

/-- The first `n` elements. -/
def take (n : Nat) (f : Feed α) : Feed α := f.upTo (fun _ => true) n

def foldl (f : σ → α → σ) : σ → Feed α → σ
  | s, .done => s
  | s, .next a r => foldl f (f s a) (r ())

/-- Runs an action for every element, in order. -/
def forM {m : Type → Type} [Monad m] (f : α → m Unit) : Feed α → m Unit
  | .done => pure ()
  | .next a r => do f a; forM f (r ())

/-! ## The view -/

@[simp] theorem toList_done : (Feed.done : Feed α).toList = [] := rfl

@[simp] theorem toList_next (a : α) (r : Unit → Feed α) :
    (Feed.next a r).toList = a :: (r ()).toList := rfl

@[simp] theorem toList_one (a : α) : (one a).toList = [a] := rfl

@[simp] theorem toList_ofList (l : List α) : (ofList l).toList = l := by
  induction l with
  | nil => rfl
  | cons a l ih => simp [ofList, ih]

@[simp] theorem toList_append (a : Feed α) (t : Unit → Feed α) :
    (a.append t).toList = a.toList ++ (t ()).toList := by
  induction a with
  | done => rfl
  | next a r ih => simp [append, ih ()]

@[simp] theorem toList_map (f : α → β) (a : Feed α) : (a.map f).toList = a.toList.map f := by
  induction a with
  | done => rfl
  | next a r ih => simp [map, ih ()]

@[simp] theorem toList_flatMap (f : α → Feed β) (a : Feed α) :
    (a.flatMap f).toList = a.toList.flatMap fun x => (f x).toList := by
  induction a with
  | done => rfl
  | next a r ih => simp [flatMap, ih ()]

theorem toList_through_next (f : σ → α → List β × σ) (s : σ) (a : α) (r : Unit → Feed α) :
    (through f s (.next a r)).toList = (f s a).1 ++ (through f (f s a).2 (r ())).toList := by
  simp [through]

theorem foldl_eq (f : σ → α → σ) (a : Feed α) (s : σ) : a.foldl f s = a.toList.foldl f s := by
  induction a generalizing s with
  | done => rfl
  | next a r ih => simp [foldl, ih ()]

@[simp] theorem toList_upTo_zero (p : α → Bool) (a : Feed α) : (a.upTo p 0).toList = [] := by
  cases a <;> rfl

end Feed

end StateTraces
