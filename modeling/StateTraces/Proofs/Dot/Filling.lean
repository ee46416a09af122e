import Mathlib.Control.Lawful
import StateTraces.Dot.Filling
import StateTraces.Proofs.Dot.Progress
import StateTraces.Proofs.Order

/-
Filling a graph while reading comes to the graph of the document that is read. A statement that is read on
the way changes the graph and tells vertices as the tree of the statement does when it is evaluated later, and
both readers move the cursor alike. So with fuel in proportion to the tokens the graph is filled exactly if
there is a document, and else both come to the same problem.
-/

namespace StateTraces.Dot

namespace Cursor

instance : LawfulMonad Cursor := .mk' Cursor
  (by
    intro α x
    funext i
    show Cursor.bind x Cursor.pure i = x i
    unfold Cursor.bind
    cases x i with
    | none => rfl
    | some r => obtain ⟨_ | a, j⟩ := r <;> rfl)
  (by intros; rfl)
  (by
    intro α β γ x f g
    funext i
    show Cursor.bind (Cursor.bind x f) g i = Cursor.bind x (fun a => Cursor.bind (f a) g) i
    unfold Cursor.bind
    cases x i with
    | none => rfl
    | some r => obtain ⟨_ | a, j⟩ := r <;> rfl)

end Cursor

namespace Filling

/-! ## Names -/

theorem declare_eraseDups (l vertices : List String) : declare l.eraseDups vertices = (l ++ vertices).eraseDups := by
  induction vertices generalizing l with
  | nil => rw [List.append_nil]; rfl
  | cons v vertices ih =>
    rw [List.append_cons, ← ih, eraseDups_append_singleton, declare, List.foldl_cons, ← declare]
    simp only [List.mem_eraseDups]

theorem foldl_declare (l : List String) (groups : List (List String)) :
    groups.foldl declare l.eraseDups = (l ++ groups.flatten).eraseDups := by
  induction groups generalizing l with
  | nil => simp
  | cons group groups ih => rw [List.foldl_cons, declare_eraseDups, ih, List.flatten_cons, List.append_assoc]

/-! ## Statements -/

variable {ts : List Token} {fuel : Nat}

/-- Filling is reading and evaluating, at the same fuel. -/
structure Evaluates (ts : List Token) (fuel : Nat) : Prop where
  group : ∀ g, (group ts fuel).run g =
    (fun body => ((evalStatements g body).2.eraseDups, (evalStatements g body).1)) <$> Cursor.group ts fuel
  endpoint : ∀ g, (endpoint ts fuel).run g = (fun e => (e.eval g).swap) <$> Cursor.endpoint ts fuel
  chain : ∀ g, (chain ts fuel).run g = (fun es => (evalEndpoints g es).swap) <$> Cursor.chain ts fuel
  /-- The first endpoint was evaluated before. -/
  edgeStatement : ∀ g first, (edgeStatement ts fuel (Endpoint.eval g first).2).run (Endpoint.eval g first).1 =
    (fun s => (s.eval g).swap) <$> Cursor.edgeStatement ts fuel first
  statement : ∀ g, (statement ts fuel).run g = (fun s => (s.eval g).swap) <$> Cursor.statement ts fuel
  /-- Some names were declared before. -/
  statements : ∀ g (l : List String), (statements ts fuel l.eraseDups).run g =
    (fun body => ((l ++ (evalStatements g body).2).eraseDups, (evalStatements g body).1)) <$> Cursor.statements ts fuel

section Step

variable (ih : Evaluates ts fuel) (g : Graph String String)

include ih

theorem group_eq : (group ts (fuel + 1)).run g =
    (fun body => ((evalStatements g body).2.eraseDups, (evalStatements g body).1)) <$> Cursor.group ts (fuel + 1) := by
  rw [group, Cursor.group]
  have hbody := ih.statements g []
  simp only [List.eraseDups_nil, List.nil_append] at hbody
  simp only [StateT.run_bind, StateT.run_pure, liftM, monadLift, MonadLift.monadLift, StateT.run_lift, hbody,
    map_eq_pure_bind, bind_assoc, pure_bind]

theorem endpoint_eq : (endpoint ts (fuel + 1)).run g =
    (fun e => (e.eval g).swap) <$> Cursor.endpoint ts (fuel + 1) := by
  rw [endpoint, Cursor.endpoint]
  simp only [StateT.run_bind, liftM, monadLift, MonadLift.monadLift, StateT.run_lift, map_eq_pure_bind, bind_assoc,
    pure_bind]
  refine bind_congr fun opens => ?_
  cases opens with
  | true =>
    simp only [if_true, ih.group, map_eq_pure_bind, bind_assoc, pure_bind]
    rfl
  | false =>
    simp only [Bool.false_eq_true, if_false, StateT.run_bind, StateT.run_lift, StateT.run_pure, bind_assoc, pure_bind]
    rfl

theorem chain_eq : (chain ts (fuel + 1)).run g =
    (fun es => (evalEndpoints g es).swap) <$> Cursor.chain ts (fuel + 1) := by
  rw [chain, Cursor.chain]
  simp only [StateT.run_bind, liftM, monadLift, MonadLift.monadLift, StateT.run_lift, map_eq_pure_bind, bind_assoc,
    pure_bind]
  refine bind_congr fun arrow => ?_
  cases arrow with
  | true =>
    simp only [if_true, StateT.run_bind, StateT.run_lift, StateT.run_pure, ih.endpoint, ih.chain, map_eq_pure_bind,
      bind_assoc, pure_bind]
    rfl
  | false => rfl

theorem edgeStatement_eq (first : Endpoint) :
    (edgeStatement ts (fuel + 1) (first.eval g).2).run (first.eval g).1 =
      (fun s => (s.eval g).swap) <$> Cursor.edgeStatement ts (fuel + 1) first := by
  rw [edgeStatement, Cursor.edgeStatement]
  have hnames := fun groups => foldl_declare [] groups
  simp only [List.eraseDups_nil, List.nil_append] at hnames
  simp only [StateT.run_bind, StateT.run_pure, StateT.run_modify, liftM, monadLift, MonadLift.monadLift,
    StateT.run_lift, ih.chain, map_eq_pure_bind, bind_assoc, pure_bind, hnames]
  rfl

theorem statement_eq : (statement ts (fuel + 1)).run g =
    (fun s => (s.eval g).swap) <$> Cursor.statement ts (fuel + 1) := by
  rw [statement, Cursor.statement]
  simp only [StateT.run_bind, liftM, monadLift, MonadLift.monadLift, StateT.run_lift, map_eq_pure_bind, bind_assoc,
    pure_bind]
  refine bind_congr fun head => ?_
  cases head with
  | none => rfl
  | some t =>
    dsimp only
    split
    · simp only [StateT.run_bind, StateT.run_lift, StateT.run_pure, bind_assoc, pure_bind]
      rfl
    split
    · simp only [StateT.run_bind, StateT.run_lift, ih.group, map_eq_pure_bind, bind_assoc, pure_bind]
      refine bind_congr fun body => bind_congr fun arrow => ?_
      cases arrow with
      | true => exact (ih.edgeStatement g (.group body)).trans (map_eq_pure_bind ..)
      | false => rfl
    split
    · simp only [StateT.run_bind, StateT.run_lift, bind_assoc, pure_bind]
      refine bind_congr fun next => ?_
      split
      · simp only [StateT.run_bind, StateT.run_lift, StateT.run_pure, bind_assoc, pure_bind]
        rfl
      · simp only [StateT.run_bind, StateT.run_lift, bind_assoc, pure_bind]
        refine bind_congr fun name => bind_congr fun arrow => ?_
        cases arrow with
        | true => exact (ih.edgeStatement g (.vertex name)).trans (map_eq_pure_bind ..)
        | false =>
          simp only [Bool.false_eq_true, if_false, StateT.run_bind, StateT.run_lift, StateT.run_modify,
            StateT.run_pure, bind_assoc, pure_bind]
          rfl
    · rfl

theorem statements_eq (l : List String) : (statements ts (fuel + 1) l.eraseDups).run g =
    (fun body => ((l ++ (evalStatements g body).2).eraseDups, (evalStatements g body).1)) <$>
      Cursor.statements ts (fuel + 1) := by
  rw [statements, Cursor.statements]
  simp only [StateT.run_bind, liftM, monadLift, MonadLift.monadLift, StateT.run_lift, map_eq_pure_bind, bind_assoc,
    pure_bind]
  refine bind_congr fun head => ?_
  cases head with
  | none => simp [evalStatements]
  | some t =>
    dsimp only
    split
    · simp [evalStatements]
    · simp only [StateT.run_bind, StateT.run_lift, ih.statement, ih.statements, declare_eraseDups, map_eq_pure_bind,
        bind_assoc, pure_bind, evalStatements, List.append_assoc, Prod.fst_swap, Prod.snd_swap]

end Step

theorem evaluates (ts : List Token) (fuel : Nat) : Evaluates ts fuel := by
  induction fuel with
  | zero => exact ⟨fun _ => rfl, fun _ => rfl, fun _ => rfl, fun _ _ => rfl, fun _ => rfl, fun _ _ => rfl⟩
  | succ fuel ih =>
    exact ⟨group_eq ih, endpoint_eq ih, chain_eq ih, edgeStatement_eq ih, statement_eq ih, statements_eq ih⟩

end Filling

/-! ## Texts -/

/-- Filling comes to the graph of the document. -/
theorem fill_eq (ts : List Token) (fuel : Nat) : fill ts fuel = Document.graph <$> Cursor.document ts fuel := by
  have hbody := (Filling.evaluates ts fuel).statements .empty []
  simp only [List.eraseDups_nil, List.nil_append] at hbody
  rw [fill, Filling.document, Cursor.document]
  simp only [StateT.run_bind, liftM, monadLift, MonadLift.monadLift, StateT.run_lift, hbody, map_eq_pure_bind,
    bind_assoc, pure_bind]
  -- only the end of the text is left, which fails in both or in none
  refine bind_congr fun _ => bind_congr fun _ => bind_congr fun _ => bind_congr fun _ => bind_congr fun _ =>
    bind_congr fun _ => bind_congr fun more => ?_
  cases more <;> rfl

/-- With fuel for all tokens the graph is filled exactly if there is a document, and else there is the same
problem. -/
theorem fill_answers (ts : List Token) {fuel : Nat} (hfuel : 6 * ts.length + 5 < fuel) :
    ∃ i, fill ts fuel 0 = some ((readDocument ts).map Document.graph, i) := by
  rw [fill_eq]
  have hfinished := Cursor.finished_document ts hfuel
  generalize ho : Cursor.document ts fuel 0 = o at hfinished
  cases hfinished with
  | read h =>
    refine ⟨ts.length, ?_⟩
    rw [h, map_eq_pure_bind, Cursor.bind_returned ho]
    rfl
  | @failed p i h =>
    refine ⟨i, ?_⟩
    rw [h, map_eq_pure_bind, Cursor.bind_failed ho]
    rfl

end StateTraces.Dot
