import StateTraces.Log.Desk
import StateTraces.Proofs.Table

/-
Blocks inside blocks, and loggers bound from loggers. A block of a program is left whether or not something is
raised in it, so its steps are nested. At every moment the context is made of the fields of the blocks that
are open, one over another, and leaving a block brings back what was there before. What a logger adds depends
on the bindings that led to it, and on nothing else.
-/

namespace StateTraces.Log

/-! ## Programs and their courses -/

/-- A part of a program: it binds a logger, writes a record, raises something, does its work inside a block, or
handles what is raised in a part of it. -/
inductive Act where
  | bind (name source : String) (fields : Table String Json)
  | write (call : Call)
  | raise
  | block (fields : Table String Json) (body : List Act)
  | guarded (body handler : List Act)

/-- The steps that were taken, and whether they ended because something was raised. -/
structure Course where
  steps : List Step
  raised : Bool

/-- A mistaken step raises. -/
def Course.ofStep (s : Step) : Course := ⟨[s], s.isMistaken⟩

mutual

/-- The course of a part. What is raised in a block leaves it. -/
def Act.course : Act → Course
  | .bind name source fields => .ofStep (.bind name source fields)
  | .write call => .ofStep (.write call)
  | .raise => ⟨[], true⟩
  | .block fields body => ⟨.enter fields :: ((courseOf body).steps ++ [.leave]), (courseOf body).raised⟩
  | .guarded body handler =>
    if (courseOf body).raised then ⟨(courseOf body).steps ++ (courseOf handler).steps, (courseOf handler).raised⟩
    else courseOf body

/-- The course of parts one after another, up to one that raises. -/
def courseOf : List Act → Course
  | [] => ⟨[], false⟩
  | act :: acts =>
    if act.course.raised then act.course
    else ⟨act.course.steps ++ (courseOf acts).steps, (courseOf acts).raised⟩

end

/-! ## Nested steps -/

/-- Whether a step neither enters nor leaves a block. -/
def Step.isInner : Step → Bool
  | .enter _ | .leave => false
  | .bind .. | .write _ => true

/-- Every block that is entered is left, and every one that is left was entered. -/
inductive Nested : List Step → Prop where
  | nil : Nested []
  | inner {s : Step} {more : List Step} (hinner : s.isInner = true) (hmore : Nested more) : Nested (s :: more)
  | block (fields : Table String Json) {body more : List Step} (hbody : Nested body) (hmore : Nested more) :
      Nested (.enter fields :: (body ++ .leave :: more))

/-- The steps leave blocks with these fields open, the outermost one first. -/
inductive Open : List (Table String Json) → List Step → Prop where
  | none {steps : List Step} (h : Nested steps) : Open [] steps
  | block {fields : Table String Json} {blocks : List (Table String Json)} {before inside : List Step}
      (hbefore : Nested before) (hinside : Open blocks inside) :
      Open (fields :: blocks) (before ++ .enter fields :: inside)

theorem Nested.append {steps more : List Step} (h : Nested steps) (hmore : Nested more) : Nested (steps ++ more) := by
  induction h with
  | nil => exact hmore
  | inner hinner _ ih => exact .inner hinner ih
  | block fields hbody _ _ ih =>
    rw [List.cons_append, List.append_assoc]
    exact .block fields hbody ih

theorem Nested.append_open {steps more : List Step} {blocks : List (Table String Json)} (h : Nested steps)
    (hmore : Open blocks more) : Open blocks (steps ++ more) := by
  cases hmore with
  | none hmore => exact .none (h.append hmore)
  | block hbefore hinside =>
    rw [← List.append_assoc]
    exact .block (h.append hbefore) hinside

mutual

theorem Act.nested_course (act : Act) : Nested act.course.steps := by
  match act with
  | .bind name source fields => exact .inner rfl .nil
  | .write call => exact .inner rfl .nil
  | .raise => exact .nil
  | .block fields body => exact .block fields (nested_courseOf body) .nil
  | .guarded body handler =>
    unfold Act.course
    split
    · exact (nested_courseOf body).append (nested_courseOf handler)
    · exact nested_courseOf body

/-- The course of a program is nested, whatever is raised on the way. -/
theorem nested_courseOf (acts : List Act) : Nested (courseOf acts).steps := by
  match acts with
  | [] => exact .nil
  | act :: acts =>
    unfold courseOf
    split
    · exact act.nested_course
    · exact act.nested_course.append (nested_courseOf acts)

end

/-- A moment of a block and what follows it is before the block, inside it, or after it was left. -/
theorem moment_of_block {fields : Table String Json} {body more before after : List Step}
    (h : .enter fields :: (body ++ .leave :: more) = before ++ after) :
    before = [] ∨
    (∃ inside rest, before = .enter fields :: inside ∧ body = inside ++ rest ∧ after = rest ++ .leave :: more) ∨
    ∃ behind, before = .enter fields :: (body ++ .leave :: behind) ∧ more = behind ++ after := by
  cases before with
  | nil => exact .inl rfl
  | cons s before =>
    obtain ⟨rfl, hrest⟩ := List.cons.inj h
    obtain ⟨behind, rfl, hbehind⟩ | ⟨rest, hbody, hafter⟩ := List.append_eq_append_iff.1 hrest
    · cases behind with
      | nil => exact .inr (.inl ⟨body, [], by rw [List.append_nil], by rw [List.append_nil], hbehind.symm⟩)
      | cons s behind =>
        obtain ⟨rfl, hmore⟩ := List.cons.inj hbehind
        exact .inr (.inr ⟨behind, rfl, hmore⟩)
    · exact .inr (.inl ⟨before, rest, rfl, hbody, hafter⟩)

/-- At every moment of nested steps some blocks are open. -/
theorem Nested.exists_open {steps before after : List Step} (h : Nested steps) (hsplit : steps = before ++ after) :
    ∃ blocks, Open blocks before := by
  induction h generalizing before after with
  | nil =>
    rw [(List.append_eq_nil_iff.1 hsplit.symm).1]
    exact ⟨[], .none .nil⟩
  | inner hinner _ ih =>
    cases before with
    | nil => exact ⟨[], .none .nil⟩
    | cons s before =>
      obtain ⟨rfl, hmore⟩ := List.cons.inj hsplit
      obtain ⟨blocks, hblocks⟩ := ih hmore
      exact ⟨blocks, (Nested.inner hinner .nil).append_open hblocks⟩
  | block fields hbody _ ihbody ihmore =>
    obtain rfl | ⟨inside, rest, rfl, hinside, -⟩ | ⟨behind, rfl, hbehind⟩ := moment_of_block hsplit
    · exact ⟨[], .none .nil⟩
    · obtain ⟨blocks, hblocks⟩ := ihbody hinside
      exact ⟨fields :: blocks, .block .nil hblocks⟩
    · obtain ⟨blocks, hblocks⟩ := ihmore hbehind
      have hblock := (Nested.block fields hbody .nil).append_open hblocks
      rw [List.cons_append, List.append_assoc] at hblock
      exact ⟨blocks, hblock⟩

end StateTraces.Log
