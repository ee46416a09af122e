import StateTraces.Proofs.Log.Nesting

/-
The desk in the course of a program. The context is made of the fields of the open blocks, one over another;
a block brings back what was there before it, and every record carries the context of its moment. A logger has
the fields of the bindings that led to it, one over another, whatever else is bound.
-/

namespace StateTraces.Log

/-! ## The desk after steps -/

namespace Desk

variable {d : Desk} {s : Step} {steps : List Step}

/-- The desk after some steps. -/
def after (d : Desk) (steps : List Step) : Desk := steps.foldl (fun d s => (d.perform s).1) d

@[simp] theorem after_nil (d : Desk) : d.after [] = d := rfl

@[simp] theorem perform_leave (d : Desk) : (d.perform .leave).1 = { d with scope := d.scope.leave } := rfl

theorem perform_bind {name source : String} {fields : Table String Json}
    (h : (Step.bind name source fields).isMistaken = false) : (d.perform (.bind name source fields)).1 =
      { d with loggers := d.loggers.set name ((d.logger source).bind fields) } := by
  unfold perform
  rw [if_neg (by simp [h])]

theorem perform_mistaken (h : s.isMistaken = true) : (d.perform s).1 = d := by
  unfold perform
  rw [if_pos h]

/-- A call makes its record, and nothing else changes. -/
theorem perform_write {call : Call} (stamp? : Option Stamp) (h : (Step.write call).isMistaken = false) :
    d.perform (.write call) stamp? = (d, .lines (d.sink.elim [] (·.lines (d.record call) stamp?))) := by
  unfold perform
  rw [if_neg (by simp [h])]

end Desk

/-- The step gives the name to a logger. -/
def Step.Gives (s : Step) (name : String) : Prop :=
  ∃ source fields, s = .bind name source fields ∧ s.isMistaken = false

/-- After the steps, a name stands for a logger that was made from the logger of a root name by a chain of
bindings, the last of which gave it the name. -/
inductive Made : List Step → String → String → List (Table String Json) → Prop where
  | root {steps : List Step} {name : String} (h : ∀ s ∈ steps, ¬s.Gives name) : Made steps name name []
  | bind {before after : List Step} {name source root : String} {fields : Table String Json}
      {chain : List (Table String Json)} (hsource : Made before source root chain)
      (hgood : (Step.bind name source fields).isMistaken = false) (hafter : ∀ s ∈ after, ¬s.Gives name) :
      Made (before ++ .bind name source fields :: after) name root (chain ++ [fields])

/-- A step that does not give the name leaves its logger as it was made. -/
theorem Made.append_singleton {steps : List Step} {name root : String} {chain : List (Table String Json)}
    (h : Made steps name root chain) {s : Step} (hs : ¬s.Gives name) : Made (steps ++ [s]) name root chain := by
  have hall : ∀ {l : List Step}, (∀ s ∈ l, ¬s.Gives name) → ∀ s' ∈ l ++ [s], ¬s'.Gives name :=
    fun hl s' hs' => (List.mem_append.1 hs').elim (hl s') fun hlast => List.mem_singleton.1 hlast ▸ hs
  cases h with
  | root h => exact .root (hall h)
  | bind hsource hgood hafter =>
    rw [List.append_assoc, List.cons_append]
    exact .bind hsource hgood (hall hafter)

/-- Every name stands for a logger that was made by some chain. -/
theorem exists_made (steps : List Step) (name : String) : ∃ root chain, Made steps name root chain := by
  induction steps using List.reverseRecOn generalizing name with
  | nil => exact ⟨name, [], .root fun s hs => by cases hs⟩
  | append_singleton steps s ih =>
    by_cases hgives : s.Gives name
    · obtain ⟨source, fields, rfl, hgood⟩ := hgives
      obtain ⟨root, chain, hsource⟩ := ih source
      exact ⟨root, chain ++ [fields], .bind hsource hgood fun s hs => by cases hs⟩
    · obtain ⟨root, chain, hmade⟩ := ih name
      exact ⟨root, chain, hmade.append_singleton hgives⟩

namespace Desk

variable {name : String}

end Desk

/-! ## Every moment -/

/-- The structured logger that a call goes to. -/
def Call.logger? : Call → Option String
  | .log logger .. => some logger
  | .fail logger .. => some logger
  | .plain .. => none

/-- The data of a call without what it hands over in the place of a failure. -/
def Call.fields (call : Call) : Table String Json := call.data.filter (·.1 != Logger.failureName)

/-- What holds at a moment, when these steps have been done at a new desk. -/
structure Moment (sink : Option Sink) (steps : List Step) (d : Desk) : Prop where
  /-- Some blocks are open. -/
  exists_open : ∃ blocks, Open blocks steps
  /-- The context is made of the fields of the open blocks. -/
  context : ∀ blocks, Open blocks steps → Table.Layered blocks d.scope.current
  /-- A block that was just left brought back the context from before it was entered. -/
  left : ∀ earlier, steps = earlier ++ [.leave] → ∃ before fields body,
    earlier = before ++ .enter fields :: body ∧ Nested body ∧ d.scope = (Desk.after { sink } before).scope
  /-- A call that is not mistaken makes a record, which carries the context. -/
  written : ∀ call stamp?, (Step.write call).isMistaken = false → d.perform (.write call) stamp? =
    (d, .lines (sink.elim [] (·.lines (d.record call) stamp?))) ∧ (d.record call).context = d.scope.current
  /-- Every name stands for a logger that was made by a chain of bindings. -/
  exists_made : ∀ name, ∃ root chain, Made steps name root chain
  /-- A record of a logger has the fields of its chain and, over these, those of the call. -/
  data : ∀ call name root chain, call.logger? = some name → Made steps name root chain →
    (d.record call).logger = root ∧
      ∃ data, (d.record call).data = some data ∧ Table.Layered (chain ++ [call.fields]) data
  /-- Binding a logger changes no record that is made by another one. -/
  bound : ∀ name source fields call, call.logger? ≠ some name →
    (d.perform (.bind name source fields)).1.record call = d.record call

/-- The context of a record is that of the desk. -/
theorem Desk.record_context (d : Desk) (call : Call) : (d.record call).context = d.scope.current := by
  cases call <;> rfl

end StateTraces.Log
