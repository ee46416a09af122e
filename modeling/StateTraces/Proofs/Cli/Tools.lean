import StateTraces.Cli.Run
import StateTraces.Proofs.Action
import StateTraces.Proofs.Text.Integer

/-
What is relied on where the command line is read and texts are shown elsewhere: the end of a run whose
arguments are at fault, a text on lines of its own, and that bounds are read from texts. The usual tools
have these properties.
-/

namespace StateTraces.Cli

open Files (Disk)

/-- Bounds that are no longer than what can be read. -/
def Choices.Short (c : Choices) : Prop := ∀ n, c.minimum = some n ∨ c.maximum = some n → Text.isShort n = true

/-- What is documented of the tools. -/
structure Tools.Documented (tools : Tools) : Prop where
  usageError_code : ∀ d command message, (tools.usageError d command message).code = 2
  usageError_disk : ∀ d command message, (tools.usageError d command message).disk = d
  echo_eq : ∀ s, tools.terminal.echo s = s ++ "\n"
  /-- Integers of more digits are refused. -/
  own_short : ∀ {d args c files}, tools.own d .generate args = .ok (.generate c files) → c.Short

/-! ## The usual tools -/

section Usual

variable {d : Disk} {c c' : Switches}

theorem isShort_of_readInteger {m : Meaning} {s : String} {n : Int} (h : readInteger m s = .ok n) :
    Text.isShort n = true := by
  unfold readInteger at h
  split at h
  · rename_i hread
    cases h
    exact Text.isShort_of_readInteger? hread
  · cases h

/-- A switch that is taken in sets a bound to what was read, or no bound. -/
theorem Switches.take_short {s : Setting Meaning} (hc : c.toChoices.Short) (h : c.take d s = .ok c') :
    c'.toChoices.Short := by
  obtain ⟨meaning, text⟩ := s
  cases meaning with
  | minimum =>
    obtain ⟨n, hread, rfl⟩ := map_ok_iff.1 h
    rintro m (hm | hm)
    · obtain rfl := Option.some.inj hm
      exact isShort_of_readInteger hread
    · exact hc m (.inr hm)
  | maximum =>
    obtain ⟨n, hread, rfl⟩ := map_ok_iff.1 h
    rintro m (hm | hm)
    · exact hc m (.inl hm)
    · obtain rfl := Option.some.inj hm
      exact isShort_of_readInteger hread
  | config | format =>
    obtain ⟨_, -, rfl⟩ := map_ok_iff.1 h
    exact hc
  | help | verbose | jsonLogs | includePaths | showTraces =>
    cases h
    exact hc

theorem Switches.ofSettings_short {given : Table Meaning String} (h : Switches.ofSettings d given = .ok c) :
    c.toChoices.Short := by
  have hnone : ({} : Choices).Short := fun n h => by rcases h with h | h <;> cases h
  unfold ofSettings at h
  split at h
  · cases h
    exact hnone
  · exact foldlM_preserves (P := fun c : Switches => c.toChoices.Short) (fun _ _ _ => take_short) hnone h

theorem readOwn_short {args files : List String} {choices : Choices}
    (h : readOwn d .generate args = .ok (.generate choices files)) : choices.Short := by
  simp only [readOwn, bind, Except.bind] at h
  split at h
  · cases h
  split at h
  · cases h
  rename_i c hc
  split at h
  · cases h
  -- the request holds the choices that were read
  obtain ⟨rfl, -⟩ := Request.generate.inj (Except.ok.inj h)
  cases hswitches : Switches.ofSettings d _ with
  | error complaint => rw [hswitches] at hc; cases hc
  | ok c' =>
    rw [hswitches] at hc
    obtain rfl := Except.ok.inj hc
    exact Switches.ofSettings_short hswitches

theorem Tools.usual_documented : Tools.usual.Documented where
  usageError_code _ _ _ := rfl
  usageError_disk _ _ _ := rfl
  echo_eq _ := rfl
  own_short := readOwn_short

end Usual

end StateTraces.Cli
