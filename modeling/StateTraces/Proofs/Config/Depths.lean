import StateTraces.Proofs.Config.Library

/-
Depths among the settings. Depths that are handed over as integers count before all other origins: settings
have just these depths if none of them is negative, and a negative one is refused before any other value is
looked at, the minimum first.
-/

namespace StateTraces

namespace Config

open Files (Disk)

/-! ## Depths -/

/-- The report of a negative depth. -/
def negativeDepth (field : Field) (n : Int) : Report :=
  badSetting field (s!"{field.name} must be non-negative" ++ ", got " ++ String.ofList (Text.decimal n))
    [("hint", .str "omit the option for unbounded depth")]

theorem readDepth_nonneg (field : Field) {n : Int} (h : 0 ≤ n) :
    readDepth field (.int n) = .ok (.ok (some n.toNat)) := by
  simp [readDepth, wholeNumber?, Int.not_lt.2 h]

/-- A negative depth is reported if it can be written, and else it does not fit. -/
theorem readDepth_negative (field : Field) {n : Int} (h : n < 0) : readDepth field (.int n) =
    if Text.isShort n then .error (.reported (negativeDepth field n)) else .ok (misfit field .writable) := by
  cases hshort : Text.isShort n with
  | true => simp [readDepth, wholeNumber?, h, Text.writeInteger?_of_isShort hshort, negativeDepth]
  | false => simp [readDepth, wholeNumber?, h, Text.writeInteger?_of_not_isShort hshort]

theorem nonneg_of_readDepth {field : Field} {n : Int} {m : Option Nat} (h : readDepth field (.int n) = .ok (.ok m)) :
    0 ≤ n ∧ m = some n.toNat := by
  by_cases hn : n < 0
  · rw [readDepth_negative field hn] at h
    split at h <;> cases h
  · have hnonneg := Int.not_lt.1 hn
    rw [readDepth_nonneg field hnonneg] at h
    cases h
    exact ⟨hnonneg, rfl⟩

/-! ## Depths that are handed over -/

/-- The values of a table, and two integers for the depths. -/
def handing (values : Table String Value) (a b : Int) : Table String Value :=
  (values.set Field.minDepth.name (.int a)).set Field.maxDepth.name (.int b)

/-- Integers for both depths are handed over. -/
structure Hands (values : Table String Value) (a b : Int) : Prop where
  minDepth : values.get? Field.minDepth.name = some (.int a)
  maxDepth : values.get? Field.maxDepth.name = some (.int b)

section Handed

variable {lib : Library} (hlib : lib.Documented) {values : Table String Value} {a b : Int} {d : Disk}
  {env : Environment} {found : Found} {s : Settings}

theorem get?_handing (values : Table String Value) (a b : Int) (name : String) :
    (handing values a b).get? name = if Field.maxDepth.name = name then some (.int b)
      else if Field.minDepth.name = name then some (.int a) else values.get? name := by
  rw [handing, Table.get?_set, Table.get?_set]

theorem hands_handing (values : Table String Value) (a b : Int) : Hands (handing values a b) a b :=
  ⟨by simp [get?_handing, Field.name], by simp [get?_handing, Field.name]⟩

/-- The name of a setting does not say how variables are looked up. -/
theorem not_isOption_name (f : Field) : ¬IsOption f.name := by
  cases f <;> decide +kernel

theorem get?_handing_of_isOption {name : String} (h : IsOption name) :
    (handing values a b).get? name = values.get? name := by
  have hother : ∀ f : Field, f.name ≠ name := by
    rintro f rfl
    exact not_isOption_name f h
  rw [get?_handing, if_neg (hother _), if_neg (hother _)]

theorem bare_handing (a b : Int) : Bare (handing [] a b) := fun _ hname => get?_handing_of_isOption hname

theorem get?_handing_of_ne {f : Field} (h : f ∉ Field.depths) : (handing values a b).get? f.name = values.get? f.name := by
  have hother : ∀ g ∈ Field.depths, g.name ≠ f.name := fun g hg hname => h (Field.name_injective hname ▸ hg)
  rw [get?_handing, if_neg (hother _ (by decide)), if_neg (hother _ (by decide))]

include hlib

/-- Settings that are made with depths have just these depths, and they are not negative. -/
theorem make_depths (h : Hands values a b) (hmake : lib.make d env values = .ok s) :
    (0 ≤ a ∧ 0 ≤ b) ∧ s.minDepth = some a.toNat ∧ s.maxDepth = some b.toNat := by
  obtain ⟨found, -, hsets⟩ := (make_iff hlib).1 hmake
  have hmin := hsets .minDepth
  have hmax := hsets .maxDepth
  rw [h.minDepth] at hmin
  rw [h.maxDepth] at hmax
  obtain ⟨ha, hs⟩ := nonneg_of_readDepth hmin
  obtain ⟨hb, ht⟩ := nonneg_of_readDepth hmax
  exact ⟨⟨ha, hb⟩, hs, ht⟩

/-- Depths that are not negative can be handed over wherever there are settings, and change nothing else. -/
theorem make_handing (ha : 0 ≤ a) (hb : 0 ≤ b) (hmake : lib.make d env values = .ok s) :
    lib.make d env (handing values a b) = .ok { s with minDepth := some a.toNat, maxDepth := some b.toNat } := by
  obtain ⟨found, hfind, hsets⟩ := (make_iff hlib).1 hmake
  obtain ⟨found', hfind', hbeneath⟩ := exists_find hlib (handing values a b)
    (fun _ hname => get?_handing_of_isOption hname) hfind
  refine (make_iff hlib).2 ⟨found', hfind', fun f => ?_⟩
  rw [hbeneath]
  have hands := hands_handing values a b
  by_cases hf : f ∈ Field.depths
  · rcases Field.mem_depths.1 hf with rfl | rfl
    · rw [hands.minDepth]
      exact readDepth_nonneg .minDepth ha
    · rw [hands.maxDepth]
      exact readDepth_nonneg .maxDepth hb
  · rw [get?_handing_of_ne hf]
    refine (hsets f).of_same ?_
    cases f <;> first | exact rfl | exact absurd (by decide) hf

/-- A negative depth that is handed over is reported before any other value is looked at, the minimum first. -/
theorem make_negative (h : Hands values a b) (hfind : lib.find d env values = .ok found) :
    (a < 0 → Text.isShort a → lib.make d env values = .error (.refused (.reported (negativeDepth .minDepth a)))) ∧
    (0 ≤ a → b < 0 → Text.isShort b →
      lib.make d env values = .error (.refused (.reported (negativeDepth .maxDepth b)))) := by
  have hmin : lib.value found .minDepth = some (.int a) := by rw [value_eq hlib hfind, h.minDepth]; rfl
  have hmax : lib.value found .maxDepth = some (.int b) := by rw [value_eq hlib hfind, h.maxDepth]; rfl
  refine ⟨fun ha hshort => ?_, fun ha hb hshort => ?_⟩
  · refine hlib.make_raises (f := .minDepth) hfind (fun g hg => absurd hg (by cases g <;> decide)) ?_
    rw [hmin]
    exact (readDepth_negative .minDepth ha).trans (if_pos hshort)
  · refine hlib.make_raises (f := .maxDepth) hfind (fun g hg r hraises => ?_) ?_
    · obtain rfl : g = .minDepth := by
        cases g <;> first | rfl | exact absurd hg (by decide)
      rw [hmin] at hraises
      have hfits := (readDepth_nonneg .minDepth ha).symm.trans hraises
      cases hfits
    · rw [hmax]
      exact (readDepth_negative .maxDepth hb).trans (if_pos hshort)

/-- Where nothing else is set, a negative minimum that cannot be written is a value that does not fit. -/
theorem make_long_minimum (ha : a < 0) (hlong : Text.isShort a = false) (hb : 0 ≤ b) :
    ∃ misfits, lib.make {} [] (handing [] a b) = .error (.refused (.misfits misfits)) := by
  obtain ⟨found, hfind, hbeneath⟩ := exists_find_distinct hlib (bare_handing a b) noEnvFile_empty distinct_nil
  have hvalue : ∀ f, lib.value found f = (handing [] a b).get? f.name := fun f => by
    rw [value_eq hlib hfind, hbeneath]
    exact Option.or_none
  have hread : readDepth .minDepth (.int a) = .ok (misfit .minDepth .writable) := by
    rw [readDepth_negative .minDepth ha, hlong, if_neg Bool.false_ne_true]
  refine hlib.make_misfits hfind (fun f r hraises => ?_) fun s hsets => ?_
  · rw [hvalue] at hraises
    cases f with
    | minDepth => cases hread.symm.trans hraises
    | maxDepth => cases (readDepth_nonneg .maxDepth hb).symm.trans hraises
    | _ => exact hraises
  · have hset := hsets .minDepth
    rw [hvalue] at hset
    cases hread.symm.trans hset

end Handed

end Config

end StateTraces
