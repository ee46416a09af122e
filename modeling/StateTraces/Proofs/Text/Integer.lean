import StateTraces.Text.Numeral

/-
Integers that are read from texts have no more digits than may be written.
-/

namespace StateTraces.Text

open Binary64 (tenTo)

theorem tenTo_le {m n : Nat} (h : m ≤ n) : tenTo m ≤ tenTo n := Nat.pow_le_pow_right (by decide) h

theorem digitValue?_lt {c : Char} {d : Nat} (h : digitValue? c = some d) : d < 10 := by
  obtain ⟨z, hz, rfl⟩ := Option.map_eq_some_iff.1 h
  have hrange := List.find?_some hz
  simp only [Bool.and_eq_true, decide_eq_true_eq] at hrange
  omega

/-- One digit more makes a number of one digit more. -/
theorem append_digit_lt {acc count d : Nat} (hacc : acc < tenTo count) (hd : d < 10) :
    acc * 10 + d < tenTo (count + 1) := by
  rw [show tenTo (count + 1) = tenTo count * 10 from rfl]
  omega

theorem readDigits_lt (cs : List Char) {acc count n : Nat} (hacc : acc < tenTo count)
    (h : readDigits acc count cs = some n) : n < tenTo mostDigits := by
  induction acc, count, cs using readDigits.induct with
  | case1 acc count hcount =>
    rw [readDigits, if_pos hcount] at h
    obtain rfl := Option.some.inj h
    exact Nat.lt_of_lt_of_le hacc (tenTo_le hcount)
  | case2 acc count hcount =>
    rw [readDigits, if_neg hcount] at h
    cases h
  | case3 acc count c cs ih =>
    rw [readDigits] at h
    obtain ⟨d, hd, hrest⟩ := Option.bind_eq_some_iff.1 h
    exact ih d (append_digit_lt hacc (digitValue?_lt hd)) hrest
  | case4 acc count c cs hno ih =>
    rw [readDigits.eq_3 acc count c cs hno] at h
    obtain ⟨d, hd, hrest⟩ := Option.bind_eq_some_iff.1 h
    exact ih d (append_digit_lt hacc (digitValue?_lt hd)) hrest

theorem readUnsigned?_lt {cs : List Char} {n : Nat} (h : readUnsigned? cs = some n) : n < tenTo mostDigits := by
  cases cs with
  | nil => cases h
  | cons c cs =>
    obtain ⟨d, hd, hrest⟩ := Option.bind_eq_some_iff.1 h
    exact readDigits_lt cs (digitValue?_lt hd) hrest

/-- What is read can be written. -/
theorem isShort_of_readInteger? {s : String} {n : Int} (h : readInteger? s = some n) : isShort n = true := by
  suffices hlt : n.natAbs < tenTo mostDigits from decide_eq_true hlt
  unfold readInteger? at h
  split at h
  · obtain ⟨m, hm, rfl⟩ := Option.map_eq_some_iff.1 h
    obtain ⟨k, hk, hkm⟩ := Option.bind_eq_some_iff.1 hm
    obtain rfl := Option.some.inj hkm
    rw [Int.natAbs_neg]
    exact readUnsigned?_lt hk
  · obtain ⟨m, hm, rfl⟩ := Option.map_eq_some_iff.1 h
    exact readUnsigned?_lt hm
  · obtain ⟨m, hm, rfl⟩ := Option.map_eq_some_iff.1 h
    exact readUnsigned?_lt hm

end StateTraces.Text
