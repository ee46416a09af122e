import Mathlib.Data.List.Infix
import Mathlib.Order.Bounds.Basic
import StateTraces.Proofs.Dot.Layout

/-
An angle text ends where brackets are paired for the first time. The scan knows nothing but the brackets:
quotes, comments, number signs and newlines inside are text like any other. So the text behind an angle
text is read as if the angle text was a word, only its place has to count the lines inside.
-/

namespace StateTraces.Dot

/-- As many closing as opening brackets. -/
def Paired (text : List Char) : Prop := text.count '>' = text.count '<'

/-- The stop of the angle text whose bracket opens at a place of a text, behind its closing bracket. -/
def angleStop (text : List Char) (start : Nat) : Option Nat :=
  (angleEnd 0 (text.drop (start + 1))).map (start + 1 + ·)

/-- The places behind an opening bracket up to which all brackets are paired. -/
def pairedStops (text : List Char) (start : Nat) : Set Nat :=
  { stop | start < stop ∧ stop ≤ text.length ∧ Paired (text.extract start stop) }

/-! ## Scan -/

section Scan

variable {text cs : List Char} {depth n start : Nat}

/-- A scan that ends has met one closing bracket too many, and not before its end. -/
theorem excess_of_angleEnd (h : angleEnd depth cs = some n) :
    n ≤ cs.length ∧ (cs.take n).count '>' = (cs.take n).count '<' + depth + 1 ∧
      ∀ k < n, (cs.take k).count '>' ≤ (cs.take k).count '<' + depth := by
  obtain ⟨body, rest, rfl, rfl, hbody⟩ := angleEnd_eq_some.1 h
  refine ⟨by simp, ?_, fun k hk => ?_⟩
  · have htake : (body ++ '>' :: rest).take (body.length + 1) = body ++ ['>'] := by
      rw [List.append_cons, List.take_left' (by simp)]
    rw [htake, List.count_append, List.count_append, hbody.total]
    simp
  · rw [List.take_append_of_le_length (by omega)]
    exact hbody.inside _ (List.take_prefix k body)

/-- A scan that does not end meets no closing bracket too many. -/
theorem no_excess_of_angleEnd (h : angleEnd depth cs = none) (k : Nat) :
    (cs.take k).count '>' ≤ (cs.take k).count '<' + depth := by
  induction cs generalizing depth k with
  | nil => simp
  | cons c cs ih =>
    cases k with
    | zero => simp
    | succ k =>
      rw [List.take_succ_cons]
      unfold angleEnd at h
      split at h
      · rename_i hopen
        have := ih (Option.map_eq_none_iff.1 h) k
        simp only [List.count_cons, hopen]
        simp
        omega
      rename_i hopen
      split at h
      · rename_i hclose
        cases depth with
        | zero => cases h
        | succ depth =>
          have := ih (Option.map_eq_none_iff.1 h) k
          simp only [List.count_cons, hclose]
          simp
          omega
      · rename_i hclose
        rw [List.count_cons_of_ne hopen, List.count_cons_of_ne hclose]
        exact ih (Option.map_eq_none_iff.1 h) k

/-- Brackets are paired up to a place if one more is closed behind the opening one than is opened there. -/
theorem paired_extract (h : text[start]? = some '<') (k : Nat) :
    Paired (text.extract start (start + 1 + k)) ↔
      ((text.drop (start + 1)).take k).count '>' = ((text.drop (start + 1)).take k).count '<' + 1 := by
  obtain ⟨hlt, hget⟩ := List.getElem?_eq_some_iff.1 h
  have hlength : start + 1 + k - start = k + 1 := by omega
  rw [List.extract_eq_take_drop, List.drop_eq_getElem_cons hlt, hget, hlength, List.take_succ_cons]
  unfold Paired
  simp

theorem angleStop_isLeast (h : text[start]? = some '<') {stop : Nat} (hstop : angleStop text start = some stop) :
    IsLeast (pairedStops text start) stop := by
  obtain ⟨n, hn, rfl⟩ := Option.map_eq_some_iff.1 hstop
  obtain ⟨hle, htotal, hinside⟩ := excess_of_angleEnd hn
  have hlt := (List.getElem?_eq_some_iff.1 h).1
  constructor
  · rw [List.length_drop] at hle
    exact ⟨by omega, by omega, (paired_extract h n).2 htotal⟩
  · rintro j ⟨hstart, -, hpaired⟩
    obtain ⟨k, rfl⟩ : ∃ k, j = start + 1 + k := ⟨j - (start + 1), by omega⟩
    have := (paired_extract h k).1 hpaired
    by_contra hk
    have := hinside k (by omega)
    omega

theorem pairedStops_of_none (h : text[start]? = some '<') (hnone : angleStop text start = none) :
    pairedStops text start = ∅ := by
  refine Set.eq_empty_of_forall_notMem ?_
  rintro j ⟨hstart, -, hpaired⟩
  obtain ⟨k, rfl⟩ : ∃ k, j = start + 1 + k := ⟨j - (start + 1), by omega⟩
  have := (paired_extract h k).1 hpaired
  have := no_excess_of_angleEnd (Option.map_eq_none_iff.1 hnone) k
  omega

/-- The stop is the first place with paired brackets, and there is none if there is no such place. -/
theorem angleStop_eq (h : text[start]? = some '<') :
    (∀ stop, angleStop text start = some stop ↔ IsLeast (pairedStops text start) stop) ∧
      (angleStop text start = none ↔ pairedStops text start = ∅) := by
  cases hfound : angleStop text start with
  | none =>
    have hempty := pairedStops_of_none h hfound
    refine ⟨fun stop => ⟨nofun, fun hleast => ?_⟩, fun _ => hempty, fun _ => rfl⟩
    exact absurd hleast.1 (by simp [hempty])
  | some found =>
    have hfirst := angleStop_isLeast h hfound
    refine ⟨fun stop => ⟨fun he => ?_, fun hleast => ?_⟩, nofun, fun hempty => ?_⟩
    · rw [← Option.some.inj he]
      exact hfirst
    · rw [hfirst.unique hleast]
    · exact absurd hfirst.1 (by simp [hempty])

end Scan

/-! ## Text behind an angle text -/

/-- The angle text with its brackets. -/
def angled (body : String) : List Char := '<' :: (body.toList ++ ['>'])

section Behind

variable {body : String}

theorem spells_angled (h : Closing 0 body.toList) : Spells (.angle body) (angled body) := by
  have := Spells.angle h
  rwa [String.ofList_toList] at this

/-- The token of an angle text comes first, and the text behind it is cut on from there. -/
theorem tokens_angled (h : Closing 0 body.toList) (rest : String) :
    tokens ("<" ++ body ++ ">" ++ rest) =
      (tokensFrom false (place (angled body)) rest.toList).map (⟨.angle body, .start⟩ :: ·) := by
  have htext : ("<" ++ body ++ ">" ++ rest).toList = angled body ++ rest.toList := by simp [angled]
  have hplace : place (angled body) = Position.start.advance (angled body) := place_append [] (angled body)
  rw [tokens, htext, (spells_angled h).tokensFrom fun _ _ => trivial, hplace]

theorem angleStop_angled (h : Closing 0 body.toList) (rest : List Char) :
    angleStop (angled body ++ rest) 0 = some (angled body).length := by
  have hend : angleEnd 0 (body.toList ++ '>' :: rest) = some (body.toList.length + 1) :=
    angleEnd_eq_some.2 ⟨body.toList, rest, rfl, rfl, h⟩
  have hdrop : (angled body ++ rest).drop (0 + 1) = body.toList ++ '>' :: rest := by simp [angled]
  rw [angleStop, hdrop, hend]
  simp [angled]
  omega

end Behind

/-- An angle text stops at the first place behind its opening bracket up to which all brackets are paired, and
has no stop if there is no such place. So a text whose closing brackets all close one of its own is taken
between two brackets as it is. What stands behind is cut on: its tokens are those of its layout behind the
angle text, each at its place in the whole, or it is refused where it is stuck there. -/
theorem angle_taken_shortest :
    (∀ (text : List Char) (start : Nat), text[start]? = some '<' →
      (∀ stop, angleStop text start = some stop ↔ IsLeast (pairedStops text start) stop) ∧
      (angleStop text start = none ↔ pairedStops text start = ∅)) ∧
    ∀ body rest : String, Closing 0 body.toList →
      angleStop (angled body ++ rest.toList) 0 = some (angled body).length ∧
      tokens ("<" ++ body ++ ">" ++ rest) =
        (tokensFrom false (place (angled body)) rest.toList).map (⟨.angle body, ⟨1, 1⟩⟩ :: ·) ∧
      (∀ ts, tokensFrom false (place (angled body)) rest.toList = .ok ts ↔ Layout [] (angled body) rest.toList ts) ∧
      ∀ fault, tokensFrom false (place (angled body)) rest.toList = .error fault ↔
        ∃ front c after ts, rest.toList = front ++ c :: after ∧ Layout (c :: after) (angled body) front ts ∧
          Stuck (angled body ++ front) c after ∧ fault = ⟨complaintAt c, place (angled body ++ front)⟩ := by
  constructor
  · intro text start h
    exact angleStop_eq h
  · intro body rest h
    have hstart : ¬ AtLineStart ([] ++ angled body) := (spells_angled h).not_atLineStart
    have hflag : Flagged false (angled body) rest.toList := flagged_down hstart
    obtain ⟨htokens, hfault⟩ := tokensFrom_iff_layout hflag
    exact ⟨angleStop_angled h rest.toList, tokens_angled h rest, htokens, hfault⟩

-- an open quote, a comment and a directive inside, on two lines
theorem angle_taken_shortest_lines :
    "a<<b>\n# \"/*</b>>,".toList[1]? = some '<' ∧ IsLeast (pairedStops "a<<b>\n# \"/*</b>>,".toList 1) 16 ∧
      Closing 0 "<b>\n# \"/*</b>".toList ∧ tokens "<<b>\n# \"/*</b>>, a" =
        .ok [⟨.angle "<b>\n# \"/*</b>", ⟨1, 1⟩⟩, ⟨.mark ',', ⟨2, 11⟩⟩, ⟨.word "a", ⟨2, 13⟩⟩] := by
  have hbody : Closing 0 "<b>\n# \"/*</b>".toList := by
    refine ⟨by decide, fun p hp => ?_⟩
    rw [← List.mem_inits] at hp
    revert p
    decide
  refine ⟨rfl, ((angle_taken_shortest.1 _ 1 rfl).1 16).1 (by decide +kernel), hbody, ?_⟩
  obtain ⟨-, htokens, -, -⟩ := angle_taken_shortest.2 _ ", a" hbody
  have hrest : tokensFrom false (place (angled "<b>\n# \"/*</b>")) ", a".toList =
      .ok [⟨.mark ',', ⟨2, 11⟩⟩, ⟨.word "a", ⟨2, 13⟩⟩] := by decide +kernel
  rw [hrest] at htokens
  exact htokens

end StateTraces.Dot
