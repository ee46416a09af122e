import StateTraces.Files.FilePath
import StateTraces.Proofs.Text.Split

/-
Laws of file paths. The names of a path that was read from a text hold no slash. So a path takes any
suffix without slashes to its last name, and it is then written as before with the suffix behind it. A
path that was read is read again from its text.
-/

namespace StateTraces

namespace Files.FilePath

/-! ## Names -/

theorem mem_parts_of_name {p : FilePath} (h : p.name ≠ "") : p.name ∈ p.parts := by
  unfold name at h ⊢
  cases hlast : p.parts.getLast? with
  | none => rw [hlast] at h; exact absurd rfl h
  | some n => exact List.mem_of_getLast? hlast

theorem parts_eq_of_name {p : FilePath} (h : p.name ≠ "") : p.parts = p.parts.dropLast ++ [p.name] := by
  unfold name at h ⊢
  cases hlast : p.parts.getLast? with
  | none => rw [hlast] at h; exact absurd rfl h
  | some n => exact (List.dropLast_append_getLast? n hlast).symm

theorem not_mem_name_ofText (s : String) : '/' ∉ (ofText s).name.toList := by
  by_cases h : (ofText s).name = ""
  · rw [h]; exact List.not_mem_nil
  · have hmem := mem_parts_of_name h
    exact Text.not_mem_split (List.mem_filter.1 hmem).1

/-- A text without slashes is one name, unless it is empty or a dot. -/
theorem ofText_of_not_mem {s : String} (hslash : '/' ∉ s.toList) (hempty : s ≠ "") (hdot : s ≠ ".") :
    ofText s = ⟨"", [s]⟩ := by
  have hroot : rootOf s.toList = "" := by
    unfold rootOf
    split
    all_goals first
      | rfl
      | (rename_i h; rw [h] at hslash; exact absurd (List.mem_cons_self ..) hslash)
  have hparts : (Text.split '/' s).filter (fun p => p ≠ "" ∧ p ≠ ".") = [s] := by
    rw [Text.split_of_not_mem hslash]
    simp [hempty, hdot]
  rw [ofText, hroot, hparts]

/-! ## Suffixes -/

section Suffix

variable {p : FilePath} {suffix : String}

/-- A path takes a suffix that leaves its last name one name. -/
theorem addSuffix_eq (hname : p.name ≠ "") (hslash : '/' ∉ p.name.toList) (hne : suffix ≠ "")
    (hsuffix : '/' ∉ suffix.toList) :
    p.addSuffix suffix = .ok { p with parts := p.parts.dropLast ++ [p.name ++ suffix] } := by
  have hlength : 2 ≤ (p.name ++ suffix).length := by
    have hn : p.name.length ≠ 0 := fun h => hname (String.length_eq_zero_iff.1 h)
    have hs : suffix.length ≠ 0 := fun h => hne (String.length_eq_zero_iff.1 h)
    rw [String.length_append]
    omega
  have hrenamed : '/' ∉ (p.name ++ suffix).toList := by
    rw [String.toList_append, List.mem_append]
    exact not_or.2 ⟨hslash, hsuffix⟩
  have hpath : ofText (p.name ++ suffix) = ⟨"", [p.name ++ suffix]⟩ := by
    refine ofText_of_not_mem hrenamed (fun h => ?_) fun h => ?_
    · rw [h] at hlength; exact absurd hlength (by decide)
    · rw [h] at hlength; exact absurd hlength (by decide)
  have hlast : ¬((p.name ++ suffix).toList.getLast? = some '/') := fun h => hrenamed (List.mem_of_getLast? h)
  unfold addSuffix
  rw [if_neg hname, if_neg]
  rw [hpath]
  simpa using hlast

theorem addSuffix_ok {q : FilePath} (h : p.addSuffix suffix = .ok q) :
    p.name ≠ "" ∧ q = { p with parts := p.parts.dropLast ++ [p.name ++ suffix] } := by
  unfold addSuffix at h
  dsimp only at h
  split at h
  · cases h
  · rename_i hname
    split at h
    · cases h
    · cases h; exact ⟨hname, rfl⟩

theorem intercalate_concat_append (separator last more : String) (names : List String) :
    separator.intercalate (names ++ [last ++ more]) = separator.intercalate (names ++ [last]) ++ more := by
  by_cases h : names = []
  · rw [h, List.nil_append, List.nil_append, String.intercalate_singleton, String.intercalate_singleton]
  · rw [String.intercalate_append_of_ne_nil h (List.cons_ne_nil _ _),
      String.intercalate_append_of_ne_nil h (List.cons_ne_nil _ _), String.intercalate_singleton,
      String.intercalate_singleton, String.append_assoc, String.append_assoc, String.append_assoc]

/-- The first names are written in front. -/
theorem exists_intercalate_take (separator : String) (names : List String) (k : Nat) :
    ∃ more, separator.intercalate names = separator.intercalate (names.take k) ++ more := by
  by_cases htake : names.take k = []
  · exact ⟨separator.intercalate names, by rw [htake, String.intercalate_nil, String.empty_append]⟩
  by_cases hdrop : names.drop k = []
  · exact ⟨"", by rw [List.take_of_length_le (List.drop_eq_nil_iff.1 hdrop), String.append_empty]⟩
  refine ⟨separator ++ separator.intercalate (names.drop k), ?_⟩
  rw [← String.append_assoc, ← String.intercalate_append_of_ne_nil htake hdrop, List.take_append_drop]

theorem text_of_ne_nil (h : p.parts ≠ []) : p.text = p.root ++ "/".intercalate p.parts := by
  rw [text, if_neg fun hp => h hp.2]

/-- The suffix stands behind the path as it was written. -/
theorem text_addSuffix {q : FilePath} (h : p.addSuffix suffix = .ok q) : q.text = p.text ++ suffix := by
  obtain ⟨hname, rfl⟩ := addSuffix_ok h
  have hparts := parts_eq_of_name hname
  have hne : p.parts ≠ [] := by
    rw [hparts]
    exact List.append_ne_nil_of_right_ne_nil _ (List.cons_ne_nil _ _)
  rw [text_of_ne_nil (List.append_ne_nil_of_right_ne_nil _ (List.cons_ne_nil _ _)), intercalate_concat_append,
    ← hparts, text_of_ne_nil hne, String.append_assoc]

end Suffix

/-! ## Paths from texts -/

/-- A path as it is read from a text: at most two slashes in front, and names that are neither empty nor a
single dot and hold no slash. -/
structure Plain (p : FilePath) : Prop where
  root_eq : p.root = "" ∨ p.root = "/" ∨ p.root = "//"
  ne_empty : ∀ n ∈ p.parts, n ≠ ""
  ne_dot : ∀ n ∈ p.parts, n ≠ "."
  slash : ∀ n ∈ p.parts, '/' ∉ n.toList

theorem plain_ofText (s : String) : (ofText s).Plain where
  root_eq := by
    show rootOf s.toList = "" ∨ rootOf s.toList = "/" ∨ rootOf s.toList = "//"
    unfold rootOf
    split <;> simp
  ne_empty n hn := (of_decide_eq_true (List.mem_filter.1 hn).2).1
  ne_dot n hn := (of_decide_eq_true (List.mem_filter.1 hn).2).2
  slash n hn := Text.not_mem_split (List.mem_filter.1 hn).1

section Plain

variable {p : FilePath}

theorem Plain.child {name : String} {parts : List String} (h : (⟨p.root, parts⟩ : FilePath).Plain) (hne : name ≠ "")
    (hdot : name ≠ ".") (hslash : '/' ∉ name.toList) : (⟨p.root, parts ++ [name]⟩ : FilePath).Plain where
  root_eq := h.root_eq
  ne_empty n hn := (List.mem_append.1 hn).elim (h.ne_empty n) fun hn => List.mem_singleton.1 hn ▸ hne
  ne_dot n hn := (List.mem_append.1 hn).elim (h.ne_dot n) fun hn => List.mem_singleton.1 hn ▸ hdot
  slash n hn := (List.mem_append.1 hn).elim (h.slash n) fun hn => List.mem_singleton.1 hn ▸ hslash

/-- The pieces of the text of a path are its names, behind pieces that name nothing. -/
theorem Plain.split_text (h : p.Plain) : ∃ blanks : List String,
    (∀ b ∈ blanks, b = "" ∨ b = ".") ∧ Text.split '/' p.text = blanks ++ p.parts := by
  obtain ⟨root, parts⟩ := p
  by_cases hparts : parts = []
  · subst hparts
    obtain rfl | rfl | rfl := h.root_eq
    · exact ⟨["."], by simp, by decide⟩
    · exact ⟨["", ""], by simp, by decide⟩
    · exact ⟨["", "", ""], by simp, by decide⟩
  · have hnames := Text.split_intercalate (show "/".toList = ['/'] from rfl) hparts h.slash
    rw [text_of_ne_nil hparts]
    obtain rfl | rfl | rfl := h.root_eq
    · exact ⟨[], by simp, by rw [String.empty_append, hnames]; rfl⟩
    · exact ⟨[""], by simp, by rw [Text.split_slash_append, hnames]; rfl⟩
    · refine ⟨["", ""], by simp, ?_⟩
      rw [show "//" = "/" ++ "/" from rfl, String.append_assoc, Text.split_slash_append, Text.split_slash_append,
        hnames]
      rfl

/-- The first character of the names of a path is no slash. -/
theorem Plain.head_ne_slash (h : p.Plain) (hparts : p.parts ≠ []) :
    ∃ c cs, ("/".intercalate p.parts).toList = c :: cs ∧ c ≠ '/' := by
  obtain ⟨root, _ | ⟨name, names⟩⟩ := p
  · exact absurd rfl hparts
  obtain ⟨c, cs, hname⟩ : ∃ c cs, name.toList = c :: cs :=
    List.exists_cons_of_ne_nil fun hnil => h.ne_empty name List.mem_cons_self (String.toList_eq_nil_iff.1 hnil)
  have hc : c ≠ '/' := fun hc => h.slash name List.mem_cons_self (hname ▸ hc ▸ List.mem_cons_self)
  obtain ⟨more, hmore⟩ := exists_intercalate_take "/" (name :: names) 1
  rw [List.take_succ_cons, List.take_zero, String.intercalate_singleton] at hmore
  exact ⟨c, cs ++ more.toList, by rw [hmore, String.toList_append, hname, List.cons_append], hc⟩

theorem Plain.rootOf_text (h : p.Plain) : rootOf p.text.toList = p.root := by
  obtain ⟨root, parts⟩ := p
  by_cases hparts : parts = []
  · subst hparts
    obtain rfl | rfl | rfl := h.root_eq <;> decide
  · obtain ⟨c, cs, hnames, hc⟩ := h.head_ne_slash hparts
    rw [text_of_ne_nil hparts, String.toList_append, hnames]
    obtain rfl | rfl | rfl := h.root_eq <;> simp [rootOf, hc]

/-- A path that was read is read again from its text. -/
theorem Plain.ofText_text (h : p.Plain) : ofText p.text = p := by
  obtain ⟨blanks, hblanks, hsplit⟩ := h.split_text
  have hparts : (blanks ++ p.parts).filter (fun n => n ≠ "" ∧ n ≠ ".") = p.parts := by
    rw [List.filter_append, List.filter_eq_nil_iff.2, List.nil_append, List.filter_eq_self.2]
    · intro n hn
      simp [h.ne_empty n hn, h.ne_dot n hn]
    · intro b hb
      obtain rfl | rfl := hblanks b hb <;> decide
  rw [ofText, h.rootOf_text, hsplit, hparts]

/-- Different paths are written differently. -/
theorem Plain.text_injective {q : FilePath} (h : p.Plain) (h' : q.Plain) (htext : p.text = q.text) : p = q := by
  rw [← h.ofText_text, htext, h'.ofText_text]

end Plain

end Files.FilePath

end StateTraces
