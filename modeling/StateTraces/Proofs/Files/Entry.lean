import StateTraces.Proofs.Files.Lookup

/-
The entries of directories. In a tree with names of files, where nothing is there twice, a directory has each
name once and in order, and an entry is where its name says. What cannot be looked up is a path that is too
long; a path of names of usual size is not.
-/

namespace StateTraces.Files

/-! ## Entries of directories -/

theorem FilePath.Plain.join {p q : FilePath} (hp : p.Plain) (hq : q.Plain) : (p.join q).Plain := by
  unfold FilePath.join
  split
  · exact hq
  · exact ⟨hp.root_eq, fun n hn => (List.mem_append.1 hn).elim (hp.ne_empty n) (hq.ne_empty n),
      fun n hn => (List.mem_append.1 hn).elim (hp.ne_dot n) (hq.ne_dot n),
      fun n hn => (List.mem_append.1 hn).elim (hp.slash n) (hq.slash n)⟩

/-- A path holds what its names hold. -/
theorem FilePath.Plain.mem_text {p : FilePath} (h : p.Plain) {c : Char} (hslash : c ≠ '/') (hdot : c ≠ '.') :
    c ∈ p.text.toList ↔ ∃ n ∈ p.parts, c ∈ n.toList := by
  have hroot : c ∉ p.root.toList := by
    obtain hroot | hroot | hroot := h.root_eq <;> rw [hroot] <;> simp [hslash]
  unfold FilePath.text
  split
  · rename_i hempty
    simp [hempty.2, hdot]
  · rw [String.toList_append, List.mem_append, or_iff_right hroot,
      Text.mem_intercalate (show "/".toList = ['/'] from rfl) hslash]

/-- The path of an entry is longer by a slash and the name at most. -/
theorem FilePath.text_child_le (p : FilePath) (name : String) :
    (p.child name).text.utf8ByteSize ≤ p.text.utf8ByteSize + 1 + name.utf8ByteSize := by
  have hchild : (p.child name).text = p.root ++ "/".intercalate (p.parts ++ [name]) := text_of_ne_nil (by simp [child])
  by_cases hparts : p.parts = []
  · have hroot : p.root.utf8ByteSize ≤ p.text.utf8ByteSize := by
      unfold text
      split
      · rename_i hempty
        rw [hempty.1]
        decide
      · rw [String.utf8ByteSize_append]
        omega
    rw [hchild, hparts, List.nil_append, String.intercalate_singleton, String.utf8ByteSize_append]
    omega
  · rw [hchild, text_of_ne_nil hparts, String.intercalate_append_of_ne_nil hparts (by simp)]
    simp only [String.intercalate_singleton, String.utf8ByteSize_append]
    have hslash : "/".utf8ByteSize = 1 := by decide
    omega

namespace Disk

variable {d : Disk} {loc : Location} {name : String} {candidate : FilePath}

/-- What lies in the tree has names that the system takes for those of files. -/
def Named (d : Disk) : Prop := ∀ loc ∈ d.directories ++ d.files.keys, ∀ name ∈ loc.getLast?, IsName name

instance : DecidablePred Named := fun d => inferInstanceAs (Decidable (∀ loc ∈ d.directories ++ d.files.keys, _))

theorem isName_of_mem_names (h : d.Named) {loc : Location} {name : String} (hname : name ∈ d.names loc) :
    IsName name := by
  unfold names at hname
  rw [(List.mergeSort_perm _ _).mem_iff, ← List.filterMap_append] at hname
  obtain ⟨l, hl, hlast⟩ := List.mem_filterMap.1 hname
  split at hlast
  · exact h l hl name hlast
  · cases hlast

/-- A directory tree: names are those of files, and nothing is there twice. -/
structure Tree (d : Disk) : Prop where
  named : d.Named
  nodup : (d.directories ++ d.files.keys).Nodup

instance : DecidablePred Tree := fun d =>
  decidable_of_iff (d.Named ∧ (d.directories ++ d.files.keys).Nodup) ⟨fun h => ⟨h.1, h.2⟩, fun h => ⟨h.1, h.2⟩⟩

/-- The last name of a location right inside another one. -/
theorem inside_eq_some_iff {l : Location} :
    (if l ≠ [] ∧ l.dropLast = loc then l.getLast? else none) = some name ↔ l = loc ++ [name] := by
  constructor
  · intro h
    split at h
    · rename_i hinside
      rw [← hinside.2, List.dropLast_append_getLast? name h]
    · cases h
  · rintro rfl
    simp

theorem mem_names : name ∈ d.names loc ↔ loc ++ [name] ∈ d.directories ++ d.files.keys := by
  unfold names
  rw [(List.mergeSort_perm _ _).mem_iff, ← List.filterMap_append, List.mem_filterMap]
  simp only [inside_eq_some_iff, exists_eq_right]

theorem pairwise_names (h : (d.directories ++ d.files.keys).Nodup) (loc : Location) :
    (d.names loc).Pairwise (· < ·) := by
  have hnodup : (d.names loc).Nodup := by
    unfold names
    rw [(List.mergeSort_perm _ _).nodup_iff, ← List.filterMap_append]
    refine h.filterMap fun l l' n hl hl' => ?_
    rw [inside_eq_some_iff.1 hl, inside_eq_some_iff.1 hl']
  have hsorted : (d.names loc).Pairwise (· ≤ ·) := by
    have hmerge : ∀ l : List String, (l.mergeSort fun a b => a ≤ b).Pairwise fun a b => decide (a ≤ b) = true :=
      List.pairwise_mergeSort
        (fun a b c hab hbc => decide_eq_true (String.le_trans (of_decide_eq_true hab) (of_decide_eq_true hbc)))
        (fun a b => by simpa using String.le_total a b)
    exact (hmerge _).imp of_decide_eq_true
  refine (hsorted.and hnodup).imp fun hab => ?_
  by_contra hlt
  exact hab.2 (String.le_antisymm hab.1 hlt)

/-- An entry of a directory is where its name says, unless its path is too long. -/
theorem locate_child (hplain : candidate.Plain) (hloc : d.locate candidate = .ok loc)
    (hdir : d.kind? loc = some .directory) (hname : IsName name) : d.locate (candidate.child name) =
      if longestPath < (candidate.child name).text.utf8ByteSize then .error .nameTooLong else .ok (loc ++ [name]) := by
  obtain ⟨hnul, -, hwalk⟩ := locate_ok hplain hloc
  obtain ⟨hslash, hname_nul, hempty, hdot, hup, hlong⟩ := hname
  have hchild : (candidate.child name).Plain := hplain.child hempty hdot hslash
  have hchild_nul : '\x00' ∉ (candidate.child name).text.toList := by
    rw [hplain.mem_text (by decide) (by decide)] at hnul
    rw [hchild.mem_text (by decide) (by decide)]
    rintro ⟨n, hn, hmem⟩
    rcases List.mem_append.1 hn with hn | hn
    · exact hnul ⟨n, hn, hmem⟩
    · exact hname_nul (List.mem_singleton.1 hn ▸ hmem)
  have hstep : d.walk loc [name] = .ok (loc ++ [name]) := by
    rw [walk, hdir]
    dsimp only
    rw [if_neg (not_or.2 ⟨hempty, hdot⟩), if_neg hup, if_neg (Nat.not_lt.2 hlong)]
    rfl
  have horigin : (candidate.child name).origin = candidate.origin := rfl
  have hwalk_child : d.walk candidate.origin (candidate.parts ++ [name]) = .ok (loc ++ [name]) := by
    rw [walk_append, hwalk]
    exact hstep
  rw [locate_eq hchild, if_neg hchild_nul, horigin]
  exact congrArg (ite _ _) hwalk_child

/-- What is found at an entry of a directory. -/
theorem look?_child (hplain : candidate.Plain) (hloc : d.locate candidate = .ok loc)
    (hdir : d.kind? loc = some .directory) (hname : IsName name) : d.look? (candidate.child name) =
      if longestPath < (candidate.child name).text.utf8ByteSize then .error .nameTooLong
      else .ok (d.kind? (loc ++ [name])) := by
  have hchild := locate_child hplain hloc hdir hname
  split_ifs at hchild ⊢
  · rw [look?, find_of_locate_error hchild]
  · exact look?_of_locate hchild

/-- A path that is too long to look up, or a directory with such an entry. -/
inductive TooLong (d : Disk) (candidate : FilePath) : Prop where
  | path (h : d.find candidate = .error .nameTooLong)
  | entry {loc : Location} {name : String} (hloc : d.locate candidate = .ok loc)
      (hdir : d.kind? loc = some .directory) (hname : name ∈ d.names loc)
      (hlong : longestPath < (candidate.child name).text.utf8ByteSize)

/-- Only a long name on the way, or a long text, makes a path too long. -/
theorem walk_tooLong {names : List String} {here : Location} (h : d.walk here names = .error .nameTooLong) :
    ∃ n ∈ names, longestName < n.utf8ByteSize := by
  induction names generalizing here with
  | nil => cases h
  | cons n names ih =>
    have hmore : ∀ {next}, d.walk next names = .error .nameTooLong → ∃ m ∈ n :: names, longestName < m.utf8ByteSize :=
      fun hnext => (ih hnext).imp fun m hm => ⟨List.mem_cons_of_mem n hm.1, hm.2⟩
    rw [walk] at h
    split at h
    · cases h
    · cases h
    · split_ifs at h with hblank hup hlong
      · exact hmore h
      · exact hmore h
      · exact ⟨n, List.mem_cons_self, hlong⟩
      · exact hmore h

theorem find_tooLong (hplain : candidate.Plain) : d.find candidate = .error .nameTooLong ↔
    '\x00' ∉ candidate.text.toList ∧ (longestPath < candidate.text.utf8ByteSize ∨
      d.walk candidate.origin candidate.parts = .error .nameTooLong) := by
  have hlocate : d.find candidate = .error .nameTooLong ↔ d.locate candidate = .error .nameTooLong := by
    cases hloc : d.locate candidate with
    | error fault => rw [find_of_locate_error hloc, Except.error.injEq, Except.error.injEq]
    | ok loc =>
      rw [find_of_locate hloc]
      cases d.kind? loc <;> simp
  rw [hlocate, locate_eq hplain]
  split_ifs with hnul hsize
  · simp [hnul]
  · simp [hnul, hsize]
  · simp [hnul, hsize]

/-- A path of names of usual size, with room for one more of them, is not too long. -/
theorem not_tooLong (htree : d.Tree) (hplain : candidate.Plain)
    (hnames : ∀ n ∈ candidate.parts, n.utf8ByteSize ≤ longestName)
    (hsize : candidate.text.utf8ByteSize + 1 + longestName ≤ longestPath) : ¬d.TooLong candidate := by
  rintro (hfind | @⟨loc, name, hloc, hdir, hname, hlong⟩)
  · obtain ⟨-, hlong | hwalk⟩ := (find_tooLong hplain).1 hfind
    · omega
    · obtain ⟨n, hn, hlong⟩ := walk_tooLong hwalk
      exact absurd (hnames n hn) (Nat.not_le.2 hlong)
  · have hmore := candidate.text_child_le name
    obtain ⟨-, -, -, -, -, hname_size⟩ := isName_of_mem_names htree.named hname
    omega

/-- A name that is too long for files. -/
structure LongName (name : String) : Prop where
  slash : '/' ∉ name.toList
  nul : '\x00' ∉ name.toList
  long : longestName < name.utf8ByteSize

theorem LongName.ne (h : LongName name) {s : String} (hs : s.utf8ByteSize ≤ longestName) : name ≠ s :=
  fun heq => absurd hs (Nat.not_le.2 (heq ▸ h.long))

theorem LongName.ofText_eq (h : LongName name) : FilePath.ofText name = ⟨"", [name]⟩ :=
  FilePath.ofText_of_not_mem h.slash (h.ne (by decide)) (h.ne (by decide))

/-- A name that is too long names nothing, and looking it up fails. -/
theorem LongName.find_eq (h : LongName name) : d.find (.ofText name) = .error .nameTooLong := by
  have htext : (⟨"", [name]⟩ : FilePath).text = name := by simp [FilePath.text]
  rw [find_tooLong (FilePath.plain_ofText name), h.ofText_eq, htext]
  refine ⟨h.nul, .inr ?_⟩
  rw [walk, kind?_origin]
  dsimp only
  rw [if_neg (not_or.2 ⟨h.ne (by decide), h.ne (by decide)⟩), if_neg (h.ne (by decide)), if_pos h.long]

end Disk

end StateTraces.Files
