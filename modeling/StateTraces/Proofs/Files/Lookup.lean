import StateTraces.Proofs.Files.Disk
import StateTraces.Proofs.Files.FilePath

/-
Looking paths up name by name. The way to a path passes the places of the paths of its first names, so
two trees with the same directories that hold the same at these places agree on where the path leads,
on what is read there, and on what can be written beside it.
-/

namespace StateTraces.Files

namespace FilePath

/-- The path of the first names: the path itself, or one of the directories that lead to it. -/
def upTo (p : FilePath) (k : Nat) : FilePath := { p with parts := p.parts.take k }

/-- Where looking up a path starts. -/
def origin (p : FilePath) : Location := if p.root = "" then [] else ["/"]

variable {p : FilePath}

theorem upTo_of_length_le {k : Nat} (h : p.parts.length ≤ k) : p.upTo k = p := by
  rw [upTo, List.take_of_length_le h]

theorem Plain.upTo (h : p.Plain) (k : Nat) : (p.upTo k).Plain where
  root_eq := h.root_eq
  ne_empty n hn := h.ne_empty n (List.mem_of_mem_take hn)
  ne_dot n hn := h.ne_dot n (List.mem_of_mem_take hn)
  slash n hn := h.slash n (List.mem_of_mem_take hn)

theorem Plain.text_ne_empty (h : p.Plain) : p.text ≠ "" := by
  intro hempty
  obtain ⟨root, parts⟩ := p
  by_cases hparts : parts = []
  · subst hparts
    obtain rfl | rfl | rfl := h.root_eq <;> exact absurd hempty (by decide)
  · obtain ⟨c, cs, hnames, -⟩ := h.head_ne_slash hparts
    rw [text_of_ne_nil hparts, ← String.toList_eq_nil_iff, String.toList_append, hnames] at hempty
    simp at hempty

theorem Plain.head_text (h : p.Plain) : p.text.toList.head? = some '/' ↔ p.root ≠ "" := by
  obtain ⟨root, parts⟩ := p
  by_cases hparts : parts = []
  · subst hparts
    obtain rfl | rfl | rfl := h.root_eq <;> decide
  · obtain ⟨c, cs, hnames, hc⟩ := h.head_ne_slash hparts
    rw [text_of_ne_nil hparts, String.toList_append, hnames]
    obtain rfl | rfl | rfl := h.root_eq <;> simp [hc]

/-- The directories that lead to a path are written in front of it; the working directory is a dot. -/
theorem text_upTo (p : FilePath) (k : Nat) : (p.upTo k).text = "." ∨ ∃ more, p.text = (p.upTo k).text ++ more := by
  by_cases htake : p.parts.take k = []
  · by_cases hroot : p.root = ""
    · exact .inl (if_pos ⟨hroot, htake⟩)
    · have htext : (p.upTo k).text = p.root := by
        rw [text, if_neg fun h => hroot h.1, show (p.upTo k).parts = [] from htake, String.intercalate_nil,
          String.append_empty, upTo]
      refine .inr ⟨"/".intercalate p.parts, ?_⟩
      rw [htext, text, if_neg fun h => hroot h.1]
  · obtain ⟨more, hmore⟩ := exists_intercalate_take "/" p.parts k
    have hparts : p.parts ≠ [] := fun h => htake (by rw [h, List.take_nil])
    refine .inr ⟨more, ?_⟩
    rw [text_of_ne_nil hparts, hmore, text_of_ne_nil (p := p.upTo k) htake, String.append_assoc, upTo]

theorem not_mem_text_upTo (h : '\x00' ∉ p.text.toList) (k : Nat) : '\x00' ∉ (p.upTo k).text.toList := by
  obtain hdot | ⟨more, hmore⟩ := p.text_upTo k
  · rw [hdot]; decide
  · rw [hmore, String.toList_append, List.mem_append] at h
    exact fun hmem => h (.inl hmem)

theorem Plain.text_upTo_le (h : p.Plain) (k : Nat) : (p.upTo k).text.utf8ByteSize ≤ p.text.utf8ByteSize := by
  obtain hdot | ⟨more, hmore⟩ := p.text_upTo k
  · have hpos : p.text.utf8ByteSize ≠ 0 := fun hzero => h.text_ne_empty (String.utf8ByteSize_eq_zero_iff.1 hzero)
    rw [hdot, show ".".utf8ByteSize = 1 by decide]
    omega
  · rw [hmore, String.utf8ByteSize_append]
    omega

end FilePath

namespace Disk

variable {d e : Disk} {p : FilePath}

/-! ## Names that lead nowhere -/

theorem kind?_origin (d : Disk) (p : FilePath) : d.kind? p.origin = some .directory := by
  refine kind?_eq_directory.2 (.inl ?_)
  unfold FilePath.origin
  split <;> decide

theorem walk_blanks {here : Location} (hdir : d.kind? here = some .directory) {blanks : List String}
    (h : ∀ b ∈ blanks, b = "" ∨ b = ".") (names : List String) :
    d.walk here (blanks ++ names) = d.walk here names := by
  induction blanks with
  | nil => rfl
  | cons b blanks ih =>
    obtain ⟨hb, hblanks⟩ := List.forall_mem_cons.1 h
    rw [List.cons_append, walk, hdir]
    dsimp only
    rw [if_pos hb, ih hblanks]

theorem walk_append {here : Location} (names more : List String) :
    d.walk here (names ++ more) = d.walk here names >>= fun next => d.walk next more := by
  induction names generalizing here with
  | nil => rfl
  | cons name names ih =>
    rw [List.cons_append, walk, walk]
    cases d.kind? here with
    | none => rfl
    | some kind =>
      cases kind with
      | file content => rfl
      | directory =>
        dsimp only
        split_ifs
        · exact ih
        · exact ih
        · rfl
        · exact ih

theorem walk_name {here loc : Location} {name : String} (hempty : name ≠ "") (hdot : name ≠ ".") (hup : name ≠ "..")
    (hwalk : d.walk here [name] = .ok loc) : loc = here ++ [name] := by
  rw [walk] at hwalk
  split at hwalk
  · cases hwalk
  · cases hwalk
  · rw [if_neg (not_or.2 ⟨hempty, hdot⟩), if_neg hup] at hwalk
    split at hwalk
    · cases hwalk
    · exact (Except.ok.inj hwalk).symm

/-- A path is looked up name by name, unless its text is none that the system takes. -/
theorem locate_eq (h : p.Plain) (d : Disk) : d.locate p =
    if '\x00' ∈ p.text.toList then .error .nulCharacter
    else if longestPath < p.text.utf8ByteSize then .error .nameTooLong
    else d.walk p.origin p.parts := by
  obtain ⟨blanks, hblanks, hsplit⟩ := h.split_text
  have horigin : (if p.text.toList.head? = some '/' then ["/"] else []) = p.origin := by
    simp only [h.head_text, FilePath.origin, ne_eq, ite_not]
  unfold locate locateText start
  rw [String.contains_char_eq, hsplit, if_neg h.text_ne_empty, horigin]
  simp only [decide_eq_true_eq]
  split_ifs
  · rfl
  · rfl
  · exact walk_blanks (kind?_origin d p) hblanks p.parts

theorem locate_ok {loc : Location} (h : p.Plain) (hloc : d.locate p = .ok loc) : '\x00' ∉ p.text.toList ∧
    p.text.utf8ByteSize ≤ longestPath ∧ d.walk p.origin p.parts = .ok loc := by
  rw [locate_eq h] at hloc
  split_ifs at hloc with hnul hsize
  exact ⟨hnul, Nat.le_of_not_lt hsize, hloc⟩

theorem locate_upTo (h : p.Plain) (hnul : '\x00' ∉ p.text.toList) (hsize : p.text.utf8ByteSize ≤ longestPath)
    (d : Disk) (k : Nat) : d.locate (p.upTo k) = d.walk p.origin (p.parts.take k) := by
  have hle := h.text_upTo_le k
  rw [locate_eq (h.upTo k), if_neg (FilePath.not_mem_text_upTo hnul k), if_neg (by omega)]
  rfl

/-- A single name that the system takes for a file. -/
def IsName (name : String) : Prop :=
  '/' ∉ name.toList ∧ '\x00' ∉ name.toList ∧ name ≠ "" ∧ name ≠ "." ∧ name ≠ ".." ∧ name.utf8ByteSize ≤ longestName

instance : DecidablePred IsName := fun _ => inferInstanceAs (Decidable (_ ∧ _))

theorem IsName.ofText_eq {name : String} (h : IsName name) : FilePath.ofText name = ⟨"", [name]⟩ :=
  FilePath.ofText_of_not_mem h.1 h.2.2.1 h.2.2.2.1

/-- A single name leads to the file of that name in the working directory. -/
theorem locate_name {name : String} (h : IsName name) (d : Disk) : d.locate (.ofText name) = .ok [name] := by
  have hpath := h.ofText_eq
  obtain ⟨-, hnul, hempty, hdot, hup, hlong⟩ := h
  have htext : (FilePath.ofText name).text = name := by
    rw [hpath]
    simp [FilePath.text]
  have horigin : d.kind? (FilePath.ofText name).origin = some .directory := kind?_origin d _
  have hsize : ¬longestPath < name.utf8ByteSize := by unfold longestName at hlong; unfold longestPath; omega
  rw [locate_eq (FilePath.plain_ofText name), htext, if_neg hnul, if_neg hsize]
  rw [hpath] at horigin ⊢
  rw [walk, horigin]
  dsimp only
  rw [if_neg (not_or.2 ⟨hempty, hdot⟩), if_neg hup, if_neg (Nat.not_lt.2 hlong)]
  rfl

/-- The way to a single name passes the working directory only. -/
theorem locate_upTo_name {name : String} (h : IsName name) {k : Nat} {loc : Location}
    (hloc : d.locate ((FilePath.ofText name).upTo k) = .ok loc) : loc = [] ∨ loc = [name] := by
  obtain rfl | hk := Nat.eq_zero_or_pos k
  · obtain ⟨-, -, hwalk⟩ := locate_ok ((FilePath.plain_ofText name).upTo 0) hloc
    rw [h.ofText_eq] at hwalk
    exact .inl (Except.ok.inj hwalk).symm
  · have hlength : (FilePath.ofText name).parts.length ≤ k := by rw [h.ofText_eq]; exact hk
    rw [FilePath.upTo_of_length_le hlength, locate_name h] at hloc
    exact .inr (Except.ok.inj hloc).symm

/-- Only a file has a name; the other paths lead to a directory. -/
theorem name_of_read {content : Content} (h : p.Plain) (hread : d.read p = .ok content) : p.name ≠ "" := by
  intro hname
  have hparts : p.parts = [] := by
    by_contra hne
    rw [FilePath.name, List.getLast?_eq_some_getLast hne, Option.getD_some] at hname
    exact h.ne_empty _ (List.getLast_mem hne) hname
  obtain ⟨loc, hloc, hdir, -⟩ := get?_of_read hread
  obtain ⟨-, -, hwalk⟩ := locate_ok h hloc
  rw [hparts] at hwalk
  obtain rfl := Except.ok.inj hwalk
  exact hdir (kind?_eq_directory.1 (kind?_origin d p))

/-! ## Trees that agree on a way -/

/-- A way is the same in two trees that hold the same at every place on it, the last one apart. -/
theorem walk_congr {names : List String} {here : Location} (h : ∀ k < names.length, ∀ loc,
    d.walk here (names.take k) = .ok loc → d.kind? loc = e.kind? loc) : d.walk here names = e.walk here names := by
  induction names generalizing here with
  | nil => rfl
  | cons name names ih =>
    have hkind : d.kind? here = e.kind? here := h 0 (Nat.zero_lt_succ _) here rfl
    -- from the next place on, the way takes one name less
    have hnext : ∀ next, (∀ k, d.walk here ((name :: names).take (k + 1)) = d.walk next (names.take k)) →
        d.walk next names = e.walk next names := fun next hstep => ih fun k hk loc hloc =>
      h (k + 1) (Nat.succ_lt_succ hk) loc ((hstep k).trans hloc)
    rw [walk, walk, ← hkind]
    cases hfound : d.kind? here with
    | none => rfl
    | some kind =>
      cases kind with
      | file content => rfl
      | directory =>
        dsimp only
        split_ifs with hblank hup hlong
        · exact hnext here fun k => by rw [List.take_succ_cons, walk, hfound]; exact if_pos hblank
        · exact hnext (parent here) fun k => by
            rw [List.take_succ_cons, walk, hfound]; exact (if_neg hblank).trans (if_pos hup)
        · rfl
        · exact hnext (here ++ [name]) fun k => by
            rw [List.take_succ_cons, walk, hfound]; exact (if_neg hblank).trans ((if_neg hup).trans (if_neg hlong))

/-- Two trees with the same directories that hold the same wherever the way to a path passes. -/
structure Agree (d e : Disk) (p : FilePath) : Prop where
  directories_eq : d.directories = e.directories
  kind?_eq : ∀ {k loc}, d.locate (p.upTo k) = .ok loc → d.kind? loc = e.kind? loc

theorem Agree.locate_eq (h : d.Agree e p) (hp : p.Plain) : d.locate p = e.locate p := by
  rw [Disk.locate_eq hp, Disk.locate_eq hp]
  split_ifs with hnul hsize
  · rfl
  · rfl
  · refine walk_congr fun k _ loc hloc => h.kind?_eq (k := k) ?_
    rwa [locate_upTo hp hnul (Nat.le_of_not_lt hsize)]

theorem Agree.read_eq (h : d.Agree e p) (hp : p.Plain) : d.read p = e.read p := by
  have hlocate := h.locate_eq hp
  cases hloc : d.locate p with
  | error fault => rw [read_of_locate_error hloc, read_of_locate_error (hlocate ▸ hloc)]
  | ok loc =>
    have hwhole : p.upTo p.parts.length = p := FilePath.upTo_of_length_le (Nat.le_refl _)
    have hkind : d.kind? loc = e.kind? loc := h.kind?_eq (k := p.parts.length) (by rwa [hwhole])
    rw [read_of_locate hloc, read_of_locate (hlocate ▸ hloc), hkind]

theorem Agree.upTo (h : d.Agree e p) (k : Nat) : d.Agree e (p.upTo k) where
  directories_eq := h.directories_eq
  kind?_eq {j loc} hloc := by
    refine h.kind?_eq (k := min j k) ?_
    rwa [FilePath.upTo, ← List.take_take]

theorem Agree.symm (h : d.Agree e p) (hp : p.Plain) : e.Agree d p where
  directories_eq := h.directories_eq.symm
  kind?_eq {k loc} hloc := by
    rw [← (h.upTo k).locate_eq (hp.upTo k)] at hloc
    exact (h.kind?_eq hloc).symm

/-- The same file set in both trees. -/
def set (d : Disk) (loc : Location) (content : Content) : Disk := { d with files := d.files.set loc content }

theorem kind?_set {loc other : Location} {content : Content} : (d.set loc content).kind? other =
    if isAbove other ∨ other ∈ d.directories then some .directory
    else if loc = other then some (.file content) else d.kind? other := by
  unfold kind?
  rw [show (d.set loc content).directories = d.directories from rfl, set, Table.get?_set]
  split_ifs <;> rfl

/-- Trees that agree on a way agree on it after the same file is set in both. -/
theorem Agree.set (h : d.Agree e p) (loc : Location) (content : Content) :
    (d.set loc content).Agree (e.set loc content) p where
  directories_eq := h.directories_eq
  kind?_eq {k other} hloc := by
    have hkind := h.kind?_eq (k := k) (locateText_of_directories (d := d.set loc content) (e := d) rfl hloc)
    rw [kind?_set, kind?_set, h.directories_eq, hkind]

/-! ## Files beside a path -/

section Beside

variable {suffix : String} {target : FilePath} {content : Content}

theorem append_ne_dots {name : String} (hempty : name ≠ "") (hdot : name ≠ ".") (hsuffix : suffix ≠ "") :
    name ++ suffix ≠ "" ∧ name ++ suffix ≠ "." ∧ name ++ suffix ≠ ".." := by
  obtain ⟨c, cs, hname⟩ := List.exists_cons_of_ne_nil fun h => hempty (String.toList_eq_nil_iff.1 h)
  obtain ⟨b, bs, hmore⟩ := List.exists_cons_of_ne_nil fun h => hsuffix (String.toList_eq_nil_iff.1 h)
  have htext : (name ++ suffix).toList = c :: (cs ++ b :: bs) := by
    rw [String.toList_append, hname, hmore, List.cons_append]
  refine ⟨fun h => ?_, fun h => ?_, fun h => hdot ?_⟩
  · rw [h] at htext; cases htext
  · rw [h] at htext
    have hlength := congrArg List.length htext
    simp at hlength
  · rw [h] at htext
    -- two characters leave one for the name, and it is a dot
    obtain ⟨rfl, hrest⟩ := List.cons.inj (show ['.', '.'] = c :: (cs ++ b :: bs) from htext)
    cases cs with
    | nil => exact String.toList_inj.1 hname
    | cons c' cs =>
      have hlength := congrArg List.length hrest
      simp at hlength

variable (hp : p.Plain) (hne : suffix ≠ "") (hslash : '/' ∉ suffix.toList) (htarget : p.addSuffix suffix = .ok target)

include hp hne hslash htarget

theorem plain_addSuffix : target.Plain := by
  obtain ⟨hname, rfl⟩ := FilePath.addSuffix_ok htarget
  have hmem := FilePath.mem_parts_of_name hname
  obtain ⟨hempty, hdot, -⟩ := append_ne_dots hname (hp.ne_dot _ hmem) hne
  have hdropLast : (⟨p.root, p.parts.dropLast⟩ : FilePath).Plain := by
    rw [List.dropLast_eq_take]
    exact hp.upTo _
  refine hdropLast.child hempty hdot ?_
  rw [String.toList_append, List.mem_append]
  exact not_or.2 ⟨hp.slash _ hmem, hslash⟩

/-- A file beside a path has the same way in trees that agree on the way to the path. -/
theorem Agree.locate_beside (h : d.Agree e p) : d.locate target = e.locate target := by
  have hplain := plain_addSuffix hp hne hslash htarget
  have htext := FilePath.text_addSuffix htarget
  obtain ⟨hname, heq⟩ := FilePath.addSuffix_ok htarget
  rw [Disk.locate_eq hplain, Disk.locate_eq hplain]
  split_ifs with hnul hsize
  · rfl
  · rfl
  rw [htext, String.toList_append, List.mem_append, not_or] at hnul
  rw [htext, String.utf8ByteSize_append] at hsize
  refine walk_congr fun k hk loc hloc => h.kind?_eq (k := k) ?_
  -- all but the last name are names of the path
  have hlength : k ≤ p.parts.dropLast.length := by
    rw [heq, List.length_append, List.length_singleton] at hk
    omega
  have htake : target.parts.take k = p.parts.take k := by
    rw [List.length_dropLast] at hlength
    rw [heq, List.take_append_of_le_length (by rwa [List.length_dropLast]), List.dropLast_eq_take, List.take_take,
      Nat.min_eq_left hlength]
  have horigin : target.origin = p.origin := by rw [heq]; rfl
  rw [locate_upTo hp hnul.1 (by omega), ← htake, ← horigin]
  exact hloc

/-- Trees that agree on the way to a path refuse and take the same files beside it. -/
theorem Agree.write_beside (h : d.Agree e p) (content : Content) :
    (∃ fault, d.write target content = .error fault ∧ e.write target content = .error fault) ∨
      ∃ loc, d.write target content = .ok (d.set loc content) ∧ e.write target content = .ok (e.set loc content) := by
  have hlocate := h.locate_beside hp hne hslash htarget
  cases hloc : d.locate target with
  | error fault => exact .inl ⟨fault, write_of_locate_error hloc, write_of_locate_error (hlocate ▸ hloc)⟩
  | ok loc =>
    have hloc' : e.locate target = .ok loc := hlocate ▸ hloc
    by_cases hdir : isAbove loc ∨ loc ∈ d.directories
    · have hdir' : isAbove loc ∨ loc ∈ e.directories := h.directories_eq ▸ hdir
      exact .inl ⟨.isDirectory, (write_of_locate hloc).trans (if_pos hdir),
        (write_of_locate hloc').trans (if_pos hdir')⟩
    · have hdir' : ¬(isAbove loc ∨ loc ∈ e.directories) := h.directories_eq ▸ hdir
      exact .inr ⟨loc, (write_of_locate hloc).trans (if_neg hdir), (write_of_locate hloc').trans (if_neg hdir')⟩

/-- A file beside a path lies in the same directory, and its last name tells that of the path. -/
theorem locate_beside {loc : Location} (hloc : d.locate target = .ok loc) :
    ∃ here, loc = here ++ [p.name ++ suffix] ∧ d.locate p = d.walk here [p.name] := by
  obtain ⟨hnul, hsize, hwalk⟩ := locate_ok (plain_addSuffix hp hne hslash htarget) hloc
  have htext := FilePath.text_addSuffix htarget
  obtain ⟨hname, heq⟩ := FilePath.addSuffix_ok htarget
  rw [htext, String.toList_append, List.mem_append, not_or] at hnul
  rw [htext, String.utf8ByteSize_append] at hsize
  have horigin : target.origin = p.origin := by rw [heq]; rfl
  have hparts : target.parts = p.parts.dropLast ++ [p.name ++ suffix] := by rw [heq]
  rw [horigin, hparts, walk_append] at hwalk
  cases hhere : d.walk p.origin p.parts.dropLast with
  | error fault => rw [hhere] at hwalk; cases hwalk
  | ok here =>
    rw [hhere] at hwalk
    refine ⟨here, ?_, ?_⟩
    · obtain ⟨hempty, hdot, hup⟩ := append_ne_dots hname (hp.ne_dot _ (FilePath.mem_parts_of_name hname)) hne
      exact walk_name hempty hdot hup hwalk
    · rw [locate_eq hp, if_neg hnul.1, if_neg (by omega), FilePath.parts_eq_of_name hname, walk_append, hhere]
      rfl

/-- Two paths lie at the same place if their files beside them do. -/
theorem locate_eq_of_beside {q other : FilePath} (hq : q.Plain) (hother : q.addSuffix suffix = .ok other)
    {loc : Location} (hloc : d.locate target = .ok loc) (hloc' : d.locate other = .ok loc) :
    d.locate p = d.locate q := by
  obtain ⟨here, rfl, hp'⟩ := locate_beside hp hne hslash htarget hloc
  obtain ⟨here', hsame, hq'⟩ := locate_beside hq hne hslash hother hloc'
  obtain ⟨rfl, hnames⟩ := List.append_inj' hsame rfl
  have hname : p.name = q.name := by
    have happend := congrArg String.toList (List.cons.inj hnames).1
    rw [String.toList_append, String.toList_append] at happend
    exact String.toList_inj.1 (List.append_cancel_right happend)
  rw [hp', hq', hname]

end Beside

end Disk

end StateTraces.Files
