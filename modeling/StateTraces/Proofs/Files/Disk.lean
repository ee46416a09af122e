import StateTraces.Files.Disk
import StateTraces.Proofs.Graph

/-
Laws of reading and writing. Only directories are looked at on the way to a file, so writing a file
changes no way to any other; what was written is what is read afterwards. A path with a NUL character is
the only one that is no path at all.
-/

namespace StateTraces.Files.Disk

variable {d e : Disk}

/-! ## Ways to a file -/

theorem kind?_eq_directory {loc : Location} :
    d.kind? loc = some .directory ↔ isAbove loc ∨ loc ∈ d.directories := by
  unfold kind?
  split
  · rename_i h; exact ⟨fun _ => h, fun _ => rfl⟩
  · rename_i h
    refine ⟨fun hk => ?_, fun hk => absurd hk h⟩
    cases hf : d.files.get? loc <;> simp [hf] at hk

/-- A way goes through directories only. -/
theorem walk_of_directories (h : d.directories = e.directories) {names : List String} {here loc : Location}
    (hwalk : d.walk here names = .ok loc) : e.walk here names = .ok loc := by
  induction names generalizing here with
  | nil => exact hwalk
  | cons name names ih =>
    cases hkind : d.kind? here with
    | none => simp [walk, hkind] at hwalk
    | some kind =>
      cases kind with
      | file content => simp [walk, hkind] at hwalk
      | directory =>
        -- where a directory is does not depend on the files
        have hkind' : e.kind? here = some .directory :=
          kind?_eq_directory.2 (h ▸ kind?_eq_directory.1 hkind)
        rw [walk, hkind] at hwalk
        rw [walk, hkind']
        dsimp only at hwalk ⊢
        split_ifs at hwalk ⊢ with h₁ h₂ h₃
        · exact ih hwalk
        · exact ih hwalk
        · exact ih hwalk

theorem locateText_of_directories (h : d.directories = e.directories) {s : String} {loc : Location}
    (hloc : d.locateText s = .ok loc) : e.locateText s = .ok loc := by
  unfold locateText at hloc ⊢
  cases hstart : start s with
  | error fault => rw [hstart] at hloc; cases hloc
  | ok r =>
    rw [hstart] at hloc
    exact walk_of_directories h hloc

/-! ## Paths that are none -/

theorem walk_ne_nulCharacter {names : List String} {here : Location} :
    d.walk here names ≠ .error .nulCharacter := by
  induction names generalizing here with
  | nil => exact fun h => by cases h
  | cons name names ih =>
    unfold walk
    split
    · exact fun h => by cases h
    · exact fun h => by cases h
    · split_ifs
      · exact ih
      · exact ih
      · exact fun h => by cases h
      · exact ih

theorem locateText_nulCharacter {s : String} :
    d.locateText s = .error .nulCharacter ↔ '\x00' ∈ s.toList := by
  have hcontains : s.contains '\x00' = true ↔ '\x00' ∈ s.toList := by
    rw [String.contains_char_eq, decide_eq_true_eq]
  rw [← hcontains]
  by_cases h : s.contains '\x00' = true
  · have hstart : start s = .error .nulCharacter := if_pos h
    exact iff_of_true (by rw [locateText, hstart]; rfl) h
  · refine iff_of_false (fun hloc => ?_) h
    unfold locateText start at hloc
    rw [if_neg h] at hloc
    split_ifs at hloc
    · cases hloc
    · cases hloc
    · exact walk_ne_nulCharacter hloc
    · exact walk_ne_nulCharacter hloc

/-! ## Reading and writing -/

section Paths

variable {p : FilePath} {content : Content} {loc : Location}

theorem read_of_locate_error {fault : Fault} (h : d.locate p = .error fault) : d.read p = .error fault := by
  unfold read find findText
  rw [show d.locateText p.text = .error fault from h]
  rfl

theorem read_of_locate (h : d.locate p = .ok loc) : d.read p =
    match d.kind? loc with
    | some (.file content) => .ok content
    | some .directory => .error .isDirectory
    | none => .error .notFound := by
  unfold read find findText
  rw [show d.locateText p.text = .ok loc from h]
  cases hkind : d.kind? loc with
  | none => simp [hkind, bind, Except.bind, throw, throwThe, MonadExceptOf.throw]
  | some kind => cases kind <;> simp [hkind, bind, Except.bind, pure, Except.pure, throw, throwThe, MonadExceptOf.throw]

theorem find_of_locate (h : d.locate p = .ok loc) : d.find p = (d.kind? loc).elim (.error .notFound) .ok := by
  unfold find findText
  rw [show d.locateText p.text = .ok loc from h]
  cases hkind : d.kind? loc with
  | none => simp only [bind, Except.bind, hkind]; rfl
  | some kind => simp only [bind, Except.bind, hkind]; rfl

theorem find_of_locate_error {fault : Fault} (h : d.locate p = .error fault) : d.find p = .error fault := by
  unfold find findText
  rw [show d.locateText p.text = .error fault from h]
  rfl

/-- What is found is at the place. -/
theorem locate_of_find {kind : Kind} (h : d.find p = .ok kind) :
    ∃ loc, d.locate p = .ok loc ∧ d.kind? loc = some kind := by
  cases hloc : d.locate p with
  | error fault => rw [find_of_locate_error hloc] at h; cases h
  | ok loc =>
    rw [find_of_locate hloc] at h
    cases hkind : d.kind? loc with
    | none => rw [hkind] at h; cases h
    | some kind' => rw [hkind] at h; cases h; exact ⟨loc, rfl, hkind⟩

theorem look?_of_locate (h : d.locate p = .ok loc) : d.look? p = .ok (d.kind? loc) := by
  rw [look?, find_of_locate h]
  cases d.kind? loc <;> rfl

theorem find_of_look? {kind : Kind} (h : d.look? p = .ok (some kind)) : d.find p = .ok kind := by
  unfold look? at h
  split at h
  · rename_i kind' hfind
    cases h
    exact hfind
  · cases h
  · cases h

/-- Looking up fails in one way only. -/
theorem look?_error {fault : Fault} (h : d.look? p = .error fault) : fault = .nameTooLong := by
  unfold look? at h
  split at h
  · cases h
  · cases h; rfl
  · cases h

/-- What is read depends on the place only. -/
theorem read_congr {q : FilePath} (h : d.locate p = d.locate q) : d.read p = d.read q := by
  cases hloc : d.locate p with
  | error fault => rw [read_of_locate_error hloc, read_of_locate_error (h ▸ hloc)]
  | ok loc => rw [read_of_locate hloc, read_of_locate (h ▸ hloc)]

theorem write_of_locate_error {fault : Fault} (h : d.locate p = .error fault) :
    d.write p content = .error fault := by
  unfold write writeText
  rw [show d.locateText p.text = .error fault from h]
  rfl

theorem write_of_locate (h : d.locate p = .ok loc) : d.write p content =
    if isAbove loc ∨ loc ∈ d.directories then .error .isDirectory
    else .ok { d with files := d.files.set loc content } := by
  unfold write writeText
  rw [show d.locateText p.text = .ok loc from h]
  split_ifs with hdir
  · have hkind : d.kind? loc = some .directory := kind?_eq_directory.2 hdir
    simp [hkind, bind, Except.bind, throw, throwThe, MonadExceptOf.throw]
  · have hkind : d.kind? loc ≠ some .directory := fun h => hdir (kind?_eq_directory.1 h)
    cases hk : d.kind? loc with
    | none => simp [hk, bind, Except.bind, pure, Except.pure]
    | some kind =>
      cases kind with
      | directory => exact absurd hk hkind
      | file _ => simp [hk, bind, Except.bind, pure, Except.pure]

theorem read_nulCharacter : d.read p = .error .nulCharacter ↔ '\x00' ∈ p.text.toList := by
  rw [← locateText_nulCharacter (d := d)]
  cases hloc : d.locate p with
  | error fault =>
    rw [read_of_locate_error hloc, show d.locateText p.text = .error fault from hloc, Except.error.injEq,
      Except.error.injEq]
  | ok loc =>
    rw [read_of_locate hloc]
    refine iff_of_false (fun h => ?_) fun h => by rw [locate, h] at hloc; cases hloc
    split at h <;> cases h

theorem write_nulCharacter : d.write p content = .error .nulCharacter ↔ '\x00' ∈ p.text.toList := by
  rw [← locateText_nulCharacter (d := d)]
  cases hloc : d.locate p with
  | error fault =>
    rw [write_of_locate_error hloc, show d.locateText p.text = .error fault from hloc, Except.error.injEq,
      Except.error.injEq]
  | ok loc =>
    rw [write_of_locate hloc]
    refine iff_of_false (fun h => ?_) fun h => by rw [locate, h] at hloc; cases hloc
    split at h <;> cases h

/-- What is read is the content of the file at the place. -/
theorem get?_of_read (h : d.read p = .ok content) :
    ∃ loc, d.locate p = .ok loc ∧ ¬(isAbove loc ∨ loc ∈ d.directories) ∧ d.files.get? loc = some content := by
  cases hloc : d.locate p with
  | error fault => rw [read_of_locate_error hloc] at h; cases h
  | ok loc =>
    refine ⟨loc, rfl, ?_⟩
    rw [read_of_locate hloc] at h
    split at h
    · rename_i c hkind
      cases h
      unfold kind? at hkind
      split at hkind
      · cases hkind
      · rename_i hdir
        cases hfile : d.files.get? loc with
        | none => rw [hfile] at hkind; cases hkind
        | some c => rw [hfile] at hkind; cases hkind; exact ⟨hdir, rfl⟩
    · cases h
    · cases h

theorem read_of_get? (hloc : d.locate p = .ok loc) (hdir : ¬(isAbove loc ∨ loc ∈ d.directories))
    (hget : d.files.get? loc = some content) : d.read p = .ok content := by
  rw [read_of_locate hloc, kind?, if_neg hdir, hget]
  rfl

theorem look?_of_read (h : d.read p = .ok content) : d.look? p = .ok (some (.file content)) := by
  obtain ⟨loc, hloc, hdir, hget⟩ := get?_of_read h
  rw [look?_of_locate hloc, kind?, if_neg hdir, hget]
  rfl

theorem read_of_look? (h : d.look? p = .ok (some (.file content))) : d.read p = .ok content := by
  unfold read
  rw [find_of_look? h]
  rfl

/-- What is read is the content of some file. -/
theorem mem_files_of_read (h : d.read p = .ok content) : ∃ loc, (loc, content) ∈ d.files := by
  obtain ⟨loc, -, -, hget⟩ := get?_of_read h
  exact ⟨loc, Table.mem_of_get? hget⟩

/-- Writing sets one file, where no directory is. -/
theorem write_ok (h : d.write p content = .ok e) :
    ∃ loc, d.locate p = .ok loc ∧ ¬(isAbove loc ∨ loc ∈ d.directories) ∧
      e = { d with files := d.files.set loc content } := by
  cases hloc : d.locate p with
  | error fault => rw [write_of_locate_error hloc] at h; cases h
  | ok loc =>
    rw [write_of_locate hloc] at h
    split at h
    · cases h
    · rename_i hdir
      cases h
      exact ⟨loc, rfl, hdir, rfl⟩

/-- What was written is read. -/
theorem read_of_write (h : d.write p content = .ok e) : e.read p = .ok content := by
  obtain ⟨loc, hloc, hdir, he⟩ := write_ok h
  have hdirectories : d.directories = e.directories := by rw [he]
  have hloc' : e.locate p = .ok loc := locateText_of_directories hdirectories hloc
  have hkind : e.kind? loc = some (.file content) := by
    rw [kind?, ← hdirectories, if_neg hdir, he, Table.get?_set, if_pos rfl]
    rfl
  rw [read_of_locate hloc', hkind]

end Paths

/-! ## Lines -/

theorem normalLines_eq_self {cs : List Char} (h : '\r' ∉ cs) : normalLines cs = cs := by
  induction cs with
  | nil => rfl
  | cons c cs ih =>
    obtain ⟨hc, hcs⟩ := not_or.1 fun hmem => h (List.mem_cons.2 hmem)
    rw [normalLines, ih hcs]
    · rintro cs' rfl
      exact absurd rfl hc
    · rintro rfl
      exact absurd rfl hc

/-- A text without carriage returns is read as it stands in the file. -/
theorem lines?_of_not_mem {s : String} (h : '\r' ∉ s.toList) : (Content.text s).lines? = some s := by
  rw [Content.lines?, normalLines_eq_self h, String.ofList_toList]

/-! ## Writing texts -/

/-- The second tree is the first one with texts written: it has the same directories, and files that hold
no text are old. -/
structure WithTexts (d e : Disk) : Prop where
  directories_eq : d.directories = e.directories
  get?_of_binary : ∀ {loc bytes}, e.files.get? loc = some (.binary bytes) → d.files.get? loc = some (.binary bytes)

theorem WithTexts.refl (d : Disk) : d.WithTexts d := ⟨rfl, id⟩

theorem WithTexts.trans {f : Disk} (h : d.WithTexts e) (h' : e.WithTexts f) : d.WithTexts f :=
  ⟨h.directories_eq.trans h'.directories_eq, fun hf => h.get?_of_binary (h'.get?_of_binary hf)⟩

theorem withTexts_of_write {p : FilePath} {s : String} (h : d.write p (.text s) = .ok e) : d.WithTexts e := by
  obtain ⟨loc, -, -, rfl⟩ := write_ok h
  refine ⟨rfl, fun {loc' bytes} hget => ?_⟩
  rw [Table.get?_set] at hget
  split at hget
  · cases hget
  · exact hget

/-- A file that holds no text was there before. -/
theorem WithTexts.read_binary {p : FilePath} {bytes : List UInt8} (h : d.WithTexts e)
    (hread : e.read p = .ok (.binary bytes)) : d.read p = .ok (.binary bytes) := by
  obtain ⟨loc, hloc, hdir, hget⟩ := get?_of_read hread
  rw [← h.directories_eq] at hdir
  exact read_of_get? (locateText_of_directories h.directories_eq.symm hloc) hdir (h.get?_of_binary hget)

/-! ## Equal trees -/

/-- The same directories, and the same files at the same places, in whatever order they came to be. -/
structure Same (d e : Disk) : Prop where
  directories_eq : d.directories = e.directories
  get?_eq : ∀ loc, d.files.get? loc = e.files.get? loc

end StateTraces.Files.Disk
