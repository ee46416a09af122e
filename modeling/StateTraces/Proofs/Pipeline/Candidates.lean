import StateTraces.Proofs.Files.Pattern
import StateTraces.Proofs.Pipeline.Discovery

/-
The list that discovery gives, candidate by candidate. A file stands for itself, a directory for the files
right inside it whose names fit the pattern, in order of their names, and all else for nothing. The list has
what the candidates stand for where it is seen first. A list that was found is found again.
-/

namespace StateTraces.Pipeline

open Files (Disk FilePath)

variable {d : Disk} {pattern : String} {candidate : FilePath} {loc : Files.Location} {name : String}

/-! ## What candidates stand for -/

/-- The files that a candidate stands for: a file for itself, a directory for the files right inside it whose
names in small letters fit the pattern in small letters, in order of their names, and all else for nothing. -/
inductive StandsFor (d : Disk) (pattern : String) (candidate : FilePath) : List FilePath → Prop where
  | file {content : Files.Content} (h : d.find candidate = .ok (.file content)) :
      StandsFor d pattern candidate [candidate]
  | directory {loc : Files.Location} {names : List String} (hloc : d.locate candidate = .ok loc)
      (hdir : d.kind? loc = some .directory) (hsorted : names.Pairwise (· < ·))
      (hnames : ∀ name, name ∈ names ↔ (∃ content, d.kind? (loc ++ [name]) = some (.file content)) ∧
        Files.PatternItem.Makes (Files.PatternItem.ofChars (Text.lower pattern).toList) (Text.lower name).toList) :
      StandsFor d pattern candidate (names.map candidate.child)
  | nothing {fault : Files.Fault} (h : d.find candidate = .error fault) : StandsFor d pattern candidate []

/-- An entry, if there is a file. -/
def ifFile (entry : FilePath) : Option Files.Kind → Option FilePath
  | some (.file _) => some entry
  | _ => none

@[simp] theorem ifFile_file (entry : FilePath) (content : Files.Content) :
    ifFile entry (some (.file content)) = some entry := rfl

@[simp] theorem ifFile_directory (entry : FilePath) : ifFile entry (some .directory) = none := rfl

@[simp] theorem ifFile_none (entry : FilePath) : ifFile entry none = none := rfl

theorem filesIn_of_locate (hloc : d.locate candidate = .ok loc) : filesIn d candidate pattern =
    (((d.names loc).map candidate.child).mapM fun entry => (d.look? entry).map (ifFile entry)).map fun entries =>
      (entries.filterMap id).filter fun entry => Files.matchesPattern entry.name pattern := by
  unfold filesIn
  rw [hloc]
  dsimp only [bind, Except.bind]
  rw [filterMapM_eq (g := fun entry => (d.look? entry).map (ifFile entry))]
  · cases ((d.names loc).map candidate.child).mapM fun entry => (d.look? entry).map (ifFile entry) <;> rfl
  · intro entry
    cases d.look? entry with
    | error fault => rfl
    | ok kind? =>
      cases kind? with
      | none => rfl
      | some kind => cases kind <;> rfl

/-- The names of a directory that stand for files that fit. -/
def fittingNames (d : Disk) (loc : Files.Location) (pattern : String) : List String :=
  (d.names loc).filter fun name =>
    (ifFile ⟨"", [name]⟩ (d.kind? (loc ++ [name]))).isSome && Files.matchesPattern name pattern

theorem filter_ifFile (candidate : FilePath) (names : List String) :
    (names.filterMap fun name => ifFile (candidate.child name) (d.kind? (loc ++ [name]))).filter
        (fun entry => Files.matchesPattern entry.name pattern) =
      (names.filter fun name =>
        (ifFile ⟨"", [name]⟩ (d.kind? (loc ++ [name]))).isSome && Files.matchesPattern name pattern).map
        candidate.child := by
  induction names with
  | nil => rfl
  | cons name names ih =>
    have hname : (candidate.child name).name = name := by simp [FilePath.child, FilePath.name]
    cases hkind : d.kind? (loc ++ [name]) with
    | none => simp [hkind, ih]
    | some kind =>
      cases kind with
      | directory => simp [hkind, ih]
      | file content => cases hfit : Files.matchesPattern name pattern <;> simp [hkind, hname, hfit, ih]

/-- The files of a directory, unless an entry has a path that is too long. -/
theorem filesIn_eq (htree : d.Tree) (hplain : candidate.Plain) (hloc : d.locate candidate = .ok loc)
    (hdir : d.kind? loc = some .directory)
    (hshort : ∀ name ∈ d.names loc, (candidate.child name).text.utf8ByteSize ≤ Files.longestPath) :
    filesIn d candidate pattern = .ok ((fittingNames d loc pattern).map candidate.child) := by
  have hentries : ((d.names loc).map candidate.child).mapM (fun entry => (d.look? entry).map (ifFile entry)) =
      .ok ((d.names loc).map fun name => ifFile (candidate.child name) (d.kind? (loc ++ [name]))) := by
    rw [mapM_ok_iff, List.forall₂_map_left_iff, List.forall₂_map_right_iff, List.forall₂_same]
    intro name hname
    have hlook := Disk.look?_child hplain hloc hdir (Disk.isName_of_mem_names htree.named hname)
    rw [if_neg (Nat.not_lt.2 (hshort name hname))] at hlook
    rw [hlook]
    rfl
  rw [filesIn_of_locate hloc, hentries]
  dsimp only [Except.map]
  rw [List.filterMap_map]
  exact congrArg Except.ok (filter_ifFile candidate (d.names loc))

theorem mem_fittingNames : name ∈ fittingNames d loc pattern ↔
    (∃ content, d.kind? (loc ++ [name]) = some (.file content)) ∧
      Files.PatternItem.Makes (Files.PatternItem.ofChars (Text.lower pattern).toList) (Text.lower name).toList := by
  have hmem : ∀ content, d.kind? (loc ++ [name]) = some (.file content) → name ∈ d.names loc := by
    intro content hkind
    refine Disk.mem_names.2 (List.mem_append_right _ ?_)
    unfold Disk.kind? at hkind
    split at hkind
    · cases hkind
    · obtain ⟨content', hget, -⟩ := Option.map_eq_some_iff.1 hkind
      exact List.mem_map_of_mem (Table.mem_of_get? hget)
  rw [fittingNames, List.mem_filter, Bool.and_eq_true, Files.matchesPattern, Files.PatternItem.fits_iff_makes]
  cases hkind : d.kind? (loc ++ [name]) with
  | none => simp
  | some kind =>
    cases kind with
    | directory => simp
    | file content => simpa using fun _ => hmem content hkind

/-- A candidate stands for what it expands to, unless it is too long. -/
theorem expand_standsFor (pattern : String) (htree : d.Tree) (hplain : candidate.Plain)
    (hshort : ¬d.TooLong candidate) :
    ∃ files, expand d pattern candidate = .ok files ∧ StandsFor d pattern candidate files := by
  unfold expand
  cases hfind : d.find candidate with
  | error fault =>
    have hlook : d.look? candidate = .ok none := by
      rw [Disk.look?, hfind]
      cases fault <;> first | rfl | exact absurd (Disk.TooLong.path hfind) hshort
    exact ⟨[], by rw [hlook]; rfl, .nothing hfind⟩
  | ok kind =>
    have hlook : d.look? candidate = .ok (some kind) := by rw [Disk.look?, hfind]
    cases kind with
    | file content => exact ⟨[candidate], by rw [hlook]; rfl, .file hfind⟩
    | directory =>
      obtain ⟨loc, hloc, hdir⟩ := Disk.locate_of_find hfind
      refine ⟨(fittingNames d loc pattern).map candidate.child, ?_, .directory hloc hdir ?_ fun name =>
        mem_fittingNames⟩
      · rw [hlook]
        exact filesIn_eq htree hplain hloc hdir fun name hname =>
          Nat.le_of_not_lt fun hlong => hshort (.entry hloc hdir hname hlong)
      · exact (Disk.pairwise_names htree.nodup loc).filter _

/-! ## Candidates that are too long -/

/-- Looking entries up fails in one way only. -/
theorem map_look?_error {entry : FilePath} {fault : Files.Fault}
    (h : (d.look? entry).map (ifFile entry) = .error fault) : fault = .nameTooLong := by
  cases hlook : d.look? entry with
  | ok kind? => rw [hlook] at h; cases h
  | error fault' => rw [hlook] at h; cases h; exact Disk.look?_error hlook

theorem expand_error {fault : Files.Fault} (h : expand d pattern candidate = .error fault) :
    fault = .nameTooLong := by
  unfold expand at h
  cases hlook : d.look? candidate with
  | error fault' => rw [hlook] at h; cases h; exact Disk.look?_error hlook
  | ok kind? =>
    rw [hlook] at h
    match kind?, h with
    | some .directory, h =>
      obtain ⟨loc, hloc, -⟩ := Disk.locate_of_find (Disk.find_of_look? hlook)
      replace h : filesIn d candidate pattern = .error fault := h
      rw [filesIn_of_locate hloc] at h
      cases hentries : ((d.names loc).map candidate.child).mapM fun entry => (d.look? entry).map (ifFile entry) with
      | ok entries => rw [hentries] at h; cases h
      | error fault' =>
        rw [hentries] at h
        cases h
        obtain ⟨entry, -, hfail⟩ := exists_of_mapM_error hentries
        exact map_look?_error hfail

/-- A candidate that is too long cannot be looked up. -/
theorem expand_tooLong (htree : d.Tree) (hplain : candidate.Plain) (h : d.TooLong candidate) :
    expand d pattern candidate = .error .nameTooLong := by
  cases h with
  | path hfind => rw [expand, Disk.look?, hfind]; rfl
  | @entry loc name hloc hdir hname hlong =>
    have hfail : (d.look? (candidate.child name)).map (ifFile (candidate.child name)) = .error .nameTooLong := by
      rw [Disk.look?_child hplain hloc hdir (Disk.isName_of_mem_names htree.named hname), if_pos hlong]
      rfl
    have hentries : ((d.names loc).map candidate.child).mapM (fun entry => (d.look? entry).map (ifFile entry)) =
        .error .nameTooLong :=
      mapM_eq_error (fun entry _ fault => map_look?_error) (List.mem_map_of_mem hname) hfail
    have hfiles : filesIn d candidate pattern = .error .nameTooLong := by
      rw [filesIn_of_locate hloc, hentries]
      rfl
    rw [expand, Disk.look?_of_locate hloc, hdir]
    exact hfiles

/-! ## The list that is found -/

/-- The places where paths are looked for: each path below each directory in turn, and the directories
themselves where no path is asked for. -/
def places (paths includes : List FilePath) : List FilePath :=
  if paths = [] then includes else paths.flatMap fun path => includes.map (·.join path)

theorem candidates_eq_places {paths : List FilePath} (includes : List FilePath)
    (hrelative : ∀ path ∈ paths, path.isAbsolute = false) :
    candidates paths includes = places paths includes := by
  unfold candidates places
  cases paths with
  | nil => rfl
  | cons path paths =>
    refine List.flatMap_congr fun path' hpath' => ?_
    rw [roots, hrelative path' hpath']
    rfl

/-- What discovery answers for some places: the files that they stand for, as first seen, and the same list
again when it is asked for them. -/
structure Discovered (d : Disk) (pattern : String) (places found : List FilePath) : Prop where
  firstSeen : ∃ lists, List.Forall₂ (StandsFor d pattern) places lists ∧ FirstSeen lists.flatten found
  again : found ≠ [] → ∀ pattern, discover d found [.ofText "."] pattern = .ok found

/-- Files that were found are found again, whatever the pattern. -/
theorem discover_again {found : List FilePath} (hnodup : found.Nodup) (hfound : ∀ source ∈ found, Found d source)
    (hne : found ≠ []) (pattern : String) : discover d found [.ofText "."] pattern = .ok found := by
  have hroots : ∀ source ∈ found, roots [.ofText "."] source = [source] := by
    intro source _
    obtain ⟨root, names⟩ := source
    unfold roots
    split
    · rfl
    · rename_i habsolute
      have hroot : root = "" := by simpa [FilePath.isAbsolute] using habsolute
      rw [show FilePath.ofText "." = ⟨"", []⟩ by decide +kernel, hroot]
      rfl
  have hcandidates : candidates found [.ofText "."] = found := by
    rw [candidates, if_neg (by simpa using hne), List.flatMap_congr hroots, List.flatMap_singleton']
  have hexpand : found.mapM (expand d pattern) = .ok (found.map fun source => [source]) := by
    rw [mapM_ok_iff, List.forall₂_map_right_iff, List.forall₂_same]
    intro source hsource
    obtain ⟨-, content, hread⟩ := hfound source hsource
    rw [expand, Disk.look?_of_read hread]
    rfl
  rw [discover, hcandidates, hexpand]
  dsimp only [bind, Except.bind, pure, Except.pure]
  rw [← List.flatMap_def, List.flatMap_singleton', eraseDups_of_nodup hnodup]

/-- Discovery finds what the places stand for, unless one of them is too long to look up, which stops it. -/
theorem discover_spec {paths includes : List FilePath} (pattern : String) (htree : d.Tree)
    (hpaths : ∀ path ∈ paths, path.Plain) (hrelative : ∀ path ∈ paths, path.isAbsolute = false)
    (hincludes : ∀ path ∈ includes, path.Plain) :
    ((∃ place ∈ places paths includes, d.TooLong place) →
      discover d paths includes pattern = .error .nameTooLong) ∧
    ((∀ place ∈ places paths includes, ¬d.TooLong place) →
      ∃ found, discover d paths includes pattern = .ok found ∧
        Discovered d pattern (places paths includes) found) := by
  have hcandidates := candidates_eq_places includes hrelative
  have hplain : ∀ place ∈ places paths includes, place.Plain := fun place hplace =>
    plain_of_mem_candidates hpaths hincludes (hcandidates ▸ hplace)
  constructor
  · rintro ⟨place, hplace, hlong⟩
    have hlists : (places paths includes).mapM (expand d pattern) = .error .nameTooLong :=
      mapM_eq_error (fun _ _ _ => expand_error) hplace (expand_tooLong htree (hplain place hplace) hlong)
    rw [discover, hcandidates, hlists]
    rfl
  · intro hshort
    obtain ⟨lists, hlists, hstands⟩ := exists_mapM_ok fun place hplace =>
      expand_standsFor pattern htree (hplain place hplace) (hshort place hplace)
    have hdiscover : discover d paths includes pattern = .ok lists.flatten.eraseDups := by
      rw [discover, hcandidates, hlists]
      rfl
    obtain ⟨hnodup, hfound⟩ := discover_found htree.named hpaths hincludes hdiscover
    exact ⟨_, hdiscover, ⟨lists, hstands, firstSeen_eraseDups _⟩, discover_again hnodup hfound⟩

/-- A directory with two graphs, a file that is none, and a directory inside. -/
def sampleTree : Disk where
  directories := [["g"], ["g", "more"]]
  files := [(["g", "b.dot"], .text ""), (["g", "A.DOT"], .text ""), (["g", "n.txt"], .text ""),
    (["g", "more", "c.dot"], .text "")]

theorem discover_sampleTree :
    let paths := [FilePath.ofText "b.dot", .ofText ".", .ofText "n.txt"]
    let includes := [FilePath.ofText "none", .ofText "g", .ofText "./g/more"]
    sampleTree.Tree ∧ (∀ path ∈ paths, path.isAbsolute = false) ∧
      ∃ found, discover sampleTree paths includes "*.Dot" = .ok found ∧
        Discovered sampleTree "*.Dot" (places paths includes) found := by
  intro paths includes
  have htree : sampleTree.Tree := by decide +kernel
  have hrelative : ∀ path ∈ paths, path.isAbsolute = false := by decide +kernel
  have hpaths : ∀ path ∈ paths, path.Plain := by simp [paths, FilePath.plain_ofText]
  have hincludes : ∀ path ∈ includes, path.Plain := by simp [includes, FilePath.plain_ofText]
  have hshort : ∀ place ∈ places paths includes, (∀ n ∈ place.parts, n.utf8ByteSize ≤ Files.longestName) ∧
      place.text.utf8ByteSize + 1 + Files.longestName ≤ Files.longestPath := by decide +kernel
  refine ⟨htree, hrelative, (discover_spec "*.Dot" htree hpaths hrelative hincludes).2 fun place hplace => ?_⟩
  have hcandidate : place ∈ candidates paths includes := candidates_eq_places includes hrelative ▸ hplace
  have hplain : place.Plain := plain_of_mem_candidates hpaths hincludes hcandidate
  exact Disk.not_tooLong htree hplain (hshort place hplace).1 (hshort place hplace).2

/-- A path that is too long to look up stops discovery. -/
theorem discover_of_longName (h : Disk.LongName name) :
    discover d [.ofText name] [.ofText "."] pattern = .error .nameTooLong := by
  have hroots : roots [.ofText "."] (.ofText name) = [.ofText name] := by
    rw [h.ofText_eq, show FilePath.ofText "." = ⟨"", []⟩ by decide +kernel]
    rfl
  have hexpand : expand d pattern (.ofText name) = .error .nameTooLong := by
    rw [expand, Disk.look?, h.find_eq]
    rfl
  simp [discover, candidates, hroots, hexpand, bind, Except.bind]

/-- A name with one character too many names nothing, and discovery should find nothing for it. -/
theorem discover_longName : let path := FilePath.ofText (String.ofList (List.replicate 256 'n'))
    Disk.Tree {} ∧ path.isAbsolute = false ∧ discover {} [path] [.ofText "."] "*.dot" = .error .nameTooLong := by
  have hother : ∀ c, c ≠ 'n' → c ∉ (String.ofList (List.replicate 256 'n')).toList := fun c hc hmem => by
    rw [String.toList_ofList] at hmem
    exact hc (List.eq_of_mem_replicate hmem)
  have hlong : Disk.LongName (String.ofList (List.replicate 256 'n')) :=
    ⟨hother _ (by decide), hother _ (by decide), by decide +kernel⟩
  exact ⟨by decide, by rw [hlong.ofText_eq]; rfl, discover_of_longName hlong⟩

end StateTraces.Pipeline
