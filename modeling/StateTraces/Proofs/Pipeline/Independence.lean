import Mathlib.Data.List.Perm.Basic
import StateTraces.Proofs.Pipeline.Locality

/-
Runs of several paths. A turn changes the tree only where the traces file of its path lies, and what it
tells is about its path. So as long as no traces file comes in the way of another path, every path has the
outcome that it has on its own, and the order of the paths does not matter to the tree.
-/

namespace StateTraces.Pipeline

open Files (Disk FilePath)

/-! ## Trees in the middle of a run -/

/-- No traces file lies where one of the paths is, or one of the directories on the way to it. -/
def Apart (p : Pipeline) (d : Disk) (paths : List FilePath) : Prop :=
  ∀ source ∈ paths, ∀ target loc, source.addSuffix p.suffix = .ok target → d.locate target = .ok loc →
    ∀ path ∈ paths, ∀ k, d.locate (path.upTo k) ≠ .ok loc

/-- Nothing is written where one of the paths is, or one of the directories on the way to it. -/
def Clear (p : Pipeline) (d : Disk) (paths : List FilePath) : Prop :=
  ∀ source ∈ paths, ∀ loc content, p.Writes source d loc content →
    ∀ path ∈ paths, ∀ k, d.locate (path.upTo k) ≠ .ok loc

theorem Apart.clear {p : Pipeline} {d : Disk} {paths : List FilePath} (h : p.Apart d paths) : p.Clear d paths :=
  fun source hsource loc _ ⟨target, _, htarget, _, hloc, _⟩ => h source hsource target loc htarget hloc

theorem Apart.of_perm {p : Pipeline} {d : Disk} {paths paths' : List FilePath} (h : p.Apart d paths)
    (hperm : paths'.Perm paths) : p.Apart d paths' := fun source hsource target loc htarget hloc path hpath =>
  h source (hperm.mem_iff.1 hsource) target loc htarget hloc path (hperm.mem_iff.1 hpath)

/-- Files in the working directory are apart if none of them has the name of another one with the suffix. -/
theorem apart_of_names {p : Pipeline} {d : Disk} {names : List String} (hne : p.suffix ≠ "")
    (hslash : '/' ∉ p.suffix.toList) (hnames : ∀ name ∈ names, Disk.IsName name)
    (hdistinct : ∀ name ∈ names, ∀ other ∈ names, name ++ p.suffix ≠ other) :
    p.Apart d (names.map FilePath.ofText) := by
  intro source hsource target loc htarget hloc path hpath k hway
  obtain ⟨name, hname, rfl⟩ := List.mem_map.1 hsource
  obtain ⟨other, hother, rfl⟩ := List.mem_map.1 hpath
  obtain ⟨here, rfl, -⟩ := Disk.locate_beside (FilePath.plain_ofText name) hne hslash htarget hloc
  obtain hnil | hsame := Disk.locate_upTo_name (hnames other hother) hway
  · exact List.append_ne_nil_of_right_ne_nil here (List.cons_ne_nil _ _) hnil
  · rw [(hnames name hname).ofText_eq] at hsame
    have hlast : here ++ [name ++ p.suffix] = [] ++ [other] := hsame
    exact hdistinct name hname other hother (List.cons.inj (List.append_inj' hlast rfl).2).1

/-- The tree after calls for some paths: it has the files that they write on their own, and else what was there. -/
structure Settled (p : Pipeline) (d : Disk) (done : List FilePath) (e : Disk) : Prop where
  directories_eq : d.directories = e.directories
  written : ∀ path ∈ done, ∀ loc content, p.Writes path d loc content → e.files.get? loc = some content
  kept : ∀ loc, (∀ path ∈ done, ∀ content, ¬p.Writes path d loc content) → e.files.get? loc = d.files.get? loc

section Settled

variable {p : Pipeline} {d e : Disk} {path : FilePath} {paths done : List FilePath} {loc : Files.Location}
  {content : Files.Content}

theorem settled_nil (p : Pipeline) (d : Disk) : p.Settled d [] d :=
  ⟨rfl, fun _ h => absurd h List.not_mem_nil, fun _ _ => rfl⟩

/-- What was written by other turns is not on the way to a path. -/
theorem Settled.agree (h : p.Settled d done e) (hclear : p.Clear d paths) (hdone : ∀ source ∈ done, source ∈ paths)
    (hpath : path ∈ paths) : d.Agree e path where
  directories_eq := h.directories_eq
  kind?_eq {k loc} hloc := by
    have hkept := h.kept loc fun source hsource content hwrites =>
      hclear source (hdone source hsource) loc content hwrites path hpath k hloc
    rw [Disk.kind?, Disk.kind?, h.directories_eq, hkept]

theorem Writes.place_unique {loc' : Files.Location} {content' : Files.Content} (h : p.Writes path d loc content)
    (h' : p.Writes path d loc' content') : loc = loc' := by
  obtain ⟨target, -, htarget, -, hloc, -⟩ := h
  obtain ⟨target', -, htarget', -, hloc', -⟩ := h'
  obtain rfl := Except.ok.inj (htarget.symm.trans htarget')
  exact Except.ok.inj (hloc.symm.trans hloc')

theorem Settled.write (h : p.Settled d done e) (hplain : ∀ source ∈ done, source.Plain) (hpath : path.Plain)
    (hne : p.suffix ≠ "") (hslash : '/' ∉ p.suffix.toList) (hwrites : p.Writes path d loc content) :
    p.Settled d (done ++ [path]) (e.set loc content) where
  directories_eq := h.directories_eq
  written source hsource loc' content' hwrites' := by
    rw [Disk.set, Table.get?_set]
    rcases List.mem_append.1 hsource with hsource | hsource
    · split
      · subst_vars
        rw [hwrites.unique hpath (hplain source hsource) hne hslash hwrites']
      · exact h.written source hsource loc' content' hwrites'
    · rw [List.mem_singleton.1 hsource] at hwrites'
      obtain rfl := hwrites.place_unique hwrites'
      rw [if_pos rfl, hwrites.unique hpath hpath hne hslash hwrites']
  kept loc' hnone := by
    have hother : loc ≠ loc' := fun hsame =>
      hnone path (List.mem_append_right _ (List.mem_singleton_self path)) content (hsame ▸ hwrites)
    rw [Disk.set, Table.get?_set, if_neg hother]
    exact h.kept loc' fun source hsource => hnone source (List.mem_append_left _ hsource)

theorem Settled.pass (h : p.Settled d done e) (hnone : ∀ loc content, ¬p.Writes path d loc content) :
    p.Settled d (done ++ [path]) e where
  directories_eq := h.directories_eq
  written source hsource loc' content' hwrites' := by
    rcases List.mem_append.1 hsource with hsource | hsource
    · exact h.written source hsource loc' content' hwrites'
    · rw [List.mem_singleton.1 hsource] at hwrites'
      exact absurd hwrites' (hnone loc' content')
  kept loc' hnone' := h.kept loc' fun source hsource => hnone' source (List.mem_append_left _ hsource)

/-- What a call wrote is read at its place. -/
theorem Settled.read (h : p.Settled d done e) (hpath : path ∈ done) (hwrites : p.Writes path d loc content)
    {target : FilePath} (htarget : path.addSuffix p.suffix = .ok target) : e.read target = .ok content := by
  have hfile := h.written path hpath loc content hwrites
  obtain ⟨target', traces, htarget', -, hloc, hdir, -⟩ := hwrites
  obtain rfl := Except.ok.inj (htarget.symm.trans htarget')
  rw [h.directories_eq] at hdir
  exact Disk.read_of_get? (Disk.locateText_of_directories h.directories_eq hloc) hdir hfile

/-- The order of the paths does not matter. -/
theorem Settled.same {done' : List FilePath} {e' : Disk} (h : p.Settled d done e) (h' : p.Settled d done' e')
    (hmem : ∀ source, source ∈ done ↔ source ∈ done') : e.Same e' where
  directories_eq := h.directories_eq.symm.trans h'.directories_eq
  get?_eq loc := by
    by_cases hwritten : ∃ source ∈ done, ∃ content, p.Writes source d loc content
    · obtain ⟨source, hsource, content, hwrites⟩ := hwritten
      rw [h.written source hsource loc content hwrites, h'.written source ((hmem source).1 hsource) loc content hwrites]
    · have hnone : ∀ source ∈ done, ∀ content, ¬p.Writes source d loc content := fun source hsource content hwrites =>
        hwritten ⟨source, hsource, content, hwrites⟩
      rw [h.kept loc hnone, h'.kept loc fun source hsource => hnone source ((hmem source).2 hsource)]

end Settled

/-! ## Turns -/

section Turn

variable {p : Pipeline} {d : Disk} {path : FilePath} {before : Session}

/-- Without NUL characters and bytes that are no text nothing crashes. -/
theorem not_breaks {crash : Crash} (hpath : path.Plain) (hlegible : Legible path d)
    (hsuffix : Config.isPlainSuffix p.suffix = true) (hnul : '\x00' ∉ p.suffix.toList)
    (hbounds : ¬Overlong p.bounds) : ¬p.Breaks path d crash := by
  by_cases hname : path.name = ""
  · rintro (hread | ⟨-, hoverlong, -⟩ | ⟨⟨traces, g, ⟨text, _, htext, -⟩, -⟩, -⟩)
    · obtain ⟨-, hmem⟩ | ⟨-, bytes, hbytes⟩ := Source.readText_crash.1 hread
      · exact hlegible.1 hmem
      · exact hlegible.2 bytes hbytes
    · exact hbounds hoverlong
    · obtain ⟨content, hcontent, -⟩ := Source.readText_ok.1 htext
      exact Disk.name_of_read hpath hcontent hname
  · exact not_breaks_of_legible hlegible hname (hpath.slash _ (FilePath.mem_parts_of_name hname)) hsuffix hnul
      hbounds

theorem tells_source {s : Source} {n : Notice} (h : n ∈ p.tells s d) : n.source = s.text := by
  rw [tells, call, process_eq] at h
  obtain hnil | ⟨hsource, -⟩ := advance_notices p Phase.all s { disk := d } h
  · cases hnil
  · exact hsource

/-- Nothing is told about other sources. -/
theorem errorsFor_process {s : Source} {name : String} (h : name ≠ s.text) :
    (p.process s before).1.errorsFor name = before.errorsFor name := by
  have hnone : errorsFor name (p.tells s before.disk) = [] := by
    refine List.filter_eq_nil_iff.2 fun n hn => ?_
    rw [decide_eq_true_eq, tells_source hn]
    exact fun herror => h herror.2.symm
  rw [process_session, Session.errorsFor_followedBy]
  exact (congrArg (before.errorsFor name ++ ·) hnone).trans (List.append_nil _)

/-- A file that the system does not open is told with the reason. -/
theorem errors_of_fault {fault : Files.Fault} {o : Outcome} (hread : before.disk.read path = .error fault)
    (hne : fault ≠ .nulCharacter) (hquiet : before.errorsFor path.text = []) (ho : p.result (path, before) = .ok o) :
    o.errors.map Notice.text = ["Failed to parse file: " ++ s!"Cannot read {path.text}: {fault.message}"] := by
  have htext : (errorsIn path.text (p.apply .parseFile (p.source path) before.disk).entries).map Notice.text =
      ["Failed to parse file: " ++ s!"Cannot read {path.text}: {fault.message}"] :=
    Source.parse_of_fault (s := p.source path) hread hne
  have herrors : errorsIn path.text (p.apply .parseFile (p.source path) before.disk).entries ≠ [] := by
    intro hnil
    rw [hnil] at htext
    cases htext
  have hparse : .parseFile ∉ (p.source path).completed := not_completed_source _
  have hlast := advance_last p [.generateCombinations] { disk := before.disk } hparse herrors
  have htells : errorsFor path.text (p.tells (p.source path) before.disk) =
      errorsIn path.text (p.apply .parseFile (p.source path) before.disk).entries := by
    rw [tells, call, process_eq, Phase.all, hlast]
    exact execute_errorsFor p { disk := before.disk } hparse
  rw [(process_ok ho).2.2, show (p.source path).text = path.text from rfl, hquiet, List.nil_append, htells]
  exact htext

/-- A turn ends as on its own, and it writes what it writes on its own. -/
theorem turn_alone (hpath : path.Plain) (hne : p.suffix ≠ "") (hslash : '/' ∉ p.suffix.toList)
    (hcalm : ∀ crash, ¬p.Breaks path d crash) (hagree : d.Agree before.disk path)
    (hquiet : before.errorsFor path.text = []) :
    ∃ o, (p.call (p.source path) d).2.2 = .ok o ∧ p.result (path, before) = .ok o ∧
      ((∃ loc content, p.Writes path d loc content ∧
          (p.process (p.source path) before).1.disk = before.disk.set loc content) ∨
        (∀ loc content, ¬p.Writes path d loc content) ∧ (p.process (p.source path) before).1.disk = before.disk) := by
  obtain ⟨o, ho⟩ : ∃ o, (p.call (p.source path) d).2.2 = .ok o := process_answers_iff.2 hcalm
  obtain ⟨e, hcall⟩ := p.call_agree (s := p.source path) hpath hne hslash hagree
  have hresult : p.result (path, before) = .ok o := by
    rw [result, process_quiet hquiet, hcall]
    exact ho
  refine ⟨o, ho, hresult, ?_⟩
  have hdisk : (p.process (p.source path) before).1.disk = (p.call (p.source path) before.disk).1.disk := by
    rw [process_session]
    rfl
  rw [hdisk]
  refine (call_disk (process_answers_iff.1 ⟨o, hresult⟩)).imp ?_ ?_
  · rintro ⟨loc, content, hwrites, heq⟩
    exact ⟨loc, content, hwrites.mono hpath hne hslash (hagree.symm hpath), heq⟩
  · rintro ⟨hnone, heq⟩
    exact ⟨fun loc content hwrites => hnone loc content (hwrites.mono hpath hne hslash hagree), heq⟩

end Turn

/-! ## Runs -/

section Run

variable {p : Pipeline} {d : Disk}

/-- A run of one path answers with the outcome of the path. -/
theorem run_singleton {path : FilePath} {o : Outcome} (h : (p.call (p.source path) d).2.2 = .ok o) :
    (p.run { disk := d } [path]).2 = .ok [o] := by
  rw [run_cons_ok (o := o) h]
  rfl

/-- A run goes on as if the paths before had settled, and every path has its own outcome. -/
theorem run_settled (hne : p.suffix ≠ "") (hslash : '/' ∉ p.suffix.toList) (done : List FilePath)
    {paths : List FilePath} (before : Session) (hplain : ∀ path ∈ done ++ paths, path.Plain)
    (hcalm : ∀ path ∈ done ++ paths, ∀ crash, ¬p.Breaks path d crash) (hnodup : (done ++ paths).Nodup)
    (hclear : p.Clear d (done ++ paths)) (hsettled : p.Settled d done before.disk)
    (hquiet : ∀ path ∈ paths, before.errorsFor path.text = []) :
    ∃ outcomes, (p.run before paths).2 = .ok outcomes ∧
      List.Forall₂ (fun path o => (p.call (p.source path) d).2.2 = .ok o) paths outcomes ∧
      p.Settled d (done ++ paths) (p.run before paths).1.disk := by
  induction paths generalizing done before with
  | nil => exact ⟨[], rfl, .nil, by rwa [List.append_nil]⟩
  | cons path paths ih =>
    have hmem : path ∈ done ++ path :: paths := List.mem_append_right _ List.mem_cons_self
    have hpath := hplain path hmem
    obtain ⟨o, ho, hresult, hdisk⟩ := turn_alone hpath hne hslash (hcalm path hmem)
      (hsettled.agree hclear (fun _ => List.mem_append_left _) hmem) (hquiet path List.mem_cons_self)
    have hturn : p.Settled d (done ++ [path]) (p.process (p.source path) before).1.disk := by
      obtain ⟨loc, content, hwrites, heq⟩ | ⟨hnone, heq⟩ := hdisk
      · have hbefore : ∀ source ∈ done, source.Plain := fun source hsource =>
          hplain source (List.mem_append_left _ hsource)
        rw [heq]
        exact hsettled.write hbefore hpath hne hslash hwrites
      · rw [heq]
        exact hsettled.pass hnone
    have hother : ∀ other ∈ paths, (p.process (p.source path) before).1.errorsFor other.text = [] := by
      intro other hmem'
      have hdistinct : other ≠ path := by
        rintro rfl
        exact (List.nodup_cons.1 (List.nodup_append.1 hnodup).2.1).1 hmem'
      have hother := hplain other (List.mem_append_right _ (List.mem_cons_of_mem _ hmem'))
      rw [errorsFor_process fun htext => hdistinct (hother.text_injective hpath htext)]
      exact hquiet other (List.mem_cons_of_mem _ hmem')
    have happend : done ++ path :: paths = (done ++ [path]) ++ paths := by rw [List.append_assoc]; rfl
    rw [happend] at hplain hcalm hnodup hclear ⊢
    obtain ⟨outcomes, hrun, hall, hend⟩ := ih _ _ hplain hcalm hnodup hclear hturn hother
    rw [run_cons_ok hresult]
    exact ⟨o :: outcomes, by rw [hrun]; rfl, .cons ho hall, hend⟩

/-- Every order of the paths meets the conditions of a run. -/
theorem run_of_perm {files : List String} {paths : List FilePath} (hsuffix : Config.isPlainSuffix p.suffix = true)
    (hnul : '\x00' ∉ p.suffix.toList) (hbounds : ¬Overlong p.bounds) (htexts : ∀ r ∈ d.files, ∃ t, r.2 = .text t)
    (hnames : ∀ file ∈ files, '\x00' ∉ (FilePath.ofText file).text.toList)
    (hnodup : (files.map FilePath.ofText).Nodup) (hapart : p.Apart d (files.map FilePath.ofText))
    (hperm : paths.Perm (files.map FilePath.ofText)) :
    ∃ outcomes, (p.run { disk := d } paths).2 = .ok outcomes ∧
      List.Forall₂ (fun path o => (p.call (p.source path) d).2.2 = .ok o) paths outcomes ∧
      p.Settled d paths (p.run { disk := d } paths).1.disk := by
  obtain ⟨hne, hslash, -⟩ := isPlainSuffix_iff.1 hsuffix
  have hfile : ∀ path ∈ paths, ∃ file ∈ files, FilePath.ofText file = path := fun path hpath =>
    List.mem_map.1 (hperm.mem_iff.1 hpath)
  have hplain : ∀ path ∈ paths, path.Plain := by
    intro path hpath
    obtain ⟨file, -, rfl⟩ := hfile path hpath
    exact FilePath.plain_ofText file
  have hcalm : ∀ path ∈ paths, ∀ crash, ¬p.Breaks path d crash := by
    intro path hpath crash
    obtain ⟨file, hmem, rfl⟩ := hfile path hpath
    refine not_breaks (FilePath.plain_ofText file) ⟨hnames file hmem, fun bytes hread => ?_⟩ hsuffix hnul hbounds
    obtain ⟨loc, hloc⟩ := Disk.mem_files_of_read hread
    obtain ⟨t, ht⟩ := htexts _ hloc
    cases ht
  exact run_settled hne hslash [] { disk := d } hplain hcalm (hperm.nodup_iff.2 hnodup) (hapart.of_perm hperm).clear
    (settled_nil p d) fun _ _ => rfl

end Run

/-- A run gives every path the outcome that it has on its own in the same tree, as long as the paths are different,
no traces file comes in the way of a path, and no negative bound is too long to be told. So a run in another order
gives the same outcomes in that order, and it leaves the same files. -/
theorem run_independent (p : Pipeline) (d : Disk) (files : List String) (hsuffix : Config.isPlainSuffix p.suffix = true)
    (hnul : '\x00' ∉ p.suffix.toList) (hbounds : ¬Overlong p.bounds) (htexts : ∀ r ∈ d.files, ∃ t, r.2 = .text t)
    (hnames : ∀ file ∈ files, '\x00' ∉ (FilePath.ofText file).text.toList)
    (hnodup : (files.map FilePath.ofText).Nodup) (hapart : p.Apart d (files.map FilePath.ofText)) :
    let alone := fun path o => (p.run { disk := d } [path]).2 = .ok [o]
    let run := p.run { disk := d } (files.map FilePath.ofText)
    ∃ outcomes, run.2 = .ok outcomes ∧ List.Forall₂ alone (files.map FilePath.ofText) outcomes ∧
      ∀ paths, paths.Perm (files.map FilePath.ofText) → ∃ permuted, (p.run { disk := d } paths).2 = .ok permuted ∧
        List.Forall₂ alone paths permuted ∧ permuted.Perm outcomes ∧
        (p.run { disk := d } paths).1.disk.Same run.1.disk := by
  intro alone run
  have halone : ∀ {path o}, (p.call (p.source path) d).2.2 = .ok o → alone path o := fun h => run_singleton h
  obtain ⟨outcomes, hrun, hturns, hend⟩ := run_of_perm hsuffix hnul hbounds htexts hnames hnodup hapart (.refl _)
  refine ⟨outcomes, hrun, hturns.imp fun _ _ h => halone h, fun paths hperm => ?_⟩
  obtain ⟨permuted, hrun', hturns', hend'⟩ := run_of_perm hsuffix hnul hbounds htexts hnames hnodup hapart hperm
  refine ⟨permuted, hrun', hturns'.imp fun _ _ h => halone h, ?_, hend'.same hend fun _ => hperm.mem_iff⟩
  refine List.rel_perm_imp ?_ hturns' hturns hperm
  exact fun path o o' ho ho' => Except.ok.inj (ho.symm.trans ho')

/-- A graph and a missing file, in both orders. -/
theorem run_independent_two :
    let p : Pipeline := {}
    let d : Disk := { files := [(["a.dot"], .text "digraph \x7b a -> b \x7d")] }
    let files := ["a.dot", "b.dot"]
    let alone := fun path o => (p.run { disk := d } [path]).2 = .ok [o]
    p.Apart d (files.map FilePath.ofText) ∧
      ∃ outcomes, (p.run { disk := d } (files.map FilePath.ofText)).2 = .ok outcomes ∧
        List.Forall₂ alone (files.map FilePath.ofText) outcomes ∧
        ∃ permuted, (p.run { disk := d } (files.map FilePath.ofText).reverse).2 = .ok permuted ∧
          List.Forall₂ alone (files.map FilePath.ofText).reverse permuted ∧ permuted.Perm outcomes := by
  intro p d files alone
  have htexts : ∀ r ∈ d.files, ∃ t, r.2 = .text t := by
    intro r hr
    rw [List.mem_singleton.1 hr]
    exact ⟨_, rfl⟩
  have hnames : ∀ file ∈ files, '\x00' ∉ (FilePath.ofText file).text.toList := by decide +kernel
  have hapart : p.Apart d (files.map FilePath.ofText) :=
    apart_of_names (by decide) (by decide +kernel) (by decide +kernel) (by decide +kernel)
  obtain ⟨outcomes, hrun, hall, hperm⟩ := run_independent p d files (isPlainSuffix_iff.2 (by decide +kernel))
    (by decide +kernel) (fun hoverlong => hoverlong.not_admitted admitted_none) htexts hnames (by decide +kernel) hapart
  obtain ⟨permuted, hrun', hall', hsame, -⟩ := hperm _ (List.reverse_perm _)
  exact ⟨hapart, outcomes, hrun, hall, permuted, hrun', hall', hsame⟩

/-- A traces file where a directory would be on the way to a path: the path is looked up in another way than on
its own. -/
theorem run_in_the_way :
    let p : Pipeline := {}
    let d : Disk := { files := [(["a.dot"], .text "digraph \x7b \"a\" -> \"b\" [label=\"go\"]; \x7d")] }
    let paths := ["a.dot", "a.dot.traces/b.dot"].map FilePath.ofText
    Config.isPlainSuffix p.suffix = true ∧ (∀ r ∈ d.files, ∃ t, r.2 = .text t) ∧ paths.Nodup ∧
      (∀ source ∈ paths, ∀ target loc, source.addSuffix p.suffix = .ok target → d.locate target = .ok loc →
        ∀ path ∈ paths, d.locate path ≠ .ok loc) ∧
      ¬∃ outcomes, (p.run { disk := d } paths).2 = .ok outcomes ∧
        List.Forall₂ (fun path o => (p.run { disk := d } [path]).2 = .ok [o]) paths outcomes := by
  intro p d paths
  let first := FilePath.ofText "a.dot"
  let second := FilePath.ofText "a.dot.traces/b.dot"
  have hfirst : d.locate first = .ok ["a.dot"] := Disk.locate_name (by decide +kernel) d
  have hsecond : d.locate second = .error .notFound := by
    rw [Disk.locate_eq (FilePath.plain_ofText _)]
    decide +kernel
  have htexts : ∀ r ∈ d.files, ∃ t, r.2 = .text t := by
    intro r hr
    rw [List.mem_singleton.1 hr]
    exact ⟨_, rfl⟩
  refine ⟨isPlainSuffix_iff.2 (by decide +kernel), htexts, by decide +kernel, ?_, ?_⟩
  · intro source hsource target loc htarget hloc path hpath hsame
    have hplace : loc = ["a.dot.traces"] := by
      rcases List.mem_pair.1 hsource with rfl | rfl
      · have hfile : (FilePath.ofText "a.dot").addSuffix ".traces" = .ok (.ofText "a.dot.traces") := by rfl
        obtain rfl := Except.ok.inj (hfile.symm.trans htarget)
        exact Except.ok.inj (hloc.symm.trans (Disk.locate_name (by decide +kernel) d))
      · -- the directory of the second traces file is missing
        have hfile : (FilePath.ofText "a.dot.traces/b.dot").addSuffix ".traces" =
            .ok (.ofText "a.dot.traces/b.dot.traces") := by rfl
        obtain rfl := Except.ok.inj (hfile.symm.trans htarget)
        have hmissing : d.locate (.ofText "a.dot.traces/b.dot.traces") = .error .notFound := by
          rw [Disk.locate_eq (FilePath.plain_ofText _)]
          decide +kernel
        rw [hmissing] at hloc
        cases hloc
    subst hplace
    rcases List.mem_pair.1 hpath with rfl | rfl
    · exact absurd (hfirst.symm.trans hsame) (by decide +kernel)
    · rw [hsecond] at hsame
      cases hsame
  rintro ⟨outcomes, hrun, hall⟩
  have hread : d.read first = .ok (.text "digraph \x7b \"a\" -> \"b\" [label=\"go\"]; \x7d") := by
    rw [Disk.read_of_locate hfirst]
    rfl
  obtain ⟨content, _, hleaves, -⟩ := leaves_edge (d := d) List.not_mem_nil hread
  -- the second path on its own, and after the first one
  obtain ⟨o, halone, hturn⟩ : ∃ o, p.result (second, { disk := d }) = .ok o ∧
      p.result (second, (p.process (p.source first) { disk := d }).1) = .ok o := by
    have hall : List.Forall₂ (fun path o => (p.run { disk := d } [path]).2 = .ok [o]) [first, second] outcomes := hall
    cases run_ok_iff.1 hrun with
    | cons _ hrest =>
      cases hrest with
      | cons hturn _ =>
        obtain ⟨-, hrest⟩ := List.forall₂_cons.1 hall
        exact ⟨_, (List.forall₂_cons.1 (run_ok_iff.1 (List.forall₂_cons.1 hrest).1)).1, hturn⟩
  have hmissing : ({ disk := d } : Session).disk.read second = .error .notFound := Disk.read_of_locate_error hsecond
  have hfile : (d.set ["a.dot.traces"] content).read second = .error .notDirectory := by
    refine Disk.read_of_locate_error ?_
    rw [Disk.locate_eq (FilePath.plain_ofText _), if_neg (by decide +kernel), if_neg (by decide +kernel)]
    rfl
  rw [← hleaves.disk_eq] at hfile
  have herrors := errors_of_fault hmissing (by decide) rfl halone
  have hquiet : (p.process (p.source first) { disk := d }).1.errorsFor second.text = [] :=
    errorsFor_process (by decide +kernel)
  rw [errors_of_fault hfile (by decide) hquiet hturn] at herrors
  exact absurd herrors (by decide +kernel)

end StateTraces.Pipeline
