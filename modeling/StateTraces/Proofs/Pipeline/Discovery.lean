import StateTraces.Pipeline.Discovery
import StateTraces.Proofs.Action
import StateTraces.Proofs.Files.Entry
import StateTraces.Proofs.Order

/-
What discovery finds. Every source is found once, and it is a file that can be opened where it was found.
-/

namespace StateTraces.Pipeline

open Files (Disk FilePath)

variable {d : Disk} {pattern : String} {paths includes found : List FilePath} {candidate source : FilePath}

/-- A path that can be read as it is written. -/
def Found (d : Disk) (source : FilePath) : Prop := source.Plain ∧ ∃ content, d.read source = .ok content

theorem filesIn_found (hnamed : d.Named) (hplain : candidate.Plain) (h : filesIn d candidate pattern = .ok found)
    (hsource : source ∈ found) : Found d source := by
  unfold filesIn at h
  cases hloc : d.locate candidate with
  | error fault => rw [hloc] at h; cases h
  | ok loc =>
    rw [hloc] at h
    dsimp only [bind, Except.bind] at h
    split at h
    · cases h
    · rename_i files hfiles
      cases h
      obtain ⟨entry, hentry, hgives⟩ := mem_of_filterMapM hfiles (List.mem_filter.1 hsource).1
      obtain ⟨name, hname, rfl⟩ := List.mem_map.1 hentry
      obtain ⟨hslash, -, hempty, hdot, -⟩ := Disk.isName_of_mem_names hnamed hname
      cases hlook : d.look? (candidate.child name) with
      | error fault => rw [hlook] at hgives; cases hgives
      | ok kind? =>
        rw [hlook] at hgives
        match kind?, hgives with
        | some (.file content), hgives =>
          cases hgives
          exact ⟨hplain.child hempty hdot hslash, content, Disk.read_of_look? hlook⟩

theorem expand_found (hnamed : d.Named) (hplain : candidate.Plain) (h : expand d pattern candidate = .ok found)
    (hsource : source ∈ found) : Found d source := by
  unfold expand at h
  cases hlook : d.look? candidate with
  | error fault => rw [hlook] at h; cases h
  | ok kind? =>
    rw [hlook] at h
    match kind?, h with
    | some .directory, h => exact filesIn_found hnamed hplain h hsource
    | some (.file content), h =>
      cases h
      obtain rfl := List.mem_singleton.1 hsource
      exact ⟨hplain, content, Disk.read_of_look? hlook⟩
    | none, h =>
      cases h
      cases hsource

theorem plain_of_mem_candidates (hpaths : ∀ path ∈ paths, path.Plain) (hincludes : ∀ path ∈ includes, path.Plain)
    (h : candidate ∈ candidates paths includes) : candidate.Plain := by
  unfold candidates at h
  split at h
  · exact hincludes candidate h
  · obtain ⟨path, hpath, hroot⟩ := List.mem_flatMap.1 h
    unfold roots at hroot
    split at hroot
    · obtain rfl := List.mem_singleton.1 hroot
      exact hpaths candidate hpath
    · obtain ⟨directory, hdirectory, rfl⟩ := List.mem_map.1 hroot
      exact (hincludes directory hdirectory).join (hpaths path hpath)

/-- Every source is found once, as a file that can be read. -/
theorem discover_found (hnamed : d.Named) (hpaths : ∀ path ∈ paths, path.Plain)
    (hincludes : ∀ path ∈ includes, path.Plain) (h : discover d paths includes pattern = .ok found) :
    found.Nodup ∧ ∀ source ∈ found, Found d source := by
  unfold discover at h
  cases hlists : (candidates paths includes).mapM (expand d pattern) with
  | error fault => rw [hlists] at h; cases h
  | ok lists =>
    rw [hlists] at h
    cases h
    refine ⟨nodup_eraseDups _, fun source hsource => ?_⟩
    obtain ⟨files, hfiles, hmem⟩ := List.mem_flatten.1 (List.mem_eraseDups.1 hsource)
    obtain ⟨candidate, hcandidate, hexpand⟩ := mem_of_mapM hlists hfiles
    exact expand_found hnamed (plain_of_mem_candidates hpaths hincludes hcandidate) hexpand hmem

/-- A file of the working directory is found by its name. -/
theorem discover_name {name : String} {content : Files.Content} (hname : Disk.IsName name)
    (hfile : d.kind? [name] = some (.file content)) (pattern : String) :
    discover d [.ofText name] [.ofText "."] pattern = .ok [.ofText name] := by
  have hlook : d.look? (.ofText name) = .ok (some (.file content)) := by
    rw [Disk.look?_of_locate (Disk.locate_name hname d), hfile]
  have hjoin : (FilePath.ofText ".").join (.ofText name) = .ofText name := by
    rw [hname.ofText_eq, show FilePath.ofText "." = ⟨"", []⟩ by decide +kernel]
    rfl
  have hcandidates : candidates [FilePath.ofText name] [.ofText "."] = [.ofText name] := by
    have hrelative : (FilePath.ofText name).isAbsolute = false := by
      rw [hname.ofText_eq]
      rfl
    simp [candidates, roots, hrelative, hjoin]
  have hexpand : expand d pattern (.ofText name) = .ok [.ofText name] := by
    simp only [expand, hlook, bind, Except.bind]
    rfl
  rw [discover, hcandidates, List.mapM_cons, hexpand]
  rfl

end StateTraces.Pipeline
