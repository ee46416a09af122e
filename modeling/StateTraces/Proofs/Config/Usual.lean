import StateTraces.Config.Usual
import StateTraces.Proofs.Action
import StateTraces.Proofs.Config.Library
import StateTraces.Proofs.Files.Lookup

/-
The usual library has the documented properties. What counts is found by the names of variables in small
letters, and settings are made of values exactly when every value fits.
-/

namespace StateTraces

namespace Table

variable {κ υ : Type} [DecidableEq κ]

theorem get?_filterMap {ι : Type} [DecidableEq ι] {key : ι → κ} (hkey : key.Injective) (f : ι → Option υ) (i : ι)
    (is : List ι) : get? (key i) (is.filterMap fun j => (f j).map (key j, ·)) = if i ∈ is then f i else none := by
  induction is with
  | nil => rfl
  | cons j is ih =>
    cases hj : f j with
    | none =>
      rw [List.filterMap_cons_none (by rw [hj]; rfl), ih]
      by_cases hi : i = j
      · simp [hi, hj]
      · simp [hi]
    | some v =>
      rw [List.filterMap_cons_some (b := (key j, v)) (by rw [hj]; rfl), get?, ih]
      by_cases hi : j = i
      · simp [← hi, hj]
      · simp [hkey.eq_iff, hi, Ne.symm hi]

end Table

namespace Config

open Files (Disk)

/-! ## Values -/

/-- Texts, lists of texts and truth values as they are usually taken. -/
theorem Conversions.usual_documented : Conversions.usual.Documented where
  text _ _ := rfl
  texts f ss := by
    suffices h : ∀ position, readItems f position (ss.map .text) = .ok ss from h 0
    induction ss with
    | nil => exact fun _ => rfl
    | cons s ss ih =>
      intro position
      rw [List.map_cons, readItems]
      simp only [textOf, ih]
      rfl
  truth _ _ := rfl
  word f w b := by
    have hapart : ∀ word ∈ trueWords, word ∉ falseWords := by decide
    show readTruthWord f w = .ok b ↔ _
    unfold readTruthWord misfit
    split_ifs with htrue hfalse <;> cases b <;> simp_all

/-- What the value of a depth sets, if there is one. -/
def depthOf (given : Field → Option Value) (field : Field) : Except Refusal (Checked (Option Nat)) :=
  (given field).elim (.ok (.ok none)) (readDepth field)

/-- Settings are made of values exactly when all of them fit. -/
theorem ofValues_ok_iff {given : Field → Option Value} {s : Settings} :
    Settings.ofValues given = .ok s ↔ ∀ f, Conversions.usual.Sets s f (given f) := by
  constructor
  · intro h
    simp only [Settings.ofValues, bind, Except.bind] at h
    -- the depths and the suffix are looked at one after another, and then all values together
    split at h
    · cases h
    rename_i hmin
    split at h
    · cases h
    rename_i hmax
    split at h
    · cases h
    rename_i hsuffix
    split at h
    · rename_i hpaths hpattern hshow hverbose hjson
      cases h
      intro f
      cases f with
      | minDepth => exact hmin
      | maxDepth => exact hmax
      | includePaths => exact hpaths
      | filePattern => exact hpattern
      | tracesSuffix => exact hsuffix
      | showTraces => exact hshow
      | verbose => exact hverbose
      | jsonLogs => exact hjson
    · cases h
  · intro h
    have hmin := h .minDepth
    have hmax := h .maxDepth
    have hpaths := h .includePaths
    have hpattern := h .filePattern
    have hsuffix := h .tracesSuffix
    have hshow := h .showTraces
    have hverbose := h .verbose
    have hjson := h .jsonLogs
    simp only [Conversions.Sets, Conversions.usual] at hmin hmax hpaths hpattern hsuffix hshow hverbose hjson
    simp only [Settings.ofValues, Conversions.usual, hmin, hmax, hpaths, hpattern, hsuffix, hshow, hverbose, hjson]
    rfl

/-- A depth that is not refused at once has a value or is collected. -/
theorem exists_depthOf (given : Field → Option Value) {f : Field} (hf : f ∈ Field.depths)
    (h : ∀ r, ¬Conversions.usual.Raises f (given f) r) : ∃ checked, depthOf given f = .ok checked := by
  unfold depthOf
  cases hv : given f with
  | none => exact ⟨_, rfl⟩
  | some v =>
    cases hread : readDepth f v with
    | ok checked => exact ⟨checked, hread⟩
    | error r =>
      rw [hv] at h
      rcases Field.mem_depths.1 hf with rfl | rfl <;> exact absurd hread (h r)

/-- The first refusal that is not collected ends the checks. -/
theorem ofValues_raises {given : Field → Option Value} {f : Field} {r : Refusal}
    (hquiet : ∀ g : Field, g.Precedes f → ∀ r', ¬Conversions.usual.Raises g (given g) r')
    (h : Conversions.usual.Raises f (given f) r) : Settings.ofValues given = .error r := by
  cases hv : given f with
  | none => rw [hv] at h; cases f <;> exact h.elim
  | some v =>
    rw [hv] at h
    cases f with
    | minDepth =>
      have hraised : readDepth .minDepth v = .error r := h
      simp only [Settings.ofValues, hv, Option.elim_some, hraised]
      rfl
    | maxDepth =>
      have hraised : readDepth .maxDepth v = .error r := h
      obtain ⟨minimum, hmin⟩ := exists_depthOf given (Field.mem_depths.2 (.inl rfl)) (hquiet _ (by decide))
      unfold depthOf at hmin
      simp only [Settings.ofValues, hmin, hv, Option.elim_some, hraised]
      rfl
    | tracesSuffix =>
      have hraised : Conversions.usual.readSuffix v = .error r := h
      obtain ⟨minimum, hmin⟩ := exists_depthOf given (Field.mem_depths.2 (.inl rfl)) (hquiet _ (by decide))
      obtain ⟨maximum, hmax⟩ := exists_depthOf given (Field.mem_depths.2 (.inr rfl)) (hquiet _ (by decide))
      unfold depthOf at hmin hmax
      simp only [Settings.ofValues, hmin, hmax, hv, Option.elim_some, hraised]
      rfl
    | includePaths | filePattern | showTraces | verbose | jsonLogs => exact h.elim

/-- A suffix that is not refused at once has a value or is collected. -/
theorem exists_suffix {given : Field → Option Value}
    (h : ∀ r, ¬Conversions.usual.Raises .tracesSuffix (given .tracesSuffix) r) : ∃ checked,
      (given .tracesSuffix).elim (.ok (.ok ({} : Settings).tracesSuffix)) Conversions.usual.readSuffix = .ok checked := by
  cases hv : given .tracesSuffix with
  | none => exact ⟨_, rfl⟩
  | some v =>
    cases hread : Conversions.usual.readSuffix v with
    | ok checked => exact ⟨checked, hread⟩
    | error r => rw [hv] at h; exact absurd hread (h r)

/-- Without such a refusal the checks go on to the end, and all that does not fit is collected. -/
theorem ofValues_misfits (given : Field → Option Value) (hquiet : ∀ f r, ¬Conversions.usual.Raises f (given f) r)
    (hunfit : ∀ s, ¬∀ f, Conversions.usual.Sets s f (given f)) :
    ∃ misfits, Settings.ofValues given = .error (.misfits misfits) := by
  obtain ⟨minimum, hmin⟩ := exists_depthOf given (Field.mem_depths.2 (.inl rfl)) (hquiet _)
  obtain ⟨maximum, hmax⟩ := exists_depthOf given (Field.mem_depths.2 (.inr rfl)) (hquiet _)
  obtain ⟨suffix, hsuffix⟩ := exists_suffix (hquiet .tracesSuffix)
  cases hvalues : Settings.ofValues given with
  | ok s => exact absurd (ofValues_ok_iff.1 hvalues) (hunfit s)
  | error r =>
    unfold depthOf at hmin hmax
    simp only [Settings.ofValues, hmin, hmax, hsuffix, bind, Except.bind] at hvalues
    split at hvalues
    · cases hvalues
    · cases hvalues
      exact ⟨_, rfl⟩

/-! ## Variables -/

section Environment

variable {d : Disk} {env : Environment} {name w : String} {f : Field} {values : Table String Value} {found : Found}

/-- The variables of an environment, by the names that count without a word about lookups. -/
def knownOf (env : Environment) : Variables := ({} : Lookup).known (env.map fun r => (r.1, some r.2))

/-- Without a word about lookups, variables count in any letter case, and the last one counts. -/
theorem get?_knownOf (env : Environment) (name : String) :
    (knownOf env).get? name = Table.get? name (env.map fun r => (Text.lower r.1, some r.2)).reverse := by
  have hknown : knownOf env = Table.merge [] (env.map fun r => (Text.lower r.1, some r.2)) := by
    simp [knownOf, Lookup.known, Lookup.key, Function.comp_def]
  rw [hknown, Table.get?_merge, Table.get?, Option.or_none]

theorem Sole.known (h : Sole env name w) : (knownOf env).get? (Text.lower name) = some (some w) := by
  rw [get?_knownOf]
  refine Table.get?_eq_some ?_ ?_
  · exact List.mem_reverse.2 (List.mem_map.2 ⟨(name, w), h.mem, rfl⟩)
  · intro r hr hname
    obtain ⟨r', hr', rfl⟩ := List.mem_map.1 (List.mem_reverse.1 hr)
    rw [h.only r' hr' hname]

/-- The row of a setting among rows that were computed for several settings. -/
theorem get?_of_mapM {step : Field → Except Fault (Option (Field × Value))}
    (hstep : ∀ f r, step f = .ok (some r) → r.1 = f) {fs : List Field} {rows : List (Option (Field × Value))}
    (h : fs.mapM step = .ok rows) {o : Option (Field × Value)} (hf : f ∈ fs) (ho : step f = .ok o) :
    Table.get? f (rows.filterMap id) = o.map Prod.snd := by
  let found (f : Field) : Option Value := (step f).toOption.join.map Prod.snd
  have hrows : rows.filterMap id = fs.filterMap fun f => (found f).map (f, ·) := by
    clear hf
    induction fs generalizing rows with
    | nil => cases h; rfl
    | cons e fs ih =>
      rw [List.mapM_cons] at h
      cases he : step e with
      | error fault => rw [he] at h; cases h
      | ok o' =>
        cases hmore : fs.mapM step with
        | error fault => rw [he, hmore] at h; cases h
        | ok more =>
          rw [he, hmore] at h
          cases h
          have hrow : (found e).map (e, ·) = o' := by
            have hfound : found e = o'.map Prod.snd := by simp [found, he, Except.toOption]
            rw [hfound]
            cases o' with
            | none => rfl
            | some r => rw [← hstep e r he]; rfl
          rw [List.filterMap_cons, List.filterMap_cons, hrow, ih hmore]
          rfl
  have hget := Table.get?_filterMap Function.injective_id found f fs
  rw [if_pos hf] at hget
  rw [hrows]
  refine hget.trans ?_
  simp [found, ho, Except.toOption]

theorem get?_ofTexts {l : Lookup} {text? : String → Except Fault (Option String)} {given : Given} {w? : Option String}
    (h : Given.ofTexts l text? = .ok given) (hname : l.variableName? f = some name) (htext : text? name = .ok w?)
    {v : Option Value} (hv : w?.elim (.ok none) (Given.ofText l f) = .ok v) : given.get? f = v := by
  simp only [Given.ofTexts, bind, Except.bind] at h
  split at h
  · cases h
  rename_i rows hrows
  cases h
  refine (get?_of_mapM (o := v.map (f, ·)) (fun g r hg => ?_) hrows f.mem_all ?_).trans (by cases v <;> rfl)
  · split at hg
    · cases hg
    split at hg
    · cases hg
    split at hg
    · split at hg
      · cases hg
      · rename_i o _
        cases o with
        | none => cases hg
        | some v => cases hg; rfl
    · cases hg
  · cases w? with
    | none =>
      cases hv
      simp only [hname, htext]
      rfl
    | some w =>
      simp only [hname, htext, show Given.ofText l f w = .ok v from hv]
      rfl

theorem variableName?_envName (f : Field) : ({} : Lookup).variableName? f = some (Text.lower f.envName) := by
  cases f <;> decide +kernel

/-- Without a separator no value is put together from parts. -/
theorem ofVariables_eq (env : Environment) : Given.ofVariables {} (env.map fun r => (r.1, some r.2)) =
    Given.ofTexts {} fun name => .ok ((knownOf env).get? name).join := by
  simp only [Given.ofVariables, bind, Except.bind]
  split
  · rename_i hnamed
    exact hnamed.symm
  · rename_i hnamed
    exact (if_pos (.inl rfl)).trans hnamed.symm

theorem get?_ofVariables {given : Given} {w? : Option String} {v : Option Value}
    (h : Given.ofVariables {} (env.map fun r => (r.1, some r.2)) = .ok given)
    (hw : ((knownOf env).get? (Text.lower f.envName)).join = w?) (hv : w?.elim (.ok none) (Given.ofText {} f) = .ok v) :
    given.get? f = v := by
  rw [ofVariables_eq] at h
  exact get?_ofTexts h (variableName?_envName f) (congrArg Except.ok hw) hv

/-- A variable counts as it is, but for the directories to search. -/
theorem ofText_of_ne (hf : f ≠ .includePaths) (w? : Option String) :
    w?.elim (.ok none) (Given.ofText {} f) = .ok (w?.map .text) := by
  cases w? with
  | none => rfl
  | some w => cases f <;> first | rfl | contradiction

theorem exists_ofTexts {l : Lookup} {text? : String → Except Fault (Option String)}
    (h : ∀ f, ∃ name w?, l.variableName? f = some name ∧ text? name = .ok w? ∧
      ∃ v, w?.elim (.ok none) (Given.ofText l f) = .ok v) : ∃ given, Given.ofTexts l text? = .ok given := by
  unfold Given.ofTexts
  refine exists_mapM_map_ok fun f _ => ?_
  obtain ⟨name, w?, hname, htext, v, hv⟩ := h f
  cases w? with
  | none => exact ⟨none, by simp only [hname, htext]; rfl⟩
  | some w =>
    refine ⟨v.map (f, ·), ?_⟩
    simp only [hname, htext, show Given.ofText l f w = .ok v from hv, bind, Except.bind]
    rfl

theorem Lacks.known (h : Lacks env name) : (knownOf env).get? (Text.lower name) = none := by
  rw [get?_knownOf, Table.get?_eq_none]
  intro hkey
  obtain ⟨r, hr, hname⟩ := List.mem_map.1 hkey
  obtain ⟨r', hr', rfl⟩ := List.mem_map.1 (List.mem_reverse.1 hr)
  exact h r' hr' hname

/-- Where no variable lists directories all variables can be read. -/
theorem exists_ofVariables (h : Lacks env Field.includePaths.envName) :
    ∃ given, Given.ofVariables {} (env.map fun r => (r.1, some r.2)) = .ok given := by
  rw [ofVariables_eq]
  refine exists_ofTexts fun f => ⟨_, _, variableName?_envName f, rfl, ?_⟩
  by_cases hf : f = .includePaths
  · subst hf
    rw [h.known]
    exact ⟨none, rfl⟩
  · exact ⟨_, ofText_of_ne hf _⟩

end Environment

/-! ## Origins -/

section Origins

variable {d : Disk} {env : Environment} {values values' : Table String Value} {found : Found}

theorem gather_ok_iff : Found.gather d env values = .ok found ↔ ∃ inFiles named file secrets,
    Given.allFileVariables (.ofValues values) d env = .ok inFiles ∧
    Given.ofVariables (.ofValues values) (env.map fun r => (r.1, some r.2)) = .ok named ∧
    Given.ofVariables (.ofValues values) inFiles = .ok file ∧ Given.ofDirectories (.ofValues values) d = .ok secrets ∧
    found = .ofGiven (.ofNames values) named file secrets := by
  simp only [Found.gather, bind, Except.bind, pure, Except.pure]
  cases Given.allFileVariables (.ofValues values) d env with
  | error fault => simp
  | ok inFiles =>
    cases Given.ofVariables (.ofValues values) (env.map fun r => (r.1, some r.2)) with
    | error fault => simp
    | ok named =>
      cases hfile : Given.ofVariables (.ofValues values) inFiles with
      | error fault => simp [hfile]
      | ok file =>
        cases Given.ofDirectories (.ofValues values) d with
        | error fault => simp [hfile]
        | ok secrets => simp [hfile, eq_comm]

theorem get?_ofNames (values : Table String Value) (f : Field) :
    (Given.ofNames values).get? f = values.get? f.name :=
  (Table.get?_filterMap Function.injective_id _ f Field.all).trans (if_pos f.mem_all)

/-- Only values with an underscore in front say how variables are looked up. -/
theorem ofValues_congr (h : ∀ name, IsOption name → values'.get? name = values.get? name) :
    Lookup.ofValues values' = Lookup.ofValues values := by
  simp only [Lookup.ofValues, h "_env_prefix" (by decide +kernel), h "_case_sensitive" (by decide +kernel),
    h "_env_ignore_empty" (by decide +kernel), h "_env_parse_none_str" (by decide +kernel),
    h "_env_nested_delimiter" (by decide +kernel), h "_env_file_encoding" (by decide +kernel),
    h "_env_file" (by decide +kernel), h "_secrets_dir" (by decide +kernel)]

theorem ofValues_bare (h : Bare values) : Lookup.ofValues values = {} := by
  have hnone : Lookup.ofValues values = Lookup.ofValues [] := ofValues_congr fun name hname => h name hname
  exact hnone

theorem look?_env (d : Disk) : d.look? (.ofText ".env") = .ok (d.kind? [".env"]) :=
  Disk.look?_of_locate (Disk.locate_name (by decide +kernel) d)

theorem allFileVariables_none (h : NoEnvFile d) (env : Environment) : Given.allFileVariables {} d env = .ok [] := by
  have hvariables : Given.fileVariables {} d env (.ofText ".env") = .ok [] := by
    rw [Given.fileVariables, look?_env]
    match hkind : d.kind? [".env"] with
    | none => rfl
    | some .directory => rfl
    | some (.file content) => exact absurd hkind (h content)
  simp only [Given.allFileVariables, List.foldlM, Given.pathOf, bind, Except.bind, hvariables]
  rfl

/-- Without a word about lookups and a file of bindings only variables of the environment are looked at. -/
theorem gather_eq {named : Given} (hbare : Bare values) (hfile : NoEnvFile d)
    (hnamed : Given.ofVariables {} (env.map fun r => (r.1, some r.2)) = .ok named) :
    Found.gather d env values = .ok (.ofGiven (.ofNames values) named [] []) := by
  refine gather_ok_iff.2 ⟨[], named, [], [], ?_⟩
  rw [ofValues_bare hbare]
  exact ⟨allFileVariables_none hfile env, hnamed, rfl, rfl, rfl⟩

end Origins

theorem Library.usual_documented : Library.usual.Documented where
  conversions := Conversions.usual_documented
  keyword hfind f := by
    obtain ⟨_, _, _, _, -, -, -, -, rfl⟩ := gather_ok_iff.1 hfind
    exact get?_ofNames _ f
  options hsame hfind := by
    obtain ⟨inFiles, named, file, secrets, h⟩ := gather_ok_iff.1 hfind
    rw [← ofValues_congr hsame] at h
    obtain ⟨hfiles, hnamed, hfile, hsecrets, rfl⟩ := h
    refine ⟨_, gather_ok_iff.2 ⟨inFiles, named, file, secrets, hfiles, hnamed, hfile, hsecrets, rfl⟩, ?_⟩
    intro origin horigin
    cases origin <;> first | rfl | contradiction
  variable_text hbare hfind hf hw := by
    obtain ⟨_, named, _, _, -, hnamed, -, -, rfl⟩ := gather_ok_iff.1 hfind
    rw [ofValues_bare hbare] at hnamed
    exact get?_ofVariables hnamed (by rw [hw.known]; rfl) (ofText_of_ne hf (some _))
  variable_none hbare hfind hlacks := by
    obtain ⟨_, named, _, _, -, hnamed, -, -, rfl⟩ := gather_ok_iff.1 hfind
    rw [ofValues_bare hbare] at hnamed
    have hknown : ((knownOf _).get? (Text.lower _)).join = none := congrArg Option.join hlacks.known
    exact get?_ofVariables hnamed hknown rfl
  envFile_none hbare hfind hfile := by
    obtain ⟨inFiles, _, file, _, hfiles, -, hread, -, rfl⟩ := gather_ok_iff.1 hfind
    rw [ofValues_bare hbare] at hfiles hread
    obtain rfl := Except.ok.inj ((allFileVariables_none hfile _).symm.trans hfiles)
    obtain rfl : [] = file := Except.ok.inj hread
    rfl
  secrets_none hbare hfind := by
    obtain ⟨_, _, _, secrets, -, -, -, hsecrets, rfl⟩ := gather_ok_iff.1 hfind
    rw [ofValues_bare hbare] at hsecrets
    obtain rfl : [] = secrets := Except.ok.inj hsecrets
    rfl
  readable hbare hfile hlacks := by
    obtain ⟨named, hnamed⟩ := exists_ofVariables hlacks
    exact ⟨_, gather_eq hbare hfile hnamed⟩
  ranked _ _ := rfl
  make_ok_iff := by
    intro d env values s
    show Settings.make d env values = .ok s ↔ ∃ found, Found.gather d env values = .ok found ∧
      ∀ f, Conversions.usual.Sets s f (found.first f)
    unfold Settings.make
    cases Found.gather d env values with
    | error fault => simp [bind, Except.bind]
    | ok found =>
      simp only [Except.ok.injEq, exists_eq_left', ← ofValues_ok_iff, bind, Except.bind]
      cases Settings.ofValues found.first <;> simp [Except.mapError]
  make_raises := by
    intro d env values found f r hfind hquiet hraises
    have hgather : Found.gather d env values = .ok found := hfind
    have hvalues : Settings.ofValues found.first = .error r := ofValues_raises hquiet hraises
    show Settings.make d env values = .error (.refused r)
    simp only [Settings.make, hgather, bind, Except.bind, hvalues, Except.mapError]
  make_misfits := by
    intro d env values found hfind hquiet hunfit
    have hgather : Found.gather d env values = .ok found := hfind
    obtain ⟨misfits, hvalues⟩ := ofValues_misfits found.first hquiet hunfit
    refine ⟨misfits, ?_⟩
    show Settings.make d env values = _
    simp only [Settings.make, hgather, bind, Except.bind, hvalues, Except.mapError]

end Config

end StateTraces
