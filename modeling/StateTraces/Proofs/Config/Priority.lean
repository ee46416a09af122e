import StateTraces.Proofs.Config.Depths
import StateTraces.Proofs.Config.Usual

/-
Where a loaded setting comes from. The environment outranks the settings file for the depths, for the
switches and, under a name of its own, for the directories to search. For the file pattern and the suffix
the settings file outranks the environment. What neither sets comes from the origins that settings have
without a file.
-/

namespace StateTraces

namespace Config

open Files (Disk FilePath)

/-! ## Values of a settings file -/

section Files

variable {lib : Library} (hlib : lib.Documented) {d : Disk} {env : Environment} {values : Table String Value}
  {s : Settings}

theorem get?_overridden (values : Table String Value) (env : Environment) (f : Field) :
    (values.merge (overrides env)).get? f.name = (override? env f).or (values.get? f.name) := by
  rw [Table.get?_merge, overrides, ← List.filterMap_reverse, Table.get?_filterMap Field.name_injective,
    if_pos (List.mem_reverse.2 f.mem_all)]

/-- The environment does not say how variables are looked up. -/
theorem get?_overridden_of_isOption {name : String} (h : IsOption name) :
    (values.merge (overrides env)).get? name = values.get? name := by
  rw [Table.get?_merge, Table.get?_eq_none.2, Option.none_or]
  intro hkey
  obtain ⟨r, hr, rfl⟩ := List.mem_map.1 hkey
  obtain ⟨f, -, hf⟩ := List.mem_filterMap.1 (List.mem_reverse.1 hr)
  obtain ⟨v, -, rfl⟩ := Option.map_eq_some_iff.1 hf
  exact not_isOption_name f h

include hlib

/-- Every setting is taken from the environment by its override, else from the file, else from the other origins. -/
theorem ofRows_ok_iff {rows : List (Value × Value)} : lib.ofRows d env rows = .ok s ↔
    ∃ values found, named rows = .ok values ∧ lib.find d env values = .ok found ∧
      ∀ f, lib.toConversions.Sets s f ((override? env f).or ((values.get? f.name).or (found.beneath f))) := by
  have hmake : ∀ values, lib.make d env (values.merge (overrides env)) = .ok s ↔
      ∃ found, lib.find d env values = .ok found ∧
        ∀ f, lib.toConversions.Sets s f ((override? env f).or ((values.get? f.name).or (found.beneath f))) := by
    intro values
    rw [make_iff hlib]
    simp only [get?_overridden, Option.or_assoc]
    constructor
    · rintro ⟨found, hfind, hsets⟩
      obtain ⟨found', hfind', hbeneath⟩ := exists_find hlib values
        (fun _ hname => (get?_overridden_of_isOption hname).symm) hfind
      exact ⟨found', hfind', hbeneath ▸ hsets⟩
    · rintro ⟨found, hfind, hsets⟩
      obtain ⟨found', hfind', hbeneath⟩ := exists_find hlib (values.merge (overrides env))
        (fun _ hname => get?_overridden_of_isOption hname) hfind
      exact ⟨found', hfind', hbeneath ▸ hsets⟩
  unfold Library.ofRows
  cases named rows with
  | error fault => simp [bind, Except.bind]
  | ok values => simp [bind, Except.bind, hmake]

omit hlib in
theorem load_ok_iff {path : Option FilePath} {log : List Log.Record} : lib.load d env path = (.ok s, log) ↔
    ∃ rows, path.elim (.ok ([], [])) (readFile lib d) = .ok (rows, log) ∧ lib.ofRows d env rows = .ok s := by
  unfold Library.load
  cases path.elim (.ok ([], [])) (readFile lib d) with
  | error fault => simp
  | ok r =>
    obtain ⟨rows, log'⟩ := r
    simp only [Prod.mk.injEq, Except.ok.injEq]
    constructor
    · rintro ⟨hs, rfl⟩; exact ⟨rows, ⟨rfl, rfl⟩, hs⟩
    · rintro ⟨_, ⟨rfl, rfl⟩, hs⟩; exact ⟨hs, rfl⟩

theorem isPlainSuffix_of_load {path : Option FilePath} (h : (lib.load d env path).1 = .ok s) :
    isPlainSuffix s.tracesSuffix = true := by
  obtain ⟨rows, -, hrows⟩ := load_ok_iff.1 (Prod.ext h rfl)
  obtain ⟨values, found, -, -, hsets⟩ := (ofRows_ok_iff hlib).1 hrows
  exact (hsets .tracesSuffix).isPlainSuffix

/-- Settings without a file take a setting from its variable. -/
theorem sets_of_sole {f : Field} {w : String} (hmake : lib.make d env [] = .ok s) (hf : f ≠ .includePaths)
    (hw : Sole env f.envName w) : lib.toConversions.Sets s f (some (.text w)) := by
  obtain ⟨found, hfind, hsets⟩ := (make_iff hlib).1 hmake
  have hset := hsets f
  rwa [beneath_of_sole hlib bare_nil hfind hf hw] at hset

end Files

/-! ## Words of consent -/

theorem lowerChars_ascii (before : List Char) {cs : List Char} (h : ∀ c ∈ cs, c.toNat < 128) :
    Text.lowerChars before cs = cs.map Char.toLower := by
  induction cs generalizing before with
  | nil => rfl
  | cons c cs ih =>
    have hc := h c (List.mem_cons_self ..)
    have hsigma : c ≠ 'Σ' := by rintro rfl; revert hc; decide
    rw [Text.lowerChars, ih _ fun d hd => h d (List.mem_cons_of_mem _ hd)]
    simp [hsigma, Text.lowerChar, hc]

theorem toLower_of_not_ascii {c : Char} (h : ¬ c.toNat < 128) : c.toLower = c := by
  have hupper : ¬ (c.val ≥ 'A'.val ∧ c.val ≤ 'Z'.val) := by
    rintro ⟨-, hle⟩
    have hle : c.toNat ≤ 90 := UInt32.le_iff_toNat_le.1 hle
    omega
  exact dif_neg hupper

/-- A text whose small form is ASCII has that small form everywhere. -/
theorem lower_eq {w word : String} (hword : word.toList.all (·.toNat < 128) = true) (h : w.toLower = word) :
    Text.lower w = word := by
  have htext : w.toList.map Char.toLower = word.toList := by rw [← h]; exact String.toList_map.symm
  have hascii : ∀ c ∈ w.toList, c.toNat < 128 := by
    intro c hc
    by_contra hnot
    refine hnot (of_decide_eq_true (List.all_eq_true.1 hword c ?_))
    rw [← htext, ← toLower_of_not_ascii hnot]
    exact List.mem_map_of_mem hc
  rw [Text.lower, lowerChars_ascii [] hascii, htext, String.ofList_toList]

/-- The true words that are no words of consent. -/
def unheard : List String := ["on", "t", "y"]

/-- Both ways to small letters agree on truth words. -/
theorem lower_of_mem_truthWords {w : String} (h : w.toLower ∈ trueWords ++ falseWords) : Text.lower w = w.toLower := by
  have hascii : ∀ word ∈ trueWords ++ falseWords, word.toList.all (·.toNat < 128) = true := by decide
  exact lower_eq (hascii _ h) rfl

/-- A truth word is a word of consent if it is true, but for three words. -/
theorem isConsent_of_word {w : String} {b : Bool} (h : w.toLower ∈ if b then trueWords else falseWords) :
    Environment.isConsent w = b ∨ w.toLower ∈ unheard := by
  have htrue : ∀ word ∈ trueWords, Environment.consent.contains word = true ∨ word ∈ unheard := by decide
  have hfalse : ∀ word ∈ falseWords, Environment.consent.contains word = false := by decide
  cases b with
  | true =>
    rw [Environment.isConsent, lower_of_mem_truthWords (List.mem_append_left _ h)]
    exact htrue _ h
  | false =>
    rw [Environment.isConsent, lower_of_mem_truthWords (List.mem_append_right _ h)]
    exact .inl (hfalse _ h)

/-! ## Ranks -/

/-- The value of a setting below the overrides: the one of the file, or else of the other origins. -/
def below (values : Table String Value) (found : Found) (f : Field) : Option Value :=
  (values.get? f.name).or (found.beneath f)

/-- Settings take each value from the first origin that has one. Variables of the environment outrank the
file for the depths, for the switches, where only words of consent count, and for the directories under a
name of their own. The file outranks the variables of the pattern and the suffix. -/
structure Ranked (conv : Conversions) (env : Environment) (values : Table String Value) (found : Found)
    (s : Settings) : Prop where
  depth : ∀ f ∈ Field.depths, conv.Sets s f (((env.get? f.envName).map .text).or (below values found f))
  switch : ∀ f ∈ Field.switches,
    conv.Sets s f (((env.get? f.envName).map fun w => .bool (Environment.isConsent w)).or (below values found f))
  includePaths :
    conv.Sets s .includePaths (((env.get? "TRACEGEN_INCLUDE").map .text).or (below values found .includePaths))
  filePattern : conv.Sets s .filePattern (below values found .filePattern)
  tracesSuffix : conv.Sets s .tracesSuffix (below values found .tracesSuffix)

section Ranks

variable {lib : Library} (hlib : lib.Documented) {conv : Conversions} {d : Disk} {env : Environment}
  {values : Table String Value} {found : Found} {s plain : Settings} {f : Field} {w : String}

theorem ranked_iff : Ranked conv env values found s ↔
    ∀ f, conv.Sets s f ((override? env f).or (below values found f)) := by
  constructor
  · intro h f
    cases f with
    | minDepth => exact h.depth _ (by decide)
    | maxDepth => exact h.depth _ (by decide)
    | includePaths => exact h.includePaths
    | filePattern => exact h.filePattern
    | tracesSuffix => exact h.tracesSuffix
    | showTraces => exact h.switch _ (by decide)
    | verbose => exact h.switch _ (by decide)
    | jsonLogs => exact h.switch _ (by decide)
  · intro h
    refine ⟨fun f hf => ?_, fun f hf => ?_, h .includePaths, h .filePattern, h .tracesSuffix⟩
    · rcases Field.mem_depths.1 hf with rfl | rfl
      · exact h .minDepth
      · exact h .maxDepth
    · rcases Field.mem_switches.1 hf with rfl | rfl | rfl
      · exact h .showTraces
      · exact h .verbose
      · exact h .jsonLogs

/-- A word sets a switch to the truth value that it stands for. -/
theorem sets_word_iff (hconv : conv.Documented) (hf : f ∈ Field.switches) : conv.Sets s f (some (.text w)) ↔
    ∃ b : Bool, (w.toLower ∈ if b then trueWords else falseWords) ∧ conv.Sets s f (some (.bool b)) := by
  rcases Field.mem_switches.1 hf with rfl | rfl | rfl
  all_goals
    constructor
    · intro h
      exact ⟨_, (hconv.word _ _ _).1 h, hconv.truth _ _⟩
    · rintro ⟨b, hword, hset⟩
      exact ((hconv.word _ _ _).2 hword).trans ((hconv.truth _ _).symm.trans hset)

include hlib

/-- A depth is the one that the environment gives by itself, whatever the file says. -/
theorem Ranked.same_depth (h : Ranked lib.toConversions env values found s) (hplain : lib.make d env [] = .ok plain)
    (hf : f ∈ Field.depths) (hw : Sole env f.envName w) : s.Same plain f := by
  have hsets := h.depth f hf
  rw [hw.get?] at hsets
  exact hsets.same (sets_of_sole hlib hplain (by rintro rfl; revert hf; decide) hw)

/-- So is a switch, unless its word is one that is not heard. -/
theorem Ranked.same_switch (h : Ranked lib.toConversions env values found s) (hplain : lib.make d env [] = .ok plain)
    (hf : f ∈ Field.switches) (hw : Sole env f.envName w) : s.Same plain f ∨ w.toLower ∈ unheard := by
  have hsets := h.switch f hf
  rw [hw.get?] at hsets
  obtain ⟨b, hword, hset⟩ := (sets_word_iff hlib.conversions hf).1
    (sets_of_sole hlib hplain (Field.ne_includePaths hf) hw)
  rcases isConsent_of_word hword with rfl | hunheard
  · exact .inl (Conversions.Sets.same hsets hset)
  · exact .inr hunheard

/-- What neither an override nor the file sets is what settings have without a file. -/
theorem Ranked.same_rest (h : Ranked lib.toConversions env values found s)
    (hfind : lib.find d env values = .ok found) (hbare : Bare values) (hplain : lib.make d env [] = .ok plain)
    (hoverride : override? env f = none) (hfile : values.get? f.name = none) : s.Same plain f := by
  obtain ⟨found', hfind', hsets'⟩ := (make_iff hlib).1 hplain
  obtain ⟨found'', hfind'', hbeneath⟩ := exists_find hlib []
    (fun name hname => (hbare name hname).symm) hfind
  obtain rfl := Except.ok.inj (hfind'.symm.trans hfind'')
  have hsets := ranked_iff.1 h f
  rw [hoverride, below, hfile, ← hbeneath] at hsets
  exact hsets.same (hsets' f)

end Ranks

/-- Where loaded settings come from, for every settings file and every environment: settings are loaded
exactly if all origins can be read and every value that comes first in its rank fits. Against the settings
of the environment by itself: a depth is the same whatever the file says, a switch too unless its word is
not heard, and so is what neither an override nor the file sets, as long as the file does not say how
variables are looked up. -/
theorem load_ranked (lib : Library) (hlib : lib.Documented) (d : Disk) (env : Environment) (path : Option FilePath)
    (s : Settings) (log : List Log.Record) :
    (lib.load d env path = (.ok s, log) ↔ ∃ rows values found,
      path.elim (.ok ([], [])) (readFile lib d) = .ok (rows, log) ∧ named rows = .ok values ∧
        lib.find d env values = .ok found ∧ Ranked lib.toConversions env values found s) ∧
    ∀ plain, lib.load d env path = (.ok s, log) → lib.make d env [] = .ok plain →
      (∀ f ∈ Field.depths, ∀ w, Sole env f.envName w → s.Same plain f) ∧
      (∀ f ∈ Field.switches, ∀ w, Sole env f.envName w → s.Same plain f ∨ w.toLower ∈ unheard) ∧
      ∀ rows values, path.elim (.ok ([], [])) (readFile lib d) = .ok (rows, log) → named rows = .ok values →
        Bare values → ∀ f, override? env f = none → values.get? f.name = none → s.Same plain f := by
  have hload : lib.load d env path = (.ok s, log) ↔ ∃ rows values found,
      path.elim (.ok ([], [])) (readFile lib d) = .ok (rows, log) ∧ named rows = .ok values ∧
        lib.find d env values = .ok found ∧ Ranked lib.toConversions env values found s := by
    simp only [load_ok_iff, ofRows_ok_iff hlib, ranked_iff, below, exists_and_left]
  refine ⟨hload, fun plain h hplain => ?_⟩
  obtain ⟨rows, values, found, hfile, hnamed, hfind, hranked⟩ := hload.1 h
  refine ⟨fun f hf w hw => hranked.same_depth hlib hplain hf hw,
    fun f hf w hw => hranked.same_switch hlib hplain hf hw, ?_⟩
  intro rows' values' hfile' hnamed' hbare f hoverride hnone
  rw [hfile] at hfile'
  cases hfile'
  rw [hnamed] at hnamed'
  cases hnamed'
  exact hranked.same_rest hlib hfind hbare hplain hoverride hnone

/-- Three variables: a depth, a word that is not heard, and a pattern. -/
theorem load_ranked_variables :
    let env : Environment :=
      [("TRACEGEN_MAX_DEPTH", "5"), ("TRACEGEN_VERBOSE", "on"), ("TRACEGEN_FILE_PATTERN", "*.txt")]
    let s : Settings := { maxDepth := some 5, filePattern := "*.txt" }
    let plain : Settings := { maxDepth := some 5, filePattern := "*.txt", verbose := true }
    load {} env none = (.ok s, []) ∧ Settings.make {} env [] = .ok plain ∧
      Sole env Field.maxDepth.envName "5" ∧ Sole env Field.verbose.envName "on" ∧
      s.Same plain .maxDepth ∧ (s.Same plain .verbose ∨ "on".toLower ∈ unheard) ∧ s.Same plain .filePattern := by
  intro env s plain
  have hdepth : Sole env Field.maxDepth.envName "5" := ⟨by decide, by decide +kernel⟩
  have hverbose : Sole env Field.verbose.envName "on" := ⟨by decide, by decide +kernel⟩
  have hpattern : Sole env Field.filePattern.envName "*.txt" := ⟨by decide, by decide +kernel⟩
  have henv : Distinct env := ⟨by decide +kernel, fun f => by
    cases f <;> first
      | exact .inr ⟨_, hdepth⟩
      | exact .inr ⟨_, hverbose⟩
      | exact .inr ⟨_, hpattern⟩
      | exact .inl (by decide +kernel)⟩
  obtain ⟨found, hfind, hbeneath⟩ := exists_find_distinct Library.usual_documented bare_nil noEnvFile_empty henv
  have hplain : Settings.make {} env [] = .ok plain := by
    refine (make_iff Library.usual_documented).2 ⟨found, hfind, fun f => ?_⟩
    rw [hbeneath]
    cases f with
    | verbose => show readTruth .verbose (.text "on") = .ok true; decide +kernel
    | _ => rfl
  have hload : load {} env none = (.ok s, []) := by
    refine load_ok_iff.2 ⟨[], rfl, (ofRows_ok_iff Library.usual_documented).2 ⟨[], found, rfl, hfind, fun f => ?_⟩⟩
    rw [hbeneath]
    cases f <;> rfl
  obtain ⟨hdepths, hswitches, hrest⟩ :=
    (load_ranked .usual Library.usual_documented {} env none s []).2 plain hload hplain
  exact ⟨hload, hplain, hdepth, hverbose, hdepths _ (by decide) "5" hdepth, hswitches _ (by decide) "on" hverbose,
    hrest [] [] rfl rfl bare_nil .filePattern rfl rfl⟩

/-- The file outranks the variable of the pattern. -/
theorem file_outranks_variable :
    let env : Environment := [("TRACEGEN_FILE_PATTERN", "*.txt")]
    Sole env Field.filePattern.envName "*.txt" ∧ ∀ lib : Library, lib.Documented →
      lib.make {} env [] = .ok { filePattern := "*.txt" } ∧
      lib.ofRows {} env [(.text "file_pattern", .text "*.gv")] = .ok { filePattern := "*.gv" } := by
  intro env
  have hsole : Sole env Field.filePattern.envName "*.txt" := ⟨by decide, by decide +kernel⟩
  have henv : Distinct env := ⟨by decide +kernel, fun f => by
    cases f <;> first | exact .inr ⟨_, hsole⟩ | exact .inl (by decide +kernel)⟩
  have hbare : Bare [("file_pattern", Value.text "*.gv")] := fun name hname =>
    Table.get?_eq_none.2 fun hmem => by
      rw [List.mem_singleton.1 hmem] at hname
      exact not_isOption_name .filePattern hname
  refine ⟨hsole, fun lib hlib => ⟨?_, ?_⟩⟩
  · obtain ⟨found, hfind, hbeneath⟩ := exists_find_distinct hlib bare_nil noEnvFile_empty henv
    refine (make_iff hlib).2 ⟨found, hfind, fun f => ?_⟩
    rw [hbeneath]
    cases f <;> first | rfl | exact hlib.conversions.text _ _
  · obtain ⟨found, hfind, hbeneath⟩ := exists_find_distinct hlib hbare noEnvFile_empty henv
    refine (ofRows_ok_iff hlib).2 ⟨_, found, rfl, hfind, fun f => ?_⟩
    rw [hbeneath]
    cases f <;> first | rfl | exact hlib.conversions.text _ _

end Config

end StateTraces
