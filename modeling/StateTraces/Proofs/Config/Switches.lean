import StateTraces.Proofs.Config.Priority

/-
The two readers of the switches in the environment. Loaded settings take a word of consent for on and all
other words for off. Settings without a file know more words for on, and refuse a word that they do not
know. So both come to the same just where every switch has a word that both take for the same, as long as
directories that loading looks for under another name are not what makes the difference.
-/

namespace StateTraces

open Files (Disk)

namespace Config

/-! ## Words -/

/-- The words that both readers take for the same, in small letters. -/
def sharedWords : List String := Environment.consent ++ falseWords

/-- A word stands for what is heard exactly if it is shared. -/
theorem mem_truthWords_isConsent_iff {w : String} :
    (w.toLower ∈ if Environment.isConsent w then trueWords else falseWords) ↔ w.toLower ∈ sharedWords := by
  have htrue : ∀ word ∈ Environment.consent, word ∈ trueWords := by decide
  have hfalse : ∀ word ∈ falseWords, Environment.consent.contains word = false := by decide
  have hheard : w.toLower ∈ trueWords ++ falseWords →
      Environment.isConsent w = Environment.consent.contains w.toLower := fun h => by
    rw [Environment.isConsent, lower_of_mem_truthWords h]
  constructor
  · intro h
    cases hconsent : Environment.isConsent w with
    | true =>
      rw [hconsent, if_pos rfl] at h
      rw [hheard (List.mem_append_left _ h)] at hconsent
      exact List.mem_append_left _ (List.contains_iff_mem.1 hconsent)
    | false =>
      rw [hconsent, if_neg Bool.false_ne_true] at h
      exact List.mem_append_right _ h
  · intro h
    rcases List.mem_append.1 h with hword | hword
    · rw [hheard (List.mem_append_left _ (htrue _ hword)), List.contains_iff_mem.2 hword, if_pos rfl]
      exact htrue _ hword
    · rw [hheard (List.mem_append_right _ hword), hfalse _ hword, if_neg Bool.false_ne_true]
      exact hword

/-- A truth value sets a switch in one way. -/
theorem sets_bool_inj {conv : Conversions} (hconv : conv.Documented) {s : Settings} {f : Field}
    (hf : f ∈ Field.switches) {b c : Bool} (hb : conv.Sets s f (some (.bool b)))
    (hc : conv.Sets s f (some (.bool c))) : b = c := by
  rcases Field.mem_switches.1 hf with rfl | rfl | rfl
  all_goals
    have htruth := (hconv.truth _ b).symm.trans ((hb.trans hc.symm).trans (hconv.truth _ c))
    exact Except.ok.inj htruth

/-! ## Environments -/

/-- The variables that count for depths and switches have no namesake in other letter cases. -/
def NoNamesakes (env : Environment) : Prop :=
  ∀ f ∈ Field.depths ++ Field.switches, ∀ w, env.get? f.envName = some w → Sole env f.envName w

/-- The only variables of settings, in any letter case, are those of switches. -/
structure OnlySwitches (env : Environment) : Prop where
  directories : env.get? "TRACEGEN_INCLUDE" = none
  others : ∀ f, (f ∈ Field.switches ∧ (env.get? f.envName).isSome) ∨ Lacks env f.envName

/-- Settings with what loading puts over them: the directories to search, and the switches as their words are
heard. -/
def Settings.hearing (s : Settings) (env : Environment) : Settings :=
  let heard (f : Field) (b : Bool) := (env.get? f.envName).elim b Environment.isConsent
  { s with
    includePaths := (env.get? "TRACEGEN_INCLUDE").elim s.includePaths fun w =>
      if pathsOf w = [] then ["."] else pathsOf w
    showTraces := heard .showTraces s.showTraces
    verbose := heard .verbose s.verbose
    jsonLogs := heard .jsonLogs s.jsonLogs }

section Readers

variable {lib : Library} (hlib : lib.Documented) {d : Disk} {env : Environment} {found : Found} {s t : Settings}
  {f : Field} {w : String}

/-- The directories to search that are found without a settings file can be read, and fit. -/
def DirectoriesFit (lib : Library) (d : Disk) (env : Environment) : Prop :=
  ∃ found s, lib.find d env [] = .ok found ∧ lib.toConversions.Sets s .includePaths (found.beneath .includePaths)

/-- Two readings come to the same: to settings with the same switches, or to a refusal. -/
def SwitchesAgree (loaded plain : Except Fault Settings) : Prop :=
  match loaded, plain with
  | .ok s, .ok t => ∀ f ∈ Field.switches, s.Same t f
  | .error _, .error _ => True
  | _, _ => False

include hlib

theorem load_none_iff : (lib.load d env none).1 = .ok s ↔ ∃ found, lib.find d env [] = .ok found ∧
    ∀ f, lib.toConversions.Sets s f ((override? env f).or (found.beneath f)) := by
  have hload : (lib.load d env none).1 = .ok s ↔ lib.load d env none = (.ok s, []) :=
    ⟨fun h => Prod.ext h rfl, fun h => congrArg Prod.fst h⟩
  rw [hload, load_ok_iff]
  constructor
  · rintro ⟨rows, hrows, h⟩
    cases hrows
    obtain ⟨values, found, hvalues, hfind, hsets⟩ := (ofRows_ok_iff hlib).1 h
    cases hvalues
    exact ⟨found, hfind, hsets⟩
  · rintro ⟨found, hfind, hsets⟩
    exact ⟨[], rfl, (ofRows_ok_iff hlib).2 ⟨[], found, rfl, hfind, hsets⟩⟩

theorem make_nil_iff : lib.make d env [] = .ok t ↔ ∃ found, lib.find d env [] = .ok found ∧
    ∀ f, lib.toConversions.Sets t f (found.beneath f) :=
  make_iff hlib

/-- The override of a depth is what its variable sets anyway. -/
theorem override_or_depth (hsole : NoNamesakes env) (hfind : lib.find d env [] = .ok found)
    (hf : f ∈ Field.depths) : (override? env f).or (found.beneath f) = found.beneath f := by
  have hoverride : override? env f = (env.get? f.envName).map .text := by
    rcases Field.mem_depths.1 hf with rfl | rfl <;> rfl
  rw [hoverride]
  cases hw : env.get? f.envName with
  | none => rfl
  | some w =>
    rw [beneath_of_sole hlib bare_nil hfind (by rintro rfl; revert hf; decide)
      (hsole f (List.mem_append_left _ hf) w hw)]
    rfl

/-- So only directories and switches are changed by overrides. -/
theorem override_or_rest (hsole : NoNamesakes env) (hfind : lib.find d env [] = .ok found) (hf : f ≠ .includePaths)
    (hswitch : f ∉ Field.switches) : (override? env f).or (found.beneath f) = found.beneath f := by
  cases f with
  | minDepth | maxDepth => exact override_or_depth hlib hsole hfind (by decide)
  | filePattern | tracesSuffix => rfl
  | includePaths => contradiction
  | showTraces | verbose | jsonLogs => exact absurd (by decide) hswitch

omit hlib in
/-- The override of a switch is what is heard of its word. -/
theorem override_switch (hf : f ∈ Field.switches) :
    override? env f = (env.get? f.envName).map fun w => .bool (Environment.isConsent w) := by
  rcases Field.mem_switches.1 hf with rfl | rfl | rfl <;> rfl

omit hlib in
/-- What has no override is heard as it is, and so is a depth. -/
theorem same_hearing (h : override? env f = none ∨ f ∈ Field.depths) : t.Same (t.hearing env) f := by
  cases f with
  | minDepth | maxDepth | filePattern | tracesSuffix => rfl
  | includePaths | showTraces | verbose | jsonLogs =>
    have hnone := h.resolve_right (by decide)
    simp only [override?, Option.map_eq_none_iff] at hnone
    simp [Settings.Same, Settings.hearing, Field.envName, hnone]

/-- Every other override fits. -/
theorem sets_override (hf : f ∉ Field.depths) {v : Value} (h : override? env f = some v) :
    lib.toConversions.Sets (t.hearing env) f (some v) := by
  cases f with
  | minDepth | maxDepth => exact absurd (by decide) hf
  | filePattern | tracesSuffix => cases h
  | includePaths =>
    obtain ⟨w, hw, rfl⟩ := Option.map_eq_some_iff.1 h
    simp only [Conversions.Sets, Option.elim_some, Settings.hearing, hw]
    exact hlib.conversions.texts _ _
  | showTraces | verbose | jsonLogs =>
    obtain ⟨w, hw, rfl⟩ := Option.map_eq_some_iff.1 h
    simp only [Conversions.Sets, Option.elim_some, Settings.hearing, Field.envName, hw]
    exact hlib.conversions.truth _ _

/-- What fits without overrides fits with them. -/
theorem sets_hearing (hsole : NoNamesakes env) (hfind : lib.find d env [] = .ok found)
    (h : ∀ f, lib.toConversions.Sets t f (found.beneath f)) (f : Field) :
    lib.toConversions.Sets (t.hearing env) f ((override? env f).or (found.beneath f)) := by
  by_cases hf : f ∈ Field.depths
  · rw [override_or_depth hlib hsole hfind hf]
    exact (h f).of_same (same_hearing (.inr hf))
  · cases hoverride : override? env f with
    | none => exact (h f).of_same (same_hearing (.inl hoverride))
    | some v => exact sets_override hlib hf hoverride

/-- What the plain reader takes, loading takes with the switches as they are heard. -/
theorem load_of_make (hsole : NoNamesakes env) (h : lib.make d env [] = .ok t) :
    (lib.load d env none).1 = .ok (t.hearing env) := by
  obtain ⟨found, hfind, hsets⟩ := (make_nil_iff hlib).1 h
  exact (load_none_iff hlib).2 ⟨found, hfind, sets_hearing hlib hsole hfind hsets⟩

/-- A word sets a switch as it is heard exactly if it is shared. -/
theorem mem_sharedWords_iff (hf : f ∈ Field.switches)
    (hheard : lib.toConversions.Sets s f (some (.bool (Environment.isConsent w)))) :
    w.toLower ∈ sharedWords ↔ lib.toConversions.Sets s f (some (.text w)) := by
  rw [← mem_truthWords_isConsent_iff, sets_word_iff hlib.conversions hf]
  constructor
  · exact fun hword => ⟨_, hword, hheard⟩
  · rintro ⟨b, hword, hset⟩
    rwa [sets_bool_inj hlib.conversions hf hheard hset]

/-- Where loading takes the environment, the plain reader agrees exactly if the directories fit and every word
is shared. -/
theorem switches_agree_of_load (hsole : NoNamesakes env) (hload : (lib.load d env none).1 = .ok s) :
    SwitchesAgree (.ok s) (lib.make d env []) ↔ DirectoriesFit lib d env ∧
      ∀ f ∈ Field.switches, ∀ w, env.get? f.envName = some w → w.toLower ∈ sharedWords := by
  obtain ⟨found, hfind, hsets⟩ := (load_none_iff hlib).1 hload
  have hheard : ∀ f ∈ Field.switches, ∀ w, env.get? f.envName = some w →
      lib.toConversions.Sets s f (some (.bool (Environment.isConsent w))) := by
    intro f hf w hw
    have hset := hsets f
    rwa [override_switch hf, hw] at hset
  have hword : ∀ f ∈ Field.switches, ∀ w, env.get? f.envName = some w → found.beneath f = some (.text w) :=
    fun f hf w hw => beneath_of_sole hlib bare_nil hfind (Field.ne_includePaths hf)
      (hsole f (List.mem_append_right _ hf) w hw)
  constructor
  · intro hagree
    cases hmake : lib.make d env [] with
    | error fault => rw [hmake] at hagree; exact hagree.elim
    | ok t =>
      rw [hmake] at hagree
      obtain ⟨found', hfind', hplain⟩ := (make_nil_iff hlib).1 hmake
      obtain rfl := Except.ok.inj (hfind.symm.trans hfind')
      refine ⟨⟨found, t, hfind, hplain .includePaths⟩, fun f hf w hw => ?_⟩
      refine (mem_sharedWords_iff hlib hf ((hheard f hf w hw).of_same (hagree f hf))).2 ?_
      rw [← hword f hf w hw]
      exact hplain f
  · rintro ⟨⟨found', u, hfind', hdirectories⟩, hshared⟩
    obtain rfl := Except.ok.inj (hfind.symm.trans hfind')
    -- the plain reader comes to the loaded settings, but for the directories
    have hmake : lib.make d env [] = .ok { s with includePaths := u.includePaths } := by
      refine (make_nil_iff hlib).2 ⟨found, hfind, fun f => ?_⟩
      by_cases hf : f = .includePaths
      · subst hf
        exact hdirectories
      · refine Conversions.Sets.of_same (s := s) ?_ (by cases f <;> first | rfl | contradiction)
        by_cases hswitch : f ∈ Field.switches
        · cases hw : env.get? f.envName with
          | none => have hset := hsets f; rwa [override_switch hswitch, hw] at hset
          | some w =>
            rw [hword f hswitch w hw]
            exact (mem_sharedWords_iff hlib hswitch (hheard f hswitch w hw)).1 (hshared f hswitch w hw)
        · rw [← override_or_rest hlib hsole hfind hf hswitch]
          exact hsets f
    rw [hmake]
    intro f hf
    rcases Field.mem_switches.1 hf with rfl | rfl | rfl <;> rfl

/-- Where only switches have variables, loading takes every word. -/
theorem load_of_onlySwitches (hfile : NoEnvFile d) (honly : OnlySwitches env) :
    lib.load d env none = (.ok (({} : Settings).hearing env), []) := by
  have hdirectories : Lacks env Field.includePaths.envName :=
    (honly.others .includePaths).resolve_left fun h => Field.ne_includePaths h.1 rfl
  obtain ⟨found, hfind⟩ := hlib.readable bare_nil hfile hdirectories
  have hnone : ∀ {f}, Lacks env f.envName → override? env f = none := by
    intro f hlacks
    cases f with
    | includePaths => rw [override?, honly.directories]; rfl
    | filePattern | tracesSuffix => rfl
    | _ => exact Option.map_eq_none_iff.2 hlacks.get?
  refine Prod.ext ((load_none_iff hlib).2 ⟨found, hfind, fun f => ?_⟩) rfl
  rcases honly.others f with ⟨hswitch, hset⟩ | hlacks
  · obtain ⟨w, hw⟩ := Option.isSome_iff_exists.1 hset
    have hoverride : override? env f = _ := override_switch hswitch
    rw [hw] at hoverride
    rw [hoverride]
    exact sets_override hlib (by rintro hdepth; revert hdepth hswitch; cases f <;> decide) hoverride
  · rw [hnone hlacks, beneath_of_lacks hlib bare_nil hfind hfile hlacks]
    have hdefault : lib.toConversions.Sets {} f none := by cases f <;> rfl
    exact hdefault.of_same (same_hearing (.inl (hnone hlacks)))

end Readers

/-- The two readers of the switches, for every library, every tree and every environment in which the variables
of depths and switches have no namesakes in other letter cases. They come to the same exactly if loading
refuses the environment, or the directories to search fit and every switch that has a variable has a word that
both take for the same; loading looks for directories under another name first, and without it they fit
wherever there are loaded settings. Where only switches have variables and there is no file of bindings,
loading refuses nothing: each switch is on if its word is a word of consent. -/
theorem switches_agree_iff (lib : Library) (hlib : lib.Documented) (d : Disk) (env : Environment)
    (hsole : NoNamesakes env) :
    (SwitchesAgree (lib.load d env none).1 (lib.make d env []) ↔
      (∃ fault, (lib.load d env none).1 = .error fault) ∨ (DirectoriesFit lib d env ∧
        ∀ f ∈ Field.switches, ∀ w, env.get? f.envName = some w → w.toLower ∈ sharedWords)) ∧
    (env.get? "TRACEGEN_INCLUDE" = none → ∀ s, (lib.load d env none).1 = .ok s → DirectoriesFit lib d env) ∧
    (NoEnvFile d → OnlySwitches env → lib.load d env none = (.ok (({} : Settings).hearing env), [])) := by
  refine ⟨?_, fun hinclude s hload => ?_, load_of_onlySwitches hlib⟩
  · cases hload : (lib.load d env none).1 with
    | error fault =>
      refine iff_of_true ?_ (.inl ⟨fault, rfl⟩)
      cases hmake : lib.make d env [] with
      | error fault' => trivial
      | ok t => cases hload.symm.trans (load_of_make hlib hsole hmake)
    | ok s =>
      rw [or_iff_right (by rintro ⟨fault, h⟩; cases h)]
      exact switches_agree_of_load hlib hsole hload
  · obtain ⟨found, hfind, hsets⟩ := (load_none_iff hlib).1 hload
    have hset := hsets .includePaths
    rw [override?, hinclude] at hset
    exact ⟨found, s, hfind, hset⟩

/-- Variables of settings that are spelled in capitals have no namesakes. -/
theorem noNamesakes_of_capital {env : Environment} (hnodup : env.keys.Nodup)
    (hcapital : ∀ r ∈ env, ∀ f ∈ Field.all, Text.lower r.1 = Text.lower f.envName → r.1 = f.envName) :
    NoNamesakes env := by
  intro f _ w hw
  refine ⟨Table.mem_of_get? hw, fun r hr hname => ?_⟩
  have hsame := hcapital r hr f f.mem_all hname
  have hget := Table.get?_of_mem hnodup hr
  rw [hsame, hw] at hget
  exact Prod.ext hsame (Option.some.inj hget).symm

/-- Both take these words in capitals for on and off; other variables do not matter. -/
theorem switches_agree_yes :
    let env : Environment := [("PATH", "/bin"), ("TRACEGEN_VERBOSE", "YES"), ("TRACEGEN_JSON_LOGS", "Off")]
    NoNamesakes env ∧ NoEnvFile {} ∧ OnlySwitches env ∧ load {} env none = (.ok { verbose := true }, []) ∧
      DirectoriesFit .usual {} env ∧ SwitchesAgree (load {} env none).1 (Settings.make {} env []) := by
  intro env
  have hsole : NoNamesakes env := noNamesakes_of_capital (by decide) (by decide +kernel)
  have honly : OnlySwitches env := ⟨by decide +kernel, by
    have hall : ∀ f ∈ Field.all, (f ∈ Field.switches ∧ (env.get? f.envName).isSome) ∨
        ∀ r ∈ env, Text.lower r.1 ≠ Text.lower f.envName := by decide +kernel
    exact fun f => hall f f.mem_all⟩
  obtain ⟨hagree, hdirectories, hload⟩ := switches_agree_iff .usual Library.usual_documented {} env hsole
  have hshared : ∀ f ∈ Field.switches, ∀ w, env.get? f.envName = some w → w.toLower ∈ sharedWords := by
    have hall : ∀ f ∈ Field.switches, ∀ w ∈ env.get? f.envName, w.toLower ∈ sharedWords := by decide +kernel
    exact hall
  have hheard : ({} : Settings).hearing env = { verbose := true } := by decide +kernel
  have hloaded : load {} env none = (.ok { verbose := true }, []) := hheard ▸ hload noEnvFile_empty honly
  have hfit := hdirectories (by decide +kernel) _ (congrArg Prod.fst hloaded)
  exact ⟨hsole, noEnvFile_empty, honly, hloaded, hfit, hagree.2 (.inr ⟨hfit, hshared⟩)⟩

/-- The variable of one switch in an environment of its own. -/
theorem onlySwitches_verbose (word : String) : NoNamesakes [(Field.verbose.envName, word)] ∧
    OnlySwitches [(Field.verbose.envName, word)] := by
  have hnames : ∀ f ∈ Field.all, f = .verbose ∨ Text.lower Field.verbose.envName ≠ Text.lower f.envName := by
    decide +kernel
  refine ⟨noNamesakes_of_capital (List.nodup_singleton _) fun r hr f hf hname => ?_, rfl, fun f => ?_⟩
  · rw [List.mem_singleton.1 hr] at hname ⊢
    rw [(hnames f hf).resolve_right (not_not_intro hname)]
  · rcases hnames f f.mem_all with rfl | hother
    · exact .inl ⟨by decide, rfl⟩
    · exact .inr fun r hr => List.mem_singleton.1 hr ▸ hother

/-- A word that is neither heard nor shared is off for loading, and the plain reader does not take it for that. -/
theorem differ_verbose {lib : Library} (hlib : lib.Documented) (word : String)
    (hheard : Environment.isConsent word = false) (hword : word.toLower ∉ sharedWords) :
    (lib.load {} [(Field.verbose.envName, word)] none).1 = .ok {} ∧
      ¬SwitchesAgree (lib.load {} [(Field.verbose.envName, word)] none).1
        (lib.make {} [(Field.verbose.envName, word)] []) := by
  obtain ⟨hsole, honly⟩ := onlySwitches_verbose word
  have hoff : ({} : Settings).hearing [(Field.verbose.envName, word)] = {} := by
    show { ({} : Settings) with verbose := Environment.isConsent word } = {}
    rw [hheard]
  have hload : (lib.load {} [(Field.verbose.envName, word)] none).1 = .ok {} := by
    rw [load_of_onlySwitches hlib noEnvFile_empty honly, hoff]
  refine ⟨hload, fun hagree => ?_⟩
  rw [hload] at hagree
  exact hword (((switches_agree_of_load hlib hsole hload).1 hagree).2 .verbose (by decide) word rfl)

/-- They differ on a word for on that is no word of consent, and on a word that is none of the truth words. -/
theorem switches_differ :
    let on : Environment := [("TRACEGEN_VERBOSE", "on")]
    let maybe : Environment := [("TRACEGEN_VERBOSE", "maybe")]
    Sole on Field.verbose.envName "on" ∧ Sole maybe Field.verbose.envName "maybe" ∧
      ∀ lib : Library, lib.Documented →
        (lib.load {} on none).1 = .ok {} ∧ lib.make {} on [] = .ok { verbose := true } ∧
        ¬SwitchesAgree (lib.load {} on none).1 (lib.make {} on []) ∧
        ¬SwitchesAgree (lib.load {} maybe none).1 (lib.make {} maybe []) := by
  intro on maybe
  have hon : Sole on Field.verbose.envName "on" := (onlySwitches_verbose "on").1 .verbose (by decide) "on" rfl
  have hmaybe : Sole maybe Field.verbose.envName "maybe" :=
    (onlySwitches_verbose "maybe").1 .verbose (by decide) "maybe" rfl
  refine ⟨hon, hmaybe, fun lib hlib => ?_⟩
  obtain ⟨hload, hdiffer⟩ := differ_verbose hlib "on" (by decide +kernel) (by decide +kernel)
  have henv : Distinct on := ⟨by decide +kernel, fun f => by
    cases f <;> first | exact .inr ⟨_, hon⟩ | exact .inl (by decide +kernel)⟩
  obtain ⟨found, hfind, hbeneath⟩ := exists_find_distinct hlib bare_nil noEnvFile_empty henv
  refine ⟨hload, (make_nil_iff hlib).2 ⟨found, hfind, fun f => ?_⟩, hdiffer,
    (differ_verbose hlib "maybe" (by decide +kernel) (by decide +kernel)).2⟩
  rw [hbeneath]
  cases f with
  | verbose => exact (hlib.conversions.word .verbose "on" true).2 (by decide +kernel)
  | _ => rfl

end Config

end StateTraces
