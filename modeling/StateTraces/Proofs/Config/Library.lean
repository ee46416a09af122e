import StateTraces.Config.Conversion
import StateTraces.Config.Load
import StateTraces.Proofs.Graph
import StateTraces.Proofs.Table

/-
What is relied on where settings are found and made elsewhere. Every fact enters as a named hypothesis of
`Documented`, and the theorems about settings hold of all libraries of which these facts hold: a value is
looked for at several origins, the one that counts is taken from the first origin in their order, and settings
are made exactly if every value that counts fits.
-/

namespace StateTraces

namespace Config

open Files (Disk FilePath)

/-! ## Settings one by one -/

namespace Field

/-- The environment variable of a setting. -/
def envName : Field → String
  | .minDepth => "TRACEGEN_MIN_DEPTH"
  | .maxDepth => "TRACEGEN_MAX_DEPTH"
  | .includePaths => "TRACEGEN_INCLUDE_PATHS"
  | .filePattern => "TRACEGEN_FILE_PATTERN"
  | .tracesSuffix => "TRACEGEN_TRACES_SUFFIX"
  | .showTraces => "TRACEGEN_SHOW_TRACES"
  | .verbose => "TRACEGEN_VERBOSE"
  | .jsonLogs => "TRACEGEN_JSON_LOGS"

def depths : List Field := [.minDepth, .maxDepth]

def switches : List Field := [.showTraces, .verbose, .jsonLogs]

theorem mem_depths {f : Field} : f ∈ depths ↔ f = .minDepth ∨ f = .maxDepth := by
  simp [depths]

theorem mem_switches {f : Field} : f ∈ switches ↔ f = .showTraces ∨ f = .verbose ∨ f = .jsonLogs := by
  simp [switches]

theorem ne_includePaths {f : Field} (h : f ∈ switches) : f ≠ .includePaths := by
  rintro rfl
  revert h
  decide

/-- The order in which settings are checked. -/
def Precedes (f g : Field) : Prop := all.idxOf f < all.idxOf g

instance (f g : Field) : Decidable (f.Precedes g) := inferInstanceAs (Decidable (_ < _))

theorem name_injective : Function.Injective name := by
  intro f g h
  cases f <;> cases g <;> first | rfl | exact absurd h (by decide)

end Field

/-- The same value for a setting. -/
def Settings.Same (s t : Settings) : Field → Prop
  | .minDepth => s.minDepth = t.minDepth
  | .maxDepth => s.maxDepth = t.maxDepth
  | .includePaths => s.includePaths = t.includePaths
  | .filePattern => s.filePattern = t.filePattern
  | .tracesSuffix => s.tracesSuffix = t.tracesSuffix
  | .showTraces => s.showTraces = t.showTraces
  | .verbose => s.verbose = t.verbose
  | .jsonLogs => s.jsonLogs = t.jsonLogs

namespace Conversions

/-- Settings have for a setting what a value sets, or the default if there is no value. -/
def Sets (conv : Conversions) (s : Settings) (f : Field) (v? : Option Value) : Prop :=
  match f with
  | .minDepth => v?.elim (.ok (.ok none)) (readDepth .minDepth) = .ok (.ok s.minDepth)
  | .maxDepth => v?.elim (.ok (.ok none)) (readDepth .maxDepth) = .ok (.ok s.maxDepth)
  | .includePaths => v?.elim (.ok ({} : Settings).includePaths) conv.readIncludePaths = .ok s.includePaths
  | .filePattern => v?.elim (.ok ({} : Settings).filePattern) (conv.toText .filePattern) = .ok s.filePattern
  | .tracesSuffix => v?.elim (.ok (.ok ({} : Settings).tracesSuffix)) conv.readSuffix = .ok (.ok s.tracesSuffix)
  | .showTraces => v?.elim (.ok false) (conv.toTruth .showTraces) = .ok s.showTraces
  | .verbose => v?.elim (.ok false) (conv.toTruth .verbose) = .ok s.verbose
  | .jsonLogs => v?.elim (.ok false) (conv.toTruth .jsonLogs) = .ok s.jsonLogs

/-- A check of a setting ends with a refusal that is not collected. -/
def Raises (conv : Conversions) (f : Field) (v? : Option Value) (r : Refusal) : Prop :=
  match f, v? with
  | .minDepth, some v => readDepth .minDepth v = .error r
  | .maxDepth, some v => readDepth .maxDepth v = .error r
  | .tracesSuffix, some v => conv.readSuffix v = .error r
  | _, _ => False

section Sets

variable {conv : Conversions} {s t : Settings} {f : Field} {v? : Option Value}

/-- What a value sets is the same in all settings. -/
theorem Sets.same (hs : conv.Sets s f v?) (ht : conv.Sets t f v?) : s.Same t f := by
  cases f <;> simp_all [Sets, Settings.Same]

theorem Sets.of_same (h : conv.Sets s f v?) (hsame : s.Same t f) : conv.Sets t f v? := by
  cases f <;> simp_all [Sets, Settings.Same]

/-- A suffix that is set only extends a name, as the default does. -/
theorem Sets.isPlainSuffix (h : conv.Sets s .tracesSuffix v?) : isPlainSuffix s.tracesSuffix = true := by
  cases v? with
  | none =>
    have hdefault : ".traces" = s.tracesSuffix := Except.ok.inj (Except.ok.inj h)
    rw [← hdefault]
    simp only [Config.isPlainSuffix, String.contains_char_eq]
    decide
  | some v =>
    have hread : conv.readSuffix v = .ok (.ok s.tracesSuffix) := h
    unfold readSuffix checkSuffix at hread
    split at hread
    · split at hread
      · rename_i hplain
        cases hread
        exact hplain
      · cases hread
    · cases hread

end Sets

/-- Texts, lists of texts and truth values are taken as they are, and a text is a truth value if it is one of
some words, in any letter case. -/
structure Documented (conv : Conversions) : Prop where
  text : ∀ f s, conv.toText f (.text s) = .ok s
  texts : ∀ f ss, conv.toTexts f (.list (ss.map .text)) = .ok ss
  truth : ∀ f b, conv.toTruth f (.bool b) = .ok b
  word : ∀ f w b, conv.toTruth f (.text w) = .ok b ↔ w.toLower ∈ if b then trueWords else falseWords

end Conversions

/-! ## Variables -/

/-- A variable with its value, and no other variable has its name in another letter case. -/
structure Sole (env : Environment) (name w : String) : Prop where
  mem : (name, w) ∈ env
  only : ∀ r ∈ env, Text.lower r.1 = Text.lower name → r = (name, w)

/-- No variable has a name, in any letter case. -/
def Lacks (env : Environment) (name : String) : Prop := ∀ r ∈ env, Text.lower r.1 ≠ Text.lower name

instance (env : Environment) (name : String) : Decidable (Lacks env name) := inferInstanceAs (Decidable (∀ _ ∈ _, _))

/-- No variable lists directories, and no variable of a setting has a namesake in another letter case. -/
structure Distinct (env : Environment) : Prop where
  directories : Lacks env Field.includePaths.envName
  each : ∀ f : Field, Lacks env f.envName ∨ ∃ w, Sole env f.envName w

theorem distinct_nil : Distinct [] := ⟨by decide, fun _ => .inl nofun⟩

/-- There is no file of bindings in the working directory. -/
def NoEnvFile (d : Disk) : Prop := ∀ content, d.kind? [".env"] ≠ some (.file content)

theorem noEnvFile_empty : NoEnvFile {} := fun _ => nofun

section Variables

variable {env : Environment} {name w : String}

theorem Sole.get? (h : Sole env name w) : env.get? name = some w := by
  refine Table.get?_eq_some h.mem fun r hr hname => ?_
  rw [h.only r hr (by rw [hname])]

theorem Lacks.get? (h : Lacks env name) : env.get? name = none :=
  Table.get?_eq_none.2 fun hname => by
    obtain ⟨r, hr, hsame⟩ := List.mem_map.1 hname
    exact h r hr (congrArg Text.lower hsame)

end Variables

/-! ## Libraries -/

/-- Values under names with an underscore in front say how variables are looked up. -/
def IsOption (name : String) : Prop := name.toList.head? = some '_'

instance (name : String) : Decidable (IsOption name) := inferInstanceAs (Decidable (_ = _))

/-- Nothing is said about how variables are looked up. -/
def Bare (values : Table String Value) : Prop := ∀ name, IsOption name → values.get? name = none

theorem bare_nil : Bare [] := fun _ _ => rfl

/-- What is documented of a library. -/
structure Library.Documented (lib : Library) : Prop where
  conversions : lib.toConversions.Documented
  /-- What is handed over by the name of a setting is found as such. -/
  keyword : ∀ {d env values found}, lib.find d env values = .ok found → ∀ f, found .keyword f = values.get? f.name
  /-- What is found elsewhere depends on those values only that say how to look. -/
  options : ∀ {d env values values' found}, (∀ name, IsOption name → values'.get? name = values.get? name) →
    lib.find d env values = .ok found →
      ∃ found', lib.find d env values' = .ok found' ∧ ∀ origin, origin ≠ .keyword → found' origin = found origin
  /-- A variable of the environment sets its text, unless a list is due. -/
  variable_text : ∀ {d env values found f w}, Bare values → lib.find d env values = .ok found →
    f ≠ .includePaths → Sole env f.envName w → found .environment f = some (.text w)
  /-- Without a variable the environment has no value. -/
  variable_none : ∀ {d env values found f}, Bare values → lib.find d env values = .ok found →
    Lacks env f.envName → found .environment f = none
  /-- Files of bindings are read from the working directory. -/
  envFile_none : ∀ {d env values found f}, Bare values → lib.find d env values = .ok found → NoEnvFile d →
    found .envFile f = none
  /-- No directory is searched for secrets. -/
  secrets_none : ∀ {d env values found f}, Bare values → lib.find d env values = .ok found →
    found .secrets f = none
  /-- Only files and values of lists can be unreadable. -/
  readable : ∀ {d env values}, Bare values → NoEnvFile d → Lacks env Field.includePaths.envName →
    ∃ found, lib.find d env values = .ok found
  /-- Of several values the one counts whose origin has the highest rank. -/
  ranked : ∀ found f, lib.value found f = Origin.ranked.findSome? (found · f)
  /-- Settings are made exactly if all values that count fit. -/
  make_ok_iff : ∀ {d env values s}, lib.make d env values = .ok s ↔
    ∃ found, lib.find d env values = .ok found ∧ ∀ f, lib.toConversions.Sets s f (lib.value found f)
  /-- Settings are checked in their order, and the first refusal that is not collected is passed on. -/
  make_raises : ∀ {d env values found f r}, lib.find d env values = .ok found →
    (∀ g : Field, g.Precedes f → ∀ r', ¬lib.toConversions.Raises g (lib.value found g) r') →
    lib.toConversions.Raises f (lib.value found f) r → lib.make d env values = .error (.refused r)
  /-- All that does not fit is collected. -/
  make_misfits : ∀ {d env values found}, lib.find d env values = .ok found →
    (∀ f r, ¬lib.toConversions.Raises f (lib.value found f) r) →
    (∀ s, ¬∀ f, lib.toConversions.Sets s f (lib.value found f)) →
      ∃ misfits, lib.make d env values = .error (.refused (.misfits misfits))

/-- The value that is found for a setting below what is handed over. -/
def Found.beneath (found : Found) (f : Field) : Option Value :=
  [Origin.environment, .envFile, .secrets].findSome? (found · f)

section Documented

variable {lib : Library} (hlib : lib.Documented) {d : Disk} {env : Environment} {values : Table String Value}
  {found : Found} {s : Settings} {f : Field} {w : String}

include hlib

/-- What is handed over counts before everything else. -/
theorem value_eq (hfind : lib.find d env values = .ok found) (f : Field) :
    lib.value found f = (values.get? f.name).or (found.beneath f) := by
  rw [hlib.ranked, Origin.ranked, List.findSome?_cons, hlib.keyword hfind]
  cases values.get? f.name <;> rfl

/-- The same is found below what is handed over if the same is said about how to look. -/
theorem exists_find (values' : Table String Value)
    (hsame : ∀ name, IsOption name → values'.get? name = values.get? name) (hfind : lib.find d env values = .ok found) :
    ∃ found', lib.find d env values' = .ok found' ∧ found'.beneath = found.beneath := by
  obtain ⟨found', hfind', horigins⟩ := hlib.options hsame hfind
  refine ⟨found', hfind', funext fun f => ?_⟩
  simp only [Found.beneath, List.findSome?_cons, List.findSome?_nil, horigins .environment (by decide),
    horigins .envFile (by decide), horigins .secrets (by decide)]

/-- A variable of the environment counts below what is handed over. -/
theorem beneath_of_sole (hbare : Bare values) (hfind : lib.find d env values = .ok found) (hf : f ≠ .includePaths)
    (hw : Sole env f.envName w) : found.beneath f = some (.text w) := by
  rw [Found.beneath, List.findSome?_cons, hlib.variable_text hbare hfind hf hw]

/-- Without a variable and a file of bindings there is no value below what is handed over. -/
theorem beneath_of_lacks (hbare : Bare values) (hfind : lib.find d env values = .ok found) (hfile : NoEnvFile d)
    (hlacks : Lacks env f.envName) : found.beneath f = none := by
  simp only [Found.beneath, List.findSome?_cons, List.findSome?_nil, hlib.variable_none hbare hfind hlacks,
    hlib.envFile_none hbare hfind hfile, hlib.secrets_none hbare hfind]

/-- Without a file of bindings every setting has the text of its variable below what is handed over. -/
theorem exists_find_distinct (hbare : Bare values) (hfile : NoEnvFile d) (henv : Distinct env) :
    ∃ found, lib.find d env values = .ok found ∧ ∀ f, found.beneath f = (env.get? f.envName).map .text := by
  obtain ⟨found, hfind⟩ := hlib.readable hbare hfile henv.directories
  refine ⟨found, hfind, fun f => ?_⟩
  by_cases hlacks : Lacks env f.envName
  · rw [beneath_of_lacks hlib hbare hfind hfile hlacks, hlacks.get?]
    rfl
  · obtain ⟨w, hw⟩ := (henv.each f).resolve_left hlacks
    have hf : f ≠ .includePaths := by rintro rfl; exact hlacks henv.directories
    rw [beneath_of_sole hlib hbare hfind hf hw, hw.get?]
    rfl

/-- Settings take every value by its rank. -/
theorem make_iff : lib.make d env values = .ok s ↔ ∃ found, lib.find d env values = .ok found ∧
    ∀ f, lib.toConversions.Sets s f ((values.get? f.name).or (found.beneath f)) := by
  rw [hlib.make_ok_iff]
  refine exists_congr fun found => and_congr_right fun hfind => forall_congr' fun f => ?_
  rw [value_eq hlib hfind]

/-- Where nothing is set settings have their defaults. -/
theorem make_default (hfile : NoEnvFile d) : lib.make d [] [] = .ok {} := by
  obtain ⟨found, hfind, hbeneath⟩ := exists_find_distinct hlib bare_nil hfile distinct_nil
  refine (make_iff hlib).2 ⟨found, hfind, fun f => ?_⟩
  rw [hbeneath]
  cases f <;> rfl

end Documented

end Config

end StateTraces
