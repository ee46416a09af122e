import StateTraces.Proofs.Config.Depths
import StateTraces.Proofs.Config.Usual
import StateTraces.Proofs.Enumeration.Window
import StateTraces.Proofs.Pipeline.Listener

/-
Depth bounds on their ways into an enumeration. They are given to it directly, to a pipeline as they are
or as a window, or to the settings of a pipeline. Bounds that are not negative make one and the same
window on all ways and in either order; a negative one is refused on all of them, the minimum first and
with the value that was given, before there is a trace. Only a value that can be written is reported. How
settings are found and made elsewhere enters by what is documented of it.
-/

namespace StateTraces

open Files (Disk)
open Config (Settings Library Hands handing negativeDepth)

/-! ## Negative bounds -/

namespace DepthWindow

/-- The first negative one of two bounds, with its value. -/
def Negative (a b : Int) (bound : Bound) (value : Int) : Prop :=
  a < 0 ∧ bound = .minimum ∧ value = a ∨ 0 ≤ a ∧ b < 0 ∧ bound = .maximum ∧ value = b

/-- The setting of a bound. -/
def Bound.field : Bound → Config.Field
  | .minimum => .minDepth
  | .maximum => .maxDepth

variable {a b value : Int} {bound : Bound}

theorem ofBounds_negative (h : Negative a b bound value) (hshort : Text.isShort value = true) :
    ofBounds a b = .error (.negative bound value) := by
  rw [← ofNegative_of_isShort hshort]
  obtain ⟨ha, rfl, rfl⟩ | ⟨ha, hb, rfl, rfl⟩ := h
  · rw [ofBounds, checkBounds, if_pos ha]
    rfl
  · rw [ofBounds, checkBounds, if_neg (Int.not_lt.2 ha), if_pos hb]
    rfl

theorem ofBounds_nonneg (ha : 0 ≤ a) (hb : 0 ≤ b) : ofBounds a b = .ok (between a.toNat b.toNat) := by
  rw [ofBounds, checkBounds, if_neg (Int.not_lt.2 ha), if_neg (Int.not_lt.2 hb)]
  rfl

theorem between_comm (m n : Nat) : between m n = between n m := by
  simp only [between, mk.injEq]
  omega

end DepthWindow

/-! ## Enumerating directly -/

/-- The traces between two bounds. -/
def Enumeration.tracesBetween {V L : Type} [DecidableEq V] (g : Graph V L) (minimum maximum : Int) :
    Except DepthWindow.Refusal (List (List L)) :=
  (DepthWindow.resolve (some minimum) (some maximum)).map (allTraces g)

namespace Pipeline

open DepthWindow (Negative negativeBound)
open Enumeration (allTraces tracesBetween)

/-! ## Bounds of a pipeline -/

namespace Source

variable {s : Source} {bounds other : Option Bounds} {showTraces : Bool} {d : Disk}

/-- The traces that generating goes through, before they are lines. -/
def enumerated (s : Source) (bounds : Option Bounds) : Except FileFault (List (List Atom)) :=
  (bounds.mapM Bounds.resolve).map (allTraces (s.graph.getD .empty))

/-- Generating knows its bounds only by the window that they stand for. -/
theorem generate_congr (h : bounds.mapM Bounds.resolve = other.mapM Bounds.resolve) :
    s.generate bounds showTraces d = s.generate other showTraces d := by
  simp only [generate, h]

theorem generate_negative {a b value : Int} {bound : DepthWindow.Bound} (h : Negative a b bound value)
    (hshort : Text.isShort value = true) :
    s.generate (some (.raw a b)) showTraces d =
      { disk := d, source := s.clearGraph
        entries := [s.notice .generateCombinations .info "Generating combinations",
          s.failure .generateCombinations "Invalid depth" (negativeBound bound value)] } := by
  have hresolve : (some (Bounds.raw a b)).mapM Bounds.resolve = .error (.reported (negativeBound bound value)) := by
    simp [Bounds.resolve, DepthWindow.ofBounds_negative h hshort, Except.mapError, Bounds.fault]
  simp only [generate, hresolve]

/-- The traces of a source are the lines of what generating goes through, behind those that it had. -/
theorem generate_traces {traces : List (List Atom)} (h : s.enumerated bounds = .ok traces) :
    (s.generate bounds showTraces d).source.traces = ((traces.map lineOf).foldl addTrace s).traces := by
  unfold enumerated at h
  cases hresolve : bounds.mapM Bounds.resolve with
  | error r => rw [hresolve] at h; cases h
  | ok window =>
    rw [hresolve] at h
    cases h
    have hfilled : (s.collect window showTraces).1 =
        ((allTraces (s.graph.getD .empty) window).map lineOf).foldl addTrace s := by
      rw [collect_foldl, foldl_receive]
      rfl
    rw [← hfilled]
    simp only [generate, hresolve]
    split <;> rfl

theorem complete_traces (phase : Phase) : (s.complete phase).traces = s.traces := by
  unfold complete
  split <;> rfl

theorem parse_traces : (s.parse d).source.traces = s.traces := by
  unfold parse
  split
  · rfl
  · rfl
  · split <;> rfl

end Source

section Calls

variable {p q : Pipeline} {s : Source} {before : Session}

/-- Pipelines whose phases do the same process sources alike. -/
theorem process_congr (h : ∀ phase s d, p.apply phase s d = q.apply phase s d) :
    p.process s before = q.process s before := by
  have hexecute : p.execute = q.execute := by
    funext phase s session
    simp only [execute, h]
  have hadvance : p.advance = q.advance := by
    funext s session phases
    induction phases generalizing s session with
    | nil => rfl
    | cons phase phases ih => simp only [advance, hexecute, ih]
  rw [process, process, hadvance]

/-- If no phase changes the tree or the traces, processing does not. -/
theorem process_idle
    (h : ∀ phase s d, (p.apply phase s d).disk = d ∧ (p.apply phase s d).source.traces = s.traces) :
    (p.process s before).1.disk = before.disk ∧ (p.process s before).2.1.traces = s.traces := by
  rw [process_eq]
  generalize Phase.all = phases
  dsimp only
  induction phases generalizing s before with
  | nil => exact ⟨rfl, rfl⟩
  | cons phase phases ih =>
    by_cases hphase : phase ∈ s.completed
    · rw [advance_skip p phases before hphase]
      exact ih
    · have hexecute : (p.execute phase s before).1.disk = before.disk ∧
          (p.execute phase s before).2.1.traces = s.traces := by
        obtain ⟨hdisk, htraces⟩ := h phase s before.disk
        rw [execute_eq p before hphase]
        refine ⟨hdisk, ?_⟩
        rw [apply_ite Source.traces, Source.complete_traces, ite_self, htraces]
      rw [advance_cons p phases before hphase]
      split
      · exact ⟨ih.1.trans hexecute.1, ih.2.trans hexecute.2⟩
      · exact hexecute

end Calls

/-! ## All ways -/

section Ways

variable {a b value : Int} {bound : DepthWindow.Bound}

/-- On all ways two bounds stand for one window, whatever their order. -/
structure Agrees (a b : Int) (w : DepthWindow) : Prop where
  minimum_eq : w.minimum = min a b
  maximum_eq : w.maximum = max a b
  ofBounds_eq : DepthWindow.ofBounds a b = .ok w
  direct : ∀ (V L : Type) [DecidableEq V] (g : Graph V L),
    tracesBetween g a b = .ok (allTraces g (some w)) ∧ tracesBetween g b a = .ok (allTraces g (some w))
  /-- A pipeline goes through the same traces, and does the same with them. -/
  pipeline : ∀ bounds ∈ [Bounds.raw a b, .raw b a, .window w],
    (∀ (s : Source) (showTraces : Bool) (d : Disk),
      s.enumerated (some bounds) = .ok (allTraces (s.graph.getD .empty) (some w)) ∧
      s.generate (some bounds) showTraces d = s.generate (some (.window w)) showTraces d ∧
      (s.generate (some bounds) showTraces d).source.traces =
        (((allTraces (s.graph.getD .empty) (some w)).map Source.lineOf).foldl Source.addTrace s).traces) ∧
    ∀ (p : Pipeline) (s : Source) (before : Session), { p with bounds := some bounds }.process s before =
      { p with bounds := some (.window w) }.process s before
  /-- Settings that are made with the bounds have the window. -/
  settings : ∀ (lib : Library), lib.Documented → ∀ (d : Disk) (env : Environment) (values : Table String Value)
    (s : Settings), Hands values a b → lib.make d env values = .ok s →
      DepthWindow.resolve (s.minDepth.map Int.ofNat) (s.maxDepth.map Int.ofNat) = .ok s.window? ∧ s.window? = some w
  /-- Wherever settings can be made, they can be made with the bounds. -/
  handed : ∀ (lib : Library), lib.Documented → ∀ (d : Disk) (env : Environment) (values : Table String Value)
    (s : Settings), lib.make d env values = .ok s →
      lib.make d env (handing values a b) = .ok { s with minDepth := some a.toNat, maxDepth := some b.toNat }

/-- On all ways one of two bounds is refused, with its value, and nothing is enumerated or written. -/
structure Refuses (a b : Int) (bound : DepthWindow.Bound) (value : Int) : Prop where
  direct : ∀ (V L : Type) [DecidableEq V] (g : Graph V L), tracesBetween g a b = .error (.negative bound value)
  ofBounds_eq : DepthWindow.ofBounds a b = .error (.negative bound value)
  kind_eq : (negativeBound bound value).kind = .invalidDepth bound value
  pipeline : (∀ (s : Source) (showTraces : Bool) (d : Disk), s.generate (some (.raw a b)) showTraces d =
      { disk := d, source := s.clearGraph
        entries := [s.notice .generateCombinations .info "Generating combinations",
          s.failure .generateCombinations "Invalid depth" (negativeBound bound value)] }) ∧
    ∀ (p : Pipeline) (s : Source) (before : Session),
      ({ p with bounds := some (.raw a b) }.process s before).1.disk = before.disk ∧
      ({ p with bounds := some (.raw a b) }.process s before).2.1.traces = s.traces
  settings_kind_eq : (negativeDepth bound.field value).kind = .invalidConfig (some bound.field.name)
  /-- The settings report the bound as soon as the values are found. -/
  settings : ∀ (lib : Library), lib.Documented → ∀ (d : Disk) (env : Environment) (values : Table String Value)
    (found : Config.Found), Hands values a b → lib.find d env values = .ok found →
      lib.make d env values = .error (.refused (.reported (negativeDepth bound.field value)))

theorem resolve_nonneg (ha : 0 ≤ a) (hb : 0 ≤ b) :
    DepthWindow.resolve (some a) (some b) = .ok (some (.between a.toNat b.toNat)) := by
  rw [DepthWindow.resolve, DepthWindow.ofBounds_nonneg ha hb]
  rfl

theorem raw_nonneg (ha : 0 ≤ a) (hb : 0 ≤ b) :
    (some (Bounds.raw a b)).mapM Bounds.resolve = .ok (some (.between a.toNat b.toNat)) := by
  have hadmitted : Admitted (some (.raw a b)) := by
    rintro _ _ _ ⟨heq, hneg, -⟩
    cases heq
    omega
  exact resolve_admitted hadmitted

theorem agrees_of_nonneg (ha : 0 ≤ a) (hb : 0 ≤ b) : Agrees a b (.between a.toNat b.toNat) where
  minimum_eq := by simp only [DepthWindow.between]; omega
  maximum_eq := by simp only [DepthWindow.between]; omega
  ofBounds_eq := DepthWindow.ofBounds_nonneg ha hb
  direct := by
    intro V L _ g
    rw [tracesBetween, resolve_nonneg ha hb, tracesBetween, resolve_nonneg hb ha, DepthWindow.between_comm b.toNat]
    exact ⟨rfl, rfl⟩
  pipeline := by
    intro bounds hbounds
    have hresolve : (some bounds).mapM Bounds.resolve = .ok (some (.between a.toNat b.toNat)) := by
      simp only [List.mem_cons, List.not_mem_nil, or_false] at hbounds
      rcases hbounds with rfl | rfl | rfl
      · exact raw_nonneg ha hb
      · rw [raw_nonneg hb ha, DepthWindow.between_comm]
      · rfl
    have hgenerate : ∀ (s : Source) (showTraces : Bool) (d : Disk), s.generate (some bounds) showTraces d =
        s.generate (some (.window (.between a.toNat b.toNat))) showTraces d :=
      fun s showTraces d => Source.generate_congr hresolve
    refine ⟨fun s showTraces d => ?_, fun p s before => process_congr fun phase s d => ?_⟩
    · have henumerated : s.enumerated (some bounds) =
          .ok (allTraces (s.graph.getD .empty) (some (.between a.toNat b.toNat))) := by
        rw [Source.enumerated, hresolve]
        rfl
      exact ⟨henumerated, hgenerate s showTraces d, Source.generate_traces henumerated⟩
    · cases phase with
      | parseFile => rfl
      | generateCombinations => exact hgenerate s p.showTraces d
  settings := by
    intro lib hlib d env values s hhands hmake
    obtain ⟨-, hmin, hmax⟩ := Config.make_depths hlib hhands hmake
    rw [Settings.window?, hmin, hmax]
    exact ⟨Enumeration.resolve_ofNat a.toNat b.toNat, rfl⟩
  handed := fun lib hlib d env values s hmake => Config.make_handing hlib ha hb hmake

theorem refuses_of_negative (h : DepthWindow.Negative a b bound value) (hshort : Text.isShort value = true) :
    Refuses a b bound value where
  direct := by
    intro V L _ g
    rw [tracesBetween, DepthWindow.resolve, DepthWindow.ofBounds_negative h hshort]
    rfl
  ofBounds_eq := DepthWindow.ofBounds_negative h hshort
  kind_eq := rfl
  pipeline := by
    refine ⟨fun s showTraces d => Source.generate_negative h hshort,
      fun p s before => process_idle fun phase s d => ?_⟩
    cases phase with
    | parseFile => exact ⟨Source.parse_disk, Source.parse_traces⟩
    | generateCombinations =>
      rw [show apply _ .generateCombinations s d = s.generate (some (.raw a b)) p.showTraces d from rfl,
        Source.generate_negative h hshort]
      exact ⟨rfl, rfl⟩
  settings_kind_eq := rfl
  settings := by
    intro lib hlib d env values found hhands hfind
    obtain ⟨hmin, hmax⟩ := Config.make_negative hlib hhands hfind
    obtain ⟨ha, rfl, rfl⟩ | ⟨ha, hb, rfl, rfl⟩ := h
    · exact hmin ha hshort
    · exact hmax ha hb hshort

end Ways

/-- Two bounds mean the same on all ways: a window if none of them is negative, and else a refusal of the first
negative one, wherever its value can be written. Settings are never made with a negative bound, whether or not
it can be written. -/
theorem bounds_agree (a b : Int) :
    (0 ≤ a → 0 ≤ b → ∃ w, Agrees a b w) ∧
    (∀ bound value, DepthWindow.Negative a b bound value → Text.isShort value = true → Refuses a b bound value) ∧
    ∀ (lib : Library), lib.Documented → ∀ (d : Disk) (env : Environment) (values : Table String Value) (s : Settings),
      Hands values a b → lib.make d env values = .ok s → 0 ≤ a ∧ 0 ≤ b :=
  ⟨fun ha hb => ⟨_, agrees_of_nonneg ha hb⟩, fun _ _ h hshort => refuses_of_negative h hshort,
    fun _ hlib _ _ _ _ hhands hmake => (Config.make_depths hlib hhands hmake).1⟩

/-- Bounds in reverse order, and two negative bounds, of which the minimum is refused. -/
theorem bounds_agree_reversed :
    (∃ w : DepthWindow, (w.minimum = 1 ∧ w.maximum = 3) ∧
      Settings.make {} [] (handing [] 3 1) = .ok { minDepth := some 3, maxDepth := some 1 } ∧
      ({ minDepth := some 3, maxDepth := some 1 } : Settings).window? = some w) ∧
    DepthWindow.Negative (-2) (-5) .minimum (-2) ∧ Text.isShort (-2) = true ∧
      tracesBetween (Graph.ofEdges [(0, 1, 7)] : Graph Nat Nat) (-2) (-5) = .error (.negative .minimum (-2)) ∧
      Settings.make {} [] (handing [] (-2) (-5)) = .error (.refused (.reported (negativeDepth .minDepth (-2)))) := by
  have hnegative : DepthWindow.Negative (-2) (-5) .minimum (-2) := .inl ⟨by decide, rfl, rfl⟩
  have hshort : Text.isShort (-2) = true := by decide +kernel
  have hlib := Library.usual_documented
  obtain ⟨w, hw⟩ := (bounds_agree 3 1).1 (by decide) (by decide)
  have hrefuses := (bounds_agree (-2) (-5)).2.1 .minimum (-2) hnegative hshort
  have hmade := hw.handed _ hlib {} [] [] {} (Config.make_default hlib Config.noEnvFile_empty)
  have hbounds : w.minimum = 1 ∧ w.maximum = 3 := by
    have hmin := hw.minimum_eq
    have hmax := hw.maximum_eq
    omega
  have hwindow := (hw.settings _ hlib {} [] (handing [] 3 1) _ (Config.hands_handing _ _ _) hmade).2
  obtain ⟨found, hfind, -⟩ := Config.exists_find_distinct hlib (Config.bare_handing (-2) (-5))
    Config.noEnvFile_empty Config.distinct_nil
  exact ⟨⟨w, hbounds, hmade, hwindow⟩, hnegative, hshort, hrefuses.direct _ _ _,
    hrefuses.settings _ hlib {} [] _ found (Config.hands_handing _ _ _) hfind⟩

/-- A negative minimum that is just too long to be written is not reported; it is a value that does not fit. -/
theorem long_bound_unreported :
    let a : Int := -Binary64.tenTo Text.mostDigits
    DepthWindow.Negative a 1 .minimum a ∧ ∀ lib : Library, lib.Documented →
      ∃ misfits, lib.make {} [] (handing [] a 1) = .error (.refused (.misfits misfits)) := by
  intro a
  have ha : a < 0 := by decide +kernel
  have hlong : Text.isShort a = false := by decide +kernel
  exact ⟨.inl ⟨ha, rfl, rfl⟩, fun lib hlib => Config.make_long_minimum hlib ha hlong (by decide)⟩

end Pipeline

end StateTraces
