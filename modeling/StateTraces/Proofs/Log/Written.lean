import StateTraces.Proofs.Json.Line
import StateTraces.Proofs.Log.Context

/-
What the JSON line of a record says. The line is not broken, whatever the texts hold, and what is read from it
is what the call, its logger and the context said: context, data and failure only where there are any. Where the
values of a call do not fit its template, or the context or the data holds an integer that is too long to be
written, there is no line at all.
-/

namespace StateTraces

/-! ## Plain values -/

namespace Json

theorem plain_merge {t u : Table String Json} (h : Plain (.obj t)) (h' : Plain (.obj u)) :
    Plain (.obj (t.merge u)) := by
  cases h with
  | obj hkeys hvalues =>
    cases h' with
    | obj _ hvalues' =>
      exact .obj (Table.nodup_keys_merge hkeys u) fun r hr => (Table.mem_merge hr).elim (hvalues r) (hvalues' r)

theorem plain_present {t : Table String (Option Json)} (hkeys : t.keys.Nodup)
    (hvalues : ∀ r ∈ t, ∀ j ∈ r.2, Plain j) : Plain (.obj (Table.present t)) :=
  .obj ((Table.keys_present_sublist t).nodup hkeys) fun r hr => hvalues _ (Table.mem_present.1 hr) r.2 rfl

theorem plain_nil : Plain (.obj []) := .obj List.nodup_nil fun _ h => by cases h

/-! ## Values that can be written -/

theorem isWritable_obj {ms : Table String Json} :
    (Json.obj ms).isWritable = true ↔ ∀ r ∈ ms, r.2.isWritable = true := by
  rw [isWritable]
  induction ms with
  | nil => simp [membersAreWritable]
  | cons r ms ih =>
    obtain ⟨k, j⟩ := r
    rw [membersAreWritable, Bool.and_eq_true, ih, List.forall_mem_cons]

theorem isWritable_present {t : Table String (Option Json)} :
    (Json.obj (Table.present t)).isWritable = true ↔ ∀ r ∈ t, ∀ j ∈ r.2, j.isWritable = true := by
  rw [isWritable_obj]
  constructor
  · rintro h ⟨k, o⟩ hr j rfl
    exact h (k, j) (Table.mem_present.2 hr)
  · exact fun h r hr => h _ (Table.mem_present.1 hr) r.2 rfl

end Json

namespace Log

variable {d : Desk} {call : Call}

/-- A desk with plain values in its contexts and loggers. -/
structure Desk.Plain (d : Desk) : Prop where
  contexts : ∀ fields ∈ d.scope.current :: d.scope.outer, Json.Plain (.obj fields)
  loggers : ∀ l ∈ d.loggers, Json.Plain (.obj l.2.fields)

/-- A step with plain values in its fields. -/
def Step.Plain : Step → Prop
  | .enter fields => Json.Plain (.obj fields)
  | .leave => True
  | .bind _ _ fields => Json.Plain (.obj fields)
  | .write call => Json.Plain (.obj call.data)

namespace Desk

theorem plain_new (sink : Option Sink) : Desk.Plain { sink } where
  contexts fields hfields := by
    rw [List.mem_singleton.1 hfields]
    exact Json.plain_nil
  loggers l hl := by cases hl

theorem Plain.logger (h : d.Plain) (name : String) : Json.Plain (.obj (d.logger name).fields) := by
  unfold Desk.logger
  cases hget : d.loggers.get? name with
  | none => exact Json.plain_nil
  | some l => exact h.loggers (name, l) (Table.mem_of_get? hget)

theorem Plain.perform (h : d.Plain) {s : Step} (hs : s.Plain) : (d.perform s).1.Plain := by
  cases hmistaken : s.isMistaken with
  | true => rwa [perform_mistaken hmistaken]
  | false =>
    cases s with
    | enter fields =>
      have hcurrent := h.contexts _ List.mem_cons_self
      exact ⟨List.forall_mem_cons.2 ⟨Json.plain_merge hcurrent hs, h.contexts⟩, h.loggers⟩
    | leave =>
      refine ⟨?_, h.loggers⟩
      rw [perform_leave]
      unfold Scope.leave
      split
      · exact h.contexts
      · rename_i c outer houter
        exact fun fields hfields => h.contexts fields (List.mem_cons_of_mem _ (houter ▸ hfields))
    | write => rwa [perform_write none hmistaken]
    | bind name source fields =>
      rw [perform_bind hmistaken]
      refine ⟨h.contexts, fun l hl => ?_⟩
      rcases Table.mem_set hl with hl | rfl
      · exact h.loggers l hl
      · exact Json.plain_merge (h.logger source) hs

/-- Steps with plain values lead to a desk with plain values. -/
theorem Plain.after (h : d.Plain) {steps : List Step} (hsteps : ∀ s ∈ steps, s.Plain) : (d.after steps).Plain := by
  induction steps generalizing d with
  | nil => exact h
  | cons s steps ih =>
    obtain ⟨hs, hmore⟩ := List.forall_mem_cons.1 hsteps
    exact ih (h.perform hs) hmore

end Desk

/-! ## Calls -/

namespace Call

/-- What a call says, if its values fit its template. -/
def message? : Call → Option String
  | .log _ _ message _ => some message
  | .fail _ message _ _ => some message
  | .plain _ _ template values => Template.message? template values

def cause? : Call → Option Cause
  | .fail _ _ _ cause? => cause?
  | .log .. | .plain .. => none

/-- The names of the parameters of logging methods. -/
def parameters : List String := ["self", "level", "message", Logger.failureName]

/-- A call with plain values, under other names than those of parameters, and with a level that has a name. -/
structure Regular (call : Call) : Prop where
  plain : Json.Plain (.obj call.data)
  other : ∀ name ∈ call.data.keys, name ∉ parameters
  named : call.isUnnamed = false

theorem reserved_subset : ∀ call : Call, call.reserved ⊆ parameters
  | .log .. => (by decide : ["self", "level", "message"] ⊆ parameters)
  | .fail .. => (by decide : ["self", "level", "message", Logger.failureName] ⊆ parameters)
  | .plain .. => List.nil_subset _

theorem Regular.not_mistaken (h : call.Regular) : (Step.write call).isMistaken = false := by
  rw [Step.isMistaken, h.named, Bool.or_false, List.any_eq_false]
  intro name hname hmem
  exact h.other name (List.contains_iff_mem.1 hmem) (call.reserved_subset hname)

theorem Regular.get?_failureName (h : call.Regular) : call.data.get? Logger.failureName = none :=
  Table.get?_eq_none.2 fun hmem => h.other _ hmem (by decide)

theorem Regular.fields_eq (h : call.Regular) : call.fields = call.data := by
  refine List.filter_eq_self.2 fun r hr => bne_iff_ne.2 fun hname => ?_
  exact h.other r.1 (List.mem_map_of_mem hr) (hname ▸ by decide)

end Call

/-- The logger that makes the record of a call. -/
def Desk.author (d : Desk) : Call → Logger
  | .log name .. => d.logger name
  | .fail name .. => d.logger name
  | .plain name .. => { name }

theorem Desk.Plain.author (h : d.Plain) (call : Call) : Json.Plain (.obj (d.author call).fields) := by
  cases call with
  | log name | fail name => exact h.logger name
  | plain => exact Json.plain_nil

theorem Desk.record_said (d : Desk) (call : Call) : (d.record call).text? = call.message? ∧
    (d.record call).level = call.level ∧ (d.record call).logger = (d.author call).name ∧
    (d.record call).cause = call.cause? := by
  cases call <;> exact ⟨rfl, rfl, rfl, rfl⟩

/-- The data of a record are the fields of the logger and, over these, those of the call. -/
theorem Desk.record_data_eq (d : Desk) (call : Call) :
    (d.record call).data.getD [] = (d.author call).fields.merge call.fields := by
  cases call <;> rfl

/-- Nothing stands in the place of a failure, or none does. -/
theorem Desk.record_handed (d : Desk) (h : call.Regular) : (d.record call).handed.all standsForNone = true := by
  cases call with
  | log name level message data =>
    have hnone : Table.get? Logger.failureName data = none := h.get?_failureName
    simp [Desk.record, Logger.record, hnone]
  | fail name message data cause? => cases cause? <;> rfl
  | plain => rfl

/-! ## The line of a record -/

/-- What a reader learns from the line of a call. -/
structure Told (d : Desk) (call : Call) (members : Table String Json) : Prop where
  message : ∃ message, call.message? = some message ∧ members.get? "message" = some (.str message)
  level : members.get? "level" = some (.str (Text.lower call.level.name))
  logger : members.get? "logger" = some (.str (d.author call).name)
  context : members.get? "context" = if d.scope.current = [] then none else some (.obj d.scope.current)
  /-- The fields of the logger and, over these, those of the call. -/
  data : ∃ data, Table.Layered [(d.author call).fields, call.data] data ∧
    members.get? "data" = if data = [] then none else some (.obj data)
  no_exception : call.cause? = none → members.get? "exception" = none
  exception : ∀ cause, call.cause? = some cause → ∃ parts : Table String Json,
    members.get? "exception" = some (.obj parts) ∧ parts.get? "type" = some (.str cause.kind) ∧
      parts.get? "message" = some (.str cause.text) ∧ parts.keys ⊆ ["type", "message", "traceback"]
  only : members.keys ⊆ ["timestamp", "level", "message", "logger", "location", "context", "data", "exception"]

namespace Record

variable {r : Record} {withPlace : Bool} {stamp? : Option Stamp}

theorem filled?_eq (t : Table String Json) : filled? t = if t = [] then none else some (.obj t) := by
  unfold filled?
  cases t <;> rfl

theorem nodup_failureParts (c : Cause) (stamp? : Option Stamp) : (failureParts c stamp?).keys.Nodup :=
  (by decide : ["type", "message", "traceback"].Nodup)

theorem nodup_parts (r : Record) (withPlace : Bool) (stamp? : Option Stamp) : (r.parts withPlace stamp?).keys.Nodup :=
  (by decide :
    ["timestamp", "level", "message", "logger", "location", "context", "data", "exception"].Nodup)

section Parts

variable {P : Json → Prop} (htext : ∀ s, P (.str s))

include htext

/-- What holds of every text holds of all that is said about a failure. -/
theorem forall_failureParts (c : Cause) (stamp? : Option Stamp) : ∀ part ∈ failureParts c stamp?, ∀ j ∈ part.2, P j := by
  simp only [failureParts, List.forall_mem_cons]
  refine ⟨by rintro j ⟨⟩; exact htext _, by rintro j ⟨⟩; exact htext _, fun j hj => ?_, nofun⟩
  obtain ⟨stamp, -, rfl⟩ := Option.map_eq_some_iff.1 hj
  exact htext _

/-- What holds of every text holds of all parts of a record, if it does of the place, of failures and of the two
tables. -/
theorem forall_parts (hplace : P noPlace) (hfailure : ∀ c, P (.obj (Table.present (failureParts c stamp?))))
    (hcontext : P (.obj r.context)) (hdata : P (.obj (r.data.getD []))) :
    ∀ part ∈ r.parts withPlace stamp?, ∀ j ∈ part.2, P j := by
  have hfilled : ∀ {t}, P (.obj t) → ∀ j ∈ filled? t, P j := by
    intro t ht j hj
    rw [filled?_eq] at hj
    split at hj
    · cases hj
    · cases hj
      exact ht
  have hmap : ∀ {α : Type} {o : Option α} {f : α → Json}, (∀ a, P (f a)) → ∀ j ∈ o.map f, P j := by
    intro α o f hf j hj
    obtain ⟨a, -, rfl⟩ := Option.map_eq_some_iff.1 hj
    exact hf a
  simp only [parts, List.forall_mem_cons]
  refine ⟨hmap fun _ => htext _, by rintro j ⟨⟩; exact htext _, hmap htext, by rintro j ⟨⟩; exact htext _, ?_,
    hfilled hcontext, hfilled hdata, hmap hfailure, nofun⟩
  cases withPlace with
  | false => exact nofun
  | true => rintro j ⟨⟩; exact hplace

end Parts

theorem plain_noPlace : Json.Plain noPlace := by
  refine .obj (by decide) ?_
  simp only [List.forall_mem_cons]
  exact ⟨.str _, .int _, .null, nofun⟩

theorem plain_toJson (hcontext : Json.Plain (.obj r.context)) (hdata : Json.Plain (.obj (r.data.getD [])))
    (withPlace : Bool) (stamp? : Option Stamp) : Json.Plain (r.toJson withPlace stamp?) := by
  have hfailure : ∀ c, Json.Plain (.obj (Table.present (failureParts c stamp?))) := fun c =>
    Json.plain_present (nodup_failureParts c stamp?) (forall_failureParts .str c stamp?)
  exact Json.plain_present (nodup_parts r withPlace stamp?)
    (forall_parts .str plain_noPlace hfailure hcontext hdata)

/-- A record can be written exactly if its context and its data can. -/
theorem isWritable_toJson (r : Record) (withPlace : Bool) (stamp? : Option Stamp) :
    (r.toJson withPlace stamp?).isWritable = true ↔
      (Json.obj r.context).isWritable = true ∧ (Json.obj (r.data.getD [])).isWritable = true := by
  have hfilled : ∀ {t}, (∀ j ∈ filled? t, j.isWritable = true) → (Json.obj t).isWritable = true := by
    intro t h
    rw [filled?_eq] at h
    split at h
    · rename_i ht
      rw [ht]
      rfl
    · exact h _ rfl
  rw [toJson, Json.isWritable_present]
  constructor
  · intro h
    have hcontext : ("context", filled? r.context) ∈ r.parts withPlace stamp? := by simp [parts]
    have hdata : ("data", filled? (r.data.getD [])) ∈ r.parts withPlace stamp? := by simp [parts]
    exact ⟨hfilled (h _ hcontext), hfilled (h _ hdata)⟩
  · rintro ⟨hcontext, hdata⟩
    have hfailure : ∀ c, (Json.obj (Table.present (failureParts c stamp?))).isWritable = true := fun c =>
      Json.isWritable_present.2 (forall_failureParts (fun _ => rfl) c stamp?)
    exact forall_parts (fun _ => rfl) (by decide +kernel) hfailure hcontext hdata

theorem jsonLine?_of_isWritable {text : String} (htext : r.text? = some text)
    (h : (r.toJson withPlace stamp?).isWritable = true) :
    r.jsonLine? withPlace stamp? = some ((r.toJson withPlace stamp?).line .unicode) := by
  rw [jsonLine?, htext, Option.bind_some, Json.line?, if_pos h]

theorem jsonLine?_eq_none (h : r.text?.isSome = true → ¬(r.toJson withPlace stamp?).isWritable = true) :
    r.jsonLine? withPlace stamp? = none := by
  cases htext : r.text? with
  | none => rw [jsonLine?, htext, Option.bind_none]
  | some text => rw [jsonLine?, htext, Option.bind_some, Json.line?, if_neg (h (by rw [htext]; rfl))]

end Record

/-- The context, the fields of loggers and the data of calls are plain, so the record is. -/
theorem Desk.Plain.record (hd : d.Plain) (hcall : call.Regular) (withPlace : Bool) (stamp? : Option Stamp) :
    Json.Plain ((d.record call).toJson withPlace stamp?) := by
  refine Record.plain_toJson ?_ ?_ withPlace stamp?
  · rw [Desk.record_context]
    exact hd.contexts _ List.mem_cons_self
  · rw [Desk.record_data_eq, hcall.fields_eq]
    exact Json.plain_merge (hd.author call) hcall.plain

/-- The parts of a record say what its call said. -/
theorem told_parts (hd : d.Plain) (hcall : call.Regular) {message : String} (hsaid : call.message? = some message)
    (withPlace : Bool) (stamp? : Option Stamp) :
    Told d call (Table.present ((d.record call).parts withPlace stamp?)) := by
  obtain ⟨hmessage, hlevel, hlogger, hcause⟩ := d.record_said call
  have hget := Table.get?_present (Record.nodup_parts (d.record call) withPlace stamp?)
  refine ⟨?_, ?_, ?_, ?_, ?_, fun hnone => ?_, fun cause hsome => ?_, ?_⟩
  · have hparts : ((d.record call).parts withPlace stamp?).get? "message" = some ((d.record call).text?.map .str) := rfl
    refine ⟨message, hsaid, ?_⟩
    rw [hget, hparts, hmessage, hsaid]
    rfl
  · rw [hget, ← hlevel]; rfl
  · rw [hget, ← hlogger]; rfl
  · rw [hget, ← Record.filled?_eq, ← Desk.record_context d call]; rfl
  · have hfields : [(d.author call).fields, call.data].foldl Table.merge [] = (d.record call).data.getD [] := by
      cases hd.author call with
      | obj hkeys _ => rw [List.foldl_cons, Table.merge_nil hkeys, Desk.record_data_eq, hcall.fields_eq]; rfl
    refine ⟨_, hfields ▸ Table.layered_foldl _, ?_⟩
    rw [hget, ← Record.filled?_eq]
    rfl
  · have hexception : ((d.record call).parts withPlace stamp?).get? "exception" = some none := by
      show some ((d.record call).cause.map _) = _
      rw [hcause, hnone]
      rfl
    rw [hget, hexception]
    rfl
  · have hexception : ((d.record call).parts withPlace stamp?).get? "exception" =
        some (some (.obj (Table.present (Record.failureParts cause stamp?)))) := by
      show some ((d.record call).cause.map _) = _
      rw [hcause, hsome]
      rfl
    have hparts := Table.get?_present (Record.nodup_failureParts cause stamp?)
    refine ⟨_, by rw [hget, hexception]; rfl, by rw [hparts]; rfl, by rw [hparts]; rfl, ?_⟩
    exact (Table.keys_present_sublist (Record.failureParts cause stamp?)).subset
  · exact (Table.keys_present_sublist ((d.record call).parts withPlace stamp?)).subset

/-- The values of a call fit its template, and every integer in the context and in its data can be written. -/
structure Desk.CanTell (d : Desk) (call : Call) : Prop where
  message : call.message?.isSome = true
  context : (Json.obj d.scope.current).isWritable = true
  data : (Json.obj ((d.author call).fields.merge call.data)).isWritable = true

theorem isWritable_record (hcall : call.Regular) (withPlace : Bool) (stamp? : Option Stamp) :
    ((d.record call).toJson withPlace stamp?).isWritable = true ↔ (Json.obj d.scope.current).isWritable = true ∧
      (Json.obj ((d.author call).fields.merge call.data)).isWritable = true := by
  rw [Record.isWritable_toJson, Desk.record_context, Desk.record_data_eq, hcall.fields_eq]

/-- What a call adds to the stream is the line of its record, if there is one. -/
theorem perform_regular (hcall : call.Regular) {withPlace : Bool} (stamp? : Option Stamp) {least : Level}
    (hsink : d.sink = some ⟨least, .json withPlace⟩)
    (hadmits : Sink.admits ⟨least, .json withPlace⟩ (d.author call).name call.level = true) :
    (d.perform (.write call) stamp?).2 = .lines ((d.record call).jsonLine? withPlace stamp?).toList := by
  obtain ⟨-, hlevel, hlogger, -⟩ := d.record_said call
  rw [← hlogger, ← hlevel] at hadmits
  rw [Desk.perform_write stamp? hcall.not_mistaken, hsink]
  dsimp only [Option.elim]
  rw [Sink.lines, if_pos hadmits]
  dsimp only
  rw [if_pos (Desk.record_handed d hcall)]

/-- A call whose values fit and whose integers can be written writes one line in which nothing breaks the line, and a
reader learns from it what was said. Every other call writes nothing. -/
theorem line_told (hd : d.Plain) (hcall : call.Regular) (withPlace : Bool) (stamp? : Option Stamp) :
    (d.CanTell call → ∃ line,
      (∀ least, d.sink = some ⟨least, .json withPlace⟩ →
        Sink.admits ⟨least, .json withPlace⟩ (d.author call).name call.level = true →
        (d.perform (.write call) stamp?).2 = .lines [line]) ∧
      (∀ c ∈ line.toList, 0x20 ≤ c.toNat) ∧
      ∃ members, Json.read? line = some (.obj members) ∧ Told d call members) ∧
    (¬d.CanTell call → ∀ least, d.sink = some ⟨least, .json withPlace⟩ →
      Sink.admits ⟨least, .json withPlace⟩ (d.author call).name call.level = true →
      (d.perform (.write call) stamp?).2 = .lines []) := by
  have hplain := hd.record hcall withPlace stamp?
  have hwritable := isWritable_record (d := d) hcall withPlace stamp?
  obtain ⟨hmessage, -⟩ := d.record_said call
  constructor
  · intro hcan
    obtain ⟨message, hsaid⟩ := Option.isSome_iff_exists.1 hcan.message
    refine ⟨((d.record call).toJson withPlace stamp?).line .unicode, fun least hsink hadmits => ?_, ?_, _,
      Json.read?_line .unicode hplain, told_parts hd hcall hsaid withPlace stamp?⟩
    · rw [perform_regular hcall stamp? hsink hadmits,
        Record.jsonLine?_of_isWritable (hmessage.trans hsaid) (hwritable.2 ⟨hcan.context, hcan.data⟩)]
      rfl
    · rw [Json.line, String.toList_ofList]
      exact Json.visible_lineChars .unicode hplain
  · intro hcannot least hsink hadmits
    have hnone : (d.record call).jsonLine? withPlace stamp? = none := by
      refine Record.jsonLine?_eq_none fun hsaid hwritten => hcannot ?_
      obtain ⟨hcontext, hdata⟩ := hwritable.1 hwritten
      exact ⟨hmessage ▸ hsaid, hcontext, hdata⟩
    rw [perform_regular hcall stamp? hsink hadmits, hnone]
    rfl

theorem line_told_failure :
    let d := Desk.after { sink := some ⟨.info, .json true⟩ } [.enter [("file", .str "a\nb")],
      .bind "log" "tracegen.parse" [("lines", .int 1), ("part", .str "\\ \x01")]]
    let call := Call.fail "log" "cannot \"read\"\r\n" [("lines", .arr [.int (-2), .null])] (some ⟨"ValueError", "\t"⟩)
    d.Plain ∧ call.Regular ∧ d.CanTell call ∧ ∃ line members, (d.perform (.write call)).2 = .lines [line] ∧
      (∀ c ∈ line.toList, 0x20 ≤ c.toNat) ∧ Json.read? line = some (.obj members) ∧ Told d call members := by
  intro d call
  have hone : ∀ (name : String) {j : Json}, Json.Plain j → Json.Plain (.obj [(name, j)]) := fun name j h =>
    .obj (List.nodup_singleton name) (List.forall_mem_singleton.2 h)
  have hbound : Json.Plain (.obj [("lines", .int 1), ("part", .str "\\ \x01")]) :=
    .obj (by decide) (List.forall_mem_cons.2 ⟨.int 1, List.forall_mem_singleton.2 (.str _)⟩)
  have hd : d.Plain := (Desk.plain_new _).after
    (List.forall_mem_cons.2 ⟨hone _ (.str _), List.forall_mem_singleton.2 hbound⟩)
  have hlines : Json.Plain (.arr [.int (-2), .null]) :=
    .arr (List.forall_mem_cons.2 ⟨.int _, List.forall_mem_singleton.2 .null⟩)
  have hcall : call.Regular := ⟨hone _ hlines, List.forall_mem_singleton.2 (by decide), by decide +kernel⟩
  have hcan : d.CanTell call := ⟨rfl, by decide +kernel, by decide +kernel⟩
  have hadmits : Sink.admits ⟨.info, .json true⟩ "tracegen.parse" .error = true := by decide +kernel
  obtain ⟨line, hwritten, hvisible, members, hread, htold⟩ := (line_told hd hcall true none).1 hcan
  exact ⟨hd, hcall, hcan, line, members, hwritten _ rfl hadmits, hvisible, hread, htold⟩

/-- A value without a place keeps the record from being written. -/
example : (Desk.perform { sink := some ⟨.warning, .json false⟩ }
    (.write (.plain "tracegen" .warning "done" [.str "x"]))).2 = .lines [] := by
  rfl

/-- An integer in the data that cannot be written keeps the record from being written. -/
theorem lines_of_long {n : Int} (hlong : Text.isShort n = false) :
    let d : Desk := { sink := some ⟨.warning, .json false⟩ }
    let call := Call.log "tracegen" .warning "m" [("n", .int n)]
    d.Plain ∧ call.Regular ∧ (d.perform (.write call)).2 = .lines [] := by
  intro d call
  have hother : "n" ∉ Call.parameters := by decide
  have hcall : call.Regular := ⟨.obj (List.nodup_singleton _) (List.forall_mem_singleton.2 (.int n)),
    List.forall_mem_singleton.2 hother, rfl⟩
  have hadmits : Sink.admits ⟨.warning, .json false⟩ "tracegen" .warning = true := by decide +kernel
  have hcannot : ¬((d.record call).toJson false none).isWritable = true := by
    rw [Record.isWritable_toJson]
    rintro ⟨-, hdata⟩
    have hwritten : (Json.int n).isWritable = true := Json.isWritable_obj.1 hdata ("n", .int n) List.mem_cons_self
    rw [Json.isWritable, Text.isSome_writeInteger?, hlong] at hwritten
    cases hwritten
  refine ⟨Desk.plain_new _, hcall, ?_⟩
  rw [perform_regular hcall none rfl hadmits, Record.jsonLine?_eq_none fun _ => hcannot]
  rfl

/-- The least integer that is too long. -/
theorem long_integer_unwritten :
    let d : Desk := { sink := some ⟨.warning, .json false⟩ }
    let call := Call.log "tracegen" .warning "m" [("n", .int (Binary64.tenTo Text.mostDigits))]
    d.Plain ∧ call.Regular ∧ Sink.admits ⟨.warning, .json false⟩ "tracegen" .warning = true ∧
      (d.perform (.write call)).2 = .lines [] := by
  obtain ⟨hd, hcall, hlines⟩ := lines_of_long (n := Binary64.tenTo Text.mostDigits) (by decide +kernel)
  exact ⟨hd, hcall, by decide +kernel, hlines⟩

end Log

end StateTraces
