import BoundSql.Proofs.Exchange
import BoundSql.Proofs.Framing
import BoundSql.Proofs.Sameness

/-! What the log gives away about bound values. With the values of parameters left out everywhere, two runs
of a program whose values differ in content only, and whose base replies alike, emit the same events. The
runs go in step: equally many calls in each command, and equal events as long as the replies are equal. -/
namespace BoundSql

open BoundSql.Log

variable {σ σ' row : Type}

/-- Values of one kind, whatever they hold. -/
inductive Value.SameKind : Value → Value → Prop
  | null : SameKind .null .null
  | bool (a b : Bool) : SameKind (.bool a) (.bool b)
  | smallInt (m n : Int16) : SameKind (.smallInt m) (.smallInt n)
  | int (m n : Int32) : SameKind (.int m) (.int n)
  | bigInt (m n : Int64) : SameKind (.bigInt m) (.bigInt n)
  | real (x y : Floating.Single) : SameKind (.real x) (.real y)
  | double (x y : Floating.Double) : SameKind (.double x) (.double y)
  | text (s t : String) : SameKind (.text s) (.text t)
  | bytes (a b : Bytes) : SameKind (.bytes a) (.bytes b)
  | json (c d : Document) : SameKind (.json c) (.json d)
  | uuid (u v : Uuid) : SameKind (.uuid u) (.uuid v)
  | date (c d : Calendar.Date) : SameKind (.date c) (.date d)
  | timestamp (s t : Calendar.Timestamp) : SameKind (.timestamp s) (.timestamp t)
  | timestampUtc (s t : Calendar.Timestamp) : SameKind (.timestampUtc s) (.timestampUtc t)

/-- Changes that differ in the contents of their values only. -/
inductive Change.SameShape : Change → Change → Prop
  | same (c : Change) : SameShape c c
  | whereEq (column : String) {v w : Value} (kind : v.SameKind w) :
      SameShape (.whereEq column v) (.whereEq column w)
  | whereRaw (template : String) {vs ws : List Value} (kinds : List.Forall₂ Value.SameKind vs ws) :
      SameShape (.whereRaw template vs) (.whereRaw template ws)
  | whereIn (column : String) {vs ws : List Value} (kinds : List.Forall₂ Value.SameKind vs ws) :
      SameShape (.whereIn column vs) (.whereIn column ws)
  | insert {p q : Payload} (columns : p.columns = q.columns)
      (kinds : List.Forall₂ Value.SameKind p.values q.values) : SameShape (.insert p) (.insert q)
  | update {p q : Payload} (columns : p.columns = q.columns)
      (kinds : List.Forall₂ Value.SameKind p.values q.values) : SameShape (.update p) (.update q)

/-- Times that each of the layers judges alike: slow in both, or in neither. -/
def Timing.Agree (configs : List Config) (timing timing' : Timing) : Prop :=
  ∀ layer ∈ configs.zipIdx, layer.1.isSlow (timing layer.2) = layer.1.isSlow (timing' layer.2)

/-- Commands of one program in two runs that differ in the contents of bound values, and in times that no
layer tells apart. -/
inductive Command.SameShape (configs : List Config) : Command → Command → Prop
  | change (name : String) {c c' : Change} (shape : c.SameShape c') :
      SameShape configs (.change name (.ok c)) (.change name (.ok c'))
  | unmade (name : String) (e e' : QueryError) :
      SameShape configs (.change name (.error e)) (.change name (.error e'))
  | renew (name : String) : SameShape configs (.renew name) (.renew name)
  | clone (source target : String) : SameShape configs (.clone source target) (.clone source target)
  | compile (name : String) : SameShape configs (.compile name) (.compile name)
  | toSql (name : String) : SameShape configs (.toSql name) (.toSql name)
  | asks {name : String} {ask : Timing → Command} (asks : Command.Asks name ask)
      {timing timing' : Timing} (agree : timing.Agree configs timing') :
      SameShape configs (ask timing) (ask timing')

def Value.masked (v : Value) : Value := .text v.typeName

theorem Value.SameKind.masked_eq {v w : Value} (kind : v.SameKind w) : v.masked = w.masked := by
  cases kind <;> rfl

theorem Value.map_masked_eq {vs ws : List Value} (kinds : List.Forall₂ SameKind vs ws) :
    vs.map masked = ws.map masked := by
  induction kinds with
  | nil => rfl
  | cons kind _ ih => rw [List.map_cons, List.map_cons, kind.masked_eq, ih]

theorem Change.SameShape.mapValues_eq {c c' : Change} (shape : c.SameShape c') :
    c.mapValues Value.masked = c'.mapValues Value.masked := by
  cases shape with
  | same => rfl
  | whereEq column kind => rw [Change.mapValues, Change.mapValues, kind.masked_eq]
  | whereRaw template kinds => rw [Change.mapValues, Change.mapValues, Value.map_masked_eq kinds]
  | whereIn column kinds => rw [Change.mapValues, Change.mapValues, Value.map_masked_eq kinds]
  | insert columns kinds =>
    rw [Change.mapValues, Change.mapValues, Payload.mapValues_eq columns (Value.map_masked_eq kinds)]
  | update columns kinds =>
    rw [Change.mapValues, Change.mapValues, Payload.mapValues_eq columns (Value.map_masked_eq kinds)]

/-- The same text, and parameters of the same kinds. -/
structure Query.SameShape (q r : Query) : Prop where
  sql : q.sql = r.sql
  kinds : q.params.map Value.typeName = r.params.map Value.typeName

theorem Query.SameShape.length_params {q r : Query} (shape : q.SameShape r) :
    q.params.length = r.params.length := by
  rw [← List.length_map Value.typeName, shape.kinds, List.length_map]

theorem Query.SameShape.of_masked {q r : Query}
    (masked : q.mapParams Value.masked = r.mapParams Value.masked) : q.SameShape r := by
  have sql : (q.mapParams Value.masked).sql = (r.mapParams Value.masked).sql := by rw [masked]
  have names : (q.params.map Value.typeName).map Value.text = (r.params.map Value.typeName).map .text := by
    rw [List.map_map, List.map_map]
    exact congrArg Query.params masked
  exact ⟨sql, (List.map_inj_right fun _ _ => Value.text.inj).mp names⟩

namespace Draft

/-- Drafts that differ in the contents of their values only. -/
def SameShape (d d' : Draft) : Prop := d.mapValues Value.masked = d'.mapValues Value.masked

variable {d d' : Draft}

theorem SameShape.kind (shape : d.SameShape d') : d.kind = d'.kind := by
  have kind : (d.mapValues Value.masked).kind = (d'.mapValues Value.masked).kind := by rw [shape]
  exact kind

theorem SameShape.table (shape : d.SameShape d') : d.table = d'.table := by
  have table : (d.mapValues Value.masked).table = (d'.mapValues Value.masked).table := by rw [shape]
  exact table

theorem SameShape.apply (shape : d.SameShape d') {c c' : Change} (changes : c.SameShape c') :
    (d.apply c).SameShape (d'.apply c') := by
  rw [SameShape, mapValues_apply, mapValues_apply, shape, changes.mapValues_eq]

/-- Drafts of one shape fail alike or compile to queries of one shape. -/
theorem SameShape.postgres (shape : d.SameShape d') :
    ResultsAlike Query.SameShape (Compiler.postgres d) (Compiler.postgres d') := by
  have results : (Compiler.postgres d).map (Query.mapParams Value.masked) =
      (Compiler.postgres d').map (Query.mapParams Value.masked) := by
    rw [← Compiler.postgres_mapValues, ← Compiler.postgres_mapValues, shape]
  revert results
  cases Compiler.postgres d with
  | error e =>
    cases Compiler.postgres d' with
    | error e' =>
      intro results
      cases Except.error.inj results
      exact .failed e
    | ok r => exact fun results => nomatch results
  | ok q =>
    cases Compiler.postgres d' with
    | error e => exact fun results => nomatch results
    | ok r => exact fun results => .compiled (.of_masked (Except.ok.inj results))

end Draft

namespace Log

variable {configs : List Config} {q r : Query}

/-- Without the values of parameters, a logging layer shows the shape of a query and no more. -/
theorem Config.opening_eq {c : Config} (hidden : c.showParams = false) (shape : q.SameShape r) :
    c.opening q = c.opening r := by
  simp only [opening, shownParams, hidden, Bool.false_eq_true, ↓reduceIte, shape.sql, shape.kinds,
    shape.length_params]

theorem closings_eq {timing timing' : Timing} (agree : timing.Agree configs timing')
    (shape : q.SameShape r) (answer : Except QueryError (List row)) :
    closings configs timing q answer = closings configs timing' r answer := by
  refine List.map_congr_left fun layer member => ?_
  simp only [Config.closing, shape.sql, agree layer member]

end Log

/-- An executor that logs nothing of its own. -/
def Executor.Silent (base : Executor σ row) : Prop := ∀ timing s q, (base timing s q).events = []

theorem Executor.Silent.recorded {base : Executor σ row} (silent : base.Silent) :
    base.recorded.Silent :=
  fun timing s q => silent timing s.1 q

/-- Layers that show no values around bases that reply alike emit the same events. -/
theorem Executor.events_under_eq {layers : List Layer} {base : Executor σ row}
    {base' : Executor σ' row} {timing timing' : Timing} {state : σ} {state' : σ'} {q r : Query}
    (hidden : ∀ c ∈ Layer.configs layers, c.showParams = false) (silent : base.Silent)
    (silent' : base'.Silent) (agree : timing.Agree (Layer.configs layers) timing')
    (shape : q.SameShape r)
    (replies : (base (timing.inside layers) state q).answer =
      (base' (timing'.inside layers) state' r).answer) :
    (base.under layers timing state q).events = (base'.under layers timing' state' r).events := by
  have openings : (Layer.configs layers).map (·.opening q) = (Layer.configs layers).map (·.opening r) :=
    List.map_congr_left fun c member => Config.opening_eq (hidden c member) shape
  rw [events_under, events_under, silent, silent', openings, replies, closings_eq agree shape]

namespace Session

/-- What a stretch of a run has added: calls at the base, and events. -/
structure Adds (s t : Session (σ × List (Call row))) (calls : List (Call row)) (events : List Event) :
    Prop where
  received : t.received = s.received ++ calls
  events : t.events = s.events ++ events

/-- Stretches of two runs go in step when they add equally many calls, and equal events if the replies to
these calls are equal. -/
def InStep (s t : Session (σ × List (Call row))) (s' t' : Session (σ' × List (Call row))) : Prop :=
  ∃ calls calls' events events', s.Adds t calls events ∧ s'.Adds t' calls' events' ∧
    calls.length = calls'.length ∧ (calls.map Call.reply = calls'.map Call.reply → events = events')

theorem Adds.trans {s t u : Session (σ × List (Call row))} {calls later : List (Call row)}
    {events more : List Event} (first : s.Adds t calls events) (second : t.Adds u later more) :
    s.Adds u (calls ++ later) (events ++ more) :=
  ⟨by rw [second.received, first.received, List.append_assoc],
    by rw [second.events, first.events, List.append_assoc]⟩

theorem InStep.trans {s t u : Session (σ × List (Call row))} {s' t' u' : Session (σ' × List (Call row))}
    (first : s.InStep t s' t') (second : t.InStep u t' u') : s.InStep u s' u' := by
  obtain ⟨calls, calls', events, events', adds, adds', count, same⟩ := first
  obtain ⟨later, later', more, more', moreAdds, moreAdds', moreCount, moreSame⟩ := second
  refine ⟨_, _, _, _, adds.trans moreAdds, adds'.trans moreAdds', ?_, fun replies => ?_⟩
  · rw [List.length_append, List.length_append, count, moreCount]
  · rw [List.map_append, List.map_append] at replies
    obtain ⟨early, late⟩ := List.append_inj replies (by rw [List.length_map, List.length_map, count])
    rw [same early, moreSame late]

theorem InStep.of_events {s t : Session (σ × List (Call row))} {s' t' : Session (σ' × List (Call row))}
    {events : List Event} (adds : s.Adds t [] events) (adds' : s'.Adds t' [] events) :
    s.InStep t s' t' :=
  ⟨[], [], events, events, adds, adds', rfl, fun _ => rfl⟩

theorem adds_nothing {s t : Session (σ × List (Call row))} (state : t.state = s.state)
    (events : t.events = s.events) : s.Adds t [] [] :=
  ⟨by rw [received, state, List.append_nil, received], by rw [events, List.append_nil]⟩

theorem adds_emit (s : Session (σ × List (Call row))) (events : List Event) :
    s.Adds (s.emit events) [] events :=
  ⟨(List.append_nil _).symm, rfl⟩

def SameShape (s : Session σ) (s' : Session σ') : Prop :=
  ∀ name, (s.drafts name).SameShape (s'.drafts name)

theorem SameShape.setDraft {s : Session σ} {s' : Session σ'} (shape : s.SameShape s') {d d' : Draft}
    (drafts : d.SameShape d') (name : String) : (s.setDraft name d).SameShape (s'.setDraft name d') := by
  intro other
  by_cases same : other = name
  · simpa only [Session.setDraft, if_pos same] using drafts
  · simpa only [Session.setDraft, if_neg same] using shape other

end Session

namespace Service

open Session

variable {layers : List Layer} {base : Executor σ row} {base' : Executor σ' row}
  {s : Session (σ × List (Call row))} {s' : Session (σ' × List (Call row))} {d d' : Draft}

theorem compileEvent_eq (shape : d.SameShape d') {result result' : Except QueryError Query}
    (alike : ResultsAlike Query.SameShape result result') :
    compileEvent d result = compileEvent d' result' := by
  cases alike with
  | failed e => rw [compileEvent, compileEvent, shape.kind, shape.table]
  | compiled alike =>
    rw [compileEvent, compileEvent, shape.kind, shape.table, alike.length_params]

theorem execute_inStep {timing timing' : Timing}
    (hidden : ∀ c ∈ Layer.configs layers, c.showParams = false) (silent : base.Silent)
    (silent' : base'.Silent) (shape : d.SameShape d')
    (agree : timing.Agree (Layer.configs layers) timing') :
    s.InStep (s.after ((recording Compiler.postgres base layers).execute d timing s.state))
      s' (s'.after ((recording Compiler.postgres base' layers).execute d' timing' s'.state)) := by
  have alike := shape.postgres
  generalize left : Compiler.postgres d = result at alike
  generalize right : Compiler.postgres d' = result' at alike
  have event := compileEvent_eq shape alike
  cases alike with
  | failed e =>
    rw [recording, recording, execute_of_error left, execute_of_error right]
    have first : s.Adds (s.emit [compileEvent d (.error e)]) [] [compileEvent d (.error e)] :=
      s.adds_emit _
    have second : s'.Adds (s'.emit [compileEvent d' (.error e)]) [] [compileEvent d (.error e)] := by
      rw [event]
      exact s'.adds_emit _
    exact .of_events first second
  | @compiled q r alike =>
    have outcome := base.recorded.outcome_under layers timing s.state q
    have outcome' := base'.recorded.outcome_under layers timing' s'.state r
    rw [recording, recording, execute_of_ok left, execute_of_ok right]
    refine ⟨[⟨q, _⟩], [⟨r, _⟩], _, _, ⟨congrArg Prod.snd outcome.2, rfl⟩,
      ⟨congrArg Prod.snd outcome'.2, rfl⟩, rfl, fun replies => ?_⟩
    have events : (base.recorded.under layers timing s.state q).events =
        (base'.recorded.under layers timing' s'.state r).events :=
      Executor.events_under_eq hidden silent.recorded silent'.recorded agree alike
        (List.cons.inj replies).1
    simp only [events, shape.kind, shape.table, alike.length_params]

theorem run_inStep (hidden : ∀ c ∈ Layer.configs layers, c.showParams = false) (silent : base.Silent)
    (silent' : base'.Silent) (shape : s.SameShape s') {c c' : Command}
    (commands : c.SameShape (Layer.configs layers) c') :
    let next := (s.run (recording Compiler.postgres base layers) c).1
    let next' := (s'.run (recording Compiler.postgres base' layers) c').1
    s.InStep next s' next' ∧ next.SameShape next' := by
  have compiled (name : String) :
      s.InStep (s.emit [compileEvent (s.drafts name) (Compiler.postgres (s.drafts name))]) s'
        (s'.emit [compileEvent (s'.drafts name) (Compiler.postgres (s'.drafts name))]) := by
    rw [compileEvent_eq (shape name) (shape name).postgres]
    exact .of_events (s.adds_emit _) (s'.adds_emit _)
  cases commands with
  | change name changes =>
    exact ⟨.of_events (adds_nothing rfl rfl) (adds_nothing rfl rfl),
      shape.setDraft ((shape name).apply changes) name⟩
  | unmade name e e' => exact ⟨.of_events (adds_nothing rfl rfl) (adds_nothing rfl rfl), shape⟩
  | renew name =>
    exact ⟨.of_events (adds_nothing rfl rfl) (adds_nothing rfl rfl), shape.setDraft rfl name⟩
  | clone source target =>
    exact ⟨.of_events (adds_nothing rfl rfl) (adds_nothing rfl rfl),
      shape.setDraft (shape source) target⟩
  | compile name => exact ⟨compiled name, shape⟩
  | toSql name => exact ⟨compiled name, shape⟩
  | @asks name ask asks timing timing' agree =>
    obtain ⟨success, run⟩ := asks.run_eq row
    simp only [run]
    exact ⟨execute_inStep hidden silent silent' (shape name) agree, shape⟩

theorem runAll_inStep (hidden : ∀ c ∈ Layer.configs layers, c.showParams = false)
    (silent : base.Silent) (silent' : base'.Silent) {program program' : List Command}
    (programs : List.Forall₂ (Command.SameShape (Layer.configs layers)) program program')
    (shape : s.SameShape s') :
    s.InStep (s.runAll (recording Compiler.postgres base layers) program).1
      s' (s'.runAll (recording Compiler.postgres base' layers) program').1 := by
  induction programs generalizing s s' with
  | nil => exact .of_events (adds_nothing rfl rfl) (adds_nothing rfl rfl)
  | cons first _ ih =>
    obtain ⟨step, next⟩ := run_inStep hidden silent silent' shape first
    exact step.trans (ih next)

/-- Without the values of parameters in any layer, the events of a program do not tell what its values
hold. Two runs whose values are of the same kinds place by place emit the same events, when the replies of
the base are equal and no layer judges the times differently. -/
theorem logs_hide_contents (hidden : ∀ c ∈ Layer.configs layers, c.showParams = false)
    (silent : base.Silent) (silent' : base'.Silent) {program program' : List Command}
    (programs : List.Forall₂ (Command.SameShape (Layer.configs layers)) program program')
    (start : σ) (start' : σ') :
    let run := ((Session.recorded start).runAll (recording Compiler.postgres base layers) program).1
    let run' := ((Session.recorded start').runAll (recording Compiler.postgres base' layers) program').1
    run.received.map Call.reply = run'.received.map Call.reply → run.events = run'.events := by
  intro run run' replies
  let first : Session (σ × List (Call row)) := .recorded start
  let first' : Session (σ' × List (Call row)) := .recorded start'
  have fresh : first.SameShape first' := fun _ => rfl
  obtain ⟨calls, calls', events, events', adds, adds', -, same⟩ :=
    runAll_inStep hidden silent silent' programs fresh
  rw [show run.received = calls from adds.received,
    show run'.received = calls' from adds'.received] at replies
  rw [show run.events = events from adds.events, show run'.events = events' from adds'.events]
  exact same replies

theorem logs_hide_contents_of_token :
    let layers : List Layer :=
      [.logging {}, .transparent, .logging { level := .info, slowThreshold := some 3 }]
    let base : Executor (Recorder Unit) Unit := Recorder.executor
    let start : Recorder Unit := ⟨[.ok [()], .error (.other "gone")], []⟩
    let program (token : String) (id : Int32) : List Command := [.change "p" (.ok (.table "t")),
      .change "p" (.ok (.whereEq "token" (.text token))), .change "p" (.ok (.whereIn "id" [.int id, .null])),
      .execute "p" fun _ => 4, .change "p" (.ok (.update (.ofWrites [("token", .text token)]))),
      .fetchFirst "p" fun _ => 0, .change "p" (.ok (.whereRaw "x" [.int id])), .execute "p" fun _ => 0]
    let run := ((Session.recorded start).runAll (recording Compiler.postgres base layers)
      (program "open sesame" 7)).1
    let run' := ((Session.recorded start).runAll (recording Compiler.postgres base layers)
      (program "?" (-1))).1
    (∀ c ∈ Layer.configs layers, c.showParams = false) ∧ base.Silent ∧
      List.Forall₂ (Command.SameShape (Layer.configs layers)) (program "open sesame" 7) (program "?" (-1)) ∧
      run.received.map Call.reply = run'.received.map Call.reply ∧ run.events.length = 13 ∧
      run.events = run'.events := by
  intro layers base start program run run'
  have hidden : ∀ c ∈ Layer.configs layers, c.showParams = false := by
    simp [layers, Layer.configs, Layer.config?]
  have silent : base.Silent := fun _ _ _ => rfl
  have times (timing : Timing) : timing.Agree (Layer.configs layers) timing := fun _ _ => rfl
  have programs : List.Forall₂ (Command.SameShape (Layer.configs layers)) (program "open sesame" 7)
      (program "?" (-1)) := by
    refine .cons (.change _ (.same _)) (.cons (.change _ (.whereEq _ (.text _ _)))
      (.cons (.change _ (.whereIn _ (.cons (.int _ _) (.cons .null .nil)))) (.cons (.asks .execute (times _))
      (.cons (.change _ (.update ?_ ?_)) (.cons (.asks .fetchFirst (times _))
      (.cons (.change _ (.whereRaw _ (.cons (.int _ _) .nil))) (.cons (.asks .execute (times _)) .nil)))))))
    · rfl
    · exact .cons (.text _ _) .nil
  exact ⟨hidden, silent, programs, rfl, rfl,
    logs_hide_contents hidden silent silent programs start start rfl⟩

end Service

end BoundSql
