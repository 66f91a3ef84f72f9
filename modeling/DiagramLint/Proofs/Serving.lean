/-
  The service and the engine.

  What the service answers to a form is what the engine answers to the submission in it.  The checks
  of a form are at least as strict as those of the engine, so that an edit that passes the former
  passes the latter.  Two things come between: a body whose value is not read has no form, and a
  response that shows a surrogate that stands alone is not sent.

  * `effective camel snake ms`: the value of a field in an object, of the two names the first one that
    is there;
  * `AsksLine v line`: such a value asks for the line of an edit;
  * `asked ms rd`: the submission that an object holds, in one of its readings;
  * `Sends e path b ms r es`: a request is answered by the response `r` of its readings, unless that
    shows a surrogate.

  `realtimeRequest_eq_ok_iff`: the edits that forms describe.  `toExcept_checkEdit`: the engine takes
  every edit that is described.  `service_sends_answers`: what the service answers, after whatever
  commands.
-/
import DiagramLint.Proofs.Bodies
import DiagramLint.Proofs.Fields
import DiagramLint.Proofs.Independence
import DiagramLint.Proofs.Readings

namespace DiagramLint

open Text

/-! ## Integers in a value -/

theorem toNat_lt_of_isNumeral {c : Char} (h : isNumeral c = true) : c.toNat < 0xF0000 := by
  simp only [isNumeral, Bool.or_eq_true] at h
  rcases h with (h | h) | h
  · have hd := (Bool.and_eq_true_iff.1 h).2
    have hn : c.toNat ≤ 57 := show c.val ≤ 57 by simpa using hd
    omega
  · simp only [List.contains_iff_mem, List.mem_cons, List.not_mem_nil, or_false] at h
    rcases h with rfl | rfl | rfl | rfl <;> decide
  · have hb := (Bool.and_eq_true_iff.1 h).1
    obtain ⟨r, hr, hc⟩ := Text.inRanges_iff.1 hb
    have table : ∀ r ∈ Text.blankRanges, r.2 < 0xF0000 := by decide
    have := table r hr
    omega

theorem isChar_of_integerOfText {rd : Reading} {cs : Codes} {n : Int}
    (h : integerOfText (rd.text cs) = .ok n) : ∀ c ∈ cs, c.isChar = true := by
  intro c hc
  cases c with
  | char => rfl
  | lone s =>
    have hm : rd.char (.lone s) ∈ (rd.text cs).toList := by
      rw [Reading.text, String.toList_ofList]
      exact List.mem_map_of_mem hc
    have hlt := toNat_lt_of_isNumeral (isNumeral_of_integerOfText h _ hm)
    exact absurd (rd.toNat_char_lone_ge s) (Nat.not_le.2 hlt)

/-- **An integer is read alike**: no surrogate stands for a numeral. -/
theorem integerOf_json_iff {rd : Reading} {v : Json Codes} {n : Int} :
    integerOf (rd.json v) = .ok n ↔ integerOf (Reading.first.json v) = .ok n := by
  cases v with
  | str cs =>
    show integerOfText (rd.text cs) = .ok n ↔ integerOfText (Reading.first.text cs) = .ok n
    constructor
    · intro h
      rwa [← rd.text_of_isChar (isChar_of_integerOfText h)]
    · intro h
      rwa [rd.text_of_isChar (isChar_of_integerOfText h)]
  | null | bool | num => exact Iff.rfl
  | arr vs => simp [Reading.json_arr, integerOf]
  | obj ms => simp [Reading.json_obj, integerOf]

/-! ## Readings of a value -/

namespace Reading

variable {rd : Reading} {v : Json Codes}

theorem json_eq_null_iff : rd.json v = .null ↔ v = .null := by
  cases v <;> simp [json, Json.mapText]

/-- Only a text itself is read as a text without stand-ins. -/
theorem json_eq_str_iff {name : String} (h : Spares name) :
    rd.json v = .str name ↔ v = .str (Code.ofText name) := by
  cases v with
  | str cs =>
    have ht := rd.text_eq_text_ofText_iff h cs
    rw [rd.text_ofText] at ht
    simp [json, Json.mapText, ht]
  | null | bool | num | arr | obj => simp [json, Json.mapText]

end Reading

/-! ## Fields of an object -/

/-- The value of a field in an object.  Of its two names the first one counts if it is there, be its
    value null. -/
def effective (camel snake : String) (ms : List (Codes × Json Codes)) : Option (Json Codes) :=
  (Json.lookup (Code.ofText camel) ms).or (Json.lookup (Code.ofText snake) ms)

/-- The value of a field asks for the line of an edit: for none, or for one that it writes. -/
inductive AsksLine : Option (Json Codes) → Option Int → Prop
  | absent : AsksLine none none
  | null : AsksLine (some .null) none
  | number {v n} : integerOf (Reading.first.json v) = .ok n → 1 ≤ n → AsksLine (some v) (some n)

namespace FieldName

variable {α : Type} {check : List String → Json → Checked α} {ms : List (Codes × Json Codes)}
variable {rd : Reading} {a : α} {n : FieldName}

theorem map_given? (hc : Reading.Spares n.camel) (hs : Reading.Spares n.snake) (rd : Reading)
    (ms : List (Codes × Json Codes)) : (n.given? (.obj (rd.members ms))).map (·.2) =
      (effective n.camel n.snake ms).map rd.json := by
  have hm : ∀ name, (Json.obj (rd.members ms)).member? name = Json.lookup name (rd.members ms) :=
    fun _ => rfl
  rw [given?, hm, hm, rd.lookup_members hc, rd.lookup_members hs, effective]
  cases Json.lookup (Code.ofText n.camel) ms with
  | some v => rfl
  | none => cases Json.lookup (Code.ofText n.snake) ms <;> rfl

theorem required_eq_ok_iff (hc : Reading.Spares n.camel) (hs : Reading.Spares n.snake)
    {P : Json Codes → Prop} (h : ∀ path v, check path (rd.json v) = .ok a ↔ P v) :
    n.required (.obj (rd.members ms)) check = .ok a ↔
      ∃ v, effective n.camel n.snake ms = some v ∧ P v := by
  have hg := n.map_given? hc hs rd ms
  rw [required]
  cases hn : n.given? (.obj (rd.members ms)) with
  | none =>
    rw [hn] at hg
    simp [Option.map_eq_none_iff.1 hg.symm, Checked.fail]
  | some p =>
    rw [hn] at hg
    obtain ⟨v, hv, hp⟩ := Option.map_eq_some_iff.1 hg.symm
    simp only [hv, ← hp, h, Option.some.injEq, exists_eq_left']

/-- The field of an edit for its line gives what it asks for. -/
theorem optional_eq_ok_iff (hc : Reading.Spares n.camel) (hs : Reading.Spares n.snake)
    {line : Option Int} :
    n.optional (.obj (rd.members ms)) (Checked.integerFrom 1) = .ok line ↔
      AsksLine (effective n.camel n.snake ms) line := by
  have hg := n.map_given? hc hs rd ms
  rw [optional, withDefault]
  cases hn : n.given? (.obj (rd.members ms)) with
  | none =>
    rw [hn] at hg
    rw [Option.map_eq_none_iff.1 hg.symm]
    constructor
    · rintro ⟨⟩
      exact .absent
    · rintro ⟨⟩
      rfl
  | some p =>
    rw [hn] at hg
    obtain ⟨v, hv, hp⟩ := Option.map_eq_some_iff.1 hg.symm
    simp only [hv, ← hp, Checked.orNull_eq_ok_iff, Checked.integerFrom_eq_ok_iff,
      Reading.json_eq_null_iff, integerOf_json_iff]
    constructor
    · rintro (⟨rfl, rfl⟩ | ⟨-, k, ⟨hk, hpos⟩, rfl⟩)
      · exact .null
      · exact .number hk hpos
    · intro h
      cases h with
      | null => exact .inl ⟨rfl, rfl⟩
      | number hk hpos =>
        refine .inr ⟨?_, _, ⟨hk, hpos⟩, rfl⟩
        intro hnull
        rw [Reading.json_eq_null_iff.1 hnull] at hk
        cases hk

end FieldName

theorem AsksLine.one_le {v : Option (Json Codes)} {line : Option Int} (h : AsksLine v line) :
    ∀ n ∈ line, 1 ≤ n := by
  rintro n hn
  cases h with
  | absent | null => cases hn
  | number _ hpos =>
    cases hn
    exact hpos

/-- The engine takes every edit with a change and, if one is given, a positive line. -/
theorem toExcept_checkEdit (change : ChangeType) {line : Option Int} (h : ∀ n ∈ line, 1 ≤ n) :
    (checkEdit (.str change.name) (.ofInt? line)).toExcept = .ok (change, line) := by
  have hc : Checked.change ["change_type"] (.str change.name) = .ok change :=
    Checked.change_eq_ok_iff.2 rfl
  have hl : (if (Json.ofInt? line).isVoid then .ok none
      else (Checked.integer ["line_number"] (.ofInt? line)).map some) = Checked.ok line := by
    cases line with
    | none => rfl
    | some n =>
      have hn := h n rfl
      have hvoid : (Json.ofInt? (some n)).isVoid = false := by
        show (Json.num (.int n)).isVoid = false
        unfold Json.isVoid
        split <;> simp_all
      rw [hvoid]
      rfl
  rw [checkEdit, hc, hl]
  rfl

namespace Http

variable {e : Engine} {b : String} {ms : List (Codes × Json Codes)} {rd : Reading}

/-! ## What a form asks for -/

/-- The submission that an object holds, in a reading. -/
def asked (ms : List (Codes × Json Codes)) (rd : Reading) : Submission :=
  .ofJson (rd.json ((effective "diagramCode" "diagram_code" ms).getD .null))

theorem submission_obj (rd : Reading) (ms : List (Codes × Json Codes)) :
    submission (.obj (rd.members ms)) = asked ms rd := by
  rw [submission, diagramCode.map_given? (by decide) (by decide), asked]
  show Submission.ofJson (((effective "diagramCode" "diagram_code" ms).map rd.json).getD .null) = _
  cases effective "diagramCode" "diagram_code" ms <;> rfl

/-- Whole members are read alike. -/
theorem asked_of_hasWholeMembers (h : Json.HasWholeMembers ms) (rd : Reading) :
    asked ms rd = asked ms .first := by
  have hms : rd.members ms = Reading.first.members ms := rd.members_of_hasWholeMembers ms h
  rw [← submission_obj rd ms, hms, submission_obj]

theorem batchRequest_obj {items : List (Json Codes)}
    (h : Json.lookup (Code.ofText "diagrams") ms = some (.arr items)) :
    batchRequest (.obj (rd.members ms)) = .ok (items.map fun v => .ofJson (rd.json v)) := by
  have hr : diagrams.required (.obj (rd.members ms)) Checked.list = .ok (items.map rd.json) := by
    refine (FieldName.required_eq_ok_iff (P := (rd.json · = .arr (items.map rd.json))) (by decide)
      (by decide) fun _ _ => Checked.list_eq_ok_iff).2 ⟨_, ?_, rd.json_arr items⟩
    simp [effective, diagrams, FieldName.single, h]
  rw [batchRequest, hr]
  simp [Checked.map]

theorem submissions_of_hasWholeMembers {items : List (Json Codes)} (h : Json.HasWholeMembers ms)
    (hd : Json.lookup (Code.ofText "diagrams") ms = some (.arr items)) (rd : Reading) :
    (items.map fun v => Submission.ofJson (rd.json v)) =
      items.map fun v => .ofJson (Reading.first.json v) := by
  have hms : rd.members ms = Reading.first.members ms := rd.members_of_hasWholeMembers ms h
  have hr : batchRequest (.obj (rd.members ms)) = _ := batchRequest_obj hd
  rw [hms, batchRequest_obj hd] at hr
  exact (Checked.ok.inj hr).symm

/-- **The edits that forms describe**: the change is one of the four, and the line is null or
    positive. -/
theorem realtimeRequest_eq_ok_iff {r : RealtimeRequest} :
    realtimeRequest (.obj (rd.members ms)) = .ok r ↔ r.code = asked ms rd ∧
      effective "changeType" "change_type" ms = some (.str (Code.ofText r.change.name)) ∧
      AsksLine (effective "lineNumber" "line_number" ms) r.line := by
  have hname : ∀ c : ChangeType, Reading.Spares c.name := by
    intro c
    cases c <;> decide
  have hc : ∀ c, FieldName.changeType.required (.obj (rd.members ms)) Checked.change = .ok c ↔
      effective "changeType" "change_type" ms = some (.str (Code.ofText c.name)) := by
    intro c
    refine (FieldName.required_eq_ok_iff (P := (· = .str (Code.ofText c.name))) (by decide)
      (by decide) fun _ _ => Checked.change_eq_ok_iff.trans
        (Reading.json_eq_str_iff (hname c))).trans ?_
    simp [FieldName.changeType]
  have hl : ∀ line, FieldName.lineNumber.optional (.obj (rd.members ms)) (Checked.integerFrom 1) =
      .ok line ↔ AsksLine (effective "lineNumber" "line_number" ms) line := fun _ =>
    FieldName.optional_eq_ok_iff (by decide) (by decide)
  obtain ⟨code, change, line⟩ := r
  simp only [realtimeRequest, Checked.map_eq, Checked.seq_eq, Checked.map_seq_eq_ok_iff, hc, hl,
    submission_obj, RealtimeRequest.mk.injEq]
  constructor
  · rintro ⟨_, _, hchange, hline, rfl, rfl, rfl⟩
    exact ⟨rfl, hchange, hline⟩
  · rintro ⟨rfl, hchange, hline⟩
    exact ⟨_, _, hchange, hline, rfl, rfl, rfl⟩

/-! ## Sending -/

/-- What a success or a rejection writes is its body. -/
theorem sent_eq_of_firstRun?_eq_none {r : Reading → Response} (hs : (r .first).shown = [])
    (h : firstRun? r = none) : sent r = r .first := by
  rw [sent, hs, List.all_nil, if_pos rfl, h]

theorem sent_eq_of_firstRun?_eq_some {r : Reading → Response} {run : Text.Run}
    (hs : (r .first).shown = []) (h : firstRun? r = some run) :
    sent r = rejection (unencodable (r .first).status run) := by
  rw [sent, hs, List.all_nil, if_pos rfl, h]

/-- What the readings agree on shows no surrogate. -/
theorem firstRun?_eq_none {r : Reading → Response} (h : r .second = r .first) :
    firstRun? r = none := by
  rw [firstRun?, h, Json.firstRun?_self]

theorem sent_const (r : Response) (hs : r.shown = []) : sent (fun _ => r) = r :=
  sent_eq_of_firstRun?_eq_none hs (firstRun?_eq_none rfl)

theorem shown_conveyed {α : Type} (write : α → Json) (x : Except OverlongNumber α) :
    (conveyed write x).shown = [] := by
  cases x <;> rfl

theorem shown_conveyedEdit {x : Except EditError RealtimeDiagnostic}
    (h : ∀ es, x ≠ .error (.fields es)) : (conveyedEdit x).shown = [] := by
  cases x with
  | ok => rfl
  | error err =>
    cases err with
    | overlong | unwritable => rfl
    | fields es => exact absurd rfl (h es)

/-! ## What the service answers -/

/-- A request to a route with its method is answered by the route. -/
theorem serve_path (e : Engine) (r : Route) (b : String) :
    serve e ⟨r.method, r.path, b⟩ = answer e r b := by
  simp [serve, destination_path]

/-- A body whose value is not read is told so, whatever the form. -/
theorem serve_of_unreadable {r : Route} (hr : r.method = "POST")
    (hb : bodyValue b = .error .unreadable) :
    serve e ⟨"POST", r.path, b⟩ = ⟨remark 400 "There was an error parsing the body", []⟩ := by
  have hf : ∀ rd, bodyForm rd b = .error .unreadable := by
    intro rd
    rw [bodyForm, hb]
    rfl
  have ha : ∀ rd, answerReading e r b rd =
      ⟨remark 400 "There was an error parsing the body", []⟩ := by
    intro rd
    cases r with
    | root | health | info => exact absurd hr (by decide)
    | validate | batch | realtime =>
      simp only [answerReading, hf]
      rfl
  rw [← hr, serve_path, answer]
  simp only [ha]
  rw [sent_const _ rfl]

theorem bodyForm_obj (hb : bodyValue b = .ok (.obj ms)) (rd : Reading) :
    bodyForm rd b = .ok (.obj (rd.members ms)) := by
  rw [bodyForm, hb]
  rfl

theorem after_map {α β : Type} (f : α → β) (es : List Event) (t : Traced α) :
    (t.map f).after es = ⟨f t.value, es ++ t.events⟩ := rfl

theorem answerChecked_ok {α : Type} (a : α) (f : α → Traced Response) :
    answerChecked (.ok a) f = f a := rfl

theorem serve_validate (hb : bodyValue b = .ok (.obj ms)) :
    serve e ⟨"POST", "/api/v1/validate", b⟩ =
      ⟨sent fun rd => conveyed validationBody (e.validate (asked ms rd)).value,
        .validateRequested (asked ms .first).chars :: (e.validate (asked ms .first)).events⟩ := by
  refine (serve_path e .validate b).trans ?_
  simp only [answer, answerReading, bodyForm_obj hb, serveValidate, submission_obj, after_map,
    List.cons_append, List.nil_append]

theorem serve_batch {items : List (Json Codes)} (hb : bodyValue b = .ok (.obj ms))
    (hd : Json.lookup (Code.ofText "diagrams") ms = some (.arr items)) (hl : items.length ≤ 100) :
    serve e ⟨"POST", "/api/v1/validate/batch", b⟩ =
      ⟨sent fun rd => conveyed batchBody
          (e.validateBatch (items.map fun v => .ofJson (rd.json v))).value,
        .batchRequested items.length ::
          (e.validateBatch (items.map fun v => .ofJson (Reading.first.json v))).events⟩ := by
  refine (serve_path e .batch b).trans ?_
  have hmax : ¬ items.length > maxBatchSize := by
    rw [maxBatchSize]
    omega
  simp only [answer, answerReading, bodyForm_obj hb, batchRequest_obj hd, answerChecked_ok,
    serveBatch, List.length_map, if_neg hmax, after_map, List.cons_append, List.nil_append]

/-- A batch that is too large is refused, whatever the engine. -/
theorem serve_batch_of_lt {items : List (Json Codes)} (hb : bodyValue b = .ok (.obj ms))
    (hd : Json.lookup (Code.ofText "diagrams") ms = some (.arr items)) (hl : 100 < items.length) :
    serve e ⟨"POST", "/api/v1/validate/batch", b⟩ =
      ⟨rejection ("Batch of " ++ toString items.length ++ " diagrams exceeds the limit of 100"),
        []⟩ := by
  refine (serve_path e .batch b).trans ?_
  have hmax : items.length > maxBatchSize := by
    rw [maxBatchSize]
    omega
  simp only [answer, answerReading, bodyForm_obj hb, batchRequest_obj hd, answerChecked_ok,
    serveBatch, List.length_map, if_pos hmax]
  rw [sent_const _ rfl, String.append_assoc]
  rfl

/-- An edit that is described fails only as its validation does, or for its line. -/
theorem value_validateRealtime_ne_fields (code : Submission) (change : ChangeType)
    {line : Option Int} (h : ∀ n ∈ line, 1 ≤ n) (es : List FieldError) :
    (e.validateRealtime code change.name (.ofInt? line)).value ≠ .error (.fields es) := by
  rw [Engine.validateRealtime, Traced.value_map, toExcept_checkEdit change h]
  cases (e.validate code).value with
  | error o => simp
  | ok d => cases hw : d.hasUnwritableLine code.lineCount <;> simp [hw]

theorem serve_realtime {change : ChangeType} {line : Option Int}
    (hb : bodyValue b = .ok (.obj ms))
    (hr : ∀ rd, realtimeRequest (.obj (rd.members ms)) = .ok ⟨asked ms rd, change, line⟩) :
    serve e ⟨"POST", "/api/v1/validate/realtime", b⟩ =
      ⟨sent fun rd => conveyedEdit
          (e.validateRealtime (asked ms rd) change.name (.ofInt? line)).value,
        .realtimeRequested change line ::
          (e.validateRealtime (asked ms .first) change.name (.ofInt? line)).events⟩ := by
  refine (serve_path e .realtime b).trans ?_
  simp only [answer, answerReading, bodyForm_obj hb, hr, answerChecked_ok, serveRealtime, after_map,
    List.cons_append, List.nil_append]

end Http

/-! ## Requests in a session -/

/-- The line can be written. -/
def Diagnostic.HasShortLine (d : Diagnostic) : Prop := ∀ n ∈ d.line, isUnwritable n.val = false

namespace Engine

variable {e : Engine} {path b : String} {ms : List (Codes × Json Codes)}

/-- What a request does to a session: the engine stays as it is, and the response comes behind the
    events. -/
def responds (e : Engine) (r : Http.Response) (es : List Event) :
    Engine × Traced (Except CommandError Reply) := (e, ⟨.ok (.response r), es⟩)

/-- How a request with an object in its body is answered: by the response that its readings call for,
    if that shows no surrogate that stands alone, and so in any case if the object holds none.  If
    it shows one, a rejection is sent in its place. -/
def Sends (e : Engine) (path b : String) (ms : List (Codes × Json Codes))
    (r : Reading → Http.Response) (es : List Event) : Prop :=
  (Json.HasWholeMembers ms → e.step (.http ⟨"POST", path, b⟩) = e.responds (r .first) es) ∧
  (Http.firstRun? r = none → e.step (.http ⟨"POST", path, b⟩) = e.responds (r .first) es) ∧
  (Http.firstRun? r ≠ none →
    ∃ message, e.step (.http ⟨"POST", path, b⟩) = e.responds (Http.rejection message) es)

theorem step_http {req : Http.Request} {r : Http.Response} {es : List Event}
    (h : Http.serve e req = ⟨r, es⟩) : e.step (.http req) = e.responds r es := by
  rw [step, h]
  rfl

theorem sends_of_serve {r : Reading → Http.Response} {es : List Event}
    (h : Http.serve e ⟨"POST", path, b⟩ = ⟨Http.sent r, es⟩) (hs : (r .first).shown = [])
    (hw : Json.HasWholeMembers ms → r .second = r .first) : e.Sends path b ms r es := by
  have hnone : Http.firstRun? r = none →
      e.step (.http ⟨"POST", path, b⟩) = e.responds (r .first) es := by
    intro hn
    rw [step_http h, Http.sent_eq_of_firstRun?_eq_none hs hn]
  refine ⟨fun hwhole => hnone (Http.firstRun?_eq_none (hw hwhole)), hnone, fun hne => ?_⟩
  obtain ⟨run, hrun⟩ := Option.ne_none_iff_exists'.1 hne
  exact ⟨_, by rw [step_http h, Http.sent_eq_of_firstRun?_eq_some hs hrun]⟩

/-! ### Submissions, batches and edits -/

theorem sends_validate (hb : Http.bodyValue b = .ok (.obj ms)) :
    e.Sends "/api/v1/validate" b ms
      (fun rd => Http.conveyed Http.validationBody (e.validate (Http.asked ms rd)).value)
      (.validateRequested (Http.asked ms .first).chars ::
        (e.validate (Http.asked ms .first)).events) := by
  refine sends_of_serve (Http.serve_validate hb) (Http.shown_conveyed _ _) fun hw => ?_
  rw [Http.asked_of_hasWholeMembers hw]

theorem sends_batch {items : List (Json Codes)} (hb : Http.bodyValue b = .ok (.obj ms))
    (hd : Json.lookup (Code.ofText "diagrams") ms = some (.arr items)) (hl : items.length ≤ 100) :
    e.Sends "/api/v1/validate/batch" b ms
      (fun rd => Http.conveyed Http.batchBody
        (e.validateBatch (items.map fun v => .ofJson (rd.json v))).value)
      (.batchRequested items.length ::
        (e.validateBatch (items.map fun v => .ofJson (Reading.first.json v))).events) := by
  refine sends_of_serve (Http.serve_batch hb hd hl) (Http.shown_conveyed _ _) fun hw => ?_
  rw [Http.submissions_of_hasWholeMembers hw hd]

theorem sends_realtime {change : ChangeType} {line : Option Int}
    (hb : Http.bodyValue b = .ok (.obj ms)) (hline : ∀ n ∈ line, 1 ≤ n)
    (hr : ∀ rd : Reading, Http.realtimeRequest (.obj (rd.members ms)) =
      .ok ⟨Http.asked ms rd, change, line⟩) :
    e.Sends "/api/v1/validate/realtime" b ms
      (fun rd => Http.conveyedEdit
        (e.validateRealtime (Http.asked ms rd) change.name (.ofInt? line)).value)
      (.realtimeRequested change line ::
        (e.validateRealtime (Http.asked ms .first) change.name (.ofInt? line)).events) := by
  have hfields := Http.value_validateRealtime_ne_fields (e := e) (Http.asked ms .first) change hline
  refine sends_of_serve (Http.serve_realtime hb hr) (Http.shown_conveyedEdit hfields) fun hw => ?_
  rw [Http.asked_of_hasWholeMembers hw]

/-- Where the validator for the dialect is the usual one, an answer shows the surrogates in the stray
    line that it names, and no others. -/
theorem firstRun?_validate_eq_none_iff {text : Codes}
    (htext : effective "diagramCode" "diagram_code" ms = some (.str text))
    (hfind : e.registry.find? (detect (lines (Reading.first.text text))) =
      standard.registry.find? (detect (lines (Reading.first.text text)))) :
    Http.firstRun? (fun rd => Http.conveyed Http.validationBody
        (e.validate (Http.asked ms rd)).value) = none ↔
      ∀ d n l, (e.validate (Http.asked ms .first)).value = .ok d → d.kind = some .badSyntax →
        d.line = some n → (codeLines text)[n.val - 1]? = some l → ∀ c ∈ l, c.isChar = true := by
  have hasked : ∀ rd, Http.asked ms rd = .text (rd.text text) := by
    intro rd
    rw [Http.asked, htext]
    rfl
  have hvalidate : ∀ rd,
      e.validate (Http.asked ms rd) = standard.validate (.text (rd.text text)) := by
    intro rd
    have hdetect : detect (lines (rd.text text)) = detect (lines (Reading.first.text text)) := by
      rw [lines_text, lines_text, detect_chars]
    rw [hasked]
    refine validate_congr (.inr ?_)
    show e.registry.find? (detect (lines (rd.text text))) =
      standard.registry.find? (detect (lines (rd.text text)))
    rw [hdetect, hfind]
  simp only [hvalidate]
  exact standard_firstRun?_eq_none_iff text

/-- **The service answers as the engine does**, after whatever commands, with two exceptions.  A body
    whose value is not read, as when an integer has too many digits, is told so.  And a response that
    would show a surrogate that stands alone is not sent; a rejection is sent in its place.
    Otherwise the response conveys what the engine answers for the submission in the form, or what it
    raises; a batch that is too large does not reach the engine; and an edit that passes the checks
    of the form fails only as its validation does, or for a line that cannot be put in words.  Of
    other lines with so many digits, which only a validator of one's own names, nothing is said.

    If the validator for the dialect is the one that the engine begins with, the answer to a text
    shows a surrogate exactly when one stands in the stray line that is named. -/
theorem service_sends_answers (cs : List Command) (b : String) :
    let e := (standard.run cs).1
    (Http.bodyValue b = .error .unreadable → ∀ r : Http.Route, r.method = "POST" →
      e.step (.http ⟨"POST", r.path, b⟩) =
        e.responds (Http.remark 400 "There was an error parsing the body") []) ∧
    ∀ ms, Http.bodyValue b = .ok (.obj ms) →
      let code := Http.asked ms
      ((∀ rd d, (e.validate (code rd)).value = .ok d → d.HasShortLine) →
        e.Sends "/api/v1/validate" b ms
          (fun rd => Http.conveyed Http.validationBody (e.validate (code rd)).value)
          (.validateRequested (code .first).chars :: (e.validate (code .first)).events)) ∧
      (∀ items, Json.lookup (Code.ofText "diagrams") ms = some (.arr items) →
        let codes := fun rd : Reading => items.map fun v => Submission.ofJson (rd.json v)
        (items.length ≤ 100 →
          (∀ rd ds, (e.validateBatch (codes rd)).value = .ok ds →
            ∀ d ∈ ds, d.toDiagnostic.HasShortLine) →
          e.Sends "/api/v1/validate/batch" b ms
            (fun rd => Http.conveyed Http.batchBody (e.validateBatch (codes rd)).value)
            (.batchRequested items.length :: (e.validateBatch (codes .first)).events)) ∧
        (100 < items.length → ∀ e' : Engine,
          e'.step (.http ⟨"POST", "/api/v1/validate/batch", b⟩) = e'.responds (Http.rejection
            ("Batch of " ++ toString items.length ++ " diagrams exceeds the limit of 100")) [])) ∧
      (∀ change line,
        (∀ rd, Http.realtimeRequest (rd.json (.obj ms)) = .ok ⟨code rd, change, line⟩ ↔
          effective "changeType" "change_type" ms = some (.str (Code.ofText change.name)) ∧
          AsksLine (effective "lineNumber" "line_number" ms) line) ∧
        ((∀ rd, Http.realtimeRequest (rd.json (.obj ms)) = .ok ⟨code rd, change, line⟩) →
          let edit := fun rd => e.validateRealtime (code rd) change.name (.ofInt? line)
          (∀ rd es, (edit rd).value ≠ .error (.fields es)) ∧
          e.Sends "/api/v1/validate/realtime" b ms (fun rd => Http.conveyedEdit (edit rd).value)
            (.realtimeRequested change line :: (edit .first).events))) ∧
      ∀ text, effective "diagramCode" "diagram_code" ms = some (.str text) →
        e.registry.find? (detect (lines (Reading.first.text text))) =
          standard.registry.find? (detect (lines (Reading.first.text text))) →
        (Http.firstRun? (fun rd => Http.conveyed Http.validationBody (e.validate (code rd)).value) =
            none ↔
          ∀ d n l, (e.validate (code .first)).value = .ok d → d.kind = some .badSyntax →
            d.line = some n → (codeLines text)[n.val - 1]? = some l → ∀ c ∈ l, c.isChar = true) := by
  intro e
  refine ⟨fun hb r hr => step_http (Http.serve_of_unreadable hr hb), ?_⟩
  intro ms hb code
  refine ⟨fun _ => sends_validate hb, ?_, ?_, fun text htext hfind =>
    firstRun?_validate_eq_none_iff htext hfind⟩
  · intro items hitems codes
    exact ⟨fun hl _ => sends_batch hb hitems hl,
      fun hl e' => step_http (Http.serve_batch_of_lt hb hitems hl)⟩
  · intro change line
    have hiff : ∀ rd, Http.realtimeRequest (rd.json (.obj ms)) = .ok ⟨code rd, change, line⟩ ↔
        effective "changeType" "change_type" ms = some (.str (Code.ofText change.name)) ∧
        AsksLine (effective "lineNumber" "line_number" ms) line := by
      intro rd
      rw [rd.json_obj, Http.realtimeRequest_eq_ok_iff]
      exact and_iff_right rfl
    refine ⟨hiff, fun hr => ?_⟩
    intro edit
    have hline : ∀ n ∈ line, 1 ≤ n := ((hiff .first).1 (hr .first)).2.one_le
    simp only [Reading.json_obj] at hr
    exact ⟨fun rd => Http.value_validateRealtime_ne_fields (code rd) change hline,
      sends_realtime hb hline hr⟩

/-- A code that is null hides the one under the other name; an edit of it is answered; and a quoted
    surrogate is not sent. -/
theorem service_sends_answers_without_pie :
    let e := (standard.run [.remove "pie"]).1
    let post := fun path b => e.step (.http ⟨"POST", path, b⟩)
    let b := "\x7b\"diagram_code\": \"graph\", \"diagramCode\": null, \"diagrams\": [null], " ++
      "\"change_type\": \"add\", \"lineNumber\": 3\x7d"
    let quoted := Code.ofText "graph\n" ++ [.lone 0]
    post "/api/v1/validate" b =
      e.responds (Http.success (Http.validationBody .noInput)) [.validateRequested 0] ∧
    post "/api/v1/validate/batch" b =
      e.responds (Http.success (Http.batchBody [⟨.noInput, 0⟩]))
        [.batchRequested 1, .batchComplete 1 1] ∧
    post "/api/v1/validate/realtime" b =
      e.responds (Http.conveyedEdit (e.validateRealtime .notText "add" (3 : Int)).value)
        [.realtimeRequested .add (some 3)] ∧
    (∃ message, post "/api/v1/validate" "\x7b\"diagramCode\": \"graph\\n\\ud800\"\x7d" =
      e.responds (Http.rejection message)
        (.validateRequested 7 :: (e.validate (.text (Reading.first.text quoted))).events)) ∧
    post "/api/v1/validate" (.ofList (Json.integerBody (.replicate 5000 '1'))) =
      e.responds (Http.remark 400 "There was an error parsing the body") [] := by
  intro e post b quoted
  let ms : List (Codes × Json Codes) := [(Code.ofText "diagram_code", .str (Code.ofText "graph")),
    (Code.ofText "diagramCode", .null), (Code.ofText "diagrams", .arr [.null]),
    (Code.ofText "change_type", .str (Code.ofText "add")),
    (Code.ofText "lineNumber", .num (.int 3))]
  have hb : Http.bodyValue b = .ok (.obj ms) := by decide +kernel
  have hname : ∀ s : String, ∀ c ∈ Code.ofText s, c.isChar = true := fun _ _ =>
    Code.isChar_of_mem_ofText
  have hwhole : Json.HasWholeMembers ms :=
    ⟨hname _, hname _, hname _, trivial, hname _, ⟨trivial, trivial⟩, hname _, hname _, hname _,
      trivial, trivial⟩
  obtain ⟨hvalidate, hbatch, hrealtime, -⟩ := (service_sends_answers [.remove "pie"] b).2 _ hb
  obtain ⟨hiff, hedit⟩ := hrealtime .add (some 3)
  have hvoid : Diagnostic.noInput.HasShortLine := by
    rintro n ⟨⟩
  have hquoted : Http.bodyValue "\x7b\"diagramCode\": \"graph\\n\\ud800\"\x7d" =
      .ok (.obj [(Code.ofText "diagramCode", .str quoted)]) := by decide +kernel
  obtain ⟨hsurrogate, -, -, hshown⟩ := (service_sends_answers [.remove "pie"] _).2 _ hquoted
  have hstray : ∀ rd : Reading, (e.validate (.text (rd.text quoted))).value =
      .ok (.ofStray Grammar.flowchart ⟨2, by decide⟩ (rd.text [.lone 0]) 2) := by
    intro rd
    cases rd <;> decide +kernel
  have hdialect : detect (lines (Reading.first.text quoted)) = .flowchart := by decide +kernel
  have hshows := hshown quoted rfl (by rw [hdialect]; rfl)
  have hchars : (Submission.text (Reading.first.text quoted)).chars = 7 := by decide +kernel
  refine ⟨(hvalidate ?_).1 hwhole, ((hbatch _ rfl).1 (by decide) ?_).1 hwhole,
    (hedit ?_).2.1 hwhole, ?_,
    (service_sends_answers [.remove "pie"] _).1 (Http.bodyValue_ones (by decide)) .validate rfl⟩
  · rintro rd d ⟨⟩
    exact hvoid
  · rintro rd ds ⟨⟩ d hd
    rw [List.mem_singleton.1 hd]
    exact hvoid
  · exact fun rd => (hiff rd).2 ⟨rfl, .number rfl (by decide)⟩
  · rw [← hchars]
    refine (hsurrogate ?_).2.2 fun hnone => ?_
    · intro rd d hd
      cases (hstray rd).symm.trans hd
      rintro n ⟨⟩
      decide
    · have hchar := hshows.1 hnone _ _ [.lone 0] (hstray .first) rfl rfl rfl (.lone 0) (by decide)
      cases hchar

/-- Two objects whose code the engine answers and the service does not: a text whose second line is
    half a pair of surrogates, and an integer of 5000 digits. -/
theorem service_withholds_answers :
    let post := fun b => (standard.step (.http ⟨"POST", "/api/v1/validate", b⟩)).2.value
    let b := "\x7b\"diagramCode\": \"graph\\n\\ud800\"\x7d"
    let quoted := Code.ofText "graph\n" ++ [.lone 0]
    (Http.bodyValue b = .ok (.obj [(Code.ofText "diagramCode", .str quoted)]) ∧
      (∀ rd : Reading, ∃ d, (standard.validate (.text (rd.text quoted))).value = .ok d) ∧
      post b = .ok (.response (Http.rejection
        ("Error serializing to JSON: UnicodeEncodeError: 'utf-8' codec can't encode character " ++
          "'\\ud800' in position 23: surrogates not allowed")))) ∧
    (standard.validate .notText).value = .ok .noInput ∧
      post (.ofList (Json.integerBody (.replicate 5000 '1'))) =
        .ok (.response (Http.remark 400 "There was an error parsing the body")) := by
  intro post b quoted
  refine ⟨⟨by decide +kernel, fun rd => ?_, by decide +kernel⟩, rfl, ?_⟩
  · refine ⟨.ofStray Grammar.flowchart ⟨2, by decide⟩ (rd.text [.lone 0]) 2, ?_⟩
    cases rd <;> decide +kernel
  · have hb := Http.bodyValue_ones (n := 5000) (by decide)
    show (standard.step (.http ⟨"POST", Http.Route.validate.path, _⟩)).2.value = _
    rw [step_http (Http.serve_of_unreadable rfl hb)]
    rfl

end Engine

end DiagramLint
