import Reckon.Proofs.Cli.Results
import Reckon.Proofs.Cli.Sources
import Reckon.Proofs.Expr.Lockstep

/-!
# How runs end

A request comes to one of two ends. It has something to write to the output (`Request.Writes`), which for one that asks
for a value is the text of the value on a line (`Request.Yields`), or it fails on the way there and writes nothing
(`Request.Fails`). Where it can fail is said in the order of the way: the input may be no text, the text may be blank,
no JSON or no descriptor (`ReadAs`), and the expression may be malformed. The text of a number is that of `NumberText`,
and what is said of a failure that of `Error.Says`.

One of the two is the case (`Request.writes_or_fails`), and by `Request.Writes.outcome_perform` and
`Request.Fails.outcome_perform` the attempt at the request ends in this way, so that there is no third and never
both. The code of a run and its two streams are read off the attempt, whatever is recorded in its course.
-/

namespace Reckon

open Text

namespace Cli

/-! ## Descriptors -/

/-- What the text that is taken for a descriptor is read as. -/
inductive ReadAs (descriptor : Option String) (stdin : ByteArray) : Except Error Operation → Prop
  | operation {text : String} {v : Json} {o : Operation} (chosen : Chosen descriptor stdin text)
      (parsed : Json.parse? (trimmed text) = some v) (decoded : (Operation.ofJson v).outcome = .ok o) :
      ReadAs descriptor stdin (.ok o)
  | undescribed {text : String} {v : Json} {e : DecodeError} (chosen : Chosen descriptor stdin text)
      (parsed : Json.parse? (trimmed text) = some v) (decoded : (Operation.ofJson v).outcome = .error e) :
      ReadAs descriptor stdin (.error (.descriptor e))
  | notJson {text : String} (chosen : Chosen descriptor stdin text)
      (solid : ¬∀ c ∈ text.toList, isBlank c = true) (parsed : Json.parse? (trimmed text) = none) :
      ReadAs descriptor stdin (.error (.descriptor (.notJson (trimmed text))))
  | blank {text : String} (chosen : Chosen descriptor stdin text) (blank : ∀ c ∈ text.toList, isBlank c = true) :
      ReadAs descriptor stdin (.error .noInput)
  | notUtf8 (absent : descriptor = none) (invalid : ¬stdin.IsValidUTF8) : ReadAs descriptor stdin (.error .notUtf8)

variable {descriptor : Option String} {stdin : ByteArray}

/-- There is no value in no text. -/
theorem not_blank_of_parse? {text : String} {v : Json} (h : Json.parse? (trimmed text) = some v) :
    ¬∀ c ∈ text.toList, isBlank c = true := by
  intro hblank
  have hempty : trimmed text = "" := String.isEmpty_iff.mp (isEmpty_trimmed.mpr hblank)
  have hnone : Json.parse? "" = none := by decide +kernel
  rw [hempty, hnone] at h
  cases h

theorem outcome_readDescriptor_of_parse? {text : String} {v : Json} (chosen : Chosen descriptor stdin text)
    (parsed : Json.parse? (trimmed text) = some v) :
    (readDescriptor descriptor stdin).outcome = (Operation.ofJson v).outcome.mapError .descriptor := by
  rw [outcome_readDescriptor_of_chosen chosen, parseDescriptor_of_not_blank (not_blank_of_parse? parsed),
    Operation.parse, parsed, Attempt.outcome_mapError]

theorem ReadAs.outcome_readDescriptor {a : Except Error Operation} (h : ReadAs descriptor stdin a) :
    (readDescriptor descriptor stdin).outcome = a := by
  cases h with
  | operation chosen parsed decoded =>
      rw [outcome_readDescriptor_of_parse? chosen parsed, decoded]
      rfl
  | undescribed chosen parsed decoded =>
      rw [outcome_readDescriptor_of_parse? chosen parsed, decoded]
      rfl
  | notJson chosen solid parsed =>
      rw [outcome_readDescriptor_of_chosen chosen, parseDescriptor_of_not_blank solid, Operation.parse, parsed]
      rfl
  | blank chosen blank => exact outcome_readDescriptor_eq_noInput.mpr ⟨_, chosen, blank⟩
  | notUtf8 absent invalid => exact outcome_readDescriptor_eq_notUtf8.mpr ⟨absent, invalid⟩

theorem exists_readAs (descriptor : Option String) (stdin : ByteArray) : ∃ a, ReadAs descriptor stdin a := by
  rcases chosen_or_not_valid descriptor stdin with ⟨text, chosen⟩ | ⟨absent, invalid⟩
  · by_cases hblank : ∀ c ∈ text.toList, isBlank c = true
    · exact ⟨_, .blank chosen hblank⟩
    · cases hparse : Json.parse? (trimmed text) with
      | none => exact ⟨_, .notJson chosen hblank hparse⟩
      | some v =>
          cases hdecode : (Operation.ofJson v).outcome with
          | ok o => exact ⟨_, .operation chosen hparse hdecode⟩
          | error e => exact ⟨_, .undescribed chosen hparse hdecode⟩
  · exact ⟨_, .notUtf8 absent invalid⟩

/-! ## Requests -/

namespace Request

/-- Whether a request is for the value of something. -/
def asksForValue : Request → Bool
  | eval .. | apply .. | test .. => true
  | check _ | ops => false

/-- The command that a request comes to once its descriptor is read. -/
inductive Reaches (stdin : ByteArray) : Request → Command → Prop
  | eval (expression : String) (x : Float) : Reaches stdin (.eval expression x) (.eval expression x)
  | apply (v : Float) {descriptor : Option String} {o : Operation} (read : ReadAs descriptor stdin (.ok o)) :
      Reaches stdin (.apply v descriptor) (.apply o v)
  | test (v : Float) {descriptor : Option String} {o : Operation} (read : ReadAs descriptor stdin (.ok o)) :
      Reaches stdin (.test v descriptor) (.test o v)

/-- The text of the value that a request has. -/
inductive Yields (stdin : ByteArray) : Request → String → Prop
  | eval {expression : String} {x w : Float} {text : String} (h : (Expr.evaluate expression x).outcome = .ok w)
      (number : NumberText w text) : Yields stdin (.eval expression x) text
  | apply {v w : Float} {descriptor : Option String} {o : Operation} {text : String}
      (read : ReadAs descriptor stdin (.ok o)) (h : (o.apply v).outcome = .ok w) (number : NumberText w text) :
      Yields stdin (.apply v descriptor) text
  | test {v : Float} {descriptor : Option String} {o : Operation} {b : Bool}
      (read : ReadAs descriptor stdin (.ok o)) (h : (o.test v).outcome = .ok b) :
      Yields stdin (.test v descriptor) (if b then "true" else "false")

/-- What a request writes to the output. -/
inductive Writes (stdin : ByteArray) : Request → String → Prop
  | value {r : Request} {text : String} (yields : r.Yields stdin text) : Writes stdin r (text ++ "\n")
  | valid {expression : String} (h : ∀ x, ∃ w, (Expr.evaluate expression x).outcome = .ok w) :
      Writes stdin (.check expression) "Syntax is valid\n"
  | overview : Writes stdin .ops overview

/-- The error that a request fails with. -/
inductive Fails (stdin : ByteArray) : Request → Error → Prop
  | unread {r : Request} {descriptor : Option String} {e : Error} (takes : r.Takes descriptor)
      (read : ReadAs descriptor stdin (.error e)) : Fails stdin r e
  | eval {expression : String} {x : Float} {m : Malformed} (h : (Expr.evaluate expression x).outcome = .error m) :
      Fails stdin (.eval expression x) (.evaluation m)
  | apply {v : Float} {descriptor : Option String} {o : Operation} {m : Malformed}
      (read : ReadAs descriptor stdin (.ok o)) (h : (o.apply v).outcome = .error m) :
      Fails stdin (.apply v descriptor) (.evaluation m)
  | test {v : Float} {descriptor : Option String} {o : Operation} {m : Malformed}
      (read : ReadAs descriptor stdin (.ok o)) (h : (o.test v).outcome = .error m) :
      Fails stdin (.test v descriptor) (.evaluation m)
  | invalid {expression : String} {m : Malformed} (h : ∀ x, (Expr.evaluate expression x).outcome = .error m) :
      Fails stdin (.check expression) (.evaluation m)

variable {r : Request} {c : Command} {out text : String}

theorem reaches_or_unread (hr : r.asksForValue = true) (stdin : ByteArray) :
    (∃ c, r.Reaches stdin c) ∨ ∃ descriptor e, r.Takes descriptor ∧ ReadAs descriptor stdin (.error e) := by
  cases r with
  | eval expression x => exact .inl ⟨_, .eval expression x⟩
  | apply v descriptor =>
      obtain ⟨a, read⟩ := exists_readAs descriptor stdin
      cases a with
      | error e => exact .inr ⟨descriptor, e, .apply v descriptor, read⟩
      | ok o => exact .inl ⟨_, .apply v read⟩
  | test v descriptor =>
      obtain ⟨a, read⟩ := exists_readAs descriptor stdin
      cases a with
      | error e => exact .inr ⟨descriptor, e, .test v descriptor, read⟩
      | ok o => exact .inl ⟨_, .test v read⟩
  | check expression => cases hr
  | ops => cases hr

/-- The answer to the command is the value of the request. -/
theorem Reaches.yields {v : Json} (h : r.Reaches stdin c) (hanswer : c.answer = .ok v) : r.Yields stdin v.compact := by
  cases h with
  | eval expression x =>
      obtain ⟨w, hw, rfl⟩ := map_eq_ok.mp hanswer
      exact .eval hw (numberText_compact w)
  | apply v read =>
      obtain ⟨w, hw, rfl⟩ := map_eq_ok.mp hanswer
      exact .apply read hw (numberText_compact w)
  | test v read =>
      obtain ⟨b, hb, rfl⟩ := map_eq_ok.mp hanswer
      rw [compact_bool]
      exact .test read hb

theorem Reaches.fails {m : Malformed} (h : r.Reaches stdin c) (hanswer : c.answer = .error m) :
    r.Fails stdin (.evaluation m) := by
  cases h with
  | eval expression x => exact .eval (map_eq_error.mp hanswer)
  | apply v read => exact .apply read (map_eq_error.mp hanswer)
  | test v read => exact .test read (map_eq_error.mp hanswer)

theorem Yields.exists_answer (h : r.Yields stdin text) :
    ∃ c v, r.Reaches stdin c ∧ c.answer = .ok v ∧ text = v.compact := by
  cases h with
  | eval h number => exact ⟨_, _, .eval _ _, map_eq_ok.mpr ⟨_, h, rfl⟩, number.eq_compact⟩
  | apply read h number => exact ⟨_, _, .apply _ read, map_eq_ok.mpr ⟨_, h, rfl⟩, number.eq_compact⟩
  | test read h => exact ⟨_, _, .test _ read, map_eq_ok.mpr ⟨_, h, rfl⟩, (compact_bool _).symm⟩

theorem Yields.newline_not_mem (h : r.Yields stdin text) : '\n' ∉ text.toList := by
  obtain ⟨c, v, -, -, rfl⟩ := h.exists_answer
  exact Json.newline_not_mem_compact v

theorem yields_or_fails (hr : r.asksForValue = true) (stdin : ByteArray) :
    (∃ text, r.Yields stdin text) ∨ ∃ e, r.Fails stdin e := by
  rcases reaches_or_unread hr stdin with ⟨c, reaches⟩ | ⟨descriptor, e, takes, read⟩
  · cases hanswer : c.answer with
    | ok v => exact .inl ⟨_, reaches.yields hanswer⟩
    | error m => exact .inr ⟨_, reaches.fails hanswer⟩
  · exact .inr ⟨e, .unread takes read⟩

theorem writes_or_fails (r : Request) (stdin : ByteArray) :
    (∃ out, r.Writes stdin out) ∨ ∃ e, r.Fails stdin e := by
  by_cases hr : r.asksForValue = true
  · refine (yields_or_fails hr stdin).imp_left ?_
    rintro ⟨text, hyields⟩
    exact ⟨_, .value hyields⟩
  · cases r with
    | check expression =>
        cases hcheck : (Cli.check expression).outcome with
        | ok u => exact .inl ⟨_, .valid (check_eq_ok.mp hcheck)⟩
        | error e =>
            obtain ⟨m, rfl, h⟩ := check_eq_error hcheck
            exact .inr ⟨_, .invalid h⟩
    | ops => exact .inl ⟨_, .overview⟩
    | eval expression x => exact absurd rfl hr
    | apply v descriptor => exact absurd rfl hr
    | test v descriptor => exact absurd rfl hr

/-- For a value nothing but the value is written. -/
theorem Writes.exists_yields (h : r.Writes stdin out) (hr : r.asksForValue = true) : ∃ text, r.Yields stdin text := by
  cases h with
  | value yields => exact ⟨_, yields⟩
  | valid h => cases hr
  | overview => cases hr

theorem Writes.ne_empty (h : r.Writes stdin out) : out ≠ "" := by
  cases h with
  | value yields =>
      intro hempty
      have hlist := congrArg String.toList hempty
      simp at hlist
  | valid h => decide
  | overview => decide +kernel

end Request

/-! ## Attempts at requests -/

variable {i : Invocation}

theorem Request.Reaches.outcome_perform {c : Command} (h : i.request.Reaches stdin c) :
    (i.perform stdin).outcome = (print i.pretty c).outcome := by
  obtain ⟨request, pretty, verbose⟩ := i
  cases h with
  | eval expression x => rfl
  | apply v read => rw [Invocation.perform, Attempt.outcome_bind, read.outcome_readDescriptor, ok_bind]
  | test v read => rw [Invocation.perform, Attempt.outcome_bind, read.outcome_readDescriptor, ok_bind]

theorem Request.Reaches.outcome_perform_of_error {c : Command} {m : Malformed} (h : i.request.Reaches stdin c)
    (hanswer : c.answer = .error m) : (i.perform stdin).outcome = .error (.evaluation m) := by
  rw [h.outcome_perform, outcome_print_of_error hanswer]

theorem Request.Writes.outcome_perform {out : String} (h : i.request.Writes stdin out) :
    (i.perform stdin).outcome = .ok out := by
  obtain ⟨request, pretty, verbose⟩ := i
  cases h with
  | value yields =>
      obtain ⟨c, v, reaches, hanswer, rfl⟩ := yields.exists_answer
      rw [reaches.outcome_perform, outcome_print_of_ok hanswer]
  | valid h =>
      rw [Invocation.perform, Attempt.outcome_bind, check_eq_ok.mpr h]
      rfl
  | overview => rfl

theorem Request.Fails.outcome_perform {e : Error} (h : i.request.Fails stdin e) :
    (i.perform stdin).outcome = .error e := by
  obtain ⟨request, pretty, verbose⟩ := i
  cases h with
  | unread takes read =>
      obtain ⟨command, hperform⟩ := exists_command takes
      rw [← Invocation.withDescriptor_of_takes takes, hperform, Attempt.outcome_bind, read.outcome_readDescriptor]
      rfl
  | eval h => exact Reaches.outcome_perform_of_error (.eval _ _) (map_eq_error.mpr h)
  | apply read h => exact Reaches.outcome_perform_of_error (.apply _ read) (map_eq_error.mpr h)
  | test read h => exact Reaches.outcome_perform_of_error (.test _ read) (map_eq_error.mpr h)
  | invalid h =>
      rw [Invocation.perform, Attempt.outcome_bind, outcome_check, h 0]
      rfl

/-! ## Runs -/

/-- The records of a run that are shown, each on a line. -/
def Invocation.shown (i : Invocation) (outside : Externals) (stdin : ByteArray)
    (environment : Option String) : String :=
  lines (filter outside i.verbose environment) (i.perform stdin).log

/-- What is said of an error. -/
inductive Error.Says (outside : Externals) : Error → String → Prop
  | evaluation (m : Malformed) :
      Says outside (.evaluation m) ("Evaluation error: malformed expression '" ++ m.expression ++ "': " ++ m.reason)
  | notJson (text : String) :
      Says outside (.descriptor (.notJson text))
        ("Descriptor error: invalid operation descriptor: " ++ outside.syntaxError text)
  | notAnObject (v : Json) :
      Says outside (.descriptor (.notAnObject v))
        ("Descriptor error: invalid operation descriptor: expected an object, found " ++ v.compact)
  | wrongType (v : Json) (expected : Expected) :
      Says outside (.descriptor (.wrongType v expected))
        ("Descriptor error: invalid operation descriptor: invalid type: " ++ v.description ++ ", expected " ++
          expected.text)
  | notUtf8 : Says outside .notUtf8 "IO error: stream did not contain valid UTF-8"
  | noInput : Says outside .noInput "No operation provided. Use --op or pipe a JSON descriptor to stdin."

/-- The words of a message stand in front of what is put into it. -/
theorem append_words {first second words : String} (h : first ++ second = words) (rest : String) :
    first ++ (second ++ rest) = words ++ rest := by
  rw [← String.append_assoc, h]

theorem Error.says_message (outside : Externals) (e : Error) : e.Says outside (e.message outside.syntaxError) := by
  cases e with
  | evaluation m =>
      have hwords : "Evaluation error: " ++ "malformed expression '" = "Evaluation error: malformed expression '" := by
        decide +kernel
      show Says outside _ ("Evaluation error: " ++ ("malformed expression '" ++ m.expression ++ "': " ++ m.reason))
      rw [String.append_assoc, String.append_assoc, append_words hwords, ← String.append_assoc, ← String.append_assoc]
      exact .evaluation m
  | descriptor e =>
      have hwords : "Descriptor error: " ++ "invalid operation descriptor: " =
          "Descriptor error: invalid operation descriptor: " := by decide +kernel
      show Says outside _ ("Descriptor error: " ++ ("invalid operation descriptor: " ++ e.reason outside.syntaxError))
      rw [append_words hwords]
      cases e with
      | notJson text => exact .notJson text
      | notAnObject v =>
          have hwords : "Descriptor error: invalid operation descriptor: " ++ "expected an object, found " =
              "Descriptor error: invalid operation descriptor: expected an object, found " := by decide +kernel
          show Says outside _ (_ ++ ("expected an object, found " ++ v.compact))
          rw [append_words hwords]
          exact .notAnObject v
      | wrongType v expected =>
          have hwords : "Descriptor error: invalid operation descriptor: " ++ "invalid type: " =
              "Descriptor error: invalid operation descriptor: invalid type: " := by decide +kernel
          show Says outside _ (_ ++ ("invalid type: " ++ v.description ++ ", expected " ++ expected.text))
          rw [String.append_assoc, String.append_assoc, append_words hwords, ← String.append_assoc,
            ← String.append_assoc]
          exact .wrongType v expected
  | notUtf8 => exact .notUtf8
  | noInput => exact .noInput

section

variable {outside : Externals} {environment : Option String} {out : String} {e : Error}

theorem Request.Writes.outcome_eq (h : i.request.Writes stdin out) :
    i.outcome outside stdin environment = ⟨0, out, i.shown outside stdin environment⟩ := by
  simp only [Invocation.outcome, Invocation.shown, h.outcome_perform]

theorem Request.Fails.outcome_eq (h : i.request.Fails stdin e) :
    i.outcome outside stdin environment = ⟨1, "", i.shown outside stdin environment ++ e.report outside⟩ := by
  simp only [Invocation.outcome, Invocation.shown, h.outcome_perform]

theorem Request.Writes.not_fails (h : i.request.Writes stdin out) : ¬i.request.Fails stdin e := by
  intro hfails
  cases h.outcome_perform.symm.trans hfails.outcome_perform

theorem code_eq_zero_iff : (i.outcome outside stdin environment).code = 0 ↔ ∃ out, i.request.Writes stdin out := by
  rcases i.request.writes_or_fails stdin with ⟨out, hwrites⟩ | ⟨e, hfails⟩
  · rw [hwrites.outcome_eq]
    exact ⟨fun _ => ⟨out, hwrites⟩, fun _ => rfl⟩
  · rw [hfails.outcome_eq]
    constructor
    · intro hcode
      cases hcode
    · rintro ⟨out, hwrites⟩
      exact absurd hfails hwrites.not_fails

theorem stderr_eq_shown (hcode : (i.outcome outside stdin environment).code = 0) :
    (i.outcome outside stdin environment).stderr = i.shown outside stdin environment := by
  obtain ⟨out, hwrites⟩ := code_eq_zero_iff.mp hcode
  rw [hwrites.outcome_eq]

theorem exists_fails (hcode : (i.outcome outside stdin environment).code ≠ 0) : ∃ e, i.request.Fails stdin e := by
  rcases i.request.writes_or_fails stdin with hwrites | hfails
  · exact absurd (code_eq_zero_iff.mpr hwrites) hcode
  · exact hfails

theorem code_eq_zero_iff_yields (hi : i.request.asksForValue = true) :
    (i.outcome outside stdin environment).code = 0 ↔ ∃ text, i.request.Yields stdin text := by
  rw [code_eq_zero_iff]
  constructor
  · rintro ⟨out, hwrites⟩
    exact hwrites.exists_yields hi
  · rintro ⟨text, hyields⟩
    exact ⟨_, .value hyields⟩

theorem code_eq_zero_iff_evaluate {expression : String} {x : Float} (hi : i.request = .eval expression x) :
    (i.outcome outside stdin environment).code = 0 ↔ ∃ w, (Expr.evaluate expression x).outcome = .ok w := by
  rw [code_eq_zero_iff_yields (hi ▸ rfl), hi]
  constructor
  · rintro ⟨text, ⟨hw, -⟩⟩
    exact ⟨_, hw⟩
  · rintro ⟨w, hw⟩
    exact ⟨_, .eval hw (numberText_compact w)⟩

theorem code_eq_zero_iff_check {expression : String} (hi : i.request = .check expression) :
    (i.outcome outside stdin environment).code = 0 ↔ ∀ x, ∃ w, (Expr.evaluate expression x).outcome = .ok w := by
  rw [code_eq_zero_iff, hi]
  constructor
  · rintro ⟨out, hwrites⟩
    cases hwrites with
    | valid h => exact h
    | value yields => cases yields
  · intro h
    exact ⟨_, .valid h⟩

end

/-- Behind a double hyphen an expression may be anything. -/
theorem exists_parse_eval (expression : String) :
    ∃ x, Invocation.parse ["eval", "--", expression] = .ok ⟨.eval expression x, false, false⟩ := by
  have hzero : (Decimal.ofText? "0").isSome = true := by decide +kernel
  obtain ⟨x, hx⟩ := Option.isSome_iff_exists.mp hzero
  have hname : Subcommand.ofName? "eval" = some .eval := rfl
  have hspelling : Spelling.of "--" = .separator := by simp [Spelling.of]
  have hgiven : Given.takeAll Subcommand.eval.shape ["--", expression] =
      .ok ⟨false, false, some expression, none⟩ := by
    simp only [Given.takeAll, List.foldlM, Given.take, hspelling]
    rfl
  have hnumber : readNumber "0" = .ok x := by
    rw [readNumber, hx]
    rfl
  have hrequest : Subcommand.eval.request ⟨false, false, some expression, none⟩ = .ok (.eval expression x) :=
    bind_eq_ok.mpr ⟨expression, rfl, bind_eq_ok.mpr ⟨x, hnumber, rfl⟩⟩
  have hcommand : Invocation.ofCommand .nothing .eval ["--", expression] =
      .ok ⟨.eval expression x, false, false⟩ :=
    bind_eq_ok.mpr ⟨_, hgiven, bind_eq_ok.mpr ⟨_, hrequest, rfl⟩⟩
  refine ⟨x, ?_⟩
  rw [Invocation.parse, Invocation.parseFrom, hname]
  exact hcommand

/-- To check an expression is to ask whether its evaluation can fail, at whatever value. -/
theorem code_check_eq_zero_iff_runs {expression : String} (hi : i.request = .check expression)
    (outside : Externals) (environment : Option String) :
    (i.outcome outside stdin environment).code = 0 ↔
      ∀ args' i' x, Invocation.parse args' = .ok i' → i'.request = .eval expression x →
        ∀ stdin' environment', (run outside args' stdin' environment').code = 0 := by
  rw [code_eq_zero_iff_check hi]
  constructor
  · intro hvalid args' i' x hparse hi' stdin' environment'
    rw [run_of_parse hparse, code_eq_zero_iff_evaluate hi']
    exact hvalid x
  · intro hruns x
    obtain ⟨x', hparse⟩ := exists_parse_eval expression
    have hcode := hruns _ _ x' hparse rfl stdin environment
    rw [run_of_parse hparse, code_eq_zero_iff_evaluate rfl] at hcode
    exact (Expr.evaluate_lockstep expression x' x).exists_ok_iff.mp hcode

theorem Stop.stdout_ne_empty_iff (outside : Externals) (args : List String) {stop : Stop} (h : stop ≠ .help) :
    (stop.outcome outside args).stdout ≠ "" ↔ (stop.outcome outside args).code = 0 := by
  cases stop with
  | usage e => simp [outcome]
  | version =>
      have hversion : versionText ≠ "" := by decide
      exact iff_of_true hversion rfl
  | help => exact absurd rfl h

theorem Stop.stderr_eq_empty {outside : Externals} {args : List String} {stop : Stop}
    (h : (stop.outcome outside args).code = 0) : (stop.outcome outside args).stderr = "" := by
  cases stop with
  | usage e => cases h
  | version => rfl
  | help => rfl

theorem stdout_ne_empty_iff (outside : Externals) (environment : Option String) :
    (i.outcome outside stdin environment).stdout ≠ "" ↔ (i.outcome outside stdin environment).code = 0 := by
  rcases i.request.writes_or_fails stdin with ⟨out, hwrites⟩ | ⟨e, hfails⟩
  · simp [hwrites.outcome_eq, hwrites.ne_empty]
  · simp [hfails.outcome_eq]

end Cli

/-! ## The headline theorem -/

open Cli in
/-- **A run writes its result or reports its error, and never both.** Whatever the command line, unless it asks for
help, there is something on the output if and only if the code is 0, and then nothing but records is reported. A
request for a value succeeds if and only if there is one, that is if the descriptor is read and decoded and the library
has an answer, and writes its text on one line. A request that fails has code 1, writes nothing, and reports its error
on a line after the records. To check an expression succeeds if and only if all runs that evaluate it do. -/
theorem run_result_or_report (outside : Externals) (args : List String) (stdin : ByteArray)
    (environment : Option String) :
    ∃ o, run outside args stdin environment = o ∧
      (Invocation.parse args ≠ .error .help → (o.stdout ≠ "" ↔ o.code = 0)) ∧
      (∀ stop, Invocation.parse args = .error stop → o.code = 0 → o.stderr = "") ∧
      ∀ i, Invocation.parse args = .ok i →
        (o.code = 0 → o.stderr = i.shown outside stdin environment) ∧
        (o.code ≠ 0 → ∃ e, i.request.Fails stdin e) ∧
        (∀ e, i.request.Fails stdin e →
          ∃ text, e.Says outside text ∧ o = ⟨1, "", i.shown outside stdin environment ++ (text ++ "\n")⟩) ∧
        (i.request.asksForValue = true → (o.code = 0 ↔ ∃ text, i.request.Yields stdin text)) ∧
        (∀ text, i.request.Yields stdin text → o.stdout = text ++ "\n" ∧ '\n' ∉ text.toList) ∧
        ∀ expression, i.request = .check expression →
          (o.code = 0 ↔ ∀ args' i' x, Invocation.parse args' = .ok i' → i'.request = .eval expression x →
            ∀ stdin' environment', (run outside args' stdin' environment').code = 0) := by
  refine ⟨_, rfl, ?_⟩
  cases hparse : Invocation.parse args with
  | error stop =>
      have hrun : run outside args stdin environment = stop.outcome outside args := by rw [run, hparse]
      rw [hrun]
      refine ⟨fun hhelp => Stop.stdout_ne_empty_iff outside args ?_, ?_, ?_⟩
      · rintro rfl
        exact hhelp rfl
      · intro stop' hstop hcode
        exact Stop.stderr_eq_empty hcode
      · intro i hi
        cases hi
  | ok i =>
      rw [run_of_parse hparse]
      refine ⟨fun _ => stdout_ne_empty_iff outside environment, ?_, ?_⟩
      · intro stop hstop
        cases hstop
      · intro i' hi'
        cases hi'
        refine ⟨stderr_eq_shown, exists_fails, ?_, code_eq_zero_iff_yields, ?_, ?_⟩
        · intro e hfails
          exact ⟨_, e.says_message outside, hfails.outcome_eq⟩
        · intro text hyields
          have hwrites : i.request.Writes stdin (text ++ "\n") := .value hyields
          rw [hwrites.outcome_eq]
          exact ⟨rfl, hyields.newline_not_mem⟩
        · intro expression hi
          exact code_check_eq_zero_iff_runs hi outside environment

open Cli in
/-- The text is taken for a descriptor, which is recorded, and is no JSON. -/
theorem run_result_or_report_no_json :
    ∃ outside i e text, outside.syntaxError "nope" = "expected ident at line 1 column 2" ∧
      Invocation.parse ["-v", "test", "5"] = .ok i ∧ i.request.Fails "nope".toUTF8 e ∧ e.Says outside text ∧
      run outside ["-v", "test", "5"] "nope".toUTF8 none =
        ⟨1, "", i.shown outside "nope".toUTF8 none ++ (text ++ "\n")⟩ ∧
      run outside ["-v", "test", "5"] "nope".toUTF8 none =
        ⟨1, "", "[DEBUG turbo_expr] descriptor: nope\n" ++
          "Descriptor error: invalid operation descriptor: expected ident at line 1 column 2\n"⟩ := by
  let outside : Externals := { Externals.silent with syntaxError := fun _ => "expected ident at line 1 column 2" }
  have hrun : run outside ["-v", "test", "5"] "nope".toUTF8 none =
      ⟨1, "", "[DEBUG turbo_expr] descriptor: nope\n" ++
        "Descriptor error: invalid operation descriptor: expected ident at line 1 column 2\n"⟩ := by decide +kernel
  have hparse : ∃ i, Invocation.parse ["-v", "test", "5"] = .ok i := ⟨_, rfl⟩
  obtain ⟨i, hi⟩ := hparse
  obtain ⟨o, ho, -, -, hends⟩ := run_result_or_report outside ["-v", "test", "5"] "nope".toUTF8 none
  obtain ⟨-, hfails, hreport, -⟩ := hends i hi
  obtain ⟨e, he⟩ := hfails (by rw [← ho, hrun]; decide)
  obtain ⟨text, hsays, htext⟩ := hreport e he
  exact ⟨outside, i, e, text, rfl, hi, he, hsays, ho.trans htext, hrun⟩

end Reckon
