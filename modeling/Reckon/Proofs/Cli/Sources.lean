import Reckon.Cli.Run
import Reckon.Proofs.Cli.Arguments
import Reckon.Proofs.Cli.Commands

/-!
# Where a descriptor comes from

A descriptor is the value of an option, or else all of the input. Whichever it is, the text is read before anything
else is done with it, and what follows is a function of the text alone: `readDescriptor_option` says so of the
reading, records included, and `perform_withDescriptor` of a whole request.

The failures are told apart by how far a request comes. The input may be no text (`outcome_readDescriptor_eq_notUtf8`),
the text may be blank (`outcome_readDescriptor_eq_noInput`) or no descriptor, and only then can an evaluation fail.
-/

namespace Reckon

open Text

namespace Cli

/-! ## Bytes -/

theorem fromUTF8?_toUTF8 (text : String) : String.fromUTF8? text.toUTF8 = some text := by
  rw [String.fromUTF8?, String.toUTF8_eq_toByteArray, dif_pos text.isValidUTF8]
  rfl

theorem fromUTF8?_eq_none {bytes : ByteArray} : String.fromUTF8? bytes = none ↔ ¬bytes.IsValidUTF8 := by
  rw [String.fromUTF8?]
  simp

/-- The text that is taken for a descriptor: that of the option, and otherwise the one that the input is in UTF-8. -/
inductive Chosen : Option String → ByteArray → String → Prop
  | option (text : String) (stdin : ByteArray) : Chosen (some text) stdin text
  | input (text : String) : Chosen none text.toUTF8 text

variable {descriptor : Option String} {stdin : ByteArray} {text : String}

theorem descriptorText_of_chosen (h : Chosen descriptor stdin text) :
    descriptorText descriptor stdin = pure text := by
  cases h with
  | option => rfl
  | input => rw [descriptorText, fromUTF8?_toUTF8]

theorem descriptorText_of_not_valid (h : ¬stdin.IsValidUTF8) :
    descriptorText none stdin = throw .notUtf8 := by
  rw [descriptorText, fromUTF8?_eq_none.mpr h]

theorem chosen_or_not_valid (descriptor : Option String) (stdin : ByteArray) :
    (∃ text, Chosen descriptor stdin text) ∨ descriptor = none ∧ ¬stdin.IsValidUTF8 := by
  cases descriptor with
  | some text => exact .inl ⟨text, .option text stdin⟩
  | none =>
      by_cases hvalid : stdin.IsValidUTF8
      · exact .inl ⟨String.ofByteArray stdin hvalid, .input (String.ofByteArray stdin hvalid)⟩
      · exact .inr ⟨rfl, hvalid⟩

/-! ## Failures -/

/-- With a descriptor at hand nothing fails but the evaluation. -/
theorem exists_evaluation_of_print {pretty : Bool} {c : Command} {e : Error}
    (h : (print pretty c).outcome = .error e) : ∃ m, e = .evaluation m := by
  rw [print, Attempt.outcome_bind, Command.outcome_execute] at h
  cases hanswer : c.answer with
  | ok v =>
      rw [hanswer] at h
      cases h
  | error m =>
      rw [hanswer] at h
      cases h
      exact ⟨m, rfl⟩

variable {i : Invocation} {e : Error}

/-- A request with a descriptor reads it, wherever it is, and then carries out a command with it. -/
theorem exists_command (h : i.request.Takes descriptor) :
    ∃ command : Operation → Command, ∀ descriptor' stdin, (i.withDescriptor descriptor').perform stdin =
      readDescriptor descriptor' stdin >>= fun d => print i.pretty (command d) := by
  obtain ⟨request, pretty, verbose⟩ := i
  cases h with
  | apply v => exact ⟨fun d => .apply d v, fun descriptor' stdin => rfl⟩
  | test v => exact ⟨fun d => .test d v, fun descriptor' stdin => rfl⟩

/-- A request that does not fail in an evaluation fails in the reading of its descriptor. -/
theorem outcome_perform_eq_error (h : i.request.Takes descriptor) (hne : ∀ m, e ≠ .evaluation m) :
    (i.perform stdin).outcome = .error e ↔ (readDescriptor descriptor stdin).outcome = .error e := by
  obtain ⟨command, hperform⟩ := exists_command h
  rw [← Invocation.withDescriptor_of_takes h, hperform, Attempt.outcome_bind]
  cases (readDescriptor descriptor stdin).outcome with
  | error err =>
      constructor
      · rintro ⟨⟩
        rfl
      · rintro ⟨⟩
        rfl
  | ok d =>
      constructor
      · intro hprint
        obtain ⟨m, rfl⟩ := exists_evaluation_of_print hprint
        exact absurd rfl (hne m)
      · intro hok
        cases hok

theorem outcome_readDescriptor_of_chosen (h : Chosen descriptor stdin text) :
    (readDescriptor descriptor stdin).outcome = (parseDescriptor text).outcome := by
  rw [readDescriptor.eq_def, descriptorText_of_chosen h, Attempt.outcome_bind, Attempt.outcome_pure, ok_bind,
    Attempt.outcome_write_bind]

theorem outcome_readDescriptor_eq_notUtf8 :
    (readDescriptor descriptor stdin).outcome = .error .notUtf8 ↔ descriptor = none ∧ ¬stdin.IsValidUTF8 := by
  constructor
  · intro he
    rcases chosen_or_not_valid descriptor stdin with ⟨text, hchosen⟩ | hnone
    · rw [outcome_readDescriptor_of_chosen hchosen] at he
      rcases outcome_parseDescriptor_eq_error he with ⟨⟨⟩, -⟩ | ⟨err, ⟨⟩⟩
    · exact hnone
  · rintro ⟨rfl, hvalid⟩
    rw [readDescriptor.eq_def, Attempt.outcome_bind, descriptorText_of_not_valid hvalid]
    rfl

theorem outcome_readDescriptor_eq_noInput :
    (readDescriptor descriptor stdin).outcome = .error .noInput ↔
      ∃ text, Chosen descriptor stdin text ∧ ∀ c ∈ text.toList, isBlank c = true := by
  constructor
  · intro he
    rcases chosen_or_not_valid descriptor stdin with ⟨text, hchosen⟩ | hnone
    · rw [outcome_readDescriptor_of_chosen hchosen, outcome_parseDescriptor_eq_noInput] at he
      exact ⟨text, hchosen, he⟩
    · rw [outcome_readDescriptor_eq_notUtf8.mpr hnone] at he
      cases he
  · rintro ⟨text, hchosen, hblank⟩
    rwa [outcome_readDescriptor_of_chosen hchosen, outcome_parseDescriptor_eq_noInput]

/-! ## The same text from either source -/

theorem readDescriptor_option (text : String) (stdin : ByteArray) :
    readDescriptor (some text) stdin = readDescriptor none text.toUTF8 := by
  have htext : descriptorText (some text) stdin = descriptorText none text.toUTF8 :=
    (descriptorText_of_chosen (.option text stdin)).trans (descriptorText_of_chosen (.input text)).symm
  rw [readDescriptor.eq_def, readDescriptor.eq_def, htext]

theorem perform_withDescriptor (h : i.request.Takes none) (text : String) (stdin : ByteArray) :
    (i.withDescriptor (some text)).perform stdin = i.perform text.toUTF8 := by
  obtain ⟨command, hperform⟩ := exists_command h
  have hinput := hperform none text.toUTF8
  rw [Invocation.withDescriptor_of_takes h] at hinput
  rw [hperform, hinput, readDescriptor_option]

theorem outcome_withDescriptor (h : i.request.Takes none) (outside : Externals) (text : String) (stdin : ByteArray)
    (environment : Option String) :
    (i.withDescriptor (some text)).outcome outside stdin environment = i.outcome outside text.toUTF8 environment := by
  rw [Invocation.outcome, Invocation.outcome, perform_withDescriptor h]
  rfl

theorem perform_of_not_takes (h : ∀ descriptor, ¬i.request.Takes descriptor) (stdin stdin' : ByteArray) :
    i.perform stdin = i.perform stdin' := by
  obtain ⟨request, pretty, verbose⟩ := i
  cases request with
  | apply v descriptor => exact absurd (.apply v descriptor) (h descriptor)
  | test v descriptor => exact absurd (.test v descriptor) (h descriptor)
  | eval expression x => rfl
  | check expression => rfl
  | ops => rfl

theorem run_of_parse {args : List String} (h : Invocation.parse args = .ok i) (outside : Externals)
    (stdin : ByteArray) (environment : Option String) :
    run outside args stdin environment = i.outcome outside stdin environment := by
  rw [run, h]

end Cli

/-! ## The headline theorem -/

open Cli in
/-- **The option and the input are interchangeable.** A run that has a text as the value of the option, whatever is on
the input, leaves behind the same as a run that finds the bytes of this text on the input, for any filter; that is so
for every command line that asks for the same otherwise, and for one with the option put behind the rest. A run that
takes no descriptor does not depend on the input. A run that takes one fails for want of a text if and only if the
option is absent and the input is not UTF-8, and for want of a descriptor if and only if its text is blank. -/
theorem run_descriptor_sources {args : List String} {i : Invocation} (hparse : Invocation.parse args = .ok i)
    (outside : Externals) (environment : Option String) :
    (i.request.Takes none → ∀ (text : String) (stdin : ByteArray),
      (∀ args', Invocation.parse args' = .ok (i.withDescriptor (some text)) →
        run outside args' stdin environment = run outside args text.toUTF8 environment) ∧
      ("--" ∉ args →
        run outside (args ++ ["--op=" ++ text]) stdin environment = run outside args text.toUTF8 environment)) ∧
    ((∀ descriptor, ¬i.request.Takes descriptor) →
      ∀ stdin stdin' : ByteArray, run outside args stdin environment = run outside args stdin' environment) ∧
    ∀ descriptor, i.request.Takes descriptor → ∀ stdin : ByteArray,
      ((i.perform stdin).outcome = .error .notUtf8 ↔ descriptor = none ∧ ¬stdin.IsValidUTF8) ∧
      ((i.perform stdin).outcome = .error .noInput ↔
        ∃ text, Chosen descriptor stdin text ∧ ∀ c ∈ text.toList, isBlank c = true) := by
  have hrun (stdin : ByteArray) : run outside args stdin environment = i.outcome outside stdin environment :=
    run_of_parse hparse outside stdin environment
  refine ⟨fun htakes text stdin => ?_, fun hnot stdin stdin' => ?_, fun descriptor htakes stdin => ?_⟩
  · have hsame (args' : List String) (hargs' : Invocation.parse args' = .ok (i.withDescriptor (some text))) :
        run outside args' stdin environment = run outside args text.toUTF8 environment := by
      rw [run_of_parse hargs', outcome_withDescriptor htakes, hrun]
    exact ⟨hsame, fun hargs => hsame _ (Invocation.parse_append_option hargs hparse htakes text)⟩
  · rw [hrun, hrun, Invocation.outcome, Invocation.outcome, perform_of_not_takes hnot stdin stdin']
  · rw [outcome_perform_eq_error htakes (by rintro m ⟨⟩), outcome_perform_eq_error htakes (by rintro m ⟨⟩)]
    exact ⟨outcome_readDescriptor_eq_notUtf8, outcome_readDescriptor_eq_noInput⟩

open Cli in
/-- The number in front of the descriptor is below zero. Where the option is given, the input is not even a text. -/
theorem run_descriptor_sources_comparison :
    ∃ o : Outcome, o = ⟨0, "true\n", "[DEBUG turbo_expr] descriptor: \x7b\"op\":\"<\"\x7d\n"⟩ ∧
      run .silent ["-v", "test", "-5", "--op=\x7b\"op\":\"<\"\x7d"] ⟨#[0xFF]⟩ (some "debug") = o ∧
      run .silent ["-v", "test", "-5"] "\x7b\"op\":\"<\"\x7d".toUTF8 (some "debug") = o := by
  have hparse : ∃ i, Invocation.parse ["-v", "test", "-5"] = .ok i ∧ i.request.Takes none :=
    ⟨_, rfl, .test _ _⟩
  obtain ⟨i, hi, htakes⟩ := hparse
  have hsame :=
    ((run_descriptor_sources hi .silent (some "debug")).1 htakes "\x7b\"op\":\"<\"\x7d" ⟨#[0xFF]⟩).2 (by decide)
  have hrun : run .silent ["-v", "test", "-5", "--op=\x7b\"op\":\"<\"\x7d"] ⟨#[0xFF]⟩ (some "debug") =
      ⟨0, "true\n", "[DEBUG turbo_expr] descriptor: \x7b\"op\":\"<\"\x7d\n"⟩ := by decide +kernel
  exact ⟨_, rfl, hrun, hsame.symm.trans hrun⟩

end Reckon
