import Reckon.Proofs.Cli.Outcomes

/-!
# What the flags may change

Two flags and the filter of the environment say how a run is watched: one asks for results over several lines, the
other and the filter choose the records that are shown. A result has no parts to put on lines of their own, so that
the first changes nothing at all (`print_eq_print`), and the records are written before any of them is chosen: a request
is the same attempt under all flags (`Invocation.perform_congr`).
-/

namespace Reckon

namespace Cli

theorem print_eq_print (pretty pretty' : Bool) (c : Command) : print pretty c = print pretty' c := by
  refine Attempt.bind_congr ?_
  intro v hv
  rw [Command.pretty_eq_compact hv, ite_self, ite_self]

variable {i i' : Invocation}

theorem Invocation.perform_congr (h : i.request = i'.request) (stdin : ByteArray) :
    i.perform stdin = i'.perform stdin := by
  obtain ⟨request, pretty, verbose⟩ := i
  obtain ⟨request', pretty', verbose'⟩ := i'
  obtain rfl : request = request' := h
  cases request with
  | eval expression x => exact print_eq_print pretty pretty' _
  | apply v descriptor => exact Attempt.bind_congr fun o _ => print_eq_print pretty pretty' _
  | test v descriptor => exact Attempt.bind_congr fun o _ => print_eq_print pretty pretty' _
  | check expression => rfl
  | ops => rfl

/-- With the same records to show, and the same filter, there is nothing to tell two runs apart. -/
theorem Invocation.outcome_congr (h : i.request = i'.request) (hverbose : i.verbose = i'.verbose)
    (outside : Externals) (stdin : ByteArray) (environment : Option String) :
    i.outcome outside stdin environment = i'.outcome outside stdin environment := by
  rw [outcome, outcome, perform_congr h, hverbose]

/-- Runs for one request differ in the records that they show, and in nothing else. -/
theorem exists_outcome_parts (h : i.request = i'.request) (outside : Externals) (stdin : ByteArray)
    (environment environment' : Option String) :
    ∃ code out rest, i.outcome outside stdin environment = ⟨code, out, i.shown outside stdin environment ++ rest⟩ ∧
      i'.outcome outside stdin environment' = ⟨code, out, i'.shown outside stdin environment' ++ rest⟩ := by
  rcases i.request.writes_or_fails stdin with ⟨out, hwrites⟩ | ⟨e, hfails⟩
  · have hwrites' : i'.request.Writes stdin out := h ▸ hwrites
    refine ⟨0, out, "", ?_, ?_⟩
    · rw [hwrites.outcome_eq, String.append_empty]
    · rw [hwrites'.outcome_eq, String.append_empty]
  · have hfails' : i'.request.Fails stdin e := h ▸ hfails
    exact ⟨1, "", e.report outside, hfails.outcome_eq, hfails'.outcome_eq⟩

end Cli

/-! ## The headline theorem -/

open Cli in
/-- **To watch a run does not change it.** Two command lines that ask for the same, with the same on the input, lead to
the same code and the same output, whatever their flags and whatever filter the environment asks for; the same records
are written, and beside those that are shown the same is reported. If only the layout of results is different, the runs
are equal in every respect, for a result has one text in either layout. -/
theorem observation_does_not_interfere {args args' : List String} {i i' : Invocation}
    (hparse : Invocation.parse args = .ok i) (hparse' : Invocation.parse args' = .ok i')
    (hrequest : i.request = i'.request) (outside : Externals) (stdin : ByteArray)
    (environment environment' : Option String) :
    (run outside args stdin environment).code = (run outside args' stdin environment').code ∧
    (run outside args stdin environment).stdout = (run outside args' stdin environment').stdout ∧
    (∃ rest, (run outside args stdin environment).stderr = i.shown outside stdin environment ++ rest ∧
      (run outside args' stdin environment').stderr = i'.shown outside stdin environment' ++ rest) ∧
    (i.perform stdin).log = (i'.perform stdin).log ∧
    (i.verbose = i'.verbose → run outside args stdin environment = run outside args' stdin environment) ∧
    ∀ (c : Command) (v : Json), c.execute.outcome = .ok v → v.pretty = v.compact := by
  rw [run_of_parse hparse, run_of_parse hparse', run_of_parse hparse']
  obtain ⟨code, out, rest, hparts, hparts'⟩ := exists_outcome_parts hrequest outside stdin environment environment'
  refine ⟨?_, ?_, ⟨rest, ?_, ?_⟩, ?_, ?_, ?_⟩
  · rw [hparts, hparts']
  · rw [hparts, hparts']
  · rw [hparts]
  · rw [hparts']
  · rw [Invocation.perform_congr hrequest]
  · intro hverbose
    exact Invocation.outcome_congr hrequest hverbose outside stdin environment
  · intro c v h
    exact Command.pretty_eq_compact h

open Cli in
/-- The record is shown in the first run alone, and the error is reported in both. -/
theorem observation_does_not_interfere_unmatched :
    ∃ (i i' : Invocation) (rest : String), Invocation.parse ["-v", "eval", "(x"] = .ok i ∧
      Invocation.parse ["eval", "-p", "(x"] = .ok i' ∧ i.request = i'.request ∧
      (run .silent ["-v", "eval", "(x"] ⟨#[]⟩ none).stderr = i.shown .silent ⟨#[]⟩ none ++ rest ∧
      (run .silent ["eval", "-p", "(x"] ⟨#[]⟩ (some "off")).stderr = i'.shown .silent ⟨#[]⟩ (some "off") ++ rest ∧
      (i.perform ⟨#[]⟩).log = (i'.perform ⟨#[]⟩).log ∧
      run .silent ["-v", "eval", "(x"] ⟨#[]⟩ none =
        ⟨1, "", "[DEBUG turbo_expr::evaluator] rejecting expression \"(x\": unmatched '('\n" ++
          "Evaluation error: malformed expression '(x': unmatched '('\n"⟩ ∧
      run .silent ["eval", "-p", "(x"] ⟨#[]⟩ (some "off") =
        ⟨1, "", "Evaluation error: malformed expression '(x': unmatched '('\n"⟩ := by
  have hparse : ∃ x, Invocation.parse ["-v", "eval", "(x"] = .ok ⟨.eval "(x" x, false, true⟩ ∧
      Invocation.parse ["eval", "-p", "(x"] = .ok ⟨.eval "(x" x, true, false⟩ := ⟨_, rfl, rfl⟩
  obtain ⟨x, hi, hi'⟩ := hparse
  obtain ⟨-, -, ⟨rest, hrest, hrest'⟩, hlog, -⟩ :=
    observation_does_not_interfere hi hi' rfl .silent ⟨#[]⟩ none (some "off")
  exact ⟨_, _, rest, hi, hi', rfl, hrest, hrest', hlog, by decide +kernel, by decide +kernel⟩

end Reckon
