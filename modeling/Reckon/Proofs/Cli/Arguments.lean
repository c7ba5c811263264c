import Reckon.Cli.Arguments
import Reckon.Proofs.Attempt

/-!
# Adding an option to a command line

The option that holds a descriptor may be put at the end of a command line that does not have it
(`Invocation.parse_append_option`). Nothing else is read otherwise: the request is the same but for the descriptor.

An argument at the end is read as an option unless the value of another is still to come, or a double hyphen stood
before it. The first would have been an error; that no other argument ends the options is what one step has to
show (`Given.ne_positionals_of_take`).
-/

namespace Reckon.Cli

/-- What a request takes for its descriptor: the value of the option, or nothing where the option is not given.
The other requests have none. -/
inductive Request.Takes : Request → Option String → Prop
  | apply (v : Float) (descriptor : Option String) : Takes (.apply v descriptor) descriptor
  | test (v : Float) (descriptor : Option String) : Takes (.test v descriptor) descriptor

/-- The same request with another descriptor. -/
def Request.withDescriptor (descriptor : Option String) : Request → Request
  | .apply v _ => .apply v descriptor
  | .test v _ => .test v descriptor
  | r => r

def Invocation.withDescriptor (i : Invocation) (descriptor : Option String) : Invocation :=
  { i with request := i.request.withDescriptor descriptor }

theorem Invocation.withDescriptor_of_takes {i : Invocation} {descriptor : Option String}
    (h : i.request.Takes descriptor) : i.withDescriptor descriptor = i := by
  obtain ⟨request, pretty, verbose⟩ := i
  cases h with
  | apply v => rfl
  | test v => rfl

/-! ## One argument -/

theorem Spelling.of_option (text : String) : of ("--op=" ++ text) = .long "op" (some text) := by
  simp [of, String.toList_append, String.ofList_toList]

theorem Spelling.eq_of_separator {arg : String} (h : of arg = .separator) : arg = "--" := by
  rw [of] at h
  split at h
  · next hlist => exact String.toList_injective hlist
  all_goals cases h

namespace Given

variable {s : Shape} {g g' : Given} {mode mode' : Mode}

theorem take_option {short : Char} {takesHyphens : Bool} (hs : s.option = some ⟨short, "op", takesHyphens⟩)
    (hg : g.option = none) (text : String) :
    g.take s .any ("--op=" ++ text) = .ok ({ g with option := some text }, .any) := by
  have hknown : s.isKnownName "op" = true := by
    simp [Shape.isKnownName, hs]
  have hvalue : s.isValue g (.long "op" (some text)) = false := by
    simp [Shape.isValue, hknown]
  have hlong : g.take s .any ("--op=" ++ text) = g.takeLong s "op" (some text) := by
    rw [take, Spelling.of_option, hvalue]
    rfl
  rw [hlong, takeLong.eq_def, hknown, hs]
  show (g.setOption _ text >>= _) = _
  rw [setOption, hg]
  rfl

/-- A step that takes a value fixes what comes next by itself. -/
theorem mode_of_bind {a : Except Stop Given} (h : (do return (← a, mode')) = Except.ok (g', mode)) :
    mode = mode' := by
  obtain ⟨g₁, -, hpair⟩ := bind_eq_ok.mp h
  cases hpair
  rfl

theorem ne_positionals_of_takeLetters {cs : List Char} (h : g.takeLetters s cs = .ok (g', mode)) :
    mode ≠ .positionals := by
  induction cs generalizing g with
  | nil =>
      cases h
      decide
  | cons c cs ih =>
      rw [takeLetters] at h
      split at h
      · obtain ⟨g₁, -, hrest⟩ := bind_eq_ok.mp h
        exact ih hrest
      · split at h
        · obtain ⟨g₁, -, hrest⟩ := bind_eq_ok.mp h
          exact ih hrest
        · -- what is left over is the letter of the option, with its value or before it
          repeat' split at h
          all_goals first
            | (cases h <;> decide)
            | (rw [mode_of_bind h]; decide)

theorem ne_positionals_of_takeLong {name : String} {value : Option String}
    (h : g.takeLong s name value = .ok (g', mode)) : mode ≠ .positionals := by
  rw [takeLong.eq_def] at h
  repeat' split at h
  all_goals first
    | (cases h <;> decide)
    | (rw [mode_of_bind h]; decide)

/-- Only a double hyphen ends flags and options. -/
theorem ne_positionals_of_take {arg : String} (hmode : mode ≠ .positionals) (harg : arg ≠ "--")
    (h : g.take s mode arg = .ok (g', mode')) : mode' ≠ .positionals := by
  cases mode with
  | positionals => exact absurd rfl hmode
  | value =>
      rw [take] at h
      repeat' split at h
      all_goals first
        | cases h
        | (rw [mode_of_bind h]; decide)
  | any =>
      rw [take] at h
      split at h
      · rw [mode_of_bind h]
        decide
      · cases hspelling : Spelling.of arg with
        | separator => exact absurd (Spelling.eq_of_separator hspelling) harg
        | long name value =>
            rw [hspelling] at h
            exact ne_positionals_of_takeLong h
        | letters cs =>
            rw [hspelling] at h
            exact ne_positionals_of_takeLetters h
        | plain =>
            rw [hspelling] at h
            cases h

/-- And so it stays over a whole command line. -/
theorem ne_positionals_of_foldlM {args : List String} (hmode : mode ≠ .positionals) (hargs : "--" ∉ args)
    (h : args.foldlM (fun st arg => st.1.take s st.2 arg) (g, mode) = .ok (g', mode')) :
    mode' ≠ .positionals := by
  induction args generalizing g mode with
  | nil =>
      cases h
      exact hmode
  | cons arg args ih =>
      rw [List.foldlM_cons] at h
      obtain ⟨⟨g₁, mode₁⟩, htake, hrest⟩ := bind_eq_ok.mp h
      rw [List.mem_cons, not_or] at hargs
      exact ih (ne_positionals_of_take hmode (Ne.symm hargs.1) htake) hargs.2 hrest

/-- The option at the end of the arguments of a command. -/
theorem takeAll_append_option {short : Char} {takesHyphens : Bool}
    (hs : s.option = some ⟨short, "op", takesHyphens⟩) {args : List String} (hargs : "--" ∉ args)
    (h : takeAll s args = .ok g) (hg : g.option = none) (text : String) :
    takeAll s (args ++ ["--op=" ++ text]) = .ok { g with option := some text } := by
  rw [takeAll] at h
  obtain ⟨⟨g₁, mode⟩, hfold, hend⟩ := bind_eq_ok.mp h
  have hend : (if mode == .value then throw (.usage (.missingValue ("--" ++ s.option.elim "" (·.long)))) else
      pure g₁ : Except Stop Given) = .ok g := hend
  have hmode : mode ≠ .positionals := ne_positionals_of_foldlM (by decide) hargs hfold
  cases mode with
  | positionals => exact absurd rfl hmode
  | value => cases hend
  | any =>
      cases hend
      rw [takeAll, List.foldlM_append, hfold]
      show ((g.take s .any ("--op=" ++ text) >>= pure) >>= _) = _
      rw [take_option hs hg]
      rfl

end Given

/-- A command that takes a descriptor has the option for it, and takes whatever is given there. -/
theorem Subcommand.option_of_takes {c : Subcommand} {g : Given} {r : Request} {descriptor : Option String}
    (h : c.request g = .ok r) (htakes : r.Takes descriptor) :
    g.option = descriptor ∧ c.shape.option = some ⟨'o', "op", false⟩ ∧
      ∀ descriptor', c.request { g with option := descriptor' } = .ok (r.withDescriptor descriptor') := by
  cases c with
  | eval =>
      obtain ⟨text, hargument, hread⟩ := bind_eq_ok.mp h
      obtain ⟨x, hx, hr⟩ := bind_eq_ok.mp hread
      cases hr
      cases htakes
  | apply | test =>
      obtain ⟨text, hargument, hread⟩ := bind_eq_ok.mp h
      obtain ⟨x, hx, hr⟩ := bind_eq_ok.mp hread
      cases hr
      cases htakes
      refine ⟨rfl, rfl, fun descriptor' => ?_⟩
      exact bind_eq_ok.mpr ⟨text, hargument, bind_eq_ok.mpr ⟨x, hx, rfl⟩⟩
  | check =>
      obtain ⟨text, -, hr⟩ := bind_eq_ok.mp h
      cases hr
      cases htakes
  | ops =>
      cases h
      cases htakes

namespace Invocation

theorem ofCommand_append_option {leading : Given} {c : Subcommand} {args : List String} {i : Invocation}
    (hargs : "--" ∉ args) (h : ofCommand leading c args = .ok i) (htakes : i.request.Takes none)
    (text : String) :
    ofCommand leading c (args ++ ["--op=" ++ text]) = .ok (i.withDescriptor (some text)) := by
  obtain ⟨g, htaken, hrest⟩ := bind_eq_ok.mp h
  obtain ⟨r, hr, hi⟩ := bind_eq_ok.mp hrest
  cases hi
  obtain ⟨hoption, hshape, hrequest⟩ := Subcommand.option_of_takes hr htakes
  rw [ofCommand, Given.takeAll_append_option hshape hargs htaken hoption text]
  show (c.request { g with option := some text } >>= _) = _
  rw [hrequest (some text)]
  rfl

theorem parseFrom_append_option {st : Given × Mode} {args : List String} {i : Invocation}
    (hargs : "--" ∉ args) (h : parseFrom st args = .ok i) (htakes : i.request.Takes none) (text : String) :
    parseFrom st (args ++ ["--op=" ++ text]) = .ok (i.withDescriptor (some text)) := by
  induction args generalizing st with
  | nil => cases h
  | cons arg args ih =>
      rw [List.mem_cons, not_or] at hargs
      rw [List.cons_append, parseFrom]
      rw [parseFrom] at h
      split at h
      · cases h
      · next hhelp =>
        rw [if_neg hhelp]
        split at h
        · exact ofCommand_append_option hargs.2 h htakes text
        · obtain ⟨st₁, htake, hrest⟩ := bind_eq_ok.mp h
          exact bind_eq_ok.mpr ⟨st₁, htake, ih hargs.2 hrest⟩

theorem parse_append_option {args : List String} {i : Invocation} (hargs : "--" ∉ args)
    (h : parse args = .ok i) (htakes : i.request.Takes none) (text : String) :
    parse (args ++ ["--op=" ++ text]) = .ok (i.withDescriptor (some text)) :=
  parseFrom_append_option hargs h htakes text

end Invocation

end Reckon.Cli
