import Mathlib.Data.List.Nodup
import ArtifactRules.Invocation

/-! The option for a longer log. Wherever an option may stand, it can be put in, and the arguments ask
for the same as without it, but for the log. -/

namespace ArtifactRules
namespace Arguments

variable {level : Level} {flags : List Flag} {pending : Option String} {before : List String}
  {given : Given} {argument : String}

namespace Given

def andThen (given other : Given) : Given :=
  ⟨given.options ++ other.options, given.positionals ++ other.positionals⟩

theorem andThen_empty : andThen {} = id :=
  rfl

theorem withOptions_andThen (options : List (String × String)) (given other : Given) :
    (given.withOptions options).andThen other = (given.andThen other).withOptions options := by
  simp [andThen, withOptions]

theorem map_andThen_withOptions (options : List (String × String)) (given : Given)
    (read : Option Given) :
    (read.map given.andThen).map (.withOptions options) =
      read.map (given.withOptions options).andThen := by
  rw [Option.map_map]
  congr 1
  funext other
  exact (withOptions_andThen options given other).symm

end Given

theorem eq_of_ofArgument_eq_ending (h : Token.ofArgument argument = .ending) : argument = "--" := by
  rw [Token.ofArgument] at h
  split at h
  · rename_i hdashes
    exact String.toList_inj.1 hdashes
  · exact absurd h (by simp [longToken])
  · exact absurd h (by simp)
  · exact absurd h (by simp)

theorem eq_of_ofArgument_eq_plain {text : String} (h : Token.ofArgument argument = .plain text) :
    argument = text := by
  rw [Token.ofArgument] at h
  split at h
  · exact absurd h (by simp)
  · exact absurd h (by simp [longToken])
  · exact absurd h (by simp)
  · exact Token.plain.inj h

/-- Arguments are read on where the ones before them have been read to their end: no option waits for
its value, and neither two dashes nor a command have ended the options. -/
theorem gather_append (h : gather level flags pending before = some given)
    (hending : "--" ∉ before) (hpositionals : level = .outer → given.positionals = [])
    (after : List String) :
    gather level flags pending (before ++ after) =
      (gather level flags none after).map given.andThen := by
  fun_induction gather level flags pending before generalizing given with
  | case1 =>
    obtain rfl := Option.some.inj h
    rw [Given.andThen_empty, Option.map_id_fun, id_eq, List.nil_append]
  | case2 => simp at h
  | case3 argument rest text name htoken ih =>
    obtain ⟨first, hfirst, rfl⟩ := Option.map_eq_some_iff.1 h
    have hrest := ih hfirst (List.not_mem_of_not_mem_cons hending) hpositionals
    simp only [List.cons_append, gather, htoken, hrest]
    exact Given.map_andThen_withOptions _ _ _
  | case4 argument rest text htoken hlevel =>
    -- a command would have been reached
    obtain rfl := Option.some.inj h
    exact absurd (hpositionals hlevel) (by simp)
  | case5 argument rest text htoken hlevel ih =>
    subst hlevel
    obtain ⟨first, hfirst, rfl⟩ := Option.map_eq_some_iff.1 h
    have hrest := ih hfirst (List.not_mem_of_not_mem_cons hending) (by simp)
    simp only [List.cons_append, gather, htoken, hrest, Option.map_map]
    rfl
  | case6 argument rest htoken => simp at h
  | case7 argument rest htoken =>
    exact absurd (eq_of_ofArgument_eq_ending htoken) fun heq => hending (by simp [heq])
  | case8 argument rest name value htoken ih =>
    obtain ⟨options, hoptions, hgiven⟩ := Option.bind_eq_some_iff.1 h
    obtain ⟨first, hfirst, rfl⟩ := Option.map_eq_some_iff.1 hgiven
    have hrest := ih options hfirst (List.not_mem_of_not_mem_cons hending) hpositionals
    simp only [List.cons_append, gather, htoken, hoptions, Option.bind_eq_bind, Option.bind_some,
      hrest]
    exact Given.map_andThen_withOptions _ _ _
  | case9 argument rest letters htoken ih =>
    obtain ⟨options, hoptions, hgiven⟩ := Option.bind_eq_some_iff.1 h
    obtain ⟨first, hfirst, rfl⟩ := Option.map_eq_some_iff.1 hgiven
    have hrest := ih options hfirst (List.not_mem_of_not_mem_cons hending) hpositionals
    simp only [List.cons_append, gather, htoken, hoptions, Option.bind_eq_bind, Option.bind_some,
      hrest]
    exact Given.map_andThen_withOptions _ _ _
  | case10 => simp at h

end Arguments

namespace Invocation

open Arguments

variable {level : Level} {flags : List Flag} {before after rest : List String}
  {flag word : String} {name : CommandName} {outer inner quiet loud given : Given}

def verboseSpellings : List String :=
  ["-v", "--verbose"]

theorem gather_verbose (h : flag ∈ verboseSpellings) (level : Level) (flags : List Flag)
    (rest : List String) :
    gather level (commonFlags ++ flags) none (flag :: rest) =
      (gather level (commonFlags ++ flags) none rest).map
        (.withOptions [(verboseFlag.long, "")]) := by
  simp only [verboseSpellings, List.mem_cons, List.not_mem_nil, or_false] at h
  obtain rfl | rfl := h <;> rfl

/-- The same arguments but for one more option, which asks for a longer log. -/
structure Louder (quiet loud : Given) : Prop where
  positionals_eq : loud.positionals = quiet.positionals
  options_eq : ∃ earlier later, quiet.options = earlier ++ later ∧
    loud.options = earlier ++ (verboseFlag.long, "") :: later

namespace Louder

theorem andThen (given other : Given) :
    Louder (given.andThen other) (given.andThen (other.withOptions [(verboseFlag.long, "")])) :=
  ⟨rfl, given.options, other.options, rfl, rfl⟩

theorem has_verboseFlag (h : Louder quiet loud) : loud.has verboseFlag = true := by
  obtain ⟨earlier, later, -, hloud⟩ := h.options_eq
  rw [Given.has, hloud]
  simp

theorem has_eq (h : Louder quiet loud) {flag : Flag} (hflag : verboseFlag.long ≠ flag.long) :
    loud.has flag = quiet.has flag := by
  obtain ⟨earlier, later, hquiet, hloud⟩ := h.options_eq
  rw [Given.has, Given.has, hquiet, hloud]
  simp [beq_false_of_ne hflag]

theorem value?_eq (h : Louder quiet loud) {flag : Flag} (hflag : verboseFlag.long ≠ flag.long) :
    loud.value? flag = quiet.value? flag := by
  obtain ⟨earlier, later, hquiet, hloud⟩ := h.options_eq
  rw [Given.value?, Given.value?, hquiet, hloud]
  simp [List.lookup_append, List.lookup_cons, beq_false_of_ne hflag.symm]

theorem isProper_eq (h : Louder quiet loud) :
    loud.isProper = (quiet.isProper && !quiet.has verboseFlag) := by
  obtain ⟨earlier, later, hquiet, hloud⟩ := h.options_eq
  have hgiven : quiet.has verboseFlag = true ↔
      verboseFlag.long ∈ (earlier ++ later).map Prod.fst := by
    rw [Given.has, hquiet, List.any_eq_true, List.mem_map]
    simp only [beq_iff_eq]
  rw [Bool.eq_iff_iff, Bool.and_eq_true, Bool.not_eq_true', ← Bool.not_eq_true, hgiven,
    Given.isProper, Given.isProper, hquiet, hloud, decide_eq_true_iff, decide_eq_true_iff,
    List.map_append, List.map_cons, List.nodup_middle, List.nodup_cons, ← List.map_append, and_comm]

theorem optionalPath?_eq (h : Louder quiet loud) {flag : Flag}
    (hflag : verboseFlag.long ≠ flag.long) : optionalPath? loud flag = optionalPath? quiet flag := by
  rw [optionalPath?, optionalPath?, h.value?_eq hflag]

theorem command?_eq (h : Louder quiet loud) (name : CommandName) :
    name.command? loud = name.command? quiet := by
  have hrules : optionalPath? loud rulesFlag = optionalPath? quiet rulesFlag :=
    h.optionalPath?_eq (by decide)
  have hheuristic : loud.has heuristicFlag = quiet.has heuristicFlag := h.has_eq (by decide)
  have hforce : loud.has forceFlag = quiet.has forceFlag := h.has_eq (by decide)
  cases name <;> simp only [CommandName.command?, h.positionals_eq, hrules, hheuristic, hforce]

end Louder

def asked? (outer : Given) (name : CommandName) (inner : Given) : Option (Option Path × Command) := do
  let outerPath ← optionalPath? outer settingsFlag
  let innerPath ← optionalPath? inner settingsFlag
  let command ← name.command? inner
  return (innerPath.or outerPath, command)

def ofAsked? (isProper verbose : Bool) (asked : Option (Option Path × Command)) :
    Option Invocation :=
  if isProper then
    asked.map fun (settingsPath, command) => { verbose, settingsPath, command }
  else none

def ofGiven? (outer : Given) (name : CommandName) (inner : Given) : Option Invocation :=
  ofAsked? (outer.isProper && inner.isProper) (outer.has verboseFlag || inner.has verboseFlag)
    (asked? outer name inner)

def ofOuter? (outer : Given) : Option Invocation :=
  match outer.positionals with
  | [] => none
  | word :: rest =>
    (CommandName.ofName? word).bind fun name =>
      (gather .inner (commonFlags ++ name.flags) none rest).bind (ofGiven? outer name)

theorem ofOuter?_of_cons (hpositionals : outer.positionals = word :: rest)
    (hword : CommandName.ofName? word = some name) :
    ofOuter? outer =
      (gather .inner (commonFlags ++ name.flags) none rest).bind (ofGiven? outer name) := by
  simp only [ofOuter?, hpositionals, hword, Option.bind_some]

theorem ofArguments?_eq (arguments : List String) :
    ofArguments? arguments = (gather .outer commonFlags none arguments).bind ofOuter? := by
  rw [ofArguments?]
  refine bind_congr fun outer => ?_
  rw [ofOuter?]
  cases outer.positionals with
  | nil => rfl
  | cons word rest =>
    refine bind_congr fun name => bind_congr fun inner => ?_
    rw [ofGiven?, ofAsked?, asked?]
    cases outer.isProper && inner.isProper with
    | false => rfl
    | true =>
      cases optionalPath? outer settingsFlag with
      | none => rfl
      | some outerPath =>
        cases optionalPath? inner settingsFlag with
        | none => rfl
        | some innerPath => cases name.command? inner <;> rfl

/-- No longer log is asked for, if the arguments ask for a run at all. -/
def IsQuiet (asked : Option Invocation) : Prop :=
  ∀ invocation ∈ asked, invocation.verbose = false

def mayAsk (argument : String) : Bool :=
  match Token.ofArgument argument with
  | .long name _ => name == verboseFlag.long
  | .letters cs => cs.contains 'v'
  | _ => false

def LettersApart (flags : List Flag) : Prop :=
  ∀ flag ∈ flags, flag.long = verboseFlag.long → flag.short = some 'v'

theorem lettersApart_flags (name : CommandName) : LettersApart (commonFlags ++ name.flags) := by
  rw [LettersApart]
  cases name <;> decide

/-- None of the options asks for a longer log, nor does the one that waits for its value. -/
structure Silent (options : Options) : Prop where
  given_ne : ∀ entry ∈ options.given, entry.1 ≠ verboseFlag.long
  pending_ne : options.pending ≠ some verboseFlag.long

theorem silent_of_longOption {longName : String} {value : Option String} {options : Options}
    (hname : longName ≠ verboseFlag.long) (h : longOption flags longName value = some options) :
    Silent options := by
  fun_cases longOption flags longName value with
  | case1 value hfind => simp [longOption, hfind] at h
  | case2 flag value hfind htakes =>
    obtain rfl : ⟨[(longName, value)], none⟩ = options := by
      simpa [longOption, hfind, htakes] using h
    exact ⟨by simpa using hname, by simp⟩
  | case3 flag value hfind htakes => simp [longOption, hfind, htakes] at h
  | case4 flag hfind htakes =>
    obtain rfl : ⟨[], some longName⟩ = options := by
      simpa [longOption, hfind, htakes] using h
    exact ⟨by simp, by simpa using hname⟩
  | case5 flag hfind htakes =>
    obtain rfl : ⟨[(longName, "")], none⟩ = options := by
      simpa [longOption, hfind, htakes] using h
    exact ⟨by simpa using hname, by simp⟩

theorem long_ne_of_find? {c : Char} {found : Flag} (hflags : LettersApart flags) (hc : c ≠ 'v')
    (h : flags.find? (·.short == some c) = some found) : found.long ≠ verboseFlag.long := by
  intro hverbose
  have hshort := hflags found (List.mem_of_find?_eq_some h) hverbose
  have hletter := List.find?_some h
  rw [hshort, beq_iff_eq, Option.some.injEq] at hletter
  exact hc hletter.symm

theorem silent_of_letterOptions {cs : List Char} {options : Options} (hflags : LettersApart flags)
    (hletters : 'v' ∉ cs) (h : letterOptions flags cs = some options) : Silent options := by
  fun_induction letterOptions flags cs generalizing options with
  | case1 =>
    obtain rfl := Option.some.inj h
    exact ⟨by simp, by simp⟩
  | case2 => simp at h
  | case3 c flag hfind htakes =>
    have hlong := long_ne_of_find? hflags (by simpa [eq_comm] using hletters) hfind
    obtain rfl := Option.some.inj h
    exact ⟨by simp, by simpa using hlong⟩
  | case4 c cs flag hfind htakes hcs =>
    rw [List.mem_cons, not_or] at hletters
    have hlong := long_ne_of_find? hflags (Ne.symm hletters.1) hfind
    obtain rfl := Option.some.inj h
    exact ⟨by simpa using hlong, by simp⟩
  | case5 c cs flag hfind htakes ih =>
    rw [List.mem_cons, not_or] at hletters
    have hlong := long_ne_of_find? hflags (Ne.symm hletters.1) hfind
    obtain ⟨more, hmore, rfl⟩ := Option.map_eq_some_iff.1 h
    have hsilent := ih hletters.2 hmore
    exact ⟨List.forall_mem_cons.2 ⟨hlong, hsilent.given_ne⟩, hsilent.pending_ne⟩

structure Unasked (given : Given) : Prop where
  has_eq : given.has verboseFlag = false
  mayAsk_eq : ∀ argument ∈ given.positionals, mayAsk argument = false

theorem Unasked.withOptions {options : List (String × String)} (h : Unasked given)
    (hoptions : ∀ entry ∈ options, entry.1 ≠ verboseFlag.long) :
    Unasked (given.withOptions options) := by
  refine ⟨?_, h.mayAsk_eq⟩
  have hany : options.any (·.1 == verboseFlag.long) = false := by
    simpa using hoptions
  rw [Given.has, Given.withOptions, List.any_append, hany, Bool.false_or]
  exact h.has_eq

theorem unasked_of_gather {pending : Option String} {arguments : List String}
    (hflags : LettersApart flags) (hpending : pending ≠ some verboseFlag.long)
    (harguments : ∀ argument ∈ arguments, mayAsk argument = false)
    (h : gather level flags pending arguments = some given) : Unasked given := by
  fun_induction gather level flags pending arguments generalizing given with
  | case1 =>
    obtain rfl := Option.some.inj h
    exact ⟨rfl, by simp⟩
  | case2 => simp at h
  | case3 argument rest text name htoken ih =>
    obtain ⟨first, hfirst, rfl⟩ := Option.map_eq_some_iff.1 h
    have hrest := ih (by simp) (List.forall_mem_cons.1 harguments).2 hfirst
    exact hrest.withOptions (by simpa using hpending)
  | case4 argument rest text htoken hlevel =>
    obtain rfl := Option.some.inj h
    obtain rfl := eq_of_ofArgument_eq_plain htoken
    exact ⟨rfl, harguments⟩
  | case5 argument rest text htoken hlevel ih =>
    obtain ⟨first, hfirst, rfl⟩ := Option.map_eq_some_iff.1 h
    obtain rfl := eq_of_ofArgument_eq_plain htoken
    have hrest := ih (by simp) (List.forall_mem_cons.1 harguments).2 (hlevel ▸ hfirst)
    exact ⟨hrest.has_eq,
      List.forall_mem_cons.2 ⟨(List.forall_mem_cons.1 harguments).1, hrest.mayAsk_eq⟩⟩
  | case6 argument rest htoken => simp at h
  | case7 argument rest htoken =>
    obtain rfl := Option.some.inj h
    exact ⟨rfl, (List.forall_mem_cons.1 harguments).2⟩
  | case8 argument rest name value htoken ih =>
    obtain ⟨hargument, hrest⟩ := List.forall_mem_cons.1 harguments
    rw [mayAsk, htoken] at hargument
    obtain ⟨options, hoptions, hgiven⟩ := Option.bind_eq_some_iff.1 h
    obtain ⟨first, hfirst, rfl⟩ := Option.map_eq_some_iff.1 hgiven
    have hsilent := silent_of_longOption (ne_of_beq_false hargument) hoptions
    exact (ih options hsilent.pending_ne hrest hfirst).withOptions hsilent.given_ne
  | case9 argument rest letters htoken ih =>
    obtain ⟨hargument, hrest⟩ := List.forall_mem_cons.1 harguments
    rw [mayAsk, htoken] at hargument
    obtain ⟨options, hoptions, hgiven⟩ := Option.bind_eq_some_iff.1 h
    obtain ⟨first, hfirst, rfl⟩ := Option.map_eq_some_iff.1 hgiven
    have hsilent := silent_of_letterOptions hflags (by simpa using hargument) hoptions
    exact (ih options hsilent.pending_ne hrest hfirst).withOptions hsilent.given_ne
  | case10 => simp at h

/-- Without the option no longer log is asked for. -/
theorem isQuiet_of_forall {arguments : List String}
    (h : ∀ argument ∈ arguments, mayAsk argument = false) : IsQuiet (ofArguments? arguments) := by
  intro invocation hinvocation
  rw [ofArguments?_eq] at hinvocation
  obtain ⟨outer, houter, hrest⟩ := Option.bind_eq_some_iff.1 hinvocation
  have hunasked := unasked_of_gather (lettersApart_flags .check) (by simp) h houter
  rw [ofOuter?] at hrest
  split at hrest
  · simp at hrest
  · rename_i word rest hpositionals
    obtain ⟨name, -, hname⟩ := Option.bind_eq_some_iff.1 hrest
    obtain ⟨inner, hinner, hgiven⟩ := Option.bind_eq_some_iff.1 hname
    have hleft := hunasked.mayAsk_eq
    rw [hpositionals] at hleft
    have hinnerUnasked := unasked_of_gather (lettersApart_flags name) (by simp)
      (List.forall_mem_cons.1 hleft).2 hinner
    rw [ofGiven?, ofAsked?] at hgiven
    split at hgiven
    · obtain ⟨asked, -, rfl⟩ := Option.map_eq_some_iff.1 hgiven
      simp [hunasked.has_eq, hinnerUnasked.has_eq]
    · simp at hgiven

def louder (invocation : Invocation) : Invocation :=
  { invocation with verbose := true }

theorem ofAsked?_true {isProper isProper' verbose : Bool}
    {asked : Option (Option Path × Command)} (hquiet : IsQuiet (ofAsked? isProper verbose asked))
    (hproper : isProper' = true → isProper = true)
    (hsame : verbose = false → isProper' = isProper) :
    ofAsked? isProper' true asked = (ofAsked? isProper verbose asked).map louder := by
  cases isProper with
  | false =>
    have hnone : isProper' = false := Bool.eq_false_iff.2 fun h => Bool.false_ne_true (hproper h)
    rw [hnone]
    rfl
  | true =>
    cases asked with
    | none => cases isProper' <;> rfl
    | some asked =>
      rw [hsame (hquiet _ rfl)]
      rfl

theorem ofGiven?_of_louder_outer (h : Louder quiet loud)
    (hquiet : IsQuiet (ofGiven? quiet name inner)) :
    ofGiven? loud name inner = (ofGiven? quiet name inner).map louder := by
  have hasked : asked? loud name inner = asked? quiet name inner := by
    rw [asked?, asked?, h.optionalPath?_eq (by decide)]
  rw [ofGiven?, hasked, h.isProper_eq, h.has_verboseFlag, Bool.true_or]
  exact ofAsked?_true hquiet (by simp +contextual) (by simp +contextual)

theorem ofGiven?_of_louder_inner (h : Louder quiet loud)
    (hquiet : IsQuiet (ofGiven? outer name quiet)) :
    ofGiven? outer name loud = (ofGiven? outer name quiet).map louder := by
  have hasked : asked? outer name loud = asked? outer name quiet := by
    rw [asked?, asked?, h.optionalPath?_eq (by decide), h.command?_eq]
  rw [ofGiven?, hasked, h.isProper_eq, h.has_verboseFlag, Bool.or_true]
  exact ofAsked?_true hquiet (by simp +contextual) (by simp +contextual)

theorem ofOuter?_of_louder (h : Louder quiet loud) (hquiet : IsQuiet (ofOuter? quiet)) :
    ofOuter? loud = (ofOuter? quiet).map louder := by
  rw [ofOuter?] at hquiet
  rw [ofOuter?, ofOuter?, h.positionals_eq]
  cases hpositionals : quiet.positionals with
  | nil => rfl
  | cons word rest =>
    rw [hpositionals] at hquiet
    cases hword : CommandName.ofName? word with
    | none => simp only [hword]; rfl
    | some name =>
      simp only [hword, Option.bind_some] at hquiet ⊢
      cases hinner : gather .inner (commonFlags ++ name.flags) none rest with
      | none => rfl
      | some inner =>
        rw [hinner] at hquiet
        exact ofGiven?_of_louder_outer h hquiet

/-- What stands here is read to its end, and leaves the reader where an option may follow. -/
structure ReadsOn (level : Level) (flags : List Flag) (before : List String) (given : Given) :
    Prop where
  gather_eq : gather level flags none before = some given
  ending_notMem : "--" ∉ before
  positionals_eq : level = .outer → given.positionals = []

namespace ReadsOn

theorem gather_append (h : ReadsOn level flags before given) (after : List String) :
    gather level flags none (before ++ after) = (gather level flags none after).map given.andThen :=
  Arguments.gather_append h.gather_eq h.ending_notMem h.positionals_eq after

theorem gather_insert (h : ReadsOn level (commonFlags ++ flags) before given)
    (hflag : flag ∈ verboseSpellings) (after : List String) :
    gather level (commonFlags ++ flags) none (before ++ flag :: after) =
      (gather level (commonFlags ++ flags) none after).map fun other =>
        given.andThen (other.withOptions [(verboseFlag.long, "")]) := by
  rw [h.gather_append, gather_verbose hflag, Option.map_map]
  rfl

end ReadsOn

/-- The places of a common option: before the name of a command, or after it. -/
inductive TakesOption : List String → Prop
  | outer {before : List String} {given : Given} (h : ReadsOn .outer commonFlags before given) :
    TakesOption before
  | inner {before between : List String} {word : String} {name : CommandName} {given given' : Given}
    (houter : ReadsOn .outer commonFlags before given)
    (hword : CommandName.ofName? word = some name)
    (hinner : ReadsOn .inner (commonFlags ++ name.flags) between given') :
    TakesOption (before ++ word :: between)

theorem ofArgument_of_ofName? (h : CommandName.ofName? word = some name) :
    Token.ofArgument word = .plain word := by
  have hplain : ∀ word ∈ ["check", "classify", "c", "labels", "config", "template"],
      Token.ofArgument word = .plain word := by decide
  refine hplain word ?_
  by_contra hother
  simp only [List.mem_cons, List.not_mem_nil, or_false, not_or] at hother
  simp [CommandName.ofName?, hother] at h

theorem ofArguments?_of_readsOn (houter : ReadsOn .outer commonFlags before given)
    (hword : CommandName.ofName? word = some name) (rest : List String) :
    ofArguments? (before ++ word :: rest) =
      (gather .inner (commonFlags ++ name.flags) none rest).bind (ofGiven? given name) := by
  have hrest : gather .outer commonFlags none (word :: rest) = some ⟨[], word :: rest⟩ := by
    simp only [gather, ofArgument_of_ofName? hword]
  have hgiven : given.andThen ⟨[], word :: rest⟩ = ⟨given.options, word :: rest⟩ := by
    rw [Given.andThen, houter.positionals_eq rfl, List.append_nil, List.nil_append]
  rw [ofArguments?_eq, houter.gather_append, hrest, Option.map_some, Option.bind_some, hgiven,
    ofOuter?_of_cons rfl hword]
  rfl

/-- The option for a longer log asks for nothing but that. -/
theorem ofArguments?_insert (hplace : TakesOption before) (hflag : flag ∈ verboseSpellings)
    (hquiet : IsQuiet (ofArguments? (before ++ after))) :
    ofArguments? (before ++ flag :: after) = (ofArguments? (before ++ after)).map louder := by
  cases hplace with
  | @outer _ given h =>
    -- no command has flags of its own yet
    have hread : ReadsOn .outer (commonFlags ++ []) before given := h
    have hinsert := hread.gather_insert hflag after
    rw [List.append_nil] at hinsert
    rw [ofArguments?_eq, h.gather_append] at hquiet
    rw [ofArguments?_eq, ofArguments?_eq, hinsert, h.gather_append]
    cases hafter : gather .outer commonFlags none after with
    | none => rfl
    | some other =>
      rw [hafter] at hquiet
      exact ofOuter?_of_louder (Louder.andThen given other) hquiet
  | @inner first between word name given given' houter hword hinner =>
    rw [List.append_assoc, List.cons_append, ofArguments?_of_readsOn houter hword,
      hinner.gather_append] at hquiet
    rw [List.append_assoc, List.append_assoc, List.cons_append, List.cons_append,
      ofArguments?_of_readsOn houter hword, ofArguments?_of_readsOn houter hword,
      hinner.gather_insert hflag, hinner.gather_append]
    cases hafter : gather .inner (commonFlags ++ name.flags) none after with
    | none => rfl
    | some other =>
      rw [hafter] at hquiet
      exact ofGiven?_of_louder_inner (Louder.andThen given' other) hquiet

end Invocation

end ArtifactRules
