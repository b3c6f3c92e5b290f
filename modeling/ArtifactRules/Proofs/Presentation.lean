import ArtifactRules.Program
import ArtifactRules.Proofs.StyleCodes
import ArtifactRules.Proofs.VerboseOption

/-! Presentation: neither colours nor the option for a longer log change what a run does. -/

namespace ArtifactRules
namespace Program

open Invocation

variable {before after : List String} {flag : String}

/-- Two runs that end alike, the codes of colours and the log aside. -/
structure LooksLike (finished other : Finished) : Prop where
  code_eq : finished.code = other.code
  tree_eq : finished.tree = other.tree
  output_eq : Terminal.plain finished.output = Terminal.plain other.output
  complaint_eq : Terminal.plain finished.complaint = Terminal.plain other.complaint

theorem looksLike_finish (around : Surroundings) (invocation : Invocation) (tree : FileTree)
    (traced : Traced Report) (colours colours' verbose verbose' : Bool) :
    LooksLike (finish { around with colours } { invocation with verbose } tree traced)
      (finish { around with colours := colours' } { invocation with verbose := verbose' } tree
        traced) := by
  cases hresult : traced.result with
  | ok report =>
    rw [finish, finish, hresult]
    refine ⟨rfl, rfl, ?_, rfl⟩
    exact (Terminal.plain_render (Terminal.apart_reportLines _ report) _).trans
      (Terminal.plain_render (Terminal.apart_reportLines _ report) _).symm
  | error failure =>
    rw [finish, finish, hresult]
    refine ⟨rfl, rfl, rfl, ?_⟩
    exact (Terminal.plain_render (Terminal.apart_failureLines failure) _).trans
      (Terminal.plain_render (Terminal.apart_failureLines failure) _).symm

/-- The arguments, with the option for a longer log put in where they take one, or without it. -/
def asking (verbose : Bool) (before : List String) (flag : String) (after : List String) :
    List String :=
  if verbose then before ++ flag :: after else before ++ after

theorem ofArguments?_asking (hplace : TakesOption before) (hflag : flag ∈ verboseSpellings)
    (hquiet : IsQuiet (ofArguments? (before ++ after))) (verbose : Bool) :
    ofArguments? (asking verbose before flag after) =
      (ofArguments? (before ++ after)).map fun invocation => { invocation with verbose } := by
  cases verbose with
  | true => exact ofArguments?_insert hplace hflag hquiet
  | false =>
    rw [asking, if_neg Bool.false_ne_true]
    cases hasked : ofArguments? (before ++ after) with
    | none => rfl
    | some invocation =>
      rw [Option.map_some, ← hquiet invocation hasked]

/-- Neither colours nor the option for a longer log change the code or the files of a run, or what it
prints but for codes: whatever the arguments, the files and their texts, with escapes or without. -/
theorem looksLike_run (hplace : TakesOption before) (hflag : flag ∈ verboseSpellings)
    (hquiet : IsQuiet (ofArguments? (before ++ after))) (around : Surroundings) (tree : FileTree)
    (colours colours' verbose verbose' : Bool) :
    LooksLike (run { around with colours } (asking verbose before flag after) tree)
      (run { around with colours := colours' } (asking verbose' before flag after) tree) := by
  rw [run, run, ofArguments?_asking hplace hflag hquiet, ofArguments?_asking hplace hflag hquiet]
  cases ofArguments? (before ++ after) with
  | none => exact ⟨rfl, rfl, rfl, rfl⟩
  | some invocation =>
    exact looksLike_finish around invocation _ _ colours colours' verbose verbose'

def oneArtifact : FileTree where
  entries := [(["a.json"], .file (.text
    "[\x7b\"category\":\"plume\",\"tier\":5,\"primary\":\x7b\"kind\":\"atk\"\x7d\x7d]"))]

theorem oneArtifact_looksLike_run :
    LooksLike (run {} ["classify", "a.json"] oneArtifact)
        (run { colours := true } ["classify", "-v", "a.json"] oneArtifact) ∧
      (run {} ["classify", "a.json"] oneArtifact).code = 0 ∧
      (run {} ["classify", "a.json"] oneArtifact).output ≠
        (run { colours := true } ["classify", "-v", "a.json"] oneArtifact).output := by
  have houter : ReadsOn .outer commonFlags [] {} := ⟨rfl, by decide, fun _ => rfl⟩
  have hinner : ReadsOn .inner (commonFlags ++ CommandName.classify.flags) [] {} :=
    ⟨rfl, by decide, fun _ => rfl⟩
  have hplace : TakesOption ["classify"] := .inner houter rfl hinner
  have hquiet : IsQuiet (ofArguments? (["classify"] ++ ["a.json"])) :=
    isQuiet_of_forall (by decide)
  exact ⟨looksLike_run hplace (by decide) hquiet {} oneArtifact false true false true,
    by decide +kernel, by decide +kernel⟩

end Program
end ArtifactRules
