/-! Fields between separators. A text with `n` separators has `n + 1` fields, so joining the fields
with the separator gives the text back. -/

namespace ArtifactRules
namespace Text

def fieldChars (sep : Char) : List Char → List (List Char)
  | [] => [[]]
  | c :: cs =>
    if c = sep then [] :: fieldChars sep cs
    else match fieldChars sep cs with
      | [] => [[c]]
      | field :: fields => (c :: field) :: fields

def joinChars (sep : Char) : List (List Char) → List Char
  | [] => []
  | [field] => field
  | field :: fields => field ++ sep :: joinChars sep fields

theorem fieldChars_ne_nil (sep : Char) (cs : List Char) : fieldChars sep cs ≠ [] := by
  induction cs with
  | nil => simp [fieldChars]
  | cons c cs ih =>
    simp only [fieldChars]
    split
    · simp
    · split <;> simp

theorem joinChars_cons (sep : Char) (field : List Char) {fields : List (List Char)}
    (h : fields ≠ []) : joinChars sep (field :: fields) = field ++ sep :: joinChars sep fields := by
  cases fields with
  | nil => exact absurd rfl h
  | cons next fields => rfl

@[simp] theorem joinChars_fieldChars (sep : Char) (cs : List Char) :
    joinChars sep (fieldChars sep cs) = cs := by
  induction cs with
  | nil => rfl
  | cons c cs ih =>
    simp only [fieldChars]
    split
    · rename_i h
      rw [joinChars_cons sep [] (fieldChars_ne_nil sep cs), ih, h, List.nil_append]
    · split
      · rename_i h
        exact absurd h (fieldChars_ne_nil sep cs)
      · rename_i field fields h
        cases fields with
        | nil => rw [h] at ih; simpa [joinChars] using ih
        | cons next fields => rw [h] at ih; simpa [joinChars] using ih

def fields (sep : Char) (s : String) : List String :=
  (fieldChars sep s.toList).map String.ofList

def join (sep : String) : List String → String
  | [] => ""
  | [s] => s
  | s :: rest => s ++ sep ++ join sep rest

theorem toList_join (sep : Char) (ss : List String) :
    (join (String.singleton sep) ss).toList = joinChars sep (ss.map String.toList) := by
  fun_induction join (String.singleton sep) ss with
  | case1 => rfl
  | case2 s => rfl
  | case3 s rest hrest ih =>
    have hne : rest.map String.toList ≠ [] := by
      intro h
      exact hrest (List.map_eq_nil_iff.1 h)
    simp [ih, joinChars_cons sep s.toList hne]

theorem join_fields (sep : Char) (s : String) :
    join (String.singleton sep) (fields sep s) = s := by
  apply String.toList_inj.1
  rw [toList_join, fields, List.map_map]
  simp [Function.comp_def]

end Text
end ArtifactRules
