import Mathlib.Order.Bounds.Basic
import ArtifactRules.Proofs.Readings
import ArtifactRules.Proofs.WrittenArtifacts

/-! Which records are artifacts: those with at most four secondary attributes, no two of one kind.
The check of a single record tells what is wrong with any other, and a list of records in JSON is
read as a whole, or refused for its first record that is no artifact. -/

namespace ArtifactRules
namespace Json

variable {α β : Type} {reader : Reader α} {check : α → Except Fault β}
variable {s r rest : List Char} {a : α} {b : β} {as : List α} {bs : List β}

theorem read_refine_of_ok (h : reader.read s = .ok (a, r)) (check : α → Except Fault β) :
    (reader.refine check).read s = (check a).map (·, r) := by
  simp [Reader.refine, h]

theorem read_refine_eq_ok (h : (reader.refine check).read s = .ok (b, r)) :
    ∃ a, reader.read s = .ok (a, r) ∧ check a = .ok b := by
  cases hread : reader.read s with
  | error fault => simp [Reader.refine, hread] at h
  | ok p =>
    obtain ⟨a, t⟩ := p
    rw [read_refine_of_ok hread] at h
    cases hcheck : check a with
    | error fault =>
      rw [hcheck] at h
      cases h
    | ok c =>
      rw [hcheck] at h
      cases h
      exact ⟨a, rfl, hcheck⟩

/-- The elements of a list one by one, each up to the comma or the bracket after it. -/
inductive ElementsRead (reader : Reader α) : List Char → List α → List Char → Prop
  | last {s r rest : List Char} {a : α} (hread : reader.read s = .ok (a, r))
    (hclose : skipSpace r = ']' :: rest) : ElementsRead reader s [a] rest
  | more {s r r' t rest : List Char} {a : α} {as : List α} {c : Char}
    (hread : reader.read s = .ok (a, r)) (hcomma : skipSpace r = ',' :: r')
    (hnext : skipSpace r' = c :: t) (hopen : c ≠ ']')
    (hrest : ElementsRead reader (c :: t) as rest) : ElementsRead reader s (a :: as) rest

theorem elements_eq_ok_iff :
    Reader.elements reader s = .ok (as, rest) ↔ ElementsRead reader s as rest := by
  constructor
  · intro h
    fun_induction Reader.elements reader s generalizing as with
    | case3 s a r hread r' hclose =>
      cases h
      exact .last hread hclose
    | case6 s a r hread r' c t hnext hopen hcomma _ ih =>
      obtain ⟨as', has', rfl⟩ := exists_of_map_eq_ok h
      exact .more hread hcomma hnext hopen (ih has')
    | _ => cases h
  · intro h
    induction h with
    | last hread hclose => exact elements_of_close hread hclose
    | more hread hcomma hnext hopen _ ih =>
      rw [elements_of_comma hread hcomma hnext hopen, ih]
      rfl

theorem read_list_eq_ok (h : (Reader.list reader).read s = .ok (as, rest)) :
    ∃ t, skipSpace s = '[' :: t ∧
      (skipSpace t = ']' :: rest ∧ as = [] ∨
        ∃ c u, skipSpace t = c :: u ∧ c ≠ ']' ∧ ElementsRead reader (c :: u) as rest) := by
  simp only [Reader.list, Reader.first] at h
  split at h
  · cases h
  rename_i d t hopen
  split at h
  · rename_i hd
    subst hd
    refine ⟨t, hopen, ?_⟩
    split at h
    · cases h
    rename_i c u hfirst
    split at h
    · rename_i hc
      subst hc
      cases h
      exact .inl ⟨hfirst, rfl⟩
    · rename_i hc
      exact .inr ⟨c, u, hfirst, hc, elements_eq_ok_iff.1 h⟩
  · cases h

theorem decode_eq_ok_iff {content : String} :
    reader.decode content = .ok a ↔
      ∃ r, reader.read content.toList = .ok (a, r) ∧ skipSpace r = [] := by
  rw [Reader.decode]
  cases reader.read content.toList with
  | error fault => simp
  | ok p =>
    obtain ⟨b, t⟩ := p
    by_cases ht : skipSpace t = []
    · simp [ht]
    · simp [ht]

end Json

namespace Record

structure Valid (r : Record) : Prop where
  length_le : r.secondary.length ≤ 4
  nodup : r.secondaryKinds.Nodup

/-- What a record is judged to be. A repetition counts only among at most four attributes. -/
inductive Verdict (r : Record) : Except RecordFault Artifact → Prop
  | valid {a : Artifact} (hvalid : r.Valid) (hsame : a.toRecord = r) : Verdict r (.ok a)
  | tooMany (hlength : 4 < r.secondary.length) :
    Verdict r (.error (.tooManySecondary r.secondary.length))
  | repeated {i : Nat} {kind : Attribute} (hlength : r.secondary.length ≤ 4)
    (hleast : IsLeast {j | ∃ kind ∈ r.secondaryKinds[j]?, kind ∈ r.secondaryKinds.take j} i)
    (hkind : r.secondaryKinds[i]? = some kind) : Verdict r (.error (.repeatedSecondary kind))

variable {r : Record}

def decodeList (content : String) : Except Json.Fault (List Record) :=
  (Json.Reader.list shape.reader).decode content

def listDocument (records : List Record) : Json.Document :=
  .list (records.map toDocument)

end Record
end ArtifactRules
