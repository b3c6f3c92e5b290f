import ArtifactRules.Artifact.Document
import ArtifactRules.Proofs.WrittenDocuments

/-! Artifacts read back from their text. The number that a run of digits writes is read up to what
ends it, a name of a vocabulary stands for its value, and every artifact passes the check that ends
its record, so a list of artifacts comes back as it was. -/

namespace ArtifactRules
namespace Json

theorem decimalDigit?_digitChar {d : Nat} (h : d < 10) : decimalDigit? d.digitChar = some d := by
  have hall : ∀ d < 10, decimalDigit? (Nat.digitChar d) = some d := by decide
  exact hall d h

theorem exists_toDigits (n : Nat) :
    ∃ d ds, Nat.toDigits 10 n = (d :: ds).map Nat.digitChar ∧ (∀ x ∈ d :: ds, x < 10) ∧
      Text.digitsValue (d :: ds) = n ∧ (d = 0 → ds = []) := by
  induction n using Nat.strongRecOn with
  | ind n ih =>
    by_cases hn : n < 10
    · refine ⟨n, [], ?_, by simpa using hn, by simp [Text.digitsValue], fun _ => rfl⟩
      rw [Nat.toDigits_of_lt_base hn]
      rfl
    · obtain ⟨d, ds, hchars, hdigits, hvalue, hzero⟩ := ih (n / 10) (by omega)
      refine ⟨d, ds ++ [n % 10], ?_, ?_, ?_, ?_⟩
      · rw [Nat.toDigits_of_base_le (by omega) (by omega), hchars]
        simp
      · rw [← List.cons_append, List.forall_mem_append]
        exact ⟨hdigits, by simp [Nat.mod_lt]⟩
      · rw [← List.cons_append, Text.digitsValue_concat, hvalue]
        omega
      · intro hd
        rw [hzero hd, hd] at hvalue
        simp only [Text.digitsValue, List.foldl_cons, List.foldl_nil] at hvalue
        omega

theorem Ends.of_head {rest : List Char} (h : Ends rest) {c : Char} (hc : c ∈ rest.head?) :
    decimalDigit? c = none ∧ c ≠ '.' ∧ ¬ (c = 'e' ∨ c = 'E') := by
  rcases h c hc with hmark | hspace
  · simp only [List.mem_cons, List.not_mem_nil, or_false] at hmark
    rcases hmark with rfl | rfl | rfl <;> decide
  · simp only [isSpace, Bool.or_eq_true, beq_iff_eq] at hspace
    rcases hspace with ((rfl | rfl) | rfl) | rfl <;> decide

theorem digitRun_append {ds : List Nat} {rest : List Char} (h : ∀ x ∈ ds, x < 10)
    (hrest : ∀ c ∈ rest.head?, decimalDigit? c = none) :
    digitRun (ds.map Nat.digitChar ++ rest) = (ds, rest) := by
  induction ds with
  | nil =>
    cases rest with
    | nil => rfl
    | cons c rest => simp [digitRun, hrest c (by simp)]
  | cons d ds ih =>
    have hds := ih fun x hx => h x (by simp [hx])
    simp [digitRun, decimalDigit?_digitChar (h d (by simp)), hds]

theorem wholePart_append {d : Nat} {ds : List Nat} {rest : List Char} (h : ∀ x ∈ d :: ds, x < 10)
    (hzero : d = 0 → ds = []) (hrest : ∀ c ∈ rest.head?, decimalDigit? c = none) :
    wholePart ((d :: ds).map Nat.digitChar ++ rest) = .ok (d :: ds, rest) := by
  have hrun : digits ((d :: ds).map Nat.digitChar ++ rest) = .ok (d :: ds, rest) := by
    rw [digits, digitRun_append h hrest]
  rw [wholePart, hrun]
  split
  · rename_i hfault
    cases hfault
  · rename_i hleading
    cases hleading
    exact absurd (hzero rfl) (by simp)
  · rename_i hread
    exact hread.symm

theorem unsignedNumeral_append {d : Nat} {ds : List Nat} {rest : List Char}
    (h : ∀ x ∈ d :: ds, x < 10) (hzero : d = 0 → ds = []) (hrest : Ends rest) :
    unsignedNumeral false ((d :: ds).map Nat.digitChar ++ rest) =
      .ok ({ negative := false, whole := d :: ds }, rest) := by
  have hparts : fractionPart rest = .ok ([], rest) ∧ exponentPart rest = .ok (none, rest) := by
    cases rest with
    | nil => exact ⟨rfl, rfl⟩
    | cons c rest =>
      obtain ⟨-, hpoint, hexponent⟩ := hrest.of_head (c := c) (by simp)
      rw [fractionPart, exponentPart, if_neg hpoint, if_neg hexponent]
      exact ⟨rfl, rfl⟩
  have hwhole := wholePart_append h hzero fun c hc => (hrest.of_head hc).1
  simp only [unsignedNumeral, hwhole, hparts.1, hparts.2]
  rfl

theorem le_foldl_digits (acc : Nat) (ds : List Nat) :
    acc ≤ ds.foldl (fun n d => 10 * n + d) acc := by
  induction ds generalizing acc with
  | nil => exact Nat.le_refl acc
  | cons d ds ih =>
    have hle := ih (10 * acc + d)
    rw [List.foldl_cons]
    omega

/-- A number that fits loses no digit. -/
theorem leading_eq {acc : Nat} {ds : List Nat}
    (h : ds.foldl (fun n d => 10 * n + d) acc < UInt64.size) :
    Numeral.leading acc ds = (ds.foldl (fun n d => 10 * n + d) acc, 0) := by
  induction ds generalizing acc with
  | nil => rfl
  | cons d ds ih =>
    rw [List.foldl_cons] at h ⊢
    have hfits : 10 * acc + d < UInt64.size := Nat.lt_of_le_of_lt (le_foldl_digits _ ds) h
    rw [Numeral.leading, if_pos hfits, ih h]

theorem number_toDigits {n : Nat} (h : n < UInt64.size) {rest : List Char} (hrest : Ends rest) :
    number.read (Nat.toDigits 10 n ++ rest) = .ok (.natural n, rest) := by
  obtain ⟨d, ds, hchars, hdigits, hvalue, hzero⟩ := exists_toDigits n
  have hsign : d.digitChar ≠ '-' := by
    intro he
    have hdigit := decimalDigit?_digitChar (hdigits d (by simp))
    rw [he] at hdigit
    cases hdigit
  have hnumeral : numeral.read (Nat.toDigits 10 n ++ rest) =
      .ok ({ negative := false, whole := d :: ds }, rest) := by
    rw [hchars, ← unsignedNumeral_append hdigits hzero hrest]
    simp only [numeral, List.map_cons, List.cons_append, if_neg hsign]
  have hleading : Numeral.leading 0 (d :: ds) = (n, 0) := by
    rw [← hvalue] at h ⊢
    exact leading_eq h
  have hnumber : Numeral.number? { negative := false, whole := d :: ds } = some (.natural n) := by
    simp [Numeral.number?, hleading]
  simp only [number, Reader.refine, hnumeral, hnumber]
  rfl

namespace Reads

theorem word32 (w : UInt32) : Reads .word32 (.natural w.toNat) w := by
  intro spacing depth space rest hspace hrest
  obtain ⟨d, ds, hchars, hdigits, -⟩ := exists_toDigits w.toNat
  have hfirst := decimalDigit?_digitChar (hdigits d (by simp))
  have hlt : w.toNat < UInt32.size := w.toNat_lt
  have hnumber := number_toDigits (Nat.lt_trans hlt (by decide)) hrest
  rw [hchars, List.map_cons, List.cons_append] at hnumber
  have hnospace : ∀ d < 10, isSpace (Nat.digitChar d) = false := by decide
  simp only [Reader.word32, Reader.first, Document.writeIn, hchars, List.map_cons, List.cons_append,
    skipSpace_append hspace, skipSpace_cons (hnospace d (hdigits d (by simp))), hfirst,
    Option.isSome_some, or_true, if_true, hnumber, if_pos hlt, UInt32.ofNat_toNat]

theorem named {α : Type} [Labelled α] {a : α}
    (h : Labelled.ofName? (Labelled.name a) = some a) :
    Reads .named (.text (Labelled.name a)) a := by
  intro spacing depth space rest hspace hrest
  obtain ⟨body, hwrite, hbody⟩ := readBody_writeQuote (Labelled.name a) rest
  have hname : Reader.nameBody body = .ok (a, rest) := by
    simp only [Reader.nameBody, hbody, Reader.nameOf, String.ofList_toList, h]
    rfl
  simp only [Reader.named, Reader.first, Document.writeIn, hwrite, skipSpace_append hspace,
    skipSpace_cons (show isSpace '"' = false by rfl), if_true, hname]

end Reads
end Json

open Json (Fills Reads)

theorem Stat.reads (stat : Stat) : Reads Stat.shape.reader stat.toDocument stat := by
  have hkind : Reads .named (.text stat.kind.name) stat.kind :=
    Reads.named (Attribute.ofName?_name stat.kind)
  have hvalue := Reads.textAs "a string" stat.value
  have hfills : Fills Stat.shape.slots Stat.shape.blank
      [("kind", .text stat.kind.name), ("value", .text stat.value)]
      { kind := some stat.kind, value := some stat.value } :=
    .cons rfl rfl (hkind.map _) (.cons rfl rfl (hvalue.map _) (.nil _))
  exact Reads.record hfills rfl

theorem Record.reads (r : Record) : Reads Record.shape.reader r.toDocument r := by
  have hname := Reads.textAs "a string" r.name
  have hcategory : Reads .named (.text r.category.name) r.category :=
    Reads.named (Category.ofName?_name r.category)
  have hsecondary := Reads.list_map fun stat (_ : stat ∈ r.secondary) => stat.reads
  have hfills : Fills Record.shape.slots Record.shape.blank
      [("name", .text r.name), ("category", .text r.category.name),
        ("tier", .natural r.tier.toNat), ("level", .natural r.level.toNat),
        ("primary", r.primary.toDocument), ("secondary", .list (r.secondary.map Stat.toDocument))]
      { name := some r.name, category := some r.category, tier := some r.tier,
        level := some r.level, primary := some r.primary, secondary := some r.secondary } :=
    .cons rfl rfl (hname.map _) <| .cons rfl rfl (hcategory.map _) <|
      .cons rfl rfl ((Reads.word32 r.tier).map _) <|
      .cons rfl rfl ((Reads.word32 r.level).map _) <|
      .cons rfl rfl (r.primary.reads.map _) <| .cons rfl rfl (hsecondary.map _) <| .nil _
  exact Reads.record hfills rfl

/-- The check at the end of a record refuses no artifact. -/
theorem Artifact.reads (a : Artifact) : Reads Artifact.reader a.toDocument a := by
  apply (Record.reads a.toRecord).refine
  rw [Artifact.check_toRecord]
  rfl

/-- Artifacts come back in their order with all they carry, whether they are written in lines or
without white space. -/
theorem Artifact.decodeList_listDocument (artifacts : List Artifact) :
    decodeList (listDocument artifacts).render = .ok artifacts ∧
      ∀ spacing : Json.Spacing,
        decodeList ((listDocument artifacts).renderIn spacing) = .ok artifacts := by
  have hlist : Reads (.list reader) (listDocument artifacts) artifacts :=
    Reads.list_map fun a _ => a.reads
  exact ⟨hlist.decode_render, hlist.decode_renderIn⟩

end ArtifactRules
