import ArtifactRules.Proofs.RecordSpellings

/-! The many texts of one list of artifacts. Which of them is written makes no difference: all of
them are read as the artifacts that they spell. -/

namespace ArtifactRules

open Json (Entry Fits RecordField Space SpellsEntry SpellsList SpellsName SpellsRecord SpellsText
  Takes given?)

namespace Stat

def fields : List (RecordField Stat) := [
  { name := "kind"
    Spells := fun s stat => SpellsName s stat.kind.name
    Omits := fun _ => False },
  { name := "value"
    Spells := fun s stat => SpellsText s stat.value
    Omits := fun stat => stat.value = "" }]

def draftOf (stat : Stat) (given : List String) : Draft where
  kind := given? given "kind" stat.kind
  value := given? given "value" stat.value

theorem fits (stat : Stat) : Fits shape fields stat stat.draftOf where
  blank_eq := rfl
  slots := by
    refine .cons ?kind (.cons ?value .nil)
    case kind =>
      refine .of (fun _ => Json.isSome_given?) (fun given => ?_) fun s hs =>
        hs.takes (Attribute.ofName?_name _)
      simp [draftOf, given?]
    case value =>
      refine .of (fun _ => Json.isSome_given?) (fun given => ?_) fun s hs => hs.takes
      simp [draftOf, given?]
  finish_eq given h := by
    simp only [fields, List.forall_mem_cons] at h
    obtain ⟨hkind, hvalue, -⟩ := h
    simp only [shape, draftOf, Json.required_given? (not_not.1 hkind), Json.getD_given? hvalue]
    rfl

end Stat

namespace Record

def fields : List (RecordField Record) := [
  { name := "name"
    Spells := fun s r => SpellsText s r.name
    Omits := fun r => r.name = "" },
  { name := "category"
    Spells := fun s r => SpellsName s r.category.name
    Omits := fun _ => False },
  { name := "tier"
    Spells := fun s r => s = Nat.toDigits 10 r.tier.toNat
    Omits := fun _ => False },
  { name := "level"
    Spells := fun s r => s = Nat.toDigits 10 r.level.toNat
    Omits := fun r => r.level = 0 },
  { name := "primary"
    Spells := fun s r => SpellsRecord Stat.fields s r.primary
    Omits := fun _ => False },
  { name := "secondary"
    Spells := fun s r => SpellsList (SpellsRecord Stat.fields) s r.secondary
    Omits := fun r => r.secondary = [] }]

def draftOf (r : Record) (given : List String) : Draft where
  name := given? given "name" r.name
  category := given? given "category" r.category
  tier := given? given "tier" r.tier
  level := given? given "level" r.level
  primary := given? given "primary" r.primary
  secondary := given? given "secondary" r.secondary

theorem fits (r : Record) : Fits shape fields r r.draftOf where
  blank_eq := rfl
  slots := by
    refine .cons ?name (.cons ?category (.cons ?tier (.cons ?level (.cons ?primary
      (.cons ?secondary .nil)))))
    case name =>
      refine .of (fun _ => Json.isSome_given?) (fun given => ?_) fun s hs => hs.takes
      simp [draftOf, given?]
    case category =>
      refine .of (fun _ => Json.isSome_given?) (fun given => ?_) fun s hs =>
        hs.takes (Category.ofName?_name _)
      simp [draftOf, given?]
    case tier =>
      refine .of (fun _ => Json.isSome_given?) (fun given => ?_) fun s hs =>
        hs ▸ Json.takes_word32 r.tier
      simp [draftOf, given?]
    case level =>
      refine .of (fun _ => Json.isSome_given?) (fun given => ?_) fun s hs =>
        hs ▸ Json.takes_word32 r.level
      simp [draftOf, given?]
    case primary =>
      refine .of (fun _ => Json.isSome_given?) (fun given => ?_) fun s hs =>
        hs.takes r.primary.fits
      simp [draftOf, given?]
    case secondary =>
      refine .of (fun _ => Json.isSome_given?) (fun given => ?_) fun s hs =>
        hs.takes fun stat _ _ htext => htext.takes stat.fits
      simp [draftOf, given?]
  finish_eq given h := by
    simp only [fields, List.forall_mem_cons] at h
    obtain ⟨hname, hcategory, htier, hlevel, hprimary, hsecondary, -⟩ := h
    simp only [shape, draftOf, Json.required_given? (not_not.1 hcategory),
      Json.required_given? (not_not.1 htier), Json.required_given? (not_not.1 hprimary),
      Json.getD_given? hname, Json.getD_given? hlevel, Json.getD_given? hsecondary]
    rfl

end Record

namespace Artifact

def Spells (content : String) (artifacts : List Artifact) : Prop :=
  ∃ (before after : Space) (s : List Char), content.toList = before.chars ++ (s ++ after.chars) ∧
    SpellsList (fun text (a : Artifact) => SpellsRecord Record.fields text a.toRecord) s artifacts

theorem takes {a : Artifact} {text : List Char} (h : SpellsRecord Record.fields text a.toRecord) :
    Takes reader text a := by
  apply (h.takes a.toRecord.fits).refine
  rw [check_toRecord]
  rfl

theorem Spells.decodeList_eq_ok {content : String} {artifacts : List Artifact}
    (h : Spells content artifacts) : decodeList content = .ok artifacts := by
  obtain ⟨before, after, s, hcontent, hlist⟩ := h
  have htakes : Takes (.list reader) s artifacts := hlist.takes fun a _ _ => takes
  have hread := htakes.read before (after.ends_append Json.Ends.nil)
  have hend := after.skipSpace_append []
  rw [List.append_nil] at hread hend
  rw [← hcontent] at hread
  exact Json.decode_eq_ok_iff.2 ⟨after.chars, hread, hend⟩

/-- Any two texts of a list of artifacts are read alike, and as that list, whatever way its records,
names and texts are written in and whatever unknown fields stand among theirs. -/
theorem decodeList_eq_of_spells {content other : String} {artifacts : List Artifact}
    (h : Spells content artifacts) (hother : Spells other artifacts) :
    decodeList content = .ok artifacts ∧ decodeList other = decodeList content := by
  rw [h.decodeList_eq_ok, hother.decodeList_eq_ok]
  exact ⟨rfl, rfl⟩

def objectText : String :=
  "[\x7b\"tier\":5,\"id\":[null],\"primary\":\x7b\"kind\":\"atk\"\x7d,
    \"category\":\x7b\"plume\":null\x7d,\"name\":\"\\u0041\"\x7d]"

def listText : String :=
  " [[\"A\",\"plume\",5,0,[\"atk\"]]]"

def plainRecord : Record where
  name := "A"
  category := .plume
  tier := 5
  primary := ⟨.atk, ""⟩

theorem valid_plainRecord : plainRecord.Valid :=
  ⟨by decide, by decide⟩

def plainPlume : Artifact :=
  ⟨plainRecord, valid_plainRecord.length_le, valid_plainRecord.nodup⟩

theorem spells_listText : Spells listText [plainPlume] := by
  have hname : SpellsText _ "A" := .of_plain (by decide)
  have hcategory : SpellsText _ "plume" := .of_plain (by decide)
  have hkind : SpellsText _ "atk" := .of_plain (by decide)
  have hstat : List.Forall₂ (fun field text => field.Spells text plainPlume.primary)
      (Stat.fields.take 1) _ := .cons (SpellsName.text hkind) .nil
  have hprimary : SpellsRecord Stat.fields _ plainPlume.primary :=
    .list (List.take_append_drop 1 _).symm hstat (by simp [Stat.fields, plainPlume, plainRecord])
      (.first .empty _ (.close .empty))
  have hgiven : List.Forall₂ (fun field text => field.Spells text plainPlume.toRecord)
      (Record.fields.take 5) _ :=
    .cons hname (.cons (SpellsName.text hcategory) (.cons rfl (.cons rfl (.cons hprimary .nil))))
  have hrecord : SpellsRecord Record.fields _ plainPlume.toRecord :=
    .list (List.take_append_drop 5 _).symm hgiven (by simp [Record.fields, plainPlume, plainRecord])
      (.first .empty _ (.comma .empty .empty _ (.comma .empty .empty _ (.comma .empty .empty _
        (.comma .empty .empty _ (.close .empty))))))
  have htext : listText.toList = _ := String.toList_ofList
  refine ⟨⟨[' '], rfl⟩, .empty, _, ?_,
    [_], .cons hrecord .nil, .first .empty _ (.close .empty)⟩
  rw [htext]
  rfl

def entryOf (key value : String) : Entry where
  key := '"' :: (key.toList ++ ['"'])
  beforeColon := .empty
  afterColon := .empty
  value := value.toList

def shuffledEntries : List (String × Entry) := [
  ("tier", entryOf "tier" "5"),
  ("id", entryOf "id" "[null]"),
  ("primary", entryOf "primary" "\x7b\"kind\":\"atk\"\x7d"),
  ("category", entryOf "category" "\x7b\"plume\":null\x7d"),
  ("name", entryOf "name" "\"\\u0041\"")]

theorem spellsEntry_of_mem_shuffledEntries {p : String × Entry} (h : p ∈ shuffledEntries) :
    SpellsEntry Record.fields plainPlume.toRecord p.1 p.2 := by
  have hunit : Json.SpellsUnit "0041".toList 'A'.toNat :=
    @Json.SpellsUnit.mk '0' '0' '4' '1' 0 0 4 1 ⟨by decide, .inl rfl⟩ ⟨by decide, .inl rfl⟩
      ⟨by decide, .inl rfl⟩ ⟨by decide, .inl rfl⟩
  have hname : SpellsText "\"\\u0041\"".toList "A" :=
    @SpellsText.mk [_] "A" (.cons (Json.SpellsChar.unit hunit) .nil)
  have hcategory : SpellsName "\x7b\"plume\":null\x7d".toList "plume" :=
    @SpellsName.object (entryOf "plume" "null") _ _ (.of_plain (by decide)) rfl
      (.first .empty _ (.close .empty))
  have hkind : SpellsName "\"atk\"".toList "atk" :=
    .text (@SpellsText.of_plain ['a', 't', 'k'] (by decide))
  have hstat : ∀ q ∈ [("kind", entryOf "kind" "\"atk\"")],
      SpellsEntry Stat.fields plainPlume.primary q.1 q.2 :=
    List.forall_mem_singleton.2
      (.of_mem Stat.fields[0] (by simp) (by decide) (.of_plain (by decide)) hkind)
  have hprimary : SpellsRecord Stat.fields "\x7b\"kind\":\"atk\"\x7d".toList plainPlume.primary :=
    .object hstat (by simp) (by simp [Stat.fields, plainPlume, plainRecord])
      (.first .empty _ (.close .empty))
  have hid : Json.IsValue "[null]".toList :=
    .list (List.forall_mem_singleton.2 (.word (.head _))) (.first .empty _ (.close .empty))
  simp only [shuffledEntries, List.mem_cons, List.not_mem_nil, or_false] at h
  rcases h with rfl | rfl | rfl | rfl | rfl
  · exact .of_mem Record.fields[2] (by simp) (by decide) (.of_plain (by decide)) rfl
  · exact .of_notMem (by decide) (.of_plain (by decide)) hid
  · exact .of_mem Record.fields[4] (by simp) (by decide) (.of_plain (by decide)) hprimary
  · exact .of_mem Record.fields[1] (by simp) (by decide) (.of_plain (by decide)) hcategory
  · exact .of_mem Record.fields[0] (by simp) (by decide) (.of_plain (by decide)) hname

theorem spells_objectText : Spells objectText [plainPlume] := by
  have hrecord : SpellsRecord Record.fields _ plainPlume.toRecord :=
    .object (fun p => spellsEntry_of_mem_shuffledEntries) (by decide)
      (by simp [Record.fields, shuffledEntries, plainPlume, plainRecord])
      (.first .empty _ (.comma .empty .empty _ (.comma .empty .empty _
        (.comma .empty ⟨"\n    ".toList, rfl⟩ _ (.comma .empty .empty _ (.close .empty))))))
  have htext : objectText.toList = _ := String.toList_ofList
  refine ⟨.empty, .empty, _, ?_, [_], .cons hrecord .nil, .first .empty _ (.close .empty)⟩
  rw [htext]
  rfl

theorem decodeList_objectText_eq_listText :
    Spells objectText [plainPlume] ∧ Spells listText [plainPlume] ∧
      decodeList objectText = .ok [plainPlume] ∧ decodeList listText = decodeList objectText :=
  ⟨spells_objectText, spells_listText, decodeList_eq_of_spells spells_objectText spells_listText⟩

end Artifact
end ArtifactRules
