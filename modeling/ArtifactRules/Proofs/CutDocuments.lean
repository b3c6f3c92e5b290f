import ArtifactRules.Command
import ArtifactRules.Proofs.LongerTexts
import ArtifactRules.Proofs.RecordSpellings

/-! Documents that are cut off. Every value that is read ends where a longer text shows it to end, by a
mark of its own or by one that comes after it, and a whole document is a list or a record, which end
with a bracket. So no part of a document is taken for a document with less in it. -/

namespace ArtifactRules
namespace Json

variable {α β : Type} {s r : List Char}

section Values

variable {reader : Reader α}

def GoesByFirst (reader : Reader α) (read : Char → List Char → Except Fault (α × List Char)) :
    Prop :=
  ∀ s, reader.read s =
    match skipSpace s with
    | [] => .error .unfinished
    | c :: r => read c r

theorem GoesByFirst.delimited {read : Char → List Char → Except Fault (α × List Char)}
    (hfirst : GoesByFirst reader read) (h : ∀ c, Delimited (read c)) : Delimited reader.read := by
  intro s a r hread hr more
  rw [hfirst] at hread ⊢
  split at hread
  · cases hread
  · rename_i c t hs
    rw [skipSpace_append_of_cons hs]
    exact h c hread hr more

theorem GoesByFirst.selfDelimiting {read : Char → List Char → Except Fault (α × List Char)}
    (hfirst : GoesByFirst reader read) (h : ∀ c, SelfDelimiting (read c)) :
    SelfDelimiting reader.read := by
  intro s a r hread more
  rw [hfirst] at hread ⊢
  split at hread
  · cases hread
  · rename_i c t hs
    rw [skipSpace_append_of_cons hs]
    exact h c hread more

theorem selfDelimiting_textAs (wanted : String) : SelfDelimiting (Reader.textAs wanted).read := by
  refine GoesByFirst.selfDelimiting (fun _ => rfl) fun c s text r h more => ?_
  split at h
  · rename_i hc
    rw [if_pos hc]
    exact selfDelimiting_readBody.map String.ofList h more
  · cases h

theorem delimited_word32 : Delimited Reader.word32.read := by
  refine GoesByFirst.delimited (fun _ => rfl) fun c s w r h hr more => ?_
  split at h
  · rename_i hc
    rw [if_pos hc]
    split at h
    · cases h
    · rename_i n t hnumber
      split at h
      · rename_i hn
        cases h
        rw [← List.cons_append, delimited_number hnumber hr]
        exact if_pos hn
      · cases h
    · cases h
    · cases h
  · cases h

theorem selfDelimiting_nullable (h : SelfDelimiting reader.read) :
    SelfDelimiting reader.nullable.read := by
  intro s value r hread more
  simp only [Reader.nullable] at hread ⊢
  split at hread
  · rename_i t hs
    simp only [skipSpace_append_of_cons hs]
    obtain ⟨u, hnull, hu⟩ := Reading.map_eq_ok_iff.1 hread
    cases hu
    rw [literal_append_of_ok hnull more]
    rfl
  · rename_i hother
    obtain ⟨a, ha, rfl⟩ := exists_of_map_eq_ok hread
    obtain ⟨c, t, hs⟩ := List.exists_cons_of_length_pos (Nat.zero_lt_of_lt (reader.shorter ha))
    rw [skipSpace_append_of_cons hs]
    split
    · rename_i u hnull
      cases hnull
      exact absurd hs (hother t)
    · rw [← List.cons_append, ← hs, h ha more]
      rfl

theorem ElementsRead.append {as : List α} (hread : ElementsRead reader s as r)
    (h : Delimited reader.read) (more : List Char) : ElementsRead reader (s ++ more) as (r ++ more) := by
  -- each element ends before the mark after it
  induction hread with
  | last helement hclose =>
    exact .last (h helement (ne_nil_of_skipSpace hclose) more) (skipSpace_append_of_cons hclose more)
  | more helement hcomma hnext hopen _ ih =>
    exact .more (h helement (ne_nil_of_skipSpace hcomma) more) (skipSpace_append_of_cons hcomma more)
      (skipSpace_append_of_cons hnext more) hopen ih

theorem selfDelimiting_list (h : Delimited reader.read) :
    SelfDelimiting (Reader.list reader).read := by
  intro s as r hread more
  obtain ⟨t, hopen, ⟨hclose, rfl⟩ | ⟨c, u, hfirst, hne, helements⟩⟩ := read_list_eq_ok hread
  · exact read_list_of_close (skipSpace_append_of_cons hopen more)
      (skipSpace_append_of_cons hclose more)
  · rw [read_list_of_element (skipSpace_append_of_cons hopen more)
      (skipSpace_append_of_cons hfirst more) hne]
    exact elements_eq_ok_iff.2 (helements.append h more)

theorem selfDelimiting_unit : SelfDelimiting Reader.unit.read := by
  refine GoesByFirst.selfDelimiting (fun _ => rfl) fun c s u r h more => ?_
  split at h
  · rename_i hc
    rw [if_pos hc]
    obtain ⟨t, hnull, ht⟩ := Reading.map_eq_ok_iff.1 h
    cases ht
    rw [literal_append_of_ok hnull more]
    rfl
  · cases h

theorem selfDelimiting_nameBody [Labelled α] :
    SelfDelimiting (Reader.nameBody : List Char → Except Fault (α × List Char)) := by
  intro s a r h more
  rw [Reader.nameBody] at h
  split at h
  · cases h
  · rename_i name t hbody
    obtain ⟨b, hname, hb⟩ := Reading.map_eq_ok_iff.1 h
    cases hb
    rw [Reader.nameBody, selfDelimiting_readBody hbody more]
    dsimp only
    rw [hname]
    rfl

theorem selfDelimiting_named [Labelled α] : SelfDelimiting (Reader.named : Reader α).read := by
  refine GoesByFirst.selfDelimiting (fun _ => rfl) fun c s a r h more => ?_
  split at h
  · rename_i hquote
    rw [if_pos hquote, selfDelimiting_nameBody h]
  rename_i hquote
  rw [if_neg hquote]
  split at h
  · rename_i hrecord
    rw [if_pos hrecord]
    split at h
    · cases h
    rename_i t hopen
    split at h
    · cases h
    rename_i b u hname
    split at h
    · cases h
    rename_i v hcolon
    split at h
    · cases h
    rename_i null w hunit
    obtain ⟨x, hclose, hx⟩ := Reading.map_eq_ok_iff.1 h
    cases hx
    simp only [mark_append_of_ok hopen, selfDelimiting_nameBody hname, mark_append_of_ok hcolon,
      selfDelimiting_unit hunit, mark_append_of_ok hclose]
    rfl
  · cases h

end Values

section Records

variable {D : Type} {slots : List (Slot D)} {draft draft' : D}

theorem delimited_slot {name : String} {filled : D → Bool} {reader : Reader β}
    (h : Delimited reader.read) (put : β → D → D) :
    Delimited (Slot.of name filled reader put).reader.read :=
  delimited_refine h _

theorem delimited_entry (h : ∀ slot ∈ slots, Delimited slot.reader.read) (draft : D) :
    Delimited (entry slots draft) := by
  intro s d r hread hr more
  rw [entry] at hread ⊢
  split at hread
  · cases hread
  rename_i key t hkey
  rw [selfDelimiting_quote selfDelimiting_readBody hkey more]
  dsimp only
  split at hread
  · split at hread
    · cases hread
    rename_i u hcolon
    obtain ⟨v, hskip, rfl⟩ := exists_of_map_eq_ok hread
    simp only [mark_append_of_ok hcolon, delimited_skip hskip hr]
    rfl
  · rename_i slot hslot
    split at hread
    · cases hread
    rename_i hfilled
    split at hread
    · cases hread
    rename_i u hcolon
    obtain ⟨put, hvalue, rfl⟩ := exists_of_map_eq_ok hread
    have hmem : slot ∈ slots := List.mem_of_find?_eq_some hslot
    simp only [hfilled, mark_append_of_ok hcolon, h slot hmem hvalue hr]
    rfl

theorem selfDelimiting_entries (h : ∀ slot ∈ slots, Delimited slot.reader.read) (draft : D) :
    SelfDelimiting (entries slots draft) := by
  intro s d r hread more
  fun_induction entries slots draft s with
  | case3 draft s d' t hentry u hclose =>
    cases hread
    exact entries_of_close (delimited_entry h draft hentry (ne_nil_of_skipSpace hclose) more)
      (skipSpace_append_of_cons hclose more)
  | case4 draft s d' t hentry u hcomma _ ih =>
    rw [entries_of_comma (delimited_entry h draft hentry (ne_nil_of_skipSpace hcomma) more)
      (skipSpace_append_of_cons hcomma more)]
    exact ih hread
  | _ => cases hread

theorem selfDelimiting_positional (h : ∀ slot ∈ slots, Delimited slot.reader.read)
    (isFirst : Bool) (draft : D) : SelfDelimiting (positional isFirst slots draft) := by
  intro s d r hread more
  fun_induction positional isFirst slots draft s with
  | case1 isFirst draft s =>
    obtain ⟨t, hclose, ht⟩ := Reading.map_eq_ok_iff.1 hread
    cases ht
    rw [positional, mark_append_of_ok hclose]
    rfl
  | case3 isFirst slot slots draft s t hclose =>
    cases hread
    exact positional_of_close isFirst _ _ (skipSpace_append_of_cons hclose more)
  | case5 slot slots draft s c t hs hc put u hvalue ih =>
    have hu : u ≠ [] := List.ne_nil_of_length_pos (Nat.zero_lt_of_lt (positional_length_lt hread))
    have hlonger := h slot (by simp) hvalue hu more
    rw [List.cons_append] at hlonger
    simp only [positional, skipSpace_append_of_cons hs, if_neg hc, if_true, hlonger]
    exact ih (fun other hother => h other (by simp [hother])) hread
  | case9 isFirst slot slots draft s t hfirst c u hnext hc put v hvalue hcomma _ ih =>
    have hv : v ≠ [] := List.ne_nil_of_length_pos (Nat.zero_lt_of_lt (positional_length_lt hread))
    have hlonger := h slot (by simp) hvalue hv more
    rw [List.cons_append] at hlonger
    simp only [positional, skipSpace_append_of_cons hcomma, Char.reduceEq, if_false, if_true,
      if_neg hfirst, skipSpace_append_of_cons hnext, if_neg hc, hlonger]
    exact ih (fun other hother => h other (by simp [hother])) hread
  | _ => cases hread

section Shapes

variable {shape : Shape D α}

theorem finish_of_complete {fault : Absent → Mismatch} {a : α} {t : List Char}
    (h : (shape.complete fault draft).map (·, t) = .ok (a, r)) :
    shape.finish draft = .ok a ∧ t = r := by
  obtain ⟨b, hcomplete, hb⟩ := Reading.map_eq_ok_iff.1 h
  cases hb
  exact ⟨Reading.mapError_eq_ok_iff.1 hcomplete, rfl⟩

theorem selfDelimiting_object (h : ∀ slot ∈ shape.slots, Delimited slot.reader.read) :
    SelfDelimiting shape.object := by
  intro s a r hread more
  rw [Shape.object] at hread
  split at hread
  · cases hread
  rename_i c t hs
  split at hread
  · cases hread
  rename_i draft u hdraft
  obtain ⟨hfinish, rfl⟩ := finish_of_complete hread
  split at hdraft
  · rename_i hc
    cases hdraft
    rw [hc] at hs
    exact object_of_close (skipSpace_append_of_cons hs more) hfinish
  · rename_i hc
    have hentries := selfDelimiting_entries h shape.blank hdraft more
    exact object_of_entries (skipSpace_append_of_cons hs more) hc hentries hfinish

theorem selfDelimiting_array (h : ∀ slot ∈ shape.slots, Delimited slot.reader.read) :
    SelfDelimiting shape.array := by
  intro s a r hread more
  rw [Shape.array] at hread
  split at hread
  · cases hread
  · rename_i draft t hpositional
    obtain ⟨hfinish, rfl⟩ := finish_of_complete hread
    exact array_of_positional (selfDelimiting_positional h true shape.blank hpositional more) hfinish

/-- A record ends with its closing bracket. -/
theorem selfDelimiting_shape (h : ∀ slot ∈ shape.slots, Delimited slot.reader.read) :
    SelfDelimiting shape.reader.read := by
  refine GoesByFirst.selfDelimiting (fun _ => rfl) fun c s a r hread more => ?_
  split at hread
  · rename_i hobject
    rw [if_pos hobject, selfDelimiting_object h hread]
  rename_i hobject
  rw [if_neg hobject]
  split at hread
  · rename_i harray
    rw [if_pos harray, selfDelimiting_array h hread]
  · cases hread

end Shapes

end Records

/-- A text that holds a value is malformed when something other than white space comes after it. -/
theorem decode_append_of_ok {reader : Reader α} (h : SelfDelimiting reader.read)
    {cut rest : String} {a : α} (hcut : reader.decode cut = .ok a) {c : Char}
    (hc : c ∈ rest.toList) (hspace : isSpace c = false) :
    reader.decode (cut ++ rest) = .error .malformed := by
  obtain ⟨r, hread, hend⟩ := decode_eq_ok_iff.1 hcut
  have hrest : skipSpace (r ++ rest.toList) ≠ [] := by
    intro hall
    rw [skipSpace, List.dropWhile_eq_nil_iff] at hall
    have hc' := hall c (by simp [hc])
    rw [hspace] at hc'
    cases hc'
  rw [Reader.decode, String.toList_append, h hread]
  exact if_neg hrest

/-- The first text is the second without an end that is more than white space. -/
def CutShort (cut content : String) : Prop :=
  ∃ rest, cut ++ rest = content ∧ ∃ c ∈ rest.toList, isSpace c = false

theorem CutShort.exists_fault {cut content : String} (h : CutShort cut content)
    {reader : Reader α} (hreader : SelfDelimiting reader.read) {a : α}
    (hcontent : reader.decode content = .ok a) : ∃ fault, reader.decode cut = .error fault := by
  obtain ⟨rest, rfl, c, hc, hspace⟩ := h
  cases hcut : reader.decode cut with
  | error fault => exact ⟨fault, rfl⟩
  | ok b =>
    rw [decode_append_of_ok hreader hcut hc hspace] at hcontent
    cases hcontent

end Json

open Json (SelfDelimiting CutShort delimited_slot)

theorem Stat.selfDelimiting_reader : SelfDelimiting Stat.shape.reader.read := by
  apply Json.selfDelimiting_shape
  simp only [Stat.shape, List.forall_mem_cons]
  exact ⟨delimited_slot Json.selfDelimiting_named.delimited _,
    delimited_slot (Json.selfDelimiting_textAs _).delimited _, List.forall_mem_nil _⟩

theorem Record.selfDelimiting_reader : SelfDelimiting Record.shape.reader.read := by
  have hstat := Stat.selfDelimiting_reader.delimited
  apply Json.selfDelimiting_shape
  simp only [Record.shape, List.forall_mem_cons]
  exact ⟨delimited_slot (Json.selfDelimiting_textAs _).delimited _,
    delimited_slot Json.selfDelimiting_named.delimited _,
    delimited_slot Json.delimited_word32 _, delimited_slot Json.delimited_word32 _,
    delimited_slot hstat _, delimited_slot (Json.selfDelimiting_list hstat).delimited _,
    List.forall_mem_nil _⟩

theorem Artifact.selfDelimiting_reader : SelfDelimiting Artifact.reader.read :=
  Json.selfDelimiting_refine Record.selfDelimiting_reader _

theorem Row.selfDelimiting_reader : SelfDelimiting Row.reader.read :=
  Json.selfDelimiting_list
    (Json.selfDelimiting_nullable (Json.selfDelimiting_textAs _)).delimited

theorem Sheet.selfDelimiting_reader : SelfDelimiting Sheet.shape.reader.read := by
  apply Json.selfDelimiting_shape
  simp only [Sheet.shape, List.forall_mem_cons]
  exact ⟨delimited_slot (Json.selfDelimiting_textAs _).delimited _,
    delimited_slot (Json.selfDelimiting_list Row.selfDelimiting_reader.delimited).delimited _,
    List.forall_mem_nil _⟩

theorem Workbook.selfDelimiting_reader : SelfDelimiting Workbook.shape.reader.read := by
  apply Json.selfDelimiting_shape
  simp only [Workbook.shape, List.forall_mem_cons]
  exact ⟨delimited_slot (Json.selfDelimiting_list Sheet.selfDelimiting_reader.delimited).delimited _,
    List.forall_mem_nil _⟩

theorem Settings.selfDelimiting_reader : SelfDelimiting Settings.shape.reader.read := by
  apply Json.selfDelimiting_shape
  simp only [Settings.shape, List.forall_mem_cons]
  exact ⟨delimited_slot
      (Json.selfDelimiting_nullable
        (Json.selfDelimiting_refine (Json.selfDelimiting_textAs _) _)).delimited _,
    delimited_slot (Json.selfDelimiting_textAs _).delimited _, List.forall_mem_nil _⟩

namespace FileTree

section CutFiles

variable {tree : FileTree} {path : Path} {cut : String} {fault : Json.Fault}

theorem has_of_read (h : tree.read path = .ok cut) : tree.has path = true := by
  cases hplace : tree.locate path with
  | error error =>
    rw [read, hplace] at h
    cases h
  | ok place =>
    rw [has, hplace]
    rfl

theorem readArtifacts_of_fault (h : Artifact.decodeList cut = .error fault)
    (hread : tree.read path = .ok cut) : tree.readArtifacts path = .error (.undecodable fault) := by
  rw [readArtifacts, readFile, hread]
  simp only [Except.mapError, bind, Except.bind, h]

theorem workbookIn_of_fault (h : Workbook.decode cut = .error fault)
    (hread : tree.read path = .ok cut) :
    tree.workbookIn .json path = .error (.undecodable fault) := by
  rw [workbookIn, readFile, hread]
  simp only [Except.mapError, bind, Except.bind, Workbook.Format.decode, h]

theorem loadSettings_of_fault (h : Settings.decode cut = .error fault)
    (hread : tree.read path = .ok cut) : tree.loadSettings path = .error (.undecodable fault) := by
  rw [loadSettings, if_pos (has_of_read hread), readFile, hread]
  simp only [Except.mapError, bind, Except.bind, h]

end CutFiles

/-- A document that is cut short is refused, and so is every file that holds what is left of it: there
is no list with fewer artifacts in it, no workbook with fewer sheets or rows, and there are no
defaults. -/
theorem refused_of_cutShort {cut content : String} (h : CutShort cut content) :
    (∀ artifacts, Artifact.decodeList content = .ok artifacts →
      ∃ fault, Artifact.decodeList cut = .error fault ∧ ∀ (tree : FileTree) (path : Path),
        tree.read path = .ok cut → tree.readArtifacts path = .error (.undecodable fault)) ∧
    (∀ workbook, Workbook.decode content = .ok workbook →
      ∃ fault, Workbook.decode cut = .error fault ∧ ∀ (tree : FileTree) (path : Path),
        tree.read path = .ok cut → tree.workbookIn .json path = .error (.undecodable fault)) ∧
    (∀ settings, Settings.decode content = .ok settings →
      ∃ fault, Settings.decode cut = .error fault ∧ ∀ (tree : FileTree) (path : Path),
        tree.read path = .ok cut → tree.loadSettings path = .error (.undecodable fault)) := by
  refine ⟨fun artifacts hcontent => ?_, fun workbook hcontent => ?_, fun settings hcontent => ?_⟩
  · have hlist := Json.selfDelimiting_list Artifact.selfDelimiting_reader.delimited
    obtain ⟨fault, hfault⟩ := h.exists_fault hlist hcontent
    exact ⟨fault, hfault, fun _ _ => readArtifacts_of_fault hfault⟩
  · obtain ⟨fault, hfault⟩ := h.exists_fault Workbook.selfDelimiting_reader hcontent
    exact ⟨fault, hfault, fun _ _ => workbookIn_of_fault hfault⟩
  · obtain ⟨fault, hfault⟩ := h.exists_fault Settings.selfDelimiting_reader hcontent
    exact ⟨fault, hfault, fun _ _ => loadSettings_of_fault hfault⟩

/-- The end is missing from a number that is skipped on. -/
def cutArtifacts : String :=
  "[\x7b\"category\":\"plume\",\"tier\":5,\"primary\":\x7b\"kind\":\"atk\"\x7d,\"note\":[1."

def cutWorkbook : String :=
  "\x7b\"sheets\":[\x7b\"name\":\"A\",\"rows\":[[\"x\"],[nu"

def cutSettings : String :=
  "\x7b\"rules_file\":null"

def cutFiles : FileTree where
  entries := [
    (["a.json"], .file (.text cutArtifacts)),
    (["r.json"], .file (.text cutWorkbook)),
    (["c.json"], .file (.text cutSettings))]

theorem cutFiles_refused :
    (∃ fault, cutFiles.readArtifacts ⟨"a.json"⟩ = .error (.undecodable fault)) ∧
      (∃ fault, cutFiles.workbookIn .json ⟨"r.json"⟩ = .error (.undecodable fault)) ∧
      ∃ fault, cutFiles.loadSettings ⟨"c.json"⟩ = .error (.undecodable fault) := by
  have hartifacts : CutShort cutArtifacts (cutArtifacts ++ "5]\x7d]") :=
    ⟨_, rfl, '5', by decide, rfl⟩
  have hworkbook : CutShort cutWorkbook (cutWorkbook ++ "ll]]\x7d]\x7d") :=
    ⟨_, rfl, 'l', by decide, rfl⟩
  have hsettings : CutShort cutSettings (cutSettings ++ "\x7d") := ⟨_, rfl, '\x7d', by decide, rfl⟩
  obtain ⟨fault, -, hread⟩ := (refused_of_cutShort hartifacts).1
    [⟨⟨"", .plume, 5, 0, ⟨.atk, ""⟩, []⟩, Nat.zero_le _, List.nodup_nil⟩] (by decide +kernel)
  obtain ⟨otherFault, -, hopen⟩ := (refused_of_cutShort hworkbook).2.1
    ⟨[⟨"A", [[some "x"], [none]]⟩]⟩ (by decide +kernel)
  obtain ⟨lastFault, -, hload⟩ := (refused_of_cutShort hsettings).2.2 {} (by decide +kernel)
  exact ⟨⟨fault, hread cutFiles ⟨"a.json"⟩ (by decide +kernel)⟩,
    ⟨otherFault, hopen cutFiles ⟨"r.json"⟩ (by decide +kernel)⟩,
    ⟨lastFault, hload cutFiles ⟨"c.json"⟩ (by decide +kernel)⟩⟩

end FileTree
end ArtifactRules
