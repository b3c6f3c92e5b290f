import ArtifactRules.Artifact
import ArtifactRules.Json.Document
import ArtifactRules.Json.Shape

/-! Lists of artifacts as JSON. Each record is checked where it ends, so a list is read as a whole
or not at all. -/

namespace ArtifactRules

open Json (Document Fault Reader Shape required)

namespace Stat

structure Draft where
  kind : Option Attribute := none
  value : Option String := none

def shape : Shape Draft Stat where
  title := "struct Stat"
  slots := [
    .of "kind" (·.kind.isSome) .named fun kind d => { d with kind := some kind },
    .of "value" (·.value.isSome) .text fun value d => { d with value := some value }]
  blank := {}
  finish d := do
    let kind ← required "kind" 0 d.kind
    return { kind, value := d.value.getD "" }

def toDocument (stat : Stat) : Document :=
  .record [("kind", .text stat.kind.name), ("value", .text stat.value)]

end Stat

namespace Record

structure Draft where
  name : Option String := none
  category : Option Category := none
  tier : Option UInt32 := none
  level : Option UInt32 := none
  primary : Option Stat := none
  secondary : Option (List Stat) := none

def shape : Shape Draft Record where
  title := "struct RawItem"
  slots := [
    .of "name" (·.name.isSome) .text fun name d => { d with name := some name },
    .of "category" (·.category.isSome) .named fun category d =>
      { d with category := some category },
    .of "tier" (·.tier.isSome) .word32 fun tier d => { d with tier := some tier },
    .of "level" (·.level.isSome) .word32 fun level d => { d with level := some level },
    .of "primary" (·.primary.isSome) Stat.shape.reader fun primary d =>
      { d with primary := some primary },
    .of "secondary" (·.secondary.isSome) (.list Stat.shape.reader) fun secondary d =>
      { d with secondary := some secondary }]
  blank := {}
  finish d := do
    let category ← required "category" 1 d.category
    let tier ← required "tier" 2 d.tier
    let primary ← required "primary" 4 d.primary
    return {
      name := d.name.getD "", category, tier, level := d.level.getD 0, primary,
      secondary := d.secondary.getD [] }

def toDocument (r : Record) : Document :=
  .record [
    ("name", .text r.name),
    ("category", .text r.category.name),
    ("tier", .natural r.tier.toNat),
    ("level", .natural r.level.toNat),
    ("primary", r.primary.toDocument),
    ("secondary", .list (r.secondary.map Stat.toDocument))]

end Record

namespace Artifact

def reader : Reader Artifact :=
  Record.shape.reader.refine fun r =>
    r.check.mapError fun fault => .mismatch (.refused fault.message)

/-- The artifacts of a list, in its order. -/
def decodeList (content : String) : Except Fault (List Artifact) :=
  (Reader.list reader).decode content

def listDocument (artifacts : List Artifact) : Document :=
  .list (artifacts.map fun a => a.toDocument)

end Artifact
end ArtifactRules
