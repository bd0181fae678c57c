import VoxelRelay.Store.Window

/-!
# Sections arriving

A section that was asked for takes the place of its content in the column:
edits made in the meantime are replayed on it, the records delivered with it
are stored, and the column is due to be sent.  A section is refused when it
was not asked for, when its column or slot is not there, or when its shape is
wrong; a refused section changes nothing but that it is no longer under way.
-/

namespace VoxelRelay

/-- Why a section was refused. -/
inductive MergeError where
  | notRequested (pos : SectionPos)
  | columnNotLoaded (pos : SectionPos)
  | outsideWorld (pos : SectionPos)
  | malformed (pos : SectionPos) (cause : ShapeError)
deriving DecidableEq, Repr

/-- A section position as error messages show it. -/
def SectionPos.describe (pos : SectionPos) : String :=
  "SubChunkPos \x7b x: " ++ toString pos.x.toInt ++ ", y: " ++
    toString pos.y.toInt ++ ", z: " ++
    toString pos.z.toInt ++ " \x7d"

namespace MergeError

/-- The wording of a refusal. -/
def message : MergeError → String
  | notRequested pos => "sub-chunk " ++ pos.describe ++ " was not requested"
  | columnNotLoaded pos =>
      "sub-chunk " ++ pos.describe ++ " belongs to a chunk that is not loaded"
  | outsideWorld pos =>
      "sub-chunk " ++ pos.describe ++ " lies outside the world height"
  | malformed pos cause =>
      "sub-chunk " ++ pos.describe ++ " is malformed: " ++ cause.message

/-- The remark on a refusal. -/
def warning : MergeError → Warning
  | notRequested _ => .sectionNotRequested
  | columnNotLoaded _ => .sectionNotLoaded
  | outsideWorld _ => .sectionOutsideWorld
  | malformed .. => .sectionMalformed

end MergeError

/--
Fills a slot of a column with delivered content and stores the records that
came with it.
-/
def Column.fill
    (column : Column)
    (slot : Nat)
    (content : Section)
    (sourceAir : UInt32)
    (entities : List SourceEntity) : Column :=
  entities.foldl Column.putEntity
    (column.modifySection slot fun old =>
      ((old.mergeFrom content).applyPending sourceAir).1)

namespace Store

/-- Finds the slot that a delivered section goes to, or why it is refused. -/
def accept
    (store : Store)
    (pos : SectionPos)
    (content : Section) : Except MergeError Nat :=
  if !store.inFlight.contains pos then .error (.notRequested pos)
  else if !store.isLoaded pos.column then .error (.columnNotLoaded pos)
  else
    match store.slot? pos.y with
    | none => .error (.outsideWorld pos)
    | some slot =>
        match content.checkShape with
        | .error cause => .error (.malformed pos cause)
        | .ok _ => .ok slot

/-- Takes in a delivered section with its records. -/
def mergeSection
    (store : Store)
    (pos : SectionPos)
    (content : Section)
    (entities : List SourceEntity) : Outcome (Except MergeError Unit) :=
  let landed := { store with inFlight := store.inFlight.erase pos }
  match store.accept pos content with
  | .error refusal => ⟨landed, .error refusal, [], [refusal.warning]⟩
  | .ok slot =>
      let current := content.normalize store.table
      let filled := { landed with
        columns := landed.columns.modify pos.column
          (·.fill slot current store.table.sourceAir entities) }
      ⟨filled.markDirty pos.column, .ok (), [],
        content.normalizeWarnings store.table⟩

end Store

end VoxelRelay
