import VoxelRelay.Palette
import VoxelRelay.Position

/-!
# Sections

A section is a cube of 16 blocks a side: up to two layers of blocks, the
second one holding what overlays the first (water, for the most part), and
perhaps biomes.  A section whose content has not arrived yet keeps a log of
the edits made to it; they are replayed once it is filled.

`blockAt?` is the view through which the blocks of a section are read.
-/

namespace VoxelRelay

/-- The most layers a section may have. -/
def maxLayers : Nat := 2

/-- A block change made before its section arrived. -/
structure Edit where
  x : Nat
  y : Nat
  z : Nat
  layer : Nat
  id : UInt32
deriving DecidableEq, Repr, Inhabited

/-- What is wrong with the shape of a section. -/
inductive ShapeError where
  | tooManyLayers (count : Nat)
  | layerEdge (layer edge : Nat)
  | biomeEdge (edge : Nat)
deriving DecidableEq, Repr

/-- The wording of a shape error. -/
def ShapeError.message : ShapeError → String
  | tooManyLayers count =>
      "section has " ++ toString count ++
        " block layers, at most 2 are allowed"
  | layerEdge layer edge =>
      "block layer " ++ toString layer ++ " has edge " ++ toString edge ++
        ", expected 16"
  | biomeEdge edge =>
      "biome palette has edge " ++ toString edge ++ ", expected 16 or 4"

/-- A cube of blocks. -/
structure Section where
  layers : Array Palette
  biomes : Option Palette
  /-- The log of edits while the content is awaited; `none` once it is there. -/
  pending : Option (Array Edit)
deriving DecidableEq, Repr, Inhabited

namespace Section

/-- A section without layers. -/
def empty : Section := ⟨#[], none, none⟩

/-- A section with one layer of one block. -/
def filled (id : UInt32) : Section := ⟨#[.blocks id], none, none⟩

/-- A section with the given layers and biomes. -/
def ofLayers (layers : Array Palette) (biomes : Option Palette) : Section :=
  ⟨layers, biomes, none⟩

/-- A section whose content is still to come. -/
def awaiting : Section := ⟨#[], none, some #[]⟩

/-- Whether the content is still to come. -/
def isAwaiting (content : Section) : Bool := content.pending.isSome

/-- The number of edits in the log. -/
def pendingCount (content : Section) : Nat :=
  match content.pending with
  | some log => log.size
  | none => 0

/-- A layer by number. -/
def layer?
    (content : Section)
    (layer : Nat) : Option Palette := content.layers[layer]?

/-- The block at a place in a layer, if the section has that layer. -/
def blockAt? (content : Section) (layer x y z : Nat) : Option UInt32 :=
  (content.layer? layer).map (·.idAt x y z)

/--
Checks the number of layers, then the edge of each layer, then the edge of the
biomes.
-/
def checkShape (content : Section) : Except ShapeError Unit :=
  if maxLayers < content.layers.size then
    .error (.tooManyLayers content.layers.size)
  else
    match content.layers.findIdx? (·.edge != sectionEdge) with
    | some layer =>
        .error
          (.layerEdge layer
            ((content.layer? layer).map Palette.edge |>.getD 0))
    | none =>
        match content.biomes with
        | some biomes =>
            if biomes.edge = sectionEdge ∨
              biomes.edge = 1 <<< Palette.biomeEdgeBits then .ok ()
            else .error (.biomeEdge biomes.edge)
        | none => .ok ()

/-- Replaces the biomes. -/
def setBiomes (content : Section) (biomes : Palette) : Section :=
  { content with biomes := some biomes }

/-- Adds layers of air until there are at least `count`. -/
def padLayers (content : Section) (count : Nat) (air : UInt32) : Section :=
  { content with
    layers :=
      content.layers ++
        Array.replicate (count - content.layers.size) (.blocks air) }

/-- Makes sure that a layer exists; `none` when no section may have it. -/
def ensureLayer
    (content : Section)
    (layer : Nat)
    (air : UInt32) : Option Section :=
  if maxLayers ≤ layer then none else some (content.padLayers (layer + 1) air)

/-- Changes a layer in place, if the section has it. -/
def modifyLayer
    (content : Section)
    (layer : Nat)
    (change : Palette → Palette) : Section :=
  { content with layers := content.layers.modify layer change }

/--
Writes one block, creating the layer if need be; `none` when no section may
have it.
-/
def setBlock
    (content : Section)
    (layer x y z : Nat)
    (air id : UInt32) : Option Section :=
  (content.ensureLayer layer air).map
    (·.modifyLayer layer (·.setIdAt x y z id))

/--
Logs an edit; refused when its layer cannot exist or the content is already
there.
-/
def bufferEdit (content : Section) (edit : Edit) : Option Section :=
  if maxLayers ≤ edit.layer then none
  else content.pending.map fun log =>
    { content with pending := some (log.push edit) }

/-- Takes over the layers of another section, and its biomes if it has any. -/
def mergeFrom (content other : Section) : Section :=
  { content with
    layers := other.layers
    biomes := other.biomes <|> content.biomes }

/--
Replays one edit and counts it; an edit in a layer that cannot exist is passed
over.
-/
def replay
    (air : UInt32)
    (state : Section × Nat)
    (edit : Edit) : Section × Nat :=
  match state.1.setBlock edit.layer edit.x edit.y edit.z air edit.id with
  | some changed => (changed, state.2 + 1)
  | none => state

/-- Ends the wait: replays the log in order and counts the edits made. -/
def applyPending (content : Section) (air : UInt32) : Section × Nat :=
  match content.pending with
  | none => (content, 0)
  | some log => log.foldl (replay air) ({ content with pending := none }, 0)

end Section

end VoxelRelay
