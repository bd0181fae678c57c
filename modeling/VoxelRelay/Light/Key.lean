import VoxelRelay.Light.Input
import VoxelRelay.Word.Hash

/-!
# Keys of light computations

A light computation is written out as a list of words: the blocks of the
column, the blocks on the faces of its neighbors that touch it, and the light
on those faces.  The hash of these words is the key under which the result may
be looked up.
-/

namespace VoxelRelay

/-- The identifier of every cell, or the one that fills the section. -/
def Palette.keyWords (palette : Palette) : List UInt32 :=
  match palette.single? with
  | some id => [id]
  | none => palette.toList

/-- The `(x, y, z)` of the cells of a face, layer by layer. -/
def faceCells (face : Direction) : List (Nat × Nat × Nat) :=
  (List.range 16).flatMap fun y =>
    (List.range 16).map fun a => ((faceCell face a).1, y, (faceCell face a).2)

/-- The identifiers on a face, or the one that fills the section. -/
def Palette.faceWords (palette : Palette) (face : Direction) : List UInt32 :=
  match palette.single? with
  | some id => [id]
  | none => (faceCells face).map fun (x, y, z) => palette.idAt x y z

/-- Packs levels eight to a word, the first in the highest bits. -/
def packLevels : List Nat → List UInt32
  | a :: b :: c :: d :: e :: f :: g :: h :: rest =>
      ([a, b, c, d, e, f, g, h].foldl
        (fun word level => (word <<< 4) ||| level.toUInt32) 0) ::
        packLevels rest
  | _ => []

/-- The levels on a face of a slab. -/
def LightSlab.faceWords (slab : LightSlab) (face : Direction) : List UInt32 :=
  packLevels
    ((faceCells face).map fun (x, y, z) => slab.get (cellIndex x y z))

/--
The light on a face of a column, with a mark for the presence of each slab.
-/
def LightData.faceWords
    (light : LightData)
    (face : Direction) : List UInt32 :=
  light.size.toUInt32 :: light.slabs.toList.flatMap fun
    | none => [0]
    | some slab => 1 :: slab.faceWords face

/-- The blocks on a face of a column. -/
def sectionFaceWords
    (sections : Array Palette)
    (face : Direction) : List UInt32 :=
  sections.size.toUInt32 :: sections.toList.flatMap (·.faceWords face)

/--
What is known of the neighbors, with a mark for those of which anything is.
-/
def Sides.words
    {α : Type}
    (sides : Sides (Option α))
    (faceWords : α → Direction → List UInt32) : List UInt32 :=
  Direction.all.flatMap fun direction =>
    match sides.get direction with
    | none => [0]
    | some known => 1 :: faceWords known direction.opposite

namespace LightInput

/-- A light computation written out as words. -/
def keyWords (input : LightInput) : List UInt32 :=
  input.sections.size.toUInt32 ::
    input.sections.toList.flatMap Palette.keyWords ++
    input.neighborSections.words sectionFaceWords ++
    (input.neighborLight.map (Option.map ColumnLight.sky)).words
      LightData.faceWords ++
    (input.neighborLight.map (Option.map ColumnLight.block)).words
      LightData.faceWords

/-- The key of a light computation. -/
def key (input : LightInput) : UInt64 :=
  (WordHash.ofWords input.keyWords).value

end LightInput

end VoxelRelay
