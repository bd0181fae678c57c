import VoxelRelay.Proofs.CheckedLight
import VoxelRelay.Proofs.KeyWords

/-!
# Keys and caches within their bounds

The key of a light computation is made of all cells of the column and of the
faces of its neighbors, and a cache answers with light that was stored under
it.  The checked forms read these cells as the computation itself does.  A
cache all of whose entries span a number of sections goes on to do so while it
is asked for the light of such columns, and all of its answers do: a key may
lead to the light of another column, but not to that of a column of another
height.
-/

namespace VoxelRelay

/-! ## Keys -/

/-- The identifier of every cell, or the one that fills the section. -/
def Palette.keyWordsChecked (palette : Palette) : Option (List UInt32) := do
  match ← palette.singleChecked with
  | some id => return [id]
  | none => palette.toListChecked

/-- The identifiers on a face, or the one that fills the section. -/
def Palette.faceWordsChecked
    (palette : Palette)
    (face : Direction) : Option (List UInt32) := do
  match ← palette.singleChecked with
  | some id => return [id]
  | none => (faceCells face).mapM fun (x, y, z) => palette.idAtChecked x y z

/-- The levels on a face of a slab. -/
def LightSlab.faceWordsChecked
    (slab : LightSlab)
    (face : Direction) : Option (List UInt32) :=
  ((faceCells face).mapM fun (x, y, z) => slab.levelAtChecked x y z).map
    packLevels

/-- The mark for the presence of a slab, and the levels on a face of it. -/
def slabWordsChecked (face : Direction) :
    Option LightSlab → Option (List UInt32)
  | none => some [0]
  | some slab => (slab.faceWordsChecked face).map (1 :: ·)

/--
The light on a face of a column, with a mark for the presence of each slab.
-/
def LightData.faceWordsChecked
    (light : LightData)
    (face : Direction) : Option (List UInt32) := do
  return light.size.toUInt32 ::
    (← light.slabs.toList.mapM (slabWordsChecked face)).flatten

/-- The blocks on a face of a column. -/
def sectionFaceWordsChecked
    (sections : Array Palette)
    (face : Direction) : Option (List UInt32) := do
  return sections.size.toUInt32 ::
    (← sections.toList.mapM (·.faceWordsChecked face)).flatten

/--
What is known of the neighbors, with a mark for those of which anything is.
-/
def Sides.wordsChecked
    {α : Type}
    (sides : Sides (Option α))
    (faceWords : α → Direction → Option (List UInt32)) :
      Option (List UInt32) :=
  (Direction.all.mapM fun direction =>
    match sides.get direction with
    | none => some [0]
    | some known =>
        (faceWords known direction.opposite).map (1 :: ·)).map List.flatten

namespace LightInput

/-- A light computation written out as words. -/
def keyWordsChecked (input : LightInput) : Option (List UInt32) := do
  let cells ← input.sections.toList.mapM Palette.keyWordsChecked
  let blocks ← input.neighborSections.wordsChecked sectionFaceWordsChecked
  let sky ← (input.neighborLight.map
    (Option.map ColumnLight.sky)).wordsChecked
    LightData.faceWordsChecked
  let block ← (input.neighborLight.map
    (Option.map ColumnLight.block)).wordsChecked
    LightData.faceWordsChecked
  return input.sections.size.toUInt32 :: cells.flatten ++ blocks ++
    sky ++ block

/-- The key of a light computation. -/
def keyChecked (input : LightInput) : Option UInt64 :=
  input.keyWordsChecked.map fun words => (WordHash.ofWords words).value

end LightInput

theorem inside_of_mem_faceCells
    {face : Direction}
    {x y z : Nat}
    (member : (x, y, z) ∈ faceCells face) :
    x < 16 ∧ y < 16 ∧ z < 16 := by
  simp only [faceCells, List.mem_flatMap, List.mem_map, List.mem_range,
    Prod.mk.injEq] at member
  obtain ⟨y, yLt, a, aLt, rfl, rfl, rfl⟩ := member
  obtain ⟨-, inside⟩ :=
    Flood.inRange_faceVoxel face (Nat.lt_succ_self 0) aLt yLt
  exact inside

namespace Palette.SectionCube

variable {palette : Palette} (cube : palette.SectionCube)
include cube

theorem keyWordsChecked_eq :
    palette.keyWordsChecked = some palette.keyWords := by
  rw [keyWordsChecked, cube.toWellFormed.singleChecked_eq, keyWords]
  cases palette.single? with
  | some id => rfl
  | none => exact cube.toWellFormed.toListChecked_eq

theorem faceWordsChecked_eq (face : Direction) :
    palette.faceWordsChecked face = some (palette.faceWords face) := by
  rw [faceWordsChecked, cube.toWellFormed.singleChecked_eq, faceWords]
  cases palette.single? with
  | some id => rfl
  | none =>
      refine mapM_eq_some ?_
      rintro ⟨x, y, z⟩ member
      obtain ⟨xLt, yLt, zLt⟩ := inside_of_mem_faceCells member
      exact cube.idAtChecked_eq xLt yLt zLt

end Palette.SectionCube

theorem LightSlab.faceWordsChecked_eq
    (slab : LightSlab)
    (face : Direction) :
    slab.faceWordsChecked face = some (slab.faceWords face) := by
  have levels :
      (faceCells face).mapM (fun (x, y, z) => slab.levelAtChecked x y z) =
      some
        ((faceCells face).map fun (x, y, z) =>
          slab.get (cellIndex x y z)) := by
    refine mapM_eq_some ?_
    rintro ⟨x, y, z⟩ member
    obtain ⟨xLt, yLt, zLt⟩ := inside_of_mem_faceCells member
    exact slab.levelAtChecked_eq xLt yLt zLt
  rw [faceWordsChecked, levels]
  rfl

theorem LightData.faceWordsChecked_eq
    (light : LightData)
    (face : Direction) :
    light.faceWordsChecked face = some (light.faceWords face) := by
  have slabs : light.slabs.toList.mapM (slabWordsChecked face) =
      some (light.slabs.toList.map (slabWords face)) := by
    refine mapM_eq_some ?_
    rintro (_ | slab) -
    · rfl
    · rw [slabWordsChecked, slab.faceWordsChecked_eq]
      rfl
  rw [LightData.faceWordsChecked, slabs, LightData.faceWords_eq]
  rfl

theorem sectionFaceWordsChecked_eq
    {sections : Array Palette}
    (cubes : ∀ palette ∈ sections, palette.SectionCube)
    (face : Direction) :
    sectionFaceWordsChecked sections face =
      some (sectionFaceWords sections face) := by
  have words : sections.toList.mapM (·.faceWordsChecked face) =
      some (sections.toList.map (·.faceWords face)) :=
    mapM_eq_some fun palette member =>
      (cubes palette (Array.mem_toList_iff.1 member)).faceWordsChecked_eq face
  rw [sectionFaceWordsChecked, words, sectionFaceWords, List.flatMap_def]
  rfl

/--
What is known of the neighbors is written out if that of each of them can be.
-/
theorem Sides.wordsChecked_eq
    {α : Type}
    {sides : Sides (Option α)}
    {checked : α → Direction → Option (List UInt32)}
    {plain : α → Direction → List UInt32}
    (each : ∀ direction known, sides.get direction = some known →
      checked known direction.opposite =
        some (plain known direction.opposite)) :
    sides.wordsChecked checked = some (sides.words plain) := by
  rw [wordsChecked, words, List.flatMap_def,
    @mapM_eq_some _ _ _ (fun direction =>
      match sides.get direction with
      | none => [0]
      | some known => 1 :: plain known direction.opposite)]
  · rfl
  · intro direction _
    cases there : sides.get direction with
    | none => rfl
    | some known =>
        dsimp only
        rw [each direction known there]
        rfl

namespace LightInput

theorem keyChecked_eq
    {input : LightInput}
    (shaped : input.Shaped) :
    input.keyChecked = some input.key := by
  have cells : input.sections.toList.mapM Palette.keyWordsChecked =
      some (input.sections.toList.map Palette.keyWords) :=
    mapM_eq_some fun palette member =>
      (shaped.cubes palette
        (Array.mem_toList_iff.1 member)).keyWordsChecked_eq
  have blocks : input.neighborSections.wordsChecked sectionFaceWordsChecked =
      some (input.neighborSections.words sectionFaceWords) :=
    Sides.wordsChecked_eq fun direction sections known =>
      sectionFaceWordsChecked_eq
        (shaped.neighborCubes direction sections known) _
  have light (sides : Sides (Option LightData)) :
      sides.wordsChecked LightData.faceWordsChecked =
        some (sides.words LightData.faceWords) :=
    Sides.wordsChecked_eq fun _ light _ => light.faceWordsChecked_eq _
  rw [keyChecked, keyWordsChecked, cells, blocks, light, light, key, keyWords,
    List.flatMap_def]
  rfl

end LightInput

/-! ## Caches -/

namespace LightCache

/-- All entries of a cache are light of columns with as many sections. -/
def Spans (cache : LightCache) (count : Nat) : Prop :=
  ∀ key entry, cache.get? key = some entry → entry.light.Spans count

/-- Computes light, by the workers if there are any. -/
def computeChecked
    (cache : LightCache)
    (properties : LightProperties)
    (input : LightInput) : Option ColumnLight :=
  match cache.workers with
  | none => input.lightChecked properties
  | some pool => do
      let sky ← (pool.submit? fun _ => input.skyLightChecked properties).getD
        (input.skyLightChecked properties)
      let block ← (pool.submit? fun _ =>
        input.blockLightChecked properties).getD
          (input.blockLightChecked properties)
      return ⟨sky, block⟩

/--
Looks up the light for an input, computing and storing it when it is not
there.
-/
def getOrComputeChecked
    (cache : LightCache)
    (properties : LightProperties)
    (input : LightInput) : Option (ColumnLight × LightCache) := do
  let key ← input.keyChecked
  match cache.get? key with
  | some entry => return (entry.light, cache)
  | none =>
      let light ← cache.computeChecked properties input
      return (light, cache.put key light)

theorem spans_create
    (capacity : Nat)
    (workers : Option WorkerPool)
    (count : Nat) :
    (create capacity workers).Spans count :=
  every_create (ColumnLight.Spans · count) capacity workers

variable
    {cache : LightCache}
    {input : LightInput}
    (properties : LightProperties)

/--
Both the answer of a cache and what it keeps are light of columns with as many
sections.
-/
theorem Spans.getOrCompute
    (spans : cache.Spans input.sections.size)
    (shaped : input.Shaped) :
    (cache.getOrCompute properties input).1.Spans input.sections.size ∧
      (cache.getOrCompute properties input).2.Spans input.sections.size := by
  have every : cache.Every (ColumnLight.Spans · input.sections.size) := spans
  exact every.getOrCompute (shaped.spans_light properties)

theorem computeChecked_eq
    (cache : LightCache)
    (shaped : input.Shaped) :
    cache.computeChecked properties input =
      some (cache.compute properties input) := by
  have done (pool : WorkerPool) (light : Option LightData) :
      (pool.submit? fun _ => light).getD light = light := by
    rw [WorkerPool.submit?]
    split <;> rfl
  rw [compute_eq, computeChecked]
  split
  · exact input.lightChecked_eq properties shaped
  · rw [done, done]
    exact input.lightChecked_eq properties shaped

theorem getOrComputeChecked_eq
    (cache : LightCache)
    (shaped : input.Shaped) :
    cache.getOrComputeChecked properties input =
      some (cache.getOrCompute properties input) := by
  rw [getOrComputeChecked, input.keyChecked_eq shaped,
    LightCache.getOrCompute]
  simp only [Option.bind_eq_bind, Option.bind_some]
  cases cache.get? input.key with
  | some entry => rfl
  | none =>
      dsimp only
      rw [cache.computeChecked_eq properties shaped]
      rfl

end LightCache

end VoxelRelay
