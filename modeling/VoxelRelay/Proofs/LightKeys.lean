import VoxelRelay.Proofs.CanonicalLight
import VoxelRelay.Proofs.KeyWords

/-!
# Light computations that are written in the same words

A section of one identifier is written as a single word and any other section
as one word for each cell, without a mark that tells them apart.  So one list
of words can be cut into sections in different ways: one word of air and 4096
of a section with a lamp in it may as well be read as the section with the
lamp, moved by one cell, and one word of air above it.  Two columns that differ
in this way are written in the same words, and have different light.

Where the words are cut alike they do determine the light.
-/

namespace VoxelRelay

/-! ## Sections -/

namespace Palette

theorem keyWords_of_single?
    {palette : Palette}
    {id : UInt32}
    (single : palette.single? = some id) :
    palette.keyWords = [id] := by
  rw [keyWords, single]

theorem keyWords_of_indexed
    {palette : Palette}
    (indexed : palette.single? = none) :
    palette.keyWords = palette.toList := by
  rw [keyWords, indexed]

theorem SectionCube.length_toList
    {palette : Palette}
    (cube : palette.SectionCube) :
    palette.toList.length = 4096 := by
  rw [toList, List.length_map, List.length_range, cube.size_eq_4096]

/--
The words of a section say in which form it is stored and what its cells hold.
-/
theorem SectionCube.eq_of_keyWords_eq
    {first second : Palette}
    (firstCube : first.SectionCube)
    (secondCube : second.SectionCube)
    (words : first.keyWords = second.keyWords) :
    first.single? = second.single? ∧
      ∀ cell, cell < 4096 → first.idAtCell cell = second.idAtCell cell := by
  cases firstForm : first.single? with
  | some id =>
      cases secondForm : second.single? with
      | some other =>
          rw [keyWords_of_single? firstForm, keyWords_of_single? secondForm]
            at words
          obtain rfl := (List.cons.inj words).1
          refine ⟨rfl, fun cell _ => ?_⟩
          rw [idAtCell_of_single? firstForm, idAtCell_of_single? secondForm]
      | none =>
          rw [keyWords_of_single? firstForm, keyWords_of_indexed secondForm]
            at words
          have lengths := congrArg List.length words
          rw [secondCube.length_toList, List.length_singleton] at lengths
          exact absurd lengths (by decide)
  | none =>
      cases secondForm : second.single? with
      | some other =>
          rw [keyWords_of_indexed firstForm, keyWords_of_single? secondForm]
            at words
          have lengths := congrArg List.length words
          rw [firstCube.length_toList, List.length_singleton] at lengths
          exact absurd lengths (by decide)
      | none =>
          rw [keyWords_of_indexed firstForm, keyWords_of_indexed secondForm,
            toList, toList, firstCube.size_eq_4096, secondCube.size_eq_4096]
            at words
          exact ⟨rfl, fun cell inside =>
            List.map_inj_left.1 words cell (List.mem_range.2 inside)⟩

/-- An entry that no cell refers to is not written. -/
theorem SectionCube.keyWords_extended
    {palette : Palette}
    (cube : palette.SectionCube)
    (several : 1 < palette.ids.size)
    (id : UInt32) :
    (palette.extended id).keyWords = palette.keyWords := by
  have larger : 1 < (palette.extended id).ids.size := by
    rw [ids_extended, Array.size_push]
    exact Nat.lt_succ_of_lt several
  rw [keyWords_of_indexed (cube.toWellFormed.single?_eq_none several),
    keyWords_of_indexed
      ((cube.extended id).toWellFormed.single?_eq_none larger), toList,
      toList, size_extended]
  apply List.map_congr_left
  intro cell member
  exact cube.toWellFormed.idAtCell_extended id (List.mem_range.1 member)

end Palette

/-! ## Neighbors -/

/-- What is known of the light of a neighbor, with the mark that anything is. -/
def LightData.knownWords (direction : Direction) :
    Option LightData → List UInt32
  | none => [0]
  | some light => 1 :: light.faceWords direction.opposite

theorem Sides.words_eq (neighbors : Sides (Option LightData)) :
    neighbors.words LightData.faceWords =
      (Direction.all.map fun direction =>
        LightData.knownWords direction
          (neighbors.get direction)).flatten := by
  rw [← List.flatMap_def, Sides.words]
  congr 1
  funext direction
  cases neighbors.get direction <;> rfl

/--
Neighbors on both sides have the same number of slabs when it is written in the
same word, as is so for numbers below `2 ^ 32`.
-/
def SlabsAgree (left right : Sides (Option LightData)) : Prop :=
  ∀ direction light other, left.get direction = some light →
    right.get direction = some other →
    light.size.toUInt32 = other.size.toUInt32 → light.size = other.size

section

variable
    {left right : Sides (Option LightData)}
    (agree : SlabsAgree left right)
include agree

theorem forall₂_aligned_knownWords :
    List.Forall₂ Aligned
      (Direction.all.map fun direction =>
        LightData.knownWords direction (left.get direction))
      (Direction.all.map fun direction =>
        LightData.knownWords direction (right.get direction)) := by
  rw [List.forall₂_map_left_iff, List.forall₂_map_right_iff,
    List.forall₂_same]
  intro direction _
  cases leftKnown : left.get direction with
  | none =>
      cases right.get direction with
      | none => exact Aligned.of_length_eq rfl
      | some _ => exact Aligned.cons fun marks => absurd marks (by decide)
  | some light =>
      cases rightKnown : right.get direction with
      | none => exact Aligned.cons fun marks => absurd marks (by decide)
      | some other =>
          exact Aligned.cons fun _ => LightData.aligned_faceWords
            (agree direction light other leftKnown rightKnown) _

theorem aligned_words :
    Aligned (left.words LightData.faceWords)
      (right.words LightData.faceWords) := by
  rw [Sides.words_eq, Sides.words_eq]
  exact Aligned.flatten (forall₂_aligned_knownWords agree)

/--
What comes in over the border can be read back from the words of the
neighbors.
-/
theorem borderLevel_eq_of_words_eq
    (words : left.words LightData.faceWords = right.words LightData.faceWords)
    {count : Nat}
    {voxel : Voxel}
    (inRange : voxel.InRange count)
    (direction : Direction) :
    borderLevel left voxel direction = borderLevel right voxel direction := by
  rw [Sides.words_eq, Sides.words_eq] at words
  have parts := (Aligned.parts_eq (forall₂_aligned_knownWords agree)
    (congrArg (· ++ []) words)).1
  have known :=
    List.map_inj_left.1 parts direction (Direction.mem_all direction)
  unfold borderLevel
  split
  · next onFace =>
      cases leftKnown : left.get direction with
      | none =>
          rw [leftKnown] at known
          cases rightKnown : right.get direction with
          | none => rfl
          | some _ =>
              rw [rightKnown] at known
              exact absurd (List.cons.inj known).1 (by decide)
      | some light =>
          rw [leftKnown] at known
          cases rightKnown : right.get direction with
          | none =>
              rw [rightKnown] at known
              exact absurd (List.cons.inj known).1 (by decide)
          | some other =>
              rw [rightKnown] at known
              obtain ⟨a, aLt, place⟩ :=
                Flood.exists_faceVoxel_eq inRange onFace
              have levels := LightData.level_eq_of_faceWords_eq
                (agree direction light other leftKnown rightKnown)
                (List.cons.inj known).2 (voxel.slot + 1) aLt inRange.2.2.1
              rw [place, Flood.faceVoxel_across]
              exact levels
  · rfl

end

namespace LightInput

/-! ## A section with a lamp -/

theorem ids_lampAt (x y z : Nat) : (lampAt x y z).ids = #[air, 2] := by
  have room : (Palette.blocks air).ids.size < (Palette.blocks air).size := by
    decide
  rcases Palette.setIdAtCell_cases room
      ((Palette.blocks air).cell x y z) 2 with
    ⟨index, known, -⟩ | written
  · exact absurd (Array.mem_singleton.1 (Array.mem_of_getElem? known))
      (by decide)
  · unfold lampAt Palette.setIdAt
    rw [written]
    exact Palette.ids_extended _ 2

theorem several_lampAt (x y z : Nat) : 1 < (lampAt x y z).ids.size := by
  rw [ids_lampAt]
  decide

section

variable {x y z : Nat} (xLt : x < 16) (yLt : y < 16) (zLt : z < 16)
include xLt yLt zLt

theorem idAt_lampAt
    {otherX otherY otherZ : Nat}
    (otherXLt : otherX < 16)
    (otherYLt : otherY < 16)
    (otherZLt : otherZ < 16) :
    (lampAt x y z).idAt otherX otherY otherZ =
      if otherX = x ∧ otherY = y ∧ otherZ = z then 2 else air :=
  ((Palette.sectionCube_blocks air).idAt_setIdAt (by decide) xLt yLt zLt 2
    otherXLt otherYLt otherZLt).trans
    (by rw [Palette.idAt, Palette.blocks, Palette.idAtCell_filled])

theorem keyWords_lampAt :
    (lampAt x y z).keyWords =
      (List.range 4096).map fun cell =>
        if cell = cellIndex x y z then 2 else air := by
  have cube := sectionCube_lampAt xLt yLt zLt
  rw [Palette.keyWords_of_indexed
    (cube.toWellFormed.single?_eq_none (several_lampAt x y z)),
    Palette.toList, cube.size_eq_4096]
  apply List.map_congr_left
  intro cell member
  have inside := List.mem_range.1 member
  have there := idAt_lampAt xLt yLt zLt (by omega : cell % 16 < 16)
    (by omega : cell / 256 < 16) (by omega : cell / 16 % 16 < 16)
  have place : (cell / 256 * 16 + cell / 16 % 16) * 16 + cell % 16 =
      cell := by omega
  rw [Palette.idAt, cube.cell_eq, place] at there
  rw [there]
  have same : (cell % 16 = x ∧ cell / 256 = y ∧ cell / 16 % 16 = z) ↔
      cell = cellIndex x y z := by
    unfold cellIndex
    omega
  simp only [same]

end

/-! ## Words that are cut alike -/

/--
The words of two light computations are cut in the same places: section for
section into one word or 4096, after what is known of the neighbors' blocks, and
after as many slabs.
-/
structure SameCut (first second : LightInput) : Prop where
  sections :
    first.sections.toList.map (fun palette => palette.keyWords.length) =
    second.sections.toList.map (fun palette => palette.keyWords.length)
  neighbors : (first.neighborSections.words sectionFaceWords).length =
    (second.neighborSections.words sectionFaceWords).length
  sky : SlabsAgree first.neighborSky second.neighborSky
  block : SlabsAgree first.neighborBlock second.neighborBlock

variable {first second : LightInput}

theorem keyWords_eq (input : LightInput) :
    input.keyWords = input.sections.size.toUInt32 ::
      ((input.sections.toList.map Palette.keyWords).flatten ++
        (input.neighborSections.words sectionFaceWords ++
          (input.neighborSky.words LightData.faceWords ++
            input.neighborBlock.words LightData.faceWords))) := by
  unfold keyWords
  rw [List.flatMap_def, List.cons_append, List.cons_append, List.cons_append,
    List.append_assoc, List.append_assoc]
  rfl

theorem key_eq_of_keyWords_eq (words : first.keyWords = second.keyWords) :
    first.key = second.key := by
  rw [key, key, words]

/-- Words that are cut alike have the same parts. -/
theorem SameCut.parts_eq
    (cut : SameCut first second)
    (words : first.keyWords = second.keyWords) :
    first.sections.toList.map Palette.keyWords =
      second.sections.toList.map Palette.keyWords ∧
      first.neighborSky.words LightData.faceWords =
        second.neighborSky.words LightData.faceWords ∧
      first.neighborBlock.words LightData.faceWords =
        second.neighborBlock.words LightData.faceWords := by
  rw [keyWords_eq, keyWords_eq] at words
  have aligned :
      List.Forall₂ Aligned (first.sections.toList.map Palette.keyWords)
      (second.sections.toList.map Palette.keyWords) := by
    have lengths : List.Forall₂ (· = ·)
        (first.sections.toList.map fun palette => palette.keyWords.length)
        (second.sections.toList.map fun palette =>
          palette.keyWords.length) := by
      rw [List.forall₂_eq_eq_eq]
      exact cut.sections
    rw [List.forall₂_map_left_iff, List.forall₂_map_right_iff] at lengths ⊢
    exact lengths.imp fun _ _ same => Aligned.of_length_eq same
  obtain ⟨sections, later⟩ := Aligned.parts_eq aligned (List.cons.inj words).2
  obtain ⟨-, light⟩ := List.append_inj later cut.neighbors
  obtain ⟨sky, block⟩ := aligned_words cut.sky _ _ light
  exact ⟨sections, sky, block⟩

/-- Columns of the same words have the same blocks, stored in the same form. -/
theorem section_eq_of_keyWords_eq
    (firstCubes : ∀ palette ∈ first.sections, palette.SectionCube)
    (secondCubes : ∀ palette ∈ second.sections, palette.SectionCube)
    (words : first.sections.toList.map Palette.keyWords =
      second.sections.toList.map Palette.keyWords)
    {slot : Nat}
    (slotLt : slot < first.sections.size) :
    ∃ left right, first.sections[slot]? = some left ∧
      second.sections[slot]? = some right ∧
      left.single? = right.single? ∧
      ∀ x y z, x < 16 → y < 16 → z < 16 →
        left.idAt x y z = right.idAt x y z := by
  have firstKnown : first.sections[slot]? = some first.sections[slot] :=
    Array.getElem?_eq_getElem slotLt
  have entry := congrArg (fun list => list[slot]?) words
  simp only [List.getElem?_map, Array.getElem?_toList, firstKnown,
    Option.map_some] at entry
  rw [eq_comm, Option.map_eq_some_iff] at entry
  obtain ⟨right, secondKnown, equal⟩ := entry
  have leftCube := firstCubes _ (Array.mem_of_getElem? firstKnown)
  have rightCube := secondCubes _ (Array.mem_of_getElem? secondKnown)
  obtain ⟨form, cells⟩ := leftCube.eq_of_keyWords_eq rightCube equal.symm
  refine ⟨_, right, firstKnown, secondKnown, form, fun x y z xLt yLt zLt =>
    ?_⟩
  rw [Palette.idAt, Palette.idAt, leftCube.cell_eq, rightCube.cell_eq]
  exact cells _ (by omega)

/--
Columns of the same words, cut in the same places, have the same sources of
light.
-/
theorem SameCut.sameSources
    (cut : SameCut first second)
    (properties : LightProperties)
    (firstCubes : ∀ palette ∈ first.sections, palette.SectionCube)
    (secondCubes : ∀ palette ∈ second.sections, palette.SectionCube)
    (words : first.keyWords = second.keyWords) :
    SameSources properties first second := by
  obtain ⟨sections, sky, block⟩ := cut.parts_eq words
  refine ⟨?_, ?_, ?_, ?_, ?_⟩
  · have lengths := congrArg List.length sections
    rwa
      [List.length_map, List.length_map, Array.length_toList,
        Array.length_toList] at lengths
  · rintro voxel ⟨slotLt, xLt, yLt, zLt⟩
    obtain ⟨left, right, firstKnown, secondKnown, -, cells⟩ :=
      section_eq_of_keyWords_eq firstCubes secondCubes sections slotLt
    rw [blockOf_eq firstKnown, blockOf_eq secondKnown]
    exact cells _ _ _ xLt yLt zLt
  · intro place height placeLt heightLt
    obtain ⟨left, right, firstKnown, secondKnown, form, cells⟩ :=
      section_eq_of_keyWords_eq firstCubes secondCubes sections
        (by omega : height / 16 < first.sections.size)
    unfold stackLoss
    rw [Array.getElem?_toList, Array.getElem?_toList, firstKnown, secondKnown]
    simp only [layerLoss, layerFilter, form]
    rw [cells _ _ _ (Nat.mod_lt _ (by decide)) (Nat.mod_lt _ (by decide))
      (by omega)]
  · exact fun voxel inRange direction =>
      borderLevel_eq_of_words_eq cut.sky sky inRange direction
  · exact fun voxel inRange direction =>
      borderLevel_eq_of_words_eq cut.block block inRange direction

/--
Light computations in the same words, cut in the same places, have the same
light.
-/
theorem light_eq_of_keyWords_eq
    (properties : LightProperties)
    (firstCubes : ∀ palette ∈ first.sections, palette.SectionCube)
    (secondCubes : ∀ palette ∈ second.sections, palette.SectionCube)
    (cut : SameCut first second)
    (words : first.keyWords = second.keyWords) :
    first.light properties = second.light properties :=
  (cut.sameSources properties firstCubes secondCubes words).light_eq
    firstCubes secondCubes

/-- Nothing is known of any neighbor, which takes four words three times. -/
theorem keyWords_isolated (sections : Array Palette) :
    (isolated sections).keyWords = sections.size.toUInt32 ::
      ((sections.toList.map Palette.keyWords).flatten ++
        List.replicate 12 0) := by
  rw [keyWords_eq]
  rfl

theorem sameCut_isolated
    {left right : Array Palette}
    (sections : left.toList.map (fun palette => palette.keyWords.length) =
      right.toList.map (fun palette => palette.keyWords.length)) :
    SameCut (isolated left) (isolated right) where
  sections := sections
  neighbors := rfl
  sky := fun direction _ _ known => by cases direction <;> cases known
  block := fun direction _ _ known => by cases direction <;> cases known

/--
A section with a lamp and a spare entry in its table has the light of the
lamp.
-/
theorem light_lampAt_extended :
    (∀ palette ∈ #[lampAt 8 8 8], palette.SectionCube) ∧
      (∀ palette ∈ #[(lampAt 8 8 8).extended 3], palette.SectionCube) ∧
      SameCut (isolated #[lampAt 8 8 8])
        (isolated #[(lampAt 8 8 8).extended 3]) ∧
      (isolated #[lampAt 8 8 8]).keyWords =
        (isolated #[(lampAt 8 8 8).extended 3]).keyWords ∧
      (isolated #[lampAt 8 8 8]).light lampProperties =
        (isolated #[(lampAt 8 8 8).extended 3]).light lampProperties := by
  have cube : (lampAt 8 8 8).SectionCube :=
    sectionCube_lampAt (by decide) (by decide) (by decide)
  have same : ((lampAt 8 8 8).extended 3).keyWords =
      (lampAt 8 8 8).keyWords :=
    cube.keyWords_extended (several_lampAt 8 8 8) 3
  have plain : ∀ palette ∈ #[lampAt 8 8 8], palette.SectionCube := by
    intro palette member
    rwa [List.mem_singleton.1 (List.mem_toArray.1 member)]
  have spare : ∀ palette ∈ #[(lampAt 8 8 8).extended 3],
      palette.SectionCube := by
    intro palette member
    rw [List.mem_singleton.1 (List.mem_toArray.1 member)]
    exact cube.extended 3
  have cut :
      SameCut (isolated #[lampAt 8 8 8])
        (isolated #[(lampAt 8 8 8).extended 3]) :=
          sameCut_isolated (by simp [same])
  have words : (isolated #[lampAt 8 8 8]).keyWords =
      (isolated #[(lampAt 8 8 8).extended 3]).keyWords := by
    rw [keyWords_isolated, keyWords_isolated]
    simp [same]
  exact ⟨plain, spare, cut, words,
    light_eq_of_keyWords_eq lampProperties plain spare cut words⟩

/-! ## A lamp beside itself -/

/-- A section of air under one with a lamp. -/
def lampAbove : LightInput :=
  isolated #[.blocks air, lampAt 8 8 8]

/-- A section with a lamp, moved by one cell, under one of air. -/
def lampBelow : LightInput :=
  isolated #[lampAt 9 8 8, .blocks air]

theorem cubes_lampAbove :
    ∀ palette ∈ lampAbove.sections, palette.SectionCube := by
  intro palette member
  rcases List.mem_pair.1 (List.mem_toArray.1 member) with rfl | rfl
  · exact Palette.sectionCube_blocks air
  · exact sectionCube_lampAt (by decide) (by decide) (by decide)

theorem cubes_lampBelow :
    ∀ palette ∈ lampBelow.sections, palette.SectionCube := by
  intro palette member
  rcases List.mem_pair.1 (List.mem_toArray.1 member) with rfl | rfl
  · exact sectionCube_lampAt (by decide) (by decide) (by decide)
  · exact Palette.sectionCube_blocks air

theorem cons_lampWords (count lamp : Nat) :
    air :: (List.range count).map
      (fun cell => if cell = lamp then 2 else air) =
      (List.range (count + 1)).map fun cell =>
        if cell = lamp + 1 then 2 else air := by
  rw [List.range_succ_eq_map, List.map_cons, List.map_map]
  congr 1
  apply List.map_congr_left
  intro cell _
  simp

theorem concat_lampWords
    {count lamp : Nat}
    (inside : lamp < count) :
    (List.range count).map (fun cell => if cell = lamp then 2 else air) ++
      [air] =
      (List.range (count + 1)).map fun cell =>
        if cell = lamp then 2 else air := by
  rw [List.range_succ, List.map_append, List.map_singleton,
    if_neg (Nat.ne_of_gt inside)]

/-- One word of air before or after a section moves its lamp by one cell. -/
theorem keyWords_lamps : lampAbove.keyWords = lampBelow.keyWords := by
  have single : Palette.keyWords (.blocks air) = [air] :=
    Palette.keyWords_of_single? rfl
  have beside : cellIndex 9 8 8 = cellIndex 8 8 8 + 1 := rfl
  have words : Palette.keyWords (.blocks air) ++ (lampAt 8 8 8).keyWords =
      (lampAt 9 8 8).keyWords ++ Palette.keyWords (.blocks air) := by
    rw [keyWords_lampAt (by decide) (by decide) (by decide),
      keyWords_lampAt (by decide) (by decide) (by decide), single,
      concat_lampWords (by decide), beside, ← cons_lampWords]
    rfl
  have sections : (lampAbove.sections.toList.map Palette.keyWords).flatten =
      (lampBelow.sections.toList.map Palette.keyWords).flatten := by
    simpa [lampAbove, lampBelow, isolated] using words
  rw [lampAbove, lampBelow, keyWords_isolated, keyWords_isolated]
  exact congrArg (fun words => 2 :: (words ++ List.replicate 12 0)) sections

theorem le_levelAt_lampAbove :
    15 ≤ (lampAbove.blockLight lampProperties).levelAt ⟨1, 8, 8, 8⟩ := by
  have least := blockLight_least lampProperties lampAbove cubes_lampAbove
  have lamp : blockOf lampAbove.sections ⟨1, 8, 8, 8⟩ = 2 :=
    idAt_lampAt (x := 8) (y := 8) (z := 8) (by decide) (by decide) (by decide)
      (by decide) (by decide) (by decide)
  have starts := least.solution.start_le ⟨1, 8, 8, 8⟩ (by decide)
  have own := (startLevel_le_iff.1 (le_refl
    (lampAbove.blockStart lampProperties ⟨1, 8, 8, 8⟩))).1
  rw [Flood.glow, lamp] at own
  exact own.trans starts

theorem blockOf_lampBelow
    {voxel : Voxel}
    (inRange : voxel.InRange 2)
    (elsewhere : voxel ≠ ⟨0, 9, 8, 8⟩) :
    blockOf lampBelow.sections voxel = air := by
  obtain ⟨slotLt, xLt, yLt, zLt⟩ := inRange
  have slots : voxel.slot = 0 ∨ voxel.slot = 1 := by omega
  rcases slots with bottom | top
  · have known : lampBelow.sections[voxel.slot]? = some (lampAt 9 8 8) := by
      rw [bottom]
      rfl
    rw [blockOf_eq known,
      idAt_lampAt (by decide) (by decide) (by decide) xLt yLt zLt, if_neg]
    rintro ⟨x, y, z⟩
    exact elsewhere (Voxel.eq_iff.2 ⟨bottom, x, y, z⟩)
  · have known : lampBelow.sections[voxel.slot]? = some (.blocks air) := by
      rw [top]
      rfl
    rw [blockOf_eq known, Palette.idAt, Palette.blocks,
      Palette.idAtCell_filled]

/-- The lamp is the only cell of its column that is at the brightest level. -/
theorem levelAt_lampBelow_le :
    (lampBelow.blockLight lampProperties).levelAt ⟨1, 8, 8, 8⟩ ≤ 14 := by
  let bound : Voxel → Nat :=
    fun voxel => if voxel = ⟨0, 9, 8, 8⟩ then 15 else 14
  have low : ∀ voxel, 14 ≤ bound voxel ∧ bound voxel ≤ 15 := by
    intro voxel
    simp only [bound]
    split <;> decide
  have least := blockLight_least lampProperties lampBelow cubes_lampBelow
  refine least.le_solution bound ⟨fun voxel inRange => ?_, ?_⟩ ⟨1, 8, 8, 8⟩
    (by decide)
  · refine startLevel_le_iff.2 ⟨?_, fun direction => ?_⟩
    · by_cases lamp : voxel = ⟨0, 9, 8, 8⟩
      · simp only [bound, if_pos lamp]
        exact Nat.min_le_right _ _
      · rw [Flood.glow, blockOf_lampBelow inRange lamp]
        exact Nat.zero_le _
    · rw [lampBelow, neighborBlock, borderLevel_isolated, Nat.zero_sub]
      exact Nat.zero_le _
  · intro voxel other _ _ _
    have positive :=
      Flood.cost_pos lampProperties (blockOf lampBelow.sections voxel)
    have lower := (low voxel).1
    have upper := (low other).2
    omega

/-- Two columns with one key and different light. -/
theorem light_ne_of_same_key :
    (∀ palette ∈ lampAbove.sections, palette.SectionCube) ∧
      (∀ palette ∈ lampBelow.sections, palette.SectionCube) ∧
      lampAbove.keyWords = lampBelow.keyWords ∧
      lampAbove.key = lampBelow.key ∧
      lampAbove.light lampProperties ≠ lampBelow.light lampProperties := by
  refine ⟨cubes_lampAbove, cubes_lampBelow, keyWords_lamps, ?_, ?_⟩
  · exact key_eq_of_keyWords_eq keyWords_lamps
  · intro same
    unfold light at same
    obtain ⟨-, block⟩ := ColumnLight.mk.inj same
    have bright := le_levelAt_lampAbove
    have dim := levelAt_lampBelow_le
    rw [block] at bright
    omega

end LightInput

end VoxelRelay
