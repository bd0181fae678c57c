import VoxelRelay.Proofs.PaletteRuns
import VoxelRelay.Proofs.ShapedColumns

/-!
# Sections that are edited

An edit of a section writes one block, in a layer that is added first, of air,
if the section does not have it.  So the cell of the edit has the written block
in that layer, the blocks that were there in the others, and air in the layers
that were added below, as long as the tables of the layers can be indexed.
An edit makes no table longer by more than one entry.
-/

namespace VoxelRelay

open Palette

namespace Section

variable {content : Section} {edit : Edit} {sourceAir : UInt32}

theorem layers_edited
    (layer : edit.layer < maxLayers)
    (content : Section)
    (sourceAir : UInt32) :
    (content.edited sourceAir edit).layers =
      (content.padLayers (edit.layer + 1) sourceAir).layers.modify edit.layer
        (·.setIdAt edit.x edit.y edit.z edit.id) := by
  simp [edited, setBlock, ensureLayer, Nat.not_le.2 layer, modifyLayer]

theorem lt_size_padLayers
    (content : Section)
    (layer : Nat)
    (sourceAir : UInt32) :
    layer < (content.padLayers (layer + 1) sourceAir).layers.size := by
  rw [padLayers, Array.size_append, Array.size_replicate]
  omega

/--
The layer that was written is one that was there, or was added, with a block
in its place.
-/
theorem exists_layer?_edited
    (layer : edit.layer < maxLayers)
    (content : Section)
    (sourceAir : UInt32) :
    ∃ before ∈ (content.padLayers (edit.layer + 1) sourceAir).layers,
      (content.edited sourceAir edit).layer? edit.layer =
        some (before.setIdAt edit.x edit.y edit.z edit.id) := by
  have there := content.lt_size_padLayers edit.layer sourceAir
  refine ⟨_, Array.getElem_mem there, ?_⟩
  rw [layer?, layers_edited layer, Array.getElem?_modify, if_pos rfl,
    Array.getElem?_eq_getElem there, Option.map_some]

/-- After a change a section has a primary layer. -/
theorem exists_primary_edited
    (layer : edit.layer < maxLayers)
    (content : Section)
    (sourceAir : UInt32) :
    ∃ primary, (content.edited sourceAir edit).layer? 0 = some primary := by
  have there := content.lt_size_padLayers edit.layer sourceAir
  refine ⟨_, Array.getElem?_eq_getElem ?_⟩
  rw [layers_edited layer, Array.size_modify]
  omega

/--
A block is read where it was written, if the table of its layer can be
indexed.
-/
theorem blockAt?_edited
    (checked : content.Checked)
    (layer : edit.layer < maxLayers)
    (inside : edit.Inside)
    {written : Palette}
    (found : (content.edited sourceAir edit).layer? edit.layer = some written)
    (few : written.ids.size ≤ 2 ^ 16) :
    (content.edited sourceAir edit).blockAt? edit.layer edit.x edit.y edit.z =
      some edit.id := by
  obtain ⟨before, member, there⟩ :=
    exists_layer?_edited layer content sourceAir
  obtain rfl := Option.some.inj (found.symm.trans there)
  have cube := cubes_padLayers checked.cubes _ sourceAir before member
  have within : before.Inside (edit.x, edit.y, edit.z) :=
    cube.inside_iff.2 (mem_placesOf_iff.2 inside)
  have read :=
    (cube.toWellFormed.read_write_eq_iff within cube.size_lt edit.id).2 ?_
  · rw [blockAt?, found]
    exact congrArg some read
  · -- An identifier that the table has is found in it, so the table stays as
    -- it was.
    intro known
    have kept : before.ids.size ≤ 2 ^ 16 := by
      rcases before.setIdAtCell_eq
          (before.cell edit.x edit.y edit.z) edit.id with
        ⟨index, -, same⟩ | ⟨fresh, -⟩
      · rwa [setIdAt, same] at few
      · exact absurd (Array.mem_toList_iff.1 known) fresh
    rwa [List.take_of_length_le (by simpa using kept)]

theorem layer?_padLayers
    (content : Section)
    (count : Nat)
    (sourceAir : UInt32)
    (layer : Nat) :
    (content.padLayers count sourceAir).layer? layer =
      if layer < content.layers.size then content.layer? layer
      else if layer < count then some (.blocks sourceAir) else none := by
  rw [layer?, padLayers, Array.getElem?_append, Array.getElem?_replicate]
  split_ifs
  · rfl
  · rfl
  · omega
  · omega
  · rfl

/-- The layers that are added have tables of one entry. -/
theorem size_ids_padLayers_le
    {bound : Nat}
    (positive : 0 < bound)
    (few : ∀ palette ∈ content.layers, palette.ids.size ≤ bound)
    (count : Nat) :
    ∀ palette ∈ (content.padLayers count sourceAir).layers,
      palette.ids.size ≤ bound := by
  intro palette member
  rcases Array.mem_append.1 member with old | added
  · exact few palette old
  · rw [(Array.mem_replicate.1 added).2]
    exact positive

/--
The cell of an edit after it: the written block in its layer, the blocks that
were there in the others, and air in those that were added below.
-/
theorem blockAt?_edited_place
    (checked : content.Checked)
    (layer : edit.layer < maxLayers)
    (inside : edit.Inside)
    (few : ∀ palette ∈ content.layers, palette.ids.size ≤ 2 ^ 16)
    (other : Nat) :
    (content.edited sourceAir edit).blockAt? other edit.x edit.y edit.z =
      if other = edit.layer then some edit.id
      else if other < edit.layer then
        some ((content.blockAt? other edit.x edit.y edit.z).getD sourceAir)
      else content.blockAt? other edit.x edit.y edit.z := by
  by_cases own : other = edit.layer
  · subst own
    obtain ⟨before, member, found⟩ :=
      exists_layer?_edited layer content sourceAir
    have grown : (before.setIdAt edit.x edit.y edit.z edit.id).ids.size ≤
        max before.ids.size (before.size + 1) :=
      before.size_ids_perform_le (.write (edit.x, edit.y, edit.z) edit.id)
    rw [(cubes_padLayers checked.cubes _ sourceAir before
        member).size_eq_4096] at grown
    have short := size_ids_padLayers_le (by decide) few _ before member
    rw [if_pos rfl, blockAt?_edited checked layer inside found (by omega)]
  · rw [if_neg own, blockAt?, layer?, layers_edited layer,
      Array.getElem?_modify,
      if_neg (Ne.symm own), ← layer?, layer?_padLayers, blockAt?]
    by_cases there : other < content.layers.size
    · rw [if_pos there, layer?, Array.getElem?_eq_getElem there]
      split <;> rfl
    · have missing : content.layer? other = none :=
        Array.getElem?_eq_none (Nat.not_lt.1 there)
      rw [if_neg there, missing]
      split_ifs
      · exact congrArg some (idAtCell_filled _ _ _)
      · omega
      · omega
      · rfl

/-- An edit adds one entry at most to a table that has room. -/
theorem size_ids_edited_le
    (checked : content.Checked)
    (layer : edit.layer < maxLayers)
    {count : Nat}
    (positive : 0 < count)
    (room : count < 4096)
    (few : ∀ palette ∈ content.layers, palette.ids.size ≤ count) :
    ∀ palette ∈ (content.edited sourceAir edit).layers,
      palette.ids.size ≤ count + 1 := by
  have padded :=
    @size_ids_padLayers_le content sourceAir count positive few
      (edit.layer + 1)
  rw [layers_edited layer]
  refine forall_mem_modify
    (fun palette member => Nat.le_succ_of_le (padded palette member)) _ ?_
  intro palette found
  have member := Array.mem_of_getElem? found
  have short := padded palette member
  have cube := cubes_padLayers checked.cubes _ sourceAir palette member
  have free : palette.ids.size < palette.size := by
    rw [cube.size_eq_4096]
    omega
  rw [setIdAt]
  rcases setIdAtCell_cases free
      (palette.cell edit.x edit.y edit.z) edit.id with
    ⟨index, -, written⟩ | written
  · rw [written]
    exact Nat.le_succ_of_le short
  · rw [written, ids_extended, Array.size_push]
    omega

theorem size_ids_foldl_edited_le
    {edits : List Edit}
    (inside : ∀ edit ∈ edits, edit.layer < maxLayers ∧ edit.Inside)
    (checked : content.Checked)
    {count : Nat}
    (positive : 0 < count)
    (room : count + edits.length ≤ 4096)
    (few : ∀ palette ∈ content.layers, palette.ids.size ≤ count) :
    ∀ palette ∈ (edits.foldl (edited sourceAir) content).layers,
      palette.ids.size ≤ count + edits.length := by
  induction edits generalizing content count with
  | nil => exact few
  | cons edit rest ih =>
      obtain ⟨⟨layer, here⟩, later⟩ := List.forall_mem_cons.1 inside
      rw [List.length_cons] at room
      have grown :=
        @size_ids_edited_le content edit sourceAir checked layer count
          positive (by omega) few
      have whole :=
        ih later (checked.edited here sourceAir) (Nat.succ_pos count)
          (by omega) grown
      rw [List.foldl_cons, List.length_cons]
      intro palette member
      have bound := whole palette member
      omega

end Section

end VoxelRelay
