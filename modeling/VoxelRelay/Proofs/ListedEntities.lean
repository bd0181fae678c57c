import Mathlib.Data.List.ProdSigma
import VoxelRelay.Proofs.ColumnContents
import VoxelRelay.Proofs.ColumnRecords

/-!
# The block entities of a converted column

A converted column lists its block entities section by section, and within a
section in the order of the visit.  What a cell adds to the list depends on its
position and its primary block alone.  It is looked up through the table that
the section had at the start, while states of records are written into the one
that the visit goes by: this goes well where that table has room for them, and
also, with any table, where no record puts a state in place of a mapped one,
since then nothing is written at all.
-/

namespace VoxelRelay

open Palette

/-! ## Cells and their positions -/

/--
Numbers that are less than a whole turn apart do not become equal in 32 bits.
-/
theorem ofInt_inj_of_near
    {left right : Int}
    (near : (left - right).natAbs < 2 ^ 32)
    (same : Int32.ofInt left = Int32.ofInt right) :
    left = right := by
  have words := congrArg (·.toInt % (Int32.size : Int)) same
  have turn (number : Int) :
      (Int32.ofInt number).toInt % (Int32.size : Int) = number % 2 ^ 32 := by
    rw [Int32.toInt_ofInt]
    exact Int.bmod_emod
  rw [turn, turn] at words
  omega

namespace Column

/-- The cells of a column by section and place, in the order of the visit. -/
def addresses (column : Column) : List (Nat × Place) :=
  List.range column.sections.size ×ˢ placesOf 16

/-- The primary block of a cell, if its section has a primary layer. -/
def primaryAt? (column : Column) (address : Nat × Place) : Option UInt32 :=
  (column.section? address.1).bind fun content =>
    content.blockAt? 0 address.2.1 address.2.2.1 address.2.2.2

/--
The position of a cell of a column in a world whose lowest blocks lie at
`minY`.
-/
def cellPos
    (column : Column)
    (minY : Int32)
    (address : Nat × Place) : BlockPos where
  x := .ofInt (column.pos.x.toInt * 16 + address.2.1)
  y := .ofInt (minY.toInt + address.1 * 16 + address.2.2.1)
  z := .ofInt (column.pos.z.toInt * 16 + address.2.2.2)

variable {column : Column} {minY : Int32} {address : Nat × Place}

theorem mem_addresses_iff :
    address ∈ column.addresses ↔
      address.1 < column.sections.size ∧ address.2 ∈ placesOf 16 := by
  rw [addresses, List.mem_product, List.mem_range]

theorem nodup_addresses (column : Column) : column.addresses.Nodup :=
  List.nodup_range.product (nodup_placesOf 16)

/-- The coordinates of all blocks of a column are numbers of 32 bits. -/
structure FitsAt (column : Column) (minY : Int32) : Prop where
  x : ∀ offset : Nat, offset < 16 →
    -2 ^ 31 ≤ column.pos.x.toInt * 16 + offset ∧
    column.pos.x.toInt * 16 + offset < 2 ^ 31
  y : ∀ offset : Nat, offset < column.sections.size * 16 →
    -2 ^ 31 ≤ minY.toInt + offset ∧ minY.toInt + offset < 2 ^ 31
  z : ∀ offset : Nat, offset < 16 →
    -2 ^ 31 ≤ column.pos.z.toInt * 16 + offset ∧
    column.pos.z.toInt * 16 + offset < 2 ^ 31

/--
Where the coordinates of a column are numbers of 32 bits, no position wraps
around.
-/
theorem FitsAt.toInt_cellPos
    (fits : column.FitsAt minY)
    (member : address ∈ column.addresses) :
    (column.cellPos minY address).x.toInt =
      column.pos.x.toInt * 16 + address.2.1 ∧
      (column.cellPos minY address).y.toInt =
        minY.toInt + address.1 * 16 + address.2.2.1 ∧
      (column.cellPos minY address).z.toInt =
        column.pos.z.toInt * 16 + address.2.2.2 := by
  obtain ⟨below, inside⟩ := mem_addresses_iff.1 member
  obtain ⟨xLt, yLt, zLt⟩ := mem_placesOf_iff.1 inside
  obtain ⟨xLow, xHigh⟩ := fits.x address.2.1 xLt
  obtain ⟨yLow, yHigh⟩ := fits.y (address.1 * 16 + address.2.2.1) (by omega)
  obtain ⟨zLow, zHigh⟩ := fits.z address.2.2.2 zLt
  push_cast at yLow yHigh
  rw [cellPos]
  refine ⟨Int32.toInt_ofInt_of_le ?_ ?_, Int32.toInt_ofInt_of_le ?_ ?_,
    Int32.toInt_ofInt_of_le ?_ ?_⟩ <;> omega

/-- In columns of less than a whole turn no two cells have the same position. -/
theorem cellPos_inj
    (few : column.sections.size * 16 ≤ 2 ^ 32)
    {other : Nat × Place}
    (member : address ∈ column.addresses)
    (otherMember : other ∈ column.addresses)
    (same : column.cellPos minY address = column.cellPos minY other) :
    address = other := by
  obtain ⟨below, inside⟩ := mem_addresses_iff.1 member
  obtain ⟨otherBelow, otherInside⟩ := mem_addresses_iff.1 otherMember
  obtain ⟨slot, x, y, z⟩ := address
  obtain ⟨slot', x', y', z'⟩ := other
  obtain ⟨xLt, yLt, zLt⟩ := mem_placesOf_iff.1 inside
  obtain ⟨xLt', yLt', zLt'⟩ := mem_placesOf_iff.1 otherInside
  simp only [cellPos, BlockPos.mk.injEq]
    at same below otherBelow xLt yLt zLt xLt' yLt' zLt'
  have xSame := ofInt_inj_of_near (by omega) same.1
  have ySame := ofInt_inj_of_near (by omega) same.2.1
  have zSame := ofInt_inj_of_near (by omega) same.2.2
  simp only [Prod.mk.injEq]
  omega

theorem FitsAt.size_le (fits : column.FitsAt minY) :
    column.sections.size * 16 ≤ 2 ^ 32 := by
  by_contra many
  obtain ⟨-, high⟩ := fits.y (column.sections.size * 16 - 1) (by omega)
  have low := minY.le_toInt
  omega

end Column

/-! ## Visits that write nothing -/

namespace VisitPlan

/--
A visit that puts no state in place of a mapped one lists what its cells call
for.
-/
theorem entities_foldl_visit
    {plan : VisitPlan}
    (sound : plan.Sound)
    (plain : ∀ place, (plan.entity? place).bind (·.stateOverride) = none)
    {places : List Place}
    (inside : ∀ place ∈ places, plan.primary.Inside place)
    {visit : CellVisit}
    (unwritten : visit.blocks = plan.start) :
    (places.foldl plan.visit visit).entities.toList =
      visit.entities.toList ++
        places.filterMap fun place =>
          (plan.entity? place).filter (·.hasData) := by
  induction places generalizing visit with
  | nil => exact (List.append_nil _).symm
  | cons place rest ih =>
      have traces : plan.Traces visit.blocks place :=
        unwritten ▸ plan.traces_start place
      have visited := traces.visit_eq sound (inside place List.mem_cons_self)
      have kept : (plan.visit visit place).blocks = plan.start := by
        rw [visited, CellVisit.blocks_attach, plain, CellVisit.blocks_counted,
          unwritten]
      have later :=
        ih (fun other member => inside other (List.mem_cons_of_mem _ member))
          kept
      rw [List.foldl_cons, later, visited, CellVisit.entities_attach,
        CellVisit.entities_counted, List.append_assoc, List.filterMap_cons]
      cases (plan.entity? place).filter (·.hasData) <;> rfl

end VisitPlan

/-! ## Sections -/

namespace Converter

variable {converter : Converter} {content : Section}

/--
The block entities that a section lists are those that its cells call for.
-/
def Lists (converter : Converter) (content : Section) : Prop :=
  ∀ (column : Column) (minY : Int32) (slot : Nat) (primary : Palette),
    content.layer? 0 = some primary →
      (converter.convertSection column minY slot content).2.toList =
        (placesOf 16).filterMap fun place =>
          ((converter.planFor column minY slot primary).entity? place).filter
            (·.hasData)

theorem Fits.lists (fits : converter.Fits content) :
    converter.Lists content :=
  fun column minY slot _ found =>
    fits.toList_entities_convertSection found column minY slot

/--
Where no record puts a state in place of a mapped one, the table may be as
long as it likes.
-/
theorem lists_of_plain
    (checked : content.Checked)
    (plain : ∀ (column : Column) (minY : Int32) (slot : Nat)
      (primary : Palette),
      content.layer? 0 = some primary →
      ∀ place,
        ((converter.planFor column minY slot primary).entity? place).bind
          (·.stateOverride) = none) :
    converter.Lists content := by
  intro column minY slot primary found
  have cube := checked.cube found
  have sound : (converter.planFor column minY slot primary).Sound :=
    ⟨cube, rfl⟩
  have inside : ∀ place ∈ placesOf 16, primary.Inside place :=
    fun _ => cube.inside_iff.2
  have visited :=
    @VisitPlan.entities_foldl_visit _ sound
      (plain column minY slot primary found) (placesOf 16) inside
      ⟨primary.mapIds converter.table.destinationOrAir, #[], 0⟩ rfl
  rw [convertSection_of_primary found, entities_assembled, visitCells_eq,
    ← planFor, visited, List.nil_append]

theorem lists_of_overrides_eq_nil
    (checked : content.Checked)
    (none : converter.entities.overrides = []) :
    converter.Lists content :=
  lists_of_plain checked fun _ _ _ _ _ =>
    VisitPlan.stateOverride_entity?_eq_none none

end Converter

/-! ## Columns -/

/-- A converted record has the data of the record. -/
theorem MappingTable.data_of_convertEntity?
    {table : MappingTable}
    {source : UInt32}
    {record : SourceEntity}
    {entity : TargetEntity}
    (converted : table.convertEntity? source record = some entity) :
    entity.data = record.data := by
  simp only [convertEntity?, Option.bind_eq_bind, Option.bind_eq_some_iff,
    Option.pure_def, Option.some.injEq] at converted
  obtain ⟨tag, -, typeId, -, rfl⟩ := converted
  rfl

namespace Converter

variable {converter : Converter} {content : Section} {column : Column}

/-- The block entity that is listed for a block at a position. -/
def listed?
    (converter : Converter)
    (column : Column)
    (pos : BlockPos)
    (source : UInt32) : Option TargetEntity :=
  (converter.entityFor? column pos source).filter (·.hasData)

/--
Empty block entities have data to send, and converted records that are not
null.
-/
theorem hasData_of_entityFor?
    {pos : BlockPos}
    {source : UInt32}
    {entity : TargetEntity}
    (shown : converter.entityFor? column pos source = some entity)
    (telling : ∀ record, column.entityAt? pos = some record →
      record.data.isNull = false) :
    entity.hasData = true := by
  obtain ⟨tag, -, made⟩ := Option.bind_eq_some_iff.1 shown
  cases stored : column.entityAt? pos with
  | none =>
      rw [stored] at made
      obtain ⟨typeId, -, rfl⟩ := Option.map_eq_some_iff.1 made
      rfl
  | some record =>
      rw [stored] at made
      rw [TargetEntity.hasData, MappingTable.data_of_convertEntity? made,
        telling record stored]
      rfl

theorem listed?_eq_entityFor?
    {pos : BlockPos}
    (telling : ∀ record, column.entityAt? pos = some record →
      record.data.isNull = false)
    (source : UInt32) :
    converter.listed? column pos source =
      converter.entityFor? column pos source := by
  rw [listed?]
  cases shown : converter.entityFor? column pos source with
  | none => rfl
  | some entity => exact if_pos (hasData_of_entityFor? shown telling)

/-- The block entity that is listed for a cell of a column. -/
def listedAt?
    (converter : Converter)
    (column : Column)
    (minY : Int32)
    (address : Nat × Place) : Option TargetEntity :=
  (column.primaryAt? address).bind
    (converter.listed? column (column.cellPos minY address))

/-- The visit finds each cell at its position. -/
theorem position_planFor
    (converter : Converter)
    (column : Column)
    (minY : Int32)
    (slot : Nat)
    (primary : Palette)
    (place : Place) :
    (converter.planFor column minY slot primary).position place.1 place.2.1
      place.2.2 =
      column.cellPos minY (slot, place) := by
  have sixteen : (16 : Int32) = .ofInt 16 := rfl
  rw [VisitPlan.position, planFor, plan, Column.cellPos, baseY]
  simp only [Int32.ofInt_add, Int32.ofInt_mul, Int32.ofInt_toInt,
    ← Int32.ofInt_eq_ofNat, sixteen]

theorem toList_entities_convertSection
    (lists : converter.Lists content)
    {column : Column}
    {slot : Nat}
    (found : column.section? slot = some content)
    (minY : Int32) :
    (converter.convertSection column minY slot content).2.toList =
      (placesOf 16).filterMap fun place =>
        converter.listedAt? column minY (slot, place) := by
  simp only [listedAt?, Column.primaryAt?, found, Option.bind_some,
    Section.blockAt?]
  cases layer : content.layer? 0 with
  | none =>
      rw [convertSection_of_empty layer]
      exact (List.filterMap_eq_nil_iff.2 fun _ _ => rfl).symm
  | some primary =>
      rw [lists column minY slot primary layer]
      refine List.filterMap_congr fun place _ => ?_
      rw [Option.map_some, Option.bind_some, listed?, VisitPlan.entity?,
        position_planFor]
      rfl

/-- A converted column lists its block entities cell by cell. -/
theorem toList_entities_convert
    {column : Column}
    (lists : ∀ content ∈ column.sections, converter.Lists content)
    (minY : Int32) :
    (converter.convert column minY).entities.toList =
      column.addresses.filterMap (converter.listedAt? column minY) := by
  have sections :
      (column.sections.mapIdx
        (converter.convertSection column minY)).toList.map
      (·.2.toList) =
        (List.range column.sections.size).map fun slot =>
          (placesOf 16).filterMap fun place =>
            converter.listedAt? column minY (slot, place) := by
    apply List.ext_getElem
    · simp
    · intro slot below above
      have inside : slot < column.sections.size := by simpa using above
      simpa using toList_entities_convertSection
        (lists _ (Array.getElem_mem inside))
        (Array.getElem?_eq_getElem inside) minY
  have rows : column.addresses =
      (List.range column.sections.size).flatMap fun slot =>
        (placesOf 16).map (slot, ·) := rfl
  rw [entities_convert, Array.toList_flatMap, List.flatMap_def, sections,
    ← List.flatMap_def, rows, List.filterMap_flatMap]
  simp only [List.filterMap_map, Function.comp_def]

end Converter

/-! ## Tables without states for records -/

namespace MappingTable

/--
The block entity of a block at a position whose tag has a type: the converted
record of the position, unless it says nothing, and an empty one if there is
none.
-/
def entityOf?
    (table : MappingTable)
    (column : Column)
    (pos : BlockPos)
    (source : UInt32) : Option TargetEntity :=
  (table.tag? source).bind fun tag =>
    (table.entityType? tag).bind fun typeId =>
      match column.entityAt? pos with
      | some record =>
          if record.data.isNull then none
          else some { TargetEntity.empty pos typeId with data := record.data }
      | none => some (.empty pos typeId)

section

variable
    {table : MappingTable}
    (plain : ∀ tag : String, table.entityStates[tag]? = none)
include plain

theorem overrides_eq_nil : table.overrides = [] := by
  rw [List.eq_nil_iff_forall_not_mem]
  rintro state member
  obtain ⟨⟨tag, other⟩, listed, -⟩ := List.mem_map.1 member
  have known := Std.HashMap.mem_toList_iff_getElem?_eq_some.1 listed
  rw [plain] at known
  cases known

theorem listed?_eq_entityOf?
    (column : Column)
    (pos : BlockPos)
    (source : UInt32) :
    (⟨table, table⟩ : Converter).listed? column pos source =
      table.entityOf? column pos source := by
  rw [Converter.listed?, Converter.entityFor?, entityOf?]
  have owner : (⟨table, table⟩ : Converter).ownerTag? source =
      (table.tag? source).filter table.ownsEntity := rfl
  rw [owner]
  cases tagged : table.tag? source with
  | none => rfl
  | some tag =>
      have owns : table.ownsEntity tag = (table.entityType? tag).isSome :=
        Std.HashMap.contains_eq_isSome_getElem?
      rw [Option.filter_some, owns, Option.bind_some]
      cases type : table.entityType? tag with
      | none => rfl
      | some typeId =>
          rw [if_pos Option.isSome_some, Option.bind_some, Option.bind_some]
          cases stored : column.entityAt? pos with
          | none =>
              dsimp only
              rw [type]
              rfl
          | some record =>
              have here := Column.position_of_entityAt? stored
              have converted : table.convertEntity? source record =
                  some
                    { TargetEntity.empty pos typeId with
                      data := record.data } := by
                simp only [convertEntity?, tagged, type, plain, here,
                  Option.bind_eq_bind, Option.bind_some, Option.pure_def]
                rfl
              dsimp only
              rw [converted, Option.filter_some, TargetEntity.hasData]
              cases record.data.isNull <;> rfl

/--
Under a table without states for blocks that have a record, a column lists for
each of its cells, section by section, the block entity of its primary block,
and nothing else.  Where the coordinates of the column are numbers of 32 bits,
the positions are the exact ones, and no two cells have the same.
-/
theorem toList_entities_convert_eq
    {column : Column}
    (checked : ∀ content ∈ column.sections, content.Checked)
    {minY : Int32}
    (fits : column.FitsAt minY) :
    ((⟨table, table⟩ : Converter).convert column minY).entities.toList =
        (column.addresses.filterMap fun address =>
          (column.primaryAt? address).bind
            (table.entityOf? column (column.cellPos minY address))) ∧
      (∀ address ∈ column.addresses,
        (column.cellPos minY address).x.toInt =
          column.pos.x.toInt * 16 + address.2.1 ∧
          (column.cellPos minY address).y.toInt =
            minY.toInt + address.1 * 16 + address.2.2.1 ∧
          (column.cellPos minY address).z.toInt =
            column.pos.z.toInt * 16 + address.2.2.2) ∧
      (column.addresses.map (column.cellPos minY)).Nodup := by
  have lists : ∀ content ∈ column.sections,
      (⟨table, table⟩ : Converter).Lists content :=
    fun content member =>
      Converter.lists_of_overrides_eq_nil (checked content member)
        (overrides_eq_nil plain)
  refine ⟨?_, fun address member => fits.toInt_cellPos member, ?_⟩
  · rw [Converter.toList_entities_convert lists]
    refine List.filterMap_congr fun address _ => ?_
    rw [Converter.listedAt?]
    exact Option.bind_congr fun source _ =>
      listed?_eq_entityOf? plain column _ source
  · refine column.nodup_addresses.map_on
      fun address member other otherMember same => ?_
    exact Column.cellPos_inj fits.size_le member otherMember same

end

/-! ## A store room -/

open Converter

/-- A table by which chests are shown, all of them alike. -/
def storageTable : MappingTable :=
  [.block 5000 7 "chest", .entity "chest" 1].foldl MappingTable.added
    (.create 0 0)

/-- What the lower chest of the store room holds. -/
def storedItems : Json := .object [("Items", .array [.ofInt 3])]

/-- Two chests below the origin, the lower of which has a record. -/
def storageColumn : Column :=
  { chestColumn #[0, 1, 0, 5000] with
    pos := ⟨-2, 3⟩
    entities := #[⟨⟨-32, -64, 48⟩, storedItems⟩] }

theorem chestIds_storage : ChestIds #[0, 1, 0, 5000] :=
  ⟨by decide, by decide, rfl, rfl⟩

theorem entityAt?_storageColumn (pos : BlockPos) :
    storageColumn.entityAt? pos =
      if pos = ⟨-32, -64, 48⟩ then some
          ⟨⟨-32, -64, 48⟩, storedItems⟩ else none := by
  have stored : storageColumn.entities = #[⟨⟨-32, -64, 48⟩, storedItems⟩] :=
    rfl
  rw [Column.entityAt?, stored, Array.find?_singleton]
  simp only [beq_iff_eq, @eq_comm _ _ pos]

theorem entityOf?_storageTable
    (pos : BlockPos)
    (source : UInt32) :
    storageTable.entityOf? storageColumn pos source =
      if source = 5000 then
        some { TargetEntity.empty pos 1 with
          data := if pos = ⟨-32, -64, 48⟩ then storedItems else .emptyObject }
      else none := by
  have blocks : storageTable.blocks =
      ((∅ : Std.HashMap UInt32 SourceBlock).insert 0 ⟨air, none⟩).insert 5000
        ⟨7, some "chest"⟩ := rfl
  have tag : storageTable.tag? source = if source = 5000 then some
      "chest" else none := by
    rw [tag?, blocks, Std.HashMap.getElem?_insert,
      Std.HashMap.getElem?_insert, Std.HashMap.getElem?_empty]
    simp only [beq_iff_eq, @eq_comm _ _ source]
    split_ifs <;> rfl
  have type : storageTable.entityType? "chest" = some 1 := by
    simp [storageTable, added, entityType?]
  rw [entityOf?, tag]
  by_cases chest : source = 5000
  · rw [if_pos chest, if_pos chest, Option.bind_some, type, Option.bind_some,
      entityAt?_storageColumn]
    by_cases lower : pos = ⟨-32, -64, 48⟩
    · simp only [if_pos lower]
      rfl
    · simp only [if_neg lower]
      rfl
  · rw [if_neg chest, if_neg chest]
    rfl

theorem primaryAt?_storageColumn
    {place : Place}
    (member : place ∈ placesOf 16) :
    storageColumn.primaryAt? (0, place) =
      some (if place = (0, 0, 0) ∨ place = (0, 1, 0) then 5000 else 0) :=
  congrArg some (chestIds_storage.read_chestCube member)

/--
The lower chest is listed with what it holds, and the upper one as an empty
one.
-/
theorem toList_entities_convert_eq_storage :
    (∀ tag : String, storageTable.entityStates[tag]? = none) ∧
      (∀ content ∈ storageColumn.sections, content.Checked) ∧
        storageColumn.FitsAt (-64) ∧
      ∀ entity, entity ∈
        ((⟨storageTable, storageTable⟩ : Converter).convert storageColumn
        (-64)).entities.toList ↔
          entity =
            { TargetEntity.empty ⟨-32, -64, 48⟩ 1 with data := storedItems } ∨
          entity = TargetEntity.empty ⟨-32, -63, 48⟩ 1 := by
  have plain : ∀ tag : String, storageTable.entityStates[tag]? = none := by
    intro tag
    simp [storageTable, added, create]
  have checked : ∀ content ∈ storageColumn.sections, content.Checked :=
    chestIds_storage.checked_chestColumn
  have fits : storageColumn.FitsAt (-64) := by
    have alone : storageColumn.sections.size = 1 := rfl
    have pos : storageColumn.pos.x.toInt = -2 ∧
        storageColumn.pos.z.toInt = 3 := by decide
    have low : (-64 : Int32).toInt = -64 := by decide
    constructor <;> intro offset below <;> omega
  have shown {place : Place} (inside : place ∈ placesOf 16) :
      (storageColumn.primaryAt? (0, place)).bind
          (storageTable.entityOf? storageColumn
            (storageColumn.cellPos (-64) (0, place))) =
        if place = (0, 0, 0) then
          some
            { TargetEntity.empty ⟨-32, -64, 48⟩ 1 with data := storedItems }
        else if place = (0, 1, 0) then some
            (.empty ⟨-32, -63, 48⟩ 1) else none := by
    rw [primaryAt?_storageColumn inside, Option.bind_some,
      entityOf?_storageTable]
    by_cases lower : place = (0, 0, 0)
    · subst lower
      rfl
    · by_cases upper : place = (0, 1, 0)
      · subst upper
        rfl
      · rw [if_neg (not_or.2 ⟨lower, upper⟩), if_neg lower, if_neg upper,
          if_neg (by decide)]
  refine ⟨plain, checked, fits, fun entity => ?_⟩
  rw [(toList_entities_convert_eq plain checked fits).1, List.mem_filterMap]
  constructor
  · rintro ⟨⟨slot, place⟩, member, found⟩
    obtain ⟨below, inside⟩ := Column.mem_addresses_iff.1 member
    obtain rfl : slot = 0 := Nat.lt_one_iff.1 below
    rw [shown inside] at found
    split_ifs at found
    · exact .inl (Option.some.inj found).symm
    · exact .inr (Option.some.inj found).symm
  · have corner : (0, 0, 0) ∈ placesOf 16 := mem_placesOf_iff.2 (by decide)
    have above : (0, 1, 0) ∈ placesOf 16 := mem_placesOf_iff.2 (by decide)
    rintro (rfl | rfl)
    · exact ⟨(0, 0, 0, 0),
        Column.mem_addresses_iff.2 ⟨Nat.zero_lt_one, corner⟩, shown corner⟩
    · exact ⟨(0, 0, 1, 0),
        Column.mem_addresses_iff.2 ⟨Nat.zero_lt_one, above⟩, shown above⟩

end MappingTable

end VoxelRelay
