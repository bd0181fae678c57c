import VoxelRelay.Store.Basic

/-!
# Columns coming and going

Columns are created when the source announces them and unloaded when they
leave the window.  With a column goes everything that was derived from it.
-/

namespace VoxelRelay.Store

/-- Forgets what was derived from a column. -/
def forgetDerived (store : Store) (pos : ColumnPos) : Store :=
  { store with
    sent := store.sent.erase pos
    converted := store.converted.erase pos
    light := store.light.erase pos
    relight := store.relight.remove pos
    dirty := store.dirty.remove pos }

/-- Where the window is to be centered when a column arrives outside it. -/
def recenterMessages (store : Store) : List Message :=
  match store.settings.view.recenterOutsideRender, store.view.player with
  | true, some player => [.center player]
  | _, _ => []

/--
Starts a column of which the source declares the lowest sections to be there;
the others await their content.  Nothing happens outside the window; the value
says whether the column was started.
-/
def createColumn
    (store : Store)
    (pos : ColumnPos)
    (declared : Nat) : Outcome Bool :=
  if store.view.loads pos then
    let fresh := store.forgetDerived pos
    let started :=
      { fresh with
        columns :=
          fresh.columns.insert pos (.create pos store.sectionCount declared) }
    if store.view.renders pos then ⟨started, true, [], []⟩
    else ⟨started, true, store.recenterMessages, [.columnOutsideRender]⟩
  else .silent store false

/-- Drops a column with everything derived from it, and tells the client. -/
def unloadColumn
    (store : Store)
    (pos : ColumnPos) : Outcome (Option Column) :=
  match store.columns[pos]? with
  | none => .silent store none
  | some column =>
      { store :=
          { store with columns := store.columns.erase pos }.forgetDerived pos
        value := some column
        messages := [.detach (.column pos), .forget pos]
        warnings := [] }

/-- The loaded columns that lie outside the window, in order. -/
def outsiders (store : Store) : List ColumnPos :=
  store.columns.keys.filter fun pos => !store.view.loads pos

/-- Unloads a list of columns one after another. -/
def unloadAll
    (store : Store)
    (positions : List ColumnPos) : Store × List Message :=
  positions.foldl (fun (store, messages) pos =>
    let outcome := store.unloadColumn pos
    (outcome.store, messages ++ outcome.messages)) (store, [])

/-- Unloads every column that lies outside the window. -/
def unloadOutsiders (store : Store) : Outcome Unit :=
  let (kept, messages) := store.unloadAll store.outsiders
  ⟨kept, (), messages, []⟩

/-- Moves the center of the window. -/
def setCenter (store : Store) (center : ColumnPos) : Outcome Unit :=
  { store with view := { store.view with center := center } }.unloadOutsiders

/-- Changes the radius of the window. -/
def setRadius (store : Store) (radius : UInt32) : Outcome Unit :=
  { store with view := { store.view with radius := radius } }.unloadOutsiders

/-- Notes where the player is; nothing is unloaded. -/
def setPlayer (store : Store) (player : ColumnPos) : Store :=
  { store with view := { store.view with player := some player } }

/-- Changes a loaded column within the window. -/
def modifyColumn
    (store : Store)
    (pos : ColumnPos)
    (change : Column → Column) : Store :=
  if store.view.loads pos then
    { store with columns := store.columns.modify pos change }
  else store

/-- Makes a column due to be sent. -/
def markDirty (store : Store) (pos : ColumnPos) : Store :=
  { store with dirty := store.dirty.push pos }

/--
Asks for a section of a column within the window; says whether it was not
wanted before.
-/
def want (store : Store) (pos : SectionPos) : Store × Bool :=
  if store.view.loads pos.column then
    ({ store with wanted := store.wanted.insert pos },
      !store.wanted.contains pos)
  else (store, false)

/--
Asks for the sections of a column from one height up to, but not including,
another.
-/
def wantRange
    (store : Store)
    (pos : ColumnPos)
    (first last : Int32) : Store :=
  (List.range (last.toInt - first.toInt).toNat).foldl (fun store step =>
    (store.want ⟨pos.x, first + .ofNat step, pos.z⟩).1) store

/-- Stores a block entity in its column; dropped when that is not loaded. -/
def addEntity (store : Store) (entity : SourceEntity) : Store :=
  store.modifyColumn entity.position.column (·.putEntity entity)

end VoxelRelay.Store
