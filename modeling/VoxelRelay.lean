import VoxelRelay.Entity.Record
import VoxelRelay.Json.Reader
import VoxelRelay.Json.Writer
import VoxelRelay.Main
import VoxelRelay.Proofs.AirSections
import VoxelRelay.Proofs.BiomeMajorities
import VoxelRelay.Proofs.BlockLight
import VoxelRelay.Proofs.BlockUpdates
import VoxelRelay.Proofs.BlockVisits
import VoxelRelay.Proofs.BorderLight
import VoxelRelay.Proofs.BrighterSources
import VoxelRelay.Proofs.CacheCalls
import VoxelRelay.Proofs.CacheEviction
import VoxelRelay.Proofs.CanonicalLight
import VoxelRelay.Proofs.CellAddresses
import VoxelRelay.Proofs.CellPositions
import VoxelRelay.Proofs.CellWrites
import VoxelRelay.Proofs.ChangedCells
import VoxelRelay.Proofs.CheckedAccess
import VoxelRelay.Proofs.CheckedChanges
import VoxelRelay.Proofs.CheckedConversion
import VoxelRelay.Proofs.CheckedKeys
import VoxelRelay.Proofs.CheckedLight
import VoxelRelay.Proofs.CheckedTicks
import VoxelRelay.Proofs.ClientMirror
import VoxelRelay.Proofs.ColumnContents
import VoxelRelay.Proofs.ColumnQueues
import VoxelRelay.Proofs.CountedCells
import VoxelRelay.Proofs.CubicColumns
import VoxelRelay.Proofs.DeferredChanges
import VoxelRelay.Proofs.DerivedState
import VoxelRelay.Proofs.Downsampling
import VoxelRelay.Proofs.DueColumns
import VoxelRelay.Proofs.EditedSections
import VoxelRelay.Proofs.FadingLight
import VoxelRelay.Proofs.FilledColumns
import VoxelRelay.Proofs.FloodOffers
import VoxelRelay.Proofs.FloodSettling
import VoxelRelay.Proofs.GhostLight
import VoxelRelay.Proofs.KeyWords
import VoxelRelay.Proofs.LightAgreement
import VoxelRelay.Proofs.LightEquations
import VoxelRelay.Proofs.LightKeys
import VoxelRelay.Proofs.LightReads
import VoxelRelay.Proofs.ListedEntities
import VoxelRelay.Proofs.Majorities
import VoxelRelay.Proofs.OneCellChanges
import VoxelRelay.Proofs.OverdueRelights
import VoxelRelay.Proofs.OverlayChanges
import VoxelRelay.Proofs.PackedArrays
import VoxelRelay.Proofs.PaletteAddresses
import VoxelRelay.Proofs.PaletteCells
import VoxelRelay.Proofs.PaletteCompaction
import VoxelRelay.Proofs.PaletteRuns
import VoxelRelay.Proofs.QueueTurns
import VoxelRelay.Proofs.RecordHomes
import VoxelRelay.Proofs.RecordLookups
import VoxelRelay.Proofs.RefusedSections
import VoxelRelay.Proofs.RegisteredTables
import VoxelRelay.Proofs.RequestBatches
import VoxelRelay.Proofs.SectionConversion
import VoxelRelay.Proofs.SectionRequests
import VoxelRelay.Proofs.SendOrder
import VoxelRelay.Proofs.SentLight
import VoxelRelay.Proofs.ShapedColumns
import VoxelRelay.Proofs.SharedCache
import VoxelRelay.Proofs.SkyLight
import VoxelRelay.Proofs.SlabLevels
import VoxelRelay.Proofs.SpreadLoop
import VoxelRelay.Proofs.StoreLoops
import VoxelRelay.Proofs.StoreQueues
import VoxelRelay.Proofs.SurfaceHeights
import VoxelRelay.Proofs.TickAccounts
import VoxelRelay.Proofs.VisibleUpdates
import VoxelRelay.Proofs.WindowMoves
import VoxelRelay.Proofs.WorldBounds
