import NxContainer.Bytes.Cursor
import NxContainer.Container.Session
import NxContainer.Device.Run
import NxContainer.Fixture
import NxContainer.Object.Checksum
import NxContainer.Superblock
import NxContainer.Proofs.Bytes.Cursor
import NxContainer.Proofs.Bytes.Readers
import NxContainer.Proofs.Bytes.Window
import NxContainer.Proofs.CheckpointMap.Format
import NxContainer.Proofs.CheckpointMap.Json
import NxContainer.Proofs.CheckpointMap.Layout
import NxContainer.Proofs.CheckpointMap.Lookup
import NxContainer.Proofs.Container.Backing
import NxContainer.Proofs.Container.Devices
import NxContainer.Proofs.Container.Enforcement
import NxContainer.Proofs.Container.Extents
import NxContainer.Proofs.Container.Geometry
import NxContainer.Proofs.Container.Locality
import NxContainer.Proofs.Container.OpenedLength
import NxContainer.Proofs.Container.Opening
import NxContainer.Proofs.Container.Repair
import NxContainer.Proofs.Container.Resolution
import NxContainer.Proofs.Container.ShortImages
import NxContainer.Proofs.Container.Stages
import NxContainer.Proofs.Container.Tampering
import NxContainer.Proofs.Container.Traced
import NxContainer.Proofs.Container.Warnings
import NxContainer.Proofs.Decoding.Formats
import NxContainer.Proofs.Device.Blocks
import NxContainer.Proofs.Device.Partition
import NxContainer.Proofs.Device.Sizes
import NxContainer.Proofs.FileExtent.Mapping
import NxContainer.Proofs.FileExtent.Ranges
import NxContainer.Proofs.FileExtent.Runs
import NxContainer.Proofs.FileExtent.StoredForm
import NxContainer.Proofs.Fixture.Agreement
import NxContainer.Proofs.Fixture.Placement
import NxContainer.Proofs.Fixture.Writes
import NxContainer.Proofs.Json.Record
import NxContainer.Proofs.Object.Closing
import NxContainer.Proofs.Object.Collisions
import NxContainer.Proofs.Object.Stamp
import NxContainer.Proofs.ObjectMap.Format
import NxContainer.Proofs.Superblock.Format
import NxContainer.Proofs.Superblock.Geometry
import NxContainer.Proofs.Superblock.Layout
import NxContainer.Proofs.Units.Conversion
