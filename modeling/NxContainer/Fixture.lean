import NxContainer.Image
import NxContainer.Json.Forms
import NxContainer.Text

/-! Sparse fixtures: a size and a list of writes over zeros, kept as JSON text. Writes are decoded,
checked and applied one after another, so the first one at fault decides the error and a later one
wins where two overlap. -/
namespace NxContainer

/-- A text under the name that errors refer to it by; without the text there is nothing to read. -/
structure FixtureSource where
  name : String
  text : Option String

inductive FixtureCause where
  | hex (fault : Hex.Fault)
  | decode (error : DecodeError)
  | read (error : ReadError)

inductive FixtureError where
  | unreadable (name : String)
  | malformed (name : String)
  | invalidHex (offset : Nat) (fault : Hex.Fault)
  | offsetOverflow
  | writeOutOfBounds (offset payload size : Nat)
  | superblock (name : String) (cause : DecodeError)
  | geometry (name : String) (cause : DecodeError)
  | objectMap (name : String) (cause : DecodeError)
  | checkpointMap (name : String) (cause : DecodeError)
  | checkpointEntry (name : String) (cause : DecodeError)
  | fileExtent (keyName valueName : String) (cause : DecodeError)
  | imageOverflow
  | largerThanBlock (name : String) (length blockSize : Nat)
  | outsideImage (block blockCount : Nat)
  | container (cause : ReadError)

def Hex.Fault.message : Hex.Fault → String
  | oddLength => "Odd number of digits"
  | invalidCharacter byte position =>
    s!"Invalid character {Quoted.byte byte} at position {position}"

namespace FixtureError

def message : FixtureError → String
  | unreadable name => s!"failed to read fixture {name}"
  | malformed name => s!"invalid fixture json {name}"
  | invalidHex offset _ => s!"invalid hex at offset {offset}"
  | offsetOverflow => "fixture offset overflow"
  | writeOutOfBounds offset payload size =>
    s!"fixture write out of bounds: offset={offset} payload={payload} size={size}"
  | superblock name _ => s!"failed superblock parse for fixture {name}"
  | geometry name _ => s!"superblock geometry invalid in fixture {name}"
  | objectMap name _ => s!"failed object map parse for fixture {name}"
  | checkpointMap name _ => s!"failed physical map parse for fixture {name}"
  | checkpointEntry name _ => s!"failed physical map entry parse for fixture {name}"
  | fileExtent keyName valueName _ =>
    s!"failed file extent parse for fixtures {keyName} + {valueName}"
  | imageOverflow => "fixture image size overflow"
  | largerThanBlock name length blockSize =>
    s!"fixture {name} is larger than one block ({length} > {blockSize})"
  | outsideImage block blockCount => s!"fixture block {block} outside image of {blockCount} blocks"
  | container _ => "failed to open fixture container"

def cause : FixtureError → Option FixtureCause
  | invalidHex _ fault => some (.hex fault)
  | superblock _ e | geometry _ e | objectMap _ e | checkpointMap _ e | checkpointEntry _ e
  | fileExtent _ _ e => some (.decode e)
  | container e => some (.read e)
  | _ => none

end FixtureError

structure FixtureWrite where
  offset : Nat
  hex : String
deriving DecidableEq

structure Fixture where
  size : Nat
  writes : List FixtureWrite
deriving DecidableEq

def FixtureWrite.toJson (w : FixtureWrite) : Json := .ofMembers [
  ("offset", .ofNat w.offset),
  ("hex", .ofText w.hex)]

def FixtureWrite.ofJson? : Json → Option FixtureWrite := Json.record do
  let offset ← Json.field "offset" (Json.below? addressLimit)
  let hex ← Json.field "hex" Json.text?
  return { offset, hex }

namespace Fixture

def toJson (f : Fixture) : Json := .ofMembers [
  ("size", .ofNat f.size),
  ("writes", .ofList FixtureWrite.toJson f.writes)]

def ofJson? : Json → Option Fixture := Json.record do
  let size ← Json.field "size" (Json.below? addressLimit)
  let writes ← Json.field "writes" (Json.list? FixtureWrite.ofJson?)
  return { size, writes }

def write (image : Image) (w : FixtureWrite) : Except FixtureError Image := do
  let payload ← (Hex.decode w.hex).mapError (.invalidHex w.offset)
  require (w.offset + payload.length < addressLimit) .offsetOverflow
  require (w.offset + payload.length ≤ image.size)
    (.writeOutOfBounds w.offset payload.length image.size)
  return image.overlay w.offset payload

def image (f : Fixture) : Except FixtureError Image := f.writes.foldlM write (Image.zeros f.size)

end Fixture

namespace FixtureSource

/-- The fixture in a source, read no further than it is used. -/
def fixture (s : FixtureSource) : Except FixtureError Fixture :=
  match s.text with
  | none => .error (.unreadable s.name)
  | some text =>
    match (Json.Reading.skimmed.parse text).bind Fixture.ofJson? with
    | some fixture => .ok fixture
    | none => .error (.malformed s.name)

def load (s : FixtureSource) : Except FixtureError Image := do
  let fixture ← s.fixture
  fixture.image

def superblock (s : FixtureSource) : Except FixtureError Superblock := do
  let image ← s.load
  let superblock ← (Superblock.decode image.toBytes).mapError (.superblock s.name)
  superblock.validate.mapError (.geometry s.name)
  return superblock

def objectMap (s : FixtureSource) : Except FixtureError ObjectMap := do
  let image ← s.load
  (ObjectMap.decode image.toBytes).mapError (.objectMap s.name)

def checkpointMap (s : FixtureSource) : Except FixtureError CheckpointMap := do
  let image ← s.load
  (CheckpointMap.decode image.toBytes).mapError (.checkpointMap s.name)

def checkpointEntry (s : FixtureSource) : Except FixtureError CheckpointMap.Entry := do
  let image ← s.load
  (CheckpointMap.Entry.decode image.toBytes).mapError (.checkpointEntry s.name)

def fileExtent (key value : FixtureSource) : Except FixtureError FileExtent := do
  let keyImage ← key.load
  let valueImage ← value.load
  (FileExtent.ofRecord keyImage.toBytes valueImage.toBytes).mapError
    (.fileExtent key.name value.name)

end FixtureSource

structure FixturePlacement where
  block : Nat
  source : FixtureSource

namespace FixturePlacement

def place (blockSize blockCount : Nat) (image : Image) (p : FixturePlacement) :
    Except FixtureError Image := do
  let fixture ← p.source.load
  require (fixture.size ≤ blockSize) (.largerThanBlock p.source.name fixture.size blockSize)
  require (p.block < blockCount) (.outsideImage p.block blockCount)
  return image.overlay (p.block * blockSize) fixture.toBytes

def imageOf (blockSize : BlockSize) (blockCount : Nat) (placements : List FixturePlacement) :
    Except FixtureError Image := do
  let size := blockSize.value.toNat
  require (size * blockCount < addressLimit) .imageOverflow
  placements.foldlM (place size blockCount) (Image.zeros (size * blockCount))

def openContainer (blockSize : BlockSize) (blockCount : Nat) (placements : List FixturePlacement)
    (options : OpenOptions) : List Event × Except FixtureError Container :=
  match imageOf blockSize blockCount placements with
  | .error e => ([], .error e)
  | .ok image =>
    let opened := Container.ofDevice (.memory image) options
    (opened.log, opened.result.mapError .container)

end FixturePlacement

end NxContainer
