import NxContainer.Container.Description

/-! A run of requests to an opened container. The last checkpoint map that was read successfully
serves the look-ups after it; a failed read leaves it in place. -/
namespace NxContainer

structure Session where
  container : Container
  map : Option CheckpointMap

namespace Session

inductive Request where
  | readBlock (block : BlockNumber)
  | readObjectMap
  | readCheckpointMap (block : BlockNumber)
  | resolve (object : ObjectId)
  | readSuperblockCopy (block : BlockNumber)
  | readFileExtent (key value : Bytes)
  | readDevice (offset : ByteOffset) (length : Nat)
  | setFileLength (length : Nat)
  | describe

inductive Answer where
  | bytes (data : Bytes)
  | objectMap (map : ObjectMap)
  | checkpointMap (map : CheckpointMap)
  | resolved (block : Option BlockNumber)
  | noMap
  | superblock (superblock : Superblock)
  | fileExtent (extent : FileExtent)
  | resized
  | description (text : String)

def start (c : Container) : Session := ⟨c, none⟩

def answer (s : Session) : Request → Traced Answer
  | .readBlock b => Answer.bytes <$> Traced.ofExcept (s.container.readBlock b)
  | .readObjectMap => Answer.objectMap <$> s.container.readObjectMap
  | .readCheckpointMap b => Answer.checkpointMap <$> s.container.readCheckpointMap b
  | .resolve o =>
    match s.map with
    | some map => Answer.resolved <$> s.container.resolveEphemeral map o
    | none => pure .noMap
  | .readSuperblockCopy b => Answer.superblock <$> s.container.readSuperblockCopy b
  | .readFileExtent key value =>
    Answer.fileExtent <$> Traced.ofExcept (s.container.readFileExtent key value)
  | .readDevice o n => Answer.bytes <$> Traced.ofExcept (s.container.device.read o n)
  | .setFileLength _ => pure .resized
  | .describe => pure (.description s.container.description)

def next (s : Session) : Request → Traced Answer → Session
  | .setFileLength n, _ =>
    { s with container := { s.container with device := s.container.device.setFileLength n } }
  | _, ⟨_, .ok (.checkpointMap map)⟩ => { s with map := some map }
  | _, _ => s

def run (s : Session) : List Request → List (Traced Answer)
  | [] => []
  | r :: rest =>
    let a := s.answer r
    a :: (s.next r a).run rest

end Session

end NxContainer
