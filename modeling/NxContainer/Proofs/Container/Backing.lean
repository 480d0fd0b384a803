import NxContainer.Proofs.Container.Devices
import NxContainer.Proofs.Container.Resolution

/-! What a caller can learn about the kind of a device. A caller opens the container, perhaps again
with other options, sends requests to what it opened last, and reads the device itself. On devices
that are read alike every such run has the same answers and the same reports. -/
namespace NxContainer

structure Caller where
  device : ByteDevice
  session : Option Session

namespace Caller

inductive Request where
  | openContainer (options : OpenOptions)
  | readDevice (offset : ByteOffset) (length : Nat)
  | ask (request : Session.Request)

inductive Answer where
  | opened (superblock : Superblock) (blockSize : BlockSize) (options : OpenOptions)
  | bytes (data : Bytes)
  | told (answer : Session.Answer)
  | nothingOpen

def start (device : ByteDevice) : Caller := ⟨device, none⟩

def answer (u : Caller) : Request → Traced Answer
  | .openContainer options =>
    (fun c => .opened c.superblock c.blockSize c.options) <$> Container.ofDevice u.device options
  | .readDevice o n => Answer.bytes <$> Traced.ofExcept (u.device.read o n)
  | .ask r =>
    match u.session with
    | some s => Answer.told <$> s.answer r
    | none => pure .nothingOpen

/-- A container that is opened takes the place of the one before it, while the map that was read last
stays in hand. -/
def next (u : Caller) : Request → Caller
  | .openContainer options =>
    match (Container.ofDevice u.device options).result with
    | .ok c => { u with session := some ⟨c, u.session.bind Session.map⟩ }
    | .error _ => u
  | .readDevice _ _ => u
  | .ask r => { u with session := u.session.map fun s => s.next r (s.answer r) }

def run (u : Caller) : List Request → List (Traced Answer)
  | [] => []
  | r :: rest => u.answer r :: (u.next r).run rest

def Request.Keeps : Request → Prop
  | .openContainer _ | .readDevice _ _ => True
  | .ask r => r.newLength? = none

def onDevice (u : Caller) (device : ByteDevice) : Caller :=
  ⟨device, u.session.map (·.onDevice device)⟩

variable {u : Caller} {r : Request} {d d' : ByteDevice}

theorem answer_of_alike (alike : d.Alike d') : (u.onDevice d').answer r = (u.onDevice d).answer r := by
  cases r with
  | openContainer options =>
    simp only [answer, onDevice, Container.ofDevice_of_alike alike, Functor.map_map]
    rfl
  | readDevice o n => simp only [answer, onDevice, alike.read]
  | ask r =>
    obtain ⟨device, session⟩ := u
    cases session with
    | none => rfl
    | some s =>
      have same : (s.onDevice d').answer r = (s.onDevice d).answer r :=
        Session.answer_onDevice (s := s.onDevice d) alike
      simp only [answer, onDevice, Option.map_some, same]

theorem next_of_alike (alike : d.Alike d') (keeps : r.Keeps) :
    (u.onDevice d').next r = ((u.onDevice d).next r).onDevice d' := by
  obtain ⟨device, session⟩ := u
  cases r with
  | openContainer options =>
    simp only [next, onDevice, Container.ofDevice_of_alike alike, Traced.result_map]
    cases (Container.ofDevice d options).result with
    | error e => cases session <;> rfl
    | ok c => cases session <;> rfl
  | readDevice o n => cases session <;> rfl
  | ask r =>
    cases session with
    | none => rfl
    | some s =>
      have same : (s.onDevice d').answer r = (s.onDevice d).answer r :=
        Session.answer_onDevice (s := s.onDevice d) alike
      have step : (s.onDevice d').next r ((s.onDevice d).answer r) =
          ((s.onDevice d).next r ((s.onDevice d).answer r)).onDevice d' :=
        Session.next_onDevice (s := s.onDevice d) keeps _
      simp only [next, onDevice, Option.map_some, same, step]

theorem run_of_alike (alike : d.Alike d') {requests : List Request}
    (keep : ∀ r ∈ requests, r.Keeps) : (u.onDevice d').run requests = (u.onDevice d).run requests := by
  -- Both callers stay one and the same caller, on the one device and on the other.
  induction requests generalizing u with
  | nil => rfl
  | cons r rest ih =>
    obtain ⟨first, others⟩ := List.forall_mem_cons.mp keep
    have here := next_of_alike (u := u) (ByteDevice.alike_refl d) first
    rw [run, run, answer_of_alike alike, next_of_alike alike first, ih others, ← here]

/-- Every run of a caller at a file that keeps its contents is the run at a memory of these contents,
with the same answers, the same errors and the same reports. -/
theorem run_file_eq_run_memory (image : Image) {requests : List Request}
    (keep : ∀ r ∈ requests, r.Keeps) :
    ∃ file, ByteDevice.openFile (some image) = .ok file ∧
      (start file).run requests = (start (.memory image)).run requests := by
  have alike := ByteDevice.alike_memory_file image
  refine ⟨.file image.size image, rfl, ?_⟩
  exact run_of_alike (u := start (.memory image)) alike keep

def sampleRequests : List Request :=
  [.readDevice ⟨12288⟩ 0, .readDevice ⟨32⟩ 4, .openContainer ⟨true, false, ⟨0⟩⟩,
    .ask (.readCheckpointMap ⟨2⟩), .openContainer ⟨false, true, ⟨1⟩⟩, .ask (.resolve ⟨1024⟩),
    .ask (.readSuperblockCopy ⟨3⟩), .readDevice ⟨18446744073709551615⟩ 2]

theorem sample_file_eq_memory : (∀ r ∈ sampleRequests, r.Keeps) ∧
    ∃ file, ByteDevice.openFile (some Container.sample) = .ok file ∧
      (start file).run sampleRequests = (start (.memory Container.sample)).run sampleRequests ∧
      ((start file).run sampleRequests).head? = some ⟨[], .ok (.bytes [])⟩ ∧
      ((start file).run sampleRequests)[1]? = some ⟨[], .ok (.bytes [0x4E, 0x58, 0x53, 0x42])⟩ ∧
      ((start file).run sampleRequests)[3]?.map Traced.result =
        some (.ok (.told (.checkpointMap
          (CheckpointMap.stored (Container.blockBytes Container.sample ⟨4096⟩ ⟨2⟩))))) := by
  have keep : ∀ r ∈ sampleRequests, r.Keeps := by
    simp [sampleRequests, Request.Keeps, Session.Request.newLength?]
  obtain ⟨file, opened, same⟩ := run_file_eq_run_memory Container.sample keep
  have magic : (ByteDevice.memory Container.sample).read ⟨32⟩ 4 = .ok [0x4E, 0x58, 0x53, 0x42] := by
    decide +kernel
  have session : (start (.memory Container.sample)).next (.openContainer ⟨true, false, ⟨0⟩⟩) =
      ⟨.memory Container.sample, some ⟨Container.sampleLenient, none⟩⟩ := by
    simp only [next, start, Container.sampleLenient_opened]
    rfl
  have told : ((start (.memory Container.sample)).next (.openContainer ⟨true, false, ⟨0⟩⟩)
      |>.answer (.ask (.readCheckpointMap ⟨2⟩))).result = .ok (.told (.checkpointMap
        (CheckpointMap.stored (Container.blockBytes Container.sample ⟨4096⟩ ⟨2⟩)))) := by
    simp only [session, answer, Session.answer, Traced.result_map, Container.sampleLenient_reads_map]
    rfl
  refine ⟨keep, file, opened, same, ?_, ?_, ?_⟩
  · rw [same]
    rfl
  · rw [same]
    exact congrArg (fun read => some (Answer.bytes <$> Traced.ofExcept read)) magic
  · rw [same]
    exact congrArg some told

end Caller

end NxContainer
