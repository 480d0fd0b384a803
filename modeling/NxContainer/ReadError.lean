import NxContainer.Units

/-! Why a read of a container failed. Errors of the operating system are kept apart from what the
bytes of the container say, because only the former may go away when the read is repeated. -/
namespace NxContainer

inductive IoKind where
  | notFound
  | permissionDenied
  | inputOutput
  | unexpectedEof
  | other
  | uncategorized
deriving DecidableEq

inductive IoError where
  | os (code : Nat)
  | message (kind : IoKind) (text : String)
deriving DecidableEq

namespace IoError

/-- Kind and text of the error numbers that come up in opening and reading a file here. The texts of
the system have more entries; a number beyond these four is only described as unknown, and nothing is
proved about its wording. -/
def describe (code : Nat) : IoKind × String :=
  match code with
  | 1 => (.permissionDenied, "Operation not permitted")
  | 2 => (.notFound, "No such file or directory")
  | 5 => (.inputOutput, "Input/output error")
  | 13 => (.permissionDenied, "Permission denied")
  | _ => (.uncategorized, s!"Unknown error {code}")

def kind : IoError → IoKind
  | os code => (describe code).1
  | message kind _ => kind

def text : IoError → String
  | os code => s!"{(describe code).2} (os error {code})"
  | message _ text => text

def code? : IoError → Option Nat
  | os code => some code
  | message _ _ => none

end IoError

inductive ReadError where
  | io (cause : IoError)
  | invalidArgument (detail : String)
  | sizeOutOfBounds (detail : String)
  | unsupportedFormat (detail : String)
  | allocation (detail : String)
  | corruption (block : BlockNumber) (detail : String)
  | checksumMismatch (block : BlockNumber) (stored computed : UInt64)
  | outOfRange (block : BlockNumber) (blockCount : Nat)
deriving DecidableEq

namespace ReadError

def message : ReadError → String
  | io cause => s!"I/O error: {cause.text}"
  | invalidArgument detail => s!"invalid argument: {detail}"
  | sizeOutOfBounds detail => s!"size out of bounds: {detail}"
  | unsupportedFormat detail => s!"unsupported format: {detail}"
  | allocation detail => s!"allocation failed: {detail}"
  | corruption block detail => s!"corrupt metadata at block {block.text}: {detail}"
  | checksumMismatch block stored computed =>
    let stored := Hex.padded 16 stored.toNat
    let computed := Hex.padded 16 computed.toNat
    s!"checksum mismatch at block {block.text}: stored {stored}, computed {computed}"
  | outOfRange block blockCount =>
    s!"block {block.text} out of range (container has {blockCount} blocks)"

/-- The error number for callers that deal in such numbers: 5 for faults of the medium and its
contents, 12 for memory, 22 for arguments and formats, 34 for addresses. -/
def errno : ReadError → Nat
  | io cause => cause.code?.getD 5
  | invalidArgument _ | sizeOutOfBounds _ | unsupportedFormat _ => 22
  | allocation _ => 12
  | corruption _ _ | checksumMismatch _ _ _ => 5
  | outOfRange _ _ => 34

def isTransient : ReadError → Bool
  | io _ => true
  | _ => false

def shortRead (text : String) : ReadError := .io (.message .unexpectedEof text)

/-- What a decoder's refusal of the bytes of `block` means to the reader of a container. -/
def ofDecode (block : BlockNumber) (e : DecodeError) : ReadError :=
  match e with
  | .insufficientData _ _ _ | .outOfBounds _ _ _ => .sizeOutOfBounds e.message
  | .invalidMagic _ _ | .invalidObjectType _ _ => .unsupportedFormat e.message
  | .alreadySet _ => .invalidArgument e.message
  | .allocationFailed _ => .allocation e.message
  | .invalidField _ _ | .integerConversion _ => .corruption block e.message

end ReadError

end NxContainer
