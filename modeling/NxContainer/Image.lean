import NxContainer.Bytes.Basic

/-! The contents of a device: a size and the byte at every offset below it. An image may be far
larger than what is written in it, so a byte is a function of its offset and nothing is laid out
until a window is read. -/
namespace NxContainer

structure Image where
  size : Nat
  byteAt : Nat → UInt8

namespace Image

def zeros (size : Nat) : Image := ⟨size, fun _ => 0⟩

/-- The bytes of `d` from offset `o` on, over the bytes of `i`. The size stays. -/
def overlay (i : Image) (o : Nat) (d : Bytes) : Image :=
  let written := d.toArray
  let byteAt (k : Nat) : UInt8 :=
    if o ≤ k then
      match written[k - o]? with
      | some b => b
      | none => i.byteAt k
    else i.byteAt k
  ⟨i.size, byteAt⟩

def ofBytes (d : Bytes) : Image := (zeros d.length).overlay 0 d

def resize (i : Image) (size : Nat) : Image :=
  ⟨size, fun k => if k < i.size then i.byteAt k else 0⟩

def window (i : Image) (o n : Nat) : Bytes := (List.range n).map fun k => i.byteAt (o + k)

def toBytes (i : Image) : Bytes := i.window 0 i.size

theorem length_window (i : Image) (o n : Nat) : (i.window o n).length = n := by
  simp [window]

theorem toBytes_ofBytes (d : Bytes) : (ofBytes d).toBytes = d := by
  apply List.ext_getElem
  · simp [toBytes, length_window, ofBytes, overlay, zeros]
  · intro k hk hd
    simp [toBytes, window, ofBytes, overlay, zeros, hd]

end Image

end NxContainer
