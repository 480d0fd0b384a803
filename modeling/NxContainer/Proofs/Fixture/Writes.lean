import NxContainer.Fixture
import NxContainer.Proofs.Image

/-! The image that the writes of a fixture make of zeros, said byte by byte. The first write that
cannot be read or does not fit decides the error, and then there is no image. -/
namespace NxContainer

namespace FixtureWrite

def byteAt? (w : FixtureWrite) (i : Nat) : Option UInt8 :=
  match Hex.decode w.hex with
  | .ok payload => if w.offset ≤ i then payload[i - w.offset]? else none
  | .error _ => none

def Fits (size : Nat) (w : FixtureWrite) : Prop :=
  ∃ payload, Hex.decode w.hex = .ok payload ∧ w.offset + payload.length ≤ size

inductive Fault (size : Nat) (w : FixtureWrite) : FixtureError → Prop where
  | hex {fault : Hex.Fault} (unread : Hex.decode w.hex = .error fault) :
      Fault size w (.invalidHex w.offset fault)
  | overflow {payload : Bytes} (read : Hex.decode w.hex = .ok payload)
      (far : addressLimit ≤ w.offset + payload.length) : Fault size w .offsetOverflow
  | outside {payload : Bytes} (read : Hex.decode w.hex = .ok payload)
      (near : w.offset + payload.length < addressLimit)
      (outside : size < w.offset + payload.length) :
      Fault size w (.writeOutOfBounds w.offset payload.length size)

def Apart (u v : FixtureWrite) : Prop := ∀ i, u.byteAt? i = none ∨ v.byteAt? i = none

theorem byteAt?_of_past {w : FixtureWrite} {payload : Bytes} {i : Nat}
    (read : Hex.decode w.hex = .ok payload) (past : w.offset + payload.length ≤ i) :
    w.byteAt? i = none := by
  simp only [byteAt?, read]
  split
  · exact List.getElem?_eq_none (by omega)
  · rfl

theorem byteAt?_of_before {w : FixtureWrite} {i : Nat} (before : i < w.offset) :
    w.byteAt? i = none := by
  simp only [byteAt?, if_neg (Nat.not_le.mpr before)]
  split <;> rfl

theorem Apart.of_order {u v : FixtureWrite} {payload : Bytes} (read : Hex.decode u.hex = .ok payload)
    (order : u.offset + payload.length ≤ v.offset) : u.Apart v := by
  intro i
  by_cases before : i < v.offset
  · exact Or.inr (byteAt?_of_before before)
  · exact Or.inl (byteAt?_of_past read (Nat.le_trans order (Nat.not_lt.mp before)))

end FixtureWrite

namespace Fixture

/-- The last of the bytes that the writes put in place `i`, or zero if there are none. -/
def byteAt (f : Fixture) (i : Nat) : UInt8 := (f.writes.filterMap (·.byteAt? i)).getLastD 0

def append (f : Fixture) (w : FixtureWrite) : Fixture := { f with writes := f.writes ++ [w] }

structure Made (f : Fixture) (outcome : Except FixtureError Image) : Prop where
  succeeds : (∃ image, outcome = .ok image) ↔ ∀ w ∈ f.writes, w.Fits f.size
  bytes : ∀ image, outcome = .ok image →
    image.size = f.size ∧ image.toBytes = (List.range f.size).map f.byteAt
  fails : ∀ e, outcome = .error e ↔ ∃ before w rest, f.writes = before ++ w :: rest ∧
    (∀ u ∈ before, u.Fits f.size) ∧ w.Fault f.size e

/-! One write. -/

section write

variable {image after : Image} {w : FixtureWrite} {payload : Bytes}

theorem write_eq_ok_iff (sized : image.size < addressLimit) : write image w = .ok after ↔
    ∃ payload, Hex.decode w.hex = .ok payload ∧ w.offset + payload.length ≤ image.size ∧
      image.overlay w.offset payload = after := by
  simp only [write, bind_eq_ok_iff, mapError_eq_ok_iff, require_eq_ok_iff, pure_eq_ok_iff]
  constructor
  · rintro ⟨payload, read, _, _, _, inside, made⟩
    exact ⟨payload, read, inside, made⟩
  · rintro ⟨payload, read, inside, made⟩
    exact ⟨payload, read, (), Nat.lt_of_le_of_lt inside sized, (), inside, made⟩

theorem write_eq_error_iff {e : FixtureError} :
    write image w = .error e ↔ w.Fault image.size e := by
  simp only [write, bind_eq_error_iff, mapError_eq_error_iff, mapError_eq_ok_iff,
    require_eq_error_iff, require_eq_ok_iff, Nat.not_lt, Nat.not_le]
  constructor
  · rintro (⟨_, unread, rfl⟩ | ⟨_, read, ⟨far, rfl⟩ | ⟨_, near, ⟨outside, rfl⟩ | ⟨_, _, impossible⟩⟩⟩)
    · exact .hex unread
    · exact .overflow read far
    · exact .outside read near outside
    · cases impossible
  · intro fault
    cases fault with
    | hex unread => exact Or.inl ⟨_, unread, rfl⟩
    | overflow read far => exact Or.inr ⟨_, read, Or.inl ⟨far, rfl⟩⟩
    | outside read near outside =>
      exact Or.inr ⟨_, read, Or.inr ⟨(), near, Or.inl ⟨outside, rfl⟩⟩⟩

theorem byteAt_overlay (read : Hex.decode w.hex = .ok payload) (image : Image) (i : Nat) :
    (image.overlay w.offset payload).byteAt i = (w.byteAt? i).getD (image.byteAt i) := by
  simp only [FixtureWrite.byteAt?, read, Image.overlay, List.getElem?_toArray]
  split
  · cases payload[i - w.offset]? <;> rfl
  · rfl

end write

/-! All writes, one behind the other. -/

def laid (image : Image) (writes : List FixtureWrite) : Image :=
  ⟨image.size, fun i => (writes.filterMap (·.byteAt? i)).getLastD (image.byteAt i)⟩

theorem laid_cons {w : FixtureWrite} {payload : Bytes} (read : Hex.decode w.hex = .ok payload)
    (image : Image) (rest : List FixtureWrite) :
    laid (image.overlay w.offset payload) rest = laid image (w :: rest) := by
  have place (i : Nat) : (rest.filterMap (·.byteAt? i)).getLastD
        ((image.overlay w.offset payload).byteAt i) =
      ((w :: rest).filterMap (·.byteAt? i)).getLastD (image.byteAt i) := by
    rw [byteAt_overlay read]
    cases covered : w.byteAt? i with
    | none => simp only [List.filterMap_cons, covered, Option.getD_none]
    | some b => simp only [List.filterMap_cons, covered, Option.getD_some, List.getLastD_cons]
  simp only [laid, place, Image.size_overlay]

theorem foldlM_write_eq_ok_iff {image after : Image} {writes : List FixtureWrite}
    (sized : image.size < addressLimit) : writes.foldlM write image = .ok after ↔
      (∀ w ∈ writes, w.Fits image.size) ∧ laid image writes = after := by
  induction writes generalizing image with
  | nil => simp [laid, pure_eq_ok_iff]
  | cons w rest ih =>
    have kept (payload : Bytes) : (image.overlay w.offset payload).size < addressLimit := sized
    simp only [List.foldlM_cons, bind_eq_ok_iff, write_eq_ok_iff sized, List.forall_mem_cons]
    constructor
    · rintro ⟨_, ⟨payload, read, inside, rfl⟩, made⟩
      obtain ⟨fits, rfl⟩ := (ih (kept payload)).mp made
      exact ⟨⟨⟨payload, read, inside⟩, fits⟩, (laid_cons read image rest).symm⟩
    · rintro ⟨⟨⟨payload, read, inside⟩, fits⟩, rfl⟩
      exact ⟨_, ⟨payload, read, inside, rfl⟩, (ih (kept payload)).mpr ⟨fits, laid_cons read image rest⟩⟩

theorem foldlM_write_eq_error_iff {image : Image} {writes : List FixtureWrite} {e : FixtureError}
    (sized : image.size < addressLimit) : writes.foldlM write image = .error e ↔
      ∃ before w rest, writes = before ++ w :: rest ∧
        (∀ u ∈ before, u.Fits image.size) ∧ w.Fault image.size e := by
  induction writes generalizing image with
  | nil => simp [pure, Except.pure]
  | cons w rest ih =>
    have kept (payload : Bytes) : (image.overlay w.offset payload).size < addressLimit := sized
    simp only [List.foldlM_cons, bind_eq_error_iff, write_eq_error_iff, write_eq_ok_iff sized]
    constructor
    · rintro (fault | ⟨_, ⟨payload, read, inside, rfl⟩, failed⟩)
      · exact ⟨[], w, rest, rfl, nofun, fault⟩
      · obtain ⟨before, v, behind, rfl, fits, fault⟩ := (ih (kept payload)).mp failed
        exact ⟨w :: before, v, behind, rfl,
          List.forall_mem_cons.mpr ⟨⟨payload, read, inside⟩, fits⟩, fault⟩
    · rintro ⟨before, v, behind, split, fits, fault⟩
      cases before with
      | nil =>
        cases split
        exact Or.inl fault
      | cons u before =>
        cases split
        obtain ⟨⟨payload, read, inside⟩, fits⟩ := List.forall_mem_cons.mp fits
        exact Or.inr ⟨_, ⟨payload, read, inside, rfl⟩,
          (ih (kept payload)).mpr ⟨before, v, behind, rfl, fits, fault⟩⟩

/-! Two writes beside each other. -/

section exchange

variable {image : Image} {u v : FixtureWrite}

theorem laid_swap (apart : u.Apart v) (image : Image) : laid image [u, v] = laid image [v, u] := by
  have place (i : Nat) : [u, v].filterMap (·.byteAt? i) = [v, u].filterMap (·.byteAt? i) := by
    rcases apart i with free | free
    · simp only [List.filterMap_cons, free]
    · simp only [List.filterMap_cons, free]
  simp only [laid, place]

theorem exists_fault_of_not_fits {size : Nat} {w : FixtureWrite} (misfit : ¬ w.Fits size) :
    ∃ e, w.Fault size e := by
  cases read : Hex.decode w.hex with
  | error fault => exact ⟨_, .hex read⟩
  | ok payload =>
    have outside : size < w.offset + payload.length :=
      Nat.not_le.mp fun inside => misfit ⟨payload, read, inside⟩
    by_cases near : w.offset + payload.length < addressLimit
    · exact ⟨_, .outside read near outside⟩
    · exact ⟨_, .overflow read (Nat.not_lt.mp near)⟩

theorem foldlM_write_swap_of_fits (sized : image.size < addressLimit) (apart : u.Apart v)
    (fits : u.Fits image.size) : [u, v].foldlM write image = [v, u].foldlM write image := by
  by_cases both : v.Fits image.size
  · have left : ∀ w ∈ [u, v], w.Fits image.size := by simp [fits, both]
    have right : ∀ w ∈ [v, u], w.Fits image.size := by simp [fits, both]
    rw [(foldlM_write_eq_ok_iff sized).mpr ⟨left, rfl⟩,
      (foldlM_write_eq_ok_iff sized).mpr ⟨right, rfl⟩, laid_swap apart]
  · obtain ⟨e, fault⟩ := exists_fault_of_not_fits both
    have first : ∀ w ∈ [u], w.Fits image.size := by simp [fits]
    have second : [u, v].foldlM write image = .error e :=
      (foldlM_write_eq_error_iff sized).mpr ⟨[u], v, [], rfl, first, fault⟩
    have alone : [v, u].foldlM write image = .error e :=
      (foldlM_write_eq_error_iff sized).mpr ⟨[], v, [u], rfl, nofun, fault⟩
    rw [second, alone]

theorem foldlM_write_exchange (sized : image.size < addressLimit) (apart : u.Apart v)
    (fits : u.Fits image.size ∨ v.Fits image.size) (before rest : List FixtureWrite) :
    (before ++ u :: v :: rest).foldlM write image =
      (before ++ v :: u :: rest).foldlM write image := by
  have pair (j : Image) (size : j.size = image.size) :
      [u, v].foldlM write j = [v, u].foldlM write j := by
    rw [← size] at sized fits
    rcases fits with first | second
    · exact foldlM_write_swap_of_fits sized apart first
    · exact (foldlM_write_swap_of_fits sized (fun i => (apart i).symm) second).symm
  have cut (a b : FixtureWrite) : a :: b :: rest = [a, b] ++ rest := rfl
  rw [List.foldlM_append, List.foldlM_append]
  cases outcome : before.foldlM write image with
  | error e => rfl
  | ok j =>
    obtain ⟨_, rfl⟩ := (foldlM_write_eq_ok_iff sized).mp outcome
    rw [ok_bind, ok_bind, cut, cut, List.foldlM_append, List.foldlM_append,
      pair (laid image before) rfl]

end exchange

/-! The image of a fixture. -/

section image

variable {f : Fixture} {image : Image} {w : FixtureWrite}

theorem image_eq_ok_iff (sized : f.size < addressLimit) : f.image = .ok image ↔
    (∀ w ∈ f.writes, w.Fits f.size) ∧ Image.mk f.size f.byteAt = image :=
  foldlM_write_eq_ok_iff sized

theorem made (sized : f.size < addressLimit) : f.Made f.image where
  succeeds := by
    constructor
    · rintro ⟨_, made⟩
      exact ((image_eq_ok_iff sized).mp made).1
    · exact fun fits => ⟨_, (image_eq_ok_iff sized).mpr ⟨fits, rfl⟩⟩
  bytes image made := by
    obtain ⟨_, rfl⟩ := (image_eq_ok_iff sized).mp made
    simp [Image.toBytes, Image.window]
  fails e := foldlM_write_eq_error_iff sized

theorem byteAt?_of_fits {size i : Nat} (fits : w.Fits size) (outside : size ≤ i) :
    w.byteAt? i = none := by
  obtain ⟨_, read, inside⟩ := fits
  exact FixtureWrite.byteAt?_of_past read (Nat.le_trans inside outside)

theorem byteAt_append (f : Fixture) (w : FixtureWrite) (i : Nat) :
    (f.append w).byteAt i = (w.byteAt? i).getD (f.byteAt i) := by
  simp only [byteAt, append, List.filterMap_append]
  cases covered : w.byteAt? i with
  | none => simp [covered]
  | some b => simp [covered]

theorem image_append (sized : f.size < addressLimit) (made : f.image = .ok image)
    (fits : w.Fits f.size) : ∃ after, (f.append w).image = .ok after ∧
      ∀ i, after.toBytes[i]? = (w.byteAt? i).or image.toBytes[i]? := by
  obtain ⟨all, rfl⟩ := (image_eq_ok_iff sized).mp made
  have kept : (f.append w).size < addressLimit := sized
  have more : ∀ u ∈ (f.append w).writes, u.Fits f.size := by
    simp only [append, List.forall_mem_append, List.forall_mem_singleton]
    exact ⟨all, fits⟩
  refine ⟨_, (image_eq_ok_iff kept).mpr ⟨more, rfl⟩, ?_⟩
  intro i
  simp only [Image.getElem?_toBytes, byteAt_append]
  by_cases inside : i < f.size
  · cases w.byteAt? i <;> simp [append, inside]
  · simp [append, inside, byteAt?_of_fits fits (Nat.not_lt.mp inside)]

/-- The order of two writes that share no place makes a difference only if both are refused, and then
to the error alone. -/
theorem image_exchange {before rest : List FixtureWrite} {u v : FixtureWrite}
    (sized : f.size < addressLimit) (order : f.writes = before ++ u :: v :: rest)
    (apart : u.Apart v) :
    (Fixture.mk f.size (before ++ v :: u :: rest)).image.toOption = f.image.toOption ∧
    (u.Fits f.size ∨ v.Fits f.size →
      (Fixture.mk f.size (before ++ v :: u :: rest)).image = f.image) := by
  have agree (fits : u.Fits f.size ∨ v.Fits f.size) :
      (Fixture.mk f.size (before ++ v :: u :: rest)).image = f.image := by
    rw [image, image, order]
    exact (foldlM_write_exchange sized apart fits before rest).symm
  refine ⟨?_, agree⟩
  by_cases fits : u.Fits f.size ∨ v.Fits f.size
  · rw [agree fits]
  · -- Without a write of the two that fits, there is no image in either order.
    have refused (g : Fixture) (size : g.size = f.size) (member : u ∈ g.writes) :
        g.image.toOption = none := by
      rw [← size] at sized fits
      cases outcome : g.image with
      | error e => rfl
      | ok j =>
        exact absurd (Or.inl (((image_eq_ok_iff sized).mp outcome).1 u member)) fits
    have left : f.image.toOption = none := refused f rfl (by rw [order]; simp)
    have right := refused ⟨f.size, before ++ v :: u :: rest⟩ rfl (by simp)
    rw [left, right]

end image

/-- A fixture is made to an image exactly if all its writes can be read and fit, and then each place
holds what the last write says that covers it. The first write that does not decides the error. One
more write changes only what it covers, and writes that share no place may be exchanged. -/
theorem writes_laid_in_order {f : Fixture} (sized : f.size < addressLimit) :
    (∀ source : FixtureSource, source.fixture = .ok f → source.load = f.image) ∧
    f.Made f.image ∧
    (∀ w : FixtureWrite, Hex.decode w.hex = .ok [] → (w.Fits f.size ↔ w.offset ≤ f.size)) ∧
    (∀ w image, f.image = .ok image → w.Fits f.size → ∃ after, (f.append w).image = .ok after ∧
      ∀ i, after.toBytes[i]? = (w.byteAt? i).or image.toBytes[i]?) ∧
    ∀ before u v rest, f.writes = before ++ u :: v :: rest → FixtureWrite.Apart u v →
      (Fixture.mk f.size (before ++ v :: u :: rest)).image.toOption = f.image.toOption ∧
      (u.Fits f.size ∨ v.Fits f.size →
        (Fixture.mk f.size (before ++ v :: u :: rest)).image = f.image) := by
  refine ⟨?_, made sized, ?_, ?_, ?_⟩
  · intro source read
    rw [FixtureSource.load, read, ok_bind]
  · intro w empty
    simp [FixtureWrite.Fits, empty]
  · exact fun w image => image_append sized
  · exact fun before u v rest => image_exchange sized

def sampleFixture : Fixture := ⟨6, [⟨1, "0102"⟩, ⟨2, "ff"⟩, ⟨4, "07"⟩]⟩

def sampleSource : FixtureSource := ⟨"sample", some sampleFixture.toJson.text⟩

theorem sampleSource_fixture : sampleSource.fixture = .ok sampleFixture := by
  have read : (Json.Reading.skimmed.parse sampleFixture.toJson.text).bind Fixture.ofJson? =
      some sampleFixture := by
    decide +kernel
  simp only [FixtureSource.fixture, sampleSource, read]

theorem sampleFixture_laid : sampleFixture.size < addressLimit ∧
    (∃ image, sampleSource.load = .ok image ∧ image.toBytes = [0, 1, 255, 0, 7, 0]) ∧
    (Fixture.mk 6 [⟨1, "0102"⟩, ⟨4, "07"⟩, ⟨2, "ff"⟩]).image = sampleFixture.image ∧
    (sampleFixture.append ⟨18446744073709551615, "00"⟩).image = .error .offsetOverflow := by
  have sized : sampleFixture.size < addressLimit := by decide
  obtain ⟨loads, laws, _, _, swap⟩ := writes_laid_in_order sized
  have first : FixtureWrite.Fits 6 ⟨1, "0102"⟩ := ⟨[1, 2], rfl, by decide⟩
  have covering : Hex.decode "ff" = .ok [255] := rfl
  have second : FixtureWrite.Fits 6 ⟨2, "ff"⟩ := ⟨[255], covering, by decide⟩
  have third : FixtureWrite.Fits 6 ⟨4, "07"⟩ := ⟨[7], rfl, by decide⟩
  have zero : Hex.decode "00" = .ok [0] := rfl
  have fits : ∀ w ∈ sampleFixture.writes, w.Fits 6 := by
    simp only [sampleFixture, List.forall_mem_cons, List.not_mem_nil, false_imp_iff,
      implies_true, and_true]
    exact ⟨first, second, third⟩
  refine ⟨sized, ?_, ?_, ?_⟩
  · obtain ⟨image, made⟩ := laws.succeeds.mpr fits
    refine ⟨image, (loads _ sampleSource_fixture).trans made, ?_⟩
    exact (laws.bytes image made).2.trans (by decide +kernel)
  · have apart : FixtureWrite.Apart ⟨2, "ff"⟩ ⟨4, "07"⟩ := .of_order covering (by decide)
    exact (swap [⟨1, "0102"⟩] _ _ [] rfl apart).2 (Or.inl second)
  · have longer : (sampleFixture.append ⟨18446744073709551615, "00"⟩).size < addressLimit := sized
    exact ((writes_laid_in_order longer).2.1.fails _).mpr
      ⟨sampleFixture.writes, _, [], rfl, fits, .overflow zero (by decide)⟩

end Fixture

end NxContainer
