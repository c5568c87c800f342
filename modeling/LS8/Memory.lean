import LS8.Fault

/-!
# Memory

Memory is a fixed number of byte cells, addressed from zero.  Reading and
writing beyond the last cell is a fault.

* `Memory.cell?` — the view: the byte at an address, if there is a cell;
* `Memory.read`, `Memory.write` — access with a fault outside of memory;
* `Memory.load?` — copy a program to the first cells.
-/

namespace LS8

structure Memory where
  cells : Array UInt8
  deriving DecidableEq, Repr

namespace Memory

def zeros (size : Nat) : Memory :=
  ⟨Array.replicate size 0⟩

def size (memory : Memory) : Nat :=
  memory.cells.size

/-- The byte at an address, if there is a cell. -/
def cell? (memory : Memory) (address : Nat) : Option UInt8 :=
  memory.cells[address]?

def read (memory : Memory) (address : Nat) : Except Fault UInt8 :=
  match memory.cell? address with
  | some value => .ok value
  | none => .error (.outsideMemory address)

def write (memory : Memory) (address : Nat) (value : UInt8) : Except Fault Memory :=
  if inRange : address < memory.cells.size then .ok ⟨memory.cells.set address value⟩
  else .error (.outsideMemory address)

/-- Memory after copying a program to its first cells, if the program fits. -/
def load? (memory : Memory) (program : List UInt8) : Option Memory :=
  if program.length ≤ memory.size then
    some ⟨program.toArray ++ memory.cells.extract program.length memory.cells.size⟩
  else none

/-! ## Reading -/

@[simp] theorem size_zeros (size : Nat) : (zeros size).size = size := by
  simp [zeros, Memory.size]

theorem cell?_zeros (size address : Nat) :
    (zeros size).cell? address = if address < size then some 0 else none := by
  simp [zeros, cell?, Array.getElem?_replicate]

theorem cell?_eq_none_iff {memory : Memory} {address : Nat} :
    memory.cell? address = none ↔ memory.size ≤ address := by
  simp [cell?, size]

/-- The view is all there is to memory. -/
theorem ext_cell? {memory other : Memory}
    (same : ∀ address, memory.cell? address = other.cell? address) : memory = other := by
  obtain ⟨cells⟩ := memory
  obtain ⟨others⟩ := other
  have equal : cells = others := Array.ext_getElem? same
  rw [equal]

theorem lt_size_of_cell? {memory : Memory} {address : Nat} {value : UInt8}
    (found : memory.cell? address = some value) : address < memory.size := by
  apply Nat.lt_of_not_le
  rw [← cell?_eq_none_iff, found]
  exact Option.some_ne_none value

theorem read_eq_ok_iff {memory : Memory} {address : Nat} {value : UInt8} :
    memory.read address = .ok value ↔ memory.cell? address = some value := by
  unfold read
  cases memory.cell? address <;> simp

theorem read_eq_error_iff {memory : Memory} {address : Nat} {fault : Fault} :
    memory.read address = .error fault ↔
      memory.size ≤ address ∧ fault = .outsideMemory address := by
  rw [← cell?_eq_none_iff]
  unfold read
  cases memory.cell? address <;> simp [eq_comm]

/-! ## Writing -/

theorem write_eq_error_iff {memory : Memory} {address : Nat} {value : UInt8} {fault : Fault} :
    memory.write address value = .error fault ↔
      memory.size ≤ address ∧ fault = .outsideMemory address := by
  unfold write size
  split
  · simp only [reduceCtorEq, false_iff]
    omega
  · simp only [Except.error.injEq, eq_comm, Nat.not_lt.mp ‹_›, true_and]

theorem exists_write {memory : Memory} {address : Nat} (value : UInt8)
    (inRange : address < memory.size) : ∃ written, memory.write address value = .ok written := by
  cases done : memory.write address value with
  | ok written => exact ⟨written, rfl⟩
  | error fault =>
    obtain ⟨outside, _⟩ := write_eq_error_iff.mp done
    omega

theorem lt_size_of_write {memory written : Memory} {address : Nat} {value : UInt8}
    (done : memory.write address value = .ok written) : address < memory.size := by
  apply Nat.lt_of_not_le
  intro outside
  rw [write_eq_error_iff.mpr ⟨outside, rfl⟩] at done
  cases done

theorem size_write {memory written : Memory} {address : Nat} {value : UInt8}
    (done : memory.write address value = .ok written) : written.size = memory.size := by
  unfold write at done
  split at done
  · obtain rfl := Except.ok.inj done
    simp [size]
  · cases done

/-- A write changes the cell at its address and no other. -/
theorem cell?_write {memory written : Memory} {address : Nat} {value : UInt8}
    (done : memory.write address value = .ok written) (query : Nat) :
    written.cell? query = if address = query then some value else memory.cell? query := by
  unfold write at done
  split at done
  · case isTrue inRange =>
    obtain rfl := Except.ok.inj done
    simp only [cell?, Array.getElem?_set]
  · cases done

/-! ## Loading -/

theorem load?_eq_none_iff {memory : Memory} {program : List UInt8} :
    memory.load? program = none ↔ memory.size < program.length := by
  simp [load?]

theorem size_load? {memory loaded : Memory} {program : List UInt8}
    (done : memory.load? program = some loaded) : loaded.size = memory.size := by
  unfold load? at done
  split at done
  · case isTrue fits =>
    obtain rfl := Option.some.inj done
    unfold size at fits ⊢
    simp only [Array.size_append, List.size_toArray, Array.size_extract]
    omega
  · cases done

/-- A loaded program fills the first cells and leaves the others as they were. -/
theorem cell?_load? {memory loaded : Memory} {program : List UInt8}
    (done : memory.load? program = some loaded) (address : Nat) :
    loaded.cell? address =
      if address < program.length then program[address]? else memory.cell? address := by
  unfold load? at done
  split at done
  · case isTrue fits =>
    obtain rfl := Option.some.inj done
    unfold size at fits
    unfold cell?
    by_cases inside : address < program.length
    · simp [inside, Array.getElem?_append]
    · simp only [Array.getElem?_append, List.size_toArray, inside, if_false,
        Array.getElem?_extract]
      split
      · congr 1
        omega
      · rw [eq_comm, Array.getElem?_eq_none_iff]
        omega
  · cases done

end Memory

end LS8
