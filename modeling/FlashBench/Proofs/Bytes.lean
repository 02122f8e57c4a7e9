import FlashBench.Memory

/-!
# Memory as a function of the address

Byte arrays seen as what stands at each address. `Memory.dump` takes the bytes of a stretch of
addresses out of such a function, `Memory.loaded` lays an array out from an address on, and the
operations on memory become operations on functions.

* **Writing** (`overwrite_dump`): bytes written into a dump change exactly the addresses they are
  written to (`patch`).
* **Programming** (`programmed_dump`) and **erasing** (`filled_eq_dump`) act address by address.
* **Pages add up** (`patch_patch`): programming two stretches that follow each other is programming
  both at once.
-/

namespace FlashBench.Memory

variable {bytes new : Nat → UInt8} {first len size offset : Nat}

/-- The bytes at the `len` addresses from `first` on. -/
def dump (bytes : Nat → UInt8) (first len : Nat) : ByteArray :=
  ((List.range' first len).map bytes).toByteArray

/-- What stands at an address when `content` is laid out from `first` on; zero outside. -/
def loaded (content : ByteArray) (first address : Nat) : UInt8 :=
  (content.data[address - first]?).getD 0

/-- `bytes` with `new` at the `len` addresses from `first` on. -/
def patch (bytes : Nat → UInt8) (first len : Nat) (new : Nat → UInt8) (address : Nat) : UInt8 :=
  if first ≤ address ∧ address < first + len then new address else bytes address

/-- What stands at an address when `data` was programmed over `old`. -/
def programmedOver (erased : UInt8) (old data : Nat → UInt8) (address : Nat) : UInt8 :=
  programmedByte erased (old address) (data address)

@[simp]
theorem size_dump : (dump bytes first len).size = len := by
  simp [dump]

theorem toList_data_dump : (dump bytes first len).data.toList = (List.range' first len).map bytes := by
  simp [dump]

theorem getElem_dump {i : Nat} (h : i < (dump bytes first len).size) :
    (dump bytes first len)[i] = bytes (first + i) := by
  simp [dump]

theorem dump_congr (h : ∀ address, first ≤ address → address < first + len →
    bytes address = new address) : dump bytes first len = dump new first len := by
  unfold dump
  congr 1
  apply List.map_congr_left
  intro address hmem
  obtain ⟨hfirst, hlast⟩ := List.mem_range'_1.mp hmem
  exact h address hfirst hlast

theorem dump_append (bytes : Nat → UInt8) (first front back : Nat) :
    dump bytes first front ++ dump bytes (first + front) back = dump bytes first (front + back) := by
  unfold dump
  rw [← List.toByteArray_append, ← List.map_append, List.range'_append_1]

/-- Laying out an array and taking it back changes nothing. -/
theorem dump_loaded (content : ByteArray) (first : Nat) :
    dump (loaded content first) first content.size = content := by
  apply ByteArray.ext_getElem size_dump
  intro i hi hi'
  rw [getElem_dump, loaded, Nat.add_sub_cancel_left, Array.getElem?_eq_getElem hi']
  rfl

theorem loaded_eq_getElem {content : ByteArray} {address : Nat}
    (h : address - first < content.size) :
    loaded content first address = content[address - first] := by
  unfold loaded
  rw [Array.getElem?_eq_getElem h]
  rfl

theorem loaded_dump {address : Nat} (hfirst : first ≤ address) (hlast : address < first + len) :
    loaded (dump bytes first len) first address = bytes address := by
  have hin : address - first < (dump bytes first len).size := by
    rw [size_dump]
    omega
  rw [loaded_eq_getElem hin, getElem_dump, Nat.add_sub_cancel' hfirst]

theorem extract_dump (h : offset + len ≤ size) :
    (dump bytes first size).extract offset (offset + len) = dump bytes (first + offset) len := by
  apply ByteArray.ext_getElem
  · rw [ByteArray.size_extract, size_dump, size_dump]
    omega
  · intro i hi hi'
    rw [ByteArray.getElem_extract, getElem_dump, getElem_dump, Nat.add_assoc]

/-- A part of an array, laid out where it stands in the array. -/
theorem loaded_extract {content : ByteArray} {address : Nat} (h : offset + len ≤ content.size)
    (hfirst : first + offset ≤ address) (hlast : address < first + offset + len) :
    loaded (content.extract offset (offset + len)) (first + offset) address =
      loaded content first address := by
  have hpart : content.extract offset (offset + len) =
      dump (loaded content first) (first + offset) len := by
    rw [← extract_dump h, dump_loaded]
  rw [hpart, loaded_dump hfirst hlast]

/-- A whole array cut at its size is the array. -/
theorem extract_size (content : ByteArray) (h : content.size ≤ size) :
    content.extract 0 size = content := by
  have hmax : size = max size content.size := (Nat.max_eq_left h).symm
  rw [hmax]
  exact ByteArray.extract_zero_max_size

theorem overwrite_eq_append (content new : ByteArray) (offset : Nat) :
    overwrite content offset new =
      content.extract 0 offset ++ new ++ content.extract (offset + new.size) content.size := by
  unfold overwrite
  rw [ByteArray.copySlice_eq_append, Nat.zero_add, ByteArray.extract_zero_size]
  simp

theorem size_overwrite {content new : ByteArray} (h : offset + new.size ≤ content.size) :
    (overwrite content offset new).size = content.size := by
  rw [overwrite_eq_append]
  simp only [ByteArray.size_append, ByteArray.size_extract]
  omega

/-- Different bytes leave different arrays. -/
theorem overwrite_inj {content new other : ByteArray} (h : new.size = other.size) :
    overwrite content offset new = overwrite content offset other ↔ new = other := by
  rw [overwrite_eq_append, overwrite_eq_append, h, ByteArray.append_left_inj,
    ByteArray.append_right_inj]

/-- Writing over all of an array leaves what was written. -/
theorem overwrite_all {content new : ByteArray} (h : new.size = content.size) :
    overwrite content 0 new = new := by
  rw [overwrite_eq_append, Nat.zero_add, h, ByteArray.extract_same, ByteArray.extract_same,
    ByteArray.empty_append, ByteArray.append_empty]

theorem patch_inside {address : Nat} (h : first ≤ address ∧ address < first + len) :
    patch bytes first len new address = new address := if_pos h

theorem patch_outside {address : Nat} (h : ¬ (first ≤ address ∧ address < first + len)) :
    patch bytes first len new address = bytes address := if_neg h

/-- Bytes written over a part of their own size replace that part. -/
theorem overwrite_middle (front middle back new : ByteArray) (h : new.size = middle.size) :
    overwrite (front ++ middle ++ back) front.size new = front ++ new ++ back := by
  have hfront : (front ++ middle ++ back).extract 0 front.size = front := by
    rw [ByteArray.append_assoc]
    exact ByteArray.extract_append_eq_left rfl
  have hback : (front ++ middle ++ back).extract (front.size + new.size)
      (front ++ middle ++ back).size = back := by
    apply ByteArray.extract_append_eq_right
    · rw [ByteArray.size_append, h]
    · rw [ByteArray.size_append]
  rw [overwrite_eq_append, hfront, hback]

/-- An array in three parts, around a stretch inside it. -/
theorem extract_split (content : ByteArray) (h : offset + len ≤ content.size) :
    content = content.extract 0 offset ++ content.extract offset (offset + len) ++
      content.extract (offset + len) content.size := by
  rw [ByteArray.extract_append_extract, Nat.zero_min, Nat.max_eq_right (Nat.le_add_right offset len),
    ByteArray.extract_append_extract, Nat.zero_min, Nat.max_eq_right h, ByteArray.extract_zero_size]

/-- A write that ends in the first of two arrays leaves the second one alone. -/
theorem overwrite_append {content new : ByteArray} (rest : ByteArray)
    (h : offset + new.size ≤ content.size) :
    overwrite (content ++ rest) offset new = overwrite content offset new ++ rest := by
  have hoffset : (content.extract 0 offset).size = offset := by
    rw [ByteArray.size_extract]
    omega
  have hsize : new.size = (content.extract offset (offset + new.size)).size := by
    rw [ByteArray.size_extract]
    omega
  have hwritten := overwrite_middle (content.extract 0 offset)
    (content.extract offset (offset + new.size))
    (content.extract (offset + new.size) content.size ++ rest) new hsize
  rw [hoffset, ← ByteArray.append_assoc, ← extract_split content h] at hwritten
  rw [hwritten, overwrite_eq_append, ← ByteArray.append_assoc]

/-- A dump in three parts, around a stretch inside it. -/
theorem dump_split (bytes : Nat → UInt8) (first : Nat) (h : offset + len ≤ size) :
    dump bytes first size =
      dump bytes first offset ++ dump bytes (first + offset) len ++
        dump bytes (first + offset + len) (size - (offset + len)) := by
  rw [dump_append, Nat.add_assoc first offset len, dump_append, Nat.add_sub_cancel' h]

theorem patch_zero (bytes new : Nat → UInt8) (first : Nat) : patch bytes first 0 new = bytes := by
  funext address
  exact patch_outside (by omega)

/-- **A write changes the addresses it is for, and no other.** -/
theorem overwrite_dump (h : offset + len ≤ size) :
    overwrite (dump bytes first size) offset (dump new (first + offset) len) =
      dump (patch bytes (first + offset) len new) first size := by
  have hfront : dump (patch bytes (first + offset) len new) first offset =
      dump bytes first offset :=
    dump_congr fun address _ hlast => patch_outside (by omega)
  have hmiddle : dump (patch bytes (first + offset) len new) (first + offset) len =
      dump new (first + offset) len :=
    dump_congr fun address hfirst hlast => patch_inside ⟨hfirst, hlast⟩
  have hback : dump (patch bytes (first + offset) len new) (first + offset + len)
      (size - (offset + len)) = dump bytes (first + offset + len) (size - (offset + len)) :=
    dump_congr fun address hfirst _ => patch_outside (by omega)
  rw [dump_split bytes first h, dump_split (patch bytes (first + offset) len new) first h, hfront,
    hmiddle, hback]
  have hwritten := overwrite_middle (dump bytes first offset) (dump bytes (first + offset) len)
    (dump bytes (first + offset + len) (size - (offset + len))) (dump new (first + offset) len)
    (by rw [size_dump, size_dump])
  rwa [size_dump] at hwritten

theorem appendFill_eq_append (value : UInt8) (n : Nat) (content : ByteArray) :
    appendFill value n content = content ++ (List.replicate n value).toByteArray := by
  induction n generalizing content with
  | zero => simp [appendFill]
  | succ n ih =>
      rw [appendFill, ih, List.replicate_succ, ← ByteArray.append_toByteArray_singleton,
        ByteArray.append_assoc, ← List.toByteArray_append, List.singleton_append]

/-- Filled memory holds one value at every address. -/
theorem filled_eq_dump (n : Nat) (value : UInt8) (first : Nat) :
    filled n value = dump (fun _ => value) first n := by
  have hempty : ByteArray.emptyWithCapacity n = ByteArray.empty := rfl
  rw [filled, appendFill_eq_append, hempty, ByteArray.empty_append, dump, List.map_const',
    List.length_range']

theorem size_filled (n : Nat) (value : UInt8) : (filled n value).size = n := by
  rw [filled_eq_dump n value 0, size_dump]

theorem appendProgrammed_map (erased : UInt8) (old data : Nat → UInt8) (addresses : List Nat)
    (content : ByteArray) :
    appendProgrammed erased (addresses.map old) (addresses.map data) content =
      content ++ (addresses.map (programmedOver erased old data)).toByteArray := by
  induction addresses generalizing content with
  | nil => simp [appendProgrammed]
  | cons address rest ih =>
      simp only [List.map_cons, appendProgrammed]
      rw [ih, ← ByteArray.append_toByteArray_singleton, ByteArray.append_assoc,
        ← List.toByteArray_append, List.singleton_append]
      rfl

/-- Programming acts on each address by itself. -/
theorem programmed_dump (erased : UInt8) (old data : Nat → UInt8) (first len : Nat) :
    programmed erased (dump old first len) (dump data first len) =
      dump (programmedOver erased old data) first len := by
  have hempty : ByteArray.emptyWithCapacity (dump old first len).size = ByteArray.empty := rfl
  rw [programmed, toList_data_dump, toList_data_dump, appendProgrammed_map, hempty,
    ByteArray.empty_append, dump]

/-- An erased cell takes the data as it is. -/
theorem programmedByte_erased (erased data : UInt8) : programmedByte erased erased data = data := by
  unfold programmedByte
  rw [UInt8.xor_self, UInt8.zero_or, ← UInt8.xor_assoc, UInt8.xor_self, UInt8.zero_xor]

/-- A stretch programmed with one value. -/
theorem patch_filled (erased value : UInt8) (bytes : Nat → UInt8) (first len : Nat) :
    patch bytes first len (programmedOver erased bytes (loaded (filled len value) first)) =
      patch bytes first len fun address => programmedByte erased (bytes address) value := by
  funext address
  by_cases hin : first ≤ address ∧ address < first + len
  · rw [patch_inside hin, patch_inside hin, programmedOver, filled_eq_dump len value first,
      loaded_dump hin.1 hin.2]
  · rw [patch_outside hin, patch_outside hin]

/-- Two stretches that follow each other, the second one programmed after the first. -/
theorem patch_patch (erased : UInt8) (bytes data : Nat → UInt8) (first front back : Nat) :
    patch (patch bytes first front (programmedOver erased bytes data)) (first + front) back
        (programmedOver erased (patch bytes first front (programmedOver erased bytes data)) data) =
      patch bytes first (front + back) (programmedOver erased bytes data) := by
  funext address
  by_cases hback : first + front ≤ address ∧ address < first + front + back
  · rw [patch_inside hback, patch_inside (by omega)]
    unfold programmedOver
    rw [patch_outside (by omega)]
  · rw [patch_outside hback]
    by_cases hfront : first ≤ address ∧ address < first + front
    · rw [patch_inside hfront, patch_inside (by omega)]
    · rw [patch_outside hfront, patch_outside (by omega)]

end FlashBench.Memory
