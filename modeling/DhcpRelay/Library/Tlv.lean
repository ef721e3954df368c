import DhcpRelay.Library.Bytes

/-!
# DhcpRelay.Library.Tlv

**Code-length-value items** with a two-byte code and a two-byte length, both
big-endian. An `Item` carries the proof that its value fits its length field, so
every item can be written and read back: reading finds what writing produces, whatever
follows it (`readItem_toBytes`), and nothing else (`eq_of_readItem`).

`Finds code bytes value` is what a scanner looks for: items with other codes,
then one with `code`, and anything at all behind it.
-/

namespace DhcpRelay.Library.Tlv

/-- One item. -/
structure Item where
  code : UInt16
  value : Bytes
  fits : value.length < 65536

/-- The bytes of an item. -/
def Item.toBytes (item : Item) : Bytes :=
  toBe16 item.code.toNat ++ toBe16 item.value.length ++ item.value

/-- The bytes of several items. -/
def writeAll (items : List Item) : Bytes := items.flatMap Item.toBytes

/-- The item at the head of `bytes`, if a complete one is there, and what follows it. -/
def readItem : Bytes → Option (Item × Bytes)
  | c :: c' :: l :: l' :: rest =>
    if be16 l l' ≤ rest.length then
      some (⟨UInt16.ofNat (be16 c c'), rest.take (be16 l l'),
        lt_of_le_of_lt (List.length_take_le _ _) (be16_lt l l')⟩, rest.drop (be16 l l'))
    else none
  | _ => none

variable {item : Item} {bytes rest value : Bytes} {code : UInt16}

@[simp] theorem length_toBytes (item : Item) :
    item.toBytes.length = 4 + item.value.length := by
  simp [Item.toBytes, Nat.add_comm, Nat.add_left_comm]

/-- What was written is read back. -/
theorem readItem_toBytes (item : Item) (rest : Bytes) :
    readItem (item.toBytes ++ rest) = some (item, rest) := by
  obtain ⟨code, value, fits⟩ := item
  have hcode : UInt16.ofNat (be16 (UInt8.ofNat (code.toNat / 256)) (UInt8.ofNat code.toNat))
      = code := by
    rw [be16_toBe16, Nat.mod_eq_of_lt code.toNat_lt, UInt16.ofNat_toNat]
  have hlen : be16 (UInt8.ofNat (value.length / 256)) (UInt8.ofNat value.length)
      = value.length := by
    rw [be16_toBe16, Nat.mod_eq_of_lt fits]
  simp only [Item.toBytes, toBe16, List.cons_append, List.nil_append, readItem, hcode, hlen]
  simp

/-- What is read was written. -/
theorem eq_of_readItem (h : readItem bytes = some (item, rest)) :
    bytes = item.toBytes ++ rest := by
  match bytes, h with
  | c :: c' :: l :: l' :: tail, h =>
      rw [readItem] at h
      split at h
      · next hfits =>
          obtain ⟨rfl, rfl⟩ := Prod.mk.inj (Option.some.inj h)
          have hcode : toBe16 (UInt16.ofNat (be16 c c')).toNat = [c, c'] := by
            rw [UInt16.toNat_ofNat', Nat.mod_eq_of_lt (be16_lt c c'), toBe16_be16]
          have hlen : (tail.take (be16 l l')).length = be16 l l' := by
            rw [List.length_take, Nat.min_eq_left hfits]
          simp only [Item.toBytes, hcode, hlen, toBe16_be16, List.append_assoc,
            List.take_append_drop]
          rfl
      · simp at h

/-- The items behind the first one. -/
theorem writeAll_eq_cons {items : List Item} (h : writeAll items = item.toBytes ++ rest) :
    ∃ items', items = item :: items' ∧ writeAll items' = rest := by
  cases items with
  | nil =>
      have hlength := congrArg List.length h
      rw [List.length_append, length_toBytes] at hlength
      simp only [writeAll, List.flatMap_nil, List.length_nil] at hlength
      omega
  | cons first items' =>
      have hread := readItem_toBytes first (writeAll items')
      rw [writeAll, List.flatMap_cons] at h
      rw [show first.toBytes ++ writeAll items' = item.toBytes ++ rest from h,
        readItem_toBytes] at hread
      obtain ⟨rfl, rfl⟩ := Prod.mk.inj (Option.some.inj hread)
      exact ⟨items', rfl, rfl⟩

/-! ### The first item with a code -/

/-- `bytes` are items with other codes and then one with `code`, whose value is
`value`. -/
inductive Finds (code : UInt16) : Bytes → Bytes → Prop
  | here (item : Item) (rest : Bytes) (hcode : item.code = code) :
      Finds code (item.toBytes ++ rest) item.value
  | there (item : Item) {rest value : Bytes} (hcode : item.code ≠ code)
      (hrest : Finds code rest value) : Finds code (item.toBytes ++ rest) value

/-- One item is read before the search goes on. -/
theorem Finds.cons_iff :
    Finds code (item.toBytes ++ rest) value ↔
      if item.code = code then item.value = value else Finds code rest value := by
  constructor
  · generalize hbytes : item.toBytes ++ rest = bytes
    intro h
    cases h with
    | here item' rest' hcode =>
        have hread := readItem_toBytes item' rest'
        rw [← hbytes, readItem_toBytes] at hread
        obtain ⟨rfl, -⟩ := Prod.mk.inj (Option.some.inj hread)
        rw [if_pos hcode]
    | @there item' rest' value' hcode hrest =>
        have hread := readItem_toBytes item' rest'
        rw [← hbytes, readItem_toBytes] at hread
        obtain ⟨rfl, rfl⟩ := Prod.mk.inj (Option.some.inj hread)
        rw [if_neg hcode]
        exact hrest
  · intro h
    split at h
    · next hcode =>
        obtain rfl := h
        exact .here item rest hcode
    · next hcode => exact .there item hcode h

/-- Where no item can be read, nothing is found. -/
theorem Finds.not_of_readItem (h : readItem bytes = none) : ¬ Finds code bytes value := by
  intro hfinds
  cases hfinds with
  | here item rest _ =>
      rw [readItem_toBytes] at h
      simp at h
  | there item _ _ =>
      rw [readItem_toBytes] at h
      simp at h

/-- A value is found at the end of a list of items with other codes. -/
theorem finds_writeAll {before : List Item} (hbefore : ∀ other ∈ before, other.code ≠ code)
    (hcode : item.code = code) (rest : Bytes) :
    Finds code (writeAll before ++ (item.toBytes ++ rest)) item.value := by
  induction before with
  | nil => exact .here item rest hcode
  | cons other before ih =>
      have hother : other.code ≠ code := hbefore other List.mem_cons_self
      rw [writeAll, List.flatMap_cons, List.append_assoc]
      exact .there other hother (ih fun o ho => hbefore o (List.mem_cons_of_mem other ho))

/-- **What a scanner finds**: the value of the first item with the code. -/
theorem finds_iff :
    Finds code bytes value ↔
      ∃ (before : List Item) (item : Item) (rest : Bytes),
        bytes = writeAll before ++ (item.toBytes ++ rest) ∧ (∀ other ∈ before, other.code ≠ code)
          ∧ item.code = code ∧ item.value = value := by
  constructor
  · intro h
    induction h with
    | here item rest hcode => exact ⟨[], item, rest, rfl, by simp, hcode, rfl⟩
    | there other hother _ ih =>
        obtain ⟨before, item, rest, rfl, hbefore, hcode, hvalue⟩ := ih
        refine ⟨other :: before, item, rest, ?_, ?_, hcode, hvalue⟩
        · simp [writeAll]
        · exact List.forall_mem_cons.mpr ⟨hother, hbefore⟩
  · rintro ⟨before, item, rest, rfl, hbefore, hcode, rfl⟩
    exact finds_writeAll hbefore hcode rest

/-- The value found lies within the bytes, behind a header. -/
theorem Finds.length_le (h : Finds code bytes value) : value.length + 4 ≤ bytes.length := by
  induction h with
  | here item rest _ =>
      rw [List.length_append, length_toBytes]
      omega
  | there item _ _ ih =>
      rw [List.length_append]
      omega

end DhcpRelay.Library.Tlv
