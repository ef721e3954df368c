import DhcpRelay.Library.Bytes

/-!
# DhcpRelay.Library.ShortTlv

**Code-length-value items** with a code and a length of one byte each.

`next` and `walk` read what is there as a lenient reader does: a length is taken at its
word, and a value that is cut off is taken as far as it goes. An `Item` carries the proof
that its value fits its length byte, so a walk over items that were written visits these
and no others (`walk_writeAll`). Bytes that say how long they are (`SelfDelimiting`) are
found again in front of whatever follows them.
-/

namespace DhcpRelay.Library.ShortTlv

/-- One item. -/
structure Item where
  code : UInt8
  value : Bytes
  fits : value.length < 256

/-- The bytes of an item. -/
def Item.toBytes (item : Item) : Bytes :=
  item.code :: UInt8.ofNat item.value.length :: item.value

/-- The bytes of several items. -/
def writeAll (items : List Item) : Bytes := items.flatMap Item.toBytes

/-- The code and the value of the item at the head of `bytes`, and what follows it. -/
def next : Bytes → Option ((UInt8 × Bytes) × Bytes)
  | code :: len :: rest => some ((code, rest.take len.toNat), rest.drop len.toNat)
  | _ => none

/-- The codes and the values of the items, one after the other. -/
def walk : Bytes → List (UInt8 × Bytes)
  | code :: len :: rest => (code, rest.take len.toNat) :: walk (rest.drop len.toNat)
  | _ => []
termination_by bytes => bytes.length

/-- The second byte says how many bytes follow it. -/
def SelfDelimiting : Bytes → Prop
  | _ :: len :: value => len.toNat = value.length
  | _ => False

variable {code len : UInt8} {value rest bytes : Bytes}

@[simp] theorem walk_nil : walk [] = [] := by rw [walk.eq_def]

theorem walk_cons (code len : UInt8) (rest : Bytes) :
    walk (code :: len :: rest) = (code, rest.take len.toNat) :: walk (rest.drop len.toNat) := by
  rw [walk.eq_def]

/-- Where there is no header left the walk is over. -/
theorem walk_of_short (h : bytes.length < 2) : walk bytes = [] := by
  match bytes, h with
  | [], _ => exact walk_nil
  | [_], _ => rw [walk.eq_def]

/-- The first item that is visited is the one at the head. -/
theorem walk_of_next {item : UInt8 × Bytes} (h : next bytes = some (item, rest)) :
    walk bytes = item :: walk rest := by
  match bytes, h with
  | code :: len :: tail, h =>
      obtain ⟨rfl, rfl⟩ := Prod.mk.inj (Option.some.inj h)
      exact walk_cons code len tail

/-! ### Lengths that fit -/

/-- A length is written truly exactly if it fits into its byte. -/
theorem selfDelimiting_ofNat_iff :
    SelfDelimiting (code :: UInt8.ofNat value.length :: value) ↔ value.length < 256 := by
  show (UInt8.ofNat value.length).toNat = value.length ↔ value.length < 256
  rw [UInt8.toNat_ofNat']
  constructor
  · intro h
    omega
  · intro h
    exact Nat.mod_eq_of_lt h

/-- Bytes that say how long they are, with others behind them. -/
theorem SelfDelimiting.next_append (h : SelfDelimiting (code :: len :: value)) (rest : Bytes) :
    next (code :: len :: value ++ rest) = some ((code, value), rest) := by
  have hlen : len.toNat = value.length := h
  show some ((code, (value ++ rest).take len.toNat), (value ++ rest).drop len.toNat) = _
  rw [hlen, List.take_left, List.drop_left]

theorem Item.selfDelimiting (item : Item) : SelfDelimiting item.toBytes :=
  selfDelimiting_ofNat_iff.mpr item.fits

/-- One item is visited before the walk goes on. -/
theorem walk_toBytes (item : Item) (rest : Bytes) :
    walk (item.toBytes ++ rest) = (item.code, item.value) :: walk rest :=
  walk_of_next (item.selfDelimiting.next_append rest)

/-- **The walk keeps to the items**, whatever their values look like. -/
theorem walk_writeAll (items : List Item) :
    walk (writeAll items) = items.map fun item => (item.code, item.value) := by
  induction items with
  | nil => exact walk_nil
  | cons item items ih =>
      rw [writeAll, List.flatMap_cons, walk_toBytes, List.map_cons, ← ih, writeAll]

end DhcpRelay.Library.ShortTlv
