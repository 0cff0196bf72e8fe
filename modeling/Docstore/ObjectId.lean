import Docstore.Text.Numeral

/-!
# `Docstore.ObjectId` — document identifiers

An identifier is 96 bits, written as 24 hexadecimal digits. Identifiers are ordered as numbers, which
is the order of their bytes. `IdSupply` hands out fresh ones in ascending order.
-/

namespace Docstore

/-- A 96-bit identifier. -/
structure ObjectId where
  bits : BitVec 96
deriving DecidableEq, Hashable, Inhabited, Repr

namespace ObjectId

/-- The identifier of a number below `2⁹⁶`. -/
def ofNat (n : Nat) : ObjectId := ⟨BitVec.ofNat 96 n⟩

/-- The identifier as a number. -/
def toNat (id : ObjectId) : Nat := id.bits.toNat

/-- The 24 digits of an identifier, in lower case. -/
def hex (id : ObjectId) : String := String.ofList (Text.hexDigits 24 id.toNat)

/-- Reads 24 hexadecimal digits of either case. -/
def ofHex? (s : String) : Option ObjectId :=
  let digits := s.toList
  if digits.length = 24 then (Text.readDigits Text.hexDigit? 16 0 digits).map ofNat else none

instance : Ord ObjectId := ⟨fun a b => compare a.toNat b.toNat⟩

end ObjectId

/-! ## Fresh identifiers -/

/-- A supply of identifiers: the one that is handed out next. -/
structure IdSupply where
  next : ObjectId
deriving Inhabited, Repr

namespace IdSupply

/-- Takes the next identifier. -/
def take (supply : IdSupply) : ObjectId × IdSupply :=
  (supply.next, ⟨⟨supply.next.bits + 1⟩⟩)

end IdSupply
end Docstore
