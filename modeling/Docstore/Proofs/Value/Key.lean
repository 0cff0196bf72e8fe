import Docstore.Proofs.Value.Facing
import Docstore.Value.Key
import Mathlib.Data.List.Basic
import Std.Data.String.ToNat

/-!
# `Docstore.Proofs.Value.Key` — how far keys agree with equality

Two values should have the same key exactly if they compare as equal. Both relations go through documents
and arrays part by part, so it is scalars that decide, and they decide differently in two ways. Null and
undefined, the two zeros, and all not-a-numbers share a key without being equal (`Blurred`). A 64-bit
integer that is no double equals the double it is rounded to and has another key (`Rounded`).

## Contents
- **Classes of keys.** `ValueKey.typeClass_of`: a key tells the class of its values.
- **Keys of doubles.** `ofDouble_eq_int_iff`, `ofDouble_eq_iff`.
- **Two ways to disagree.** `Blurred`, and `Torn` for `Rounded` in either order.
- **Keys of numbers, keys of scalars.** `Explained.of_isScalar`: there are no other ways.
- **All values.** `structural_sameKey` and `structural_equals`.
- **The exact condition.** `sameKey_iff_equals_iff`.
-/

namespace Docstore

/-! ## Classes of keys -/

namespace ValueKey

/-- The class that a debugging text begins with. Only the classes whose values go by their debugging text
are told apart. -/
def classOfText : List Char → TypeClass
  | 'B' :: _ => .binary
  | 'T' :: _ => .timestamp
  | 'R' :: _ => .regex
  | 'M' :: 'i' :: _ => .minKey
  | 'M' :: 'a' :: _ => .maxKey
  | _ => .other

/-- The class of the values that have a key. -/
def typeClass : ValueKey → TypeClass
  | null => .null
  | int _ | float _ => .number
  | text _ => .string
  | bool _ => .boolean
  | objectId _ => .objectId
  | dateTime _ => .dateTime
  | array _ => .array
  | document _ => .document
  | other debug => classOfText debug.toList

theorem typeClass_ofDouble (x : Double) : (ofDouble x).typeClass = .number := by
  unfold ofDouble
  split
  · rfl
  · split <;> rfl

/-- **A key tells the class of its values.** -/
theorem typeClass_of (value : Value) : (of value).typeClass = value.typeClass := by
  cases value with
  | double x => exact typeClass_ofDouble x
  | decimal d => exact typeClass_ofDouble d.toDouble
  | binary | timestamp | regex | code | scopedCode | reference =>
      unfold of typeClass Value.debug
      simp only [String.toList_append, String.reduceToList, List.cons_append]
      rfl
  | minKey | maxKey =>
      unfold of typeClass Value.debug
      simp only [String.reduceToList]
      rfl
  | _ => rfl

end ValueKey

/-! ## Debugging text of timestamps -/

/-- A number is known by its decimal digits. -/
theorem toDigits_injective {m n : Nat} (h : Nat.toDigits 10 m = Nat.toDigits 10 n) : m = n := by
  rw [← Nat.ofDigitChars_ten_toDigits (n := m), h, Nat.ofDigitChars_ten_toDigits]

theorem comma_notMem_toDigits (n : Nat) : ',' ∉ Nat.toDigits 10 n := by
  intro h
  exact absurd (Nat.isDigit_of_mem_toDigits (by decide) (by decide) h) (by decide)

/-- The debugging text of a timestamp tells both of its parts. -/
theorem Value.debug_timestamp_inj {time time' increment increment' : UInt32}
    (h : (timestamp time increment).debug = (timestamp time' increment').debug) :
    time = time' ∧ increment = increment' := by
  unfold debug at h
  have hlist := congrArg String.toList h
  have hcomma : ", increment: ".toList = ',' :: " increment: ".toList := rfl
  simp only [String.toList_append, Nat.toString_eq_repr, Nat.toList_repr, List.append_assoc, hcomma,
    List.cons_append] at hlist
  have htail : ',' ∉ " increment: ".toList ++ (Nat.toDigits 10 increment.toNat ++ " \x7d".toList) := by
    simp [comma_notMem_toDigits]
  obtain ⟨htime, -, hrest⟩ := (List.append_cons_inj_of_notMem (comma_notMem_toDigits _) htail).mp
    (List.append_cancel_left hlist)
  have hincrement := List.append_cancel_right (List.append_cancel_left hrest)
  exact ⟨UInt32.toNat_inj.mp (toDigits_injective htime),
    UInt32.toNat_inj.mp (toDigits_injective hincrement)⟩

/-! ## Keys of doubles -/

namespace ValueKey

/-- **The doubles with the key of an integer** are those that are exactly that integer. -/
theorem ofDouble_eq_int_iff {x : Double} {n : Int64} : ofDouble x = int n ↔ x.IsExactly n.toInt := by
  rw [Double.isExactly_iff]
  unfold ofDouble
  constructor
  · intro h
    split at h
    · next hin =>
        simp only [Bool.and_eq_true, decide_eq_true_eq] at hin
        obtain ⟨⟨hwhole, hlow⟩, hhigh⟩ := hin
        obtain rfl := int.inj h
        exact ⟨hwhole, (Double.toInt_toInt64 hwhole hlow hhigh).symm⟩
    · split at h
      · exact (nomatch h)
      · exact (nomatch h)
  · rintro ⟨hwhole, hcut⟩
    have hlow : Double.int64Low ≤ x.truncate := hcut ▸ n.le_toInt
    have hhigh : x.truncate ≤ Double.int64High := hcut ▸ n.toInt_le
    rw [if_pos (by simp only [hwhole, hlow, hhigh, decide_true, Bool.and_true])]
    refine congrArg int (Int64.toInt_inj.mp ?_)
    rw [Double.toInt_toInt64 hwhole hlow hhigh, hcut]

/-- The key of a double is an integer, the key of all not-a-numbers, or the double itself. -/
theorem ofDouble_cases (x : Double) :
    (∃ n, ofDouble x = int n) ∨ (x.isNaN = true ∧ ofDouble x = float .nan) ∨
      (x.isNaN = false ∧ ofDouble x = float x) := by
  unfold ofDouble
  split
  · exact .inl ⟨_, rfl⟩
  · split
    · next hnan => exact .inr (.inl ⟨hnan, rfl⟩)
    · next hnan => exact .inr (.inr ⟨by simpa using hnan, rfl⟩)

/-- All doubles that are not a number have one key. -/
theorem ofDouble_of_isNaN {x : Double} (h : x.isNaN = true) : ofDouble x = float .nan := by
  rcases ofDouble_cases x with ⟨n, hx⟩ | ⟨-, hx⟩ | ⟨hnot, -⟩
  · exact absurd (ofDouble_eq_int_iff.mp hx) (Double.not_isExactly_of_isNaN h _)
  · exact hx
  · exact absurd h (by rw [hnot]; simp)

/-- **Doubles with the same key** are the same, two zeros, or two not-a-numbers. -/
theorem ofDouble_eq_iff {x y : Double} : ofDouble x = ofDouble y ↔
    x = y ∨ (x.isZero = true ∧ y.isZero = true) ∨ (x.isNaN = true ∧ y.isNaN = true) := by
  constructor
  · intro h
    rcases ofDouble_cases x with ⟨n, hx⟩ | ⟨hnanx, hx⟩ | ⟨hnanx, hx⟩
    · have hy := h.symm.trans hx
      rcases (ofDouble_eq_int_iff.mp hx).eq_or_isZero (ofDouble_eq_int_iff.mp hy) with heq | hzero
      · exact .inl heq
      · exact .inr (.inl hzero)
    · rcases ofDouble_cases y with ⟨n, hy⟩ | ⟨hnany, -⟩ | ⟨hnany, hy⟩
      · rw [hx, hy] at h; exact (nomatch h)
      · exact .inr (.inr ⟨hnanx, hnany⟩)
      · -- a number would be its own key, and that is the one of all not-a-numbers
        rw [hx, hy] at h
        rw [← float.inj h] at hnany
        exact absurd hnany (by decide)
    · rcases ofDouble_cases y with ⟨n, hy⟩ | ⟨hnany, hy⟩ | ⟨hnany, hy⟩
      · rw [hx, hy] at h; exact (nomatch h)
      · rw [hx, hy] at h
        rw [float.inj h] at hnanx
        exact absurd hnanx (by decide)
      · rw [hx, hy] at h
        exact .inl (float.inj h)
  · rintro (rfl | ⟨hx, hy⟩ | ⟨hx, hy⟩)
    · rfl
    · have hzero : ∀ z : Double, z.isZero = true → ofDouble z = int 0 := fun z hz =>
        ofDouble_eq_int_iff.mpr (Double.isExactly_zero_iff.mpr hz)
      rw [hzero x hx, hzero y hy]
    · rw [ofDouble_of_isNaN hx, ofDouble_of_isNaN hy]

end ValueKey

/-! ## Two ways to disagree -/

namespace Value

/-- Do two values have the same key? -/
def SameKey (a b : Value) : Prop := ValueKey.of a = ValueKey.of b

/-- Null facing undefined, or two different numbers that are both zero or both not-a-number. -/
def Blurred (x y : Value) : Prop :=
  (x = null ∧ y = undefined) ∨ (x = undefined ∧ y = null) ∨
  ∃ d e, x.toDouble? = some d ∧ y.toDouble? = some e ∧ d ≠ e ∧
    ((d.isZero = true ∧ e.isZero = true) ∨ (d.isNaN = true ∧ e.isNaN = true))

/-- An integer that is no double, and the number that it is rounded to. -/
def Rounded (x y : Value) : Prop :=
  ∃ n : Int64, x.integer? = some n ∧ y.integer? = none ∧
    y.toDouble? = some (Double.ofInt n.toInt) ∧ ¬(Double.ofInt n.toInt).IsExactly n.toInt

/-- An integer that is no double and the number that it is rounded to, in either order. -/
def Torn (x y : Value) : Prop := Rounded x y ∨ Rounded y x

/-- Values are equal exactly if neither is ordered before the other. -/
theorem equals_iff {a b : Value} : a.equals b = true ↔ order a b = .eq := by
  unfold equals
  exact beq_iff_eq

theorem equals_comm {a b : Value} : a.equals b = true ↔ b.equals a = true := by
  rw [equals_iff, equals_iff, ← order_swap a b, Ordering.swap_eq_eq]

theorem sameKey_comm {a b : Value} : SameKey a b ↔ SameKey b a := eq_comm

theorem blurred_comm {a b : Value} : Blurred a b ↔ Blurred b a := by
  have hsymm : ∀ {x y}, Blurred x y → Blurred y x := by
    rintro x y (h | h | ⟨d, e, hd, he, hne, h⟩)
    · exact .inr (.inl h.symm)
    · exact .inl h.symm
    · exact .inr (.inr ⟨e, d, he, hd, hne.symm, h.imp And.symm And.symm⟩)
  exact ⟨hsymm, hsymm⟩

theorem torn_comm {a b : Value} : Torn a b ↔ Torn b a := or_comm

theorem blurred_of_toDouble? {a b : Value} {d e : Double} (ha : a.toDouble? = some d)
    (hb : b.toDouble? = some e) : Blurred a b ↔
      d ≠ e ∧ ((d.isZero = true ∧ e.isZero = true) ∨ (d.isNaN = true ∧ e.isNaN = true)) := by
  constructor
  · rintro (⟨rfl, -⟩ | ⟨rfl, -⟩ | ⟨d', e', hd, he, h⟩)
    · exact (nomatch ha)
    · exact (nomatch ha)
    · rw [ha] at hd
      rw [hb] at he
      rwa [Option.some.inj hd, Option.some.inj he]
  · exact fun h => .inr (.inr ⟨d, e, ha, hb, h⟩)

/-! ## Keys of numbers -/

theorem of_of_integer? {value : Value} {n : Int64} (h : value.integer? = some n) :
    ValueKey.of value = .int n := by
  cases value with
  | int32 | int64 => exact congrArg ValueKey.int (Option.some.inj h)
  | _ => exact (nomatch h)

/-- The key of a number that is no integer is that of its double. -/
theorem of_of_toDouble? {value : Value} {d : Double} (hinteger : value.integer? = none)
    (h : value.toDouble? = some d) : ValueKey.of value = ValueKey.ofDouble d := by
  cases value with
  | int32 | int64 => exact (nomatch hinteger)
  | double | decimal => exact congrArg ValueKey.ofDouble (Option.some.inj h)
  | _ => exact (nomatch h)

/-- Integers are equal exactly if they are the same number. -/
theorem equals_of_integers {a b : Value} {m n : Int64} (ha : a.integer? = some m)
    (hb : b.integer? = some n) : a.equals b = true ↔ m = n := by
  rw [equals_iff, order_of_numbers (typeClass_of_toDouble? (toDouble?_of_integer? ha))
    (typeClass_of_toDouble? (toDouble?_of_integer? hb))]
  unfold compareNumbers
  rw [ha, hb]
  show compare m.toInt n.toInt = .eq ↔ m = n
  rw [Int.compare_eq_eq, Int64.toInt_inj]

/-- Numbers that are not both integers are equal exactly if their doubles are the same. -/
theorem equals_of_doubles {a b : Value} {d e : Double} (h : a.integer? = none ∨ b.integer? = none)
    (ha : a.toDouble? = some d) (hb : b.toDouble? = some e) : a.equals b = true ↔ d = e := by
  rw [equals_iff, order_of_numbers (typeClass_of_toDouble? ha) (typeClass_of_toDouble? hb),
    compareNumbers_eq_then]
  have hnone : compareIntegers a b = .eq := by
    unfold compareIntegers
    rcases h with h | h
    · rw [h]
    · rw [h]
      cases a.integer? <;> rfl
  unfold doubleKey
  rw [hnone, Ordering.then_eq, Int.compare_eq_eq, ha, hb]
  exact ⟨Double.orderKey_injective, fun heq => congrArg Double.orderKey heq⟩

/-- A number is an integer or it goes by its double. -/
theorem number_cases {value : Value} (h : value.typeClass = .number) :
    (∃ n, value.integer? = some n) ∨ (value.integer? = none ∧ ∃ d, value.toDouble? = some d) := by
  cases hinteger : value.integer? with
  | some n => exact .inl ⟨n, rfl⟩
  | none => exact .inr ⟨rfl, exists_toDouble? h⟩

/-- **The two ways to disagree are all there are.** Two values blur exactly if they share a key without
being equal, and they are torn exactly if they are equal with different keys. -/
structure Explained (a b : Value) : Prop where
  blurred : Blurred a b ↔ SameKey a b ∧ ¬a.equals b = true
  torn : Torn a b ↔ a.equals b = true ∧ ¬SameKey a b

namespace Explained

variable {a b : Value}

/-- Two values that share a key exactly if they are equal are neither blurred nor torn. -/
theorem of_agree (hagree : SameKey a b ↔ a.equals b = true) (hblurred : ¬Blurred a b)
    (htorn : ¬Torn a b) : Explained a b where
  blurred := ⟨fun h => absurd h hblurred, fun h => absurd (hagree.mp h.1) h.2⟩
  torn := ⟨fun h => absurd h htorn, fun h => absurd (hagree.mpr h.1) h.2⟩

theorem symm (h : Explained a b) : Explained b a where
  blurred := by
    rw [blurred_comm, sameKey_comm, equals_comm]
    exact h.blurred
  torn := by
    rw [torn_comm, sameKey_comm, equals_comm]
    exact h.torn

/-- Integers with the same key are equal, and the other way round. -/
theorem of_integers {m n : Int64} (ha : a.integer? = some m) (hb : b.integer? = some n) :
    Explained a b := by
  refine of_agree ?_ ?_ ?_
  · unfold SameKey
    rw [equals_of_integers ha hb, of_of_integer? ha, of_of_integer? hb, ValueKey.int.injEq]
  · rw [blurred_of_toDouble? (toDouble?_of_integer? ha) (toDouble?_of_integer? hb)]
    rintro ⟨hne, ⟨hzero, hzero'⟩ | ⟨hnan, -⟩⟩
    · rw [Double.eq_zero_of_isZero_ofInt hzero, Double.eq_zero_of_isZero_ofInt hzero'] at hne
      exact hne rfl
    · exact absurd hnan (by rw [Double.isNaN_ofInt]; simp)
  · rintro (⟨k, -, hnone, -⟩ | ⟨k, -, hnone, -⟩)
    · rw [hb] at hnone; exact (nomatch hnone)
    · rw [ha] at hnone; exact (nomatch hnone)

/-- An integer blurs with negative zero alone, and it is torn from the number it is rounded to. -/
theorem of_integer_double {n : Int64} {e : Double} (ha : a.integer? = some n) (hb : b.integer? = none)
    (he : b.toDouble? = some e) : Explained a b := by
  have hd := toDouble?_of_integer? ha
  have hequals : a.equals b = true ↔ Double.ofInt n.toInt = e := equals_of_doubles (.inr hb) hd he
  have hsame : SameKey a b ↔ e.IsExactly n.toInt := by
    unfold SameKey
    rw [of_of_integer? ha, of_of_toDouble? hb he]
    exact eq_comm.trans ValueKey.ofDouble_eq_int_iff
  constructor
  · rw [blurred_of_toDouble? hd he, hsame, hequals]
    constructor
    · rintro ⟨hne, ⟨hzero, hzero'⟩ | ⟨hnan, -⟩⟩
      · rw [Double.eq_zero_of_isZero_ofInt hzero] at hne ⊢
        exact ⟨Double.isExactly_zero_iff.mpr hzero', hne⟩
      · exact absurd hnan (by rw [Double.isNaN_ofInt]; simp)
    · rintro ⟨hexact, hne⟩
      -- exactly the integer and yet not its nearest double: negative zero
      obtain ⟨hzero, rfl⟩ := hexact.eq_ofInt.resolve_left (Ne.symm hne)
      rw [hzero] at hne ⊢
      exact ⟨hne, .inl ⟨by decide +kernel, by decide +kernel⟩⟩
  · rw [hsame, hequals]
    constructor
    · rintro (⟨m, hm, -, hround, hnot⟩ | ⟨m, hm, -⟩)
      · rw [ha] at hm
        rw [he] at hround
        obtain rfl := Option.some.inj hm
        obtain rfl := Option.some.inj hround
        exact ⟨rfl, hnot⟩
      · rw [hb] at hm
        exact (nomatch hm)
    · rintro ⟨rfl, hnot⟩
      exact .inl ⟨n, ha, hb, he, hnot⟩

/-- Doubles blur exactly if they are zeros or not-a-numbers, and they are never torn. -/
theorem of_doubles {d e : Double} (ha : a.integer? = none) (hd : a.toDouble? = some d)
    (hb : b.integer? = none) (he : b.toDouble? = some e) : Explained a b := by
  have hequals : a.equals b = true ↔ d = e := equals_of_doubles (.inl ha) hd he
  have hsame : SameKey a b ↔ ValueKey.ofDouble d = ValueKey.ofDouble e := by
    unfold SameKey
    rw [of_of_toDouble? ha hd, of_of_toDouble? hb he]
  constructor
  · rw [blurred_of_toDouble? hd he, hsame, hequals, ValueKey.ofDouble_eq_iff]
    constructor
    · exact fun ⟨hne, h⟩ => ⟨.inr h, hne⟩
    · exact fun ⟨h, hne⟩ => ⟨hne, h.resolve_left hne⟩
  · rw [hsame, hequals]
    constructor
    · rintro (⟨k, hk, -⟩ | ⟨k, hk, -⟩)
      · rw [ha] at hk; exact (nomatch hk)
      · rw [hb] at hk; exact (nomatch hk)
    · exact fun ⟨heq, hnot⟩ => absurd (congrArg ValueKey.ofDouble heq) hnot

/-- Every two numbers are explained. -/
theorem of_numbers (ha : a.typeClass = .number) (hb : b.typeClass = .number) : Explained a b := by
  rcases number_cases ha with ⟨m, hm⟩ | ⟨hnonea, d, hd⟩
  · rcases number_cases hb with ⟨n, hn⟩ | ⟨hnoneb, e, he⟩
    · exact of_integers hm hn
    · exact of_integer_double hm hnoneb he
  · rcases number_cases hb with ⟨n, hn⟩ | ⟨hnoneb, e, he⟩
    · exact (of_integer_double hn hnonea hd).symm
    · exact of_doubles hnonea hd hnoneb he

end Explained

/-! ## Keys of scalars -/

/-- Scalars of one class share a key exactly if they have the same content, numbers and nulls aside. -/
theorem sameKey_iff_content {a b : Value} (hclass : a.typeClass = b.typeClass)
    (hscalar : a.isScalar = true) (hnumber : a.typeClass ≠ .number) (hnull : a.typeClass ≠ .null) :
    SameKey a b ↔ a.content = b.content := by
  cases a with
  | document | array => exact absurd hscalar (by simp [isScalar])
  | int32 | int64 | double | decimal => exact absurd rfl hnumber
  | null | undefined => exact absurd rfl hnull
  -- what is left goes by its content: read as an integer, or as a text
  | bool x =>
      cases b <;> try contradiction
      rename_i y
      show ValueKey.bool x = .bool y ↔ ((x.toNat : Int), (0 : Int), "") = ((y.toNat : Int), (0 : Int), "")
      cases x <;> cases y <;> simp
  | objectId x =>
      cases b <;> try contradiction
      rename_i y
      show ValueKey.objectId x = .objectId y ↔
        ((x.toNat : Int), (0 : Int), "") = ((y.toNat : Int), (0 : Int), "")
      constructor
      · exact fun h => by rw [ValueKey.objectId.inj h]
      · intro h
        obtain ⟨x⟩ := x
        obtain ⟨y⟩ := y
        have hbits : x.toNat = y.toNat := Int.ofNat_inj.mp (Prod.mk.inj h).1
        rw [BitVec.eq_of_toNat_eq hbits]
  | dateTime x =>
      cases b <;> try contradiction
      rename_i y
      show ValueKey.dateTime x = .dateTime y ↔ (x.toInt, (0 : Int), "") = (y.toInt, 0, "")
      constructor
      · exact fun h => by rw [ValueKey.dateTime.inj h]
      · intro h
        obtain ⟨x⟩ := x
        obtain ⟨y⟩ := y
        have hmillis : x.toInt = y.toInt := (Prod.mk.inj h).1
        rw [Int64.toInt_inj.mp hmillis]
  | timestamp time increment =>
      cases b <;> try contradiction
      rename_i time' increment'
      show ValueKey.other (timestamp time increment).debug = .other (timestamp time' increment').debug ↔
        ((time.toNat : Int), (increment.toNat : Int), "") =
          ((time'.toNat : Int), (increment'.toNat : Int), "")
      constructor
      · intro h
        obtain ⟨rfl, rfl⟩ := debug_timestamp_inj (ValueKey.other.inj h)
        rfl
      · intro h
        obtain ⟨htime, hrest⟩ := Prod.mk.inj h
        rw [UInt32.toNat_inj.mp (Int.ofNat_inj.mp htime),
          UInt32.toNat_inj.mp (Int.ofNat_inj.mp (Prod.mk.inj hrest).1)]
  | string s | symbol s =>
      cases b <;> try contradiction
      all_goals
        rename_i t
        show ValueKey.text s = .text t ↔ ((0 : Int), (0 : Int), s) = (0, 0, t)
        simp
  -- the rest goes by its debugging text, which is its content
  | _ =>
      cases b <;> try contradiction
      all_goals
        show ValueKey.other _ = .other _ ↔ ((0 : Int), (0 : Int), _) = (0, 0, _)
        simp

/-- Scalars of one class are equal exactly if they have the same content, numbers aside. -/
theorem equals_iff_content {a b : Value} (hclass : a.typeClass = b.typeClass)
    (hscalar : a.isScalar = true) (hnumber : a.typeClass ≠ .number) :
    a.equals b = true ↔ a.content = b.content := by
  rw [equals_iff, order_of_class_eq hclass, compareInClass_of_isScalar hscalar,
    compareScalars_eq_compareContents hclass hscalar hnumber, compareContents_eq_iff]

theorem class_eq_of_sameKey {a b : Value} (h : SameKey a b) : a.typeClass = b.typeClass := by
  rw [← ValueKey.typeClass_of a, ← ValueKey.typeClass_of b]
  exact congrArg ValueKey.typeClass h

theorem class_eq_of_equals {a b : Value} (h : a.equals b = true) : a.typeClass = b.typeClass := by
  rw [equals_iff] at h
  by_cases hclass : a.typeClass = b.typeClass
  · exact hclass
  · rw [order_of_class_ne hclass] at h
    exact compare_rank_eq_iff.mp h

theorem class_eq_of_blurred {a b : Value} (h : Blurred a b) : a.typeClass = b.typeClass := by
  rcases h with ⟨rfl, rfl⟩ | ⟨rfl, rfl⟩ | ⟨d, e, hd, he, -⟩
  · rfl
  · rfl
  · exact (typeClass_of_toDouble? hd).trans (typeClass_of_toDouble? he).symm

theorem number_of_torn {a b : Value} (h : Torn a b) :
    a.typeClass = .number ∧ b.typeClass = .number := by
  rcases h with ⟨n, hn, -, he, -⟩ | ⟨n, hn, -, he, -⟩
  · exact ⟨typeClass_of_toDouble? (toDouble?_of_integer? hn), typeClass_of_toDouble? he⟩
  · exact ⟨typeClass_of_toDouble? he, typeClass_of_toDouble? (toDouble?_of_integer? hn)⟩

namespace Explained

/-- Values of the class of nulls are explained: null and undefined share a key, and they blur. -/
theorem of_null {a b : Value} (ha : a.typeClass = .null) (hb : b.typeClass = .null) :
    Explained a b := by
  have htorn : ¬Torn a b := fun h => absurd (ha.symm.trans (number_of_torn h).1) (by decide)
  have hself : ∀ {value : Value}, value.typeClass = .null → ¬Blurred value value := by
    rintro value hnull (⟨rfl, h⟩ | ⟨rfl, h⟩ | ⟨d, e, hd, -⟩)
    · exact (nomatch h)
    · exact (nomatch h)
    · exact absurd (hnull.symm.trans (typeClass_of_toDouble? hd)) (by decide)
  have hmixed : Explained null undefined :=
    ⟨⟨fun _ => ⟨rfl, by decide⟩, fun _ => .inl ⟨rfl, rfl⟩⟩,
      ⟨fun h => absurd (number_of_torn h).1 (by decide), fun h => absurd rfl h.2⟩⟩
  cases a <;> try contradiction
  all_goals cases b <;> try contradiction
  · exact of_agree ⟨fun _ => by decide, fun _ => rfl⟩ (hself rfl) htorn
  · exact hmixed
  · exact hmixed.symm
  · exact of_agree ⟨fun _ => by decide, fun _ => rfl⟩ (hself rfl) htorn

/-- **Scalars disagree in the two ways alone.** -/
theorem of_isScalar {a b : Value} (hscalar : a.isScalar = true) : Explained a b := by
  by_cases hclass : a.typeClass = b.typeClass
  · by_cases hnumber : a.typeClass = .number
    · exact of_numbers hnumber (hclass ▸ hnumber)
    · by_cases hnull : a.typeClass = .null
      · exact of_null hnull (hclass ▸ hnull)
      · refine of_agree ?_ ?_ fun h => hnumber (number_of_torn h).1
        · rw [sameKey_iff_content hclass hscalar hnumber hnull,
            equals_iff_content hclass hscalar hnumber]
        · rintro (⟨rfl, -⟩ | ⟨rfl, -⟩ | ⟨d, e, hd, -⟩)
          · exact hnull rfl
          · exact hnull rfl
          · exact hnumber (typeClass_of_toDouble? hd)
  · refine of_agree ⟨fun h => ?_, fun h => ?_⟩ (fun h => hclass (class_eq_of_blurred h)) fun h => ?_
    · exact absurd (class_eq_of_sameKey h) hclass
    · exact absurd (class_eq_of_equals h) hclass
    · exact hclass ((number_of_torn h).1.trans (number_of_torn h).2.symm)

end Explained

/-! ## All values -/

theorem ofFields_eq_map (fields : Fields) :
    ValueKey.ofFields fields = fields.map fun entry => (entry.1, ValueKey.of entry.2) := by
  induction fields with
  | nil => rfl
  | cons entry rest ih => exact congrArg _ ih

theorem ofItems_eq_map (items : List Value) : ValueKey.ofItems items = items.map ValueKey.of := by
  induction items with
  | nil => rfl
  | cons item rest ih => exact congrArg _ ih

/-- **Keys go part by part.** -/
theorem structural_sameKey : Structural SameKey where
  document_iff x y := by
    show ValueKey.document (ValueKey.ofFields x) = .document (ValueKey.ofFields y) ↔ _
    rw [ValueKey.document.injEq, ofFields_eq_map, ofFields_eq_map, ← List.forall₂_eq_eq_eq,
      List.forall₂_map_left_iff, List.forall₂_map_right_iff]
    simp only [Prod.mk.injEq, SameKey]
  array_iff x y := by
    show ValueKey.array (ValueKey.ofItems x) = .array (ValueKey.ofItems y) ↔ _
    rw [ValueKey.array.injEq, ofItems_eq_map, ofItems_eq_map, ← List.forall₂_eq_eq_eq,
      List.forall₂_map_left_iff, List.forall₂_map_right_iff]
    rfl
  same_class := class_eq_of_sameKey

/-- Documents are ordered as equal if their fields are, pair by pair. -/
theorem orderFields_eq_iff {x y : Fields} : orderFields x y = .eq ↔
    List.Forall₂ (fun e f => e.1 = f.1 ∧ e.2.equals f.2 = true) x y := by
  induction x generalizing y with
  | nil =>
      cases y with
      | nil => exact ⟨fun _ => .nil, fun _ => rfl⟩
      | cons => exact ⟨fun h => (nomatch h), fun h => (nomatch h)⟩
  | cons entry rest ih =>
      cases y with
      | nil => exact ⟨fun h => (nomatch h), fun h => (nomatch h)⟩
      | cons other others =>
          have hstep : orderFields (entry :: rest) (other :: others) =
              ((order entry.2 other.2).then (compare entry.1 other.1)).then
                (orderFields rest others) := rfl
          rw [hstep, Ordering.then_eq_eq, Ordering.then_eq_eq, ih, List.forall₂_cons, equals_iff,
            Std.compare_eq_iff_eq, and_comm (a := order entry.2 other.2 = .eq)]

theorem orderItems_eq_iff {x y : List Value} : orderItems x y = .eq ↔
    List.Forall₂ (fun a b => a.equals b = true) x y := by
  induction x generalizing y with
  | nil =>
      cases y with
      | nil => exact ⟨fun _ => .nil, fun _ => rfl⟩
      | cons => exact ⟨fun h => (nomatch h), fun h => (nomatch h)⟩
  | cons item rest ih =>
      cases y with
      | nil => exact ⟨fun h => (nomatch h), fun h => (nomatch h)⟩
      | cons other others =>
          have hstep : orderItems (item :: rest) (other :: others) =
              (order item other).then (orderItems rest others) := rfl
          rw [hstep, Ordering.then_eq_eq, ih, List.forall₂_cons, equals_iff]

/-- **Equality goes part by part.** -/
theorem structural_equals : Structural fun a b => a.equals b = true where
  document_iff _ _ := equals_iff.trans orderFields_eq_iff
  array_iff _ _ := equals_iff.trans orderItems_eq_iff
  same_class := class_eq_of_equals

/-! ## The exact condition -/

/-- A scalar with nothing beside it that it could be taken for: it is not undefined, no negative zero and
no unusual not-a-number, and as an integer it lies within `±2⁵³`. -/
def Plain (value : Value) : Prop :=
  value ≠ undefined ∧ (∀ d, value.toDouble? = some d → d ≠ .zero true ∧ (d.isNaN = true → d = .nan)) ∧
  ∀ n : Int64, value.integer? = some n → n.toInt.natAbs ≤ 2 ^ 53

theorem Plain.not_blurred {x y : Value} (hx : x.Plain) (hy : y.Plain) : ¬Blurred x y := by
  rintro (⟨-, h⟩ | ⟨h, -⟩ | ⟨d, e, hd, he, hne, h⟩)
  · exact hy.1 h
  · exact hx.1 h
  · obtain ⟨hzerod, hnand⟩ := hx.2.1 d hd
    obtain ⟨hzeroe, hnane⟩ := hy.2.1 e he
    rcases h with ⟨hd, he⟩ | ⟨hd, he⟩
    · exact hne ((Double.eq_zero_of_isZero hd hzerod).trans (Double.eq_zero_of_isZero he hzeroe).symm)
    · exact hne ((hnand hd).trans (hnane he).symm)

theorem Plain.not_torn {x y : Value} (hx : x.Plain) (hy : y.Plain) : ¬Torn x y := by
  rintro (⟨n, hn, -, -, hnot⟩ | ⟨n, hn, -, -, hnot⟩)
  · exact hnot (Double.isExactly_ofInt (hx.2.2 n hn))
  · exact hnot (Double.isExactly_ofInt (hy.2.2 n hn))

/-- Two values that are neither blurred nor torn have the same key exactly if they are equal. -/
theorem Explained.agree {a b : Value} (h : Explained a b) (hblurred : ¬Blurred a b) (htorn : ¬Torn a b) :
    SameKey a b ↔ a.equals b = true :=
  ⟨fun hsame => Classical.byContradiction fun hne => hblurred (h.blurred.mpr ⟨hsame, hne⟩),
    fun heq => Classical.byContradiction fun hne => htorn (h.torn.mpr ⟨heq, hne⟩)⟩

/-- **Keys agree with equality on plain values,** at any depth: their facing scalars agree. -/
theorem sameKey_iff_equals_of_plain {a b : Value} (ha : ∀ s ∈ a.scalars, s.Plain)
    (hb : ∀ s ∈ b.scalars, s.Plain) : SameKey a b ↔ a.equals b = true := by
  rw [structural_sameKey.iff_facing, structural_equals.iff_facing]
  refine exists_congr fun pairs => and_congr_right fun hpairs => forall₂_congr fun p hp => ?_
  have hin := facingIn_of_mem_facing hpairs p hp
  have hx := ha p.1 hin.left_mem
  have hy := hb p.2 hin.right_mem
  exact (Explained.of_isScalar hin.left_isScalar).agree (hx.not_blurred hy) (hx.not_torn hy)

/-- **When keys agree with equality.** On two values they disagree exactly if the values have the same
shape and either all scalars that face each other share their keys while some of them blur, or all are
equal while some are torn. So they agree on all values whose scalars are plain. -/
theorem sameKey_iff_equals_iff (a b : Value) :
    ((ValueKey.of a = ValueKey.of b ↔ a.equals b = true) ↔
      ∀ pairs, facing a b = some pairs →
        ¬((∀ p ∈ pairs, ValueKey.of p.1 = ValueKey.of p.2) ∧ ∃ p ∈ pairs, Blurred p.1 p.2) ∧
        ¬((∀ p ∈ pairs, p.1.equals p.2 = true) ∧ ∃ p ∈ pairs, Torn p.1 p.2)) ∧
    ((∀ s ∈ a.scalars, s.Plain) → (∀ s ∈ b.scalars, s.Plain) →
      (ValueKey.of a = ValueKey.of b ↔ a.equals b = true)) := by
  have hexact : (ValueKey.of a = ValueKey.of b ↔ a.equals b = true) ↔
      ∀ pairs, facing a b = some pairs →
        ¬((∀ p ∈ pairs, ValueKey.of p.1 = ValueKey.of p.2) ∧ ∃ p ∈ pairs, Blurred p.1 p.2) ∧
        ¬((∀ p ∈ pairs, p.1.equals p.2 = true) ∧ ∃ p ∈ pairs, Torn p.1 p.2) := by
    refine (structural_sameKey.iff_iff_facing structural_equals a b).trans
      (forall_congr' fun pairs => forall_congr' fun hpairs => ?_)
    -- facing pairs consist of scalars, and each of them is explained
    have hexplained : ∀ p ∈ pairs, Explained p.1 p.2 := fun p hp =>
      .of_isScalar (facingIn_of_mem_facing hpairs p hp).left_isScalar
    -- in either half, some pair disagrees where all agree in the one sense
    refine and_congr (not_congr ⟨?_, ?_⟩) (not_congr ⟨?_, ?_⟩)
    · rintro ⟨hall, p, hp, hne⟩
      exact ⟨hall, p, hp, (hexplained p hp).blurred.mpr ⟨hall p hp, hne⟩⟩
    · rintro ⟨hall, p, hp, hblurred⟩
      exact ⟨hall, p, hp, ((hexplained p hp).blurred.mp hblurred).2⟩
    · rintro ⟨hall, p, hp, hne⟩
      exact ⟨hall, p, hp, (hexplained p hp).torn.mpr ⟨hall p hp, hne⟩⟩
    · rintro ⟨hall, p, hp, htorn⟩
      exact ⟨hall, p, hp, ((hexplained p hp).torn.mp htorn).2⟩
  refine ⟨hexact, fun ha hb => hexact.mpr fun pairs hpairs => ⟨?_, ?_⟩⟩
  · rintro ⟨-, p, hp, hblurred⟩
    have hin := facingIn_of_mem_facing hpairs p hp
    exact (ha p.1 hin.left_mem).not_blurred (hb p.2 hin.right_mem) hblurred
  · rintro ⟨-, p, hp, htorn⟩
    have hin := facingIn_of_mem_facing hpairs p hp
    exact (ha p.1 hin.left_mem).not_torn (hb p.2 hin.right_mem) htorn

/-- Zero and negative zero share a key without being equal, and so do null and undefined; an integer past
`2⁵³` equals a double with another key. -/
theorem sameKey_disagrees_with_equals :
    (ValueKey.of (.int32 0) = ValueKey.of (.double ⟨0x8000000000000000⟩) ∧
      (Value.int32 0).equals (.double ⟨0x8000000000000000⟩) = false) ∧
    (ValueKey.of .null = ValueKey.of .undefined ∧ Value.null.equals .undefined = false) ∧
    ((Value.int64 9007199254740993).equals (.double ⟨0x4340000000000000⟩) = true ∧
      ValueKey.of (.int64 9007199254740993) ≠ ValueKey.of (.double ⟨0x4340000000000000⟩)) := by
  decide +kernel

end Value
end Docstore
