import Docstore.Proofs.Double.Rounding
import Docstore.Proofs.Value.Parts
import Docstore.Value.Order

/-!
# `Docstore.Proofs.Value.Order` — how far the order of values is an order

`Value.order` compares by class and then within the class, and each class compares by something that is
ordered: a content, a list of entries, a number. So any value equals itself and turning a comparison
round reverses it. Only numbers can break transitivity. Integers compare exactly, but an integer and a
double compare as doubles, so two different integers may both equal one double. Such a triple is `Tied`,
and without it the order is a total preorder.

## Contents
- **Coherent comparisons.** `Coherent` says of three comparisons that some order explains them.
- **Scalars.** The order within a class other than numbers is that of `Value.content`.
- **Numbers.** `compareNumbers_eq_then` orders by doubles first and integers by their value after that;
  `coherent_compareNumbers` holds without ties.
- **All values.** `order_swap`, `order_self`, `coherent_order`.
- **The exact condition.** `order_total_preorder_iff`.
-/

namespace Docstore

/-! ## Coherent comparisons -/

/-- The comparisons of a first thing with a second, of the second with a third and of the first with the
third are such that some order of the three explains them. -/
def Coherent (first second across : Ordering) : Prop :=
  (first = .eq → across = second) ∧ (second = .eq → across = first) ∧ (first = second → across = first)

namespace Coherent

/-- Comparisons by an order that is transitive are coherent. -/
theorem of_compare {α : Type} [Ord α] [Std.TransOrd α] (x y z : α) :
    Coherent (compare x y) (compare y z) (compare x z) := by
  refine ⟨fun h => Std.TransCmp.congr_left h, fun h => (Std.TransCmp.congr_right h).symm, fun h => ?_⟩
  cases hxy : compare x y with
  | lt => exact Std.TransCmp.lt_trans hxy (h ▸ hxy)
  | eq => rw [Std.TransCmp.congr_left hxy, ← h, hxy]
  | gt => exact Std.TransCmp.gt_trans hxy (h ▸ hxy)

/-- A second comparison is asked only where the first one finds all three equal. -/
theorem then_of_eq {p q r p' q' r' : Ordering} (h : Coherent p q r)
    (h' : p = .eq → q = .eq → r = .eq → Coherent p' q' r') :
    Coherent (p.then p') (q.then q') (r.then r') := by
  obtain ⟨hp, hq, hpq⟩ := h
  by_cases heq : p = .eq ∧ q = .eq
  · obtain ⟨rfl, rfl⟩ := heq
    obtain rfl := hp rfl
    exact h' rfl rfl rfl
  · cases p with
    | eq =>
        -- the first two are equal, so the other comparisons agree and are decided
        obtain rfl := hp rfl
        cases r with
        | eq => exact absurd ⟨rfl, rfl⟩ heq
        | lt => exact ⟨fun _ => rfl, fun h => absurd h (by simp), fun h => h.symm⟩
        | gt => exact ⟨fun _ => rfl, fun h => absurd h (by simp), fun h => h.symm⟩
    | lt =>
        refine ⟨fun h => absurd h (by simp), fun h => ?_, fun h => ?_⟩
        · rw [hq (Ordering.then_eq_eq.mp h).1, Ordering.lt_then, Ordering.lt_then]
        · cases q with
          | eq => rw [hq rfl, Ordering.lt_then, Ordering.lt_then]
          | lt => rw [hpq rfl, Ordering.lt_then, Ordering.lt_then]
          | gt => exact absurd h (by simp)
    | gt =>
        refine ⟨fun h => absurd h (by simp), fun h => ?_, fun h => ?_⟩
        · rw [hq (Ordering.then_eq_eq.mp h).1, Ordering.gt_then, Ordering.gt_then]
        · cases q with
          | eq => rw [hq rfl, Ordering.gt_then, Ordering.gt_then]
          | lt => exact absurd h (by simp)
          | gt => rw [hpq rfl, Ordering.gt_then, Ordering.gt_then]

/-- Not being greater is transitive where comparisons are coherent. -/
theorem ne_gt {p q r : Ordering} (h : Coherent p q r) (hp : p ≠ .gt) (hq : q ≠ .gt) : r ≠ .gt := by
  obtain ⟨h₁, h₂, h₃⟩ := h
  cases p <;> cases q <;> simp_all

end Coherent

/-! ## Classes -/

theorem TypeClass.rank_injective {c d : TypeClass} (h : c.rank = d.rank) : c = d := by
  cases c <;> cases d <;> first | rfl | exact absurd h (by decide)

namespace Value

theorem compare_rank_eq_iff {a b : Value} :
    compare a.typeClass.rank b.typeClass.rank = .eq ↔ a.typeClass = b.typeClass := by
  rw [Nat.compare_eq_eq]
  exact ⟨TypeClass.rank_injective, fun h => h ▸ rfl⟩

/-- **Values compare by class and then within the class.** -/
theorem order_eq_then (a b : Value) :
    order a b = (compare a.typeClass.rank b.typeClass.rank).then (compareInClass a b) := by
  unfold order compareInClass
  split
  · rfl
  · rfl
  · split
    · next hclass => rw [compare_rank_eq_iff.mpr hclass]; rfl
    · next hclass =>
        have hne := mt compare_rank_eq_iff.mp hclass
        cases h : compare a.typeClass.rank b.typeClass.rank with
        | eq => exact absurd h hne
        | lt => rfl
        | gt => rfl

/-- Values of one class are ordered within the class. -/
theorem order_of_class_eq {a b : Value} (h : a.typeClass = b.typeClass) :
    order a b = compareInClass a b := by
  rw [order_eq_then, compare_rank_eq_iff.mpr h, Ordering.eq_then]

/-- Values of different classes are ordered by their classes alone. -/
theorem order_of_class_ne {a b : Value} (h : a.typeClass ≠ b.typeClass) :
    order a b = compare a.typeClass.rank b.typeClass.rank := by
  rw [order_eq_then]
  cases hrank : compare a.typeClass.rank b.typeClass.rank with
  | eq => exact absurd (compare_rank_eq_iff.mp hrank) h
  | lt => rfl
  | gt => rfl

theorem isScalar_iff {value : Value} :
    value.isScalar = true ↔ value.typeClass ≠ .document ∧ value.typeClass ≠ .array := by
  cases value <;> simp [isScalar, typeClass]

theorem isScalar_of_class_eq {a b : Value} (h : a.typeClass = b.typeClass) (ha : a.isScalar = true) :
    b.isScalar = true := by
  rw [isScalar_iff] at ha ⊢
  exact h ▸ ha

theorem compareInClass_of_isScalar {a : Value} (h : a.isScalar = true) (b : Value) :
    compareInClass a b = compareScalars a b := by
  cases a <;> first | rfl | exact absurd h (by simp [isScalar])

theorem eq_document {value : Value} (h : value.typeClass = .document) :
    ∃ fields, value = document fields := by
  cases value <;> first | contradiction | exact ⟨_, rfl⟩

theorem eq_array {value : Value} (h : value.typeClass = .array) : ∃ items, value = array items := by
  cases value <;> first | contradiction | exact ⟨_, rfl⟩

/-! ## Scalars -/

/-- What a scalar that is no number is ordered by within its class. -/
def content : Value → Int × Int × String
  | bool b => (b.toNat, 0, "")
  | objectId id => (id.toNat, 0, "")
  | dateTime t => (t.toInt, 0, "")
  | timestamp time increment => (time.toNat, increment.toNat, "")
  | string s | symbol s => (0, 0, s)
  | value => (0, 0, value.debug)

/-- Contents in order. -/
def compareContents (x y : Int × Int × String) : Ordering :=
  (compare x.1 y.1).then ((compare x.2.1 y.2.1).then (compare x.2.2 y.2.2))

theorem compare_natCast (m n : Nat) : compare (m : Int) n = compare m n := by
  rw [Int.compare_eq_ite_lt, Nat.compare_eq_ite_lt]
  simp only [Int.ofNat_lt]

theorem compareContents_number (x y : Int) : compareContents (x, 0, "") (y, 0, "") = compare x y := by
  simp [compareContents]

theorem compareContents_text (s t : String) : compareContents (0, 0, s) (0, 0, t) = compare s t := by
  simp [compareContents]

/-- **Scalars of one class, other than numbers, compare by their contents.** -/
theorem compareScalars_eq_compareContents {a b : Value} (hclass : a.typeClass = b.typeClass)
    (hscalar : a.isScalar = true) (hnumber : a.typeClass ≠ .number) :
    compareScalars a b = compareContents a.content b.content := by
  cases a with
  | document | array => exact absurd hscalar (by simp [isScalar])
  | int32 | int64 | double | decimal => exact absurd rfl hnumber
  | bool x =>
      cases b <;> try contradiction
      simp only [compareScalars, content, compareContents_number, compare_natCast]
  | objectId x =>
      cases b <;> try contradiction
      simp only [compareScalars, content, compareContents_number, compare_natCast]
      rfl
  | dateTime x =>
      cases b <;> try contradiction
      simp only [compareScalars, content, compareContents_number]
  | timestamp time increment =>
      cases b <;> try contradiction
      simp [compareScalars, content, compareContents, compare_natCast]
  | _ => cases b <;> first | contradiction | exact (compareContents_text _ _).symm

/-- Contents that are swapped compare the other way round. -/
theorem compareContents_swap (x y : Int × Int × String) :
    (compareContents x y).swap = compareContents y x := by
  unfold compareContents
  rw [Ordering.swap_then, Ordering.swap_then, ← Std.OrientedCmp.eq_swap, ← Std.OrientedCmp.eq_swap,
    ← Std.OrientedCmp.eq_swap]

theorem compareContents_eq_iff {x y : Int × Int × String} : compareContents x y = .eq ↔ x = y := by
  unfold compareContents
  rw [Ordering.then_eq_eq, Ordering.then_eq_eq, Std.compare_eq_iff_eq, Std.compare_eq_iff_eq,
    Std.compare_eq_iff_eq, Prod.ext_iff, Prod.ext_iff]

/-- Comparisons of contents are coherent. -/
theorem coherent_compareContents (x y z : Int × Int × String) :
    Coherent (compareContents x y) (compareContents y z) (compareContents x z) :=
  (Coherent.of_compare x.1 y.1 z.1).then_of_eq fun _ _ _ =>
    (Coherent.of_compare x.2.1 y.2.1 z.2.1).then_of_eq fun _ _ _ =>
      Coherent.of_compare x.2.2 y.2.2 z.2.2

/-! ## Numbers -/

/-- The place of a number's double in the total order. -/
def doubleKey (value : Value) : Int := (value.toDouble?.getD .nan).orderKey

/-- Orders two integers; a number that is none equals every other. -/
def compareIntegers (a b : Value) : Ordering :=
  match a.integer?, b.integer? with
  | some m, some n => compare m.toInt n.toInt
  | _, _ => .eq

theorem toDouble?_of_integer? {value : Value} {n : Int64} (h : value.integer? = some n) :
    value.toDouble? = some (Double.ofInt n.toInt) := by
  cases value with
  | int32 m =>
      obtain rfl : m.toInt64 = n := Option.some.inj h
      rw [Int32.toInt_toInt64]
      rfl
  | int64 m =>
      obtain rfl : m = n := Option.some.inj h
      rfl
  | _ => exact absurd h (by simp [integer?])

theorem exists_toDouble? {value : Value} (h : value.typeClass = .number) :
    ∃ x, value.toDouble? = some x := by
  cases value <;> first | contradiction | exact ⟨_, rfl⟩

theorem doubleKey_of_integer? {value : Value} {n : Int64} (h : value.integer? = some n) :
    value.doubleKey = (Double.ofInt n.toInt).orderKey := by
  unfold doubleKey
  rw [toDouble?_of_integer? h]
  rfl

/-- Values that are ordered in the same way as their images are also ordered by the images first. -/
theorem compare_eq_then_of_mono {f : Int → Int} (hf : ∀ {m n}, m ≤ n → f m ≤ f n) (m n : Int) :
    compare m n = (compare (f m) (f n)).then (compare m n) := by
  rcases Int.lt_trichotomy m n with h | h | h
  · have hle := hf (Int.le_of_lt h)
    rw [Int.compare_eq_lt.mpr h]
    rcases Int.lt_or_eq_of_le hle with hlt | heq
    · rw [Int.compare_eq_lt.mpr hlt]; rfl
    · rw [Int.compare_eq_eq.mpr heq]; rfl
  · subst h
    rw [Int.compare_eq_eq.mpr rfl, Int.compare_eq_eq.mpr rfl]
    rfl
  · have hle := hf (Int.le_of_lt h)
    rw [Int.compare_eq_gt.mpr h]
    rcases Int.lt_or_eq_of_le hle with hlt | heq
    · rw [Int.compare_eq_gt.mpr hlt]; rfl
    · rw [Int.compare_eq_eq.mpr heq.symm]; rfl

/-- **Numbers compare as doubles, and integers with the same double by their value.** -/
theorem compareNumbers_eq_then (a b : Value) :
    compareNumbers a b = (compare a.doubleKey b.doubleKey).then (compareIntegers a b) := by
  unfold compareNumbers compareIntegers
  cases ha : a.integer? with
  | none => exact Ordering.then_eq.symm
  | some m =>
      cases hb : b.integer? with
      | none => exact Ordering.then_eq.symm
      | some n =>
          rw [doubleKey_of_integer? ha, doubleKey_of_integer? hb]
          exact compare_eq_then_of_mono Double.orderKey_ofInt_le m.toInt n.toInt

theorem compareIntegers_swap (a b : Value) : (compareIntegers a b).swap = compareIntegers b a := by
  unfold compareIntegers
  cases a.integer? <;> cases b.integer? <;> first | rfl | exact Int.compare_swap _ _

/-- Two different integers and a number that is no integer, all three with the same nearest double. -/
def Tied (x y z : Value) : Prop :=
  ∃ m n : Int64, m ≠ n ∧ x.integer? = some m ∧ y.integer? = some n ∧ z.integer? = none ∧
    z.toDouble? = some (Double.ofInt m.toInt) ∧ z.toDouble? = some (Double.ofInt n.toInt)

/-- Integers that share their double with some other number are equal, unless the three are tied. -/
theorem compare_eq_of_not_tied {x y z : Value} {m n : Int64} (hx : x.integer? = some m)
    (hy : y.integer? = some n) (hz : z.integer? = none) (hnumber : z.typeClass = .number)
    (hxz : x.doubleKey = z.doubleKey) (hyz : y.doubleKey = z.doubleKey) (htied : ¬Tied x y z) :
    compare m.toInt n.toInt = .eq := by
  obtain ⟨d, hd⟩ := exists_toDouble? hnumber
  have hkey : z.doubleKey = d.orderKey := by unfold doubleKey; rw [hd]; rfl
  rw [doubleKey_of_integer? hx, hkey] at hxz
  rw [doubleKey_of_integer? hy, hkey] at hyz
  have hm := Double.orderKey_injective hxz
  have hn := Double.orderKey_injective hyz
  by_cases hmn : m = n
  · rw [hmn, Int.compare_eq_eq.mpr rfl]
  · exact absurd ⟨m, n, hmn, hx, hy, hz, by rw [hd, hm], by rw [hd, hn]⟩ htied

/-- **Numbers without ties compare coherently.** -/
theorem coherent_compareNumbers {numbers : Value → Prop}
    (hties : ∀ x y z, numbers x → numbers y → numbers z → ¬Tied x y z) {a b c : Value}
    (ha : a.typeClass = .number) (hb : b.typeClass = .number) (hc : c.typeClass = .number)
    (hna : numbers a) (hnb : numbers b) (hnc : numbers c) :
    Coherent (compareNumbers a b) (compareNumbers b c) (compareNumbers a c) := by
  rw [compareNumbers_eq_then, compareNumbers_eq_then, compareNumbers_eq_then]
  refine (Coherent.of_compare a.doubleKey b.doubleKey c.doubleKey).then_of_eq fun hab hbc hac => ?_
  rw [Int.compare_eq_eq] at hab hbc hac
  -- the doubles are the same: with all three integers their values decide, else there is no tie
  unfold compareIntegers
  cases hia : a.integer? with
  | none =>
      cases hib : b.integer? with
      | none => exact ⟨fun _ => rfl, fun _ => rfl, fun _ => rfl⟩
      | some m =>
          cases hic : c.integer? with
          | none => exact ⟨fun _ => rfl, fun _ => rfl, fun _ => rfl⟩
          | some n =>
              have h := compare_eq_of_not_tied hib hic hia ha hab.symm hac.symm
                (hties b c a hnb hnc hna)
              simp only [h]
              exact ⟨fun _ => rfl, fun _ => rfl, fun _ => rfl⟩
  | some m =>
      cases hib : b.integer? with
      | none =>
          cases hic : c.integer? with
          | none => exact ⟨fun _ => rfl, fun _ => rfl, fun _ => rfl⟩
          | some n =>
              have h := compare_eq_of_not_tied hia hic hib hb hab hbc.symm
                (hties a c b hna hnc hnb)
              simp only [h]
              exact ⟨fun _ => rfl, fun _ => rfl, fun _ => rfl⟩
      | some n =>
          cases hic : c.integer? with
          | none =>
              have h := compare_eq_of_not_tied hia hib hic hc hac hbc (hties a b c hna hnb hnc)
              simp only [h]
              exact ⟨fun _ => rfl, fun _ => rfl, fun _ => rfl⟩
          | some k => exact Coherent.of_compare m.toInt n.toInt k.toInt

theorem compareScalars_of_number {a b : Value} (ha : a.typeClass = .number) :
    compareScalars a b = compareNumbers a b := by
  cases a <;> first | contradiction | rfl

/-! ## All values -/

/-- Scalars of one class that are swapped compare the other way round. -/
theorem compareScalars_swap {a b : Value} (hclass : a.typeClass = b.typeClass)
    (ha : a.isScalar = true) : (compareScalars a b).swap = compareScalars b a := by
  by_cases hnumber : a.typeClass = .number
  · rw [compareScalars_of_number hnumber, compareScalars_of_number (hclass ▸ hnumber),
      compareNumbers_eq_then, compareNumbers_eq_then, Ordering.swap_then, Int.compare_swap,
      compareIntegers_swap]
  · rw [compareScalars_eq_compareContents hclass ha hnumber,
      compareScalars_eq_compareContents hclass.symm (isScalar_of_class_eq hclass ha)
        (hclass ▸ hnumber), compareContents_swap]

/-- Documents that are swapped compare the other way round if the values in them do. -/
theorem orderFields_swap {fields : Fields}
    (ih : ∀ entry ∈ fields, ∀ b, (order entry.2 b).swap = order b entry.2) (others : Fields) :
    (orderFields fields others).swap = orderFields others fields := by
  induction fields generalizing others with
  | nil => cases others <;> rfl
  | cons entry rest ihrest =>
      cases others with
      | nil => rfl
      | cons other others =>
          have hvalue := ih entry (by simp) other.2
          have hname : (compare entry.1 other.1).swap = compare other.1 entry.1 :=
            Std.OrientedCmp.eq_swap.symm
          have hrest := ihrest (fun e hm => ih e (by simp [hm])) others
          unfold orderFields
          rw [Ordering.swap_then, Ordering.swap_then, hvalue, hname, hrest]

/-- Arrays that are swapped compare the other way round if their items do. -/
theorem orderItems_swap {items : List Value}
    (ih : ∀ item ∈ items, ∀ b, (order item b).swap = order b item) (others : List Value) :
    (orderItems items others).swap = orderItems others items := by
  induction items generalizing others with
  | nil => cases others <;> rfl
  | cons item rest ihrest =>
      cases others with
      | nil => rfl
      | cons other others =>
          have hvalue := ih item (by simp) other
          have hrest := ihrest (fun e hm => ih e (by simp [hm])) others
          unfold orderItems
          rw [Ordering.swap_then, hvalue, hrest]

/-- Whether two values compare the other way round when swapped is decided within their class. -/
theorem order_swap_of_class {a b : Value}
    (h : a.typeClass = b.typeClass → (compareInClass a b).swap = compareInClass b a) :
    (order a b).swap = order b a := by
  by_cases hclass : a.typeClass = b.typeClass
  · rw [order_of_class_eq hclass, order_of_class_eq hclass.symm, h hclass]
  · rw [order_of_class_ne hclass, order_of_class_ne (Ne.symm hclass)]
    exact Nat.compare_swap _ _

/-- **Turning a comparison round reverses it.** -/
theorem order_swap (a b : Value) : (order a b).swap = order b a := by
  induction a using byParts generalizing b with
  | scalar a ha =>
      refine order_swap_of_class fun hclass => ?_
      rw [compareInClass_of_isScalar ha, compareInClass_of_isScalar (isScalar_of_class_eq hclass ha),
        compareScalars_swap hclass ha]
  | document fields ih =>
      refine order_swap_of_class fun hclass => ?_
      obtain ⟨others, rfl⟩ := eq_document hclass.symm
      exact orderFields_swap ih others
  | array items ih =>
      refine order_swap_of_class fun hclass => ?_
      obtain ⟨others, rfl⟩ := eq_array hclass.symm
      exact orderItems_swap ih others

/-- Every value equals itself. -/
theorem order_self (a : Value) : order a a = .eq := by
  have h := order_swap a a
  cases ho : order a a with
  | eq => rfl
  | lt => rw [ho] at h; exact absurd h (by simp)
  | gt => rw [ho] at h; exact absurd h (by simp)

/-! ## Coherence of all values -/

/-- The numbers inside a value all belong to a set. -/
def NumbersIn (numbers : Value → Prop) (value : Value) : Prop :=
  ∀ s ∈ value.scalars, s.typeClass = .number → numbers s

namespace NumbersIn

variable {numbers : Value → Prop}

/-- The numbers inside a field of a document are among those inside the document. -/
theorem of_document {fields : Fields} (h : (document fields).NumbersIn numbers) :
    ∀ entry ∈ fields, entry.2.NumbersIn numbers :=
  fun _ hm s hs => h s (scalars_subset_document hm hs)

theorem of_array {items : List Value} (h : (array items).NumbersIn numbers) :
    ∀ item ∈ items, item.NumbersIn numbers :=
  fun _ hm s hs => h s (scalars_subset_array hm hs)

theorem of_number {value : Value} (h : value.NumbersIn numbers) (hnumber : value.typeClass = .number) :
    numbers value := by
  have hscalar : value.isScalar = true := isScalar_iff.mpr (by rw [hnumber]; simp)
  exact h value (by rw [scalars_of_isScalar hscalar]; simp) hnumber

end NumbersIn

section Coherence

variable {numbers : Value → Prop}
  (hties : ∀ x y z, numbers x → numbers y → numbers z → ¬Tied x y z)

include hties in
/-- Comparisons of scalars of one class are coherent if no three numbers in question are tied. -/
theorem coherent_compareScalars {a b c : Value} (hab : a.typeClass = b.typeClass)
    (hbc : b.typeClass = c.typeClass) (hscalar : a.isScalar = true) (ha : a.NumbersIn numbers)
    (hb : b.NumbersIn numbers) (hc : c.NumbersIn numbers) :
    Coherent (compareScalars a b) (compareScalars b c) (compareScalars a c) := by
  by_cases hnumber : a.typeClass = .number
  · have hnb := hab ▸ hnumber
    have hnc := hbc ▸ hnb
    rw [compareScalars_of_number hnumber, compareScalars_of_number hnb,
      compareScalars_of_number hnumber]
    exact coherent_compareNumbers hties hnumber hnb hnc (ha.of_number hnumber) (hb.of_number hnb)
      (hc.of_number hnc)
  · rw [compareScalars_eq_compareContents hab hscalar hnumber,
      compareScalars_eq_compareContents hbc (isScalar_of_class_eq hab hscalar) (hab ▸ hnumber),
      compareScalars_eq_compareContents (hab.trans hbc) hscalar hnumber]
    exact coherent_compareContents _ _ _

/-- Comparisons of documents are coherent if those of the values in the first one are. -/
theorem coherent_orderFields {fields : Fields}
    (ih : ∀ entry ∈ fields, ∀ b c, b.NumbersIn numbers → c.NumbersIn numbers →
      Coherent (order entry.2 b) (order b c) (order entry.2 c)) {ys zs : Fields}
    (hys : ∀ entry ∈ ys, entry.2.NumbersIn numbers) (hzs : ∀ entry ∈ zs, entry.2.NumbersIn numbers) :
    Coherent (orderFields fields ys) (orderFields ys zs) (orderFields fields zs) := by
  induction fields generalizing ys zs with
  | nil => cases ys <;> cases zs <;> simp [orderFields, Coherent]
  | cons entry rest ihrest =>
      cases ys with
      | nil => cases zs <;> simp [orderFields, Coherent]
      | cons y ys =>
          cases zs with
          | nil => exact ⟨fun _ => rfl, fun h => absurd h (by simp [orderFields]), fun h => h.symm⟩
          | cons z zs =>
              have hvalue := ih entry (by simp) y.2 z.2 (hys y (by simp)) (hzs z (by simp))
              have hname := Coherent.of_compare entry.1 y.1 z.1
              have hrest := ihrest (fun e hm => ih e (List.mem_cons_of_mem _ hm))
                (fun e hm => hys e (List.mem_cons_of_mem _ hm))
                (fun e hm => hzs e (List.mem_cons_of_mem _ hm))
              unfold orderFields
              exact (hvalue.then_of_eq fun _ _ _ => hname).then_of_eq fun _ _ _ => hrest

/-- Comparisons of arrays are coherent if those of the items of the first one are. -/
theorem coherent_orderItems {items : List Value}
    (ih : ∀ item ∈ items, ∀ b c, b.NumbersIn numbers → c.NumbersIn numbers →
      Coherent (order item b) (order b c) (order item c)) {ys zs : List Value}
    (hys : ∀ item ∈ ys, item.NumbersIn numbers) (hzs : ∀ item ∈ zs, item.NumbersIn numbers) :
    Coherent (orderItems items ys) (orderItems ys zs) (orderItems items zs) := by
  induction items generalizing ys zs with
  | nil => cases ys <;> cases zs <;> simp [orderItems, Coherent]
  | cons item rest ihrest =>
      cases ys with
      | nil => cases zs <;> simp [orderItems, Coherent]
      | cons y ys =>
          cases zs with
          | nil => exact ⟨fun _ => rfl, fun h => absurd h (by simp [orderItems]), fun h => h.symm⟩
          | cons z zs =>
              have hvalue := ih item (by simp) y z (hys y (by simp)) (hzs z (by simp))
              have hrest := ihrest (fun e hm => ih e (List.mem_cons_of_mem _ hm))
                (fun e hm => hys e (List.mem_cons_of_mem _ hm))
                (fun e hm => hzs e (List.mem_cons_of_mem _ hm))
              unfold orderItems
              exact hvalue.then_of_eq fun _ _ _ => hrest

include hties in
/-- **Values over numbers without ties compare coherently,** at any depth. -/
theorem coherent_order {a b c : Value} (ha : a.NumbersIn numbers) (hb : b.NumbersIn numbers)
    (hc : c.NumbersIn numbers) : Coherent (order a b) (order b c) (order a c) := by
  induction a using byParts generalizing b c with
  | scalar a hscalar =>
      rw [order_eq_then, order_eq_then, order_eq_then]
      -- first the classes decide; only within one class the values themselves do
      refine (Coherent.of_compare _ _ _).then_of_eq fun hab hbc _ => ?_
      rw [compare_rank_eq_iff] at hab hbc
      rw [compareInClass_of_isScalar hscalar, compareInClass_of_isScalar hscalar,
        compareInClass_of_isScalar (isScalar_of_class_eq hab hscalar)]
      exact coherent_compareScalars hties hab hbc hscalar ha hb hc
  | document fields ih =>
      rw [order_eq_then, order_eq_then, order_eq_then]
      refine (Coherent.of_compare _ _ _).then_of_eq fun hab hbc _ => ?_
      rw [compare_rank_eq_iff] at hab hbc
      obtain ⟨ys, rfl⟩ := eq_document hab.symm
      obtain ⟨zs, rfl⟩ := eq_document hbc.symm
      exact coherent_orderFields (fun entry hm b c => ih entry hm (ha.of_document entry hm))
        hb.of_document hc.of_document
  | array items ih =>
      rw [order_eq_then, order_eq_then, order_eq_then]
      refine (Coherent.of_compare _ _ _).then_of_eq fun hab hbc _ => ?_
      rw [compare_rank_eq_iff] at hab hbc
      obtain ⟨ys, rfl⟩ := eq_array hab.symm
      obtain ⟨zs, rfl⟩ := eq_array hbc.symm
      exact coherent_orderItems (fun item hm b c => ih item hm (ha.of_array item hm))
        hb.of_array hc.of_array

end Coherence

/-! ## The exact condition -/

theorem typeClass_of_toDouble? {value : Value} {x : Double} (h : value.toDouble? = some x) :
    value.typeClass = .number := by
  cases value <;> first | rfl | exact absurd h (by simp [toDouble?])

theorem order_of_numbers {a b : Value} (ha : a.typeClass = .number) (hb : b.typeClass = .number) :
    order a b = compareNumbers a b := by
  rw [order_of_class_eq (ha.trans hb.symm),
    compareInClass_of_isScalar (isScalar_iff.mpr (by rw [ha]; simp)), compareScalars_of_number ha]

theorem numbersIn_of_number {numbers : Value → Prop} {value : Value} (h : numbers value)
    (hnumber : value.typeClass = .number) : value.NumbersIn numbers := by
  intro s hs _
  rw [scalars_of_isScalar (isScalar_iff.mpr (by rw [hnumber]; simp))] at hs
  exact List.mem_singleton.mp hs ▸ h

namespace Tied

variable {x y z : Value}

theorem symm (h : Tied x y z) : Tied y x z := by
  obtain ⟨m, n, hne, hx, hy, hz, hm, hn⟩ := h
  exact ⟨n, m, Ne.symm hne, hy, hx, hz, hn, hm⟩

/-- In a tie either integer equals the number between them, whichever stands first. -/
theorem order_eq (h : Tied x y z) : order x z = .eq ∧ order z y = .eq := by
  obtain ⟨m, n, -, hx, hy, hz, hm, hn⟩ := h
  have hclass := typeClass_of_toDouble? hm
  rw [order_of_numbers (typeClass_of_toDouble? (toDouble?_of_integer? hx)) hclass,
    order_of_numbers hclass (typeClass_of_toDouble? (toDouble?_of_integer? hy))]
  unfold compareNumbers
  rw [hx, hy, hz, hn, toDouble?_of_integer? hx, toDouble?_of_integer? hy]
  rw [hm] at hn
  rw [Option.some.inj hn]
  exact ⟨Double.totalCompare_eq_iff.mpr rfl, Double.totalCompare_eq_iff.mpr rfl⟩

/-- The two integers of a tie are not equal. -/
theorem order_ne_eq (h : Tied x y z) : order x y ≠ .eq := by
  obtain ⟨m, n, hne, hx, hy, -, -, -⟩ := h
  rw [order_of_numbers (typeClass_of_toDouble? (toDouble?_of_integer? hx))
    (typeClass_of_toDouble? (toDouble?_of_integer? hy))]
  unfold compareNumbers
  rw [hx, hy]
  exact fun heq => hne (Int64.toInt_inj.mp (Int.compare_eq_eq.mp heq))

end Tied

/-- The 64-bit integers inside a value lie within `±2⁵³`. -/
def IntegersExact (value : Value) : Prop :=
  ∀ n : Int64, .int64 n ∈ value.scalars → n.toInt.natAbs ≤ 2 ^ 53

/-- The integers within `±2⁵³` are never tied. -/
theorem not_tied_of_exact {x y z : Value} (hx : ∀ n, x.integer? = some n → n.toInt.natAbs ≤ 2 ^ 53)
    (hy : ∀ n, y.integer? = some n → n.toInt.natAbs ≤ 2 ^ 53) : ¬Tied x y z := by
  rintro ⟨m, n, hne, hm, hn, -, hzm, hzn⟩
  rw [hzm] at hzn
  exact hne (Int64.toInt_inj.mp (Double.ofInt_injective (hx m hm) (hy n hn) (Option.some.inj hzn)))

/-- The integers of a value whose 64-bit integers are exact lie within `±2⁵³`, whatever their type. -/
theorem IntegersExact.numbersIn {value : Value} (h : value.IntegersExact) :
    value.NumbersIn fun s => ∀ n, s.integer? = some n → n.toInt.natAbs ≤ 2 ^ 53 := by
  intro s hs _ n hn
  cases s with
  | int64 m =>
      obtain rfl : m = n := Option.some.inj hn
      exact h m hs
  | int32 m =>
      obtain rfl : m.toInt64 = n := Option.some.inj hn
      have hlow := m.le_toInt
      have hhigh := m.toInt_lt
      rw [Int32.toInt_toInt64]
      omega
  | _ => exact absurd hn (by simp [integer?])

/-- **Transitivity of the order** on values whose 64-bit integers lie within `±2⁵³`. -/
theorem order_trans {a b c : Value} (ha : a.IntegersExact) (hb : b.IntegersExact)
    (hc : c.IntegersExact) (hab : order a b ≠ .gt) (hbc : order b c ≠ .gt) : order a c ≠ .gt :=
  (coherent_order (fun _ _ _ hx hy _ => not_tied_of_exact hx hy) ha.numbersIn hb.numbersIn
    hc.numbersIn).ne_gt hab hbc

/-- **When the order is a total preorder.** Every value equals itself, and turning a comparison round
reverses it. Over the values whose numbers come from some set the order is transitive exactly if no three
numbers of the set are tied; so it is over the values whose 64-bit integers lie within `±2⁵³`. -/
theorem order_total_preorder_iff (numbers : Value → Prop) :
    (∀ a, order a a = .eq) ∧ (∀ a b, order b a = (order a b).swap) ∧
    ((∀ a b c : Value, a.NumbersIn numbers → b.NumbersIn numbers → c.NumbersIn numbers →
        order a b ≠ .gt → order b c ≠ .gt → order a c ≠ .gt) ↔
      ∀ x y z, numbers x → numbers y → numbers z → ¬Tied x y z) ∧
    (∀ a b c : Value, a.IntegersExact → b.IntegersExact → c.IntegersExact →
      order a b ≠ .gt → order b c ≠ .gt → order a c ≠ .gt) := by
  refine ⟨order_self, fun a b => (order_swap a b).symm, ⟨?_, ?_⟩, fun a b c => order_trans⟩
  · intro htrans x y z hx hy hz htied
    -- of the two integers the larger one comes first
    have larger : ∀ x y, numbers x → numbers y → Tied x y z → order x y ≠ .gt := by
      intro x y hx hy h
      obtain ⟨hxz, hzy⟩ := h.order_eq
      obtain ⟨m, n, -, hm, hn, -, hzm, -⟩ := h
      exact htrans x z y
        (numbersIn_of_number hx (typeClass_of_toDouble? (toDouble?_of_integer? hm)))
        (numbersIn_of_number hz (typeClass_of_toDouble? hzm))
        (numbersIn_of_number hy (typeClass_of_toDouble? (toDouble?_of_integer? hn)))
        (by rw [hxz]; simp) (by rw [hzy]; simp)
    have hxy := larger x y hx hy htied
    have hyx := larger y x hy hx htied.symm
    have hne := htied.order_ne_eq
    rw [← order_swap x y] at hyx
    cases h : order x y with
    | lt => rw [h] at hyx; exact hyx rfl
    | eq => exact hne h
    | gt => exact hxy h
  · intro hties a b c ha hb hc hab hbc
    exact (coherent_order hties ha hb hc).ne_gt hab hbc

/-- Two integers past `2⁵³` with the double between them: equal, equal, and yet greater. -/
theorem order_not_transitive :
    order (.int64 9007199254740993) (.double ⟨0x4340000000000000⟩) = .eq ∧
    order (.double ⟨0x4340000000000000⟩) (.int64 9007199254740992) = .eq ∧
    order (.int64 9007199254740993) (.int64 9007199254740992) = .gt := by
  decide +kernel

end Value
end Docstore
