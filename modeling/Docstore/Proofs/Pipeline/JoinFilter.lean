import Docstore.Proofs.Pipeline.Lookup
import Docstore.Proofs.Value.Key
import Docstore.Query.Filter

/-!
# `Docstore.Proofs.Pipeline.JoinFilter` — a join selects what a filter accepts

A lookup finds foreign documents through hashed keys, a filter by comparing values. For a foreign field of
one segment and a local value that is no array both select the same documents, as long as no value is one
that keys and equality treat differently.

Two facts carry this. The keys a foreign document is found under are the keys of the candidates that a
filter compares (`foundUnder_iff_of_found`), and over ordinary values two keys are the same exactly if the
values are equal (`sameKey_iff_equals_of_plain`).

## Contents
- **Ordinary values.** `Value.Ordinary`; `OrdinaryScalar.plain`.
- **Keys and candidates.** `asks_iff_of_not_array`, `foundUnder_iff_of_found`, `foundUnder_iff_of_missing`.
- **Joining and filtering.** `joins_iff_equalTo` for one foreign document, `lookup_joins_accepted` for all.
-/

namespace Docstore

/-! ## Ordinary values -/

namespace Value

/-- A scalar that is not undefined, no decimal, no not-a-number and no negative zero, and that lies within
`±2⁵³` if it is a 64-bit integer. -/
def OrdinaryScalar : Value → Prop
  | undefined | decimal _ => False
  | double x => x.isNaN = false ∧ x ≠ .zero true
  | int64 n => n.toInt.natAbs ≤ 2 ^ 53
  | _ => True

/-- All scalars inside a value are ordinary. The scopes of code are not looked into. -/
def Ordinary (value : Value) : Prop := ∀ s ∈ value.scalars, s.OrdinaryScalar

instance : DecidablePred OrdinaryScalar := fun value => by
  cases value <;> unfold OrdinaryScalar <;> infer_instance

instance (value : Value) : Decidable value.Ordinary :=
  inferInstanceAs (Decidable (∀ s ∈ value.scalars, s.OrdinaryScalar))

/-- An integer within `±2⁵³` is plain. -/
theorem plain_of_integer? {value : Value} {n : Int64} (h : value.integer? = some n)
    (hn : n.toInt.natAbs ≤ 2 ^ 53) : value.Plain := by
  refine ⟨?_, fun d hd => ?_, fun m hm => ?_⟩
  · rintro rfl
    exact nomatch h
  · rw [toDouble?_of_integer? h] at hd
    obtain rfl := Option.some.inj hd
    refine ⟨fun hzero => ?_, fun hnan => absurd hnan (by rw [Double.isNaN_ofInt]; simp)⟩
    -- only zero is rounded to a zero, and to the positive one
    have hn : n.toInt = 0 := Double.eq_zero_of_isZero_ofInt (by rw [hzero]; decide +kernel)
    rw [hn] at hzero
    exact absurd hzero (by decide +kernel)
  · rw [h] at hm
    exact Option.some.inj hm ▸ hn

theorem OrdinaryScalar.plain {s : Value} (h : s.OrdinaryScalar) : s.Plain := by
  cases s with
  | undefined | decimal => exact h.elim
  | int32 n =>
      have hlow := n.le_toInt
      have hhigh := n.toInt_lt
      exact plain_of_integer? (n := n.toInt64) rfl (by rw [Int32.toInt_toInt64]; omega)
  | int64 n => exact plain_of_integer? rfl h
  | double x =>
      refine ⟨nofun, fun d hd => ?_, nofun⟩
      obtain rfl := Option.some.inj hd
      exact ⟨h.2, fun hnan => absurd (h.1.symm.trans hnan) (by simp)⟩
  | _ => exact ⟨nofun, nofun, nofun⟩

theorem Ordinary.plain {value : Value} (h : value.Ordinary) : ∀ s ∈ value.scalars, s.Plain :=
  fun s hs => (h s hs).plain

theorem Ordinary.of_array {items : List Value} (h : (array items).Ordinary) {item : Value}
    (hm : item ∈ items) : item.Ordinary :=
  fun s hs => h s (scalars_subset_array hm hs)

end Value

/-! ## Keys and candidates -/

theorem ValueKey.ofOption_eq (value : Option Value) : ofOption value = of (value.getD .null) := by
  cases value <;> rfl

/-- Null and undefined are the values with the key of null. -/
theorem ValueKey.of_eq_null_iff {value : Value} : of value = null ↔ value = .null ∨ value = .undefined := by
  refine ⟨fun h => ?_, ?_⟩
  · have hclass : value.typeClass = .null := by rw [← typeClass_of, h]; rfl
    cases value <;> simp_all [Value.typeClass]
  · rintro (rfl | rfl) <;> rfl

/-- Where nothing is found, nothing but null is equal to it. -/
theorem Filter.equalTo_none_iff {constant : Value} : equalTo none constant = true ↔ constant = .null := by
  cases constant <;> simp [equalTo]

theorem Filter.mem_candidates_self (found : Value) : found ∈ candidates (some found) := by
  cases found <;> simp [candidates]

/-- The values that are tested are ordinary if what is found is. -/
theorem Filter.ordinary_of_mem_candidates {found value : Value} (h : found.Ordinary)
    (hm : value ∈ Filter.candidates (some found)) : value.Ordinary := by
  cases found with
  | array items =>
      rcases List.mem_cons.mp hm with rfl | hm
      · exact h
      · exact h.of_array hm
  | _ =>
      obtain rfl := List.mem_singleton.mp hm
      exact h

namespace Lookup

variable {lookup : Lookup} {document foreign : Fields} {key : ValueKey}

/-- The value that a document asks for. A missing one counts as null. -/
def wanted (lookup : Lookup) (document : Fields) : Value :=
  (resolve document lookup.localField).getD .null

/-- A document whose local field holds no array asks for one value. -/
theorem asks_iff_of_not_array (h : ∀ items, resolve document lookup.localField ≠ some (.array items)) :
    lookup.Asks document key ↔ key = .of (lookup.wanted document) := by
  rw [wanted, ← ValueKey.ofOption_eq]
  constructor
  · rintro (⟨hfound, -⟩ | -)
    · exact absurd hfound (h _)
    · rfl
  · rintro rfl
    exact .whole h

/-- A foreign document without the foreign field is found under the key of null alone. -/
theorem foundUnder_iff_of_missing (h : resolve foreign lookup.foreignField = none) :
    lookup.FoundUnder foreign key ↔ key = .null := by
  have hwhole : ValueKey.ofOption (resolve foreign lookup.foreignField) = .null := by rw [h]; rfl
  constructor
  · rintro (⟨hfound, -⟩ | -)
    · rw [h] at hfound
      exact nomatch hfound
    · exact hwhole
  · rintro rfl
    exact hwhole ▸ .whole

/-- **The keys a foreign document is found under** are those of the candidates of its foreign field. -/
theorem foundUnder_iff_of_found {found : Value} (h : resolve foreign lookup.foreignField = some found) :
    lookup.FoundUnder foreign key ↔
      ∃ value ∈ Filter.candidates (some found), ValueKey.of value = key := by
  have hwhole : ValueKey.ofOption (resolve foreign lookup.foreignField) = .of found := by rw [h]; rfl
  constructor
  · rintro (⟨hitems, hm⟩ | -)
    · rw [h] at hitems
      obtain rfl := Option.some.inj hitems
      exact ⟨_, List.mem_cons_of_mem _ hm, rfl⟩
    · exact ⟨found, Filter.mem_candidates_self found, hwhole.symm⟩
  · rintro ⟨value, hm, rfl⟩
    cases found with
    | array items =>
        rcases List.mem_cons.mp hm with rfl | hm
        · exact hwhole ▸ .whole
        · exact .item h hm
    | _ =>
        obtain rfl := List.mem_singleton.mp hm
        exact hwhole ▸ .whole

/-! ## Joining and filtering -/

/-- **One foreign document.** It joins exactly if what its foreign field holds is equal to the value that
is asked for, in the sense of a filter. -/
theorem joins_iff_equalTo (hlocal : ∀ items, resolve document lookup.localField ≠ some (.array items))
    (hwanted : (lookup.wanted document).Ordinary)
    (hforeign : ∀ value, resolve foreign lookup.foreignField = some value → value.Ordinary) :
    lookup.Joins document foreign ↔
      Filter.equalTo (resolve foreign lookup.foreignField) (lookup.wanted document) = true := by
  -- without an array there is one key to ask for
  have hjoins : lookup.Joins document foreign ↔
      lookup.FoundUnder foreign (.of (lookup.wanted document)) := by
    unfold Joins
    simp only [asks_iff_of_not_array hlocal, exists_eq_left]
  rw [hjoins]
  cases hfound : resolve foreign lookup.foreignField with
  | none =>
      rw [foundUnder_iff_of_missing hfound, ValueKey.of_eq_null_iff]
      constructor
      · -- undefined has the key of null, but is no ordinary value
        rintro (hnull | hundefined)
        · rw [hnull]; rfl
        · rw [hundefined] at hwanted
          exact (hwanted .undefined (List.mem_singleton.mpr rfl)).elim
      · exact fun h => .inl (Filter.equalTo_none_iff.mp h)
  | some found =>
      rw [foundUnder_iff_of_found hfound]
      show _ ↔ (Filter.candidates (some found)).any _ = true
      rw [List.any_eq_true]
      -- the keys of a found value are those of its candidates, and of plain values they tell equality
      refine exists_congr fun value => and_congr_right fun hm => ?_
      have hvalue := Filter.ordinary_of_mem_candidates (hforeign found hfound) hm
      exact Value.sameKey_iff_equals_of_plain hvalue.plain hwanted.plain

end Lookup

/-- On a path of one segment there is nothing to fan out over. -/
theorem resolvePresent_eq_resolve {path : FieldPath} {name : String} (h : path.segments = [name])
    (fields : Fields) : resolvePresent fields path = resolve fields path := by
  unfold resolvePresent resolve
  rw [h]
  rfl

/-- **A join selects what a filter accepts.** Let the foreign field have one segment, let the local value be
missing or no array, and let it and the values of the foreign field be ordinary. Then the documents that
are joined through the index of a collection are those which the filter for equality of the foreign field
with the local value accepts, or with null if that is missing. -/
theorem lookup_joins_accepted (lookup : Lookup) {name : String}
    (hfield : lookup.foreignField.segments = [name]) (snapshot : List Fields) (document : Fields)
    (hlocal : ∀ items, resolve document lookup.localField ≠ some (.array items))
    (hwanted : (lookup.wanted document).Ordinary)
    (hforeign : ∀ foreign ∈ snapshot, ∀ value,
      resolve foreign lookup.foreignField = some value → value.Ordinary) :
    let accepted := snapshot.filter
      (Filter.compared lookup.foreignField .equal (lookup.wanted document)).accepts
    (ForeignIndex.build lookup snapshot).matching (lookup.localKeys document) = accepted ∧
    (ForeignIndex.build lookup snapshot).attach lookup document =
      setPath document lookup.target (.array (accepted.map .document)) := by
  have hmatching : (ForeignIndex.build lookup snapshot).matching (lookup.localKeys document) =
      snapshot.filter (Filter.compared lookup.foreignField .equal (lookup.wanted document)).accepts := by
    rw [ForeignIndex.matching_eq_filter (ForeignIndex.faithful_build lookup snapshot)]
    refine List.filter_congr fun foreign hm => ?_
    show _ = Filter.equalTo (resolvePresent foreign lookup.foreignField) (lookup.wanted document)
    rw [resolvePresent_eq_resolve hfield, Bool.eq_iff_iff, decide_eq_true_eq, ← Lookup.joins_iff]
    exact Lookup.joins_iff_equalTo hlocal hwanted (hforeign foreign hm)
  refine ⟨hmatching, ?_⟩
  unfold ForeignIndex.attach
  rw [hmatching]

/-- Of five orders the lookup of the integer one joins those with a whole double one inside an array or
with the integer itself, and not those with a text, without the field or with other items. -/
theorem lookup_joins_accepted_orders :
    let orders : List Fields := [
      [("number", .array [.string "x", .double ⟨0x3FF0000000000000⟩])], [("number", .string "1")], [],
      [("number", .int32 1)], [("number", .array [.array [.int32 1], .document [("a", .int32 1)]])]]
    let lookup : Lookup :=
      ⟨"orders", ⟨["wanted"], by simp⟩, ⟨["number"], by simp⟩, ⟨["found"], by simp⟩⟩
    (ForeignIndex.build lookup orders).attach lookup [("wanted", .int64 1)] =
      [("wanted", .int64 1), ("found", .array [
        .document [("number", .array [.string "x", .double ⟨0x3FF0000000000000⟩])],
        .document [("number", .int32 1)]])] := by
  intro orders lookup
  have hlocal : ∀ items, resolve [("wanted", .int64 1)] lookup.localField ≠ some (.array items) := by
    intro items
    exact nofun
  have hforeign : ∀ foreign ∈ orders, ∀ value,
      resolve foreign lookup.foreignField = some value → value.Ordinary := by
    intro foreign hm value hvalue
    have hall : ∀ foreign ∈ orders,
        ∀ value ∈ (resolve foreign lookup.foreignField).toList, value.Ordinary := by
      decide +kernel
    exact hall foreign hm value (Option.mem_toList.mpr hvalue)
  obtain ⟨-, hattach⟩ := lookup_joins_accepted lookup rfl orders [("wanted", .int64 1)] hlocal
    (by decide +kernel) hforeign
  have htests : orders.map (Filter.compared lookup.foreignField .equal (.int64 1)).accepts =
      [true, false, false, true, false] := by
    decide +kernel
  simp only [orders, List.map_cons, List.map_nil, List.cons.injEq, and_true] at htests
  obtain ⟨hdouble, htext, hmissing, hinteger, hnested⟩ := htests
  have hwanted : lookup.wanted [("wanted", .int64 1)] = .int64 1 := rfl
  simp only [orders, hwanted, List.filter_cons, hdouble, htext, hmissing, hinteger, hnested] at hattach
  exact hattach

end Docstore
