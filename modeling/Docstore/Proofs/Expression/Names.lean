import Docstore.Expression.Reader
import Docstore.Proofs.Except
import Mathlib.Data.List.Forall2

/-!
# `Docstore.Proofs.Expression.Names` — the names of computed members

A document that is no literal and no date operation is read as an object of expressions. Every one of its keys
is tested for a dot, but only the first for a dollar sign. So the objects of an expression, at any depth, have
no dotted names and do not begin with an operator; an operator that stands behind another key becomes the name
of a member.

An expression has the objects that are written, with the names that are written (`names_of_hasObject`,
`names_of_writesObject`). Both directions are inductions on where the object stands, with `reads` for one level.

## Contents
- **Objects.** `IsObject`, `WritesObject`, `HasObject`.
- **One level.** `Reads`, `ReadsMember`; `reads` and `readsMembers`.
- **All levels.** `names_of_hasObject`, `names_of_writesObject`.
- **Names.** `member_names_exact`, and an operator behind another key.
-/

namespace Docstore.Expression

variable {now : Option Instant} {value : Value} {expression : Expression} {fields : Fields}
  {members : List (String × Expression)}

/-! ## Objects -/

/-- A document that stands for an object of expressions: no literal and no date operation. -/
def IsObject (fields : Fields) : Prop :=
  (∀ value, fields ≠ [("$literal", value)]) ∧ dateOperation? (.document fields) = none

/-- A document stands for an object in what is written, at any depth. -/
inductive WritesObject : Value → Fields → Prop where
  | here {fields : Fields} (hobject : IsObject fields) : WritesObject (.document fields) fields
  | member {fields inner : Fields} {name : String} {value : Value} (hobject : IsObject fields)
      (hm : (name, value) ∈ fields) (hinside : WritesObject value inner) :
      WritesObject (.document fields) inner

/-- An expression has an object of these members, at any depth. -/
inductive HasObject : Expression → List (String × Expression) → Prop where
  | here {members : List (String × Expression)} : HasObject (.object members) members
  | member {members inner : List (String × Expression)} {name : String} {expression : Expression}
      (hm : (name, expression) ∈ members) (hinside : HasObject expression inner) :
      HasObject (.object members) inner

/-! ## One level -/

/-- What a value is read as. -/
inductive Reads (now : Option Instant) : Value → Expression → Prop where
  | object {fields : Fields} {members : List (String × Expression)} (hobject : IsObject fields)
      (hfirst : ∀ name ∈ (Entries.names fields).head?, Text.beginsWith '$' name = false)
      (hread : ofMembers now fields = .ok members) : Reads now (.document fields) (.object members)
  | other {value : Value} {expression : Expression} (hvalue : ∀ inner, ¬WritesObject value inner)
      (hexpression : ∀ inner, ¬HasObject expression inner) : Reads now value expression

theorem not_writesObject_of_not_isObject (h : ¬IsObject fields) (inner : Fields) :
    ¬WritesObject (.document fields) inner := by
  rintro (hobject | ⟨hobject, -, -⟩)
  · exact h hobject
  · exact h hobject

theorem not_hasObject_of_readConstant (h : readConstant now value = .ok expression)
    (inner : List (String × Expression)) : ¬HasObject expression inner := by
  unfold readConstant at h
  split at h
  · obtain rfl := Except.ok.inj h
    exact nofun
  · exact nomatch h

theorem not_hasObject_of_readText {text : String} (h : readText now text = .ok expression)
    (inner : List (String × Expression)) : ¬HasObject expression inner := by
  unfold readText at h
  split at h
  · split at h
    · obtain rfl := Except.ok.inj h
      exact nofun
    · split at h
      · exact not_hasObject_of_readConstant h inner
      · exact nomatch h
  · unfold readReference at h
    split at h
    · obtain rfl := Except.ok.inj h
      exact nofun
    · exact nomatch h
  · obtain rfl := Except.ok.inj h
    exact nofun

theorem not_writesObject_of_ne (h : ∀ fields, value ≠ .document fields) (inner : Fields) :
    ¬WritesObject value inner := by
  intro hwrites
  cases hwrites with
  | here => exact h _ rfl
  | member => exact h _ rfl

/-- **One level.** A document that stands for an object is read as one and does not begin with an operator;
nothing else that is read has to do with objects. -/
theorem reads (h : ofValue now value = .ok expression) : Reads now value expression := by
  unfold ofValue at h
  split at h
  next text => exact .other nofun (not_hasObject_of_readText h)
  next =>
    obtain rfl := Except.ok.inj h
    exact .object ⟨nofun, rfl⟩ nofun rfl
  next key value rest =>
    split at h
    -- a literal of one member is read as a constant
    next hliteral =>
      obtain ⟨rfl, hrest⟩ := hliteral
      obtain rfl := List.isEmpty_iff.mp hrest
      obtain rfl := Except.ok.inj h
      exact .other (not_writesObject_of_not_isObject fun hobject => hobject.1 value rfl) nofun
    next hliteral =>
    split at h
    next hdate =>
      refine .other (not_writesObject_of_not_isObject fun hobject => ?_) (not_hasObject_of_readConstant h)
      rw [hobject.2] at hdate
      exact nomatch hdate
    next hdate =>
    split at h
    next => exact nomatch h
    -- no operator in front: the members are read, and a single literal or a date operation is ruled out
    next hoperator =>
      obtain ⟨members, hread, hmembers⟩ := bind_eq_ok_iff.mp h
      obtain rfl := Except.ok.inj hmembers
      refine .object ⟨?_, Option.not_isSome_iff_eq_none.mp hdate⟩ ?_ hread
      · rintro other heq
        obtain ⟨hentry, rfl⟩ := List.cons.inj heq
        exact hliteral ⟨(Prod.mk.inj hentry).1, rfl⟩
      · rintro name hname
        obtain rfl := Option.some.inj hname
        exact Bool.eq_false_iff.mpr hoperator
  next hstring hempty hcons =>
    obtain rfl := Except.ok.inj h
    refine .other (not_writesObject_of_ne ?_) nofun
    rintro (_ | ⟨⟨key, first⟩, rest⟩) rfl
    · exact hempty rfl
    · exact hcons key first rest rfl

/-- What a key and a value of an object are read as. -/
structure ReadsMember (now : Option Instant) (entry : String × Value) (member : String × Expression) :
    Prop where
  name : member.1 = entry.1
  undotted : isDotted entry.1 = false
  read : ofValue now entry.2 = .ok member.2

/-- **Members are read one by one:** each name stays, and each value is read by itself. -/
theorem readsMembers (h : ofMembers now fields = .ok members) :
    List.Forall₂ (ReadsMember now) fields members := by
  induction fields generalizing members with
  | nil =>
      obtain rfl := Except.ok.inj h
      exact .nil
  | cons entry rest ih =>
      obtain ⟨name, value⟩ := entry
      unfold ofMembers at h
      split at h
      next => exact nomatch h
      next hdotted =>
        obtain ⟨member, hread, h⟩ := bind_eq_ok_iff.mp h
        obtain ⟨others, rfl, hothers⟩ := cons_eq_ok h
        exact .cons ⟨rfl, Bool.eq_false_iff.mpr hdotted, hread⟩ (ih hothers)

/-- The keys of an object are the names of its members. -/
theorem names_of_readsMembers (h : List.Forall₂ (ReadsMember now) fields members) :
    Entries.names members = Entries.names fields := by
  induction h with
  | nil => rfl
  | cons hmember _ ih => exact congrArg₂ List.cons hmember.name ih

/-- What stands in the first of two lists that are related item by item is related to something in the
second. -/
theorem exists_related_of_mem {α β : Type} {related : α → β → Prop} {xs : List α} {ys : List β} {x : α}
    (h : List.Forall₂ related xs ys) (hm : x ∈ xs) : ∃ y ∈ ys, related x y := by
  induction h with
  | nil => exact nomatch hm
  | @cons first second _ _ hfirst _ ih =>
      rcases List.mem_cons.mp hm with rfl | hm
      · exact ⟨second, List.mem_cons_self, hfirst⟩
      · obtain ⟨y, hy, hrelated⟩ := ih hm
        exact ⟨y, List.mem_cons_of_mem _ hy, hrelated⟩

/-! ## All levels -/

/-- **Every object of an expression is written,** with the same names. -/
theorem names_of_hasObject (h : ofValue now value = .ok expression) (hhas : HasObject expression members) :
    ∃ fields, WritesObject value fields ∧ Entries.names members = Entries.names fields := by
  induction hhas generalizing value with
  | here =>
      cases reads h with
      | object hobject hfirst hread =>
          exact ⟨_, .here hobject, names_of_readsMembers (readsMembers hread)⟩
      | other hvalue hexpression => exact absurd .here (hexpression _)
  | @member members inner name part hm hinside ih =>
      cases reads h with
      | object hobject hfirst hread =>
          obtain ⟨entry, hentry, hmember⟩ := exists_related_of_mem (readsMembers hread).flip hm
          obtain ⟨fields, hwrites, hnames⟩ := ih hmember.read
          exact ⟨fields, .member hobject hentry hwrites, hnames⟩
      | other hvalue hexpression => exact absurd (.member hm hinside) (hexpression _)

/-- **Every object that is written is one of the expression,** with the same names. None of them is dotted, and
the first is no operator. -/
theorem names_of_writesObject (h : ofValue now value = .ok expression) (hwrites : WritesObject value fields) :
    (∃ members, HasObject expression members ∧ Entries.names members = Entries.names fields) ∧
    (∀ name ∈ Entries.names fields, isDotted name = false) ∧
    ∀ name ∈ (Entries.names fields).head?, Text.beginsWith '$' name = false := by
  induction hwrites generalizing expression with
  | here hobject =>
      cases reads h with
      | object _ hfirst hread =>
          have hmembers := readsMembers hread
          refine ⟨⟨_, .here, names_of_readsMembers hmembers⟩, ?_, hfirst⟩
          intro name hname
          obtain ⟨entry, hentry, rfl⟩ := List.mem_map.mp hname
          obtain ⟨member, -, hmember⟩ := exists_related_of_mem hmembers hentry
          exact hmember.undotted
      | other hvalue => exact absurd (.here hobject) (hvalue _)
  | member hobject hm hinside ih =>
      cases reads h with
      | object _ hfirst hread =>
          obtain ⟨⟨name, part⟩, hpart, hmember⟩ := exists_related_of_mem (readsMembers hread) hm
          obtain ⟨⟨members, hhas, hnames⟩, hchecked⟩ := ih hmember.read
          exact ⟨⟨members, .member hpart hhas, hnames⟩, hchecked⟩
      | other hvalue => exact absurd (.member hobject hm hinside) (hvalue _)

/-! ## Names -/

/-- **The names of computed members.** A written expression is rejected if an object in it, at any depth, has a
dotted name or begins with an operator. Where one is read, its objects have no dotted names and none of them
begins with an operator; and none of their names is an operator at all exactly if no object that is written has
an operator behind its first name. -/
theorem member_names_exact (now : Option Instant) (value : Value) :
    (∀ fields, WritesObject value fields →
      (∃ name ∈ Entries.names fields, isDotted name = true) ∨
        (∃ name ∈ (Entries.names fields).head?, Text.beginsWith '$' name = true) →
      ∃ cause, ofValue now value = .error cause) ∧
    ∀ expression, ofValue now value = .ok expression →
      (∀ members, HasObject expression members →
        (∀ name ∈ Entries.names members, isDotted name = false) ∧
          ∀ name ∈ (Entries.names members).head?, Text.beginsWith '$' name = false) ∧
      ((∀ members, HasObject expression members →
          ∀ name ∈ Entries.names members, Text.beginsWith '$' name = false) ↔
        ∀ fields, WritesObject value fields →
          ∀ name ∈ (Entries.names fields).tail, Text.beginsWith '$' name = false) := by
  constructor
  · intro fields hwrites hbad
    cases hread : ofValue now value with
    | error cause => exact ⟨cause, rfl⟩
    | ok expression =>
        obtain ⟨-, hundotted, hfirst⟩ := names_of_writesObject hread hwrites
        rcases hbad with ⟨name, hname, hdotted⟩ | ⟨name, hname, hoperator⟩
        · rw [hundotted name hname] at hdotted
          exact nomatch hdotted
        · rw [hfirst name hname] at hoperator
          exact nomatch hoperator
  · intro expression hread
    have hchecked : ∀ members, HasObject expression members →
        (∀ name ∈ Entries.names members, isDotted name = false) ∧
          ∀ name ∈ (Entries.names members).head?, Text.beginsWith '$' name = false := by
      intro members hhas
      obtain ⟨fields, hwrites, hnames⟩ := names_of_hasObject hread hhas
      rw [hnames]
      exact (names_of_writesObject hread hwrites).2
    refine ⟨hchecked, ?_, ?_⟩
    · intro hplain fields hwrites name hname
      obtain ⟨⟨members, hhas, hnames⟩, -⟩ := names_of_writesObject hread hwrites
      refine hplain members hhas name ?_
      rw [hnames]
      exact List.mem_of_mem_tail hname
    · intro hplain members hhas name hname
      obtain ⟨fields, hwrites, hnames⟩ := names_of_hasObject hread hhas
      have hfirst := (hchecked members hhas).2
      rw [hnames] at hname hfirst
      -- a name is the first one or stands behind it
      cases hlist : Entries.names fields with
      | nil => rw [hlist] at hname; exact nomatch hname
      | cons first rest =>
          rw [hlist] at hname hfirst
          rcases List.mem_cons.mp hname with rfl | hrest
          · exact hfirst name rfl
          · refine hplain fields hwrites name ?_
            rw [hlist]
            exact hrest

/-- An operator that begins an object below a member is rejected. Below a literal it is not looked at, and the
expression has the names that are written beside it. -/
theorem member_names_exact_nested :
    let sum : Value := .document [("$add", .array [.int32 1, .int32 2])]
    (∃ cause, ofValue none (.document [("total", sum)]) = .error cause) ∧
    let value : Value := .document [("price", .string "$price"), ("total", .document [("$literal", sum)])]
    let members := [("price", field ⟨["price"], by decide⟩), ("total", literal sum)]
    ofValue none value = .ok (.object members) ∧
      ∀ name ∈ Entries.names members, isDotted name = false := by
  intro sum
  have hinner : WritesObject sum [("$add", .array [.int32 1, .int32 2])] := .here ⟨by simp, rfl⟩
  have hwrites : WritesObject (.document [("total", sum)]) [("$add", .array [.int32 1, .int32 2])] :=
    .member ⟨by simp, rfl⟩ List.mem_cons_self hinner
  refine ⟨(member_names_exact none _).1 _ hwrites (.inr ⟨"$add", rfl, rfl⟩), ?_⟩
  intro value members
  have hread : ofValue none value = .ok (.object members) := rfl
  exact ⟨hread, (((member_names_exact none value).2 _ hread).1 members .here).1⟩

/-- An operator behind another key is read as the name of a member. -/
theorem operator_behind_member_accepted :
    let value : Value := .document [("a", .int32 1), ("$add", .array [.int32 1, .int32 2])]
    ∃ expression members, ofValue none value = .ok expression ∧ HasObject expression members ∧
      "$add" ∈ Entries.names members ∧ Text.beginsWith '$' "$add" = true := by
  intro value
  refine ⟨_, _, rfl, .here, ?_, rfl⟩
  exact List.mem_cons_of_mem _ List.mem_cons_self

end Docstore.Expression
