/-
**Decoding is exact.**

A shape makes demands on a value: at each place that the host wants to know, a kind is expected there.
The demands come from left to right and from the outside in; `null` where a shape is optional, and a place
at which any value will do, make none. A value is read at a shape exactly when it has the shape, which is
when all demands are met; otherwise the error is that of the first one that is not. An item that has been
read is the value, but for whole numbers that were read as fractions.

* `Shape.Fits`: the values that have a shape;
* `Demand`, `Shape.demands`: what a shape demands of a value, in order;
* `Shape.restored`: a value as it comes back from a shape;
* `Shape.reads`: **a value is read as far as the demands on it are met**;
* `Shape.decode_exact`: **decoding is exact**, item by item as well.
-/

import ShellSession.Value.Shape

namespace ShellSession

/-! ### Rows of results -/

namespace Shape

section Collect

variable {ε α β : Type} {f : α → Except ε β} {values : List α} {items : List β} {error : ε}

/-- **There is a result for each value**, in the same order. -/
theorem collect_eq_ok_iff : collect f values = .ok items ↔ values.map f = items.map .ok := by
  induction values generalizing items with
  | nil => cases items <;> simp [collect]
  | cons value rest ih =>
    cases read : f value with
    | error _ => cases items <;> simp [collect, read]
    | ok item =>
      cases collected : collect f rest with
      | error _ =>
        have none (others : List β) : rest.map f ≠ others.map .ok := by
          intro same
          simpa [collected] using ih.mpr same
        cases items <;> simp [collect, read, collected, none]
      | ok others =>
        have same := ih.mp collected
        cases items <;>
          simp [collect, read, collected, same, List.map_inj_right fun _ _ => Except.ok.inj]

/-- **The error is that of the first value that has one.** -/
theorem collect_eq_error_iff : collect f values = .error error ↔
    ∃ before value after, values = before ++ value :: after ∧
      (∀ other ∈ before, ∃ item, f other = .ok item) ∧ f value = .error error := by
  induction values with
  | nil => simp [collect]
  | cons value rest ih =>
    constructor
    · intro failed
      cases read : f value with
      | error other =>
        have same : other = error := by simpa [collect, read] using failed
        exact ⟨[], value, rest, rfl, by simp, same ▸ read⟩
      | ok item =>
        have further : collect f rest = .error error := by
          cases collected : collect f rest <;> simp_all [collect]
        obtain ⟨before, first, after, rfl, fine, fails⟩ := ih.mp further
        exact ⟨value :: before, first, after, rfl, by simpa [read] using fine, fails⟩
    · rintro ⟨_ | ⟨_, before⟩, first, after, split, fine, fails⟩
      · obtain ⟨rfl, rfl⟩ := List.cons.inj split
        simp [collect, fails]
      · obtain ⟨rfl, rfl⟩ := List.cons.inj split
        obtain ⟨⟨item, read⟩, fine⟩ := List.forall_mem_cons.mp fine
        have further : collect f (before ++ first :: after) = .error error :=
          ih.mpr ⟨before, first, after, rfl, fine, fails⟩
        simp [collect, read, further]

end Collect

end Shape

/-! ### Values that have a shape -/

/-- The values that have a shape. `null` has optional shapes only, and that of any value; a whole number
may stand where a fraction is expected. -/
inductive Shape.Fits : Shape → Value → Prop
  | any (value : Value) : Fits .any value
  | int (number : Int64) : Fits .int (.int number)
  | float (number : Float) : Fits .float (.float number)
  | whole (number : Int64) : Fits .float (.int number)
  | bool (truth : Bool) : Fits .bool (.bool truth)
  | text (chars : String) : Fits .text (.text chars)
  | absent (shape : Shape) : Fits (.optional shape) .null
  | present {shape : Shape} {value : Value} : Fits shape value → Fits (.optional shape) value
  | list {shape : Shape} {items : List Value} :
      (∀ item ∈ items, Fits shape item) → Fits (.list shape) (.list items)

/-! ### Demands -/

/-- A kind that is expected at a place of a value, and what is there. -/
structure Demand where
  expected : String
  found : Value

namespace Demand

/-- Whether a demand is for a fraction where a whole number is. -/
def isWidened (demand : Demand) : Bool :=
  demand.expected = "float" && demand.found.kind = "int"

/-- Whether a demand is met: by the kind that is expected, or by a whole number for a fraction. -/
def isMet (demand : Demand) : Bool :=
  demand.found.kind = demand.expected || demand.isWidened

end Demand

namespace Shape

/-- The demands of a shape on a value, from left to right and from the outside in. -/
def demands : Shape → Value → List Demand
  | any, _ => []
  | int, value => [⟨"int", value⟩]
  | float, value => [⟨"float", value⟩]
  | bool, value => [⟨"bool", value⟩]
  | text, value => [⟨"string", value⟩]
  | optional shape, value => if value.isNull then [] else shape.demands value
  | list shape, value =>
    ⟨"list", value⟩ ::
      match value with
      | .list items => items.flatMap shape.demands
      | _ => []

/-- A value as it comes back from a shape: whole numbers that were read as fractions are fractions. -/
def restored : Shape → Value → Value
  | float, .int number => .float (Decimal.ofInt number.toInt)
  | optional shape, value => if value.isNull then value else shape.restored value
  | list shape, .list items => .list (items.map shape.restored)
  | _, value => value

variable {shape : Shape} {value : Value}

/-- The first demand on a value that is not met. -/
def unmet? (shape : Shape) (value : Value) : Option Demand :=
  (shape.demands value).find? fun demand => !demand.isMet

/-! ### Null, and lists -/

theorem isNull_eq_true_iff : value.isNull = true ↔ value = .null := by
  cases value <;> simp [Value.isNull]

theorem decode_present (present : value.isNull = false) :
    decode (optional shape) value = (shape.decode value).map some := by
  cases value <;> simp_all [decode, Value.isNull]

theorem unmet?_optional : (optional shape).unmet? value =
    if value.isNull then none else shape.unmet? value := by
  simp only [unmet?, demands]
  split <;> rfl

theorem fits_optional_iff : Fits (optional shape) value ↔ value.isNull = true ∨ Fits shape value := by
  rw [isNull_eq_true_iff]
  constructor
  · rintro (_ | _ | _ | _ | _ | _ | _ | present)
    · exact .inl rfl
    · exact .inr present
  · rintro (rfl | fits)
    · exact .absent shape
    · exact .present fits

theorem unmet?_list (items : List Value) :
    (list shape).unmet? (.list items) = items.findSome? shape.unmet? := by
  simp only [unmet?, demands]
  rw [List.find?_cons_of_neg (by simp [Demand.isMet, Value.kind]), List.find?_flatMap]
  rfl

theorem fits_list_iff (items : List Value) :
    Fits (list shape) (.list items) ↔ ∀ item ∈ items, Fits shape item :=
  ⟨fun fits => by cases fits; assumption, .list⟩

/-! ### Reading -/

/-- **A value has a shape exactly when all demands on it are met.** -/
theorem fits_iff_unmet? (shape : Shape) (value : Value) :
    Fits shape value ↔ shape.unmet? value = none := by
  induction shape generalizing value with
  | any => exact iff_of_true (.any value) rfl
  | optional shape ih =>
    rw [fits_optional_iff, unmet?_optional, ih]
    cases value.isNull <;> simp
  | list shape ih =>
    cases value with
    | list items => simp [fits_list_iff, unmet?_list, ih]
    | _ => exact iff_of_false nofun nofun
  | float =>
    cases value with
    | float number => exact iff_of_true (.float number) rfl
    | int number => exact iff_of_true (.whole number) rfl
    | _ => exact iff_of_false nofun nofun
  | int =>
    cases value with
    | int number => exact iff_of_true (.int number) rfl
    | _ => exact iff_of_false nofun nofun
  | bool =>
    cases value with
    | bool truth => exact iff_of_true (.bool truth) rfl
    | _ => exact iff_of_false nofun nofun
  | text =>
    cases value with
    | text chars => exact iff_of_true (.text chars) rfl
    | _ => exact iff_of_false nofun nofun

/-- What a value comes to at a shape: an item, or the mismatch of the first demand that is not met. -/
def Reads (shape : Shape) (value : Value) : Prop :=
  match shape.unmet? value with
  | none => ∃ item, shape.decode value = .ok item
  | some demand => shape.decode value = .error ⟨demand.expected, demand.found.kind⟩

/-- **A value is read as far as the demands on it are met.** -/
theorem reads (shape : Shape) (value : Value) : shape.Reads value := by
  induction shape generalizing value with
  | any => exact ⟨value, rfl⟩
  | int | float | bool | text =>
    cases value <;>
      simp [Reads, unmet?, demands, Demand.isMet, Demand.isWidened, Value.kind, decode, mismatch]
  | optional shape ih =>
    unfold Reads
    rw [unmet?_optional]
    cases null : value.isNull with
    | true =>
      obtain rfl := isNull_eq_true_iff.mp null
      exact ⟨none, rfl⟩
    | false =>
      have inner := ih value
      unfold Reads at inner
      rw [decode_present null, if_neg (by simp)]
      split at inner
      · obtain ⟨item, read⟩ := inner
        exact ⟨some item, by rw [read]; rfl⟩
      · rw [inner]
        rfl
  | list shape ih =>
    cases value with
    | list items =>
      unfold Reads
      rw [unmet?_list]
      show match items.findSome? shape.unmet? with
        | none => ∃ row, collect shape.decode items = .ok row
        | some demand => collect shape.decode items = .error ⟨demand.expected, demand.found.kind⟩
      have fine (item : Value) (met : shape.unmet? item = none) :
          ∃ read, shape.decode item = .ok read := by
        have inner := ih item
        rwa [Reads, met] at inner
      split
      · rename_i met
        rw [List.findSome?_eq_none_iff] at met
        cases collected : collect shape.decode items with
        | ok row => exact ⟨row, rfl⟩
        | error error =>
          obtain ⟨before, item, after, rfl, -, fails⟩ := collect_eq_error_iff.mp collected
          obtain ⟨read, reads⟩ := fine item (met item (by simp))
          simp [reads] at fails
      · rename_i demand first
        obtain ⟨before, item, after, rfl, found, met⟩ := List.findSome?_eq_some_iff.mp first
        have inner := ih item
        rw [Reads, found] at inner
        exact collect_eq_error_iff.mpr
          ⟨before, item, after, rfl, fun other member => fine other (met other member), inner⟩
    | _ => rfl

theorem exists_decode_iff (shape : Shape) (value : Value) :
    (∃ item, shape.decode value = .ok item) ↔ Fits shape value := by
  have reads := shape.reads value
  rw [fits_iff_unmet?]
  unfold Reads at reads
  split at reads
  · exact iff_of_true reads ‹_›
  · simp [*]

/-- **The error is that of the first demand that is not met.** -/
theorem decode_eq_error_iff (shape : Shape) (value : Value) (mismatch : Mismatch) :
    shape.decode value = .error mismatch ↔ ∃ before demand after,
      shape.demands value = before ++ demand :: after ∧ (∀ other ∈ before, other.isMet = true) ∧
        demand.isMet = false ∧ mismatch = ⟨demand.expected, demand.found.kind⟩ := by
  have reads := shape.reads value
  unfold Reads at reads
  constructor
  · intro failed
    split at reads
    · simp [failed] at reads
    · rename_i demand first
      obtain ⟨unmet, before, after, split, met⟩ := List.find?_eq_some_iff_append.mp first
      refine ⟨before, demand, after, split, by simpa using met, by simpa using unmet, ?_⟩
      exact Except.error.inj (failed.symm.trans reads)
  · rintro ⟨before, demand, after, split, met, unmet, rfl⟩
    have first : shape.unmet? value = some demand :=
      List.find?_eq_some_iff_append.mpr ⟨by simpa using unmet, before, after, split, by simpa using met⟩
    rwa [first] at reads

/-! ### Writing back -/

/-- **An item that has been read is the value as it comes back from the shape.** -/
theorem encode_decode {item : shape.Item} (read : shape.decode value = .ok item) :
    shape.encode item = shape.restored value := by
  induction shape generalizing value with
  | any =>
    obtain rfl : value = item := Except.ok.inj read
    rfl
  | int | float | bool | text =>
    cases value <;> simp_all [decode, encode, restored]
  | optional shape ih =>
    cases null : value.isNull with
    | true =>
      obtain rfl := isNull_eq_true_iff.mp null
      obtain rfl : none = item := Except.ok.inj read
      rfl
    | false =>
      rw [decode_present null] at read
      cases inner : shape.decode value with
      | error mismatch => simp [inner, Except.map] at read
      | ok content =>
        obtain rfl : some content = item := by simpa [inner, Except.map] using read
        simp [encode, restored, null, ih inner]
  | list shape ih =>
    cases value with
    | list values =>
      have same : values.map shape.decode = item.map .ok := collect_eq_ok_iff.mp read
      simp only [encode, restored, Value.list.injEq]
      clear read
      induction values generalizing item with
      | nil => cases item <;> simp_all
      | cons value values further =>
        cases item with
        | nil => simp at same
        | cons first item =>
          obtain ⟨read, same⟩ := List.cons.inj same
          simp [ih read, further same]
    | _ => simp [decode] at read

/-- **Nothing is changed on the way** where no whole number is read as a fraction. -/
theorem restored_eq (shape : Shape) (value : Value)
    (kept : ∀ demand ∈ shape.demands value, demand.isWidened = false) :
    shape.restored value = value := by
  induction shape generalizing value with
  | any => rfl
  | int | bool | text => rfl
  | float => cases value <;> simp_all [restored, demands, Demand.isWidened, Value.kind]
  | optional shape ih =>
    simp only [demands, restored] at kept ⊢
    split
    · rfl
    · simp_all
  | list shape ih =>
    cases value with
    | list items =>
      simp only [restored, Value.list.injEq]
      refine (List.map_congr_left fun item member => ?_).trans (List.map_id items)
      refine ih item fun demand inside => kept demand ?_
      simpa [demands] using .inr ⟨item, member, inside⟩
    | _ => rfl

/-! ### All that decoding does -/

theorem fits_null_iff (shape : Shape) :
    Fits shape .null ↔ shape = .any ∨ ∃ inner, shape = .optional inner := by
  constructor
  · rintro (_ | _ | _ | _ | _ | _ | inner | @⟨inner, _, _⟩)
    · exact .inl rfl
    · exact .inr ⟨inner, rfl⟩
    · exact .inr ⟨inner, rfl⟩
  · rintro (rfl | ⟨inner, rfl⟩)
    · exact .any .null
    · exact .absent inner

/-- **Decoding is exact.** For every shape and every value:

* the value is read exactly when it has the shape, and `null` has it exactly where any value will do or
  the shape is optional;
* an item that is read is written back as the value, with fractions for the whole numbers that were read
  as such, and as the value itself where there are none of these;
* a failure names the kinds expected and found of the first demand, from left to right and from the
  outside in, that is not met;
* an output is read as a whole, with one item for each of its values and in the same order; or it is
  refused with the mismatch of the first of its values that has not got the shape. -/
theorem decode_exact (shape : Shape) (value : Value) (values : List Value) :
    ((∃ item, shape.decode value = .ok item) ↔ Fits shape value) ∧
    (Fits shape .null ↔ shape = .any ∨ ∃ inner, shape = .optional inner) ∧
    (∀ item, shape.decode value = .ok item → shape.encode item = shape.restored value ∧
      ((∀ demand ∈ shape.demands value, demand.isWidened = false) → shape.encode item = value)) ∧
    (∀ mismatch, shape.decode value = .error mismatch ↔ ∃ before demand after,
      shape.demands value = before ++ demand :: after ∧ (∀ other ∈ before, other.isMet = true) ∧
        demand.isMet = false ∧ mismatch = ⟨demand.expected, demand.found.kind⟩) ∧
    (∀ items, shape.decodeAll values = .ok items ↔ values.map shape.decode = items.map .ok) ∧
    ∀ mismatch, shape.decodeAll values = .error mismatch ↔ ∃ before first after,
      values = before ++ first :: after ∧ (∀ other ∈ before, Fits shape other) ∧
        shape.decode first = .error mismatch := by
  refine ⟨exists_decode_iff shape value, fits_null_iff shape, fun item read => ?_,
    decode_eq_error_iff shape value, fun items => collect_eq_ok_iff, fun mismatch => ?_⟩
  · have written := encode_decode read
    exact ⟨written, fun kept => written.trans (restored_eq shape value kept)⟩
  · simp only [decodeAll, collect_eq_error_iff, exists_decode_iff]

/-- A list inside an optional one is looked at before what stands behind it. -/
example : (list (optional (list int))).decode
    (.list [.null, .list [.int 1, .bool true], .text "x"]) = .error ⟨"int", "bool"⟩ := rfl

end Shape

end ShellSession
