import StoreQuery.Proofs.Value.FieldOrder

/-!
# Values that survive their tagged form

The tagged form names the kind of every value, so that numbers of different kinds are told apart
though JSON writes them alike. Only a double that is no number has no JSON text: it is written as
null, which is read as no double.

* `Value.isFinite` : every double in the value is a number;
* `Value.read_toJson` : a value in order that is finite is read back, and no other is;
* `Value.kind_eq_of_toJson_eq` : the form of one kind is never that of another;
* `Value.read_back_iff_finite` : **exactly the finite values survive**, bit for bit.
-/

namespace StoreQuery

namespace Value

/-! ### Single contents -/

theorem ranged_eq_some {low high n : Int} (hlow : low ≤ n) (hhigh : n ≤ high) :
    ranged low high n = some n :=
  if_pos ⟨hlow, hhigh⟩

theorem int32?_toInt (n : Int32) : int32? (.int n.toInt) = some n := by
  rw [int32?, ranged_eq_some n.minValue_le_toInt n.toInt_le, Option.map_some, Int32.ofInt_toInt]

theorem int64?_toInt (n : Int64) : int64? (.int n.toInt) = some n := by
  rw [int64?, ranged_eq_some n.minValue_le_toInt n.toInt_le, Option.map_some, Int64.ofInt_toInt]

theorem byte?_toNat (b : UInt8) : byte? (.int b.toNat) = some b := by
  have bound : (b.toNat : Int) ≤ 255 := by
    have := b.toNat_lt
    omega
  rw [byte?, ranged_eq_some (Int.natCast_nonneg _) bound, Option.map_some, Int.toNat_natCast,
    Nat.toUInt8_eq, UInt8.ofNat_toNat]

theorem mapM_byte?_toNat (b : List UInt8) :
    (b.map fun byte => Json.int byte.toNat).mapM byte? = some b := by
  induction b with
  | nil => rfl
  | cons byte b ih =>
    rw [List.map_cons, List.mapM_cons, byte?_toNat, ih]
    rfl

/-- A double that is no number is written as null, and that is no double. -/
theorem double?_number (x : Binary64) :
    double? (Json.number x) = if x.isFinite then some x else none := by
  rw [Json.number]
  split <;> rfl

/-! ### Values that are read back -/

mutual
/-- Every double in the value is a number. -/
def isFinite : Value → Bool
  | .double x => x.isFinite
  | .object fields => fieldsFinite fields
  | _ => true

/-- Every double in the fields is a number. -/
def fieldsFinite : List (String × Value) → Bool
  | [] => true
  | (_, v) :: rest => v.isFinite && fieldsFinite rest
end

/-- Read a tree without a limit. -/
def unlimited : Reading := ⟨none, false⟩

/-- Of a tagged form the content is read as that of its kind. -/
theorem read_tagged (kind : Kind) (content : Json) :
    read (tagged kind content) unlimited = readContent content unlimited kind := by
  cases kind <;> rfl

mutual
/-- A value in order is read back if it is finite, and else it is refused. -/
theorem read_toJson : ∀ v : Value, v.isInOrder = true →
    read v.toJson unlimited = if v.isFinite then some v else none
  | .null, _ => rfl
  | .bool b, _ => rfl
  | .int n, _ => by
    rw [toJson, read_tagged]
    exact congrArg (Option.map Value.int) (int32?_toInt n)
  | .long n, _ => by
    rw [toJson, read_tagged]
    exact congrArg (Option.map Value.long) (int64?_toInt n)
  | .double x, _ => by
    have simple : Kind.double ≠ .object := by decide
    rw [toJson, read_tagged, readContent_of_ne simple, simple?, double?_number, isFinite]
    cases x.isFinite <;> rfl
  | .string s, _ => rfl
  | .bytes b, _ => by
    rw [toJson, read_tagged]
    exact congrArg (Option.map Value.bytes) (mapM_byte?_toNat b)
  | .dateTime n, _ => by
    rw [toJson, read_tagged]
    exact congrArg (Option.map Value.dateTime) (int64?_toInt n)
  | .object fields, h => by
    rw [isInOrder, Bool.and_eq_true, decide_eq_true_eq] at h
    -- The fields come back one by one, and being in order they are put in their places.
    have back := readFields_fieldsToJson fields h.2 []
    rw [List.nil_append, ofFields_of_ascending h.1] at back
    rw [toJson, read_tagged]
    exact back

/-- Fields are read one after another, until one is refused. -/
theorem readFields_fieldsToJson : ∀ fields : List (String × Value), fieldsInOrder fields = true →
    ∀ before, readFields (fieldsToJson fields) unlimited before =
      if fieldsFinite fields then some (ofFields (before ++ fields)) else none
  | [], _, before => by
    rw [fieldsToJson, readFields, fieldsFinite, List.append_nil]
    rfl
  | (name, v) :: rest, h, before => by
    rw [fieldsInOrder, Bool.and_eq_true] at h
    rw [fieldsToJson, readFields, read_toJson v h.1, fieldsFinite]
    cases v.isFinite with
    | false => rfl
    | true =>
      refine (readFields_fieldsToJson rest h.2 (before ++ [(name, v)])).trans ?_
      rw [List.append_assoc]
      rfl
end

/-! ### Kinds -/

/-- The kind of a value. -/
def kind : Value → Kind
  | .null => .null
  | .bool _ => .bool
  | .int _ => .int
  | .long _ => .long
  | .double _ => .double
  | .string _ => .string
  | .bytes _ => .bytes
  | .dateTime _ => .dateTime
  | .object _ => .object

/-- The tag of a tree that is an object. -/
def tag? : Json → Option Json
  | .object members => members.lookup "t"
  | _ => none

theorem tag?_toJson (v : Value) : tag? v.toJson = some (.string v.kind.tag) := by
  cases v <;> rfl

theorem Kind.tag_injective {k l : Kind} (h : k.tag = l.tag) : k = l := by
  cases k <;> cases l <;> first | rfl | exact absurd h (by decide)

/-- Values of different kinds have different forms. -/
theorem kind_eq_of_toJson_eq {u v : Value} (h : u.toJson = v.toJson) : u.kind = v.kind := by
  have tags : tag? u.toJson = tag? v.toJson := congrArg tag? h
  simp only [tag?_toJson, Option.some.injEq, Json.string.injEq] at tags
  exact Kind.tag_injective tags

/-! ### Survival -/

/-- **Exactly the finite values survive their tagged form.** The fields of objects are in ascending
order, as they are in whatever is read. A value in order is read back as it was, with the same kinds
and the same bits, if every double in it is a number; otherwise reading fails. Values of which the
forms are the same are of the same kind. -/
theorem read_back_iff_finite :
    (∀ v : Value, v.isInOrder = true →
      (ofJson? v.toJson = some v ↔ v.isFinite = true) ∧
      (v.isFinite = false → ofJson? v.toJson = none)) ∧
    (∀ (j : Json) (v : Value), ofJson? j = some v → v.isInOrder = true) ∧
    ∀ u v : Value, u.toJson = v.toJson → u.kind = v.kind := by
  refine ⟨?_, fun j v => isInOrder_of_ofJson?, fun u v => kind_eq_of_toJson_eq⟩
  intro v h
  rw [ofJson?, ← unlimited, read_toJson v h]
  cases v.isFinite <;> simp

/-- The number seven in four kinds, and two values without content. -/
def sevens : Value :=
  .object [("date", .dateTime 7), ("double", .double ⟨0x401C000000000000⟩), ("int", .int 7),
    ("long", .long 7), ("none", .null), ("object", .object [])]

/-- An object that holds them and, two levels down, a NaN. -/
def sevensAndNaN : Value :=
  .object [("deep", .object [("nan", .double ⟨0x7FF8000000000001⟩)]), ("sevens", sevens)]

theorem read_back_sevens :
    ofJson? sevens.toJson = some sevens ∧ ofJson? sevensAndNaN.toJson = none ∧
      (Value.int 7).toJson ≠ (Value.long 7).toJson := by
  obtain ⟨back, -, kinds⟩ := read_back_iff_finite
  refine ⟨(back sevens (by decide +kernel)).1.2 (by decide +kernel),
    (back sevensAndNaN (by decide +kernel)).2 (by decide +kernel), ?_⟩
  intro h
  cases kinds _ _ h

end Value

end StoreQuery
