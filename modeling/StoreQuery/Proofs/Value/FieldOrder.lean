import StoreQuery.Value.Tagged

/-!
# The order of fields

An object has its fields in ascending order, each name once. An object that is built field by field
is so, and objects are read in no other way.

* `Value.isInOrder` : the fields of all objects in a value are in order;
* `Value.isInOrder_ofFields` : objects are built in order, and fields in order stay as they are
  (`Value.ofFields_of_ascending`);
* `Value.isInOrder_of_ofJson?` : **whatever is read is in order**, whatever the tree is.
-/

namespace StoreQuery

namespace Value

/-! ### Fields in order -/

/-- The fields are in ascending order of their names, each name once. -/
def Ascending (fields : List (String × Value)) : Prop :=
  fields.Pairwise fun f g => f.1 < g.1

instance decidableAscending (fields : List (String × Value)) : Decidable (Ascending fields) :=
  inferInstanceAs (Decidable (fields.Pairwise fun f g => f.1 < g.1))

theorem mem_insertField {name : String} {v : Value} {fields : List (String × Value)}
    {field : String × Value} (h : field ∈ insertField name v fields) :
    field = (name, v) ∨ field ∈ fields := by
  fun_induction insertField name v fields with
  | case1 => exact .inl (List.mem_singleton.1 h)
  | case2 => exact List.mem_cons.1 h
  | case3 => exact (List.mem_cons.1 h).imp_right (List.mem_cons_of_mem _)
  | case4 n w rest _ _ ih =>
    rcases List.mem_cons.1 h with rfl | h
    · exact .inr List.mem_cons_self
    · exact (ih h).imp_right (List.mem_cons_of_mem _)

theorem Ascending.insertField {fields : List (String × Value)} (h : Ascending fields)
    (name : String) (v : Value) : Ascending (insertField name v fields) := by
  unfold Ascending at h ⊢
  fun_induction Value.insertField name v fields with
  | case1 => exact List.pairwise_singleton _ _
  | case2 n w rest hlt =>
    refine List.pairwise_cons.2 ⟨?_, h⟩
    intro field hfield
    rcases List.mem_cons.1 hfield with rfl | hfield
    · exact hlt
    · exact String.lt_trans hlt ((List.pairwise_cons.1 h).1 field hfield)
  | case3 w rest _ => exact List.pairwise_cons.2 (List.pairwise_cons.1 h)
  | case4 n w rest hlt hne ih =>
    obtain ⟨first, rest⟩ := List.pairwise_cons.1 h
    refine List.pairwise_cons.2 ⟨?_, ih rest⟩
    intro field hfield
    rcases mem_insertField hfield with rfl | hfield
    · have : n < name := by grind
      exact this
    · exact first field hfield

/-- A name greater than all others comes last. -/
theorem insertField_of_forall_lt {name : String} {fields : List (String × Value)}
    (h : ∀ field ∈ fields, field.1 < name) (v : Value) :
    insertField name v fields = fields ++ [(name, v)] := by
  induction fields with
  | nil => rfl
  | cons field fields ih =>
    obtain ⟨first, rest⟩ := List.forall_mem_cons.1 h
    have differ : name ≠ field.1 := fun heq => String.lt_irrefl name (heq ▸ first)
    rw [insertField, if_neg (String.lt_asymm first), if_neg differ, ih rest]
    rfl

/-- Fields that are in order stay as they are. -/
theorem ofFields_of_ascending {fields : List (String × Value)} (h : Ascending fields) :
    ofFields fields = .object fields := by
  have placed (before : List (String × Value)) (hall : Ascending (before ++ fields)) :
      fields.foldl (fun sorted field => insertField field.1 field.2 sorted) before =
        before ++ fields := by
    clear h
    induction fields generalizing before with
    | nil => rw [List.foldl_nil, List.append_nil]
    | cons field fields ih =>
      have less : ∀ earlier ∈ before, earlier.1 < field.1 := by
        intro earlier hearlier
        exact (List.pairwise_append.1 hall).2.2 earlier hearlier field List.mem_cons_self
      rw [List.foldl_cons, insertField_of_forall_lt less, ih, List.append_assoc]
      · rfl
      · rwa [List.append_assoc]
  rw [ofFields, placed [] h]
  rfl

mutual
/-- The fields of every object in the value are in order. -/
def isInOrder : Value → Bool
  | .object fields => decide (Ascending fields) && fieldsInOrder fields
  | _ => true

/-- The value of every field is in order. -/
def fieldsInOrder : List (String × Value) → Bool
  | [] => true
  | (_, v) :: rest => v.isInOrder && fieldsInOrder rest
end

theorem fieldsInOrder_iff {fields : List (String × Value)} :
    fieldsInOrder fields = true ↔ ∀ field ∈ fields, field.2.isInOrder = true := by
  induction fields with
  | nil => simp [fieldsInOrder]
  | cons field fields ih => simp [fieldsInOrder, ih]

/-- An object that is built field by field is in order. -/
theorem isInOrder_ofFields {fields : List (String × Value)}
    (h : ∀ field ∈ fields, field.2.isInOrder = true) : (ofFields fields).isInOrder = true := by
  have placed (sorted : List (String × Value)) (ascending : Ascending sorted)
      (hsorted : ∀ field ∈ sorted, field.2.isInOrder = true) :
      (object (fields.foldl (fun sorted field => insertField field.1 field.2 sorted)
        sorted)).isInOrder = true := by
    induction fields generalizing sorted with
    | nil =>
      rw [isInOrder, Bool.and_eq_true, decide_eq_true_eq, fieldsInOrder_iff]
      exact ⟨ascending, hsorted⟩
    | cons field fields ih =>
      obtain ⟨first, rest⟩ := List.forall_mem_cons.1 h
      refine ih rest _ (ascending.insertField _ _) ?_
      intro f hf
      rcases mem_insertField hf with rfl | hf
      · exact first
      · exact hsorted f hf
  exact placed [] .nil nofun

/-! ### What is read is in order -/

/-- Whatever is read as the content is in order. -/
def Content.InOrder (c : Content) : Prop :=
  ∀ {r : Reading} {kind : Kind} {v : Value}, c.2 r kind = some v → v.isInOrder = true

theorem isInOrder_of_simple? {r : Reading} {kind : Kind} {content : Json} {v : Value}
    (h : simple? r kind content = some v) : v.isInOrder = true := by
  cases v with
  | object fields =>
    -- Objects have fields, which are read elsewhere.
    unfold simple? at h
    split at h <;> simp [Option.map_eq_some_iff, Option.bind_eq_some_iff] at h
  | _ => rfl

/-- Only the content of an object has fields. -/
theorem readContent_of_ne {kind : Kind} (h : kind ≠ .object) (j : Json) (r : Reading) :
    readContent j r kind = simple? r kind j := by
  cases kind with
  | object => exact absurd rfl h
  | _ => cases j <;> rfl

theorem isInOrder_of_ofMembers? {r : Reading} {members : List (String × Content)} {v : Value}
    (hmembers : ∀ m ∈ members, m.2.InOrder) (h : ofMembers? r members = some v) :
    v.isInOrder = true := by
  have kept {m : String × Content}
      (hm : m ∈ members.filter fun m => m.1 == "t" || m.1 == "v") : m.2.InOrder :=
    hmembers m (List.mem_filter.1 hm).1
  unfold ofMembers? at h
  split at h
  · simp only [Option.bind_eq_bind, Option.bind_eq_some_iff, Option.ite_none_right_eq_some,
      Option.some.injEq] at h
    obtain ⟨kind, -, -, rfl⟩ := h
    rfl
  · rename_i tag _ content heq
    obtain ⟨kind, -, h⟩ := Option.bind_eq_some_iff.1 h
    exact kept (heq ▸ List.mem_cons_of_mem _ List.mem_cons_self) h
  · rename_i content tag _ heq
    simp only [tagLast, Option.ite_none_right_eq_some] at h
    obtain ⟨kind, -, h⟩ := Option.bind_eq_some_iff.1 h.2
    exact kept (heq ▸ List.mem_cons_self) h
  · cases h

theorem isInOrder_of_ofItems? {r : Reading} {items : List Content} {v : Value}
    (hitems : ∀ c ∈ items, c.InOrder) (h : ofItems? r items = some v) : v.isInOrder = true := by
  unfold ofItems? at h
  split at h
  · obtain ⟨kind, -, h⟩ := Option.bind_eq_some_iff.1 h
    exact hitems _ (List.mem_cons_of_mem _ List.mem_cons_self) h
  · cases h

mutual
theorem isInOrder_of_read : ∀ (j : Json) (r : Reading) (v : Value), read j r = some v →
    v.isInOrder = true
  | .object members, r, v, h => by
    obtain ⟨r', -, h⟩ := Option.bind_eq_some_iff.1 h
    exact isInOrder_of_ofMembers? (inOrder_memberContents members) h
  | .array items, r, v, h => by
    obtain ⟨r', -, h⟩ := Option.bind_eq_some_iff.1 h
    exact isInOrder_of_ofItems? (inOrder_itemContents items) h
  | .null, _, _, h | .bool _, _, _, h | .int _, _, _, h | .double _, _, _, h | .string _, _, _, h
  | .unreadable, _, _, h => by cases h

theorem inOrder_readContent : ∀ j : Json, Content.InOrder (j, readContent j)
  | .object members, r, kind, v, h => by
    by_cases hkind : kind = .object
    · subst hkind
      obtain ⟨r', -, h⟩ := Option.bind_eq_some_iff.1 h
      exact isInOrder_of_readFields members r' [] v nofun h
    · dsimp only at h
      rw [readContent_of_ne hkind] at h
      exact isInOrder_of_simple? h
  | .array _, _, _, _, h | .null, _, _, _, h | .bool _, _, _, _, h | .int _, _, _, _, h
  | .double _, _, _, _, h | .string _, _, _, _, h | .unreadable, _, _, _, h =>
    isInOrder_of_simple? h

theorem isInOrder_of_readFields : ∀ (members : List (String × Json)) (r : Reading)
    (fields : List (String × Value)) (v : Value), (∀ f ∈ fields, f.2.isInOrder = true) →
    readFields members r fields = some v → v.isInOrder = true
  | [], r, fields, v, hfields, h => by
    obtain rfl := Option.some.inj h
    exact isInOrder_ofFields hfields
  | (name, j) :: rest, r, fields, v, hfields, h => by
    obtain ⟨w, hw, h⟩ := Option.bind_eq_some_iff.1 h
    refine isInOrder_of_readFields rest r (fields ++ [(name, w)]) v ?_ h
    rw [List.forall_mem_append, List.forall_mem_singleton]
    exact ⟨hfields, isInOrder_of_read j r w hw⟩

theorem inOrder_memberContents : ∀ members : List (String × Json),
    ∀ m ∈ memberContents members, m.2.InOrder
  | [], m, hm => by cases hm
  | (name, j) :: rest, m, hm => by
    rcases List.mem_cons.1 hm with rfl | hm
    · exact inOrder_readContent j
    · exact inOrder_memberContents rest m hm

theorem inOrder_itemContents : ∀ items : List Json, ∀ c ∈ itemContents items, c.InOrder
  | [], c, hc => by cases hc
  | j :: rest, c, hc => by
    rcases List.mem_cons.1 hc with rfl | hc
    · exact inOrder_readContent j
    · exact inOrder_itemContents rest c hc
end

/-- **Whatever is read is in order.** -/
theorem isInOrder_of_ofJson? {j : Json} {v : Value} (h : ofJson? j = some v) :
    v.isInOrder = true :=
  isInOrder_of_read j _ v h

end Value

end StoreQuery
