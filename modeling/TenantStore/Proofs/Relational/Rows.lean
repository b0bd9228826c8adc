import TenantStore.Proofs.Ordering
import TenantStore.Proofs.Outcomes
import TenantStore.Relational.Join
import TenantStore.Run.Agreement

/-! # Rows stand for records

Under a storable key a record and its row say the same. Reading the row gives
the record back, a condition holds of the row when the filter admits the record,
rows are ordered like the records' positions, and setting the columns of the row
is updating the record. -/

namespace TenantStore.Relational

open Item (position key)

namespace StoredKey

theorem toInt_column {k : SortKey} (h : k.isStorable = true) :
    k.value.toInt64.toInt = (k.value.toNat : Int) := by
  have hk := SortKey.isStorable_iff.mp h
  refine BitVec.toInt_eq_toNat_of_lt (x := k.value.toBitVec) ?_
  show 2 * k.value.toNat < 2 ^ 64
  omega

theorem column_lt_iff {j k : SortKey} (hj : j.isStorable = true) (hk : k.isStorable = true) :
    j.value.toInt64 < k.value.toInt64 ↔ j < k := by
  rw [Int64.lt_iff_toInt_lt, toInt_column hj, toInt_column hk, SortKey.lt_iff, Int.ofNat_lt]

theorem column_eq_iff {j k : SortKey} : j.value.toInt64 = k.value.toInt64 ↔ j = k :=
  ⟨fun h => SortKey.ext (congrArg Int64.toUInt64 h), fun h => h ▸ rfl⟩

theorem decode_column (operation : Operation) {k : SortKey} (h : k.isStorable = true) :
    decode operation k.value.toInt64 = .ok k := by
  have hneg : ¬k.value.toInt64 < 0 := by
    rw [Int64.lt_iff_toInt_lt, toInt_column h]
    exact Int.not_lt.mpr (Int.natCast_nonneg _)
  rw [decode, if_neg hneg]
  rfl

theorem encode_of_isStorable (operation : Operation) {k : SortKey} (h : k.isStorable = true) :
    encode operation k = .ok k.value.toInt64 := if_pos h

end StoredKey

theorem readCode_code {α : Type} [Coded α] (operation : Operation) (a : α) :
    readCode α operation (Coded.code a) = .ok a := by rw [readCode, Coded.read_code]

namespace Row

variable {e : Entity}

@[simp] theorem tenantId_ofRecord (sortKey : Int64) (x : Record e) :
    Columns.tenantId (ofRecord e sortKey x) = Item.tenant x := by cases e <;> rfl

@[simp] theorem id_ofRecord (sortKey : Int64) (x : Record e) :
    Columns.id (ofRecord e sortKey x) = Item.id x := by cases e <;> rfl

@[simp] theorem sortKey_ofRecord (sortKey : Int64) (x : Record e) :
    Columns.sortKey (ofRecord e sortKey x) = sortKey := by cases e <;> rfl

/-- The row a table holds of a record. -/
def held (e : Entity) (x : Record e) : Row e := ofRecord e (key x).value.toInt64 x

@[simp] theorem tenantId_held (x : Record e) : Columns.tenantId (held e x) = Item.tenant x :=
  tenantId_ofRecord _ x

@[simp] theorem id_held (x : Record e) : Columns.id (held e x) = Item.id x := id_ofRecord _ x

@[simp] theorem sortKey_held (x : Record e) : Columns.sortKey (held e x) = (key x).value.toInt64 :=
  sortKey_ofRecord _ x

theorem held_withKey (k : SortKey) (x : Record e) :
    held e (Item.withKey k x) = ofRecord e k.value.toInt64 x := by cases e <;> rfl

theorem checkCells_held (operation : Operation) (x : Record e) :
    checkCells operation e (held e x) = .ok () := by
  cases e with
  | proof =>
    exact congrArg (Except.map fun _ => ()) (Cell.flag_ofFlag operation "result" (Proof.result x))
  | _ => rfl

/-- A record reads back from its row and its attributes. -/
theorem read_held (operation : Operation) {x : Record e} (h : (key x).isStorable = true) :
    read operation e (held e x) (attributesOf e x) = .ok x := by
  have hkey := StoredKey.decode_column operation h
  cases e with
  | connection | message | event => exact bind_of_ok hkey _
  | credential =>
    refine (bind_of_ok (readCode_code operation _) _).trans ?_
    exact bind_of_ok hkey _
  | proof =>
    refine (bind_of_ok (Cell.flag_ofFlag operation _ _) _).trans ?_
    refine (bind_of_ok (readCode_code operation _) _).trans ?_
    exact bind_of_ok hkey _
  | job =>
    refine (bind_of_ok (readCode_code operation _) _).trans ?_
    refine (bind_of_ok (readCode_code operation _) _).trans ?_
    refine (bind_of_ok (readCode_code operation _) _).trans ?_
    exact bind_of_ok hkey _

/-- Setting the columns of a row is updating its record. -/
theorem assign_held (u : Update e) (x : Record e) :
    assign e u (held e x) = held e (Update.apply e u x) := by
  cases e with
  | proof =>
    rcases u with ⟨approved, verified, failed, _ | result, values⟩ <;> rfl
  | _ => rfl

end Row

namespace Condition

theorem complete_iff (status : JobStatus) :
    (Coded.code status == Coded.code JobStatus.complete) = (status == .complete) := by
  cases status <;> decide

/-- A condition picks the rows of the records that the filter admits. -/
theorem holds_held (tenant : String) (f : Filter) {e : Entity} (x : Record e) :
    (ofFilter e tenant f).holds (Row.held e x) = (Item.tenant x == tenant && f.admits e x) := by
  rw [holds, Row.tenantId_held, Bool.and_assoc]
  congr 1
  obtain ⟨connection, completed⟩ := f
  cases e with
  | connection => rfl
  | job =>
    rw [Bool.and_comm]
    show _ = Filter.matchesJob _ _
    unfold Filter.matchesJob
    refine congrArg₂ (· && ·) ?_ ?_
    · rcases completed with _ | _ | _
      · rfl
      · show (Coded.code (Job.status x) != Coded.code JobStatus.complete) = _
        rw [bne, complete_iff]
        cases Job.status x == .complete <;> rfl
      · show (Coded.code (Job.status x) == Coded.code JobStatus.complete) = _
        rw [complete_iff]
        cases Job.status x == .complete <;> rfl
    · cases connection <;> rfl
  | credential | proof | message | event =>
    rw [Bool.and_comm]
    cases connection <;> rfl

end Condition

/-- Rows are ordered like the positions of their records. -/
theorem rowOrder_held {e : Entity} {x y : Record e} (hx : (key x).isStorable = true)
    (hy : (key y).isStorable = true) (d : Direction) :
    rowOrder d (Row.held e x) (Row.held e y) =
      match d with
      | .ascending => decide (position x ≤ position y)
      | .descending => decide (position y ≤ position x) := by
  cases d with
  | ascending =>
    simp only [rowOrder, Row.sortKey_held, Row.id_held, StoredKey.column_lt_iff hx hy,
      StoredKey.column_eq_iff]
    rfl
  | descending =>
    simp only [rowOrder, Row.sortKey_held, Row.id_held, StoredKey.column_lt_iff hy hx,
      StoredKey.column_eq_iff, @eq_comm _ (key x)]
    rfl

end TenantStore.Relational
