import DiagTrace.Bytes.Cursor

/-!
What it means that a step reads a value back from its bytes, and how this composes.
-/
namespace DiagTrace

namespace TwosComplement

def Fits (n : Nat) (x : Int) : Prop := -(Bytes.capacity n : Int) ≤ x * 2 ∧ x * 2 < Bytes.capacity n

theorem decode_encode {n : Nat} {x : Int} (fits : Fits n x) : decode n (encode n x) = x := by
  have positive : (0 : Int) < Bytes.capacity n := Int.natCast_pos.mpr (Bytes.capacity_pos n)
  have kept : ((encode n x : Nat) : Int) = x % Bytes.capacity n :=
    Int.toNat_of_nonneg (Int.emod_nonneg x (Int.ne_of_gt positive))
  obtain ⟨low, high⟩ := fits
  rw [decode, kept, Int.emod_bmod]
  exact Int.bmod_eq_of_le_mul_two low high

end TwosComplement

namespace Read

def written : Except Fault Bytes → Bytes
  | .ok bs => bs
  | .error _ => []

variable {α β : Type} {step : Read α} {next : α → Read β} {bs cs tail : Bytes} {value : α} {result : β}

/-- A step reads these bytes as this value where the tail is what follows. -/
def GivesBefore (step : Read α) (tail bs : Bytes) (value : α) : Prop :=
  ∀ position, step ⟨bs ++ tail, position⟩ = .ok (value, ⟨tail, position + bs.length⟩)

/-- A step reads these bytes as this value whatever follows. -/
def Gives (step : Read α) (bs : Bytes) (value : α) : Prop := ∀ tail, GivesBefore step tail bs value

theorem givesBefore_bind (first : GivesBefore step (cs ++ tail) bs value)
    (second : GivesBefore (next value) tail cs result) :
    GivesBefore (step >>= next) tail (bs ++ cs) result := by
  intro position
  have read := first position
  have rest := second (position + bs.length)
  rw [← List.append_assoc] at read
  simp only [bind, StateT.bind, Except.bind, read, rest, List.length_append, Nat.add_assoc]

theorem gives_bind (first : Gives step bs value) (second : Gives (next value) cs result) :
    Gives (step >>= next) (bs ++ cs) result := by
  intro tail
  exact givesBefore_bind (first (cs ++ tail)) (second tail)

theorem gives_pure (value : α) : Gives (pure value) [] value := by
  intro tail position
  rfl

theorem givesBefore_last (read : GivesBefore step tail bs value) (f : α → β) :
    GivesBefore (step >>= fun x => pure (f x)) tail bs (f value) := by
  intro position
  have first := read position
  simp only [bind, StateT.bind, Except.bind, first]
  rfl

theorem gives_last (read : Gives step bs value) (f : α → β) :
    Gives (step >>= fun x => pure (f x)) bs (f value) := by
  intro tail
  exact givesBefore_last (read tail) f

theorem givesBefore_map (read : GivesBefore step tail bs value) (f : α → β) :
    GivesBefore (f <$> step) tail bs (f value) := by
  intro position
  have first := read position
  simp only [Functor.map, StateT.map, bind, Except.bind, pure, Except.pure, first]

theorem gives_map (read : Gives step bs value) (f : α → β) : Gives (f <$> step) bs (f value) := by
  intro tail
  exact givesBefore_map (read tail) f

theorem gives_nothing (first : Gives step [] value) (second : Gives (next value) bs result) :
    Gives (step >>= next) bs result :=
  gives_bind first second

theorem gives_get {look : Cursor → Read β} {step : Read β}
    (same : ∀ cursor : Cursor, bs.length ≤ cursor.rest.length → look cursor = step)
    (read : Gives step bs result) : Gives (get >>= look) bs result := by
  intro tail position
  have enough : bs.length ≤ (bs ++ tail).length := by
    rw [List.length_append]
    exact Nat.le_add_right _ _
  have taken := read tail position
  rw [← same ⟨bs ++ tail, position⟩ enough] at taken
  exact taken

theorem gives_take {n : Nat} (length : bs.length = n) : Gives (take n) bs bs := by
  intro tail position
  have present : (bs ++ tail).hasAtLeast n = true := by
    rw [Bytes.hasAtLeast_iff, List.length_append]
    omega
  rw [take, if_pos present]
  subst length
  simp [Cursor.advance]

theorem gives_low (order : ByteOrder) (n v : Nat) :
    Gives (nat order n) (order.encode n v) (v % Bytes.capacity n) := by
  have read := gives_last (gives_take (ByteOrder.length_encode order n v)) order.decode
  rw [ByteOrder.decode_encode] at read
  exact read

theorem gives_nat (order : ByteOrder) {n v : Nat} (fits : v < Bytes.capacity n) :
    Gives (nat order n) (order.encode n v) v := by
  have read := gives_low order n v
  rw [Nat.mod_eq_of_lt fits] at read
  exact read

theorem gives_u16 (order : ByteOrder) {v : Nat} (fits : v < 65536) :
    Gives (u16 order) (order.encode 2 v) v :=
  gives_nat order fits

theorem gives_u32 (order : ByteOrder) (v : UInt32) : Gives (u32 order) (order.encode 4 v.toNat) v := by
  have fits : v.toNat < Bytes.capacity 4 := v.toNat_lt
  have read := gives_last (gives_nat order fits) UInt32.ofNat
  rw [UInt32.ofNat_toNat] at read
  exact read

theorem gives_float64 (order : ByteOrder) (v : UInt64) :
    Gives (float64 order) (order.encode 8 v.toNat) v := by
  have fits : v.toNat < Bytes.capacity 8 := v.toNat_lt
  have read := gives_last (gives_nat order fits) UInt64.ofNat
  rw [UInt64.ofNat_toNat] at read
  exact read

theorem gives_byte (v : UInt8) : Gives byte [v] v := by
  have one : [v] = ByteOrder.little.encode 1 v.toNat := by
    simp [ByteOrder.encode, ByteOrder.littleBytes]
  have fits : v.toNat < Bytes.capacity 1 := v.toNat_lt
  have read := gives_last (gives_nat .little fits) UInt8.ofNat
  rw [UInt8.ofNat_toNat, ← one] at read
  exact read

theorem gives_signed (order : ByteOrder) (width : Width) {v : Int} (fits : TwosComplement.Fits width.bytes v) :
    Gives (signed order width) (order.encode width.bytes (TwosComplement.encode width.bytes v)) v := by
  have read := gives_last (gives_nat order (TwosComplement.encode_lt width.bytes v))
    (TwosComplement.decode width.bytes)
  rw [TwosComplement.decode_encode fits] at read
  exact read

theorem gives_timesOnto {write : α → Bytes} (values done : List α)
    (each : ∀ value ∈ values, Gives step (write value) value) :
    Gives (timesOnto step values.length done) (values.flatMap write) (done.reverse ++ values) := by
  induction values generalizing done with
  | nil =>
    intro tail position
    simp [timesOnto]
  | cons value values ih =>
    intro tail position
    have first := each value List.mem_cons_self (values.flatMap write ++ tail) position
    have rest := ih (value :: done) (fun other present => each other (List.mem_cons_of_mem _ present)) tail
      (position + (write value).length)
    simp only [List.length_cons, timesOnto, List.flatMap_cons, List.append_assoc, first, rest,
      List.reverse_cons, List.append_assoc, List.cons_append, List.nil_append, List.length_append, Nat.add_assoc]

theorem gives_times {write : α → Bytes} {count : Nat} (values : List α) (length : values.length = count)
    (each : ∀ value ∈ values, Gives step (write value) value) :
    Gives (times step count) (values.flatMap write) values := by
  subst length
  exact gives_timesOnto values [] each

theorem gives_fields {f : α → Except Fault Bytes} {values : List α}
    (each : ∀ value ∈ values, ∃ bs, f value = .ok bs ∧ Gives step bs value) :
    ∃ fields, values.mapM f = .ok fields ∧ Gives (times step values.length) fields.flatten values := by
  have one : ∀ value ∈ values, f value = .ok (written (f value)) ∧ Gives step (written (f value)) value := by
    intro value present
    obtain ⟨bs, field, read⟩ := each value present
    rw [field]
    exact ⟨rfl, read⟩
  refine ⟨values.map fun value => written (f value), ?_, ?_⟩
  · clear each
    induction values with
    | nil => rfl
    | cons value values ih =>
      have first := (one value List.mem_cons_self).1
      have rest := ih fun other present => one other (List.mem_cons_of_mem _ present)
      rw [List.mapM_cons, rest, first]
      rfl
  · exact gives_times values rfl fun value present => (one value present).2

end Read

end DiagTrace
