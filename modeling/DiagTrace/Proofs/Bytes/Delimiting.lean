import DiagTrace.Proofs.Bytes.Yielding

/-!
Steps that find the end of what they read. The bytes of a value are told from what follows them, and no value can be
read from a part of them only. The bytes also pay for the value: how much it holds is bounded by how many they are.
-/
namespace DiagTrace.Read

variable {α β : Type} {step : Read α} {next : α → Read β} {cost : α → Nat} {total : β → Nat}

/-- What a step reads stands in some bytes at the front, at least as many as the value costs, and the step reads it
from them whatever follows. -/
def SelfDelimiting (step : Read α) (cost : α → Nat) : Prop :=
  ∀ cursor value last, step cursor = .ok (value, last) →
    ∃ front, cursor.rest = front ++ last.rest ∧ cost value ≤ front.length ∧ Gives step front value

def free (_ : α) : Nat := 0

def costs (cost : α → Nat) : List α → Nat
  | [] => 0
  | value :: values => cost value + costs cost values

theorem costs_append (front back : List α) : costs cost (front ++ back) = costs cost front + costs cost back := by
  induction front with
  | nil => rw [List.nil_append, costs, Nat.zero_add]
  | cons value front ih => rw [List.cons_append, costs, costs, ih, Nat.add_assoc]

theorem costs_reverse (values : List α) : costs cost values.reverse = costs cost values := by
  induction values with
  | nil => rfl
  | cons value values ih => rw [List.reverse_cons, costs_append, ih, costs, costs, costs, Nat.add_zero, Nat.add_comm]

theorem costs_const (n : Nat) (values : List α) : costs (fun _ => n) values = values.length * n := by
  induction values with
  | nil => rw [costs, List.length_nil, Nat.zero_mul]
  | cons value values ih => rw [costs, ih, List.length_cons, Nat.succ_mul, Nat.add_comm]

section Composition

theorem delimits_pure {value : α} (nothing : cost value = 0) : SelfDelimiting (pure value) cost := by
  intro cursor result last read
  cases read
  refine ⟨[], rfl, ?_, gives_pure value⟩
  rw [nothing]
  exact Nat.zero_le _

theorem delimits_throw (fault : Fault) : SelfDelimiting (throw fault) cost := by
  intro cursor value last read
  cases read

theorem delimits_refused (fault : Fault) (next : α → Read β) : SelfDelimiting (throw fault >>= next) total := by
  intro cursor value last read
  cases read

/-- The second step pays for what the first has left unpaid. -/
theorem delimits_bind (first : SelfDelimiting step cost)
    (second : ∀ value, SelfDelimiting (next value) fun result => total result - cost value) :
    SelfDelimiting (step >>= next) total := by
  intro cursor result last read
  obtain ⟨⟨value, middle⟩, found, rest⟩ := of_bind read
  obtain ⟨front, split, paid, gives_front⟩ := first cursor value middle found
  obtain ⟨back, split_rest, paid_rest, gives_back⟩ := second value middle result last rest
  refine ⟨front ++ back, ?_, ?_, gives_bind gives_front gives_back⟩
  · rw [split, split_rest, List.append_assoc]
  · simp only at paid_rest
    rw [List.length_append]
    omega

theorem delimits_last (first : SelfDelimiting step cost) {f : α → β} (paid : ∀ value, total (f value) ≤ cost value) :
    SelfDelimiting (step >>= fun x => pure (f x)) total := by
  apply delimits_bind first
  intro value
  have nothing := Nat.sub_eq_zero_of_le (paid value)
  exact delimits_pure nothing

theorem delimits_map (first : SelfDelimiting step cost) {f : α → β} (paid : ∀ value, total (f value) ≤ cost value) :
    SelfDelimiting (f <$> step) total := by
  intro cursor value last read
  have bound : (step >>= fun x => pure (f x)) cursor = .ok (value, last) := read
  exact delimits_last first paid cursor value last bound

theorem delimits_less {other : α → Nat} (self : SelfDelimiting step cost) (less : ∀ value, other value ≤ cost value) :
    SelfDelimiting step other := by
  intro cursor value last read
  obtain ⟨front, split, paid, given⟩ := self cursor value last read
  exact ⟨front, split, Nat.le_trans (less value) paid, given⟩

theorem delimits_free (self : SelfDelimiting step cost) : SelfDelimiting step free :=
  delimits_less self fun _ => Nat.zero_le _

theorem delimits_congr {other : Read α} (same : ∀ cursor result, step cursor = .ok result ↔ other cursor = .ok result)
    (self : SelfDelimiting other cost) : SelfDelimiting step cost := by
  intro cursor value last read
  obtain ⟨front, split, paid, given⟩ := self cursor value last ((same ..).mp read)
  exact ⟨front, split, paid, fun tail position => (same ..).mpr (given tail position)⟩

theorem delimits_checked (checked : Except Fault α) : SelfDelimiting (liftM checked : Read α) free := by
  cases checked with
  | error fault => exact delimits_throw fault
  | ok value => exact delimits_pure rfl

end Composition

section Fields

theorem delimits_data (n : Nat) : SelfDelimiting (take n) List.length := by
  intro cursor bs last read
  have length := yields_take n cursor bs last read
  unfold take at read
  split at read
  · cases read
    exact ⟨_, (List.take_append_drop n cursor.rest).symm, Nat.le_refl _, gives_take length⟩
  · cases read

theorem delimits_take (n : Nat) : SelfDelimiting (take n) fun _ => n := by
  intro cursor bs last read
  obtain ⟨front, split, paid, given⟩ := delimits_data n cursor bs last read
  rw [yields_take n cursor bs last read] at paid
  exact ⟨front, split, paid, given⟩

theorem delimits_nat (order : ByteOrder) (n : Nat) : SelfDelimiting (nat order n) fun _ => n :=
  delimits_last (delimits_take n) fun _ => Nat.le_refl n

theorem delimits_byte : SelfDelimiting byte fun _ => 1 :=
  delimits_last (delimits_nat .little 1) fun _ => Nat.le_refl 1

theorem delimits_u16 (order : ByteOrder) : SelfDelimiting (u16 order) free := delimits_free (delimits_nat order 2)

theorem delimits_u32 (order : ByteOrder) : SelfDelimiting (u32 order) fun _ => 4 :=
  delimits_last (delimits_nat order 4) fun _ => Nat.le_refl 4

theorem delimits_float64 (order : ByteOrder) : SelfDelimiting (float64 order) fun _ => 8 :=
  delimits_last (delimits_nat order 8) fun _ => Nat.le_refl 8

theorem delimits_signed (order : ByteOrder) (width : Width) :
    SelfDelimiting (signed order width) fun _ => width.bytes :=
  delimits_last (delimits_nat order width.bytes) fun _ => Nat.le_refl _

theorem delimits_timesOnto (each : SelfDelimiting step cost) (n : Nat) (done : List α) :
    SelfDelimiting (timesOnto step n done) fun values => costs cost values - costs cost done := by
  -- The induction is on how many values are still to be read; those before them are paid for.
  induction n generalizing done with
  | zero =>
    have nothing : costs cost done.reverse - costs cost done = 0 := by
      rw [costs_reverse, Nat.sub_self]
    exact delimits_pure nothing
  | succ n ih =>
    have unfolded : timesOnto step (n + 1) done = step >>= fun value => timesOnto step n (value :: done) := by
      funext cursor
      simp only [timesOnto, bind, StateT.bind, Except.bind]
      cases step cursor <;> rfl
    rw [unfolded]
    apply delimits_bind each
    intro value
    apply delimits_less (ih (value :: done))
    intro values
    rw [costs]
    omega

theorem delimits_times (each : SelfDelimiting step cost) (n : Nat) :
    SelfDelimiting (times step n) (costs cost) := by
  apply delimits_less (delimits_timesOnto each n [])
  intro values
  exact Nat.le_refl _

end Fields

section Extent

variable {bs : Bytes} {position : Nat} {value : α} {last : Cursor}

theorem length_of_gives {other : α} {front part back rest : Bytes} (first : Gives step front value)
    (second : Gives step part other) (same : front ++ back = part ++ rest) : front.length = part.length := by
  have read := first back 0
  rw [same, second rest 0] at read
  have ends := congrArg (fun result : α × Cursor => result.2.position) (Except.ok.inj read)
  rw [Nat.add_right_inj] at ends
  exact ends.symm

/-- A value takes one number of bytes: it is read again from so many bytes with anything behind them, and from fewer of
them nothing is read. -/
theorem SelfDelimiting.extent (self : SelfDelimiting step cost) (read : step ⟨bs, position⟩ = .ok (value, last)) :
    ∃ n ≤ bs.length, last = ⟨bs.drop n, position + n⟩ ∧ cost value ≤ n ∧
      (∀ tail start, step ⟨bs.take n ++ tail, start⟩ = .ok (value, ⟨tail, start + n⟩)) ∧
      ∀ m < n, ∀ start, ∃ fault, step ⟨bs.take m, start⟩ = .error fault := by
  obtain ⟨front, split, paid, given⟩ := self _ _ _ read
  have whole : bs = front ++ last.rest := split
  have taken : bs.take front.length = front := by rw [whole, List.take_left]
  have dropped : bs.drop front.length = last.rest := by rw [whole, List.drop_left]
  refine ⟨front.length, ?_, ?_, paid, ?_, ?_⟩
  · rw [whole, List.length_append]
    exact Nat.le_add_right _ _
  · have again := given last.rest position
    rw [← whole, read] at again
    rw [dropped]
    exact congrArg Prod.snd (Except.ok.inj again)
  · intro tail start
    rw [taken]
    exact given tail start
  · intro m short start
    cases cut : step ⟨bs.take m, start⟩ with
    | error fault => exact ⟨fault, rfl⟩
    | ok result =>
      -- Read from a part of its bytes, the value would end within them also where the rest follows.
      obtain ⟨part, parts, _, given_part⟩ := self _ _ _ cut
      have rejoined : front ++ last.rest = part ++ (result.2.rest ++ bs.drop m) := by
        rw [← whole, ← List.append_assoc, ← parts, List.take_append_drop]
      have same := length_of_gives given given_part rejoined
      have lengths := congrArg List.length parts
      rw [List.length_take, List.length_append] at lengths
      omega

end Extent

section Sequences

variable {step : α → Read β} {items others : List α} {pieces parts : List Bytes} {values results : List β}

/-- Steps for items one after the other, each with its own piece of the bytes. -/
inductive InPieces (step : α → Read β) : List α → List Bytes → List β → Prop where
  | nil : InPieces step [] [] []
  | cons {item : α} {piece : Bytes} {value : β} {items : List α} {pieces : List Bytes} {values : List β}
      (given : Gives (step item) piece value) (rest : InPieces step items pieces values) :
      InPieces step (item :: items) (piece :: pieces) (value :: values)

theorem InPieces.append (first : InPieces step items pieces values) (second : InPieces step others parts results) :
    InPieces step (items ++ others) (pieces ++ parts) (values ++ results) := by
  induction first with
  | nil => exact second
  | cons given _ ih => exact .cons given ih

theorem eachOnto_cons (step : α → Read β) (item : α) (items : List α) (done : List β) :
    eachOnto step (item :: items) done = step item >>= fun value => eachOnto step items (value :: done) := by
  funext cursor
  simp only [eachOnto, bind, StateT.bind, Except.bind]
  cases step item cursor <;> rfl

theorem gives_eachOnto (cut : InPieces step items pieces values) (done : List β) :
    Gives (eachOnto step items done) pieces.flatten (done.reverse ++ values) := by
  induction cut generalizing done with
  | nil =>
    rw [List.append_nil]
    exact gives_pure done.reverse
  | @cons item piece value items pieces values given _ ih =>
    have read : Gives (step item >>= fun value => eachOnto step items (value :: done)) (piece ++ pieces.flatten)
        ((value :: done).reverse ++ values) := gives_bind given (ih (value :: done))
    rw [List.reverse_cons, List.append_assoc, List.singleton_append] at read
    rw [eachOnto_cons, List.flatten_cons]
    exact read

theorem gives_each (cut : InPieces step items pieces values) : Gives (each step items) pieces.flatten values :=
  gives_eachOnto cut []

theorem eachOnto_inPieces (self : ∀ item, SelfDelimiting (step item) free) {cursor last : Cursor} {done : List β}
    (read : eachOnto step items done cursor = .ok (values, last)) :
    ∃ pieces results, InPieces step items pieces results ∧ values = done.reverse ++ results ∧
      cursor.rest = pieces.flatten ++ last.rest := by
  -- The induction is on the items; the values of those before them are done.
  induction items generalizing cursor done with
  | nil =>
    cases read
    exact ⟨[], [], .nil, (List.append_nil _).symm, rfl⟩
  | cons item items ih =>
    rw [eachOnto_cons] at read
    obtain ⟨⟨value, middle⟩, first, rest⟩ := of_bind read
    obtain ⟨piece, split, _, given⟩ := self item cursor value middle first
    obtain ⟨pieces, results, cut, all, behind⟩ := ih rest
    refine ⟨piece :: pieces, value :: results, .cons given cut, ?_, ?_⟩
    · rw [all, List.reverse_cons, List.append_assoc, List.singleton_append]
    · rw [split, behind, List.flatten_cons, List.append_assoc]

theorem each_inPieces (self : ∀ item, SelfDelimiting (step item) free) {cursor last : Cursor}
    (read : each step items cursor = .ok (values, last)) :
    ∃ pieces, InPieces step items pieces values ∧ cursor.rest = pieces.flatten ++ last.rest := by
  obtain ⟨pieces, results, cut, rfl, split⟩ := eachOnto_inPieces self read
  exact ⟨pieces, cut, split⟩

/-- Bytes that start with the pieces for some items start with no other pieces for them. -/
theorem InPieces.unique {rest more : Bytes} (cut : InPieces step items pieces values)
    (other : InPieces step items parts results) (same : pieces.flatten ++ rest = parts.flatten ++ more) :
    pieces = parts ∧ values = results := by
  induction cut generalizing parts results with
  | nil =>
    cases other
    exact ⟨rfl, rfl⟩
  | @cons item piece value items pieces values given _ ih =>
    obtain _ | @⟨_, part, result, _, parts, results, given_part, other⟩ := other
    rw [List.flatten_cons, List.flatten_cons, List.append_assoc, List.append_assoc] at same
    have length := length_of_gives given given_part same
    obtain ⟨rfl, behind⟩ := List.append_inj same length
    have read := given (pieces.flatten ++ rest) 0
    rw [given_part (pieces.flatten ++ rest) 0] at read
    obtain rfl : result = value := congrArg Prod.fst (Except.ok.inj read)
    obtain ⟨rfl, rfl⟩ := ih other behind
    exact ⟨rfl, rfl⟩

end Sequences

end DiagTrace.Read
