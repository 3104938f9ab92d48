import DiagTrace.Feature

/-! Sets of features: which feature is in a set once others have been put in or taken out. -/
namespace DiagTrace

namespace Feature

def index : Feature → Nat
  | ecuId => 0
  | appId => 1
  | ctxId => 2
  | logTimestamp => 3
  | deviceTimestamp => 4
  | messageType => 5
  | sessionId => 6
  | verbose => 7
  | bigEndian => 8

theorem index_lt (feature : Feature) : feature.index < 9 := by
  cases feature <;> decide

theorem eq_of_index {f g : Feature} (same : f.index = g.index) : f = g := by
  cases f <;> cases g <;> first | rfl | cases same

theorem exists_index {i : Nat} (small : i < 9) : ∃ feature : Feature, feature.index = i := by
  obtain rfl | rfl | rfl | rfl | rfl | rfl | rfl | rfl | rfl :
      i = 0 ∨ i = 1 ∨ i = 2 ∨ i = 3 ∨ i = 4 ∨ i = 5 ∨ i = 6 ∨ i = 7 ∨ i = 8 := by omega
  · exact ⟨ecuId, rfl⟩
  · exact ⟨appId, rfl⟩
  · exact ⟨ctxId, rfl⟩
  · exact ⟨logTimestamp, rfl⟩
  · exact ⟨deviceTimestamp, rfl⟩
  · exact ⟨messageType, rfl⟩
  · exact ⟨sessionId, rfl⟩
  · exact ⟨verbose, rfl⟩
  · exact ⟨bigEndian, rfl⟩

theorem bit_eq_twoPow (feature : Feature) : feature.bit.toBitVec = BitVec.twoPow 16 feature.index := by
  cases feature <;> decide

theorem getLsbD_bit (f : Feature) (i : Nat) : f.bit.toBitVec.getLsbD i = decide (f.index = i) := by
  have small := f.index_lt
  have inside : f.index < 16 := by omega
  rw [bit_eq_twoPow, BitVec.getLsbD_twoPow, decide_eq_true inside, Bool.true_and]

end Feature

namespace Features

variable {a b : Features}

/-- No bit above the ninth is set. -/
def Proper (a : Features) : Prop := ofBits a.bits = a

theorem has_eq_getLsbD (a : Features) (feature : Feature) :
    a.has feature = a.bits.toBitVec.getLsbD feature.index := by
  have small := feature.index_lt
  have masked : (a.bits &&& feature.bit == feature.bit) =
      decide (a.bits.toBitVec &&& feature.bit.toBitVec = feature.bit.toBitVec) := by
    rw [Bool.eq_iff_iff, beq_iff_eq, decide_eq_true_iff, ← UInt16.toBitVec_inj, UInt16.toBitVec_and]
  rw [has, includes, single, masked, Feature.bit_eq_twoPow, BitVec.and_twoPow]
  cases set : a.bits.toBitVec.getLsbD feature.index with
  | true => simp
  | false =>
    simp only [Bool.false_eq_true, ↓reduceIte, decide_eq_false_iff_not]
    intro zero
    have bit := congrArg (BitVec.getLsbD · feature.index) zero
    simp only [BitVec.getLsbD_zero, BitVec.getLsbD_twoPow] at bit
    simp only [decide_true, Bool.and_true] at bit
    have inside : decide (feature.index < 16) = true := decide_eq_true (by omega)
    rw [inside] at bit
    cases bit

@[simp] theorem has_add (a : Features) (f g : Feature) : (a.add f).has g = (a.has g || decide (f = g)) := by
  have same : decide (f.index = g.index) = decide (f = g) :=
    decide_eq_decide.mpr ⟨Feature.eq_of_index, congrArg Feature.index⟩
  rw [has_eq_getLsbD, has_eq_getLsbD, add, union, single, UInt16.toBitVec_or, BitVec.getLsbD_or,
    Feature.getLsbD_bit, same]

@[simp] theorem has_addIf (a : Features) (f g : Feature) (present : Bool) :
    (a.addIf f present).has g = if f = g then present else a.has g := by
  have small := g.index_lt
  cases present with
  | true =>
    have added : a.addIf f true = a.add f := rfl
    rw [added, has_add]
    by_cases same : f = g <;> simp [same]
  | false =>
    have same : decide (f.index = g.index) = decide (f = g) :=
      decide_eq_decide.mpr ⟨Feature.eq_of_index, congrArg Feature.index⟩
    rw [has_eq_getLsbD, has_eq_getLsbD, addIf, setTo, if_neg Bool.false_ne_true, difference, single,
      UInt16.toBitVec_and, UInt16.toBitVec_not, BitVec.getLsbD_and, BitVec.getLsbD_not,
      Feature.getLsbD_bit, same]
    by_cases equal : f = g
    · simp [equal]
    · have inside : g.index < 16 := by omega
      simp [equal, inside]

theorem getLsbD_mask (i : Nat) : (0x1FF : UInt16).toBitVec.getLsbD i = decide (i < 9) := by
  by_cases inside : i < 16
  · obtain rfl | rfl | rfl | rfl | rfl | rfl | rfl | rfl | rfl | rfl | rfl | rfl | rfl | rfl | rfl | rfl :
        i = 0 ∨ i = 1 ∨ i = 2 ∨ i = 3 ∨ i = 4 ∨ i = 5 ∨ i = 6 ∨ i = 7 ∨ i = 8 ∨ i = 9 ∨ i = 10 ∨ i = 11
          ∨ i = 12 ∨ i = 13 ∨ i = 14 ∨ i = 15 := by omega
    all_goals rfl
  · have outside : ¬ i < 9 := by omega
    rw [BitVec.getLsbD_of_ge _ _ (by omega), decide_eq_false outside]

theorem proper_iff : Proper a ↔ ∀ i, 9 ≤ i → a.bits.toBitVec.getLsbD i = false := by
  constructor
  · intro proper i high
    have kept := congrArg (fun features : Features => features.bits.toBitVec.getLsbD i) proper
    have outside : ¬ i < 9 := by omega
    simp only [ofBits, UInt16.toBitVec_and, BitVec.getLsbD_and, getLsbD_mask, decide_eq_false outside,
      Bool.and_false] at kept
    exact kept.symm
  · intro high
    obtain ⟨bits⟩ := a
    have same : bits &&& 0x1FF = bits := by
      apply UInt16.toBitVec_inj.mp
      apply BitVec.eq_of_getLsbD_eq
      intro i _
      rw [UInt16.toBitVec_and, BitVec.getLsbD_and, getLsbD_mask]
      by_cases low : i < 9
      · rw [decide_eq_true low, Bool.and_true]
      · rw [high i (by omega), Bool.false_and]
    rw [Proper, ofBits, same]

theorem proper_add (proper : Proper a) (feature : Feature) : Proper (a.add feature) := by
  rw [proper_iff] at proper ⊢
  intro i high
  have small := feature.index_lt
  have other : ¬ feature.index = i := by omega
  rw [add, union, single, UInt16.toBitVec_or, BitVec.getLsbD_or, proper i high, Feature.getLsbD_bit,
    decide_eq_false other, Bool.false_or]

theorem proper_addIf (proper : Proper a) (feature : Feature) (present : Bool) :
    Proper (a.addIf feature present) := by
  cases present with
  | true => exact proper_add proper feature
  | false =>
    rw [proper_iff] at proper ⊢
    intro i high
    rw [addIf, setTo, if_neg Bool.false_ne_true, difference, UInt16.toBitVec_and, BitVec.getLsbD_and,
      proper i high, Bool.false_and]

theorem eq_of_has (left : Proper a) (right : Proper b) (same : ∀ feature, a.has feature = b.has feature) :
    a = b := by
  obtain ⟨a⟩ := a
  obtain ⟨b⟩ := b
  have bits : a = b := by
    apply UInt16.toBitVec_inj.mp
    apply BitVec.eq_of_getLsbD_eq
    intro i _
    by_cases low : i < 9
    · obtain ⟨feature, rfl⟩ := Feature.exists_index low
      have agree := same feature
      rw [has_eq_getLsbD, has_eq_getLsbD] at agree
      exact agree
    · rw [proper_iff.mp left i (by omega), proper_iff.mp right i (by omega)]
  rw [bits]

theorem addIf_addIf (proper : Proper a) (feature : Feature) (x y : Bool) :
    (a.addIf feature x).addIf feature y = a.addIf feature y := by
  refine eq_of_has (proper_addIf (proper_addIf proper feature x) feature y) (proper_addIf proper feature y) ?_
  intro other
  rw [has_addIf, has_addIf, has_addIf]
  split <;> rfl

theorem add_of_has {feature : Feature} (present : a.has feature = true) : a.add feature = a := by
  have bits : (a.add feature).bits = a.bits := by
    apply UInt16.toBitVec_inj.mp
    apply BitVec.eq_of_getLsbD_eq
    intro i _
    rw [add, union, single, UInt16.toBitVec_or, BitVec.getLsbD_or, Feature.getLsbD_bit]
    by_cases same : feature.index = i
    · rw [has_eq_getLsbD, same] at present
      rw [present, Bool.true_or]
    · rw [decide_eq_false same, Bool.or_false]
  obtain ⟨bits_a⟩ := a
  exact congrArg Features.mk bits

theorem union_foldl (a b : Features) (features : List Feature) :
    a.union (features.foldl add b) = features.foldl add (a.union b) := by
  induction features generalizing b with
  | nil => rfl
  | cons feature features ih =>
    have moved : a.union (b.add feature) = (a.union b).add feature := by
      simp only [add, union, UInt16.or_assoc]
    rw [List.foldl_cons, List.foldl_cons, ih, moved]

theorem union_ofList (a : Features) (features : List Feature) : a.union (ofList features) = features.foldl add a := by
  have nothing : a.union none = a := by
    simp only [union, none, UInt16.or_zero]
  rw [ofList, union_foldl, nothing]

end Features

end DiagTrace
