import DiagTrace.Frame.Map
import Mathlib.Data.List.Induction
import Mathlib.Data.List.Nodup

/-!
Which lists of frames load into a frame map, and in which order. A frame is entered under all its keys but
is refused for its own key only, so a frame shuts out a less specific one that comes behind it, and not one
that comes before. Only such pairs make the order matter, and where no two frames have the same own key,
some order loads.
-/
namespace DiagTrace

namespace FrameKey

def specificity : FrameKey → Nat
  | ofId _ => 0
  | ofContext .. => 1
  | ofEcu .. => 2

end FrameKey

namespace Frame

variable {frame : Frame} {key other : FrameKey}

theorem key_mem_keys (frame : Frame) : frame.key ∈ frame.keys := by
  have some_key : frame.keys ≠ [] := by simp [keys, FrameKey.candidates]
  rw [key, List.headD_eq_head?_getD, List.head?_eq_some_head some_key]
  exact List.head_mem some_key

theorem keys_sorted (frame : Frame) :
    frame.keys.Pairwise fun first second => second.specificity < first.specificity := by
  obtain ⟨id, ecu, app, ctx, type, pdus⟩ := frame
  cases ecu <;> cases app <;> cases ctx <;> simp [keys, FrameKey.candidates, FrameKey.specificity]

theorem keys_eq_cons (frame : Frame) : ∃ others, frame.keys = frame.key :: others := by
  have some_key : frame.keys ≠ [] := by simp [keys, FrameKey.candidates]
  obtain ⟨first, others, shape⟩ := List.exists_cons_of_ne_nil some_key
  exact ⟨others, by rw [key, shape]; rfl⟩

theorem eq_key_of_specificity (entered : key ∈ frame.keys)
    (least : frame.key.specificity ≤ key.specificity) : key = frame.key := by
  obtain ⟨others, shape⟩ := keys_eq_cons frame
  have sorted := keys_sorted frame
  rw [shape] at entered sorted
  rcases List.mem_cons.mp entered with own | behind
  · exact own
  · have less := (List.pairwise_cons.mp sorted).1 key behind
    omega

/-- An earlier frame shuts a later one out if it is entered under the later one's own key. -/
def Blocks (earlier later : Frame) : Prop := later.key ∈ earlier.keys

instance (earlier later : Frame) : Decidable (earlier.Blocks later) :=
  inferInstanceAs (Decidable (later.key ∈ earlier.keys))

theorem blocks_of_key_eq {earlier later : Frame} (same : later.key = earlier.key) : earlier.Blocks later := by
  rw [Blocks, same]
  exact key_mem_keys earlier

end Frame

namespace FrameMap

variable {map : FrameMap} {frame : Frame} {frames others : List Frame}

theorem contains_enter (keys : List FrameKey) (index : Std.HashMap FrameKey Frame) (frame : Frame)
    (key : FrameKey) :
    (keys.foldl (fun index key => index.insertIfNew key frame) index).contains key = true ↔
      key ∈ keys ∨ index.contains key = true := by
  induction keys generalizing index with
  | nil => simp
  | cons first keys ih =>
    rw [List.foldl_cons, ih, Std.HashMap.contains_insertIfNew, Bool.or_eq_true, beq_iff_eq, List.mem_cons]
    constructor
    · rintro (later | own | before)
      · exact .inl (.inr later)
      · exact .inl (.inl own.symm)
      · exact .inr before
    · rintro ((own | later) | before)
      · exact .inr (.inl own.symm)
      · exact .inl later
      · exact .inr (.inr before)

def Indexed (map : FrameMap) : Prop :=
  ∀ key, map.index.contains key = true ↔ ∃ frame ∈ map.toList, key ∈ frame.keys

theorem indexed_empty : Indexed empty := by
  intro key
  simp [empty, toList]

theorem add_cases (indexed : Indexed map) (frame : Frame) :
    ((∃ earlier ∈ map.toList, earlier.Blocks frame) ∧
      map.add frame = .error (.duplicateFrame frame.ecuId frame.appId frame.ctxId frame.id)) ∨
    ((∀ earlier ∈ map.toList, ¬ earlier.Blocks frame) ∧
      ∃ next, map.add frame = .ok next ∧ next.toList = map.toList ++ [frame] ∧ Indexed next) := by
  unfold add
  by_cases taken : map.index.contains frame.key = true
  · rw [if_pos taken]
    exact .inl ⟨(indexed frame.key).mp taken, rfl⟩
  · rw [if_neg taken]
    have grown : ∀ index, (FrameMap.mk (frame :: map.newest) index).toList = map.toList ++ [frame] :=
      fun _ => List.reverse_cons
    refine .inr ⟨?_, _, rfl, grown _, ?_⟩
    · intro earlier present blocks
      exact taken ((indexed frame.key).mpr ⟨earlier, present, blocks⟩)
    · intro key
      rw [contains_enter, indexed key, grown]
      constructor
      · rintro (own | ⟨earlier, present, entered⟩)
        · exact ⟨frame, List.mem_append_right _ List.mem_cons_self, own⟩
        · exact ⟨earlier, List.mem_append_left _ present, entered⟩
      · rintro ⟨holder, present, entered⟩
        rcases List.mem_append.mp present with before | last
        · exact .inr ⟨holder, before, entered⟩
        · obtain rfl := List.mem_singleton.mp last
          exact .inl entered

def Apart (frames : List Frame) : Prop := frames.Pairwise fun earlier later => ¬ earlier.Blocks later

instance (frames : List Frame) : Decidable (Apart frames) :=
  inferInstanceAs (Decidable (frames.Pairwise fun earlier later => ¬ earlier.Blocks later))

theorem apart_append_singleton (frames : List Frame) (frame : Frame) :
    Apart (frames ++ [frame]) ↔ Apart frames ∧ ∀ earlier ∈ frames, ¬ earlier.Blocks frame := by
  simp only [Apart, List.pairwise_append, List.pairwise_singleton, List.mem_singleton, forall_eq, true_and]

theorem ofList_append_singleton (frames : List Frame) (frame : Frame) :
    ofList (frames ++ [frame]) = (ofList frames).bind fun map => map.add frame := by
  rw [ofList, List.foldlM_append, ← ofList]
  cases ofList frames with
  | error fault => rfl
  | ok map =>
    change [frame].foldlM add map = map.add frame
    rw [List.foldlM_cons]
    exact bind_pure (map.add frame)

theorem ofList_cases (frames : List Frame) :
    (Apart frames ∧ ∃ map, ofList frames = .ok map ∧ map.toList = frames ∧ Indexed map) ∨
      (¬ Apart frames ∧ ∃ fault, ofList frames = .error fault) := by
  induction frames using List.reverseRecOn with
  | nil => exact .inl ⟨.nil, empty, rfl, rfl, indexed_empty⟩
  | append_singleton frames frame ih =>
    rw [apart_append_singleton, ofList_append_singleton]
    rcases ih with ⟨apart, map, loaded, whole, indexed⟩ | ⟨clash, fault, refused⟩
    · rw [loaded]
      rcases add_cases indexed frame with ⟨⟨earlier, present, blocks⟩, refused⟩ | ⟨free, next, added, grown, kept⟩
      · rw [whole] at present
        exact .inr ⟨fun both => both.2 earlier present blocks, _, refused⟩
      · rw [whole] at free grown
        exact .inl ⟨⟨apart, free⟩, next, added, grown, kept⟩
    · rw [refused]
      exact .inr ⟨fun both => clash both.1, fault, rfl⟩

theorem isOk_ofList_iff (frames : List Frame) : (ofList frames).isOk = true ↔ Apart frames := by
  rcases ofList_cases frames with ⟨apart, map, loaded, _⟩ | ⟨clash, fault, refused⟩
  · rw [loaded]
    exact ⟨fun _ => apart, fun _ => rfl⟩
  · rw [refused]
    exact ⟨fun loads => (Bool.noConfusion loads), fun apart => absurd apart clash⟩

theorem distinct_of_apart (apart : Apart frames) : (frames.map Frame.key).Nodup :=
  List.pairwise_map.mpr (apart.imp fun free same => free (Frame.blocks_of_key_eq same.symm))

/-- Less specific frames first, only frames with the same own key are in each other's way. -/
theorem apart_of_sorted
    (sorted : frames.Pairwise fun earlier later => earlier.key.specificity ≤ later.key.specificity)
    (distinct : (frames.map Frame.key).Nodup) : Apart frames := by
  apply (sorted.and (List.pairwise_map.mp distinct)).imp
  rintro earlier later ⟨less, other⟩ blocks
  exact other (Frame.eq_key_of_specificity blocks less).symm

theorem exists_order_iff (frames : List Frame) :
    (∃ order, frames.Perm order ∧ Apart order) ↔ (frames.map Frame.key).Nodup := by
  constructor
  · rintro ⟨order, same, apart⟩
    exact (same.map Frame.key).nodup_iff.mpr (distinct_of_apart apart)
  · intro distinct
    let least (earlier later : Frame) : Bool := decide (earlier.key.specificity ≤ later.key.specificity)
    have same := List.mergeSort_perm frames least
    have sorted : (frames.mergeSort least).Pairwise fun earlier later => least earlier later = true := by
      apply List.pairwise_mergeSort
      · intro first second third
        simp only [least, decide_eq_true_eq]
        exact Nat.le_trans
      · intro first second
        simp only [least, Bool.or_eq_true, decide_eq_true_eq]
        exact Nat.le_total ..
    refine ⟨frames.mergeSort least, same.symm, apart_of_sorted ?_ ?_⟩
    · exact sorted.imp fun less => of_decide_eq_true less
    · exact (same.map Frame.key).nodup_iff.mpr distinct

/-- No frame is entered under another one's own key, unless it is its own key as well. -/
def Unnested (frames : List Frame) : Prop :=
  ∀ earlier ∈ frames, ∀ later ∈ frames, earlier.Blocks later → later.key = earlier.key

theorem apart_iff_distinct (unnested : Unnested frames) : Apart frames ↔ (frames.map Frame.key).Nodup := by
  constructor
  · exact distinct_of_apart
  · intro distinct
    apply (List.pairwise_map.mp distinct).imp_of_mem
    intro earlier later before behind other blocks
    exact other (unnested earlier before later behind blocks).symm

theorem unnested_perm (same : frames.Perm others) (unnested : Unnested frames) : Unnested others := by
  intro earlier before later behind
  exact unnested earlier (same.mem_iff.mpr before) later (same.mem_iff.mpr behind)

/-- A frame is refused exactly if one before it is entered under its own key. So a list loads exactly if no
frame is shut out by an earlier one, some order of it loads exactly if the own keys differ, and where
no frame is nested in another in this way, every order loads or none. -/
theorem order_matters_only_for_nested_frames (frames others : List Frame) (same : frames.Perm others) :
    (∀ map, ofList frames = .ok map → ∀ frame,
      map.add frame = .error (.duplicateFrame frame.ecuId frame.appId frame.ctxId frame.id) ∧
          (∃ earlier ∈ frames, earlier.Blocks frame) ∨
        (∃ next, map.add frame = .ok next) ∧ ∀ earlier ∈ frames, ¬ earlier.Blocks frame) ∧
    ((ofList frames).isOk = true ↔ Apart frames) ∧
    ((∃ order, frames.Perm order ∧ (ofList order).isOk = true) ↔ (frames.map Frame.key).Nodup) ∧
    (Unnested frames → (ofList frames).isOk = (ofList others).isOk) := by
  refine ⟨?_, isOk_ofList_iff frames, ?_, ?_⟩
  · intro map given frame
    rcases ofList_cases frames with ⟨_, loaded, done, whole, indexed⟩ | ⟨_, fault, refused⟩
    · obtain rfl := Except.ok.inj (given.symm.trans done)
      have cases := add_cases indexed frame
      rw [whole] at cases
      rcases cases with ⟨taken, refused⟩ | ⟨free, next, added, _⟩
      · exact .inl ⟨refused, taken⟩
      · exact .inr ⟨⟨next, added⟩, free⟩
    · rw [refused] at given
      cases given
  · simp only [isOk_ofList_iff]
    exact exists_order_iff frames
  · intro unnested
    rw [Bool.eq_iff_iff, isOk_ofList_iff, isOk_ofList_iff, apart_iff_distinct unnested,
      apart_iff_distinct (unnested_perm same unnested)]
    exact (same.map Frame.key).nodup_iff

def nestedFrames : List Frame :=
  [.plain 7, { Frame.plain 7 with appId := some "APP1", ctxId := some "CTX1" },
    { Frame.plain 7 with ecuId := some "ECU1", appId := some "APP1", ctxId := some "CTX1" }]

theorem nested_frames_load_forwards_only :
    nestedFrames.reverse.Perm nestedFrames ∧ (nestedFrames.reverse.map Frame.key).Nodup ∧
      (ofList nestedFrames.reverse).isOk = false ∧
      ∃ order, nestedFrames.reverse.Perm order ∧ (ofList order).isOk = true := by
  have same : nestedFrames.reverse.Perm nestedFrames := List.reverse_perm _
  have distinct : (nestedFrames.reverse.map Frame.key).Nodup := by decide
  have clash : ¬ Apart nestedFrames.reverse := by decide
  obtain ⟨_, loads, some_order, _⟩ := order_matters_only_for_nested_frames _ _ same
  exact ⟨same, distinct, Bool.eq_false_iff.mpr fun loaded => clash (loads.mp loaded), some_order.mpr distinct⟩

/-- The order decides whether frames with different own keys load. -/
theorem plain_frame_loads_only_first :
    ([Frame.plain 7, { Frame.plain 7 with ecuId := some "ECU1" }].map Frame.key).Nodup ∧
      (ofList [.plain 7, { Frame.plain 7 with ecuId := some "ECU1" }]).isOk = true ∧
      (ofList [{ Frame.plain 7 with ecuId := some "ECU1" }, .plain 7]).isOk = false := by
  have apart : Apart [.plain 7, { Frame.plain 7 with ecuId := some "ECU1" }] := by decide
  have clash : ¬ Apart [{ Frame.plain 7 with ecuId := some "ECU1" }, .plain 7] := by decide
  constructor
  · decide
  constructor
  · exact (isOk_ofList_iff _).mpr apart
  · rw [Bool.eq_false_iff, ne_eq, isOk_ofList_iff]
    exact clash

end FrameMap

end DiagTrace
