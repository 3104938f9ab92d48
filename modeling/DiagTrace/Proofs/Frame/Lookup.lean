import DiagTrace.Proofs.Frame.Tables

/-!
What a frame map finds, over any history of frames offered to it. Of the frames that were accepted, a lookup finds what
a search of the plain list finds, and each of them is found by what it is qualified with for as long as the map lives.
One vector with three tables of places (`FrameTables`) accepts, refuses and finds the same over every history.
-/
namespace DiagTrace

namespace Frame

def context (frame : Frame) : Option String × Option String :=
  match frame.appId, frame.ctxId with
  | some app, some ctx => (some app, some ctx)
  | _, _ => (none, none)

variable {frame : Frame} {ecu : String}

theorem candidates_context (frame : Frame) :
    FrameKey.candidates frame.id frame.ecuId frame.context.1 frame.context.2 = frame.keys := by
  obtain ⟨id, ecu, app, ctx, type, pdus⟩ := frame
  cases app <;> cases ctx <;> rfl

theorem key_of_ecuId (named : frame.ecuId = some ecu) : frame.key = .ofEcu ecu frame.id := by
  obtain ⟨id, ecuId, appId, ctxId, type, pdus⟩ := frame
  cases named
  rfl

end Frame

namespace FrameMap

variable {map next : FrameMap} {frame : Frame} {frames : List Frame}

def unblocked (offers : List Frame) : List Frame :=
  offers.foldl (fun kept frame => if ∃ earlier ∈ kept, earlier.Blocks frame then kept else kept ++ [frame]) []

open FrameTables (enter)
open FrameTables.Change (perform)

/-- A frame map in use, with the tables that take its place, and the frames that were accepted, in order. -/
structure Collection where
  map : FrameMap
  tables : FrameTables
  accepted : List Frame

namespace Collection

def start : Collection := ⟨empty, .empty, []⟩

def offer (collection : Collection) (frame : Frame) : Collection :=
  let tables := (perform (enter frame) collection.tables).2
  match collection.map.add frame with
  | .ok map => ⟨map, tables, collection.accepted ++ [frame]⟩
  | .error _ => { collection with tables }

def run (collection : Collection) (offers : List Frame) : Collection := offers.foldl offer collection

end Collection

def FirstUnder (frames : List Frame) (index : Std.HashMap FrameKey Frame) : Prop :=
  ∀ key : FrameKey, index[key]? = frames.find? fun frame => key ∈ frame.keys

theorem getElem?_enter (keys : List FrameKey) (index : Std.HashMap FrameKey Frame) (frame : Frame) (key : FrameKey) :
    (keys.foldl (fun index key => index.insertIfNew key frame) index)[key]? =
      index[key]?.or (if key ∈ keys then some frame else none) := by
  induction keys generalizing index with
  | nil => simp
  | cons first keys ih =>
    rw [List.foldl_cons, ih, FrameTables.getElem?_insertIfNew, Option.or_assoc]
    congr 1
    by_cases own : first = key
    · simp [own]
    · have other : key ≠ first := fun same => own same.symm
      simp [own, other]

theorem firstUnder_empty : FirstUnder [] empty.index := by
  intro key
  simp [empty]

theorem firstUnder_enter {index : Std.HashMap FrameKey Frame} (first : FirstUnder frames index) (frame : Frame) :
    FirstUnder (frames ++ [frame]) (frame.keys.foldl (fun index key => index.insertIfNew key frame) index) := by
  intro key
  rw [getElem?_enter, first key, List.find?_append]
  congr 1
  by_cases own : key ∈ frame.keys <;> simp [own]

structure Holds (map : FrameMap) (frames : List Frame) : Prop where
  toList : map.toList = frames
  apart : Apart frames
  first : FirstUnder frames map.index

theorem holds_empty : Holds empty [] := ⟨rfl, .nil, firstUnder_empty⟩

theorem Holds.indexed (holds : Holds map frames) : Indexed map := by
  intro key
  rw [← Std.HashMap.mem_iff_contains, Std.HashMap.mem_iff_isSome_getElem?, holds.first key, List.find?_isSome,
    holds.toList]
  simp only [decide_eq_true_eq]

theorem index_of_add (added : map.add frame = .ok next) :
    next.index = frame.keys.foldl (fun index key => index.insertIfNew key frame) map.index := by
  unfold add at added
  split at added
  · cases added
  · cases added
    rfl

theorem Holds.add_cases (holds : Holds map frames) (frame : Frame) :
    ((∃ earlier ∈ frames, earlier.Blocks frame) ∧
        map.add frame = .error (.duplicateFrame frame.ecuId frame.appId frame.ctxId frame.id)) ∨
      ((∀ earlier ∈ frames, ¬ earlier.Blocks frame) ∧
        ∃ next, map.add frame = .ok next ∧ Holds next (frames ++ [frame])) := by
  have cases := FrameMap.add_cases holds.indexed frame
  rw [holds.toList] at cases
  rcases cases with ⟨blocked, refused⟩ | ⟨free, next, added, grown, _⟩
  · exact .inl ⟨blocked, refused⟩
  · refine .inr ⟨free, next, added, grown, ?_, ?_⟩
    · exact (apart_append_singleton frames frame).mpr ⟨holds.apart, free⟩
    · rw [index_of_add added]
      exact firstUnder_enter holds.first frame

theorem unblocked_append_singleton (offers : List Frame) (frame : Frame) :
    unblocked (offers ++ [frame]) =
      if ∃ earlier ∈ unblocked offers, earlier.Blocks frame then unblocked offers
      else unblocked offers ++ [frame] := by
  rw [unblocked, List.foldl_append]
  rfl

namespace Collection

theorem run_append (collection : Collection) (offers more : List Frame) :
    collection.run (offers ++ more) = (collection.run offers).run more :=
  List.foldl_append

/-- The map and the tables know the same frames. -/
structure Sound (collection : Collection) : Prop where
  map : Holds collection.map collection.accepted
  tables : FrameTables.Holds collection.tables collection.accepted

/-- Map and tables refuse a frame together, with one fault and without a change, or accept it together. -/
theorem Sound.offer_cases {collection : Collection} (sound : Sound collection) (frame : Frame) :
    ((∃ earlier ∈ collection.accepted, earlier.Blocks frame) ∧ collection.offer frame = collection ∧
        ∃ fault, collection.map.add frame = .error fault ∧
          (perform (enter frame) collection.tables).1 = .error fault) ∨
      ((¬ ∃ earlier ∈ collection.accepted, earlier.Blocks frame) ∧ Sound (collection.offer frame) ∧
        (collection.offer frame).accepted = collection.accepted ++ [frame] ∧
        (∃ next, collection.map.add frame = .ok next) ∧
          (perform (enter frame) collection.tables).1 = .ok ()) := by
  rw [offer, FrameTables.perform_enter]
  rcases sound.map.add_cases frame with ⟨blocked, refused⟩ | ⟨free, next, added, kept⟩
  · rw [refused, if_pos ((sound.tables.isTaken_iff frame).mpr blocked)]
    exact .inl ⟨blocked, rfl, _, rfl, rfl⟩
  · have unhindered : ¬ ∃ earlier ∈ collection.accepted, earlier.Blocks frame :=
      fun ⟨earlier, present, blocks⟩ => free earlier present blocks
    have untaken : ¬ collection.tables.isTaken frame = true :=
      fun taken => unhindered ((sound.tables.isTaken_iff frame).mp taken)
    rw [added, if_neg untaken]
    exact .inr ⟨unhindered, ⟨kept, sound.tables.entered untaken⟩, rfl, ⟨next, rfl⟩, rfl⟩

theorem start_sound : Sound start := ⟨holds_empty, FrameTables.holds_empty⟩

theorem run_sound (offers : List Frame) :
    Sound (start.run offers) ∧ (start.run offers).accepted = unblocked offers := by
  induction offers using List.reverseRecOn with
  | nil => exact ⟨start_sound, rfl⟩
  | append_singleton offers frame ih =>
    obtain ⟨sound, accepted⟩ := ih
    rw [run_append, unblocked_append_singleton, ← accepted]
    change Sound ((start.run offers).offer frame) ∧ ((start.run offers).offer frame).accepted = _
    rcases sound.offer_cases frame with ⟨blocked, same, _⟩ | ⟨unhindered, kept, grown, _⟩
    · rw [same, if_pos blocked]
      exact ⟨sound, rfl⟩
    · rw [if_neg unhindered]
      exact ⟨kept, grown⟩

theorem accepted_run (collection : Collection) (offers : List Frame) :
    collection.accepted <+: (collection.run offers).accepted := by
  induction offers generalizing collection with
  | nil => exact List.prefix_refl _
  | cons frame offers ih =>
    have grown : collection.accepted <+: (collection.offer frame).accepted := by
      rw [offer]
      split
      · exact List.prefix_append ..
      · exact List.prefix_refl _
    exact grown.trans (ih (collection.offer frame))

end Collection

theorem size_eq (map : FrameMap) : map.size = map.toList.length := by
  rw [toList, List.length_reverse, size]

theorem pduCount_eq (map : FrameMap) : map.pduCount = (map.toList.flatMap Frame.pdus).length := by
  rw [List.length_flatMap, toList, List.map_reverse, List.sum_reverse, List.sum_eq_foldl, List.foldl_map, pduCount]

/-- To look the keys of a message up is to search the frames for the most specific of them that any frame has. -/
theorem Holds.find?_eq (holds : Holds map frames) (id : UInt32) (app ctx ecu : Option String) :
    map.find? id app ctx ecu = search frames id app ctx ecu := by
  have looked_up : ∀ key : FrameKey, map.index[key]? = frames.find? fun frame => key ∈ frame.keys := holds.first
  unfold find? search FrameKey.candidates
  simp only [looked_up, List.findSome?_append, List.findSome?_singleton, Frame.ofId_mem_keys, Frame.idKey_eq_some_iff]
  congr 2
  · cases ecu with
    | none => rfl
    | some ecu => simp only [List.findSome?_singleton, Frame.ofEcu_mem_keys, Frame.ecuKey_eq_some_iff, Option.bind_some]
  · cases app with
    | none => rfl
    | some app =>
      cases ctx with
      | none => rfl
      | some ctx => simp only [List.findSome?_singleton, Frame.ofContext_mem_keys, Frame.contextKey_eq_some_iff]

theorem Holds.count_le_one (holds : Holds map frames) (ecu : String) (id : UInt32) :
    frames.countP (fun frame => frame.ecuId = some ecu ∧ frame.id = id) ≤ 1 := by
  have once := List.nodup_iff_count_le_one.mp (distinct_of_apart holds.apart) (.ofEcu ecu id)
  rw [List.count, List.countP_map] at once
  refine Nat.le_trans (List.countP_mono_left ?_) once
  intro frame _ named
  obtain ⟨device, rfl⟩ := of_decide_eq_true named
  exact beq_iff_eq.mpr (Frame.key_of_ecuId device)

theorem find?_own_key (apart : Apart frames) (present : frame ∈ frames) :
    frames.find? (fun other => frame.key ∈ other.keys) = some frame := by
  induction frames with
  | nil => cases present
  | cons first frames ih =>
    obtain ⟨free, apart⟩ := List.pairwise_cons.mp apart
    rcases List.mem_cons.mp present with rfl | later
    · rw [List.find?_cons, decide_eq_true (Frame.key_mem_keys frame)]
    · have passed : ¬ frame.key ∈ first.keys := free frame later
      rw [List.find?_cons, decide_eq_false passed]
      exact ih apart later

theorem Holds.find?_own (holds : Holds map frames) (present : frame ∈ frames) :
    map.find? frame.id frame.context.1 frame.context.2 frame.ecuId = some frame := by
  obtain ⟨others, keys⟩ := Frame.keys_eq_cons frame
  rw [find?, Frame.candidates_context, keys, List.findSome?_cons, holds.first frame.key,
    find?_own_key holds.apart present]

namespace Collection

/-- What the frames accepted from some offers are, and what is found among them from then on. Of the offers each is
accepted that nothing accepted before it shuts out. All that can be asked of the map is answered from the list of them:
their number and that of their slots, and the frame for a message. The tables give the same answers, to a lookup and to
a frame that is offered, and a frame that is refused leaves all as it is. No two frames are of the same device and
number, and whatever is offered later, each frame stays the one that is found by its own number, device, and application
with context. -/
theorem lookups_search_the_accepted_frames (offers : List Frame) :
    let collection := start.run offers
    collection.accepted = unblocked offers ∧
    (collection.map.toList = collection.accepted ∧ collection.map.size = collection.accepted.length ∧
      collection.map.pduCount = (collection.accepted.flatMap Frame.pdus).length) ∧
    (∀ id app ctx ecu, collection.map.find? id app ctx ecu = search collection.accepted id app ctx ecu) ∧
    (collection.tables.frames.toList = collection.accepted ∧
      (∀ id app ctx ecu, collection.tables.find? id app ctx ecu = collection.map.find? id app ctx ecu) ∧
      ∀ frame, (perform (enter frame) collection.tables).1 = (collection.map.add frame).map fun _ => ()) ∧
    (∀ frame fault, (perform (enter frame) collection.tables).1 = .error fault →
      collection.offer frame = collection) ∧
    (∀ ecu id, collection.accepted.countP (fun frame => frame.ecuId = some ecu ∧ frame.id = id) ≤ 1) ∧
    (∀ frame ∈ collection.accepted, ∀ more,
      (collection.run more).map.find? frame.id frame.context.1 frame.context.2 frame.ecuId = some frame) := by
  intro collection
  obtain ⟨sound, accepted⟩ := run_sound offers
  have listed : collection.map.toList = collection.accepted := sound.map.toList
  refine ⟨accepted, ⟨listed, ?_, ?_⟩, sound.map.find?_eq, ⟨sound.tables.toList, ?_, ?_⟩, ?_,
    sound.map.count_le_one, ?_⟩
  · rw [size_eq, listed]
  · rw [pduCount_eq, listed]
  · intro id app ctx ecu
    exact (sound.tables.find?_eq id app ctx ecu).trans (sound.map.find?_eq id app ctx ecu).symm
  · intro frame
    rcases sound.offer_cases frame with ⟨_, _, fault, refused, same⟩ | ⟨_, _, _, ⟨next, added⟩, same⟩
    · rw [same, refused]
      rfl
    · rw [same, added]
      rfl
  · intro frame fault refused
    rcases sound.offer_cases frame with ⟨_, unchanged, _⟩ | ⟨_, _, _, _, done⟩
    · exact unchanged
    · rw [done] at refused
      cases refused
  · intro frame present more
    obtain ⟨later, _⟩ := run_sound (offers ++ more)
    rw [run_append] at later
    exact later.map.find?_own ((accepted_run collection more).subset present)

def overlappingFrames : List Frame :=
  [{ Frame.plain 7 with ecuId := some "ECU1", appId := some "APP1", ctxId := some "CTX1" }, .plain 7,
    { Frame.plain 7 with ecuId := some "ECU2", appId := some "APP1" },
    { Frame.plain 7 with appId := some "APP1", ctxId := some "CTX2" }]

theorem overlapping_frames_are_found :
    let collection := start.run overlappingFrames
    collection.accepted = overlappingFrames.eraseIdx 1 ∧
    collection.offer (.plain 7) = collection ∧
    collection.map.find? 7 (some "APP1") (some "CTX1") (some "ECU2") = overlappingFrames[2]? ∧
    collection.tables.find? 7 (some "APP1") (some "CTX2") (some "ECU3") = overlappingFrames[3]? ∧
    collection.map.find? 7 (some "APP1") none none = overlappingFrames[0]? ∧
    (collection.run [.plain 8, .plain 7]).map.find? 7 (some "APP1") (some "CTX2") none = overlappingFrames[3]? := by
  intro collection
  obtain ⟨accepted, _, found, ⟨_, alike, answers⟩, refused, _, kept⟩ :=
    lookups_search_the_accepted_frames overlappingFrames
  have listed : collection.accepted = overlappingFrames.eraseIdx 1 := accepted.trans (by decide)
  have blocked : ∃ earlier ∈ collection.accepted, earlier.Blocks (.plain 7) := by
    rw [listed]
    decide
  have unchanged : collection.offer (.plain 7) = collection := by
    rcases (run_sound overlappingFrames).1.offer_cases (.plain 7) with ⟨_, _, fault, _, given⟩ | ⟨unhindered, _⟩
    · exact refused (.plain 7) fault given
    · exact absurd blocked unhindered
  have searched : ∀ id app ctx ecu, collection.map.find? id app ctx ecu =
      search (overlappingFrames.eraseIdx 1) id app ctx ecu := by
    rw [← listed]
    exact found
  refine ⟨listed, unchanged, ?_, ?_, ?_, ?_⟩
  · rw [searched]
    decide
  · rw [alike, searched]
    decide
  · rw [searched]
    decide
  · refine kept { Frame.plain 7 with appId := some "APP1", ctxId := some "CTX2" } ?_ [.plain 8, .plain 7]
    change _ ∈ collection.accepted
    rw [listed]
    decide

end Collection

end FrameMap

end DiagTrace
