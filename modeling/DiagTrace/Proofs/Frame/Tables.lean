import DiagTrace.Proofs.Frame.Loading

/-!
Frames in one vector with tables of their places: by device, by application and context, and by number alone. An
addition is spelled out effect by effect, since each table has its own way with a key that it has already. Each table
leads to the first frame under a key nevertheless, over any history of additions, and a lookup finds what a search of
the vector finds.
-/
namespace DiagTrace

namespace Frame

def ecuKey (frame : Frame) : Option (String × UInt32) := frame.ecuId.map fun ecu => (ecu, frame.id)

def contextKey (frame : Frame) : Option (String × String × UInt32) :=
  match frame.appId, frame.ctxId with
  | some app, some ctx => some (app, ctx, frame.id)
  | _, _ => none

def idKey (frame : Frame) : Option UInt32 := some frame.id

variable {frame : Frame} {ecu app ctx : String} {id : UInt32}

theorem ecuKey_eq_some_iff : frame.ecuKey = some (ecu, id) ↔ frame.ecuId = some ecu ∧ frame.id = id := by
  rw [ecuKey, Option.map_eq_some_iff]
  constructor
  · rintro ⟨own, named, same⟩
    cases same
    exact ⟨named, rfl⟩
  · rintro ⟨named, rfl⟩
    exact ⟨ecu, named, rfl⟩

theorem contextKey_eq_some_iff :
    frame.contextKey = some (app, ctx, id) ↔ frame.appId = some app ∧ frame.ctxId = some ctx ∧ frame.id = id := by
  obtain ⟨own, ecuId, appId, ctxId, type, pdus⟩ := frame
  cases appId <;> cases ctxId <;> simp [contextKey]

theorem idKey_eq_some_iff : frame.idKey = some id ↔ frame.id = id := Option.some_inj

theorem ofEcu_mem_keys : .ofEcu ecu id ∈ frame.keys ↔ frame.ecuKey = some (ecu, id) := by
  obtain ⟨own, ecuId, appId, ctxId, type, pdus⟩ := frame
  cases ecuId <;> cases appId <;> cases ctxId <;> simp [keys, FrameKey.candidates, ecuKey, eq_comm]

theorem ofContext_mem_keys : .ofContext app ctx id ∈ frame.keys ↔ frame.contextKey = some (app, ctx, id) := by
  obtain ⟨own, ecuId, appId, ctxId, type, pdus⟩ := frame
  cases ecuId <;> cases appId <;> cases ctxId <;> simp [keys, FrameKey.candidates, contextKey, eq_comm]

theorem ofId_mem_keys : .ofId id ∈ frame.keys ↔ frame.idKey = some id := by
  obtain ⟨own, ecuId, appId, ctxId, type, pdus⟩ := frame
  cases ecuId <;> cases appId <;> cases ctxId <;> simp [keys, FrameKey.candidates, idKey, eq_comm]

theorem key_eq (frame : Frame) :
    frame.key =
      match frame.ecuKey, frame.contextKey with
      | some (ecu, id), _ => .ofEcu ecu id
      | none, some (app, ctx, id) => .ofContext app ctx id
      | none, none => .ofId frame.id := by
  obtain ⟨own, ecuId, appId, ctxId, type, pdus⟩ := frame
  cases ecuId <;> cases appId <;> cases ctxId <;> rfl

end Frame

/-- The frame for a message by a search of all frames: of the device first, then of application and context where
both are known, then of the number alone. -/
def FrameMap.search (frames : List Frame) (id : UInt32) (app ctx ecu : Option String) : Option Frame :=
  let ofEcu := ecu.bind fun ecu => frames.find? fun frame => frame.ecuId = some ecu ∧ frame.id = id
  let ofContext := match app, ctx with
    | some app, some ctx =>
      frames.find? fun frame => frame.appId = some app ∧ frame.ctxId = some ctx ∧ frame.id = id
    | _, _ => none
  (ofEcu.or ofContext).or (frames.find? fun frame => frame.id = id)

structure FrameTables where
  frames : Array Frame
  byEcu : Std.HashMap (String × UInt32) Nat
  byContext : Std.HashMap (String × String × UInt32) Nat
  byId : Std.HashMap UInt32 Nat

namespace FrameTables

variable {tables : FrameTables} {frames : List Frame}

def empty : FrameTables := ⟨#[], {}, {}, {}⟩

def place? (tables : FrameTables) (id : UInt32) (app ctx ecu : Option String) : Option Nat :=
  let ofEcu := ecu.bind fun ecu => tables.byEcu[(ecu, id)]?
  let ofContext := match app, ctx with
    | some app, some ctx => tables.byContext[(app, ctx, id)]?
    | _, _ => none
  (ofEcu.or ofContext).or tables.byId[id]?

def find? (tables : FrameTables) (id : UInt32) (app ctx ecu : Option String) : Option Frame :=
  (tables.place? id app ctx ecu).bind fun place => tables.frames[place]?

def isTaken (tables : FrameTables) (frame : Frame) : Bool :=
  match frame.ecuKey, frame.contextKey with
  | some key, _ => tables.byEcu.contains key
  | none, some key => tables.byContext.contains key
  | none, none => tables.byId.contains frame.id

abbrev Change := ExceptT Fault (StateM FrameTables)

def Change.perform (change : Change Unit) (tables : FrameTables) : Except Fault Unit × FrameTables :=
  (change.run.run tables).run

/-- In the table of devices the last frame under a key takes it over. -/
def enterEcu (frame : Frame) (place : Nat) : Change Unit :=
  match frame.ecuKey with
  | some key => modify fun tables => { tables with byEcu := tables.byEcu.insert key place }
  | none => pure ()

def enterContext (frame : Frame) (place : Nat) : Change Unit :=
  match frame.contextKey with
  | some key => modify fun tables => { tables with byContext := tables.byContext.insertIfNew key place }
  | none => pure ()

def enterId (frame : Frame) (place : Nat) : Change Unit :=
  modify fun tables => { tables with byId := tables.byId.insertIfNew frame.id place }

def enter (frame : Frame) : Change Unit := do
  let tables ← get
  if tables.isTaken frame then throw (.duplicateFrame frame.ecuId frame.appId frame.ctxId frame.id)
  else
    let place := tables.frames.size
    enterEcu frame place
    enterContext frame place
    enterId frame place
    modify fun tables => { tables with frames := tables.frames.push frame }

def entered (tables : FrameTables) (frame : Frame) : FrameTables where
  frames := tables.frames.push frame
  byEcu := frame.ecuKey.elim tables.byEcu fun key => tables.byEcu.insert key tables.frames.size
  byContext := frame.contextKey.elim tables.byContext fun key => tables.byContext.insertIfNew key tables.frames.size
  byId := frame.idKey.elim tables.byId fun key => tables.byId.insertIfNew key tables.frames.size

/-- The steps of an addition are all done or none of them is. -/
theorem perform_enter (frame : Frame) (tables : FrameTables) :
    Change.perform (enter frame) tables =
      if tables.isTaken frame = true then
        (.error (.duplicateFrame frame.ecuId frame.appId frame.ctxId frame.id), tables)
      else (.ok (), tables.entered frame) := by
  have begun : Change.perform (enter frame) tables = Change.perform
      (if tables.isTaken frame = true then throw (.duplicateFrame frame.ecuId frame.appId frame.ctxId frame.id)
        else do
          enterEcu frame tables.frames.size
          enterContext frame tables.frames.size
          enterId frame tables.frames.size
          modify fun tables => { tables with frames := tables.frames.push frame }) tables := rfl
  rw [begun]
  split
  · rfl
  · unfold enterEcu enterContext entered
    cases frame.ecuKey with
    | none =>
      cases frame.contextKey with
      | none => rfl
      | some context => rfl
    | some ecu =>
      cases frame.contextKey with
      | none => rfl
      | some context => rfl

section Places

variable {κ : Type} [BEq κ] [LawfulBEq κ] [Hashable κ] {keyOf : Frame → Option κ} {table : Std.HashMap κ Nat}

theorem getElem?_insertIfNew {α : Type} (table : Std.HashMap κ α) (new key : κ) (value : α) :
    (table.insertIfNew new value)[key]? = table[key]?.or (if new == key then some value else none) := by
  rw [Std.HashMap.getElem?_insertIfNew]
  by_cases same : new = key
  · subst same
    cases held : table[new]? with
    | none =>
      have free : new ∉ table := by simpa using held
      simp [free]
    | some earlier =>
      have taken : new ∈ table := Std.HashMap.mem_iff_isSome_getElem?.mpr (by rw [held]; rfl)
      simp [taken]
  · simp [same]

/-- A table leads from each key to the place of the first frame that has it. -/
def Places (keyOf : Frame → Option κ) (frames : List Frame) (table : Std.HashMap κ Nat) : Prop :=
  ∀ key, table[key]? = frames.findIdx? fun frame => keyOf frame == some key

omit [LawfulBEq κ] in
theorem places_empty (keyOf : Frame → Option κ) : Places keyOf [] {} :=
  fun _ => Std.HashMap.getElem?_empty

theorem Places.contains_iff (places : Places keyOf frames table) (key : κ) :
    table.contains key = true ↔ ∃ frame ∈ frames, keyOf frame = some key := by
  rw [Std.HashMap.contains_eq_isSome_getElem?, places key, List.findIdx?_isSome, List.any_eq_true]
  simp only [beq_iff_eq]

theorem Places.keep (places : Places keyOf frames table) (frame : Frame) :
    Places keyOf (frames ++ [frame])
      ((keyOf frame).elim table fun key => table.insertIfNew key frames.length) := by
  intro key
  rw [List.findIdx?_append, List.findIdx?_singleton, ← places key]
  cases own : keyOf frame with
  | none => simp
  | some new =>
    rw [Option.elim_some, getElem?_insertIfNew, Option.some_beq_some]
    congr 1
    cases new == key with
    | false => rfl
    | true => simp

theorem Places.takeOver (places : Places keyOf frames table) (frame : Frame)
    (free : ∀ key, keyOf frame = some key → table.contains key = false) :
    Places keyOf (frames ++ [frame]) ((keyOf frame).elim table fun key => table.insert key frames.length) := by
  have kept := places.keep frame
  cases own : keyOf frame with
  | none =>
    rw [own] at kept
    exact kept
  | some new =>
    rw [own] at kept
    intro key
    have missing : new ∉ table := Std.HashMap.contains_eq_false_iff_not_mem.mp (free new own)
    rw [← kept key, Option.elim_some, Option.elim_some, Std.HashMap.getElem?_insert, Std.HashMap.getElem?_insertIfNew]
    simp only [missing, not_false_eq_true, and_true]

omit [LawfulBEq κ] in
theorem Places.inside (places : Places keyOf frames table) {key : κ} {place : Nat} (held : table[key]? = some place) :
    place < frames.length := by
  rw [places key] at held
  exact (List.findIdx?_eq_some_iff_getElem.mp held).1

theorem Places.found (places : Places keyOf frames table) (key : κ) {sought : Frame → Prop} [DecidablePred sought]
    (same : ∀ frame, keyOf frame = some key ↔ sought frame) :
    (table[key]?.bind fun place => frames[place]?) = frames.find? fun frame => sought frame := by
  have decided : (fun frame => keyOf frame == some key) = fun frame => decide (sought frame) := by
    funext frame
    rw [Bool.eq_iff_iff, beq_iff_eq, decide_eq_true_iff]
    exact same frame
  rw [places key, decided, List.find?_eq_bind_findIdx?_getElem?]

end Places

theorem bind_or {first second : Option Nat} (inside : ∀ place, first = some place → place < frames.length) :
    ((first.or second).bind fun place => frames[place]?) =
      (first.bind fun place => frames[place]?).or (second.bind fun place => frames[place]?) := by
  cases first with
  | none => rfl
  | some place =>
    rw [Option.some_or, Option.bind_some, List.getElem?_eq_getElem (inside place rfl), Option.some_or]

structure Holds (tables : FrameTables) (frames : List Frame) : Prop where
  toList : tables.frames.toList = frames
  byEcu : Places Frame.ecuKey frames tables.byEcu
  byContext : Places Frame.contextKey frames tables.byContext
  byId : Places Frame.idKey frames tables.byId

theorem holds_empty : Holds empty [] :=
  ⟨rfl, places_empty Frame.ecuKey, places_empty Frame.contextKey, places_empty Frame.idKey⟩

namespace Holds

theorem isTaken_iff (holds : Holds tables frames) (frame : Frame) :
    tables.isTaken frame = true ↔ ∃ earlier ∈ frames, earlier.Blocks frame := by
  cases device : frame.ecuKey with
  | some key =>
    obtain ⟨ecu, id⟩ := key
    simp only [isTaken, Frame.Blocks, Frame.key_eq, device, holds.byEcu.contains_iff, Frame.ofEcu_mem_keys]
  | none =>
    cases context : frame.contextKey with
    | some key =>
      obtain ⟨app, ctx, id⟩ := key
      simp only [isTaken, Frame.Blocks, Frame.key_eq, device, context, holds.byContext.contains_iff,
        Frame.ofContext_mem_keys]
    | none =>
      simp only [isTaken, Frame.Blocks, Frame.key_eq, device, context, holds.byId.contains_iff, Frame.ofId_mem_keys]

theorem entered (holds : Holds tables frames) {frame : Frame} (free : ¬ tables.isTaken frame = true) :
    Holds (tables.entered frame) (frames ++ [frame]) := by
  have size : tables.frames.size = frames.length := by rw [← Array.length_toList, holds.toList]
  have new_device : ∀ key, frame.ecuKey = some key → tables.byEcu.contains key = false := by
    intro key own
    simp only [isTaken, own, Bool.not_eq_true] at free
    exact free
  unfold FrameTables.entered
  rw [size]
  constructor
  case toList => rw [Array.toList_push, holds.toList]
  case byEcu => exact holds.byEcu.takeOver frame new_device
  case byContext => exact holds.byContext.keep frame
  case byId => exact holds.byId.keep frame

theorem find?_eq (holds : Holds tables frames) (id : UInt32) (app ctx ecu : Option String) :
    tables.find? id app ctx ecu = FrameMap.search frames id app ctx ecu := by
  have vector : (fun place : Nat => tables.frames[place]?) = fun place : Nat => frames[place]? := by
    funext place
    rw [← Array.getElem?_toList, holds.toList]
  unfold find? place? FrameMap.search
  rw [vector]
  simp only [Option.or_assoc]
  rw [bind_or, bind_or, holds.byId.found id fun _ => Frame.idKey_eq_some_iff]
  congr 1
  · cases ecu with
    | none => rfl
    | some ecu => exact holds.byEcu.found (ecu, id) fun _ => Frame.ecuKey_eq_some_iff
  · congr 1
    cases app with
    | none => rfl
    | some app =>
      cases ctx with
      | none => rfl
      | some ctx => exact holds.byContext.found (app, ctx, id) fun _ => Frame.contextKey_eq_some_iff
  · intro place held
    cases app with
    | none => cases held
    | some app =>
      cases ctx with
      | none => cases held
      | some ctx => exact holds.byContext.inside held
  · intro place held
    cases ecu with
    | none => cases held
    | some ecu => exact holds.byEcu.inside held

end Holds

end FrameTables

end DiagTrace
