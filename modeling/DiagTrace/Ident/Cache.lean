import DiagTrace.Ident

/-!
A table of identifiers already converted to text. Each packed identifier belongs to one bucket; looking
one up stores it, so that a later lookup finds the same text.
-/
namespace DiagTrace.Ident

abbrev Entry := UInt32 × String

structure Cache where
  buckets : Array (List Entry)
  sized : buckets.size = 65536

namespace Cache

def empty : Cache := ⟨Array.replicate 65536 [], by simp⟩

/-- The bucket of a packed identifier: its halves combined and cut to 7 bits a byte. -/
def bucket (id : UInt32) : Nat :=
  let low : UInt32 := id &&& (0x7F7F : UInt32)
  let high : UInt32 := id >>> (16 : UInt32)
  let folded : UInt32 := (low ^^^ high) &&& (0x7F7F : UInt32)
  folded.toNat

def find? (cache : Cache) (id : UInt32) : Option String :=
  ((cache.buckets.getD (bucket id) []).find? fun entry => entry.1 == id).map Prod.snd

def store (cache : Cache) (id : UInt32) (value : String) : Cache :=
  ⟨cache.buckets.modify (bucket id) (· ++ [(id, value)]), by simp [cache.sized]⟩

/-- The text of an identifier together with the cache that now holds it. -/
def lookup (cache : Cache) (id : UInt32) : String × Cache :=
  match cache.find? id with
  | some value => (value, cache)
  | none => (text id, cache.store id (text id))

def size (cache : Cache) : Nat := cache.buckets.foldl (fun n entries => n + entries.length) 0

end Cache

end DiagTrace.Ident
