import MaskedInput.Mask

/-!
# Sharing compiled masks

Fields with the same pattern share one compiled mask.  The cache compiles a pattern when it is
first asked for and hands out the same mask object from then on; it forgets all of them when it is
cleared.  Errors are not kept.

Mask objects are told apart by number: each is numbered when it is made, and no number is used
twice, also across a clearing.

* `Cache.get` — the mask object of a pattern.
* `Cache.clear` — forgets every object.
* **`Cache.run`** — a list of such calls, one after another.
-/

namespace MaskedInput

/-- A mask that is shared, with its number. -/
structure SharedMask where
  id : Nat
  mask : Mask
  deriving DecidableEq, Repr, Inhabited

/-- The shared masks by pattern, and the number of the next one. -/
structure Cache where
  entries : List (List Char × SharedMask) := []
  nextId : Nat := 0
  deriving DecidableEq, Repr, Inhabited

namespace Cache

/-- The number of patterns that are kept. -/
def size (c : Cache) : Nat := c.entries.length

def isEmpty (c : Cache) : Bool := c.entries.isEmpty

/-- The shared mask of a pattern, if the cache keeps one. -/
def find? (c : Cache) (pattern : List Char) : Option SharedMask := c.entries.lookup pattern

/-- Keeps a mask that has just been made. -/
def insert (c : Cache) (pattern : List Char) (mask : Mask) : Cache × SharedMask :=
  let shared := ⟨c.nextId, mask⟩
  (⟨(pattern, shared) :: c.entries, c.nextId + 1⟩, shared)

/-- **The shared mask of a pattern**, compiled with the built-in symbols when it is first asked
for. -/
def get (c : Cache) (pattern : List Char) : Cache × Except PatternError SharedMask :=
  match c.find? pattern with
  | some shared => (c, .ok shared)
  | none =>
    match Mask.compile [] pattern with
    | .ok mask =>
      let (c, shared) := c.insert pattern mask
      (c, .ok shared)
    | .error e => (c, .error e)

/-- Forgets every shared mask; their numbers are not used again. -/
def clear (c : Cache) : Cache := { c with entries := [] }

end Cache

/-! ## Runs of calls -/

/-- What can be asked of a cache. -/
inductive CacheCall where
  | get (pattern : List Char)
  | clear
  deriving DecidableEq, Repr, Inhabited

namespace Cache

/-- One call.  Only asking for a mask has an answer. -/
def step (c : Cache) : CacheCall → Cache × Option (Except PatternError SharedMask)
  | .get pattern =>
    let (c, answer) := c.get pattern
    (c, some answer)
  | .clear => (c.clear, none)

/-- **The calls of a list, one after another**, with their answers. -/
def run (c : Cache) : List CacheCall → Cache × List (Option (Except PatternError SharedMask))
  | [] => (c, [])
  | call :: calls =>
    let (c, answer) := c.step call
    let (c, answers) := c.run calls
    (c, answer :: answers)

end Cache

end MaskedInput
