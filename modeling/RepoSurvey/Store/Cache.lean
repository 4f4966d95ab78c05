import RepoSurvey.Json.Reader
import RepoSurvey.Json.Writer
import RepoSurvey.Store.Lifetime
import RepoSurvey.Store.Shelf

/-!
# Caches

A cache keeps JSON values for a time. In memory a value is kept as it is, with the moment it was kept
and how long it lasts; in a table it is kept as text, with the time it ends. Values past their time
are dropped when they are looked for. In memory a strange lifetime shows when the value is looked for,
in a table when it is kept, and so does an integer too long to be written.
-/

namespace RepoSurvey.Store

open Clock (Moment)
open Json (Amount ShapeFault)

/-- The seconds for which a value is kept when no other time is given. -/
def defaultSeconds : Int := 60 * 60

/-- Why a cache cannot do something. -/
inductive CacheFault where
  /-- A lifetime is no number. -/
  | lifetime (fault : ShapeFault)
  /-- A lifetime leads to no end that could be noted. -/
  | noEnd
  /-- An integer is too long to be written. -/
  | overlongInteger
  deriving DecidableEq, Repr

/-- The wording of a fault. -/
def CacheFault.message : CacheFault -> String
  | .lifetime fault => fault.message
  | .noEnd => "NOT NULL constraint failed: analysis_cache.expires_at"
  | .overlongInteger => Json.unwritableReport

/-- A value in memory. -/
structure Held where
  value : Json
  since : Moment
  lifetime : Lifetime
  deriving DecidableEq, Repr

/-- Whether the time of a value is over. -/
def Held.isOver (held : Held) (now : Moment) : Except ShapeFault Bool :=
  held.lifetime.isOver (now.since held.since)

/-- A cache in memory. -/
structure Memory where
  entries : Shelf Held
  deriving DecidableEq, Repr

namespace Memory

/-- A cache without values. -/
def empty : Memory := ⟨[]⟩

/-- Look for a value. -/
def get (key : String) (now : Moment) (memory : Memory) :
    Except CacheFault (Option Json) × Memory :=
  match memory.entries.get? key with
  | none => (.ok none, memory)
  | some held =>
    match held.isOver now with
    | .error fault => (.error (.lifetime fault), memory)
    | .ok true => (.ok none, ⟨memory.entries.remove key⟩)
    | .ok false => (.ok (some held.value), memory)

/-- Keep a value for a lifetime. -/
def set (key : String) (value : Json) (lifetime : Lifetime) (now : Moment) (memory : Memory) :
    Memory :=
  ⟨memory.entries.put key ⟨value, now, lifetime⟩⟩

/-- Drop a value. -/
def delete (key : String) (memory : Memory) : Memory := ⟨memory.entries.remove key⟩

/-- Entries whose time is not over, and the number of the others. -/
def sweep (now : Moment) : Shelf Held -> Except ShapeFault (Nat × Shelf Held)
  | [] => .ok (0, [])
  | (key, held) :: entries => do
    let expired <- held.isOver now
    let (count, kept) <- sweep now entries
    pure (if expired then (count + 1, kept) else (count, (key, held) :: kept))

/-- Drop all values whose time is over, and count them. -/
def purge (now : Moment) (memory : Memory) : Except CacheFault Nat × Memory :=
  match sweep now memory.entries with
  | .ok (count, kept) => (.ok count, ⟨kept⟩)
  | .error fault => (.error (.lifetime fault), memory)

end Memory

/-- A value in a table. The time it ends is counted in seconds. -/
structure Stored where
  text : List Char
  ends : Amount
  deriving DecidableEq, Repr

/-- Whether the time of a value is over. -/
def Stored.isOver (stored : Stored) (now : Moment) : Bool :=
  (Amount.exact (Lifetime.inSeconds now.microseconds)).exceeds stored.ends

/-- A cache in a table. -/
structure Table where
  rows : Shelf Stored
  deriving DecidableEq, Repr

namespace Table

/-- A table without rows. -/
def empty : Table := ⟨[]⟩

/-- Look for a value. A text that cannot be read holds none. -/
def get (key : String) (now : Moment) (table : Table) : Option Json × Table :=
  match table.rows.get? key with
  | none => (none, table)
  | some stored =>
    if stored.isOver now then (none, ⟨table.rows.remove key⟩)
    else ((Json.readAll stored.text).toOption, table)

/-- Keep a value for a lifetime. The value is written before the lifetime is looked at. -/
def set (key : String) (value : Json) (lifetime : Lifetime) (now : Moment) (table : Table) :
    Except CacheFault Table := do
  if !value.integersFit then throw .overlongInteger
  let ends <- (lifetime.endFrom now).mapError .lifetime
  if ends = .undefined then throw .noEnd
  pure ⟨table.rows.put key ⟨Json.write .compact 0 value, ends⟩⟩

/-- Drop a value. -/
def delete (key : String) (table : Table) : Table := ⟨table.rows.remove key⟩

end Table

/-- A cache of either kind. -/
inductive Cache where
  | memory (memory : Memory)
  | table (table : Table)
  deriving DecidableEq, Repr

namespace Cache

/-- Look for a value. -/
def get (key : String) (now : Moment) : Cache -> Except CacheFault (Option Json) × Cache
  | .memory held =>
    let (found, held) := held.get key now
    (found, .memory held)
  | .table rows =>
    let (found, rows) := rows.get key now
    (.ok found, .table rows)

/-- Keep a value for a lifetime. -/
def set (key : String) (value : Json) (lifetime : Lifetime) (now : Moment) (cache : Cache) :
    Except CacheFault Unit × Cache :=
  match cache with
  | .memory held => (.ok (), .memory (held.set key value lifetime now))
  | .table rows =>
    match rows.set key value lifetime now with
    | .ok rows => (.ok (), .table rows)
    | .error fault => (.error fault, .table rows)

/-- Drop a value. -/
def delete (key : String) : Cache -> Cache
  | .memory held => .memory (held.delete key)
  | .table rows => .table (rows.delete key)

/-- Drop all values in memory whose time is over, and count them; nothing for a table. -/
def purge (now : Moment) : Cache -> Option (Except CacheFault Nat) × Cache
  | .memory held =>
    let (count, held) := held.purge now
    (some count, .memory held)
  | .table rows => (none, .table rows)

end Cache

end RepoSurvey.Store
