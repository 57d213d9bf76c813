import AccessMobility.Document

/-!
# Instants

Points of time in seconds of 64 bits before or after the UNIX epoch, and nanoseconds within the
second.  Radio nodes send them as four octets that count seconds since 1900; a count before the
UNIX epoch belongs to the era that starts in 2036.
-/

namespace AccessMobility

/-- A point of time: whole seconds since the UNIX epoch and the nanoseconds after them. -/
structure Instant where
  seconds : Int
  nanoseconds : Nat
  le_seconds : -9223372036854775808 ≤ seconds := by decide
  seconds_lt : seconds < 9223372036854775808 := by decide
  nanoseconds_lt : nanoseconds < 1000000000 := by decide
  deriving DecidableEq

namespace Instant

instance : Inhabited Instant := ⟨{ seconds := 0, nanoseconds := 0 }⟩

/-- A whole second, if it has 64 bits. -/
def ofSeconds? (seconds : Int) : Option Instant :=
  if h : -9223372036854775808 ≤ seconds ∧ seconds < 9223372036854775808 then
    some { seconds, nanoseconds := 0, le_seconds := h.1, seconds_lt := h.2 }
  else
    none

/-- An instant from any counts of seconds and nanoseconds since the epoch, if it is not too
late. -/
def ofCounts? (seconds nanoseconds : Nat) : Option Instant :=
  if h : ((seconds + nanoseconds / 1000000000 : Nat) : Int) < 9223372036854775808 then
    some {
      seconds := (seconds + nanoseconds / 1000000000 : Nat)
      nanoseconds := nanoseconds % 1000000000
      le_seconds := by omega
      seconds_lt := h
      nanoseconds_lt := Nat.mod_lt _ (by decide) }
  else
    none

/-- Not later than. -/
def NotAfter (instant other : Instant) : Prop :=
  instant.seconds < other.seconds ∨
    instant.seconds = other.seconds ∧ instant.nanoseconds ≤ other.nanoseconds

instance (instant other : Instant) : Decidable (NotAfter instant other) :=
  inferInstanceAs (Decidable (_ ∨ _))

/-- Seconds from 1900 to the UNIX epoch. -/
def epochOffset : Nat := 2208988800

/-- Seconds of an era of the four-octet count. -/
def eraLength : Nat := 4294967296

/-- The seconds since the UNIX epoch of a count of seconds since 1900. -/
def secondsOfCount (count : UInt32) : Nat :=
  if epochOffset ≤ count.toNat then count.toNat - epochOffset
  else count.toNat + eraLength - epochOffset

theorem secondsOfCount_lt (count : UInt32) : secondsOfCount count < eraLength := by
  have := count.toNat_lt
  unfold secondsOfCount eraLength epochOffset
  split <;> omega

/-- The instant of four octets; any other octet string holds none. -/
def ofOctets? : List UInt8 → Option Instant
  | [a, b, c, d] =>
    let count := UInt32.ofNat
      (16777216 * a.toNat + 65536 * b.toNat + 256 * c.toNat + d.toNat)
    some {
      seconds := secondsOfCount count
      nanoseconds := 0
      le_seconds := by omega
      seconds_lt := by have := secondsOfCount_lt count; unfold eraLength at this; omega }
  | _ => none

def toJson (instant : Instant) : Json :=
  .object [("secs_since_epoch", .integer instant.seconds),
    ("nanos_since_epoch", .integer instant.nanoseconds)]

/-- Both counts are needed and nothing else may stand beside them. -/
def ofJson? (json : Json) : Option Instant := do
  let fields := ["secs_since_epoch", "nanos_since_epoch"]
  let record ← Document.record? fields json
  guard (record.all fun entry => fields.contains entry.1)
  let seconds ← record.required "secs_since_epoch" Document.uint64?
  let nanoseconds ← record.required "nanos_since_epoch" (Document.bounded? 0 4294967295)
  ofCounts? seconds.toNat nanoseconds.toNat

end Instant

end AccessMobility
