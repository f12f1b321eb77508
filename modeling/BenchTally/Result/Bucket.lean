import BenchTally.Decimal.Layout
import BenchTally.Decimal.Reader

set_option autoImplicit false
set_option relaxedAutoImplicit false

/-!
# Time buckets

The repetitions of a run are sampled at slightly different times. Rounding the time of a sample to
a tenth of a second brings samples together that belong together.

## Main definitions

* `TimeBucket` — a time as a number of ticks of 100 ms.
* `TimeBucket.ofMillis` — the bucket of a time in milliseconds.
* `TimeBucket.seconds` — the time of a bucket in seconds.

## Implementation notes

The seconds are written with one place, read back, multiplied by ten and rounded. Writing rounds
the exact value, a half going to the even digit: 250 ms belong to 0.2 s, and 150 ms to 0.1 s,
because the double nearest to 0.15 lies slightly below it.
-/

namespace BenchTally

/-- A time rounded to a tenth of a second. -/
structure TimeBucket where
  /-- The number of ticks of 100 ms. -/
  ticks : Int
  deriving DecidableEq, Repr

instance : Ord TimeBucket := ⟨compareOn TimeBucket.ticks⟩

instance : Std.TransOrd TimeBucket :=
  inferInstanceAs (Std.TransCmp (compareOn TimeBucket.ticks))

instance : Std.LawfulEqOrd TimeBucket where
  eq_of_compare {a b} h := by
    have h' : compare a.ticks b.ticks = .eq := h
    cases a
    cases b
    simpa using h'

/-- The greatest number of ticks, the largest signed integer of 64 bits. -/
def TimeBucket.maxTicks : Int := 9223372036854775807

/-- The least number of ticks, the smallest signed integer of 64 bits. -/
def TimeBucket.minTicks : Int := -9223372036854775808

/-- A number of ticks brought between the two bounds. -/
def TimeBucket.clamp (n : Int) : Int :=
  max TimeBucket.minTicks (min TimeBucket.maxTicks n)

/-- The integer nearest to `m · 2 ^ e`; of two equally near, the greater. -/
def roundHalfUp (m : Nat) (e : Int) : Nat :=
  (2 * (m * Nat.pow 2 e.toNat) + Nat.pow 2 (-e).toNat) / (2 * Nat.pow 2 (-e).toNat)

/-- The number of ticks nearest to a double, a half going away from zero. What is not a number
becomes zero. -/
def TimeBucket.roundTicks (x : Float) : Int :=
  match Binary.ofFloat x with
  | .nan => 0
  | .infinity negative => if negative then TimeBucket.minTicks else TimeBucket.maxTicks
  | .finite negative m e =>
    let n : Int := roundHalfUp m e
    TimeBucket.clamp (if negative then -n else n)

/-- A double rounded to the given number of places, by way of its text. -/
def roundPlaces (places : Nat) (x : Float) : Float :=
  (Decimal.read? (Decimal.writeFixed places x)).getD x

/-- The bucket of a time in milliseconds. -/
def TimeBucket.ofMillis (ms : Float) : TimeBucket :=
  ⟨TimeBucket.roundTicks (roundPlaces 1 (ms / 1000.0) * 10.0)⟩

/-- The time of a bucket in seconds. -/
def TimeBucket.seconds (b : TimeBucket) : Float :=
  Float.ofInt b.ticks / 10.0

end BenchTally
