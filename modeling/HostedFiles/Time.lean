/-!
# Time — spans and instants

A span is a whole number of nanoseconds.  An instant is counted in seconds from the first of January
1970 in either direction, and in nanoseconds behind such a second.  Credentials are judged by the
seconds alone.
-/

namespace HostedFiles

/-- A span of time. -/
structure Duration where
  nanoseconds : Nat
  deriving DecidableEq

namespace Duration

/-- A span of whole seconds. -/
def ofSeconds (n : Nat) : Duration :=
  ⟨n * 1000000000⟩

/-- The whole seconds of a span. -/
def seconds (d : Duration) : Nat :=
  d.nanoseconds / 1000000000

/-- Whole seconds are counted as they were given. -/
@[simp] theorem seconds_ofSeconds (n : Nat) : (ofSeconds n).seconds = n :=
  Nat.mul_div_cancel _ (by decide)

/-- The span no shorter than `least` and no longer than `most` that is nearest to `d`; `most` wins
where the bounds contradict one another. -/
def clamp (d least most : Duration) : Duration :=
  ⟨min (max d.nanoseconds least.nanoseconds) most.nanoseconds⟩

/-- The bound that `d` lies beyond, or else `d` itself, found by comparing. -/
def within (d least most : Duration) : Duration :=
  if d.nanoseconds < least.nanoseconds then least
  else if most.nanoseconds < d.nanoseconds then most
  else d

/-- **Comparing finds the span that clamping makes**, where the bounds are in order. -/
theorem within_eq_clamp (d : Duration) {least most : Duration}
    (h : least.nanoseconds ≤ most.nanoseconds) : d.within least most = d.clamp least most := by
  rw [within, clamp]
  split
  next hless => rw [Nat.max_eq_right (Nat.le_of_lt hless), Nat.min_eq_left h]
  next hleast =>
    rw [Nat.max_eq_left (Nat.not_lt.1 hleast)]
    split
    next hmore => rw [Nat.min_eq_right (Nat.le_of_lt hmore)]
    next hmost => rw [Nat.min_eq_left (Nat.not_lt.1 hmost)]

/-- The digits after the point for `part` out of `whole`, a power of ten: as many as are needed. -/
def fraction (part whole : Nat) : String :=
  let digits := (toString (whole + part)).toList.drop 1
  let needed := (digits.reverse.dropWhile (· == '0')).reverse
  if needed = [] then "" else "." ++ String.ofList needed

/-- The span in the largest unit that it fills once. -/
def shown (d : Duration) : String :=
  let inUnit (size : Nat) (unit : String) :=
    toString (d.nanoseconds / size) ++ fraction (d.nanoseconds % size) size ++ unit
  if 1000000000 ≤ d.nanoseconds then inUnit 1000000000 "s"
  else if 1000000 ≤ d.nanoseconds then inUnit 1000000 "ms"
  else if 1000 ≤ d.nanoseconds then inUnit 1000 "µs"
  else inUnit 1 "ns"

end Duration

/-- A point in time: nanoseconds behind the beginning of a second, a thousand million of them or
more where a leap second makes that second longer. -/
structure Instant where
  seconds : Int
  nanoseconds : Nat
  deriving DecidableEq

namespace Instant

/-- The beginning of a whole second. -/
def ofSeconds (n : Int) : Instant :=
  ⟨n, 0⟩

/-- The beginning of a second lies in it. -/
@[simp] theorem seconds_ofSeconds (n : Int) : (ofSeconds n).seconds = n :=
  rfl

end Instant

end HostedFiles
