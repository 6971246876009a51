import Gleaner.Number.Binary64
import Gleaner.Text.Digit

/-!
# Moments of the calendar

A moment is a number of milliseconds since the beginning of 1970.  It is written with its date and
time of day; a year outside four digits has a sign and six.

* `civil` — the date of a day.
* `isoOf` — the written form of a moment of whole milliseconds.
* `iso?` — the written form of a moment, `none` beyond the calendar.
-/

namespace Gleaner.Crawl

/-- Milliseconds of a day. -/
def dayLength : Int := 86400000

/-- The last moment of the calendar on either side. -/
def lastMoment : Int := 8640000000000000

/-- Year, month and day of a day counted from the beginning of 1970.  Years are taken to begin in
March, so that the day of a leap year is the last one of its year. -/
def civil (day : Int) : Int × Nat × Nat :=
  let z := day + 719468
  let era := z.fdiv 146097
  let ofEra := z.fmod 146097
  let yearOfEra := (ofEra - ofEra / 1460 + ofEra / 36524 - ofEra / 146096) / 365
  let dayOfYear := ofEra - (365 * yearOfEra + yearOfEra / 4 - yearOfEra / 100)
  let shifted := (5 * dayOfYear + 2) / 153
  let d := dayOfYear - (153 * shifted + 2) / 5 + 1
  let m := if shifted < 10 then shifted + 3 else shifted - 9
  let y := yearOfEra + era * 400 + (if m ≤ 2 then 1 else 0)
  (y, m.toNat, d.toNat)

/-- A number with zeros in front up to a width. -/
def padTo (width n : Nat) : Text :=
  let t := Text.ofNat n
  List.replicate (width - t.length) '0' ++ t

/-- A year: four digits, or a sign and six. -/
def writeYear (y : Int) : Text :=
  if 0 ≤ y ∧ y ≤ 9999 then padTo 4 y.toNat
  else (if y < 0 then '-' else '+') :: padTo 6 y.natAbs

/-- The written form of a moment of whole milliseconds. -/
def isoOf (ms : Int) : Text :=
  let (y, m, d) := civil (ms.fdiv dayLength)
  let t := (ms.fmod dayLength).toNat
  Text.cat [writeYear y, "-", padTo 2 m, "-", padTo 2 d, "T", padTo 2 (t / 3600000), ":",
    padTo 2 (t / 60000 % 60), ":", padTo 2 (t / 1000 % 60), ".", padTo 3 (t % 1000), "Z"]

/-- The written form of a moment.  A part of a millisecond does not count. -/
def iso? (moment : Binary64) : Option Text :=
  let last := Binary64.ofInt lastMoment
  if last.neg.le moment && moment.le last then moment.truncate?.map isoOf else none

end Gleaner.Crawl
