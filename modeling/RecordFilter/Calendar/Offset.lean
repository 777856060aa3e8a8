import RecordFilter.Calendar.Scan
import RecordFilter.Calendar.Timestamp

/-!
# Timestamps with an offset

An offset timestamp is written `YYYY-MM-DDTHH:MM:SS`, an optional fraction, and `Z` or the
offset from UTC in hours and minutes. All numbers have a fixed width.
-/

namespace RecordFilter.Calendar

/-- A wall-clock timestamp with the seconds by which it is ahead of UTC. -/
structure OffsetTimestamp where
  wall : Timestamp
  offset : Int
deriving DecidableEq

namespace OffsetTimestamp

def toUtc (time : OffsetTimestamp) : Timestamp :=
  time.wall.shift (-time.offset)

/-- The same instant on a clock that is ahead of UTC by the given seconds. -/
def toZone (time : OffsetTimestamp) (offset : Int) : Timestamp :=
  time.toUtc.shift offset

/-- Takes `Z`, or a sign with hours and minutes. The minus sign may be U+2212. -/
def scanOffset : Scan Int := do
  let mark ← Scan.char fun c => ['Z', 'z', '+', '-', '\u2212'].contains c
  if mark = 'Z' || mark = 'z' then
    return 0
  let hours ← Scan.number 2 2
  Scan.exact ':'
  let minutes ← Scan.number 2 2
  guard (hours < 24 && minutes < 60)
  let seconds : Int := hours * 3600 + minutes * 60
  return if mark = '+' then seconds else -seconds

def scan : Scan OffsetTimestamp := do
  let year ← Scan.number 4 4
  Scan.exact '-'
  let month ← Scan.number 2 2
  Scan.exact '-'
  let day ← Scan.number 2 2
  let _ ← Scan.char fun c => ['T', 't', ' '].contains c
  let hour ← Scan.number 2 2
  Scan.exact ':'
  let minute ← Scan.number 2 2
  Scan.exact ':'
  let second ← Scan.number 2 2
  let nano ← Scan.fraction
  let offset ← scanOffset
  let date : Date := ⟨year, month, day⟩
  guard date.isValid
  let wall ← Timestamp.ofClock? date.toDay hour minute second (nano.getD 0)
  return ⟨wall, offset⟩

/-- Reads an offset timestamp that takes up the whole text. -/
def read (text : List Char) : Option OffsetTimestamp :=
  scan.run? text

end OffsetTimestamp

end RecordFilter.Calendar
