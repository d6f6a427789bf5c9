/-!
# Fresh names

Where a program draws a random name so that it clashes with nothing in use,
a temporary file's or a job's, the names here are numbered candidates and
the first free one is taken. When each name in use rules out one candidate
at most, one of the first `n + 1` candidates is free of `n` names in use, so
the search looks no further.
-/

namespace ReportExport

/-- The first `k` among `start`, …, `start + tries` that `free` accepts, or
`start` when none does. -/
def firstFree (free : Nat → Bool) (start tries : Nat) : Nat :=
  ((List.range' start (tries + 1)).find? free).getD start

end ReportExport
