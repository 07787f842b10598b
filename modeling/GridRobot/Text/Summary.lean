/-!
# Summaries of complaints

A check that finds several things wrong tells them in one line: what was checked, how many
complaints there are, and the complaints divided by semicolons.
-/

namespace GridRobot

/-- One line for a list of complaints about a subject. -/
def summary (subject : String) (complaints : List String) : String :=
  let all := String.intercalate "; " complaints
  s!"{subject} validation failed with {complaints.length} error(s): {all}"

end GridRobot
