/-!
# Leading texts

Authorities and encoded passwords carry a mark in front: `ROLE_` before a role, the name of the
encoding before a hash. Here is how such a mark is recognised, removed and put on. A mark is never
put on twice in a row (`ensureLeading_ensureLeading`).
-/

namespace Admission.Text

/-- Whether a text begins with a mark. -/
def startsWith (mark s : String) : Bool :=
  mark.toList.isPrefixOf s.toList

/-- What follows a mark. -/
def dropLeading? (mark s : String) : Option String :=
  if startsWith mark s then some (String.ofList (s.toList.drop mark.toList.length)) else none

/-- The text with the mark in front, unless it already begins with it. -/
def ensureLeading (mark s : String) : String :=
  if startsWith mark s then s else mark ++ s

@[simp] theorem startsWith_append (mark s : String) : startsWith mark (mark ++ s) = true := by
  simp [startsWith]

@[simp] theorem startsWith_ensureLeading (mark s : String) :
    startsWith mark (ensureLeading mark s) = true := by
  unfold ensureLeading
  split
  · assumption
  · exact startsWith_append mark s

theorem ensureLeading_of_startsWith {mark s : String} (h : startsWith mark s = true) :
    ensureLeading mark s = s := by
  simp [ensureLeading, h]

@[simp] theorem ensureLeading_ensureLeading (mark s : String) :
    ensureLeading mark (ensureLeading mark s) = ensureLeading mark s :=
  ensureLeading_of_startsWith (startsWith_ensureLeading mark s)

@[simp] theorem dropLeading?_append (mark s : String) :
    dropLeading? mark (mark ++ s) = some s := by
  simp [dropLeading?]

end Admission.Text
