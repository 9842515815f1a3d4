/-!
# Artifact ids

Every instance owns the ids that begin with its name and a separator. An id that a run
emits is put under that prefix, unless it is there already.
-/

namespace ChartScript.Artifact

/-- What stands between an instance and the rest of an id. -/
def separator : String := "::"

/-- What all ids of an instance begin with. -/
def ownPrefix (instanceId : String) : String := instanceId ++ separator

/-- Whether an id begins with a text. -/
def startsWith (start id : String) : Bool := start.toList.isPrefixOf id.toList

/-- Puts an id under the prefix of an instance. -/
def qualify (instanceId id : String) : String :=
  if startsWith (ownPrefix instanceId) id then id else ownPrefix instanceId ++ id

theorem startsWith_append (start rest : String) : startsWith start (start ++ rest) = true := by
  simp [startsWith]

theorem startsWith_qualify (instanceId id : String) :
    startsWith (ownPrefix instanceId) (qualify instanceId id) = true := by
  unfold qualify
  by_cases h : startsWith (ownPrefix instanceId) id = true
  · simp [h]
  · simp [h, startsWith_append]

theorem qualify_of_startsWith {instanceId id : String}
    (h : startsWith (ownPrefix instanceId) id = true) : qualify instanceId id = id := by
  simp [qualify, h]

end ChartScript.Artifact
