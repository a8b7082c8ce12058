import Switchboard.Text.Lowercase

/-!
# Queue names

How the tag of a payload type becomes the name of a queue.  With one queue per type the tag is
lowered and loses the first {lit}`api.`, then the first {lit}`events.`, then the first
{lit}`event`; a shared queue takes every type.

Main results:

- Definition {lit}`QueueNaming.queueName`: the queue of a tag.
- Theorem {lit}`removeFirst_append`: the first occurrence is taken out where it stands.
-/

namespace Switchboard

/-- Take the first occurrence of a word out of a text. -/
def removeFirst (word : List Char) : List Char → List Char
  | [] => []
  | c :: rest =>
    if word.isPrefixOf (c :: rest) then (c :: rest).drop word.length
    else c :: removeFirst word rest

/-- A word at the front of a text is taken out there. -/
theorem removeFirst_append {word : List Char} (hne : word ≠ []) (rest : List Char) :
    removeFirst word (word ++ rest) = rest := by
  obtain ⟨c, cs, rfl⟩ := List.exists_cons_of_ne_nil hne
  have h : (c :: cs).isPrefixOf (c :: (cs ++ rest)) = true := by
    simp
  simp [removeFirst, h]

/-- A strategy for naming queues. -/
inductive QueueNaming where
  /-- One queue for each payload type. -/
  | perType (application : String)
  /-- One queue for every payload type. -/
  | shared (application : String) (queue : String)
  /-- Any other rule. -/
  | custom (rule : String → String)

namespace QueueNaming

/-- The part of a queue's name that a tag gives: lowered, and without the words that only tell
where the type was declared. -/
def typePart (tag : String) : String :=
  String.ofList
    (removeFirst "event".toList
      (removeFirst "events.".toList
        (removeFirst "api.".toList (Text.lowerChars tag.toList))))

/-- The queue of a tag. -/
def queueName : QueueNaming → String → String
  | perType application, tag => application ++ "-" ++ typePart tag
  | shared application queue, _ => application ++ "-" ++ queue
  | custom rule, tag => rule tag

end QueueNaming
end Switchboard
