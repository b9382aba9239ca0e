import StackTemplate.Document
import StackTemplate.EditDistance

namespace StackTemplate

def LogicalId.folded (id : LogicalId) : List Char := id.text.toList.map Char.toLower

-- A wanted name of fewer than four bytes is the beginning of too many others.
-- Case apart, the candidate is the wanted name, or begins with it, or is at most two edits off.
def LogicalId.resembles (candidate wanted : LogicalId) : Bool :=
  candidate.folded == wanted.folded
    || (4 ≤ wanted.text.utf8ByteSize && wanted.folded.isPrefixOf candidate.folded)
    || EditDistance.distance candidate.folded wanted.folded ≤ 2

def Document.suggestions (doc : Document) (wanted : LogicalId) : List LogicalId :=
  (doc.ids.filter (·.resembles wanted)).take 3

end StackTemplate
