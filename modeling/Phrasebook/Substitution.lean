import Phrasebook.Store
import Phrasebook.Text.Replace

/-! Replacing every key of a domain in a text, one key after another. -/

namespace Phrasebook

/-- A text in which every key of a domain has been replaced. -/
structure Substitution where
  text : String
  /-- The number of keys gone through, whether or not they occurred. -/
  replaced : Nat
  deriving DecidableEq, Repr

/-- One line on how many keys were gone through for the output of this name. -/
def Substitution.summary (substitution : Substitution) (output : String) : String :=
  s!"{output}: replaced {substitution.replaced} words."

/-- Replaces one key of a domain by its message, or by itself should it have none. -/
def Store.replaceKey (store : Store) (domain text key : String) : Except Error String := do
  let message ← store.get domain key key
  return replaceAll key message text

/--
Replaces the keys of a domain in the order in which they first came.

Each key is replaced in the text that the keys before it left, so a message that spells a later
key is replaced again.
-/
def Store.substitute (store : Store) (domain input : String) : Except Error Substitution := do
  let keys := store.keys domain
  let text ← keys.foldlM (store.replaceKey domain) input
  -- Keys are counted, and not the places where they occurred.
  return ⟨text, keys.length⟩

end Phrasebook
