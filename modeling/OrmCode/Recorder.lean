import OrmCode.Converter

/-!
# Recording readers

A recording reader answers like the reader it is made from, counts its calls and
keeps the texts that it was given, in order.
-/

namespace OrmCode

/-- How often a reader was called, and the texts that it was given, first to last.  The counter
has no largest value, as memory ends before a machine word does. -/
structure Recording where
  calls : Nat := 0
  texts : List String := []
  deriving DecidableEq

namespace Recording

def countCall (recording : Recording) : Recording :=
  { recording with calls := recording.calls + 1 }

def keepText (recording : Recording) (text : String) : Recording :=
  { recording with texts := recording.texts ++ [text] }

end Recording

/-- The reader that answers like `read`; before that it counts the call and then keeps the text. -/
def StatementReader.recording {m : Type → Type} [Monad m] (read : StatementReader m) :
    StatementReader (StateT Recording m) := fun text => do
  modify Recording.countCall
  modify fun recording => recording.keepText text
  read text

/-- A call of a converter: the text that names a target, and the statement. -/
structure Call where
  target : String
  sql : String
  deriving DecidableEq

namespace Converter

/-- The converter that records what its reader is given. -/
def recording (converter : Converter Id) : Converter (StateM Recording) where
  read := StatementReader.recording converter.read
  settings := converter.settings
  handlers := converter.handlers

/-- What a converter that records answers to calls, with the recording after each of them. -/
def answers (converter : Converter Id) (recording : Recording) :
    List Call → List (Except Fault String × Recording)
  | [] => []
  | call :: calls =>
    let answered := (converter.recording.convert call.target call.sql).run recording
    answered :: converter.answers answered.2 calls

end Converter

end OrmCode
