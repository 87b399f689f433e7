import Scenography.Text.Blank
import Scenography.Number.Reading
import Scenography.Number.Text

namespace Scenography

structure Authored where
  raw : String
deriving DecidableEq, Repr, Inhabited

namespace Authored

def value? (a : Authored) : Option Float :=
  (Number.float? (Text.trim a.raw)).filter Float.isFinite

/-- A text that is no finite number counts as zero. -/
def value (a : Authored) : Float :=
  a.value?.getD 0.0

def isNumeric (a : Authored) : Bool :=
  a.value?.isSome

def isEmpty (a : Authored) : Bool :=
  Text.allBlank a.raw

def ofFloat (x : Float) : Authored :=
  ⟨Number.tidy x⟩

def zero : Authored := ⟨"0"⟩

end Authored

def lenient (raw : String) : Float :=
  (Authored.mk raw).value

end Scenography
