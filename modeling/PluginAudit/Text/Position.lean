import PluginAudit.Text.Bytes

/-!
# Lines and columns
-/

namespace PluginAudit.Text

structure Position where
  line : Nat
  column : Nat
  deriving DecidableEq, Repr

namespace Position

/-- The place after a text. Only `\n` ends a line. -/
def after (text : List Char) : Position where
  line := text.count '\n' + 1
  column := (text.reverse.takeWhile (· != '\n')).length + 1

/-- The place of a byte offset, which is none inside a character. Offsets past the end count as
the end. -/
def ofOffset? (text : List Char) (offset : Nat) : Option Position :=
  (takeBytes? (min offset (byteLength text)) text).map after

theorem ofOffset?_byteLength (l m : List Char) :
    ofOffset? (l ++ m) (byteLength l) = some (after l) := by
  simp [ofOffset?, takeBytes?_byteLength]

end Position

end PluginAudit.Text
