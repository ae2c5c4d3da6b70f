/-!
# Byte offsets into a text

Texts are lists of characters; places in them are offsets in bytes of their UTF-8 form.
-/

namespace PluginAudit.Text

def byteLength : List Char → Nat
  | [] => 0
  | c :: cs => c.utf8Size + byteLength cs

@[simp] theorem byteLength_nil : byteLength [] = 0 := rfl

@[simp] theorem byteLength_cons (c : Char) (cs : List Char) :
    byteLength (c :: cs) = c.utf8Size + byteLength cs := rfl

@[simp] theorem byteLength_append (l m : List Char) :
    byteLength (l ++ m) = byteLength l + byteLength m := by
  induction l with
  | nil => simp
  | cons c cs ih => simp [ih, Nat.add_assoc]

/-- The characters before byte offset `n`; none if `n` is inside a character or past the end. -/
def takeBytes? : Nat → List Char → Option (List Char)
  | 0, _ => some []
  | _ + 1, [] => none
  | n + 1, c :: cs =>
    if c.utf8Size ≤ n + 1 then (takeBytes? (n + 1 - c.utf8Size) cs).map (c :: ·) else none

theorem takeBytes?_byteLength (l m : List Char) : takeBytes? (byteLength l) (l ++ m) = some l := by
  induction l with
  | nil => simp [takeBytes?]
  | cons c cs ih =>
    have hpos : 0 < c.utf8Size := c.utf8Size_pos
    obtain ⟨k, hk⟩ : ∃ k, c.utf8Size + byteLength cs = k + 1 := ⟨_, (Nat.sub_add_cancel (by omega)).symm⟩
    have : k + 1 - c.utf8Size = byteLength cs := by omega
    simp only [byteLength_cons, List.cons_append, hk, takeBytes?, this, ih]
    simp [show c.utf8Size ≤ k + 1 by omega]

end PluginAudit.Text
