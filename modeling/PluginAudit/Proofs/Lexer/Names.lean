import PluginAudit.Script.Lexer

/-!
# Single steps of the lexer

What the lexer does on texts that begin with a known word or sign.
-/

namespace PluginAudit.Script.Lexer

open Text

section

variable {α β : Type} {s : Scan}

theorem bind_apply {m : ScanM α} {f : α → ScanM β} : (m >>= f) s = f (m s).1 (m s).2 := rfl

theorem pure_apply {a : α} : (pure a : ScanM α) s = (a, s) := rfl

theorem map_apply {m : ScanM α} {f : α → β} : (f <$> m) s = (f (m s).1, (m s).2) := rfl

theorem get_apply : (get : ScanM Scan) s = (s, s) := rfl

theorem peek_apply : peek s = (s.rest.head?, s) := rfl

theorem offset_apply : offset s = (s.offset, s) := rfl

theorem limit_apply : limit s = (s.limit, s) := rfl

theorem run_apply {p : Char → Bool} :
    run p s = (s.rest.takeWhile p, { s with
      rest := s.rest.dropWhile p
      offset := s.offset + byteLength (s.rest.takeWhile p) }) := rfl

theorem fault_apply {f : Fault} {at_ : Nat} :
    fault f at_ s = (⟨⟩, { s with faults := ⟨f, at_⟩ :: s.faults }) := rfl

theorem finish_apply {before : List Char} {start : Nat} {newline escaped : Bool}
    {kind : TokenKind} {value : Option String} :
    finish before start newline kind escaped value s =
      (⟨kind, start, s.offset, before.take (before.length - s.rest.length), newline, escaped,
        value⟩, s) := rfl

theorem skip_cons {c : Char} {r : List Char} (h : s.rest = c :: r) :
    skip s = ((), { s with rest := r, offset := s.offset + c.utf8Size }) := by
  rw [skip, bind_apply, next, bind_apply, get_apply, h]
  rfl

theorem eat_of_ne {c : Char} (h : s.rest.head? ≠ some c) : Lexer.eat c s = (false, s) := by
  simp [Lexer.eat, bind_apply, peek_apply, pure_apply, h]

end

variable {w u : List Char} {offset limit : Nat} {faults : List FaultAt}
  {comment : Option FirstComment} {s : Scan} {newline newline' : Bool} {c d : Char}

/-- No name goes on where `u` begins. -/
def EndsName (u : List Char) : Prop :=
  ∀ c ∈ u.head?, isNamePart c = false ∧ c ≠ '\\'

theorem takeWhile_of_endsName (hw : ∀ c ∈ w, isNamePart c = true) (hu : EndsName u) :
    (w ++ u).takeWhile isNamePart = w ∧ (w ++ u).dropWhile isNamePart = u := by
  rw [List.takeWhile_append_of_pos hw, List.dropWhile_append_of_pos hw]
  cases u with
  | nil => simp
  | cons c u => simp [(hu c rfl).1]

theorem name_run (hw : ∀ c ∈ w, isNamePart c = true) (hu : EndsName u) :
    name ⟨w ++ u, offset, faults, comment, limit + 1⟩ =
      ((String.ofList w, false), ⟨u, offset + byteLength w, faults, comment, limit + 1⟩) := by
  obtain ⟨htake, hdrop⟩ := takeWhile_of_endsName hw hu
  have hescape : u.head? ≠ some '\\' := fun h => (hu _ h).2 rfl
  simp [name, nameRest, bind_apply, limit_apply, run_apply, pure_apply, htake, hdrop, eat_of_ne,
    hescape]

/-- A name or word without escapes, behind blanks. -/
theorem token_name (hc : isNameStart c = true)
    (hblanks : blanks s.limit newline s =
      (newline', ⟨c :: w ++ u, offset, faults, comment, limit + 1⟩))
    (hw : ∀ d ∈ c :: w, isNamePart d = true) (hu : EndsName u) :
    token newline s =
      (⟨.ofName (String.ofList (c :: w)), offset, offset + byteLength (c :: w), c :: w, newline',
          false, some (String.ofList (c :: w))⟩,
        ⟨u, offset + byteLength (c :: w), faults, comment, limit + 1⟩) := by
  have hname : name ⟨c :: w ++ u, offset, faults, comment, limit + 1⟩ = _ := name_run hw hu
  have hraw : (c :: w ++ u).take ((c :: w ++ u).length - u.length) = c :: w := by
    rw [List.length_append, Nat.add_sub_cancel, List.take_left]
  rw [token, bind_apply, limit_apply, bind_apply, hblanks]
  simp only [List.cons_append] at hname hraw ⊢
  simp only [bind_apply, get_apply, hc, Bool.true_or, if_true, hname, finish_apply, hraw]

/-- A `#` begins nothing but the name of a private member, except at the start of a text. -/
theorem token_hash (hoffset : offset ≠ 0) (hd : isNameStart d = false ∧ d ≠ '\\')
    (hblanks : blanks s.limit newline s =
      (newline', ⟨'#' :: d :: u, offset, faults, comment, limit⟩)) :
    (token newline s).1.kind = .unknown ∧ (token newline s).2.limit = limit := by
  have hname : (isNameStart '#' || '#' == '\\') = false := by decide
  have hdigit : '#'.isDigit = false := by decide
  have hand : (Pure.pure (offset == 0) <&&> Lexer.eat '!' : ScanM Bool) = Pure.pure false := by
    rw [beq_false_of_ne hoffset]
    rfl
  have hskip {fs : List FaultAt} : skip ⟨d :: u, offset + 1, fs, comment, limit⟩ =
      ((), ⟨u, offset + 1 + d.utf8Size, fs, comment, limit⟩) := skip_cons rfl
  have hhash : hash offset ⟨'#' :: d :: u, offset, faults, comment, limit⟩ =
      (.unknown, ⟨u, offset + 1 + d.utf8Size, ⟨.strayCharacter d, offset + 1⟩ :: faults, comment,
        limit⟩) := by
    have hsize : '#'.utf8Size = 1 := rfl
    rw [hash, bind_apply, skip_cons rfl, hand]
    simp [bind_apply, map_apply, pure_apply, peek_apply, offset_apply, fault_apply, hd.1, hd.2,
      hskip, hsize]
  rw [token, bind_apply, limit_apply, bind_apply, hblanks]
  simp only [bind_apply, get_apply]
  rw [hname]
  simp [bind_apply, hdigit, hhash, finish_apply]

end PluginAudit.Script.Lexer
