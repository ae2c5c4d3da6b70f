import PluginAudit.Files.Search

/-!
# Reading patterns piece by piece

What a text is read as does not depend on where it stands in a pattern, but for `**`, which has to
be at the start or behind a slash.
-/

namespace PluginAudit.Files.Glob

variable {n m index index' : Nat} {before before' : Option Char} {c : Char} {cs rest : List Char}
  {g : Glob} {gs : List Glob} {r : Glob × List Char}

/-- What a pattern begins with, and the text behind it. -/
def first (index : Nat) (before : Option Char) (c : Char) (cs : List Char) :
    Except PatternError (Glob × List Char) :=
  if c == '?' then .ok (.any, cs)
  else if c == '*' then
    let more := cs.takeWhile (· == '*')
    stars (more.length + 1) index before (cs.drop more.length)
  else if c == '[' then
    match bracket? cs with
    | some r => .ok r
    | none => .error ⟨.set, index⟩
  else .ok (.char c, cs)

/-- The character before the text that `first` leaves. -/
def lastOf (c : Char) (cs rest : List Char) : Option Char :=
  ((c :: cs).take (cs.length + 1 - rest.length)).getLast?

theorem readFrom_cons_eq_ok : readFrom (n + 1) index before (c :: cs) = .ok gs ↔
    ∃ r hs, first index before c cs = .ok r ∧
      readFrom n (index + (cs.length + 1 - r.2.length)) (lastOf c cs r.2) r.2 = .ok hs ∧
      gs = r.1 :: hs := by
  have hstep : readFrom (n + 1) index before (c :: cs) = (first index before c cs).bind fun r =>
      (readFrom n (index + (cs.length + 1 - r.2.length)) (lastOf c cs r.2) r.2).map (r.1 :: ·) := by
    rw [readFrom, first]
    split
    · rfl
    split
    · rfl
    split
    · cases bracket? cs <;> rfl
    · rfl
  rw [hstep]
  cases first index before c cs with
  | error e => exact iff_of_false nofun (by rintro ⟨r, hs, hr, -⟩; cases hr)
  | ok r =>
    simp only [Except.bind, Except.ok.injEq]
    constructor
    · intro h
      cases hrest : readFrom n (index + (cs.length + 1 - r.2.length)) (lastOf c cs r.2) r.2 with
      | error e =>
        rw [hrest] at h
        cases h
      | ok hs =>
        rw [hrest] at h
        exact ⟨r, hs, rfl, hrest, (Except.ok.inj h).symm⟩
    · rintro ⟨_, hs, rfl, hrest, rfl⟩
      rw [hrest]
      rfl

theorem readFrom_of_first {P : List Glob → Prop} (hfirst : first index before c cs = .ok (g, rest))
    (h : ∀ hs, readFrom n (index + (cs.length + 1 - rest.length)) (lastOf c cs rest) rest = .ok hs ↔
      P hs) :
    readFrom (n + 1) index before (c :: cs) = .ok gs ↔ ∃ hs, P hs ∧ gs = g :: hs := by
  rw [readFrom_cons_eq_ok, hfirst]
  constructor
  · rintro ⟨_, hs, hr, hrest, rfl⟩
    obtain rfl := Except.ok.inj hr
    exact ⟨hs, (h hs).1 hrest, rfl⟩
  · rintro ⟨hs, hP, rfl⟩
    exact ⟨_, hs, rfl, (h hs).2 hP, rfl⟩

/-! ## Places in a pattern -/

/-- Whether `**` may stand behind the character. -/
def opensPart (before : Option Char) : Bool := before == none || before == some '/'

theorem stars_congr {count : Nat} (h : opensPart before = opensPart before') :
    stars count index before rest = .ok r ↔ stars count index' before' rest = .ok r := by
  rw [opensPart, opensPart] at h
  unfold stars
  rw [h]
  split
  · exact Iff.rfl
  split
  · exact iff_of_false nofun nofun
  split
  · exact iff_of_false nofun nofun
  split
  · exact Iff.rfl
  · exact Iff.rfl
  · exact iff_of_false nofun nofun

theorem first_congr (h : opensPart before = opensPart before') :
    first index before c cs = .ok r ↔ first index' before' c cs = .ok r := by
  rw [first, first]
  split
  · exact Iff.rfl
  split
  · exact stars_congr h
  split
  · cases bracket? cs with
    | none => exact iff_of_false nofun nofun
    | some s => exact Iff.rfl
  · exact Iff.rfl

theorem length_of_stars {count : Nat} (h : stars count index before cs = .ok r) :
    r.2.length ≤ cs.length := by
  unfold stars at h
  split at h
  · cases h
    exact Nat.le_refl _
  split at h
  · cases h
  split at h
  · cases h
  split at h <;> cases h
  · exact Nat.le_refl _
  · exact Nat.le_succ _

theorem length_of_setAt? {set : List Char} (h : setAt? cs = some (set, rest)) :
    rest.length ≤ cs.length := by
  cases cs with
  | nil => cases h
  | cons c cs =>
    rw [setAt?] at h
    split at h
    · cases h
      rw [List.length_drop]
      exact Nat.le_trans (Nat.sub_le _ _) (Nat.le_succ _)
    · cases h

theorem length_of_bracket? (h : bracket? cs = some r) : r.2.length ≤ cs.length := by
  unfold bracket? at h
  split at h <;> obtain ⟨⟨set, after⟩, hset, rfl⟩ := Option.map_eq_some_iff.1 h
  · exact Nat.le_trans (length_of_setAt? hset) (Nat.le_succ _)
  · exact length_of_setAt? hset

theorem length_of_first (h : first index before c cs = .ok r) : r.2.length ≤ cs.length := by
  rw [first] at h
  split at h
  · cases h
    exact Nat.le_refl _
  split at h
  · refine Nat.le_trans (length_of_stars h) ?_
    rw [List.length_drop]
    exact Nat.sub_le _ _
  split at h
  · split at h
    · next hset =>
      cases h
      exact length_of_bracket? hset
    · cases h
  · cases h
    exact Nat.le_refl _

/-- The place of a text matters only by whether `**` may stand there, and the bound on the steps
not at all if it allows one for each character. -/
theorem readFrom_congr (hn : cs.length ≤ n) (hm : cs.length ≤ m)
    (h : opensPart before = opensPart before') :
    readFrom n index before cs = .ok gs ↔ readFrom m index' before' cs = .ok gs := by
  induction n generalizing m index index' before before' cs gs with
  | zero =>
    obtain rfl : cs = [] := List.eq_nil_of_length_eq_zero (Nat.le_zero.1 hn)
    cases m <;> exact Iff.rfl
  | succ n ih =>
    cases cs with
    | nil => cases m <;> exact Iff.rfl
    | cons c cs =>
      rw [List.length_cons] at hn hm
      obtain ⟨m, rfl⟩ : ∃ k, m = k + 1 := ⟨m - 1, by omega⟩
      have hsame : ∀ r, first index before c cs = .ok r ↔ first index' before' c cs = .ok r :=
        fun r => first_congr h
      rw [readFrom_cons_eq_ok, readFrom_cons_eq_ok]
      refine exists_congr fun r => exists_congr fun hs => ?_
      rw [hsame]
      refine and_congr_right fun hfirst => and_congr_left fun _ => ?_
      -- behind the first piece both go on from the same character
      have hlength : r.2.length ≤ cs.length := length_of_first hfirst
      exact ih (by omega) (by omega) rfl

end PluginAudit.Files.Glob
