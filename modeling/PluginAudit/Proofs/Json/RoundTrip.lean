import PluginAudit.Proofs.Json.Takes

/-!
# Reading what is written

A value that is written over several lines is read back as it was, if its numbers are not too large
and it does not nest too deep.
-/

namespace PluginAudit.Json

open Text

/-- A value that is read back when it is written: it nests at most `k` deep, its numbers are
natural and not too large, and the members of its objects are sorted. -/
inductive Writable : Nat → Value → Prop
  | null {k : Nat} : Writable k .null
  | bool {k : Nat} {b : Bool} : Writable k (.bool b)
  | ofNat {k n : Nat} (h : n < exactLimit) : Writable k (.ofNat n)
  | string {k : Nat} {s : String} : Writable k (.string s)
  | array {k : Nat} {vs : List Value} (h : ∀ v ∈ vs, Writable k v) : Writable (k + 1) (.array vs)
  | object {k : Nat} {ms : List (String × Value)} (hsorted : ms.Pairwise (·.1 < ·.1))
      (h : ∀ m ∈ ms, Writable k m.2) : Writable (k + 1) (.object ms)

section

variable {text rest : List Char} {k n depth d e : Nat} {v : Value} {vs done : List Value}
  {key : String} {ms all : List (String × Value)}

attribute [local simp] prettyAt prettyItems prettyMembers

theorem toList_newLine : (newLine d).toList = '\n' :: List.replicate (2 * d) ' ' := by
  simp [newLine]

theorem isSpace_of_mem_newLine : ∀ c ∈ (newLine d).toList, isSpace c = true := by
  intro c hc
  rw [toList_newLine, List.mem_cons, List.mem_replicate] at hc
  rcases hc with rfl | ⟨_, rfl⟩ <;> rfl

theorem toList_quoted (s : String) :
    (quoted s).toList = '"' :: (s.toList.flatMap escaped ++ ['"']) := by
  simp [quoted]

theorem toList_prettyItems_cons :
    (prettyItems d (v :: vs)).toList =
      ',' :: ((newLine d).toList ++ ((prettyAt d v).toList ++ (prettyItems d vs).toList)) := by
  simp

/-- What a member is written as, behind the end of the line before. -/
def memberText (d : Nat) (m : String × Value) : List Char :=
  (quoted m.1).toList ++ ':' :: ' ' :: (prettyAt d m.2).toList

theorem memberText_head (d : Nat) (m : String × Value) : ∃ w, memberText d m = '"' :: w :=
  ⟨_, by rw [memberText, toList_quoted]; rfl⟩

theorem toList_prettyMembers_cons {m : String × Value} :
    (prettyMembers d (m :: ms)).toList =
      ',' :: ((newLine d).toList ++ (memberText d m ++ (prettyMembers d ms).toList)) := by
  simp [memberText]

theorem toList_prettyAt_ofNat {m : Nat} : (prettyAt d (.ofNat m)).toList = Nat.toDigits 10 m := by
  have htext : prettyAt d (.ofNat m) = toString m := by
    simp [Value.ofNat, numeralText]
    rfl
  rw [htext, Nat.toString_eq_ofList_toDigits, String.toList_ofList]

theorem not_isSpace_of_isDigit {c : Char} (h : c.isDigit = true) : isSpace c = false := by
  rw [Bool.eq_false_iff]
  intro hspace
  simp only [isSpace, Bool.or_eq_true, beq_iff_eq] at hspace
  rcases hspace with ((rfl | rfl) | rfl) | rfl <;> cases h

theorem toList_prettyAt_null : (prettyAt d .null).toList = ['n', 'u', 'l', 'l'] := by
  simp

theorem toList_prettyAt_true : (prettyAt d (.bool true)).toList = ['t', 'r', 'u', 'e'] := by
  simp

theorem toList_prettyAt_false :
    (prettyAt d (.bool false)).toList = ['f', 'a', 'l', 's', 'e'] := by
  simp

theorem toList_prettyAt_string {s : String} :
    (prettyAt d (.string s)).toList = '"' :: (s.toList.flatMap escaped ++ ['"']) := by
  rw [prettyAt, toList_quoted]

theorem toList_prettyAt_array :
    (prettyAt d (.array (v :: vs))).toList =
      '[' :: ((newLine (d + 1)).toList ++ ((prettyAt (d + 1) v).toList ++
        ((prettyItems (d + 1) vs).toList ++ ((newLine d).toList ++ [']'])))) := by
  simp

theorem toList_prettyAt_object {m : String × Value} :
    (prettyAt d (.object (m :: ms))).toList =
      '\x7b' :: ((newLine (d + 1)).toList ++ (memberText (d + 1) m ++
        ((prettyMembers (d + 1) ms).toList ++ ((newLine d).toList ++ ['\x7d'])))) := by
  simp [memberText]

/-- A written value begins with a character of its own, no blank and no closing bracket. -/
theorem prettyAt_head (h : Writable k v) (d : Nat) :
    ∃ c w, (prettyAt d v).toList = c :: w ∧ isSpace c = false ∧ c ≠ ']' := by
  cases h with
  | null => exact ⟨'n', _, toList_prettyAt_null, by decide⟩
  | @bool _ b =>
    cases b with
    | false => exact ⟨'f', _, toList_prettyAt_false, by decide⟩
    | true => exact ⟨'t', _, toList_prettyAt_true, by decide⟩
  | @ofNat _ n _ =>
    obtain ⟨c, w, hcw⟩ := List.exists_cons_of_ne_nil (Nat.toDigits_ne_nil (n := n) (b := 10))
    have hdigit : c.isDigit = true :=
      Nat.isDigit_of_mem_toDigits (b := 10) (n := n) (by decide) (by decide) (by simp [hcw])
    refine ⟨c, w, by rw [toList_prettyAt_ofNat, hcw], not_isSpace_of_isDigit hdigit, ?_⟩
    rintro rfl
    cases hdigit
  | string => exact ⟨'"', _, toList_prettyAt_string, by decide⟩
  | @array _ vs _ =>
    cases vs with
    | nil => exact ⟨'[', [']'], by simp, by decide⟩
    | cons v vs => exact ⟨'[', _, toList_prettyAt_array, by decide⟩
  | @object _ ms _ _ =>
    cases ms with
    | nil => exact ⟨'\x7b', ['\x7d'], by simp, by decide⟩
    | cons m ms => exact ⟨'\x7b', _, toList_prettyAt_object, by decide⟩

theorem endsNumber_prettyItems (d e : Nat) (vs : List Value) (text : List Char) :
    EndsNumber ((prettyItems d vs).toList ++ ((newLine e).toList ++ text)) := by
  cases vs with
  | nil => simp [toList_newLine, EndsNumber]
  | cons v vs => simp [EndsNumber]

theorem endsNumber_prettyMembers (d e : Nat) (ms : List (String × Value)) (text : List Char) :
    EndsNumber ((prettyMembers d ms).toList ++ ((newLine e).toList ++ text)) := by
  cases ms with
  | nil => simp [toList_newLine, EndsNumber]
  | cons m ms => simp [EndsNumber]

namespace Takes

/-- A value is read over the blanks before it. -/
theorem value_after_spaces {w : List Char} (hw : ∀ c ∈ w, isSpace c = true)
    (h : Takes (Json.value n depth) text v rest) :
    Takes (Json.value n depth) (w ++ text) v rest := by
  cases n with
  | zero =>
    obtain ⟨_, hfault⟩ := h 0
    cases hfault
  | succ n =>
    intro offset
    obtain ⟨offset', h⟩ := h (offset + byteLength w)
    have htake : (w ++ text).takeWhile isSpace = w ++ text.takeWhile isSpace :=
      List.takeWhile_append_of_pos hw
    have hdrop : (w ++ text).dropWhile isSpace = text.dropWhile isSpace :=
      List.dropWhile_append_of_pos hw
    have hskip : Json.skipSpaces ⟨w ++ text, offset⟩ =
        Json.skipSpaces ⟨text, offset + byteLength w⟩ := by
      change EStateM.Result.ok ((w ++ text).dropWhile isSpace).head?
        (⟨(w ++ text).dropWhile isSpace,
          offset + byteLength ((w ++ text).takeWhile isSpace)⟩ : Cursor) = _
      rw [hdrop, htake, byteLength_append, ← Nat.add_assoc]
      rfl
    refine ⟨offset', ?_⟩
    rw [← h, Json.value]
    exact bind_apply_congr hskip

/-- Whatever follows it, the value is read to where it ends. -/
def ReadsBack (k : Nat) (v : Value) : Prop :=
  ∀ (n depth d : Nat) (text : List Char), k < depth → (prettyAt d v).toList.length < n →
    EndsNumber text → Takes (Json.value n depth) ((prettyAt d v).toList ++ text) v text

theorem items (hdone : done ≠ []) (hvs : ∀ v ∈ vs, Writable k v ∧ ReadsBack k v)
    (hdepth : k < depth) (hn : (prettyItems d vs).toList.length < n) :
    Takes (Json.items n depth done)
      ((prettyItems d vs).toList ++ ((newLine e).toList ++ ']' :: text))
      (.array (done.reverse ++ vs)) text := by
  obtain ⟨n, rfl⟩ := Nat.exists_eq_succ_of_ne_zero (Nat.ne_of_gt (Nat.zero_lt_of_lt hn))
  induction vs generalizing n done with
  | nil =>
    have hempty : (prettyItems d []).toList = [] := rfl
    rw [hempty, List.nil_append, List.append_nil]
    exact (skipSpaces isSpace_of_mem_newLine (by simp [isSpace])).bind (skip.bind pure)
  | cons v vs ih =>
    obtain ⟨hv, hvs⟩ := List.forall_mem_cons.1 hvs
    have hlength := hn
    rw [toList_prettyItems_cons] at hlength ⊢
    simp only [List.cons_append, List.append_assoc, List.length_cons, List.length_append]
      at hlength ⊢
    have hnonempty : done.isEmpty = false := List.isEmpty_eq_false_iff.2 hdone
    have hlast : Takes (Json.items (n - 1 + 1) depth (v :: done)) _
        (.array ((v :: done).reverse ++ vs)) text :=
      ih (List.cons_ne_nil _ _) hvs (n - 1) (by omega)
    rw [List.reverse_cons, List.append_assoc] at hlast
    obtain ⟨n, rfl⟩ : ∃ m, n = m + 1 := ⟨n - 1, by omega⟩
    have hvalue := hv.2 (n + 1) depth d _ hdepth (by omega)
      (endsNumber_prettyItems d e vs (']' :: text))
    obtain ⟨c, w, hc, hspace, hbracket⟩ := prettyAt_head hv.1 d
    rw [hc, List.cons_append] at hvalue ⊢
    refine (noSpaces rfl).bind ?_
    simp only [hnonempty, Bool.not_false, if_true]
    refine skip.bind ((skipSpaces isSpace_of_mem_newLine (by simpa using hspace)).bind ?_)
    simp only [List.head?_cons]
    exact hvalue.bind hlast

/-- A member is read over the blank behind its colon. -/
theorem member {m : String × Value} {r : String → Value → ReadM Value} {whole : Value}
    (hm : ReadsBack k m.2) (hdepth : k < depth) (hn : (memberText d m).length < n)
    (hends : EndsNumber text) (hrest : Takes (r m.1 m.2) text whole rest) :
    Takes (do
      let key ← keyOf (n + 1)
      let v ← Json.value n depth
      r key v) (memberText d m ++ text) whole rest := by
  have hlength := hn
  rw [memberText, toList_quoted] at hlength ⊢
  simp only [List.cons_append, List.append_assoc, List.length_cons, List.length_append,
    List.nil_append] at hlength ⊢
  have hstring : Takes (Json.stringRest (n + 1) []) (m.1.toList.flatMap escaped ++
      '"' :: ':' :: ' ' :: ((prettyAt d m.2).toList ++ text)) m.1 _ := string (by omega)
  have hkey : Takes (keyOf (n + 1)) ('"' :: (m.1.toList.flatMap escaped ++
      '"' :: ':' :: ' ' :: ((prettyAt d m.2).toList ++ text))) m.1
      (' ' :: ((prettyAt d m.2).toList ++ text)) :=
    skip.bind (hstring.bind ((noSpaces rfl).bind (skip.bind pure)))
  have hvalue := hm n depth d text hdepth (by omega) hends
  have hblank : ∀ c ∈ [' '], isSpace c = true := by simp [isSpace]
  exact hkey.bind ((value_after_spaces hblank hvalue).bind hrest)

theorem insert_last (h : ∀ m ∈ all, m.1 < key) : Value.insert key v all = all ++ [(key, v)] := by
  induction all with
  | nil => rfl
  | cons m all ih =>
    obtain ⟨hm, hall⟩ := List.forall_mem_cons.1 h
    have hlt : ¬ key < m.1 := String.lt_asymm hm
    have hne : (key == m.1) = false := by
      rw [beq_eq_false_iff_ne]
      rintro rfl
      exact String.lt_irrefl _ hm
    rw [Value.insert, if_neg hlt, hne, ih hall]
    rfl

theorem members (hsorted : (all ++ ms).Pairwise (·.1 < ·.1)) (hms : ∀ m ∈ ms, ReadsBack k m.2)
    (hdepth : k < depth) (hn : (prettyMembers d ms).toList.length < n) :
    Takes (Json.members n depth false all)
      ((prettyMembers d ms).toList ++ ((newLine e).toList ++ '\x7d' :: text))
      (.object (all ++ ms)) text := by
  obtain ⟨n, rfl⟩ := Nat.exists_eq_succ_of_ne_zero (Nat.ne_of_gt (Nat.zero_lt_of_lt hn))
  induction ms generalizing n all with
  | nil =>
    have hempty : (prettyMembers d []).toList = [] := rfl
    rw [hempty, List.nil_append, List.append_nil]
    exact (skipSpaces isSpace_of_mem_newLine (by simp [isSpace])).bind (skip.bind pure)
  | cons m ms ih =>
    obtain ⟨hm, hms⟩ := List.forall_mem_cons.1 hms
    have hlength := hn
    rw [toList_prettyMembers_cons] at hlength ⊢
    simp only [List.cons_append, List.append_assoc, List.length_cons, List.length_append]
      at hlength ⊢
    have hall : ∀ a ∈ all, a.1 < m.1 := fun a ha =>
      (List.pairwise_append.1 hsorted).2.2 a ha m List.mem_cons_self
    have hlast : Takes (Json.members (n - 1 + 1) depth false (all ++ [m])) _
        (.object (all ++ [m] ++ ms)) text :=
      ih (by rwa [List.append_assoc]) hms (n - 1) (by omega)
    rw [List.append_assoc] at hlast
    obtain ⟨n, rfl⟩ : ∃ m, n = m + 1 := ⟨n - 1, by omega⟩
    have hmember : Takes (do
        let key ← keyOf (n + 1 + 1)
        let v ← Json.value (n + 1) depth
        Json.members (n + 1) depth false (Value.insert key v all))
        (memberText d m ++ ((prettyMembers d ms).toList ++ ((newLine e).toList ++ '\x7d' :: text)))
        (.object (all ++ m :: ms)) text :=
      member hm hdepth (by omega) (endsNumber_prettyMembers d e ms ('\x7d' :: text))
        (by rw [insert_last hall]; exact hlast)
    obtain ⟨w, hw⟩ := memberText_head d m
    rw [hw, List.cons_append] at hmember ⊢
    refine (noSpaces rfl).bind ?_
    simp only [Bool.not_false, if_true]
    refine skip.bind ((skipSpaces isSpace_of_mem_newLine (by simp [isSpace])).bind ?_)
    exact hmember

theorem valueOfDigit {c : Char} {m : Numeral} (hc : c.isDigit = true)
    (h : Takes (Json.number false) (c :: text) m rest) :
    Takes (Json.value (n + 1) depth) (c :: text) (.number m) rest := by
  refine (noSpaces (not_isSpace_of_isDigit hc)).bind ?_
  split
  case h_9 hd =>
    obtain rfl := Option.some.inj hd
    rw [if_pos hc]
    exact h.bind pure
  all_goals
    next hd => cases hd <;> cases hc

theorem readsBack_of_succ (h : ∀ (n depth d : Nat) (text : List Char), k < depth →
    (prettyAt d v).toList.length < n + 1 → EndsNumber text →
    Takes (Json.value (n + 1) depth) ((prettyAt d v).toList ++ text) v text) : ReadsBack k v := by
  intro n depth d text hdepth hn hends
  obtain ⟨n, rfl⟩ := Nat.exists_eq_succ_of_ne_zero (Nat.ne_of_gt (Nat.zero_lt_of_lt hn))
  exact h n depth d text hdepth hn hends

theorem readsBack_null : ReadsBack k .null := by
  refine readsBack_of_succ fun n depth d text _ _ _ => ?_
  rw [toList_prettyAt_null]
  exact (noSpaces rfl).bind (skip.bind (word.bind pure))

theorem readsBack_bool {b : Bool} : ReadsBack k (.bool b) := by
  refine readsBack_of_succ fun n depth d text _ _ _ => ?_
  cases b with
  | false =>
    rw [toList_prettyAt_false]
    exact (noSpaces rfl).bind (skip.bind (word.bind pure))
  | true =>
    rw [toList_prettyAt_true]
    exact (noSpaces rfl).bind (skip.bind (word.bind pure))

theorem readsBack_ofNat {m : Nat} (hm : m < exactLimit) : ReadsBack k (.ofNat m) := by
  refine readsBack_of_succ fun n depth d text _ _ hends => ?_
  have hnumber := number hm hends
  have hall : ∀ c ∈ Nat.toDigits 10 m, c.isDigit = true := fun c hc =>
    Nat.isDigit_of_mem_toDigits (by decide) (by decide) hc
  obtain ⟨c, w, hcw⟩ := List.exists_cons_of_ne_nil (Nat.toDigits_ne_nil (n := m) (b := 10))
  rw [toList_prettyAt_ofNat]
  rw [hcw] at hnumber hall ⊢
  exact valueOfDigit (hall c List.mem_cons_self) hnumber

theorem readsBack_string {s : String} : ReadsBack k (.string s) := by
  refine readsBack_of_succ fun n depth d text _ hn _ => ?_
  rw [toList_prettyAt_string] at hn ⊢
  simp only [List.length_cons, List.length_append, List.length_nil] at hn
  simp only [List.cons_append, List.append_assoc, List.nil_append]
  exact (noSpaces rfl).bind (skip.bind ((string (by omega)).bind pure))

theorem readsBack_array (h : ∀ v ∈ vs, Writable k v) (ih : ∀ v ∈ vs, ReadsBack k v) :
    ReadsBack (k + 1) (.array vs) := by
  refine readsBack_of_succ fun n depth d text hdepth hn _ => ?_
  have hdeep : ¬ depth ≤ 1 := by omega
  cases vs with
  | nil =>
    have hempty : (prettyAt d (.array [])).toList = ['[', ']'] := by simp
    rw [hempty] at hn ⊢
    obtain ⟨n, rfl⟩ : ∃ m, n = m + 1 := ⟨n - 1, by simp at hn; omega⟩
    refine (noSpaces rfl).bind ?_
    simp only [if_neg hdeep]
    exact skip.bind ((noSpaces rfl).bind (skip.bind pure))
  | cons v vs =>
    obtain ⟨hv, hvs⟩ := List.forall_mem_cons.1 h
    obtain ⟨ihv, ihvs⟩ := List.forall_mem_cons.1 ih
    rw [toList_prettyAt_array] at hn ⊢
    simp only [List.length_cons, List.length_append] at hn
    simp only [List.cons_append, List.append_assoc, List.nil_append]
    obtain ⟨n, rfl⟩ : ∃ m, n = m + 1 := ⟨n - 1, by omega⟩
    refine (noSpaces rfl).bind ?_
    simp only [if_neg hdeep]
    refine skip.bind ?_
    have hvalue := ihv n (depth - 1) (d + 1) _ (by omega) (by omega)
      (endsNumber_prettyItems (d + 1) d vs (']' :: text))
    have hitems : Takes (Json.items n (depth - 1) [v])
        ((prettyItems (d + 1) vs).toList ++ ((newLine d).toList ++ ']' :: text))
        (.array ([v].reverse ++ vs)) text :=
      items (List.cons_ne_nil _ _) (fun u hu => ⟨hvs u hu, ihvs u hu⟩) (by omega : k < depth - 1)
        (by omega)
    obtain ⟨c, w, hc, hspace, hbracket⟩ := prettyAt_head hv (d + 1)
    rw [hc, List.cons_append] at hvalue ⊢
    refine (skipSpaces isSpace_of_mem_newLine (by simpa using hspace)).bind ?_
    simp only [List.head?_cons]
    exact hvalue.bind hitems

theorem readsBack_object (hsorted : ms.Pairwise (·.1 < ·.1)) (ih : ∀ m ∈ ms, ReadsBack k m.2) :
    ReadsBack (k + 1) (.object ms) := by
  refine readsBack_of_succ fun n depth d text hdepth hn _ => ?_
  have hdeep : ¬ depth ≤ 1 := by omega
  cases ms with
  | nil =>
    have hempty : (prettyAt d (.object [])).toList = ['\x7b', '\x7d'] := by simp
    rw [hempty] at hn ⊢
    obtain ⟨n, rfl⟩ : ∃ m, n = m + 1 := ⟨n - 1, by simp at hn; omega⟩
    refine (noSpaces rfl).bind ?_
    simp only [if_neg hdeep]
    exact skip.bind ((noSpaces rfl).bind (skip.bind pure))
  | cons m ms =>
    obtain ⟨ihm, ihms⟩ := List.forall_mem_cons.1 ih
    rw [toList_prettyAt_object] at hn ⊢
    simp only [List.length_cons, List.length_append] at hn
    simp only [List.cons_append, List.append_assoc, List.nil_append]
    obtain ⟨n, rfl⟩ : ∃ m, n = m + 1 := ⟨n - 1, by omega⟩
    refine (noSpaces rfl).bind ?_
    simp only [if_neg hdeep]
    refine skip.bind ?_
    have hmembers : Takes (Json.members n (depth - 1) false [m])
        ((prettyMembers (d + 1) ms).toList ++ ((newLine d).toList ++ '\x7d' :: text))
        (.object ([m] ++ ms)) text :=
      members hsorted ihms (by omega : k < depth - 1) (by omega)
    have hmember : Takes (do
        let key ← keyOf (n + 1)
        let v ← Json.value n (depth - 1)
        Json.members n (depth - 1) false (Value.insert key v []))
        (memberText (d + 1) m ++
          ((prettyMembers (d + 1) ms).toList ++ ((newLine d).toList ++ '\x7d' :: text)))
        (.object (m :: ms)) text :=
      member ihm (by omega) (by omega) (endsNumber_prettyMembers (d + 1) d ms _) hmembers
    obtain ⟨w, hw⟩ := memberText_head (d + 1) m
    rw [hw, List.cons_append] at hmember ⊢
    refine (skipSpaces isSpace_of_mem_newLine (by simp [isSpace])).bind ?_
    simp only [Bool.not_true, Bool.false_eq_true, if_false]
    exact (noSpaces rfl).bind hmember

theorem readsBack (h : Writable k v) : ReadsBack k v := by
  induction h with
  | null => exact readsBack_null
  | bool => exact readsBack_bool
  | ofNat hm => exact readsBack_ofNat hm
  | string => exact readsBack_string
  | array h ih => exact readsBack_array h ih
  | object hsorted _ ih => exact readsBack_object hsorted ih

end Takes

/-- What is written over several lines is read back, blanks behind it or not. -/
theorem read_pretty {w : List Char} (h : Writable k v) (hk : k < depthLimit)
    (hw : ∀ c ∈ w, isSpace c = true) : read ((pretty v).toList ++ w) = .ok v := by
  have hends : EndsNumber w := by
    intro c hc
    have hspace := hw c (List.mem_of_mem_head? hc)
    simp only [isSpace, Bool.or_eq_true, beq_iff_eq] at hspace
    rcases hspace with ((rfl | rfl) | rfl) | rfl <;> decide
  have hvalue := Takes.readsBack h (2 * ((pretty v).toList ++ w).length + 4) depthLimit 0 w hk
    (by rw [List.length_append, pretty]; omega) hends
  have hrest : Takes skipSpaces w none [] := by
    have hspaces : Takes skipSpaces (w ++ []) _ [] := Takes.skipSpaces hw (by simp)
    rwa [List.append_nil] at hspaces
  have hdocument : Takes (document (2 * ((pretty v).toList ++ w).length + 4))
      ((pretty v).toList ++ w) v [] := hvalue.bind (hrest.bind Takes.pure)
  obtain ⟨_, hrun⟩ := hdocument 0
  rw [read, hrun]

end

end PluginAudit.Json
