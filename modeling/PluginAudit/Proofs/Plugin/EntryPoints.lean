import Mathlib.Algebra.GroupWithZero.Nat
import PluginAudit.Plugin.EntryPoint
import PluginAudit.Proofs.Grammar.Program
import PluginAudit.Proofs.Tree.Nodes

/-!
# Which returns are entry points

`EntryPoint.count` walks the tree and passes over functions and classes where they stand as
statements or expressions. Against a count by scopes it is too high by the returns within exported
functions and classes.
-/

namespace PluginAudit.Plugin

open Script

namespace EntryPoint

/-! ## Returned calls -/

inductive Peels : Tree → Tree → Prop
  | refl (t : Tree) : Peels t t
  | step {start stop : Nat} {inner t : Tree} (h : Peels inner t) :
      Peels (.node .parenthesized start stop [inner]) t

theorem peels_unparenthesized (t : Tree) : Peels t (unparenthesized t) := by
  fun_induction unparenthesized t with
  | case1 start stop inner ih => exact .step ih
  | case2 t _ => exact .refl t

theorem Peels.eq_unparenthesized {t u : Tree} (h : Peels t u) (hu : u.kind ≠ .parenthesized) :
    u = unparenthesized t := by
  induction h with
  | refl t =>
    fun_cases unparenthesized t with
    | case1 start stop inner => exact absurd rfl hu
    | case2 => rfl
  | step _ ih => rw [unparenthesized, ← ih hu]

def CallsInPlace (t : Tree) : Prop :=
  ∃ optional callee rest f, t.kind = .call optional ∧ t.parts = callee :: rest ∧
    callee.kind = .parenthesized ∧ Peels callee f ∧ f.kind.isFunction .expression = true

theorem CallsInPlace.not_parenthesized {t : Tree} (h : CallsInPlace t) :
    t.kind ≠ .parenthesized := by
  obtain ⟨_, _, _, _, hk, _⟩ := h
  rw [hk]
  exact nofun

def ReturnsCallInPlace (t : Tree) : Prop :=
  t.kind = .returnStatement ∧ ∃ value ∈ t.parts, ∃ call, Peels value call ∧ CallsInPlace call

theorem isFunctionExpression_iff {t : Tree} :
    isFunctionExpression t = true ↔ t.kind.isFunction .expression = true := by
  rw [isFunctionExpression]
  cases t.kind with
  | function place => cases place <;> simp [Kind.isFunction]
  | _ => simp [Kind.isFunction]

theorem isCallInPlace_iff {t : Tree} : isCallInPlace t = true ↔ CallsInPlace t := by
  constructor
  · intro h
    rw [isCallInPlace] at h
    split at h
    · next optional callee rest hk hparts =>
      obtain ⟨hcallee, hf⟩ := Bool.and_eq_true_iff.1 h
      exact ⟨optional, callee, rest, unparenthesized callee, hk, hparts, eq_of_beq hcallee,
        peels_unparenthesized callee, isFunctionExpression_iff.1 hf⟩
    · cases h
  · rintro ⟨optional, callee, rest, f, hk, hparts, hcallee, hpeels, hf⟩
    have hfk : f.kind ≠ .parenthesized := fun h => by rw [h] at hf; cases hf
    obtain rfl := hpeels.eq_unparenthesized hfk
    simp only [isCallInPlace, hk, hparts, hcallee, isFunctionExpression_iff.2 hf, BEq.rfl,
      Bool.and_self]

theorem isEntryReturn_iff {t : Tree} : isEntryReturn t = true ↔ ReturnsCallInPlace t := by
  rw [isEntryReturn, Bool.and_eq_true_iff, beq_iff_eq, List.any_eq_true]
  refine and_congr_right fun _ => exists_congr fun value => and_congr_right fun _ => ?_
  constructor
  · exact fun h => ⟨_, peels_unparenthesized value, isCallInPlace_iff.1 h⟩
  · rintro ⟨call, hpeels, hcall⟩
    obtain rfl := hpeels.eq_unparenthesized hcall.not_parenthesized
    exact isCallInPlace_iff.2 hcall

instance (t : Tree) : Decidable (ReturnsCallInPlace t) :=
  decidable_of_iff _ isEntryReturn_iff

/-! ## Values -/

open Kind

def isPieceOfValue : KindClass
  | .template _ | .templateText | .hole | .spread _ | .rest _ | .call _ => true
  | .property .. | .patternProperty .. | .targetProperty .. => true
  | _ => false

def isValuePart (k : Kind) : Bool :=
  k.isMemberKey || k.isTargetElement || k.isBindingElement || isPieceOfValue k

section

variable {p : Kind}

@[grind →]
theorem isValuePart_of_isMemberKey (h : p.isMemberKey = true) : isValuePart p = true := by
  simp only [isValuePart, h, Bool.true_or]

@[grind →]
theorem isValuePart_of_isExpression (h : p.isExpression = true) : isValuePart p = true :=
  isValuePart_of_isMemberKey (isMemberKey_of_isExpression h)

@[grind →]
theorem isValuePart_of_isOperand (h : p.isOperand = true) : isValuePart p = true := by
  rcases Bool.or_eq_true_iff.1 h with hexpression | hcall
  · exact isValuePart_of_isExpression hexpression
  · rw [eq_of_beq hcall]
    rfl

@[grind →]
theorem isValuePart_of_isPlainName (h : p.isPlainName = true) : isValuePart p = true :=
  isValuePart_of_isExpression (isExpression_of_isPlainName h)

@[grind →]
theorem isValuePart_of_isTargetElement (h : p.isTargetElement = true) : isValuePart p = true := by
  simp only [isValuePart, h, Bool.true_or, Bool.or_true]

@[grind →]
theorem isValuePart_of_isTarget (h : p.isTarget = true) : isValuePart p = true :=
  isValuePart_of_isTargetElement (isTargetElement_of_isTarget h)

@[grind →]
theorem isValuePart_of_isSimpleTarget (h : p.isSimpleTarget = true) : isValuePart p = true :=
  isValuePart_of_isTarget (isTarget_of_isSimpleTarget h)

@[grind →]
theorem isValuePart_of_isBindingElement (h : p.isBindingElement = true) :
    isValuePart p = true := by
  simp only [isValuePart, h, Bool.true_or, Bool.or_true]

@[grind →]
theorem isValuePart_of_isPattern (h : p.isPattern = true) : isValuePart p = true :=
  isValuePart_of_isBindingElement (isBindingElement_of_isPattern h)

@[grind →]
theorem isValuePart_of_isProperty (h : p.isProperty = true) : isValuePart p = true := by
  cases p <;> first | rfl | cases h

@[grind →]
theorem isValuePart_of_isPatternProperty (h : p.isPatternProperty = true) :
    isValuePart p = true := by
  cases p <;> first | rfl | cases h

@[grind →]
theorem isValuePart_of_isTargetProperty (h : p.isTargetProperty = true) :
    isValuePart p = true := by
  cases p <;> first | rfl | cases h

@[grind →]
theorem isValuePart_of_isSpread {place : DotsPlace} (h : p.isSpread place = true) :
    isValuePart p = true := by
  rw [eq_of_beq h]
  rfl

@[grind →]
theorem isValuePart_of_isRest {place : DotsPlace} (h : p.isRest place = true) :
    isValuePart p = true := by
  rw [eq_of_beq h]
  rfl

end

/-- Below a value stand values, down to functions and classes. -/
theorem isValuePart_of_mentions {k p : Kind} (hk : isValuePart k = true)
    (hown : isOwnScope k = false) (h : k.content.mentions p = true) : isValuePart p = true := by
  cases k with
  | function place | classDefinition place =>
    cases place <;> first | (cases hk; done) | cases hown
  | property form computed shorthand | targetProperty computed shorthand =>
    cases shorthand <;>
      simp only [content, Content.mentions, Bool.or_eq_true] at h <;>
      grind [isValuePart, isPieceOfValue, isMemberKey, isExpression]
  | _ =>
    first
    | (cases hk; done)
    | (cases hown; done)
    | simp only [content, Content.mentions, List.any_cons, List.any_nil, Bool.or_eq_true] at h
      grind [isValuePart, isPieceOfValue, isMemberKey, isExpression]

theorem ne_return_of_isValuePart {k : Kind} (h : isValuePart k = true) : k ≠ .returnStatement := by
  rintro rfl
  cases h

/-! ## Counting -/

open PluginAudit.Script.Tree

def IsOpen (o : Occurrence) : Prop := ∀ k ∈ o.around, isOwnScope k = false

instance (o : Occurrence) : Decidable (IsOpen o) :=
  inferInstanceAs (Decidable (∀ k ∈ o.around, isOwnScope k = false))

def IsCounted (o : Occurrence) : Prop := ReturnsCallInPlace o.node ∧ IsOpen o

instance (o : Occurrence) : Decidable (IsCounted o) :=
  inferInstanceAs (Decidable (ReturnsCallInPlace o.node ∧ IsOpen o))

def countedIn (around : List Kind) (t : Tree) : Nat :=
  (t.occurrences around).countP (IsCounted ·)

theorem countedIn_eq (around : List Kind) (t : Tree) :
    countedIn around t = (t.parts.map (countedIn (t.kind :: around))).sum +
      if IsCounted ⟨around, t⟩ then 1 else 0 := by
  rw [countedIn, occurrences_eq, List.countP_cons, List.countP_flatMap]
  simp only [decide_eq_true_eq]
  rfl

theorem countedIn_of_closed {around : List Kind} {k : Kind} (hk : k ∈ around)
    (hown : isOwnScope k = true) (t : Tree) : countedIn around t = 0 := by
  rw [countedIn, List.countP_eq_zero]
  intro o ho hcounted
  have hopen := (of_decide_eq_true hcounted).2 k (mem_around_of_mem ho hk)
  rw [hown] at hopen
  cases hopen

theorem sum_countedIn_eq_zero {around : List Kind} {ts : List Tree}
    (h : ∀ t ∈ ts, countedIn around t = 0) : (ts.map (countedIn around)).sum = 0 := by
  rw [List.sum_eq_zero_iff_forall_eq_nat]
  intro n hn
  obtain ⟨t, ht, rfl⟩ := List.mem_map.1 hn
  exact h t ht

/-- There is no return below a value but those of functions and classes. -/
theorem countedIn_of_isValuePart {around : List Kind} {t : Tree} (hwf : t.WellFormed)
    (hvalue : isValuePart t.kind = true) : countedIn around t = 0 := by
  induction t using induct generalizing around with
  | step t ih =>
    have hself : ¬ IsCounted ⟨around, t⟩ := fun h => ne_return_of_isValuePart hvalue h.1.1
    rw [countedIn_eq, if_neg hself, Nat.add_zero]
    apply sum_countedIn_eq_zero
    intro p hp
    cases hown : isOwnScope t.kind with
    | true => exact countedIn_of_closed (List.mem_cons_self ..) hown p
    | false =>
      have hpart := isValuePart_of_mentions hvalue hown (hwf.mentions hp)
      exact ih p hp (hwf.of_mem_parts hp) hpart

theorem count_eq (t : Tree) : count t =
    if t.kind = .returnStatement then if ReturnsCallInPlace t then 1 else 0
    else if isOwnScope t.kind = true then 0 else (t.parts.map count).sum := by
  have hall (ts : List Tree) : countAll ts = (ts.map count).sum := by
    induction ts with
    | nil => rfl
    | cons t ts ih => rw [countAll, ih, List.map_cons, List.sum_cons]
  cases t
  rw [count, hall]
  exact if_congr beq_iff_eq (if_congr isEntryReturn_iff rfl rfl) rfl

theorem count_eq_countedIn {around : List Kind} {t : Tree} (hwf : t.WellFormed)
    (hopen : ∀ k ∈ around, isOwnScope k = false) : count t = countedIn around t := by
  induction t using induct generalizing around with
  | step t ih =>
    rw [count_eq, countedIn_eq]
    by_cases hreturn : t.kind = .returnStatement
    · -- what is returned is a value, so nothing below counts
      have hparts : (t.parts.map (countedIn (t.kind :: around))).sum = 0 := by
        apply sum_countedIn_eq_zero
        intro p hp
        have hmentions := hwf.mentions hp
        rw [hreturn] at hmentions
        have hexpression : p.kind.isExpression = true := by
          simpa [content, Content.mentions] using hmentions
        exact countedIn_of_isValuePart (hwf.of_mem_parts hp)
          (isValuePart_of_isExpression hexpression)
      rw [if_pos hreturn, hparts, Nat.zero_add]
      exact if_congr ⟨fun h => ⟨h, hopen⟩, And.left⟩ rfl rfl
    · have hself : ¬ IsCounted ⟨around, t⟩ := fun h => hreturn h.1.1
      rw [if_neg hreturn, if_neg hself, Nat.add_zero]
      cases hown : isOwnScope t.kind with
      | true =>
        rw [if_pos rfl, eq_comm]
        exact sum_countedIn_eq_zero fun p _ =>
          countedIn_of_closed (List.mem_cons_self ..) hown p
      | false =>
        rw [if_neg Bool.false_ne_true]
        apply congrArg
        apply List.map_congr_left
        intro p hp
        exact ih p hp (hwf.of_mem_parts hp) (List.forall_mem_cons.2 ⟨hown, hopen⟩)

/-! ## Scopes -/

/-- Functions, arrow functions, methods and classes, however they came to be where they are. -/
def isScope : KindClass
  | .function .. | .arrow _ | .method | .classDefinition _ => true
  | _ => false

/-- The scopes that the walk enters: what an `export` declares, and methods of classes. -/
def isEntered : KindClass
  | .function place .. | .classDefinition place => place == .export || place == .method
  | .method => true
  | _ => false

theorem isOwnScope_eq (k : Kind) : isOwnScope k = (isScope k && !isEntered k) := by
  cases k with
  | function place | classDefinition place => cases place <;> rfl
  | _ => rfl

def IsTopLevel (o : Occurrence) : Prop := ∀ k ∈ o.around, isScope k = false

/-- An exported function or class is around the place, and no scope but such and methods. -/
def IsWithinExport (o : Occurrence) : Prop :=
  (∃ k ∈ o.around, k.isExported = true) ∧ ∀ k ∈ o.around, isScope k = true → isEntered k = true

instance (o : Occurrence) : Decidable (IsTopLevel o) :=
  inferInstanceAs (Decidable (∀ k ∈ o.around, isScope k = false))

instance (o : Occurrence) : Decidable (IsWithinExport o) :=
  inferInstanceAs (Decidable ((∃ k ∈ o.around, k.isExported = true) ∧
    ∀ k ∈ o.around, isScope k = true → isEntered k = true))

theorem isScope_of_isExported {k : Kind} (h : k.isExported = true) : isScope k = true := by
  cases k <;> first | rfl | cases h

/-- Methods stand in classes and their functions in methods. -/
theorem scope_of_mentions {parent k : Kind} (hscope : isScope k = true)
    (h : parent.content.mentions k = true) :
    isOwnScope k = true ∨ k.isExported = true ∨ isScope parent = true := by
  cases k with
  | function place async generator =>
    cases place with
    | statement | expression => exact .inl rfl
    | «export» => exact .inr (.inl rfl)
    | method => exact .inr (.inr (by rw [method_of_mentions h]; rfl))
  | classDefinition place =>
    cases place with
    | statement | expression => exact .inl rfl
    | «export» => exact .inr (.inl rfl)
    | method => rw [not_mentions_classDefinition_method] at h; cases h
  | method =>
    obtain ⟨place, rfl⟩ := classDefinition_of_mentions h
    exact .inr (.inr rfl)
  | arrow async => exact .inl rfl
  | _ => cases hscope

/-- Scopes have an own scope or an export among them. -/
def IsPlaced (around : List Kind) : Prop :=
  (∃ k ∈ around, isScope k = true) → ∃ k ∈ around, isOwnScope k = true ∨ k.isExported = true

theorem IsPlaced.cons {around : List Kind} {k : Kind} (h : IsPlaced around)
    (hk : isScope k = true → isOwnScope k = true ∨ k.isExported = true ∨
      ∃ parent ∈ around, isScope parent = true) : IsPlaced (k :: around) := by
  have hlift : (∃ k ∈ around, isScope k = true) →
      ∃ j ∈ k :: around, isOwnScope j = true ∨ j.isExported = true := by
    intro hscope
    obtain ⟨j, hj, hplaced⟩ := h hscope
    exact ⟨j, List.mem_cons_of_mem _ hj, hplaced⟩
  rintro ⟨j, hj, hscope⟩
  rcases List.mem_cons.1 hj with rfl | hj
  · rcases hk hscope with hown | hexported | hparent
    · exact ⟨j, List.mem_cons_self .., .inl hown⟩
    · exact ⟨j, List.mem_cons_self .., .inr hexported⟩
    · exact hlift hparent
  · exact hlift ⟨j, hj, hscope⟩

theorem isPlaced_of_mem {around : List Kind} {t : Tree} (hwf : t.WellFormed)
    (haround : IsPlaced around) (ht : IsPlaced (t.kind :: around)) {o : Occurrence}
    (ho : o ∈ t.occurrences around) : IsPlaced o.around := by
  induction t using induct generalizing around with
  | step t ih =>
    rw [occurrences_eq] at ho
    rcases List.mem_cons.1 ho with rfl | ho
    · exact haround
    · obtain ⟨p, hp, ho⟩ := List.mem_flatMap.1 ho
      refine ih p hp (hwf.of_mem_parts hp) ht (ht.cons fun hscope => ?_) ho
      rcases scope_of_mentions hscope (hwf.mentions hp) with hown | hexported | hparent
      · exact .inl hown
      · exact .inr (.inl hexported)
      · -- methods and their functions owe their place to the class around
        exact .inr (.inr ⟨t.kind, List.mem_cons_self .., hparent⟩)

theorem isPlaced_nil : IsPlaced [] :=
  fun ⟨_, hk, _⟩ => absurd hk List.not_mem_nil

theorem isPlaced_of_program {t : Tree} (ht : t.IsA (· == .program)) {o : Occurrence}
    (ho : o ∈ t.occurrences []) : IsPlaced o.around := by
  refine isPlaced_of_mem ht.wellFormed isPlaced_nil (isPlaced_nil.cons fun hscope => ?_) ho
  rw [eq_of_beq ht.kind] at hscope
  cases hscope

theorem isOpen_iff {o : Occurrence} (hplaced : IsPlaced o.around) :
    IsOpen o ↔ IsTopLevel o ∨ IsWithinExport o := by
  constructor
  · intro h
    by_cases htop : IsTopLevel o
    · exact .inl htop
    · simp only [IsTopLevel, not_forall, Bool.not_eq_false] at htop
      obtain ⟨k, hk, hscope⟩ := htop
      obtain ⟨j, hj, hown | hexported⟩ := hplaced ⟨k, hk, hscope⟩
      · rw [h j hj] at hown
        cases hown
      · refine .inr ⟨⟨j, hj, hexported⟩, fun i hi hi_scope => ?_⟩
        have hnot := h i hi
        rw [isOwnScope_eq, hi_scope, Bool.true_and, Bool.not_eq_false'] at hnot
        exact hnot
  · rintro (h | ⟨_, h⟩) k hk
    · rw [isOwnScope_eq, h k hk, Bool.false_and]
    · cases hscope : isScope k with
      | true => rw [isOwnScope_eq, h k hk hscope, Bool.not_true, Bool.and_false]
      | false => rw [isOwnScope_eq, hscope, Bool.false_and]

theorem not_isTopLevel_of_isWithinExport {o : Occurrence} (h : IsWithinExport o) :
    ¬ IsTopLevel o := by
  obtain ⟨⟨k, hk, hexported⟩, _⟩ := h
  intro htop
  have hscope := isScope_of_isExported hexported
  rw [htop k hk] at hscope
  cases hscope

def topLevelReturns (t : Tree) : Nat :=
  (t.occurrences []).countP fun o => ReturnsCallInPlace o.node ∧ IsTopLevel o

def exportedReturns (t : Tree) : Nat :=
  (t.occurrences []).countP fun o => ReturnsCallInPlace o.node ∧ IsWithinExport o

theorem count_eq_add {t : Tree} (ht : t.IsA (· == .program)) :
    count t = topLevelReturns t + exportedReturns t := by
  have hnone : ∀ k ∈ ([] : List Kind), isOwnScope k = false := nofun
  rw [count_eq_countedIn ht.wellFormed hnone, countedIn,
    List.countP_eq_countP_filter_add _ _ (IsTopLevel ·), List.countP_filter, List.countP_filter]
  refine congrArg₂ _ (List.countP_congr fun o ho => ?_) (List.countP_congr fun o ho => ?_)
  all_goals
    have hopen := isOpen_iff (isPlaced_of_program ht ho)
    have hdisjoint := not_isTopLevel_of_isWithinExport (o := o)
    simp only [IsCounted, hopen, Bool.and_eq_true, Bool.not_eq_true', decide_eq_true_eq,
      decide_eq_false_iff_not]
    grind

end EntryPoint

open EntryPoint

/-- In a script with `return` at top level, the entry points counted are the returns of calls in
place at top level and those within exports, so that the count is right exactly if exports have
none. -/
theorem scan_counts_exports {text : List Char} {tree : Tree} (hread : read true text = .ok tree) :
    scanEntryPoints text = ⟨topLevelReturns tree + exportedReturns tree, .syntaxTree⟩ ∧
    ((∃ r, (scanEntryPoints text).enforce = .ok r) ↔
      topLevelReturns tree + exportedReturns tree = 1) ∧
    ((scanEntryPoints text).count = topLevelReturns tree ↔ exportedReturns tree = 0) := by
  have hscan : scanEntryPoints text =
      ⟨topLevelReturns tree + exportedReturns tree, .syntaxTree⟩ := by
    rw [scanEntryPoints, hread, ← count_eq_add (isProgram_of_read hread)]
  refine ⟨hscan, ?_, ?_⟩
  · rw [EntryScan.enforce_isOk_iff, hscan]
  · rw [hscan]
    exact Nat.add_eq_left

theorem scan_counts_block_return :
    scanEntryPoints "if (a) \x7b return ((function () \x7b\x7d)()); \x7d".toList =
      ⟨1 + 0, .syntaxTree⟩ := by
  obtain ⟨tree, hread, hcheck⟩ :=
    exists_read true "if (a) \x7b return ((function () \x7b\x7d)()); \x7d".toList
      (fun t => topLevelReturns t = 1 ∧ exportedReturns t = 0) (by decide +kernel)
  obtain ⟨htop, hexported⟩ := of_decide_eq_true hcheck
  have hscan := (scan_counts_exports hread).1
  rwa [htop, hexported] at hscan

/-- The return of an exported function is taken for an entry point. -/
theorem scan_counts_exported_function :
    ∃ tree, read true "export function f() \x7b return (function () \x7b\x7d)(); \x7d".toList =
        .ok tree ∧ topLevelReturns tree = 0 ∧
      (scanEntryPoints
        "export function f() \x7b return (function () \x7b\x7d)(); \x7d".toList).count = 1 := by
  obtain ⟨tree, hread, hcheck⟩ :=
    exists_read true "export function f() \x7b return (function () \x7b\x7d)(); \x7d".toList
      (fun t => topLevelReturns t = 0 ∧ count t = 1) (by decide +kernel)
  obtain ⟨htop, hcount⟩ := of_decide_eq_true hcheck
  refine ⟨tree, hread, htop, ?_⟩
  rw [scanEntryPoints, hread]
  exact hcount

end PluginAudit.Plugin
