import PluginAudit.Proofs.Grammar.Modules
import PluginAudit.Script.Program

/-!
# Reading scripts

Whatever is read is a well-formed tree, and a text that is a script without `return` outside
functions is the same script where this is permitted.
-/

namespace PluginAudit.Script

open Kind PluginAudit.Script.Tree

namespace Reads

variable {rules : Rules}

theorem ofPlain {r : Reader Tree} (h : Reads true r (·.IsA isPlainStatement)) :
    Reads true r (·.IsA isStatement) :=
  h.mono fun _ ht => ht.weaken fun _ => isStatement_of_isPlainStatement

theorem labelledOrExpression (h : rules.Sound) :
    Reads true (Grammar.labelledOrExpression rules) (·.IsA isStatement) := by
  refine start.seq fun _ => (expression h).bind fun e he => (at_ _).seq fun _ => ?_
  refine ite (fun hn => ?_) ?_
  · have hname := he.ofName (Bool.and_eq_true_iff.1 hn).1 id
    refine advance.seq fun _ => (bodyStatement h).bind fun body hbody => ?_
    exact node (.first hname (.first hbody .none)) rfl
  · exact fun _ => (expressionStatement he).ofPlain

theorem statement (h : rules.Sound) (inBody : Bool) :
    Reads true (Grammar.statement rules inBody) (·.IsA isStatement) := by
  refine start.seq fun start => (decorators h).seq fun _ => atFunction.seq fun _ => ?_
  refine ite (fun _ => ?_) ?_
  · exact (functionStatement h inBody).ofPlain
  refine fun _ => atUsing.seq fun _ => ite (fun _ => (usingStatement h).ofPlain) fun _ => ?_
  apply cur.seq
  intro t
  have hdeclaration : Reads true (Grammar.declaration rules (.statement inBody) t.start)
      (·.IsA isStatement) :=
    (declaration h _ _).mono fun d hd => hd.weaken fun _ => isStatement_of_isDeclaration
  split
  · exact (block h).mono fun b hb => hb.weaken fun k hk => by rw [eq_of_beq hk]; rfl
  · exact leaf .none rfl
  · exact ifStatement h
  · exact doLoop h
  · exact whileLoop h
  · exact forStatement h
  · exact jumpStatement.ofPlain
  · exact jumpStatement.ofPlain
  · exact returnStatement h
  · exact withStatement h
  · exact switchStatement h
  · exact (throwStatement h).ofPlain
  · exact tryStatement h
  · exact debuggerStatement.ofPlain
  · exact (classStatement h inBody start).ofPlain
  · exact (exportDeclaration h).ofPlain
  · exact hdeclaration
  · exact hdeclaration
  · exact ite (fun _ => labelledOrExpression h) fun _ => (letStatement h inBody).ofPlain
  · exact peek.seq fun _ => ite (fun _ => labelledOrExpression h) fun _ => importDeclaration.ofPlain
  · exact labelledOrExpression h

end Reads

open Reads

theorem rules_sound (n : Nat) : (Grammar.rules n).Sound := by
  induction n with
  | zero =>
    -- at no depth every rule stops
    constructor <;> intros <;> exact throw _
  | succ n ih =>
    exact {
      assignment := assignmentExpression ih
      binary := binaryExpression ih
      unary := unary ih
      operand := operand ih
      primary := primary ih
      pattern := pattern ih
      type := typeExpression ih _
      statement := statement ih _ }

theorem Reads.program {rules : Rules} (h : rules.Sound) :
    Reads true (Grammar.program rules) (·.IsA (· == .program)) := by
  apply cur.seq
  intro t
  extract_lets withBang
  have hwithBang : ∀ bang, AllAre bang (· == .hashbang) →
      Reads true (withBang bang) (·.IsA (· == .program)) := by
    intro bang hbang
    refine (statements h false).bind fun items hitems => node (.after (.append ?_ ?_)) rfl
    · exact hbang.weaken fun k hk => by rw [hk, Bool.true_or]
    · exact hitems.weaken fun k hk => by rw [hk, Bool.or_true]
  clear_value withBang
  refine ite (fun _ => ?_) fun _ => give (hwithBang _ .nil)
  exact (leaf (k := .hashbang) .none rfl).bind fun b hb => give (hwithBang _ (.singleton hb))

/-! ## Reading a text -/

theorem tidy_ofText (c : Context) (text : List Char) : (ReadState.ofText c text).Tidy :=
  nofun

theorem relaxed_ofText (text : List Char) :
    (ReadState.ofText (Context.script false) text).relaxed true [] =
      ReadState.ofText (Context.script true) text :=
  rfl

theorem read_eq_ok {allowReturn : Bool} {text : List Char} {t : Tree} :
    read allowReturn text = .ok t ↔
      ∃ s, Grammar.program (Grammar.rules (Grammar.depth text))
          (ReadState.ofText (Context.script allowReturn) text) = .ok t s ∧ s.reported [] = [] := by
  rw [read]
  constructor
  · intro h
    split at h
    · next tree s hrun =>
      split at h
      · next hfaults =>
        obtain rfl : tree = t := Except.ok.inj h
        exact ⟨s, hrun, hfaults⟩
      · cases h
    · cases h
    · cases h
  · rintro ⟨s, hrun, hfaults⟩
    simp only [hrun, hfaults]

theorem allFaults_eq_nil {s : ReadState} {last : List FaultAt} :
    s.reported last = [] ↔ s.allFaults last = [] := by
  rw [ReadState.reported]
  constructor
  · intro h
    split at h
    · cases h
    · exact h
  · intro h
    simp only [h]

theorem isProgram_of_read {allowReturn : Bool} {text : List Char} {t : Tree}
    (h : read allowReturn text = .ok t) : t.IsA (· == .program) := by
  obtain ⟨s, hrun, _⟩ := read_eq_ok.1 h
  obtain ⟨_, hgives, _⟩ := Reads.program (rules_sound (Grammar.depth text)) _
    (tidy_ofText (Context.script allowReturn) text) true [] fun _ => rfl
  rw [hrun] at hgives
  exact hgives

/-- Permitting `return` outside functions takes nothing away. -/
theorem read_true_of_read_false {text : List Char} {t : Tree} (h : read false text = .ok t) :
    read true text = .ok t := by
  obtain ⟨s, hrun, hfaults⟩ := read_eq_ok.1 h
  obtain ⟨more, _, hleads, heq⟩ := Reads.program (rules_sound (Grammar.depth text)) _
    (tidy_ofText (Context.script false) text) true [] fun _ => rfl
  obtain ⟨new, hnew, hsub, _⟩ := hleads.faults
  rw [relaxed_ofText, hrun] at heq
  rw [hrun] at hnew
  have hall : s.allFaults [] = [] := allFaults_eq_nil.1 hfaults
  simp only [ReadState.allFaults, List.append_eq_nil_iff, List.reverse_eq_nil_iff,
    List.map_eq_nil_iff] at hall
  obtain ⟨⟨hlexer, hgrammar, _⟩, hloose⟩ := hall
  -- the run without the permission noted nothing, and the other one notes no others
  have hnil : new = [] := by
    have hs : s.faults = new ++ [] := hnew
    rwa [hgrammar, List.append_nil, eq_comm] at hs
  have hmore : more = [] := List.sublist_nil.1 (hnil ▸ hsub)
  refine read_eq_ok.2 ⟨s.relaxed true (more ++ []), heq, allFaults_eq_nil.2 ?_⟩
  rw [hmore, ReadState.allFaults]
  change s.scan.faults.reverse ++ ([] ++ []) ++ s.loose.map _ = []
  rw [hlexer, hloose]
  rfl

theorem exists_read (allowReturn : Bool) (text : List Char) (check : Tree → Bool)
    (h : (read allowReturn text).toOption.any check = true) :
    ∃ t, read allowReturn text = .ok t ∧ check t = true := by
  cases hread : read allowReturn text with
  | ok t =>
    rw [hread] at h
    exact ⟨t, rfl, h⟩
  | error e =>
    rw [hread] at h
    cases h

theorem not_read {allowReturn : Bool} {text : List Char}
    (h : (read allowReturn text).toOption.isNone = true) (t : Tree) :
    read allowReturn text ≠ .ok t := by
  intro hread
  rw [hread] at h
  cases h

end PluginAudit.Script
