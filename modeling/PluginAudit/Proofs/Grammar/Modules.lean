import PluginAudit.Proofs.Grammar.Statements
import PluginAudit.Script.Grammar.Modules

/-!
# Reading imports and exports
-/

namespace PluginAudit.Script

open Kind PluginAudit.Script.Tree

namespace Reads

variable {x : Bool} {rules : Rules}

theorem isInterfaceName_of_isPlainName {k : Kind} (h : k.isPlainName = true) :
    k.isInterfaceName = true := by
  rw [isInterfaceName, h, Bool.true_or]

theorem isInterfaceName_of_isStringLiteral {k : Kind} (h : k.isStringLiteral = true) :
    k.isInterfaceName = true := by
  rw [isInterfaceName, h, Bool.or_true]

theorem stringName : Reads x Grammar.stringName (·.IsA isStringLiteral) := by
  refine cur.seq fun t => stringLiteral.bind fun name hname => ?_
  extract_lets finish
  have hfinish : Reads x (finish ()) (·.IsA isStringLiteral) := pure hname
  clear_value finish
  exact ite (fun _ => (complain _ _).seq fun _ => hfinish) fun _ => hfinish

theorem interfaceName : Reads x Grammar.interfaceName (·.IsA isInterfaceName) := by
  refine curKind.seq fun _ => ite (fun _ => ?_) fun _ => ?_
  · exact stringName.mono fun s hs => hs.weaken fun _ => isInterfaceName_of_isStringLiteral
  · exact nameText.mono fun n hn => hn.weaken fun _ => isInterfaceName_of_isPlainName

/-! ## Imports -/

theorem importAttribute : Reads x Grammar.importAttribute (·.IsA (· == .attribute)) := by
  refine start.seq fun _ => curKind.seq fun _ => ?_
  extract_lets named
  have hnamed : ∀ name, name.IsA isInterfaceName → Reads x (named name) (·.IsA (· == .attribute)) :=
    fun name hname => (expect _).seq fun _ => stringLiteral.bind fun value hvalue =>
      node (.first hname (.first hvalue .none)) rfl
  clear_value named
  refine ite (fun _ => stringLiteral.bind fun s hs => ?_) fun _ => nameText.bind fun n hn => ?_
  · exact hnamed _ (hs.weaken fun _ => isInterfaceName_of_isStringLiteral)
  · exact hnamed _ (hn.weaken fun _ => isInterfaceName_of_isPlainName)

theorem importAttributes : Reads x Grammar.importAttributes (AllAre · (· == .attribute)) := by
  refine cur.seq fun _ => ite (fun _ => pure .nil) fun _ => ?_
  refine advanceName.seq fun _ => (expect _).seq fun _ => ?_
  exact (list importAttribute).bind fun _ hitems => (expect _).seq fun _ => pure hitems

theorem importSpecifier : Reads x Grammar.importSpecifier (·.IsA (· == .specifier)) := by
  refine start.seq fun _ => (peekAt _).seq fun _ => ite (fun _ => ?_) fun _ => ?_
  · refine interfaceName.bind fun outer houter => (expect _).seq fun _ => ?_
    apply boundName.bind
    intro n hn
    have hname := hn.weaken fun _ => isInterfaceName_of_isPlainName
    exact node (.first houter (.optional hname .none)) rfl
  · refine boundName.bind fun n hn => node (.first (hn.weaken fun _ => ?_) .noOptional) rfl
    exact isInterfaceName_of_isPlainName

theorem importAll : Reads x Grammar.importAll (·.IsA (· == .specifier)) := by
  refine start.seq fun _ => (expect _).seq fun _ => (expect _).seq fun _ => ?_
  apply boundName.bind
  intro n hn
  exact node (.first (hn.weaken fun _ => isInterfaceName_of_isPlainName) .noOptional) rfl

theorem importNamed : Reads x Grammar.importNamed (AllAre · (· == .specifier)) :=
  (expect _).seq fun _ => (list importSpecifier).bind fun _ hitems => (expect _).seq fun _ =>
    pure hitems

theorem importSpecifiers : Reads x Grammar.importSpecifiers (AllAre · (· == .specifier)) := by
  refine cur.seq fun t => ite (fun _ => importAll.bind fun s hs => pure (.singleton hs)) fun _ => ?_
  refine ite (fun _ => importNamed) fun _ => boundName.bind fun name hname => ?_
  have hfits : Content.Fits (Kind.content .specifier) [name] :=
    .first (hname.weaken fun _ => isInterfaceName_of_isPlainName) .noOptional
  refine (node (c := (· == .specifier)) hfits rfl).bind fun first hfirst => (eat _).seq fun _ => ?_
  refine ite (fun _ => pure (.singleton hfirst)) fun _ => (at_ _).seq fun _ => ite (fun _ => ?_) ?_
  · exact importAll.bind fun s hs => pure (.cons hfirst (.singleton hs))
  · refine fun _ => (at_ _).seq fun _ => ite (fun _ => ?_) fun _ => unexpected
    exact importNamed.bind fun ss hss => pure (.cons hfirst hss)

theorem importDeclaration : Reads x Grammar.importDeclaration (·.IsA isPlainStatement) := by
  refine start.seq fun _ => advance.seq fun _ => curKind.seq fun _ => ?_
  extract_lets withItems
  have hwithItems : ∀ items, AllAre items (· == .specifier) →
      Reads x (withItems items) (·.IsA isPlainStatement) := by
    intro items hitems
    apply stringLiteral.bind
    intro source hsource
    apply importAttributes.bind
    intro attributes hattributes
    refine semicolon.seq fun _ => node (.before hitems ?_ (.first hsource (.after hattributes))) rfl
    exact notSpecifier_of_isStringLiteral hsource.kind
  clear_value withItems
  refine ite (fun _ => give (hwithItems _ .nil)) fun _ => ?_
  apply importSpecifiers.bind
  intro items hitems
  exact (expect _).seq fun _ => give (hwithItems _ hitems)

/-! ## Exports -/

theorem exportedName : Reads x Grammar.exportedName (·.2.IsA isInterfaceName) := by
  refine cur.seq fun t => ite (fun _ => stringName.bind fun s hs => ?_) fun _ => ?_
  · exact pure (hs.weaken fun _ => isInterfaceName_of_isStringLiteral)
  · extract_lets strict
    apply nameText.bind
    intro name hname
    have hname' := hname.weaken fun _ => isInterfaceName_of_isPlainName
    exact ite (fun _ => pure hname') fun _ => pure hname'

theorem exportSpecifier : Reads x Grammar.exportSpecifier (·.2.IsA (· == .specifier)) := by
  refine start.seq fun _ => exportedName.bind fun p hp => (eat _).seq fun _ => ?_
  have hone : Content.Fits (Kind.content .specifier) [p.2] := .first hp .noOptional
  refine ite (fun _ => interfaceName.bind fun outer houter => ?_) fun _ => ?_
  · have htwo : Content.Fits (Kind.content .specifier) [p.2, outer] :=
      .first hp (.optional houter .none)
    exact (node (c := (· == .specifier)) htwo rfl).bind fun t ht => pure ht
  · exact (node (c := (· == .specifier)) hone rfl).bind fun t ht => pure ht

/-- The trees beside the reasons why they cannot stand for variables. -/
def AreSpecifiers (pairs : List (Option FaultAt × Tree)) : Prop :=
  AllAre (pairs.map (·.2)) (· == .specifier)

theorem exportPairs : Reads x Grammar.exportPairs AreSpecifiers := by
  refine loop AreSpecifiers .nil fun items hitems => ?_
  have hdone : Reads x (Pure.pure (.inr items.reverse)) (Sum.elim AreSpecifiers AreSpecifiers) := by
    refine done fun t ht => hitems t ?_
    rwa [List.map_reverse, List.mem_reverse] at ht
  refine (at_ _).seq fun _ => atEnd.seq fun _ => ite (fun _ => hdone) fun _ => ?_
  extract_lets more
  have hmore : Reads x (more ()) (Sum.elim AreSpecifiers AreSpecifiers) :=
    exportSpecifier.bind fun p hp => again (AllAre.cons hp hitems)
  clear_value more
  refine ite (fun _ => (expect _).seq fun _ => (at_ _).seq fun _ => ?_) fun _ => hmore
  exact ite (fun _ => hdone) fun _ => hmore

theorem exportNames (start : Nat) :
    Reads x (Grammar.exportNames start) (·.IsA isPlainStatement) := by
  refine (expect _).seq fun _ => exportPairs.bind fun pairs hpairs => (expect _).seq fun _ => ?_
  apply (eat _).seq
  intro _
  extract_lets withSource
  have hwithSource : ∀ source, AllAre source isExportedPart →
      Reads x (withSource source) (·.IsA isPlainStatement) := by
    refine fun source hsource => semicolon.seq fun _ => node (.after (.append ?_ hsource)) rfl
    apply AllAre.weaken hpairs
    intro k hk
    rw [isExportedPart, hk, Bool.true_or, Bool.true_or, Bool.true_or, Bool.true_or]
  clear_value withSource
  refine ite (fun _ => ?_) fun _ => ?_
  · refine stringLiteral.bind fun s hs => importAttributes.bind fun attributes hattributes => ?_
    refine give (hwithSource _ (.cons (hs.weaken fun k hk => ?_) (hattributes.weaken fun k hk => ?_)))
    · rw [isExportedPart, hk, Bool.or_true, Bool.true_or, Bool.true_or, Bool.true_or]
    · rw [isExportedPart, hk, Bool.or_true, Bool.true_or, Bool.true_or]
  · refine (forIn_list fun p _ => ?_).seq fun _ => give (hwithSource _ .nil)
    refine (forIn_option fun f _ => ?_).seq fun _ => pure trivial
    exact (complain _ _).seq fun _ => pure trivial

theorem exportAll (start : Nat) : Reads x (Grammar.exportAll start) (·.IsA isPlainStatement) := by
  refine (expect _).seq fun _ => (eat _).seq fun _ => ?_
  extract_lets withName
  have hwithName : ∀ name, name = [] ∨ (∃ n, name = [n] ∧ n.IsA isInterfaceName) →
      Reads x (withName name) (·.IsA isPlainStatement) := by
    intro name hname
    refine (expect _).seq fun _ => stringLiteral.bind fun source hsource => ?_
    refine importAttributes.bind fun attributes hattributes => semicolon.seq fun _ => node ?_ rfl
    have hattributes' : AllAre attributes fun k => k.isStringLiteral || k == .attribute :=
      hattributes.weaken fun k hk => by rw [hk, Bool.or_true]
    rcases hname with rfl | ⟨n, rfl, hn⟩
    · have hname := hsource.weaken fun _ => isInterfaceName_of_isStringLiteral
      exact .first hname (.after hattributes')
    · refine .first hn (.after (.cons (hsource.weaken fun k hk => ?_) hattributes'))
      rw [hk, Bool.true_or]
  clear_value withName
  refine ite (fun _ => ?_) fun _ => give (hwithName _ (.inl rfl))
  exact interfaceName.bind fun n hn => give (hwithName _ (.inr ⟨n, rfl, hn⟩))

theorem exportedValue (h : rules.Sound) (start : Nat) :
    Reads x (Grammar.exportedValue rules start)
      (·.IsA fun k => k.isExpression || k.isExported) := by
  apply (at_ _).seq
  intro _
  refine ite (fun _ => ?_) fun _ => atFunction.seq fun _ => ite (fun _ => ?_) ?_
  · exact (classFrom h _ _).mono fun c hc => hc.weaken fun k hk => by
      rw [isExported, hk, Bool.or_true, Bool.or_true]
  · exact Reads.start.seq fun _ => (functionFrom h _ _ _).mono fun f hf => hf.weaken fun k hk => by
      rw [isExported, hk, Bool.true_or, Bool.or_true]
  · refine fun _ => h.assignment.bind fun e he => semicolon.seq fun _ => ?_
    exact pure (he.weaken fun k hk => by rw [hk, Bool.true_or])

theorem exportDefault (h : rules.Sound) (start : Nat) :
    Reads x (Grammar.exportDefault rules start) (·.IsA isPlainStatement) :=
  wordLeaf.bind fun _ hword => Reads.start.seq fun _ => (decorators h).seq fun _ =>
    (exportedValue h _).bind fun _ hvalue => node (.first hword (.first hvalue .none)) rfl

theorem exportedStatement (h : rules.Sound) (start : Nat) :
    Reads x (Grammar.exportedStatement rules start) (·.IsA isExportedPart) := by
  apply (at_ _).seq
  intro _
  refine ite (fun _ => ?_) fun _ => atFunction.seq fun _ => ite (fun _ => ?_) ?_
  · exact (classFrom h _ _).mono fun c hc => hc.weaken fun k hk => by
      rw [isExportedPart, isExported, hk, Bool.or_true, Bool.or_true]
  · exact Reads.start.seq fun _ => (functionFrom h _ _ _).mono fun f hf => hf.weaken fun k hk => by
      rw [isExportedPart, isExported, hk, Bool.true_or, Bool.or_true]
  · exact fun _ => (declaration h _ _).mono fun d hd => hd.weaken fun k hk => by
      rw [isExportedPart, hk, Bool.or_true, Bool.true_or]

theorem exportedDeclaration (h : rules.Sound) (start : Nat) :
    Reads x (Grammar.exportedDeclaration rules start) (·.IsA isPlainStatement) :=
  Reads.start.seq fun _ => (decorators h).seq fun _ => (exportedStatement h _).bind fun _ hvalue =>
    node (.after (.singleton hvalue)) rfl

theorem exportDeclaration (h : rules.Sound) :
    Reads x (Grammar.exportDeclaration rules) (·.IsA isPlainStatement) := by
  refine start.seq fun start => advance.seq fun _ => (at_ _).seq fun _ => ?_
  refine ite (fun _ => ?_) fun _ => ?_
  · exact exportDefault h start
  refine (at_ _).seq fun _ => ite (fun _ => exportAll start) fun _ => (at_ _).seq fun _ => ?_
  exact ite (fun _ => exportNames start) fun _ => exportedDeclaration h start

end Reads

end PluginAudit.Script
